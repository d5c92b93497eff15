import MiGate.Go.Time
import Mathlib.Order.Monotone.Basic
import Mathlib.Order.SuccPred.Basic
import Mathlib.Tactic.Tauto
import Mathlib.Tactic.Zify

namespace MiGate.Go

/-! The order of times as `rfc3339Nano` texts: between the years 0 and 9999 a whole second
stands before a time exactly when it lies before that time's second. -/

/-! ### Days and dates -/

/-- The year of a day counted within its 400 years, and the day it falls on within the year. -/
private theorem yearOfEra_spec {day : Int} (lower : 0 ≤ day) (upper : day < 146097) :
    let year := (day - day / 1460 + day / 36524 - day / 146096) / 365
    0 ≤ year ∧ year ≤ 399 ∧ 365 * year + year / 4 - year / 100 ≤ day ∧
      (day < 365 * (year + 1) + (year + 1) / 4 - (year + 1) / 100 ∨ year = 399) := by
  intro year
  obtain ⟨cycle, rest, split, restLower, restUpper⟩ :
      ∃ cycle rest, day = 1460 * cycle + rest ∧ 0 ≤ rest ∧ rest < 1460 :=
    ⟨day / 1460, day % 1460, by omega⟩
  obtain ⟨century, days, centurySplit, daysLower, daysUpper⟩ :
      ∃ century days, day = 36524 * century + days ∧ 0 ≤ days ∧ days < 36524 :=
    ⟨day / 36524, day % 36524, by omega⟩
  have cycleEq : day / 1460 = cycle := by omega
  have centuryEq : day / 36524 = century := by omega
  have yearEq : year = (day - cycle + century - day / 146096) / 365 := by omega
  have cycles : 25 * century ≤ cycle ∧ cycle ≤ 25 * century + 25 := by omega
  clear_value year
  have quarter : year / 4 = cycle ∨ year / 4 = cycle - 1 := by omega
  have centuries : century = 0 ∨ century = 1 ∨ century = 2 ∨ century = 3 ∨ century = 4 := by omega
  have hundred : year / 100 = century - day / 146096 := by
    rcases centuries with h | h | h | h | h <;> subst h <;> omega
  have next : (year + 1) / 4 = year / 4 ∨ (year + 1) / 4 = year / 4 + 1 := by omega
  refine ⟨by omega, by omega, ?_, ?_⟩
  · rcases quarter with quarter | quarter <;> omega
  · rcases quarter with quarter | quarter <;> rcases next with next | next <;> omega

/-- The day number of the first of March of a year. -/
def marchFirst (year : Int) : Int :=
  365 * year + year / 4 - year / 100 + year / 400

theorem marchFirst_succ (year : Int) :
    marchFirst year + 365 ≤ marchFirst (year + 1) ∧ marchFirst (year + 1) ≤ marchFirst year + 366 := by
  unfold marchFirst
  omega

theorem marchFirst_mono {left right : Int} (earlier : left ≤ right) : marchFirst left ≤ marchFirst right := by
  have monotone : Monotone marchFirst := monotone_int_of_le_succ fun year => by
    have := marchFirst_succ year
    omega
  exact monotone earlier

theorem marchFirst_era (year era : Int) : marchFirst (year + era * 400) = marchFirst year + 146097 * era := by
  unfold marchFirst
  omega

/-- A day read as a year that begins in March and a day within it. -/
structure YearDay (day year dayOfYear : Int) : Prop where
  split : day + 719468 = marchFirst year + dayOfYear
  nonneg : 0 ≤ dayOfYear
  within : day + 719468 < marchFirst (year + 1)
  date : civilDate day =
    let month := (5 * dayOfYear + 2) / 153
    (if month < 10 then year else year + 1, if month < 10 then month + 3 else month - 9,
      dayOfYear - (153 * month + 2) / 5 + 1)

theorem yearDay_exists (day : Int) : ∃ year dayOfYear, YearDay day year dayOfYear := by
  obtain ⟨era, dayOfEra, split, lower, upper⟩ :
      ∃ era dayOfEra, day + 719468 = 146097 * era + dayOfEra ∧ 0 ≤ dayOfEra ∧ dayOfEra < 146097 :=
    ⟨(day + 719468) / 146097, (day + 719468) % 146097, by omega⟩
  have eraEq : (day + 719468) / 146097 = era := by omega
  have dayEq : (day + 719468) % 146097 = dayOfEra := by omega
  obtain ⟨nonneg, bound, start, finish⟩ := yearOfEra_spec lower upper
  have date : civilDate day = civilDate day := rfl
  conv at date => rhs; unfold civilDate
  simp only [eraEq, dayEq] at date
  generalize (dayOfEra - dayOfEra / 1460 + dayOfEra / 36524 - dayOfEra / 146096) / 365 = year at *
  generalize placed : dayOfEra - (365 * year + year / 4 - year / 100) = dayOfYear at *
  have first : marchFirst year = 365 * year + year / 4 - year / 100 := by
    unfold marchFirst
    omega
  have last : dayOfEra < marchFirst (year + 1) := by
    rcases finish with finish | finish
    · have : 0 ≤ (year + 1) / 400 := by omega
      unfold marchFirst
      omega
    · subst finish
      have : marchFirst (399 + 1) = 146097 := by decide
      omega
  refine ⟨year + era * 400, dayOfYear, ?_, by omega, ?_, ?_⟩
  · rw [marchFirst_era]
    omega
  · rw [show year + era * 400 + 1 = year + 1 + era * 400 by omega, marchFirst_era]
    omega
  · have short := (marchFirst_succ year).2
    have month : 0 ≤ (5 * dayOfYear + 2) / 153 ∧ (5 * dayOfYear + 2) / 153 ≤ 11 := by omega
    rw [date]
    simp only [Prod.mk.injEq, and_true]
    split <;> split <;> omega

/-- The order of dates: by year, then month, then day. -/
def DateBefore (left right : Int × Int × Int) : Prop :=
  left.1 < right.1 ∨ left.1 = right.1 ∧
    (left.2.1 < right.2.1 ∨ left.2.1 = right.2.1 ∧ left.2.2 < right.2.2)

/-- A later day has a later date. -/
theorem civilDate_before {left right : Int} (earlier : left < right) :
    DateBefore (civilDate left) (civilDate right) := by
  obtain ⟨leftYear, leftDay, leftSplit, leftNonneg, leftWithin, leftDate⟩ := yearDay_exists left
  obtain ⟨rightYear, rightDay, rightSplit, rightNonneg, rightWithin, rightDate⟩ := yearDay_exists right
  have order : leftYear < rightYear ∨ leftYear = rightYear ∧ leftDay < rightDay := by
    rcases lt_trichotomy leftYear rightYear with less | rfl | greater
    · exact .inl less
    · right
      omega
    · have later := marchFirst_mono (show rightYear + 1 ≤ leftYear by omega)
      omega
  have leftShort := (marchFirst_succ leftYear).2
  have rightShort := (marchFirst_succ rightYear).2
  rw [leftDate, rightDate]
  simp only [DateBefore]
  rcases order with less | ⟨rfl, less⟩
  · split <;> split <;> omega
  · split <;> split <;> omega

/-! ### Numbers of a fixed width -/

theorem append_lt_append {left right leftTail rightTail : List Char} (same : left.length = right.length) :
    left ++ leftTail < right ++ rightTail ↔ left < right ∨ left = right ∧ leftTail < rightTail := by
  induction left generalizing right with
  | nil =>
      cases List.eq_nil_of_length_eq_zero same.symm
      simp
  | cons first rest ih =>
      cases right with
      | nil => cases same
      | cons other tail =>
          have shorter : rest.length = tail.length := by simpa using same
          simp only [List.cons_append, List.cons_lt_cons_iff, ih shorter, List.cons.injEq]
          tauto

private theorem digitChar_lt {left right : Nat} (bound : right < 10) (less : left < right) :
    left.digitChar < right.digitChar := by
  have table : ∀ right < 10, ∀ left < right, left.digitChar < right.digitChar := by decide
  exact table right bound left less

/-- A number below a power of ten in exactly that many digits. -/
def digits : Nat → Nat → List Char
  | 0, _ => []
  | width + 1, value => digits width (value / 10) ++ [(value % 10).digitChar]

@[simp] theorem length_digits (width value : Nat) : (digits width value).length = width := by
  induction width generalizing value with
  | zero => rfl
  | succ width ih => simp [digits, ih]

theorem digits_lt {width left right : Nat} (bound : right < 10 ^ width) (less : left < right) :
    digits width left < digits width right := by
  induction width generalizing left right with
  | zero => omega
  | succ width ih =>
      rw [digits, digits, append_lt_append (by simp)]
      have tens : left / 10 ≤ right / 10 := Nat.div_le_div_right (Nat.le_of_lt less)
      rcases Nat.lt_or_eq_of_le tens with smaller | same
      · have tensBound : right / 10 < 10 ^ width := by
          rw [Nat.pow_succ] at bound
          omega
        exact .inl (ih tensBound smaller)
      · refine .inr ⟨by rw [same], ?_⟩
        have units : left % 10 < right % 10 := by omega
        rw [List.cons_lt_cons_iff]
        exact .inl (digitChar_lt (Nat.mod_lt _ (by decide)) units)

private theorem digits_eq_toDigits {width value : Nat} (bound : value < 10 ^ (width + 1)) :
    (Nat.toDigits 10 value).length ≤ width + 1 ∧
      digits (width + 1) value =
        List.replicate (width + 1 - (Nat.toDigits 10 value).length) '0' ++ Nat.toDigits 10 value := by
  induction width generalizing value with
  | zero =>
      have small : value < 10 := by simpa using bound
      simp [digits, Nat.toDigits_of_lt_base small, Nat.mod_eq_of_lt small]
  | succ width ih =>
      rw [digits]
      by_cases small : value < 10
      · have zero : ∀ width, digits width 0 = List.replicate width '0' := by
          intro width
          induction width with
          | zero => rfl
          | succ width ih => rw [digits, Nat.zero_div, ih, List.replicate_succ']; rfl
        rw [Nat.toDigits_of_lt_base small, Nat.div_eq_of_lt small, zero, Nat.mod_eq_of_lt small]
        simp
      · have tens : value / 10 < 10 ^ (width + 1) := by
          rw [Nat.pow_succ] at bound
          omega
        obtain ⟨short, equal⟩ := ih tens
        rw [Nat.toDigits_of_base_le (by decide) (by omega), equal]
        simp only [List.length_append, List.length_singleton, List.append_assoc]
        refine ⟨by omega, ?_⟩
        congr 2
        omega

theorem padded_eq {width : Nat} (value : Int) (nonneg : 0 ≤ value) (bound : value < 10 ^ (width + 1)) :
    padded (width + 1) value = digits (width + 1) value.natAbs := by
  have small : value.natAbs < 10 ^ (width + 1) := by
    zify
    rwa [abs_of_nonneg nonneg]
  obtain ⟨_, equal⟩ := digits_eq_toDigits small
  simp [padded, equal, not_lt.mpr nonneg]

/-! ### Texts -/

/-- The text of a time up to its second. -/
def stamp (instant : Int) : List Char :=
  let (year, month, day) := civilDate (instant / (24 * hour))
  padded 4 year ++ '-' :: padded 2 month ++ '-' :: padded 2 day ++
    'T' :: padded 2 (instant / hour % 24) ++ ':' :: padded 2 (minuteOf instant) ++
    ':' :: padded 2 (secondOf instant)

theorem toList_rfc3339Nano (instant : Int) :
    (rfc3339Nano instant).toList = stamp instant ++ (fraction (instant % second) ++ ['Z']) := by
  rw [← List.append_assoc]
  exact String.toList_ofList

/-- The years RFC 3339 can write. -/
def InYears (instant : Int) : Prop :=
  -62167219200 * second ≤ instant ∧ instant < 253402300800 * second

instance (instant : Int) : Decidable (InYears instant) :=
  inferInstanceAs (Decidable (_ ∧ _))

private theorem civilDate_year_mono {left right : Int} (le : left ≤ right) :
    (civilDate left).1 ≤ (civilDate right).1 := by
  rcases Int.lt_or_eq_of_le le with less | rfl
  · rcases civilDate_before less with year | year
    · omega
    · omega
  · exact Int.le_refl _

theorem InYears.year {instant : Int} (inYears : InYears instant) :
    0 ≤ (civilDate (instant / (24 * hour))).1 ∧ (civilDate (instant / (24 * hour))).1 < 10000 := by
  have first : (civilDate (-719528)).1 = 0 := by decide
  have last : (civilDate 2932896).1 = 9999 := by decide
  unfold InYears second at inYears
  unfold hour minute second
  have lower := civilDate_year_mono (show -719528 ≤ instant / (24 * (60 * (60 * 1000000000))) by omega)
  have upper := civilDate_year_mono (show instant / (24 * (60 * (60 * 1000000000))) ≤ 2932896 by omega)
  omega

theorem civilDate_bounds (day : Int) :
    1 ≤ (civilDate day).2.1 ∧ (civilDate day).2.1 ≤ 12 ∧ 1 ≤ (civilDate day).2.2 ∧ (civilDate day).2.2 ≤ 31 := by
  obtain ⟨year, dayOfYear, split, nonneg, within, date⟩ := yearDay_exists day
  have short := (marchFirst_succ year).2
  rw [date]
  simp only
  split <;> omega

private theorem digits_append_lt {width left right : Nat} {leftTail rightTail : List Char}
    (bound : right < 10 ^ width) (less : left < right ∨ left = right ∧ leftTail < rightTail) :
    digits width left ++ leftTail < digits width right ++ rightTail := by
  rw [append_lt_append (by simp)]
  rcases less with smaller | ⟨rfl, tail⟩
  · exact .inl (digits_lt bound smaller)
  · exact .inr ⟨rfl, tail⟩

private theorem cons_lt {mark : Char} {left right : List Char} (less : left < right) :
    mark :: left < mark :: right :=
  List.cons_lt_cons_iff.mpr (.inr ⟨rfl, less⟩)

/-- The stamp written with digits only. -/
theorem stamp_eq {instant : Int} (inYears : InYears instant) :
    stamp instant =
      let date := civilDate (instant / (24 * hour))
      digits 4 date.1.natAbs ++ '-' :: (digits 2 date.2.1.natAbs ++ '-' :: (digits 2 date.2.2.natAbs ++
        'T' :: (digits 2 (instant / hour % 24).natAbs ++ ':' :: (digits 2 (minuteOf instant).natAbs ++
          ':' :: (digits 2 (secondOf instant).natAbs ++ []))))) := by
  have year := inYears.year
  have bounds := civilDate_bounds (instant / (24 * hour))
  have clock : instant / hour % 24 < 10 ^ 2 ∧ minuteOf instant < 10 ^ 2 ∧ secondOf instant < 10 ^ 2 := by
    unfold minuteOf secondOf
    omega
  unfold stamp
  generalize civilDate (instant / (24 * hour)) = date at *
  obtain ⟨yearNumber, monthNumber, dayNumber⟩ := date
  simp only at year bounds ⊢
  rw [padded_eq yearNumber year.1 year.2, padded_eq monthNumber (by omega) (by omega),
    padded_eq dayNumber (by omega) (by omega),
    padded_eq (instant / hour % 24) (Int.emod_nonneg _ (by decide)) clock.1,
    padded_eq (minuteOf instant) (Int.emod_nonneg _ (by decide)) clock.2.1,
    padded_eq (secondOf instant) (Int.emod_nonneg _ (by decide)) clock.2.2]
  simp only [List.append_assoc, List.cons_append, List.append_nil]

theorem stamp_lt {left right : Int} (leftYears : InYears left) (rightYears : InYears right)
    (earlier : left / second < right / second) : stamp left < stamp right := by
  have leftYear := leftYears.year
  have rightYear := rightYears.year
  have leftBounds := civilDate_bounds (left / (24 * hour))
  have rightBounds := civilDate_bounds (right / (24 * hour))
  have days : left / (24 * hour) < right / (24 * hour) ∨ left / (24 * hour) = right / (24 * hour) ∧
      (left / hour % 24 < right / hour % 24 ∨ left / hour % 24 = right / hour % 24 ∧
        (minuteOf left < minuteOf right ∨ minuteOf left = minuteOf right ∧ secondOf left < secondOf right)) := by
    unfold minuteOf secondOf hour minute second at *
    omega
  rw [stamp_eq leftYears, stamp_eq rightYears]
  rcases days with day | ⟨day, clock⟩
  · rcases civilDate_before day with year | ⟨year, month | ⟨month, day⟩⟩
    · exact digits_append_lt (by omega) (.inl (by omega))
    · exact digits_append_lt (by omega) (.inr ⟨by rw [year], cons_lt
        (digits_append_lt (by omega) (.inl (by omega)))⟩)
    · exact digits_append_lt (by omega) (.inr ⟨by rw [year], cons_lt
        (digits_append_lt (by omega) (.inr ⟨by rw [month], cons_lt
          (digits_append_lt (by omega) (.inl (by omega)))⟩))⟩)
  · rw [day]
    refine digits_append_lt (by omega) (.inr ⟨rfl, cons_lt (digits_append_lt (by omega) (.inr ⟨rfl, cons_lt
      (digits_append_lt (by omega) (.inr ⟨rfl, cons_lt ?_⟩))⟩))⟩)
    unfold minuteOf secondOf at *
    rcases clock with hour | ⟨hour, minute | ⟨minute, second⟩⟩
    · exact digits_append_lt (by omega) (.inl (by omega))
    · exact digits_append_lt (by omega) (.inr ⟨by rw [hour], cons_lt
        (digits_append_lt (by omega) (.inl (by omega)))⟩)
    · exact digits_append_lt (by omega) (.inr ⟨by rw [hour], cons_lt
        (digits_append_lt (by omega) (.inr ⟨by rw [minute], cons_lt
          (digits_append_lt (by omega) (.inl (by omega)))⟩))⟩)

theorem stamp_eq_of_second {left right : Int} (same : left / second = right / second) :
    stamp left = stamp right := by
  have days : left / (24 * hour) = right / (24 * hour) := by
    unfold hour minute second at *
    omega
  have hours : left / hour = right / hour := by
    unfold hour minute second at *
    omega
  have minutes : left / minute = right / minute := by
    unfold minute second at *
    omega
  simp only [stamp, minuteOf, secondOf, days, hours, minutes, same]

@[simp] theorem length_stamp {instant : Int} (inYears : InYears instant) : (stamp instant).length = 19 := by
  simp [stamp_eq inYears]

theorem stamp_lt_iff {left right : Int} (leftYears : InYears left) (rightYears : InYears right) :
    stamp left < stamp right ↔ left / second < right / second := by
  constructor
  · intro less
    by_contra notEarlier
    rcases Int.lt_or_eq_of_le (Int.not_lt.mp notEarlier) with later | same
    · exact List.lt_asymm less (stamp_lt rightYears leftYears later)
    · exact List.lt_irrefl _ (stamp_eq_of_second same ▸ less)
  · exact stamp_lt leftYears rightYears

/-- A whole second stands before a time when it lies before the time's second: the fraction
of a second begins with a point, which comes before the `Z` that ends a whole second. -/
theorem rfc3339Nano_lt_iff {left right : Int} (leftYears : InYears left) (rightYears : InYears right)
    (whole : left % second = 0) :
    rfc3339Nano left < rfc3339Nano right ↔ left / second < right / second := by
  rw [String.lt_iff, toList_rfc3339Nano, toList_rfc3339Nano,
    append_lt_append (by rw [length_stamp leftYears, length_stamp rightYears]),
    stamp_lt_iff leftYears rightYears]
  constructor
  · rintro (earlier | ⟨_, tail⟩)
    · exact earlier
    · exfalso
      rw [whole] at tail
      unfold fraction at tail
      simp only [if_true, List.nil_append] at tail
      split at tail
      · exact List.lt_irrefl _ tail
      · revert tail
        simp [List.cons_lt_cons_iff]
  · exact .inl

/-- `Format(time.RFC3339)` of a time in UTC. -/
def rfc3339 (instant : Int) : String :=
  String.ofList (stamp instant ++ ['Z'])

theorem rfc3339_lt_iff {left right : Int} (leftYears : InYears left) (rightYears : InYears right) :
    rfc3339 left < rfc3339 right ↔ left / second < right / second := by
  rw [String.lt_iff, rfc3339, rfc3339, String.toList_ofList, String.toList_ofList,
    append_lt_append (by rw [length_stamp leftYears, length_stamp rightYears]),
    stamp_lt_iff leftYears rightYears]
  simp [List.lt_irrefl]

end MiGate.Go
