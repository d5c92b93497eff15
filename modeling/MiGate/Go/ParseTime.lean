import MiGate.Go.Rfc3339
import Mathlib.Tactic.IntervalCases

namespace MiGate.Go

/-! Reading RFC 3339 times back. -/

def isLeap (year : Int) : Bool :=
  year % 4 == 0 && (year % 100 != 0 || year % 400 == 0)

/-- `daysIn`. -/
def daysIn (month year : Int) : Int :=
  if month = 2 then if isLeap year then 29 else 28
  else if month = 4 ∨ month = 6 ∨ month = 9 ∨ month = 11 then 30
  else 31

/-- The day of a date, counted from the Unix epoch. -/
def dayNumber (year month day : Int) : Int :=
  marchFirst (if month ≤ 2 then year - 1 else year) + (153 * ((month + 9) % 12) + 2) / 5 + day - 1 - 719468

theorem dayNumber_civilDate (day : Int) :
    dayNumber (civilDate day).1 (civilDate day).2.1 (civilDate day).2.2 = day := by
  obtain ⟨year, dayOfYear, split, nonneg, within, date⟩ := yearDay_exists day
  have short := (marchFirst_succ year).2
  have lower : 0 ≤ (5 * dayOfYear + 2) / 153 := by omega
  have upper : (5 * dayOfYear + 2) / 153 ≤ 11 := by omega
  rw [date]
  generalize (5 * dayOfYear + 2) / 153 = month at lower upper ⊢
  simp only [dayNumber]
  by_cases early : month < 10
  · rw [if_pos early, if_pos early, if_neg (by omega)]
    omega
  · rw [if_neg early, if_neg early, if_pos (by omega), show year + 1 - 1 = year by omega]
    omega

/-- February has a 29th day exactly in the years after which March comes a day later. -/
private theorem marchFirst_leap (year : Int) :
    marchFirst (year + 1) = marchFirst year + 365 + if isLeap (year + 1) then 1 else 0 := by
  unfold marchFirst isLeap
  simp only [Bool.and_eq_true, Bool.or_eq_true, beq_iff_eq, bne_iff_ne]
  split <;> omega

theorem civilDate_daysIn (day : Int) :
    (civilDate day).2.2 ≤ daysIn (civilDate day).2.1 (civilDate day).1 := by
  obtain ⟨year, dayOfYear, split, nonneg, within, date⟩ := yearDay_exists day
  rw [marchFirst_leap] at within
  rw [date]
  simp only [daysIn]
  generalize shifted : (5 * dayOfYear + 2) / 153 = month
  have lower : 0 ≤ month := by omega
  by_cases february : month = 11
  · subst february
    simp only [show ¬(11 : Int) < 10 by omega, if_false, show (11 : Int) - 9 = 2 by omega, if_true]
    split at within <;> simp only [*, if_true, if_false, Bool.false_eq_true] <;> omega
  · have upper : month ≤ 10 := by
      split at within <;> omega
    interval_cases month <;> simp <;> omega

/-! ### Fields -/

def isDigit (rune : Char) : Bool :=
  '0' ≤ rune && rune ≤ '9'

/-- The number a run of decimal digits stands for. -/
def decimal (text : List Char) : Nat :=
  text.foldl (fun number digit => number * 10 + (digit.toNat - '0'.toNat)) 0

/-- `parseUint` of `parseRFC3339`: decimal digits within bounds. -/
def parseUint (text : List Char) (lowest highest : Int) : Option Int :=
  if text.all isDigit ∧ lowest ≤ decimal text ∧ decimal text ≤ highest then some (decimal text) else none

theorem digits_all (width value : Nat) : (digits width value).all isDigit = true := by
  have table : ∀ digit < 10, isDigit digit.digitChar = true := by decide
  induction width generalizing value with
  | zero => rfl
  | succ width ih =>
      rw [digits, List.all_append, ih]
      simp [table (value % 10) (Nat.mod_lt _ (by decide))]

theorem decimal_digits {width value : Nat} (bound : value < 10 ^ width) : decimal (digits width value) = value := by
  have table : ∀ digit < 10, digit.digitChar.toNat - '0'.toNat = digit := by decide
  induction width generalizing value with
  | zero =>
      simp only [Nat.pow_zero] at bound
      simp only [digits, decimal, List.foldl_nil]
      omega
  | succ width ih =>
      rw [Nat.pow_succ] at bound
      have tens := ih (show value / 10 < 10 ^ width by omega)
      rw [decimal] at tens ⊢
      rw [digits, List.foldl_append, tens, List.foldl_cons, List.foldl_nil, table _ (Nat.mod_lt _ (by decide))]
      omega

theorem parseUint_digits {width value : Nat} {lowest highest : Int} (bound : value < 10 ^ width)
    (lower : lowest ≤ value) (upper : value ≤ highest) :
    parseUint (digits width value) lowest highest = some (value : Int) := by
  simp [parseUint, digits_all, decimal_digits bound, lower, upper]

/-- The nanoseconds of a fraction's digits, of which the first nine count. -/
def parseNanoseconds (text : List Char) : Int :=
  decimal ((text ++ List.replicate 9 '0').take 9)

/-- The zone after a time: `Z` or an offset, in seconds. -/
def parseZone (zone : List Char) : Option Int := do
  if zone = ['Z'] then return 0
  guard (zone.length = 6 ∧ (zone[0]? = some '-' ∨ zone[0]? = some '+') ∧ zone[3]? = some ':')
  let hours ← parseUint ((zone.drop 1).take 2) 0 24
  let minutes ← parseUint ((zone.drop 4).take 2) 0 60
  let offset := (hours * 60 + minutes) * 60
  return if zone[0]? = some '-' then -offset else offset

/-- `time.Parse(time.RFC3339, …)` of a text with two digits for the hour. -/
def parseRfc3339 (text : String) : Option Int := do
  let runes := text.toList
  guard (19 ≤ runes.length)
  let year ← parseUint (runes.take 4) 0 9999
  let month ← parseUint ((runes.drop 5).take 2) 1 12
  let day ← parseUint ((runes.drop 8).take 2) 1 (daysIn month year)
  let hours ← parseUint ((runes.drop 11).take 2) 0 23
  let minutes ← parseUint ((runes.drop 14).take 2) 0 59
  let seconds ← parseUint ((runes.drop 17).take 2) 0 59
  guard (runes[4]? = some '-' ∧ runes[7]? = some '-' ∧ runes[10]? = some 'T' ∧ runes[13]? = some ':' ∧
    runes[16]? = some ':')
  let rest := runes.drop 19
  let fraction := if rest.head? = some '.' then (rest.drop 1).takeWhile isDigit else []
  let zone := if fraction = [] then rest else rest.drop (1 + fraction.length)
  let offset ← parseZone zone
  return (dayNumber year month day * 86400 + hours * 3600 + minutes * 60 + seconds - offset) * second +
    parseNanoseconds fraction

private theorem parseRfc3339_fields {text : String} {y₁ y₂ y₃ y₄ m₁ m₂ d₁ d₂ h₁ h₂ n₁ n₂ s₁ s₂ : Char}
    {year month day hours minutes seconds : Int}
    (runes : text.toList =
      [y₁, y₂, y₃, y₄, '-', m₁, m₂, '-', d₁, d₂, 'T', h₁, h₂, ':', n₁, n₂, ':', s₁, s₂, 'Z'])
    (yearField : parseUint [y₁, y₂, y₃, y₄] 0 9999 = some year)
    (monthField : parseUint [m₁, m₂] 1 12 = some month)
    (dayField : parseUint [d₁, d₂] 1 (daysIn month year) = some day)
    (hoursField : parseUint [h₁, h₂] 0 23 = some hours)
    (minutesField : parseUint [n₁, n₂] 0 59 = some minutes)
    (secondsField : parseUint [s₁, s₂] 0 59 = some seconds) :
    parseRfc3339 text =
      some ((dayNumber year month day * 86400 + hours * 3600 + minutes * 60 + seconds) * second) := by
  have nanoseconds : parseNanoseconds [] = 0 := by decide
  simp [parseRfc3339, runes, yearField, monthField, dayField, hoursField, minutesField, secondsField, parseZone,
    nanoseconds]

/-- What is written comes back without its fraction of a second. -/
theorem parseRfc3339_rfc3339 {instant : Int} (inYears : InYears instant) :
    parseRfc3339 (rfc3339 instant) = some (instant / second * second) := by
  have year := inYears.year
  have bounds := civilDate_bounds (instant / (24 * hour))
  have days := civilDate_daysIn (instant / (24 * hour))
  have back := dayNumber_civilDate (instant / (24 * hour))
  have hours : 0 ≤ instant / hour % 24 ∧ instant / hour % 24 ≤ 23 := by omega
  have minutes : 0 ≤ minuteOf instant ∧ minuteOf instant ≤ 59 := by
    unfold minuteOf
    omega
  have seconds : 0 ≤ secondOf instant ∧ secondOf instant ≤ 59 := by
    unfold secondOf
    omega
  have total : instant / (24 * hour) * 86400 + instant / hour % 24 * 3600 + minuteOf instant * 60 +
      secondOf instant = instant / second := by
    unfold minuteOf secondOf hour minute second
    omega
  have text : (rfc3339 instant).toList = stamp instant ++ ['Z'] := String.toList_ofList
  have field : ∀ {width : Nat} {value lowest highest : Int}, 0 ≤ value → value < 10 ^ width →
      lowest ≤ value → value ≤ highest → parseUint (digits width value.natAbs) lowest highest = some value := by
    intro width value lowest highest nonneg bound lower upper
    have same : (value.natAbs : Int) = value := Int.natAbs_of_nonneg nonneg
    rw [parseUint_digits (by zify; rwa [abs_of_nonneg nonneg]) (by omega) (by omega), same]
  rw [stamp_eq inYears] at text
  generalize civilDate (instant / (24 * hour)) = date at *
  obtain ⟨yearNumber, monthNumber, dayOfMonth⟩ := date
  simp only at year bounds days back text
  have yearField := @field 4 yearNumber 0 9999 year.1 year.2 year.1 (by omega)
  have monthField := @field 2 monthNumber 1 12 (by omega) (by omega) bounds.1 bounds.2.1
  have dayField := @field 2 dayOfMonth 1 (daysIn monthNumber yearNumber) (by omega) (by omega) bounds.2.2.1 days
  have hoursField := @field 2 (instant / hour % 24) 0 23 hours.1 (by omega) hours.1 hours.2
  have minutesField := @field 2 (minuteOf instant) 0 59 minutes.1 (by omega) minutes.1 minutes.2
  have secondsField := @field 2 (secondOf instant) 0 59 seconds.1 (by omega) seconds.1 seconds.2
  rw [parseRfc3339_fields text yearField monthField dayField hoursField minutesField secondsField, back, total]

end MiGate.Go
