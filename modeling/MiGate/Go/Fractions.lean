import MiGate.Go.Rfc3339
import Mathlib.Tactic.IntervalCases

namespace MiGate.Go

/-! The order of `rfc3339Nano` texts within one second.  The digits of the fraction end where
its zeros begin, and the `Z` that follows comes after every digit: a fraction that is another
one cut short stands after it. -/

/-- A time with its second cut after some decimal place. -/
def CutShort (short long : Int) : Prop :=
  short ≠ long ∧ ∃ places ≤ 9, short = long / 10 ^ places * 10 ^ places

instance (short long : Int) : Decidable (CutShort short long) :=
  inferInstanceAs (Decidable (_ ∧ _))

theorem CutShort.earlier {short long : Int} (cut : CutShort short long) : short < long := by
  obtain ⟨other, places, _, same⟩ := cut
  have floor : long / 10 ^ places * 10 ^ places ≤ long := Int.ediv_mul_le _ (by positivity)
  omega

/-! ### Digits -/

theorem digits_succ (width value : Nat) :
    digits (width + 1) value = (value / 10 ^ width % 10).digitChar :: digits width value := by
  induction width generalizing value with
  | zero => simp [digits]
  | succ width ih =>
      rw [digits, ih, digits, List.cons_append, Nat.div_div_eq_div_mul, ← Nat.pow_succ']

private def cutZeros (text : List Char) : List Char :=
  (text.reverse.dropWhile (· == '0')).reverse

private theorem cutZeros_cons {mark : Char} {text : List Char} (stays : mark ≠ '0' ∨ cutZeros text ≠ []) :
    cutZeros (mark :: text) = mark :: cutZeros text := by
  rw [cutZeros, List.reverse_cons, List.dropWhile_append]
  by_cases zeros : (text.reverse.dropWhile (· == '0')).isEmpty
  · have none : cutZeros text = [] := by
      rw [cutZeros, List.isEmpty_iff.mp zeros, List.reverse_nil]
    have kept := stays.resolve_right fun some => some none
    rw [if_pos zeros, none, List.dropWhile_cons_of_neg (by simpa using kept), List.reverse_singleton]
  · rw [if_neg zeros, List.reverse_append]
    rfl

private theorem digitChar_zero {digit : Nat} (bound : digit < 10) : digit.digitChar = '0' ↔ digit = 0 := by
  have table : ∀ digit < 10, digit.digitChar = '0' ↔ digit = 0 := by decide
  exact table digit bound

private theorem cutZeros_digits (width value : Nat) : cutZeros (digits width value) = [] ↔ value % 10 ^ width = 0 := by
  induction width generalizing value with
  | zero => simp [digits, cutZeros, Nat.mod_one]
  | succ width ih =>
      have parts : value % 10 ^ (width + 1) = value % 10 + 10 * (value / 10 % 10 ^ width) := by
        rw [Nat.pow_succ', Nat.mod_mul]
      rw [digits, cutZeros, List.reverse_append, List.reverse_singleton, List.singleton_append, parts]
      by_cases last : value % 10 = 0
      · rw [last, List.dropWhile_cons_of_pos (by decide), Nat.zero_add, ← cutZeros, ih]
        omega
      · have kept : (value % 10).digitChar ≠ '0' := fun same => last ((digitChar_zero (Nat.mod_lt _ (by decide))).mp same)
        rw [List.dropWhile_cons_of_neg (by simpa using kept)]
        simp only [List.reverse_eq_nil_iff, reduceCtorEq, false_iff]
        omega

/-- The end of a text behind the point. -/
private def ending (width value : Nat) : List Char :=
  cutZeros (digits width value) ++ ['Z']

private theorem ending_zero {width value : Nat} (zero : value % 10 ^ width = 0) : ending width value = ['Z'] := by
  rw [ending, (cutZeros_digits width value).mpr zero, List.nil_append]

private theorem ending_succ {width value : Nat} (some : value % 10 ^ (width + 1) ≠ 0) :
    ending (width + 1) value = (value / 10 ^ width % 10).digitChar :: ending width value := by
  have stays : (value / 10 ^ width % 10).digitChar ≠ '0' ∨ cutZeros (digits width value) ≠ [] := by
    by_contra neither
    obtain ⟨lead, rest⟩ := not_or.mp neither
    rw [not_not, digitChar_zero (Nat.mod_lt _ (by decide))] at lead
    rw [not_not, cutZeros_digits] at rest
    rw [Nat.mod_pow_succ, lead, rest] at some
    omega
  rw [ending, digits_succ, cutZeros_cons stays]
  rfl

/-- A number below a power of ten, cut after some of its decimal places. -/
private def Shortens (width short long : Nat) : Prop :=
  ∃ places ≤ width, short = long / 10 ^ places * 10 ^ places

private theorem leading_eq {unit low high left right : Nat} (lowRest : low < unit) (highRest : high < unit)
    (same : low + unit * left = high + unit * right) : left = right ∧ low = high := by
  have positive : 0 < unit := by omega
  have leads := congrArg (· / unit) same
  simp only [Nat.add_mul_div_left _ _ positive, Nat.div_eq_of_lt lowRest, Nat.div_eq_of_lt highRest, Nat.zero_add] at leads
  subst leads
  exact ⟨rfl, Nat.add_right_cancel same⟩

private theorem shortens_succ {width left right short long : Nat} (digit : right < 10) (shortRest : short < 10 ^ width)
    (longRest : long < 10 ^ width) (some : short + 10 ^ width * left ≠ 0) :
    Shortens (width + 1) (short + 10 ^ width * left) (long + 10 ^ width * right) ↔
      left = right ∧ Shortens width short long := by
  have cut : ∀ places ≤ width, (long + 10 ^ width * right) / 10 ^ places * 10 ^ places =
      long / 10 ^ places * 10 ^ places + 10 ^ width * right := by
    intro places within
    obtain ⟨more, rfl⟩ := Nat.exists_eq_add_of_le within
    rw [Nat.pow_add, Nat.mul_assoc, Nat.add_mul_div_left _ _ (by positivity), Nat.add_mul, Nat.mul_comm (_ * right)]
  constructor
  · intro shortened
    obtain ⟨places, within, same⟩ := shortened
    have inside : places ≤ width := by
      by_contra outside
      have full : places = width + 1 := by omega
      have below : long + 10 ^ width * right < 10 ^ places := by
        calc long + 10 ^ width * right < 10 ^ width * (right + 1) := by rw [Nat.mul_succ]; omega
          _ ≤ 10 ^ width * 10 := Nat.mul_le_mul_left _ digit
          _ = 10 ^ places := by rw [full, Nat.pow_succ]
      rw [Nat.div_eq_of_lt below, Nat.zero_mul] at same
      exact some same
    rw [cut places inside] at same
    have rest : long / 10 ^ places * 10 ^ places < 10 ^ width := Nat.lt_of_le_of_lt (Nat.div_mul_le_self _ _) longRest
    obtain ⟨leads, rests⟩ := leading_eq shortRest rest same
    exact ⟨leads, places, inside, rests⟩
  · intro shortened
    obtain ⟨rfl, places, within, same⟩ := shortened
    exact ⟨places, by omega, by rw [cut places within, same]⟩

private theorem digitChar_lt_iff {left right : Nat} (leftDigit : left < 10) (rightDigit : right < 10) :
    left.digitChar < right.digitChar ↔ left < right := by
  have table : ∀ right < 10, ∀ left < 10, left.digitChar < right.digitChar ↔ left < right := by decide
  exact table right rightDigit left leftDigit

/-- Of two fractions the smaller stands first, unless it is the other one cut short. -/
private theorem ending_order {width left right : Nat} (smaller : left % 10 ^ width < right % 10 ^ width) :
    (Shortens width (left % 10 ^ width) (right % 10 ^ width) → ending width right < ending width left) ∧
      (¬Shortens width (left % 10 ^ width) (right % 10 ^ width) → ending width left < ending width right) := by
  induction width with
  | zero => simp [Nat.mod_one] at smaller
  | succ width ih =>
      have rightSome : right % 10 ^ (width + 1) ≠ 0 := by omega
      have leftDigit : left / 10 ^ width % 10 < 10 := Nat.mod_lt _ (by decide)
      have rightDigit : right / 10 ^ width % 10 < 10 := Nat.mod_lt _ (by decide)
      rw [ending_succ rightSome]
      by_cases none : left % 10 ^ (width + 1) = 0
      · -- Nothing is left of the smaller fraction: `Z` stands against a digit.
        have shortened : Shortens (width + 1) (left % 10 ^ (width + 1)) (right % 10 ^ (width + 1)) := by
          refine ⟨width + 1, Nat.le_refl _, ?_⟩
          rw [none, Nat.div_eq_of_lt (Nat.mod_lt _ (by positivity)), Nat.zero_mul]
        have digitFirst : ∀ digit < 10, digit.digitChar < 'Z' := by decide
        refine ⟨fun _ => ?_, fun apart => absurd shortened apart⟩
        rw [ending_zero none, List.cons_lt_cons_iff]
        exact .inl (digitFirst _ rightDigit)
      · rw [ending_succ none]
        rw [Nat.mod_pow_succ] at none
        rw [Nat.mod_pow_succ, Nat.mod_pow_succ] at smaller
        rw [Nat.mod_pow_succ, Nat.mod_pow_succ, List.cons_lt_cons_iff, List.cons_lt_cons_iff,
          shortens_succ rightDigit (Nat.mod_lt _ (by positivity)) (Nat.mod_lt _ (by positivity)) none,
          digitChar_lt_iff leftDigit rightDigit, digitChar_lt_iff rightDigit leftDigit]
        generalize left / 10 ^ width % 10 = leftLead at *
        generalize right / 10 ^ width % 10 = rightLead at *
        have leftRest : left % 10 ^ width < 10 ^ width := Nat.mod_lt _ (by positivity)
        have rightRest : right % 10 ^ width < 10 ^ width := Nat.mod_lt _ (by positivity)
        rcases lt_trichotomy leftLead rightLead with less | rfl | greater
        · exact ⟨fun shortened => absurd shortened.1 (Nat.ne_of_lt less), fun _ => .inl less⟩
        · obtain ⟨after, before⟩ := ih (Nat.lt_of_add_lt_add_right smaller)
          exact ⟨fun shortened => .inr ⟨rfl, after shortened.2⟩,
            fun apart => .inr ⟨rfl, before fun shortened => apart ⟨rfl, shortened⟩⟩⟩
        · have more := Nat.mul_le_mul_left (10 ^ width) (Nat.succ_le_of_lt greater)
          rw [Nat.mul_succ] at more
          omega

/-! ### Texts -/

private theorem fraction_ending {nanos : Int} (nonneg : 0 ≤ nanos) (bound : nanos < second) :
    fraction nanos ++ ['Z'] = if nanos = 0 then ['Z'] else '.' :: ending 9 nanos.natAbs := by
  rw [fraction]
  split
  · rfl
  · rw [padded_eq nanos nonneg bound]
    rfl

private theorem cutShort_iff {left right : Int} (earlier : left < right) :
    CutShort left right ↔
      left / second = right / second ∧ Shortens 9 (left % second).natAbs (right % second).natAbs := by
  unfold second
  constructor
  · intro cut
    obtain ⟨_, places, within, same⟩ := cut
    have inSecond : left / 1000000000 = right / 1000000000 := by
      interval_cases places <;> omega
    refine ⟨inSecond, places, within, ?_⟩
    interval_cases places <;> omega
  · intro cut
    obtain ⟨inSecond, places, within, same⟩ := cut
    refine ⟨Int.ne_of_lt earlier, places, within, ?_⟩
    interval_cases places <;> omega

/-- Of two times the earlier stands first, unless it is the later one cut short. -/
private theorem rfc3339Nano_order {left right : Int} (leftYears : InYears left) (rightYears : InYears right)
    (earlier : left < right) :
    (CutShort left right → rfc3339Nano right < rfc3339Nano left) ∧
      (¬CutShort left right → rfc3339Nano left < rfc3339Nano right) := by
  have leftNanos := Int.emod_nonneg left (show second ≠ 0 by decide)
  have rightNanos := Int.emod_nonneg right (show second ≠ 0 by decide)
  have leftBound := Int.emod_lt_of_pos left (show 0 < second by decide)
  have rightBound := Int.emod_lt_of_pos right (show 0 < second by decide)
  have lengths : (stamp left).length = (stamp right).length := by rw [length_stamp leftYears, length_stamp rightYears]
  rw [String.lt_iff, String.lt_iff, toList_rfc3339Nano, toList_rfc3339Nano, append_lt_append lengths,
    append_lt_append lengths.symm, stamp_lt_iff leftYears rightYears, stamp_lt_iff rightYears leftYears,
    cutShort_iff earlier]
  rcases Int.lt_or_eq_of_le (Int.ediv_le_ediv (show 0 < second by decide) (Int.le_of_lt earlier)) with apart | inSecond
  · exact ⟨fun cut => absurd cut.1 (Int.ne_of_lt apart), fun _ => .inl apart⟩
  · have stamps := stamp_eq_of_second inSecond
    have nanos : left % second < right % second := by
      unfold second at *
      omega
    have some : right % second ≠ 0 := by omega
    have order := @ending_order 9 (left % second).natAbs (right % second).natAbs
    rw [Nat.mod_eq_of_lt (show (left % second).natAbs < 10 ^ 9 by unfold second at *; omega),
      Nat.mod_eq_of_lt (show (right % second).natAbs < 10 ^ 9 by unfold second at *; omega)] at order
    obtain ⟨after, before⟩ := order (by omega)
    rw [fraction_ending leftNanos leftBound, fraction_ending rightNanos rightBound, if_neg some]
    split
    · -- A whole second is every time within it, cut short.
      rename_i whole
      have cut : Shortens 9 (left % second).natAbs (right % second).natAbs := by
        refine ⟨9, Nat.le_refl _, ?_⟩
        unfold second at *
        omega
      have pointFirst : '.' < 'Z' := by decide
      refine ⟨fun _ => .inr ⟨stamps.symm, ?_⟩, fun apart => absurd ⟨inSecond, cut⟩ apart⟩
      rw [List.cons_lt_cons_iff]
      exact .inl pointFirst
    · simp only [List.cons_lt_cons_iff, inSecond, stamps, true_and]
      exact ⟨fun cut => .inr (.inr (after cut)), fun apart => .inr (.inr (before apart))⟩

/-- The texts of two times are ordered as the times are, unless one of the times is the other
with its fraction of a second cut short. -/
theorem rfc3339Nano_order_iff {left right : Int} (leftYears : InYears left) (rightYears : InYears right) :
    (rfc3339Nano left < rfc3339Nano right ↔ left < right) ↔ ¬CutShort left right ∧ ¬CutShort right left := by
  rcases lt_trichotomy left right with earlier | rfl | later
  · obtain ⟨after, before⟩ := rfc3339Nano_order leftYears rightYears earlier
    have apart : ¬CutShort right left := fun cut => Int.lt_asymm earlier cut.earlier
    simp only [earlier, iff_true, apart, not_false_eq_true, and_true]
    exact ⟨fun first cut => String.lt_asymm first (after cut), before⟩
  · simp [CutShort, String.lt_irrefl]
  · obtain ⟨after, before⟩ := rfc3339Nano_order rightYears leftYears later
    have apart : ¬CutShort left right := fun cut => Int.lt_asymm later cut.earlier
    simp only [Int.lt_asymm later, iff_false, apart, not_false_eq_true, true_and]
    exact ⟨fun last cut => last (after cut), fun uncut => String.lt_asymm (before uncut)⟩

end MiGate.Go
