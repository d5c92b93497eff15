import Mathlib.Order.Lattice

namespace Lockout

/-! Lockout after too many failures: what a policy remembers of one key between two expiries
of its block. Times are those of any linear order. -/

structure Window (τ : Type) where
  /-- The failures recorded since the last expiry. -/
  failures : Nat
  /-- The attempts that were evaluated, and failed, since the last expiry. -/
  attempts : Nat
  blockedUntil : Option τ
deriving DecidableEq, Repr

variable {τ : Type} {threshold : Nat} {window : Window τ}

namespace Window

def fresh : Window τ where
  failures := 0
  attempts := 0
  blockedUntil := none

/-- One failed attempt, which records a positive number of failures. -/
def record (threshold count : Nat) (until_ : τ) (window : Window τ) : Window τ where
  failures := window.failures + count
  attempts := window.attempts + 1
  blockedUntil := if threshold ≤ window.failures + count then some until_ else window.blockedUntil

/-- A window is blocked once its failures reach the threshold, and no attempt was evaluated
beyond it. -/
structure WellFormed (threshold : Nat) (window : Window τ) : Prop where
  counted : window.attempts ≤ window.failures
  bounded : window.attempts ≤ threshold
  blocks : window.blockedUntil.isSome = decide (threshold ≤ window.failures)

theorem WellFormed.fresh (positive : 0 < threshold) : WellFormed threshold (fresh : Window τ) where
  counted := Nat.le_refl 0
  bounded := Nat.zero_le _
  blocks := by simp [Window.fresh, Nat.ne_of_gt positive]

theorem WellFormed.record {count : Nat} {until_ : τ} (wellFormed : WellFormed threshold window)
    (room : window.failures < threshold) (positive : 0 < count) :
    WellFormed threshold (window.record threshold count until_) where
  counted := by
    have := wellFormed.counted
    simp only [Window.record]
    omega
  bounded := by
    have := wellFormed.counted
    simp only [Window.record]
    omega
  blocks := by
    have none : window.blockedUntil.isSome = false := by
      rw [wellFormed.blocks, decide_eq_false (by omega)]
    simp only [Window.record]
    split
    · rename_i reached
      simp [reached]
    · rename_i below
      simp [none, below]

section Expiry

variable [LinearOrder τ] {now : τ}

def blocked (now : τ) (window : Window τ) : Bool :=
  window.blockedUntil.any fun until_ => now < until_

/-- A block that is over takes the failures that led to it along. -/
def expire (now : τ) (window : Window τ) : Window τ :=
  if window.blockedUntil.any fun until_ => until_ ≤ now then fresh else window

theorem WellFormed.expire (positive : 0 < threshold) (wellFormed : WellFormed threshold window) (now : τ) :
    WellFormed threshold (window.expire now) := by
  unfold Window.expire
  split
  · exact .fresh positive
  · exact wellFormed

/-- An expired window that is not blocked has room for another attempt. -/
theorem WellFormed.room (wellFormed : WellFormed threshold window) (free : (window.expire now).blocked now = false)
    (positive : 0 < threshold) : (window.expire now).failures < threshold := by
  have expired := wellFormed.expire positive now
  refine Nat.lt_of_not_le fun full => ?_
  have present : (window.expire now).blockedUntil.isSome := by
    rw [expired.blocks, decide_eq_true full]
  obtain ⟨until_, stands⟩ := Option.isSome_iff_exists.mp present
  have ended : until_ ≤ now := by simpa [blocked, stands] using free
  unfold Window.expire at stands
  split at stands
  · cases stands
  · rename_i running
    simp [stands, ended] at running

theorem blocked_expire (window : Window τ) : (window.expire now).blocked now = window.blocked now := by
  unfold expire
  cases stands : window.blockedUntil with
  | none => simp
  | some until_ =>
      by_cases ended : until_ ≤ now
      · simp [ended, blocked, stands, fresh]
      · simp [ended]

theorem expire_expire {later : τ} (ordered : now ≤ later) (window : Window τ) :
    (window.expire now).expire later = window.expire later := by
  unfold expire
  cases stands : window.blockedUntil with
  | none => simp [stands]
  | some until_ =>
      by_cases ended : until_ ≤ now
      · have stillOver : until_ ≤ later := le_trans ended ordered
        simp [ended, stillOver, fresh]
      · simp [ended, stands]

end Expiry

end Window

end Lockout
