import MiGate.Transition.Reach
import Mathlib.Algebra.Order.BigOperators.Group.Finset

namespace Transition

/-! Runs that cannot go on for ever, since each step lowers a rank, and what a rank that is a sum
over finitely many parties does when one of them moves. -/

variable {σ α : Type} {step : α → σ → Option σ} {allowed : α → Bool} {Rank : σ → Nat → Prop}

/-- Every allowed step lowers the rank. -/
def Descends (step : α → σ → Option σ) (allowed : α → Bool) (Rank : σ → Nat → Prop) : Prop :=
  ∀ action before after rank, allowed action = true → step action before = some after → Rank before rank →
    ∃ lower, lower < rank ∧ Rank after lower

/-- No allowed step is possible. -/
def Exhausted (step : α → σ → Option σ) (allowed : α → Bool) (state : σ) : Prop :=
  ∀ action, allowed action = true → step action state = none

theorem Descends.length_le (descends : Descends step allowed Rank) {actions : List α} {state final : σ} {rank : Nat}
    (within : ∀ action ∈ actions, allowed action = true) (run : perform step actions state = some final)
    (ranked : Rank state rank) : actions.length ≤ rank := by
  induction actions generalizing state rank with
  | nil => exact Nat.zero_le rank
  | cons action rest ih =>
      obtain ⟨next, first, tail⟩ := Option.bind_eq_some_iff.mp run
      obtain ⟨lower, less, after⟩ := descends action state next rank (within action List.mem_cons_self) first ranked
      have shorter := ih (fun other member => within other (List.mem_cons_of_mem _ member)) tail after
      exact Nat.lt_of_le_of_lt shorter less

theorem Descends.exhausts (descends : Descends step allowed Rank) {state : σ} {rank : Nat} (ranked : Rank state rank) :
    ∃ actions final, (∀ action ∈ actions, allowed action = true) ∧ perform step actions state = some final ∧
      Exhausted step allowed final := by
  induction rank using Nat.strongRecOn generalizing state with
  | ind rank ih =>
      by_cases stuck : Exhausted step allowed state
      · exact ⟨[], state, by simp, rfl, stuck⟩
      · simp only [Exhausted, not_forall] at stuck
        obtain ⟨action, permitted, possible⟩ := stuck
        obtain ⟨next, first⟩ := Option.ne_none_iff_exists'.mp possible
        obtain ⟨lower, less, after⟩ := descends action state next rank permitted first ranked
        obtain ⟨rest, final, within, run, ended⟩ := ih lower less after
        refine ⟨action :: rest, final, ?_, ?_, ended⟩
        · intro other member
          rcases List.mem_cons.mp member with rfl | later
          · exact permitted
          · exact within other later
        · rw [perform, first]
          exact run

section

variable {ι β : Type} [DecidableEq ι] {weight : β → Nat} {parties : ι → Option β} {support : Finset ι}

/-- What the parties weigh together. -/
def totalWeight (weight : β → Nat) (parties : ι → Option β) (support : Finset ι) : Nat :=
  ∑ party ∈ support, (parties party).elim 0 weight

theorem totalWeight_insert (outside : ∀ party, party ∉ support → parties party = none) (party : ι) :
    totalWeight weight parties (insert party support) = totalWeight weight parties support := by
  by_cases member : party ∈ support
  · rw [Finset.insert_eq_of_mem member]
  · rw [totalWeight, Finset.sum_insert member, outside party member]
    exact Nat.zero_add _

/-- When a party moves, what they weigh together changes by what it weighs. -/
theorem totalWeight_update (weight : β → Nat) (outside : ∀ party, party ∉ support → parties party = none) (party : ι) (moved : β) :
    totalWeight weight (Function.update parties party (some moved)) (insert party support) +
        (parties party).elim 0 weight =
      totalWeight weight parties support + weight moved := by
  rw [← totalWeight_insert outside party]
  have member : party ∈ insert party support := Finset.mem_insert_self party support
  simp only [totalWeight]
  rw [← Finset.add_sum_erase _ _ member, ← Finset.add_sum_erase _ (fun other => (parties other).elim 0 weight) member]
  have others : ∑ other ∈ (insert party support).erase party, (Function.update parties party (some moved) other).elim 0 weight =
      ∑ other ∈ (insert party support).erase party, (parties other).elim 0 weight := by
    refine Finset.sum_congr rfl fun other among => ?_
    rw [Function.update_of_ne (Finset.ne_of_mem_erase among)]
  rw [others, Function.update_self]
  simp only [Option.elim_some]
  omega

theorem outside_update (outside : ∀ party, party ∉ support → parties party = none) (party : ι) (moved : β) :
    ∀ other, other ∉ insert party support → Function.update parties party (some moved) other = none := by
  intro other beyond
  rw [Finset.mem_insert, not_or] at beyond
  rw [Function.update_of_ne beyond.1, outside other beyond.2]

end

end Transition
