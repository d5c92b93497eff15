namespace Wire

/-! Loops that read a buffer to its end, one item after another. -/

variable {σ β ε : Type}

/-- One turn of such a loop: what it makes of its state, and what is left to read. -/
structure Turn (σ β ε : Type) where
  run : σ → List β → Except ε (σ × List β)
  advances : ∀ {state next : σ} {unread rest : List β},
    run state unread = .ok (next, rest) → rest.length < unread.length

/-- Turns are made until nothing is left to read, or one of them fails. -/
def Turn.drain (turn : Turn σ β ε) (state : σ) (unread : List β) : Except ε σ :=
  if unread.isEmpty then .ok state
  else
    match _made : turn.run state unread with
    | .error error => .error error
    | .ok (next, rest) => turn.drain next rest
termination_by unread.length
decreasing_by exact turn.advances _made

/-- Where the loop stands at the beginning of its turns. -/
inductive Turn.Visits (turn : Turn σ β ε) (start : σ) (given : List β) : σ → List β → Prop where
  | start : turn.Visits start given start given
  | turn {state next : σ} {unread rest : List β} (visited : turn.Visits start given state unread)
      (made : turn.run state unread = .ok (next, rest)) : turn.Visits start given next rest

variable {turn : Turn σ β ε} {start state next result : σ} {given unread rest : List β} {error : ε}

@[simp] theorem drain_nil : turn.drain state [] = .ok state := by
  rw [Turn.drain]
  rfl

/-- A turn that leaves less than it was given was given something. -/
theorem given_of_advance (made : turn.run state unread = .ok (next, rest)) : unread ≠ [] := by
  rintro rfl
  exact absurd (turn.advances made) (Nat.not_lt_zero _)

theorem drain_turn (made : turn.run state unread = .ok (next, rest)) :
    turn.drain state unread = turn.drain next rest := by
  rw [Turn.drain, if_neg]
  · split
    · rename_i failed
      rw [made] at failed
      cases failed
    · rename_i _ other done
      rw [made] at done
      cases done
      rfl
  · rw [List.isEmpty_iff]
    exact given_of_advance made

theorem drain_failed (unfinished : unread ≠ []) (failed : turn.run state unread = .error error) :
    turn.drain state unread = .error error := by
  rw [Turn.drain, if_neg]
  · split
    · rename_i other
      rw [failed] at other
      exact congrArg Except.error (Except.error.inj other).symm
    · rename_i made
      rw [failed] at made
      cases made
  · rw [List.isEmpty_iff]
    exact unfinished

theorem drain_visited (visited : turn.Visits start given state unread) :
    turn.drain start given = turn.drain state unread := by
  induction visited with
  | start => rfl
  | turn _ made ih => exact ih.trans (drain_turn made)

/-- The loop fails where one of its turns does. -/
theorem drain_eq_error : turn.drain start given = .error error ↔
    ∃ state unread, turn.Visits start given state unread ∧ unread ≠ [] ∧ turn.run state unread = .error error := by
  constructor
  · intro failed
    have walk : ∀ (length : Nat) (state : σ) (unread : List β), unread.length = length →
        turn.Visits start given state unread → turn.drain state unread = .error error →
          ∃ state unread, turn.Visits start given state unread ∧ unread ≠ [] ∧
            turn.run state unread = .error error := by
      intro length
      induction length using Nat.strongRecOn with
      | ind length ih =>
          intro state unread sized visited failed
          by_cases finished : unread = []
          · rw [finished, drain_nil] at failed
            cases failed
          · cases made : turn.run state unread with
            | error other =>
                rw [drain_failed finished made] at failed
                exact ⟨state, unread, visited, finished, made.trans (congrArg Except.error (Except.error.inj failed))⟩
            | ok step =>
                obtain ⟨next, rest⟩ := step
                rw [drain_turn made] at failed
                exact ih rest.length (sized ▸ turn.advances made) next rest rfl (.turn visited made) failed
    exact walk _ start given rfl .start failed
  · rintro ⟨state, unread, visited, unfinished, failed⟩
    rw [drain_visited visited]
    exact drain_failed unfinished failed

/-- Items written one after another are read one after another. -/
theorem drain_items {α : Type} {encode : α → List β} {apply : σ → α → σ} {items : List α}
    (reads : ∀ item ∈ items, ∀ state rest, turn.run state (encode item ++ rest) = .ok (apply state item, rest)) :
    turn.drain state (items.flatMap encode ++ rest) = turn.drain (items.foldl apply state) rest := by
  induction items generalizing state with
  | nil => rfl
  | cons item later ih =>
      rw [List.flatMap_cons, List.append_assoc, drain_turn (reads item List.mem_cons_self state _)]
      exact ih fun other member => reads other (List.mem_cons_of_mem _ member)

end Wire
