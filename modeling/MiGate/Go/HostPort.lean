import MiGate.Go.IPForm

namespace MiGate.Go

/-! `net.SplitHostPort`. -/

/-- The host and the port of a text; a host in brackets may hold colons. -/
def netSplitHostPort (hostPort : String) : Option (String × String) :=
  match cutLast hostPort ':' with
  | none => none
  | some (before, behind) =>
      let port := behind.toList.drop 1
      match hostPort.toList with
      | '[' :: rest =>
          let inside := rest.takeWhile (· != ']')
          -- The first closing bracket stands right before the last colon.
          if rest.drop inside.length = ']' :: ':' :: port ∧ !rest.contains '[' ∧ !port.contains ']' then
            some (String.ofList inside, String.ofList port)
          else none
      | runes =>
          if before.toList.contains ':' || runes.contains '[' || runes.contains ']' then none
          else some (before, String.ofList port)

theorem dropWhile_of_mem {α : Type} [DecidableEq α] {mark : α} {items : List α} (present : mark ∈ items) :
    items.dropWhile (· != mark) = mark :: items.drop ((items.takeWhile (· != mark)).length + 1) := by
  induction items with
  | nil => cases present
  | cons item rest ih =>
      by_cases same : item = mark
      · simp [same]
      · have later : mark ∈ rest := (List.mem_cons.mp present).resolve_left fun equal => same equal.symm
        have other : (item != mark) = true := bne_iff_ne.mpr same
        rw [List.dropWhile_cons_of_pos (p := (· != mark)) other, ih later]
        simp [same]

theorem cutLast_eq {text before behind : String} {separator : Char} (done : cutLast text separator = some (before, behind)) :
    text.toList = before.toList ++ behind.toList ∧ ∃ tail, behind.toList = separator :: tail ∧ separator ∉ tail := by
  unfold cutLast at done
  dsimp only at done
  split at done
  · rename_i present
    cases done
    simp only [String.toList_ofList]
    refine ⟨?_, _, rfl, ?_⟩
    · have whole := @List.takeWhile_append_dropWhile _ (· != separator) text.toList.reverse
      rw [dropWhile_of_mem (List.contains_iff_mem.mp present)] at whole
      have turned := congrArg List.reverse whole
      rw [List.reverse_reverse, List.reverse_append, List.reverse_cons, List.append_assoc, List.singleton_append] at turned
      exact turned.symm
    · rw [List.mem_reverse]
      intro member
      have apart := @List.mem_takeWhile_imp _ (· != separator) _ _ member
      simp at apart
  · cases done

/-- The host is a part of the text, and shorter. -/
theorem netSplitHostPort_shorter {hostPort host port : String} (done : netSplitHostPort hostPort = some (host, port)) :
    host.toList.length < hostPort.toList.length ∧ host.toList ⊆ hostPort.toList := by
  unfold netSplitHostPort at done
  split at done
  · cases done
  · rename_i before behind parted
    obtain ⟨whole, tail, opens, _⟩ := cutLast_eq parted
    dsimp only at done
    split at done
    · rename_i rest written
      split at done
      · cases done
        rw [written, String.toList_ofList]
        refine ⟨?_, fun rune member => List.mem_cons_of_mem _ ((List.takeWhile_prefix _).subset member)⟩
        exact Nat.lt_succ_of_le (List.takeWhile_prefix _).length_le
      · cases done
    · split at done
      · cases done
      · cases done
        rw [whole, opens]
        refine ⟨?_, List.subset_append_left _ _⟩
        rw [List.length_append, List.length_cons]
        omega

/-- A text without a colon has no port; nor has one with several that does not begin with a bracket. -/
theorem netSplitHostPort_none {hostPort : String} (unbracketed : '[' ∉ hostPort.toList)
    (colons : hostPort.toList.count ':' = 0 ∨ 2 ≤ hostPort.toList.count ':') : netSplitHostPort hostPort = none := by
  unfold netSplitHostPort
  split
  · rfl
  · rename_i before behind parted
    obtain ⟨whole, tail, opens, single⟩ := cutLast_eq parted
    have present : ':' ∈ before.toList := by
      rw [whole, opens, List.count_append, List.count_cons_self, List.count_eq_zero_of_not_mem single] at colons
      exact List.count_pos_iff.mp (by omega)
    dsimp only
    split
    · rename_i rest written
      rw [written] at unbracketed
      exact absurd List.mem_cons_self unbracketed
    · rw [List.contains_iff_mem.mpr present]
      rfl

end MiGate.Go
