import MiGate.Subscription.Claims

namespace MiGate.Subscription

open Go Db Fallible Relational

variable {platform : Platform} {now : String} {subscriptionID : Int} {store : Store}

/-! A refresh gives new rows tags that are free, so that it never fails over a tag. -/

theorem trimList_append {α : Type} {drop : α → Bool} {left right : List α} (trimmed : trimList drop left = left)
    (nonempty : left ≠ []) (kept : ∀ item ∈ right, drop item = false) :
    trimList drop (left ++ right) = left ++ right := by
  obtain ⟨starts, ends⟩ := trimList_eq_self.mp trimmed
  rw [trimList_eq_self]
  constructor
  · intro item first
    rw [List.head?_append_of_ne_nil _ nonempty] at first
    exact starts item first
  · intro item last
    rw [List.getLast?_append] at last
    cases ending : right.getLast? with
    | some other =>
        rw [ending] at last
        cases last
        exact kept _ (List.mem_of_getLast? ending)
    | none =>
        rw [ending] at last
        exact ends item last

theorem spaceless_number (number : Nat) : Spaceless ("-" ++ itoa number) := by
  have dash : Spaceless "-" := by
    intro rune member
    rw [show rune = '-' by simpa using member]
    decide
  exact dash.append fun rune member => isSpace_of_isDigit (isDigit_itoa (Int.natCast_nonneg _) rune member)

theorem trimSpace_numbered {base : String} (trimmed : trimSpace base = base) (given : base ≠ "") (number : Nat) :
    trimSpace (base ++ "-" ++ itoa number) = base ++ "-" ++ itoa number := by
  have runes : trimList isSpace base.toList = base.toList := by
    have same := congrArg String.toList trimmed
    rwa [trimSpace, String.toList_ofList] at same
  have nonempty : base.toList ≠ [] := fun empty => given (String.toList_inj.mp empty)
  rw [String.append_assoc, trimSpace, String.toList_append, trimList_append runes nonempty (spaceless_number number),
    ← String.toList_append, String.ofList_toList]

theorem firstFreeTag_form (base : String) (used : List String) (fuel number : Nat) :
    ∃ found : Nat, firstFreeTag base used fuel number = base ++ "-" ++ itoa found := by
  induction fuel generalizing number with
  | zero => exact ⟨number, rfl⟩
  | succ fuel ih =>
      rw [firstFreeTag]
      split
      · exact ih (number + 1)
      · exact ⟨number, rfl⟩

/-- If the search ends at a tag that is used, all variants it went through are. -/
theorem firstFreeTag_used {base : String} {used : List String} {fuel number : Nat}
    (taken : firstFreeTag base used fuel number ∈ used) :
    ∀ i ≤ fuel, base ++ "-" ++ itoa ((number + i : Nat) : Int) ∈ used := by
  induction fuel generalizing number with
  | zero =>
      intro i bound
      rw [Nat.le_zero.mp bound]
      exact taken
  | succ fuel ih =>
      rw [firstFreeTag] at taken
      split at taken
      · rename_i first
        intro i bound
        cases i with
        | zero => exact List.contains_iff_mem.mp first
        | succ i =>
            have later := ih taken i (Nat.le_of_succ_le_succ bound)
            rwa [Nat.add_right_comm] at later
      · rename_i free
        exact absurd (List.contains_iff_mem.mpr taken) free

/-- Among one more variants than there are used tags, one is free. -/
theorem firstFreeTag_free (base : String) (used : List String) :
    firstFreeTag base used used.length 2 ∉ used := by
  intro taken
  have all := firstFreeTag_used taken
  let variants := (List.range (used.length + 1)).map fun i => base ++ "-" ++ itoa ((2 + i : Nat) : Int)
  have distinct : variants.Nodup := by
    refine List.Nodup.map_on (fun left _ right _ same => ?_) List.nodup_range
    have runes := congrArg String.toList same
    rw [String.toList_append, String.toList_append (t := itoa _)] at runes
    have numbers := itoa_inj (Int.natCast_nonneg _) (Int.natCast_nonneg _)
      (String.toList_inj.mp (List.append_cancel_left runes))
    omega
  have inside : variants ⊆ used := by
    intro tag member
    obtain ⟨i, bound, rfl⟩ := List.mem_map.mp member
    exact all i (Nat.le_of_lt_succ (List.mem_range.mp bound))
  have most := (distinct.subperm inside).length_le
  rw [List.length_map, List.length_range] at most
  omega

theorem tagBase_spec (base : String) :
    trimSpace (orElse (trimSpace base) "sub-node") = orElse (trimSpace base) "sub-node" ∧
      orElse (trimSpace base) "sub-node" ≠ "" := by
  unfold orElse
  split
  · exact ⟨by with_unfolding_all decide, by with_unfolding_all decide⟩
  · rename_i given
    exact ⟨trimSpace_trimSpace base, given⟩

theorem uniqueTag_free (base : String) (used : List String) : uniqueTag base used ∉ used := by
  unfold uniqueTag
  dsimp only
  split
  · exact firstFreeTag_free _ _
  · rename_i free
    exact fun taken => free (List.contains_iff_mem.mpr taken)

theorem uniqueTag_trimmed (base : String) (used : List String) :
    trimSpace (uniqueTag base used) = uniqueTag base used := by
  obtain ⟨trimmed, given⟩ := tagBase_spec base
  unfold uniqueTag
  dsimp only
  split
  · obtain ⟨number, form⟩ := firstFreeTag_form (orElse (trimSpace base) "sub-node") used used.length 2
    rw [form]
    exact trimSpace_numbered trimmed given number
  · exact trimmed

theorem uniqueTag_given (base : String) (used : List String) : uniqueTag base used ≠ "" := by
  obtain ⟨_, given⟩ := tagBase_spec base
  unfold uniqueTag
  dsimp only
  split
  · obtain ⟨number, form⟩ := firstFreeTag_form (orElse (trimSpace base) "sub-node") used used.length 2
    intro empty
    rw [form] at empty
    have runes := congrArg String.toList empty
    simp at runes
  · exact given

end MiGate.Subscription
