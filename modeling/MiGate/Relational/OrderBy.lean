import Mathlib.Data.List.Sort

namespace Relational

/-! `ORDER BY`: what stands first in a sorted list. -/

variable {ρ κ : Type} {before : ρ → ρ → Prop}

/-- An element that none of the others stands before leads every list sorted so. -/
theorem head?_of_least {items : List ρ} {first : ρ} (sorted : items.Pairwise before) (member : first ∈ items)
    (least : ∀ other ∈ items, before other first → other = first) : items.head? = some first := by
  cases items with
  | nil => cases member
  | cons head rest =>
      rcases List.mem_cons.mp member with rfl | later
      · rfl
      · have stands := List.rel_of_pairwise_cons sorted later
        rw [List.head?_cons, least head List.mem_cons_self stands]

/-- So does it after some of the others have been left out. -/
theorem find?_of_least {items : List ρ} {first : ρ} {selected : ρ → Bool} (sorted : items.Pairwise before)
    (member : first ∈ items) (chosen : selected first = true)
    (least : ∀ other ∈ items, before other first → other = first) : items.find? selected = some first := by
  rw [← List.head?_filter]
  refine head?_of_least (sorted.filter selected) (List.mem_filter.mpr ⟨member, chosen⟩) ?_
  exact fun other inside => least other (List.mem_of_mem_filter inside)

/-- The order of a numbered list: the element that leads it has the least number. -/
theorem zipIdx_of_head {keys : List κ} {first key : κ} {place : Nat} (nodup : keys.Nodup)
    (leads : keys.head? = some first) (member : (key, place) ∈ keys.zipIdx) : key = first ↔ place = 0 := by
  have placed : keys[place]? = some key := List.mem_zipIdx_iff_getElem?.mp member
  rw [List.head?_eq_getElem?] at leads
  constructor
  · rintro rfl
    obtain ⟨inside, there⟩ := List.getElem?_eq_some_iff.mp placed
    obtain ⟨nonempty, here⟩ := List.getElem?_eq_some_iff.mp leads
    exact (nodup.getElem_inj_iff).mp (there.trans here.symm)
  · rintro rfl
    exact Option.some.inj (placed.symm.trans leads)

end Relational
