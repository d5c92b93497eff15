import MiGate.Relational.Serial
import Mathlib.Data.List.Perm.Subperm

namespace Relational

/-! Numbering: `UPDATE … SET place = ? WHERE id = ?` for each key of a list in turn, and what is
then listed in the order of the places. -/

section

variable {κ : Type} [DecidableEq κ] {keys items : List κ}

omit [DecidableEq κ] in
/-- A list that covers as many different keys as it is long has each of them once. -/
theorem perm_of_covers (nodup : keys.Nodup) (covered : keys ⊆ items) (size : items.length = keys.length) :
    items.Perm keys :=
  ((List.subperm_of_subset nodup covered).perm_of_length_le (Nat.le_of_eq size)).symm

/-- Keys that stand in the order of their places in a list are that list. -/
theorem eq_of_placed (nodup : keys.Nodup) (perm : items.Perm keys)
    (placed : items.Pairwise fun left right => keys.idxOf left ≤ keys.idxOf right) : items = keys := by
  have ordered : keys.Pairwise fun left right => keys.idxOf left ≤ keys.idxOf right := by
    rw [List.pairwise_iff_getElem]
    intro i j first second less
    rw [nodup.idxOf_getElem i first, nodup.idxOf_getElem j second]
    exact Nat.le_of_lt less
  refine perm.eq_of_pairwise ?_ placed ordered
  intro left right leftInside _ before behind
  exact (List.idxOf_inj (perm.mem_iff.mp leftInside)).mp (Nat.le_antisymm before behind)

/-- Rows that are sorted by the places of their keys list those keys. -/
theorem map_eq_of_sorted {ρ : Type} {key : ρ → κ} {before : ρ → ρ → Prop} {rows : List ρ} (nodup : keys.Nodup)
    (perm : (rows.map key).Perm keys) (sorted : rows.Pairwise before)
    (placed : ∀ left ∈ rows, ∀ right ∈ rows, before left right → keys.idxOf (key left) ≤ keys.idxOf (key right)) :
    rows.map key = keys := by
  refine eq_of_placed nodup perm ?_
  rw [List.pairwise_map]
  exact sorted.imp_of_mem fun {left right} leftInside rightInside before =>
    placed left leftInside right rightInside before

theorem lookup_zipIdx (keys : List κ) (key : κ) (first : Nat) :
    (keys.zipIdx first).lookup key = if key ∈ keys then some (first + keys.idxOf key) else none := by
  induction keys generalizing first with
  | nil => rfl
  | cons other rest ih =>
      by_cases here : key = other
      · rw [List.zipIdx_cons, here, List.lookup_cons_self, if_pos List.mem_cons_self, List.idxOf_cons_self,
          Nat.add_zero]
      · have apart : (key == other) = false := beq_eq_false_iff_ne.mpr here
        rw [List.zipIdx_cons, List.lookup_cons, apart, ih]
        by_cases later : key ∈ rest
        · rw [if_pos later, if_pos (List.mem_cons_of_mem _ later), List.idxOf_cons_ne _ (Ne.symm here)]
          simp only [Nat.add_assoc, Nat.add_comm 1]
        · have absent : key ∉ other :: rest := by
            rw [List.mem_cons, not_or]
            exact ⟨here, later⟩
          rw [if_neg later, if_neg absent]

end

namespace Serial

variable {ρ : Type} {id : ρ → Int} {change : Nat → ρ → ρ}

def number (change : Nat → ρ → ρ) (keeps : ∀ place row, id (change place row) = id row) (keys : List Int)
    (table : Serial id) : Serial id :=
  keys.zipIdx.foldl (fun table (key, place) =>
    table.modifyWhere (fun row => id row == key) (change place) (keeps place)) table

private theorem foldl_rows (keeps : ∀ place row, id (change place row) = id row) {pairs : List (Int × Nat)}
    (nodup : (pairs.map Prod.fst).Nodup) (table : Serial id) :
    (pairs.foldl (fun table (key, place) =>
        table.modifyWhere (fun row => id row == key) (change place) (keeps place)) table).rows =
      table.rows.map fun row => ((pairs.lookup (id row)).map fun place => change place row).getD row := by
  induction pairs generalizing table with
  | nil => exact (List.map_id _).symm
  | cons pair rest ih =>
      obtain ⟨key, place⟩ := pair
      rw [List.map_cons, List.nodup_cons] at nodup
      rw [List.foldl_cons, ih nodup.2]
      simp only [modifyWhere, List.map_map]
      refine List.map_congr_left fun row _ => ?_
      dsimp only [Function.comp_apply]
      by_cases named : id row = key
      · -- No later key names the row again.
        have unnamed : rest.lookup key = none := by
          rw [List.lookup_eq_none_iff]
          intro other inside
          refine bne_iff_ne.mpr fun same => nodup.1 ?_
          exact List.mem_map.mpr ⟨other, inside, same.symm⟩
        rw [if_pos (beq_iff_eq.mpr named), keeps, named, unnamed, List.lookup_cons_self]
        rfl
      · have apart : (id row == key) = false := beq_eq_false_iff_ne.mpr named
        have missed : ¬(id row == key) = true := by rwa [beq_iff_eq]
        rw [if_neg missed, List.lookup_cons, apart]

/-- Each row that is named gets the place of its key. -/
theorem number_rows (keeps : ∀ place row, id (change place row) = id row) {keys : List Int} (nodup : keys.Nodup)
    (table : Serial id) : (table.number change keeps keys).rows =
      table.rows.map fun row => if id row ∈ keys then change (keys.idxOf (id row)) row else row := by
  have named : (keys.zipIdx.map Prod.fst).Nodup := by rwa [List.zipIdx_map_fst]
  rw [number, foldl_rows keeps named]
  refine List.map_congr_left fun row _ => ?_
  rw [lookup_zipIdx]
  split
  · rw [Nat.zero_add]
    rfl
  · rfl

end Serial

end Relational
