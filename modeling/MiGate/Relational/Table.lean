import Mathlib.Algebra.Ring.Int.Defs
import Mathlib.Data.List.Nodup
import Mathlib.Data.List.Pairwise

namespace Relational

/-! Finite tables with a unique key, the part of a relational store a sequential
client observes: rows in insertion order, no two with the same key. -/

structure Table {ρ κ : Type} (key : ρ → κ) where
  rows : List ρ
  distinct : (rows.map key).Nodup

namespace Table

variable {ρ κ : Type} {key : ρ → κ} [DecidableEq κ]

def empty : Table key where
  rows := []
  distinct := List.nodup_nil

instance : Inhabited (Table key) := ⟨empty⟩

def find? (table : Table key) (wanted : κ) : Option ρ :=
  table.rows.find? fun row => key row = wanted

/-- `UPDATE … SET … WHERE`: rewrites the selected rows, leaving their keys alone. -/
def modifyWhere (table : Table key) (selected : ρ → Bool) (change : ρ → ρ)
    (keeps : ∀ row, key (change row) = key row) : Table key where
  rows := table.rows.map fun row => if selected row then change row else row
  distinct := by
    have same : (table.rows.map fun row => if selected row then change row else row).map key =
        table.rows.map key := by
      rw [List.map_map]
      refine List.map_congr_left fun row _ => ?_
      simp only [Function.comp_apply]
      split
      · exact keeps row
      · rfl
    rw [same]
    exact table.distinct

/-- `DELETE … WHERE`. -/
def deleteWhere (table : Table key) (selected : ρ → Bool) : Table key where
  rows := table.rows.filter fun row => !selected row
  distinct := table.distinct.sublist (List.filter_sublist.map key)

theorem find?_eq_none {table : Table key} {wanted : κ} :
    table.find? wanted = none ↔ ∀ row ∈ table.rows, key row ≠ wanted := by
  simp [find?]

theorem key_of_find? {table : Table key} {wanted : κ} {row : ρ}
    (found : table.find? wanted = some row) : key row = wanted := by
  simpa using List.find?_some found

theorem mem_of_find? {table : Table key} {wanted : κ} {row : ρ}
    (found : table.find? wanted = some row) : row ∈ table.rows :=
  List.mem_of_find?_eq_some found

private theorem findIn_of_mem {rows : List ρ} {row : ρ} (distinct : (rows.map key).Nodup)
    (member : row ∈ rows) : rows.find? (fun other => key other = key row) = some row := by
  induction rows with
  | nil => cases member
  | cons first rest ih =>
      rw [List.map_cons, List.nodup_cons] at distinct
      rcases List.mem_cons.mp member with rfl | inside
      · simp
      · have other : key first ≠ key row := fun same =>
          distinct.1 (same ▸ List.mem_map_of_mem inside)
        simp [other, ih distinct.2 inside]

/-- A key names at most one row, so looking a row up under its own key finds it. -/
theorem find?_of_mem {table : Table key} {row : ρ} (member : row ∈ table.rows) :
    table.find? (key row) = some row :=
  findIn_of_mem table.distinct member

theorem eq_of_key_eq {table : Table key} {left right : ρ} (leftMember : left ∈ table.rows)
    (rightMember : right ∈ table.rows) (same : key left = key right) : left = right := by
  have found := find?_of_mem leftMember
  rw [same, find?_of_mem rightMember] at found
  exact (Option.some.inj found).symm

theorem find?_modifyWhere (table : Table key) (selected : ρ → Bool) (change : ρ → ρ)
    (keeps : ∀ row, key (change row) = key row) (wanted : κ) :
    (table.modifyWhere selected change keeps).find? wanted =
      (table.find? wanted).map fun row => if selected row then change row else row := by
  simp only [find?, modifyWhere, List.find?_map]
  congr 2
  funext row
  simp only [Function.comp_apply]
  split
  · rw [keeps]
  · rfl

omit [DecidableEq κ] in
theorem mem_modifyWhere {table : Table key} {selected : ρ → Bool} {change : ρ → ρ}
    {keeps : ∀ row, key (change row) = key row} {row : ρ} :
    row ∈ (table.modifyWhere selected change keeps).rows ↔
      ∃ old ∈ table.rows, (if selected old then change old else old) = row := by
  simp [modifyWhere]

/-- `INSERT … ON CONFLICT(key) DO UPDATE`: replaces the row with the same key in
place, or appends it. -/
def upsert (table : Table key) (row : ρ) : Table key :=
  if absent : table.find? (key row) = none then
    { rows := table.rows ++ [row]
      distinct := by
        rw [List.map_append, List.nodup_append]
        refine ⟨table.distinct, List.nodup_singleton _, ?_⟩
        intro left leftMember right rightMember same
        obtain ⟨old, oldMember, rfl⟩ := List.mem_map.mp leftMember
        simp only [List.map_cons, List.map_nil, List.mem_singleton] at rightMember
        exact find?_eq_none.mp absent old oldMember (same.trans rightMember) }
  else
    { rows := table.rows.map fun old => if key old = key row then row else old
      distinct := by
        have same : (table.rows.map fun old => if key old = key row then row else old).map key =
            table.rows.map key := by
          rw [List.map_map]
          refine List.map_congr_left fun old _ => ?_
          simp only [Function.comp_apply]
          split
          · rename_i equal
            exact equal.symm
          · rfl
        rw [same]
        exact table.distinct }

theorem find?_upsert_self (table : Table key) (row : ρ) :
    (table.upsert row).find? (key row) = some row := by
  unfold upsert
  split
  · rename_i absent
    have missing : table.rows.find? (fun old => key old = key row) = none := absent
    simp [find?, List.find?_append, missing]
  · rename_i present
    simp only [find?, List.find?_map]
    have agrees : ((fun old : ρ => decide (key old = key row)) ∘
        fun old => if key old = key row then row else old) = fun old => decide (key old = key row) := by
      funext old
      simp only [Function.comp_apply]
      split <;> simp_all
    rw [agrees]
    obtain ⟨old, found⟩ := Option.ne_none_iff_exists'.mp present
    have located : table.rows.find? (fun old => key old = key row) = some old := found
    simp [located, key_of_find? found]

theorem find?_upsert_of_ne (table : Table key) {row : ρ} {wanted : κ} (other : key row ≠ wanted) :
    (table.upsert row).find? wanted = table.find? wanted := by
  unfold upsert
  split
  · simp [find?, List.find?_append, other]
  · simp only [find?, List.find?_map]
    have agrees : ((fun old : ρ => decide (key old = wanted)) ∘
        fun old => if key old = key row then row else old) = fun old => decide (key old = wanted) := by
      funext old
      simp only [Function.comp_apply]
      split <;> simp_all
    rw [agrees]
    cases found : table.rows.find? (fun old => key old = wanted) with
    | none => rfl
    | some old =>
        have named : key old = wanted := by simpa using List.find?_some found
        have kept : key old ≠ key row := fun same => other (same.symm.trans named)
        simp [kept]

theorem find?_upsert (table : Table key) (row : ρ) (wanted : κ) :
    (table.upsert row).find? wanted = if key row = wanted then some row else table.find? wanted := by
  split
  · rename_i same
    rw [← same, find?_upsert_self]
  · rename_i other
    exact find?_upsert_of_ne table other

/-- Rows upserted under other keys leave a key alone. -/
theorem find?_foldl_upsert_of_ne {rows : List ρ} {wanted : κ} (others : ∀ row ∈ rows, key row ≠ wanted) (table : Table key) :
    (rows.foldl Table.upsert table).find? wanted = table.find? wanted := by
  induction rows generalizing table with
  | nil => rfl
  | cons row rest ih =>
      rw [List.foldl_cons, ih fun row member => others row (List.mem_cons_of_mem _ member)]
      exact find?_upsert_of_ne table (others row List.mem_cons_self)

/-- Each of the rows upserted under keys of their own is found. -/
theorem find?_foldl_upsert {rows : List ρ} (distinct : (rows.map key).Nodup) {row : ρ} (member : row ∈ rows)
    (table : Table key) : (rows.foldl Table.upsert table).find? (key row) = some row := by
  induction rows generalizing table with
  | nil => cases member
  | cons first rest ih =>
      rw [List.map_cons, List.nodup_cons] at distinct
      obtain ⟨alone, restDistinct⟩ := distinct
      rw [List.foldl_cons]
      rcases List.mem_cons.mp member with rfl | inside
      · rw [find?_foldl_upsert_of_ne (fun other otherMember same => alone (List.mem_map.mpr ⟨other, otherMember, same⟩))]
        exact find?_upsert_self table row
      · exact ih restDistinct inside (table.upsert first)

/-! ### Sums over the rows -/

theorem find?_deleteWhere (table : Table key) (selected : ρ → Bool) (wanted : κ) :
    (table.deleteWhere selected).find? wanted = (table.find? wanted).filter fun row => !selected row := by
  cases kept : (table.deleteWhere selected).find? wanted with
  | none =>
      cases found : table.find? wanted with
      | none => rfl
      | some row =>
          have absent := find?_eq_none.mp kept row
          have member := mem_of_find? found
          have gone : selected row = true := by
            by_contra spared
            exact absent (List.mem_filter.mpr ⟨member, by simpa using spared⟩) (key_of_find? found)
          simp [Option.filter, gone]
  | some row =>
      have member := List.mem_filter.mp (mem_of_find? kept)
      have found : table.find? wanted = some row := by
        rw [← key_of_find? kept]
        exact find?_of_mem member.1
      rw [found, Option.filter, if_pos member.2]

private theorem sum_replace {rows : List ρ} {row : ρ} (distinct : (rows.map key).Nodup) (amount : ρ → Int) :
    ((rows.map fun old => if key old = key row then row else old).map amount).sum =
      (rows.map amount).sum +
        ((rows.find? fun old => key old = key row).map fun old => amount row - amount old).getD 0 := by
  induction rows with
  | nil => rfl
  | cons first rest ih =>
      rw [List.map_cons, List.nodup_cons] at distinct
      by_cases same : key first = key row
      · have untouched : rest.map (fun old => if key old = key row then row else old) = rest := by
          refine (List.map_congr_left fun old member => ?_).trans (List.map_id rest)
          have other : key old ≠ key row := fun equal =>
            distinct.1 (List.mem_map.mpr ⟨old, member, equal.trans same.symm⟩)
          simp [other]
        simp only [List.map_cons, same, if_true, List.sum_cons, untouched, List.find?_cons_of_pos,
          decide_true, Option.map_some, Option.getD_some]
        omega
      · simp only [List.map_cons, same, if_false, List.sum_cons, ih distinct.2, List.find?_cons,
          decide_false]
        omega

theorem sum_upsert (table : Table key) (row : ρ) (amount : ρ → Int) :
    ((table.upsert row).rows.map amount).sum =
      (table.rows.map amount).sum - ((table.find? (key row)).map amount).getD 0 + amount row := by
  unfold upsert
  split
  · rename_i absent
    simp [absent]
  · rename_i present
    rw [sum_replace table.distinct amount]
    cases found : table.find? (key row) with
    | none => exact absurd found present
    | some old =>
        rw [find?] at found
        rw [found]
        simp only [Option.map_some, Option.getD_some]
        omega

omit [DecidableEq κ] in
/-- Deleting rows that count nothing leaves a sum alone. -/
theorem sum_deleteWhere {table : Table key} {selected : ρ → Bool} {amount : ρ → Int}
    (spared : ∀ row ∈ table.rows, selected row = true → amount row = 0) :
    ((table.deleteWhere selected).rows.map amount).sum = (table.rows.map amount).sum := by
  unfold deleteWhere
  obtain ⟨rows, distinct⟩ := table
  simp only at spared ⊢
  clear distinct
  induction rows with
  | nil => rfl
  | cons first rest ih =>
      have tail := ih fun row member => spared row (List.mem_cons_of_mem _ member)
      cases chosen : selected first with
      | true =>
          have nothing := spared first List.mem_cons_self chosen
          simp [chosen, tail, nothing]
      | false => simp [chosen, tail]

end Table

end Relational
