import MiGate.Relational.Table

namespace Relational

/-! Tables whose key is an automatically incremented integer: a row gets the next
number, numbers are never used again, and the rows stay in the order of their numbers. -/

structure Serial {ρ : Type} (id : ρ → Int) where
  rows : List ρ
  next : Int
  ascending : rows.Pairwise fun left right => id left < id right
  positive : ∀ row ∈ rows, 0 < id row
  bounded : ∀ row ∈ rows, id row < next
  nextPositive : 0 < next

namespace Serial

variable {ρ : Type} {id : ρ → Int}

def empty : Serial id where
  rows := []
  next := 1
  ascending := .nil
  positive := by simp
  bounded := by simp
  nextPositive := by decide

instance : Inhabited (Serial id) := ⟨empty⟩

theorem ids_nodup (table : Serial id) : (table.rows.map id).Nodup :=
  List.pairwise_map.mpr (table.ascending.imp fun less => Int.ne_of_lt less)

def toTable (table : Serial id) : Table id where
  rows := table.rows
  distinct := table.ids_nodup

def find? (table : Serial id) (wanted : Int) : Option ρ :=
  table.toTable.find? wanted

/-- `INSERT` without a number: the row is made with the next one. -/
def insert (table : Serial id) (make : Int → ρ) (named : ∀ number, id (make number) = number) :
    Serial id where
  rows := table.rows ++ [make table.next]
  next := table.next + 1
  ascending := by
    rw [List.pairwise_append]
    refine ⟨table.ascending, List.pairwise_singleton .., ?_⟩
    intro left leftMember right rightMember
    rw [List.mem_singleton.mp rightMember, named]
    exact table.bounded left leftMember
  positive := by
    intro row member
    rcases List.mem_append.mp member with old | new
    · exact table.positive row old
    · rw [List.mem_singleton.mp new, named]
      exact table.nextPositive
  bounded := by
    intro row member
    rcases List.mem_append.mp member with old | new
    · exact Int.lt_trans (table.bounded row old) (Int.lt_succ _)
    · rw [List.mem_singleton.mp new, named]
      omega
  nextPositive := by
    have := table.nextPositive
    omega

/-- `UPDATE … SET … WHERE`. -/
def modifyWhere (table : Serial id) (selected : ρ → Bool) (change : ρ → ρ)
    (keeps : ∀ row, id (change row) = id row) : Serial id where
  rows := table.rows.map fun row => if selected row then change row else row
  next := table.next
  ascending := by
    rw [List.pairwise_map]
    refine table.ascending.imp fun {left right} less => ?_
    have kept : ∀ row, id (if selected row then change row else row) = id row := by
      intro row
      split
      · exact keeps row
      · rfl
    rw [kept, kept]
    exact less
  positive := by
    intro row member
    obtain ⟨old, oldMember, rfl⟩ := List.mem_map.mp member
    split
    · rw [keeps]
      exact table.positive old oldMember
    · exact table.positive old oldMember
  bounded := by
    intro row member
    obtain ⟨old, oldMember, rfl⟩ := List.mem_map.mp member
    split
    · rw [keeps]
      exact table.bounded old oldMember
    · exact table.bounded old oldMember
  nextPositive := table.nextPositive

/-- `DELETE … WHERE`. -/
def deleteWhere (table : Serial id) (selected : ρ → Bool) : Serial id where
  rows := table.rows.filter fun row => !selected row
  next := table.next
  ascending := table.ascending.filter _
  positive := fun row member => table.positive row (List.mem_of_mem_filter member)
  bounded := fun row member => table.bounded row (List.mem_of_mem_filter member)
  nextPositive := table.nextPositive

@[simp] theorem toTable_rows (table : Serial id) : table.toTable.rows = table.rows := rfl

theorem find?_eq_none {table : Serial id} {wanted : Int} :
    table.find? wanted = none ↔ ∀ row ∈ table.rows, id row ≠ wanted :=
  Table.find?_eq_none

theorem id_of_find? {table : Serial id} {wanted : Int} {row : ρ}
    (found : table.find? wanted = some row) : id row = wanted :=
  Table.key_of_find? found

theorem mem_of_find? {table : Serial id} {wanted : Int} {row : ρ}
    (found : table.find? wanted = some row) : row ∈ table.rows :=
  Table.mem_of_find? found

theorem pos_of_find? {table : Serial id} {key : Int} {row : ρ} (found : table.find? key = some row) :
    0 < key := by
  rw [← id_of_find? found]
  exact table.positive row (mem_of_find? found)

theorem find?_of_mem {table : Serial id} {row : ρ} (member : row ∈ table.rows) :
    table.find? (id row) = some row :=
  Table.find?_of_mem (show row ∈ table.toTable.rows from member)

theorem eq_of_id_eq {table : Serial id} {left right : ρ} (leftMember : left ∈ table.rows)
    (rightMember : right ∈ table.rows) (same : id left = id right) : left = right :=
  Table.eq_of_key_eq (show left ∈ table.toTable.rows from leftMember) rightMember same

@[simp] theorem mem_insert {table : Serial id} {make : Int → ρ}
    {named : ∀ number, id (make number) = number} {row : ρ} :
    row ∈ (table.insert make named).rows ↔ row ∈ table.rows ∨ row = make table.next := by
  simp [insert]

@[simp] theorem mem_modifyWhere {table : Serial id} {selected : ρ → Bool} {change : ρ → ρ}
    {keeps : ∀ row, id (change row) = id row} {row : ρ} :
    row ∈ (table.modifyWhere selected change keeps).rows ↔
      ∃ old ∈ table.rows, (if selected old then change old else old) = row := by
  simp [modifyWhere]

@[simp] theorem mem_deleteWhere {table : Serial id} {selected : ρ → Bool} {row : ρ} :
    row ∈ (table.deleteWhere selected).rows ↔ row ∈ table.rows ∧ selected row = false := by
  simp [deleteWhere]

/-! What the operations do to a column. -/

theorem map_insert {α : Type} (column : ρ → α) (table : Serial id) (make : Int → ρ)
    (named : ∀ number, id (make number) = number) :
    (table.insert make named).rows.map column = table.rows.map column ++ [column (make table.next)] := by
  simp [insert]

theorem map_modifyWhere {α : Type} (column : ρ → α) (table : Serial id) (selected : ρ → Bool)
    (change : ρ → ρ) (keeps : ∀ row, id (change row) = id row)
    (same : ∀ row ∈ table.rows, selected row = true → column (change row) = column row) :
    (table.modifyWhere selected change keeps).rows.map column = table.rows.map column := by
  simp only [modifyWhere, List.map_map]
  refine List.map_congr_left fun row member => ?_
  simp only [Function.comp_apply]
  split
  · rename_i chosen
    exact same row member chosen
  · rfl

theorem map_deleteWhere_subset {α : Type} (column : ρ → α) (table : Serial id) (selected : ρ → Bool) :
    (table.deleteWhere selected).rows.map column ⊆ table.rows.map column :=
  List.map_subset column (List.filter_subset_self _)

/-- A column without repetitions stays so when one row gets a value no other row has. -/
theorem nodup_modifyWhere {α : Type} {column : ρ → α} {table : Serial id} {wanted : Int}
    {selected : ρ → Bool} {change : ρ → ρ} (keeps : ∀ row, id (change row) = id row)
    (nodup : (table.rows.map column).Nodup)
    (one : ∀ row ∈ table.rows, selected row = true → id row = wanted)
    (fresh : ∀ row ∈ table.rows, selected row = true →
      ∀ other ∈ table.rows, id other ≠ wanted → column other ≠ column (change row)) :
    ((table.modifyWhere selected change keeps).rows.map column).Nodup := by
  unfold List.Nodup at nodup ⊢
  rw [List.pairwise_map] at nodup
  rw [modifyWhere, List.map_map, List.pairwise_map]
  refine (table.ascending.and nodup).imp_of_mem fun {left right} leftMember rightMember both => ?_
  obtain ⟨less, apart⟩ := both
  simp only [Function.comp_apply]
  split
  · rename_i leftChosen
    have leftNamed := one left leftMember leftChosen
    split
    · rename_i rightChosen
      have rightNamed := one right rightMember rightChosen
      omega
    · exact Ne.symm (fresh left leftMember leftChosen right rightMember (by omega))
  · split
    · rename_i rightChosen
      have rightNamed := one right rightMember rightChosen
      exact fresh right rightMember rightChosen left leftMember (by omega)
    · exact apart

theorem find?_isSome {table : Serial id} {wanted : Int} :
    (table.find? wanted).isSome = true ↔ wanted ∈ table.rows.map id := by
  rw [List.mem_map, Option.isSome_iff_exists]
  constructor
  · rintro ⟨row, found⟩
    exact ⟨row, mem_of_find? found, id_of_find? found⟩
  · rintro ⟨row, member, rfl⟩
    exact ⟨row, find?_of_mem member⟩

theorem next_fresh {table : Serial id} : table.next ∉ table.rows.map id := by
  rw [List.mem_map]
  rintro ⟨row, member, named⟩
  have below := table.bounded row member
  omega

theorem ext_rows {left right : Serial id} (rows : left.rows = right.rows) (next : left.next = right.next) :
    left = right := by
  cases left
  cases right
  cases rows
  cases next
  rfl

theorem deleteWhere_nothing {table : Serial id} {selected : ρ → Bool}
    (spared : ∀ row ∈ table.rows, selected row = false) : table.deleteWhere selected = table := by
  refine ext_rows ?_ rfl
  rw [deleteWhere, List.filter_eq_self]
  intro row member
  rw [spared row member]
  rfl

theorem deleteWhere_congr {table : Serial id} {left right : ρ → Bool}
    (same : ∀ row ∈ table.rows, left row = right row) : table.deleteWhere left = table.deleteWhere right := by
  refine ext_rows ?_ rfl
  refine List.filter_congr fun row member => ?_
  rw [same row member]

theorem deleteWhere_deleteWhere (table : Serial id) (first second : ρ → Bool) :
    (table.deleteWhere first).deleteWhere second = table.deleteWhere fun row => first row || second row := by
  refine ext_rows ?_ rfl
  simp only [deleteWhere, List.filter_filter, Bool.not_or, Bool.and_comm]

/-- Rows that two tables have both or neither are in one order in both. -/
theorem filter_rows_eq {left right : Serial id} {keep : ρ → Bool}
    (same : ∀ row, keep row = true → (row ∈ left.rows ↔ row ∈ right.rows)) :
    left.rows.filter keep = right.rows.filter keep := by
  have members : ∀ row, row ∈ left.rows.filter keep ↔ row ∈ right.rows.filter keep := by
    intro row
    rw [List.mem_filter, List.mem_filter]
    exact and_congr_left (same row)
  have leftNodup := (List.Nodup.of_map id left.ids_nodup).filter keep
  have rightNodup := (List.Nodup.of_map id right.ids_nodup).filter keep
  refine ((List.perm_ext_iff_of_nodup leftNodup rightNodup).mpr members).eq_of_pairwise ?_
    (left.ascending.filter keep) (right.ascending.filter keep)
  intro first second _ _ less greater
  omega

end Serial

end Relational
