import MiGate.Relational.Serial

namespace Relational.Serial

variable {ρ β : Type} {id : ρ → Int} [DecidableEq β] {watched : ρ → β} {before after : Serial id}

/-! Row triggers: how often the triggers of a table fire while statements take it from one
state to another. -/

/-- The rows `AFTER INSERT` has fired for. -/
def inserted (before after : Serial id) : Nat :=
  after.rows.countP fun row => !(before.find? (id row)).isSome

/-- The rows `AFTER DELETE` has fired for. -/
def deleted (before after : Serial id) : Nat :=
  before.rows.countP fun row => !(after.find? (id row)).isSome

/-- The rows `AFTER UPDATE OF` the watched columns has fired for. -/
def updated (watched : ρ → β) (before after : Serial id) : Nat :=
  before.rows.countP fun row => (after.find? (id row)).any fun new => watched new != watched row

/-- The least number of firings.  An `UPDATE` also fires for a row it leaves as it was. -/
def firings (watched : ρ → β) (before after : Serial id) : Nat :=
  before.inserted after + before.deleted after + before.updated watched after

theorem silent_iff : before.firings watched after = 0 ↔
    (∀ row ∈ after.rows, (before.find? (id row)).isSome) ∧
      ∀ row ∈ before.rows, ∃ new ∈ after.rows, id new = id row ∧ watched new = watched row := by
  unfold firings inserted deleted updated
  simp only [Nat.add_eq_zero_iff, List.countP_eq_zero, Bool.not_eq_true', Bool.not_eq_false, and_assoc]
  refine and_congr_right fun _ => ?_
  constructor
  · rintro ⟨there, same⟩ row member
    obtain ⟨new, found⟩ := Option.isSome_iff_exists.mp (there row member)
    have kept := same row member
    rw [found, Option.any_some, bne_iff_ne, not_not] at kept
    exact ⟨new, mem_of_find? found, id_of_find? found, kept⟩
  · intro kept
    have found : ∀ row ∈ before.rows, ∃ new, after.find? (id row) = some new ∧ watched new = watched row := by
      intro row member
      obtain ⟨new, inside, named, same⟩ := kept row member
      refine ⟨new, ?_, same⟩
      rw [← named]
      exact find?_of_mem inside
    constructor
    · intro row member
      obtain ⟨new, there, _⟩ := found row member
      rw [there]
      rfl
    · intro row member
      obtain ⟨new, there, same⟩ := found row member
      rw [there, Option.any_some, bne_iff_ne, not_not]
      exact same

/-- While no trigger fires, the watched columns of a table stay as they are, and so does any
column that no statement writes. -/
theorem column_of_silent {γ : Type} {column : ρ → γ} (silent : before.firings watched after = 0)
    (same : ∀ old ∈ before.rows, ∀ new ∈ after.rows, id new = id old → watched new = watched old →
      column new = column old) :
    after.rows.map column = before.rows.map column := by
  obtain ⟨known, kept⟩ := silent_iff.mp silent
  have named : ∀ (table : Serial id), (table.rows.map fun row => (id row, column row)).Pairwise
      fun left right => left.1 < right.1 := fun table => List.pairwise_map.mpr table.ascending
  have nodup : ∀ (table : Serial id), (table.rows.map fun row => (id row, column row)).Nodup := by
    intro table
    refine (named table).imp fun {left right} less equal => ?_
    rw [equal] at less
    exact Int.lt_irrefl _ less
  have members : ∀ pair, pair ∈ (after.rows.map fun row => (id row, column row)) ↔
      pair ∈ before.rows.map fun row => (id row, column row) := by
    intro pair
    rw [List.mem_map, List.mem_map]
    constructor
    · rintro ⟨new, inside, rfl⟩
      obtain ⟨old, found⟩ := Option.isSome_iff_exists.mp (known new inside)
      have stored := mem_of_find? found
      obtain ⟨other, there, names, unchanged⟩ := kept old stored
      have equal : new = other := eq_of_id_eq inside there ((id_of_find? found).symm.trans names.symm)
      rw [equal]
      exact ⟨old, stored, Prod.ext names.symm (same old stored other there names unchanged).symm⟩
    · rintro ⟨old, stored, rfl⟩
      obtain ⟨new, inside, names, unchanged⟩ := kept old stored
      exact ⟨new, inside, Prod.ext names (same old stored new inside names unchanged)⟩
  have pairs := ((List.perm_ext_iff_of_nodup (nodup after) (nodup before)).mpr members).eq_of_pairwise
    (fun _ _ _ _ less greater => absurd less (Int.lt_asymm greater)) (named after) (named before)
  have second := congrArg (List.map Prod.snd) pairs
  rwa [List.map_map, List.map_map] at second

theorem rows_of_silent [DecidableEq ρ] (silent : before.firings (fun row => row) after = 0) :
    after.rows = before.rows := by
  have rows := @column_of_silent _ _ _ _ _ _ _ _ (fun row => row) silent fun _ _ _ _ _ same => same
  rwa [List.map_id', List.map_id'] at rows

@[simp] theorem firings_self (watched : ρ → β) (table : Serial id) : table.firings watched table = 0 := by
  rw [silent_iff]
  refine ⟨fun row member => ?_, fun row member => ⟨row, member, rfl, rfl⟩⟩
  rw [find?_of_mem member]
  rfl

end Relational.Serial
