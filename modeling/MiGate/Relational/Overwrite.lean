import MiGate.Relational.Serial
import MiGate.Go.Encoding

namespace Relational

open MiGate.Go

/-! Writing a list of values under their numbers, one after the other: in the end each written row
holds the last value written to it. -/

variable {ρ ν : Type} {id : ρ → Int} {holds : ρ → ν → Prop}

structure Overwrites (holds : ρ → ν → Prop) (start final : Serial id) (writes : List (Int × ν)) : Prop where
  written : ∀ row ∈ final.rows, ∀ value, lastWrite writes (id row) = some value → holds row value
  untouched : ∀ row, lastWrite writes (id row) = none → (row ∈ final.rows ↔ row ∈ start.rows)
  present : ∀ number ∈ writes.map Prod.fst, number ∈ final.rows.map id

theorem lastWrite_append {κ : Type} [BEq κ] (earlier later : List (κ × ν)) (key : κ) :
    lastWrite (earlier ++ later) key = (lastWrite later key).or (lastWrite earlier key) := by
  rw [lastWrite, List.reverse_append, List.lookup_append]
  rfl

theorem lastWrite_singleton (number : Int) (value : ν) (key : Int) :
    lastWrite [(number, value)] key = if key = number then some value else none := by
  rw [lastWrite_cons]
  by_cases same : key = number <;> simp [lastWrite, same]

theorem lastWrite_isSome {κ : Type} [BEq κ] [LawfulBEq κ] {writes : List (κ × ν)} {key : κ} :
    (∃ value, lastWrite writes key = some value) ↔ key ∈ writes.map Prod.fst := by
  constructor
  · rintro ⟨value, last⟩
    exact List.mem_map_of_mem (mem_of_lastWrite last)
  · intro member
    cases last : lastWrite writes key with
    | some value => exact ⟨value, rfl⟩
    | none =>
        obtain ⟨write, inside, rfl⟩ := List.mem_map.mp member
        have missed := List.lookup_eq_none_iff.mp last write (List.mem_reverse.mpr inside)
        simp at missed

namespace Overwrites

theorem refl (start : Serial id) : Overwrites holds start start [] where
  written := by
    intro _ _ _ last
    cases last
  untouched := fun _ _ => Iff.rfl
  present := fun _ member => absurd member List.not_mem_nil

/-- A row that a later write does not touch is as the earlier ones have left it. -/
theorem trans {start middle final : Serial id} {earlier later : List (Int × ν)}
    (first : Overwrites holds start middle earlier) (second : Overwrites holds middle final later) :
    Overwrites holds start final (earlier ++ later) where
  written := by
    intro row member value last
    rw [lastWrite_append] at last
    cases again : lastWrite later (id row) with
    | some written =>
        rw [again] at last
        exact second.written row member value (again.trans last)
    | none =>
        rw [again] at last
        exact first.written row ((second.untouched row again).mp member) value last
  untouched := by
    intro row unwritten
    rw [lastWrite_append, Option.or_eq_none_iff] at unwritten
    rw [second.untouched row unwritten.1, first.untouched row unwritten.2]
  present := by
    intro number member
    rw [List.map_append, List.mem_append] at member
    cases last : lastWrite later number with
    | some value => exact second.present number (lastWrite_isSome.mp ⟨value, last⟩)
    | none =>
        have notLater : number ∉ later.map Prod.fst := fun inside => by
          obtain ⟨value, found⟩ := lastWrite_isSome.mpr inside
          rw [last] at found
          cases found
        obtain ⟨row, stored, named⟩ := List.mem_map.mp (first.present number (member.resolve_right notLater))
        rw [← named] at last ⊢
        exact List.mem_map_of_mem ((second.untouched row last).mpr stored)

/-- An `UPDATE` of one row. -/
theorem modify {start : Serial id} {number : Int} {value : ν} {change : ρ → ρ}
    (keeps : ∀ row, id (change row) = id row) (stored : number ∈ start.rows.map id)
    (holding : ∀ row ∈ start.rows, id row = number → holds (change row) value) :
    Overwrites holds start (start.modifyWhere (fun row => id row == number) change keeps) [(number, value)] where
  written := by
    intro row member wanted last
    rw [lastWrite_singleton] at last
    obtain ⟨old, oldStored, rfl⟩ := Serial.mem_modifyWhere.mp member
    by_cases chosen : id old = number
    · rw [if_pos (beq_iff_eq.mpr chosen)] at last ⊢
      rw [keeps, if_pos chosen] at last
      cases last
      exact holding old oldStored chosen
    · rw [if_neg (mt beq_iff_eq.mp chosen), if_neg chosen] at last
      cases last
  untouched := by
    intro row unwritten
    rw [lastWrite_singleton] at unwritten
    have other : id row ≠ number := fun named => by
      rw [if_pos named] at unwritten
      cases unwritten
    rw [Serial.mem_modifyWhere]
    constructor
    · rintro ⟨old, oldStored, rfl⟩
      split at other
      · rename_i chosen
        rw [keeps] at other
        exact absurd (beq_iff_eq.mp chosen) other
      · rename_i missed
        rw [if_neg missed]
        exact oldStored
    · intro member
      exact ⟨row, member, if_neg (mt beq_iff_eq.mp other)⟩
  present := by
    intro wanted member
    rw [List.map_singleton, List.mem_singleton] at member
    rw [member, Serial.map_modifyWhere id _ _ _ _ fun row _ _ => keeps row]
    exact stored

/-- An `INSERT` of one row. -/
theorem insert {start : Serial id} {value : ν} (make : Int → ρ) (named : ∀ number, id (make number) = number)
    (holding : holds (make start.next) value) :
    Overwrites holds start (start.insert make named) [(start.next, value)] where
  written := by
    intro row member wanted last
    rw [lastWrite_singleton] at last
    split at last
    · rename_i new
      cases last
      rcases Serial.mem_insert.mp member with old | inserted
      · have below := start.bounded row old
        omega
      · rw [inserted]
        exact holding
    · cases last
  untouched := by
    intro row unwritten
    rw [lastWrite_singleton] at unwritten
    have other : id row ≠ start.next := fun new => by
      rw [if_pos new] at unwritten
      cases unwritten
    rw [Serial.mem_insert, or_iff_left]
    rintro rfl
    exact other (named _)
  present := by
    intro wanted member
    rw [List.map_singleton, List.mem_singleton] at member
    rw [member, Serial.map_insert, named]
    exact List.mem_append_right _ List.mem_cons_self

end Overwrites

end Relational
