import Mathlib.Data.List.Induction
import Mathlib.Data.List.Nodup

namespace Relational

/-! Maps that a loop fills: under each key, what the items with that key make of a first value. -/

variable {α κ ν : Type} [DecidableEq κ]

/-- Changes the value under a key, which is a first one if there is none. -/
def modify (key : κ) (fresh : ν) (change : ν → ν) : List (κ × ν) → List (κ × ν)
  | [] => [(key, change fresh)]
  | (other, value) :: rest =>
      if other = key then (other, change value) :: rest else (other, value) :: modify key fresh change rest

/-- The map after all items; an item without a key is passed over. -/
def gather (touch : α → Option κ) (fresh : κ → ν) (change : ν → α → ν) (items : List α) : List (κ × ν) :=
  items.foldl (fun held item =>
    match touch item with
    | some key => modify key (fresh key) (fun value => change value item) held
    | none => held) []

variable {touch : α → Option κ} {fresh : κ → ν} {change : ν → α → ν} {items : List α} {held : List (κ × ν)}
  {key wanted : κ} {value : ν}

theorem keys_modify {first : ν} {update : ν → ν} :
    (modify key first update held).map Prod.fst =
      if key ∈ held.map Prod.fst then held.map Prod.fst else held.map Prod.fst ++ [key] := by
  induction held with
  | nil => rfl
  | cons entry rest ih =>
      obtain ⟨other, value⟩ := entry
      rw [modify]
      by_cases same : other = key
      · rw [if_pos same, same]
        simp
      · rw [if_neg same, List.map_cons, ih, List.map_cons]
        have apart : key ∈ other :: rest.map Prod.fst ↔ key ∈ rest.map Prod.fst := by
          rw [List.mem_cons, or_iff_right (Ne.symm same)]
        by_cases inside : key ∈ rest.map Prod.fst
        · rw [if_pos inside, if_pos (apart.mpr inside)]
        · rw [if_neg inside, if_neg fun found => inside (apart.mp found), List.cons_append]

theorem lookup_cons_of_ne {other : κ} (apart : wanted ≠ other) :
    ((other, value) :: held).lookup wanted = held.lookup wanted := by
  rw [List.lookup_cons, beq_false_of_ne apart]

theorem lookup_cons_self : ((key, value) :: held).lookup key = some value := by
  rw [List.lookup_cons, beq_self_eq_true]

theorem lookup_modify {first : ν} {update : ν → ν} :
    (modify key first update held).lookup wanted =
      if wanted = key then some (update ((held.lookup key).getD first)) else held.lookup wanted := by
  induction held with
  | nil =>
      by_cases asked : wanted = key
      · rw [if_pos asked, asked]
        exact lookup_cons_self
      · rw [if_neg asked]
        exact lookup_cons_of_ne asked
  | cons entry rest ih =>
      obtain ⟨other, value⟩ := entry
      rw [modify]
      by_cases same : other = key
      · rw [if_pos same, same, lookup_cons_self]
        by_cases asked : wanted = key
        · rw [if_pos asked, asked, lookup_cons_self, Option.getD_some]
        · rw [if_neg asked, lookup_cons_of_ne asked, lookup_cons_of_ne asked]
      · rw [if_neg same, lookup_cons_of_ne (Ne.symm same)]
        by_cases first : wanted = other
        · have asked : wanted ≠ key := fun found => same (first.symm.trans found)
          rw [if_neg asked, first, lookup_cons_self, lookup_cons_self]
        · rw [lookup_cons_of_ne first, lookup_cons_of_ne first, ih]

theorem gather_append (earlier : List α) (item : α) :
    gather touch fresh change (earlier ++ [item]) =
      match touch item with
      | some key => modify key (fresh key) (fun value => change value item) (gather touch fresh change earlier)
      | none => gather touch fresh change earlier := by
  rw [gather, List.foldl_append]
  rfl

theorem keys_gather_nodup : ((gather touch fresh change items).map Prod.fst).Nodup := by
  induction items using List.reverseRecOn with
  | nil => exact List.nodup_nil
  | append_singleton earlier item ih =>
      rw [gather_append]
      cases touched : touch item with
      | none => exact ih
      | some key =>
          dsimp only
          rw [keys_modify]
          split
          · exact ih
          · rename_i absent
            rw [List.nodup_append]
            refine ⟨ih, List.nodup_singleton key, fun left leftMember right rightMember same => ?_⟩
            rw [List.mem_singleton] at rightMember
            exact absent (rightMember ▸ same ▸ leftMember)

theorem mem_keys_gather : wanted ∈ (gather touch fresh change items).map Prod.fst ↔
    ∃ item ∈ items, touch item = some wanted := by
  induction items using List.reverseRecOn with
  | nil => simp [gather]
  | append_singleton earlier item ih =>
      rw [gather_append]
      cases touched : touch item with
      | none => simp [ih, touched, or_and_right, exists_or]
      | some key =>
          dsimp only
          rw [keys_modify]
          have both : wanted ∈ (gather touch fresh change earlier).map Prod.fst ∨ wanted = key ↔
              ∃ other ∈ earlier ++ [item], touch other = some wanted := by
            rw [ih]
            simp [touched, or_and_right, exists_or, eq_comm]
          rw [← both]
          split
          · rename_i present
            exact ⟨.inl, fun found => found.elim id fun same => same ▸ present⟩
          · rw [List.mem_append, List.mem_singleton]

/-- Under a key stands what the items with that key have made of the first value, in their order. -/
theorem lookup_gather (present : ∃ item ∈ items, touch item = some wanted) :
    (gather touch fresh change items).lookup wanted =
      some ((items.filter fun item => touch item = some wanted).foldl change (fresh wanted)) := by
  induction items using List.reverseRecOn with
  | nil =>
      obtain ⟨_, member, _⟩ := present
      exact absurd member List.not_mem_nil
  | append_singleton earlier item ih =>
      rw [gather_append, List.filter_append, List.foldl_append]
      cases touched : touch item with
      | none =>
          obtain ⟨other, member, named⟩ := present
          rcases List.mem_append.mp member with before | last
          · rw [ih ⟨other, before, named⟩]
            simp [touched]
          · rw [List.mem_singleton.mp last, touched] at named
            cases named
      | some key =>
          dsimp only
          rw [lookup_modify]
          by_cases asked : wanted = key
          · rw [if_pos asked, asked]
            by_cases before : ∃ other ∈ earlier, touch other = some key
            · rw [asked] at ih
              rw [ih before]
              simp [touched]
            · have unseen : (gather touch fresh change earlier).lookup key = none := by
                rw [List.lookup_eq_none_iff]
                intro entry member
                have listed := List.mem_map_of_mem (f := Prod.fst) member
                rw [mem_keys_gather] at listed
                by_contra same
                have named : key = entry.1 := by simpa using same
                exact before (named ▸ listed)
              have none : (earlier.filter fun other => touch other = some key) = [] := by
                rw [List.filter_eq_nil_iff]
                intro other member named
                exact before ⟨other, member, of_decide_eq_true named⟩
              rw [unseen, none]
              simp [touched]
          · have others : touch item ≠ some wanted := by
              rw [touched]
              exact fun same => asked (Option.some.inj same).symm
            obtain ⟨other, member, named⟩ := present
            rcases List.mem_append.mp member with before | last
            · rw [if_neg asked, ih ⟨other, before, named⟩]
              simp [touched, Ne.symm asked]
            · rw [List.mem_singleton.mp last] at named
              exact absurd named others

theorem mem_iff_lookup {entries : List (κ × ν)} (distinct : (entries.map Prod.fst).Nodup) :
    (wanted, value) ∈ entries ↔ entries.lookup wanted = some value := by
  induction entries with
  | nil => exact iff_of_false List.not_mem_nil nofun
  | cons entry rest ih =>
      obtain ⟨other, found⟩ := entry
      rw [List.map_cons, List.nodup_cons] at distinct
      rw [List.mem_cons, Prod.mk.injEq]
      by_cases same : wanted = other
      · have absent : (wanted, value) ∉ rest := by
          intro inside
          have listed := List.mem_map_of_mem (f := Prod.fst) inside
          rw [same] at listed
          exact distinct.1 listed
        rw [or_iff_left absent, and_iff_right same, same, lookup_cons_self, Option.some.injEq, eq_comm]
      · rw [lookup_cons_of_ne same, ← ih distinct.2]
        exact or_iff_right fun both => same both.1

theorem mem_gather : (wanted, value) ∈ gather touch fresh change items ↔
    (∃ item ∈ items, touch item = some wanted) ∧
      value = (items.filter fun item => touch item = some wanted).foldl change (fresh wanted) := by
  rw [mem_iff_lookup keys_gather_nodup]
  constructor
  · intro found
    have listed : wanted ∈ (gather touch fresh change items).map Prod.fst := by
      have member := (mem_iff_lookup keys_gather_nodup).mpr found
      exact List.mem_map_of_mem (f := Prod.fst) member
    have present := mem_keys_gather.mp listed
    rw [lookup_gather present] at found
    exact ⟨present, (Option.some.inj found).symm⟩
  · intro described
    rw [lookup_gather described.1, described.2]

end Relational
