import Mathlib.Data.List.Find
import Mathlib.Data.List.Nodup

namespace Relational.Keyed

/-! Lists of records under a key, the difference between two of them, and its application to a
third. -/

variable {ρ κ : Type} [DecidableEq κ] {key : ρ → κ} {same : ρ → ρ → Bool}
  {records previous current held updates : List ρ} {gone : List κ} {wanted : κ} {record : ρ}

/-- The first record under a key. -/
def lookup (key : ρ → κ) (records : List ρ) (wanted : κ) : Option ρ :=
  records.find? fun record => key record = wanted

/-- The record a map holds after the list has been written to it. -/
def last (key : ρ → κ) (records : List ρ) (wanted : κ) : Option ρ :=
  lookup key records.reverse wanted

/-- The records of a list that are new, or not the same as before. -/
def changed (key : ρ → κ) (same : ρ → ρ → Bool) (previous current : List ρ) : List ρ :=
  current.filter fun record => !(last key previous (key record)).any fun prior => same prior record

/-- The keys that a list no longer has. -/
def removed (key : ρ → κ) (previous current : List ρ) : List κ :=
  (previous.map key).filter fun wanted => wanted ∉ current.map key

/-- A list with some records taken out, and others replaced or added. -/
def merge (key : ρ → κ) (held updates : List ρ) (gone : List κ) : List ρ :=
  if updates = [] ∧ gone = [] then held
  else
    let kept := held.filter fun record => key record ∉ gone
    let merged := kept.map fun record => (last key (kept ++ updates) (key record)).getD record
    merged ++ updates.filter fun update => key update ∉ merged.map key

theorem lookup_eq_none : lookup key records wanted = none ↔ wanted ∉ records.map key := by
  rw [lookup, List.find?_eq_none, List.mem_map]
  constructor
  · rintro absent ⟨record, member, named⟩
    exact absent record member (decide_eq_true named)
  · rintro absent record member named
    exact absent ⟨record, member, of_decide_eq_true named⟩

theorem mem_of_lookup (found : lookup key records wanted = some record) : record ∈ records :=
  List.mem_of_find?_eq_some found

theorem key_of_lookup (found : lookup key records wanted = some record) : key record = wanted :=
  by simpa using List.find?_some found

theorem lookup_of_mem (distinct : (records.map key).Nodup) (member : record ∈ records) :
    lookup key records (key record) = some record := by
  cases found : lookup key records (key record) with
  | none => exact absurd (List.mem_map_of_mem member) (lookup_eq_none.mp found)
  | some other => rw [List.inj_on_of_nodup_map distinct (mem_of_lookup found) member (key_of_lookup found)]

theorem lookup_eq_some (distinct : (records.map key).Nodup) :
    lookup key records wanted = some record ↔ record ∈ records ∧ key record = wanted := by
  constructor
  · exact fun found => ⟨mem_of_lookup found, key_of_lookup found⟩
  · rintro ⟨member, rfl⟩
    exact lookup_of_mem distinct member

theorem last_eq_lookup (distinct : (records.map key).Nodup) : last key records wanted = lookup key records wanted := by
  have backwards : (records.reverse.map key).Nodup := by
    rw [List.map_reverse]
    exact List.nodup_reverse.mpr distinct
  refine Option.ext fun record => ?_
  rw [last, lookup_eq_some backwards, lookup_eq_some distinct, List.mem_reverse]

theorem lookup_append : lookup key (records ++ current) wanted =
    (lookup key records wanted).or (lookup key current wanted) :=
  List.find?_append

theorem lookup_filter_key (keep : κ → Bool) : lookup key (records.filter fun record => keep (key record)) wanted =
    if keep wanted then lookup key records wanted else none := by
  rw [lookup, List.find?_filter]
  split
  · rename_i kept
    refine List.find?_congr fun record _ => ?_
    by_cases named : key record = wanted <;> simp [named, kept]
  · rename_i dropped
    rw [List.find?_eq_none]
    intro record _
    by_cases named : key record = wanted <;> simp [named, dropped]

/-- A record changes only under its own key. -/
theorem lookup_map {change : ρ → ρ} (keeps : ∀ record ∈ records, key (change record) = key record) :
    lookup key (records.map change) wanted = (lookup key records wanted).map change := by
  rw [lookup, List.find?_map, lookup]
  refine congrArg (Option.map change) (List.find?_congr fun record member => ?_)
  rw [Function.comp_apply, keeps record member]

theorem lookup_filter (distinct : (records.map key).Nodup) (keep : ρ → Bool) :
    lookup key (records.filter keep) wanted = (lookup key records wanted).filter keep := by
  have kept : ((records.filter keep).map key).Nodup := distinct.sublist (List.filter_sublist.map key)
  refine Option.ext fun record => ?_
  rw [lookup_eq_some kept, List.mem_filter, Option.filter_eq_some_iff, lookup_eq_some distinct]
  exact and_right_comm

theorem mem_removed : wanted ∈ removed key previous current ↔
    wanted ∈ previous.map key ∧ wanted ∉ current.map key := by
  rw [removed, List.mem_filter, decide_eq_true_eq]

/-- What is changed under a key: a record that was another one or none. -/
theorem lookup_changed [DecidableEq ρ] (exact : ∀ prior record, same prior record = true ↔ prior = record)
    (before : (previous.map key).Nodup) (after : (current.map key).Nodup) :
    lookup key (changed key same previous current) wanted =
      if lookup key previous wanted = lookup key current wanted then none else lookup key current wanted := by
  rw [changed, lookup_filter after]
  cases found : lookup key current wanted with
  | none => simp
  | some record =>
      have named := key_of_lookup found
      rw [Option.filter, last_eq_lookup before, named]
      cases earlier : lookup key previous wanted with
      | none => simp
      | some prior =>
          have judged := exact prior record
          by_cases equal : prior = record
          · simp [equal, (exact record record).mpr rfl]
          · have other : same prior record = false := by
              rw [← Bool.not_eq_true, judged]
              exact equal
            simp [equal, other]

theorem lookup_merge (holds : (held.map key).Nodup) (fresh : (updates.map key).Nodup) :
    lookup key (merge key held updates gone) wanted =
      (lookup key updates wanted).or (if wanted ∈ gone then none else lookup key held wanted) := by
  unfold merge
  split
  · rename_i nothing
    obtain ⟨rfl, rfl⟩ := nothing
    simp [lookup]
  · have kept : lookup key (held.filter fun record => key record ∉ gone) wanted =
        if wanted ∈ gone then none else lookup key held wanted := by
      rw [lookup_filter_key fun id => decide (id ∉ gone)]
      by_cases out : wanted ∈ gone <;> simp [out]
    rw [← kept]
    generalize keptRecords : (held.filter fun record => key record ∉ gone) = kept
    have distinct : (kept.map key).Nodup := by
      rw [← keptRecords]
      exact holds.sublist (List.filter_sublist.map key)
    have latest : ∀ id, last key (kept ++ updates) id = (lookup key updates id).or (lookup key kept id) := by
      intro id
      rw [last, List.reverse_append, lookup_append]
      exact congrArg₂ Option.or (last_eq_lookup fresh) (last_eq_lookup distinct)
    have own : ∀ record ∈ kept, key ((last key (kept ++ updates) (key record)).getD record) = key record := by
      intro record member
      cases found : last key (kept ++ updates) (key record) with
      | none => rfl
      | some update => exact key_of_lookup found
    rw [lookup_append, lookup_map own, List.map_map]
    cases held : lookup key kept wanted with
    | some record =>
        have named := key_of_lookup held
        rw [Option.map_some, Option.some_or, latest, named, held]
        cases lookup key updates wanted <;> rfl
    | none =>
        have names : (kept.map (key ∘ fun record => (last key (kept ++ updates) (key record)).getD record)) =
            kept.map key := List.map_congr_left own
        rw [Option.map_none, Option.none_or, Option.or_none, names,
          lookup_filter_key fun id => decide (id ∉ kept.map key)]
        exact if_pos (decide_eq_true (lookup_eq_none.mp held))

theorem nodup_merge (holds : (held.map key).Nodup) (fresh : (updates.map key).Nodup) :
    ((merge key held updates gone).map key).Nodup := by
  unfold merge
  split
  · exact holds
  · have own : ∀ record ∈ held.filter (fun record => key record ∉ gone),
        key ((last key ((held.filter fun record => key record ∉ gone) ++ updates) (key record)).getD record) =
          key record := by
      intro record _
      cases found : last key ((held.filter fun record => key record ∉ gone) ++ updates) (key record) with
      | none => rfl
      | some update => exact key_of_lookup found
    have names : ((held.filter fun record => key record ∉ gone).map fun record =>
        (last key ((held.filter fun record => key record ∉ gone) ++ updates) (key record)).getD record).map key =
          (held.filter fun record => key record ∉ gone).map key := by
      rw [List.map_map]
      exact List.map_congr_left own
    rw [List.map_append, List.nodup_append, names]
    refine ⟨holds.sublist (List.filter_sublist.map key), fresh.sublist (List.filter_sublist.map key), ?_⟩
    rintro first firstMember second secondMember rfl
    obtain ⟨update, member, rfl⟩ := List.mem_map.mp secondMember
    exact of_decide_eq_true (List.mem_filter.mp member).2 firstMember

/-- The difference of two lists, applied to a third, brings what has changed and leaves the rest. -/
theorem lookup_patched [DecidableEq ρ] (exact : ∀ prior record, same prior record = true ↔ prior = record)
    (before : (previous.map key).Nodup) (after : (current.map key).Nodup) (holds : (held.map key).Nodup) :
    lookup key (merge key held (changed key same previous current) (removed key previous current)) wanted =
      if lookup key previous wanted = lookup key current wanted then lookup key held wanted
      else lookup key current wanted := by
  have fresh : ((changed key same previous current).map key).Nodup := after.sublist (List.filter_sublist.map key)
  rw [lookup_merge holds fresh, lookup_changed exact before after]
  simp only [mem_removed]
  cases found : lookup key current wanted with
  | some record =>
      have present : wanted ∈ current.map key := by
        rw [← key_of_lookup found]
        exact List.mem_map_of_mem (mem_of_lookup found)
      split <;> simp [present]
  | none =>
      have absent := lookup_eq_none.mp found
      cases earlier : lookup key previous wanted with
      | none =>
          have unknown := lookup_eq_none.mp earlier
          simp [unknown]
      | some prior =>
          have known : wanted ∈ previous.map key := by
            rw [← key_of_lookup earlier]
            exact List.mem_map_of_mem (mem_of_lookup earlier)
          simp only [reduceCtorEq, if_false, Option.none_or, known, absent, not_false_eq_true, and_self, if_true]

/-- Where nothing has changed and nothing is gone, each key holds what it held. -/
theorem lookup_eq_of_unchanged [DecidableEq ρ] (exact : ∀ prior record, same prior record = true ↔ prior = record)
    (before : (previous.map key).Nodup) (after : (current.map key).Nodup)
    (unchanged : changed key same previous current = []) (complete : removed key previous current = []) :
    lookup key previous wanted = lookup key current wanted := by
  have same := @lookup_changed _ _ _ _ _ _ _ wanted _ exact before after
  rw [unchanged] at same
  by_contra other
  rw [if_neg other] at same
  have absent : wanted ∉ current.map key := lookup_eq_none.mp same.symm
  have gone : wanted ∉ previous.map key := by
    intro member
    have listed := mem_removed.mpr ⟨member, absent⟩
    rw [complete] at listed
    exact List.not_mem_nil listed
  rw [lookup_eq_none.mpr gone, lookup_eq_none.mpr absent] at other
  exact other rfl

end Relational.Keyed
