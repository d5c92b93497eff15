import Mathlib.Algebra.Order.BigOperators.Group.List
import Mathlib.Algebra.Order.Ring.Int
import Mathlib.Tactic.Tauto
import MiGate.Relational.Gather

namespace Relational

/-! Tallies: amounts of items, added up under the labels of the items. -/

variable {α κ ν M : Type} [DecidableEq κ] [AddCommMonoid M]

/-- What the items that satisfy a condition amount to. -/
def tally (amount : α → M) (selected : α → Bool) (items : List α) : M :=
  ((items.filter selected).map amount).sum

section

variable {amount : α → M} {selected other : α → Bool} {items more : List α}

@[simp] theorem tally_nil : tally amount selected [] = 0 := rfl

theorem tally_cons (item : α) :
    tally amount selected (item :: items) = (if selected item then amount item else 0) + tally amount selected items := by
  cases taken : selected item <;> simp [tally, taken]

theorem tally_append : tally amount selected (items ++ more) = tally amount selected items + tally amount selected more := by
  simp [tally]

theorem tally_perm (same : items.Perm more) : tally amount selected items = tally amount selected more :=
  ((same.filter selected).map amount).sum_eq

theorem tally_congr (agree : ∀ item ∈ items, selected item = other item) :
    tally amount selected items = tally amount other items := by
  rw [tally, tally, List.filter_congr agree]

theorem tally_none (missed : ∀ item ∈ items, selected item = false) : tally amount selected items = 0 := by
  have empty : items.filter selected = [] :=
    List.filter_eq_nil_iff.mpr fun item member taken => by simp [missed item member] at taken
  rw [tally, empty]
  rfl

theorem tally_map {β : Type} {f : β → α} {sources : List β} :
    tally amount selected (sources.map f) = tally (fun source => amount (f source)) (fun source => selected (f source)) sources := by
  rw [tally, tally, List.filter_map, List.map_map]
  rfl

theorem tally_filter : tally amount selected (items.filter other) = tally amount (fun item => other item && selected item) items := by
  rw [tally, tally, List.filter_filter]
  simp only [Bool.and_comm]

theorem tally_eq_sum : tally amount selected items = (items.map fun item => if selected item then amount item else 0).sum := by
  induction items with
  | nil => rfl
  | cons item rest ih => rw [tally_cons, ih, List.map_cons, List.sum_cons]

/-- An item that no other selected one stands beside makes up the tally. -/
theorem tally_unique {item : α} (distinct : items.Nodup) (member : item ∈ items) (taken : selected item = true)
    (only : ∀ other ∈ items, selected other = true → other = item) : tally amount selected items = amount item := by
  induction items with
  | nil => cases member
  | cons first rest ih =>
      obtain ⟨absent, restDistinct⟩ := List.nodup_cons.mp distinct
      rw [tally_cons]
      rcases List.mem_cons.mp member with rfl | inside
      · have none : tally amount selected rest = 0 := by
          apply tally_none
          intro other otherMember
          rw [← Bool.not_eq_true]
          intro also
          exact absent (only other (List.mem_cons_of_mem _ otherMember) also ▸ otherMember)
        rw [if_pos taken, none, add_zero]
      · have other : ¬selected first = true := fun also => absent (only first List.mem_cons_self also ▸ inside)
        rw [if_neg other, zero_add]
        exact ih restDistinct inside fun other otherMember => only other (List.mem_cons_of_mem _ otherMember)

/-- Items that amount to nothing may be left out. -/
theorem tally_and (nothing : ∀ item ∈ items, selected item = true → other item = false → amount item = 0) :
    tally amount selected items = tally amount (fun item => selected item && other item) items := by
  induction items with
  | nil => rfl
  | cons item rest ih =>
      have here := nothing item List.mem_cons_self
      rw [tally_cons, tally_cons, ih fun item member => nothing item (List.mem_cons_of_mem _ member)]
      cases taken : selected item with
      | false => rfl
      | true =>
          cases also : other item with
          | true => rfl
          | false => simp [here taken also]

/-- Two conditions that no item satisfies both split a tally. -/
theorem tally_or (apart : ∀ item ∈ items, ¬(selected item = true ∧ other item = true)) :
    tally amount (fun item => selected item || other item) items = tally amount selected items + tally amount other items := by
  induction items with
  | nil => simp
  | cons item rest ih =>
      have here := apart item List.mem_cons_self
      rw [tally_cons, tally_cons, tally_cons, ih fun item member => apart item (List.mem_cons_of_mem _ member)]
      cases first : selected item <;> cases second : other item
      · simp
      · simp [add_left_comm]
      · simp [add_assoc]
      · exact absurd ⟨first, second⟩ here

/-- A condition splits a tally into those that satisfy it and those that do not. -/
theorem tally_split (other : α → Bool) : tally amount selected items =
    tally amount (fun item => selected item && other item) items + tally amount (fun item => selected item && !other item) items := by
  rw [← tally_or]
  · apply tally_congr
    intro item _
    cases selected item <;> cases other item <;> rfl
  · intro item _ both
    cases second : other item <;> simp [second] at both

/-- Under distinct keys the items of each add up to the items of any. -/
theorem sum_tally_keys {label : α → Option κ} {keys : List κ} (distinct : keys.Nodup) :
    (keys.map fun key => tally amount (fun item => label item = some key) items).sum =
      tally amount (fun item => (label item).any (· ∈ keys)) items := by
  induction keys with
  | nil =>
      rw [tally_none fun item _ => ?_]
      · rfl
      · cases label item <;> simp
  | cons key rest ih =>
      obtain ⟨absent, restDistinct⟩ := List.nodup_cons.mp distinct
      rw [List.map_cons, List.sum_cons, ih restDistinct, ← tally_or]
      · apply tally_congr
        intro item _
        cases label item with
        | none => rfl
        | some named => simp
      · intro item _ both
        obtain ⟨named, inside⟩ := both
        rw [of_decide_eq_true named] at inside
        exact absent (by simpa using inside)

end

/-- Items that each find one of their key among others, with no less, amount to no more than those. -/
theorem sum_le_of_matched {κ : Type} {key : α → κ} {amount : α → Int} {left right : List α}
    (distinct : (left.map key).Nodup)
    (matched : ∀ item ∈ left, ∃ other ∈ right, key other = key item ∧ amount item ≤ amount other)
    (nonnegative : ∀ other ∈ right, 0 ≤ amount other) : (left.map amount).sum ≤ (right.map amount).sum := by
  induction left generalizing right with
  | nil =>
      refine List.sum_nonneg fun value member => ?_
      obtain ⟨other, inside, rfl⟩ := List.mem_map.mp member
      exact nonnegative other inside
  | cons item rest ih =>
      obtain ⟨alone, apart⟩ := List.nodup_cons.mp distinct
      obtain ⟨other, inside, named, less⟩ := matched item List.mem_cons_self
      obtain ⟨front, back, rfl⟩ := List.append_of_mem inside
      have others : (rest.map amount).sum ≤ ((front ++ back).map amount).sum := by
        refine ih apart ?_ ?_
        · intro later member
          obtain ⟨found, foundInside, foundNamed, foundLess⟩ := matched later (List.mem_cons_of_mem _ member)
          have different : found ≠ other := by
            intro same
            refine alone (List.mem_map.mpr ⟨later, member, ?_⟩)
            rw [← foundNamed, same, named]
          refine ⟨found, ?_, foundNamed, foundLess⟩
          simpa [different] using foundInside
        · intro kept member
          refine nonnegative kept ?_
          simp only [List.mem_append, List.mem_cons] at member ⊢
          tauto
      simp only [List.map_cons, List.map_append, List.sum_cons, List.sum_append] at others ⊢
      omega

/-- The entries count each labelled item once: under its label, and with its amount. -/
structure CountedOnce (label : α → Option κ) (amount : α → M) (items : List α) (entries : List (κ × M)) : Prop where
  distinct : (entries.map Prod.fst).Nodup
  labels : ∀ key, key ∈ entries.map Prod.fst ↔ ∃ item ∈ items, label item = some key
  amounts : ∀ entry ∈ entries, entry.2 = tally amount (fun item => label item = some entry.1) items

variable {label : α → Option κ} {amount : α → M} {items : List α} {entries : List (κ × M)}

/-- The entries with chosen keys amount to what the items with such labels do. -/
theorem CountedOnce.tally_eq (counted : CountedOnce label amount items entries) (chosen : κ → Bool) :
    tally Prod.snd (fun entry => chosen entry.1) entries = tally amount (fun item => (label item).any chosen) items := by
  have distinct : ((entries.filter fun entry => chosen entry.1).map Prod.fst).Nodup :=
    counted.distinct.sublist (List.filter_sublist.map _)
  have each : (entries.filter fun entry => chosen entry.1).map Prod.snd =
      ((entries.filter fun entry => chosen entry.1).map Prod.fst).map
        fun key => tally amount (fun item => label item = some key) items := by
    rw [List.map_map]
    exact List.map_congr_left fun entry member => counted.amounts entry (List.mem_of_mem_filter member)
  rw [tally, each, sum_tally_keys distinct]
  apply tally_congr
  intro item member
  cases named : label item with
  | none => rfl
  | some key =>
      have listed := (counted.labels key).mpr ⟨item, member, named⟩
      obtain ⟨entry, inside, same⟩ := List.mem_map.mp listed
      have chosenIff : key ∈ (entries.filter fun entry => chosen entry.1).map Prod.fst ↔ chosen key = true := by
        constructor
        · intro taken
          obtain ⟨other, found, equal⟩ := List.mem_map.mp taken
          exact equal ▸ (List.mem_filter.mp found).2
        · exact fun taken => List.mem_map.mpr ⟨entry, List.mem_filter.mpr ⟨inside, same.symm ▸ taken⟩, same⟩
      rw [Option.any_some, Option.any_some, Bool.eq_iff_iff, decide_eq_true_eq]
      exact chosenIff

/-- All entries together amount to all labelled items. -/
theorem CountedOnce.sum_eq (counted : CountedOnce label amount items entries) :
    (entries.map Prod.snd).sum = tally amount (fun item => (label item).isSome) items := by
  have all := counted.tally_eq fun _ => true
  rw [tally, List.filter_true] at all
  rw [all]
  apply tally_congr
  intro item _
  cases label item <;> rfl

theorem countedOnce_map {β : Type} {sources : List β} {f : β → α} :
    CountedOnce label amount (sources.map f) entries ↔
      CountedOnce (fun source => label (f source)) (fun source => amount (f source)) sources entries := by
  have labels : ∀ key, (∃ item ∈ sources.map f, label item = some key) ↔ ∃ source ∈ sources, label (f source) = some key := by
    intro key
    simp only [List.mem_map, exists_exists_and_eq_and]
  constructor
  · exact fun counted => ⟨counted.distinct, fun key => (counted.labels key).trans (labels key),
      fun entry member => (counted.amounts entry member).trans tally_map⟩
  · exact fun counted => ⟨counted.distinct, fun key => (counted.labels key).trans (labels key).symm,
      fun entry member => by rw [tally_map]; exact counted.amounts entry member⟩

/-- Two amounts of one list of entries may be added. -/
theorem CountedOnce.add {β : Type} {sources : List β} {key : β → κ} {left right : β → M} {other : α → M}
    (first : CountedOnce label amount items (sources.map fun source => (key source, left source)))
    (second : CountedOnce label other items (sources.map fun source => (key source, right source))) :
    CountedOnce label (fun item => amount item + other item) items
      (sources.map fun source => (key source, left source + right source)) where
  distinct := by
    have distinct := first.distinct
    rw [List.map_map] at distinct ⊢
    exact distinct
  labels wanted := by
    have labels := first.labels wanted
    rw [List.map_map] at labels ⊢
    exact labels
  amounts entry member := by
    obtain ⟨source, inside, rfl⟩ := List.mem_map.mp member
    have one := first.amounts (key source, left source) (List.mem_map.mpr ⟨source, inside, rfl⟩)
    have two := second.amounts (key source, right source) (List.mem_map.mpr ⟨source, inside, rfl⟩)
    simp only at one two
    simp only [one, two]
    exact List.sum_map_add.symm

theorem CountedOnce.perm {other : List (κ × M)} (counted : CountedOnce label amount items entries)
    (same : other.Perm entries) : CountedOnce label amount items other where
  distinct := (same.map Prod.fst).nodup_iff.mpr counted.distinct
  labels key := ((same.map Prod.fst).mem_iff).trans (counted.labels key)
  amounts entry member := counted.amounts entry (same.mem_iff.mp member)

theorem CountedOnce.congr {other : α → Option κ} (counted : CountedOnce label amount items entries)
    (agree : ∀ item ∈ items, label item = other item) : CountedOnce other amount items entries where
  distinct := counted.distinct
  labels key := by
    rw [counted.labels]
    constructor
    · intro found
      obtain ⟨item, member, named⟩ := found
      exact ⟨item, member, (agree item member).symm.trans named⟩
    · intro found
      obtain ⟨item, member, named⟩ := found
      exact ⟨item, member, (agree item member).trans named⟩
  amounts entry member := by
    rw [counted.amounts entry member]
    apply tally_congr
    intro item itemMember
    rw [agree item itemMember]

/-- Entries may be renamed as long as they stay apart. -/
theorem CountedOnce.relabel {μ : Type} [DecidableEq μ] (counted : CountedOnce label amount items entries) (name : κ → μ)
    (apart : ∀ left ∈ entries.map Prod.fst, ∀ right ∈ entries.map Prod.fst, name left = name right → left = right) :
    CountedOnce (fun item => (label item).map name) amount items (entries.map fun entry => (name entry.1, entry.2)) where
  distinct := by
    have renamed : (entries.map fun entry => (name entry.1, entry.2)).map Prod.fst = (entries.map Prod.fst).map name := by
      rw [List.map_map, List.map_map]
      rfl
    rw [renamed]
    exact counted.distinct.map_on apart
  labels key := by
    simp only [List.map_map, List.mem_map, Function.comp_apply, Option.map_eq_some_iff]
    constructor
    · intro found
      obtain ⟨entry, member, rfl⟩ := found
      obtain ⟨item, itemMember, named⟩ := (counted.labels entry.1).mp (List.mem_map_of_mem member)
      exact ⟨item, itemMember, entry.1, named, rfl⟩
    · intro found
      obtain ⟨item, itemMember, old, named, rfl⟩ := found
      obtain ⟨entry, member, same⟩ := List.mem_map.mp ((counted.labels old).mpr ⟨item, itemMember, named⟩)
      exact ⟨entry, member, by rw [same]⟩
  amounts renamed member := by
    obtain ⟨entry, inside, rfl⟩ := List.mem_map.mp member
    rw [counted.amounts entry inside]
    apply tally_congr
    intro item itemMember
    rw [Bool.eq_iff_iff, decide_eq_true_eq, decide_eq_true_eq, Option.map_eq_some_iff]
    constructor
    · exact fun named => ⟨entry.1, named, rfl⟩
    · intro found
      obtain ⟨other, named, same⟩ := found
      have listed := (counted.labels other).mpr ⟨item, itemMember, named⟩
      rw [named, apart other listed entry.1 (List.mem_map_of_mem inside) same]

/-- Entries counted in turn count the items. -/
theorem CountedOnce.trans {μ : Type} [DecidableEq μ] {regroup : κ → Option μ} {coarse : List (μ × M)}
    (counted : CountedOnce label amount items entries)
    (regrouped : CountedOnce (fun entry : κ × M => regroup entry.1) Prod.snd entries coarse) :
    CountedOnce (fun item => (label item).bind regroup) amount items coarse where
  distinct := regrouped.distinct
  labels key := by
    rw [regrouped.labels]
    constructor
    · intro found
      obtain ⟨entry, member, named⟩ := found
      obtain ⟨item, itemMember, labelled⟩ := (counted.labels entry.1).mp (List.mem_map_of_mem member)
      exact ⟨item, itemMember, by rw [labelled]; exact named⟩
    · intro found
      obtain ⟨item, itemMember, named⟩ := found
      obtain ⟨old, labelled, same⟩ := Option.bind_eq_some_iff.mp named
      obtain ⟨entry, member, rfl⟩ := List.mem_map.mp ((counted.labels old).mpr ⟨item, itemMember, labelled⟩)
      exact ⟨entry, member, same⟩
  amounts entry member := by
    rw [regrouped.amounts entry member]
    refine (counted.tally_eq fun key => regroup key = some entry.1).trans (tally_congr fun item _ => ?_)
    cases label item <;> rfl

/-- A map counts each item once if what it makes of the items of a key is what they amount to. -/
theorem countedOnce_of_folds {fresh : κ → ν} {change : ν → α → ν} {held : ν → M}
    (folds : ∀ key, held ((items.filter fun item => label item = some key).foldl change (fresh key)) =
      tally amount (fun item => label item = some key) items) :
    CountedOnce label amount items ((gather label fresh change items).map fun entry => (entry.1, held entry.2)) where
  distinct := by
    rw [List.map_map]
    exact keys_gather_nodup
  labels key := by
    rw [List.map_map]
    exact mem_keys_gather
  amounts entry member := by
    obtain ⟨kept, inside, rfl⟩ := List.mem_map.mp member
    obtain ⟨_, value⟩ := mem_gather.mp inside
    rw [value]
    exact folds kept.1

/-- A map that adds the amounts of the items counts each once. -/
theorem countedOnce_gather {fresh : κ → ν} {change : ν → α → ν} {held : ν → M} (starts : ∀ key, held (fresh key) = 0)
    (adds : ∀ value item, held (change value item) = held value + amount item) :
    CountedOnce label amount items ((gather label fresh change items).map fun entry => (entry.1, held entry.2)) := by
  have run : ∀ (taken : List α) (value : ν), held (taken.foldl change value) = held value + (taken.map amount).sum := by
    intro taken
    induction taken with
    | nil => exact fun value => (add_zero _).symm
    | cons item rest ih =>
        intro value
        rw [List.foldl_cons, ih, adds, List.map_cons, List.sum_cons, add_assoc]
  refine countedOnce_of_folds fun key => ?_
  rw [run, starts, zero_add]
  rfl

end Relational
