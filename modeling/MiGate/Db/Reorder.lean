import MiGate.Config.Totality
import MiGate.Db.Owners
import MiGate.Db.Rebalance
import MiGate.Db.RefreshTx
import MiGate.Db.RuleScope
import MiGate.Relational.Numbering

namespace MiGate.Db

open Go Fallible Relational Statements Transition

variable {platform : Platform} {store after : Store} {ids : List Int}

/-! The three operations that put rows in an order of the operator's, statement by statement. -/

def subscriptionBefore (left right : OutboundSubscription) : Prop :=
  left.priority < right.priority ∨ (left.priority = right.priority ∧ left.id ≤ right.id)

instance : DecidableRel subscriptionBefore := fun left right =>
  inferInstanceAs (Decidable (left.priority < right.priority ∨ (left.priority = right.priority ∧ left.id ≤ right.id)))

/-- A subscription as it is listed, with the number of its outbounds. -/
structure ListedSubscription extends OutboundSubscription where
  outboundCount : Nat

def listOutboundSubscriptions (store : Store) : List ListedSubscription :=
  ((store.outboundSubscriptions.rows.filter fun row => row.deletedAt == "").insertionSort subscriptionBefore).map
    fun row => { row with outboundCount := (subscriptionOutboundIDs row.id store).length }

/-- `UPDATE outbounds SET sort = ?` for one of the identifiers, and `RowsAffected`. -/
def placeOutbound (place : Int × Nat) (store : Store) : Store × Nat :=
  let selected := fun row : Outbound => row.id == place.1 && outboundReorderable row
  ({ store with
      outbounds := store.outbounds.modifyWhere selected (sortOutbound (100000 + place.2))
        (sortOutbound_id (100000 + place.2)) },
    (store.outbounds.rows.filter selected).length)

def placeOutboundTx (place : Int × Nat) : Tx Unit := do
  let affected ← statement fun store => .ok (placeOutbound place store)
  check (require (affected == 1) "unknown outbound id in reorder payload")

def reorderOutboundsTx (ids : List Int) : Tx Unit :=
  transact do
    let existing ← query fun store => (store.outbounds.rows.filter outboundReorderable).map Outbound.id
    check (require (ids.length == existing.length) s!"expected {existing.length} IDs for reordering, got {ids.length}")
    check (require (ids.all existing.contains && decide ids.Nodup) "unknown outbound id in reorder payload")
    ids.zipIdx.foldlM (fun _ place => placeOutboundTx place) ()
    rebalanceOutboundSortsTx

/-- `UPDATE outbound_subscriptions SET priority=?, updated_at=? WHERE id=?`. -/
def writeSubscriptionPriority (now : String) (place : Int × Nat) (store : Store) : Store :=
  { store with
    outboundSubscriptions := store.outboundSubscriptions.modifyWhere (fun row => row.id == place.1)
      (prioritizeSubscription now place.2) (prioritizeSubscription_id now place.2) }

def reorderOutboundSubscriptionsTx (now : String) (ids : List Int) : Tx Unit :=
  transact do
    let existing ← query fun store =>
      (store.outboundSubscriptions.rows.filter fun row => row.deletedAt == "").map OutboundSubscription.id
    check (require (ids.length == existing.length) s!"expected {existing.length} IDs for reordering, got {ids.length}")
    check (require (existing.all ids.contains) "unknown outbound subscription id in reorder payload")
    ids.zipIdx.forM fun place => execute (writeSubscriptionPriority now place)
    rebalanceOutboundSortsTx

/-- `UPDATE routing_rules SET sort = ? WHERE id = ?`. -/
def writeRuleSort (place : Int × Nat) (store : Store) : Store :=
  { store with
    routingRules := store.routingRules.modifyWhere (fun rule => rule.id == place.1) (sortRule place.2)
      (sortRule_id place.2) }

def reorderRoutingRulesTx (ids : List Int) : Tx Unit :=
  transact (ids.zipIdx.forM fun place => execute (writeRuleSort place))

/-! Together the statements do what the operations do. -/

theorem foldl_writeRuleSort (places : List (Int × Nat)) (store : Store) :
    places.foldl (fun store place => writeRuleSort place store) store =
      { store with
        routingRules := places.foldl (fun rules (id, i) => rules.modifyWhere (fun rule => rule.id == id)
          (sortRule i) (sortRule_id i)) store.routingRules } := by
  induction places generalizing store with
  | nil => rfl
  | cons place rest ih =>
      rw [List.foldl_cons, ih]
      rfl

theorem reorderRoutingRulesTx_performs (ids : List Int) :
    Performs (reorderRoutingRulesTx ids) fun store => .ok (reorderRoutingRules ids store, ()) := by
  refine Performs.transact ((Performs.forM_execute writeRuleSort ids.zipIdx).congr fun store => ?_)
  rw [foldl_writeRuleSort]
  rfl

theorem foldl_writeSubscriptionPriority (now : String) (places : List (Int × Nat)) (store : Store) :
    places.foldl (fun store place => writeSubscriptionPriority now place store) store =
      { store with
        outboundSubscriptions := places.foldl (fun subscriptions (id, i) =>
          subscriptions.modifyWhere (fun row => row.id == id) (prioritizeSubscription now i)
            (prioritizeSubscription_id now i)) store.outboundSubscriptions } := by
  induction places generalizing store with
  | nil => rfl
  | cons place rest ih =>
      rw [List.foldl_cons, ih]
      rfl

theorem reorderOutboundSubscriptionsTx_performs (now : String) (ids : List Int) :
    Performs (reorderOutboundSubscriptionsTx now ids) fun store =>
      (reorderOutboundSubscriptions now ids store).map fun store => (store, ()) := by
  refine Performs.transact (((Performs.query _).bind fun existing => (Performs.check _).bind fun _ =>
    (Performs.check _).bind fun _ => (Performs.forM_execute (writeSubscriptionPriority now) ids.zipIdx).bind fun _ =>
      rebalanceOutboundSortsTx_performs).congr fun store => ?_)
  unfold reorderOutboundSubscriptions
  dsimp only [Except.bind]
  cases ids.length == ((store.outboundSubscriptions.rows.filter fun row => row.deletedAt == "").map
      OutboundSubscription.id).length with
  | false => rfl
  | true =>
      cases ((store.outboundSubscriptions.rows.filter fun row => row.deletedAt == "").map
          OutboundSubscription.id).all ids.contains with
      | false => rfl
      | true =>
          simp only [Except.bind, Except.map, require, if_true, bind, pure, Except.pure, foldl_writeSubscriptionPriority]
          rfl

/-- The outbounds that can be reordered. -/
def reorderableIDs (store : Store) : List Int :=
  (store.outbounds.rows.filter outboundReorderable).map Outbound.id

/-- The `UPDATE` finds the one row that can be reordered under the identifier. -/
theorem placeOutbound_eq {place : Int × Nat} (found : place.1 ∈ reorderableIDs store) :
    placeOutbound place store =
      ({ store with
          outbounds := store.outbounds.modifyWhere (fun row => row.id == place.1) (sortOutbound (100000 + place.2))
            (sortOutbound_id (100000 + place.2)) }, 1) := by
  obtain ⟨row, member, named⟩ := List.mem_map.mp found
  obtain ⟨stored, reorderable⟩ := List.mem_filter.mp member
  have selected : ∀ other ∈ store.outbounds.rows,
      (other.id == place.1 && outboundReorderable other) = (other.id == place.1) := by
    intro other inside
    by_cases same : other.id = place.1
    · rw [Serial.eq_of_id_eq inside stored (same.trans named.symm), reorderable, Bool.and_true]
    · rw [beq_eq_false_iff_ne.mpr same, Bool.false_and]
  have one : (store.outbounds.rows.filter fun other => other.id == place.1).length = 1 := by
    have listed : place.1 ∈ store.outbounds.rows.map Outbound.id := List.mem_map.mpr ⟨row, stored, named⟩
    have once := List.count_eq_one_of_mem store.outbounds.ids_nodup listed
    rwa [List.count, List.countP_map, List.countP_eq_length_filter] at once
  have same : (store.outbounds.modifyWhere (fun row => row.id == place.1 && outboundReorderable row)
      (sortOutbound (100000 + place.2)) (sortOutbound_id (100000 + place.2))) =
        store.outbounds.modifyWhere (fun row => row.id == place.1) (sortOutbound (100000 + place.2))
          (sortOutbound_id (100000 + place.2)) := by
    refine Serial.ext_rows (List.map_congr_left fun other inside => ?_) rfl
    simp only [selected other inside]
  rw [placeOutbound, List.filter_congr selected, one, same]

theorem outboundReorderable_sort (sort : Int) (row : Outbound) :
    outboundReorderable (sortOutbound sort row) = outboundReorderable row := rfl

theorem reorderableIDs_placed (place : Int × Nat) :
    reorderableIDs { store with
        outbounds := store.outbounds.modifyWhere (fun row => row.id == place.1) (sortOutbound (100000 + place.2))
          (sortOutbound_id (100000 + place.2)) } = reorderableIDs store := by
  simp only [reorderableIDs, Serial.modifyWhere, List.filter_map, List.map_map]
  have kept : ∀ row : Outbound,
      outboundReorderable (if row.id == place.1 then sortOutbound (100000 + place.2) row else row) =
        outboundReorderable row := by
    intro row
    split <;> rfl
  have named : ∀ row : Outbound,
      (if row.id == place.1 then sortOutbound (100000 + place.2) row else row).id = row.id := by
    intro row
    split <;> rfl
  simp only [Function.comp_def, kept, named]

/-- One round of the loop. -/
def placeKnownOutbound (done : Store × Unit) (place : Int × Nat) : Except String (Store × Unit) :=
  (require ((placeOutbound place done.1).2 == 1) "unknown outbound id in reorder payload").map fun _ =>
    ((placeOutbound place done.1).1, ())

/-- What the loop does where it knows every row. -/
theorem placeOutbounds_eq {places : List (Int × Nat)} (known : ∀ place ∈ places, place.1 ∈ reorderableIDs store) :
    places.foldlM placeKnownOutbound (store, ()) =
      .ok ({ store with
          outbounds := places.foldl (fun outbounds (id, i) => outbounds.modifyWhere (fun row => row.id == id)
            (sortOutbound (100000 + i)) (sortOutbound_id (100000 + i))) store.outbounds }, ()) := by
  induction places generalizing store with
  | nil => rfl
  | cons place rest ih =>
      have later : ∀ other ∈ rest, other.1 ∈ reorderableIDs (placeOutbound place store).1 := by
        intro other member
        rw [placeOutbound_eq (known place List.mem_cons_self), reorderableIDs_placed]
        exact known other (List.mem_cons_of_mem _ member)
      have first : placeKnownOutbound (store, ()) place = .ok ((placeOutbound place store).1, ()) := by
        rw [placeKnownOutbound, placeOutbound_eq (known place List.mem_cons_self)]
        rfl
      rw [List.foldlM_cons, first]
      exact (ih later).trans (by rw [placeOutbound_eq (known place List.mem_cons_self)]; rfl)

theorem placeOutboundTx_performs (place : Int × Nat) :
    Performs (placeOutboundTx place) fun store => placeKnownOutbound (store, ()) place :=
  ((Performs.statement _).bind fun _ => Performs.check _).congr fun _ => rfl

theorem reorderOutboundsTx_performs (ids : List Int) :
    Performs (reorderOutboundsTx ids) fun store => (reorderOutbounds ids store).map fun store => (store, ()) := by
  have looped : Performs (ids.zipIdx.foldlM (fun _ place => placeOutboundTx place) ()) fun store =>
      ids.zipIdx.foldlM placeKnownOutbound (store, ()) :=
    Performs.foldlM (fun _ => placeOutboundTx_performs) ids.zipIdx ()
  refine Performs.transact (((Performs.query _).bind fun existing => (Performs.check _).bind fun _ =>
    (Performs.check _).bind fun _ => looped.bind fun _ => rebalanceOutboundSortsTx_performs).congr fun store => ?_)
  unfold reorderOutbounds
  dsimp only [Except.bind]
  cases ids.length == ((store.outbounds.rows.filter outboundReorderable).map Outbound.id).length with
  | false => rfl
  | true =>
      cases checked : ids.all ((store.outbounds.rows.filter outboundReorderable).map Outbound.id).contains &&
          decide ids.Nodup with
      | false => rfl
      | true =>
          have known : ∀ place ∈ ids.zipIdx, place.1 ∈ reorderableIDs store := by
            intro place member
            have inside : place.1 ∈ ids := List.fst_mem_of_mem_zipIdx member
            have all := List.all_eq_true.mp (Bool.and_eq_true_iff.mp checked).1 place.1 inside
            exact List.contains_iff_mem.mp all
          simp only [Except.map, require, if_true, bind, Except.bind, pure, Except.pure, placeOutbounds_eq known]
          rfl

/-! What is listed after a reordering. -/

inductive Reordering where
  | outbounds
  | outboundSubscriptions
  | routingRules
deriving DecidableEq

/-- The items that can be reordered, as they are listed. -/
def Reordering.listed (reordering : Reordering) (store : Store) : List Int :=
  match reordering with
  | outbounds => ((listOutbounds store).filter outboundReorderable).map Outbound.id
  | outboundSubscriptions => (listOutboundSubscriptions store).map fun row => row.id
  | routingRules => (listRoutingRules store).map RoutingRule.id

def Reordering.tx (reordering : Reordering) (now : String) (ids : List Int) : Tx Unit :=
  match reordering with
  | outbounds => reorderOutboundsTx ids
  | outboundSubscriptions => reorderOutboundSubscriptionsTx now ids
  | routingRules => reorderRoutingRulesTx ids

/-- What the operation makes of the store. -/
def Reordering.effect (reordering : Reordering) (now : String) (ids : List Int) (store : Store) : Except String Store :=
  match reordering with
  | outbounds => reorderOutbounds ids store
  | outboundSubscriptions => reorderOutboundSubscriptions now ids store
  | routingRules => .ok (reorderRoutingRules ids store)

theorem Reordering.tx_performs (reordering : Reordering) (now : String) (ids : List Int) :
    Performs (reordering.tx now ids) fun store => (reordering.effect now ids store).map fun store => (store, ()) := by
  cases reordering with
  | outbounds => exact reorderOutboundsTx_performs ids
  | outboundSubscriptions => exact reorderOutboundSubscriptionsTx_performs now ids
  | routingRules => exact reorderRoutingRulesTx_performs ids

theorem listRoutingRules_perm : (Reordering.routingRules.listed store).Perm (store.routingRules.rows.map RoutingRule.id) :=
  (List.perm_insertionSort _ _).map _

theorem listOutboundSubscriptions_perm : (Reordering.outboundSubscriptions.listed store).Perm
    ((store.outboundSubscriptions.rows.filter fun row => row.deletedAt == "").map OutboundSubscription.id) := by
  rw [Reordering.listed, listOutboundSubscriptions, List.map_map]
  exact (List.perm_insertionSort _ _).map _

theorem outboundReorderable_load (row : Outbound) : outboundReorderable (loadOutbound row) = outboundReorderable row := by
  have blank : trimSpace outboundSourceSubscription ≠ "" := by with_unfolding_all decide
  have manual : (outboundSourceManual != outboundSourceSubscription) = true := by decide
  unfold outboundReorderable loadOutbound
  by_cases empty : trimSpace row.source = ""
  · have other : (row.source != outboundSourceSubscription) = true :=
      bne_iff_ne.mpr fun same => blank (same ▸ empty)
    rw [if_pos empty, manual, other]
  · rw [if_neg empty]

theorem listOutbounds_perm : (Reordering.outbounds.listed store).Perm (reorderableIDs store) := by
  rw [Reordering.listed, listOutbounds, List.filter_map, List.map_map]
  have kept : (outboundReorderable ∘ loadOutbound) = outboundReorderable := funext outboundReorderable_load
  rw [kept]
  exact ((List.perm_insertionSort _ _).filter _).map _

/-- A list of numbered rows stands in the order of their numbers. -/
theorem listed_rules (perm : ids.Perm (store.routingRules.rows.map RoutingRule.id)) :
    Reordering.routingRules.listed (reorderRoutingRules ids store) = ids := by
  have nodup : ids.Nodup := perm.nodup_iff.mpr store.routingRules.ids_nodup
  have rows : (writeRuleSorts ids store.routingRules).rows = store.routingRules.rows.map fun rule =>
      if rule.id ∈ ids then sortRule (ids.idxOf rule.id : Nat) rule else rule :=
    Serial.number_rows (fun place rule => sortRule_id place rule) nodup store.routingRules
  have same : (writeRuleSorts ids store.routingRules).rows.map RoutingRule.id =
      store.routingRules.rows.map RoutingRule.id := by
    rw [rows, List.map_map]
    refine List.map_congr_left fun rule _ => ?_
    dsimp only [Function.comp_apply]
    split <;> rfl
  have sorts : ∀ rule ∈ (writeRuleSorts ids store.routingRules).rows, rule.sort = (ids.idxOf rule.id : Nat) := by
    intro rule member
    rw [rows] at member
    obtain ⟨old, stored, rfl⟩ := List.mem_map.mp member
    rw [if_pos (perm.mem_iff.mpr (List.mem_map_of_mem stored))]
    rfl
  refine map_eq_of_sorted nodup (listRoutingRules_perm.trans (same ▸ perm.symm))
    (List.pairwise_insertionSort ruleBefore _) ?_
  intro left leftInside right rightInside before
  have leftSort := sorts left ((List.mem_insertionSort _).mp leftInside)
  have rightSort := sorts right ((List.mem_insertionSort _).mp rightInside)
  unfold ruleBefore at before
  omega

instance : Std.Total subscriptionBefore where
  total left right := by
    unfold subscriptionBefore
    omega

instance : IsTrans OutboundSubscription subscriptionBefore where
  trans left middle right := by
    unfold subscriptionBefore
    omega

/-- The subscriptions that are not deleted. -/
def liveSubscriptionIDs (store : Store) : List Int :=
  (store.outboundSubscriptions.rows.filter fun row => row.deletedAt == "").map OutboundSubscription.id

theorem liveSubscriptionIDs_nodup : (liveSubscriptionIDs store).Nodup :=
  store.outboundSubscriptions.ids_nodup.sublist (List.filter_sublist.map _)

theorem listed_subscriptions {now : String} {ids : List Int} (perm : ids.Perm (liveSubscriptionIDs store))
    (subscriptions : after.outboundSubscriptions = writeSubscriptionPriorities now ids store.outboundSubscriptions) :
    Reordering.outboundSubscriptions.listed after = ids := by
  have nodup : ids.Nodup := perm.nodup_iff.mpr liveSubscriptionIDs_nodup
  have rows : after.outboundSubscriptions.rows = store.outboundSubscriptions.rows.map fun row =>
      if row.id ∈ ids then prioritizeSubscription now (ids.idxOf row.id : Nat) row else row := by
    rw [subscriptions]
    exact Serial.number_rows (fun place row => prioritizeSubscription_id now place row) nodup _
  have live : ∀ row : OutboundSubscription,
      (if row.id ∈ ids then prioritizeSubscription now (ids.idxOf row.id : Nat) row else row).deletedAt = row.deletedAt := by
    intro row
    split <;> rfl
  have named : ∀ row : OutboundSubscription,
      (if row.id ∈ ids then prioritizeSubscription now (ids.idxOf row.id : Nat) row else row).id = row.id := by
    intro row
    split <;> rfl
  have same : liveSubscriptionIDs after = liveSubscriptionIDs store := by
    rw [liveSubscriptionIDs, rows, List.filter_map, List.map_map, liveSubscriptionIDs]
    simp only [Function.comp_def, live, named]
  have priorities : ∀ row ∈ after.outboundSubscriptions.rows, row.deletedAt = "" →
      row.priority = (ids.idxOf row.id : Nat) := by
    intro row member alive
    rw [rows] at member
    obtain ⟨old, stored, rfl⟩ := List.mem_map.mp member
    rw [live] at alive
    have inside : old.id ∈ ids :=
      perm.mem_iff.mpr (List.mem_map.mpr ⟨old, List.mem_filter.mpr ⟨stored, beq_iff_eq.mpr alive⟩, rfl⟩)
    rw [if_pos inside]
    rfl
  have listed : ∀ row ∈ (after.outboundSubscriptions.rows.filter fun row => row.deletedAt == "").insertionSort
      subscriptionBefore, row.priority = (ids.idxOf row.id : Nat) := by
    intro row member
    obtain ⟨stored, alive⟩ := List.mem_filter.mp ((List.mem_insertionSort _).mp member)
    exact priorities row stored (beq_iff_eq.mp alive)
  have perm' := @listOutboundSubscriptions_perm after
  rw [Reordering.listed, listOutboundSubscriptions, List.map_map] at perm' ⊢
  refine map_eq_of_sorted nodup (perm'.trans ((List.Perm.of_eq same).trans perm.symm))
    (List.pairwise_insertionSort subscriptionBefore _) ?_
  intro left leftInside right rightInside before
  have leftPriority := listed left leftInside
  have rightPriority := listed right rightInside
  unfold subscriptionBefore at before
  dsimp only [Function.comp_apply]
  omega

theorem reorderableIDs_nodup : (reorderableIDs store).Nodup :=
  store.outbounds.ids_nodup.sublist (List.filter_sublist.map _)

/-- An outbound that can be reordered ranks by its sort, as it has no subscription. -/
theorem outboundRank_reorderable {subscriptions owners : Serial OutboundSubscription.id} {row : Outbound}
    (owned : row.Owned owners) (reorderable : outboundReorderable row = true) :
    outboundRank subscriptions row = (2, row.sort) := by
  simp only [outboundReorderable, Bool.and_eq_true, bne_iff_ne, Bool.not_eq_true', List.contains_eq_mem,
    decide_eq_false_iff_not, List.mem_cons, List.not_mem_nil, or_false, not_or] at reorderable
  obtain ⟨⟨notFreedom, notBlackhole, notDns⟩, own⟩ := reorderable
  have free : row.subscriptionID = 0 := by
    by_contra given
    exact own (owned.source.mpr given)
  have unowned : subscriptions.find? row.subscriptionID = none := by
    rw [Serial.find?_eq_none, free]
    exact fun other stored => ne_of_gt (subscriptions.positive other stored)
  simp only [outboundRank, notFreedom, notBlackhole, notDns, own, unowned, and_false, if_false, Option.map_none,
    Option.getD_none]

theorem listed_outbounds {ids : List Int} (owners : OwnersSound store) (perm : ids.Perm (reorderableIDs store)) :
    Reordering.outbounds.listed
      (rebalanceOutboundSorts { store with outbounds := writeOutboundSorts 100000 ids store.outbounds }) = ids := by
  have nodup : ids.Nodup := perm.nodup_iff.mpr reorderableIDs_nodup
  generalize changedEq : { store with outbounds := writeOutboundSorts 100000 ids store.outbounds } = changed
  have rows : changed.outbounds.rows = store.outbounds.rows.map fun row =>
      if row.id ∈ ids then sortOutbound (100000 + (ids.idxOf row.id : Nat)) row else row := by
    rw [← changedEq]
    exact @Serial.number_rows _ _ (fun place row => sortOutbound (100000 + place) row)
      (fun place row => sortOutbound_id (100000 + place) row) ids nodup store.outbounds
  have kept : ∀ row : Outbound, outboundReorderable
      (if row.id ∈ ids then sortOutbound (100000 + (ids.idxOf row.id : Nat)) row else row) = outboundReorderable row := by
    intro row
    split <;> rfl
  have named : ∀ row : Outbound,
      (if row.id ∈ ids then sortOutbound (100000 + (ids.idxOf row.id : Nat)) row else row).id = row.id := by
    intro row
    split <;> rfl
  have same : reorderableIDs changed = reorderableIDs store := by
    rw [reorderableIDs, rows, List.filter_map, List.map_map, reorderableIDs]
    simp only [Function.comp_def, kept, named]
  -- The rows that can be reordered have the numbers of their places, and rank by them.
  have ranks : ∀ row ∈ changed.outbounds.rows, outboundReorderable row = true →
      outboundRank changed.outboundSubscriptions row = ((2 : Int), (100000 + (ids.idxOf row.id : Nat) : Int)) := by
    intro row member reorderable
    rw [rows] at member
    obtain ⟨old, stored, rfl⟩ := List.mem_map.mp member
    rw [kept] at reorderable
    have inside : old.id ∈ ids :=
      perm.mem_iff.mpr (List.mem_map.mpr ⟨old, List.mem_filter.mpr ⟨stored, reorderable⟩, rfl⟩)
    rw [if_pos inside]
    exact outboundRank_reorderable ((owners old stored).congr rfl rfl id) reorderable
  have listed : Reordering.outbounds.listed (rebalanceOutboundSorts changed) =
      ((ranked changed).filter outboundReorderable).map Outbound.id := by
    rw [Reordering.listed, listOutbounds_rebalanceOutboundSorts, List.filter_map, List.map_map]
    have selected : (outboundReorderable ∘ fun row => loadOutbound (renumber changed row)) = outboundReorderable :=
      funext fun row => outboundReorderable_load (renumber changed row)
    rw [selected]
    rfl
  rw [listed]
  have permuted : (((ranked changed).filter outboundReorderable).map Outbound.id).Perm (reorderableIDs changed) :=
    ((List.perm_insertionSort _ _).filter _).map _
  refine map_eq_of_sorted nodup (permuted.trans ((List.Perm.of_eq same).trans perm.symm))
    ((List.pairwise_insertionSort (rankBefore changed.outboundSubscriptions) _).filter _) ?_
  intro left leftInside right rightInside before
  obtain ⟨leftRanked, leftReorderable⟩ := List.mem_filter.mp leftInside
  obtain ⟨rightRanked, rightReorderable⟩ := List.mem_filter.mp rightInside
  have leftRank := ranks left (mem_ranked.mp leftRanked) leftReorderable
  have rightRank := ranks right (mem_ranked.mp rightRanked) rightReorderable
  rw [rankBefore, leftRank, rightRank, rankLess, Prod.ext_iff] at before
  omega

/-- The operation puts the items into the order of the list, if the list has each of them once,
and refuses it otherwise; whatever statement fails, nothing has changed then. -/
structure PermutesOrRefuses (reordering : Reordering) (now : String) (ids : List Int) (store : Store) : Prop where
  accepts : ids.Perm (reordering.listed store) →
    ∀ issued, ∃ after count, reordering.tx now ids (fun _ => none) (store, issued) = (.ok (), after, count)
  permutes : ids.Perm (reordering.listed store) → ∀ faults issued after count,
    reordering.tx now ids faults (store, issued) = (.ok (), after, count) → reordering.listed after = ids
  refuses : ¬ids.Perm (reordering.listed store) → ∀ faults issued, ∃ reason,
    (reordering.tx now ids faults (store, issued)).1 = .error reason
  unchanged : ∀ faults issued reason, (reordering.tx now ids faults (store, issued)).1 = .error reason →
    (reordering.tx now ids faults (store, issued)).2.1 = store

theorem Reordering.tx_undone (reordering : Reordering) {now reason : String} {faults : Faults String} {issued : Nat}
    (failed : (reordering.tx now ids faults (store, issued)).1 = .error reason) :
    (reordering.tx now ids faults (store, issued)).2.1 = store := by
  cases reordering with
  | outbounds => exact transact_error failed
  | outboundSubscriptions => exact transact_error failed
  | routingRules => exact transact_error failed

/-- A list that passes the checks has each item once. -/
theorem Reordering.perm_of_effect {reordering : Reordering} {now : String} (checked : reordering ≠ .routingRules)
    (done : reordering.effect now ids store = .ok after) : ids.Perm (reordering.listed store) := by
  cases reordering with
  | routingRules => exact absurd rfl checked
  | outbounds =>
      simp only [Reordering.effect, reorderOutbounds, bind_eq_ok, require_eq_ok, Bool.and_eq_true, beq_iff_eq,
        decide_eq_true_eq, List.all_eq_true, List.contains_iff_mem] at done
      obtain ⟨_, size, _, ⟨known, nodup⟩, _⟩ := done
      have covers : (reorderableIDs store).Perm ids := perm_of_covers nodup known size.symm
      exact covers.symm.trans listOutbounds_perm.symm
  | outboundSubscriptions =>
      simp only [Reordering.effect, reorderOutboundSubscriptions, bind_eq_ok, require_eq_ok, beq_iff_eq,
        List.all_eq_true, List.contains_iff_mem] at done
      obtain ⟨_, size, _, known, _⟩ := done
      have covers : ids.Perm (liveSubscriptionIDs store) := perm_of_covers liveSubscriptionIDs_nodup known size
      exact covers.trans listOutboundSubscriptions_perm.symm

/-- A list that has each item once passes the checks, and becomes the order. -/
theorem Reordering.effect_of_perm (owners : OwnersSound store) {reordering : Reordering} (now : String)
    (perm : ids.Perm (reordering.listed store)) :
    ∃ after, reordering.effect now ids store = .ok after ∧ reordering.listed after = ids := by
  cases reordering with
  | routingRules => exact ⟨_, rfl, listed_rules (perm.trans listRoutingRules_perm)⟩
  | outbounds =>
      have same : ids.Perm (reorderableIDs store) := perm.trans listOutbounds_perm
      refine ⟨_, ?_, listed_outbounds owners same⟩
      have size : (ids.length == (reorderableIDs store).length) = true := beq_iff_eq.mpr same.length_eq
      have known : (ids.all (reorderableIDs store).contains && decide ids.Nodup) = true := by
        rw [Bool.and_eq_true, decide_eq_true_eq, List.all_eq_true]
        exact ⟨fun id inside => List.contains_iff_mem.mpr (same.mem_iff.mp inside),
          same.nodup_iff.mpr reorderableIDs_nodup⟩
      rw [reorderableIDs] at size known
      simp only [Reordering.effect, reorderOutbounds, size, known, require, if_true]
      rfl
  | outboundSubscriptions =>
      have same : ids.Perm (liveSubscriptionIDs store) := perm.trans listOutboundSubscriptions_perm
      let subscriptions := writeSubscriptionPriorities now ids store.outboundSubscriptions
      refine ⟨rebalanceOutboundSorts { store with outboundSubscriptions := subscriptions }, ?_,
        listed_subscriptions same rfl⟩
      have size : (ids.length == (liveSubscriptionIDs store).length) = true := beq_iff_eq.mpr same.length_eq
      have known : ((liveSubscriptionIDs store).all ids.contains) = true :=
        List.all_eq_true.mpr fun id inside => List.contains_iff_mem.mpr (same.mem_iff.mpr inside)
      rw [liveSubscriptionIDs] at size known
      simp only [Reordering.effect, reorderOutboundSubscriptions, size, known, require, if_true]
      rfl

/-- Every reordering puts the items into the order of the list or refuses it, except that the
one of the rules refuses nothing. -/
theorem permutesOrRefuses_iff (reached : Reach (Steps (eventStep platform)) Store.initial store)
    (reordering : Reordering) (now : String) (ids : List Int) : PermutesOrRefuses reordering now ids store ↔
      (reordering = .routingRules → ids.Perm (reordering.listed store)) := by
  have owners := events_owners reached
  have performs := reordering.tx_performs now ids
  constructor
  · intro orderly rules
    by_contra partly
    obtain ⟨reason, refused⟩ := orderly.refuses partly (fun _ => none) 0
    subst rules
    obtain ⟨count, ran⟩ := performs.complete 0 (map_eq_ok.mpr ⟨_, rfl, rfl⟩)
    rw [ran] at refused
    cases refused
  · intro whole
    refine ⟨?_, ?_, ?_, fun _ _ _ => reordering.tx_undone⟩
    · intro perm issued
      obtain ⟨after, done, _⟩ := Reordering.effect_of_perm owners now perm
      exact ⟨after, performs.complete issued (map_eq_ok.mpr ⟨after, done, rfl⟩)⟩
    · intro perm faults issued after count ran
      obtain ⟨left, done, same⟩ := map_eq_ok.mp (performs.sound ran)
      obtain ⟨other, done', listed⟩ := Reordering.effect_of_perm owners now perm
      cases same
      rw [done] at done'
      cases done'
      exact listed
    · intro partly faults issued
      have checked : reordering ≠ .routingRules := fun rules => partly (whole rules)
      cases ran : reordering.tx now ids faults (store, issued) with
      | mk outcome session =>
          cases outcome with
          | error reason => exact ⟨reason, rfl⟩
          | ok value =>
              obtain ⟨left, done, _⟩ := map_eq_ok.mp (performs.sound ran)
              exact absurd (Reordering.perm_of_effect checked done) partly

/-- Three rules that lead to the built-in outbounds. -/
def exampleRules : Store :=
  let rule := fun outboundID => StoreEvent.operate (.createRoutingRule { (default : RoutingRuleParams) with
    outboundID, domain := "example.com", enabled := true })
  arrive (eventStep Config.examplePlatform) [rule 1, rule 2, rule 3] Store.initial

/-- The third rule alone is put first, which is done: it is second then. -/
theorem partial_rules_accepted :
    Reordering.routingRules.listed exampleRules = [1, 2, 3] ∧
      Reordering.routingRules.listed (reorderRoutingRules [3] exampleRules) = [1, 3, 2] ∧
      ¬ ∀ (platform : Platform) (store : Store), Reach (Steps (eventStep platform)) Store.initial store →
        ∀ reordering now ids, PermutesOrRefuses reordering now ids store := by
  have listed : Reordering.routingRules.listed exampleRules = [1, 2, 3] := by with_unfolding_all decide
  refine ⟨listed, by with_unfolding_all decide, fun always => ?_⟩
  have orderly := always Config.examplePlatform exampleRules (Reach.arrive _ _ _) .routingRules "" [3]
  have partly : ¬[3].Perm (Reordering.routingRules.listed exampleRules) := by
    rw [listed]
    decide
  obtain ⟨reason, refused⟩ := orderly.refuses partly (fun _ => none) 0
  obtain ⟨count, ran⟩ := (reorderRoutingRulesTx_performs [3]).complete 0
    (show Except.ok (reorderRoutingRules [3] exampleRules, ()) = .ok (reorderRoutingRules [3] exampleRules, ()) from rfl)
  have accepted : ((Reordering.routingRules.tx "" [3]) (fun _ => none) (exampleRules, 0)).1 = .ok () :=
    congrArg Prod.fst ran
  rw [accepted] at refused
  cases refused

theorem whole_rules_permuted : PermutesOrRefuses .routingRules "" [3, 1, 2] exampleRules := by
  have reached : Reach (Steps (eventStep Config.examplePlatform)) Store.initial exampleRules := Reach.arrive _ _ _
  refine (permutesOrRefuses_iff reached .routingRules "" [3, 1, 2]).mpr fun _ => ?_
  have listed : Reordering.routingRules.listed exampleRules = [1, 2, 3] := by with_unfolding_all decide
  rw [listed]
  decide

end MiGate.Db
