import MiGate.Db.Rebalance
import MiGate.Subscription.Loop

namespace MiGate.Subscription

open Go Db Fallible Relational

variable {now : String} {subscriptionID : Int} {nodes : List MaterializedSubscriptionOutbound}
  {identities : Option (List String)} {store after : Store} {outbounds : List Outbound}

/-! What is left of a subscription's outbounds after a refresh: the rows that nodes were written
to, each with the last of them. -/

theorem isSubscriptionOutbound_loadOutbound (row : Outbound) :
    isSubscriptionOutbound subscriptionID (loadOutbound row) = isSubscriptionOutbound subscriptionID row := by
  have manual : outboundSourceManual ≠ outboundSourceSubscription := by decide
  have blank : trimSpace outboundSourceSubscription ≠ "" := by with_unfolding_all decide
  simp only [isSubscriptionOutbound, loadOutbound]
  by_cases given : trimSpace row.source = ""
  · have other : row.source ≠ outboundSourceSubscription := fun same => blank (by rw [← same]; exact given)
    rw [if_pos given, beq_eq_false_iff_ne.mpr manual, beq_eq_false_iff_ne.mpr other]
  · rw [if_neg given]

@[simp] theorem isSubscriptionOutbound_sortOutbound (sort : Int) (row : Outbound) :
    isSubscriptionOutbound subscriptionID (sortOutbound sort row) = isSubscriptionOutbound subscriptionID row := rfl

@[simp] theorem server_loadOutbound (row : Outbound) : server (loadOutbound row) = server row := rfl

@[simp] theorem server_renumber (row : Outbound) : server (renumber store row) = server row := rfl

/-- The subscription's outbounds as `ListOutbounds` gives them. -/
def subscriptionOutbounds (subscriptionID : Int) (store : Store) : List Outbound :=
  (listOutbounds store).filter (isSubscriptionOutbound subscriptionID)

/-- A refresh that succeeds, taken apart: the loop, the rows it leaves, the rebalancing. -/
structure Reconciled (now : String) (subscriptionID : Int) (nodes : List MaterializedSubscriptionOutbound)
    (store after : Store) (written kept : Store) (targets : List Int) : Prop where
  looped : nodes.foldlM (materializeNode now subscriptionID) (store, []) = .ok (written, targets)
  length : targets.length = nodes.length
  writes : Overwrites (Carries subscriptionID) store.outbounds written.outbounds (targets.zip nodes)
  stored : ∀ row, row ∈ kept.outbounds.rows ↔
    row ∈ written.outbounds.rows ∧ (isSubscriptionOutbound subscriptionID row = true → row.id ∈ targets)
  rebalanced : after = rebalanceOutboundSorts kept

theorem mem_deleteStale {written : Store} {targets : List Int} {row : Outbound} :
    row ∈ (deleteSubscriptionOutbounds ((subscriptionOutboundIDs subscriptionID written).filter fun id =>
        !targets.contains id) written).outbounds.rows ↔
      row ∈ written.outbounds.rows ∧ (isSubscriptionOutbound subscriptionID row = true → row.id ∈ targets) := by
  rw [deleteSubscriptionOutbounds, Serial.mem_deleteWhere]
  refine and_congr_right fun stored => ?_
  have stale : row.id ∈ (subscriptionOutboundIDs subscriptionID written).filter (fun id => !targets.contains id) ↔
      isSubscriptionOutbound subscriptionID row = true ∧ row.id ∉ targets := by
    rw [List.mem_filter, Bool.not_eq_true', List.contains_eq_mem, decide_eq_false_iff_not]
    refine and_congr_left fun _ => ?_
    constructor
    · intro listed
      obtain ⟨other, inside, same⟩ := List.mem_map.mp listed
      obtain ⟨otherStored, mine⟩ := List.mem_filter.mp inside
      rwa [Serial.eq_of_id_eq otherStored stored same] at mine
    · exact fun mine => List.mem_map_of_mem (List.mem_filter.mpr ⟨stored, mine⟩)
  have source : isSubscriptionOutbound subscriptionID row = true → (row.source == outboundSourceSubscription) = true := by
    intro mine
    rw [isSubscriptionOutbound, Bool.and_eq_true] at mine
    exact mine.2
  rw [Bool.and_eq_false_iff, List.contains_eq_mem, decide_eq_false_iff_not, stale]
  constructor
  · rintro (other | notStale) mine
    · rw [source mine] at other
      cases other
    · by_contra missing
      exact notStale ⟨mine, missing⟩
  · intro claimed
    refine .inr fun both => ?_
    exact both.2 (claimed both.1)

theorem materializeSubscriptionOutbounds_reconciled
    (done : materializeSubscriptionOutbounds now subscriptionID nodes identities store = .ok (after, outbounds)) :
    ∃ written kept targets, Reconciled now subscriptionID nodes store after written kept targets := by
  simp only [materializeSubscriptionOutbounds, bind_eq_ok, pure_eq_ok, Prod.mk.injEq] at done
  obtain ⟨_, _, _, _, ⟨written, seen⟩, looped, rfl, _⟩ := done
  obtain ⟨targets, seenAll, length, writes⟩ := materializeNodes_writes looped
  rw [List.nil_append] at seenAll
  dsimp only at seenAll writes
  rw [seenAll] at looped ⊢
  exact ⟨written, updateSubscriptionFetch subscriptionID now "" identities now (deleteSubscriptionOutbounds _ written),
    targets, looped, length, writes, fun _ => mem_deleteStale, rfl⟩

namespace Reconciled

variable {written kept : Store} {targets : List Int}

/-- The subscription's rows that are left are those with a target's number. -/
theorem mem_iff (reconciled : Reconciled now subscriptionID nodes store after written kept targets) {row : Outbound} :
    row ∈ kept.outbounds.rows ∧ isSubscriptionOutbound subscriptionID row = true ↔
      row ∈ written.outbounds.rows ∧ row.id ∈ targets := by
  rw [reconciled.stored]
  constructor
  · rintro ⟨⟨stored, claimed⟩, mine⟩
    exact ⟨stored, claimed mine⟩
  · rintro ⟨stored, target⟩
    have zipped : row.id ∈ (targets.zip nodes).map Prod.fst := by
      rwa [List.map_fst_zip reconciled.length.le]
    obtain ⟨node, last⟩ := lastWrite_isSome.mpr zipped
    exact ⟨⟨stored, fun _ => target⟩, (reconciled.writes.written row stored node last).mine⟩

theorem ranked_mine (reconciled : Reconciled now subscriptionID nodes store after written kept targets) :
    subscriptionOutbounds subscriptionID after =
      ((ranked kept).filter (isSubscriptionOutbound subscriptionID)).map fun row =>
        loadOutbound (renumber kept row) := by
  rw [subscriptionOutbounds, reconciled.rebalanced, listOutbounds_rebalanceOutboundSorts, List.filter_map]
  congr 1
  refine List.filter_congr fun row _ => ?_
  exact isSubscriptionOutbound_loadOutbound _

theorem ids_nodup : ((ranked kept).filter (isSubscriptionOutbound subscriptionID)).map Outbound.id |>.Nodup :=
  ranked_ids_nodup.sublist (List.filter_sublist.map _)

/-- Two nodes that share a target leave fewer rows than there are nodes. -/
theorem length_lt (reconciled : Reconciled now subscriptionID nodes store after written kept targets)
    (shared : ¬targets.Nodup) : (subscriptionOutbounds subscriptionID after).length < nodes.length := by
  have ids : ((ranked kept).filter (isSubscriptionOutbound subscriptionID)).map Outbound.id ⊆ targets.dedup := by
    intro id member
    obtain ⟨row, inside, rfl⟩ := List.mem_map.mp member
    obtain ⟨stored, mine⟩ := List.mem_filter.mp inside
    exact List.mem_dedup.mpr (reconciled.mem_iff.mp ⟨mem_ranked.mp stored, mine⟩).2
  have most := (ids_nodup.subperm ids).length_le
  have fewer : targets.dedup.length < targets.length := by
    refine lt_of_le_of_ne (List.dedup_sublist targets).length_le fun same => shared ?_
    rw [← (List.dedup_sublist targets).eq_of_length same]
    exact List.nodup_dedup targets
  rw [reconciled.ranked_mine, List.length_map, ← reconciled.length]
  rw [List.length_map] at most
  omega

end Reconciled

/-! The order in which the rows are listed. -/

theorem exists_forall₂ {α β : Type} {related : β → α → Prop} {items : List α}
    (each : ∀ item ∈ items, ∃ result, related result item) : ∃ results, List.Forall₂ related results items := by
  induction items with
  | nil => exact ⟨[], .nil⟩
  | cons item rest ih =>
      obtain ⟨first, done⟩ := each item List.mem_cons_self
      obtain ⟨others, all⟩ := ih fun later member => each later (List.mem_cons_of_mem _ member)
      exact ⟨first :: others, .cons done all⟩

/-- A protocol none of the built-in outbounds has. -/
def plainProtocol (protocol : String) : Prop :=
  protocol ≠ "freedom" ∧ protocol ≠ "blackhole" ∧ protocol ≠ "dns"

/-- Rows of one subscription rank in the order of their sorts. -/
theorem rankBefore_of_sort {subscriptions : Serial OutboundSubscription.id} {left right : Outbound}
    (leftMine : isSubscriptionOutbound subscriptionID left = true)
    (rightMine : isSubscriptionOutbound subscriptionID right = true) (leftPlain : plainProtocol left.protocol)
    (rightPlain : plainProtocol right.protocol) (less : left.sort < right.sort) :
    rankBefore subscriptions left right := by
  have rank : ∀ row : Outbound, isSubscriptionOutbound subscriptionID row = true → plainProtocol row.protocol →
      outboundRank subscriptions row =
        (if ((subscriptions.find? subscriptionID).map OutboundSubscription.prepend).getD false then 1 else 3,
          ((subscriptions.find? subscriptionID).map OutboundSubscription.priority).getD row.sort) := by
    intro row mine plain
    simp only [isSubscriptionOutbound, Bool.and_eq_true, beq_iff_eq] at mine
    rw [outboundRank, if_neg fun both => plain.1 both.2, if_neg fun both => plain.2.1 both.2,
      if_neg fun both => plain.2.2 both.2, mine.1, if_pos mine.2]
    split <;> rfl
  rw [rankBefore, rank left leftMine leftPlain, rank right rightMine rightPlain]
  cases subscriptions.find? subscriptionID with
  | some subscription => exact .inr ⟨rfl, .inl less⟩
  | none => exact .inl (.inr ⟨rfl, less⟩)

/-- The rows of the nodes, one for each, in the order of the nodes. -/
def NodeRows (subscriptionID : Int) (kept : Store) (targets : List Int)
    (nodes : List MaterializedSubscriptionOutbound) (rows : List Outbound) : Prop :=
  List.Forall₂ (fun row (pair : Int × MaterializedSubscriptionOutbound) =>
    row ∈ kept.outbounds.rows ∧ row.id = pair.1 ∧ Carries subscriptionID row pair.2) rows (targets.zip nodes)

theorem map_of_forall₂ {α β γ : Type} {related : α → β → Prop} {items : List α} {results : List β} {f : α → γ}
    (g : β → γ) (all : List.Forall₂ related items results)
    (same : ∀ item result, related item result → f item = g result) : items.map f = results.map g := by
  induction all with
  | nil => rfl
  | cons first _ ih => rw [List.map_cons, List.map_cons, same _ _ first, ih]

theorem Carries.protocol {row : Outbound} {node : MaterializedSubscriptionOutbound}
    (carries : Carries subscriptionID row node) : row.protocol = (nodeServer node).protocol :=
  congrArg Server.protocol carries.server

namespace NodeRows

variable {kept : Store} {targets : List Int} {rows : List Outbound}

theorem ids (all : NodeRows subscriptionID kept targets nodes rows) (length : targets.length = nodes.length) :
    rows.map Outbound.id = targets := by
  rw [map_of_forall₂ Prod.fst all fun _ _ related => related.2.1]
  exact List.map_fst_zip length.le

theorem servers (all : NodeRows subscriptionID kept targets nodes rows) (length : targets.length = nodes.length) :
    rows.map server = nodes.map nodeServer := by
  have each := map_of_forall₂ (nodeServer ∘ Prod.snd) all fun _ _ related => related.2.2.server
  rw [each, ← List.map_map, List.map_snd_zip length.ge]

theorem sorts (all : NodeRows subscriptionID kept targets nodes rows) (length : targets.length = nodes.length) :
    rows.map Outbound.sort = nodes.map fun node => 50000 + node.position := by
  have each := map_of_forall₂ ((fun node => 50000 + node.position) ∘ Prod.snd) all
    fun _ _ related => related.2.2.sort
  rw [each, ← List.map_map, List.map_snd_zip length.ge]

theorem each (all : NodeRows subscriptionID kept targets nodes rows) {row : Outbound} (member : row ∈ rows) :
    row ∈ kept.outbounds.rows ∧ ∃ node ∈ nodes, Carries subscriptionID row node := by
  obtain ⟨i, bound, rfl⟩ := List.mem_iff_getElem.mp member
  have related := all.get bound (all.length_eq ▸ bound)
  exact ⟨related.1, _, (List.of_mem_zip (List.getElem_mem _)).2, related.2.2⟩

/-- They rank in this order. -/
theorem sorted (all : NodeRows subscriptionID kept targets nodes rows) (length : targets.length = nodes.length)
    (positions : (nodes.map MaterializedSubscriptionOutbound.position).Pairwise (· < ·))
    (plain : ∀ node ∈ nodes, plainProtocol (nodeServer node).protocol) :
    rows.Pairwise (rankBefore kept.outboundSubscriptions) := by
  have increasing : rows.Pairwise fun left right => left.sort < right.sort := by
    rw [← List.pairwise_map, all.sorts length, List.pairwise_map]
    rw [List.pairwise_map] at positions
    exact positions.imp fun less => Int.add_lt_add_left less 50000
  refine increasing.imp_of_mem fun {left right} leftMember rightMember less => ?_
  obtain ⟨_, leftNode, leftInside, leftCarries⟩ := all.each leftMember
  obtain ⟨_, rightNode, rightInside, rightCarries⟩ := all.each rightMember
  refine rankBefore_of_sort leftCarries.mine rightCarries.mine ?_ ?_ less
  · rw [leftCarries.protocol]
    exact plain leftNode leftInside
  · rw [rightCarries.protocol]
    exact plain rightNode rightInside

end NodeRows

namespace Reconciled

variable {written kept : Store} {targets : List Int}

/-- Where no two nodes share a target, each has a row of its own. -/
theorem exists_rows (reconciled : Reconciled now subscriptionID nodes store after written kept targets)
    (apart : targets.Nodup) : ∃ rows, NodeRows subscriptionID kept targets nodes rows := by
  refine exists_forall₂ fun pair member => ?_
  have zipped : (targets.zip nodes).map Prod.fst = targets := List.map_fst_zip reconciled.length.le
  have last : lastWrite (targets.zip nodes) pair.1 = some pair.2 := by
    refine lastWrite_eq member fun other otherMember => ?_
    have nodup : ((targets.zip nodes).map Prod.fst).Nodup := by rwa [zipped]
    exact congrArg Prod.snd (List.inj_on_of_nodup_map nodup otherMember member rfl)
  obtain ⟨row, stored, named⟩ := List.mem_map.mp (reconciled.writes.present pair.1 (List.mem_map_of_mem member))
  rw [← named] at last
  have carries := reconciled.writes.written row stored pair.2 last
  refine ⟨row, (reconciled.mem_iff.mpr ⟨stored, ?_⟩).1, named, carries⟩
  rw [named, ← zipped]
  exact List.mem_map_of_mem member

theorem perm_rows (reconciled : Reconciled now subscriptionID nodes store after written kept targets)
    (apart : targets.Nodup) {rows : List Outbound} (all : NodeRows subscriptionID kept targets nodes rows) :
    ((ranked kept).filter (isSubscriptionOutbound subscriptionID)).Perm rows := by
  have ids := all.ids reconciled.length
  have rowsNodup : rows.Nodup := List.Nodup.of_map Outbound.id (ids.symm ▸ apart)
  refine (List.perm_ext_iff_of_nodup (List.Nodup.of_map Outbound.id ids_nodup) rowsNodup).mpr fun row => ?_
  rw [List.mem_filter, mem_ranked, reconciled.mem_iff]
  constructor
  · rintro ⟨stored, target⟩
    rw [← ids] at target
    obtain ⟨other, member, same⟩ := List.mem_map.mp target
    have otherWritten := ((reconciled.stored other).mp (all.each member).1).1
    rw [← Serial.eq_of_id_eq otherWritten stored same]
    exact member
  · intro member
    refine ⟨((reconciled.stored row).mp (all.each member).1).1, ?_⟩
    rw [← ids]
    exact List.mem_map_of_mem member

/-- The subscription's outbounds are listed in the order of the nodes, with what these hold. -/
theorem servers_eq (reconciled : Reconciled now subscriptionID nodes store after written kept targets)
    (positions : (nodes.map MaterializedSubscriptionOutbound.position).Pairwise (· < ·))
    (plain : ∀ node ∈ nodes, plainProtocol (nodeServer node).protocol) (apart : targets.Nodup) :
    (subscriptionOutbounds subscriptionID after).map server = nodes.map nodeServer := by
  obtain ⟨rows, all⟩ := reconciled.exists_rows apart
  have listed : (ranked kept).filter (isSubscriptionOutbound subscriptionID) = rows := by
    refine (reconciled.perm_rows apart all).eq_of_pairwise ?_ ((List.pairwise_insertionSort _ _).filter _)
      (all.sorted reconciled.length positions plain)
    intro left right leftMember rightMember before behind
    refine Serial.eq_of_id_eq (mem_ranked.mp (List.mem_of_mem_filter leftMember)) (all.each rightMember).1 ?_
    exact rankBefore_antisymm before behind
  rw [reconciled.ranked_mine, listed, List.map_map, ← all.servers reconciled.length]
  rfl

end Reconciled

end MiGate.Subscription
