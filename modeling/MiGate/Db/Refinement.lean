import MiGate.Db.RuleScope

namespace MiGate.Db

open Go Fallible Relational Routing Transition

variable {platform : Platform} {store after : Store}

/-! Every operation is a sequence of allowed changes of the topology.  Compatibility of the
rules with the cores is checked only where a rule is written; `keepsCompatible` says what the
other operations would have to check. -/

/-- Whether the outbounds that the selected enabled rules lead to are all supported by a core. -/
def targetsSupport (store : Store) (core : String) (selected : RoutingRule → Bool) : Bool :=
  store.routingRules.rows.all fun rule => !(rule.enabled && selected rule) ||
    store.outbounds.rows.all fun outbound => outbound.id != rule.outboundID ||
      outboundSupportsCore outbound core

/-- Whether every core an enabled rule applies to has a protocol. -/
def ruleFits (store : Store) (rule : RoutingRule) (protocol : String) : Bool :=
  !rule.enabled || [coreXray, coreSingbox].all fun core =>
    !routingRuleAppliesToCore rule (listInbounds store) core ||
      supportsCore (outboundProtocolSupportedCores protocol) core

/-- The rows that the nodes of a subscription claim one after the other, with their new protocol. -/
def nodeClaims (now : String) (subscriptionID : Int) :
    List MaterializedSubscriptionOutbound → Store × List Int → List (Int × String)
  | [], _ => []
  | node :: rest, done =>
      let later := match materializeNode now subscriptionID done node with
        | .ok next => nodeClaims now subscriptionID rest next
        | .error _ => []
      match existingNodeRow subscriptionID node done.1 with
      | some existing => (existing.id, normalizeOutboundProtocol node.protocol) :: later
      | none => later

/-- The condition under which an operation keeps every rule compatible with the cores it applies to. -/
def StoreOp.keepsCompatible (op : StoreOp) (store : Store) : Bool :=
  match op with
  | createInbound _ params =>
      targetsSupport store (inferInboundCore params.protocol) fun rule => rule.inboundID == 0
  | updateInbound _ id params =>
      !params.enabled ||
        targetsSupport store (inferInboundCore (orElse (normalizeInboundProtocol params.protocol) "vless"))
          fun rule => rule.inboundID == 0 || rule.inboundID == id
  | setInboundEnabled id enabled =>
      !enabled || (store.inbounds.find? id).all fun row =>
        targetsSupport store row.core fun rule => rule.inboundID == 0 || rule.inboundID == id
  | deleteInbound id =>
      (store.inbounds.rows.any fun row => row.id != id) ||
        targetsSupport store coreXray fun rule => rule.inboundID == 0
  | updateOutbound id params =>
      (getOutboundByID store id).all fun outbound => outbound.source == outboundSourceSubscription ||
        store.routingRules.rows.all fun rule => rule.outboundID != id ||
          ruleFits store rule (normalizeOutboundProtocol params.protocol)
  | materializeSubscriptionOutbounds now subscriptionID nodes _ =>
      store.routingRules.rows.all fun rule =>
        (lastWrite (nodeClaims now subscriptionID nodes (store, [])) rule.outboundID).all (ruleFits store rule)
  | _ => true

theorem targetsSupport_iff {core : String} {selected : RoutingRule → Bool} {chosen : Link → Prop}
    (same : ∀ rule, selected rule = true ↔ chosen rule.link) :
    targetsSupport store core selected = true ↔
      (topology store).TargetsSupport protocolSupports core chosen := by
  simp only [targetsSupport, List.all_eq_true, Bool.or_eq_true, Bool.not_eq_true', Bool.and_eq_false_iff,
    bne_iff_ne, Topology.TargetsSupport, topology, List.forall_mem_map]
  refine forall₂_congr fun rule _ => ?_
  constructor
  · intro fits enabled picked protocol target
    obtain ⟨outbound, inside, spoken⟩ := List.mem_map.mp target
    simp only [Outbound.speaks, RoutingRule.link, Prod.mk.injEq] at spoken
    rcases fits with (off | other) | supported
    · exact absurd enabled (by simp [RoutingRule.link, off])
    · exact absurd ((same rule).mpr picked) (by simp [other])
    · rw [← spoken.2]
      rcases supported outbound inside with different | supports
      · exact absurd spoken.1 different
      · exact supports
  · intro fits
    by_cases on : rule.enabled = true ∧ selected rule = true
    · refine .inr fun outbound inside => ?_
      by_cases leads : outbound.id = rule.outboundID
      · refine .inr (fits on.1 ((same rule).mp on.2) outbound.protocol ?_)
        exact List.mem_map.mpr ⟨outbound, inside, by simp [Outbound.speaks, RoutingRule.link, leads]⟩
      · exact .inl leads
    · refine .inl ?_
      cases enabled : rule.enabled with
      | false => exact .inl rfl
      | true => exact .inr (by simpa [enabled] using on)

/-- The two cores stand for every core. -/
theorem applies_supported {link : Link} {protocol : String} (rows : RowsSound store)
    (fits : ∀ core ∈ [coreXray, coreSingbox], link.Applies (topology store) core → protocolSupports protocol core)
    {core : String} (applies : link.Applies (topology store) core) : protocolSupports protocol core := by
  have known : ∀ row ∈ store.inbounds.rows, row.core ∈ [coreXray, coreSingbox] := by
    intro row member
    rcases (rows.inbounds row member).core_cases with same | same <;> simp [same]
  by_cases global : link.inboundID = 0
  · rw [Link.applies_global global] at applies
    rcases applies with ⟨entry, inside, on, served⟩ | empty
    · obtain ⟨row, member, rfl⟩ := mem_topology_inbounds.mp inside
      refine fits core (served ▸ known row member) ?_
      exact (Link.applies_global global).mpr (.inl ⟨row.entry, inside, on, served⟩)
    · refine protocolSupports_of_xray (fits coreXray (by simp) ?_) core
      exact (Link.applies_global global).mpr (.inr empty)
  · have applied := applies
    rw [Link.applies_bound global] at applied
    obtain ⟨entry, inside, _, _, served⟩ := applied
    obtain ⟨row, member, rfl⟩ := mem_topology_inbounds.mp inside
    exact fits core (served ▸ known row member) applies

theorem ruleFits_iff (inv : StoreInv store) {rule : RoutingRule} (member : rule ∈ store.routingRules.rows)
    {protocol : String} (fits : ruleFits store rule protocol = true) (enabled : rule.enabled = true)
    {core : String} (applies : rule.link.Applies (topology store) core) : protocolSupports protocol core := by
  refine applies_supported inv.rows (fun core known applied => ?_) applies
  simp only [ruleFits, enabled, Bool.not_true, Bool.false_or, List.all_eq_true] at fits
  have normal : normalizeCore core = core := by
    rcases List.mem_cons.mp known with rfl | known
    · exact normalizeCore_xray
    · rw [List.mem_singleton.mp known, normalizeCore_singbox]
  rw [← normal, ← routingRuleAppliesToCore_iff inv member] at applied
  have supported := fits core known
  rw [applied] at supported
  exact supported

/-- What the loop over the nodes writes: the last claim of a row decides its protocol. -/
theorem materializeNodes_spec {now : String} {subscriptionID : Int}
    {nodes : List MaterializedSubscriptionOutbound} {start written : Store × List Int}
    (looped : nodes.foldlM (materializeNode now subscriptionID) start = .ok written) :
    ∃ outbounds, topology written.1 = { topology start.1 with outbounds } ∧
      (topology start.1).outboundIDs ⊆ outbounds.map Prod.fst ∧
      ∀ outbound ∈ outbounds,
        lastWrite (nodeClaims now subscriptionID nodes start) outbound.1 = some outbound.2 ∨
          (lastWrite (nodeClaims now subscriptionID nodes start) outbound.1 = none ∧
            (outbound ∈ (topology start.1).outbounds ∨ outbound.1 ∉ (topology start.1).outboundIDs)) := by
  induction nodes generalizing start with
  | nil =>
      rw [List.foldlM_nil, pure_eq_ok] at looped
      rw [← looped]
      exact ⟨_, rfl, List.Subset.refl _, fun outbound member => .inr ⟨rfl, .inl member⟩⟩
  | cons node rest ih =>
      rw [List.foldlM_cons, bind_eq_ok] at looped
      obtain ⟨next, turned, remaining⟩ := looped
      obtain ⟨outbounds, same, ids, last⟩ := ih remaining
      rcases (materializeNode_spec turned).2 with ⟨existing, claimed, wrote⟩ | ⟨fresh, wrote⟩
      · rw [wrote] at same ids last
        simp only [Topology.outboundIDs, outboundIDs_setProtocol] at ids last
        refine ⟨outbounds, same, ids, fun outbound member => ?_⟩
        simp only [nodeClaims, turned, claimed, lastWrite_cons]
        rcases last outbound member with decided | ⟨undecided, kept | new⟩
        · exact .inl (by rw [decided, Option.some_or])
        · rw [undecided, Option.none_or]
          rcases mem_setProtocol kept with rfl | ⟨other, old⟩
          · exact .inl (by simp)
          · exact .inr ⟨by simp [other], .inl old⟩
        · rw [undecided, Option.none_or]
          refine .inr ⟨?_, .inr new⟩
          have stored := mem_outboundIDs.mpr (List.mem_map_of_mem (existingNodeRow_mem claimed))
          have other : outbound.1 ≠ existing.id := fun same => new (same ▸ stored)
          simp [other]
      · rw [wrote] at same ids last
        simp only [Topology.outboundIDs, List.map_append, List.map_cons, List.map_nil] at ids last
        refine ⟨outbounds, same, fun id member => ids (List.mem_append_left _ member), fun outbound member => ?_⟩
        simp only [nodeClaims, turned, fresh]
        rcases last outbound member with decided | ⟨undecided, kept | new⟩
        · exact .inl decided
        · refine .inr ⟨undecided, ?_⟩
          rcases List.mem_append.mp kept with old | added
          · exact .inl old
          · rw [List.mem_singleton.mp added]
            exact .inr fun member => start.1.outbounds.next_fresh (mem_outboundIDs.mp member)
        · exact .inr ⟨undecided, .inr fun member => new (List.mem_append_left _ member)⟩

/-- One operation as a sequence of changes, which fit if `keepsCompatible` says so. -/
def Refines (op : StoreOp) (store after : Store) : Prop :=
  Reach (Guarded (fun change before => op.keepsCompatible store = true → change.Fits protocolSupports before)
    (ChangeStep protocolSupports)) (topology store) (topology after)

theorem Refines.unchanged {op : StoreOp} (same : topology after = topology store) : Refines op store after := by
  rw [Refines, same]
  exact .start

theorem Refines.once {op : StoreOp} (change : Change String String)
    (allowed : change.Allowed protocolSupports (topology store))
    (fits : op.keepsCompatible store = true → change.Fits protocolSupports (topology store))
    (same : topology after = change.apply (topology store)) : Refines op store after :=
  .step .start ⟨fits, allowed, same⟩

theorem refines_updateOutbound {id : Int} {params : UpdateOutboundParams} {outbound : Outbound}
    (inv : StoreInv store) (done : updateOutbound id params store = .ok (after, outbound)) :
    Refines (.updateOutbound id params) store after := by
  obtain ⟨current, found, same⟩ := (updateOutbound_spec done).2
  split_ifs at same with subscribed
  · exact .unchanged same
  · refine .once (.writeOutbounds _) ?_ ?_ same
    · simp only [Change.Allowed, outboundIDs_setProtocol]
      exact List.Subset.refl _
    · intro keeps link member enabled protocol target
      obtain ⟨rule, inside, rfl⟩ := List.mem_map.mp member
      rcases mem_setProtocol target with written | ⟨_, old⟩
      · rw [Prod.mk.injEq] at written
        simp only [StoreOp.keepsCompatible, found, Option.all_some, Bool.or_eq_true, beq_iff_eq, subscribed,
          false_or, List.all_eq_true, bne_iff_ne] at keeps
        have fits := (keeps rule inside).resolve_left (fun different => different written.1)
        rw [written.2]
        exact .inr fun core applies => ruleFits_iff inv inside fits enabled applies
      · exact .inl old

theorem refines_dropOutbounds {before : Store} (ids : List Int) (inv : StoreInv before) :
    ∃ change : Change String String, change.Allowed protocolSupports (topology before) ∧
      change.Fits protocolSupports (topology before) ∧
      topology (deleteSubscriptionOutbounds ids before) = change.apply (topology before) := by
  obtain ⟨outbounds, subset, same, kept⟩ := (deleteSubscriptionOutbounds_spec ids).2
  refine ⟨.dropOutbounds outbounds _, ⟨subset, List.filter_subset_self _, ?_⟩, trivial, same⟩
  intro link member
  obtain ⟨inside, spared⟩ := List.mem_filter.mp member
  obtain ⟨outbound, stored, named⟩ := List.mem_map.mp (inv.topology.rules link inside).1
  rw [← named] at spared ⊢
  exact List.mem_map_of_mem (kept outbound stored (by simpa using spared))

theorem refines_materializeSubscriptionOutbounds {now : String} {subscriptionID : Int}
    {nodes : List MaterializedSubscriptionOutbound} {identities : Option (List String)}
    {listed : List Outbound} (inv : StoreInv store)
    (done : materializeSubscriptionOutbounds now subscriptionID nodes identities store = .ok (after, listed)) :
    Refines (.materializeSubscriptionOutbounds now subscriptionID nodes identities) store after := by
  obtain ⟨written, ids, looped, same⟩ := (materializeSubscriptionOutbounds_spec done).2
  obtain ⟨outbounds, wrote, kept, last⟩ := materializeNodes_spec looped
  have rows : RowsSound written.1 := foldlM_invariant (fun state : Store × List Int => RowsSound state.1) inv.rows
    (fun node _ start next sound turned => (materializeNode_spec turned).1 sound) looped
  have write : (Change.writeOutbounds outbounds).Allowed protocolSupports (topology store) := kept
  have middle : StoreInv written.1 := ⟨rows, wrote ▸ inv.topology.change write⟩
  obtain ⟨drop, allowed, fits, dropped⟩ := refines_dropOutbounds ids middle
  refine .step (.step .start ⟨fun keeps => ?_, write, wrote⟩) ⟨fun _ => fits, allowed, same.trans dropped⟩
  intro link member enabled protocol target
  obtain ⟨rule, inside, rfl⟩ := List.mem_map.mp member
  rcases last _ target with claimed | ⟨_, old | new⟩
  · simp only [StoreOp.keepsCompatible, List.all_eq_true] at keeps
    have fitting := keeps rule inside
    rw [show rule.outboundID = rule.link.outboundID from rfl, claimed, Option.all_some] at fitting
    exact .inr fun core applies => ruleFits_iff inv inside fitting enabled applies
  · exact .inl old
  · exact absurd (inv.topology.rules _ member).1 new

theorem RulesWritten.refines {op : StoreOp} (written : RulesWritten store after) (inv : StoreInv store) :
    Refines op store after := by
  obtain ⟨links, same, checked⟩ := written
  refine .once (.writeRules links) ?_ (fun _ => trivial) same
  intro link member
  rcases checked link member with old | ⟨refers, compatible⟩
  · exact .inl old
  · exact .inr ⟨refers, compatible inv.rows⟩

/-- Whether an operation refines the changes of the topology, and keeps the rows sound. -/
theorem StoreOp.refines {op : StoreOp} (inv : StoreInv store) (done : op.run platform store = .ok after) :
    RowsSound after ∧ Refines op store after := by
  cases op with
  | createInbound entropy params =>
      obtain ⟨inbound, done⟩ := map_fst_eq_ok.mp done
      obtain ⟨rows, members, belong, same⟩ := createInbound_spec done
      refine ⟨rows inv.rows, .once (.addInbound _ members) ⟨?_, belong⟩ (fun keeps _ => ?_) same⟩
      · exact fun member => store.inbounds.next_fresh (mem_inboundIDs.mp member)
      · exact (targetsSupport_iff fun rule => by simp [RoutingRule.link]).mp keeps
  | updateInbound entropy id params =>
      obtain ⟨inbound, done⟩ := map_fst_eq_ok.mp done
      obtain ⟨rows, same⟩ := updateInbound_spec done
      refine ⟨rows inv.rows, .once (.setInbound id _ _) trivial (fun keeps enabled => ?_) same⟩
      simp only [StoreOp.keepsCompatible, enabled, Bool.not_true, Bool.false_or] at keeps
      exact (targetsSupport_iff fun rule => by simp [RoutingRule.link]).mp keeps
  | deleteInbound id =>
      obtain ⟨rows, links, subset, others, same⟩ := deleteInbound_spec done
      refine ⟨rows inv.rows, .once (.dropInbound id links) ⟨subset, others⟩ (fun keeps => ?_) same⟩
      simp only [StoreOp.keepsCompatible, Bool.or_eq_true, List.any_eq_true, bne_iff_ne] at keeps
      rcases keeps with ⟨row, member, other⟩ | supported
      · exact .inl ⟨row.entry, List.mem_map_of_mem member, other⟩
      · refine .inr fun core link member enabled global protocol target => ?_
        have xray : (topology store).TargetsSupport protocolSupports coreXray fun link => link.inboundID = 0 :=
          (targetsSupport_iff fun rule => by simp [RoutingRule.link]).mp supported
        exact protocolSupports_of_xray (xray link member enabled global protocol target) core
  | setInboundEnabled id enabled =>
      obtain ⟨inbound, done⟩ := map_fst_eq_ok.mp done
      obtain ⟨rows, row, found, same⟩ := setInboundEnabled_spec done
      refine ⟨rows inv.rows, .once (.setInbound id _ _) trivial (fun keeps on => ?_) same⟩
      simp only [StoreOp.keepsCompatible, on, Bool.not_true, Bool.false_or, found, Option.all_some] at keeps
      exact (targetsSupport_iff fun rule => by simp [RoutingRule.link]).mp keeps
  | applyCertificateToInbounds cert inboundIDs =>
      obtain ⟨updated, done⟩ := map_fst_eq_ok.mp done
      obtain ⟨rows, same⟩ := applyCertificateToInbounds_spec inv.rows done
      exact ⟨rows, .unchanged same⟩
  | createClient entropy params =>
      obtain ⟨client, done⟩ := map_fst_eq_ok.mp done
      obtain ⟨rows, home, same⟩ := createClient_spec done
      exact ⟨rows inv.rows, .once (.addClient (_, params.inboundID)) home (fun _ => trivial) same⟩
  | updateClient entropy id params =>
      obtain ⟨client, done⟩ := map_fst_eq_ok.mp done
      exact ⟨updateClient_rows inv.rows done, .unchanged (updateClient_topology done)⟩
  | deleteClient id =>
      obtain ⟨rows, same⟩ := deleteClient_spec done
      exact ⟨rows inv.rows, .once (.dropClient id) trivial (fun _ => trivial) same⟩
  | setClientEnabled inboundID id enabled =>
      obtain ⟨client, done⟩ := map_fst_eq_ok.mp done
      exact ⟨setClientEnabled_rows inv.rows done, .unchanged (setClientEnabled_topology done)⟩
  | createOutbound now params =>
      obtain ⟨outbound, done⟩ := map_fst_eq_ok.mp done
      obtain ⟨rows, same⟩ := createOutbound_spec done
      refine ⟨rows inv.rows, .once (.addOutbound _) ?_ (fun _ => trivial) same⟩
      exact fun member => store.outbounds.next_fresh (mem_outboundIDs.mp member)
  | updateOutbound id params =>
      obtain ⟨outbound, done⟩ := map_fst_eq_ok.mp done
      exact ⟨(updateOutbound_spec done).1 inv.rows, refines_updateOutbound inv done⟩
  | deleteOutbound id =>
      obtain ⟨rows, spared, same⟩ := deleteOutbound_spec done
      refine ⟨rows inv.rows, .once (.dropOutbounds _ _) ⟨List.filter_subset_self _, List.Subset.refl _, ?_⟩
        (fun _ => trivial) same⟩
      intro link member
      obtain ⟨outbound, stored, named⟩ := List.mem_map.mp (inv.topology.rules link member).1
      rw [← named]
      refine List.mem_map_of_mem (List.mem_filter.mpr ⟨stored, ?_⟩)
      simpa [named] using spared link member
  | setOutboundEnabled id enabled =>
      obtain ⟨outbound, done⟩ := map_fst_eq_ok.mp done
      obtain ⟨rows, same⟩ := setOutboundEnabled_spec done
      exact ⟨rows inv.rows, .unchanged same⟩
  | reorderOutbounds ids =>
      obtain ⟨rows, same⟩ := reorderOutbounds_spec done
      exact ⟨rows inv.rows, .unchanged same⟩
  | createOutboundSubscription now params =>
      obtain ⟨subscription, done⟩ := map_fst_eq_ok.mp done
      obtain ⟨rows, same⟩ := createOutboundSubscription_spec done
      exact ⟨rows inv.rows, .unchanged same⟩
  | updateOutboundSubscription now id params =>
      obtain ⟨subscription, done⟩ := map_fst_eq_ok.mp done
      obtain ⟨rows, same⟩ := updateOutboundSubscription_spec done
      exact ⟨rows inv.rows, .unchanged same⟩
  | deleteOutboundSubscription now id =>
      obtain ⟨rows, ids, same⟩ := deleteOutboundSubscription_spec done
      obtain ⟨drop, allowed, fits, dropped⟩ := refines_dropOutbounds ids inv
      exact ⟨rows inv.rows, .once drop allowed (fun _ => fits) (same.trans dropped)⟩
  | reorderOutboundSubscriptions now ids =>
      obtain ⟨rows, same⟩ := reorderOutboundSubscriptions_spec done
      exact ⟨rows inv.rows, .unchanged same⟩
  | markOutboundSubscriptionFetch now id fetchedAt lastErr identities =>
      obtain ⟨rows, same⟩ := markOutboundSubscriptionFetch_spec done
      exact ⟨rows inv.rows, .unchanged same⟩
  | materializeSubscriptionOutbounds now subscriptionID nodes identities =>
      obtain ⟨listed, done⟩ := map_fst_eq_ok.mp done
      exact ⟨(materializeSubscriptionOutbounds_spec done).1 inv.rows,
        refines_materializeSubscriptionOutbounds inv done⟩
  | createRoutingRule params =>
      obtain ⟨rule, done⟩ := map_fst_eq_ok.mp done
      exact ⟨(createRoutingRule_spec done).1 inv.rows, (createRoutingRule_spec done).2.refines inv⟩
  | updateRoutingRule id params =>
      obtain ⟨rule, done⟩ := map_fst_eq_ok.mp done
      exact ⟨(updateRoutingRule_spec done).1 inv.rows, (updateRoutingRule_spec done).2.refines inv⟩
  | deleteRoutingRule id =>
      exact ⟨(deleteRoutingRule_spec done).1 inv.rows, (deleteRoutingRule_spec done).2.refines inv⟩
  | reorderRoutingRules ids =>
      rw [StoreOp.run, Except.ok.injEq] at done
      rw [← done]
      exact ⟨(reorderRoutingRules_spec ids).1 inv.rows, .unchanged (reorderRoutingRules_spec ids).2⟩

theorem storeInv_initial : StoreInv Store.initial where
  rows :=
    { inbounds := fun _ member => absurd member List.not_mem_nil
      outbounds := by
        have sound : ∀ row ∈ Store.initial.outbounds.rows,
            normalizeOutboundProtocol row.protocol = row.protocol ∧ validateOutboundProfile row = .ok () := by
          with_unfolding_all decide
        exact fun row member => ⟨(sound row member).1, (sound row member).2⟩
      clients := fun _ member => absurd member List.not_mem_nil
      statsKeys := List.nodup_nil
      credentialIDs := List.nodup_nil }
  topology :=
    { rules := fun _ member => absurd member List.not_mem_nil
      clients := fun _ member => absurd member List.not_mem_nil }

theorem StoreInv.step {op : StoreOp} (inv : StoreInv store) (done : op.run platform store = .ok after) :
    StoreInv after := by
  obtain ⟨rows, refines⟩ := StoreOp.refines inv done
  exact ⟨rows, inv.topology.reach refines.unguarded⟩

/-- What holds of every store that successful operations lead to. -/
theorem Reachable.inv (reached : Reachable platform store) : StoreInv store :=
  reached.invariant storeInv_initial fun _ _ _ inv step => inv.step (storeStep_eq_some.mp step)

/-- The steps of the store that keep the rules compatible with the cores. -/
def CompatibleSteps (platform : Platform) : StoreOp → Store → Store → Prop :=
  Guarded (fun op store => op.keepsCompatible store = true) (Steps (storeStep platform))

/-- Every outbound an enabled rule leads to is supported by the cores the rule applies to. -/
def RulesCompatible (store : Store) : Prop :=
  (topology store).Compatible protocolSupports

theorem RulesCompatible.step {op : StoreOp} (inv : StoreInv store) (compatible : RulesCompatible store)
    (step : CompatibleSteps platform op store after) : RulesCompatible after := by
  obtain ⟨keeps, done⟩ := step
  have refines := (StoreOp.refines inv (storeStep_eq_some.mp done)).2
  refine Topology.Compatible.reach inv.topology compatible (refines.mono ?_)
  rintro change _ _ ⟨fits, changed⟩
  exact ⟨fits keeps, changed⟩

theorem rulesCompatible_of_reach (reached : Reach (CompatibleSteps platform) Store.initial store) :
    RulesCompatible store := by
  have known : ∀ state, Reach (CompatibleSteps platform) Store.initial state → StoreInv state := by
    intro state earlier
    have reachable : Reachable platform state := earlier.unguarded
    exact reachable.inv
  have initial : RulesCompatible Store.initial := fun _ member => absurd member List.not_mem_nil
  exact reached.invariant_with known initial fun _ _ _ inv compatible step => compatible.step inv step

end MiGate.Db
