import MiGate.Db.Operations

namespace MiGate.Db

open Go Fallible Relational

variable {platform : Platform} {store after : Store}

/-! Each operation writes its own tables and leaves the others as they are. -/

/-- The store before an operation, with the tables the operation writes as it leaves them. -/
def StoreOp.onlyWrites (op : StoreOp) (store after : Store) : Store :=
  match op with
  | createInbound .. => { store with inbounds := after.inbounds, clients := after.clients }
  | updateInbound .. => { store with inbounds := after.inbounds, routingRules := after.routingRules }
  | deleteInbound .. =>
      { store with inbounds := after.inbounds, clients := after.clients, routingRules := after.routingRules }
  | setInboundEnabled .. | applyCertificateToInbounds .. => { store with inbounds := after.inbounds }
  | createClient .. | setClientEnabled .. => { store with clients := after.clients }
  | updateClient .. | deleteClient .. =>
      { store with clients := after.clients, routingRules := after.routingRules }
  | createOutbound .. | updateOutbound .. | deleteOutbound .. | setOutboundEnabled .. | reorderOutbounds .. =>
      { store with outbounds := after.outbounds }
  | createOutboundSubscription .. | markOutboundSubscriptionFetch .. =>
      { store with outboundSubscriptions := after.outboundSubscriptions }
  | updateOutboundSubscription .. | reorderOutboundSubscriptions .. =>
      { store with outbounds := after.outbounds, outboundSubscriptions := after.outboundSubscriptions }
  | deleteOutboundSubscription .. | materializeSubscriptionOutbounds .. =>
      { store with
        outbounds := after.outbounds, outboundSubscriptions := after.outboundSubscriptions
        routingRules := after.routingRules }
  | createRoutingRule .. | updateRoutingRule .. | deleteRoutingRule .. | reorderRoutingRules .. =>
      { store with routingRules := after.routingRules }

theorem insertClient_onlyWrites {client stored : Client} (done : insertClient client store = .ok (after, stored)) :
    { store with clients := after.clients } = after := by
  simp only [insertClient, bind_eq_ok, pure_eq_ok, Prod.mk.injEq] at done
  obtain ⟨_, _, _, _, _, _, _, _, rfl, _⟩ := done
  rfl

theorem insertInbound_onlyWrites {entropy : Entropy} {row stored : InboundRow}
    (done : insertInbound entropy row store = .ok (after, stored)) :
    { store with inbounds := after.inbounds } = after := by
  simp only [insertInbound, bind_eq_ok, pure_eq_ok, Prod.mk.injEq] at done
  obtain ⟨_, _, _, _, rfl, _⟩ := done
  rfl

theorem createInbound_onlyWrites {entropy : Entropy} {params : CreateInboundParams} {inbound : Inbound}
    (done : createInbound platform entropy params store = .ok (after, inbound)) :
    { store with inbounds := after.inbounds, clients := after.clients } = after := by
  simp only [createInbound, bind_eq_ok] at done
  obtain ⟨row, _, rest⟩ := done
  cases initial : params.initialClient with
  | none =>
      simp only [initial, bind_eq_ok, pure_eq_ok, Prod.mk.injEq, Prod.exists] at rest
      obtain ⟨_, _, inserted, rfl, _⟩ := rest
      rw [← insertInbound_onlyWrites inserted]
  | some initialClient =>
      simp only [initial, bind_eq_ok, pure_eq_ok, Prod.mk.injEq, Prod.exists] at rest
      obtain ⟨_, _, _, _, inserted, _, _, added, rfl, _⟩ := rest
      rw [← insertClient_onlyWrites added, ← insertInbound_onlyWrites inserted]

theorem applyCertificateToInbounds_onlyWrites {cert : Certificate} {ids : List Int} {inbounds : List Inbound}
    (done : applyCertificateToInbounds cert ids store = .ok (after, inbounds)) :
    { store with inbounds := after.inbounds } = after := by
  refine foldlM_invariant (fun state : Store × List Inbound =>
    { store with inbounds := state.1.inbounds } = state.1) rfl ?_ done
  intro id _ start next kept turned
  simp only [applyCertificateToInbound, bind_eq_ok, pure_eq_ok] at turned
  obtain ⟨_, _, _, _, _, _, rfl⟩ := turned
  rw [← kept]

theorem materializeNode_onlyWrites {now : String} {subscriptionID : Int} {node : MaterializedSubscriptionOutbound}
    {done next : Store × List Int} (turned : materializeNode now subscriptionID done node = .ok next) :
    { done.1 with outbounds := next.1.outbounds } = next.1 := by
  simp only [materializeNode, bind_eq_ok] at turned
  obtain ⟨_, _, _, _, rest⟩ := turned
  cases claimed : existingNodeRow subscriptionID node done.1 with
  | some existing =>
      simp only [claimed, bind_eq_ok, pure_eq_ok] at rest
      obtain ⟨_, _, rfl⟩ := rest
      rfl
  | none =>
      simp only [claimed, bind_eq_ok, pure_eq_ok] at rest
      obtain ⟨_, _, rfl⟩ := rest
      rfl

theorem materializeNodes_onlyWrites {now : String} {subscriptionID : Int}
    {nodes : List MaterializedSubscriptionOutbound} {start written : Store × List Int}
    (looped : nodes.foldlM (materializeNode now subscriptionID) start = .ok written) :
    { start.1 with outbounds := written.1.outbounds } = written.1 := by
  refine foldlM_invariant (fun state : Store × List Int =>
    { start.1 with outbounds := state.1.outbounds } = state.1) rfl ?_ looped
  intro node _ done next kept turned
  rw [← materializeNode_onlyWrites turned, ← kept]

theorem run_onlyWrites {op : StoreOp} (done : op.run platform store = .ok after) :
    op.onlyWrites store after = after := by
  cases op with
  | createInbound entropy params =>
      obtain ⟨_, created⟩ := map_fst_eq_ok.mp done
      exact createInbound_onlyWrites created
  | updateInbound entropy id params =>
      simp only [StoreOp.run, map_fst_eq_ok, Db.updateInbound, bind_eq_ok, pure_eq_ok, Prod.mk.injEq] at done
      obtain ⟨_, _, _, _, _, _, _, _, _, _, _, rfl, _⟩ := done
      rfl
  | deleteInbound id =>
      simp only [StoreOp.run, Db.deleteInbound, bind_eq_ok, pure_eq_ok] at done
      obtain ⟨_, _, rfl⟩ := done
      rfl
  | setInboundEnabled id enabled =>
      simp only [StoreOp.run, map_fst_eq_ok, Db.setInboundEnabled, bind_eq_ok, pure_eq_ok, Prod.mk.injEq] at done
      obtain ⟨_, _, _, rfl, _⟩ := done
      rfl
  | applyCertificateToInbounds cert inboundIDs =>
      obtain ⟨_, applied⟩ := map_fst_eq_ok.mp done
      exact applyCertificateToInbounds_onlyWrites applied
  | createClient entropy params =>
      obtain ⟨_, created⟩ := map_fst_eq_ok.mp done
      simp only [Db.createClient, bind_eq_ok] at created
      obtain ⟨_, _, _, _, _, _, inserted⟩ := created
      exact insertClient_onlyWrites inserted
  | updateClient entropy id params =>
      simp only [StoreOp.run, map_fst_eq_ok, Db.updateClient, bind_eq_ok, pure_eq_ok, Prod.mk.injEq] at done
      obtain ⟨_, _, _, _, _, _, _, _, _, rfl, _⟩ := done
      rfl
  | deleteClient id =>
      simp only [StoreOp.run, Db.deleteClient, bind_eq_ok, pure_eq_ok] at done
      obtain ⟨_, _, rfl⟩ := done
      rfl
  | setClientEnabled inboundID id enabled =>
      simp only [StoreOp.run, map_fst_eq_ok, Db.setClientEnabled, bind_eq_ok, pure_eq_ok, Prod.mk.injEq] at done
      obtain ⟨_, _, _, rfl, _⟩ := done
      rfl
  | createOutbound now params =>
      simp only [StoreOp.run, map_fst_eq_ok, Db.createOutbound, bind_eq_ok, pure_eq_ok, Prod.mk.injEq] at done
      obtain ⟨_, _, _, _, _, _, _, rfl, _⟩ := done
      rfl
  | updateOutbound id params =>
      obtain ⟨_, updated⟩ := map_fst_eq_ok.mp done
      simp only [Db.updateOutbound, bind_eq_ok] at updated
      obtain ⟨current, _, rest⟩ := updated
      split at rest
      · simp only [updateSubscriptionOutboundEditableFields, bind_eq_ok, pure_eq_ok, Prod.mk.injEq] at rest
        obtain ⟨_, _, rfl, _⟩ := rest
        rfl
      · simp only [bind_eq_ok, pure_eq_ok, Prod.mk.injEq] at rest
        obtain ⟨_, _, _, _, rfl, _⟩ := rest
        rfl
  | deleteOutbound id =>
      simp only [StoreOp.run, Db.deleteOutbound, bind_eq_ok, pure_eq_ok] at done
      obtain ⟨_, _, _, _, rfl⟩ := done
      rfl
  | setOutboundEnabled id enabled =>
      simp only [StoreOp.run, map_fst_eq_ok, Db.setOutboundEnabled, bind_eq_ok, pure_eq_ok, Prod.mk.injEq] at done
      obtain ⟨_, _, _, _, _, rfl, _⟩ := done
      rfl
  | reorderOutbounds ids =>
      simp only [StoreOp.run, Db.reorderOutbounds, bind_eq_ok, pure_eq_ok] at done
      obtain ⟨_, _, _, _, rfl⟩ := done
      rfl
  | createOutboundSubscription now params =>
      simp only [StoreOp.run, map_fst_eq_ok, Db.createOutboundSubscription, bind_eq_ok, pure_eq_ok,
        Prod.mk.injEq] at done
      obtain ⟨_, _, _, rfl, _⟩ := done
      rfl
  | updateOutboundSubscription now id params =>
      simp only [StoreOp.run, map_fst_eq_ok, Db.updateOutboundSubscription, bind_eq_ok, pure_eq_ok,
        Prod.mk.injEq] at done
      obtain ⟨_, _, _, _, _, rfl, _⟩ := done
      rfl
  | deleteOutboundSubscription now id =>
      simp only [StoreOp.run, Db.deleteOutboundSubscription, bind_eq_ok, pure_eq_ok] at done
      obtain ⟨_, _, rfl⟩ := done
      rfl
  | reorderOutboundSubscriptions now ids =>
      simp only [StoreOp.run, Db.reorderOutboundSubscriptions, bind_eq_ok, pure_eq_ok] at done
      obtain ⟨_, _, _, _, rfl⟩ := done
      rfl
  | markOutboundSubscriptionFetch now id fetchedAt lastErr identities =>
      simp only [StoreOp.run, Db.markOutboundSubscriptionFetch, bind_eq_ok, pure_eq_ok] at done
      obtain ⟨_, _, rfl⟩ := done
      rfl
  | materializeSubscriptionOutbounds now subscriptionID nodes identities =>
      obtain ⟨_, materialized⟩ := map_fst_eq_ok.mp done
      simp only [Db.materializeSubscriptionOutbounds, bind_eq_ok, pure_eq_ok, Prod.mk.injEq] at materialized
      obtain ⟨_, _, _, _, written, looped, rfl, _⟩ := materialized
      have only := materializeNodes_onlyWrites looped
      dsimp only at only
      rw [← only]
      rfl
  | createRoutingRule params =>
      simp only [StoreOp.run, map_fst_eq_ok, Db.createRoutingRule, bind_eq_ok, pure_eq_ok, Prod.mk.injEq] at done
      obtain ⟨_, _, _, rfl, _⟩ := done
      rfl
  | updateRoutingRule id params =>
      simp only [StoreOp.run, map_fst_eq_ok, Db.updateRoutingRule, bind_eq_ok, pure_eq_ok, Prod.mk.injEq] at done
      obtain ⟨_, _, _, _, _, rfl, _⟩ := done
      rfl
  | deleteRoutingRule id =>
      simp only [StoreOp.run, Db.deleteRoutingRule, bind_eq_ok, pure_eq_ok] at done
      obtain ⟨_, _, rfl⟩ := done
      rfl
  | reorderRoutingRules ids =>
      rw [← Except.ok.inj done]
      rfl

end MiGate.Db
