import MiGate.Db.OutboundSubscriptions
import MiGate.Db.Routing
import MiGate.Transition.Reach

namespace MiGate.Db

open Transition

/-- An operation on inbounds, clients, outbounds, outbound subscriptions or routing rules. -/
inductive StoreOp where
  | createInbound (entropy : Entropy) (params : CreateInboundParams)
  | updateInbound (entropy : Entropy) (id : Int) (params : UpdateInboundParams)
  | deleteInbound (id : Int)
  | setInboundEnabled (id : Int) (enabled : Bool)
  | applyCertificateToInbounds (cert : Certificate) (inboundIDs : List Int)
  | createClient (entropy : Entropy) (params : CreateClientParams)
  | updateClient (entropy : Entropy) (id : Int) (params : UpdateClientParams)
  | deleteClient (id : Int)
  | setClientEnabled (inboundID id : Int) (enabled : Bool)
  | createOutbound (now : String) (params : CreateOutboundParams)
  | updateOutbound (id : Int) (params : UpdateOutboundParams)
  | deleteOutbound (id : Int)
  | setOutboundEnabled (id : Int) (enabled : Bool)
  | reorderOutbounds (ids : List Int)
  | createOutboundSubscription (now : String) (params : OutboundSubscriptionParams)
  | updateOutboundSubscription (now : String) (id : Int) (params : OutboundSubscriptionParams)
  | deleteOutboundSubscription (now : String) (id : Int)
  | reorderOutboundSubscriptions (now : String) (ids : List Int)
  | markOutboundSubscriptionFetch (now : String) (id : Int) (fetchedAt lastErr : String)
      (identities : Option (List String))
  | materializeSubscriptionOutbounds (now : String) (subscriptionID : Int)
      (nodes : List MaterializedSubscriptionOutbound) (identities : Option (List String))
  | createRoutingRule (params : RoutingRuleParams)
  | updateRoutingRule (id : Int) (params : RoutingRuleParams)
  | deleteRoutingRule (id : Int)
  | reorderRoutingRules (ids : List Int)

/-- The store an operation leaves, or its error. -/
def StoreOp.run (platform : Platform) (op : StoreOp) (store : Store) : Except String Store :=
  match op with
  | createInbound entropy params => Prod.fst <$> Db.createInbound platform entropy params store
  | updateInbound entropy id params => Prod.fst <$> Db.updateInbound platform entropy id params store
  | deleteInbound id => Db.deleteInbound id store
  | setInboundEnabled id enabled => Prod.fst <$> Db.setInboundEnabled id enabled store
  | applyCertificateToInbounds cert inboundIDs =>
      Prod.fst <$> Db.applyCertificateToInbounds cert inboundIDs store
  | createClient entropy params => Prod.fst <$> Db.createClient entropy params store
  | updateClient entropy id params => Prod.fst <$> Db.updateClient entropy id params store
  | deleteClient id => Db.deleteClient id store
  | setClientEnabled inboundID id enabled => Prod.fst <$> Db.setClientEnabled inboundID id enabled store
  | createOutbound now params => Prod.fst <$> Db.createOutbound now params store
  | updateOutbound id params => Prod.fst <$> Db.updateOutbound id params store
  | deleteOutbound id => Db.deleteOutbound id store
  | setOutboundEnabled id enabled => Prod.fst <$> Db.setOutboundEnabled id enabled store
  | reorderOutbounds ids => Db.reorderOutbounds ids store
  | createOutboundSubscription now params => Prod.fst <$> Db.createOutboundSubscription now params store
  | updateOutboundSubscription now id params =>
      Prod.fst <$> Db.updateOutboundSubscription now id params store
  | deleteOutboundSubscription now id => Db.deleteOutboundSubscription now id store
  | reorderOutboundSubscriptions now ids => Db.reorderOutboundSubscriptions now ids store
  | markOutboundSubscriptionFetch now id fetchedAt lastErr identities =>
      Db.markOutboundSubscriptionFetch now id fetchedAt lastErr identities store
  | materializeSubscriptionOutbounds now subscriptionID nodes identities =>
      Prod.fst <$> Db.materializeSubscriptionOutbounds now subscriptionID nodes identities store
  | createRoutingRule params => Prod.fst <$> Db.createRoutingRule params store
  | updateRoutingRule id params => Prod.fst <$> Db.updateRoutingRule id params store
  | deleteRoutingRule id => Db.deleteRoutingRule id store
  | reorderRoutingRules ids => .ok (Db.reorderRoutingRules ids store)

def storeStep (platform : Platform) (op : StoreOp) (store : Store) : Option Store :=
  (op.run platform store).toOption

theorem storeStep_eq_some {platform : Platform} {op : StoreOp} {store after : Store} :
    storeStep platform op store = some after ↔ op.run platform store = .ok after := by
  unfold storeStep
  cases op.run platform store <;> simp [Except.toOption]

/-- The stores successful operations lead to from a fresh database. -/
def Reachable (platform : Platform) (store : Store) : Prop :=
  Reach (Steps (storeStep platform)) Store.initial store

end MiGate.Db
