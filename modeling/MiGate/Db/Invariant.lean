import MiGate.Db.Operations
import MiGate.Routing.Change

namespace MiGate.Db

open Go Fallible Relational Routing

structure InboundRow.Sound (row : InboundRow) : Prop where
  normal : normalizeInboundProtocol row.protocol = row.protocol
  supported : supportedInboundProtocol row.protocol = true
  core : row.core = inferInboundCore row.protocol
  port : 0 < row.port ∧ row.port ≤ 65535

structure Outbound.Sound (row : Outbound) : Prop where
  normal : normalizeOutboundProtocol row.protocol = row.protocol
  profile : validateOutboundProfile row = .ok ()

structure Client.Sound (client : Client) : Prop where
  credentialID : trimSpace client.credentialID = client.credentialID
  credentialIDGiven : client.credentialID ≠ ""
  statsKey : trimSpace client.statsKey = client.statsKey
  statsKeyGiven : client.statsKey ≠ ""

def InboundRow.entry (row : InboundRow) : Entry String :=
  ⟨row.id, row.enabled, row.core⟩

def Client.membership (client : Client) : Int × Int :=
  (client.id, client.inboundID)

def Outbound.speaks (row : Outbound) : Int × String :=
  (row.id, row.protocol)

def RoutingRule.link (rule : RoutingRule) : Link :=
  ⟨rule.enabled, rule.inboundID, rule.clientID, rule.outboundID, rule.inboundTag != ""⟩

def topology (store : Store) : Topology String String where
  inbounds := store.inbounds.rows.map InboundRow.entry
  clients := store.clients.rows.map Client.membership
  outbounds := store.outbounds.rows.map Outbound.speaks
  rules := store.routingRules.rows.map RoutingRule.link

/-- What holds of the rows of every reachable store. -/
structure RowsSound (store : Store) : Prop where
  inbounds : ∀ row ∈ store.inbounds.rows, row.Sound
  outbounds : ∀ row ∈ store.outbounds.rows, row.Sound
  clients : ∀ client ∈ store.clients.rows, client.Sound
  statsKeys : (store.clients.rows.map Client.statsKey).Nodup
  credentialIDs : (store.clients.rows.map Client.credentialID).Nodup

structure StoreInv (store : Store) : Prop where
  rows : RowsSound store
  topology : (topology store).Sound

end MiGate.Db
