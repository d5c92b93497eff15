import MiGate.Db.Clients
import MiGate.Db.TrafficUsage

namespace MiGate.Web

open Db Go

/-- The used traffic of `businessTrafficUsage`, or nothing when the status says there is no data. -/
def businessTrafficUsage (usage : ClientTrafficUsage) : Option Int64 :=
  if toLower (trimSpace usage.status) ∈ ["", "waiting", "not_configured"] then none
  else some (usage.totalUp + usage.totalDown)

def getSubscriptionByToken (store : Store) (token : String) : Option (InboundRow × Client) :=
  let token := trimSpace token
  if token = "" then none
  else store.clients.rows.findSome? fun client =>
    if client.subscriptionToken = token then
      (store.inbounds.find? client.inboundID).map fun inbound => (loadInbound inbound, client)
    else none

def clientExpired (now : Int) (client : Client) : Bool :=
  0 < client.expiryAt && client.expiryAt ≤ now

/-- The check of `TrafficLimit` in the subscription handler. -/
def trafficLimitReached (store : Store) (client : Client) : Bool :=
  0 < client.trafficLimit &&
    ((getClientTrafficUsageForClient store client.id).bind businessTrafficUsage).any fun used =>
      client.trafficLimit ≤ used.toInt

/-- What the subscription handler decides before it writes the share link. -/
inductive SubscriptionAccess where
  | notFound
  | inactive
  | active (inbound : InboundRow) (client : Client)
deriving DecidableEq, Repr

def subscriptionToken (path : String) : String :=
  let rest := if hasPrefix path "/sub/" then path.toList.drop 5 else path.toList
  String.ofList (trimList (· == '/') rest)

/-- The subscription handler up to the share link; `now` is in Unix seconds. -/
def subscriptionAccess (now : Int) (path : String) (store : Store) : SubscriptionAccess :=
  if subscriptionToken path = "" then .notFound
  else match getSubscriptionByToken store (subscriptionToken path) with
    | none => .inactive
    | some (inbound, client) =>
        if !inbound.enabled || !client.enabled || clientExpired now client ||
          trafficLimitReached store client then .inactive
        else .active inbound client

end MiGate.Web
