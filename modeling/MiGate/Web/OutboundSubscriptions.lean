import MiGate.Db.Operations
import MiGate.Subscription.Materialize

namespace MiGate.Web

open Go Db Fallible Subscription

structure OutboundSubscriptionRefreshResult where
  subscriptionID : Int
  count : Nat
  skippedCount : Nat
  lastFetchedAt : String
  error : String
  configChanged : Bool
deriving DecidableEq, Repr

/-- The columns of an outbound that the configurations are made of. -/
structure OutboundCoreConfigSnapshot where
  id : Int
  tag : String
  protocol : String
  address : String
  port : Int
  username : String
  password : String
  enabled : Bool
  sort : Int
  settingsJSON : String
deriving DecidableEq

def outboundCoreConfigSnapshot (outbound : Outbound) : OutboundCoreConfigSnapshot where
  id := outbound.id
  tag := trimSpace outbound.tag
  protocol := normalizeOutboundProtocol outbound.protocol
  address := trimSpace outbound.address
  port := outbound.port
  username := trimSpace outbound.username
  password := outbound.password
  enabled := outbound.enabled
  sort := outbound.sort
  settingsJSON := trimSpace outbound.settingsJSON

/-- The snapshots whose encoding is the fingerprint; as it encodes all of them, comparing the
snapshots is the same. -/
def outboundCoreConfigFingerprint (outbounds : List Outbound) : List OutboundCoreConfigSnapshot :=
  (outbounds.insertionSort sortBefore).map outboundCoreConfigSnapshot

/-- `loadCoreInboundScope` and `hasCore`: whether there is an inbound of a core. -/
def scopeHasCore (store : Store) (core : String) : Bool :=
  (listInbounds store).any fun inbound => inboundCore inbound.toInboundRow == normalizeCore core

/-- A fetch is recorded whether that succeeds or not. -/
def markFetch (now : String) (id : Int) (lastErr : String) (identities : Option (List String)) (store : Store) :
    Store :=
  (markOutboundSubscriptionFetch now id now lastErr identities store).toOption.getD store

/-- The result of a refresh, and whether Xray and sing-box are affected. -/
abbrev Refreshed := OutboundSubscriptionRefreshResult × Bool × Bool

/-- What `RefreshOutboundSubscription` does with a body that was fetched. -/
def refreshFromBody (platform : Platform) (now : String) (subscription : OutboundSubscription) (body : List UInt8)
    (store : Store) : Store × Except String Refreshed :=
  let id := subscription.id
  match parseLinks platform (decodeBody body) with
  | (_, some error) => (markFetch now id error none store, .error error)
  | (parsed, none) =>
      let before := outboundCoreConfigFingerprint (listOutbounds store)
      let (nodes, identities) :=
        materialize platform id parsed.nodes (listOutbounds store) subscription.tagPrefix
      match materializeSubscriptionOutbounds now id nodes (some identities) store with
      | .error error => (markFetch now id error none store, .error error)
      | .ok (after, materialized) =>
          let configChanged := decide (before ≠ outboundCoreConfigFingerprint materialized)
          let lastErr :=
            if parsed.skipped.isEmpty then "" else s!"部分节点跳过：{parsed.skipped.length} 个"
          let after := if parsed.skipped.isEmpty then after else markFetch now id lastErr (some identities) after
          (after, .ok
            ({ subscriptionID := id, count := nodes.length, skippedCount := parsed.skipped.length
               lastFetchedAt := now, error := lastErr, configChanged },
              configChanged && scopeHasCore store coreXray, configChanged && scopeHasCore store coreSingbox))

/-- The store a refresh leaves, and what it answers; `fetched` is what the upstream gave. -/
def refreshOutboundSubscription (platform : Platform) (now : String) (fetched : Except String (List UInt8))
    (id : Int) (store : Store) : Store × Except String Refreshed :=
  match findLiveSubscription store id with
  | none => (store, .error s!"outbound subscription not found: {id}")
  | some subscription =>
      if !subscription.enabled then (store, .error s!"outbound subscription disabled: {id}")
      else
        match fetched with
        | .error error => (markFetch now id error none store, .error error)
        | .ok body => refreshFromBody platform now subscription body store

end MiGate.Web
