import Mathlib.Data.List.Sort
import MiGate.Db.Clients

namespace MiGate.Db

open Go Fallible Relational

def supportedOutboundProtocols : List String :=
  ["freedom", "blackhole", "dns", "socks", "http", "https", "vless", "trojan", "shadowsocks",
    "hysteria2", "tuic", "shadowtls"]

/-- `SELECT COALESCE(MAX(sort)+1, 0)`. -/
def nextSort (sorts : List Int) : Int :=
  match sorts.max? with
  | some last => last + 1
  | none => 0

/-- The row an `INSERT` of one of the default outbounds makes. -/
def defaultOutbound (tag remark protocol : String) (sort : Int) : Outbound :=
  { (default : Outbound) with tag, remark, protocol, enabled := true, sort, source := outboundSourceManual }

def defaultOutbounds : List Outbound :=
  [defaultOutbound "direct" "直接连接" "freedom" 0, defaultOutbound "blocked" "阻断" "blackhole" 1,
    defaultOutbound "dns" "DNS" "dns" 2]

def insertOutboundRow (row : Outbound) (store : Store) : Store :=
  { store with outbounds := store.outbounds.insert (fun id => { row with id }) fun _ => rfl }

def outboundTagTaken (tag : String) (store : Store) : Bool :=
  store.outbounds.rows.any fun row => row.tag == tag

/-- `INSERT OR IGNORE` of each default outbound. -/
def seedDefaultOutbounds (store : Store) : Store :=
  defaultOutbounds.foldl
    (fun store row => if outboundTagTaken row.tag store then store else insertOutboundRow row store) store

/-- The store of a fresh database. -/
def Store.initial : Store :=
  seedDefaultOutbounds Store.empty

/-- An outbound as the queries read it. -/
def loadOutbound (row : Outbound) : Outbound :=
  { row with source := if trimSpace row.source = "" then outboundSourceManual else row.source }

def sortBefore (left right : Outbound) : Prop :=
  left.sort < right.sort ∨ (left.sort = right.sort ∧ left.id ≤ right.id)

instance : DecidableRel sortBefore := fun left right =>
  inferInstanceAs (Decidable (left.sort < right.sort ∨ (left.sort = right.sort ∧ left.id ≤ right.id)))

def listOutbounds (store : Store) : List Outbound :=
  (store.outbounds.rows.insertionSort sortBefore).map loadOutbound

/-- What the creation and the update of an outbound both ask for. -/
structure OutboundProfile where
  tag : String
  remark : String
  protocol : String
  address : String
  port : Int
  username : String
  password : String
  settingsJSON : String
deriving DecidableEq, Repr

def OutboundProfile.asOutbound (profile : OutboundProfile) : Outbound :=
  { (default : Outbound) with
    protocol := profile.protocol, address := profile.address, port := profile.port
    username := profile.username, password := profile.password }

/-- The checks `CreateOutbound` and `UpdateOutbound` make, and the columns they then write. -/
def OutboundProfile.prepare (profile : OutboundProfile) : Except String OutboundProfile := do
  let protocol := normalizeOutboundProtocol profile.protocol
  require (supportedOutboundProtocols.contains protocol)
    s!"unsupported outbound protocol: {profile.protocol}"
  let tag := trimSpace profile.tag
  require (tag != "") "tag cannot be empty"
  let remark := orElse (trimSpace profile.remark) tag
  let address := trimSpace profile.address
  require (!outboundProtocolNeedsEndpoint protocol || address != "") "address cannot be empty"
  require (!outboundProtocolNeedsEndpoint protocol || (0 < profile.port && profile.port ≤ 65535))
    s!"invalid port: {profile.port}"
  require (!(outboundProtocolSupportedCores protocol).isEmpty)
    s!"unsupported outbound protocol: {profile.protocol}"
  validateOutboundProfile { profile with protocol, address : OutboundProfile }.asOutbound
  pure { profile with
    tag, remark, protocol, address
    username := trimSpace profile.username, settingsJSON := trimSpace profile.settingsJSON }

def CreateOutboundParams.profile (params : CreateOutboundParams) : OutboundProfile where
  tag := params.tag
  remark := params.remark
  protocol := params.protocol
  address := params.address
  port := params.port
  username := params.username
  password := params.password
  settingsJSON := params.settingsJSON

def UpdateOutboundParams.profile (params : UpdateOutboundParams) : OutboundProfile where
  tag := params.tag
  remark := params.remark
  protocol := params.protocol
  address := params.address
  port := params.port
  username := params.username
  password := params.password
  settingsJSON := params.settingsJSON

def normalizeOutboundSource (source : String) : String :=
  let token := toLower (trimSpace source)
  if token = outboundSourceSubscription then outboundSourceSubscription
  else if token = outboundSourceProxyPool then outboundSourceProxyPool
  else outboundSourceManual

/-- The columns a profile fills. -/
def OutboundProfile.write (profile : OutboundProfile) (row : Outbound) : Outbound :=
  { row with
    tag := profile.tag, remark := profile.remark, protocol := profile.protocol, address := profile.address
    port := profile.port, username := profile.username, password := profile.password
    settingsJSON := profile.settingsJSON }

def createOutbound (now : String) (params : CreateOutboundParams) (store : Store) :
    Except String (Store × Outbound) := do
  let profile ← params.profile.prepare
  let sort := nextSort (store.outbounds.rows.map Outbound.sort)
  let source := normalizeOutboundSource params.source
  require (source != outboundSourceSubscription)
    "source subscription is reserved for subscription materialization"
  require (!outboundTagTaken profile.tag store) (uniqueConstraintFailed "outbounds.tag")
  let row := profile.write { (default : Outbound) with enabled := true, sort, source, lastSeenAt := now }
  pure (insertOutboundRow row store, { row with id := store.outbounds.next })

def getOutboundByID (store : Store) (id : Int) : Option Outbound :=
  (store.outbounds.find? id).map loadOutbound

def subscriptionEnabled (store : Store) (subscriptionID : Int) : Bool :=
  match store.outboundSubscriptions.find? subscriptionID with
  | some subscription => subscription.deletedAt == "" && subscription.enabled
  | none => false

def ensureSubscriptionOutboundCanEnable (store : Store) (outbound : Outbound) : Except String Unit :=
  if outbound.source ≠ outboundSourceSubscription ∨ outbound.subscriptionID = 0 then pure ()
  else require (subscriptionEnabled store outbound.subscriptionID) "subscription_disabled"

def editSubscriptionOutbound (remark : String) (enabled : Bool) (row : Outbound) : Outbound :=
  { row with remark, enabled }

@[simp] theorem editSubscriptionOutbound_id (remark : String) (enabled : Bool) (row : Outbound) :
    (editSubscriptionOutbound remark enabled row).id = row.id := rfl

def updateSubscriptionOutboundEditableFields (current : Outbound) (params : UpdateOutboundParams)
    (store : Store) : Except String (Store × Outbound) := do
  onlyIf (params.enabled = true) (ensureSubscriptionOutboundCanEnable store current)
  let remark := orElse (trimSpace params.remark) current.remark
  let outbounds := store.outbounds.modifyWhere (fun row => row.id == current.id)
    (editSubscriptionOutbound remark params.enabled) (editSubscriptionOutbound_id remark params.enabled)
  pure ({ store with outbounds }, editSubscriptionOutbound remark params.enabled current)

/-- The `SET` clause of `UpdateOutbound`. -/
def updateOutboundRow (profile : OutboundProfile) (enabled : Bool) (row : Outbound) : Outbound :=
  { profile.write row with enabled }

@[simp] theorem updateOutboundRow_id (profile : OutboundProfile) (enabled : Bool) (row : Outbound) :
    (updateOutboundRow profile enabled row).id = row.id := rfl

def updateOutbound (id : Int) (params : UpdateOutboundParams) (store : Store) :
    Except String (Store × Outbound) := do
  let current ← expect (getOutboundByID store id) s!"outbound not found: {id}"
  if current.source = outboundSourceSubscription then
    updateSubscriptionOutboundEditableFields current params store
  else do
    let profile ← params.profile.prepare
    require (!store.outbounds.rows.any fun row => row.id != id && row.tag == profile.tag)
      (uniqueConstraintFailed "outbounds.tag")
    let outbounds := store.outbounds.modifyWhere (fun row => row.id == id)
      (updateOutboundRow profile params.enabled) (updateOutboundRow_id profile params.enabled)
    pure ({ store with outbounds }, updateOutboundRow profile params.enabled current)

def deleteOutbound (id : Int) (store : Store) : Except String Store := do
  require (store.outbounds.find? id).isSome s!"outbound not found: {id}"
  let routeCount := (store.routingRules.rows.filter fun rule => rule.outboundID == id).length
  require (routeCount == 0) s!"outbound {id} is referenced by {routeCount} routing rule(s)"
  pure { store with outbounds := store.outbounds.deleteWhere fun row => row.id == id }

def enableOutbound (enabled : Bool) (row : Outbound) : Outbound :=
  { row with enabled }

@[simp] theorem enableOutbound_id (enabled : Bool) (row : Outbound) :
    (enableOutbound enabled row).id = row.id := rfl

def setOutboundEnabled (id : Int) (enabled : Bool) (store : Store) : Except String (Store × Outbound) := do
  let current ← expect (getOutboundByID store id) s!"outbound not found: {id}"
  onlyIf (enabled = true) (ensureSubscriptionOutboundCanEnable store current)
  let outbounds := store.outbounds.modifyWhere (fun row => row.id == id) (enableOutbound enabled)
    (enableOutbound_id enabled)
  pure ({ store with outbounds }, enableOutbound enabled current)

def sortOutbound (sort : Int) (row : Outbound) : Outbound :=
  { row with sort }

@[simp] theorem sortOutbound_id (sort : Int) (row : Outbound) : (sortOutbound sort row).id = row.id := rfl

/-- `UPDATE outbounds SET sort=? WHERE id=?`, for each identifier of a list in turn. -/
def writeOutboundSorts (first : Int) (ids : List Int) (outbounds : Serial Outbound.id) :
    Serial Outbound.id :=
  ids.zipIdx.foldl (fun outbounds (id, i) =>
    outbounds.modifyWhere (fun row => row.id == id) (sortOutbound (first + i)) (sortOutbound_id (first + i)))
    outbounds

/-- What `rebalanceOutboundSortsTx` orders an outbound by, before its old place. -/
def outboundRank (subscriptions : Serial OutboundSubscription.id) (row : Outbound) : Int × Int :=
  if row.tag = "direct" ∧ row.protocol = "freedom" then (0, 0)
  else if row.tag = "blocked" ∧ row.protocol = "blackhole" then (0, 1)
  else if row.tag = "dns" ∧ row.protocol = "dns" then (0, 2)
  else
    let subscription := subscriptions.find? row.subscriptionID
    let place := (subscription.map OutboundSubscription.priority).getD row.sort
    if row.source = outboundSourceSubscription then
      if (subscription.map OutboundSubscription.prepend).getD false then (1, place) else (3, place)
    else (2, place)

def rankLess (left right : Int × Int) : Prop :=
  left.1 < right.1 ∨ (left.1 = right.1 ∧ left.2 < right.2)

instance : DecidableRel rankLess := fun left right =>
  inferInstanceAs (Decidable (left.1 < right.1 ∨ (left.1 = right.1 ∧ left.2 < right.2)))

def rankBefore (subscriptions : Serial OutboundSubscription.id) (left right : Outbound) : Prop :=
  rankLess (outboundRank subscriptions left) (outboundRank subscriptions right) ∨
    (outboundRank subscriptions left = outboundRank subscriptions right ∧ sortBefore left right)

instance (subscriptions : Serial OutboundSubscription.id) : DecidableRel (rankBefore subscriptions) :=
  fun left right =>
    inferInstanceAs (Decidable (rankLess (outboundRank subscriptions left) (outboundRank subscriptions right) ∨
      (outboundRank subscriptions left = outboundRank subscriptions right ∧ sortBefore left right)))

def rebalanceOutboundSorts (store : Store) : Store :=
  let ranked := store.outbounds.rows.insertionSort (rankBefore store.outboundSubscriptions)
  { store with outbounds := writeOutboundSorts 0 (ranked.map Outbound.id) store.outbounds }

def outboundReorderable (row : Outbound) : Bool :=
  !(["freedom", "blackhole", "dns"].contains row.protocol) && row.source != outboundSourceSubscription

def reorderOutbounds (ids : List Int) (store : Store) : Except String Store := do
  let existing := (store.outbounds.rows.filter outboundReorderable).map Outbound.id
  require (ids.length == existing.length)
    s!"expected {existing.length} IDs for reordering, got {ids.length}"
  require (ids.all existing.contains && decide ids.Nodup) "unknown outbound id in reorder payload"
  pure (rebalanceOutboundSorts { store with outbounds := writeOutboundSorts 100000 ids store.outbounds })

end MiGate.Db
