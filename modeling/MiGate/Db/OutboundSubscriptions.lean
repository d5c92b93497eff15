import MiGate.Db.Outbounds

namespace MiGate.Db

open Go Fallible Relational

/-- What the creation and the update of a subscription write alike. -/
def OutboundSubscriptionParams.write (params : OutboundSubscriptionParams) (now : String)
    (row : OutboundSubscription) : OutboundSubscription :=
  { row with
    remark := orElse (trimSpace params.remark) (trimSpace params.url)
    url := trimSpace params.url
    tagPrefix := trimSpace params.tagPrefix
    updateIntervalSeconds :=
      if params.updateIntervalSeconds ≤ 0 then defaultOutboundSubscriptionUpdateIntervalSeconds
      else params.updateIntervalSeconds
    enabled := params.enabled, allowPrivate := params.allowPrivate, prepend := params.prepend
    updatedAt := now }

@[simp] theorem OutboundSubscriptionParams.write_id (params : OutboundSubscriptionParams) (now : String)
    (row : OutboundSubscription) : (params.write now row).id = row.id := rfl

def createOutboundSubscription (now : String) (params : OutboundSubscriptionParams) (store : Store) :
    Except String (Store × OutboundSubscription) := do
  require (trimSpace params.url != "") "url cannot be empty"
  let priority := nextSort (store.outboundSubscriptions.rows.map OutboundSubscription.priority)
  let row := params.write now { (default : OutboundSubscription) with priority, createdAt := now }
  pure ({ store with
      outboundSubscriptions := store.outboundSubscriptions.insert (fun id => { row with id }) fun _ => rfl },
    { row with id := store.outboundSubscriptions.next })

/-- `WHERE id=? AND deleted_at=''`. -/
def isLiveSubscription (id : Int) (row : OutboundSubscription) : Bool :=
  row.id == id && row.deletedAt == ""

def findLiveSubscription (store : Store) (id : Int) : Option OutboundSubscription :=
  (store.outboundSubscriptions.find? id).filter (isLiveSubscription id)

def isSubscriptionOutbound (subscriptionID : Int) (row : Outbound) : Bool :=
  row.subscriptionID == subscriptionID && row.source == outboundSourceSubscription

def updateOutboundSubscription (now : String) (id : Int) (params : OutboundSubscriptionParams)
    (store : Store) : Except String (Store × OutboundSubscription) := do
  require (trimSpace params.url != "") "url cannot be empty"
  let current ← expect (findLiveSubscription store id) s!"outbound subscription not found: {id}"
  let outboundSubscriptions := store.outboundSubscriptions.modifyWhere (isLiveSubscription id)
    (params.write now) (params.write_id now)
  let outbounds :=
    if params.enabled then store.outbounds
    else store.outbounds.modifyWhere (isSubscriptionOutbound id) (enableOutbound false)
      (enableOutbound_id false)
  pure ({ store with outboundSubscriptions, outbounds }, params.write now current)

def subscriptionOutboundIDs (subscriptionID : Int) (store : Store) : List Int :=
  (store.outbounds.rows.filter (isSubscriptionOutbound subscriptionID)).map Outbound.id

def deleteSubscriptionOutbounds (ids : List Int) (store : Store) : Store :=
  { store with
    routingRules := store.routingRules.deleteWhere fun rule => ids.contains rule.outboundID
    outbounds := store.outbounds.deleteWhere fun row =>
      row.source == outboundSourceSubscription && ids.contains row.id }

def retireSubscription (now : String) (row : OutboundSubscription) : OutboundSubscription :=
  { row with enabled := false, deletedAt := now, updatedAt := now }

@[simp] theorem retireSubscription_id (now : String) (row : OutboundSubscription) :
    (retireSubscription now row).id = row.id := rfl

def deleteOutboundSubscription (now : String) (id : Int) (store : Store) : Except String Store := do
  require (findLiveSubscription store id).isSome s!"outbound subscription not found: {id}"
  let store := deleteSubscriptionOutbounds (subscriptionOutboundIDs id store) store
  let outboundSubscriptions := store.outboundSubscriptions.modifyWhere (isLiveSubscription id)
    (retireSubscription now) (retireSubscription_id now)
  pure (rebalanceOutboundSorts { store with outboundSubscriptions })

def prioritizeSubscription (now : String) (priority : Int) (row : OutboundSubscription) :
    OutboundSubscription :=
  { row with priority, updatedAt := now }

@[simp] theorem prioritizeSubscription_id (now : String) (priority : Int) (row : OutboundSubscription) :
    (prioritizeSubscription now priority row).id = row.id := rfl

def writeSubscriptionPriorities (now : String) (ids : List Int)
    (subscriptions : Serial OutboundSubscription.id) : Serial OutboundSubscription.id :=
  ids.zipIdx.foldl (fun subscriptions (id, i) =>
    subscriptions.modifyWhere (fun row => row.id == id) (prioritizeSubscription now i)
      (prioritizeSubscription_id now i)) subscriptions

def reorderOutboundSubscriptions (now : String) (ids : List Int) (store : Store) : Except String Store := do
  let existing :=
    (store.outboundSubscriptions.rows.filter fun row => row.deletedAt == "").map OutboundSubscription.id
  require (ids.length == existing.length)
    s!"expected {existing.length} IDs for reordering, got {ids.length}"
  require (existing.all ids.contains) "unknown outbound subscription id in reorder payload"
  let outboundSubscriptions := writeSubscriptionPriorities now ids store.outboundSubscriptions
  pure (rebalanceOutboundSorts { store with outboundSubscriptions })

/-- The `SET` clause that records a fetch; identities are given only when it succeeded. -/
def recordFetch (fetched lastErr : String) (identities : Option (List String)) (now : String)
    (row : OutboundSubscription) : OutboundSubscription :=
  match identities with
  | some identities =>
      { row with
        lastFetchedAt := fetched, lastAttemptAt := fetched, lastError := trimSpace lastErr
        linkIdentitiesJSON := jsonStrings identities, updatedAt := now }
  | none => { row with lastAttemptAt := fetched, lastError := trimSpace lastErr, updatedAt := now }

@[simp] theorem recordFetch_id (fetched lastErr : String) (identities : Option (List String))
    (now : String) (row : OutboundSubscription) :
    (recordFetch fetched lastErr identities now row).id = row.id := by
  cases identities <;> rfl

def markOutboundSubscriptionFetch (now : String) (id : Int) (fetchedAt lastErr : String)
    (identities : Option (List String)) (store : Store) : Except String Store := do
  require (findLiveSubscription store id).isSome s!"outbound subscription not found: {id}"
  let outboundSubscriptions := store.outboundSubscriptions.modifyWhere (isLiveSubscription id)
    (recordFetch fetchedAt lastErr identities now) (recordFetch_id fetchedAt lastErr identities now)
  pure { store with outboundSubscriptions }

def updateSubscriptionFetch (subscriptionID : Int) (fetchedAt lastErr : String)
    (identities : Option (List String)) (now : String) (store : Store) : Store :=
  { store with
    outboundSubscriptions := store.outboundSubscriptions.modifyWhere (fun row => row.id == subscriptionID)
      (recordFetch fetchedAt lastErr identities now) (recordFetch_id fetchedAt lastErr identities now) }

def MaterializedSubscriptionOutbound.asOutbound (node : MaterializedSubscriptionOutbound) : Outbound :=
  { (default : Outbound) with
    protocol := normalizeOutboundProtocol node.protocol, address := node.address, port := node.port
    username := node.username, password := node.password }

/-- The row a node is written to: the one it names, if that belongs to the subscription, else
the oldest one with its identity. -/
def existingNodeRow (subscriptionID : Int) (node : MaterializedSubscriptionOutbound) (store : Store) :
    Option Outbound :=
  let named :=
    if 0 < node.id then (store.outbounds.find? node.id).filter (isSubscriptionOutbound subscriptionID)
    else none
  match named with
  | some row => some row
  | none =>
      if node.id < 0 then none
      else store.outbounds.rows.find? fun row =>
        isSubscriptionOutbound subscriptionID row &&
          row.subscriptionIdentity == trimSpace node.subscriptionIdentity

/-- The columns a node fills, whether its row exists or not. -/
def MaterializedSubscriptionOutbound.write (node : MaterializedSubscriptionOutbound) (now : String)
    (row : Outbound) : Outbound :=
  { row with
    remark := trimSpace node.remark, protocol := normalizeOutboundProtocol node.protocol
    address := trimSpace node.address, port := node.port, username := trimSpace node.username
    password := node.password, enabled := true, sort := 50000 + node.position
    subscriptionIdentity := trimSpace node.subscriptionIdentity, rawLink := node.rawLink
    settingsJSON := trimSpace node.settingsJSON, lastSeenAt := now }

/-- The `SET` clause for a node whose row exists. -/
def rewriteNodeRow (node : MaterializedSubscriptionOutbound) (now : String) (row : Outbound) : Outbound :=
  { node.write now row with tag := trimSpace row.tag }

@[simp] theorem rewriteNodeRow_id (node : MaterializedSubscriptionOutbound) (now : String) (row : Outbound) :
    (rewriteNodeRow node now row).id = row.id := rfl

/-- The row an `INSERT` makes for a node. -/
def newNodeRow (subscriptionID : Int) (node : MaterializedSubscriptionOutbound) (now : String) : Outbound :=
  node.write now { (default : Outbound) with
    tag := trimSpace node.tag, source := outboundSourceSubscription, subscriptionID }

/-- One node of `MaterializeSubscriptionOutbounds`, with the identifiers seen so far. -/
def materializeNode (now : String) (subscriptionID : Int) (done : Store × List Int)
    (node : MaterializedSubscriptionOutbound) : Except String (Store × List Int) := do
  let (store, seenIDs) := done
  validateOutboundProfile node.asOutbound
  require (trimSpace node.subscriptionIdentity != "") "subscription outbound identity cannot be empty"
  match existingNodeRow subscriptionID node store with
  | some existing =>
      require (!store.outbounds.rows.any fun row => row.id != existing.id && row.tag == trimSpace existing.tag)
        (uniqueConstraintFailed "outbounds.tag")
      let outbounds := store.outbounds.modifyWhere (fun row => row.id == existing.id)
        (rewriteNodeRow node now) (rewriteNodeRow_id node now)
      pure ({ store with outbounds }, seenIDs ++ [existing.id])
  | none =>
      require (!outboundTagTaken (trimSpace node.tag) store) (uniqueConstraintFailed "outbounds.tag")
      pure (insertOutboundRow (newNodeRow subscriptionID node now) store, seenIDs ++ [store.outbounds.next])

def materializeSubscriptionOutbounds (now : String) (subscriptionID : Int)
    (nodes : List MaterializedSubscriptionOutbound) (identities : Option (List String)) (store : Store) :
    Except String (Store × List Outbound) := do
  let subscription ← expect (findLiveSubscription store subscriptionID)
    s!"outbound subscription not found: {subscriptionID}"
  require subscription.enabled s!"outbound subscription disabled: {subscriptionID}"
  let (store, seenIDs) ← nodes.foldlM (materializeNode now subscriptionID) (store, [])
  let staleIDs := (subscriptionOutboundIDs subscriptionID store).filter fun id => !seenIDs.contains id
  let store := deleteSubscriptionOutbounds staleIDs store
  let store := updateSubscriptionFetch subscriptionID now "" identities now store
  let store := rebalanceOutboundSorts store
  pure (store, listOutbounds store)

end MiGate.Db
