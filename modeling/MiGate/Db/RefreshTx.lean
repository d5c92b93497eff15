import MiGate.Db.OutboundSubscriptions
import MiGate.Relational.Transaction

namespace MiGate.Db

open Go Fallible Relational Statements

variable {store after : Store}

/-! `MaterializeSubscriptionOutbounds` statement by statement.  Any statement may fail, and so
may the listing that follows the commit. -/

abbrev Tx (α : Type) := Statements Store String α

/-- The row a node names, if that belongs to the subscription. -/
def namedNodeRow (subscriptionID : Int) (node : MaterializedSubscriptionOutbound) (store : Store) : Option Outbound :=
  (store.outbounds.find? node.id).filter (isSubscriptionOutbound subscriptionID)

/-- The oldest row of the subscription with the identity of a node. -/
def identifiedNodeRow (subscriptionID : Int) (node : MaterializedSubscriptionOutbound) (store : Store) :
    Option Outbound :=
  store.outbounds.rows.find? fun row =>
    isSubscriptionOutbound subscriptionID row && row.subscriptionIdentity == trimSpace node.subscriptionIdentity

/-- The `SELECT` by identity, made if the one by number has found nothing. -/
def orIdentified (subscriptionID : Int) (node : MaterializedSubscriptionOutbound) (named : Option Outbound) :
    Tx (Option Outbound) :=
  if named.isSome ∨ node.id < 0 then pure named else query (identifiedNodeRow subscriptionID node)

def existingNodeRowTx (subscriptionID : Int) (node : MaterializedSubscriptionOutbound) : Tx (Option Outbound) := do
  let named ← (if 0 < node.id then query (namedNodeRow subscriptionID node) else pure none)
  orIdentified subscriptionID node named

/-- The `UPDATE` of the row that exists. -/
def updateNodeRow (node : MaterializedSubscriptionOutbound) (now : String) (existing : Outbound) (store : Store) :
    Except String (Store × Int) := do
  require (!store.outbounds.rows.any fun row => row.id != existing.id && row.tag == trimSpace existing.tag)
    (uniqueConstraintFailed "outbounds.tag")
  let outbounds := store.outbounds.modifyWhere (fun row => row.id == existing.id)
    (rewriteNodeRow node now) (rewriteNodeRow_id node now)
  pure ({ store with outbounds }, existing.id)

/-- The `INSERT` of a new row, with `LastInsertId`. -/
def insertNodeRow (subscriptionID : Int) (node : MaterializedSubscriptionOutbound) (now : String) (store : Store) :
    Except String (Store × Int) := do
  require (!outboundTagTaken (trimSpace node.tag) store) (uniqueConstraintFailed "outbounds.tag")
  pure (insertOutboundRow (newNodeRow subscriptionID node now) store, store.outbounds.next)

/-- The write for a node, and the number of its row. -/
def writeNodeTx (now : String) (subscriptionID : Int) (node : MaterializedSubscriptionOutbound)
    (existing : Option Outbound) : Tx Int :=
  match existing with
  | some existing => statement (updateNodeRow node now existing)
  | none => statement (insertNodeRow subscriptionID node now)

def materializeNodeTx (now : String) (subscriptionID : Int) (seenIDs : List Int)
    (node : MaterializedSubscriptionOutbound) : Tx (List Int) := do
  check (validateOutboundProfile node.asOutbound)
  check (require (trimSpace node.subscriptionIdentity != "") "subscription outbound identity cannot be empty")
  let existing ← existingNodeRowTx subscriptionID node
  let id ← writeNodeTx now subscriptionID node existing
  pure (seenIDs ++ [id])

def subscriptionOutboundIDsTx (subscriptionID : Int) : Tx (List Int) :=
  query (subscriptionOutboundIDs subscriptionID)

def deleteSubscriptionOutboundsTx (ids : List Int) : Tx Unit :=
  if ids.isEmpty then pure ()
  else do
    execute fun store =>
      { store with routingRules := store.routingRules.deleteWhere fun rule => ids.contains rule.outboundID }
    execute fun store =>
      { store with
        outbounds := store.outbounds.deleteWhere fun row =>
          row.source == outboundSourceSubscription && ids.contains row.id }

def updateSubscriptionFetchTx (subscriptionID : Int) (fetchedAt lastErr : String)
    (identities : Option (List String)) (now : String) : Tx Unit :=
  execute (updateSubscriptionFetch subscriptionID fetchedAt lastErr identities now)

/-- `UPDATE outbounds SET sort=? WHERE id=?`. -/
def writeOutboundSort (place : Int × Nat) (store : Store) : Store :=
  { store with
    outbounds := store.outbounds.modifyWhere (fun row => row.id == place.1) (sortOutbound place.2)
      (sortOutbound_id place.2) }

def rebalanceOutboundSortsTx : Tx Unit := do
  let ids ← query fun store =>
    (store.outbounds.rows.insertionSort (rankBefore store.outboundSubscriptions)).map Outbound.id
  ids.zipIdx.forM fun place => execute (writeOutboundSort place)

def materializeTx (now : String) (subscriptionID : Int) (nodes : List MaterializedSubscriptionOutbound)
    (identities : Option (List String)) : Tx Unit := do
  let found ← query fun store => findLiveSubscription store subscriptionID
  let subscription ← check (expect found s!"outbound subscription not found: {subscriptionID}")
  check (require subscription.enabled s!"outbound subscription disabled: {subscriptionID}")
  let seenIDs ← nodes.foldlM (materializeNodeTx now subscriptionID) []
  let allIDs ← subscriptionOutboundIDsTx subscriptionID
  deleteSubscriptionOutboundsTx (allIDs.filter fun id => !seenIDs.contains id)
  updateSubscriptionFetchTx subscriptionID now "" identities now
  rebalanceOutboundSortsTx

def materializeSubscriptionOutboundsTx (now : String) (subscriptionID : Int)
    (nodes : List MaterializedSubscriptionOutbound) (identities : Option (List String)) : Tx (List Outbound) := do
  transact (materializeTx now subscriptionID nodes identities)
  query listOutbounds

/-! Together the statements do what the operation does. -/

theorem existingNodeRowTx_performs (subscriptionID : Int) (node : MaterializedSubscriptionOutbound) :
    Performs (existingNodeRowTx subscriptionID node) fun store =>
      .ok (store, existingNodeRow subscriptionID node store) := by
  have named : Performs
      (if 0 < node.id then query (namedNodeRow subscriptionID node) else pure none : Tx (Option Outbound)) fun store =>
      .ok (store, if 0 < node.id then namedNodeRow subscriptionID node store else none) := by
    split
    · exact .query _
    · exact .pure _
  have identified : ∀ row : Option Outbound, Performs (orIdentified subscriptionID node row) fun store =>
      .ok (store, if row.isSome ∨ node.id < 0 then row else identifiedNodeRow subscriptionID node store) := by
    intro row
    unfold orIdentified
    split
    · exact .pure _
    · exact .query _
  refine (named.bind identified).congr fun store => ?_
  have same : existingNodeRow subscriptionID node store =
      match (if 0 < node.id then namedNodeRow subscriptionID node store else none) with
      | some row => some row
      | none => if node.id < 0 then none else identifiedNodeRow subscriptionID node store := rfl
  rw [same]
  dsimp only [Except.bind]
  cases (if 0 < node.id then namedNodeRow subscriptionID node store else none) with
  | some row => rfl
  | none => simp

theorem materializeNodeTx_performs (now : String) (subscriptionID : Int) (seenIDs : List Int)
    (node : MaterializedSubscriptionOutbound) :
    Performs (materializeNodeTx now subscriptionID seenIDs node) fun store =>
      materializeNode now subscriptionID (store, seenIDs) node := by
  have written : ∀ existing : Option Outbound, Performs (writeNodeTx now subscriptionID node existing) fun store =>
      match existing with
      | some existing => updateNodeRow node now existing store
      | none => insertNodeRow subscriptionID node now store := by
    intro existing
    cases existing with
    | some existing => exact .statement _
    | none => exact .statement _
  refine ((Performs.check _).bind fun _ => (Performs.check _).bind fun _ =>
    (existingNodeRowTx_performs subscriptionID node).bind fun existing =>
      (written existing).bind fun _ => .pure _).congr fun store => ?_
  unfold materializeNode
  cases valid : validateOutboundProfile node.asOutbound with
  | error reason => rfl
  | ok checked =>
      cases given : trimSpace node.subscriptionIdentity != "" with
      | false => rfl
      | true =>
          cases claimed : existingNodeRow subscriptionID node store with
          | some existing =>
              simp only [Except.map, Except.bind, require, bind, claimed, updateNodeRow, if_true]
              cases store.outbounds.rows.any fun row => row.id != existing.id && row.tag == trimSpace existing.tag
              · rfl
              · rfl
          | none =>
              simp only [Except.map, Except.bind, require, bind, claimed, insertNodeRow, if_true]
              cases outboundTagTaken (trimSpace node.tag) store
              · rfl
              · rfl

theorem deleteSubscriptionOutboundsTx_performs (ids : List Int) :
    Performs (deleteSubscriptionOutboundsTx ids) fun store => .ok (deleteSubscriptionOutbounds ids store, ()) := by
  unfold deleteSubscriptionOutboundsTx
  split
  · rename_i empty
    rw [List.isEmpty_iff] at empty
    refine (Performs.pure ()).congr fun store => ?_
    have rules : store.routingRules.deleteWhere (fun rule => ids.contains rule.outboundID) = store.routingRules :=
      Serial.deleteWhere_nothing fun rule _ => by simp [empty]
    have outbounds : (store.outbounds.deleteWhere fun row =>
        row.source == outboundSourceSubscription && ids.contains row.id) = store.outbounds :=
      Serial.deleteWhere_nothing fun row _ => by simp [empty]
    rw [deleteSubscriptionOutbounds, rules, outbounds]
  · exact ((Performs.execute _).bind fun _ => .execute _).congr fun _ => rfl

/-- Writing the sorts one by one changes nothing but the outbounds. -/
theorem writeOutboundSort_foldl (places : List (Int × Nat)) (store : Store) :
    places.foldl (fun store place => writeOutboundSort place store) store =
      { store with
        outbounds := places.foldl (fun outbounds (id, i) => outbounds.modifyWhere (fun row => row.id == id)
          (sortOutbound (0 + i)) (sortOutbound_id (0 + i))) store.outbounds } := by
  induction places generalizing store with
  | nil => rfl
  | cons place rest ih =>
      rw [List.foldl_cons, ih]
      simp only [writeOutboundSort, Int.zero_add, List.foldl_cons]

theorem rebalanceOutboundSortsTx_performs :
    Performs rebalanceOutboundSortsTx fun store => .ok (rebalanceOutboundSorts store, ()) := by
  refine ((Performs.query _).bind fun ids : List Int => .forM_execute writeOutboundSort ids.zipIdx).congr fun store => ?_
  dsimp only [Except.bind]
  rw [writeOutboundSort_foldl]
  rfl

theorem materializeTx_performs (now : String) (subscriptionID : Int) (nodes : List MaterializedSubscriptionOutbound)
    (identities : Option (List String)) :
    Performs (materializeTx now subscriptionID nodes identities) fun store =>
      (materializeSubscriptionOutbounds now subscriptionID nodes identities store).map fun done => (done.1, ()) := by
  have looped := Performs.foldlM (materializeNodeTx_performs now subscriptionID) nodes []
  refine ((Performs.query _).bind fun found => (Performs.check _).bind fun subscription =>
    (Performs.check _).bind fun _ => looped.bind fun seenIDs => (Performs.query _).bind fun allIDs =>
      (deleteSubscriptionOutboundsTx_performs _).bind fun _ => (Performs.execute _).bind fun _ =>
        rebalanceOutboundSortsTx_performs).congr fun store => ?_
  unfold materializeSubscriptionOutbounds
  cases found : findLiveSubscription store subscriptionID with
  | none => rfl
  | some subscription =>
      cases on : subscription.enabled with
      | false => simp [Except.bind, Except.map, expect, require, on, bind]
      | true =>
          cases ran : nodes.foldlM (materializeNode now subscriptionID) (store, []) with
          | error reason => simp [Except.bind, Except.map, expect, require, on, bind, ran]
          | ok written => simp [Except.bind, Except.map, expect, require, on, bind, ran, pure, Except.pure]

end MiGate.Db
