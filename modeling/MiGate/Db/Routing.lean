import MiGate.Db.Inbounds
import MiGate.Db.Outbounds

namespace MiGate.Db

open Go Fallible Relational

/-- SQLite's `lower`, which maps the ASCII letters only. -/
def sqlLower (text : String) : String :=
  String.ofList (text.toList.map fun rune => if rune.toNat < 128 then lowerRune rune else rune)

def ruleBefore (left right : RoutingRule) : Prop :=
  left.sort < right.sort ∨ (left.sort = right.sort ∧ left.id ≤ right.id)

instance : DecidableRel ruleBefore := fun left right =>
  inferInstanceAs (Decidable (left.sort < right.sort ∨ (left.sort = right.sort ∧ left.id ≤ right.id)))

def listRoutingRules (store : Store) : List RoutingRule :=
  store.routingRules.rows.insertionSort ruleBefore

/-- The source of a rule as it is stored. -/
structure RuleSource where
  clientID : Int
  clientEmail : String
  inboundTag : String
  inboundID : Int
deriving DecidableEq, Repr

def resolveRoutingInboundTag (inboundTag : String) (store : Store) : Except String Int := do
  let inboundTag := trimSpace inboundTag
  if inboundTag = "" then pure 0
  else
    let row ← expect (store.inbounds.rows.find? fun row =>
        inboundTag == "inbound-" ++ itoa row.id ++ "-" ++ sqlLower row.protocol ||
          sqlTrim row.remark == inboundTag)
      s!"inbound_tag {quote inboundTag} does not match any existing inbound"
    pure row.id

def resolveRoutingInboundTagByID (inboundID : Int) (store : Store) : Except String String := do
  let row ← expect (store.inbounds.find? inboundID) s!"inbound not found: {inboundID}"
  pure (generatedTagOf inboundID row.protocol)

/-- A client and its inbound. -/
def findClientInbound (clientID : Int) (store : Store) : Option (Client × InboundRow) := do
  let client ← store.clients.find? clientID
  let inbound ← store.inbounds.find? client.inboundID
  pure (client, inbound)

def resolveRoutingRuleSource (params : RoutingRuleParams) (store : Store) : Except String RuleSource := do
  let clientEmail := trimSpace params.clientEmail
  let inboundTag := trimSpace params.inboundTag
  if params.clientID ≤ 0 then
    require (clientEmail == "") "client_id is required when client_email is set"
    if 0 < params.inboundID then
      let actualTag ← resolveRoutingInboundTagByID params.inboundID store
      pure ⟨0, "", actualTag, params.inboundID⟩
    else
      let resolvedInboundID ← resolveRoutingInboundTag inboundTag store
      pure ⟨0, "", inboundTag, resolvedInboundID⟩
  else
    let (client, inbound) ← expect (findClientInbound params.clientID store)
      s!"client not found: {params.clientID}"
    let actualTag := generatedTagOf client.inboundID inbound.protocol
    require (params.inboundID ≤ 0 || params.inboundID == client.inboundID)
      s!"client {params.clientID} does not belong to inbound_id {params.inboundID}"
    require (0 < params.inboundID || inboundTag == "" || inboundTag == actualTag ||
        inboundTag == trimSpace inbound.remark)
      s!"client {params.clientID} does not belong to inbound_tag {quote inboundTag}"
    pure ⟨params.clientID, trimSpace client.email, actualTag, client.inboundID⟩

def resolveRoutingOutbound (outboundID : Int) (store : Store) : Except String Outbound := do
  require (0 < outboundID) "outbound_id is required"
  expect (store.outbounds.find? outboundID) s!"outbound not found: {outboundID}"

def rowCore (row : InboundRow) : String :=
  normalizeCore (if trimSpace row.core = "" then inferInboundCore row.protocol else row.core)

/-- The cores of a list of rows, each once, in the order they first occur. -/
def distinctCores (rows : List InboundRow) : List String :=
  rows.foldl (fun cores row => if cores.contains (rowCore row) then cores else cores ++ [rowCore row]) []

def routingRuleCores (inboundID clientID : Int) (store : Store) : Except String (List String) := do
  if 0 < inboundID then
    let row ← expect (store.inbounds.find? inboundID) s!"inbound not found: {inboundID}"
    pure [rowCore row]
  else if 0 < clientID then
    let (_, row) ← expect (findClientInbound clientID store) s!"client not found: {clientID}"
    pure [rowCore row]
  else
    let cores := distinctCores store.inbounds.rows
    pure (if cores.isEmpty then [coreXray] else cores)

def validateRoutingCoreCompatibility (inboundID clientID : Int) (outbound : Outbound) (store : Store) :
    Except String Unit := do
  let cores ← routingRuleCores inboundID clientID store
  match cores.find? fun core => !outboundSupportsCore outbound core with
  | some core => .error s!"outbound {quote outbound.tag} does not support {core}"
  | none => pure ()

/-- The columns a creation and an update of a rule both write. -/
def writeRule (source : RuleSource) (outbound : Outbound) (params : RoutingRuleParams) (rule : RoutingRule) :
    RoutingRule :=
  { rule with
    inboundID := source.inboundID, inboundTag := source.inboundTag, clientID := source.clientID
    clientEmail := source.clientEmail, outboundID := outbound.id, outboundTag := outbound.tag
    domain := trimSpace params.domain, ip := trimSpace params.ip, ruleSet := trimSpace params.ruleSet
    protocol := trimSpace params.protocol, enabled := params.enabled }

@[simp] theorem writeRule_id (source : RuleSource) (outbound : Outbound) (params : RoutingRuleParams)
    (rule : RoutingRule) : (writeRule source outbound params rule).id = rule.id := rfl

/-- The checks both operations make before they write. -/
def resolveRule (params : RoutingRuleParams) (store : Store) : Except String (RuleSource × Outbound) := do
  let source ← resolveRoutingRuleSource params store
  let outbound ← resolveRoutingOutbound params.outboundID store
  validateRoutingCoreCompatibility source.inboundID source.clientID outbound store
  pure (source, outbound)

def createRoutingRule (params : RoutingRuleParams) (store : Store) :
    Except String (Store × RoutingRule) := do
  let (source, outbound) ← resolveRule params store
  let sort := nextSort (store.routingRules.rows.map RoutingRule.sort)
  let rule := writeRule source outbound params { (default : RoutingRule) with sort }
  pure ({ store with routingRules := store.routingRules.insert (fun id => { rule with id }) fun _ => rfl },
    { rule with id := store.routingRules.next })

def updateRoutingRule (id : Int) (params : RoutingRuleParams) (store : Store) :
    Except String (Store × RoutingRule) := do
  let (source, outbound) ← resolveRule params store
  let current ← expect (store.routingRules.find? id) s!"routing rule not found: {id}"
  let routingRules := store.routingRules.modifyWhere (fun rule => rule.id == id)
    (writeRule source outbound params) (writeRule_id source outbound params)
  pure ({ store with routingRules }, writeRule source outbound params current)

def deleteRoutingRule (id : Int) (store : Store) : Except String Store := do
  require (store.routingRules.find? id).isSome s!"routing rule not found: {id}"
  pure { store with routingRules := store.routingRules.deleteWhere fun rule => rule.id == id }

def sortRule (sort : Int) (rule : RoutingRule) : RoutingRule :=
  { rule with sort }

@[simp] theorem sortRule_id (sort : Int) (rule : RoutingRule) : (sortRule sort rule).id = rule.id := rfl

def writeRuleSorts (ids : List Int) (rules : Serial RoutingRule.id) : Serial RoutingRule.id :=
  ids.zipIdx.foldl (fun rules (id, i) =>
    rules.modifyWhere (fun rule => rule.id == id) (sortRule i) (sortRule_id i)) rules

def reorderRoutingRules (ids : List Int) (store : Store) : Store :=
  { store with routingRules := writeRuleSorts ids store.routingRules }

end MiGate.Db
