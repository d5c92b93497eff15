import MiGate.Db.Core
import MiGate.Db.Random
import MiGate.Db.Store

namespace MiGate.Db

open Go Fallible

/-- An inbound as the queries read it: a missing core is inferred from the protocol. -/
def loadInbound (row : InboundRow) : InboundRow :=
  { row with core := if row.core = "" then inferInboundCore row.protocol else row.core }

def getInboundBasic (store : Store) (id : Int) : Except String InboundRow := do
  let row ← expect (store.inbounds.find? id) s!"inbound not found: {id}"
  pure (loadInbound row)

/-- The message SQLite's driver gives when a `UNIQUE` constraint fails. -/
def uniqueConstraintFailed (column : String) : String :=
  "constraint failed: UNIQUE constraint failed: " ++ column ++ " (2067)"

def insertClient (client : Client) (store : Store) : Except String (Store × Client) := do
  let taken := fun (column : Client → String) => store.clients.rows.any fun row => column row == column client
  require (!taken Client.uuid) (uniqueConstraintFailed "clients.uuid")
  require (client.credentialID == "" || !taken Client.credentialID)
    (uniqueConstraintFailed "clients.credential_id")
  require (client.subscriptionToken == "" || !taken Client.subscriptionToken)
    (uniqueConstraintFailed "clients.subscription_token")
  require (client.statsKey == "" || !taken Client.statsKey) (uniqueConstraintFailed "clients.stats_key")
  pure ({ store with clients := store.clients.insert (fun id => { client with id }) fun _ => rfl },
    { client with id := store.clients.next })

/-- The credentials of a client: its UUID, its credential identifier and its password. -/
structure ClientCredentials where
  uuid : String
  credentialID : String
  password : String
deriving DecidableEq, Repr

def orElse (value fallback : String) : String :=
  if value = "" then fallback else value

def normalizeClientCredentials (entropy : Entropy) (protocol uuid credentialID password : String) :
    ClientCredentials :=
  let uuid := trimSpace uuid
  let credentialID := orElse (trimSpace credentialID) uuid
  let password := trimSpace password
  match (getInboundCapability protocol).map InboundCapability.credentialType with
  | some .uuid =>
      let credentialID := orElse credentialID (newUUID entropy.credentialUUID)
      ⟨credentialID, credentialID, ""⟩
  | some .password =>
      let password := orElse (orElse password uuid) (newSecret entropy.secret)
      let credentialID := orElse credentialID (newUUID entropy.credentialUUID)
      ⟨password, credentialID, password⟩
  | some .credentialIDPassword =>
      let credentialID := orElse credentialID (newUUID entropy.credentialUUID)
      let password := orElse password (newSecret entropy.secret)
      ⟨credentialID, credentialID, password⟩
  | some .usernamePassword =>
      let credentialID := orElse credentialID ("user-" ++ newSecret entropy.username)
      let password := orElse password (newSecret entropy.secret)
      ⟨credentialID, credentialID, password⟩
  | some .none =>
      let uuid := orElse uuid (newSecret entropy.secret)
      ⟨uuid, uuid, ""⟩
  | none =>
      let uuid := orElse uuid (newUUID entropy.credentialUUID)
      ⟨uuid, uuid, password⟩

/-- `ValidateClientCredential`, which reads only the identifiers and the password. -/
def validateClientCredential (protocol : String) (client : Client) : Except String Unit := do
  let capability ← expect (getInboundCapability protocol) s!"unsupported inbound protocol: {protocol}"
  let id := trimSpace client.credentialIDValue
  let password := trimSpace client.password
  match capability.credentialType with
  | .uuid => require (isUUID id) s!"{capability.protocol} client requires valid uuid"
  | .password => require (password != "") s!"{capability.protocol} client requires password"
  | .credentialIDPassword =>
      require (isUUID id) s!"{capability.protocol} client requires valid credential_id uuid"
      require (password != "") s!"{capability.protocol} client requires password"
  | .usernamePassword =>
      require (id != "") s!"{capability.protocol} client requires username"
      require (password != "") s!"{capability.protocol} client requires password"
  | .none => pure ()

def ClientCredentials.asClient (credentials : ClientCredentials) : Client :=
  { (default : Client) with
    uuid := credentials.uuid, credentialID := credentials.credentialID, password := credentials.password }

/-- The duplicate checks of `prepareClientForCreate` and `UpdateClient`, over the other rows. -/
def checkClientDuplicates (others : List Client) (inboundID : Int) (email : String)
    (credentials : ClientCredentials) : Except String Unit := do
  require (!others.any fun row => row.inboundID == inboundID && row.email == email)
    s!"duplicate client email: {email}"
  require (!others.any fun row => row.uuid == credentials.uuid)
    s!"duplicate client uuid: {credentials.uuid}"
  require (credentials.credentialID == "" ||
      !others.any fun row => row.credentialID == credentials.credentialID)
    s!"duplicate client credential_id: {credentials.credentialID}"

/-- The first of eight tries that no client has yet. -/
def firstUnused (tries : Nat → String) (used : String → Bool) : Option String :=
  ((List.range 8).map tries).find? fun token => !used token

def newSubscriptionToken (entropy : Entropy) (store : Store) : Except String String :=
  expect (firstUnused (fun i => randomHexToken (entropy.subscriptionTokens i))
      fun token => store.clients.rows.any fun row => row.subscriptionToken == token)
    "could not generate unique subscription token"

def newStatsKey (entropy : Entropy) (store : Store) : Except String String :=
  expect (firstUnused (fun i => "c_" ++ randomHexToken (entropy.statsKeys i))
      fun key => store.clients.rows.any fun row => row.statsKey == key)
    "failed to generate unique stats key"

def clientEmail (email : String) : String :=
  orElse (trimSpace email) "client"

def prepareClientForCreate (entropy : Entropy) (protocol : String) (params : CreateClientParams)
    (store : Store) : Except String Client := do
  let email := clientEmail params.email
  let credentials :=
    normalizeClientCredentials entropy protocol params.uuid params.credentialID params.password
  validateClientCredential protocol credentials.asClient
  checkClientDuplicates store.clients.rows params.inboundID email credentials
  let subscriptionToken ← newSubscriptionToken entropy store
  let statsKey ← newStatsKey entropy store
  pure { credentials.asClient with
    inboundID := params.inboundID, subscriptionToken, statsKey, email
    enabled := params.enabled.getD true, trafficLimit := params.trafficLimit, expiryAt := params.expiryAt }

def createClient (entropy : Entropy) (params : CreateClientParams) (store : Store) :
    Except String (Store × Client) := do
  require (0 < params.inboundID) s!"invalid inbound id: {params.inboundID}"
  let inbound ← getInboundBasic store params.inboundID
  let client ← prepareClientForCreate entropy inbound.protocol params store
  insertClient client store

def deleteClient (id : Int) (store : Store) : Except String Store := do
  require (store.clients.find? id).isSome s!"client not found: {id}"
  pure { store with
    routingRules := store.routingRules.deleteWhere fun rule => rule.clientID == id
    clients := store.clients.deleteWhere fun client => client.id == id }

/-- The credentials an update asks for, those left out taken from the stored client. -/
def updatedClientCredentials (entropy : Entropy) (protocol : String) (params : UpdateClientParams)
    (client : Client) : ClientCredentials :=
  let uuid := firstNonEmpty [params.uuid, client.uuid]
  let credentialID := firstNonEmpty [params.credentialID, client.credentialID, uuid]
  let password := firstNonEmpty [params.password, client.password]
  match (getInboundCapability protocol).map InboundCapability.credentialType with
  | some .uuid => normalizeClientCredentials entropy protocol uuid uuid password
  | some .password =>
      let password :=
        if trimSpace params.password = "" ∧ trimSpace params.uuid ≠ "" then params.uuid else password
      normalizeClientCredentials entropy protocol uuid credentialID password
  | some .credentialIDPassword | some .usernamePassword =>
      let credentialID :=
        if trimSpace params.credentialID = "" ∧ trimSpace params.uuid ≠ "" then params.uuid
        else credentialID
      normalizeClientCredentials entropy protocol uuid credentialID password
  | _ => normalizeClientCredentials entropy protocol uuid credentialID password

/-- The `SET` clause of `UpdateClient`. -/
def updateClientRow (email : String) (credentials : ClientCredentials) (params : UpdateClientParams)
    (client : Client) : Client :=
  { client with
    uuid := credentials.uuid, credentialID := credentials.credentialID, password := credentials.password
    email, enabled := params.enabled, trafficLimit := params.trafficLimit, expiryAt := params.expiryAt }

@[simp] theorem updateClientRow_id (email : String) (credentials : ClientCredentials)
    (params : UpdateClientParams) (client : Client) :
    (updateClientRow email credentials params client).id = client.id := rfl

def renameRuleClient (email : String) (rule : RoutingRule) : RoutingRule :=
  { rule with clientEmail := email }

@[simp] theorem renameRuleClient_id (email : String) (rule : RoutingRule) :
    (renameRuleClient email rule).id = rule.id := rfl

def updateClient (entropy : Entropy) (id : Int) (params : UpdateClientParams) (store : Store) :
    Except String (Store × Client) := do
  let email := clientEmail params.email
  let client ← expect (store.clients.find? id) "sql: no rows in result set"
  let inbound ← getInboundBasic store client.inboundID
  let credentials := updatedClientCredentials entropy inbound.protocol params client
  validateClientCredential inbound.protocol credentials.asClient
  checkClientDuplicates (store.clients.rows.filter fun row => row.id != id) client.inboundID email
    credentials
  let clients := store.clients.modifyWhere (fun row => row.id == id)
    (updateClientRow email credentials params) (updateClientRow_id email credentials params)
  let routingRules :=
    if trimSpace client.email ≠ email then
      store.routingRules.modifyWhere (fun rule => rule.clientID == id) (renameRuleClient email)
        (renameRuleClient_id email)
    else store.routingRules
  pure ({ store with clients, routingRules }, updateClientRow email credentials params client)

def enableClient (enabled : Bool) (client : Client) : Client :=
  { client with enabled }

@[simp] theorem enableClient_id (enabled : Bool) (client : Client) :
    (enableClient enabled client).id = client.id := rfl

def setClientEnabled (inboundID id : Int) (enabled : Bool) (store : Store) :
    Except String (Store × Client) := do
  let client ← expect ((store.clients.find? id).filter fun client => client.inboundID == inboundID)
    s!"client not found: {id}"
  let clients := store.clients.modifyWhere (fun row => row.inboundID == inboundID && row.id == id)
    (enableClient enabled) (enableClient_id enabled)
  pure ({ store with clients }, enableClient enabled client)

end MiGate.Db
