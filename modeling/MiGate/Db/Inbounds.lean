import MiGate.Db.Clients

namespace MiGate.Db

open Go Fallible

def autoInboundPortMin : Int := 20000

def autoInboundPortMax : Int := 60000

def findInboundByPort (port excludeID : Int) (store : Store) : Option InboundRow :=
  if port ≤ 0 then none
  else store.inbounds.rows.find? fun row => row.port == port && row.id != excludeID

def allocateInboundPort (platform : Platform) (entropy : Entropy) (excludeID : Int) (store : Store) :
    Except String Int :=
  let portCount := (autoInboundPortMax - autoInboundPortMin + 1).toNat
  let start := entropy.inboundPort % portCount
  let ports := (List.range portCount).map fun step => autoInboundPortMin + ((start + step) % portCount : Nat)
  expect (ports.find? fun port =>
      (findInboundByPort port excludeID store).isNone && platform.inboundPortAvailable port)
    s!"no available inbound port in range {autoInboundPortMin}-{autoInboundPortMax}"

/-- The port asked for, or a free one if none is. -/
def chooseInboundPort (platform : Platform) (entropy : Entropy) (excludeID port : Int) (store : Store) :
    Except String Int :=
  if port = 0 then allocateInboundPort platform entropy excludeID store else pure port

def generateRealityKeyPair (platform : Platform) (entropy : Entropy) : Except String (String × String) := do
  let publicBytes ← platform.x25519 entropy.realityPrivateKey.toList
  pure (encodeBase64RawURL entropy.realityPrivateKey.toList, encodeBase64RawURL publicBytes)

/-- The public key of a private one, or nothing where the source reports an error. -/
def deriveRealityPublicKey (platform : Platform) (privateKey : String) : Option String := do
  let privateBytes ← decodeBase64RawURL (trimSpace privateKey)
  if privateBytes.length ≠ 32 then none
  else
    match platform.x25519 privateBytes with
    | .ok publicBytes => some (encodeBase64RawURL publicBytes)
    | .error _ => none

def generateRealityKeys (platform : Platform) (entropy : Entropy) (settings : InboundSettings) :
    Except String InboundSettings := do
  let (privateKey, publicKey) ← generateRealityKeyPair platform entropy
  pure { settings with realityPrivateKey := privateKey, realityPublicKey := publicKey }

/-- The keys are generated where they are missing, or the public one does not follow. -/
def completeRealityKeys (platform : Platform) (entropy : Entropy) (settings : InboundSettings) :
    Except String InboundSettings :=
  if trimSpace settings.realityPrivateKey = "" then generateRealityKeys platform entropy settings
  else if trimSpace settings.realityPublicKey = "" then
    match deriveRealityPublicKey platform settings.realityPrivateKey with
    | some publicKey => pure { settings with realityPublicKey := publicKey }
    | none => generateRealityKeys platform entropy settings
  else pure settings

def completeRealityMaterial (platform : Platform) (entropy : Entropy) (settings : InboundSettings) :
    Except String InboundSettings := do
  let settings ← completeRealityKeys platform entropy settings
  if trimSpace settings.realityShortID = "" then
    pure { settings with realityShortID := newSecret entropy.realityShortID }
  else pure settings

def defaultRealityTarget (settings : InboundSettings) : InboundSettings :=
  { settings with
    realityDest :=
      if trimSpace settings.realityDest = "" then "www.cloudflare.com:443" else settings.realityDest
    realityServerNames :=
      if trimSpace settings.realityServerNames = "" then "www.cloudflare.com"
      else settings.realityServerNames }

def prepareCreateInboundRealityMaterial (platform : Platform) (entropy : Entropy) (security : String)
    (settings : InboundSettings) : Except String InboundSettings :=
  if toLower (trimSpace security) ≠ "reality" then pure settings
  else completeRealityMaterial platform entropy (defaultRealityTarget settings)

/-- The keys an update leaves out are the stored ones. -/
def keepRealityMaterial (existing : Option InboundRow) (settings : InboundSettings) : InboundSettings :=
  match existing with
  | none => settings
  | some row =>
      { settings with
        realityPrivateKey :=
          if trimSpace settings.realityPrivateKey = "" then row.realityPrivateKey
          else settings.realityPrivateKey
        realityPublicKey :=
          if trimSpace settings.realityPublicKey = "" then row.realityPublicKey
          else settings.realityPublicKey
        realityShortID :=
          if trimSpace settings.realityShortID = "" then row.realityShortID
          else settings.realityShortID }

def prepareUpdateInboundRealityMaterial (platform : Platform) (entropy : Entropy) (id : Int)
    (security : String) (settings : InboundSettings) (store : Store) : Except String InboundSettings :=
  if toLower (trimSpace security) ≠ "reality" then pure settings
  else completeRealityMaterial platform entropy
    (keepRealityMaterial (store.inbounds.find? id) (defaultRealityTarget settings))

def insertInbound (entropy : Entropy) (row : InboundRow) (store : Store) :
    Except String (Store × InboundRow) := do
  let uuid := orElse (trimSpace row.uuid) (newUUID entropy.inboundUUID)
  require (!store.inbounds.rows.any fun other => other.uuid == uuid) (uniqueConstraintFailed "inbounds.uuid")
  require (!store.inbounds.rows.any fun other => other.port == row.port)
    (uniqueConstraintFailed "inbounds.port")
  pure ({ store with inbounds := store.inbounds.insert (fun id => { row with id, uuid }) fun _ => rfl },
    { row with id := store.inbounds.next, uuid })

def CreateInboundParams.prepare (platform : Platform) (entropy : Entropy) (params : CreateInboundParams)
    (store : Store) : Except String InboundRow := do
  let protocol := normalizeInboundProtocol params.protocol
  require (supportedInboundProtocol protocol) s!"unsupported protocol: {params.protocol}"
  let core := inferInboundCore protocol
  let port ← chooseInboundPort platform entropy 0 params.port store
  require (0 < port && port ≤ 65535) s!"invalid port: {params.port}"
  let network := normalizeInboundNetwork protocol params.network
  let security := normalizeInboundSecurity protocol params.security
  let settings ← prepareCreateInboundRealityMaterial platform entropy security params.toInboundSettings
  let remark := orElse (trimSpace params.remark) protocol
  let row : InboundRow :=
    { settings with remark, protocol, port, network, security, id := 0, core, enabled := true }
  validateInboundCombination row
  pure row

def createInbound (platform : Platform) (entropy : Entropy) (params : CreateInboundParams)
    (store : Store) : Except String (Store × Inbound) := do
  let row ← params.prepare platform entropy store
  match params.initialClient with
  | none =>
      let (store, row) ← insertInbound entropy row store
      pure (store, { row with clients := [] })
  | some initialClient =>
      let prepared ←
        prepareClientForCreate entropy row.protocol { initialClient with inboundID := 0 } store
      let (store, row) ← insertInbound entropy row store
      let (store, client) ← insertClient { prepared with inboundID := row.id } store
      pure (store, { row with clients := [client] })

/-- SQLite's `TRIM`, which strips spaces only. -/
def sqlTrim (text : String) : String :=
  String.ofList (trimList (· == ' ') text.toList)

def generatedTagOf (id : Int) (protocol : String) : String :=
  "inbound-" ++ itoa id ++ "-" ++ toLower (trimSpace protocol)

/-- Which rules go when an inbound is deleted: those the statements name, and those the
foreign keys cascade to. -/
def ruleGoesWithInbound (inbound : InboundRow) (clients : List Client) (rule : RoutingRule) : Bool :=
  clients.any (fun client => client.inboundID == inbound.id && client.id == rule.clientID) ||
    rule.inboundTag == generatedTagOf inbound.id inbound.protocol ||
    (sqlTrim inbound.remark != "" && rule.inboundTag == sqlTrim inbound.remark) ||
    rule.inboundID == inbound.id

def deleteInbound (id : Int) (store : Store) : Except String Store := do
  let inbound ← expect (store.inbounds.find? id) s!"inbound not found: {id}"
  pure { store with
    routingRules := store.routingRules.deleteWhere (ruleGoesWithInbound inbound store.clients.rows)
    clients := store.clients.deleteWhere fun client => client.inboundID == id
    inbounds := store.inbounds.deleteWhere fun row => row.id == id }

def validateExistingClient (targetProtocol : String) (client : Client) : Except String Unit :=
  match validateClientCredential targetProtocol client with
  | .ok () => .ok ()
  | .error error =>
      let label := orElse (trimSpace client.email) s!"client-{client.id}"
      .error s!"cannot change inbound protocol to {targetProtocol}: client {label} has incompatible credentials: {error}"

def validateExistingClientsForProtocolChange (inboundID : Int) (targetProtocol : String) (store : Store) :
    Except String Unit :=
  (store.clients.rows.filter fun client => client.inboundID == inboundID).foldlM
    (fun _ client => validateExistingClient targetProtocol client) ()

/-- The `SET` clause of `UpdateInbound`. -/
def updateInboundRow (settings : InboundSettings) (core : String) (enabled : Bool) (row : InboundRow) :
    InboundRow :=
  { settings with id := row.id, core, enabled }

@[simp] theorem updateInboundRow_id (settings : InboundSettings) (core : String) (enabled : Bool)
    (row : InboundRow) : (updateInboundRow settings core enabled row).id = row.id := rfl

def retagRule (tag : String) (rule : RoutingRule) : RoutingRule :=
  { rule with inboundTag := tag }

@[simp] theorem retagRule_id (tag : String) (rule : RoutingRule) : (retagRule tag rule).id = rule.id := rfl

/-- Points the rules tagged `old` at `new`. -/
def retagRules (applies : Bool) (old new : String) (rules : Relational.Serial RoutingRule.id) :
    Relational.Serial RoutingRule.id :=
  if applies then
    rules.modifyWhere (fun rule => rule.inboundTag == old) (retagRule new) (retagRule_id new)
  else rules

def UpdateInboundParams.prepare (platform : Platform) (entropy : Entropy) (id : Int)
    (params : UpdateInboundParams) (store : Store) : Except String InboundRow := do
  let remark := trimSpace params.remark
  require (remark != "") "remark cannot be empty"
  let port ← chooseInboundPort platform entropy id params.port store
  require (0 < port && port ≤ 65535) s!"invalid port: {params.port}"
  let protocol := orElse (normalizeInboundProtocol params.protocol) "vless"
  require (supportedInboundProtocol protocol) s!"unsupported protocol: {params.protocol}"
  let core := inferInboundCore protocol
  let network := normalizeInboundNetwork protocol params.network
  let security := normalizeInboundSecurity protocol params.security
  let settings ←
    prepareUpdateInboundRealityMaterial platform entropy id security params.toInboundSettings store
  let row : InboundRow :=
    { settings with remark, protocol, port, network, security, id, core, enabled := params.enabled }
  validateInboundCombination row
  let uuid :=
    match store.inbounds.find? id with
    | some existing => orElse params.uuid existing.uuid
    | none => params.uuid
  pure { row with uuid }

def updateInbound (platform : Platform) (entropy : Entropy) (id : Int) (params : UpdateInboundParams)
    (store : Store) : Except String (Store × Inbound) := do
  let row ← params.prepare platform entropy id store
  let old ← expect (store.inbounds.find? id) s!"inbound not found: {id}"
  onlyIf (normalizeInboundProtocol old.protocol ≠ row.protocol)
    (validateExistingClientsForProtocolChange id row.protocol store)
  let oldRemark := trimSpace old.remark
  let oldRemarkMatches := (store.inbounds.rows.filter fun other => sqlTrim other.remark == oldRemark).length
  require (!store.inbounds.rows.any fun other => other.id != id && other.uuid == row.uuid)
    (uniqueConstraintFailed "inbounds.uuid")
  require (!store.inbounds.rows.any fun other => other.id != id && other.port == row.port)
    (uniqueConstraintFailed "inbounds.port")
  let oldGeneratedTag := generatedTagOf id old.protocol
  let newGeneratedTag := "inbound-" ++ itoa id ++ "-" ++ row.protocol
  let routingRules :=
    retagRules (oldGeneratedTag != newGeneratedTag) oldGeneratedTag newGeneratedTag store.routingRules
  let routingRules :=
    retagRules (oldRemark != "" && oldRemark != row.remark && oldRemarkMatches == 1) oldRemark row.remark
      routingRules
  let inbounds := store.inbounds.modifyWhere (fun other => other.id == id)
    (updateInboundRow row.toInboundSettings row.core row.enabled)
    (updateInboundRow_id row.toInboundSettings row.core row.enabled)
  pure ({ store with inbounds, routingRules }, { loadInbound row with clients := [] })

def enableInbound (enabled : Bool) (row : InboundRow) : InboundRow :=
  { row with enabled }

@[simp] theorem enableInbound_id (enabled : Bool) (row : InboundRow) :
    (enableInbound enabled row).id = row.id := rfl

def setInboundEnabled (id : Int) (enabled : Bool) (store : Store) : Except String (Store × Inbound) := do
  let row ← expect (store.inbounds.find? id) s!"inbound not found: {id}"
  let inbounds := store.inbounds.modifyWhere (fun row => row.id == id) (enableInbound enabled)
    (enableInbound_id enabled)
  pure ({ store with inbounds }, { loadInbound (enableInbound enabled row) with clients := [] })

def listInbounds (store : Store) : List Inbound :=
  store.inbounds.rows.map fun row =>
    { loadInbound row with clients := store.clients.rows.filter fun client => client.inboundID == row.id }

/-- The columns of a certificate that `ApplyCertificateToInbounds` reads. -/
structure Certificate where
  domains : List String
  certPath : String
  keyPath : String
deriving DecidableEq, Repr

def shouldSyncCertificateWSHost (network wsHost oldSNI : String) : Bool :=
  let normalizedNetwork := toLower (trimSpace network)
  let currentHost := trimSpace wsHost
  (normalizedNetwork == "ws" || normalizedNetwork == "h2") &&
    (currentHost == "" || currentHost == "example.com" ||
      (trimSpace oldSNI != "" && currentHost == trimSpace oldSNI))

/-- The `SET` clause of `ApplyCertificateToInbounds`. -/
def certifyInbound (cert : Certificate) (row : InboundRow) : InboundRow :=
  let nextSNI := orElse (cert.domains.head?.getD "") (trimSpace row.tlsSNI)
  { row with
    tlsCertFile := cert.certPath, tlsKeyFile := cert.keyPath, tlsSNI := nextSNI
    wsHost :=
      if nextSNI ≠ "" ∧ shouldSyncCertificateWSHost row.network row.wsHost row.tlsSNI then nextSNI
      else row.wsHost }

@[simp] theorem certifyInbound_id (cert : Certificate) (row : InboundRow) :
    (certifyInbound cert row).id = row.id := rfl

def applyCertificateToInbound (cert : Certificate) (done : Store × List Inbound) (id : Int) :
    Except String (Store × List Inbound) := do
  require (0 < id) s!"invalid inbound id: {id}"
  let existing ← expect (done.1.inbounds.find? id) s!"inbound not found: {id}"
  require (normalizeInboundSecurity existing.protocol existing.security == "tls")
    s!"inbound {id} is not a TLS inbound"
  let inbounds := done.1.inbounds.modifyWhere (fun row => row.id == id) (certifyInbound cert)
    (certifyInbound_id cert)
  pure ({ done.1 with inbounds },
    done.2 ++ [{ certifyInbound cert (loadInbound existing) with clients := [] }])

def applyCertificateToInbounds (cert : Certificate) (inboundIDs : List Int) (store : Store) :
    Except String (Store × List Inbound) :=
  inboundIDs.foldlM (applyCertificateToInbound cert) (store, [])

end MiGate.Db
