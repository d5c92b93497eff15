import MiGate.Config.ManagementDirect
import MiGate.Db.Inbounds
import MiGate.Db.Outbounds

namespace MiGate.Xray

open Go Db Fallible Config

def systemDirectOutboundTag : String := "migate-system-direct"

structure InboundConfig where
  tag : String
  listen : String
  port : Int
  protocol : String
  settings : List (String × Json)
  streamSettings : List (String × Json)

structure OutboundConfig where
  tag : String
  protocol : String
  settings : List (String × Json)
  streamSettings : List (String × Json)

/-- A routing rule of Xray.  A list without elements is omitted from the file, and the rule
then asks nothing of what the list is about. -/
structure RoutingRule where
  inboundTag : List String
  user : List String
  domain : List String
  ip : List String
  port : String
  protocol : List String
  outboundTag : String
deriving DecidableEq, Repr, Inhabited

structure RoutingConfig where
  domainStrategy : String
  rules : List RoutingRule
deriving DecidableEq, Repr

structure APIConfig where
  tag : String
  services : List String
deriving DecidableEq, Repr

structure Config where
  logLevel : String
  inbounds : List InboundConfig
  outbounds : List OutboundConfig
  routing : Option RoutingConfig
  statsUserUplink : Bool
  statsUserDownlink : Bool
  statsInboundUplink : Bool
  statsInboundDownlink : Bool
  api : APIConfig

def clientStatsName (client : Client) : String :=
  if trimSpace client.statsKey ≠ "" then trimSpace client.statsKey else trimSpace client.email

def clientRouteUser (protocol : String) (client : Client) : String :=
  let token := toLower (trimSpace protocol)
  if token = "socks" ∨ token = "http" then trimSpace client.credentialIDValue
  else clientStatsName client

def enabledClients (clients : List Client) : List Client :=
  clients.filter fun client => client.enabled

def clientsAsIDEmail (clients : List Client) (flow : String) : Json :=
  .array (clients.map fun client =>
    .object ([("id", .string client.credentialIDValue), ("email", .string (clientStatsName client))] ++
      fieldIf (flow ≠ "") "flow" (.string flow)))

def clientsAsAlterIDEmail (clients : List Client) : Json :=
  .array (clients.map fun client =>
    .object [("id", .string client.credentialIDValue), ("email", .string (clientStatsName client)),
      ("alterId", .number 0)])

def clientsAsPasswordEmail (clients : List Client) : Json :=
  .array (clients.map fun client =>
    .object [("password", .string client.passwordValue), ("email", .string (clientStatsName client))])

def clientsAsUserPass (protocol : String) (clients : List Client) : Json :=
  .array (clients.map fun client =>
    .object [("user", .string (clientRouteUser protocol client)), ("pass", .string client.passwordValue)])

def ssInboundPassword (platform : Platform) (method fallback : String) : String :=
  if !hasPrefix method "2022-blake3" then fallback
  else
    let keySize := if contains method "aes-128" then 16 else if contains method "aes-256" then 32 else 16
    let seed := trimSpace fallback
    if seed = "" then fallback
    else encodeBase64Std ((platform.sha256 (method ++ ":" ++ seed)).take keySize)

def splitCSV (value : String) : List String :=
  ((splitOn value ',').map trimSpace).filter fun part => part != ""

def buildTLSSettings (inbound : InboundSettings) : List (String × Json) :=
  fieldIf (inbound.tlsCertFile ≠ "" ∧ inbound.tlsKeyFile ≠ "") "certificates"
      (.array [.object [("certificateFile", .string inbound.tlsCertFile),
        ("keyFile", .string inbound.tlsKeyFile)]]) ++
    fieldIf (inbound.tlsSNI ≠ "") "serverName" (.string inbound.tlsSNI) ++
    fieldIf (inbound.tlsFingerprint ≠ "") "fingerprint" (.string inbound.tlsFingerprint) ++
    fieldIf (inbound.tlsALPN ≠ "" ∧ splitCSV inbound.tlsALPN ≠ []) "alpn"
      (.strings (splitCSV inbound.tlsALPN))

def buildRealitySettings (inbound : InboundSettings) : List (String × Json) :=
  [("show", .bool false), ("dest", .string (orElse inbound.realityDest "www.cloudflare.com:443")),
    ("serverNames", .strings (if inbound.realityServerNames = "" then ["www.cloudflare.com"]
      else splitCSV inbound.realityServerNames)),
    ("shortIds", .strings [inbound.realityShortID])] ++
    fieldIf (inbound.realityPrivateKey ≠ "") "privateKey" (.string inbound.realityPrivateKey) ++
    fieldIf (inbound.tlsFingerprint ≠ "") "fingerprint" (.string inbound.tlsFingerprint)

def buildStreamSettings (inbound : InboundSettings) : List (String × Json) :=
  let network := orElse (toLower (trimSpace inbound.network)) "tcp"
  let security := orElse (toLower (trimSpace inbound.security)) "none"
  [("network", .string network), ("security", .string security)] ++
    fieldIf (network = "ws") "wsSettings" (.object ([("path", .string (orElse inbound.wsPath "/"))] ++
      fieldIf (inbound.wsHost ≠ "") "host" (.string inbound.wsHost))) ++
    fieldIf (network = "h2") "httpSettings" (.object ([("path", .string (orElse inbound.wsPath "/"))] ++
      fieldIf (inbound.wsHost ≠ "") "host" (.strings (splitCSV inbound.wsHost)))) ++
    fieldIf (network = "grpc") "grpcSettings"
      (.object [("serviceName", .string (orElse inbound.grpcServiceName "migate"))]) ++
    fieldIf (network = "xhttp") "xhttpSettings"
      (.object [("path", .string (orElse inbound.xhttpPath "/")),
        ("mode", .string (orElse inbound.xhttpMode "stream-one"))]) ++
    fieldIf (security = "reality") "realitySettings" (.object (buildRealitySettings inbound)) ++
    fieldIf (security = "tls" ∧ (buildTLSSettings inbound).length ≠ 0) "tlsSettings"
      (.object (buildTLSSettings inbound))

/-- The settings and the transport of an inbound, by its protocol. -/
def buildInboundSettings (platform : Platform) (protocol : String) (inbound : Inbound) :
    Option (List (String × Json) × List (String × Json)) :=
  let clients := enabledClients inbound.clients
  let stream := buildStreamSettings inbound.toInboundSettings
  if protocol = "vless" then
    let flow :=
      if toLower (trimSpace inbound.security) = "reality" ∧ toLower (trimSpace inbound.network) ≠ "xhttp" then
        "xtls-rprx-vision"
      else ""
    some ([("clients", clientsAsIDEmail clients flow), ("decryption", .string "none")], stream)
  else if protocol = "vmess" then some ([("clients", clientsAsAlterIDEmail clients)], stream)
  else if protocol = "trojan" then some ([("clients", clientsAsPasswordEmail clients)], stream)
  else if protocol = "shadowsocks" then
    let ssMethod := orElse inbound.ssMethod "2022-blake3-aes-128-gcm"
    some ([("method", .string ssMethod),
      ("password", .string (ssInboundPassword platform ssMethod inbound.uuid))], stream)
  else if protocol = "socks" then
    some ([("auth", .string "password"), ("accounts", clientsAsUserPass protocol clients),
      ("udp", .bool true)], [])
  else if protocol = "http" then some ([("accounts", clientsAsUserPass protocol clients)], [])
  else none

def buildInbound (platform : Platform) (inbound : Inbound) : Except String InboundConfig := do
  let protocol := toLower (trimSpace inbound.protocol)
  require (0 < inbound.port && inbound.port ≤ 65535) s!"invalid inbound port: {inbound.port}"
  let (settings, streamSettings) ← expect (buildInboundSettings platform protocol inbound)
    s!"unsupported protocol: {inbound.protocol}"
  pure { tag := generatedInboundTag inbound.toInboundRow, listen := "0.0.0.0", port := inbound.port
         protocol, settings, streamSettings }

/-- The inbounds a core's generator looks at. -/
def servedInbounds (core : String) (inbounds : List Inbound) : List Inbound :=
  inbounds.filter (inboundServes core)

def parseOutboundSettings (platform : Platform) (raw : String) : OutboundSettings :=
  if trimSpace raw = "" then default else platform.unmarshalOutboundSettings (trimSpace raw)

/-- The security of an outbound, told by its flags where it is not named. -/
def outboundSecurity (settings : OutboundSettings) : String :=
  let security := toLower (trimSpace settings.security)
  if security = "" then if settings.reality then "reality" else if settings.tls then "tls" else "" else security

def buildOutboundTLS (settings : OutboundSettings) : List (String × Json) :=
  fieldIf (settings.sni ≠ "") "serverName" (.string settings.sni) ++
    fieldIf (settings.fingerprint ≠ "") "fingerprint" (.string settings.fingerprint) ++
    fieldIf (settings.alpn ≠ []) "alpn" (.strings settings.alpn) ++
    fieldIf (settings.allowInsecure = true) "allowInsecure" (.bool true)

def buildOutboundReality (settings : OutboundSettings) : List (String × Json) :=
  fieldIf (settings.sni ≠ "") "serverName" (.string settings.sni) ++
    fieldIf (settings.fingerprint ≠ "") "fingerprint" (.string settings.fingerprint) ++
    fieldIf (settings.publicKey ≠ "") "publicKey" (.string settings.publicKey) ++
    fieldIf (settings.shortID ≠ "") "shortId" (.string settings.shortID)

/-- A nested object that is left out when it has no fields. -/
def objectIf (condition : Prop) [Decidable condition] (key : String) (fields : List (String × Json)) :
    List (String × Json) :=
  fieldIf (condition ∧ fields.length ≠ 0) key (.object fields)

def buildOutboundStreamSettings (settings : OutboundSettings) : List (String × Json) :=
  let security := outboundSecurity settings
  let named := toLower (trimSpace settings.network)
  if named = "" ∧ security = "" then []
  else
    let network := orElse named "tcp"
    [("network", .string network)] ++
      fieldIf (security ≠ "" ∧ security ≠ "none") "security" (.string security) ++
      objectIf (network = "ws" ∨ network = "websocket") "wsSettings"
        (fieldIf (settings.path ≠ "") "path" (.string settings.path) ++
          fieldIf (settings.host ≠ "") "headers" (.object [("Host", .string settings.host)])) ++
      objectIf (network = "grpc") "grpcSettings"
        (fieldIf (settings.serviceName ≠ "") "serviceName" (.string settings.serviceName)) ++
      objectIf (security = "tls") "tlsSettings" (buildOutboundTLS settings) ++
      objectIf (security = "reality") "realitySettings" (buildOutboundReality settings)

def buildServer (ob : Outbound) (fields : List (String × Json)) : Json :=
  .array [.object ([("address", .string ob.address), ("port", .number ob.port)] ++ fields)]

/-- The one server of a SOCKS or HTTP outbound, with its user if it has one. -/
def buildProxyServer (ob : Outbound) : Json :=
  let user := trimSpace ob.username
  buildServer ob (fieldIf (user ≠ "") "users" (.array [.object ([("user", .string user)] ++
    fieldIf (ob.password ≠ "") "pass" (.string ob.password))]))

/-- The protocol, settings and transport of an outbound, by its normalized protocol. -/
def buildOutboundSettings (platform : Platform) (protocol : String) (ob : Outbound) :
    Option (String × List (String × Json) × List (String × Json)) :=
  let settings := parseOutboundSettings platform ob.settingsJSON
  if protocol = "freedom" then some ("freedom", [], [])
  else if protocol = "blackhole" then some ("blackhole", [], [])
  else if protocol = "dns" then some ("dns", [], [])
  else if protocol = "socks" then some ("socks", [("servers", buildProxyServer ob)], [])
  else if protocol = "http" ∨ protocol = "https" then some ("http", [("servers", buildProxyServer ob)], [])
  else if protocol = "vless" then
    let flow := trimSpace settings.flow
    let user := Json.object ([("id", .string (trimSpace ob.username)), ("encryption", .string "none")] ++
      fieldIf (flow ≠ "") "flow" (.string flow))
    some ("vless", [("vnext", buildServer ob [("users", .array [user])])],
      buildOutboundStreamSettings settings)
  else if protocol = "trojan" then
    some ("trojan", [("servers", buildServer ob
      [("password", .string (firstNonEmpty [ob.password, ob.username]))])],
      buildOutboundStreamSettings settings)
  else if protocol = "shadowsocks" then
    some ("shadowsocks", [("servers", buildServer ob
      [("method", .string (firstNonEmpty [ob.username, settings.method, "aes-128-gcm"])),
        ("password", .string ob.password)])],
      buildOutboundStreamSettings settings)
  else none

def buildOutbound (platform : Platform) (ob : Outbound) : Except String OutboundConfig := do
  let tag := generatedOutboundTag coreXray ob.id ob.tag
  validateOutboundProfile ob
  let (protocol, settings, streamSettings) ←
    expect (buildOutboundSettings platform (normalizeOutboundProtocol ob.protocol) ob)
      s!"unsupported outbound protocol: {ob.protocol}"
  pure { tag, protocol, settings, streamSettings }

def freedomOutbound (tag : String) : OutboundConfig :=
  { tag, protocol := "freedom", settings := [], streamSettings := [] }

def joinPorts (ports : List Int) : String :=
  join (ports.map itoa) ","

def systemRoutingRules (platform : Platform) (opts : ManagementDirectOptions) : List RoutingRule :=
  systemRules (managementDirect platform opts)
    (fun ip ports => { (default : RoutingRule) with
      ip, port := joinPorts ports, outboundTag := systemDirectOutboundTag })
    (fun domain ports => { (default : RoutingRule) with
      domain, port := joinPorts ports, outboundTag := systemDirectOutboundTag })

/-- The maps the rule loop resolves a rule's client and inbound through. -/
structure RuleMaps where
  inboundTagsByID : Int → Option String
  inboundTagAliases : String → Option String
  clientsByID : Int → Option (Client × String)

def ruleMaps (inbounds : List Inbound) : RuleMaps :=
  let served := servedInbounds coreXray inbounds
  { inboundTagsByID := lastWrite (served.map fun inbound =>
      (inbound.id, generatedInboundTag inbound.toInboundRow))
    inboundTagAliases := lastWrite (served.flatMap fun inbound =>
      let actualTag := generatedInboundTag inbound.toInboundRow
      (if trimSpace inbound.remark ≠ "" then [(trimSpace inbound.remark, actualTag)] else []) ++
        [(actualTag, actualTag)])
    clientsByID := lastWrite (served.flatMap fun inbound =>
      (enabledClients inbound.clients).map fun client =>
        (client.id, client, toLower (trimSpace inbound.protocol))) }

/-- The users a rule is confined to, or nothing if the rule has to be left out. -/
def ruleUsers (maps : RuleMaps) (rule : Db.RoutingRule) : Option (List String) :=
  if 0 < rule.clientID then do
    let (client, protocol) ← maps.clientsByID rule.clientID
    let routeUser := clientRouteUser protocol client
    if trimSpace routeUser = "" then none else some [routeUser]
  else some []

/-- The inbounds a rule is confined to, or nothing if the rule has to be left out. -/
def ruleInbounds (byID : Int → Option String) (aliases : String → Option String)
    (rule : Db.RoutingRule) : Option (List String) :=
  if 0 < rule.inboundID then (byID rule.inboundID).map fun actual => [actual]
  else if trimSpace rule.inboundTag ≠ "" then
    (aliases (trimSpace rule.inboundTag)).map fun actual => [actual]
  else some []

/-- One turn of the rule loop: the rule it appends, if it does. -/
def buildRule (maps : RuleMaps) (inbounds : List Inbound) (outbounds : List Outbound)
    (rule : Db.RoutingRule) : Except String (Option RoutingRule) :=
  if !rule.enabled || !routingRuleAppliesToCore rule inbounds coreXray then pure none
  else do
    let outbound ← expect (resolveRuleOutbound rule outbounds)
      s!"routing rule {rule.id} targets missing outbound profile"
    require (outboundSupportsCore outbound coreXray)
      s!"routing rule {rule.id} targets outbound {quote outbound.tag} that does not support xray"
    pure do
      let user ← ruleUsers maps rule
      let inboundTag ← ruleInbounds maps.inboundTagsByID maps.inboundTagAliases rule
      some { inboundTag, user, port := ""
             domain := if rule.domain ≠ "" then splitRuleValues rule.domain else []
             ip := if rule.ip ≠ "" then splitRuleValues rule.ip else []
             protocol := if rule.protocol ≠ "" then splitRuleValues rule.protocol else []
             outboundTag := generatedOutboundTag coreXray outbound.id rule.outboundTag }

def apiRule : RoutingRule :=
  { (default : RoutingRule) with inboundTag := ["api"], outboundTag := "api" }

def apiInbound : InboundConfig where
  tag := "api"
  listen := "127.0.0.1"
  port := 10085
  protocol := "dokodemo-door"
  settings := [("address", .string "127.0.0.1")]
  streamSettings := []

def appendStatsAPIInbound (config : Config) : Config :=
  let routing := config.routing.getD { domainStrategy := "AsIs", rules := [] }
  { config with
    inbounds := config.inbounds ++ [apiInbound]
    routing := some { routing with rules := apiRule :: routing.rules } }

def buildOutbounds (platform : Platform) (outbounds : List Outbound) : Except String (List OutboundConfig) := do
  let built ← (outbounds.filter fun ob => ob.enabled && outboundSupportsCore ob coreXray).mapM
    (buildOutbound platform)
  pure (if built.isEmpty then [freedomOutbound "xray-out-0"] else built)

def buildConfigWithOutboundsOptions (platform : Platform) (inbounds : List Inbound)
    (outbounds : List Outbound) (routingRules : List Db.RoutingRule) (opts : ManagementDirectOptions) :
    Except String Config := do
  let builtInbounds ← (servedInbounds coreXray inbounds).mapM (buildInbound platform)
  let builtOutbounds ← buildOutbounds platform outbounds
  let system := systemRoutingRules platform opts
  let builtOutbounds :=
    if system.isEmpty then builtOutbounds
    else ensureSystemOutbound OutboundConfig.tag (freedomOutbound systemDirectOutboundTag) builtOutbounds
  let emitted ← routingRules.mapM (buildRule (ruleMaps inbounds) inbounds outbounds)
  let rules := system ++ emitted.filterMap id
  pure (appendStatsAPIInbound
    { logLevel := "warning", inbounds := builtInbounds, outbounds := builtOutbounds
      routing := if rules.isEmpty then none else some { domainStrategy := "AsIs", rules }
      statsUserUplink := true, statsUserDownlink := true
      statsInboundUplink := true, statsInboundDownlink := true
      api := { tag := "api", services := ["StatsService"] } })

def buildConfigWithOutbounds (platform : Platform) (inbounds : List Inbound) (outbounds : List Outbound)
    (routingRules : List Db.RoutingRule) : Except String Config :=
  buildConfigWithOutboundsOptions platform inbounds outbounds routingRules default

end MiGate.Xray
