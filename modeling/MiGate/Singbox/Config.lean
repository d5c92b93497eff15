import MiGate.Xray.Config

namespace MiGate.Singbox

open Go Db Fallible Config

def systemDirectOutboundTag : String := "migate-system-direct"

def certFile : String := "/etc/migate/cores/sing-box-server.crt"

def keyFile : String := "/etc/migate/cores/sing-box-server.key"

def sbBasePort : Int := 21000

def sbMaxPort : Int := 21999

structure HandshakeConfig where
  server : String
  serverPort : Int
deriving DecidableEq, Repr

structure UserConfig where
  name : String
  password : String
  uuid : String
deriving DecidableEq, Repr

structure ObfsConfig where
  type : String
  password : String
deriving DecidableEq, Repr

structure RealityConfig where
  publicKey : String
  shortID : String
deriving DecidableEq, Repr

/-- A `tls` section, which is always enabled where it stands. -/
structure TLSConfig where
  certificatePath : String
  keyPath : String
  serverName : String
  alpn : List String
  utlsFingerprint : Option String
  reality : Option RealityConfig
  insecure : Bool
deriving DecidableEq, Repr, Inhabited

structure InboundConfig where
  type : String
  tag : String
  listen : String
  listenPort : Int
  upMbps : Int
  downMbps : Int
  tls : Option TLSConfig
  users : List UserConfig
  obfs : Option ObfsConfig
  congestionControl : String
  zeroRTTHandshake : Bool
  version : Int
  handshake : Option HandshakeConfig
deriving DecidableEq, Repr, Inhabited

structure TransportConfig where
  type : String
  path : String
  host : Option String
  serviceName : String
deriving DecidableEq, Repr

structure OutboundConfig where
  type : String
  tag : String
  server : String
  serverPort : Int
  username : String
  password : String
  method : String
  uuid : String
  flow : String
  tls : Option TLSConfig
  transport : Option TransportConfig
deriving DecidableEq, Repr, Inhabited

/-- A route rule of sing-box; a list without elements is omitted from the file. -/
structure RouteRule where
  inbound : List String
  domain : List String
  ipCIDR : List String
  port : List Int
  protocol : List String
  outbound : String
deriving DecidableEq, Repr, Inhabited

structure StatsAPIConfig where
  inbounds : List String
  users : List String
deriving DecidableEq, Repr

structure Config where
  logLevel : String
  inbounds : List InboundConfig
  outbounds : List OutboundConfig
  route : Option (List RouteRule)
  v2rayAPIStats : Option StatsAPIConfig
deriving DecidableEq, Repr

structure BuildOptions where
  enableV2RayAPIStats : Bool
  managementDirect : ManagementDirectOptions
deriving Inhabited

def inboundStatsTag (inbound : InboundRow) : String :=
  let protocol := toLower (trimSpace inbound.protocol)
  if protocol = "hysteria2" then "hy2-inbound-" ++ itoa inbound.id
  else if protocol = "tuic" then "tuic-inbound-" ++ itoa inbound.id
  else if protocol = "shadowtls" then "shadowtls-inbound-" ++ itoa inbound.id
  else "inbound-" ++ itoa inbound.id ++ "-" ++ protocol

def userStatsKey (client : Client) : String :=
  if trimSpace client.statsKey ≠ "" then trimSpace client.statsKey else trimSpace client.email

def enabledClients (clients : List Client) : List Client :=
  clients.filter fun client => client.enabled

def nextPort (count : Int) : Int :=
  if sbBasePort + count > sbMaxPort then sbMaxPort else sbBasePort + count

/-- A UUID made of the first bytes of a hash, printed byte by byte. -/
def uuidOfHash (bytes : List UInt8) : String :=
  let bytes := (bytes.take 16).zipIdx.map fun (byte, i) =>
    if i = 6 then (byte &&& 0x0f) ||| 0x40 else if i = 8 then (byte &&& 0x3f) ||| 0x80 else byte
  let part := fun (first count : Nat) => encodeHex ((bytes.drop first).take count)
  part 0 4 ++ "-" ++ part 4 2 ++ "-" ++ part 6 2 ++ "-" ++ part 8 2 ++ "-" ++ part 10 6

def stableTUICUUID (platform : Platform) (seed : String) : String :=
  let seed := trimSpace seed
  if hasUUIDShape seed.toList then seed else uuidOfHash (platform.sha256 seed)

def selfSignedTLS : TLSConfig :=
  { (default : TLSConfig) with certificatePath := certFile, keyPath := keyFile }

def withCertificate (condition : Prop) [Decidable condition] (inbound : InboundSettings) (tls : TLSConfig) :
    TLSConfig :=
  if condition then { tls with certificatePath := inbound.tlsCertFile, keyPath := inbound.tlsKeyFile }
  else tls

def buildHysteria2 (platform : Platform) (port : Int) (inbound : Inbound) : InboundConfig :=
  { (default : InboundConfig) with
    type := "hysteria2", tag := inboundStatsTag inbound.toInboundRow, listen := "0.0.0.0", listenPort := port
    upMbps := inbound.hy2UpMbps, downMbps := inbound.hy2DownMbps
    users := (enabledClients inbound.clients).map fun client =>
      ⟨userStatsKey client, client.passwordValue, ""⟩
    obfs := if inbound.hy2Obfs ≠ "" then some ⟨inbound.hy2Obfs, inbound.hy2ObfsPassword⟩ else none
    tls :=
      if inbound.security = "tls" then
        let files := inbound.tlsCertFile ≠ "" ∧ inbound.tlsKeyFile ≠ "" ∧
          platform.fileExists inbound.tlsCertFile ∧ platform.fileExists inbound.tlsKeyFile
        some { withCertificate files inbound.toInboundSettings selfSignedTLS with serverName := inbound.tlsSNI }
      else some selfSignedTLS }

def buildTUIC (platform : Platform) (port : Int) (inbound : Inbound) : InboundConfig :=
  { (default : InboundConfig) with
    type := "tuic", tag := inboundStatsTag inbound.toInboundRow, listen := "0.0.0.0", listenPort := port
    congestionControl := orElse inbound.tuicCongestionControl "bbr"
    zeroRTTHandshake := inbound.tuicZeroRTT
    users := (enabledClients inbound.clients).map fun client =>
      ⟨userStatsKey client, client.passwordValue, stableTUICUUID platform client.credentialIDValue⟩
    tls := some { withCertificate (inbound.tlsCertFile ≠ "" ∧ inbound.tlsKeyFile ≠ "")
      inbound.toInboundSettings selfSignedTLS with serverName := inbound.tlsSNI } }

def buildShadowTLS (port : Int) (inbound : Inbound) : InboundConfig :=
  { (default : InboundConfig) with
    type := "shadowtls", tag := inboundStatsTag inbound.toInboundRow, listen := "0.0.0.0", listenPort := port
    version := if inbound.shadowTLSVersion ≠ 0 then inbound.shadowTLSVersion else 3
    handshake := if inbound.tlsSNI ≠ "" then some ⟨inbound.tlsSNI, 443⟩ else none
    users := (enabledClients inbound.clients).map fun client =>
      ⟨userStatsKey client, client.passwordValue, ""⟩ }

/-- One turn of the inbound loop, with the position of the inbound in the list. -/
def buildInbound (platform : Platform) (inbound : Inbound) (i : Nat) : Option InboundConfig :=
  if !inboundServes coreSingbox inbound then none
  else
    let port := if inbound.port ≤ 0 then nextPort i else inbound.port
    if inbound.protocol = "hysteria2" then some (buildHysteria2 platform port inbound)
    else if inbound.protocol = "tuic" then some (buildTUIC platform port inbound)
    else if inbound.protocol = "shadowtls" then some (buildShadowTLS port inbound)
    else none

def buildConfigWithOptions (platform : Platform) (inbounds : List Inbound) (opts : BuildOptions) : Config :=
  let built := inbounds.zipIdx.filterMap fun (inbound, i) => buildInbound platform inbound i
  { logLevel := "warn", inbounds := built
    outbounds := [{ (default : OutboundConfig) with type := "direct", tag := "direct" }], route := none
    v2rayAPIStats :=
      if opts.enableV2RayAPIStats then
        some ⟨built.map InboundConfig.tag, built.flatMap fun config => config.users.map UserConfig.name⟩
      else none }

def outboundTLS (settings : OutboundSettings) : Option TLSConfig :=
  let security := Xray.outboundSecurity settings
  if security = "tls" ∨ security = "reality" then
    some { (default : TLSConfig) with
      serverName := settings.sni, alpn := settings.alpn, insecure := settings.allowInsecure
      utlsFingerprint := if settings.fingerprint ≠ "" then some settings.fingerprint else none
      reality := if security = "reality" then some ⟨settings.publicKey, settings.shortID⟩ else none }
  else none

def outboundTransport (settings : OutboundSettings) : Option TransportConfig :=
  let network := toLower (trimSpace settings.network)
  if network = "ws" ∨ network = "websocket" then
    some ⟨"ws", settings.path, if settings.host ≠ "" then some settings.host else none, ""⟩
  else if network = "grpc" then some ⟨"grpc", "", none, settings.serviceName⟩
  else none

def applyOutboundSettings (settings : OutboundSettings) (cfg : OutboundConfig) : OutboundConfig :=
  { cfg with tls := outboundTLS settings, transport := outboundTransport settings }

/-- An outbound of a protocol that takes its server and port as they are stored. -/
def serverOutbound (type tag : String) (outbound : Outbound) : OutboundConfig :=
  { (default : OutboundConfig) with type, tag, server := outbound.address, serverPort := outbound.port }

/-- The outbound of a protocol sing-box has; `dns` and unknown protocols have an error. -/
def buildOutboundOf (platform : Platform) (protocol tag : String) (outbound : Outbound) :
    Except String OutboundConfig :=
  let settings := Xray.parseOutboundSettings platform outbound.settingsJSON
  let password := firstNonEmpty [outbound.password, outbound.username]
  let username := trimSpace outbound.username
  if protocol = "freedom" then .ok { (default : OutboundConfig) with type := "direct", tag }
  else if protocol = "blackhole" then .ok { (default : OutboundConfig) with type := "block", tag }
  else if protocol = "dns" then
    .error "dns outbound is not supported by sing-box 1.13+; use route rule actions instead"
  else if protocol = "socks" then
    .ok { serverOutbound "socks" tag outbound with username, password := outbound.password }
  else if protocol = "http" ∨ protocol = "https" then
    .ok { serverOutbound "http" tag outbound with username, password := outbound.password }
  else if protocol = "vless" then
    .ok (applyOutboundSettings settings
      { serverOutbound "vless" tag outbound with uuid := username, flow := trimSpace settings.flow })
  else if protocol = "trojan" then
    .ok (applyOutboundSettings settings { serverOutbound "trojan" tag outbound with password })
  else if protocol = "shadowsocks" then
    .ok (applyOutboundSettings settings { serverOutbound "shadowsocks" tag outbound with
      method := firstNonEmpty [outbound.username, settings.method, "aes-128-gcm"]
      password := outbound.password })
  else if protocol = "hysteria2" then .ok { serverOutbound "hysteria2" tag outbound with password }
  else if protocol = "tuic" then
    .ok { serverOutbound "tuic" tag outbound with uuid := username, password := outbound.password }
  else if protocol = "shadowtls" then .ok { serverOutbound "shadowtls" tag outbound with password }
  else .error s!"unsupported outbound protocol: {outbound.protocol}"

def buildOutbound (platform : Platform) (outbound : Outbound) : Except String OutboundConfig := do
  validateOutboundProfile outbound
  buildOutboundOf platform (normalizeOutboundProtocol outbound.protocol)
    (generatedOutboundTag coreSingbox outbound.id outbound.tag) outbound

def isRemovedSingboxOutbound (outbound : Outbound) : Bool :=
  normalizeOutboundProtocol outbound.protocol == "dns"

def routeIPCIDR (platform : Platform) (value : String) : String :=
  if contains value "/" then value
  else
    match platform.parseIP value with
    | none => value
    | some (printed, isIPv4) => if isIPv4 then printed ++ "/32" else printed ++ "/128"

def systemRouteRules (platform : Platform) (opts : ManagementDirectOptions) : List RouteRule :=
  systemRules (managementDirect platform opts)
    (fun ips port => { (default : RouteRule) with
      ipCIDR := ips.map (routeIPCIDR platform), port, outbound := systemDirectOutboundTag })
    (fun domain port => { (default : RouteRule) with domain, port, outbound := systemDirectOutboundTag })

def directOutbound (tag : String) : OutboundConfig :=
  { (default : OutboundConfig) with type := "direct", tag }

/-- The maps the rule loop resolves a rule's inbound through. -/
structure RuleMaps where
  inboundTagsByID : Int → Option String
  inboundAliases : String → Option String

def ruleMaps (inbounds : List Inbound) : RuleMaps :=
  let served := Xray.servedInbounds coreSingbox inbounds
  { inboundTagsByID := lastWrite (served.map fun inbound => (inbound.id, inboundStatsTag inbound.toInboundRow))
    inboundAliases := lastWrite (served.flatMap fun inbound =>
      let tag := inboundStatsTag inbound.toInboundRow
      (generatedInboundTag inbound.toInboundRow, tag) ::
        if trimSpace inbound.remark ≠ "" then [(trimSpace inbound.remark, tag)] else []) }

/-- One turn of the rule loop: the rule it appends, if it does. -/
def buildRule (maps : RuleMaps) (inbounds : List Inbound) (outbounds : List Outbound)
    (rule : RoutingRule) : Except String (Option RouteRule) :=
  if !rule.enabled || !routingRuleAppliesToCore rule inbounds coreSingbox then pure none
  else do
    let outbound ← expect (resolveRuleOutbound rule outbounds)
      s!"routing rule {rule.id} targets missing outbound profile"
    require (outboundSupportsCore outbound coreSingbox)
      s!"routing rule {rule.id} targets outbound {quote outbound.tag} that does not support sing-box"
    if isRemovedSingboxOutbound outbound then pure none
    else pure do
      let inbound ← Xray.ruleInbounds maps.inboundTagsByID maps.inboundAliases rule
      some { inbound, port := []
             domain := if trimSpace rule.domain ≠ "" then splitRuleValues rule.domain else []
             ipCIDR := if trimSpace rule.ip ≠ "" then splitRuleValues rule.ip else []
             protocol := if trimSpace rule.protocol ≠ "" then splitRuleValues rule.protocol else []
             outbound := generatedOutboundTag coreSingbox outbound.id rule.outboundTag }

def buildOutbounds (platform : Platform) (outbounds : List Outbound) : Except String (List OutboundConfig) := do
  let built ← (outbounds.filter fun outbound => outbound.enabled &&
      outboundSupportsCore outbound coreSingbox && !isRemovedSingboxOutbound outbound).mapM
    (buildOutbound platform)
  pure (if built.isEmpty then [directOutbound "singbox-out-0"] else built)

def buildConfigWithOutboundsOptions (platform : Platform) (inbounds : List Inbound)
    (outbounds : List Outbound) (routingRules : List RoutingRule) (opts : BuildOptions) :
    Except String Config := do
  let builtOutbounds ← buildOutbounds platform outbounds
  let system := systemRouteRules platform opts.managementDirect
  let builtOutbounds :=
    if system.isEmpty then builtOutbounds
    else ensureSystemOutbound OutboundConfig.tag (directOutbound systemDirectOutboundTag) builtOutbounds
  let emitted ← routingRules.mapM (buildRule (ruleMaps inbounds) inbounds outbounds)
  let rules := system ++ emitted.filterMap id
  pure { buildConfigWithOptions platform inbounds opts with
    outbounds := builtOutbounds, route := if rules.isEmpty then none else some rules }

def buildConfigWithOutbounds (platform : Platform) (inbounds : List Inbound) (outbounds : List Outbound)
    (routingRules : List RoutingRule) : Except String Config :=
  buildConfigWithOutboundsOptions platform inbounds outbounds routingRules default

end MiGate.Singbox
