import MiGate.Db.Random
import MiGate.Go.URL

namespace MiGate.Subscription

open Go Db Fallible

structure ParsedLink where
  identity : String
  remark : String
  protocol : String
  address : String
  port : Int
  username : String
  password : String
  rawLink : String
  settingsJSON : String
deriving DecidableEq, Repr, Inhabited

structure SkippedLink where
  raw : String
  reason : String
  protocol : String
deriving DecidableEq, Repr

structure ParseResult where
  nodes : List ParsedLink
  skipped : List SkippedLink
deriving DecidableEq, Repr

/-- `strings.Map` drops the blanks first; each of the three decodings is tried in turn. -/
def tryDecodeBase64 (text : String) : Option String :=
  let clean := String.ofList ((trimSpace text).toList.filter fun rune => !([' ', '\n', '\r', '\t'].contains rune))
  let padded := clean ++ String.ofList (List.replicate ((4 - clean.length % 4) % 4) '=')
  if clean = "" then none
  else (decodeBase64Std padded <|> decodeBase64RawURL (trimPadding clean) <|>
    decodeBase64RawStd (trimPadding clean)).map stringOfBytes

/-- The lines of a body that look like links. -/
def decodeBody (body : List UInt8) : List String :=
  let text := trimSpace (stringOfBytes body)
  let text := ((tryDecodeBase64 text).map trimSpace).getD text
  ((fieldsFunc text fun rune => rune == '\n' || rune == '\r').map trimSpace).filter fun line =>
    line != "" && !hasPrefix line "#" && contains line "://"

/-- The first of the keys under which a value is given, unescaped once more where that is possible. -/
def firstQuery (values : Values) (keys : List String) : String :=
  match (keys.map fun key => trimSpace (values.get key)).find? fun value => value != "" with
  | some value => ((queryUnescape value).map trimSpace).toOption.getD value
  | none => ""

def truthy (value : String) : Bool :=
  ["1", "true", "yes", "on"].contains (toLower (trimSpace value))

def splitList (value : String) : List String :=
  ((fieldsFunc value fun rune => rune == ',' || rune == '|' || rune == ' ').map trimSpace).filter fun part =>
    part != ""

def settingsFromQuery (values : Values) (address : String) : OutboundSettings :=
  let security := toLower (firstQuery values ["security", "tls"])
  let sni := firstQuery values ["sni", "servername", "serverName", "peer"]
  { security
    network := toLower (firstQuery values ["type", "network"])
    tls := security == "tls"
    reality := security == "reality"
    sni := if sni = "" ∧ security ≠ "" ∧ security ≠ "none" then address else sni
    host := firstQuery values ["host"]
    path := firstQuery values ["path"]
    flow := firstQuery values ["flow"]
    fingerprint := firstQuery values ["fp", "fingerprint"]
    publicKey := firstQuery values ["pbk", "publicKey"]
    shortID := firstQuery values ["sid", "shortId"]
    alpn := splitList (firstQuery values ["alpn"])
    method := ""
    serviceName := firstQuery values ["serviceName", "service_name"]
    allowInsecure := truthy (firstQuery values ["allowInsecure", "allow_insecure", "skip-cert-verify"]) }

/-- A field `json.Marshal` leaves out when it is empty. -/
def omitEmpty (key : String) (given : Bool) (value : String) : List String :=
  if given then [jsonString key ++ ":" ++ value] else []

/-- `json.Marshal` of a link's settings. -/
def marshalSettings (settings : OutboundSettings) : String :=
  let text := fun (key value : String) => omitEmpty key (value != "") (jsonString value)
  let flag := fun (key : String) (value : Bool) => omitEmpty key value "true"
  "\x7b" ++ join (text "security" settings.security ++ text "network" settings.network ++ flag "tls" settings.tls ++
    flag "reality" settings.reality ++ text "sni" settings.sni ++ text "host" settings.host ++
    text "path" settings.path ++ text "flow" settings.flow ++ text "fp" settings.fingerprint ++
    text "pbk" settings.publicKey ++ text "sid" settings.shortID ++
    omitEmpty "alpn" (!settings.alpn.isEmpty) (jsonStrings settings.alpn) ++ text "method" settings.method ++
    text "service_name" settings.serviceName ++ flag "allow_insecure" settings.allowInsecure) "," ++ "\x7d"

def stableIdentity (platform : Platform) (parsed : ParsedLink) : String :=
  encodeHex (platform.sha256 (toLower (trimSpace parsed.protocol) ++ "|" ++ trimSpace parsed.address ++ "|" ++
    itoa parsed.port ++ "|" ++ trimSpace parsed.username ++ "|" ++ trimSpace parsed.password))

def ParsedLink.identified (platform : Platform) (link : ParsedLink) : ParsedLink :=
  { link with identity := stableIdentity platform link }

/-- The remark a fragment holds; one that cannot be unescaped again is dropped. -/
def linkRemark (fragment : String) : String :=
  let text := if hasPrefix fragment "#" then String.ofList (fragment.toList.drop 1) else fragment
  trimSpace ((queryUnescape text).toOption.getD "")

def parseURLLink (platform : Platform) (raw protocol : String) : Except String ParsedLink := do
  let url ← parseURL raw
  let address := trimSpace url.hostname
  let port := portNumber url.port
  require (address != "" && 0 < port && port ≤ 65535) "invalid endpoint"
  let username := if protocol = "vless" then trimSpace (url.username) else ""
  let password :=
    if protocol = "trojan" then
      if url.password = "" then trimSpace (url.username) else url.password
    else ""
  pure (ParsedLink.identified platform
    { identity := "", remark := linkRemark url.fragment, protocol, address, port, username, password
      rawLink := raw, settingsJSON := marshalSettings (settingsFromQuery url.query address) })

def userInfoString (user : Userinfo) : String :=
  match user.password with
  | some password => user.username ++ ":" ++ password
  | none => user.username

/-- Where a shadowsocks link leads, and with what user part. -/
structure SSEndpoint where
  address : String
  port : Int
  userInfo : String

/-- A link without a host or port may hold them encoded, together with the user part. -/
def ssEndpoint (raw : String) (url : URL) : SSEndpoint :=
  let plain : SSEndpoint :=
    ⟨trimSpace url.hostname, portNumber url.port, (url.user.map userInfoString).getD ""⟩
  if plain.address = "" ∨ plain.port = 0 then
    let payload := if hasPrefix raw "ss://" then String.ofList (raw.toList.drop 5) else raw
    let payload := (cut (cut payload '#').1 '?').1
    match (tryDecodeBase64 payload).bind fun decoded => (parseURL ("ss://" ++ decoded)).toOption with
    | some parsed =>
        ⟨parsed.hostname, portNumber parsed.port, (parsed.user.map userInfoString).getD plain.userInfo⟩
    | none => plain
  else plain

def parseSSLink (platform : Platform) (raw : String) : Except String ParsedLink := do
  let url ← parseURL raw
  let endpoint := ssEndpoint raw url
  require (endpoint.address != "" && 0 < endpoint.port && endpoint.port ≤ 65535 && endpoint.userInfo != "")
    "invalid ss link"
  match cut ((tryDecodeBase64 endpoint.userInfo).getD endpoint.userInfo) ':' with
  | (_, none) => .error "invalid ss credentials"
  | (method, some password) => do
      require (trimSpace method != "" && trimSpace password != "") "invalid ss credentials"
      let settings := { settingsFromQuery url.query endpoint.address with method := trimSpace method }
      pure (ParsedLink.identified platform
        { identity := "", remark := linkRemark url.fragment, protocol := "shadowsocks"
          address := endpoint.address, port := endpoint.port, username := trimSpace method, password
          rawLink := raw, settingsJSON := marshalSettings settings })

def parseLink (platform : Platform) (raw : String) : Except String ParsedLink :=
  let raw := trimSpace raw
  let lower := toLower raw
  if raw = "" then .error "empty link"
  else if hasPrefix lower "vless://" then parseURLLink platform raw "vless"
  else if hasPrefix lower "trojan://" then parseURLLink platform raw "trojan"
  else if hasPrefix lower "ss://" then parseSSLink platform raw
  else if hasPrefix lower "vmess://" then .error "vmess links are not supported yet"
  else .error "unsupported link"

def linkProtocol (raw : String) : String :=
  match cutAtPart [':', '/', '/'] (trimSpace raw).toList with
  | some (scheme, _) => toLower (trimSpace (String.ofList scheme))
  | none => ""

/-- The links the parser accepts. -/
def acceptedLinks (platform : Platform) (links : List String) : List ParsedLink :=
  links.filterMap fun raw => (parseLink platform raw).toOption

def skippedLinks (platform : Platform) (links : List String) : List SkippedLink :=
  links.filterMap fun raw =>
    match parseLink platform raw with
    | .ok _ => none
    | .error reason => some ⟨raw, reason, linkProtocol raw⟩

/-- What there is to skip is reported with the error, too. -/
def parseLinks (platform : Platform) (links : List String) : ParseResult × Option String :=
  let nodes := acceptedLinks platform links
  let skipped := skippedLinks platform links
  if nodes.isEmpty ∧ !links.isEmpty then (⟨[], skipped⟩, some "no supported subscription links found")
  else (⟨nodes, skipped⟩, none)

end MiGate.Subscription
