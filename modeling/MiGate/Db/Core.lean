import MiGate.Db.InboundCapability
import MiGate.Go.Strings
import MiGate.Fallible.Except

namespace MiGate.Db

open Go Fallible

def sharedOutboundProtocols : List String :=
  ["socks", "socks5", "http", "https", "vless", "trojan", "shadowsocks"]

def singboxOnlyOutboundProtocols : List String :=
  ["hysteria2", "tuic", "shadowtls"]

def builtinOutboundProtocols : List String :=
  ["direct", "block", "dns", "freedom", "blackhole"]

def inferInboundCore (protocol : String) : String :=
  match getInboundCapability protocol with
  | some capability => capability.core
  | none => coreXray

def inboundCore (inbound : InboundRow) : String :=
  if trimSpace inbound.core = "" then inferInboundCore inbound.protocol
  else normalizeCore inbound.core

/-- What `NormalizeOutboundProtocol` does after trimming and lower-casing. -/
def outboundProtocolAlias (protocol : String) : String :=
  if protocol = "socks5" then "socks"
  else if protocol = "direct" then "freedom"
  else if protocol = "block" then "blackhole"
  else protocol

def normalizeOutboundProtocol (protocol : String) : String :=
  outboundProtocolAlias (toLower (trimSpace protocol))

def outboundProtocolSupportedCores (protocol : String) : List String :=
  let normalized := normalizeOutboundProtocol protocol
  if normalized ∈ sharedOutboundProtocols ∨ normalized ∈ builtinOutboundProtocols then
    [coreXray, coreSingbox]
  else if normalized ∈ singboxOnlyOutboundProtocols then [coreSingbox]
  else []

def supportsCore (cores : List String) (core : String) : Bool :=
  cores.any fun item => normalizeCore item == normalizeCore core

def outboundSupportsCore (outbound : Outbound) (core : String) : Bool :=
  supportsCore (outboundProtocolSupportedCores outbound.protocol) core

def resolveRuleOutbound (rule : RoutingRule) (outbounds : List Outbound) : Option Outbound :=
  if 0 < rule.outboundID then outbounds.find? fun outbound => outbound.id == rule.outboundID
  else none

def isHexDigit (rune : Char) : Bool :=
  ('0' ≤ rune && rune ≤ '9') || ('a' ≤ rune && rune ≤ 'f') || ('A' ≤ rune && rune ≤ 'F')

/-- The shape of a UUID.  A rune of more than one byte is rejected wherever it stands, so
counting runes instead of bytes makes no difference. -/
def hasUUIDShape (runes : List Char) : Bool :=
  runes.length == 36 && runes.zipIdx.all fun (rune, i) =>
    if i = 8 ∨ i = 13 ∨ i = 18 ∨ i = 23 then rune == '-' else isHexDigit rune

def isUUID (value : String) : Bool :=
  hasUUIDShape (trimSpace value).toList

def outboundProtocolNeedsEndpoint (protocol : String) : Bool :=
  ["socks", "http", "https", "vless", "trojan", "shadowsocks", "hysteria2", "tuic",
    "shadowtls"].contains protocol

/-- What `ValidateOutboundProfile` asks of the credentials. -/
def validateOutboundCredentials (protocol : String) (outbound : Outbound) : Except String Unit :=
  if protocol = "vless" then
    require (isUUID outbound.username) "vless outbound requires valid uuid in username"
  else if protocol = "trojan" then
    require (trimSpace outbound.password != "") "trojan outbound requires password"
  else if protocol = "shadowsocks" then do
    require (trimSpace outbound.username != "") "shadowsocks outbound requires method in username"
    require (trimSpace outbound.password != "") "shadowsocks outbound requires password"
  else if protocol = "hysteria2" then
    require (trimSpace outbound.password != "") "hysteria2 outbound requires password"
  else if protocol = "tuic" then do
    require (isUUID outbound.username) "tuic outbound requires valid uuid in username"
    require (trimSpace outbound.password != "") "tuic outbound requires password"
  else if protocol = "shadowtls" then
    require (trimSpace outbound.password != "") "shadowtls outbound requires password"
  else .ok ()

/-- What `ValidateOutboundProfile` asks of the server. -/
def validateOutboundEndpoint (protocol : String) (outbound : Outbound) : Except String Unit := do
  require (trimSpace outbound.address != "") s!"{protocol} outbound requires address"
  require (0 < outbound.port && outbound.port ≤ 65535) s!"{protocol} outbound requires valid port"

def validateOutboundProfile (outbound : Outbound) : Except String Unit := do
  let protocol := normalizeOutboundProtocol outbound.protocol
  onlyIf (outboundProtocolNeedsEndpoint protocol = true) (validateOutboundEndpoint protocol outbound)
  validateOutboundCredentials protocol outbound

def generatedOutboundTag (core : String) (profileID : Int) (fallback : String) : String :=
  if profileID ≤ 0 then trimSpace fallback
  else if normalizeCore core = coreSingbox then "singbox-out-" ++ itoa profileID
  else "xray-out-" ++ itoa profileID

def generatedInboundTag (inbound : InboundRow) : String :=
  "inbound-" ++ itoa inbound.id ++ "-" ++ toLower (trimSpace inbound.protocol)

def inboundServes (core : String) (inbound : Inbound) : Bool :=
  inbound.enabled && inboundCore inbound.toInboundRow == core

def routingRuleAppliesToCore (rule : RoutingRule) (inbounds : List Inbound) (core : String) : Bool :=
  let want := normalizeCore core
  if 0 < rule.clientID then
    match inbounds.find? fun inbound => inbound.clients.any fun client => client.id == rule.clientID with
    | some inbound => inboundServes want inbound
    | none => false
  else if 0 < rule.inboundID then
    match inbounds.find? fun inbound => inbound.id == rule.inboundID with
    | some inbound => inboundServes want inbound
    | none => false
  else if trimSpace rule.inboundTag = "" then
    inbounds.any (inboundServes want) || inbounds.isEmpty
  else
    match inbounds.find? fun inbound => generatedInboundTag inbound.toInboundRow == trimSpace rule.inboundTag ||
        trimSpace inbound.remark == trimSpace rule.inboundTag with
    | some inbound => inboundServes want inbound
    | none => false

def firstNonEmpty (values : List String) : String :=
  match values.find? fun value => trimSpace value != "" with
  | some value => trimSpace value
  | none => ""

end MiGate.Db
