import MiGate.Db.Models
import MiGate.Go.Strings
import MiGate.Fallible.Except

namespace MiGate.Db

open Go Fallible

def coreXray : String := "xray"

def coreSingbox : String := "sing-box"

def normalizeCore (core : String) : String :=
  let token := toLower (trimSpace core)
  if token = coreSingbox ∨ token = "singbox" then coreSingbox else coreXray

inductive CredentialType where
  | none
  | uuid
  | password
  | credentialIDPassword
  | usernamePassword
deriving DecidableEq, Repr, Inhabited

structure InboundCapability where
  protocol : String
  core : String
  networks : List String
  securities : List String
  defaultNetwork : String
  defaultSecurity : String
  securityByNetwork : List (String × List String)
  credentialType : CredentialType
deriving Repr, Inhabited

def inboundCapabilities : List InboundCapability :=
  [{ protocol := "vless", core := coreXray
     networks := ["tcp", "ws", "grpc", "h2", "xhttp"], securities := ["none", "tls", "reality"]
     defaultNetwork := "tcp", defaultSecurity := "reality"
     securityByNetwork := [("default", ["none", "tls"]), ("tcp", ["none", "tls", "reality"]),
       ("grpc", ["none", "tls", "reality"]), ("xhttp", ["none", "tls", "reality"])]
     credentialType := .uuid },
   { protocol := "vmess", core := coreXray
     networks := ["tcp", "ws", "grpc", "h2", "xhttp"], securities := ["none", "tls"]
     defaultNetwork := "ws", defaultSecurity := "tls"
     securityByNetwork := [("default", ["none", "tls"])]
     credentialType := .uuid },
   { protocol := "trojan", core := coreXray
     networks := ["tcp", "ws", "grpc", "h2", "xhttp"], securities := ["none", "tls", "reality"]
     defaultNetwork := "tcp", defaultSecurity := "tls"
     securityByNetwork := [("default", ["none", "tls"]), ("tcp", ["none", "tls", "reality"]),
       ("grpc", ["none", "tls", "reality"]), ("xhttp", ["none", "tls", "reality"])]
     credentialType := .password },
   { protocol := "shadowsocks", core := coreXray
     networks := ["tcp"], securities := ["none"]
     defaultNetwork := "tcp", defaultSecurity := "none"
     securityByNetwork := [("default", ["none"])]
     credentialType := .none },
   { protocol := "socks", core := coreXray
     networks := ["tcp"], securities := ["none"]
     defaultNetwork := "tcp", defaultSecurity := "none"
     securityByNetwork := [("default", ["none"])]
     credentialType := .usernamePassword },
   { protocol := "http", core := coreXray
     networks := ["tcp"], securities := ["none"]
     defaultNetwork := "tcp", defaultSecurity := "none"
     securityByNetwork := [("default", ["none"])]
     credentialType := .usernamePassword },
   { protocol := "hysteria2", core := coreSingbox
     networks := ["udp"], securities := ["tls"]
     defaultNetwork := "udp", defaultSecurity := "tls"
     securityByNetwork := [("default", ["tls"])]
     credentialType := .password },
   { protocol := "tuic", core := coreSingbox
     networks := ["udp"], securities := ["tls"]
     defaultNetwork := "udp", defaultSecurity := "tls"
     securityByNetwork := [("default", ["tls"])]
     credentialType := .credentialIDPassword },
   { protocol := "shadowtls", core := coreSingbox
     networks := ["tcp"], securities := ["none"]
     defaultNetwork := "tcp", defaultSecurity := "none"
     securityByNetwork := [("default", ["none"])]
     credentialType := .password }]

def normalizeInboundProtocol (protocol : String) : String :=
  toLower (trimSpace protocol)

def getInboundCapability (protocol : String) : Option InboundCapability :=
  inboundCapabilities.find? fun capability => capability.protocol == normalizeInboundProtocol protocol

def supportedInboundProtocol (protocol : String) : Bool :=
  (getInboundCapability protocol).isSome

def normalizeInboundNetwork (protocol network : String) : String :=
  match getInboundCapability protocol with
  | none => toLower (trimSpace network)
  | some capability =>
      let network := toLower (trimSpace network)
      if network = "" then capability.defaultNetwork else network

def normalizeInboundSecurity (protocol security : String) : String :=
  match getInboundCapability protocol with
  | none => toLower (trimSpace security)
  | some capability =>
      let security := toLower (trimSpace security)
      if security = "" then capability.defaultSecurity else security

def containsString (values : List String) (want : String) : Bool :=
  values.any fun value => toLower (trimSpace value) == toLower (trimSpace want)

def inboundSecuritiesForNetwork (capability : InboundCapability) (network : String) : List String :=
  match capability.securityByNetwork.lookup (toLower (trimSpace network)) with
  | some values =>
      if values.isEmpty then (capability.securityByNetwork.lookup "default").getD [] else values
  | none => (capability.securityByNetwork.lookup "default").getD []

/-- What `ValidateInboundCombination` asks of an inbound secured by REALITY. -/
def validateReality (inbound : InboundSettings) : Except String Unit := do
  require (trimSpace inbound.realityPrivateKey != "" && trimSpace inbound.realityPublicKey != "")
    "reality inbound requires persistent private and public keys"
  require (trimSpace inbound.realityDest != "") "reality inbound requires reality_dest"
  require (trimSpace inbound.realityServerNames != "") "reality inbound requires reality_server_names"

/-- What `ValidateInboundCombination` asks of a ShadowTLS inbound. -/
def validateShadowTLS (inbound : InboundSettings) : Except String Unit := do
  require (inbound.shadowTLSVersion == 0 || inbound.shadowTLSVersion == 3)
    "shadowtls inbound currently supports only v3"
  require (trimSpace inbound.tlsSNI != "") "shadowtls inbound requires tls_sni as handshake server"

def validateInboundCombination (inbound : InboundRow) : Except String Unit := do
  let protocol := normalizeInboundProtocol inbound.protocol
  let capability ← expect (getInboundCapability protocol)
    s!"unsupported inbound protocol: {inbound.protocol}"
  require (normalizeCore inbound.core == capability.core)
    s!"{protocol} inbound must use {capability.core} core"
  let network := normalizeInboundNetwork protocol inbound.network
  require (containsString capability.networks network)
    s!"{protocol} inbound does not support network {quote inbound.network}"
  let security := normalizeInboundSecurity protocol inbound.security
  require (containsString (inboundSecuritiesForNetwork capability network) security)
    s!"{protocol} inbound does not support security {quote inbound.security} on network {quote network}"
  onlyIf (security = "reality") (validateReality inbound.toInboundSettings)
  onlyIf (protocol = "shadowtls") (validateShadowTLS inbound.toInboundSettings)

def Client.credentialIDValue (client : Client) : String :=
  if trimSpace client.credentialID ≠ "" then trimSpace client.credentialID else trimSpace client.uuid

def Client.passwordValue (client : Client) : String :=
  if trimSpace client.password ≠ "" then client.password else client.uuid

end MiGate.Db
