import MiGate.Config.ManagementDirect
import MiGate.Db.Clients
import MiGate.Go.HostPort
import MiGate.Go.Json

namespace MiGate.Panel

open Go Db Fallible MiGate.Config

/-! The file `panel.json`: how it is loaded, normalized, saved and updated. -/

structure Config where
  panelPort : Int
  panelUsername : String
  panelPassword : String
  webPath : String
  publicHost : String
  trustProxy : Bool
  databasePath : String
  certDomain : String
  certEmail : String
  managementDirectEnabled : Bool
  managementDirectAutoDetect : Bool
  managementDirectHosts : List String
  managementDirectPorts : List Int
  managementDirectEnabledSet : Bool
  managementDirectAutoDetectSet : Bool
deriving DecidableEq, Repr, Inhabited

/-- The zero value. -/
def Config.zero : Config :=
  ⟨0, "", "", "", "", false, "", "", "", false, false, [], [], false, false⟩

/-- `Default`. -/
def Config.default : Config :=
  { Config.zero with
    panelPort := 9999, webPath := "/panel", databasePath := "/var/lib/migate/migate.db"
    managementDirectEnabled := true, managementDirectAutoDetect := true
    managementDirectEnabledSet := true, managementDirectAutoDetectSet := true }

/-- `strings.TrimRight` of one rune. -/
def trimRight (rune : Char) (text : String) : String :=
  String.ofList (text.toList.rdropWhile (· == rune))

def normalizeWebPath (path fallback : String) : String :=
  let path := orElse (trimSpace path) fallback
  if path = "/" then "/"
  else trimRight '/' (if hasPrefix path "/" then path else "/" ++ path)

/-- The parts of Go's network library that a host is read with, in their place among the libraries. -/
def goNetwork (platform : Platform) : Platform :=
  { platform with
    parseIP := fun value => (parseIP value).map fun groups => (printIP groups, groups.take 6 == [0, 0, 0, 0, 0, 0xFFFF])
    urlHost := fun value => (parseURL value).toOption.map URL.host
    splitHost := fun value => (netSplitHostPort value).map Prod.fst }

variable (platform : Platform)

@[simp] theorem goNetwork_parseIP (value : String) : (goNetwork platform).parseIP value =
    (parseIP value).map fun groups => (printIP groups, groups.take 6 == [0, 0, 0, 0, 0, 0xFFFF]) := rfl

@[simp] theorem goNetwork_urlHost (value : String) :
    (goNetwork platform).urlHost value = (parseURL value).toOption.map URL.host := rfl

@[simp] theorem goNetwork_splitHost (value : String) :
    (goNetwork platform).splitHost value = (netSplitHostPort value).map Prod.fst := rfl

/-- What the two normalizers do alike. -/
def Config.settle (cfg : Config) : Config :=
  { cfg with
    panelUsername := trimSpace cfg.panelUsername
    publicHost := trimSpace cfg.publicHost
    certDomain := trimSpace cfg.certDomain
    certEmail := trimSpace cfg.certEmail
    managementDirectEnabled := if cfg.managementDirectEnabledSet then cfg.managementDirectEnabled else true
    managementDirectAutoDetect := if cfg.managementDirectAutoDetectSet then cfg.managementDirectAutoDetect else true
    managementDirectHosts := normalizeManagementDirectHosts (goNetwork platform) cfg.managementDirectHosts
    managementDirectPorts := normalizeManagementDirectPorts cfg.managementDirectPorts }

def normalize (cfg : Config) : Config :=
  { cfg.settle platform with
    panelPort := if cfg.panelPort = 0 then Config.default.panelPort else cfg.panelPort
    webPath := normalizeWebPath cfg.webPath Config.default.webPath
    databasePath := if trimSpace cfg.databasePath = "" then Config.default.databasePath else trimSpace cfg.databasePath
    managementDirectEnabledSet := true, managementDirectAutoDetectSet := true }

def normalizeLoaded (cfg : Config) : Config :=
  { cfg.settle platform with
    webPath := if trimSpace cfg.webPath ≠ "" then normalizeWebPath cfg.webPath "" else cfg.webPath
    databasePath := trimSpace cfg.databasePath }

/-- What both validations ask of a database path that is given; `filepath.IsAbs` looks for a slash. -/
def validateDatabasePath (path : String) : Except String Unit := do
  require (!path.toList.contains (Char.ofNat 0)) "database_path is invalid"
  require (hasPrefix path "/") "database_path must be absolute"

def validate (cfg : Config) : Except String Unit := do
  require (!(cfg.panelPort < 1 || 65535 < cfg.panelPort)) "panel_port must be between 1 and 65535"
  require (trimSpace cfg.databasePath != "") "database_path is required"
  validateDatabasePath cfg.databasePath

def portsError : String := "management_direct_ports must be between 1 and 65535"

def validPort (port : Int) : Bool := 1 ≤ port && port ≤ 65535

def validateLoaded (cfg : Config) (raw : List (String × JsonValue)) : Except String Unit := do
  let panelPortPresent := (lastWrite raw "panel_port").isSome
  require (!(cfg.panelPort < 0 || 65535 < cfg.panelPort || (panelPortPresent && cfg.panelPort == 0)))
    "panel_port must be between 1 and 65535"
  onlyIf (cfg.databasePath ≠ "") (validateDatabasePath cfg.databasePath)
  require (cfg.managementDirectPorts.all validPort) portsError

def decodePorts (field : String) : JsonValue → Except String (List Int) :=
  decodeSlice field "[]int" (decodeInt field 0)

def validateManagementDirectPortsRaw (raw : List (String × JsonValue)) : Except String Unit :=
  match lastWrite raw "management_direct_ports" with
  | none => .ok ()
  | some value =>
      match decodePorts "" value with
      | .error _ => .error "management_direct_ports must be an array of ports"
      | .ok ports => require (ports.all validPort) portsError

/-- Where a key of the document goes; an unknown one is passed over. -/
def decodeField (cfg : Config) (field : String × JsonValue) : Except String Config :=
  let (key, value) := field
  match foldName key with
  | "panel_port" => do return { cfg with panelPort := ← decodeInt "Config.panel_port" cfg.panelPort value }
  | "panel_username" => do return { cfg with panelUsername := ← decodeString "Config.panel_username" cfg.panelUsername value }
  | "panel_password" => do return { cfg with panelPassword := ← decodeString "Config.panel_password" cfg.panelPassword value }
  | "web_base_path" => do return { cfg with webPath := ← decodeString "Config.web_base_path" cfg.webPath value }
  | "public_host" => do return { cfg with publicHost := ← decodeString "Config.public_host" cfg.publicHost value }
  | "trust_proxy" => do return { cfg with trustProxy := ← decodeBool "Config.trust_proxy" cfg.trustProxy value }
  | "database_path" => do return { cfg with databasePath := ← decodeString "Config.database_path" cfg.databasePath value }
  | "cert_domain" => do return { cfg with certDomain := ← decodeString "Config.cert_domain" cfg.certDomain value }
  | "cert_email" => do return { cfg with certEmail := ← decodeString "Config.cert_email" cfg.certEmail value }
  | "management_direct_enabled" => do
      let managementDirectEnabled ← decodeBool "Config.management_direct_enabled" cfg.managementDirectEnabled value
      return { cfg with managementDirectEnabled }
  | "management_direct_auto_detect" => do
      let managementDirectAutoDetect ←
        decodeBool "Config.management_direct_auto_detect" cfg.managementDirectAutoDetect value
      return { cfg with managementDirectAutoDetect }
  | "management_direct_hosts" => do
      let managementDirectHosts ← decodeSlice "Config.management_direct_hosts" "[]string"
        (decodeString "Config.management_direct_hosts" "") value
      return { cfg with managementDirectHosts }
  | "management_direct_ports" => do
      return { cfg with managementDirectPorts := ← decodePorts "Config.management_direct_ports" value }
  | _ => .ok cfg

/-- `Load` of what a file holds. -/
def load (file : JsonValue) : Except String Config := do
  let raw ← documentFields file
  let cfg ← raw.foldlM decodeField Config.zero
  let cfg := { cfg with
    managementDirectEnabledSet := (lastWrite raw "management_direct_enabled").isSome
    managementDirectAutoDetectSet := (lastWrite raw "management_direct_auto_detect").isSome }
  validateManagementDirectPortsRaw raw
  let cfg := normalizeLoaded platform cfg
  validateLoaded cfg raw
  return cfg

/-- A field that is left out where its value is empty. -/
def omitEmpty (empty : Bool) (key : String) (value : JsonValue) : List (String × JsonValue) :=
  if empty then [] else [(key, value)]

/-- The fields `json.MarshalIndent` writes of a configuration, in order. -/
def Config.fields (cfg : Config) : List (String × JsonValue) :=
  [("panel_port", .number (itoa cfg.panelPort)), ("panel_username", .string cfg.panelUsername),
    ("panel_password", .string cfg.panelPassword), ("web_base_path", .string cfg.webPath)] ++
  omitEmpty (cfg.publicHost == "") "public_host" (.string cfg.publicHost) ++
  omitEmpty (!cfg.trustProxy) "trust_proxy" (.bool cfg.trustProxy) ++
  [("database_path", .string cfg.databasePath)] ++
  omitEmpty (cfg.certDomain == "") "cert_domain" (.string cfg.certDomain) ++
  omitEmpty (cfg.certEmail == "") "cert_email" (.string cfg.certEmail) ++
  [("management_direct_enabled", .bool cfg.managementDirectEnabled),
    ("management_direct_auto_detect", .bool cfg.managementDirectAutoDetect)] ++
  omitEmpty cfg.managementDirectHosts.isEmpty "management_direct_hosts"
    (.array (cfg.managementDirectHosts.map .string)) ++
  omitEmpty cfg.managementDirectPorts.isEmpty "management_direct_ports"
    (.array (cfg.managementDirectPorts.map fun port => .number (itoa port)))

def Config.document (cfg : Config) : JsonValue :=
  .object cfg.fields

/-- `Save`: what is written to the file. -/
def save (cfg : Config) : Except String JsonValue := do
  let cfg := normalize platform cfg
  validate cfg
  return cfg.document

/-- `Update`: the configuration that is returned, and what is written to the file. -/
def update (mutate : Config → Except String Config) (file : JsonValue) : Except String (Config × JsonValue) := do
  let cfg ← load platform file
  let cfg ← mutate cfg
  let cfg := normalize platform cfg
  let file ← save platform cfg
  return (cfg, file)

end MiGate.Panel
