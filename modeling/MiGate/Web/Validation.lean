import MiGate.Config.Version

namespace MiGate.Web

open Go Db Config

/-! What the panel reports of the configurations it would write. -/

/-- What a check of the sing-box binary finds. -/
structure Capability where
  v2rayAPIStats : Bool
  unsupported : Bool
  message : String
deriving Inhabited

/-- What a validation reads beside the store: the machine, `panel.json` and the sing-box binary. -/
structure ValidationSurroundings where
  platform : Platform
  managementDirect : ManagementDirectOptions
  capability : Capability

structure ConfigValidationResult where
  target : String
  valid : Bool
  error : String
  warnings : List String
  inbounds : Nat
  outbounds : Nat
  rules : Nat
deriving DecidableEq

structure ValidationSnapshot where
  inbounds : List Inbound
  outbounds : List Outbound
  rules : List RoutingRule

def isSingboxProtocol (protocol : String) : Bool :=
  ["hysteria2", "tuic", "shadowtls"].contains (toLower (trimSpace protocol))

def hasEnabledSingboxInbound (inbounds : List Inbound) : Bool :=
  inbounds.any fun inbound => inbound.enabled && isSingboxProtocol inbound.protocol

def validateXrayConfigSnapshotWithOptions (around : ValidationSurroundings) (snapshot : ValidationSnapshot) :
    ConfigValidationResult :=
  match Xray.buildConfigWithOutboundsOptions around.platform snapshot.inbounds snapshot.outbounds snapshot.rules
      around.managementDirect with
  | .error error =>
      { target := "xray", valid := false, error, warnings := [], inbounds := 0, outbounds := 0, rules := 0 }
  | .ok config =>
      { target := "xray", valid := true, error := ""
        warnings := ((snapshot.inbounds.filter fun inbound => inbound.enabled && isSingboxProtocol inbound.protocol).map
            fun inbound => inbound.protocol ++ " is handled by sing-box") ++
          if snapshot.rules.any fun rule => trimSpace rule.ruleSet != "" then
            ["rule_set is stored for future use but not emitted in Xray config"] else []
        inbounds := config.inbounds.length, outbounds := config.outbounds.length
        rules := (config.routing.map fun routing => routing.rules.length).getD 0 }

structure BuiltSingboxConfig where
  config : Singbox.Config
  warnings : List String
  err : Option String

/-- Both results of `BuildConfigWithOutboundsOptions`, the first empty beside an error. -/
def builtSingboxConfig (built : Except String Singbox.Config) : BuiltSingboxConfig :=
  match built with
  | .ok config => { config, warnings := [], err := none }
  | .error error =>
      { config := { logLevel := "", inbounds := [], outbounds := [], route := none, v2rayAPIStats := none }
        warnings := [], err := some error }

def buildSingboxConfigForRuntime (around : ValidationSurroundings) (snapshot : ValidationSnapshot) :
    BuiltSingboxConfig :=
  let opts : Singbox.BuildOptions := { enableV2RayAPIStats := false, managementDirect := around.managementDirect }
  let result := builtSingboxConfig
    (Singbox.buildConfigWithOutboundsOptions around.platform snapshot.inbounds snapshot.outbounds snapshot.rules opts)
  if !hasEnabledSingboxInbound snapshot.inbounds then result
  else
    let config :=
      if result.config.v2rayAPIStats = none ∧ around.capability.v2rayAPIStats = true then
        let stats := Singbox.buildConfigWithOptions around.platform snapshot.inbounds
          { enableV2RayAPIStats := true, managementDirect := default }
        if result.err = none then { result.config with v2rayAPIStats := stats.v2rayAPIStats } else stats
      else result.config
    let warnings :=
      if around.capability.unsupported then ["singbox_stats_unsupported"]
      else if !around.capability.v2rayAPIStats && trimSpace around.capability.message != "" then
        ["singbox_stats_capability_check_failed"]
      else []
    { config, warnings, err := result.err }

def validateSingboxConfigSnapshotWithRuntime (around : ValidationSurroundings) (snapshot : ValidationSnapshot) :
    ConfigValidationResult :=
  let built := buildSingboxConfigForRuntime around snapshot
  { target := "singbox", valid := built.err.isNone, error := built.err.getD ""
    warnings := (if built.config.inbounds.isEmpty then ["no_enabled_singbox_inbounds"] else []) ++ built.warnings
    inbounds := built.config.inbounds.length, outbounds := built.config.outbounds.length
    rules := (built.config.route.map List.length).getD 0 }

structure DashboardValidation where
  xray : ConfigValidationResult
  singbox : ConfigValidationResult
deriving DecidableEq

def buildDashboardValidation (around : ValidationSurroundings) (snapshot : ValidationSnapshot) :
    DashboardValidation where
  xray := validateXrayConfigSnapshotWithOptions around snapshot
  singbox := validateSingboxConfigSnapshotWithRuntime around snapshot

/-! A validation reads no column of a client that goes into no configuration. -/

theorem validateXray_config (around : ValidationSurroundings) (snapshot : ValidationSnapshot) :
    validateXrayConfigSnapshotWithOptions around
        { snapshot with inbounds := snapshot.inbounds.map configInbound } =
      validateXrayConfigSnapshotWithOptions around snapshot := by
  have warned : (((snapshot.inbounds.map configInbound).filter fun inbound =>
        inbound.enabled && isSingboxProtocol inbound.protocol).map
          fun inbound => inbound.protocol ++ " is handled by sing-box") =
      (snapshot.inbounds.filter fun inbound => inbound.enabled && isSingboxProtocol inbound.protocol).map
        fun inbound => inbound.protocol ++ " is handled by sing-box" := by
    rw [List.filter_map, List.map_map]
    rfl
  simp only [validateXrayConfigSnapshotWithOptions, xray_config, warned]

theorem buildSingbox_config (around : ValidationSurroundings) (snapshot : ValidationSnapshot) :
    buildSingboxConfigForRuntime around { snapshot with inbounds := snapshot.inbounds.map configInbound } =
      buildSingboxConfigForRuntime around snapshot := by
  have enabled : hasEnabledSingboxInbound (snapshot.inbounds.map configInbound) =
      hasEnabledSingboxInbound snapshot.inbounds := List.any_map
  simp only [buildSingboxConfigForRuntime, singbox_config, singbox_options_config, enabled]

/-- Snapshots that agree in what goes into a configuration have the same validation. -/
theorem buildDashboardValidation_congr (around : ValidationSurroundings) {left right : ValidationSnapshot}
    (inbounds : left.inbounds.map configInbound = right.inbounds.map configInbound)
    (outbounds : left.outbounds = right.outbounds) (rules : left.rules = right.rules) :
    buildDashboardValidation around left = buildDashboardValidation around right := by
  have same : ({ left with inbounds := left.inbounds.map configInbound } : ValidationSnapshot) =
      { right with inbounds := right.inbounds.map configInbound } := by
    rw [inbounds, outbounds, rules]
  simp only [buildDashboardValidation, DashboardValidation.mk.injEq, validateSingboxConfigSnapshotWithRuntime]
  constructor
  · rw [← validateXray_config, same, validateXray_config]
  · rw [← buildSingbox_config, same, buildSingbox_config]

end MiGate.Web
