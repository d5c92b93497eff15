import MiGate.Singbox.Manager
import MiGate.Web.Validation
import MiGate.Web.XrayController

namespace MiGate.Web

open Go Db Config Fallible Attempt Disk

/-! The application of a sing-box configuration that has been built, and what holds of the file in use
after an application of either core's. -/

structure SingboxApplySummary where
  applied : Bool
  service : String
  configPath : String
  commandsExecuted : List String
  error : String
  detail : String
  warnings : List String
  postApplyWarnings : List String
  nonFatalWarnings : List String
  inbounds : Nat
  outbounds : Nat
  rules : Nat
  appliedHash : String
deriving DecidableEq, Repr

def newSingboxApplySummary : SingboxApplySummary where
  applied := false
  service := Singbox.serviceName
  configPath := Singbox.defaultConfigPath
  commandsExecuted := ["sing-box check -c <temp>", "systemctl restart " ++ Singbox.serviceName]
  error := ""
  detail := ""
  warnings := []
  postApplyWarnings := []
  nonFatalWarnings := []
  inbounds := 0
  outbounds := 0
  rules := 0
  appliedHash := ""

def addUniqueString (values : List String) (value : String) : List String :=
  if trimSpace value = "" ∨ trimSpace value ∈ values then values else values ++ [trimSpace value]

def isNonFatalSingboxWarning (warning : String) : Bool :=
  warning == "singbox_stats_unsupported" || warning == "singbox_stats_capability_check_failed"

def addSingboxApplyWarnings (summary : SingboxApplySummary) (warnings : List String) : SingboxApplySummary :=
  warnings.foldl (fun summary warning =>
    { summary with
      warnings := addUniqueString summary.warnings warning
      nonFatalWarnings :=
        if isNonFatalSingboxWarning warning then addUniqueString summary.nonFatalWarnings warning
        else summary.nonFatalWarnings }) summary

/-- The two results of a build as one. -/
def BuiltSingboxConfig.generated (built : BuiltSingboxConfig) : Except String Singbox.Config :=
  match built.err with
  | some reason => .error reason
  | none => .ok built.config

/-- The result, and beside it what happened to the file, if a restart has failed. -/
def applyBuiltSingboxConfig {ε : Type} (tools : CoreTools Singbox.Config) (built : BuiltSingboxConfig) :
    Call ε (SingboxApplySummary × Option (Aftermath String)) := do
  let result := { addSingboxApplyWarnings newSingboxApplySummary built.warnings with
    inbounds := built.config.inbounds.length, outbounds := built.config.outbounds.length
    rules := (built.config.route.map List.length).getD 0 }
  match built.generated with
  | .error reason => pure ({ result with error := "build_failed", detail := reason }, none)
  | .ok config =>
      match encodeConfig tools config with
      | .error reason => pure ({ result with error := "marshal_failed", detail := reason }, none)
      | .ok (raw, hash) =>
          let result := { result with appliedHash := hash }
          let installed ← (Singbox.applyConfig tools raw).result
          match installed with
          | .error failure =>
              pure ({ result with error := "singbox_apply_failed", detail := failure.message }, failure.aftermath)
          | .ok _ => pure ({ result with applied := true }, none)

theorem applied_addSingboxApplyWarnings (warnings : List String) (summary : SingboxApplySummary) :
    (addSingboxApplyWarnings summary warnings).applied = summary.applied := by
  induction warnings generalizing summary with
  | nil => rfl
  | cons warning rest ih => exact ih _

theorem applyBuiltSingboxConfig_triple {ε : Type} (tools : CoreTools Singbox.Config) (built : BuiltSingboxConfig)
    (files : Files) :
    Triple (fun state => state = files) (applyBuiltSingboxConfig tools built : Call ε _)
      (fun reported state => AtomicOnDisk tools built.generated Singbox.defaultConfigPath files reported.1.applied
        reported.1.appliedHash reported.2 state)
      fun _ _ => False := by
  have fresh := applied_addSingboxApplyWarnings built.warnings newSingboxApplySummary
  unfold applyBuiltSingboxConfig
  cases generated : built.generated with
  | error reason =>
      refine (Triple.pure _).weaken (fun state here => ?_) (fun _ _ => id) fun _ _ => id
      dsimp only
      rw [fresh]
      exact .of_unmoved (congrFun here _)
  | ok config =>
      dsimp only
      cases encoded : encodeConfig tools config with
      | error reason =>
          refine (Triple.pure _).weaken (fun state here => ?_) (fun _ _ => id) fun _ _ => id
          dsimp only
          rw [fresh]
          exact .of_unmoved (congrFun here _)
      | ok written =>
          obtain ⟨raw, hash⟩ := written
          obtain ⟨written, hashed⟩ := encodeConfig_eq_ok.mp encoded
          refine Triple.bind (Triple.result (fun installed state =>
            match installed with
            | .ok _ => tools.accepts raw = .ok () ∧ state Singbox.defaultConfigPath = some raw
            | .error failure => Accounts tools.accepts raw Singbox.defaultConfigPath files failure.aftermath state)
            Singbox.applyConfig_triple) fun installed => ?_
          cases installed with
          | error failure =>
              refine (Triple.pure _).weaken (fun state accounts => ?_) (fun _ _ => id) fun _ _ => id
              dsimp only
              rw [fresh]
              exact .of_accounts rfl written accounts
          | ok _ =>
              refine (Triple.pure _).weaken (fun state current => ?_) (fun _ _ => id) fun _ _ => id
              exact .of_inUse rfl written current.1 current.2 hashed

/-- Whatever fails and wherever, an application of either core's configuration ends with the new file, tested
and under its hash, or with the one there was. -/
theorem config_apply_atomic (controller : RealController) (platform : Platform) (xrayTools : CoreTools Xray.Config)
    (singboxTools : CoreTools Singbox.Config) (store : Store) (built : BuiltSingboxConfig) (files : Files)
    (plain : PlainPath controller.normalizedConfigPath ".xray-" ".json") :
    Triple (fun state => state = files) (controller.apply platform xrayTools store : Call Empty _)
      (fun reported state =>
        AtomicOnDisk xrayTools
          (Xray.buildConfigWithOutboundsOptions platform (listInbounds store) (listOutbounds store)
            (listRoutingRules store) controller.options)
          controller.normalizedConfigPath files reported.1.applied reported.1.appliedHash reported.2 state ∧
        (reported.1.error = "validation_failed" →
          state controller.normalizedConfigPath = files controller.normalizedConfigPath))
      (fun _ _ => False) ∧
    Triple (fun state => state = files) (applyBuiltSingboxConfig singboxTools built : Call Empty _)
      (fun reported state => AtomicOnDisk singboxTools built.generated Singbox.defaultConfigPath files
        reported.1.applied reported.1.appliedHash reported.2 state)
      fun _ _ => False :=
  ⟨controller.apply_triple platform xrayTools store files plain, applyBuiltSingboxConfig_triple singboxTools built files⟩

def exampleTools {κ : Type} : CoreTools κ where
  marshalIndent _ := .ok [123, 125]
  normalizedJSON data := .ok data
  hashBytes _ := "44136fa355b3678a"
  accepts _ := .ok ()

def exampleController : RealController where
  configPath := ""
  options := default

/-- The first restart fails; every temporary file has a name of its own. -/
def exampleOutcomes (number : Nat) : Outcome where
  fault := if number = 15 then some "exit status 1" else none
  left := []
  output := ""
  random := number

def exampleFiles : Files :=
  fun path => if path = xrayConfigFile then some [123, 32, 125] else none

theorem plain_xrayConfigFile : PlainPath exampleController.normalizedConfigPath ".xray-" ".json" := by
  have parts : exampleController.normalizedConfigPath = "/etc/migate/cores" ++ "/" ++ "xray.json" := by with_unfolding_all decide
  rw [parts]
  exact .of_head (by decide) (by decide) (by decide) (by decide)

/-- What is left after the application to the example. -/
def exampleApplied : Except Empty (XrayApplyResult × Option (Aftermath (String × String))) × Files × Nat :=
  exampleController.apply examplePlatform exampleTools Store.initial exampleOutcomes (exampleFiles, 0)

theorem example_restored : exampleApplied.2.1 xrayConfigFile = some [123, 32, 125] := by
  have atomic := (config_apply_atomic exampleController examplePlatform exampleTools exampleTools Store.initial
    (builtSingboxConfig (.error "")) exampleFiles plain_xrayConfigFile).1 exampleOutcomes exampleFiles 0 rfl
  have reported : exampleApplied.1.toOption.map (fun reported => (reported.1.applied, reported.2)) =
      some (false, some (.restored ("", "exit status 1") none)) := by
    with_unfolding_all decide
  have run : exampleController.apply examplePlatform exampleTools Store.initial exampleOutcomes (exampleFiles, 0) =
      exampleApplied := rfl
  have path : exampleController.normalizedConfigPath = xrayConfigFile := by with_unfolding_all decide
  rw [run, path] at atomic
  cases ran : exampleApplied with
  | mk result session =>
      rw [ran] at atomic reported
      cases result with
      | error reason => exact absurd atomic id
      | ok found =>
          obtain ⟨refused, aftermath⟩ := Prod.mk.inj (Option.some.inj reported)
          refine atomic.1.refused refused [123, 32, 125] rfl fun failure reason same => ?_
          rw [aftermath] at same
          cases same

end MiGate.Web
