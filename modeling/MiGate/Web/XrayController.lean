import MiGate.Config.Apply
import MiGate.Db.Outbounds
import MiGate.Db.Routing
import MiGate.Xray.Config

namespace MiGate.Web

open Go Db Config Fallible Attempt Disk

/-! `RealController.Apply`: the configuration is generated, tested beside the one in use, put in its
place, and the service is restarted; a restart that fails brings the previous one back. -/

def xrayConfigFile : String :=
  "/etc/migate/cores/xray.json"

def xrayService : String :=
  "migate-xray"

structure XrayApplyResult where
  applied : Bool
  status : String
  service : String
  configPath : String
  commandsExecuted : List String
  error : String
  detail : String
  warnings : List String
  inbounds : Nat
  outbounds : Nat
  rules : Nat
  errorOutput : String
  appliedHash : String
deriving DecidableEq, Repr

/-- The arguments of `fail` with the commands so far, and beside them what happened to the file at the
live path, if it was replaced. -/
structure Setback where
  code : String
  detail : String
  executed : List String
  aftermath : Option (Aftermath (String × String))

def xrayApplyStatusForError (code : String) : String :=
  if code = "validation_failed" then "failed: validation"
  else if code = "restart_failed" then "failed: restart"
  else "failed: " ++ code

def stopped (executed : List String) (code detail : String) : Setback :=
  { code, detail, executed, aftermath := none }

structure RealController where
  configPath : String
  options : ManagementDirectOptions

def RealController.normalizedConfigPath (controller : RealController) : String :=
  if trimSpace controller.configPath = "" then xrayConfigFile else trimSpace controller.configPath

/-- From the new temporary file to the one in use; the result is the copy of the previous one, if there was one. -/
def installXrayConfig (tools : CoreTools Xray.Config) (configPath tmpPath : String) (data : Content) :
    Call Setback (Option String) := do
  fill tmpPath data (stopped [] "write_temp_failed") (stopped [] "chmod_temp_failed") (stopped [] "close_temp_failed")
  let executed := ["xray run -test -c <temp>"]
  (testConfig tools tmpPath).orFail fun failure => stopped executed "validation_failed" (commandDetail failure)
  let found ← (stat configPath).orFail (stopped executed "stat_config_failed")
  let backupFailed := fun (path reason : String) => stopped executed "backup_failed" (path ++ ": " ++ reason)
  let backupPath ← backUpIf found configPath ".xray-backup-" ".json" (backupFailed configPath)
    (backupFailed configPath) backupFailed backupFailed
  (rename tmpPath configPath).orFail fun reason => stopped executed "write_failed" (configPath ++ ": " ++ reason)
  pure backupPath

/-- What is reported of a restart that has failed. -/
def restartFailed (executed : List String) (aftermath : Aftermath (String × String)) : Setback :=
  let restored := executed ++ ["restore previous config", "systemctl restart " ++ xrayService]
  match aftermath with
  | .unbacked failure =>
      { code := "restart_failed", detail := commandDetail failure, executed, aftermath := some aftermath }
  | .unrestored failure reason =>
      { code := "restart_failed", executed, aftermath := some aftermath
        detail := commandDetail failure ++ "; restore previous config failed: " ++ reason }
  | .restored failure none =>
      { code := "restart_failed", detail := commandDetail failure, executed := restored, aftermath := some aftermath }
  | .restored failure (some again) =>
      { code := "restart_failed", executed := restored, aftermath := some aftermath
        detail := commandDetail failure ++ "; previous config restored but restart failed: " ++ commandDetail again }

def applyXrayData (tools : CoreTools Xray.Config) (configPath : String) (data : Content) : Call Setback (List String) := do
  settle.orFail (stopped [] "create_config_dir_failed")
  let tmpPath ← (createTemp (dirOf configPath) ".xray-" ".json").orFail (stopped [] "create_temp_failed")
  let backupPath ← (installXrayConfig tools configPath tmpPath data).onError (remove tmpPath)
  let executed := ["xray run -test -c <temp>", "write " ++ configPath, "systemctl restart " ++ xrayService]
  (startOrRestore restartService configPath backupPath).orFail (restartFailed executed)
  pure executed

/-- The configuration of the rows, which are read one table after the other. -/
def generateXrayConfig (platform : Platform) (options : ManagementDirectOptions) (store : Store) :
    Call Setback Xray.Config := do
  settle.orFail (stopped [] "list_inbounds_failed")
  settle.orFail (stopped [] "list_outbounds_failed")
  settle.orFail (stopped [] "list_routing_rules_failed")
  check ((Xray.buildConfigWithOutboundsOptions platform (listInbounds store) (listOutbounds store)
    (listRoutingRules store) options).mapError (stopped [] "build_failed"))

def XrayApplyResult.fail (result : XrayApplyResult) (setback : Setback) : XrayApplyResult :=
  { result with
    applied := false, status := xrayApplyStatusForError setback.code, error := setback.code
    detail := setback.detail, errorOutput := setback.detail, commandsExecuted := setback.executed }

/-- The result, and beside it what happened to the file, if a restart has failed. -/
def RealController.apply {ε : Type} (controller : RealController) (platform : Platform)
    (tools : CoreTools Xray.Config) (store : Store) : Call ε (XrayApplyResult × Option (Aftermath (String × String))) := do
  let configPath := controller.normalizedConfigPath
  let result : XrayApplyResult :=
    { applied := false, status := "failed", service := "xray", configPath, commandsExecuted := [], error := ""
      detail := "", warnings := [], inbounds := 0, outbounds := 0, rules := 0, errorOutput := "", appliedHash := "" }
  let generated ← (generateXrayConfig platform controller.options store).result
  match generated with
  | .error setback => pure (result.fail setback, setback.aftermath)
  | .ok config =>
      let result := { result with
        inbounds := config.inbounds.length, outbounds := config.outbounds.length
        rules := (config.routing.map fun (routing : Xray.RoutingConfig) => routing.rules.length).getD 0 }
      match encodeConfig tools config with
      | .error reason =>
          let setback := stopped [] "marshal_failed" reason
          pure (result.fail setback, setback.aftermath)
      | .ok (data, hash) =>
          let result := { result with appliedHash := hash }
          let installed ← (applyXrayData tools configPath data).result
          match installed with
          | .error setback => pure (result.fail setback, setback.aftermath)
          | .ok executed => pure ({ result with applied := true, status := "applied", commandsExecuted := executed }, none)

/-! ### The file at the live path -/

variable {tools : CoreTools Xray.Config} {configPath tmpPath : String} {data : Content} {files : Files}

def Untouched (live : String) (files : Files) (setback : Setback) (state : Files) : Prop :=
  setback.aftermath = none ∧ Kept live files state

theorem installXrayConfig_triple (present : files tmpPath = some []) (apart : configPath ≠ tmpPath) :
    Triple (fun state => state = files) (installXrayConfig tools configPath tmpPath data)
      (fun backupPath state => tools.accepts data = .ok () ∧ Installed data configPath files backupPath state)
      (Untouched configPath files) := by
  have untouched : ∀ executed code detail, (stopped executed code detail).aftermath = none := fun _ _ _ => rfl
  have keep : ∀ content, Kept configPath files (Function.update files tmpPath content) := fun _ => Kept.update apart _
  have put : Function.update files tmpPath (some data) tmpPath = some data := Function.update_self _ _ _
  have previous : Function.update files tmpPath (some data) configPath = files configPath := Function.update_of_ne apart _ _
  have filled := @fill_triple Setback files tmpPath data (fun setback => setback.aftermath = none) _ _ _ present
    (untouched [] "write_temp_failed") (untouched [] "chmod_temp_failed") (untouched [] "close_temp_failed")
  refine Triple.bind (filled.weaken (fun _ => id) (fun _ _ => id) ?_) fun _ => ?_
  · intro setback state changed
    obtain ⟨mark, content, rfl⟩ := changed
    exact ⟨mark, keep content⟩
  · refine Triple.bind (Triple.orFail ((testConfig_triple tools put).weaken (fun _ => id) (fun _ _ => id) ?_)) fun _ => ?_
    · intro failure state same
      exact ⟨rfl, same ▸ keep _⟩
    · apply Triple.each
      intro state given
      obtain ⟨rfl, accepted⟩ := given
      refine Triple.bind (Triple.orFail ((stat_triple _).weaken (fun _ => id) (fun _ _ => id) ?_)) fun found => ?_
      · intro reason state same
        exact ⟨rfl, same ▸ keep _⟩
      · apply Triple.each
        intro state given
        obtain ⟨rfl, known⟩ := given
        have backed := @backUpIf_triple Setback _ tmpPath configPath data (fun setback => setback.aftermath = none)
          (fun reason => stopped ["xray run -test -c <temp>"] "backup_failed" (configPath ++ ": " ++ reason))
          (fun reason => stopped ["xray run -test -c <temp>"] "backup_failed" (configPath ++ ": " ++ reason))
          (fun path reason => stopped ["xray run -test -c <temp>"] "backup_failed" (path ++ ": " ++ reason))
          (fun path reason => stopped ["xray run -test -c <temp>"] "backup_failed" (path ++ ": " ++ reason))
          ".xray-backup-" ".json" found apart put known (fun _ => rfl) (fun _ => rfl) (fun _ _ => rfl) fun _ _ => rfl
        refine Triple.bind (backed.weaken (fun _ => id) (fun _ _ => id) ?_) fun backupPath => ?_
        · intro setback state stopped
          exact ⟨stopped.1, stopped.2.trans previous⟩
        · refine Triple.bind (Triple.orFail (Staged.rename.weaken (fun _ => id) (fun _ _ => id) ?_)) fun _ => ?_
          · intro reason state kept
            exact ⟨rfl, kept.trans previous⟩
          · refine (Triple.pure backupPath).weaken ?_ (fun _ _ => id) fun _ _ => id
            exact fun state installed => ⟨accepted, installed.congr previous⟩

theorem restartFailed_aftermath (executed : List String) (aftermath : Aftermath (String × String)) :
    (restartFailed executed aftermath).aftermath = some aftermath ∧
      (restartFailed executed aftermath).code = "restart_failed" := by
  unfold restartFailed
  split <;> exact ⟨rfl, rfl⟩

/-- What a failure tells; one of the test is none of a restart. -/
def Told (tools : CoreTools Xray.Config) (data : Content) (live : String) (files : Files) (setback : Setback)
    (state : Files) : Prop :=
  Accounts tools.accepts data live files setback.aftermath state ∧
    (setback.code = "validation_failed" → setback.aftermath = none)

theorem Told.of_untouched {setback : Setback} {state : Files} (untouched : Untouched configPath files setback state) :
    Told tools data configPath files setback state := by
  refine ⟨?_, fun _ => untouched.1⟩
  rw [untouched.1]
  exact .of_kept untouched.2

theorem Told.of_restart {executed : List String} {aftermath : Aftermath (String × String)} {state : Files}
    (accepted : tools.accepts data = .ok ()) (described : aftermath.Describes data configPath files state) :
    Told tools data configPath files (restartFailed executed aftermath) state := by
  obtain ⟨happened, code⟩ := restartFailed_aftermath executed aftermath
  refine ⟨?_, fun other => ?_⟩
  · rw [happened]
    exact .of_aftermath accepted described
  · rw [code] at other
    exact absurd other (by decide)

theorem applyXrayData_triple (plain : PlainPath configPath ".xray-" ".json") :
    Triple (fun state => state = files) (applyXrayData tools configPath data)
      (fun _ state => tools.accepts data = .ok () ∧ state configPath = some data)
      (Told tools data configPath files) := by
  refine Triple.bind (Triple.orFail (settle_triple.weaken (fun _ => id) (fun _ _ => id) ?_)) fun _ => ?_
  · intro reason state same
    exact .of_untouched ⟨rfl, congrFun same configPath⟩
  · refine Triple.bind (Triple.orFail ((createTemp_triple files _ _ _).weaken (fun _ => id) (fun _ _ => id) ?_))
      fun tmpPath => ?_
    · intro reason state same
      exact .of_untouched ⟨rfl, congrFun same configPath⟩
    · apply Triple.each
      intro state made
      obtain ⟨⟨random, named⟩, free, rfl⟩ := made
      have apart : configPath ≠ tmpPath := named ▸ plain random
      have same : Function.update files tmpPath (some []) configPath = files configPath := Function.update_of_ne apart _ _
      have installed : Triple (fun state => state = Function.update files tmpPath (some []))
          (installXrayConfig tools configPath tmpPath data)
          (fun backupPath state => tools.accepts data = .ok () ∧ Installed data configPath files backupPath state)
          (Untouched configPath files) := by
        refine (installXrayConfig_triple (Function.update_self _ _ _) apart).weaken (fun _ => id) ?_ ?_
        · exact fun _ _ given => ⟨given.1, given.2.congr same⟩
        · exact fun _ _ untouched => ⟨untouched.1, untouched.2.trans same⟩
      refine Triple.bind (Triple.onError installed fun setback => ?_) fun backupPath => ?_
      · refine Triple.each fun state untouched => ?_
        refine (Kept.remove apart).weaken (fun start here => here ▸ untouched.2) ?_ ?_
        · exact fun _ _ kept => .of_untouched ⟨untouched.1, kept⟩
        · exact fun _ _ kept => .of_untouched ⟨untouched.1, kept⟩
      · refine Triple.each fun state given => ?_
        obtain ⟨accepted, installed⟩ := given
        have restarted := @startOrRestore_triple files configPath data _ _ backupPath restartService_triple
        refine Triple.bind (Triple.orFail (restarted.weaken ?_ (fun _ _ => id) ?_)) fun _ => ?_
        · exact fun start here => here ▸ installed
        · exact fun _ _ described => .of_restart accepted described
        · exact (Triple.pure _).weaken (fun _ current => ⟨accepted, current⟩) (fun _ _ => id) fun _ _ => id

/-! ### The result -/

theorem generateXrayConfig_triple {platform : Platform} {options : ManagementDirectOptions} {store : Store} :
    Triple (fun state => state = files) (generateXrayConfig platform options store)
      (fun config state => state = files ∧ Xray.buildConfigWithOutboundsOptions platform (listInbounds store)
        (listOutbounds store) (listRoutingRules store) options = .ok config)
      fun setback state => setback.aftermath = none ∧ state = files := by
  have listed : ∀ code, Triple (fun state => state = files) (settle.orFail (stopped [] code))
      (fun _ state => state = files) fun setback state => setback.aftermath = none ∧ state = files := by
    intro code
    exact Triple.orFail (settle_triple.weaken (fun _ => id) (fun _ _ => id) fun _ _ same => ⟨rfl, same⟩)
  refine (listed _).bind fun _ => (listed _).bind fun _ => (listed _).bind fun _ => ?_
  cases built : Xray.buildConfigWithOutboundsOptions platform (listInbounds store) (listOutbounds store)
    (listRoutingRules store) options with
  | error reason =>
      refine Triple.check nofun fun setback same state here => ?_
      cases same
      exact ⟨rfl, here⟩
  | ok config =>
      refine Triple.check (fun value same state here => ?_) nofun
      cases same
      exact ⟨here, rfl⟩

theorem RealController.apply_triple {ε : Type} (controller : RealController) (platform : Platform)
    (tools : CoreTools Xray.Config) (store : Store) (files : Files)
    (plain : PlainPath controller.normalizedConfigPath ".xray-" ".json") :
    Triple (fun state => state = files) (controller.apply platform tools store : Call ε _)
      (fun reported state =>
        AtomicOnDisk tools
          (Xray.buildConfigWithOutboundsOptions platform (listInbounds store) (listOutbounds store)
            (listRoutingRules store) controller.options)
          controller.normalizedConfigPath files reported.1.applied reported.1.appliedHash reported.2 state ∧
        (reported.1.error = "validation_failed" →
          state controller.normalizedConfigPath = files controller.normalizedConfigPath))
      fun _ _ => False := by
  refine Triple.bind (Triple.result (fun generated state => state = files ∧
    match generated with
    | .ok config => Xray.buildConfigWithOutboundsOptions platform (listInbounds store) (listOutbounds store)
        (listRoutingRules store) controller.options = .ok config
    | .error setback => setback.aftermath = none) ?_) fun generated => ?_
  · exact generateXrayConfig_triple.weaken (fun _ => id) (fun _ _ => id) fun _ _ stopped => ⟨stopped.2, stopped.1⟩
  · cases generated with
    | error setback =>
        refine (Triple.pure _).weaken (fun state given => ?_) (fun _ _ => id) fun _ _ => id
        have kept := congrFun given.1 controller.normalizedConfigPath
        dsimp only
        rw [given.2]
        exact ⟨.of_unmoved kept, fun _ => kept⟩
    | ok config =>
        refine Triple.each fun state given => ?_
        obtain ⟨rfl, built⟩ := given
        dsimp only
        cases encoded : encodeConfig tools config with
        | error reason =>
            refine (Triple.pure _).weaken (fun start here => ?_) (fun _ _ => id) fun _ _ => id
            have kept := congrFun here controller.normalizedConfigPath
            exact ⟨.of_unmoved kept, fun _ => kept⟩
        | ok written =>
            obtain ⟨data, hash⟩ := written
            obtain ⟨written, hashed⟩ := encodeConfig_eq_ok.mp encoded
            dsimp only
            refine Triple.bind (Triple.result (fun installed after =>
              match installed with
              | .ok _ => tools.accepts data = .ok () ∧ after controller.normalizedConfigPath = some data
              | .error setback => Told tools data controller.normalizedConfigPath state setback after)
              (applyXrayData_triple plain)) fun installed => ?_
            cases installed with
            | error setback =>
                refine (Triple.pure _).weaken (fun after told => ?_) (fun _ _ => id) fun _ _ => id
                exact ⟨.of_accounts built written told.1, fun untested => told.1.untouched (told.2 untested)⟩
            | ok executed =>
                refine (Triple.pure _).weaken (fun after current => ?_) (fun _ _ => id) fun _ _ => id
                refine ⟨.of_inUse built written current.1 current.2 hashed, fun untested => ?_⟩
                exact absurd (show "" = "validation_failed" from untested) (by decide)

end MiGate.Web
