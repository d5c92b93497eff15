import MiGate.Config.Apply

namespace MiGate.Singbox

open Go Config Fallible Attempt Disk

/-! `ApplyConfig`: a configuration is tested beside the one in use, put in its place, and the service is
restarted; a restart that fails brings the previous one back. -/

def defaultConfigPath : String :=
  "/etc/migate/cores/sing-box.json"

def serviceName : String :=
  "migate-sing-box"

/-- An error, and beside it what happened to the file at the live path, if it was replaced. -/
structure ApplyError where
  message : String
  aftermath : Option (Aftermath String)

def before (context reason : String) : ApplyError :=
  { message := context ++ ": " ++ reason, aftermath := none }

variable {κ : Type}

/-- `CheckConfigPath`: the binary and the file are looked at before the test. -/
def checkConfigPath (tools : CoreTools κ) (path : String) : Call String Unit := do
  settle.orFail fun status => "sing-box binary check failed: " ++ status
  let found ← (stat path).orFail fun status => "sing-box config file check failed: " ++ status
  check (require found ("sing-box config file check failed: not_exists: " ++ path))
  (testConfig tools path).orFail fun failure =>
    "sing-box config check failed for " ++ path ++ ": " ++ commandDetail failure ++ ": " ++ failure.2

/-- `RestartService`. -/
def restartService : Call String Unit :=
  Config.restartService.orFail fun failure => "systemctl restart " ++ serviceName ++ " failed: " ++ failure.2

/-- From the new temporary file to the one in use; the result is the copy of the previous one, if there was one. -/
def installConfig (tools : CoreTools κ) (tmpPath : String) (raw : Content) : Call ApplyError (Option String) := do
  fill tmpPath raw (before "write temp config") (before "chmod temp config") (before "close temp config")
  (checkConfigPath tools tmpPath).orFail (before "config check failed")
  let found ← (stat defaultConfigPath).orFail (before "stat current config")
  let backupFailed := before "backup current config"
  let backupPath ← backUpIf found defaultConfigPath ".config-backup-" ".json" backupFailed backupFailed
    (fun _ => backupFailed) fun _ => backupFailed
  (rename tmpPath defaultConfigPath).orFail (before "install config")
  pure backupPath

def restartError (aftermath : Aftermath String) : ApplyError where
  aftermath := some aftermath
  message :=
    match aftermath with
    | .unbacked failure =>
        failure ++ "; new config was installed but service did not start because no previous config was available to restore"
    | .unrestored failure reason => failure ++ "; restore previous config failed: " ++ reason
    | .restored failure none => failure
    | .restored failure (some again) => failure ++ "; previous config restored but restart failed: " ++ again

def applyConfig (tools : CoreTools κ) (raw : Content) : Call ApplyError Unit := do
  settle.orFail fun status => before "prepare config dir" ("sing-box config directory check failed: " ++ status)
  settle.orFail fun status => before ("prepare config path " ++ defaultConfigPath) status
  let tmpPath ← (createTemp (dirOf defaultConfigPath) ".config-" ".json").orFail (before "create temp config")
  deferring (do
      let backupPath ← installConfig tools tmpPath raw
      (startOrRestore restartService defaultConfigPath backupPath).orFail restartError)
    (remove tmpPath)

/-! ### The file at the live path -/

variable {tools : CoreTools κ} {tmpPath : String} {raw : Content} {files : Files}

def Untouched (files : Files) (error : ApplyError) (state : Files) : Prop :=
  error.aftermath = none ∧ Kept defaultConfigPath files state

theorem checkConfigPath_triple (present : files tmpPath = some raw) :
    Triple (fun state => state = files) (checkConfigPath tools tmpPath)
      (fun _ state => state = files ∧ tools.accepts raw = .ok ()) fun _ state => state = files := by
  refine Triple.bind (Triple.orFail settle_triple) fun _ => ?_
  refine Triple.bind (Triple.orFail (stat_triple files)) fun found => ?_
  have required : Triple (fun state => state = files ∧ found = (files tmpPath).isSome)
      (check (require found ("sing-box config file check failed: not_exists: " ++ tmpPath)) : Call String Unit)
      (fun _ state => state = files) fun _ state => state = files :=
    Triple.check (fun _ _ _ given => given.1) fun _ _ _ given => given.1
  exact required.bind fun _ => Triple.orFail (testConfig_triple tools present)

theorem restartService_triple (P : Files → Prop) : Triple P restartService (fun _ => P) fun _ => P :=
  Triple.orFail (Config.restartService_triple P)

theorem installConfig_triple (present : files tmpPath = some []) (apart : defaultConfigPath ≠ tmpPath) :
    Triple (fun state => state = files) (installConfig tools tmpPath raw)
      (fun backupPath state => tools.accepts raw = .ok () ∧ Installed raw defaultConfigPath files backupPath state)
      (Untouched files) := by
  have untouched : ∀ context reason, (before context reason).aftermath = none := fun _ _ => rfl
  have keep : ∀ content, Kept defaultConfigPath files (Function.update files tmpPath content) := fun _ => Kept.update apart _
  have put : Function.update files tmpPath (some raw) tmpPath = some raw := Function.update_self _ _ _
  have previous : Function.update files tmpPath (some raw) defaultConfigPath = files defaultConfigPath :=
    Function.update_of_ne apart _ _
  have filled := @fill_triple ApplyError files tmpPath raw (fun error => error.aftermath = none) _ _ _ present
    (untouched "write temp config") (untouched "chmod temp config") (untouched "close temp config")
  refine Triple.bind (filled.weaken (fun _ => id) (fun _ _ => id) ?_) fun _ => ?_
  · intro error state changed
    obtain ⟨mark, content, rfl⟩ := changed
    exact ⟨mark, keep content⟩
  · refine Triple.bind (Triple.orFail ((checkConfigPath_triple put).weaken (fun _ => id) (fun _ _ => id) ?_)) fun _ => ?_
    · intro reason state same
      exact ⟨rfl, same ▸ keep _⟩
    · apply Triple.each
      intro state given
      obtain ⟨rfl, accepted⟩ := given
      refine Triple.bind (Triple.orFail ((stat_triple _).weaken (fun _ => id) (fun _ _ => id) ?_)) fun found => ?_
      · intro reason state same
        exact ⟨rfl, same ▸ keep _⟩
      · apply Triple.each
        intro state given
        obtain ⟨rfl, known⟩ := given
        have backed := @backUpIf_triple ApplyError _ tmpPath defaultConfigPath raw (fun error => error.aftermath = none)
          (before "backup current config") (before "backup current config") (fun _ => before "backup current config")
          (fun _ => before "backup current config") ".config-backup-" ".json" found apart put known (fun _ => rfl)
          (fun _ => rfl) (fun _ _ => rfl) fun _ _ => rfl
        refine Triple.bind (backed.weaken (fun _ => id) (fun _ _ => id) ?_) fun backupPath => ?_
        · intro error state stopped
          exact ⟨stopped.1, stopped.2.trans previous⟩
        · refine Triple.bind (Triple.orFail (Staged.rename.weaken (fun _ => id) (fun _ _ => id) ?_)) fun _ => ?_
          · intro reason state kept
            exact ⟨rfl, kept.trans previous⟩
          · refine (Triple.pure backupPath).weaken ?_ (fun _ _ => id) fun _ _ => id
            exact fun state installed => ⟨accepted, installed.congr previous⟩

theorem plain_defaultConfigPath : PlainPath defaultConfigPath ".config-" ".json" := by
  have parts : defaultConfigPath = "/etc/migate/cores" ++ "/" ++ "sing-box.json" := by decide
  rw [parts]
  exact .of_head (by decide) (by decide) (by decide) (by decide)

theorem applyConfig_triple :
    Triple (fun state => state = files) (applyConfig tools raw)
      (fun _ state => tools.accepts raw = .ok () ∧ state defaultConfigPath = some raw)
      fun error state => Accounts tools.accepts raw defaultConfigPath files error.aftermath state := by
  have settled : ∀ {convert : String → ApplyError}, (∀ reason, (convert reason).aftermath = none) →
      Triple (fun state => state = files) (settle.orFail convert) (fun _ state => state = files)
        fun error state => Accounts tools.accepts raw defaultConfigPath files error.aftermath state := by
    intro convert untouched
    refine Triple.orFail (settle_triple.weaken (fun _ => id) (fun _ _ => id) fun reason state same => ?_)
    rw [untouched reason]
    exact .of_kept (congrFun same _)
  refine (settled fun _ => rfl).bind fun _ => (settled fun _ => rfl).bind fun _ => ?_
  refine Triple.bind (Triple.orFail ((createTemp_triple files _ _ _).weaken (fun _ => id) (fun _ _ => id) ?_))
    fun tmpPath => ?_
  · exact fun reason state same => .of_kept (congrFun same _)
  · apply Triple.each
    intro state made
    obtain ⟨⟨random, named⟩, free, rfl⟩ := made
    have apart : defaultConfigPath ≠ tmpPath := named ▸ plain_defaultConfigPath random
    have same : Function.update files tmpPath (some []) defaultConfigPath = files defaultConfigPath :=
      Function.update_of_ne apart _ _
    have started : Triple (fun state => state = Function.update files tmpPath (some [])) (installConfig tools tmpPath raw)
        (fun backupPath state => tools.accepts raw = .ok () ∧ Installed raw defaultConfigPath files backupPath state)
        fun error state => Accounts tools.accepts raw defaultConfigPath files error.aftermath state := by
      refine (installConfig_triple (Function.update_self _ _ _) apart).weaken (fun _ => id) ?_ ?_
      · exact fun _ _ given => ⟨given.1, given.2.congr same⟩
      · intro error state untouched
        rw [untouched.1]
        exact .of_kept (untouched.2.trans same)
    have body : Triple (fun state => state = Function.update files tmpPath (some []))
        (do
          let backupPath ← installConfig tools tmpPath raw
          (startOrRestore restartService defaultConfigPath backupPath).orFail restartError)
        (fun _ state => tools.accepts raw = .ok () ∧ state defaultConfigPath = some raw)
        fun error state => Accounts tools.accepts raw defaultConfigPath files error.aftermath state := by
      refine started.bind fun backupPath => Triple.each fun state given => ?_
      obtain ⟨accepted, installed⟩ := given
      have restarted := @startOrRestore_triple files defaultConfigPath raw _ _ backupPath restartService_triple
      refine Triple.orFail (restarted.weaken (fun start here => here ▸ installed) ?_ ?_)
      · exact fun _ _ current => ⟨accepted, current⟩
      · exact fun _ _ described => .of_aftermath accepted described
    refine Triple.deferring body (fun _ => ?_) fun error => ?_
    · refine Triple.each fun state given => ?_
      refine (Kept.remove apart).weaken (fun start here => congrFun here defaultConfigPath) ?_ ?_
      · exact fun _ _ kept => ⟨given.1, kept.trans given.2⟩
      · exact fun _ _ kept => ⟨given.1, kept.trans given.2⟩
    · refine Triple.each fun state accounts => ?_
      refine (Kept.remove apart).weaken (fun start here => congrFun here defaultConfigPath) ?_ ?_
      · exact fun _ _ kept => accounts.congr kept
      · exact fun _ _ kept => accounts.congr kept

end MiGate.Singbox
