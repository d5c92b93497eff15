import MiGate.Web.DashboardSummary

namespace MiGate.Web

open Go Db Config Relational Transition

variable {around : ValidationSurroundings} {past later : List VersionedStore} {dashboard after : Dashboard}

/-! A dashboard whose requests are not disturbed shows validations of states the store has had. -/

/-- What validating some state of the store with this version gives. -/
def Genuine (around : ValidationSurroundings) (past : List VersionedStore) (version : Int)
    (validation : DashboardValidation) : Prop :=
  ∃ seen ∈ past, seen.version = version ∧
    validation = buildDashboardValidation around (validationSnapshotOf seen.store)

def DashboardReading.Seen (reading : DashboardReading) (past : List VersionedStore) : Prop :=
  reading.seen ∈ past ∧ reading.version = reading.seen.version

/-- The outbounds and rules of a reading are those of the store it saw. -/
def DashboardReading.Holds (reading : DashboardReading) : Prop :=
  reading.outbounds = listOutbounds reading.seen.store ∧ reading.rules = listRoutingRules reading.seen.store

def DashboardStage.Sound (around : ValidationSurroundings) (past : List VersionedStore) : DashboardStage → Prop
  | .versionRead reading => reading.Seen past
  | .missed reading => reading.Seen past ∧ reading.Holds
  | .inboundsRead reading rows => reading.Seen past ∧ reading.Holds ∧ rows = reading.seen.store.inbounds.rows
  | .snapshotRead reading snapshot => reading.Seen past ∧
      buildDashboardValidation around snapshot =
        buildDashboardValidation around (validationSnapshotOf reading.seen.store)
  | .summarized summary => Genuine around past summary.version summary.validation
  | _ => True

structure DashboardSound (around : ValidationSurroundings) (dashboard : Dashboard) : Prop where
  current : dashboard.versioned ∈ dashboard.past
  versions : ∀ seen ∈ dashboard.past, 0 ≤ seen.version
  validation : ∀ value, dashboard.cache.validationValue = some value → ∃ version,
    dashboard.cache.validationKey = dashboardConfigKey version ∧ Genuine around dashboard.past version value
  value : ∀ summary, dashboard.cache.value = some summary →
    Genuine around dashboard.past summary.version summary.validation
  answers : ∀ summary ∈ dashboard.answers, Genuine around dashboard.past summary.version summary.validation
  stages : ∀ request, (dashboard.requests request).Sound around dashboard.past

theorem Genuine.mono {version : Int} {validation : DashboardValidation} (more : past ⊆ later)
    (genuine : Genuine around past version validation) : Genuine around later version validation := by
  obtain ⟨seen, member, same, validated⟩ := genuine
  exact ⟨seen, more member, same, validated⟩

theorem DashboardStage.Sound.mono {stage : DashboardStage} (more : past ⊆ later) (sound : stage.Sound around past) :
    stage.Sound around later := by
  cases stage with
  | versionRead reading => exact ⟨more sound.1, sound.2⟩
  | missed reading => exact ⟨⟨more sound.1.1, sound.1.2⟩, sound.2⟩
  | inboundsRead reading rows => exact ⟨⟨more sound.1.1, sound.1.2⟩, sound.2⟩
  | snapshotRead reading snapshot => exact ⟨⟨more sound.1.1, sound.1.2⟩, sound.2⟩
  | summarized summary => exact Genuine.mono more sound
  | _ => trivial

theorem dashboardConfigKey_inj {left right : Int} (leftNonneg : 0 ≤ left) (rightNonneg : 0 ≤ right)
    (same : dashboardConfigKey left = dashboardConfigKey right) : left = right := by
  have runes := congrArg String.toList same
  rw [dashboardConfigKey, dashboardConfigKey, String.toList_append, String.toList_append] at runes
  exact itoa_inj leftNonneg rightNonneg (String.toList_inj.mp (List.append_cancel_left runes))

theorem DashboardSound.move {request : Nat} {stage : DashboardStage} (sound : DashboardSound around dashboard)
    (staged : stage.Sound around dashboard.past) : DashboardSound around (dashboard.move request stage) where
  current := sound.current
  versions := sound.versions
  validation := sound.validation
  value := sound.value
  answers := sound.answers
  stages := by
    intro other
    dsimp only [Dashboard.move]
    split
    · exact staged
    · exact sound.stages other

theorem DashboardSound.answer {request : Nat} {summary : DashboardSummary}
    (sound : DashboardSound around dashboard)
    (genuine : Genuine around dashboard.past summary.version summary.validation) :
    DashboardSound around (dashboard.answer request summary) :=
  { (sound.move trivial : DashboardSound around (dashboard.move request .idle)) with
    answers := by
      intro other member
      rcases List.mem_cons.mp member with rfl | earlier
      · exact genuine
      · exact sound.answers other earlier }

theorem DashboardSound.write {next : VersionedStore} (sound : DashboardSound around dashboard)
    (grows : dashboard.versioned.version ≤ next.version) : DashboardSound around (dashboard.write next) where
  current := List.mem_cons_self
  versions := by
    intro seen member
    rcases List.mem_cons.mp member with rfl | earlier
    · exact Int.le_trans (sound.versions _ sound.current) grows
    · exact sound.versions seen earlier
  validation := by
    intro value cached
    obtain ⟨version, key, genuine⟩ := sound.validation value cached
    exact ⟨version, key, genuine.mono (List.subset_cons_self _ _)⟩
  value := fun summary cached => (sound.value summary cached).mono (List.subset_cons_self _ _)
  answers := fun summary member => (sound.answers summary member).mono (List.subset_cons_self _ _)
  stages := fun request => (sound.stages request).mono (List.subset_cons_self _ _)

theorem current_value {now : Int} {summary : DashboardSummary} {cache : DashboardSummaryCache}
    (held : cache.current now = some summary) : cache.value = some summary := by
  unfold DashboardSummaryCache.current at held
  split at held
  · exact held
  · cases held

/-- A validation found under a version is one of that version. -/
theorem DashboardSound.cached {now version : Int} {validation : DashboardValidation}
    (sound : DashboardSound around dashboard) (nonneg : 0 ≤ version)
    (hit : dashboard.cache.cachedValidation (dashboardConfigKey version) now = some validation) :
    Genuine around dashboard.past version validation := by
  unfold DashboardSummaryCache.cachedValidation at hit
  split at hit
  · rename_i fresh
    obtain ⟨stored, key, seen, member, same, validated⟩ := sound.validation validation hit
    have storedNonneg : 0 ≤ stored := same ▸ sound.versions seen member
    have equal : stored = version := dashboardConfigKey_inj storedNonneg nonneg (key.symm.trans fresh.1)
    exact ⟨seen, member, same.trans equal, validated⟩
  · cases hit

theorem joinClients_config (rows : List InboundRow) {left right : List Client}
    (same : left.map configClient = right.map configClient) :
    (joinClients rows left).map configInbound = (joinClients rows right).map configInbound := by
  have own : ∀ (row : InboundRow) (clients : List Client),
      (clients.filter fun client => client.inboundID == row.id).map configClient =
        (clients.map configClient).filter fun client => client.inboundID == row.id := by
    intro row clients
    rw [List.filter_map]
    rfl
  rw [joinClients, joinClients, List.map_map, List.map_map]
  refine List.map_congr_left fun row _ => ?_
  have clients : (left.filter fun client => client.inboundID == row.id).map configClient =
      (right.filter fun client => client.inboundID == row.id).map configClient := by
    rw [own, own, same]
  exact congrArg (fun clients => ({ loadInbound row with clients } : Inbound)) clients

/-! ### The turns of a request -/

variable {request : Nat} {now : Int}

theorem get_sound (sound : DashboardSound around dashboard) (done : dashboard.get request now = some after) :
    DashboardSound around after := by
  unfold Dashboard.get at done
  cases stage : dashboard.requests request with
  | idle =>
      simp only [stage] at done
      cases held : dashboard.cache.current now with
      | some summary =>
          simp only [held] at done
          rw [← Option.some.inj done]
          exact sound.answer (sound.value summary (current_value held))
      | none =>
          simp only [held] at done
          rw [← Option.some.inj done]
          exact sound.move trivial
  | _ => simp [stage] at done

theorem readBase_sound (sound : DashboardSound around dashboard) (done : dashboard.readBase request = some after) :
    DashboardSound around after := by
  unfold Dashboard.readBase at done
  cases stage : dashboard.requests request with
  | started =>
      simp only [stage] at done
      rw [← Option.some.inj done]
      exact sound.move trivial
  | outboundsRead outbounds =>
      simp only [stage] at done
      rw [← Option.some.inj done]
      exact sound.move trivial
  | _ => simp [stage] at done

theorem readVersion_sound (sound : DashboardSound around dashboard)
    (done : dashboard.readVersion request now = some after) : DashboardSound around after := by
  unfold Dashboard.readVersion at done
  cases stage : dashboard.requests request with
  | rulesRead outbounds rules =>
      simp only [stage] at done
      rw [← Option.some.inj done]
      exact sound.move ⟨sound.current, rfl⟩
  | _ => simp [stage] at done

theorem cachedValidation_sound (sound : DashboardSound around dashboard)
    (steady : undisturbed (.request request (.cachedValidation now)) dashboard = true)
    (done : dashboard.cachedValidation request now = some after) : DashboardSound around after := by
  have staged := sound.stages request
  unfold Dashboard.cachedValidation at done
  cases stage : dashboard.requests request with
  | versionRead reading =>
      rw [stage] at staged
      simp only [undisturbed, stage, Bool.or_eq_true, decide_eq_true_eq] at done steady
      have seen : reading.Seen dashboard.past := staged
      have nonneg : 0 ≤ reading.version := seen.2 ▸ sound.versions _ seen.1
      cases hit : dashboard.cache.cachedValidation (dashboardConfigKey reading.version) now with
      | some validation =>
          simp only [hit] at done
          rw [← Option.some.inj done]
          exact sound.move (sound.cached nonneg hit)
      | none =>
          simp only [hit] at done
          rw [← Option.some.inj done]
          exact sound.move ⟨seen, steady.resolve_left (by simp [hit])⟩
  | _ => simp [stage] at done

theorem readInbounds_sound (sound : DashboardSound around dashboard)
    (steady : undisturbed (.request request .readInbounds) dashboard = true)
    (done : dashboard.readInbounds request = some after) : DashboardSound around after := by
  have staged := sound.stages request
  unfold Dashboard.readInbounds at done
  cases stage : dashboard.requests request with
  | missed reading =>
      rw [stage] at staged
      simp only [undisturbed, stage, decide_eq_true_eq] at done steady
      obtain ⟨seen, holds⟩ := staged
      rw [← Option.some.inj done]
      exact sound.move ⟨seen, holds, steady⟩
  | inboundsRead reading rows =>
      rw [stage] at staged
      simp only [undisturbed, stage, decide_eq_true_eq] at done steady
      obtain ⟨seen, ⟨outbounds, rules⟩, same⟩ := staged
      rw [← Option.some.inj done]
      refine sound.move ⟨seen, buildDashboardValidation_congr around ?_ outbounds rules⟩
      rw [same]
      exact joinClients_config _ steady
  | _ => simp [stage] at done

theorem validate_sound (sound : DashboardSound around dashboard)
    (done : dashboard.validate around request = some after) : DashboardSound around after := by
  have staged := sound.stages request
  unfold Dashboard.validate at done
  cases stage : dashboard.requests request with
  | snapshotRead reading snapshot =>
      rw [stage] at staged
      simp only [stage] at done
      obtain ⟨⟨member, version⟩, validated⟩ := staged
      have genuine : Genuine around dashboard.past reading.version (buildDashboardValidation around snapshot) :=
        ⟨reading.seen, member, version.symm, validated⟩
      have summarized : (DashboardStage.summarized
          ⟨buildDashboardValidation around snapshot, reading.version⟩).Sound around dashboard.past := genuine
      rw [← Option.some.inj done]
      refine { (@DashboardSound.move _ _ request _ sound summarized) with validation := ?_ }
      intro value stored
      exact ⟨reading.version, rfl, Option.some.inj stored ▸ genuine⟩
  | _ => simp [stage] at done

theorem finish_sound {later : Int} (sound : DashboardSound around dashboard)
    (done : dashboard.finish request now later = some after) : DashboardSound around after := by
  have staged := sound.stages request
  unfold Dashboard.finish at done
  cases stage : dashboard.requests request with
  | summarized summary =>
      rw [stage] at staged
      simp only [stage] at done
      have genuine : Genuine around dashboard.past summary.version summary.validation := staged
      cases held : dashboard.cache.current now with
      | some other =>
          simp only [held] at done
          rw [← Option.some.inj done]
          exact sound.answer (sound.value other (current_value held))
      | none =>
          simp only [held] at done
          rw [← Option.some.inj done]
          refine { (@DashboardSound.answer _ _ request _ sound genuine) with value := ?_ }
          intro value stored
          exact Option.some.inj stored ▸ genuine
  | _ => simp [stage] at done

theorem turn_sound {turn : DashboardTurn} (sound : DashboardSound around dashboard)
    (steady : undisturbed (.request request turn) dashboard = true) (done : turn.run around request dashboard = some after) :
    DashboardSound around after := by
  cases turn with
  | get now => exact get_sound sound done
  | readBase => exact readBase_sound sound done
  | readVersion now => exact readVersion_sound sound done
  | cachedValidation now => exact cachedValidation_sound sound steady done
  | readInbounds => exact readInbounds_sound sound steady done
  | validate => exact validate_sound sound done
  | finish now later => exact finish_sound sound done
  | fail =>
      rw [← Option.some.inj done]
      exact sound.move trivial

theorem opened_sound {versioned : VersionedStore} (nonneg : 0 ≤ versioned.version) :
    DashboardSound around (Dashboard.opened versioned) where
  current := List.mem_singleton_self _
  versions := by
    intro seen member
    rw [List.mem_singleton.mp member]
    exact nonneg
  validation := fun _ stored => nomatch stored
  value := fun _ stored => nomatch stored
  answers := fun _ member => absurd member List.not_mem_nil
  stages := fun _ => trivial

theorem dashboard_sound {versioned : VersionedStore} (nonneg : 0 ≤ versioned.version)
    (reached : Reach (Guarded (fun action before => undisturbed action before = true) (DashboardStep around))
      (Dashboard.opened versioned) dashboard) :
    DashboardSound around dashboard := by
  induction reached with
  | start => exact opened_sound nonneg
  | @step before _ action _ stepped ih =>
      obtain ⟨steady, moved⟩ := stepped
      cases action with
      | write event =>
          obtain ⟨next, written, rfl⟩ := moved
          exact ih.write written.version_le
      | request number turn => exact turn_sound ih steady moved

/-- Every validation in the cache and in an answer is that of a state with its version. -/
theorem validations_of_one_state {versioned : VersionedStore}
    (opened : Reach (VersionStep around.platform) VersionedStore.initial versioned)
    (reached : Reach (Guarded (fun action before => undisturbed action before = true) (DashboardStep around))
      (Dashboard.opened versioned) dashboard) :
    (∀ validation, dashboard.cache.validationValue = some validation → ∃ seen ∈ dashboard.past,
        dashboard.cache.validationKey = dashboardConfigKey seen.version ∧
          validation = buildDashboardValidation around (validationSnapshotOf seen.store)) ∧
      ∀ answer ∈ dashboard.answers, ∃ seen ∈ dashboard.past, seen.version = answer.version ∧
        answer.validation = buildDashboardValidation around (validationSnapshotOf seen.store) := by
  have nonneg : 0 ≤ versioned.version := by
    have grown := version_mono opened
    have initial : 0 ≤ VersionedStore.initial.version := Int.add_nonneg (by decide) (Int.natCast_nonneg _)
    exact Int.le_trans initial grown
  have sound := dashboard_sound nonneg reached
  constructor
  · intro validation cached
    obtain ⟨version, key, seen, member, same, validated⟩ := sound.validation validation cached
    exact ⟨seen, member, same ▸ key, validated⟩
  · intro answer member
    exact sound.answers answer member

theorem turns_reach (turns : List (Nat × DashboardTurn)) (dashboard : Dashboard) :
    Reach (DashboardStep around) dashboard (arrive (dashboardTurn around) turns dashboard) :=
  (Reach.arrive (dashboardTurn around) turns dashboard).relabel (fun (number, turn) => .request number turn)
    fun _ _ _ stepped => stepped

theorem steady_turns_reach (turns : List (Nat × DashboardTurn)) (dashboard : Dashboard) :
    Reach (Guarded (fun action before => undisturbed action before = true) (DashboardStep around)) dashboard
      (arrive (restrict (fun turn => undisturbed (.request turn.1 turn.2)) (dashboardTurn around)) turns dashboard) :=
  (Reach.arrive_restrict _ (dashboardTurn around) turns dashboard).relabel (fun (number, turn) => .request number turn)
    fun _ _ _ stepped => stepped

def exampleSurroundings : ValidationSurroundings where
  platform := examplePlatform
  managementDirect := default
  capability := default

/-- An outbound is added to a new database. -/
def exampleAddition : StoreEvent :=
  .operate (.createOutbound "" { (default : CreateOutboundParams) with
    tag := "proxy", protocol := "socks", address := "proxy.example", port := 1080 })

def exampleAddedStore : VersionedStore :=
  let store := arrive (eventStep examplePlatform) [exampleAddition] Store.initial
  ⟨store, VersionedStore.initial.version + configFirings Store.initial store⟩

theorem exampleAddition_step :
    VersionStep examplePlatform (.event exampleAddition) VersionedStore.initial exampleAddedStore :=
  ⟨arrive_single (by with_unfolding_all decide), Int.le_refl _⟩

/-- A request that finds nothing cached, from its version query on. -/
def exampleBuild : List (Nat × DashboardTurn) :=
  [(0, .readVersion 0), (0, .cachedValidation 0), (0, .readInbounds), (0, .readInbounds), (0, .validate),
    (0, .finish 0 0), (1, .get 0)]

/-- The write comes before the request. -/
def exampleSteadyDashboard : Dashboard :=
  arrive (restrict (fun turn => undisturbed (.request turn.1 turn.2)) (dashboardTurn exampleSurroundings))
    ([(0, .get 0), (0, .readBase), (0, .readBase)] ++ exampleBuild) ((Dashboard.opened VersionedStore.initial).write
      exampleAddedStore)

theorem steady_request_validated :
    exampleSteadyDashboard.answers.length = 2 ∧
      ∀ answer ∈ exampleSteadyDashboard.answers, ∃ seen ∈ exampleSteadyDashboard.past, seen.version = answer.version ∧
        answer.validation = buildDashboardValidation exampleSurroundings (validationSnapshotOf seen.store) := by
  have written : Guarded (fun action before => undisturbed action before = true) (DashboardStep exampleSurroundings)
      (.write (.event exampleAddition)) (Dashboard.opened VersionedStore.initial)
      ((Dashboard.opened VersionedStore.initial).write exampleAddedStore) :=
    ⟨rfl, exampleAddedStore, exampleAddition_step, rfl⟩
  have reached : Reach (Guarded (fun action before => undisturbed action before = true)
      (DashboardStep exampleSurroundings)) (Dashboard.opened VersionedStore.initial) exampleSteadyDashboard :=
    (Reach.step .start written).trans (steady_turns_reach _ _)
  exact ⟨by with_unfolding_all decide, (validations_of_one_state .start reached).2⟩

/-- The write falls between the queries for the outbounds and for the version. -/
def exampleMixedDashboard : Dashboard :=
  arrive (dashboardTurn exampleSurroundings) ((0, .readBase) :: exampleBuild)
    ((arrive (dashboardTurn exampleSurroundings) [(0, .get 0), (0, .readBase)]
      (Dashboard.opened VersionedStore.initial)).write exampleAddedStore)

theorem mixed_validation_cached :
    ¬ ∀ (around : ValidationSurroundings) (versioned : VersionedStore) (dashboard : Dashboard),
      Reach (VersionStep around.platform) VersionedStore.initial versioned →
      Reach (DashboardStep around) (Dashboard.opened versioned) dashboard →
      (∀ validation, dashboard.cache.validationValue = some validation → ∃ seen ∈ dashboard.past,
          dashboard.cache.validationKey = dashboardConfigKey seen.version ∧
            validation = buildDashboardValidation around (validationSnapshotOf seen.store)) ∧
        ∀ answer ∈ dashboard.answers, ∃ seen ∈ dashboard.past, seen.version = answer.version ∧
          answer.validation = buildDashboardValidation around (validationSnapshotOf seen.store) := by
  intro claimed
  have reached : Reach (DashboardStep exampleSurroundings) (Dashboard.opened VersionedStore.initial)
      exampleMixedDashboard := by
    have written : ∀ before : Dashboard, before.versioned = VersionedStore.initial →
        DashboardStep exampleSurroundings (.write (.event exampleAddition)) before (before.write exampleAddedStore) := by
      intro before same
      refine ⟨exampleAddedStore, ?_, rfl⟩
      rw [same]
      exact exampleAddition_step
    exact (Reach.step (turns_reach _ _) (written _ rfl)).trans (turns_reach _ _)
  have served : ∃ answer ∈ exampleMixedDashboard.answers, ∀ seen ∈ exampleMixedDashboard.past,
      seen.version = answer.version →
        answer.validation ≠ buildDashboardValidation exampleSurroundings (validationSnapshotOf seen.store) := by
    with_unfolding_all decide
  obtain ⟨answer, answered, mixed⟩ := served
  obtain ⟨seen, member, same, validated⟩ := (claimed exampleSurroundings _ _ .start reached).2 answer answered
  exact mixed seen member same validated

end MiGate.Web
