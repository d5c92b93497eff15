import MiGate.Apply.Exclusion

namespace MiGate.Apply

open Transition

/-! What becomes of a pending mark that is raised while an apply is under way. -/

variable {generated : Core → Tables → Except String Hash} {state after : State} {action : Action} {core : Core}

/-- The core that a step marks as pending, if it does. -/
def markedCore (action : Action) (state : State) : Option Core :=
  match action with
  | .renew core => some core
  | .proceed id core _ =>
      match (state.requests id).map fun request => request.sides core with
      | some (Side.unknown _) => some core
      | _ => none
  | .attempt job number .go =>
      match state.workers job with
      | none => none
      | some worker =>
          match worker.attempts[number]? with
          | some (.released result) => if !result.ok && result.errCode != "" then some worker.core else none
          | _ => none
  | _ => none

/-- The step restarts the core. -/
def restartsCore (core : Core) (action : Action) (state : State) : Bool :=
  match action with
  | .attempt job number .go =>
      match (state.workers job).bind fun worker => worker.attempts[number]? with
      | some (.performing (.written other _)) => decide (other = core)
      | _ => false
  | _ => false

/-- Some step of the run restarts the core. -/
def restarts (generated : Core → Tables → Except String Hash) (core : Core) : List Action → State → Bool
  | [], _ => false
  | action :: rest, state =>
      restartsCore core action state ||
        match step generated action state with
        | none => false
        | some after => restarts generated core rest after

def dirty (row : Option CoreApplyState) : Bool :=
  match row with
  | none => false
  | some row => row.pendingDirty

/-- An apply has restarted the core, and has not recorded it yet. -/
def AwaitsRecord (core : Core) (state : State) : Prop :=
  ∃ (job : JobRef) (worker : Worker) (number : Nat) (hash : Hash), state.workers job = some worker ∧
    worker.attempts[number]? = some (.performing (.restarted core hash))

/-- The mark of a step stays until an apply restarts the core. -/
def MarkSurvives (generated : Core → Tables → Except String Hash) (core : Core) (marked : State) : Prop :=
  ∀ later final, perform (step generated) later marked = some final → restarts generated core later marked = false →
    dirty (final.rows core) = true

@[simp] theorem dirty_markCorePending (rows : Core → Option CoreApplyState) (reason : String) :
    dirty (markCorePending rows core reason core) = true := by
  simp [markCorePending, dirty]

theorem dirty_pending {rows : Core → Option CoreApplyState} (other : Core) (reason : String) (held : dirty (rows core) = true) :
    dirty (markCorePending rows other reason core) = true := by
  rw [markCorePending, Function.update_apply]
  split
  · rfl
  · exact held

theorem dirty_applied_of_ne {rows : Core → Option CoreApplyState} {other : Core} (different : other ≠ core) (hash : Hash) :
    dirty (markCoreApplied rows other hash core) = dirty (rows core) := by
  rw [markCoreApplied, Function.update_of_ne (Ne.symm different)]

@[simp] theorem dirty_markCoreApplied (rows : Core → Option CoreApplyState) (hash : Hash) :
    dirty (markCoreApplied rows core hash core) = false := by
  simp [markCoreApplied, dirty]

/-- Only a restart brings an attempt to where it has restarted the core. -/
theorem Moves.restarts {kind : Kind} {main : Core} {tables : Tables} {admissible free : Bool} {pc next : AttemptPc}
    {effect : Effect} (moves : Moves generated kind main tables admissible free pc next effect) {hash : Hash}
    (into : next = .performing (.restarted core hash)) : pc = .performing (.written core hash) := by
  cases moves with
  | restart =>
      cases into
      rfl
  | fail =>
      unfold performFailed at into
      split at into <;> cases into
  | unlock after => rcases after with ⟨rfl, _⟩ | ⟨rfl, _⟩ <;> cases into
  | _ => cases into

theorem restartsCore_of_written {job : JobRef} {number : Nat} {choice : Choice} {worker : Worker} {hash : Hash}
    (found : state.workers job = some worker) (here : worker.attempts[number]? = some (.performing (.written core hash)))
    (going : choice = .go) : restartsCore core (.attempt job number choice) state = true := by
  subst going
  simp [restartsCore, found, here]

/-- Where no apply has yet to record the core, a step that does not restart it leaves it so. -/
theorem notAwaiting_step (stepped : step generated action state = some after)
    (quiet : restartsCore core action state = false) (settled : ¬AwaitsRecord core state) : ¬AwaitsRecord core after := by
  rintro ⟨job, worker, number, hash, found, here⟩
  have event := event_of_step stepped
  -- The attempt was where it is now before the step, unless the step is its own.
  have same : ∀ {old : Worker}, state.workers job = some old →
      old.attempts[number]? = some (AttemptPc.performing (.restarted core hash)) → False :=
    fun there waiting => settled ⟨job, _, number, hash, there, waiting⟩
  cases event with
  | request | abandon | commit | look | mark | apply | handle | acquire | release | renew => exact same found here
  | start =>
      simp only [State.setSide, State.setRequest, State.startJob, State.setWorker, State.setManager,
        Function.update_apply] at found
      split at found
      · cases found
        cases here
      · exact same found here
  | manual =>
      simp only [State.setHandler, State.startJob, State.setWorker, State.setManager, Function.update_apply] at found
      split at found
      · cases found
        cases here
      · exact same found here
  | @drive driven choice old next manager there drives =>
      simp only [State.setWorker, State.setManager, Function.update_apply] at found
      split at found
      · rename_i this
        subst this
        cases found
        have decided : ∀ result, (old.decide result).attempts = old.attempts := by
          intro result
          rcases old.decide_cases result with same | ⟨_, _, same⟩ <;> rw [same]
        cases drives with
        | launch =>
            rcases Nat.lt_or_ge number old.attempts.length with before | beyond
            · rw [List.getElem?_append_left before] at here
              exact same there here
            · rw [List.getElem?_append_right beyond] at here
              have launched := List.mem_of_getElem? here
              simp at launched
        | receive | expire =>
            rw [decided] at here
            exact same there here
        | _ => exact same there here
      · exact same found here
  | @follow followed spawned old next there follows =>
      simp only [State.setWorker, Function.update_apply] at found
      split at found
      · rename_i this
        subst this
        cases found
        exact same there here
      · exact same found here
  | @spawn followed spawned old other there comparing still fresh =>
      simp only [State.setWorker, State.setRequest, Function.update_apply] at found
      split at found
      · rename_i this
        subst this
        cases found
        exact same there here
      · exact same found here
  | @attempt moved at_ choice old pc next effect there old_ moves =>
      simp only [State.setWorker, affect_workers, Function.update_apply] at found
      split at found
      · rename_i this
        subst this
        cases found
        by_cases mine : at_ = number
        · subst mine
          have bound : at_ < old.attempts.length := (List.getElem?_eq_some_iff.mp old_).choose
          rw [List.getElem?_set_self bound, Option.some.injEq] at here
          have written := moves.restarts here
          subst written
          have going : choice = .go := by
            simp only [step, Option.bind_eq_bind, there, Option.bind_some, old_] at stepped
            cases choice with
            | go => rfl
            | giveUp | singbox => simp [attemptStep, phaseStep] at stepped
            | fail errCode detail =>
                -- A failure does not lead to a restart.
                simp only [attemptStep, phaseStep, Option.bind_some, Option.some.injEq] at stepped
                have workers := congrArg (fun now => (now.workers job).map fun worker => worker.attempts[at_]?) stepped
                simp only [State.setWorker, Function.update_self, Option.map_some, List.getElem?_set_self bound,
                  Option.some.injEq] at workers
                rw [here, performFailed] at workers
                split at workers <;> cases workers
          rw [restartsCore_of_written there old_ going] at quiet
          cases quiet
        · rw [List.getElem?_set_ne mine] at here
          exact same there here
      · exact same found here

/-- A step that records no apply of the core keeps its mark. -/
theorem dirty_step (event : Event generated state action after) (settled : ¬AwaitsRecord core state)
    (held : dirty (state.rows core) = true) : dirty (after.rows core) = true := by
  cases event with
  | mark | renew => exact dirty_pending _ _ held
  | attempt found here moves =>
      cases moves with
      | pend => exact dirty_pending _ _ held
      | @record other hash =>
          change dirty (markCoreApplied state.rows other hash core) = true
          by_cases same : other = core
          · subst same
            exact absurd ⟨_, _, _, hash, found, here⟩ settled
          · rw [dirty_applied_of_ne same, held]
      | _ => exact held
  | _ => exact held

theorem dirty_run {marked final : State} {later : List Action} (run : perform (step generated) later marked = some final)
    (quiet : restarts generated core later marked = false) (settled : ¬AwaitsRecord core marked)
    (held : dirty (marked.rows core) = true) : dirty (final.rows core) = true := by
  induction later generalizing marked with
  | nil =>
      cases Option.some.inj run
      exact held
  | cons action rest ih =>
      obtain ⟨next, first, tail⟩ := Option.bind_eq_some_iff.mp run
      simp only [restarts, first, Bool.or_eq_false_iff] at quiet
      exact ih tail quiet.2 (notAwaiting_step first quiet.1 settled) (dirty_step (event_of_step first) settled held)

/-- What a step that marks a core does. -/
theorem marks_rows (stepped : step generated action state = some after) (marks : markedCore action state = some core) :
    after.workers = state.workers ∧ dirty (after.rows core) = true ∨
      ∃ (job : JobRef) (worker : Worker) (number : Nat) (result : WorkResult), action = .attempt job number .go ∧
        state.workers job = some worker ∧ worker.attempts[number]? = some (.released result) ∧ dirty (after.rows core) = true := by
  cases action with
  | renew other =>
      cases Option.some.inj marks
      cases stepped
      exact .inl ⟨rfl, dirty_markCorePending _ _⟩
  | proceed id other drawn =>
      simp only [markedCore] at marks
      split at marks
      · rename_i reason side
        cases Option.some.inj marks
        obtain ⟨request, found, unknown⟩ := Option.map_eq_some_iff.mp side
        simp only [step, proceedStep, Option.bind_eq_bind, found, Option.bind_some, unknown] at stepped
        cases stepped
        exact .inl ⟨rfl, dirty_markCorePending _ _⟩
      · cases marks
  | attempt job number choice =>
      cases choice with
      | go =>
          simp only [markedCore] at marks
          cases found : state.workers job with
          | none => simp [found] at marks
          | some worker =>
              simp only [found] at marks
              split at marks
              · rename_i result here
                split at marks
                · rename_i named
                  cases Option.some.inj marks
                  simp only [step, Option.bind_eq_bind, found, Option.bind_some, here, attemptStep, named, if_true,
                    Option.some.injEq] at stepped
                  subst stepped
                  exact .inr ⟨job, worker, number, result, rfl, found, here, dirty_markCorePending _ _⟩
                · cases marks
              · cases marks
      | _ => cases marks
  | _ => cases marks

theorem awaitsRecord_marked (stepped : step generated action state = some after)
    (marks : markedCore action state = some core) : AwaitsRecord core after ↔ AwaitsRecord core state := by
  rcases marks_rows stepped marks with ⟨workers, _⟩ | ⟨job, worker, number, result, rfl, found, here, _⟩
  · simp only [AwaitsRecord, workers]
  · have bound : number < worker.attempts.length := (List.getElem?_eq_some_iff.mp here).choose
    simp only [step, Option.bind_eq_bind, found, Option.bind_some, here, attemptStep] at stepped
    -- Another attempt is left alone, and this one is not at an apply, before or after.
    have moved : ∃ effect, after = (state.affect job number effect).setWorker job
        { worker with attempts := worker.attempts.set number (.reporting result) } := by
      split at stepped <;> exact ⟨_, (Option.some.inj stepped).symm⟩
    obtain ⟨effect, rfl⟩ := moved
    constructor
    · rintro ⟨other, given, at_, hash, there, waiting⟩
      simp only [State.setWorker, affect_workers, Function.update_apply] at there
      split at there
      · cases there
        by_cases mine : number = at_
        · subst mine
          rw [List.getElem?_set_self bound] at waiting
          cases waiting
        · rw [List.getElem?_set_ne mine] at waiting
          exact ⟨job, worker, at_, hash, found, waiting⟩
      · exact ⟨other, given, at_, hash, there, waiting⟩
    · rintro ⟨other, given, at_, hash, there, waiting⟩
      by_cases same : other = job
      · subst same
        rw [found] at there
        cases there
        refine ⟨other, _, at_, hash, Function.update_self .., ?_⟩
        rw [List.getElem?_set_ne, waiting]
        rintro rfl
        rw [here] at waiting
        cases waiting
      · refine ⟨other, given, at_, hash, ?_, waiting⟩
        simp only [State.setWorker, affect_workers]
        rw [Function.update_of_ne same, there]

/-- A mark survives until an apply restarts the core just when no apply of the core has yet to be
recorded where it is raised. -/
theorem mark_survives_iff (generated : Core → Tables → Except String Hash) (core : Core) (action : Action)
    (state marked : State) (stepped : step generated action state = some marked)
    (marks : markedCore action state = some core) :
    MarkSurvives generated core marked ↔ ¬AwaitsRecord core state := by
  rw [← awaitsRecord_marked stepped marks]
  constructor
  · rintro survives ⟨job, worker, number, hash, found, here⟩
    -- The apply's own record clears the mark.
    have recorded : step generated (.attempt job number .go) marked = some ((marked.affect job number
        (.record core hash)).setWorker job
          { worker with attempts := worker.attempts.set number (.performing (.recorded core)) }) := by
      simp only [step, Option.bind_eq_bind, found, Option.bind_some, here, attemptStep, phaseStep]
    have kept := survives [.attempt job number .go] _ (by rw [perform, recorded]; rfl)
      (by simp [restarts, restartsCore, found, here, recorded])
    have cleared : dirty (markCoreApplied marked.rows core hash core) = false := dirty_markCoreApplied marked.rows hash
    exact absurd (cleared.symm.trans kept) Bool.false_ne_true
  · intro settled later final run quiet
    have held : dirty (marked.rows core) = true := by
      rcases marks_rows stepped marks with ⟨_, held⟩ | ⟨_, _, _, _, _, _, _, held⟩ <;> exact held
    exact dirty_run run quiet settled held

/-- In every run, a mark survives until an apply restarts its core just when no apply of the core
has yet to be recorded where it is raised; it is then set at the end of the run, unless an apply
has restarted the core since. -/
theorem marks_survive_iff (generated : Core → Tables → Except String Hash) (tables : Tables)
    (rows : Core → Option CoreApplyState) (before : List Action) (action : Action) (later : List Action) (final : State)
    (run : perform (step generated) (before ++ action :: later) (.initial tables rows) = some final) :
    ∃ state marked, perform (step generated) before (.initial tables rows) = some state ∧
      step generated action state = some marked ∧ ∀ core, markedCore action state = some core →
        (MarkSurvives generated core marked ↔ ¬AwaitsRecord core state) ∧
        (¬AwaitsRecord core state → restarts generated core later marked = true ∨ dirty (final.rows core) = true) := by
  obtain ⟨state, first, rest⟩ := perform_append.mp run
  obtain ⟨marked, stepped, tail⟩ := Option.bind_eq_some_iff.mp rest
  refine ⟨state, marked, first, stepped, fun core marks => ?_⟩
  have exactly := mark_survives_iff generated core action state marked stepped marks
  refine ⟨exactly, fun settled => ?_⟩
  cases restarted : restarts generated core later marked with
  | true => exact .inl rfl
  | false => exact .inr (exactly.mpr settled later final tail restarted)

/-- A mark that is raised before a job is set as long as the job has not restarted Xray. -/
theorem renewed_mark_kept :
    dirty ((arrive (step exampleGenerated) (.renew .xray :: exampleManual) (.initial ⟨[], [], []⟩ exampleRows)).rows .xray) =
      true := by
  obtain ⟨state, marked, first, stepped, exactly⟩ := marks_survive_iff exampleGenerated ⟨[], [], []⟩ exampleRows []
    (.renew .xray) exampleManual _ (perform_eq_arrive (by decide +kernel))
  cases first
  cases stepped
  have settled : ¬AwaitsRecord .xray (.initial ⟨[], [], []⟩ exampleRows) := by
    rintro ⟨job, worker, number, hash, found, _⟩
    cases found
  refine ((exactly .xray rfl).2 settled).resolve_left ?_
  decide +kernel

/-- A certificate is renewed after the restart of Xray and before the apply is recorded: the mark is
gone, and nothing has restarted Xray since. -/
theorem renewed_mark_lost :
    ¬∀ (actions : List Action) (state marked : State) (action : Action) (core : Core),
      perform (step exampleGenerated) actions (.initial ⟨[], [], []⟩ exampleRows) = some state →
      step exampleGenerated action state = some marked → markedCore action state = some core →
      MarkSurvives exampleGenerated core marked := by
  intro survives
  let upToRestart := exampleManual ++ List.replicate 5 (.attempt ⟨.router, 1⟩ 0 .go)
  have kept := survives upToRestart _ _ (.renew .xray) .xray (perform_eq_arrive (by decide +kernel)) rfl rfl
    [.attempt ⟨.router, 1⟩ 0 .go] _ (perform_eq_arrive (by decide +kernel)) (by decide +kernel)
  revert kept
  decide +kernel

end MiGate.Apply
