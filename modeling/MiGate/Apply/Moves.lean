import MiGate.Apply.System

namespace MiGate.Apply

/-! What the steps can do, each kind of goroutine by its places. -/

variable {generated : Core → Tables → Except String Hash} {kind : Kind} {main : Core} {tables : Tables}
  {admissible free : Bool}

/-- The moves of an attempt, by its place before and after and what it does to the others. -/
inductive Moves (generated : Core → Tables → Except String Hash) (kind : Kind) (main : Core) (tables : Tables)
    (admissible free : Bool) : AttemptPc → AttemptPc → Effect → Prop where
  | begin (manual : kind = .manual) :
      Moves generated kind main tables admissible free .launched (.performing (.reading main .begun)) .none
  | enter (auto : kind = .auto) (vacant : admissible = true) :
      Moves generated kind main tables admissible free .launched .admitted .enter
  | giveUp (auto : kind = .auto) :
      Moves generated kind main tables admissible free .launched (.released cancelledResult) .none
  | lock (unlocked : free = true) :
      Moves generated kind main tables admissible free .admitted (.performing (.reading main .begun)) .lock
  | busy (detail : String) :
      Moves generated kind main tables admissible free .admitted (.unlocked (lockedResult detail)) .none
  | read {core : Core} {reading next : Reading} (partly : reading.next tables = .inl next) :
      Moves generated kind main tables admissible free (.performing (.reading core reading))
        (.performing (.reading core next)) .none
  | build {core : Core} {reading : Reading} {seen : Tables} {hash : Hash} (whole : reading.next tables = .inr seen)
      (built : generated core seen = .ok hash) :
      Moves generated kind main tables admissible free (.performing (.reading core reading))
        (.performing (.built core hash)) .none
  | write {core : Core} {hash : Hash} :
      Moves generated kind main tables admissible free (.performing (.built core hash))
        (.performing (.written core hash)) .none
  | restart {core : Core} {hash : Hash} :
      Moves generated kind main tables admissible free (.performing (.written core hash))
        (.performing (.restarted core hash)) .none
  | record {core : Core} {hash : Hash} :
      Moves generated kind main tables admissible free (.performing (.restarted core hash))
        (.performing (.recorded core)) (.record core hash)
  | goOn (manual : kind = .manual) (ofXray : main = .xray) :
      Moves generated kind main tables admissible free (.performing (.recorded .xray))
        (.performing (.reading .singbox .begun)) .none
  | fail {phase : Phase} (errCode detail : String) (early : ∀ core hash, phase ≠ .restarted core hash)
      (unrecorded : ∀ core, phase ≠ .recorded core) :
      Moves generated kind main tables admissible free (.performing phase)
        (performFailed main phase.core errCode detail) .none
  | complete {core : Core} :
      Moves generated kind main tables admissible free (.performing (.recorded core))
        (.performed (appliedResult main)) .none
  | unlock {result : WorkResult} {next : AttemptPc}
      (after : next = .reporting result ∧ kind = .manual ∨ next = .unlocked result ∧ kind = .auto) :
      Moves generated kind main tables admissible free (.performed result) next .unlock
  | dismiss {result : WorkResult} :
      Moves generated kind main tables admissible free (.unlocked result) (.released result) .dismiss
  | pend {result : WorkResult} (failed : result.ok = false) (named : result.errCode ≠ "") :
      Moves generated kind main tables admissible free (.released result) (.reporting result) (.pend main result.errCode)
  | spare {result : WorkResult} (unnamed : result.ok = false → result.errCode = "") :
      Moves generated kind main tables admissible free (.released result) (.reporting result) .none
  | send {result : WorkResult} :
      Moves generated kind main tables admissible free (.reporting result) (.sent result) .none
  | close {result : WorkResult} :
      Moves generated kind main tables admissible free (.sent result) (.finished result) .none

theorem moves_of_phaseStep {phase : Phase} {choice : Choice} {next : AttemptPc} {effect : Effect}
    (stepped : phaseStep generated kind main tables phase choice = some (next, effect)) :
    Moves generated kind main tables admissible free (.performing phase) next effect := by
  cases phase with
  | reading core reading =>
      cases choice with
      | go =>
          simp only [phaseStep] at stepped
          cases read : reading.next tables with
          | inl more =>
              simp only [read, Option.some.injEq, Prod.mk.injEq] at stepped
              obtain ⟨rfl, rfl⟩ := stepped
              exact .read read
          | inr seen =>
              simp only [read] at stepped
              cases built : generated core seen with
              | ok hash =>
                  simp only [built, Option.some.injEq, Prod.mk.injEq] at stepped
                  obtain ⟨rfl, rfl⟩ := stepped
                  exact .build read built
              | error detail =>
                  simp only [built, Option.some.injEq, Prod.mk.injEq] at stepped
                  obtain ⟨rfl, rfl⟩ := stepped
                  exact .fail "build_failed" detail (fun _ _ => nofun) fun _ => nofun
      | fail errCode detail =>
          simp only [phaseStep, Option.some.injEq, Prod.mk.injEq] at stepped
          obtain ⟨rfl, rfl⟩ := stepped
          exact .fail errCode detail (fun _ _ => nofun) fun _ => nofun
      | giveUp => simp [phaseStep] at stepped
      | singbox => simp [phaseStep] at stepped
  | built core hash =>
      cases choice <;> simp only [phaseStep, Option.some.injEq, Prod.mk.injEq, reduceCtorEq] at stepped <;>
        obtain ⟨rfl, rfl⟩ := stepped
      · exact .write
      · exact .fail _ _ (fun _ _ => nofun) fun _ => nofun
  | written core hash =>
      cases choice <;> simp only [phaseStep, Option.some.injEq, Prod.mk.injEq, reduceCtorEq] at stepped <;>
        obtain ⟨rfl, rfl⟩ := stepped
      · exact .restart
      · exact .fail _ _ (fun _ _ => nofun) fun _ => nofun
  | restarted core hash =>
      cases choice <;> simp only [phaseStep, Option.some.injEq, Prod.mk.injEq, reduceCtorEq] at stepped
      obtain ⟨rfl, rfl⟩ := stepped
      exact .record
  | recorded core =>
      cases choice with
      | go =>
          simp only [phaseStep, Option.some.injEq, Prod.mk.injEq] at stepped
          obtain ⟨rfl, rfl⟩ := stepped
          exact .complete
      | singbox =>
          cases core with
          | xray =>
              simp only [phaseStep] at stepped
              split at stepped
              · rename_i both
                simp only [Option.some.injEq, Prod.mk.injEq] at stepped
                obtain ⟨rfl, rfl⟩ := stepped
                exact .goOn both.1 both.2
              · cases stepped
          | singbox => simp [phaseStep] at stepped
      | giveUp => simp [phaseStep] at stepped
      | fail errCode detail => simp [phaseStep] at stepped

theorem moves_of_attemptStep {pc : AttemptPc} {choice : Choice} {next : AttemptPc} {effect : Effect}
    (stepped : attemptStep generated kind main tables admissible free pc choice = some (next, effect)) :
    Moves generated kind main tables admissible free pc next effect := by
  cases pc with
  | launched =>
      cases choice <;> cases kind <;> simp [attemptStep] at stepped
      · obtain ⟨rfl, rfl⟩ := stepped
        exact .begin rfl
      · obtain ⟨vacant, rfl, rfl⟩ := stepped
        exact .enter rfl vacant
      · obtain ⟨rfl, rfl⟩ := stepped
        exact .giveUp rfl
  | admitted =>
      cases choice with
      | go =>
          simp only [attemptStep] at stepped
          split at stepped <;> rename_i unlocked <;> simp only [Option.some.injEq, Prod.mk.injEq] at stepped <;>
            obtain ⟨rfl, rfl⟩ := stepped
          · exact .lock unlocked
          · exact .busy lockBusy
      | fail errCode detail =>
          simp only [attemptStep, Option.some.injEq, Prod.mk.injEq] at stepped
          obtain ⟨rfl, rfl⟩ := stepped
          exact .busy detail
      | giveUp => simp [attemptStep] at stepped
      | singbox => simp [attemptStep] at stepped
  | performing phase => exact moves_of_phaseStep stepped
  | performed result =>
      cases choice <;> cases kind <;> simp only [attemptStep, Option.some.injEq, Prod.mk.injEq, reduceCtorEq] at stepped <;>
        obtain ⟨rfl, rfl⟩ := stepped
      · exact .unlock (.inl ⟨rfl, rfl⟩)
      · exact .unlock (.inr ⟨rfl, rfl⟩)
  | unlocked result =>
      cases choice <;> simp only [attemptStep, Option.some.injEq, Prod.mk.injEq, reduceCtorEq] at stepped
      obtain ⟨rfl, rfl⟩ := stepped
      exact .dismiss
  | released result =>
      cases choice <;> simp only [attemptStep, reduceCtorEq] at stepped
      split at stepped <;> rename_i named <;> simp only [Option.some.injEq, Prod.mk.injEq] at stepped <;>
        obtain ⟨rfl, rfl⟩ := stepped
      · simp only [Bool.and_eq_true, Bool.not_eq_true', bne_iff_ne] at named
        exact .pend named.1 named.2
      · refine .spare fun failed => ?_
        simpa [failed] using named
  | reporting result =>
      cases choice <;> simp only [attemptStep, Option.some.injEq, Prod.mk.injEq, reduceCtorEq] at stepped
      obtain ⟨rfl, rfl⟩ := stepped
      exact .send
  | sent result =>
      cases choice <;> simp only [attemptStep, Option.some.injEq, Prod.mk.injEq, reduceCtorEq] at stepped
      obtain ⟨rfl, rfl⟩ := stepped
      exact .close
  | finished result => cases choice <;> simp [attemptStep] at stepped

/-- The moves of a job's goroutine until the job is over. -/
inductive Drives (id : Nat) (manager : JobManager) (worker : Worker) : Worker → JobManager → Prop where
  | mark (marking : worker.pc = .marking) :
      Drives id manager worker { worker with pc := .launching } (manager.markRunning id (workerMessage worker))
  | launch (launching : worker.pc = .launching) :
      Drives id manager worker { worker with pc := .attempting, attempts := worker.attempts ++ [.launched] } manager
  | receive {pc : AttemptPc} {result : WorkResult} (attempting : worker.pc = .attempting)
      (last : worker.attempts.getLast? = some pc) (received : pc.result? = some result) :
      Drives id manager worker (worker.decide result) manager
  | expire {result : WorkResult} (attempting : worker.pc = .attempting)
      (given : result = timeoutResult ∨ result = cancelledResult) :
      Drives id manager worker (worker.decide result) manager
  | clean {result : WorkResult} {pc : AttemptPc} (cleaning : worker.pc = .cleaning result)
      (last : worker.attempts.getLast? = some pc) (closed : pc.isFinished = true) :
      Drives id manager worker { worker with pc := .backoff, retryCount := worker.retryCount + 1 }
        (manager.markRetrying id (coreAutoRetryMessage worker.core) result (worker.retryCount + 1) worker.maxRetries)
  | quit {result : WorkResult} (waiting : (∃ earlier, worker.pc = .cleaning earlier) ∨ worker.pc = .backoff)
      (given : result = cleanupTimeoutResult ∨ result = cancelledResult) :
      Drives id manager worker { worker with pc := .finishing result } manager
  | wake (backoff : worker.pc = .backoff) : Drives id manager worker { worker with pc := .marking } manager
  | succeed {result : WorkResult} (finishing : worker.pc = .finishing result) (done : result.ok = true) :
      Drives id manager worker { worker with pc := .following } (manager.markSucceeded id result)
  | fail {result : WorkResult} (finishing : worker.pc = .finishing result) (failed : result.ok = false) :
      Drives id manager worker { worker with pc := .over none } (manager.markFailed id result)

theorem drives_of_driverStep {id : Nat} {manager after : JobManager} {worker next : Worker} {choice : Choice}
    (stepped : driverStep id manager worker choice = some (next, after)) : Drives id manager worker next after := by
  cases choice with
  | go =>
      simp only [driverStep] at stepped
      split at stepped <;> rename_i place
      · cases stepped
        exact .mark place
      · cases stepped
        exact .launch place
      · simp only [Option.bind_eq_bind, Option.bind_eq_some_iff, Option.pure_def, Option.some.injEq, Prod.mk.injEq] at stepped
        obtain ⟨result, ⟨pc, last, received⟩, rfl, rfl⟩ := stepped
        exact .receive place last received
      · split at stepped
        · rename_i closed
          cases last : worker.attempts.getLast? with
          | none => rw [last] at closed; cases closed
          | some pc =>
              rw [last] at closed
              cases stepped
              exact .clean place last closed
        · cases stepped
      · cases stepped
        exact .wake place
      · split at stepped <;> rename_i done <;> cases stepped
        · exact .succeed place done
        · exact .fail place (Bool.eq_false_iff.mpr done)
      · cases stepped
  | fail errCode detail =>
      simp only [driverStep] at stepped
      split at stepped <;> rename_i place
      · cases stepped
        exact .expire place (.inl rfl)
      · cases stepped
        exact .quit (.inl ⟨_, place⟩) (.inl rfl)
      · cases stepped
  | giveUp =>
      simp only [driverStep] at stepped
      split at stepped <;> rename_i place
      · cases stepped
        exact .expire place (.inr rfl)
      · cases stepped
        exact .quit (.inl ⟨_, place⟩) (.inr rfl)
      · cases stepped
        exact .quit (.inr place) (.inr rfl)
      · cases stepped
  | singbox => simp [driverStep] at stepped

/-- The moves of a request about one core that touch nothing else. -/
inductive Looks (generated : Core → Tables → Except String Hash) (tables : Tables) (manager : JobManager) (core : Core) :
    Side → Side → Prop where
  | before {reading next : Reading} (partly : reading.next tables = .inl next) :
      Looks generated tables manager core (.before reading) (.before next)
  | capture {reading : Reading} {seen : Tables} (whole : reading.next tables = .inr seen) :
      Looks generated tables manager core (.before reading) (.captured (generated core seen))
  | after {old : Except String Hash} {reading next : Reading} (partly : reading.next tables = .inl next) :
      Looks generated tables manager core (.after old reading) (.after old next)
  | compare {old : Except String Hash} {reading : Reading} {seen : Tables} (whole : reading.next tables = .inr seen) :
      Looks generated tables manager core (.after old reading) (compareHashes old (generated core seen))
  | leave (running : manager.running core = true) :
      Looks generated tables manager core .changed (.settled (manager.byCore core))
  | find (idle : manager.running core = false) : Looks generated tables manager core .changed .starting
  | refuse (running : manager.running core = true) :
      Looks generated tables manager core .starting (.settled (manager.byCore core))

/-- The moves of a follow-up check that touch nothing else. -/
inductive Follows (generated : Core → Tables → Except String Hash) (state : State) (job : JobRef) (core : Core) :
    DriverPc → DriverPc → Prop where
  | leave (running : (state.managers job.owner).running core = true) :
      Follows generated state job core .following (.over ((state.managers job.owner).byCore core))
  | look (idle : (state.managers job.owner).running core = false) :
      Follows generated state job core .following (.checking .begun)
  | read {reading next : Reading} (partly : reading.next state.tables = .inl next) :
      Follows generated state job core (.checking reading) (.checking next)
  | build {reading : Reading} {seen : Tables} {hash : Hash} (whole : reading.next state.tables = .inr seen)
      (built : generated core seen = .ok hash) :
      Follows generated state job core (.checking reading) (.comparing hash)
  | give {reading : Reading} {seen : Tables} {reason : String} (whole : reading.next state.tables = .inr seen)
      (failed : generated core seen = .error reason) :
      Follows generated state job core (.checking reading) (.over none)
  | clean {hash : Hash} (clean : stillDirty (state.rows core) hash = false) :
      Follows generated state job core (.comparing hash) (.over none)

/-- What one step of the panel is. -/
inductive Event (generated : Core → Tables → Except String Hash) (state : State) : Action → State → Prop where
  | request {id : Nat} {owner : Owner} {cores : List Core} (fresh : state.requests id = none) :
      Event generated state (.request id owner cores) (state.setRequest id
        ⟨owner, false, fun core => if core ∈ cores then .before .begun else .settled none⟩)
  | abandon {id : Nat} {request : Request} {xray singbox : Side} (found : state.requests id = some request)
      (first : (request.sides .xray).abandoned = some xray) (second : (request.sides .singbox).abandoned = some singbox) :
      Event generated state (.abandon id) (state.setRequest id { request with
        sides := fun core => if core = Core.xray then xray else singbox })
  | commit {id : Nat} {tables : Tables} {request : Request} {xray singbox : Side}
      (found : state.requests id = some request) (early : request.committed = false)
      (first : (request.sides .xray).committed = some xray) (second : (request.sides .singbox).committed = some singbox) :
      Event generated state (.commit id tables) ({ state with tables }.setRequest id { request with
        committed := true, sides := fun core => if core = Core.xray then xray else singbox })
  | look {id drawn : Nat} {core : Core} {request : Request} {next : Side} (found : state.requests id = some request)
      (looks : Looks generated state.tables (state.managers request.owner) core (request.sides core) next) :
      Event generated state (.proceed id core drawn) (state.setSide id request core next)
  | mark {id drawn : Nat} {core : Core} {request : Request} {reason : String} (found : state.requests id = some request)
      (unknown : request.sides core = .unknown reason) :
      Event generated state (.proceed id core drawn)
        ({ state with rows := markCorePending state.rows core reason }.setSide id request core (.settled none))
  | start {id drawn : Nat} {core : Core} {request : Request} {started : JobManager}
      (found : state.requests id = some request) (starting : request.sides core = .starting)
      (tried : (state.managers request.owner).tryStart core drawn (autoApplyMessage core) 3 = some started)
      (fresh : (state.managers request.owner).byID drawn = none) :
      Event generated state (.proceed id core drawn) ((state.startJob request.owner started drawn .auto core 3).setSide id
        request core (.settled (some drawn)))
  | apply {id : Nat} {core : Core} (fresh : state.handlers id = none) :
      Event generated state (.apply id core)
        (state.setHandler id ⟨core, if core = .xray then .checking else .acquiring⟩)
  | handle {id drawn : Nat} {choice : Choice} {handler : Handler} {next : HandlerPc}
      (found : state.handlers id = some handler) (early : handler.pc ≠ .starting) (quiet : next ≠ .starting) :
      Event generated state (.handle id drawn choice) (state.setHandler id { handler with pc := next })
  | acquire {id drawn : Nat} {handler : Handler} (found : state.handlers id = some handler)
      (acquiring : handler.pc = .acquiring) (free : state.lock = none) :
      Event generated state (.handle id drawn .go)
        ({ state with lock := some (.handler id) }.setHandler id { handler with pc := .starting })
  | release {id drawn : Nat} {handler : Handler} (found : state.handlers id = some handler)
      (starting : handler.pc = .starting) (running : (state.managers .router).running handler.core = true) :
      Event generated state (.handle id drawn .go)
        ({ state with lock := none }.setHandler id { handler with pc := .over })
  | manual {id drawn : Nat} {handler : Handler} {started : JobManager} (found : state.handlers id = some handler)
      (starting : handler.pc = .starting)
      (tried : (state.managers .router).tryStart handler.core drawn (applyMessage handler.core) 0 = some started)
      (fresh : (state.managers .router).byID drawn = none) :
      Event generated state (.handle id drawn .go) (({ state with lock := some (.attempt ⟨.router, drawn⟩ 0) }.startJob
        .router started drawn .manual handler.core 0).setHandler id { handler with pc := .over })
  | drive {job : JobRef} {choice : Choice} {worker next : Worker} {manager : JobManager}
      (found : state.workers job = some worker) (drives : Drives job.id (state.managers job.owner) worker next manager) :
      Event generated state (.drive job choice) ((state.setManager job.owner manager).setWorker job next)
  | follow {job : JobRef} {spawned : Nat} {worker : Worker} {next : DriverPc} (found : state.workers job = some worker)
      (follows : Follows generated state job worker.core worker.pc next) :
      Event generated state (.follow job spawned) (state.setWorker job { worker with pc := next })
  | spawn {job : JobRef} {spawned : Nat} {worker : Worker} {hash : Hash} (found : state.workers job = some worker)
      (comparing : worker.pc = .comparing hash) (dirty : stillDirty (state.rows worker.core) hash = true)
      (fresh : state.requests spawned = none) :
      Event generated state (.follow job spawned) ((state.setRequest spawned (followUp job.owner worker.core)).setWorker job
        { worker with pc := .over none })
  | attempt {job : JobRef} {number : Nat} {choice : Choice} {worker : Worker} {pc next : AttemptPc} {effect : Effect}
      (found : state.workers job = some worker) (here : worker.attempts[number]? = some pc)
      (moves : Moves generated worker.kind worker.core state.tables (!(state.managers job.owner).applySem)
        state.lock.isNone pc next effect) :
      Event generated state (.attempt job number choice) ((state.affect job number effect).setWorker job
        { worker with attempts := worker.attempts.set number next })
  | renew {core : Core} :
      Event generated state (.renew core) { state with rows := markCorePending state.rows core "certificate_renewed" }

variable {state after : State}

theorem tryStart_none {manager : JobManager} {core : Core} {drawn maxRetries : Nat} {message : String}
    (refused : manager.tryStart core drawn message maxRetries = none) : manager.running core = true := by
  unfold JobManager.tryStart at refused
  cases running : manager.running core with
  | true => rfl
  | false => simp [running] at refused

theorem event_of_proceed {id : Nat} {core : Core} {drawn : Nat}
    (stepped : proceedStep generated state id core drawn = some after) :
    Event generated state (.proceed id core drawn) after := by
  simp only [proceedStep, Option.bind_eq_bind, Option.bind_eq_some_iff] at stepped
  obtain ⟨request, found, stepped⟩ := stepped
  split at stepped <;> rename_i place
  · split at stepped <;> rename_i read <;> cases stepped
    · exact .look found (place ▸ .before read)
    · exact .look found (place ▸ .capture read)
  · cases stepped
  · split at stepped <;> rename_i read <;> cases stepped
    · exact .look found (place ▸ .after read)
    · exact .look found (place ▸ .compare read)
  · cases stepped
    exact .mark found place
  · cases running : (state.managers request.owner).running core <;> simp only [running] at stepped <;> cases stepped
    · exact .look found (place ▸ .find running)
    · exact .look found (place ▸ .leave running)
  · split at stepped <;> rename_i tried
    · cases stepped
      exact .look found (place ▸ .refuse (tryStart_none tried))
    · split at stepped <;> rename_i fresh
      · cases stepped
      · cases stepped
        exact .start found place tried (Option.not_isSome_iff_eq_none.mp fresh)
  · cases stepped

theorem event_of_handle {id drawn : Nat} {choice : Choice} (stepped : handleStep state id drawn choice = some after) :
    Event generated state (.handle id drawn choice) after := by
  simp only [handleStep, Option.bind_eq_bind, Option.bind_eq_some_iff] at stepped
  obtain ⟨handler, found, stepped⟩ := stepped
  split at stepped <;> rename_i place
  · cases stepped
    refine .handle found (by rw [place]; nofun) ?_
    split <;> nofun
  · split at stepped <;> rename_i free <;> cases stepped
    · exact .acquire found place (Option.isNone_iff_eq_none.mp free)
    · exact .handle found (by rw [place]; nofun) nofun
  · cases stepped
    exact .handle found (by rw [place]; nofun) nofun
  · split at stepped <;> rename_i tried
    · cases stepped
      exact .release found place (tryStart_none tried)
    · split at stepped <;> rename_i fresh <;> cases stepped
      exact .manual found place tried (Option.not_isSome_iff_eq_none.mp fresh)
  · cases stepped

theorem event_of_follow {job : JobRef} {spawned : Nat} (stepped : followStep generated state job spawned = some after) :
    Event generated state (.follow job spawned) after := by
  simp only [followStep, Option.bind_eq_bind, Option.bind_eq_some_iff] at stepped
  obtain ⟨worker, found, stepped⟩ := stepped
  split at stepped <;> rename_i place
  · cases running : (state.managers job.owner).running worker.core <;> simp only [running] at stepped <;> cases stepped
    · exact .follow found (place ▸ .look running)
    · exact .follow found (place ▸ .leave running)
  · split at stepped <;> rename_i read
    · cases stepped
      exact .follow found (place ▸ .read read)
    · split at stepped <;> rename_i built <;> cases stepped
      · exact .follow found (place ▸ .build read built)
      · exact .follow found (place ▸ .give read built)
  · split at stepped <;> rename_i dirty
    · split at stepped <;> rename_i fresh <;> cases stepped
      exact .spawn found place dirty (Option.not_isSome_iff_eq_none.mp fresh)
    · cases stepped
      exact .follow found (place ▸ .clean (Bool.eq_false_iff.mpr dirty))
  · cases stepped

/-- Every step is one of the events. -/
theorem event_of_step {action : Action} (stepped : step generated action state = some after) :
    Event generated state action after := by
  cases action with
  | request id owner cores =>
      simp only [step] at stepped
      split at stepped <;> rename_i fresh <;> cases stepped
      exact .request (Option.not_isSome_iff_eq_none.mp fresh)
  | abandon id =>
      simp only [step, Option.bind_eq_bind, Option.bind_eq_some_iff] at stepped
      obtain ⟨request, found, stepped⟩ := stepped
      split at stepped
      · cases stepped
      · simp only [Option.bind_eq_some_iff, Option.some.injEq] at stepped
        obtain ⟨xray, first, singbox, second, rfl⟩ := stepped
        exact .abandon found first second
  | commit id tables =>
      simp only [step, Option.bind_eq_bind, Option.bind_eq_some_iff] at stepped
      obtain ⟨request, found, stepped⟩ := stepped
      split at stepped <;> rename_i early
      · cases stepped
      · simp only [Option.bind_eq_some_iff, Option.some.injEq] at stepped
        obtain ⟨xray, first, singbox, second, rfl⟩ := stepped
        exact .commit found (Bool.eq_false_iff.mpr early) first second
  | proceed id core drawn => exact event_of_proceed stepped
  | apply id core =>
      simp only [step] at stepped
      split at stepped <;> rename_i fresh <;> cases stepped
      exact .apply (Option.not_isSome_iff_eq_none.mp fresh)
  | handle id drawn choice => exact event_of_handle stepped
  | drive job choice =>
      simp only [step, Option.bind_eq_bind, Option.bind_eq_some_iff, Option.some.injEq] at stepped
      obtain ⟨worker, found, ⟨next, manager⟩, driven, rfl⟩ := stepped
      exact .drive found (drives_of_driverStep driven)
  | follow job spawned => exact event_of_follow stepped
  | attempt job number choice =>
      simp only [step, Option.bind_eq_bind, Option.bind_eq_some_iff, Option.some.injEq] at stepped
      obtain ⟨worker, found, pc, here, ⟨next, effect⟩, moved, rfl⟩ := stepped
      exact .attempt found here (moves_of_attemptStep moved)
  | renew core =>
      cases stepped
      exact .renew

end MiGate.Apply
