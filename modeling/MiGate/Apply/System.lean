import MiGate.Apply.Jobs
import MiGate.Db.Outbounds
import MiGate.Transition.Reach

namespace MiGate.Apply

open Db

/-! The requests, jobs and attempts of the panel as they take steps one at a time, in any order.
A step is what its goroutine does under one lock or in one statement of the database. -/

abbrev Hash := BitVec 256

/-! ### What is read of the database, and its state of the cores -/

/-- What a configuration is generated from. -/
structure Tables where
  inbounds : List Inbound
  outbounds : List Outbound
  rules : List RoutingRule
deriving DecidableEq

/-- The tables are read one after the other. -/
inductive Reading where
  | begun
  | first (inbounds : List Inbound)
  | second (inbounds : List Inbound) (outbounds : List Outbound)
deriving DecidableEq

def Reading.next (tables : Tables) : Reading → Reading ⊕ Tables
  | .begun => .inl (.first tables.inbounds)
  | .first inbounds => .inl (.second inbounds tables.outbounds)
  | .second inbounds outbounds => .inr ⟨inbounds, outbounds, tables.rules⟩

/-- `CoreApplyState`. -/
structure CoreApplyState where
  lastAppliedHash : Option Hash
  pendingDirty : Bool
  pendingReason : String
deriving DecidableEq

/-- `MarkCoreApplied`. -/
def markCoreApplied (rows : Core → Option CoreApplyState) (core : Core) (hash : Hash) : Core → Option CoreApplyState :=
  Function.update rows core (some ⟨some hash, false, ""⟩)

/-- `MarkCorePending`. -/
def markCorePending (rows : Core → Option CoreApplyState) (core : Core) (reason : String) :
    Core → Option CoreApplyState :=
  Function.update rows core (some ⟨(rows core).bind CoreApplyState.lastAppliedHash, true, reason⟩)

/-- `Pending` of `corePendingApplyFromHash`, as the check after a job asks for it. -/
def stillDirty (row : Option CoreApplyState) (hash : Hash) : Bool :=
  match row with
  | none => false
  | some row => row.pendingDirty || row.lastAppliedHash != some hash

/-! ### The attempts of a job -/

inductive Kind where
  | manual
  | auto
deriving DecidableEq, Repr

/-- Where the apply of a core is. -/
inductive Phase where
  | reading (core : Core) (reading : Reading)
  | built (core : Core) (hash : Hash)
  | written (core : Core) (hash : Hash)
  | restarted (core : Core) (hash : Hash)
  | recorded (core : Core)
deriving DecidableEq

def Phase.core : Phase → Core
  | .reading core _ | .built core _ | .written core _ | .restarted core _ | .recorded core => core

/-- Where the goroutine of an attempt is. -/
inductive AttemptPc where
  | launched
  /-- It has its place in `applySem`. -/
  | admitted
  | performing (phase : Phase)
  /-- The apply is over, the lock not yet given back. -/
  | performed (result : WorkResult)
  | unlocked (result : WorkResult)
  | released (result : WorkResult)
  | reporting (result : WorkResult)
  /-- `resultCh` holds the result. -/
  | sent (result : WorkResult)
  /-- `done` is closed. -/
  | finished (result : WorkResult)
deriving DecidableEq

/-- What is left open to a goroutine: whether its context is over, and what goes wrong. -/
inductive Choice where
  | go
  | giveUp
  | fail (errCode detail : String)
  /-- The apply of Xray goes on with sing-box. -/
  | singbox

/-- What an attempt does to the others. -/
inductive Effect where
  | none
  | enter
  | dismiss
  | lock
  | unlock
  | record (core : Core) (hash : Hash)
  | pend (core : Core) (reason : String)
deriving DecidableEq

def appliedResult (core : Core) : WorkResult :=
  ⟨true, appliedMessage core, "", ""⟩

/-- How an apply that goes wrong ends: a failure of the part that is done for sing-box after Xray
does not make the job fail. -/
def performFailed (main core : Core) (errCode detail : String) : AttemptPc :=
  if core = main then .performed ⟨false, applyFailedMessage main, errCode, detail⟩ else .performed (appliedResult main)

variable (generated : Core → Tables → Except String Hash)

/-- `performXrayApplyWithSingbox` and `performSingboxApply`, for the core the job is for. -/
def phaseStep (kind : Kind) (main : Core) (tables : Tables) : Phase → Choice → Option (AttemptPc × Effect)
  | .reading core reading, .go =>
      match reading.next tables with
      | .inl reading => some (.performing (.reading core reading), .none)
      | .inr seen =>
          match generated core seen with
          | .ok hash => some (.performing (.built core hash), .none)
          | .error detail => some (performFailed main core "build_failed" detail, .none)
  | .built core hash, .go => some (.performing (.written core hash), .none)
  | .written core hash, .go => some (.performing (.restarted core hash), .none)
  | .restarted core hash, .go => some (.performing (.recorded core), .record core hash)
  | .recorded _, .go => some (.performed (appliedResult main), .none)
  | .recorded .xray, .singbox =>
      if kind = .manual ∧ main = .xray then some (.performing (.reading .singbox .begun), .none) else none
  | .reading core _, .fail errCode detail | .built core _, .fail errCode detail | .written core _, .fail errCode detail =>
      some (performFailed main core errCode detail, .none)
  | _, _ => none

/-- The next statement of an attempt: of `withApplyLock` and the work around it for an automatic
job, of the handler's work for a manual one. -/
def attemptStep (kind : Kind) (core : Core) (tables : Tables) (admissible free : Bool) :
    AttemptPc → Choice → Option (AttemptPc × Effect)
  | .launched, .go =>
      match kind with
      | .manual => some (.performing (.reading core .begun), .none)
      | .auto => if admissible then some (.admitted, .enter) else none
  | .launched, .giveUp => if kind = .auto then some (.released cancelledResult, .none) else none
  | .admitted, .go =>
      if free then some (.performing (.reading core .begun), .lock) else some (.unlocked (lockedResult lockBusy), .none)
  | .admitted, .fail _ detail => some (.unlocked (lockedResult detail), .none)
  | .performing phase, choice => phaseStep generated kind core tables phase choice
  | .performed result, .go =>
      match kind with
      | .manual => some (.reporting result, .unlock)
      | .auto => some (.unlocked result, .unlock)
  | .unlocked result, .go => some (.released result, .dismiss)
  | .released result, .go =>
      if !result.ok && result.errCode != "" then some (.reporting result, .pend core result.errCode)
      else some (.reporting result, .none)
  | .reporting result, .go => some (.sent result, .none)
  | .sent result, .go => some (.finished result, .none)
  | _, _ => none

/-! ### The goroutine of a job -/

inductive Owner where
  | router
  | refresher
deriving DecidableEq, Repr

structure JobRef where
  owner : Owner
  id : Nat
deriving DecidableEq, Repr

inductive DriverPc where
  | marking
  | launching
  | attempting
  | cleaning (result : WorkResult)
  | backoff
  | finishing (result : WorkResult)
  /-- The follow-up check: before it looks for a running job, reading, and before it compares. -/
  | following
  | checking (reading : Reading)
  | comparing (hash : Hash)
  /-- It is over; the job it was left to, if one was running. -/
  | over (answer : Option Nat)
deriving DecidableEq

structure Worker where
  kind : Kind
  core : Core
  maxRetries : Nat
  retryCount : Nat
  pc : DriverPc
  attempts : List AttemptPc
deriving DecidableEq

/-- The result that can be received from an attempt. -/
def AttemptPc.result? : AttemptPc → Option WorkResult
  | .sent result | .finished result => some result
  | _ => none

def AttemptPc.isFinished : AttemptPc → Bool
  | .finished _ => true
  | _ => false

/-- What `runCoreApplyWorkWithRetry` does with the result of an attempt. -/
def Worker.decide (worker : Worker) (result : WorkResult) : Worker :=
  if result.ok || worker.maxRetries ≤ worker.retryCount || !coreApplyErrorRetryable result.errCode result.detail then
    { worker with pc := .finishing result }
  else { worker with pc := .cleaning result }

def workerMessage (worker : Worker) : String :=
  match worker.kind with
  | .manual => applyMessage worker.core
  | .auto => autoApplyMessage worker.core

/-- The next statement of a job's goroutine up to the end of the job; `giveUp` is its context
being over, `fail` a time that has run out. -/
def driverStep (id : Nat) (manager : JobManager) (worker : Worker) : Choice → Option (Worker × JobManager)
  | .go =>
      match worker.pc with
      | .marking => some ({ worker with pc := .launching }, manager.markRunning id (workerMessage worker))
      | .launching => some ({ worker with pc := .attempting, attempts := worker.attempts ++ [.launched] }, manager)
      | .attempting => do
          let result ← worker.attempts.getLast?.bind AttemptPc.result?
          return (worker.decide result, manager)
      | .cleaning result =>
          if worker.attempts.getLast?.any AttemptPc.isFinished then
            some ({ worker with pc := .backoff, retryCount := worker.retryCount + 1 },
              manager.markRetrying id (coreAutoRetryMessage worker.core) result (worker.retryCount + 1) worker.maxRetries)
          else none
      | .backoff => some ({ worker with pc := .marking }, manager)
      | .finishing result =>
          if result.ok then some ({ worker with pc := .following }, manager.markSucceeded id result)
          else some ({ worker with pc := .over none }, manager.markFailed id result)
      | _ => none
  | .fail _ _ =>
      match worker.pc with
      | .attempting => some (worker.decide timeoutResult, manager)
      | .cleaning _ => some ({ worker with pc := .finishing cleanupTimeoutResult }, manager)
      | _ => none
  | .giveUp =>
      match worker.pc with
      | .attempting => some (worker.decide cancelledResult, manager)
      | .cleaning _ | .backoff => some ({ worker with pc := .finishing cancelledResult }, manager)
      | _ => none
  | .singbox => none

/-! ### Requests -/

/-- What a request does about one core: its configuration is generated before and after the
commit, and a change is enqueued. -/
inductive Side where
  | before (reading : Reading)
  | captured (before : Except String Hash)
  | after (before : Except String Hash) (reading : Reading)
  /-- The hash could not be compared; the core is to be marked as pending. -/
  | unknown (reason : String)
  | changed
  /-- No job was running when it looked. -/
  | starting
  /-- It is over; the job it was answered with, if any. -/
  | settled (answer : Option Nat)
deriving DecidableEq

/-- A request that changes the configuration, or the goroutine by which a follow-up check
enqueues. -/
structure Request where
  owner : Owner
  committed : Bool
  sides : Core → Side

/-- `changedCoresFromGeneratedHashes`, for one core. -/
def compareHashes (before after : Except String Hash) : Side :=
  match after, before with
  | .error reason, _ => .unknown reason
  | .ok _, .error _ => .unknown "before_hash_unavailable"
  | .ok next, .ok previous => if previous = next then .settled none else .changed

/-- A commit waits until every core has been looked at. -/
def Side.committed : Side → Option Side
  | .captured hash => some (.after hash .begun)
  | .settled answer => some (.settled answer)
  | _ => none

/-- A request can end early until then. -/
def Side.abandoned : Side → Option Side
  | .before _ | .captured _ => some (.settled none)
  | .settled answer => some (.settled answer)
  | _ => none

/-- A handler that applies a core. -/
inductive HandlerPc where
  | checking
  | acquiring
  | starting
  | over
deriving DecidableEq, Repr

structure Handler where
  core : Core
  pc : HandlerPc
deriving DecidableEq, Repr

/-! ### The whole -/

/-- Who holds the lock file. -/
inductive Holder where
  | handler (id : Nat)
  | attempt (job : JobRef) (number : Nat)
deriving DecidableEq, Repr

structure State where
  tables : Tables
  rows : Core → Option CoreApplyState
  lock : Option Holder
  managers : Owner → JobManager
  workers : JobRef → Option Worker
  requests : Nat → Option Request
  handlers : Nat → Option Handler

namespace State

def setManager (state : State) (owner : Owner) (manager : JobManager) : State :=
  { state with managers := Function.update state.managers owner manager }

def setWorker (state : State) (job : JobRef) (worker : Worker) : State :=
  { state with workers := Function.update state.workers job (some worker) }

def setRequest (state : State) (id : Nat) (request : Request) : State :=
  { state with requests := Function.update state.requests id (some request) }

def setSide (state : State) (id : Nat) (request : Request) (core : Core) (side : Side) : State :=
  state.setRequest id { request with sides := Function.update request.sides core side }

def setHandler (state : State) (id : Nat) (handler : Handler) : State :=
  { state with handlers := Function.update state.handlers id (some handler) }

/-- What an effect of an attempt does. -/
def affect (state : State) (job : JobRef) (number : Nat) : Effect → State
  | .none => state
  | .enter => state.setManager job.owner { state.managers job.owner with applySem := true }
  | .dismiss => state.setManager job.owner { state.managers job.owner with applySem := false }
  | .lock => { state with lock := some (.attempt job number) }
  | .unlock => { state with lock := none }
  | .record core hash => { state with rows := markCoreApplied state.rows core hash }
  | .pend core reason => { state with rows := markCorePending state.rows core reason }

/-- A goroutine that starts a job: the job is made and its goroutine begins. -/
def startJob (state : State) (owner : Owner) (manager : JobManager) (id : Nat) (kind : Kind) (core : Core)
    (maxRetries : Nat) : State :=
  (state.setManager owner manager).setWorker ⟨owner, id⟩ ⟨kind, core, maxRetries, 0, .marking, []⟩

end State

inductive Action where
  /-- A request arrives that looks at some of the cores. -/
  | request (id : Nat) (owner : Owner) (cores : List Core)
  /-- The request ends without a commit. -/
  | abandon (id : Nat)
  | commit (id : Nat) (tables : Tables)
  /-- The next statement of a request about a core; the number is that of a job it may start. -/
  | proceed (id : Nat) (core : Core) (drawn : Nat)
  | apply (id : Nat) (core : Core)
  | handle (id : Nat) (drawn : Nat) (choice : Choice)
  | drive (job : JobRef) (choice : Choice)
  /-- The next statement of the follow-up check; the number is that of the goroutine it may start. -/
  | follow (job : JobRef) (spawned : Nat)
  | attempt (job : JobRef) (number : Nat) (choice : Choice)
  /-- `ApplyRenewedCertificateCores` marks a core. -/
  | renew (core : Core)

/-- The goroutine of a follow-up check that has found a core to be dirty. -/
def followUp (owner : Owner) (core : Core) : Request :=
  ⟨owner, true, fun other => if other = core then .changed else .settled none⟩

/-- `populateCoreWriteResultForHashes` and `enqueueCoreAutoApply`, for one core. -/
def proceedStep (state : State) (id : Nat) (core : Core) (drawn : Nat) : Option State := do
  let request ← state.requests id
  let manager := state.managers request.owner
  match request.sides core with
  | .before reading =>
      match reading.next state.tables with
      | .inl reading => some (state.setSide id request core (.before reading))
      | .inr seen => some (state.setSide id request core (.captured (generated core seen)))
  | .captured _ => none
  | .after before reading =>
      match reading.next state.tables with
      | .inl reading => some (state.setSide id request core (.after before reading))
      | .inr seen => some (state.setSide id request core (compareHashes before (generated core seen)))
  | .unknown reason =>
      some ({ state with rows := markCorePending state.rows core reason }.setSide id request core (.settled none))
  | .changed =>
      some (state.setSide id request core
        (if manager.running core then .settled (manager.byCore core) else .starting))
  | .starting =>
      match manager.tryStart core drawn (autoApplyMessage core) 3 with
      | none => some (state.setSide id request core (.settled (manager.byCore core)))
      | some started =>
          if (manager.byID drawn).isSome then none
          else some ((state.startJob request.owner started drawn .auto core 3).setSide id request core
            (.settled (some drawn)))
  | .settled _ => none

/-- `xrayApplyHandler` and `singboxApplyHandler`. -/
def handleStep (state : State) (id : Nat) (drawn : Nat) (choice : Choice) : Option State := do
  let handler ← state.handlers id
  let manager := state.managers .router
  match handler.pc, choice with
  | .checking, .go =>
      some (state.setHandler id { handler with pc := if manager.running handler.core then .over else .acquiring })
  | .acquiring, .go =>
      if state.lock.isNone then
        some ({ state with lock := some (.handler id) }.setHandler id { handler with pc := .starting })
      else some (state.setHandler id { handler with pc := .over })
  | .acquiring, .fail _ _ => some (state.setHandler id { handler with pc := .over })
  | .starting, .go =>
      match manager.tryStart handler.core drawn (applyMessage handler.core) 0 with
      | none => some ({ state with lock := none }.setHandler id { handler with pc := .over })
      | some started =>
          if (manager.byID drawn).isSome then none
          else
            -- The lock is handed over to the work of the job.
            some ({ state with lock := some (.attempt ⟨.router, drawn⟩ 0) }.startJob .router started drawn .manual
              handler.core 0 |>.setHandler id { handler with pc := .over })
  | _, _ => none

/-- `scheduleCoreAutoApplyIfStillDirty`. -/
def followStep (state : State) (job : JobRef) (spawned : Nat) : Option State := do
  let worker ← state.workers job
  let manager := state.managers job.owner
  match worker.pc with
  | .following =>
      some (state.setWorker job { worker with
        pc := if manager.running worker.core then .over (manager.byCore worker.core) else .checking .begun })
  | .checking reading =>
      match reading.next state.tables with
      | .inl reading => some (state.setWorker job { worker with pc := .checking reading })
      | .inr seen =>
          match generated worker.core seen with
          | .ok hash => some (state.setWorker job { worker with pc := .comparing hash })
          | .error _ => some (state.setWorker job { worker with pc := .over none })
  | .comparing hash =>
      if stillDirty (state.rows worker.core) hash then
        if (state.requests spawned).isSome then none
        else some ((state.setRequest spawned (followUp job.owner worker.core)).setWorker job
          { worker with pc := .over none })
      else some (state.setWorker job { worker with pc := .over none })
  | _ => none

def step : Action → State → Option State
  | .request id owner cores, state =>
      if (state.requests id).isSome then none
      else some (state.setRequest id
        ⟨owner, false, fun core => if core ∈ cores then .before .begun else .settled none⟩)
  | .abandon id, state => do
      let request ← state.requests id
      if request.committed then none
      else
        let xray ← (request.sides Core.xray).abandoned
        let singbox ← (request.sides Core.singbox).abandoned
        some (state.setRequest id { request with sides := fun core => if core = Core.xray then xray else singbox })
  | .commit id tables, state => do
      let request ← state.requests id
      if request.committed then none
      else
        let xray ← (request.sides Core.xray).committed
        let singbox ← (request.sides Core.singbox).committed
        some ({ state with tables }.setRequest id { request with
          committed := true, sides := fun core => if core = Core.xray then xray else singbox })
  | .proceed id core drawn, state => proceedStep generated state id core drawn
  | .apply id core, state =>
      if (state.handlers id).isSome then none
      else some (state.setHandler id ⟨core, if core = .xray then .checking else .acquiring⟩)
  | .handle id drawn choice, state => handleStep state id drawn choice
  | .drive job choice, state => do
      let worker ← state.workers job
      let (worker, manager) ← driverStep job.id (state.managers job.owner) worker choice
      some ((state.setManager job.owner manager).setWorker job worker)
  | .follow job spawned, state => followStep generated state job spawned
  | .attempt job number choice, state => do
      let worker ← state.workers job
      let pc ← worker.attempts[number]?
      let (pc, effect) ← attemptStep generated worker.kind worker.core state.tables
        (!(state.managers job.owner).applySem) state.lock.isNone pc choice
      some ((state.affect job number effect).setWorker job { worker with attempts := worker.attempts.set number pc })
  | .renew core, state => some { state with rows := markCorePending state.rows core "certificate_renewed" }

/-- The panel before the first request. -/
def State.initial (tables : Tables) (rows : Core → Option CoreApplyState) : State where
  tables := tables
  rows := rows
  lock := none
  managers := fun _ => .new
  workers := fun _ => none
  requests := fun _ => none
  handlers := fun _ => none

end MiGate.Apply
