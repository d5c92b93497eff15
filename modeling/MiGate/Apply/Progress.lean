import MiGate.Apply.Exclusion
import MiGate.Transition.Descent

namespace MiGate.Apply

open Transition

/-! No apply waits for ever: left to themselves, the goroutines come to their ends, whichever of
them goes first, and then nothing is held. -/

variable {generated : Core → Tables → Except String Hash} {state after : State} {action : Action}

/-- A goroutine does its next statement, and none of its times runs out. -/
def Action.goesOn : Action → Bool
  | .handle _ _ .go | .drive _ .go | .follow _ _ | .attempt _ _ .go => true
  | _ => false

/-! ### What each goroutine still has to do -/

def Reading.left : Reading → Nat
  | .begun => 2
  | .first _ => 1
  | .second _ _ => 0

def Phase.left : Phase → Nat
  | .reading _ read => read.left + 5
  | .built _ _ => 4
  | .written _ _ => 3
  | .restarted _ _ => 2
  | .recorded _ => 1

def AttemptPc.left : AttemptPc → Nat
  | .launched => 15
  | .admitted => 14
  | .performing phase => phase.left + 5
  | .performed _ => 5
  | .unlocked _ => 4
  | .released _ => 3
  | .reporting _ => 2
  | .sent _ => 1
  | .finished _ => 0

def DriverPc.left : DriverPc → Nat
  | .backoff => 26
  | .marking => 25
  | .launching => 24
  | .attempting => 8
  | .cleaning _ => 7
  | .finishing _ => 6
  | .following => 5
  | .checking reading => reading.left + 2
  | .comparing _ => 1
  | .over _ => 0

/-- A retry takes less than thirty statements. -/
def Worker.left (worker : Worker) : Nat :=
  (worker.attempts.map AttemptPc.left).sum + 30 * (worker.maxRetries - worker.retryCount) + worker.pc.left

def HandlerPc.left : HandlerPc → Nat
  | .checking => 32
  | .acquiring => 31
  | .starting => 30
  | .over => 0

def Handler.left (handler : Handler) : Nat :=
  handler.pc.left

/-- What the jobs and the handlers still have to do, all together. -/
def Remaining (state : State) (count : Nat) : Prop :=
  JobsSound state ∧ ∃ (jobs : Finset JobRef) (handlers : Finset Nat),
    (∀ job, job ∉ jobs → state.workers job = none) ∧ (∀ id, id ∉ handlers → state.handlers id = none) ∧
      count = totalWeight Worker.left state.workers jobs + totalWeight Handler.left state.handlers handlers

theorem Reading.next_left {reading next : Reading} {tables : Tables} (partly : reading.next tables = .inl next) :
    next.left < reading.left := by
  cases reading <;> cases partly <;> exact Nat.lt_succ_self _

section

variable {kind : Kind} {main : Core} {tables : Tables} {admissible free : Bool} {pc next : AttemptPc} {effect : Effect}

theorem performFailed_left (core : Core) (errCode detail : String) : (performFailed main core errCode detail).left = 5 := by
  unfold performFailed
  split <;> rfl

theorem phaseStep_left {phase : Phase}
    (stepped : phaseStep generated kind main tables phase .go = some (next, effect)) : next.left < phase.left + 5 := by
  cases phase with
  | reading core reading =>
      simp only [phaseStep] at stepped
      split at stepped <;> rename_i read
      · cases stepped
        have less := Reading.next_left read
        simp only [AttemptPc.left, Phase.left]
        omega
      · split at stepped <;> cases stepped
        · simp only [AttemptPc.left, Phase.left]
          omega
        · rw [performFailed_left]
          simp only [Phase.left]
          omega
  | built core hash | written core hash | restarted core hash | recorded core =>
      simp only [phaseStep, Option.some.injEq, Prod.mk.injEq] at stepped
      rw [← stepped.1]
      simp only [AttemptPc.left, Phase.left]
      omega

theorem attemptStep_left (stepped : attemptStep generated kind main tables admissible free pc .go = some (next, effect)) :
    next.left < pc.left := by
  cases pc with
  | launched =>
      simp only [attemptStep] at stepped
      split at stepped
      · cases stepped
        simp [AttemptPc.left, Phase.left, Reading.left]
      · split at stepped <;> cases stepped
        exact Nat.lt_succ_self _
  | admitted =>
      simp only [attemptStep] at stepped
      split at stepped <;> cases stepped <;> simp [AttemptPc.left, Phase.left, Reading.left]
  | performing phase => exact phaseStep_left stepped
  | performed result =>
      simp only [attemptStep] at stepped
      split at stepped <;> cases stepped <;> simp [AttemptPc.left]
  | released result =>
      simp only [attemptStep] at stepped
      split at stepped <;> cases stepped <;> exact Nat.lt_succ_self _
  | unlocked result | reporting result | sent result =>
      cases stepped
      exact Nat.lt_succ_self _
  | finished result => cases stepped

/-- Only the place in `applySem` is waited for. -/
theorem attemptStep_possible (unfinished : pc.isFinished = false)
    (vacant : pc = .launched → kind = .auto → admissible = true) :
    (attemptStep generated kind main tables admissible free pc .go).isSome = true := by
  cases pc with
  | launched =>
      cases kind with
      | manual => rfl
      | auto => simp only [attemptStep, vacant rfl rfl, if_true, Option.isSome_some]
  | admitted => cases free <;> rfl
  | performing phase =>
      cases phase with
      | reading core reading =>
          simp only [attemptStep, phaseStep]
          split
          · rfl
          · split <;> rfl
      | _ => rfl
  | performed result => cases kind <;> rfl
  | released result =>
      simp only [attemptStep]
      split <;> rfl
  | finished result => cases unfinished
  | _ => rfl

end

theorem sum_map_set_lt {β : Type} {weight : β → Nat} {elements : List β} {position : Nat} {old new : β}
    (here : elements[position]? = some old) (less : weight new < weight old) :
    ((elements.set position new).map weight).sum < (elements.map weight).sum := by
  induction elements generalizing position with
  | nil => cases here
  | cons element rest ih =>
      cases position with
      | zero =>
          cases here
          simp only [List.set_cons_zero, List.map_cons, List.sum_cons]
          omega
      | succ position =>
          have shorter := ih here
          simp only [List.set_cons_succ, List.map_cons, List.sum_cons]
          omega

theorem Worker.decide_left {worker : Worker} (result : WorkResult) (attempting : worker.pc = .attempting) :
    (worker.decide result).left < worker.left := by
  rcases worker.decide_cases result with same | ⟨_, _, same⟩ <;> rw [same] <;>
    simp only [Worker.left, attempting, DriverPc.left] <;> omega

theorem driverStep_left {id : Nat} {manager following : JobManager} {worker next : Worker} (sound : WorkerSound worker)
    (stepped : driverStep id manager worker .go = some (next, following)) : next.left < worker.left := by
  cases drives_of_driverStep stepped with
  | mark place | wake place | succeed place | fail place =>
      simp only [Worker.left, place, DriverPc.left]
      omega
  | launch place =>
      simp only [Worker.left, place, DriverPc.left, List.map_append, List.sum_append, List.map_cons, List.map_nil,
        List.sum_cons, List.sum_nil, AttemptPc.left]
      omega
  | receive place | expire place => exact worker.decide_left _ place
  | clean place =>
      have more := sound.retried _ place
      simp only [Worker.left, place, DriverPc.left]
      omega
  | quit place =>
      rcases place with ⟨earlier, place⟩ | place <;> simp only [Worker.left, place, DriverPc.left] <;> omega

/-- A job waits for an attempt only. -/
theorem driverStep_possible {id : Nat} {manager : JobManager} {worker : Worker} {pc : AttemptPc}
    (live : worker.pc.live = true) (last : worker.pc.idle = false → worker.attempts.getLast? = some pc)
    (finished : pc.isFinished = true) : (driverStep id manager worker .go).isSome = true := by
  cases pc with
  | finished result =>
      cases place : worker.pc with
      | attempting =>
          rw [place] at last
          simp only [driverStep, place, last rfl]
          rfl
      | cleaning earlier =>
          rw [place] at last
          simp only [driverStep, place, last rfl]
          rfl
      | finishing final =>
          simp only [driverStep, place]
          split <;> rfl
      | marking | launching | backoff => simp only [driverStep, place, Option.isSome_some]
      | _ =>
          rw [place] at live
          cases live
  | _ => cases finished

/-! ### Every step lowers what is left -/

theorem Remaining.worker {count : Nat} (remaining : Remaining state count) (sound : JobsSound after) {job : JobRef}
    {worker next : Worker} (found : state.workers job = some worker)
    (workers : after.workers = Function.update state.workers job (some next)) (handlers : after.handlers = state.handlers)
    (less : next.left < worker.left) : ∃ lower, lower < count ∧ Remaining after lower := by
  obtain ⟨_, jobs, ids, outsideJobs, outsideIds, rfl⟩ := remaining
  have total := totalWeight_update Worker.left outsideJobs job next
  rw [found, Option.elim_some] at total
  refine ⟨_, ?_, sound, insert job jobs, ids, ?_, handlers ▸ outsideIds, rfl⟩
  · rw [workers, handlers]
    omega
  · rw [workers]
    exact outside_update outsideJobs job next

theorem Remaining.handler {count : Nat} (remaining : Remaining state count) (sound : JobsSound after) {id : Nat}
    {handler next : Handler} (found : state.handlers id = some handler) (workers : after.workers = state.workers)
    (handlers : after.handlers = Function.update state.handlers id (some next)) (less : next.left < handler.left) :
    ∃ lower, lower < count ∧ Remaining after lower := by
  obtain ⟨_, jobs, ids, outsideJobs, outsideIds, rfl⟩ := remaining
  have total := totalWeight_update Handler.left outsideIds id next
  rw [found, Option.elim_some] at total
  refine ⟨_, ?_, sound, jobs, insert id ids, workers ▸ outsideJobs, ?_, rfl⟩
  · rw [workers, handlers]
    omega
  · rw [handlers]
    exact outside_update outsideIds id next

/-- The job that a handler starts has less left to do than the handler had. -/
theorem Remaining.manual {count : Nat} (remaining : Remaining state count) (sound : JobsSound after) {id : Nat}
    {job : JobRef} {handler next : Handler} {worker : Worker} (found : state.handlers id = some handler)
    (fresh : state.workers job = none) (workers : after.workers = Function.update state.workers job (some worker))
    (handlers : after.handlers = Function.update state.handlers id (some next))
    (less : next.left + worker.left < handler.left) : ∃ lower, lower < count ∧ Remaining after lower := by
  obtain ⟨_, jobs, ids, outsideJobs, outsideIds, rfl⟩ := remaining
  have ofHandlers := totalWeight_update Handler.left outsideIds id next
  have ofJobs := totalWeight_update Worker.left outsideJobs job worker
  rw [found, Option.elim_some] at ofHandlers
  rw [fresh, Option.elim_none] at ofJobs
  refine ⟨_, ?_, sound, insert job jobs, insert id ids, ?_, ?_, rfl⟩
  · rw [workers, handlers]
    omega
  · rw [workers]
    exact outside_update outsideJobs job worker
  · rw [handlers]
    exact outside_update outsideIds id next

theorem handle_left {count id drawn : Nat} (remaining : Remaining state count)
    (stepped : handleStep state id drawn .go = some after) : ∃ lower, lower < count ∧ Remaining after lower := by
  have event : Event (fun _ _ => .error "") state (.handle id drawn .go) after := event_of_handle stepped
  have sound : JobsSound after := remaining.1.step event
  simp only [handleStep, Option.bind_eq_bind, Option.bind_eq_some_iff] at stepped
  obtain ⟨handler, found, stepped⟩ := stepped
  split at stepped <;> rename_i place given
  · cases stepped
    refine remaining.handler sound found rfl rfl ?_
    simp only [Handler.left, place]
    split <;> simp only [HandlerPc.left] <;> omega
  · split at stepped <;> cases stepped <;> refine remaining.handler sound found rfl rfl ?_ <;>
      simp only [Handler.left, place, HandlerPc.left] <;> omega
  · cases given
  · split at stepped
    · cases stepped
      refine remaining.handler sound found rfl rfl ?_
      simp only [Handler.left, place, HandlerPc.left]
      omega
    · split at stepped <;> rename_i fresh <;> cases stepped
      have unused := remaining.1.fresh (Option.not_isSome_iff_eq_none.mp fresh)
      refine remaining.manual sound found unused rfl rfl ?_
      simp [Handler.left, place, HandlerPc.left, Worker.left, DriverPc.left]
  · cases stepped

theorem follow_left {count spawned : Nat} {job : JobRef} (remaining : Remaining state count)
    (stepped : followStep generated state job spawned = some after) : ∃ lower, lower < count ∧ Remaining after lower := by
  have event : Event generated state (.follow job spawned) after := event_of_follow stepped
  have sound : JobsSound after := remaining.1.step event
  cases event with
  | @follow _ _ worker next found follows =>
      refine remaining.worker sound found rfl rfl ?_
      suffices less : next.left < worker.pc.left by
        simp only [Worker.left]
        omega
      generalize worker.pc = place at follows
      cases follows with
      | read partly =>
          have less := Reading.next_left partly
          simp only [DriverPc.left]
          omega
      | _ =>
          simp only [DriverPc.left, Reading.left]
          omega
  | @spawn _ _ worker hash found comparing =>
      refine remaining.worker sound found rfl rfl ?_
      simp only [Worker.left, comparing, DriverPc.left]
      omega

theorem remaining_descends (generated : Core → Tables → Except String Hash) :
    Descends (step generated) Action.goesOn Remaining := by
  intro action state after count going stepped remaining
  have sound : JobsSound after := remaining.1.step (event_of_step stepped)
  cases action with
  | handle id drawn choice =>
      cases choice with
      | go => exact handle_left remaining stepped
      | _ => cases going
  | follow job spawned => exact follow_left remaining stepped
  | drive job choice =>
      cases choice with
      | go =>
          simp only [step, Option.bind_eq_bind, Option.bind_eq_some_iff, Option.some.injEq] at stepped
          obtain ⟨worker, found, ⟨next, manager⟩, driven, rfl⟩ := stepped
          exact remaining.worker sound found rfl rfl (driverStep_left (remaining.1.sound job worker found) driven)
      | _ => cases going
  | attempt job number choice =>
      cases choice with
      | go =>
          simp only [step, Option.bind_eq_bind, Option.bind_eq_some_iff, Option.some.injEq] at stepped
          obtain ⟨worker, found, pc, here, ⟨next, effect⟩, moved, rfl⟩ := stepped
          have handlers : (state.affect job number effect).handlers = state.handlers := by cases effect <;> rfl
          have fewer := sum_map_set_lt here (attemptStep_left moved)
          have less : ({ worker with attempts := worker.attempts.set number next } : Worker).left < worker.left := by
            simp only [Worker.left]
            omega
          exact remaining.worker sound found (by simp only [State.setWorker, affect_workers]) handlers less
      | _ => cases going
  | _ => cases going

/-! ### What is held, somebody holds -/

/-- An automatic attempt has its place in `applySem`. -/
def AttemptPc.seated : AttemptPc → Bool
  | .admitted | .performing _ | .performed _ | .unlocked _ => true
  | _ => false

/-- Whoever holds the lock is there and will give it back. -/
def HeldBy (state : State) : Holder → Prop
  | .handler id => ∃ handler, state.handlers id = some handler ∧ handler.pc = .starting
  | .attempt job number => ∃ worker, state.workers job = some worker ∧ worker.holds number = true

/-- A job that has been launched has made an attempt. -/
def Worker.Attempted (worker : Worker) : Prop :=
  worker.pc ≠ .marking → worker.pc ≠ .launching → worker.attempts ≠ []

/-- Somebody has the place in `applySem` of a manager. -/
def SeatTaken (state : State) (owner : Owner) : Prop :=
  ∃ (id : Nat) (worker : Worker) (number : Nat) (pc : AttemptPc), state.workers ⟨owner, id⟩ = some worker ∧
    worker.kind = .auto ∧ worker.attempts[number]? = some pc ∧ pc.seated = true

structure Accounted (state : State) : Prop where
  attempted : ∀ job worker, state.workers job = some worker → worker.Attempted
  held : ∀ holder, state.lock = some holder → HeldBy state holder
  seated : ∀ owner, (state.managers owner).applySem = true → SeatTaken state owner
  finite : ∃ bound, ∀ id, bound ≤ id → state.requests id = none ∧ state.handlers id = none ∧
    ∀ owner, state.workers ⟨owner, id⟩ = none

theorem Accounted.initial (tables : Tables) (rows : Core → Option CoreApplyState) : Accounted (.initial tables rows) where
  attempted := fun _ _ found => by cases found
  held := fun _ taken => by cases taken
  seated := fun _ taken => by cases taken
  finite := ⟨0, fun _ _ => ⟨rfl, rfl, fun _ => rfl⟩⟩

theorem Worker.Attempted.drive {id : Nat} {manager following : JobManager} {worker next : Worker}
    (before : worker.Attempted) (drives : Drives id manager worker next following) : next.Attempted := by
  have decided : ∀ result, worker.pc = .attempting → (worker.decide result).Attempted := by
    intro result place
    have made := before (by simp [place]) (by simp [place])
    rcases worker.decide_cases result with same | ⟨_, _, same⟩ <;> rw [same] <;> exact fun _ _ => made
  intro notMarking notLaunching
  cases drives with
  | mark => exact absurd rfl notLaunching
  | wake => exact absurd rfl notMarking
  | launch => simp
  | receive place | expire place => exact decided _ place notMarking notLaunching
  | quit place => rcases place with ⟨_, place⟩ | place <;> exact before (by simp [place]) (by simp [place])
  | clean place | succeed place | fail place => exact before (by simp [place]) (by simp [place])

theorem Accounted.attempted_step (sound : Accounted state) (event : Event generated state action after) {job : JobRef}
    {worker : Worker} (found : after.workers job = some worker) : worker.Attempted := by
  cases event with
  | request | abandon | commit | look | mark | apply | handle | acquire | release | renew => exact sound.attempted job worker found
  | start | manual =>
      simp only [State.setSide, State.setRequest, State.setHandler, State.startJob, State.setWorker, State.setManager,
        Function.update_apply] at found
      split at found
      · cases found
        exact fun notMarking _ => absurd rfl notMarking
      · exact sound.attempted job worker found
  | @drive driven choice old next manager there drives =>
      simp only [State.setWorker, State.setManager, Function.update_apply] at found
      split at found
      · cases found
        exact (sound.attempted _ _ there).drive drives
      · exact sound.attempted job worker found
  | @follow followed spawned old next there follows =>
      simp only [State.setWorker, Function.update_apply] at found
      split at found
      · cases found
        have made : old.attempts ≠ [] := by
          refine sound.attempted _ old there ?_ ?_ <;> intro place <;> rw [place] at follows <;> cases follows
        exact fun _ _ => made
      · exact sound.attempted job worker found
  | @spawn followed spawned old hash there comparing =>
      simp only [State.setWorker, State.setRequest, Function.update_apply] at found
      split at found
      · cases found
        have made := sound.attempted _ old there (by simp [comparing]) (by simp [comparing])
        exact fun _ _ => made
      · exact sound.attempted job worker found
  | @attempt moved number choice old pc next effect there here moves =>
      simp only [State.setWorker, affect_workers, Function.update_apply] at found
      split at found
      · cases found
        intro notMarking notLaunching
        have made := sound.attempted _ _ there notMarking notLaunching
        simpa using made
      · exact sound.attempted job worker found

/-- Who holds the lock goes on holding it as long as nothing is done to its own attempts. -/
theorem HeldBy.congr {holder : Holder} (held : HeldBy state holder)
    (workers : ∀ job worker number, state.workers job = some worker → worker.holds number = true →
      ∃ next, after.workers job = some next ∧ next.holds number = true)
    (handlers : ∀ id handler, state.handlers id = some handler → handler.pc = .starting →
      ∃ next, after.handlers id = some next ∧ next.pc = .starting) : HeldBy after holder := by
  cases holder with
  | handler id =>
      obtain ⟨handler, found, starting⟩ := held
      exact handlers id handler found starting
  | attempt job number =>
      obtain ⟨worker, found, holds⟩ := held
      exact workers job worker number found holds

theorem Accounted.held_step (sound : Accounted state) (jobs : JobsSound state) (event : Event generated state action after)
    {holder : Holder} (locked : after.lock = some holder) : HeldBy after holder := by
  have sameWorkers : ∀ job worker number, state.workers job = some worker → worker.holds number = true →
      ∃ next, state.workers job = some next ∧ next.holds number = true :=
    fun _ worker _ found holds => ⟨worker, found, holds⟩
  have sameHandlers : ∀ id handler, state.handlers id = some handler → handler.pc = .starting →
      ∃ next, state.handlers id = some next ∧ next.pc = .starting :=
    fun _ handler found starting => ⟨handler, found, starting⟩
  -- A goroutine that moves without touching the lock.
  have ofWorker : ∀ {job : JobRef} {worker next : Worker} {workers : JobRef → Option Worker},
      state.workers job = some worker → (∀ number, next.holds number = worker.holds number) →
      workers = Function.update state.workers job (some next) → ∀ other given number, state.workers other = some given →
        given.holds number = true → ∃ moved, workers other = some moved ∧ moved.holds number = true := by
    rintro job worker next _ found same rfl other given number there holds
    by_cases this : other = job
    · subst this
      rw [found] at there
      cases there
      exact ⟨next, Function.update_self .., (same number).trans holds⟩
    · exact ⟨given, by rw [Function.update_of_ne this, there], holds⟩
  cases event with
  | request | abandon | commit | look | mark | renew => exact (sound.held holder locked).congr sameWorkers sameHandlers
  | @start id drawn core request started found starting tried fresh =>
      refine (sound.held holder locked).congr (fun job worker number there holds => ⟨worker, ?_, holds⟩) sameHandlers
      simp only [State.setSide, State.setRequest, State.startJob, State.setWorker, State.setManager]
      rw [Function.update_of_ne, there]
      rintro rfl
      rw [jobs.fresh fresh] at there
      cases there
  | @apply id core fresh =>
      refine (sound.held holder locked).congr sameWorkers fun other handler there starting => ⟨handler, ?_, starting⟩
      simp only [State.setHandler]
      rw [Function.update_of_ne, there]
      rintro rfl
      rw [fresh] at there
      cases there
  | @handle id drawn choice handler next found early quiet =>
      refine (sound.held holder locked).congr sameWorkers fun other given there starting => ⟨given, ?_, starting⟩
      simp only [State.setHandler]
      rw [Function.update_of_ne, there]
      rintro rfl
      rw [found] at there
      cases there
      exact early starting
  | acquire =>
      cases locked
      exact ⟨_, Function.update_self .., rfl⟩
  | release => cases locked
  | manual =>
      cases locked
      exact ⟨_, Function.update_self .., rfl⟩
  | drive found drives =>
      exact (sound.held holder locked).congr (ofWorker found (drives.holds (jobs.sound _ _ found)) rfl) sameHandlers
  | @follow job spawned worker next found follows =>
      have same : ∀ number, ({ worker with pc := next } : Worker).holds number = worker.holds number := fun _ => rfl
      exact (sound.held holder locked).congr (ofWorker found same rfl) sameHandlers
  | @spawn job spawned worker hash found comparing dirty fresh =>
      have same : ∀ number, ({ worker with pc := .over none } : Worker).holds number = worker.holds number := fun _ => rfl
      exact (sound.held holder locked).congr (ofWorker found same rfl) sameHandlers
  | @attempt job number choice worker pc next effect found here moves =>
      have bound : number < worker.attempts.length := (List.getElem?_eq_some_iff.mp here).choose
      have before : worker.holds number = pc.holds worker.kind := by rw [Worker.holds, here]
      have mine : ({ worker with attempts := worker.attempts.set number next } : Worker).holds number =
          next.holds worker.kind := by rw [Worker.holds, List.getElem?_set_self bound]
      rcases moves.holds with ⟨rfl, _, _⟩ | ⟨rfl, _, _⟩ | ⟨notLock, notUnlock, same⟩
      · cases locked
        refine ⟨_, Function.update_self .., mine.trans ?_⟩
        cases moves
        rfl
      · cases locked
      · have unchanged : (state.affect job number effect).lock = state.lock := by
          cases effect <;> first | rfl | exact absurd rfl notLock | exact absurd rfl notUnlock
        have handlers : (state.affect job number effect).handlers = state.handlers := by cases effect <;> rfl
        have kept : ∀ other, ({ worker with attempts := worker.attempts.set number next } : Worker).holds other =
            worker.holds other := by
          intro other
          by_cases this : other = number
          · rw [this, mine, before, same]
          · rw [Worker.holds, List.getElem?_set_ne (Ne.symm this)]
            rfl
        refine (sound.held holder (unchanged.symm.trans locked)).congr (ofWorker found kept ?_) ?_
        · simp only [State.setWorker, affect_workers]
        · intro id handler there starting
          exact ⟨handler, by rw [← there, ← handlers]; rfl, starting⟩

section

variable {kind : Kind} {main : Core} {tables : Tables} {admissible free : Bool} {pc next : AttemptPc} {effect : Effect}

theorem performFailed_seated (core : Core) (errCode detail : String) :
    (performFailed main core errCode detail).seated = true := by
  unfold performFailed
  split <;> rfl

/-- The place is given back by who has it. -/
theorem Moves.seated (moves : Moves generated kind main tables admissible free pc next effect) (auto : kind = .auto)
    (before : pc.seated = true) : effect = .dismiss ∨ next.seated = true := by
  cases moves with
  | dismiss => exact .inl rfl
  | fail => exact .inr (performFailed_seated _ _ _)
  | unlock after =>
      rcases after with ⟨_, manual⟩ | ⟨rfl, _⟩
      · rw [auto] at manual
        cases manual
      · exact .inr rfl
  | begin | enter | giveUp => cases before
  | pend | spare | send | close => cases before
  | _ => exact .inr rfl

end

/-- A worker goes on, and what attempts it has made are where they were. -/
def Worker.Extends (worker next : Worker) : Prop :=
  next.kind = worker.kind ∧ ∀ (number : Nat) (pc : AttemptPc), worker.attempts[number]? = some pc →
    next.attempts[number]? = some pc

theorem Drives.extends {id : Nat} {manager following : JobManager} {worker next : Worker}
    (drives : Drives id manager worker next following) : worker.Extends next := by
  have decided : ∀ result, worker.Extends (worker.decide result) := by
    intro result
    rcases worker.decide_cases result with same | ⟨_, _, same⟩ <;> rw [same] <;> exact ⟨rfl, fun _ _ here => here⟩
  cases drives with
  | launch =>
      refine ⟨rfl, fun number pc here => ?_⟩
      have bound : number < worker.attempts.length := (List.getElem?_eq_some_iff.mp here).choose
      exact (List.getElem?_append_left bound).trans here
  | receive | expire => exact decided _
  | _ => exact ⟨rfl, fun _ _ here => here⟩

theorem Drives.applySem {id : Nat} {manager following : JobManager} {worker next : Worker}
    (drives : Drives id manager worker next following) : following.applySem = manager.applySem := by
  cases drives with
  | mark | clean | succeed | fail => exact JobManager.update_applySem _
  | _ => rfl

/-- The place stays taken where a worker goes on, or a new one comes. -/
theorem SeatTaken.update {owner : Owner} {job : JobRef} {next : Worker} (taken : SeatTaken state owner)
    (goesOn : ∀ worker, state.workers job = some worker → worker.Extends next)
    (workers : after.workers = Function.update state.workers job (some next)) : SeatTaken after owner := by
  obtain ⟨id, worker, number, pc, found, auto, here, seated⟩ := taken
  rw [SeatTaken, workers]
  by_cases this : (⟨owner, id⟩ : JobRef) = job
  · subst this
    obtain ⟨kind, kept⟩ := goesOn worker found
    exact ⟨id, next, number, pc, Function.update_self .., kind.trans auto, kept number pc here, seated⟩
  · exact ⟨id, worker, number, pc, by rw [Function.update_of_ne this, found], auto, here, seated⟩

theorem startJob_applySem {owner : Owner} (other : Owner) (kind : Kind) {started : JobManager} {maxRetries drawn : Nat} {core : Core}
    {message : String} (tried : (state.managers owner).tryStart core drawn message maxRetries = some started) :
    ((state.startJob owner started drawn kind core maxRetries).managers other).applySem =
      (state.managers other).applySem := by
  obtain ⟨_, rfl⟩ := JobManager.tryStart_eq_some.mp tried
  simp only [State.startJob, State.setWorker, State.setManager, Function.update_apply]
  split
  · rename_i same
    rw [same]
  · rfl

theorem Accounted.seated_step (sound : Accounted state) (jobs : JobsSound state) (event : Event generated state action after)
    {owner : Owner} (taken : (after.managers owner).applySem = true) : SeatTaken after owner := by
  have unused : ∀ {job : JobRef} {new : Worker}, state.workers job = none → ∀ worker, state.workers job = some worker →
      worker.Extends new := by
    intro job new fresh worker found
    rw [fresh] at found
    cases found
  have moved : ∀ {job : JobRef} {worker next : Worker}, state.workers job = some worker → worker.Extends next →
      ∀ given, state.workers job = some given → given.Extends next := by
    intro job worker next found goesOn given there
    rw [found] at there
    cases there
    exact goesOn
  cases event with
  | request | abandon | commit | look | mark | apply | handle | acquire | release | renew => exact sound.seated owner taken
  | @start id drawn core request started found starting tried fresh =>
      have same := startJob_applySem owner .auto tried
      exact (sound.seated owner (same.symm.trans taken)).update (unused (jobs.fresh fresh)) rfl
  | @manual id drawn handler started found starting tried fresh =>
      have same := startJob_applySem owner .manual tried
      exact (sound.seated owner (same.symm.trans taken)).update (unused (jobs.fresh fresh)) rfl
  | @drive job choice worker next manager found drives =>
      have before : (state.managers owner).applySem = true := by
        simp only [State.setWorker, State.setManager, Function.update_apply] at taken
        split at taken
        · rename_i same
          rw [same, ← drives.applySem]
          exact taken
        · exact taken
      exact (sound.seated owner before).update (moved found drives.extends) rfl
  | @follow job spawned worker next found follows =>
      have goesOn : worker.Extends { worker with pc := next } := ⟨rfl, fun _ _ here => here⟩
      exact (sound.seated owner taken).update (moved found goesOn) rfl
  | @spawn job spawned worker hash found comparing dirty fresh =>
      have goesOn : worker.Extends { worker with pc := .over none } := ⟨rfl, fun _ _ here => here⟩
      exact (sound.seated owner taken).update (moved found goesOn) rfl
  | @attempt job number choice worker pc next effect found here moves =>
      have bound : number < worker.attempts.length := (List.getElem?_eq_some_iff.mp here).choose
      have workers : ((state.affect job number effect).setWorker job
          { worker with attempts := worker.attempts.set number next }).workers =
            Function.update state.workers job (some { worker with attempts := worker.attempts.set number next }) := by
        simp only [State.setWorker, affect_workers]
      rw [SeatTaken, workers]
      by_cases entered : effect = .enter ∧ owner = job.owner
      · obtain ⟨rfl, rfl⟩ := entered
        cases moves with
        | enter auto => exact ⟨job.id, _, number, _, Function.update_self .., auto, List.getElem?_set_self bound, rfl⟩
      · -- The place was taken before, and is not given back now.
        have before : (state.managers owner).applySem = true ∧ (owner = job.owner → effect ≠ .dismiss) := by
          cases effect with
          | enter =>
              have other : owner ≠ job.owner := fun same => entered ⟨rfl, same⟩
              exact ⟨by simpa [State.affect, State.setWorker, State.setManager, Function.update_of_ne other] using taken,
                fun same => absurd same other⟩
          | dismiss =>
              by_cases same : owner = job.owner
              · subst same
                simp [State.affect, State.setWorker, State.setManager] at taken
              · exact ⟨by simpa [State.affect, State.setWorker, State.setManager, Function.update_of_ne same] using taken,
                  fun this => absurd this same⟩
          | _ => exact ⟨taken, fun _ => by simp⟩
        obtain ⟨id, given, at_, place, there, auto, stands, seated⟩ := sound.seated owner before.1
        by_cases this : (⟨owner, id⟩ : JobRef) = job
        · subst this
          rw [found] at there
          cases there
          by_cases mine : number = at_
          · subst mine
            rw [here] at stands
            cases stands
            have kept := (moves.seated auto seated).resolve_left (before.2 rfl)
            exact ⟨id, _, number, next, Function.update_self .., auto, List.getElem?_set_self bound, kept⟩
          · exact ⟨id, _, at_, place, Function.update_self .., auto, (List.getElem?_set_ne mine).trans stands, seated⟩
        · exact ⟨id, given, at_, place, by rw [Function.update_of_ne this, there], auto, stands, seated⟩

theorem Accounted.finite_step (sound : Accounted state) (event : Event generated state action after) :
    ∃ bound, ∀ id, bound ≤ id → after.requests id = none ∧ after.handlers id = none ∧
      ∀ owner, after.workers ⟨owner, id⟩ = none := by
  obtain ⟨bound, unused⟩ := sound.finite
  -- What is used anew is below the new bound; what was used keeps its number.
  have known : ∀ {β : Type} {entries : Nat → Option β} {id : Nat} {entry : β}, entries id = some entry →
      (∀ id, bound ≤ id → entries id = none) → id < bound := by
    intro β entries id entry found beyond
    by_contra above
    rw [beyond id (Nat.not_lt.mp above)] at found
    cases found
  have request : ∀ {id : Nat} {entry : Request}, state.requests id = some entry → id < bound :=
    fun found => known found fun id beyond => (unused id beyond).1
  have handler : ∀ {id : Nat} {entry : Handler}, state.handlers id = some entry → id < bound :=
    fun found => known found fun id beyond => (unused id beyond).2.1
  have worker : ∀ {job : JobRef} {entry : Worker}, state.workers job = some entry → job.id < bound := by
    rintro ⟨owner, id⟩ entry found
    have beyond : ∀ id, bound ≤ id → state.workers ⟨owner, id⟩ = none := fun id above => (unused id above).2.2 owner
    exact known found beyond
  cases event with
  | @request id | @apply id =>
      refine ⟨max bound (id + 1), fun other beyond => ?_⟩
      obtain ⟨requests, handlers, workers⟩ := unused other (le_of_max_le_left beyond)
      have new : other ≠ id := Nat.ne_of_gt (le_of_max_le_right beyond)
      simp only [State.setRequest, State.setHandler, Function.update_of_ne new]
      exact ⟨requests, handlers, workers⟩
  | @abandon id request_ xray singbox found | @commit id tables request_ xray singbox found | @look id drawn core request_ next found
  | @mark id drawn core request_ reason found =>
      refine ⟨bound, fun other beyond => ?_⟩
      have new : other ≠ id := Nat.ne_of_gt (Nat.lt_of_lt_of_le (request found) beyond)
      simp only [State.setSide, State.setRequest, Function.update_of_ne new]
      exact unused other beyond
  | @start id drawn core request_ started found =>
      refine ⟨max bound (drawn + 1), fun other beyond => ?_⟩
      have below := le_of_max_le_left beyond
      have new : other ≠ id := Nat.ne_of_gt (Nat.lt_of_lt_of_le (request found) below)
      have unmade : other ≠ drawn := Nat.ne_of_gt (le_of_max_le_right beyond)
      obtain ⟨requests, handlers, workers⟩ := unused other below
      simp only [State.setSide, State.setRequest, State.startJob, State.setWorker, State.setManager,
        Function.update_of_ne new]
      refine ⟨requests, handlers, fun owner => ?_⟩
      rw [Function.update_of_ne (fun same => unmade (congrArg JobRef.id same)), workers owner]
  | @handle id drawn choice handler_ next found | @acquire id drawn handler_ found | @release id drawn handler_ found =>
      refine ⟨bound, fun other beyond => ?_⟩
      have new : other ≠ id := Nat.ne_of_gt (Nat.lt_of_lt_of_le (handler found) beyond)
      simp only [State.setHandler, Function.update_of_ne new]
      exact unused other beyond
  | @manual id drawn handler_ started found =>
      refine ⟨max bound (drawn + 1), fun other beyond => ?_⟩
      have below := le_of_max_le_left beyond
      have new : other ≠ id := Nat.ne_of_gt (Nat.lt_of_lt_of_le (handler found) below)
      have unmade : other ≠ drawn := Nat.ne_of_gt (le_of_max_le_right beyond)
      obtain ⟨requests, handlers, workers⟩ := unused other below
      simp only [State.setHandler, State.startJob, State.setWorker, State.setManager, Function.update_of_ne new]
      refine ⟨requests, handlers, fun owner => ?_⟩
      rw [Function.update_of_ne (fun same => unmade (congrArg JobRef.id same)), workers owner]
  | @drive job choice old next manager found | @follow job spawned old next found =>
      refine ⟨bound, fun other beyond => ?_⟩
      obtain ⟨requests, handlers, workers⟩ := unused other beyond
      have different : other ≠ job.id := Nat.ne_of_gt (Nat.lt_of_lt_of_le (worker found) beyond)
      simp only [State.setWorker, State.setManager]
      refine ⟨requests, handlers, fun owner => ?_⟩
      rw [Function.update_of_ne (fun same => different (congrArg JobRef.id same)), workers owner]
  | @spawn job spawned old hash found =>
      refine ⟨max bound (spawned + 1), fun other beyond => ?_⟩
      have below := le_of_max_le_left beyond
      obtain ⟨requests, handlers, workers⟩ := unused other below
      have different : other ≠ job.id := Nat.ne_of_gt (Nat.lt_of_lt_of_le (worker found) below)
      have new : other ≠ spawned := Nat.ne_of_gt (le_of_max_le_right beyond)
      simp only [State.setWorker, State.setRequest, Function.update_of_ne new]
      refine ⟨requests, handlers, fun owner => ?_⟩
      rw [Function.update_of_ne (fun same => different (congrArg JobRef.id same)), workers owner]
  | @attempt job number choice old pc next effect found =>
      refine ⟨bound, fun other beyond => ?_⟩
      obtain ⟨requests, handlers, workers⟩ := unused other beyond
      have different : other ≠ job.id := Nat.ne_of_gt (Nat.lt_of_lt_of_le (worker found) beyond)
      have sameRequests : (state.affect job number effect).requests = state.requests := by cases effect <;> rfl
      have sameHandlers : (state.affect job number effect).handlers = state.handlers := by cases effect <;> rfl
      simp only [State.setWorker, affect_workers, sameRequests, sameHandlers]
      refine ⟨requests, handlers, fun owner => ?_⟩
      rw [Function.update_of_ne (fun same => different (congrArg JobRef.id same)), workers owner]
  | renew => exact ⟨bound, unused⟩

theorem accounted {tables : Tables} {rows : Core → Option CoreApplyState}
    (reached : Reach (Steps (step generated)) (.initial tables rows) state) : Accounted state :=
  reached.invariant_with (fun _ => jobs_sound) (.initial tables rows) fun _ _ _ jobs sound stepped =>
    have event := event_of_step stepped
    { attempted := fun _ _ => sound.attempted_step event
      held := fun _ => sound.held_step jobs event
      seated := fun _ => sound.seated_step jobs event
      finite := sound.finite_step event }

/-! ### Where nothing goes on -/

/-- Every handler and every job has come to its end, with all its attempts, and nothing is held. -/
structure AtRest (state : State) : Prop where
  handlers : ∀ id handler, state.handlers id = some handler → handler.pc = .over
  jobs : ∀ job worker, state.workers job = some worker → ∃ answer, worker.pc = .over answer
  attempts : ∀ job worker, state.workers job = some worker → ∀ pc ∈ worker.attempts, pc.isFinished = true
  lock : state.lock = none
  seats : ∀ owner, (state.managers owner).applySem = false
  idle : ∀ owner core, (state.managers owner).running core = false

/-- An attempt that is not over can go on, or the one that has its place can. -/
theorem Accounted.attempt_possible (sound : Accounted state) {job : JobRef} {worker : Worker} {number : Nat} {pc : AttemptPc}
    (found : state.workers job = some worker) (here : worker.attempts[number]? = some pc) (unfinished : pc.isFinished = false) :
    ∃ action, action.goesOn = true ∧ (step generated action state).isSome = true := by
  have able : ∀ {job : JobRef} {worker : Worker} {number : Nat} {pc : AttemptPc}, state.workers job = some worker →
      worker.attempts[number]? = some pc → pc.isFinished = false →
      (pc = .launched → worker.kind = .auto → (!(state.managers job.owner).applySem) = true) →
      ∃ action, action.goesOn = true ∧ (step generated action state).isSome = true := by
    intro job worker number pc found here unfinished vacant
    refine ⟨.attempt job number .go, rfl, ?_⟩
    have possible : (attemptStep generated worker.kind worker.core state.tables (!(state.managers job.owner).applySem)
        state.lock.isNone pc .go).isSome = true := attemptStep_possible unfinished vacant
    obtain ⟨⟨next, effect⟩, stepped⟩ := Option.isSome_iff_exists.mp possible
    simp only [step, Option.bind_eq_bind, found, Option.bind_some, here, stepped, Option.isSome_some]
  by_cases waits : pc = .launched ∧ worker.kind = .auto ∧ (state.managers job.owner).applySem = true
  · obtain ⟨id, other, at_, place, there, _, stands, seated⟩ := sound.seated job.owner waits.2.2
    refine able there stands ?_ ?_
    · cases place <;> first | rfl | cases seated
    · rintro rfl
      cases seated
  · refine able found here unfinished fun launched auto => ?_
    cases taken : (state.managers job.owner).applySem with
    | false => rfl
    | true => exact absurd ⟨launched, auto, taken⟩ waits

theorem Accounted.handler_possible (sound : Accounted state) (jobs : JobsSound state) {id : Nat} {handler : Handler}
    (found : state.handlers id = some handler) (early : handler.pc ≠ .over) :
    ∃ action, action.goesOn = true ∧ (step generated action state).isSome = true := by
  obtain ⟨bound, unused⟩ := sound.finite
  refine ⟨.handle id bound .go, rfl, ?_⟩
  have fresh : (state.managers .router).byID bound = none := by
    cases given : (state.managers .router).byID bound with
    | none => rfl
    | some job =>
        obtain ⟨worker, there, _⟩ := jobs.worker .router bound job given
        rw [(unused bound (Nat.le_refl bound)).2.2] at there
        cases there
  simp only [step, handleStep, Option.bind_eq_bind, found, Option.bind_some]
  cases place : handler.pc with
  | checking => rfl
  | acquiring =>
      simp only
      split <;> rfl
  | starting =>
      simp only [fresh, Option.isSome_none, Bool.false_eq_true, if_false]
      split <;> rfl
  | _ => exact absurd place early

/-- A job whose attempts are over can go on to its end. -/
theorem Accounted.job_possible (sound : Accounted state) {job : JobRef} {worker : Worker}
    (found : state.workers job = some worker) (early : ∀ answer, worker.pc ≠ .over answer)
    (finished : ∀ pc ∈ worker.attempts, pc.isFinished = true) :
    ∃ action, action.goesOn = true ∧ (step generated action state).isSome = true := by
  cases live : worker.pc.live with
  | true =>
      refine ⟨.drive job .go, rfl, ?_⟩
      have driven : (driverStep job.id (state.managers job.owner) worker .go).isSome = true := by
        cases last : worker.attempts.getLast? with
        | none =>
            have none_ : worker.attempts = [] := List.getLast?_eq_none_iff.mp last
            have attempted := sound.attempted job worker found
            cases place : worker.pc with
            | marking | launching => simp only [driverStep, place, Option.isSome_some]
            | attempting | cleaning | backoff | finishing =>
                exact absurd none_ (attempted (by simp [place]) (by simp [place]))
            | _ =>
                rw [place] at live
                cases live
        | some pc => exact driverStep_possible live (fun _ => last) (finished pc (List.mem_of_getLast? last))
      obtain ⟨⟨next, manager⟩, stepped⟩ := Option.isSome_iff_exists.mp driven
      simp only [step, Option.bind_eq_bind, found, Option.bind_some, stepped, Option.isSome_some]
  | false =>
      obtain ⟨bound, unused⟩ := sound.finite
      refine ⟨.follow job bound, rfl, ?_⟩
      simp only [step, followStep, Option.bind_eq_bind, found, Option.bind_some]
      cases place : worker.pc with
      | following => rfl
      | checking reading =>
          simp only
          split
          · rfl
          · split <;> rfl
      | comparing hash =>
          simp only [(unused bound (Nat.le_refl bound)).1, Option.isSome_none, Bool.false_eq_true, if_false]
          split <;> rfl
      | marking | launching | attempting | cleaning | backoff | finishing =>
          rw [place] at live
          cases live
      | _ => exact absurd place (early _)

/-- Where no goroutine can go on, everything is at rest. -/
theorem Accounted.atRest (sound : Accounted state) (jobs : JobsSound state)
    (exhausted : Exhausted (step generated) Action.goesOn state) : AtRest state := by
  have stuck : ¬∃ action, action.goesOn = true ∧ (step generated action state).isSome = true := by
    rintro ⟨action, going, possible⟩
    rw [exhausted action going] at possible
    cases possible
  have attempts : ∀ job worker, state.workers job = some worker → ∀ pc ∈ worker.attempts, pc.isFinished = true := by
    intro job worker found pc member
    obtain ⟨number, here⟩ := List.mem_iff_getElem?.mp member
    cases unfinished : pc.isFinished with
    | true => rfl
    | false => exact absurd (sound.attempt_possible found here unfinished) stuck
  have ended : ∀ job worker, state.workers job = some worker → ∃ answer, worker.pc = .over answer := by
    intro job worker found
    by_contra early
    exact stuck (sound.job_possible found (not_exists.mp early) (attempts job worker found))
  have handlers : ∀ id handler, state.handlers id = some handler → handler.pc = .over := by
    intro id handler found
    by_contra early
    exact stuck (sound.handler_possible jobs found early)
  constructor
  · exact handlers
  · exact ended
  · exact attempts
  · cases locked : state.lock with
    | none => rfl
    | some holder =>
        have held := sound.held holder locked
        cases holder with
        | handler id =>
            obtain ⟨handler, found, starting⟩ := held
            rw [handlers id handler found] at starting
            cases starting
        | attempt job number =>
            obtain ⟨worker, found, holds⟩ := held
            obtain ⟨answer, place⟩ := ended job worker found
            -- It has made its attempt, and that one has given the lock back.
            have made : worker.attempts ≠ [] :=
              sound.attempted job worker found (by simp [place]) (by simp [place])
            unfold Worker.holds at holds
            split at holds
            · rename_i pc here
              have finished := attempts job worker found pc (List.mem_of_getElem? here)
              cases pc with
              | finished result => cases holds
              | _ => cases finished
            · rename_i beyond
              simp only [Bool.and_eq_true, decide_eq_true_eq] at holds
              rw [holds.2, List.getElem?_eq_none_iff, Nat.le_zero, List.length_eq_zero_iff] at beyond
              exact absurd beyond made
  · intro owner
    cases taken : (state.managers owner).applySem with
    | false => rfl
    | true =>
        obtain ⟨id, worker, number, pc, found, _, here, seated⟩ := sound.seated owner taken
        have finished := attempts _ worker found pc (List.mem_of_getElem? here)
        cases pc with
        | finished result => cases seated
        | _ => cases finished
  · intro owner core
    unfold JobManager.running JobManager.latest
    split
    · rename_i job newest
      obtain ⟨id, _, given⟩ := Option.bind_eq_some_iff.mp newest
      obtain ⟨worker, found, _, active⟩ := jobs.worker owner id job given
      obtain ⟨answer, place⟩ := ended _ worker found
      rw [active, place]
      rfl
    · rfl

end MiGate.Apply
