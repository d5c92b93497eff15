import MiGate.Apply.Moves

namespace MiGate.Apply

open Transition

/-! A job and its goroutine: which attempts it has made, and that an active job is the newest of its core. -/

variable {generated : Core → Tables → Except String Hash} {state after : State} {action : Action}

/-! ### One job -/

/-- Between two attempts, or before the first. -/
def DriverPc.idle : DriverPc → Bool
  | .marking | .launching | .backoff => true
  | _ => false

/-- Before the job is over. -/
def DriverPc.live : DriverPc → Bool
  | .following | .checking _ | .comparing _ | .over _ => false
  | _ => true

structure WorkerSound (worker : Worker) : Prop where
  manual : worker.kind = .manual → worker.maxRetries = 0
  bounded : worker.retryCount ≤ worker.maxRetries
  retried : ∀ result, worker.pc = .cleaning result → worker.retryCount < worker.maxRetries
  counted : worker.attempts.length + (if worker.pc.idle then 1 else 0) ≤ worker.retryCount + 1
  /-- Only the last attempt can be under way, and none while the job is between two. -/
  closed : ∀ number pc, worker.attempts[number]? = some pc →
    number + 1 < worker.attempts.length ∨ worker.pc.idle = true → pc.isFinished = true

theorem WorkerSound.new {kind : Kind} {core : Core} {maxRetries : Nat} (single : kind = .manual → maxRetries = 0) :
    WorkerSound ⟨kind, core, maxRetries, 0, .marking, []⟩ where
  manual := single
  bounded := Nat.zero_le _
  retried := fun _ => nofun
  counted := Nat.le_refl _
  closed := fun _ _ => nofun

theorem Worker.decide_cases (worker : Worker) (result : WorkResult) :
    worker.decide result = { worker with pc := .finishing result } ∨
      (worker.retryCount < worker.maxRetries ∧ result.ok = false ∧
        worker.decide result = { worker with pc := .cleaning result }) := by
  unfold decide
  split
  · exact .inl rfl
  · rename_i again
    simp only [Bool.or_eq_true, not_or, decide_eq_true_eq, Nat.not_le, Bool.not_eq_true] at again
    exact .inr ⟨again.1.2, again.1.1, rfl⟩

theorem WorkerSound.decide {worker : Worker} (sound : WorkerSound worker) (attempting : worker.pc = .attempting)
    (result : WorkResult) : WorkerSound (worker.decide result) := by
  have counted := sound.counted
  have closed := sound.closed
  rw [attempting] at counted closed
  rcases worker.decide_cases result with same | ⟨more, _, same⟩ <;> rw [same]
  · exact ⟨sound.manual, sound.bounded, fun _ => nofun, counted, closed⟩
  · exact ⟨sound.manual, sound.bounded, fun _ _ => more, counted, closed⟩

theorem WorkerSound.drive {id : Nat} {manager next : JobManager} {worker driven : Worker} (sound : WorkerSound worker)
    (drives : Drives id manager worker driven next) : WorkerSound driven := by
  have counted := sound.counted
  have closed := sound.closed
  cases drives with
  | mark place =>
      rw [place] at counted closed
      exact ⟨sound.manual, sound.bounded, fun _ => nofun, counted, closed⟩
  | launch place =>
      rw [place] at counted closed
      refine ⟨sound.manual, sound.bounded, fun _ => nofun, ?_, ?_⟩
      · simpa [DriverPc.idle] using counted
      · intro number pc here before
        simp only [DriverPc.idle, Bool.false_eq_true, or_false, List.length_append, List.length_singleton,
          Nat.add_lt_add_iff_right] at before
        rw [List.getElem?_append_left before] at here
        exact closed number pc here (.inr rfl)
  | receive place => exact sound.decide place _
  | expire place => exact sound.decide place _
  | clean place last finished =>
      have more := sound.retried _ place
      rw [place] at counted closed
      refine ⟨sound.manual, more, fun _ => nofun, ?_, ?_⟩
      · simpa [DriverPc.idle] using counted
      · intro number pc here _
        by_cases earlier : number + 1 < worker.attempts.length
        · exact closed number pc here (.inl earlier)
        · have bound : number < worker.attempts.length := (List.getElem?_eq_some_iff.mp here).choose
          have position : number = worker.attempts.length - 1 := by omega
          rw [List.getLast?_eq_getElem?, ← position, here] at last
          cases last
          exact finished
  | quit place =>
      refine ⟨sound.manual, sound.bounded, fun _ => nofun, Nat.le_trans ?_ counted, fun number pc here before => ?_⟩
      · exact Nat.le_add_right _ _
      · exact closed number pc here (before.imp_right nofun)
  | wake place =>
      rw [place] at counted closed
      exact ⟨sound.manual, sound.bounded, fun _ => nofun, counted, closed⟩
  | succeed place =>
      rw [place] at counted closed
      exact ⟨sound.manual, sound.bounded, fun _ => nofun, counted, closed⟩
  | fail place =>
      rw [place] at counted closed
      exact ⟨sound.manual, sound.bounded, fun _ => nofun, counted, closed⟩

section

variable {kind : Kind} {main : Core} {tables : Tables} {admissible free : Bool} {pc next : AttemptPc} {effect : Effect}

theorem Moves.unfinished (moves : Moves generated kind main tables admissible free pc next effect) :
    pc.isFinished = false := by
  cases moves <;> rfl

end

theorem WorkerSound.move {worker : Worker} (sound : WorkerSound worker) {number : Nat} {pc : AttemptPc}
    (here : worker.attempts[number]? = some pc) (unfinished : pc.isFinished = false) (next : AttemptPc) :
    WorkerSound { worker with attempts := worker.attempts.set number next } := by
  refine ⟨sound.manual, sound.bounded, sound.retried, by simpa using sound.counted, ?_⟩
  intro other otherPc found before
  rw [List.length_set] at before
  by_cases same : number = other
  · subst same
    have finished := sound.closed number pc here before
    rw [unfinished] at finished
    cases finished
  · rw [List.getElem?_set_ne same] at found
    exact sound.closed other otherPc found before

theorem WorkerSound.follow {worker : Worker} (sound : WorkerSound worker) {pc : DriverPc} (ended : pc.live = false) :
    WorkerSound { worker with pc } := by
  have busy : pc.idle = false := by
    cases pc <;> first | rfl | cases ended
  have counted := sound.counted
  refine ⟨sound.manual, sound.bounded, ?_, ?_, fun number attempt here before => ?_⟩
  · intro result same
    have place : pc = .cleaning result := same
    rw [place] at ended
    cases ended
  · change worker.attempts.length + (if pc.idle then 1 else 0) ≤ worker.retryCount + 1
    rw [busy]
    exact Nat.le_trans (Nat.le_add_right _ _) counted
  · refine sound.closed number attempt here (before.imp_right fun idle => ?_)
    have contrary : pc.idle = true := idle
    rw [busy] at contrary
    cases contrary

/-! ### The jobs of a manager -/

/-- Jobs and their goroutines belong together, and an active job is the newest of its core. -/
structure JobsSound (state : State) : Prop where
  worker : ∀ owner id job, (state.managers owner).byID id = some job →
    ∃ worker, state.workers ⟨owner, id⟩ = some worker ∧ worker.core = job.core ∧ job.status.active = worker.pc.live
  job : ∀ owner id worker, state.workers ⟨owner, id⟩ = some worker → ∃ job, (state.managers owner).byID id = some job
  newest : ∀ owner id job, (state.managers owner).byID id = some job → job.status.active = true →
    (state.managers owner).byCore job.core = some id
  listed : ∀ owner core id, (state.managers owner).byCore core = some id →
    ∃ job, (state.managers owner).byID id = some job ∧ job.core = core
  sound : ∀ job worker, state.workers job = some worker → WorkerSound worker

theorem JobsSound.initial (tables : Tables) (rows : Core → Option CoreApplyState) : JobsSound (.initial tables rows) where
  worker := fun _ _ _ => nofun
  job := fun _ _ _ => nofun
  newest := fun _ _ _ => nofun
  listed := fun _ _ _ => nofun
  sound := fun _ _ => nofun

/-- What only concerns the managers and the workers. -/
theorem JobsSound.congr (sound : JobsSound state) (managers : after.managers = state.managers)
    (workers : after.workers = state.workers) : JobsSound after := by
  constructor
  · simpa only [managers, workers] using sound.worker
  · simpa only [managers, workers] using sound.job
  · simpa only [managers] using sound.newest
  · simpa only [managers] using sound.listed
  · simpa only [workers] using sound.sound

theorem JobsSound.fresh (sound : JobsSound state) {owner : Owner} {drawn : Nat}
    (fresh : (state.managers owner).byID drawn = none) : state.workers ⟨owner, drawn⟩ = none := by
  cases found : state.workers ⟨owner, drawn⟩ with
  | none => rfl
  | some worker =>
      obtain ⟨job, given⟩ := sound.job owner drawn worker found
      rw [fresh] at given
      cases given

theorem JobManager.not_active {manager : JobManager} {core : Core} (idle : manager.running core = false) {id : Nat}
    {job : CoreApplyJobStatus} (newest : manager.byCore core = some id) (found : manager.byID id = some job) :
    job.status.active = false := by
  simpa [running, latest, newest, found] using idle

theorem JobsSound.startJob (sound : JobsSound state) {owner : Owner} {started : JobManager} {drawn maxRetries : Nat}
    {kind : Kind} {core : Core} {message : String} (single : kind = .manual → maxRetries = 0)
    (tried : (state.managers owner).tryStart core drawn message maxRetries = some started)
    (fresh : (state.managers owner).byID drawn = none) :
    JobsSound (state.startJob owner started drawn kind core maxRetries) := by
  obtain ⟨idle, rfl⟩ := JobManager.tryStart_eq_some.mp tried
  constructor
  · intro other id job found
    simp only [State.startJob, State.setWorker, State.setManager, Function.update_apply] at found ⊢
    by_cases same : other = owner
    · subst same
      simp only [if_true] at found
      by_cases new : id = drawn
      · subst new
        simp only [Function.update_self, Option.some.injEq] at found
        cases found
        exact ⟨_, by rw [if_pos rfl], rfl, rfl⟩
      · rw [Function.update_of_ne new] at found
        obtain ⟨worker, given, rest⟩ := sound.worker other id job found
        exact ⟨worker, by rw [if_neg (by simpa using new), given], rest⟩
    · rw [if_neg same] at found
      obtain ⟨worker, given, rest⟩ := sound.worker other id job found
      exact ⟨worker, by rw [if_neg (by simp [same]), given], rest⟩
  · intro other id worker found
    simp only [State.startJob, State.setWorker, State.setManager, Function.update_apply] at found ⊢
    by_cases same : other = owner
    · subst same
      simp only [if_true]
      by_cases new : id = drawn
      · subst new
        exact ⟨_, Function.update_self ..⟩
      · rw [if_neg (by simpa using new)] at found
        rw [Function.update_of_ne new]
        exact sound.job other id worker found
    · rw [if_neg (by simp [same])] at found
      rw [if_neg same]
      exact sound.job other id worker found
  · intro other id job found active
    simp only [State.startJob, State.setWorker, State.setManager, Function.update_apply] at found ⊢
    by_cases same : other = owner
    · subst same
      simp only [if_true] at found ⊢
      by_cases new : id = drawn
      · subst new
        simp only [Function.update_self, Option.some.injEq] at found
        cases found
        exact Function.update_self ..
      · rw [Function.update_of_ne new] at found
        have newest := sound.newest other id job found active
        rw [Function.update_of_ne]
        · exact newest
        · intro sameCore
          rw [sameCore] at newest
          have inactive := JobManager.not_active idle newest found
          rw [active] at inactive
          cases inactive
    · rw [if_neg same] at found ⊢
      exact sound.newest other id job found active
  · intro other wanted id newest
    simp only [State.startJob, State.setWorker, State.setManager, Function.update_apply] at newest ⊢
    by_cases same : other = owner
    · subst same
      simp only [if_true] at newest ⊢
      by_cases sameCore : wanted = core
      · subst sameCore
        rw [Function.update_self] at newest
        cases newest
        exact ⟨_, Function.update_self .., rfl⟩
      · rw [Function.update_of_ne sameCore] at newest
        obtain ⟨job, found, named⟩ := sound.listed other wanted id newest
        refine ⟨job, ?_, named⟩
        rw [Function.update_of_ne, found]
        rintro rfl
        rw [fresh] at found
        cases found
    · rw [if_neg same] at newest ⊢
      exact sound.listed other wanted id newest
  · intro job worker found
    simp only [State.startJob, State.setWorker, Function.update_apply] at found
    split at found
    · cases found
      exact .new single
    · exact sound.sound job worker found

theorem Drives.job {id : Nat} {manager next : JobManager} {worker driven : Worker}
    (drives : Drives id manager worker driven next) :
    worker.pc.live = true ∧ driven.core = worker.core ∧ next.byCore = manager.byCore ∧
      ∃ mutate : CoreApplyJobStatus → CoreApplyJobStatus,
        (∀ other, next.byID other = if other = id then (manager.byID id).map mutate else manager.byID other) ∧
        ∀ job, (mutate job).core = job.core ∧ (job.status.active = true → (mutate job).status.active = driven.pc.live) := by
  have kept : ∀ other, manager.byID other = if other = id then (manager.byID id).map (fun job => job) else manager.byID other := by
    intro other
    rw [Option.map_id']
    split
    · rename_i same
      rw [same]
    · rfl
  have decided : ∀ result, (worker.decide result).core = worker.core ∧ (worker.decide result).pc.live = true := by
    intro result
    rcases worker.decide_cases result with same | ⟨_, _, same⟩ <;> rw [same] <;> exact ⟨rfl, rfl⟩
  cases drives with
  | mark place =>
      exact ⟨by rw [place]; rfl, rfl, JobManager.update_byCore _, _, JobManager.update_byID _, fun _ => ⟨rfl, fun _ => rfl⟩⟩
  | launch place => exact ⟨by rw [place]; rfl, rfl, rfl, _, kept, fun _ => ⟨rfl, fun active => active⟩⟩
  | receive place =>
      exact ⟨by rw [place]; rfl, (decided _).1, rfl, _, kept, fun _ => ⟨rfl, fun active => active.trans (decided _).2.symm⟩⟩
  | expire place =>
      exact ⟨by rw [place]; rfl, (decided _).1, rfl, _, kept, fun _ => ⟨rfl, fun active => active.trans (decided _).2.symm⟩⟩
  | clean place =>
      exact ⟨by rw [place]; rfl, rfl, JobManager.update_byCore _, _, JobManager.update_byID _, fun _ => ⟨rfl, fun _ => rfl⟩⟩
  | quit place =>
      have live : worker.pc.live = true := by
        rcases place with ⟨_, place⟩ | place <;> rw [place] <;> rfl
      exact ⟨live, rfl, rfl, _, kept, fun _ => ⟨rfl, fun active => active⟩⟩
  | wake place => exact ⟨by rw [place]; rfl, rfl, rfl, _, kept, fun _ => ⟨rfl, fun active => active⟩⟩
  | succeed place =>
      exact ⟨by rw [place]; rfl, rfl, JobManager.update_byCore _, _, JobManager.update_byID _, fun _ => ⟨rfl, fun _ => rfl⟩⟩
  | fail place =>
      exact ⟨by rw [place]; rfl, rfl, JobManager.update_byCore _, _, JobManager.update_byID _, fun _ => ⟨rfl, fun _ => rfl⟩⟩

theorem JobsSound.drive (sound : JobsSound state) {job : JobRef} {worker next : Worker} {manager : JobManager}
    (found : state.workers job = some worker) (drives : Drives job.id (state.managers job.owner) worker next manager) :
    JobsSound ((state.setManager job.owner manager).setWorker job next) := by
  obtain ⟨live, sameCore, byCore, mutate, byID, mutated⟩ := drives.job
  constructor
  · intro owner id entry given
    simp only [State.setWorker, State.setManager, Function.update_apply] at given ⊢
    by_cases same : owner = job.owner
    · subst same
      rw [if_pos rfl, byID] at given
      by_cases this : id = job.id
      · subst this
        rw [if_pos rfl, Option.map_eq_some_iff] at given
        obtain ⟨old, stored, rfl⟩ := given
        obtain ⟨oldWorker, there, core, active⟩ := sound.worker job.owner job.id old stored
        rw [found] at there
        cases there
        refine ⟨next, if_pos rfl, ?_, ?_⟩
        · rw [sameCore, core, (mutated old).1]
        · exact (mutated old).2 (active.trans live)
      · rw [if_neg this] at given
        obtain ⟨other, there, rest⟩ := sound.worker job.owner id entry given
        exact ⟨other, by rw [if_neg (fun equal => this (congrArg JobRef.id equal)), there], rest⟩
    · rw [if_neg same] at given
      obtain ⟨other, there, rest⟩ := sound.worker owner id entry given
      exact ⟨other, by rw [if_neg (fun equal => same (congrArg JobRef.owner equal)), there], rest⟩
  · intro owner id other given
    simp only [State.setWorker, State.setManager, Function.update_apply] at given ⊢
    have before : ∃ entry, (state.managers owner).byID id = some entry := by
      split at given
      · rename_i this
        have there : state.workers ⟨owner, id⟩ = some worker := by rw [this]; exact found
        exact sound.job owner id worker there
      · exact sound.job owner id other given
    obtain ⟨entry, stored⟩ := before
    by_cases same : owner = job.owner
    · subst same
      rw [if_pos rfl, byID]
      by_cases this : id = job.id
      · rw [if_pos this, ← this, stored]
        exact ⟨_, rfl⟩
      · rw [if_neg this]
        exact ⟨entry, stored⟩
    · rw [if_neg same]
      exact ⟨entry, stored⟩
  · intro owner id entry given active
    simp only [State.setWorker, State.setManager, Function.update_apply] at given ⊢
    by_cases same : owner = job.owner
    · subst same
      rw [if_pos rfl, byID] at given
      rw [if_pos rfl, byCore]
      by_cases this : id = job.id
      · subst this
        rw [if_pos rfl, Option.map_eq_some_iff] at given
        obtain ⟨old, stored, rfl⟩ := given
        obtain ⟨oldWorker, there, _, wasActive⟩ := sound.worker job.owner job.id old stored
        rw [found] at there
        cases there
        rw [(mutated old).1]
        exact sound.newest job.owner job.id old stored (wasActive.trans live)
      · rw [if_neg this] at given
        exact sound.newest job.owner id entry given active
    · rw [if_neg same] at given ⊢
      exact sound.newest owner id entry given active
  · intro owner core id newest
    simp only [State.setWorker, State.setManager, Function.update_apply] at newest ⊢
    by_cases same : owner = job.owner
    · subst same
      rw [if_pos rfl, byCore] at newest
      rw [if_pos rfl, byID]
      obtain ⟨entry, stored, named⟩ := sound.listed job.owner core id newest
      by_cases this : id = job.id
      · rw [if_pos this, ← this, stored]
        exact ⟨_, rfl, by rw [(mutated entry).1, named]⟩
      · rw [if_neg this]
        exact ⟨entry, stored, named⟩
    · rw [if_neg same] at newest ⊢
      exact sound.listed owner core id newest
  · intro other entry given
    simp only [State.setWorker, Function.update_apply] at given
    split at given
    · cases given
      exact (sound.sound job worker found).drive drives
    · exact sound.sound other entry given

/-- A step that leaves the jobs as they are and the goroutine of one of them as far as it was. -/
theorem JobsSound.setWorker (sound : JobsSound state) {job : JobRef} {worker next : Worker}
    (found : state.workers job = some worker) (kept : WorkerSound next) (core : next.core = worker.core)
    (live : next.pc.live = worker.pc.live) (byID : ∀ owner, (after.managers owner).byID = (state.managers owner).byID)
    (byCore : ∀ owner, (after.managers owner).byCore = (state.managers owner).byCore)
    (workers : after.workers = Function.update state.workers job (some next)) : JobsSound after := by
  constructor
  · intro owner id entry given
    rw [byID] at given
    obtain ⟨old, there, sameCore, active⟩ := sound.worker owner id entry given
    rw [workers, Function.update_apply]
    by_cases this : (⟨owner, id⟩ : JobRef) = job
    · rw [this, found] at there
      cases there
      exact ⟨next, if_pos this, core.trans sameCore, active.trans live.symm⟩
    · exact ⟨old, by rw [if_neg this, there], sameCore, active⟩
  · intro owner id other given
    rw [workers, Function.update_apply] at given
    rw [byID]
    split at given
    · rename_i this
      exact sound.job owner id worker (by rw [this, found])
    · exact sound.job owner id other given
  · intro owner id entry given active
    rw [byID] at given
    rw [byCore]
    exact sound.newest owner id entry given active
  · intro owner wanted id newest
    rw [byCore] at newest
    rw [byID]
    exact sound.listed owner wanted id newest
  · intro other entry given
    rw [workers, Function.update_apply] at given
    split at given
    · cases given
      exact kept
    · exact sound.sound other entry given

theorem Follows.places {job : JobRef} {core : Core} {pc next : DriverPc} (follows : Follows generated state job core pc next) :
    pc.live = false ∧ next.live = false := by
  cases follows <;> exact ⟨rfl, rfl⟩

@[simp] theorem affect_byID (job : JobRef) (number : Nat) (effect : Effect) (owner : Owner) :
    ((state.affect job number effect).managers owner).byID = (state.managers owner).byID := by
  cases effect with
  | enter | dismiss =>
      simp only [State.affect, State.setManager, Function.update_apply]
      split
      · rename_i same
        rw [same]
      · rfl
  | _ => rfl

@[simp] theorem affect_byCore (job : JobRef) (number : Nat) (effect : Effect) (owner : Owner) :
    ((state.affect job number effect).managers owner).byCore = (state.managers owner).byCore := by
  cases effect with
  | enter | dismiss =>
      simp only [State.affect, State.setManager, Function.update_apply]
      split
      · rename_i same
        rw [same]
      · rfl
  | _ => rfl

@[simp] theorem affect_workers (job : JobRef) (number : Nat) (effect : Effect) :
    (state.affect job number effect).workers = state.workers := by
  cases effect <;> rfl

theorem JobsSound.step (sound : JobsSound state) (event : Event generated state action after) : JobsSound after := by
  cases event with
  | request | abandon | commit | look | mark | apply | handle | acquire | release | renew => exact sound.congr rfl rfl
  | start found starting tried fresh =>
      have made : JobsSound (state.startJob _ _ _ .auto _ 3) := sound.startJob nofun tried fresh
      exact made.congr rfl rfl
  | @manual id drawn handler started found starting tried fresh =>
      have locked : JobsSound { state with lock := some (.attempt ⟨.router, drawn⟩ 0) } := sound.congr rfl rfl
      have made : JobsSound (State.startJob _ _ _ _ .manual _ 0) := locked.startJob (fun _ => rfl) tried fresh
      exact made.congr rfl rfl
  | drive found drives => exact sound.drive found drives
  | follow found follows =>
      obtain ⟨old, new⟩ := follows.places
      exact sound.setWorker found ((sound.sound _ _ found).follow new) rfl (new.trans old.symm) (fun _ => rfl)
        (fun _ => rfl) rfl
  | @spawn job spawned worker hash found comparing =>
      have kept : WorkerSound { worker with pc := .over none } := (sound.sound _ _ found).follow rfl
      exact sound.setWorker found kept rfl (by rw [comparing]; rfl) (fun _ => rfl) (fun _ => rfl) rfl
  | @attempt job number choice worker pc next effect found here moves =>
      have kept := (sound.sound _ _ found).move here moves.unfinished next
      refine sound.setWorker found kept rfl rfl (affect_byID job number effect) (affect_byCore job number effect) ?_
      simp only [State.setWorker, affect_workers]

theorem jobs_sound {tables : Tables} {rows : Core → Option CoreApplyState}
    (reached : Reach (Steps (step generated)) (.initial tables rows) state) : JobsSound state :=
  reached.invariant (.initial tables rows) fun _ _ _ sound stepped => sound.step (event_of_step stepped)

end MiGate.Apply
