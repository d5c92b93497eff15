import MiGate.Apply.Lock

namespace MiGate.Apply

open Transition

/-! Applies exclude each other, and a job that is over stays as it is. -/

variable {generated : Core → Tables → Except String Hash} {state after : State} {action : Action}

/-- The apply of an attempt is under way. -/
def performing (state : State) (job : JobRef) (number : Nat) : Bool :=
  match (state.workers job).bind fun worker => worker.attempts[number]? with
  | some (.performing _) => true
  | _ => false

/-- The step begins the apply of an attempt of the job. -/
def startsBody (job : JobRef) (action : Action) (before after : State) : Bool :=
  match action with
  | .attempt other number _ => decide (other = job) && !performing before job number && performing after job number
  | _ => false

/-- How often a run begins an apply for the job. -/
def bodyStarts (generated : Core → Tables → Except String Hash) (job : JobRef) : List Action → State → Nat
  | [], _ => 0
  | action :: rest, state =>
      match step generated action state with
      | none => 0
      | some after => (if startsBody job action state after then 1 else 0) + bodyStarts generated job rest after

theorem performing_iff {job : JobRef} {number : Nat} : performing state job number = true ↔
    ∃ worker phase, state.workers job = some worker ∧ worker.attempts[number]? = some (.performing phase) := by
  unfold performing
  constructor
  · intro held
    split at held
    · rename_i phase found
      obtain ⟨worker, there, here⟩ := Option.bind_eq_some_iff.mp found
      exact ⟨worker, phase, there, here⟩
    · cases held
  · rintro ⟨worker, phase, there, here⟩
    rw [there, Option.bind_some, here]

theorem LockSound.of_performing (sound : LockSound state) {job : JobRef} {number : Nat}
    (held : performing state job number = true) : state.lock = some (.attempt job number) := by
  obtain ⟨worker, phase, there, here⟩ := performing_iff.mp held
  exact sound.held job worker number there (by rw [Worker.holds, here]; rfl)

/-! ### How often an apply begins -/

/-- The apply of the attempt has begun, or it has been given up. -/
def AttemptPc.begun : AttemptPc → Bool
  | .launched | .admitted => false
  | _ => true

def begunAttempts (state : State) (job : JobRef) : Nat :=
  ((state.workers job).map fun worker => worker.attempts.countP AttemptPc.begun).getD 0

section

variable {kind : Kind} {main : Core} {tables : Tables} {admissible free : Bool} {pc next : AttemptPc} {effect : Effect}

theorem Moves.begun (moves : Moves generated kind main tables admissible free pc next effect)
    (before : pc.begun = true) : next.begun = true := by
  cases moves with
  | begin | enter | giveUp | lock | busy => cases before
  | fail =>
      unfold performFailed
      split <;> rfl
  | unlock after => rcases after with ⟨rfl, _⟩ | ⟨rfl, _⟩ <;> rfl
  | _ => rfl

/-- Only an attempt whose apply has not begun begins one. -/
theorem Moves.starts (moves : Moves generated kind main tables admissible free pc next effect) {phase : Phase}
    (into : next = .performing phase) (from_ : ∀ phase, pc ≠ .performing phase) : pc.begun = false := by
  cases moves with
  | begin | enter | giveUp | lock | busy => rfl
  | unlock after => rcases after with ⟨rfl, _⟩ | ⟨rfl, _⟩ <;> cases into
  | read | build | write | restart | record | goOn | fail | complete => exact absurd rfl (from_ _)
  | dismiss | pend | spare | send | close => cases into

end

theorem begunAttempts_le (jobs : JobsSound state) {job : JobRef} {worker : Worker} (found : state.workers job = some worker) :
    begunAttempts state job ≤ worker.maxRetries + 1 := by
  have sound := jobs.sound job worker found
  have counted := Nat.le_trans (Nat.le_add_right _ _) sound.counted
  simp only [begunAttempts, found, Option.map_some, Option.getD_some]
  calc worker.attempts.countP AttemptPc.begun ≤ worker.attempts.length := List.countP_le_length
    _ ≤ worker.retryCount + 1 := counted
    _ ≤ worker.maxRetries + 1 := Nat.succ_le_succ sound.bounded

theorem begunAttempts_step (jobs : JobsSound state) (event : Event generated state action after) (job : JobRef) :
    (if startsBody job action state after then 1 else 0) + begunAttempts state job ≤ begunAttempts after job := by
  have quiet : ∀ next : State, (∀ worker, state.workers job = some worker → ∃ other, next.workers job = some other ∧
      worker.attempts.countP AttemptPc.begun ≤ other.attempts.countP AttemptPc.begun) →
      begunAttempts state job ≤ begunAttempts next job := by
    intro next kept
    cases found : state.workers job with
    | none => simp [begunAttempts, found]
    | some worker =>
        obtain ⟨other, there, more⟩ := kept worker found
        simpa only [begunAttempts, found, there, Option.map_some, Option.getD_some] using more
  have silent : startsBody job action state after = false → begunAttempts state job ≤ begunAttempts after job →
      (if startsBody job action state after then 1 else 0) + begunAttempts state job ≤ begunAttempts after job := by
    intro not more
    rw [not]
    simpa using more
  cases event with
  | request | abandon | commit | look | mark | apply | handle | acquire | release | renew =>
      exact silent rfl (Nat.le_refl _)
  | @start id drawn core request started found starting tried fresh =>
      refine silent rfl (quiet _ fun worker there => ⟨worker, ?_, Nat.le_refl _⟩)
      simp only [State.setSide, State.setRequest, State.startJob, State.setWorker, State.setManager, Function.update_apply]
      rw [if_neg, there]
      rintro rfl
      rw [jobs.fresh fresh] at there
      cases there
  | @manual id drawn handler started found starting tried fresh =>
      refine silent rfl (quiet _ fun worker there => ⟨worker, ?_, Nat.le_refl _⟩)
      simp only [State.setHandler, State.startJob, State.setWorker, State.setManager, Function.update_apply]
      rw [if_neg, there]
      rintro rfl
      rw [jobs.fresh fresh] at there
      cases there
  | @drive driven choice worker next manager found drives =>
      refine silent rfl (quiet _ fun given there => ?_)
      simp only [State.setWorker, State.setManager, Function.update_apply]
      split
      · rename_i same
        rw [same, found] at there
        cases there
        refine ⟨next, rfl, ?_⟩
        have decided : ∀ result, (worker.decide result).attempts = worker.attempts := by
          intro result
          rcases worker.decide_cases result with same | ⟨_, _, same⟩ <;> rw [same]
        cases drives with
        | launch =>
            rw [List.countP_append]
            exact Nat.le_add_right _ _
        | receive | expire => rw [decided]
        | _ => exact Nat.le_refl _
      · exact ⟨given, there, Nat.le_refl _⟩
  | @follow followed spawned worker next found follows =>
      refine silent rfl (quiet _ fun given there => ?_)
      simp only [State.setWorker, Function.update_apply]
      split
      · rename_i same
        rw [same, found] at there
        cases there
        exact ⟨_, rfl, Nat.le_refl _⟩
      · exact ⟨given, there, Nat.le_refl _⟩
  | @spawn followed spawned worker hash found comparing dirty fresh =>
      refine silent rfl (quiet _ fun given there => ?_)
      simp only [State.setWorker, State.setRequest, Function.update_apply]
      split
      · rename_i same
        rw [same, found] at there
        cases there
        exact ⟨_, rfl, Nat.le_refl _⟩
      · exact ⟨given, there, Nat.le_refl _⟩
  | @attempt moved number choice worker pc next effect found here moves =>
      have bound : number < worker.attempts.length := (List.getElem?_eq_some_iff.mp here).choose
      have there : worker.attempts[number] = pc := (List.getElem?_eq_some_iff.mp here).choose_spec
      by_cases same : moved = job
      · subst same
        have counted : begunAttempts ((state.affect moved number effect).setWorker moved
            { worker with attempts := worker.attempts.set number next }) moved =
              worker.attempts.countP AttemptPc.begun - (if pc.begun then 1 else 0) + (if next.begun then 1 else 0) := by
          simp only [begunAttempts, State.setWorker, Function.update_self, Option.map_some, Option.getD_some]
          rw [List.countP_set bound, there]
        have before : begunAttempts state moved = worker.attempts.countP AttemptPc.begun := by
          simp only [begunAttempts, found, Option.map_some, Option.getD_some]
        rw [counted, before]
        by_cases starts : startsBody moved (.attempt moved number choice) state
            ((state.affect moved number effect).setWorker moved
              { worker with attempts := worker.attempts.set number next }) = true
        · rw [if_pos starts]
          simp only [startsBody, Bool.and_eq_true, decide_eq_true_eq, true_and, Bool.not_eq_true'] at starts
          obtain ⟨other, phase, given, now⟩ := performing_iff.mp starts.2
          simp only [State.setWorker, Function.update_self, Option.some.injEq] at given
          subst given
          rw [List.getElem?_set_self bound, Option.some.injEq] at now
          have waited : pc.begun = false := moves.starts now fun phase place => by
            have already : performing state moved number = true := performing_iff.mpr ⟨worker, phase, found, place ▸ here⟩
            rw [starts.1] at already
            cases already
          rw [waited, now]
          simp only [Bool.false_eq_true, if_false, AttemptPc.begun, if_true]
          omega
        · rw [if_neg starts]
          cases was : pc.begun with
          | true =>
              rw [moves.begun was]
              have positive : 0 < worker.attempts.countP AttemptPc.begun :=
                List.countP_pos_iff.mpr ⟨pc, List.mem_of_getElem? here, was⟩
              simp only [if_true]
              omega
          | false => simp
      · refine silent (by simp [startsBody, same]) (quiet _ fun given other => ⟨given, ?_, Nat.le_refl _⟩)
        simp only [State.setWorker, affect_workers, Function.update_apply]
        rw [if_neg (Ne.symm same), other]

theorem bodyStarts_le {actions : List Action} (jobs : JobsSound state) {final : State}
    (run : perform (step generated) actions state = some final) (job : JobRef) :
    bodyStarts generated job actions state + begunAttempts state job ≤ begunAttempts final job := by
  induction actions generalizing state with
  | nil =>
      cases Option.some.inj run
      simp [bodyStarts]
  | cons action rest ih =>
      obtain ⟨next, first, tail⟩ := Option.bind_eq_some_iff.mp run
      have event := event_of_step first
      have later := ih (jobs.step event) tail
      have now := begunAttempts_step jobs event job
      simp only [bodyStarts, first]
      omega

/-! ### A job that is over -/

theorem JobsSound.final_step (jobs : JobsSound state) (event : Event generated state action after) {owner : Owner} {id : Nat}
    {job : CoreApplyJobStatus} (found : (state.managers owner).byID id = some job) (ended : job.status.active = false) :
    (after.managers owner).byID id = some job := by
  have started : ∀ {other : Owner} {core : Core} {drawn maxRetries : Nat} {message : String} {made : JobManager},
      (state.managers other).tryStart core drawn message maxRetries = some made →
      (state.managers other).byID drawn = none →
      (Function.update state.managers other made owner).byID id = some job := by
    intro other core drawn maxRetries message made tried fresh
    obtain ⟨_, rfl⟩ := JobManager.tryStart_eq_some.mp tried
    rw [Function.update_apply]
    split
    · rename_i same
      subst same
      dsimp only
      rw [Function.update_of_ne, found]
      rintro rfl
      rw [fresh] at found
      cases found
    · exact found
  cases event with
  | request | abandon | commit | look | mark | apply | handle | acquire | release | renew | follow | spawn => exact found
  | start _ _ tried fresh => exact started tried fresh
  | manual _ _ tried fresh => exact started tried fresh
  | @drive driven choice worker next manager there drives =>
      obtain ⟨live, _, _, mutate, byID, _⟩ := drives.job
      simp only [State.setWorker, State.setManager, Function.update_apply]
      split
      · rename_i same
        subst same
        rw [byID, if_neg, found]
        rintro rfl
        obtain ⟨other, given, _, status⟩ := jobs.worker driven.owner driven.id job found
        rw [there] at given
        cases given
        rw [live, ended] at status
        cases status
      · exact found
  | attempt =>
      simp only [State.setWorker, affect_byID]
      exact found

theorem job_stays_final (jobs : JobsSound state) {owner : Owner} {id : Nat} {job : CoreApplyJobStatus}
    (found : (state.managers owner).byID id = some job) (ended : job.status.active = false) {later : State}
    (continued : Reach (Steps (step generated)) state later) :
    JobsSound later ∧ (later.managers owner).byID id = some job := by
  induction continued with
  | start => exact ⟨jobs, found⟩
  | step _ stepped ih =>
      have event := event_of_step stepped
      exact ⟨ih.1.step event, ih.1.final_step event ih.2 ended⟩

/-- A generator by the number of inbounds. -/
def exampleGenerated : Core → Tables → Except String Hash :=
  fun _ tables => .ok (BitVec.ofNat 256 tables.inbounds.length)

/-- The state of a core that is in sync with no inbounds. -/
def exampleRows : Core → Option CoreApplyState :=
  fun _ => some ⟨some 0, false, ""⟩

/-- A handler applies Xray; its job's attempt has begun. -/
def exampleManual : List Action :=
  [.apply 0 .xray, .handle 0 0 .go, .handle 0 0 .go, .handle 0 1 .go, .drive ⟨.router, 1⟩ .go, .drive ⟨.router, 1⟩ .go,
    .attempt ⟨.router, 1⟩ 0 .go]

/-- In every run at most one apply is under way at a time; a manager has at most one active job of
a core; a job that has succeeded or failed stays as it is; and an apply is begun for a job at most
once more than it may be retried, only when every other attempt of the job is finished. -/
theorem applies_exclusive_and_final (generated : Core → Tables → Except String Hash) (tables : Tables)
    (rows : Core → Option CoreApplyState) (actions : List Action) (state : State)
    (run : perform (step generated) actions (.initial tables rows) = some state) :
    (∀ job number other otherNumber, performing state job number = true → performing state other otherNumber = true →
      job = other ∧ number = otherNumber) ∧
    (∀ owner id otherID job other, (state.managers owner).byID id = some job →
      (state.managers owner).byID otherID = some other → job.status.active = true → other.status.active = true →
      job.core = other.core → id = otherID) ∧
    (∀ owner id job, (state.managers owner).byID id = some job → job.status.active = false → ∀ more later,
      perform (step generated) more state = some later → (later.managers owner).byID id = some job) ∧
    (∀ job worker, state.workers job = some worker →
      bodyStarts generated job actions (.initial tables rows) ≤ worker.maxRetries + 1) ∧
    ∀ job action after, step generated action state = some after → startsBody job action state after = true →
      ∃ worker number, state.workers job = some worker ∧ performing after job number = true ∧
        ∀ other pc, other ≠ number → worker.attempts[other]? = some pc → pc.isFinished = true := by
  have reached := Reach.of_perform run
  have jobs := jobs_sound reached
  have lock := lock_sound reached
  refine ⟨?_, ?_, ?_, ?_, ?_⟩
  · intro job number other otherNumber first second
    have held := lock.of_performing first
    rw [lock.of_performing second] at held
    cases held
    exact ⟨rfl, rfl⟩
  · intro owner id otherID job other found otherFound active otherActive sameCore
    have newest := jobs.newest owner id job found active
    rw [sameCore, jobs.newest owner otherID other otherFound otherActive] at newest
    exact (Option.some.inj newest).symm
  · intro owner id job found ended more later continued
    exact (job_stays_final jobs found ended (Reach.of_perform continued)).2
  · intro job worker found
    exact Nat.le_trans (Nat.le_of_add_right_le (bodyStarts_le (.initial tables rows) run job)) (begunAttempts_le jobs found)
  · intro job action after stepped starts
    cases event_of_step stepped with
    | @attempt moved number choice worker pc next effect found here moves =>
        simp only [startsBody, Bool.and_eq_true, decide_eq_true_eq] at starts
        obtain ⟨⟨same, _⟩, now⟩ := starts
        subst same
        refine ⟨worker, number, found, now, fun other otherPc different there => ?_⟩
        have bound : other < worker.attempts.length := (List.getElem?_eq_some_iff.mp there).choose
        have mine : number < worker.attempts.length := (List.getElem?_eq_some_iff.mp here).choose
        have sound := jobs.sound moved worker found
        -- An attempt that is under way is the last one.
        have last : ¬(number + 1 < worker.attempts.length ∨ worker.pc.idle = true) := fun earlier => by
          have finished := sound.closed number pc here earlier
          rw [moves.unfinished] at finished
          cases finished
        exact sound.closed other otherPc there (.inl (by omega))
    | _ => cases starts

/-- While the apply of a handler is under way no other is. -/
theorem example_exclusive :
    let state := arrive (step exampleGenerated) exampleManual (.initial ⟨[], [], []⟩ exampleRows)
    performing state ⟨.router, 1⟩ 0 = true ∧
      ∀ job number, performing state job number = true → job = ⟨.router, 1⟩ ∧ number = 0 := by
  have under : performing (arrive (step exampleGenerated) exampleManual (.initial ⟨[], [], []⟩ exampleRows)) ⟨.router, 1⟩ 0 =
      true := by decide +kernel
  have run := applies_exclusive_and_final exampleGenerated ⟨[], [], []⟩ exampleRows exampleManual _
    (perform_eq_arrive (by decide +kernel))
  exact ⟨under, fun job number held => run.1 job number ⟨.router, 1⟩ 0 held under⟩

end MiGate.Apply
