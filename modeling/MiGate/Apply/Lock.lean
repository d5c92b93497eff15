import MiGate.Apply.JobRecords

namespace MiGate.Apply

open Transition

/-! Who holds the lock file while an apply is performed. -/

variable {generated : Core → Tables → Except String Hash} {state after : State} {action : Action}

/-- The lock is held from the moment an automatic attempt has it; for a manual job the handler has
taken it before. -/
def AttemptPc.holds (kind : Kind) : AttemptPc → Bool
  | .launched => kind = .manual
  | .performing _ | .performed _ => true
  | _ => false

def Worker.holds (worker : Worker) (number : Nat) : Bool :=
  match worker.attempts[number]? with
  | some pc => pc.holds worker.kind
  | none => worker.kind = .manual && number = 0

structure LockSound (state : State) : Prop where
  held : ∀ job worker number, state.workers job = some worker → worker.holds number = true →
    state.lock = some (.attempt job number)
  handler : ∀ id handler, state.handlers id = some handler → handler.pc = .starting → state.lock = some (.handler id)

theorem LockSound.initial (tables : Tables) (rows : Core → Option CoreApplyState) : LockSound (.initial tables rows) where
  held := fun _ _ _ => nofun
  handler := fun _ _ => nofun

section

variable {kind : Kind} {main : Core} {tables : Tables} {admissible free : Bool} {pc next : AttemptPc} {effect : Effect}

theorem holds_performFailed (core : Core) (errCode detail : String) :
    (performFailed main core errCode detail).holds kind = true := by
  unfold performFailed
  split <;> rfl

/-- Only taking the lock and giving it back change whether an attempt holds it. -/
theorem Moves.holds (moves : Moves generated kind main tables admissible free pc next effect) :
    (effect = .lock ∧ free = true ∧ pc.holds kind = false) ∨
      (effect = .unlock ∧ pc.holds kind = true ∧ next.holds kind = false) ∨
      (effect ≠ .lock ∧ effect ≠ .unlock ∧ next.holds kind = pc.holds kind) := by
  cases moves with
  | lock unlocked => exact .inl ⟨rfl, unlocked, rfl⟩
  | unlock after =>
      refine .inr (.inl ⟨rfl, rfl, ?_⟩)
      rcases after with ⟨rfl, _⟩ | ⟨rfl, _⟩ <;> rfl
  | begin manual => exact .inr (.inr ⟨nofun, nofun, by rw [manual]; rfl⟩)
  | enter auto | giveUp auto => exact .inr (.inr ⟨nofun, nofun, by rw [auto]; rfl⟩)
  | fail => exact .inr (.inr ⟨nofun, nofun, holds_performFailed _ _ _⟩)
  | _ => exact .inr (.inr ⟨nofun, nofun, rfl⟩)

end

theorem Drives.holds {id : Nat} {manager next : JobManager} {worker driven : Worker} (sound : WorkerSound worker)
    (drives : Drives id manager worker driven next) (number : Nat) : driven.holds number = worker.holds number := by
  have decided : ∀ result, (worker.decide result).holds number = worker.holds number := by
    intro result
    rcases worker.decide_cases result with same | ⟨_, _, same⟩ <;> rw [same] <;> rfl
  cases drives with
  | launch place =>
      have counted := sound.counted
      rw [place] at counted
      simp only [Worker.holds]
      by_cases earlier : number < worker.attempts.length
      · rw [List.getElem?_append_left earlier]
      · rw [List.getElem?_append_right (Nat.not_lt.mp earlier), List.getElem?_eq_none (Nat.not_lt.mp earlier)]
        by_cases first : number - worker.attempts.length = 0
        · rw [first]
          cases kind : worker.kind with
          | auto => simp [AttemptPc.holds]
          | manual =>
              -- A manual job has one attempt.
              have single := sound.manual kind
              have bounded := sound.bounded
              have empty : worker.attempts.length = 0 := by
                simp only [DriverPc.idle, if_true] at counted
                omega
              simp [AttemptPc.holds, show number = 0 by omega]
        · have beyond : [AttemptPc.launched].length ≤ number - worker.attempts.length := Nat.pos_of_ne_zero first
          rw [List.getElem?_eq_none beyond]
  | receive | expire => exact decided _
  | _ => rfl

/-- What takes no part in the lock. -/
theorem LockSound.congr (sound : LockSound state) (lock : after.lock = state.lock)
    (workers : ∀ job worker number, after.workers job = some worker → worker.holds number = true →
      ∃ old, state.workers job = some old ∧ old.holds number = true)
    (handlers : ∀ id handler, after.handlers id = some handler → handler.pc = .starting →
      ∃ old, state.handlers id = some old ∧ old.pc = .starting) : LockSound after := by
  constructor
  · intro job worker number found holds
    obtain ⟨old, there, held⟩ := workers job worker number found holds
    rw [lock]
    exact sound.held job old number there held
  · intro id handler found starting
    obtain ⟨old, there, before⟩ := handlers id handler found starting
    rw [lock]
    exact sound.handler id old there before

theorem LockSound.step (lock : LockSound state) (jobs : JobsSound state) (event : Event generated state action after) :
    LockSound after := by
  have sameWorkers : ∀ job worker number, state.workers job = some worker → worker.holds number = true →
      ∃ old, state.workers job = some old ∧ old.holds number = true :=
    fun _ worker _ found holds => ⟨worker, found, holds⟩
  have sameHandlers : ∀ id handler, state.handlers id = some handler → handler.pc = .starting →
      ∃ old, state.handlers id = some old ∧ old.pc = .starting :=
    fun _ handler found starting => ⟨handler, found, starting⟩
  cases event with
  | request | abandon | commit | look | mark | renew => exact lock.congr rfl sameWorkers sameHandlers
  | @start id drawn core request started found starting tried fresh =>
      refine lock.congr rfl (fun job worker number found holds => ?_) sameHandlers
      simp only [State.setSide, State.setRequest, State.startJob, State.setWorker, State.setManager,
        Function.update_apply] at found
      split at found
      · cases found
        simp [Worker.holds] at holds
      · exact ⟨worker, found, holds⟩
  | @apply id core fresh =>
      refine lock.congr rfl sameWorkers fun other handler found starting => ?_
      simp only [State.setHandler, Function.update_apply] at found
      split at found
      · cases found
        dsimp only at starting
        split at starting <;> cases starting
      · exact ⟨handler, found, starting⟩
  | @handle id drawn choice handler next found early quiet =>
      refine lock.congr rfl sameWorkers fun other given there starting => ?_
      simp only [State.setHandler, Function.update_apply] at there
      split at there
      · cases there
        exact absurd starting quiet
      · exact ⟨given, there, starting⟩
  | @acquire id drawn handler found acquiring free =>
      constructor
      · intro job worker number there holds
        have held := lock.held job worker number there holds
        rw [free] at held
        cases held
      · intro other given there starting
        simp only [State.setHandler, Function.update_apply] at there ⊢
        split at there
        · rename_i same
          rw [same]
        · have held := lock.handler other given there starting
          rw [free] at held
          cases held
  | @release id drawn handler found starting running =>
      have mine := lock.handler id handler found starting
      constructor
      · intro job worker number there holds
        have held := lock.held job worker number there holds
        rw [mine] at held
        cases held
      · intro other given there begun
        simp only [State.setHandler, Function.update_apply] at there
        split at there
        · cases there
          cases begun
        · rename_i different
          have held := lock.handler other given there begun
          rw [mine] at held
          cases held
          exact absurd rfl different
  | @manual id drawn handler started found starting tried fresh =>
      have mine := lock.handler id handler found starting
      constructor
      · intro job worker number there holds
        simp only [State.setHandler, State.startJob, State.setWorker, State.setManager, Function.update_apply] at there ⊢
        split at there
        · rename_i same
          cases there
          have first : number = 0 := by simpa [Worker.holds] using holds
          rw [same, first]
        · have held := lock.held job worker number there holds
          rw [mine] at held
          cases held
      · intro other given there begun
        simp only [State.setHandler, State.startJob, State.setWorker, State.setManager, Function.update_apply] at there
        split at there
        · cases there
          cases begun
        · rename_i different
          have held := lock.handler other given there begun
          rw [mine] at held
          cases held
          exact absurd rfl different
  | @drive job choice worker next manager found drives =>
      refine lock.congr rfl (fun other given number there holds => ?_) sameHandlers
      simp only [State.setWorker, State.setManager, Function.update_apply] at there
      split at there
      · rename_i same
        cases there
        rw [drives.holds (jobs.sound _ _ found)] at holds
        exact ⟨worker, same ▸ found, holds⟩
      · exact ⟨given, there, holds⟩
  | @follow job spawned worker next found follows =>
      refine lock.congr rfl (fun other given number there holds => ?_) sameHandlers
      simp only [State.setWorker, Function.update_apply] at there
      split at there
      · rename_i same
        cases there
        exact ⟨worker, same ▸ found, holds⟩
      · exact ⟨given, there, holds⟩
  | @spawn job spawned worker hash found comparing dirty fresh =>
      refine lock.congr rfl (fun other given number there holds => ?_) sameHandlers
      simp only [State.setWorker, State.setRequest, Function.update_apply] at there
      split at there
      · rename_i same
        cases there
        exact ⟨worker, same ▸ found, holds⟩
      · exact ⟨given, there, holds⟩
  | @attempt job number choice worker pc next effect found here moves =>
      have bound : number < worker.attempts.length := (List.getElem?_eq_some_iff.mp here).choose
      have before : worker.holds number = pc.holds worker.kind := by rw [Worker.holds, here]
      have moved : ∀ other, ({ worker with attempts := worker.attempts.set number next } : Worker).holds other =
          if other = number then next.holds worker.kind else worker.holds other := by
        intro other
        by_cases same : other = number
        · rw [if_pos same, Worker.holds, same, List.getElem?_set_self bound]
        · rw [if_neg same, Worker.holds, List.getElem?_set_ne (Ne.symm same)]
          rfl
      -- Another attempt that holds the lock held it before.
      have others : ∀ otherJob given other, ((state.affect job number effect).setWorker job
          { worker with attempts := worker.attempts.set number next }).workers otherJob = some given →
          given.holds other = true → (otherJob = job ∧ other = number ∧ next.holds worker.kind = true) ∨
            state.lock = some (.attempt otherJob other) ∧ ¬(otherJob = job ∧ other = number) := by
        intro otherJob given other there holds
        simp only [State.setWorker, affect_workers, Function.update_apply] at there
        split at there
        · rename_i same
          cases there
          rw [moved] at holds
          split at holds
          · rename_i this
            exact .inl ⟨same, this, holds⟩
          · rename_i different
            exact .inr ⟨lock.held otherJob worker other (same ▸ found) holds, fun both => different both.2⟩
        · rename_i different
          exact .inr ⟨lock.held otherJob given other there holds, fun both => different both.1⟩
      rcases moves.holds with ⟨rfl, free, _⟩ | ⟨rfl, holding, released⟩ | ⟨notLock, notUnlock, same⟩
      · have unlocked : state.lock = none := Option.isNone_iff_eq_none.mp free
        constructor
        · intro otherJob given other there holds
          rcases others otherJob given other there holds with ⟨rfl, rfl, _⟩ | ⟨held, _⟩
          · rfl
          · rw [unlocked] at held
            cases held
        · intro id handler there starting
          have held := lock.handler id handler there starting
          rw [unlocked] at held
          cases held
      · have mine := lock.held job worker number found (before.trans holding)
        constructor
        · intro otherJob given other there holds
          rcases others otherJob given other there holds with ⟨_, _, still⟩ | ⟨held, different⟩
          · rw [released] at still
            cases still
          · rw [mine] at held
            cases held
            exact absurd ⟨rfl, rfl⟩ different
        · intro id handler there starting
          have held := lock.handler id handler there starting
          rw [mine] at held
          cases held
      · have unchanged : (state.affect job number effect).lock = state.lock := by
          cases effect <;> first | rfl | exact absurd rfl notLock | exact absurd rfl notUnlock
        have sameHandler : (state.affect job number effect).handlers = state.handlers := by
          cases effect <;> rfl
        constructor
        · intro otherJob given other there holds
          refine unchanged.trans ?_
          rcases others otherJob given other there holds with ⟨rfl, rfl, still⟩ | ⟨held, _⟩
          · exact lock.held otherJob worker other found (before.trans (same.symm.trans still))
          · exact held
        · intro id handler there starting
          refine unchanged.trans (lock.handler id handler ?_ starting)
          rw [← sameHandler]
          exact there

theorem lock_sound {tables : Tables} {rows : Core → Option CoreApplyState}
    (reached : Reach (Steps (step generated)) (.initial tables rows) state) : LockSound state :=
  reached.invariant_with (fun _ => jobs_sound) (.initial tables rows) fun _ _ _ jobs lock stepped =>
    lock.step jobs (event_of_step stepped)

end MiGate.Apply
