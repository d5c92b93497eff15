import MiGate.Fallible.Except

namespace Fallible

/-! Programs each of whose steps may go wrong. The surroundings give every step an outcome of its
own; a step that fails may leave the state changed. -/

variable {ω σ τ ε ε' α β : Type}

/-- From the outcomes, a state, and how many outcomes have been met before. -/
def Attempt (ω σ ε α : Type) := (Nat → ω) → σ × Nat → Except ε α × σ × Nat

namespace Attempt

instance : Monad (Attempt ω σ ε) where
  pure value := fun _ session => (.ok value, session)
  bind first next := fun outcomes session =>
    match first outcomes session with
    | (.ok value, session) => next value outcomes session
    | (.error reason, session) => (.error reason, session)

/-- One step, which meets the next outcome. -/
def step (effect : ω → σ → Except ε α × σ) : Attempt ω σ ε α := fun outcomes (state, met) =>
  ((effect (outcomes met) state).1, (effect (outcomes met) state).2, met + 1)

/-- What needs no step. -/
def check (checked : Except ε α) : Attempt ω σ ε α := fun _ session =>
  (checked, session)

def orFail (attempt : Attempt ω σ ε α) (convert : ε → ε') : Attempt ω σ ε' α := fun outcomes session =>
  ((attempt outcomes session).1.mapError convert, (attempt outcomes session).2)

/-- Hands the result over, also where it is an error. -/
def result (attempt : Attempt ω σ ε α) : Attempt ω σ ε' (Except ε α) := fun outcomes session =>
  (.ok (attempt outcomes session).1, (attempt outcomes session).2)

/-- A deferred call, whose own error is dropped. -/
def deferring (attempt : Attempt ω σ ε α) (cleanup : Attempt ω σ ε' Unit) : Attempt ω σ ε α :=
  fun outcomes session =>
    ((attempt outcomes session).1, (cleanup outcomes (attempt outcomes session).2).2)

/-- A deferred call that is made only after an error. -/
def onError (attempt : Attempt ω σ ε α) (cleanup : Attempt ω σ ε' Unit) : Attempt ω σ ε α :=
  fun outcomes session =>
    match attempt outcomes session with
    | (.ok value, session) => (.ok value, session)
    | (.error reason, session) => (.error reason, (cleanup outcomes session).2)

/-- Works on one part of a larger state. -/
def within (get : τ → σ) (put : σ → τ → τ) (attempt : Attempt ω σ ε α) : Attempt ω τ ε α :=
  fun outcomes (state, met) =>
    ((attempt outcomes (get state, met)).1, put (attempt outcomes (get state, met)).2.1 state,
      (attempt outcomes (get state, met)).2.2)

/-- Whatever the outcomes, from a state that meets the precondition the run ends with a value in a state
that meets the postcondition, or with an error in a state that meets the condition for failures. -/
def Triple (pre : σ → Prop) (attempt : Attempt ω σ ε α) (post : α → σ → Prop) (failed : ε → σ → Prop) : Prop :=
  ∀ outcomes state met, pre state →
    match attempt outcomes (state, met) with
    | (.ok value, after, _) => post value after
    | (.error reason, after, _) => failed reason after

namespace Triple

variable {pre pre' : σ → Prop} {post post' : α → σ → Prop} {failed failed' : ε → σ → Prop}
  {attempt : Attempt ω σ ε α}

theorem weaken (shown : Triple pre attempt post failed) (before : ∀ state, pre' state → pre state)
    (after : ∀ value state, post value state → post' value state)
    (fails : ∀ reason state, failed reason state → failed' reason state) : Triple pre' attempt post' failed' := by
  intro outcomes state met given
  have run := shown outcomes state met (before state given)
  cases ran : attempt outcomes (state, met) with
  | mk result session =>
      obtain ⟨state, met⟩ := session
      rw [ran] at run
      cases result with
      | ok value => exact after value state run
      | error reason => exact fails reason state run

/-- A triple for each state that meets the precondition. -/
theorem each (shown : ∀ state, pre state → Triple (fun start => start = state) attempt post failed) :
    Triple pre attempt post failed :=
  fun outcomes state met given => shown state given outcomes state met rfl

theorem pure (value : α) : Triple (post value) (pure value : Attempt ω σ ε α) post failed :=
  fun _ _ _ given => given

theorem check {checked : Except ε α} (ends : ∀ value, checked = .ok value → ∀ state, pre state → post value state)
    (stops : ∀ reason, checked = .error reason → ∀ state, pre state → failed reason state) :
    Triple pre (Attempt.check checked : Attempt ω σ ε α) post failed := by
  intro outcomes state met given
  cases checked with
  | ok value => exact ends value rfl state given
  | error reason => exact stops reason rfl state given

theorem step {effect : ω → σ → Except ε α × σ}
    (ends : ∀ outcome state value after, pre state → effect outcome state = (.ok value, after) → post value after)
    (stops : ∀ outcome state reason after, pre state → effect outcome state = (.error reason, after) →
      failed reason after) : Triple pre (Attempt.step effect) post failed := by
  intro outcomes state met given
  cases ran : effect (outcomes met) state with
  | mk result after =>
      simp only [Attempt.step, ran]
      cases result with
      | ok value => exact ends _ _ value after given ran
      | error reason => exact stops _ _ reason after given ran

theorem bind {first : Attempt ω σ ε α} {next : α → Attempt ω σ ε β} {middle : α → σ → Prop} {last : β → σ → Prop}
    (start : Triple pre first middle failed) (continues : ∀ value, Triple (middle value) (next value) last failed) :
    Triple pre (first >>= next) last failed := by
  intro outcomes state met given
  have begun := start outcomes state met given
  change match (match first outcomes (state, met) with
    | (.ok value, session) => next value outcomes session
    | (.error reason, session) => (.error reason, session)) with
    | (.ok value, after, _) => last value after
    | (.error reason, after, _) => failed reason after
  cases ran : first outcomes (state, met) with
  | mk result session =>
      obtain ⟨state, met⟩ := session
      rw [ran] at begun
      cases result with
      | ok value => exact continues value outcomes state met begun
      | error reason => exact begun

theorem orFail {convert : ε → ε'} {failed : ε' → σ → Prop}
    (shown : Triple pre attempt post fun reason state => failed (convert reason) state) :
    Triple pre (attempt.orFail convert) post failed := by
  intro outcomes state met given
  have run := shown outcomes state met given
  unfold Attempt.orFail
  cases ran : attempt outcomes (state, met) with
  | mk result session =>
      obtain ⟨state, met⟩ := session
      rw [ran] at run
      cases result with
      | ok value => exact run
      | error reason => exact run

theorem result (last : Except ε α → σ → Prop) {failed' : ε' → σ → Prop}
    (shown : Triple pre attempt (fun value => last (.ok value)) fun reason => last (.error reason)) :
    Triple pre (attempt.result : Attempt ω σ ε' (Except ε α)) last failed' := by
  intro outcomes state met given
  have run := shown outcomes state met given
  unfold Attempt.result
  cases ran : attempt outcomes (state, met) with
  | mk result session =>
      obtain ⟨state, met⟩ := session
      rw [ran] at run
      cases result with
      | ok value => exact run
      | error reason => exact run

theorem deferring {cleanup : Attempt ω σ ε' Unit} {between : α → σ → Prop} {stopped : ε → σ → Prop}
    (shown : Triple pre attempt between stopped)
    (ends : ∀ value, Triple (between value) cleanup (fun _ => post value) fun _ => post value)
    (stops : ∀ reason, Triple (stopped reason) cleanup (fun _ => failed reason) fun _ => failed reason) :
    Triple pre (attempt.deferring cleanup) post failed := by
  intro outcomes state met given
  have run := shown outcomes state met given
  unfold Attempt.deferring
  cases ran : attempt outcomes (state, met) with
  | mk result session =>
      obtain ⟨state, met⟩ := session
      rw [ran] at run
      cases result with
      | ok value =>
          have cleaned := ends value outcomes state met run
          cases done : cleanup outcomes (state, met) with
          | mk outcome session =>
              rw [done] at cleaned
              cases outcome with
              | ok _ => exact cleaned
              | error _ => exact cleaned
      | error reason =>
          have cleaned := stops reason outcomes state met run
          cases done : cleanup outcomes (state, met) with
          | mk outcome session =>
              rw [done] at cleaned
              cases outcome with
              | ok _ => exact cleaned
              | error _ => exact cleaned

theorem onError {cleanup : Attempt ω σ ε' Unit} {stopped : ε → σ → Prop}
    (shown : Triple pre attempt post stopped)
    (stops : ∀ reason, Triple (stopped reason) cleanup (fun _ => failed reason) fun _ => failed reason) :
    Triple pre (attempt.onError cleanup) post failed := by
  intro outcomes state met given
  have run := shown outcomes state met given
  unfold Attempt.onError
  cases ran : attempt outcomes (state, met) with
  | mk result session =>
      obtain ⟨state, met⟩ := session
      rw [ran] at run
      cases result with
      | ok value => exact run
      | error reason =>
          have cleaned := stops reason outcomes state met run
          dsimp only
          cases done : cleanup outcomes (state, met) with
          | mk outcome session =>
              rw [done] at cleaned
              cases outcome with
              | ok _ => exact cleaned
              | error _ => exact cleaned

theorem within {get : τ → σ} {put : σ → τ → τ} {state : τ} {pre : σ → Prop} {last : α → τ → Prop}
    {failed : ε → τ → Prop} (shown : Triple pre attempt (fun value after => last value (put after state))
      fun reason after => failed reason (put after state)) (given : pre (get state)) :
    Triple (fun start => start = state) (attempt.within get put) last failed := by
  intro outcomes start met same
  cases same
  have run := shown outcomes (get state) met given
  unfold Attempt.within
  dsimp only
  cases ran : attempt outcomes (get state, met) with
  | mk result session =>
      obtain ⟨after, met⟩ := session
      rw [ran] at run
      cases result with
      | ok value => exact run
      | error reason => exact run

end Triple

theorem bind_eq_of_ok {first : Attempt ω σ ε α} {next : α → Attempt ω σ ε β} {outcomes : Nat → ω}
    {session session' : σ × Nat} {value : α} (ran : first outcomes session = (.ok value, session')) :
    (first >>= next) outcomes session = next value outcomes session' := by
  change (match first outcomes session with
    | (.ok value, session) => next value outcomes session
    | (.error reason, session) => (.error reason, session)) = _
  rw [ran]

theorem bind_eq_of_error {first : Attempt ω σ ε α} {next : α → Attempt ω σ ε β} {outcomes : Nat → ω}
    {session session' : σ × Nat} {reason : ε} (ran : first outcomes session = (.error reason, session')) :
    (first >>= next) outcomes session = (.error reason, session') := by
  change (match first outcomes session with
    | (.ok value, session) => next value outcomes session
    | (.error reason, session) => (.error reason, session)) = _
  rw [ran]

theorem bind_assoc {γ : Type} (first : Attempt ω σ ε α) (next : α → Attempt ω σ ε β) (last : β → Attempt ω σ ε γ) :
    first >>= next >>= last = first >>= fun value => next value >>= last := by
  funext outcomes session
  cases ran : first outcomes session with
  | mk result session' =>
      cases result with
      | ok value =>
          rw [bind_eq_of_ok ran]
          change (match (first >>= next) outcomes session with
            | (.ok value, session) => last value outcomes session
            | (.error reason, session) => (.error reason, session)) = _
          rw [bind_eq_of_ok ran]
          rfl
      | error reason => rw [bind_eq_of_error ran, bind_eq_of_error (bind_eq_of_error ran)]

theorem orFail_bind (first : Attempt ω σ ε α) (next : α → Attempt ω σ ε β) (convert : ε → ε') :
    (first >>= next).orFail convert = first.orFail convert >>= fun value => (next value).orFail convert := by
  funext outcomes session
  cases ran : first outcomes session with
  | mk result session' =>
      cases result with
      | ok value =>
          have converted : first.orFail convert outcomes session = (.ok value, session') := by
            rw [orFail, ran]
            rfl
          rw [bind_eq_of_ok converted, orFail, bind_eq_of_ok ran]
          rfl
      | error reason =>
          have converted : first.orFail convert outcomes session = (.error (convert reason), session') := by
            rw [orFail, ran]
            rfl
          rw [bind_eq_of_error converted, orFail, bind_eq_of_error ran]
          rfl

theorem within_bind {get : τ → σ} {put : σ → τ → τ} (got : ∀ part whole, get (put part whole) = part)
    (again : ∀ part part' whole, put part' (put part whole) = put part' whole)
    (first : Attempt ω σ ε α) (next : α → Attempt ω σ ε β) :
    (first >>= next).within get put = first.within get put >>= fun value => (next value).within get put := by
  funext outcomes session
  obtain ⟨whole, met⟩ := session
  cases ran : first outcomes (get whole, met) with
  | mk result session' =>
      obtain ⟨part, met'⟩ := session'
      cases result with
      | ok value =>
          have begun : first.within get put outcomes (whole, met) = (.ok value, put part whole, met') := by
            simp only [within, ran]
          rw [bind_eq_of_ok begun]
          simp only [within, bind_eq_of_ok ran, got, again]
      | error reason =>
          have begun : first.within get put outcomes (whole, met) = (.error reason, put part whole, met') := by
            simp only [within, ran]
          rw [bind_eq_of_error begun]
          simp only [within, bind_eq_of_error ran]

/-! ### Runs whose calls go well -/

/-- The next outcomes meet some conditions, one after the other. -/
def Meets (outcomes : Nat → ω) : Nat → List (ω → Prop) → Prop
  | _, [] => True
  | met, condition :: rest => condition (outcomes met) ∧ Meets outcomes (met + 1) rest

theorem meets_append {outcomes : Nat → ω} {first last : List (ω → Prop)} {met : Nat} :
    Meets outcomes met (first ++ last) ↔ Meets outcomes met first ∧ Meets outcomes (met + first.length) last := by
  induction first generalizing met with
  | nil => simp [Meets]
  | cons condition rest ih => simp only [List.cons_append, Meets, ih, and_assoc, List.length_cons, Nat.add_assoc, Nat.add_comm 1]

/-- A run whose calls meet their conditions, from a state that meets the precondition, ends with a value in a
state that meets the postcondition. -/
def Succeeds (conditions : List (ω → Prop)) (pre : σ → Prop) (attempt : Attempt ω σ ε α) (post : α → σ → Prop) : Prop :=
  ∀ outcomes state met, Meets outcomes met conditions → pre state →
    ∃ value after, attempt outcomes (state, met) = (.ok value, after, met + conditions.length) ∧ post value after

/-- A run of a number of calls, whatever their outcomes. -/
def Takes (count : Nat) (attempt : Attempt ω σ ε α) : Prop :=
  ∀ outcomes session, (attempt outcomes session).2.2 = session.2 + count

theorem takes_step (effect : ω → σ → Except ε α × σ) : Takes 1 (step effect) :=
  fun _ _ => rfl

namespace Succeeds

variable {conditions : List (ω → Prop)} {pre pre' : σ → Prop} {post post' : α → σ → Prop} {attempt : Attempt ω σ ε α}

theorem weaken (shown : Succeeds conditions pre attempt post) (before : ∀ state, pre' state → pre state)
    (after : ∀ value state, post value state → post' value state) : Succeeds conditions pre' attempt post' := by
  intro outcomes state met good given
  obtain ⟨value, state, ran, ended⟩ := shown outcomes state met good (before state given)
  exact ⟨value, state, ran, after value state ended⟩

theorem each (shown : ∀ state, pre state → Succeeds conditions (fun start => start = state) attempt post) :
    Succeeds conditions pre attempt post :=
  fun outcomes state met good given => shown state given outcomes state met good rfl

theorem step {Good : ω → Prop} {effect : ω → σ → Except ε α × σ}
    (ends : ∀ outcome state, Good outcome → pre state → ∃ value after, effect outcome state = (.ok value, after) ∧
      post value after) : Succeeds [Good] pre (Attempt.step effect) post := by
  intro outcomes state met good given
  obtain ⟨value, after, ran, ended⟩ := ends (outcomes met) state good.1 given
  refine ⟨value, after, ?_, ended⟩
  simp only [Attempt.step, ran, List.length_singleton]

theorem check {value : α} : Succeeds [] (post value) (Attempt.check (.ok value) : Attempt ω σ ε α) post :=
  fun _ state _ _ given => ⟨value, state, rfl, given⟩

theorem bind {first : Attempt ω σ ε α} {next : α → Attempt ω σ ε β} {middle : α → σ → Prop} {last : β → σ → Prop}
    {later : List (ω → Prop)} (start : Succeeds conditions pre first middle)
    (continues : ∀ value, Succeeds later (middle value) (next value) last) :
    Succeeds (conditions ++ later) pre (first >>= next) last := by
  intro outcomes state met good given
  obtain ⟨goodFirst, goodLater⟩ := meets_append.mp good
  obtain ⟨value, between, ran, reached⟩ := start outcomes state met goodFirst given
  obtain ⟨result, after, ended, holds⟩ := continues value outcomes between _ goodLater reached
  refine ⟨result, after, ?_, holds⟩
  rw [bind_eq_of_ok ran, ended, List.length_append, Nat.add_assoc]

theorem orFail {convert : ε → ε'} (shown : Succeeds conditions pre attempt post) :
    Succeeds conditions pre (attempt.orFail convert) post := by
  intro outcomes state met good given
  obtain ⟨value, after, ran, ended⟩ := shown outcomes state met good given
  refine ⟨value, after, ?_, ended⟩
  rw [Attempt.orFail, ran]
  rfl

/-- Nothing is asked of the calls of a deferred one. -/
theorem deferring {cleanup : Attempt ω σ ε' Unit} {between : α → σ → Prop} {count : Nat}
    (shown : Succeeds conditions pre attempt between) (takes : Takes count cleanup)
    (ends : ∀ value, Triple (between value) cleanup (fun _ => post value) fun _ => post value) :
    Succeeds (conditions ++ List.replicate count fun _ => True) pre (attempt.deferring cleanup) post := by
  intro outcomes state met good given
  obtain ⟨value, middle, ran, reached⟩ := shown outcomes state met (meets_append.mp good).1 given
  have cleaned := ends value outcomes middle (met + conditions.length) reached
  have count := takes outcomes (middle, met + conditions.length)
  cases done : cleanup outcomes (middle, met + conditions.length) with
  | mk outcome session =>
      rw [done] at cleaned count
      refine ⟨value, session.1, ?_, ?_⟩
      · rw [Attempt.deferring, ran, done, List.length_append, List.length_replicate, ← Nat.add_assoc, ← count]
      · cases outcome with
        | ok _ => exact cleaned
        | error _ => exact cleaned

theorem within {get : τ → σ} {put : σ → τ → τ} {state : τ} {pre : σ → Prop} {last : α → τ → Prop}
    (shown : Succeeds conditions pre attempt fun value after => last value (put after state)) (given : pre (get state)) :
    Succeeds conditions (fun start => start = state) (attempt.within get put) last := by
  intro outcomes start met good same
  cases same
  obtain ⟨value, after, ran, ended⟩ := shown outcomes (get state) met good given
  refine ⟨value, put after state, ?_, ended⟩
  unfold Attempt.within
  dsimp only
  rw [ran]

end Succeeds

end Attempt

end Fallible
