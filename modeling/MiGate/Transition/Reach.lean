namespace Transition

/-! Runs of a labelled transition system, and the rules by which an invariant of one step
becomes one of every reachable state. -/

variable {σ α : Type} {Step : α → σ → σ → Prop} {start state : σ}

inductive Reach (Step : α → σ → σ → Prop) (start : σ) : σ → Prop where
  | start : Reach Step start start
  | step {before after : σ} {action : α} (reached : Reach Step start before)
      (step : Step action before after) : Reach Step start after

/-- The steps of a system whose action meets a condition in the state it leaves. -/
def Guarded (Guard : α → σ → Prop) (Step : α → σ → σ → Prop) : α → σ → σ → Prop :=
  fun action before after => Guard action before ∧ Step action before after

/-- The steps of a system whose step function may refuse an action. -/
def Steps (step : α → σ → Option σ) : α → σ → σ → Prop :=
  fun action before after => step action before = some after

theorem Reach.invariant {Inv : σ → Prop} (initial : Inv start)
    (preserved : ∀ action before after, Inv before → Step action before after → Inv after)
    (reached : Reach Step start state) : Inv state := by
  induction reached with
  | start => exact initial
  | step _ step ih => exact preserved _ _ _ ih step

/-- An invariant may be preserved with the help of one that is known to hold. -/
theorem Reach.invariant_with {Known Inv : σ → Prop} (known : ∀ state, Reach Step start state → Known state)
    (initial : Inv start)
    (preserved : ∀ action before after, Known before → Inv before → Step action before after → Inv after)
    (reached : Reach Step start state) : Inv state := by
  induction reached with
  | start => exact initial
  | step earlier step ih => exact preserved _ _ _ (known _ earlier) ih step

theorem Reach.mono {Step' : α → σ → σ → Prop}
    (weaker : ∀ action before after, Step action before after → Step' action before after)
    (reached : Reach Step start state) : Reach Step' start state := by
  induction reached with
  | start => exact .start
  | step _ step ih => exact .step ih (weaker _ _ _ step)

/-- The steps of one system may be those of another under other names. -/
theorem Reach.relabel {β : Type} {Step' : β → σ → σ → Prop} (name : α → β)
    (each : ∀ action before after, Step action before after → Step' (name action) before after)
    (reached : Reach Step start state) : Reach Step' start state := by
  induction reached with
  | start => exact .start
  | step _ step ih => exact .step ih (each _ _ _ step)

theorem Reach.unguarded {Guard : α → σ → Prop} (reached : Reach (Guarded Guard Step) start state) :
    Reach Step start state :=
  reached.mono fun _ _ _ guarded => guarded.2

theorem Reach.trans {middle : σ} (first : Reach Step start middle) (second : Reach Step middle state) :
    Reach Step start state := by
  induction second with
  | start => exact first
  | step _ step ih => exact .step ih step

/-- Performing actions one after the other, as long as none is refused. -/
def perform (step : α → σ → Option σ) : List α → σ → Option σ
  | [], state => some state
  | action :: rest, state => (step action state).bind (perform step rest)

theorem Reach.of_perform {step : α → σ → Option σ} {actions : List α}
    (performed : perform step actions start = some state) : Reach (Steps step) start state := by
  induction actions generalizing start with
  | nil =>
      cases Option.some.inj performed
      exact .start
  | cons action rest ih =>
      obtain ⟨next, first, tail⟩ := Option.bind_eq_some_iff.mp performed
      exact Reach.trans (.step .start first) (ih tail)

theorem Reach.of_perform_isSome {step : α → σ → Option σ} {actions : List α}
    (performed : (perform step actions start).isSome) :
    Reach (Steps step) start ((perform step actions start).get performed) :=
  .of_perform (Option.some_get performed).symm

/-- A step function that refuses also the actions that do not meet a guard. -/
def restrict (guard : α → σ → Bool) (step : α → σ → Option σ) (action : α) (state : σ) : Option σ :=
  if guard action state then step action state else none

theorem restrict_eq_some {guard : α → σ → Bool} {step : α → σ → Option σ} {action : α} {after : σ} :
    restrict guard step action state = some after ↔
      guard action state = true ∧ step action state = some after := by
  unfold restrict
  split <;> simp_all

/-- Where some actions lead to, or the start if one of them is refused. -/
def arrive (step : α → σ → Option σ) (actions : List α) (start : σ) : σ :=
  (perform step actions start).getD start

theorem Reach.arrive (step : α → σ → Option σ) (actions : List α) (start : σ) :
    Reach (Steps step) start (arrive step actions start) := by
  unfold Transition.arrive
  cases performed : perform step actions start with
  | none => exact .start
  | some final => exact .of_perform performed

theorem perform_append {step : α → σ → Option σ} {first rest : List α} :
    perform step (first ++ rest) start = some state ↔
      ∃ middle, perform step first start = some middle ∧ perform step rest middle = some state := by
  induction first generalizing start with
  | nil => simp [perform]
  | cons action more ih =>
      simp only [List.cons_append, perform, Option.bind_eq_some_iff, ih]
      constructor
      · rintro ⟨next, stepped, middle, performed, tail⟩
        exact ⟨middle, ⟨next, stepped, performed⟩, tail⟩
      · rintro ⟨middle, ⟨next, stepped, performed⟩, tail⟩
        exact ⟨next, stepped, middle, performed, tail⟩

theorem perform_eq_arrive {step : α → σ → Option σ} {actions : List α} (accepted : (perform step actions start).isSome) :
    perform step actions start = some (arrive step actions start) := by
  obtain ⟨final, performed⟩ := Option.isSome_iff_exists.mp accepted
  rw [arrive, performed, Option.getD_some]

theorem arrive_single {step : α → σ → Option σ} {action : α} (accepted : (step action start).isSome) :
    step action start = some (arrive step [action] start) := by
  obtain ⟨next, stepped⟩ := Option.isSome_iff_exists.mp accepted
  simp only [arrive, perform, stepped, Option.bind_some, Option.getD_some]

theorem Reach.arrive_restrict (guard : α → σ → Bool) (step : α → σ → Option σ) (actions : List α) (start : σ) :
    Reach (Guarded (fun action state => guard action state = true) (Steps step)) start
      (Transition.arrive (restrict guard step) actions start) :=
  (Reach.arrive (restrict guard step) actions start).mono fun _ _ _ => restrict_eq_some.mp

end Transition
