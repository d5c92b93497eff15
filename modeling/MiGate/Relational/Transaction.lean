namespace Relational

/-! Transactions.  The statements of a transaction work on a copy, which a commit makes the
database and anything that fails before throws away.  Every statement may fail, whatever it does. -/

variable {σ ε α β γ : Type}

/-- The errors that the statements of a call fail with, by their number in the call. -/
abbrev Faults (ε : Type) := Nat → Option ε

/-- Statements on a copy of the database, and how many have been issued with them.  Where they
fail, what they have written so far is still there. -/
def Statements (σ ε α : Type) := Faults ε → σ × Nat → Except ε α × σ × Nat

namespace Statements

instance : Monad (Statements σ ε) where
  pure value := fun _ session => (.ok value, session)
  bind first next := fun faults session =>
    match first faults session with
    | (.ok value, session) => next value faults session
    | (.error reason, session) => (.error reason, session)

/-- One statement: it fails of itself, or because the driver does. -/
def statement (effect : σ → Except ε (σ × α)) : Statements σ ε α := fun faults (working, issued) =>
  match faults issued with
  | some reason => (.error reason, working, issued + 1)
  | none =>
      match effect working with
      | .ok (written, value) => (.ok value, written, issued + 1)
      | .error reason => (.error reason, working, issued + 1)

def query (read : σ → α) : Statements σ ε α :=
  statement fun working => .ok (working, read working)

def execute (write : σ → σ) : Statements σ ε Unit :=
  statement fun working => .ok (write working, ())

/-- A check that asks the database nothing. -/
def check (checked : Except ε α) : Statements σ ε α := fun _ session =>
  (checked, session)

/-- The statements do what the function does, if the driver lets them. -/
structure Performs (statements : Statements σ ε α) (effect : σ → Except ε (σ × α)) : Prop where
  sound : ∀ {faults : Faults ε} {working written : σ} {issued count : Nat} {value : α},
    statements faults (working, issued) = (.ok value, written, count) → effect working = .ok (written, value)
  complete : ∀ {working written : σ} {value : α} (issued : Nat), effect working = .ok (written, value) →
    ∃ count, statements (fun _ => none) (working, issued) = (.ok value, written, count)
  refuses : ∀ {working : σ} {reason : ε} (issued : Nat), effect working = .error reason →
    (statements (fun _ => none) (working, issued)).1 = .error reason

namespace Performs

theorem congr {statements : Statements σ ε α} {effect other : σ → Except ε (σ × α)}
    (performs : Performs statements effect) (same : ∀ working, effect working = other working) :
    Performs statements other := by
  have equal : effect = other := funext same
  rwa [← equal]

theorem pure (value : α) :
    Performs (pure value : Statements σ ε α) fun working => .ok (working, value) where
  sound done := by cases done; rfl
  complete issued done := by cases done; exact ⟨issued, rfl⟩
  refuses _ failed := by cases failed

theorem check (checked : Except ε α) :
    Performs (Statements.check checked : Statements σ ε α) fun working =>
      checked.map fun value => (working, value) where
  sound done := by cases done; rfl
  complete issued done := by
    cases checked with
    | ok value => cases done; exact ⟨issued, rfl⟩
    | error reason => cases done
  refuses _ failed := by
    cases checked with
    | ok value => cases failed
    | error reason => cases failed; rfl

theorem statement (effect : σ → Except ε (σ × α)) : Performs (Statements.statement effect) effect where
  sound {faults working written issued count value} done := by
    unfold Statements.statement at done
    cases fault : faults issued with
    | some reason => simp [fault] at done
    | none =>
        cases ran : effect working with
        | error reason => simp [fault, ran] at done
        | ok result =>
            simp only [fault, ran, Prod.mk.injEq, Except.ok.injEq] at done
            obtain ⟨rfl, rfl, _⟩ := done
            rfl
  complete issued done := by
    refine ⟨issued + 1, ?_⟩
    simp [Statements.statement, done]
  refuses _ failed := by simp [Statements.statement, failed]

theorem query (read : σ → α) :
    Performs (Statements.query read : Statements σ ε α) fun working => .ok (working, read working) :=
  statement _

theorem execute (write : σ → σ) :
    Performs (Statements.execute write : Statements σ ε Unit) fun working => .ok (write working, ()) :=
  statement _

theorem bind {first : Statements σ ε α} {next : α → Statements σ ε β} {effect : σ → Except ε (σ × α)}
    {rest : α → σ → Except ε (σ × β)} (start : Performs first effect)
    (continues : ∀ value, Performs (next value) (rest value)) :
    Performs (first >>= next) fun working => (effect working).bind fun result => rest result.2 result.1 where
  sound {faults working written issued count value} done := by
    change (match first faults (working, issued) with
      | (.ok value, session) => next value faults session
      | (.error reason, session) => (.error reason, session)) = _ at done
    cases begun : first faults (working, issued) with
    | mk outcome session =>
        obtain ⟨middle, number⟩ := session
        cases outcome with
        | error reason => simp [begun] at done
        | ok result =>
            simp only [begun] at done
            rw [start.sound begun]
            exact (continues result).sound done
  complete {working written value} issued done := by
    cases ran : effect working with
    | error reason => rw [ran] at done; cases done
    | ok result =>
        rw [ran] at done
        obtain ⟨number, begun⟩ := start.complete issued ran
        obtain ⟨count, ended⟩ := (continues result.2).complete number done
        refine ⟨count, ?_⟩
        change (match first (fun _ => none) (working, issued) with
          | (.ok value, session) => next value (fun _ => none) session
          | (.error reason, session) => (.error reason, session)) = _
        rw [begun]
        exact ended
  refuses {working reason} issued failed := by
    change (match first (fun _ => none) (working, issued) with
      | (.ok value, session) => next value (fun _ => none) session
      | (.error reason, session) => (.error reason, session)).1 = _
    cases ran : effect working with
    | error other =>
        rw [ran] at failed
        cases failed
        have stopped := start.refuses issued ran
        cases begun : first (fun _ => none) (working, issued) with
        | mk outcome session =>
            rw [begun] at stopped
            cases stopped
            rfl
    | ok result =>
        rw [ran] at failed
        obtain ⟨number, begun⟩ := start.complete issued ran
        rw [begun]
        exact (continues result.2).refuses number failed

/-- A loop that threads a value performs the fold over the pair of the database and that value. -/
theorem foldlM {round : β → γ → Statements σ ε β} {effect : σ × β → γ → Except ε (σ × β)}
    (performs : ∀ value item, Performs (round value item) fun working => effect (working, value) item)
    (items : List γ) (value : β) :
    Performs (items.foldlM round value) fun working => items.foldlM effect (working, value) := by
  induction items generalizing value with
  | nil => exact pure value
  | cons item rest ih => exact (performs value item).bind ih

theorem forM_execute (write : γ → σ → σ) (items : List γ) :
    Performs (items.forM fun item => Statements.execute (write item) : Statements σ ε PUnit) fun working =>
      .ok (items.foldl (fun working item => write item working) working, ()) := by
  induction items with
  | nil => exact pure ()
  | cons item rest ih => exact (execute (write item)).bind fun _ => ih

end Performs

/-! `BeginTx`, the statements, `Commit`, and a deferred `Rollback`. -/

def transact (body : Statements σ ε α) : Statements σ ε α := fun faults (database, issued) =>
  match faults issued with
  | some reason => (.error reason, database, issued + 1)
  | none =>
      match body faults (database, issued + 1) with
      | (.error reason, _, issued) => (.error reason, database, issued)
      | (.ok value, written, issued) =>
          match faults issued with
          | some reason => (.error reason, database, issued + 1)
          | none => (.ok value, written, issued + 1)

/-- A transaction that fails has written nothing, wherever it fails. -/
theorem transact_error {body : Statements σ ε α} {faults : Faults ε} {database : σ} {issued : Nat} {reason : ε}
    (failed : (transact body faults (database, issued)).1 = .error reason) :
    (transact body faults (database, issued)).2.1 = database := by
  unfold transact at failed ⊢
  dsimp only at failed ⊢
  cases begun : faults issued with
  | some first => rfl
  | none =>
      rw [begun] at failed
      dsimp only at failed ⊢
      cases ran : body faults (database, issued + 1) with
      | mk outcome session =>
          rw [ran] at failed
          cases outcome with
          | error stopped => rfl
          | ok value =>
              dsimp only at failed ⊢
              cases committed : faults session.2 with
              | some last => rfl
              | none =>
                  rw [committed] at failed
                  cases failed

theorem Performs.transact {body : Statements σ ε α} {effect : σ → Except ε (σ × α)} (performs : Performs body effect) :
    Performs (transact body) effect where
  sound {faults working written issued count value} done := by
    unfold Statements.transact at done
    dsimp only at done
    cases begun : faults issued with
    | some first => simp [begun] at done
    | none =>
        simp only [begun] at done
        cases ran : body faults (working, issued + 1) with
        | mk outcome session =>
            obtain ⟨copy, number⟩ := session
            cases outcome with
            | error stopped => simp [ran] at done
            | ok result =>
                simp only [ran] at done
                cases committed : faults number with
                | some last => simp [committed] at done
                | none =>
                    simp only [committed, Prod.mk.injEq, Except.ok.injEq] at done
                    obtain ⟨rfl, rfl, _⟩ := done
                    exact performs.sound ran
  complete issued done := by
    obtain ⟨count, ran⟩ := performs.complete (issued + 1) done
    refine ⟨count + 1, ?_⟩
    simp [Statements.transact, ran]
  refuses {working reason} issued failed := by
    have stopped := performs.refuses (issued + 1) failed
    cases ran : body (fun _ => none) (working, issued + 1) with
    | mk outcome session =>
        rw [ran] at stopped
        cases stopped
        simp [Statements.transact, ran]

end Statements

end Relational
