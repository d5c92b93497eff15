import MiGate.Db.TrafficRow

namespace MiGate.Traffic

open Db Go Relational

/-! The ledger of one counter key over a run of the operations that observe and mark it. -/

inductive LedgerOp where
  | applyRawStats (now : Int) (stats : List TrafficRawStat) (observedAt : Int)
  | markScopeStatus (now : Int) (markers : List TrafficStatusMarker) (observedAt : Int)
  | markUnavailable (now : Int) (engine status message : String) (observedAt : Int)

def LedgerOp.run (op : LedgerOp) (store : Store) : Store :=
  match op with
  | .applyRawStats now stats observedAt => applyTrafficRawStats now stats observedAt store
  | .markScopeStatus now markers observedAt => markTrafficScopeStatus now markers observedAt store
  | .markUnavailable now engine status message observedAt =>
      markTrafficUnavailable now engine status message observedAt store

def runLedger (ops : List LedgerOp) (store : Store) : Store :=
  ops.foldl (fun store op => op.run store) store

/-! ### What a run says about one key -/

/-- An observation of the key.  `unbased` says that the row it finds cannot be told from one
that was never observed, so that it only sets the baseline. -/
structure Observation where
  up : Int64
  down : Int64
  unbased : Bool
deriving DecidableEq, Repr

/-- The key's past: when its row was last written, whether the side fields of the row
(window and status) are those of a row never observed, and its observations, newest first. -/
structure KeyView where
  lastSeen : Option Int
  blank : Bool
  observations : List Observation
deriving DecidableEq, Repr

def KeyView.start : KeyView where
  lastSeen := none
  blank := true
  observations := []

/-- The newest reading is all zero, or there is none. -/
def KeyView.atZero (view : KeyView) : Bool :=
  match view.observations with
  | [] => true
  | last :: _ => last.up = 0 && last.down = 0

def KeyView.observe (view : KeyView) (seenAt : Int) (raw : TrafficRawStat) : KeyView where
  lastSeen := some seenAt
  blank := view.lastSeen.all (seenAt ≤ ·)
  observations :=
    { up := raw.rawUp, down := raw.rawDown,
      unbased := view.atZero && view.blank } :: view.observations

def baselineOnly (status message : String) : Bool :=
  isBaselineOnlyTrafficStatus { TrafficState.zero with status := status, message := message }

def KeyView.mark (view : KeyView) (seenAt : Int) (marker : TrafficStatusMarker) : KeyView :=
  { view with
    lastSeen := some seenAt
    blank := baselineOnly marker.status marker.message }

def readingsOf (key : TrafficKey) (stats : List TrafficRawStat) : List TrafficRawStat :=
  (normalizeTrafficRawStats stats).filter fun raw => raw.key = key

def markersOf (key : TrafficKey) (markers : List TrafficStatusMarker) : List TrafficStatusMarker :=
  (normalizeTrafficStatusMarkers markers).filter fun marker => marker.key = key

def KeyView.after (view : KeyView) (key : TrafficKey) : LedgerOp → KeyView
  | .applyRawStats now stats observedAt =>
      (readingsOf key stats).foldl (fun view raw => view.observe (observationTime now observedAt) raw) view
  | .markScopeStatus now markers observedAt =>
      (markersOf key markers).foldl (fun view marker => view.mark (observationTime now observedAt) marker) view
  | .markUnavailable now engine status message observedAt =>
      if concerns engine key && view.lastSeen.isSome then
        view.mark (observationTime now observedAt) (unavailableMarker status message key)
      else view

def viewOf (key : TrafficKey) (ops : List LedgerOp) : KeyView :=
  ops.foldl (fun view op => view.after key op) .start

/-- The sum over consecutive observations of what the counter gained, a decrease and an
observation without a baseline counting nothing. -/
def gained (reading : Observation → Int64) : List Observation → Int
  | later :: earlier :: rest =>
      (if later.unbased then 0 else max 0 ((reading later).toInt - (reading earlier).toInt)) +
        gained reading (earlier :: rest)
  | _ => 0

/-- The readings of the key an operation may bring: at most one, of status ok and
non-negative, in a batch that does not reconcile the key; and when it is the first, no
marker before it has left the row looking observed. -/
def LedgerOp.Admissible (key : TrafficKey) (store : Store) (view : KeyView) : LedgerOp → Prop
  | .applyRawStats now stats observedAt =>
      (readingsOf key stats).length ≤ 1 ∧
      reconciles now stats observedAt store key = false ∧
      ∀ raw ∈ readingsOf key stats,
        raw.status = "ok" ∧ 0 ≤ raw.rawUp ∧ 0 ≤ raw.rawDown ∧
        (view.observations = [] → view.blank = true)
  | _ => True

instance (key : TrafficKey) (store : Store) (view : KeyView) (op : LedgerOp) :
    Decidable (op.Admissible key store view) := by
  cases op <;> unfold LedgerOp.Admissible <;> infer_instance

/-- Every operation of a run is admissible where it runs. -/
def AdmissibleRun (key : TrafficKey) : Store → KeyView → List LedgerOp → Prop
  | _, _, [] => True
  | store, view, op :: rest =>
      op.Admissible key store view ∧ AdmissibleRun key (op.run store) (view.after key op) rest

instance decidableAdmissibleRun (key : TrafficKey) : (store : Store) → (view : KeyView) →
    (ops : List LedgerOp) → Decidable (AdmissibleRun key store view ops)
  | _, _, [] => .isTrue trivial
  | store, view, op :: rest =>
      have := decidableAdmissibleRun key (op.run store) (view.after key op) rest
      inferInstanceAs (Decidable (_ ∧ _))

/-! ### The row follows the view -/

theorem rawIncrease_eq (raw lastRaw : Int64) :
    rawIncrease raw lastRaw = Int64.ofInt (max 0 (raw.toInt - lastRaw.toInt)) := by
  unfold rawIncrease
  split
  · rename_i grown
    have grown := Int64.le_iff_toInt_le.mp grown
    rw [max_eq_right (by omega), Int64.ofInt_sub, Int64.ofInt_toInt, Int64.ofInt_toInt]
  · rename_i fallen
    have fallen : ¬lastRaw.toInt ≤ raw.toInt := fun grown => fallen (Int64.le_iff_toInt_le.mpr grown)
    rw [max_eq_left (by omega)]
    rfl

theorem rawIncrease_zero {lastRaw : Int64} (nonnegative : 0 ≤ lastRaw) : rawIncrease 0 lastRaw = 0 := by
  rw [rawIncrease_eq]
  have nonnegative := Int64.le_iff_toInt_le.mp nonnegative
  rw [max_eq_left (by simpa using nonnegative)]
  rfl

theorem elapsedSince_eq_zero (observedAt : Int) (current : Option TrafficState) :
    decide (elapsedSince observedAt current = 0) =
      (current.bind (·.lastSeenAt)).all fun seen => decide (observedAt ≤ seen) := by
  unfold elapsedSince
  cases current.bind (·.lastSeenAt) with
  | none => rfl
  | some previous =>
      by_cases later : previous < observedAt
      · have positive := seconds_pos (sub_pos later)
        simp [later, positive.ne']
      · simp [later, Int.not_lt.mp later]

theorem isBaselineOnlyTrafficStatus_eq (state : TrafficState) :
    isBaselineOnlyTrafficStatus state = baselineOnly state.status state.message := rfl

theorem baselineOnly_ok (message : String) : baselineOnly "ok" message = true := by
  have status : normalizeTrafficStatus "ok" = "ok" := by with_unfolding_all decide
  simp [baselineOnly, isBaselineOnlyTrafficStatus, status]

/-- The stored row agrees with the key's past. -/
structure Tracks (state : TrafficState) (view : KeyView) : Prop where
  seen : state.lastSeenAt.isSome
  lastSeen : view.lastSeen = state.lastSeenAt
  lastRawUp : state.lastRawUp = (view.observations.head?.map (·.up)).getD 0
  lastRawDown : state.lastRawDown = (view.observations.head?.map (·.down)).getD 0
  nonnegativeUp : 0 ≤ state.lastRawUp
  nonnegativeDown : 0 ≤ state.lastRawDown
  missing : isMissingRawBaseline state = (view.atZero && view.blank)
  totalUp : state.totalUp = Int64.ofInt (gained (·.up) view.observations)
  totalDown : state.totalDown = Int64.ofInt (gained (·.down) view.observations)

def TracksRow (row : Option TrafficState) (view : KeyView) : Prop :=
  match row with
  | none => view = .start
  | some state => Tracks state view

namespace TracksRow

variable {row : Option TrafficState} {view : KeyView}

theorem lastSeen_eq (tracks : TracksRow row view) : view.lastSeen = row.bind (·.lastSeenAt) := by
  cases row with
  | none => rw [show view = .start from tracks]; rfl
  | some state => exact Tracks.lastSeen tracks

theorem lacksBaseline_eq (tracks : TracksRow row view) :
    lacksBaseline row = (view.atZero && view.blank) := by
  cases row with
  | none => rw [show view = .start from tracks]; rfl
  | some state => exact Tracks.missing tracks

theorem lastRaw_eq (tracks : TracksRow row view) :
    (row.getD .zero).lastRawUp = (view.observations.head?.map (·.up)).getD 0 ∧
      (row.getD .zero).lastRawDown = (view.observations.head?.map (·.down)).getD 0 := by
  cases row with
  | none => rw [show view = .start from tracks]; exact ⟨rfl, rfl⟩
  | some state => exact ⟨Tracks.lastRawUp tracks, Tracks.lastRawDown tracks⟩

theorem nonnegative (tracks : TracksRow row view) :
    0 ≤ (row.getD .zero).lastRawUp ∧ 0 ≤ (row.getD .zero).lastRawDown := by
  cases row with
  | none => exact ⟨by decide, by decide⟩
  | some state => exact ⟨Tracks.nonnegativeUp tracks, Tracks.nonnegativeDown tracks⟩

theorem total_eq (tracks : TracksRow row view) :
    (row.getD .zero).totalUp = Int64.ofInt (gained (·.up) view.observations) ∧
      (row.getD .zero).totalDown = Int64.ofInt (gained (·.down) view.observations) := by
  cases row with
  | none => rw [show view = .start from tracks]; exact ⟨rfl, rfl⟩
  | some state => exact ⟨Tracks.totalUp tracks, Tracks.totalDown tracks⟩

theorem atZero_eq (tracks : TracksRow row view) :
    view.atZero = ((row.getD .zero).lastRawUp = 0 && (row.getD .zero).lastRawDown = 0) := by
  rw [tracks.lastRaw_eq.1, tracks.lastRaw_eq.2]
  unfold KeyView.atZero
  cases view.observations <;> rfl

end TracksRow

/-- What an observation adds to the total is what the counter gained since the one before. -/
private theorem gained_observe {view : KeyView} {seenAt : Int} {raw : TrafficRawStat}
    (reading : Observation → Int64)
    (based : view.observations = [] → view.blank = true) :
    Int64.ofInt (gained reading (view.observe seenAt raw).observations) =
      Int64.ofInt (gained reading view.observations) +
        if view.atZero && view.blank then 0
        else rawIncrease (reading ⟨raw.rawUp, raw.rawDown, view.atZero && view.blank⟩)
          ((view.observations.head?.map reading).getD 0) := by
  unfold KeyView.observe
  cases past : view.observations with
  | nil =>
      have unbased : view.atZero && view.blank := by
        simp [KeyView.atZero, past, based past]
      simp [unbased, gained]
  | cons last rest =>
      simp only [gained, Int64.ofInt_add, rawIncrease_eq, List.head?_cons, Option.map_some,
        Option.getD_some]
      rw [Int64.add_comm]
      congr 1
      split <;> rfl

theorem Tracks.observe {row : Option TrafficState} {view : KeyView} {seenAt : Int}
    {raw : TrafficRawStat} (tracks : TracksRow row view) (ok : raw.status = "ok")
    (up : 0 ≤ raw.rawUp) (down : 0 ≤ raw.rawDown)
    (based : view.observations = [] → view.blank = true) :
    Tracks (observeTraffic seenAt row raw) (view.observe seenAt raw) where
  seen := rfl
  lastSeen := rfl
  lastRawUp := rfl
  lastRawDown := rfl
  nonnegativeUp := up
  nonnegativeDown := down
  missing := by
    have zeroUp := rawIncrease_zero tracks.nonnegative.1
    have zeroDown := rawIncrease_zero tracks.nonnegative.2
    have window := elapsedSince_eq_zero seenAt row
    rw [← tracks.lastSeen_eq] at window
    by_cases zero : raw.rawUp = 0 ∧ raw.rawDown = 0
    · have status : isBaselineOnlyTrafficStatus (observeTraffic seenAt row raw) = true := by
        rw [isBaselineOnlyTrafficStatus_eq, show (observeTraffic seenAt row raw).status = "ok" from ok,
          baselineOnly_ok]
      have deltas : (observeTraffic seenAt row raw).deltaUp = 0 ∧
          (observeTraffic seenAt row raw).deltaDown = 0 := by
        simp [observeTraffic, zero, zeroUp, zeroDown]
      have rates : (observeTraffic seenAt row raw).rateUp = 0 ∧
          (observeTraffic seenAt row raw).rateDown = 0 := by
        simp [observeTraffic, zero, zeroUp, zeroDown]
      simp only [isMissingRawBaseline, status, deltas, rates]
      simp [observeTraffic, KeyView.observe, KeyView.atZero, zero, window]
    · have busy : (decide (raw.rawUp = 0) && decide (raw.rawDown = 0)) = false := by
        simpa using zero
      simp only [isMissingRawBaseline, KeyView.atZero, KeyView.observe]
      rw [show (observeTraffic seenAt row raw).lastRawUp = raw.rawUp from rfl,
        show (observeTraffic seenAt row raw).lastRawDown = raw.rawDown from rfl, busy]
      simp
  totalUp := by
    rw [gained_observe _ based, ← tracks.total_eq.1, ← tracks.lastRaw_eq.1, ← tracks.lacksBaseline_eq]
    rfl
  totalDown := by
    rw [gained_observe _ based, ← tracks.total_eq.2, ← tracks.lastRaw_eq.2, ← tracks.lacksBaseline_eq]
    rfl

/-- A marker rewrites side fields only. -/
theorem Tracks.mark {row : Option TrafficState} {view : KeyView} {seenAt : Int}
    {marker : TrafficStatusMarker} (tracks : TracksRow row view) :
    Tracks (markTraffic seenAt row marker) (view.mark seenAt marker) where
  seen := rfl
  lastSeen := rfl
  lastRawUp := tracks.lastRaw_eq.1
  lastRawDown := tracks.lastRaw_eq.2
  nonnegativeUp := tracks.nonnegative.1
  nonnegativeDown := tracks.nonnegative.2
  missing := by
    have zero : (view.mark seenAt marker).atZero = view.atZero := rfl
    rw [zero, tracks.atZero_eq, isMissingRawBaseline, isBaselineOnlyTrafficStatus_eq]
    simp [markTraffic, KeyView.mark]
    rfl
  totalUp := tracks.total_eq.1
  totalDown := tracks.total_eq.2

theorem TracksRow.markAll {row : Option TrafficState} {view : KeyView} {seenAt : Int}
    (tracks : TracksRow row view) (markers : List TrafficStatusMarker) :
    TracksRow (markers.foldl (fun row marker => some (markTraffic seenAt row marker)) row)
      (markers.foldl (fun view marker => view.mark seenAt marker) view) := by
  induction markers generalizing row view with
  | nil => exact tracks
  | cons marker rest ih =>
      have marked : TracksRow (some (markTraffic seenAt row marker)) (view.mark seenAt marker) :=
        Tracks.mark tracks
      exact ih marked

/-- One admissible operation keeps the row and the view in step. -/
theorem TracksRow.run {key : TrafficKey} {store : Store} {view : KeyView} {op : LedgerOp}
    (tracks : TracksRow (store.trafficStates.find? key) view) (admissible : op.Admissible key store view) :
    TracksRow ((op.run store).trafficStates.find? key) (view.after key op) := by
  cases op with
  | applyRawStats now stats observedAt =>
      obtain ⟨once, spared, sound⟩ := admissible
      rw [LedgerOp.run, applyTrafficRawStats_find? once spared, KeyView.after]
      unfold readingsOf at once sound ⊢
      cases readings : (normalizeTrafficRawStats stats).filter fun raw => raw.key = key with
      | nil => exact tracks
      | cons raw rest =>
          rw [readings] at once sound
          have single : rest = [] := List.eq_nil_of_length_eq_zero (by simpa using once)
          subst single
          obtain ⟨ok, up, down, based⟩ := sound raw List.mem_cons_self
          exact Tracks.observe tracks ok up down based
  | markScopeStatus now markers observedAt =>
      rw [LedgerOp.run, markTrafficScopeStatus_find?]
      exact tracks.markAll _
  | markUnavailable now engine status message observedAt =>
      rw [LedgerOp.run, markTrafficUnavailable_find?, KeyView.after]
      cases stored : store.trafficStates.find? key with
      | none =>
          rw [stored] at tracks
          rw [show view = .start from tracks]
          simp [KeyView.start, TracksRow]
      | some state =>
          rw [stored] at tracks
          have seen : view.lastSeen.isSome := by
            rw [Tracks.lastSeen tracks]
            exact Tracks.seen tracks
          cases concerns engine key with
          | true =>
              simp only [seen, Bool.and_self, if_true, Option.map_some]
              exact Tracks.mark tracks
          | false => exact tracks

theorem TracksRow.runLedger {key : TrafficKey} {store : Store} {view : KeyView} {ops : List LedgerOp}
    (tracks : TracksRow (store.trafficStates.find? key) view) (admissible : AdmissibleRun key store view ops) :
    TracksRow ((runLedger ops store).trafficStates.find? key)
      (ops.foldl (fun view op => view.after key op) view) := by
  induction ops generalizing store view with
  | nil => exact tracks
  | cons op rest ih => exact ih (tracks.run admissible.1) admissible.2

/-- The totals of a key after any run from a store that does not know it: what each counter
gained over consecutive observations, the first one and one that finds no baseline only
setting it. -/
theorem ledger_total {key : TrafficKey} {store : Store} {ops : List LedgerOp}
    (fresh : store.trafficStates.find? key = none) (admissible : AdmissibleRun key store .start ops) :
    let row := ((runLedger ops store).trafficStates.find? key).getD .zero
    row.totalUp = Int64.ofInt (gained (·.up) (viewOf key ops).observations) ∧
      row.totalDown = Int64.ofInt (gained (·.down) (viewOf key ops).observations) := by
  have start : TracksRow (store.trafficStates.find? key) .start := by
    rw [fresh]
    rfl
  exact (start.runLedger admissible).total_eq

/-! ### A reading of zero that is forgotten -/

/-- What the counter gained over consecutive observations, every one but the first counted. -/
def gainedInAll (reading : Observation → Int64) : List Observation → Int
  | later :: earlier :: rest =>
      max 0 ((reading later).toInt - (reading earlier).toInt) + gainedInAll reading (earlier :: rest)
  | _ => 0

def exampleKey : TrafficKey := ⟨"xray", "client", "c_1"⟩

def exampleReading (up down : Int64) (observedAt : Int) : LedgerOp :=
  .applyRawStats 0 [⟨"xray", "client", "c_1", up, down, "ok", ""⟩] observedAt

/-- A client whose first reading is all zero and whose second is 100 up and 50 down has
gained 100 and 50, yet its totals stay at zero. -/
theorem zero_reading_forgotten :
    let ops := [exampleReading 0 0 1000000000, exampleReading 100 50 2000000000]
    let row := ((runLedger ops .empty).trafficStates.find? exampleKey).getD .zero
    AdmissibleRun exampleKey .empty .start ops ∧
      row.totalUp = 0 ∧ gainedInAll (·.up) (viewOf exampleKey ops).observations = 100 ∧
      row.totalDown = 0 ∧ gainedInAll (·.down) (viewOf exampleKey ops).observations = 50 := by
  with_unfolding_all decide

/-- Once the row has a window the same increase is counted. -/
theorem ledger_total_after_zero :
    let ops := [exampleReading 0 0 1000000000, exampleReading 0 0 2000000000,
      exampleReading 100 50 3000000000]
    let row := ((runLedger ops .empty).trafficStates.find? exampleKey).getD .zero
    row.totalUp = Int64.ofInt (gained (·.up) (viewOf exampleKey ops).observations) ∧
      row.totalDown = Int64.ofInt (gained (·.down) (viewOf exampleKey ops).observations) :=
  ledger_total (by decide) (by with_unfolding_all decide)

end MiGate.Traffic
