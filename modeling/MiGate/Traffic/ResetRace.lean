import MiGate.Traffic.Ledger
import MiGate.Transition.Reach

namespace MiGate.Traffic

open Db Go Relational Transition

/-! The traffic reset of one client racing with the scheduler's syncs.  Asking the cores for
their counters and committing what they answered are separate steps of each party; a sync
holds `syncMu` from its question to its commit, so one is in flight at a time. -/

/-- A counter as a core reports it. -/
structure Stat where
  engine : String
  scopeType : String
  scopeKey : String
  uplink : Int64
  downlink : Int64
deriving DecidableEq, Repr

def rawStat (status : String) (stat : Stat) : TrafficRawStat where
  engine := stat.engine
  scopeType := stat.scopeType
  scopeKey := stat.scopeKey
  rawUp := stat.uplink
  rawDown := stat.downlink
  status := status
  message := ""

/-- The readings a sync hands to `ApplyTrafficRawStats`. -/
def convertRawStats (stats : List Stat) : List TrafficRawStat :=
  stats.map (rawStat "ok")

/-- The readings the reset handler hands to `ResetClientTrafficBaseline`. -/
def collectTrafficBaselines (stats : List Stat) : List TrafficRawStat :=
  stats.map (rawStat "waiting")

/-- What a core answered, and when it was asked. -/
structure Answer where
  stats : List Stat
  askedAt : Nat

structure SyncInFlight extends Answer where
  observedAt : Int

/-- History: the baseline of the last reset that committed, when it was asked for, and the
client's readings applied since, newest first. -/
structure SinceReset where
  base : Int64 × Int64
  askedAt : Nat
  applied : List (Int64 × Int64)
deriving DecidableEq

/-- `up` and `down` are the client's counters at its core. -/
structure RaceState where
  store : Store
  up : Int64
  down : Int64
  clock : Nat
  sync : Option SyncInFlight
  resets : List Answer
  since : Option SinceReset

inductive RaceAction where
  | coreCounts (up down : Int64)
  | syncAsks (stats : List Stat) (observedAt : Int)
  | syncMarks (now : Int) (markers : List TrafficStatusMarker)
  | syncCommits (now : Int)
  | resetAsks (stats : List Stat)
  | resetCommits (index : Nat) (now : Int)

def statKey (stat : Stat) : TrafficKey :=
  ⟨stat.engine, normalizeTrafficToken stat.scopeType, trimSpace stat.scopeKey⟩

/-- An answer of the cores when the client's counters stand at `up` and `down`: it names the
client at most once and then with these values, or not at all. -/
def Reports (key : TrafficKey) (up down : Int64) (stats : List Stat) : Prop :=
  (∀ stat ∈ stats, stat.engine = "xray" ∨ stat.engine = "singbox") ∧
    (∀ stat ∈ stats, statKey stat = key → stat.uplink = up ∧ stat.downlink = down) ∧
    (stats.filter fun stat => statKey stat = key).length ≤ 1

instance (key : TrafficKey) (up down : Int64) (stats : List Stat) :
    Decidable (Reports key up down stats) := by
  unfold Reports
  infer_instance

/-- The client's reading in an answer. -/
def readingIn (key : TrafficKey) (stats : List Stat) : Option (Int64 × Int64) :=
  (stats.find? fun stat => statKey stat = key).map fun stat => (stat.uplink, stat.downlink)

def SinceReset.apply (since : SinceReset) (reading : Option (Int64 × Int64)) : SinceReset :=
  { since with applied := reading.toList ++ since.applied }

def raceStep (clientID : Int) (key : TrafficKey) (action : RaceAction) (state : RaceState) :
    Option RaceState :=
  match action with
  | .coreCounts up down =>
      if state.up ≤ up ∧ state.down ≤ down then some { state with up := up, down := down } else none
  | .syncAsks stats observedAt =>
      if state.sync.isNone ∧ Reports key state.up state.down stats then
        some { state with
          clock := state.clock + 1
          sync := some { stats := stats, askedAt := state.clock, observedAt := observedAt } }
      else none
  | .syncMarks now markers =>
      state.sync.map fun sync =>
        { state with store := markTrafficScopeStatus now markers sync.observedAt state.store }
  | .syncCommits now =>
      state.sync.map fun sync =>
        { state with
          store := applyTrafficRawStats now (convertRawStats sync.stats) sync.observedAt state.store
          sync := none
          since := state.since.map fun since => since.apply (readingIn key sync.stats) }
  | .resetAsks stats =>
      if Reports key state.up state.down stats then
        some { state with
          clock := state.clock + 1
          resets := { stats := stats, askedAt := state.clock } :: state.resets }
      else none
  | .resetCommits index now =>
      match state.resets[index]? with
      | none => none
      | some answer =>
          match resetClientTrafficBaseline now clientID (collectTrafficBaselines answer.stats) state.store with
          | .error _ => none
          | .ok (store, _) =>
              some { state with
                store := store
                resets := state.resets.eraseIdx index
                since := some
                  { base := (readingIn key answer.stats).getD (0, 0)
                    askedAt := answer.askedAt
                    applied := [] } }

/-- The last reading of the client the store knows of. -/
def SinceReset.last (since : SinceReset) : Int64 × Int64 :=
  since.applied.head?.getD since.base

def Below (lower upper : Int64 × Int64) : Prop :=
  lower.1.toInt ≤ upper.1.toInt ∧ lower.2.toInt ≤ upper.2.toInt

theorem Below.refl (reading : Int64 × Int64) : Below reading reading :=
  ⟨Int.le_refl _, Int.le_refl _⟩

theorem Below.trans {first second third : Int64 × Int64} (lower : Below first second)
    (upper : Below second third) : Below first third :=
  ⟨Int.le_trans lower.1 upper.1, Int.le_trans lower.2 upper.2⟩

/-- The key under which the client's core counts, in a store that has the client. -/
structure Tracked (clientID : Int) (key : TrafficKey) (store : Store) : Prop where
  engine : clientExpectedTrafficEngineByID store clientID = some key.engine
  scopeType : key.scopeType = "client"
  statsKey : (store.clients.find? clientID).map (·.statsKey) = some key.scopeKey
  trimmed : trimSpace key.scopeKey = key.scopeKey
  nonempty : key.scopeKey ≠ ""

theorem Tracked.of_frame {clientID : Int} {key : TrafficKey} {before after : Store}
    (tracked : Tracked clientID key before) (frame : SameButTraffic before after) :
    Tracked clientID key after where
  engine := by
    rw [← tracked.engine, clientExpectedTrafficEngineByID, clientExpectedTrafficEngineByID,
      frame.clients, frame.inbounds]
  scopeType := tracked.scopeType
  statsKey := by rw [frame.clients, tracked.statsKey]
  trimmed := tracked.trimmed
  nonempty := tracked.nonempty

theorem Tracked.engine_cases {clientID : Int} {key : TrafficKey} {store : Store}
    (tracked : Tracked clientID key store) : key.engine = "xray" ∨ key.engine = "singbox" := by
  have expected := tracked.engine
  simp only [clientExpectedTrafficEngineByID, Option.bind_eq_bind, Option.bind_eq_some_iff,
    Option.pure_def, Option.some.injEq] at expected
  obtain ⟨client, _, inbound, _, named⟩ := expected
  rw [← named, expectedTrafficEngineForProtocol]
  split
  · exact .inr rfl
  · exact .inl rfl

/-! ### What an answer says about the client -/

private theorem coreEngine_normal {engine : String} (core : engine = "xray" ∨ engine = "singbox") :
    normalizeTrafficEngine engine = engine ∧ normalizeTrafficToken engine = engine ∧ engine ≠ "" := by
  rcases core with rfl | rfl <;> decide +kernel

/-- The reading of one stat of the client, as `normalizeTrafficRawStats` leaves it. -/
def clientReading (key : TrafficKey) (stat : Stat) : TrafficRawStat :=
  { engine := key.engine, scopeType := key.scopeType, scopeKey := key.scopeKey
    rawUp := stat.uplink, rawDown := stat.downlink, status := "ok", message := "" }

theorem readingsOf_convertRawStats {clientID : Int} {key : TrafficKey} {store : Store} {stats : List Stat}
    (tracked : Tracked clientID key store)
    (engines : ∀ stat ∈ stats, stat.engine = "xray" ∨ stat.engine = "singbox") :
    readingsOf key (convertRawStats stats) =
      (stats.filter fun stat => statKey stat = key).map (clientReading key) := by
  induction stats with
  | nil => rfl
  | cons stat rest ih =>
      have tail := ih fun stat member => engines stat (List.mem_cons_of_mem _ member)
      obtain ⟨normal, _, named⟩ := coreEngine_normal (engines stat List.mem_cons_self)
      have text : trimSpace "ok" = "ok" ∧ trimSpace "" = "" :=
        ⟨Spaceless.trimSpace (by decide), trimSpace_empty⟩
      unfold readingsOf convertRawStats normalizeTrafficRawStats at tail ⊢
      rw [List.map_cons, List.filterMap_cons, normalizeTrafficRawStat]
      simp only [rawStat, normal, text.1, text.2, named]
      by_cases same : statKey stat = key
      · subst same
        have kept := tracked.nonempty
        have scope := tracked.scopeType
        simp only [statKey] at kept scope
        simp [statKey, scope, kept, TrafficRawStat.key, clientReading] at tail ⊢
        exact tail
      · rw [List.filter_cons_of_neg (by simpa using same)]
        split
        · simpa using tail
        · rename_i raw normalized
          split at normalized
          · cases normalized
          · cases normalized
            have other : ¬(⟨stat.engine, normalizeTrafficToken stat.scopeType,
                trimSpace stat.scopeKey⟩ : TrafficKey) = key := same
            simpa [TrafficRawStat.key, other] using tail

private theorem filter_eq_find? {α : Type} {keep : α → Bool} {items : List α}
    (once : (items.filter keep).length ≤ 1) : items.filter keep = (items.find? keep).toList := by
  induction items with
  | nil => rfl
  | cons item rest ih =>
      cases kept : keep item with
      | true =>
          rw [List.filter_cons_of_pos kept] at once ⊢
          have none : rest.filter keep = [] := List.eq_nil_of_length_eq_zero (by simpa using once)
          simp [none, kept]
      | false =>
          rw [List.filter_cons_of_neg (by simp [kept])] at once ⊢
          simpa [kept] using ih once

/-- A sync hands the store the client's one reading, or none. -/
theorem readingsOf_answer {clientID : Int} {key : TrafficKey} {store : Store} {stats : List Stat}
    {up down : Int64} (tracked : Tracked clientID key store) (reports : Reports key up down stats) :
    readingsOf key (convertRawStats stats) =
      ((readingIn key stats).map fun reading =>
        clientReading key ⟨key.engine, "client", key.scopeKey, reading.1, reading.2⟩).toList := by
  rw [readingsOf_convertRawStats tracked reports.1, filter_eq_find? reports.2.2, readingIn]
  generalize stats.find? (fun stat => decide (statKey stat = key)) = found
  cases found with
  | none => simp
  | some stat => simp [clientReading]

private theorem isBaselineFor_eq {clientID : Int} {key : TrafficKey} {store : Store} {stat : Stat}
    (tracked : Tracked clientID key store) (engine : stat.engine = "xray" ∨ stat.engine = "singbox")
    (status : String) :
    isBaselineFor key.scopeKey key.engine (rawStat status stat) = decide (statKey stat = key) := by
  obtain ⟨_, token, _⟩ := coreEngine_normal engine
  have scope := tracked.scopeType
  obtain ⟨keyEngine, keyScope, keyName⟩ := key
  simp only at scope
  subst scope
  rw [Bool.eq_iff_iff]
  simp only [isBaselineFor, Bool.and_eq_true, decide_eq_true_eq]
  simp only [rawStat, token, statKey, TrafficKey.mk.injEq]
  constructor
  · rintro ⟨⟨scope, name⟩, engine⟩
    exact ⟨engine, scope, name⟩
  · rintro ⟨engine, scope, name⟩
    exact ⟨⟨scope, name⟩, engine⟩

/-- The reset finds the client's reading in the same answer, or no baseline. -/
theorem baselineByEngine_answer {clientID : Int} {key : TrafficKey} {store : Store} {stats : List Stat}
    {up down : Int64} (tracked : Tracked clientID key store) (reports : Reports key up down stats) :
    (baselineByEngine (collectTrafficBaselines stats) key.scopeKey key.engine).map
        (fun raw => (raw.rawUp, raw.rawDown)) = readingIn key stats := by
  have listed : (collectTrafficBaselines stats).filter (isBaselineFor key.scopeKey key.engine) =
      collectTrafficBaselines (stats.filter fun stat => statKey stat = key) := by
    unfold collectTrafficBaselines
    rw [List.filter_map]
    congr 1
    refine List.filter_congr fun stat member => ?_
    rw [Function.comp_apply, isBaselineFor_eq tracked (reports.1 stat member)]
  rw [baselineByEngine, listed, filter_eq_find? reports.2.2, readingIn]
  generalize stats.find? (fun stat => decide (statKey stat = key)) = found
  cases found with
  | none => simp [collectTrafficBaselines]
  | some stat => simp [collectTrafficBaselines, rawStat]

theorem readingIn_eq {key : TrafficKey} {up down : Int64} {stats : List Stat} {reading : Int64 × Int64}
    (reports : Reports key up down stats) (reported : readingIn key stats = some reading) :
    reading = (up, down) := by
  unfold readingIn at reported
  cases found : stats.find? fun stat => statKey stat = key with
  | none =>
      rw [found] at reported
      cases reported
  | some stat =>
      have named : statKey stat = key := by simpa using List.find?_some found
      have values := reports.2.1 stat (List.mem_of_find?_eq_some found) named
      rw [found] at reported
      rw [← Option.some.inj reported]
      simp only [values.1, values.2]

/-! ### The client's row since the last reset -/

/-- The row of a client whose counters were applied `since` the reset: it holds the last
reading, and totals that count from the baseline.  A baseline of zero counts as none, so
counting then starts at the first reading. -/
structure Accounted (row : TrafficState) (since : SinceReset) : Prop where
  lastRaw : (row.lastRawUp, row.lastRawDown) = since.last
  nonnegative : 0 ≤ row.totalUp.toInt ∧ 0 ≤ row.totalDown.toInt
  bounded : row.totalUp.toInt ≤ since.last.1.toInt - since.base.1.toInt ∧
    row.totalDown.toInt ≤ since.last.2.toInt - since.base.2.toInt
  exact : since.base ≠ (0, 0) →
    row.totalUp.toInt = since.last.1.toInt - since.base.1.toInt ∧
      row.totalDown.toInt = since.last.2.toInt - since.base.2.toInt
  unseen : since.base = (0, 0) → since.applied = [] → isMissingRawBaseline row = true
  fromFirst : since.base = (0, 0) → ∀ first, since.applied.getLast? = some first → first ≠ (0, 0) →
    row.totalUp.toInt = since.last.1.toInt - first.1.toInt ∧
      row.totalDown.toInt = since.last.2.toInt - first.2.toInt

/-- Counters that did not fall add their growth, within 64 bits. -/
theorem toInt_add_rawIncrease {total lastRaw raw : Int64} (nonnegative : 0 ≤ total.toInt)
    (bounded : total.toInt ≤ lastRaw.toInt) (grown : lastRaw.toInt ≤ raw.toInt) :
    (total + rawIncrease raw lastRaw).toInt = total.toInt + (raw.toInt - lastRaw.toInt) := by
  have upper := raw.toInt_lt
  rw [rawIncrease_eq, max_eq_right (by omega), Int64.toInt_add,
    Int64.toInt_ofInt_of_le (by omega) (by omega), Int.bmod_eq_of_le (by omega) (by omega)]

/-- The readings applied since a reset do not fall. -/
structure SinceReset.Ascending (since : SinceReset) : Prop where
  base : Below (0, 0) since.base
  above : ∀ reading ∈ since.applied, Below since.base reading ∧ Below reading since.last

theorem SinceReset.Ascending.base_last {since : SinceReset} (ascending : since.Ascending) :
    Below since.base since.last := by
  cases applied : since.applied with
  | nil =>
      rw [SinceReset.last, applied]
      exact .refl _
  | cons newest rest =>
      have above := ascending.above newest (by simp [applied])
      exact above.1.trans above.2

theorem SinceReset.Ascending.apply {since : SinceReset} {reading : Int64 × Int64}
    (ascending : since.Ascending) (grown : Below since.last reading) :
    (since.apply (some reading)).Ascending where
  base := ascending.base
  above := by
    intro other member
    rcases List.mem_cons.mp member with rfl | older
    · exact ⟨ascending.base_last.trans grown, .refl _⟩
    · exact ⟨(ascending.above other older).1, (ascending.above other older).2.trans grown⟩

theorem lastRaw_of_missing {row : TrafficState} (missing : isMissingRawBaseline row = true) :
    row.lastRawUp = 0 ∧ row.lastRawDown = 0 := by
  simp only [isMissingRawBaseline, Bool.and_eq_true, decide_eq_true_eq] at missing
  tauto

/-- A row whose last reading is not all zero has a baseline. -/
private theorem based_of_nonzero {row : TrafficState} {since : SinceReset} {reading : Int64 × Int64}
    (accounted : Accounted row since) (nonnegative : Below (0, 0) reading)
    (below : Below reading since.last) (nonzero : reading ≠ (0, 0)) : isMissingRawBaseline row = false := by
  rw [Bool.eq_false_iff]
  intro missing
  have zero := lastRaw_of_missing missing
  have last := accounted.lastRaw
  rw [zero.1, zero.2] at last
  rw [← last] at below
  apply nonzero
  have up : reading.1.toInt = 0 := Int.le_antisymm below.1 nonnegative.1
  have down : reading.2.toInt = 0 := Int.le_antisymm below.2 nonnegative.2
  exact Prod.ext (Int64.toInt_inj.mp up) (Int64.toInt_inj.mp down)

section Observe

variable {row : TrafficState} {since : SinceReset} {seenAt : Int} {raw : TrafficRawStat}

@[simp] theorem SinceReset.apply_last (reading : Int64 × Int64) :
    (since.apply (some reading)).last = reading := rfl

@[simp] theorem SinceReset.apply_base (reading : Option (Int64 × Int64)) :
    (since.apply reading).base = since.base := rfl

/-- The oldest reading applied since the reset is the new one, or stays. -/
private theorem oldest_apply {reading first : Int64 × Int64}
    (oldest : (since.apply (some reading)).applied.getLast? = some first) :
    since.applied = [] ∧ first = reading ∨ since.applied.getLast? = some first := by
  rw [SinceReset.apply, Option.toList_some, List.singleton_append] at oldest
  cases applied : since.applied with
  | nil =>
      rw [applied, List.getLast?_singleton] at oldest
      exact .inl ⟨rfl, (Option.some.inj oldest).symm⟩
  | cons newest rest =>
      rw [applied, List.getLast?_cons_cons] at oldest
      exact .inr oldest

/-- A reading that finds no baseline leaves the totals, which are then zero. -/
private theorem Accounted.observe_missing (accounted : Accounted row since)
    (ascending : since.Ascending) (grown : Below since.last (raw.rawUp, raw.rawDown))
    (missing : isMissingRawBaseline row = true) :
    Accounted (observeTraffic seenAt (some row) raw) (since.apply (some (raw.rawUp, raw.rawDown))) := by
  have totalUp : (observeTraffic seenAt (some row) raw).totalUp = row.totalUp := by
    simp [observeTraffic, lacksBaseline, missing]
  have totalDown : (observeTraffic seenAt (some row) raw).totalDown = row.totalDown := by
    simp [observeTraffic, lacksBaseline, missing]
  have zero := lastRaw_of_missing missing
  have zeroLast : since.last = (0, 0) := by
    rw [← accounted.lastRaw, zero.1, zero.2]
  have base := ascending.base
  have last := ascending.base_last
  have nonnegative := accounted.nonnegative
  have bounded := accounted.bounded
  rw [zeroLast] at last bounded grown
  simp only [Below, Int64.toInt_zero] at base last grown bounded
  refine ⟨rfl, by rwa [totalUp, totalDown], ?_, ?_, ?_, ?_⟩
  · simp only [SinceReset.apply_last, SinceReset.apply_base, totalUp, totalDown]
    omega
  · intro nonzero
    have based := based_of_nonzero accounted ascending.base ascending.base_last nonzero
    simp [missing] at based
  · intro _ empty
    simp [SinceReset.apply] at empty
  · intro zeroBase first oldest nonzero
    rcases oldest_apply oldest with ⟨_, rfl⟩ | older
    · simp only [SinceReset.apply_last, totalUp, totalDown]
      omega
    · have above := ascending.above first (List.mem_of_getLast? older)
      have based := based_of_nonzero accounted (ascending.base.trans above.1) above.2 nonzero
      simp [missing] at based

/-- A reading that finds its baseline adds what the counters grew by. -/
private theorem Accounted.observe_based (accounted : Accounted row since)
    (ascending : since.Ascending) (grown : Below since.last (raw.rawUp, raw.rawDown))
    (based : isMissingRawBaseline row = false) :
    Accounted (observeTraffic seenAt (some row) raw) (since.apply (some (raw.rawUp, raw.rawDown))) := by
  have base := ascending.base
  have last := ascending.base_last
  have nonnegative := accounted.nonnegative
  have bounded := accounted.bounded
  simp only [Below, Int64.toInt_zero] at base last grown
  have totalUp : (observeTraffic seenAt (some row) raw).totalUp.toInt =
      row.totalUp.toInt + (raw.rawUp.toInt - since.last.1.toInt) := by
    have known : row.lastRawUp = since.last.1 := congrArg Prod.fst accounted.lastRaw
    have sum : (observeTraffic seenAt (some row) raw).totalUp =
        row.totalUp + rawIncrease raw.rawUp since.last.1 := by
      simp [observeTraffic, lacksBaseline, based, known]
    rw [sum]
    exact toInt_add_rawIncrease nonnegative.1 (by omega) grown.1
  have totalDown : (observeTraffic seenAt (some row) raw).totalDown.toInt =
      row.totalDown.toInt + (raw.rawDown.toInt - since.last.2.toInt) := by
    have known : row.lastRawDown = since.last.2 := congrArg Prod.snd accounted.lastRaw
    have sum : (observeTraffic seenAt (some row) raw).totalDown =
        row.totalDown + rawIncrease raw.rawDown since.last.2 := by
      simp [observeTraffic, lacksBaseline, based, known]
    rw [sum]
    exact toInt_add_rawIncrease nonnegative.2 (by omega) grown.2
  refine ⟨rfl, by omega, ?_, ?_, ?_, ?_⟩
  · simp only [SinceReset.apply_last, SinceReset.apply_base]
    omega
  · intro nonzero
    have exact := accounted.exact nonzero
    simp only [SinceReset.apply_last, SinceReset.apply_base]
    omega
  · intro _ empty
    simp [SinceReset.apply] at empty
  · intro zeroBase first oldest nonzero
    rcases oldest_apply oldest with ⟨none, _⟩ | older
    · have unseen := accounted.unseen zeroBase none
      simp [based] at unseen
    · have counted := accounted.fromFirst zeroBase first older nonzero
      simp only [SinceReset.apply_last]
      omega

theorem Accounted.observe (accounted : Accounted row since) (ascending : since.Ascending)
    (grown : Below since.last (raw.rawUp, raw.rawDown)) :
    Accounted (observeTraffic seenAt (some row) raw) (since.apply (some (raw.rawUp, raw.rawDown))) := by
  cases missing : isMissingRawBaseline row with
  | true => exact accounted.observe_missing ascending grown missing
  | false => exact accounted.observe_based ascending grown missing

end Observe

/-- A marker of a sync that could ask its core leaves the account alone. -/
theorem Accounted.mark {row : TrafficState} {since : SinceReset} {seenAt : Int}
    {marker : TrafficStatusMarker} (accounted : Accounted row since)
    (quiet : baselineOnly marker.status marker.message = true) :
    Accounted (markTraffic seenAt (some row) marker) since where
  lastRaw := accounted.lastRaw
  nonnegative := accounted.nonnegative
  bounded := accounted.bounded
  exact := accounted.exact
  unseen := by
    intro zero none
    have known := lastRaw_of_missing (accounted.unseen zero none)
    rw [isMissingRawBaseline, isBaselineOnlyTrafficStatus_eq]
    simp [markTraffic, known, quiet]
  fromFirst := accounted.fromFirst

/-! ### Every interleaving -/

/-- What is left out of an interleaving: a sync that asked before the last committed reset
did and commits after it, a batch that reconciles the client, and markers other than those
of a sync whose core could be asked. -/
def orderly (key : TrafficKey) (action : RaceAction) (state : RaceState) : Bool :=
  match action with
  | .syncCommits now => state.sync.all fun sync =>
      state.since.all (fun since => since.askedAt ≤ sync.askedAt) &&
        !reconciles now (convertRawStats sync.stats) sync.observedAt state.store key
  | .syncMarks _ markers => (markersOf key markers).all fun marker =>
      baselineOnly marker.status marker.message
  | _ => true

/-- An answer in flight was given before now, by counters that have not fallen since. -/
def Sound (key : TrafficKey) (state : RaceState) (answer : Answer) : Prop :=
  answer.askedAt < state.clock ∧
    ∃ up down, Reports key up down answer.stats ∧ Below (0, 0) (up, down) ∧
      Below (up, down) (state.up, state.down)

structure SinceInv (key : TrafficKey) (state : RaceState) (since : SinceReset) : Prop where
  ascending : since.Ascending
  below : Below since.last (state.up, state.down)
  pending : ∀ sync, state.sync = some sync → since.askedAt ≤ sync.askedAt →
    ∀ reading, readingIn key sync.stats = some reading → Below since.last reading
  accounted : ∃ row, state.store.trafficStates.find? key = some row ∧ Accounted row since

structure RaceInv (clientID : Int) (key : TrafficKey) (state : RaceState) : Prop where
  tracked : Tracked clientID key state.store
  nonnegative : Below (0, 0) (state.up, state.down)
  syncSound : ∀ sync, state.sync = some sync → Sound key state sync.toAnswer
  resetsSound : ∀ answer ∈ state.resets, Sound key state answer
  ordered : ∀ sync, state.sync = some sync → ∀ answer ∈ state.resets, answer.askedAt ≤ sync.askedAt →
    ∀ reading, readingIn key sync.stats = some reading →
      Below ((readingIn key answer.stats).getD (0, 0)) reading
  since : ∀ since, state.since = some since → SinceInv key state since

section Steps

variable {clientID : Int} {key : TrafficKey} {state : RaceState}

theorem Sound.reading {answer : Answer} (sound : Sound key state answer) {reading : Int64 × Int64}
    (reported : readingIn key answer.stats = some reading) :
    Below (0, 0) reading ∧ Below reading (state.up, state.down) := by
  obtain ⟨_, up, down, reports, nonnegative, below⟩ := sound
  rw [readingIn_eq reports reported]
  exact ⟨nonnegative, below⟩

/-- The baseline of a reset, zero when its answer does not name the client. -/
theorem Sound.base {answer : Answer} (sound : Sound key state answer)
    (nonnegative : Below (0, 0) (state.up, state.down)) :
    Below (0, 0) ((readingIn key answer.stats).getD (0, 0)) ∧
      Below ((readingIn key answer.stats).getD (0, 0)) (state.up, state.down) := by
  cases reported : readingIn key answer.stats with
  | none => exact ⟨.refl _, nonnegative⟩
  | some reading => exact sound.reading reported

theorem RaceInv.coreCounts (inv : RaceInv clientID key state) {up down : Int64}
    (grown : state.up ≤ up ∧ state.down ≤ down) :
    RaceInv clientID key { state with up := up, down := down } := by
  have above : Below (state.up, state.down) (up, down) :=
    ⟨Int64.le_iff_toInt_le.mp grown.1, Int64.le_iff_toInt_le.mp grown.2⟩
  have kept : ∀ answer, Sound key state answer → Sound key { state with up := up, down := down } answer := by
    rintro answer ⟨asked, oldUp, oldDown, reports, nonnegative, below⟩
    exact ⟨asked, oldUp, oldDown, reports, nonnegative, below.trans above⟩
  refine ⟨inv.tracked, inv.nonnegative.trans above, fun sync found => kept _ (inv.syncSound sync found),
    fun answer member => kept _ (inv.resetsSound answer member), inv.ordered, ?_⟩
  intro since found
  have old := inv.since since found
  exact ⟨old.ascending, old.below.trans above, old.pending, old.accounted⟩

private theorem Sound.later {answer : Answer} {after : RaceState} (sound : Sound key state answer)
    (clock : state.clock ≤ after.clock) (up : after.up = state.up) (down : after.down = state.down) :
    Sound key after answer := by
  obtain ⟨asked, oldUp, oldDown, reports, nonnegative, below⟩ := sound
  refine ⟨Nat.lt_of_lt_of_le asked clock, oldUp, oldDown, reports, nonnegative, ?_⟩
  rw [up, down]
  exact below

theorem RaceInv.syncAsks (inv : RaceInv clientID key state) {stats : List Stat} {observedAt : Int}
    (reports : Reports key state.up state.down stats) :
    RaceInv clientID key { state with
      clock := state.clock + 1
      sync := some { stats := stats, askedAt := state.clock, observedAt := observedAt } } := by
  refine ⟨inv.tracked, inv.nonnegative, ?_, ?_, ?_, ?_⟩
  · rintro sync ⟨⟩
    exact ⟨Nat.lt_succ_self _, state.up, state.down, reports, inv.nonnegative, .refl _⟩
  · intro answer member
    exact (inv.resetsSound answer member).later (Nat.le_succ _) rfl rfl
  · rintro sync ⟨⟩ answer member _ reading reported
    rw [readingIn_eq reports reported]
    exact ((inv.resetsSound answer member).base inv.nonnegative).2
  · intro since found
    have old := inv.since since found
    refine ⟨old.ascending, old.below, ?_, old.accounted⟩
    rintro sync ⟨⟩ _ reading reported
    rw [readingIn_eq reports reported]
    exact old.below

theorem RaceInv.resetAsks (inv : RaceInv clientID key state) {stats : List Stat}
    (reports : Reports key state.up state.down stats) :
    RaceInv clientID key { state with
      clock := state.clock + 1
      resets := { stats := stats, askedAt := state.clock } :: state.resets } := by
  refine ⟨inv.tracked, inv.nonnegative, ?_, ?_, ?_, ?_⟩
  · intro sync found
    exact (inv.syncSound sync found).later (Nat.le_succ _) rfl rfl
  · intro answer member
    rcases List.mem_cons.mp member with rfl | older
    · exact ⟨Nat.lt_succ_self _, state.up, state.down, reports, inv.nonnegative, .refl _⟩
    · exact (inv.resetsSound answer older).later (Nat.le_succ _) rfl rfl
  · intro sync found answer member asked
    rcases List.mem_cons.mp member with rfl | older
    · -- the sync in flight asked before this reset did
      have before := (inv.syncSound sync found).1
      simp only at asked
      omega
    · exact inv.ordered sync found answer older asked
  · intro since found
    have old := inv.since since found
    exact ⟨old.ascending, old.below, old.pending, old.accounted⟩

/-- What a step must keep when it changes the store alone. -/
theorem RaceInv.of_store (inv : RaceInv clientID key state) {store : Store}
    (frame : SameButTraffic state.store store)
    (kept : ∀ since row, state.since = some since → state.store.trafficStates.find? key = some row →
      Accounted row since → ∃ row, store.trafficStates.find? key = some row ∧ Accounted row since) :
    RaceInv clientID key { state with store := store } := by
  refine ⟨inv.tracked.of_frame frame, inv.nonnegative, inv.syncSound, inv.resetsSound, inv.ordered, ?_⟩
  intro since found
  have old := inv.since since found
  obtain ⟨row, stored, accounted⟩ := old.accounted
  exact ⟨old.ascending, old.below, old.pending, kept since row found stored accounted⟩

theorem RaceInv.syncMarks (inv : RaceInv clientID key state) {now observedAt : Int}
    {markers : List TrafficStatusMarker}
    (quiet : ∀ marker ∈ markersOf key markers, baselineOnly marker.status marker.message = true) :
    RaceInv clientID key
      { state with store := markTrafficScopeStatus now markers observedAt state.store } := by
  refine inv.of_store (markTrafficScopeStatus_frame ..) ?_
  intro since row _ stored accounted
  rw [markTrafficScopeStatus_find?, stored]
  unfold markersOf at quiet
  generalize (normalizeTrafficStatusMarkers markers).filter (fun marker => marker.key = key) = marks at quiet
  clear stored
  induction marks generalizing row with
  | nil => exact ⟨row, rfl, accounted⟩
  | cons marker rest ih =>
      exact ih _ (accounted.mark (quiet marker List.mem_cons_self))
        fun marker member => quiet marker (List.mem_cons_of_mem _ member)

theorem RaceInv.syncCommits (inv : RaceInv clientID key state) {now : Int} {sync : SyncInFlight}
    (inFlight : state.sync = some sync)
    (asked : ∀ since, state.since = some since → since.askedAt ≤ sync.askedAt)
    (spared : reconciles now (convertRawStats sync.stats) sync.observedAt state.store key = false) :
    RaceInv clientID key { state with
      store := applyTrafficRawStats now (convertRawStats sync.stats) sync.observedAt state.store
      sync := none
      since := state.since.map fun since => since.apply (readingIn key sync.stats) } := by
  obtain ⟨_, up, down, reports, _⟩ := inv.syncSound sync inFlight
  have readings := readingsOf_answer inv.tracked reports
  have once : (readingsOf key (convertRawStats sync.stats)).length ≤ 1 := by
    rw [readings]
    cases readingIn key sync.stats <;> simp
  refine ⟨inv.tracked.of_frame (applyTrafficRawStats_frame ..), inv.nonnegative, by simp,
    inv.resetsSound, by simp, ?_⟩
  intro since found
  obtain ⟨old, earlier, rfl⟩ := Option.map_eq_some_iff.mp found
  obtain ⟨ascending, below, pending, row, stored, accounted⟩ := inv.since old earlier
  have written := applyTrafficRawStats_find? once spared
  rw [show (normalizeTrafficRawStats (convertRawStats sync.stats)).filter (fun raw => raw.key = key) =
    readingsOf key (convertRawStats sync.stats) from rfl, readings, stored] at written
  cases reported : readingIn key sync.stats with
  | none =>
      rw [reported] at written
      exact ⟨ascending, below, by simp, row, written, accounted⟩
  | some reading =>
      rw [reported] at written
      have grown := pending sync inFlight (asked old earlier) reading reported
      exact ⟨ascending.apply grown, ((inv.syncSound sync inFlight).reading reported).2, by simp, _, written,
        accounted.observe ascending grown⟩

theorem RaceInv.resetCommits (inv : RaceInv clientID key state) {index : Nat} {now : Int}
    {answer : Answer} {store : Store} {client : Client} (inFlight : state.resets[index]? = some answer)
    (reset : resetClientTrafficBaseline now clientID (collectTrafficBaselines answer.stats) state.store =
      .ok (store, client)) :
    RaceInv clientID key { state with
      store := store
      resets := state.resets.eraseIdx index
      since := some
        { base := (readingIn key answer.stats).getD (0, 0)
          askedAt := answer.askedAt
          applied := [] } } := by
  have member : answer ∈ state.resets := List.mem_of_getElem? inFlight
  have sound := inv.resetsSound answer member
  have base := sound.base inv.nonnegative
  obtain ⟨_, up, down, reports, _⟩ := sound
  have named := (coreEngine_normal inv.tracked.engine_cases).2.2
  obtain ⟨found, written⟩ := resetClientTrafficBaseline_find? reset inv.tracked.engine named
  have statsKey := inv.tracked.statsKey
  rw [found, Option.map_some, Option.some.injEq] at statsKey
  have keyed : (⟨key.engine, "client", key.scopeKey⟩ : TrafficKey) = key := by
    rw [← inv.tracked.scopeType]
  rw [statsKey, keyed] at written
  refine ⟨inv.tracked.of_frame (resetClientTrafficBaseline_frame reset), inv.nonnegative, inv.syncSound,
    fun other inside => inv.resetsSound other (List.mem_of_mem_eraseIdx inside), ?_, ?_⟩
  · intro sync found other inside
    exact inv.ordered sync found other (List.mem_of_mem_eraseIdx inside)
  · rintro since ⟨⟩
    refine ⟨⟨base.1, by simp⟩, base.2, ?_, _, written, ?_⟩
    · intro sync found asked reading reported
      exact inv.ordered sync found answer member asked reading reported
    · have baseline := baselineByEngine_answer inv.tracked reports
      have lastRaw : ((resetTrafficState now key.engine key.scopeKey
            (baselineByEngine (collectTrafficBaselines answer.stats) key.scopeKey key.engine)).lastRawUp,
          (resetTrafficState now key.engine key.scopeKey
            (baselineByEngine (collectTrafficBaselines answer.stats) key.scopeKey key.engine)).lastRawDown) =
          (readingIn key answer.stats).getD (0, 0) := by
        rw [← baseline]
        cases baselineByEngine (collectTrafficBaselines answer.stats) key.scopeKey key.engine <;> rfl
      refine ⟨lastRaw, ⟨Int.le_refl _, Int.le_refl _⟩, ?_, ?_, ?_, by simp⟩
      · simp [SinceReset.last, resetTrafficState]
      · intro _
        simp [SinceReset.last, resetTrafficState]
      · intro zero _
        simp only at zero
        rw [zero] at lastRaw
        obtain ⟨zeroUp, zeroDown⟩ := Prod.mk.inj lastRaw
        rw [isMissingRawBaseline, zeroUp, zeroDown]
        cases baselineByEngine (collectTrafficBaselines answer.stats) key.scopeKey key.engine <;>
          simp [resetTrafficState, isBaselineOnlyTrafficStatus] <;> decide +kernel

theorem RaceInv.step {action : RaceAction} {after : RaceState} (inv : RaceInv clientID key state)
    (allowed : orderly key action state = true) (stepped : raceStep clientID key action state = some after) :
    RaceInv clientID key after := by
  cases action with
  | coreCounts up down =>
      simp only [raceStep] at stepped
      split at stepped
      · rename_i grown
        cases Option.some.inj stepped
        exact inv.coreCounts grown
      · cases stepped
  | syncAsks stats observedAt =>
      simp only [raceStep] at stepped
      split at stepped
      · rename_i asked
        cases Option.some.inj stepped
        exact inv.syncAsks asked.2
      · cases stepped
  | syncMarks now markers =>
      obtain ⟨sync, _, rfl⟩ := Option.map_eq_some_iff.mp stepped
      exact inv.syncMarks (List.all_eq_true.mp allowed)
  | syncCommits now =>
      obtain ⟨sync, inFlight, rfl⟩ := Option.map_eq_some_iff.mp stepped
      simp only [orderly, inFlight, Option.all_some, Bool.and_eq_true, Bool.not_eq_true'] at allowed
      obtain ⟨asked, spared⟩ := allowed
      refine inv.syncCommits inFlight (fun since found => ?_) spared
      simpa [found] using asked
  | resetAsks stats =>
      simp only [raceStep] at stepped
      split at stepped
      · rename_i reports
        cases Option.some.inj stepped
        exact inv.resetAsks reports
      · cases stepped
  | resetCommits index now =>
      simp only [raceStep] at stepped
      cases inFlight : state.resets[index]? with
      | none => simp [inFlight] at stepped
      | some answer =>
          simp only [inFlight] at stepped
          cases reset : resetClientTrafficBaseline now clientID
              (collectTrafficBaselines answer.stats) state.store with
          | error reason => simp [reset] at stepped
          | ok committed =>
              obtain ⟨store, client⟩ := committed
              simp only [reset, Option.some.injEq] at stepped
              subst stepped
              exact inv.resetCommits inFlight reset

end Steps

/-- A state in which nothing is in flight and no reset has committed yet. -/
structure RaceStart (clientID : Int) (key : TrafficKey) (state : RaceState) : Prop where
  tracked : Tracked clientID key state.store
  nonnegative : Below (0, 0) (state.up, state.down)
  noSync : state.sync = none
  noResets : state.resets = []
  noSince : state.since = none

theorem RaceStart.inv {clientID : Int} {key : TrafficKey} {state : RaceState}
    (start : RaceStart clientID key state) : RaceInv clientID key state := by
  obtain ⟨tracked, nonnegative, noSync, noResets, noSince⟩ := start
  exact ⟨tracked, nonnegative, by simp [noSync], by simp [noResets], by simp [noSync], by simp [noSince]⟩

/-- In every orderly interleaving, once a reset has committed the client's totals are at most
what the largest reading applied since exceeds the baseline by, and exactly that when the
baseline is not all zero.  Over a baseline of zero they count from the first reading applied. -/
theorem reset_usage {clientID : Int} {key : TrafficKey} {start state : RaceState} {since : SinceReset}
    (started : RaceStart clientID key start)
    (reached : Reach (Steps (restrict (orderly key) (raceStep clientID key))) start state)
    (committed : state.since = some since) :
    (∀ reading ∈ since.applied, Below reading since.last) ∧
    ∃ row, state.store.trafficStates.find? key = some row ∧
      (row.totalUp.toInt ≤ since.last.1.toInt - since.base.1.toInt ∧
        row.totalDown.toInt ≤ since.last.2.toInt - since.base.2.toInt) ∧
      (since.base ≠ (0, 0) →
        row.totalUp.toInt = since.last.1.toInt - since.base.1.toInt ∧
          row.totalDown.toInt = since.last.2.toInt - since.base.2.toInt) ∧
      (since.base = (0, 0) → ∀ first, since.applied.getLast? = some first → first ≠ (0, 0) →
        row.totalUp.toInt = since.last.1.toInt - first.1.toInt ∧
          row.totalDown.toInt = since.last.2.toInt - first.2.toInt) := by
  have inv : RaceInv clientID key state :=
    reached.invariant started.inv fun action before after inv stepped =>
      inv.step (restrict_eq_some.mp stepped).1 (restrict_eq_some.mp stepped).2
  obtain ⟨ascending, _, _, row, stored, accounted⟩ := inv.since since committed
  exact ⟨fun reading member => (ascending.above reading member).2, row, stored, accounted.bounded,
    accounted.exact, accounted.fromFirst⟩

/-! ### Two races -/

def exampleClient (id : Int) : Client :=
  { (default : Client) with id := id, inboundID := 1, statsKey := "c_1", enabled := true }

def exampleInbound (id : Int) : InboundRow :=
  { (default : InboundRow) with id := id, protocol := "vless", enabled := true }

def exampleRace : RaceState where
  store := { Store.empty with
    inbounds := Serial.empty.insert exampleInbound fun _ => rfl
    clients := Serial.empty.insert exampleClient fun _ => rfl }
  up := 0
  down := 0
  clock := 0
  sync := none
  resets := []
  since := none

def exampleStat (up down : Int64) : Stat :=
  ⟨"xray", "client", "c_1", up, down⟩

/-- The client's totals, its last applied reading and the baseline of its last reset. -/
def usageIn (state : RaceState) : Option ((Int64 × Int64) × (Int64 × Int64) × (Int64 × Int64)) := do
  let row ← state.store.trafficStates.find? exampleKey
  let since ← state.since
  return ((row.totalUp, row.totalDown), since.last, since.base)

/-- After a reset at a baseline of zero the first reading is not counted; and a sync that
asked before a reset and commits after it makes the usage before the reset count again. -/
theorem reset_race_miscounts :
    ((perform (raceStep 1 exampleKey)
        [.resetAsks [exampleStat 0 0], .resetCommits 0 1000000000, .coreCounts 100 50,
          .syncAsks [exampleStat 100 50] 2000000000, .syncCommits 0] exampleRace).bind usageIn =
      some ((0, 0), (100, 50), (0, 0))) ∧
    ((perform (raceStep 1 exampleKey)
        [.coreCounts 10 10, .syncAsks [exampleStat 10 10] 1000000000, .coreCounts 30 30,
          .resetAsks [exampleStat 30 30], .resetCommits 0 2000000000, .syncCommits 0,
          .syncAsks [exampleStat 30 30] 3000000000, .syncCommits 0] exampleRace).bind usageIn =
      some ((20, 20), (30, 30), (30, 30))) := by
  decide +kernel

def exampleOrderlyRun : List RaceAction :=
  [.coreCounts 10 10, .resetAsks [exampleStat 10 10], .coreCounts 30 25, .resetCommits 0 1000000000,
    .syncAsks [exampleStat 30 25] 2000000000, .syncCommits 0]

theorem exampleOrderlyRun_performed :
    (perform (restrict (orderly exampleKey) (raceStep 1 exampleKey)) exampleOrderlyRun
      exampleRace).isSome = true := by
  decide +kernel

/-- The usage between the reset's question and the sync's is what the totals hold. -/
theorem reset_usage_orderly :
    ∃ row, (((perform (restrict (orderly exampleKey) (raceStep 1 exampleKey)) exampleOrderlyRun
        exampleRace).get exampleOrderlyRun_performed).store.trafficStates.find? exampleKey) = some row ∧
      row.totalUp.toInt = 20 ∧ row.totalDown.toInt = 15 := by
  have started : RaceStart 1 exampleKey exampleRace :=
    ⟨⟨by decide +kernel, rfl, by decide +kernel, by decide +kernel, by decide⟩,
      ⟨by decide, by decide⟩, rfl, rfl, rfl⟩
  obtain ⟨_, row, stored, _, exact, _⟩ := reset_usage started
    (Reach.of_perform_isSome exampleOrderlyRun_performed)
    (show _ = some (⟨(10, 10), 0, [(30, 25)]⟩ : SinceReset) by decide +kernel)
  exact ⟨row, stored, exact (by decide)⟩

end MiGate.Traffic
