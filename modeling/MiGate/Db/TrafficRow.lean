import MiGate.Db.Traffic

namespace MiGate.Db

open Go Relational

/-! What one transaction on `traffic_states` does to the row of one key. -/

variable {store : Store} {key : TrafficKey} {tx : TrafficTx}

@[simp] theorem normalizeTrafficToken_idempotent (value : String) :
    normalizeTrafficToken (normalizeTrafficToken value) = normalizeTrafficToken value := by
  simp [normalizeTrafficToken, trimSpace_toLower]

@[simp] theorem normalizeTrafficToken_singbox : normalizeTrafficToken "singbox" = "singbox" := by
  with_unfolding_all decide

@[simp] theorem normalizeTrafficEngine_idempotent (engine : String) :
    normalizeTrafficEngine (normalizeTrafficEngine engine) = normalizeTrafficEngine engine := by
  unfold normalizeTrafficEngine
  by_cases singbox : normalizeTrafficToken engine = "sing-box"
  · simp [singbox]
  · simp [singbox]

def normalizeTrafficKey (key : TrafficKey) : TrafficKey :=
  ⟨normalizeTrafficEngine key.engine, normalizeTrafficToken key.scopeType, trimSpace key.scopeKey⟩

theorem normalizeTrafficState_key (state : TrafficState) :
    (normalizeTrafficState state).key = normalizeTrafficKey state.key := by
  simp only [normalizeTrafficState, TrafficState.key, normalizeTrafficKey]

theorem normalizeTrafficState_of_normal {state : TrafficState}
    (normal : normalizeTrafficKey state.key = state.key) : normalizeTrafficState state = state := by
  simp only [normalizeTrafficKey, TrafficState.key, TrafficKey.mk.injEq] at normal
  obtain ⟨engine, scopeType, scopeKey⟩ := normal
  simp only [normalizeTrafficState, engine, scopeType, scopeKey]

/-- The keys `normalizeTrafficRawStats` leaves are normal already. -/
theorem normalizeTrafficRawStats_key {stats : List TrafficRawStat} {raw : TrafficRawStat}
    (member : raw ∈ normalizeTrafficRawStats stats) : normalizeTrafficKey raw.key = raw.key := by
  obtain ⟨source, _, kept⟩ := List.mem_filterMap.mp member
  unfold normalizeTrafficRawStat at kept
  simp only at kept
  split at kept
  · exact absurd kept (by simp)
  · rw [← Option.some.inj kept]
    simp [normalizeTrafficKey, TrafficRawStat.key]

private theorem foldl_set (rows : List TrafficState) (distinct : (rows.map TrafficState.key).Nodup)
    (normal : ∀ row ∈ rows, normalizeTrafficKey row.key = row.key) (states : TrafficStates) :
    rows.foldl (fun states row => states.set (normalizeTrafficState row).key (normalizeTrafficState row))
        states key =
      (rows.find? (fun row => row.key = key)).or (states key) := by
  induction rows generalizing states with
  | nil => rfl
  | cons row rest ih =>
      rw [List.map_cons, List.nodup_cons] at distinct
      have fixed := normalizeTrafficState_of_normal (normal row List.mem_cons_self)
      rw [List.foldl_cons, ih distinct.2 (fun row member => normal row (List.mem_cons_of_mem _ member)),
        fixed, List.find?_cons, TrafficStates.set]
      by_cases same : row.key = key
      · have absent : rest.find? (fun row => row.key = key) = none := by
          rw [List.find?_eq_none]
          intro other member equal
          exact distinct.1 (List.mem_map.mpr ⟨other, member, by simpa [same] using equal⟩)
        simp [same, absent]
      · simp [same, Ne.symm same]

/-- A transaction on normal keys reads exactly the stored rows of those keys. -/
theorem prefetchTrafficStates_eq {keys : List TrafficKey}
    (normal : ∀ key ∈ keys, normalizeTrafficKey key = key) :
    prefetchTrafficStates store keys key =
      if key ∈ keys then store.trafficStates.find? key else none := by
  have distinct : ((store.trafficStates.rows.filter fun row => row.key ∈ keys).map
      TrafficState.key).Nodup :=
    store.trafficStates.distinct.sublist (List.filter_sublist.map _)
  have rowsNormal : ∀ row ∈ store.trafficStates.rows.filter (fun row => row.key ∈ keys),
      normalizeTrafficKey row.key = row.key := by
    intro row member
    exact normal _ (by simpa using (List.mem_filter.mp member).2)
  rw [prefetchTrafficStates, foldl_set _ distinct rowsNormal, Option.or_none, List.find?_filter,
    Table.find?]
  split
  · rename_i inside
    congr 1
    funext row
    by_cases same : row.key = key
    · simp [same, inside]
    · simp [same]
  · rename_i outside
    rw [List.find?_eq_none]
    intro row _ found
    simp only [decide_eq_true_eq] at found
    exact outside (found.2 ▸ found.1)

/-! ### `ApplyTrafficRawStats` -/

@[simp] theorem observeTraffic_key (observedAt : Int) (current : Option TrafficState)
    (raw : TrafficRawStat) : (observeTraffic observedAt current raw).key = raw.key := rfl

theorem applyTrafficRawStat_other {raw : TrafficRawStat} (observedAt sampledAt : Int) (tx : TrafficTx)
    (other : raw.key ≠ key) :
    (applyTrafficRawStat observedAt sampledAt tx raw).store.trafficStates.find? key =
        tx.store.trafficStates.find? key ∧
      (applyTrafficRawStat observedAt sampledAt tx raw).states key = tx.states key := by
  constructor
  · exact Table.find?_upsert_of_ne _ other
  · simp [applyTrafficRawStat, TrafficTx.write, TrafficStates.set, Ne.symm other]

theorem applyTrafficRawStat_same (observedAt sampledAt : Int) (tx : TrafficTx) (raw : TrafficRawStat) :
    (applyTrafficRawStat observedAt sampledAt tx raw).store.trafficStates.find? raw.key =
        some (observeTraffic observedAt (tx.states raw.key) raw) ∧
      (applyTrafficRawStat observedAt sampledAt tx raw).states raw.key =
        some { observeTraffic observedAt (tx.states raw.key) raw with
          message := trimSpace raw.message } := by
  constructor
  · exact Table.find?_upsert_self _ _
  · simp [applyTrafficRawStat, TrafficTx.write, TrafficStates.set]

/-- Readings of other keys leave a key alone. -/
theorem applyTrafficLoop_other {stats : List TrafficRawStat} (observedAt sampledAt : Int) (tx : TrafficTx)
    (others : ∀ raw ∈ stats, raw.key ≠ key) :
    (stats.foldl (applyTrafficRawStat observedAt sampledAt) tx).store.trafficStates.find? key =
        tx.store.trafficStates.find? key ∧
      (stats.foldl (applyTrafficRawStat observedAt sampledAt) tx).states key = tx.states key := by
  induction stats generalizing tx with
  | nil => exact ⟨rfl, rfl⟩
  | cons raw rest ih =>
      have first := applyTrafficRawStat_other observedAt sampledAt tx (others raw List.mem_cons_self)
      have tail := ih (applyTrafficRawStat observedAt sampledAt tx raw)
        fun raw member => others raw (List.mem_cons_of_mem _ member)
      exact ⟨tail.1.trans first.1, tail.2.trans first.2⟩

/-- The one reading of a key in a batch decides what the loop leaves under that key. -/
theorem applyTrafficLoop_single {stats : List TrafficRawStat} {raw : TrafficRawStat}
    (observedAt sampledAt : Int) (tx : TrafficTx) (single : stats.filter (fun raw => raw.key = key) = [raw]) :
    (stats.foldl (applyTrafficRawStat observedAt sampledAt) tx).store.trafficStates.find? key =
        some (observeTraffic observedAt (tx.states key) raw) ∧
      (stats.foldl (applyTrafficRawStat observedAt sampledAt) tx).states key =
        some { observeTraffic observedAt (tx.states key) raw with message := trimSpace raw.message } := by
  induction stats generalizing tx with
  | nil => cases single
  | cons first rest ih =>
      by_cases same : first.key = key
      · rw [List.filter_cons_of_pos (by simpa using same)] at single
        obtain ⟨rfl, alone⟩ := List.cons.inj single
        have others : ∀ raw ∈ rest, raw.key ≠ key := by
          intro raw member equal
          exact List.filter_eq_nil_iff.mp alone raw member (by simpa using equal)
        have tail := applyTrafficLoop_other observedAt sampledAt
          (applyTrafficRawStat observedAt sampledAt tx first) others
        have head := applyTrafficRawStat_same observedAt sampledAt tx first
        rw [same] at head
        exact ⟨tail.1.trans head.1, tail.2.trans head.2⟩
      · rw [List.filter_cons_of_neg (by simpa using same)] at single
        have tail := ih (applyTrafficRawStat observedAt sampledAt tx first) single
        rw [(applyTrafficRawStat_other observedAt sampledAt tx same).2] at tail
        exact tail

theorem repairCandidate_other {candidate : SingleClientInbound} (seenAt sampledAt : Int) (tx : TrafficTx)
    (other : candidate.clientStateKey ≠ key) :
    (repairCandidate seenAt sampledAt tx candidate).store.trafficStates.find? key =
        tx.store.trafficStates.find? key ∧
      (repairCandidate seenAt sampledAt tx candidate).states key = tx.states key := by
  unfold repairCandidate
  cases pollutedClient tx.states candidate with
  | none => exact ⟨rfl, rfl⟩
  | some found =>
      constructor
      · rw [Table.find?_modifyWhere]
        cases stored : tx.store.trafficStates.find? key with
        | none => rfl
        | some row =>
            have named := Table.key_of_find? stored
            simp [named, Ne.symm other]
      · simp [TrafficStates.set, Ne.symm other]

private theorem inboundStateKey_ne (left right : SingleClientInbound) :
    left.clientStateKey ≠ right.inboundStateKey := by
  simp [SingleClientInbound.clientStateKey, SingleClientInbound.inboundStateKey]

/-- A client the repair finds in order when the loop ends is skipped: no turn of the repair
touches the state of an inbound, or of another client. -/
theorem repairCandidates_skip {seenAt sampledAt : Int} {candidates : List SingleClientInbound}
    (spared : ∀ candidate ∈ candidates, candidate.clientStateKey = key →
      pollutedClient tx.states candidate = none) :
    candidates.foldl (repairCandidate seenAt sampledAt) tx =
      (candidates.filter fun candidate => candidate.clientStateKey ≠ key).foldl
        (repairCandidate seenAt sampledAt) tx := by
  induction candidates generalizing tx with
  | nil => rfl
  | cons candidate rest ih =>
      have restSpared : ∀ candidate ∈ rest, candidate.clientStateKey = key →
          pollutedClient tx.states candidate = none :=
        fun other member => spared other (List.mem_cons_of_mem _ member)
      by_cases same : candidate.clientStateKey = key
      · have idle : repairCandidate seenAt sampledAt tx candidate = tx := by
          simp [repairCandidate, spared candidate List.mem_cons_self same]
        rw [List.foldl_cons, idle, ih restSpared, List.filter_cons_of_neg (by simpa using same)]
      · rw [List.filter_cons_of_pos (by simpa using same), List.foldl_cons, List.foldl_cons]
        apply ih
        intro other member equal
        have inboundKept :=
          (repairCandidate_other seenAt sampledAt tx (inboundStateKey_ne candidate other)).2
        have clientKept := (repairCandidate_other seenAt sampledAt tx same).2
        rw [← equal] at clientKept
        rw [← restSpared other member equal]
        simp only [pollutedClient, inboundKept, clientKept]

theorem repairCandidates_spared {seenAt sampledAt : Int} {candidates : List SingleClientInbound}
    (spared : ∀ candidate ∈ candidates, candidate.clientStateKey = key →
      pollutedClient tx.states candidate = none) :
    (candidates.foldl (repairCandidate seenAt sampledAt) tx).store.trafficStates.find? key =
      tx.store.trafficStates.find? key := by
  rw [repairCandidates_skip spared]
  have others : ∀ candidate ∈ candidates.filter (fun candidate => candidate.clientStateKey ≠ key),
      candidate.clientStateKey ≠ key := by
    intro candidate member
    simpa using (List.mem_filter.mp member).2
  generalize candidates.filter (fun candidate => candidate.clientStateKey ≠ key) = rest at others
  clear spared
  induction rest generalizing tx with
  | nil => rfl
  | cons candidate rest ih =>
      have first := repairCandidate_other seenAt sampledAt tx (others candidate List.mem_cons_self)
      exact (ih fun other member => others other (List.mem_cons_of_mem _ member)).trans first.1

/-- Whether a batch ends with the reconciliation of the key to its inbound's counters. -/
def reconciles (now : Int) (stats : List TrafficRawStat) (observedAt : Int) (store : Store)
    (key : TrafficKey) : Bool :=
  let observedAt := observationTime now observedAt
  let stats := normalizeTrafficRawStats stats
  let tx := applyTrafficLoop observedAt (trafficSampleBucket now observedAt) stats store
  (repairCandidates tx.store stats).any fun candidate =>
    candidate.clientStateKey = key && (pollutedClient tx.states candidate).isSome

/-- The candidates of a batch that spares a key. -/
theorem spared_of_reconciles {now observedAt : Int} {stats : List TrafficRawStat}
    (spared : reconciles now stats observedAt store key = false) :
    let observedAt := observationTime now observedAt
    let stats := normalizeTrafficRawStats stats
    let tx := applyTrafficLoop observedAt (trafficSampleBucket now observedAt) stats store
    ∀ candidate ∈ repairCandidates tx.store stats, candidate.clientStateKey = key →
      pollutedClient tx.states candidate = none := by
  intro observedAt stats tx candidate member same
  simp only [reconciles, List.any_eq_false] at spared
  simpa [same] using spared candidate member

theorem cleanupTrafficSamples_states (observedAt : Int) (store : Store) :
    (cleanupTrafficSamples observedAt store).trafficStates = store.trafficStates := by
  unfold cleanupTrafficSamples
  split <;> rfl

/-- A batch starts from the stored rows of the keys it reads. -/
theorem beginTrafficTx_states {stats : List TrafficRawStat}
    (listed : key ∈ (normalizeTrafficRawStats stats).map TrafficRawStat.key) :
    (beginTrafficTx store ((normalizeTrafficRawStats stats).map TrafficRawStat.key)).states key =
      store.trafficStates.find? key := by
  have normal : ∀ key ∈ (normalizeTrafficRawStats stats).map TrafficRawStat.key,
      normalizeTrafficKey key = key := by
    intro key member
    obtain ⟨raw, inside, rfl⟩ := List.mem_map.mp member
    exact normalizeTrafficRawStats_key inside
  simp [beginTrafficTx, prefetchTrafficStates_eq normal, listed]

/-- What a batch leaves under a key it reads at most once and does not reconcile. -/
theorem applyTrafficRawStats_find? {now observedAt : Int} {stats : List TrafficRawStat}
    (once : ((normalizeTrafficRawStats stats).filter fun raw => raw.key = key).length ≤ 1)
    (spared : reconciles now stats observedAt store key = false) :
    (applyTrafficRawStats now stats observedAt store).trafficStates.find? key =
      ((normalizeTrafficRawStats stats).filter fun raw => raw.key = key).foldl
        (fun row raw => some (observeTraffic (observationTime now observedAt) row raw))
        (store.trafficStates.find? key) := by
  unfold applyTrafficRawStats
  by_cases empty : normalizeTrafficRawStats stats = []
  · simp [empty]
  rw [if_neg empty, cleanupTrafficSamples_states, repairPollutedSingleClientTraffic,
    repairCandidates_spared (spared_of_reconciles spared)]
  · cases readings : (normalizeTrafficRawStats stats).filter fun raw => raw.key = key with
    | nil =>
        have others : ∀ raw ∈ normalizeTrafficRawStats stats, raw.key ≠ key := by
          simpa using List.filter_eq_nil_iff.mp readings
        exact (applyTrafficLoop_other _ _ _ others).1
    | cons raw rest =>
        have single : rest = [] := by
          rw [readings] at once
          exact List.eq_nil_of_length_eq_zero (by simpa using once)
        subst single
        have member : raw ∈ (normalizeTrafficRawStats stats).filter fun raw => raw.key = key := by
          rw [readings]
          exact List.mem_cons_self
        obtain ⟨inside, named⟩ := List.mem_filter.mp member
        have listed : key ∈ (normalizeTrafficRawStats stats).map TrafficRawStat.key :=
          List.mem_map.mpr ⟨raw, inside, by simpa using named⟩
        rw [applyTrafficLoop, (applyTrafficLoop_single _ _ _ readings).1, beginTrafficTx_states listed]
        rfl

/-! A batch may read a key several times; the turns then build on a working copy, which
differs from the stored row in its message only. -/

/-- The copy of a row that the loop of `ApplyTrafficRawStats` goes on working with. -/
def observeNext (observedAt : Int) (current : Option TrafficState) (raw : TrafficRawStat) : TrafficState :=
  { observeTraffic observedAt current raw with message := trimSpace raw.message }

/-- A row without its message. -/
def TrafficState.unsaid (row : TrafficState) : TrafficState :=
  { row with message := "" }

theorem applyTrafficLoop_states (observedAt sampledAt : Int) (stats : List TrafficRawStat) (tx : TrafficTx) :
    (stats.foldl (applyTrafficRawStat observedAt sampledAt) tx).states key =
      (stats.filter fun raw => raw.key = key).foldl
        (fun row raw => some (observeNext observedAt row raw)) (tx.states key) := by
  induction stats generalizing tx with
  | nil => rfl
  | cons raw rest ih =>
      rw [List.foldl_cons, ih]
      by_cases same : raw.key = key
      · have next := (applyTrafficRawStat_same observedAt sampledAt tx raw).2
        rw [same] at next
        simp [same, next, observeNext]
      · simp [same, (applyTrafficRawStat_other observedAt sampledAt tx same).2]

theorem applyTrafficLoop_unsaid (observedAt sampledAt : Int) (stats : List TrafficRawStat) {tx : TrafficTx}
    (agree : (tx.store.trafficStates.find? key).map TrafficState.unsaid =
      (tx.states key).map TrafficState.unsaid) :
    let after := stats.foldl (applyTrafficRawStat observedAt sampledAt) tx
    (after.store.trafficStates.find? key).map TrafficState.unsaid =
      (after.states key).map TrafficState.unsaid := by
  induction stats generalizing tx with
  | nil => exact agree
  | cons raw rest ih =>
      apply ih
      by_cases same : raw.key = key
      · have next := applyTrafficRawStat_same observedAt sampledAt tx raw
        rw [same] at next
        rw [next.1, next.2]
        rfl
      · have kept := applyTrafficRawStat_other observedAt sampledAt tx same
        rw [kept.1, kept.2, agree]

/-- What a batch that does not reconcile a key leaves under it, but for the message. -/
theorem applyTrafficRawStats_unsaid {now observedAt : Int} {stats : List TrafficRawStat}
    (spared : reconciles now stats observedAt store key = false) :
    ((applyTrafficRawStats now stats observedAt store).trafficStates.find? key).map TrafficState.unsaid =
      (((normalizeTrafficRawStats stats).filter fun raw => raw.key = key).foldl
        (fun row raw => some (observeNext (observationTime now observedAt) row raw))
        (store.trafficStates.find? key)).map TrafficState.unsaid := by
  unfold applyTrafficRawStats
  by_cases empty : normalizeTrafficRawStats stats = []
  · simp [empty]
  rw [if_neg empty, cleanupTrafficSamples_states, repairPollutedSingleClientTraffic,
    repairCandidates_spared (spared_of_reconciles spared), applyTrafficLoop]
  by_cases listed : key ∈ (normalizeTrafficRawStats stats).map TrafficRawStat.key
  · have begun : _ = store.trafficStates.find? key := beginTrafficTx_states listed
    rw [applyTrafficLoop_unsaid _ _ _ (by rw [begun]; rfl), applyTrafficLoop_states, begun]
  · have others : ∀ raw ∈ normalizeTrafficRawStats stats, raw.key ≠ key :=
      fun raw member same => listed (List.mem_map.mpr ⟨raw, member, same⟩)
    have none : (normalizeTrafficRawStats stats).filter (fun raw => raw.key = key) = [] := by
      rw [List.filter_eq_nil_iff]
      intro raw member
      simpa using others raw member
    rw [(applyTrafficLoop_other _ _ _ others).1, none]
    rfl

/-! ### Status markers -/

@[simp] theorem markTraffic_key (observedAt : Int) (current : Option TrafficState)
    (marker : TrafficStatusMarker) : (markTraffic observedAt current marker).key = marker.key := rfl

theorem markTrafficScope_find? {observedAt sampledAt : Int} {states : TrafficStates}
    (markers : List TrafficStatusMarker) :
    (markers.foldl (markTrafficScope observedAt sampledAt states) store).trafficStates.find? key =
      (markers.filter fun marker => marker.key = key).foldl
        (fun row marker => some (markTraffic observedAt row marker))
        (store.trafficStates.find? key) := by
  induction markers generalizing store with
  | nil => rfl
  | cons marker rest ih =>
      rw [List.foldl_cons, ih, markTrafficScope, Table.find?_upsert, markTraffic_key]
      by_cases same : marker.key = key
      · simp [same]
      · simp [same]

theorem markTrafficScopeStatus_find? {now observedAt : Int} {markers : List TrafficStatusMarker} :
    (markTrafficScopeStatus now markers observedAt store).trafficStates.find? key =
      ((normalizeTrafficStatusMarkers markers).filter fun marker => marker.key = key).foldl
        (fun row marker => some (markTraffic (observationTime now observedAt) row marker))
        (store.trafficStates.find? key) := by
  unfold markTrafficScopeStatus
  by_cases empty : normalizeTrafficStatusMarkers markers = []
  · simp [empty]
  · simp only [if_neg empty, cleanupTrafficSamples_states]
    exact markTrafficScope_find? _

/-- The marker `MarkTrafficUnavailable` amounts to for one key of its engine. -/
def unavailableMarker (status message : String) (key : TrafficKey) : TrafficStatusMarker :=
  { engine := key.engine
    scopeType := key.scopeType
    scopeKey := key.scopeKey
    status := if trimSpace status = "" then "unavailable" else trimSpace status
    message := trimSpace message }

/-- Whether `MarkTrafficUnavailable` of an engine is about the key. -/
def concerns (engine : String) (key : TrafficKey) : Bool :=
  normalizeTrafficToken engine ≠ "" && key.engine = normalizeTrafficToken engine

theorem markTrafficUnavailable_find? {now observedAt : Int} {engine status message : String} :
    (markTrafficUnavailable now engine status message observedAt store).trafficStates.find? key =
      if concerns engine key then
        (store.trafficStates.find? key).map fun row =>
          markTraffic (observationTime now observedAt) (some row) (unavailableMarker status message key)
      else store.trafficStates.find? key := by
  unfold markTrafficUnavailable
  by_cases empty : normalizeTrafficToken engine = ""
  · simp [empty, concerns]
  rw [if_neg empty, Table.find?_modifyWhere]
  cases stored : store.trafficStates.find? key with
  | none => simp
  | some row =>
      have named := Table.key_of_find? stored
      subst named
      by_cases same : row.engine = normalizeTrafficToken engine
      · simp [same, empty, concerns, markTraffic, unavailableMarker, setUnavailable, TrafficState.key]
      · simp [same, concerns, TrafficState.key]

/-! ### The reset -/

theorem resetTrafficState_key (now : Int) (engine statsKey : String) (baseline : Option TrafficRawStat) :
    (resetTrafficState now engine statsKey baseline).key = ⟨engine, "client", statsKey⟩ := rfl

private theorem foldl_reset {now : Int} {statsKey engine : String} {baselines : String → Option TrafficRawStat}
    (engines : List String) (states : Table TrafficState.key)
    (listed : engine ∈ engines ∨ states.find? ⟨engine, "client", statsKey⟩ =
      some (resetTrafficState now engine statsKey (baselines engine))) :
    (engines.foldl (fun states engine =>
        states.upsert (resetTrafficState now engine statsKey (baselines engine))) states).find?
        ⟨engine, "client", statsKey⟩ =
      some (resetTrafficState now engine statsKey (baselines engine)) := by
  induction engines generalizing states with
  | nil => exact listed.resolve_left (by simp)
  | cons first rest ih =>
      apply ih
      rw [Table.find?_upsert, resetTrafficState_key]
      by_cases same : first = engine
      · right
        simp [same]
      · have other : ¬(⟨first, "client", statsKey⟩ : TrafficKey) = ⟨engine, "client", statsKey⟩ := by
          simpa using same
        rw [if_neg other]
        rcases listed with inside | done
        · exact .inl ((List.mem_cons.mp inside).resolve_left (Ne.symm same))
        · exact .inr done

/-- A reset writes the row of the client's expected engine: totals at zero, and the last
raw values those of the baseline. -/
theorem resetClientTrafficBaseline_find? {now clientID : Int} {baselines : List TrafficRawStat}
    {after : Store} {client : Client} {engine : String}
    (reset : resetClientTrafficBaseline now clientID baselines store = .ok (after, client))
    (expected : clientExpectedTrafficEngineByID store clientID = some engine) (named : engine ≠ "") :
    store.clients.find? clientID = some client ∧
      after.trafficStates.find? ⟨engine, "client", client.statsKey⟩ =
        some (resetTrafficState now engine client.statsKey
          (baselineByEngine baselines client.statsKey engine)) := by
  unfold resetClientTrafficBaseline at reset
  cases found : store.clients.find? clientID with
  | none =>
      rw [found] at reset
      cases reset
  | some stored =>
      simp only [found, Except.ok.injEq, Prod.mk.injEq] at reset
      obtain ⟨rfl, rfl⟩ := reset
      refine ⟨rfl, foldl_reset _ _ (.inl ?_)⟩
      simp [expected, named]

/-! ### The frame -/

/-- Two stores that differ in their traffic tables only. -/
structure SameButTraffic (before after : Store) : Prop where
  inbounds : after.inbounds = before.inbounds
  clients : after.clients = before.clients
  outbounds : after.outbounds = before.outbounds
  outboundSubscriptions : after.outboundSubscriptions = before.outboundSubscriptions
  routingRules : after.routingRules = before.routingRules
  coreApplyStates : after.coreApplyStates = before.coreApplyStates

namespace SameButTraffic

variable {before middle after : Store}

theorem refl (store : Store) : SameButTraffic store store :=
  ⟨rfl, rfl, rfl, rfl, rfl, rfl⟩

theorem trans (first : SameButTraffic before middle) (second : SameButTraffic middle after) :
    SameButTraffic before after where
  inbounds := second.inbounds.trans first.inbounds
  clients := second.clients.trans first.clients
  outbounds := second.outbounds.trans first.outbounds
  outboundSubscriptions := second.outboundSubscriptions.trans first.outboundSubscriptions
  routingRules := second.routingRules.trans first.routingRules
  coreApplyStates := second.coreApplyStates.trans first.coreApplyStates

theorem foldl {α β : Type} (view : β → Store) (turn : β → α → β)
    (each : ∀ state item, SameButTraffic (view state) (view (turn state item))) (items : List α)
    (state : β) : SameButTraffic (view state) (view (items.foldl turn state)) := by
  induction items generalizing state with
  | nil => exact refl _
  | cons item rest ih => exact (each state item).trans (ih _)

end SameButTraffic

theorem cleanupTrafficSamples_frame (observedAt : Int) (store : Store) :
    SameButTraffic store (cleanupTrafficSamples observedAt store) := by
  unfold cleanupTrafficSamples
  split <;> exact ⟨rfl, rfl, rfl, rfl, rfl, rfl⟩

theorem applyTrafficLoop_frame (observedAt sampledAt : Int) (stats : List TrafficRawStat) (store : Store) :
    SameButTraffic store (applyTrafficLoop observedAt sampledAt stats store).store :=
  SameButTraffic.foldl TrafficTx.store (applyTrafficRawStat observedAt sampledAt)
    (fun _ _ => ⟨rfl, rfl, rfl, rfl, rfl, rfl⟩) _ (beginTrafficTx store (stats.map TrafficRawStat.key))

theorem repair_frame (seenAt sampledAt : Int) (stats : List TrafficRawStat) (tx : TrafficTx) :
    SameButTraffic tx.store (repairPollutedSingleClientTraffic seenAt sampledAt stats tx).store := by
  refine SameButTraffic.foldl TrafficTx.store (repairCandidate seenAt sampledAt)
    (fun tx candidate => ?_) _ tx
  unfold repairCandidate
  split <;> exact ⟨rfl, rfl, rfl, rfl, rfl, rfl⟩

theorem applyTrafficRawStats_frame (now : Int) (stats : List TrafficRawStat) (observedAt : Int)
    (store : Store) : SameButTraffic store (applyTrafficRawStats now stats observedAt store) := by
  unfold applyTrafficRawStats
  simp only
  split
  · exact .refl _
  · exact ((applyTrafficLoop_frame ..).trans (repair_frame ..)).trans (cleanupTrafficSamples_frame ..)

theorem markTrafficScopeStatus_frame (now : Int) (markers : List TrafficStatusMarker) (observedAt : Int)
    (store : Store) : SameButTraffic store (markTrafficScopeStatus now markers observedAt store) := by
  unfold markTrafficScopeStatus
  simp only
  split
  · exact .refl _
  · refine .trans ?_ (cleanupTrafficSamples_frame _ _)
    exact SameButTraffic.foldl id (markTrafficScope _ _ _)
      (fun _ _ => ⟨rfl, rfl, rfl, rfl, rfl, rfl⟩) _ store

theorem resetClientTrafficBaseline_frame {now clientID : Int} {baselines : List TrafficRawStat}
    {after : Store} {client : Client}
    (reset : resetClientTrafficBaseline now clientID baselines store = .ok (after, client)) :
    SameButTraffic store after := by
  unfold resetClientTrafficBaseline at reset
  cases found : store.clients.find? clientID with
  | none =>
      rw [found] at reset
      cases reset
  | some stored =>
      simp only [found, Except.ok.injEq, Prod.mk.injEq] at reset
      obtain ⟨rfl, _⟩ := reset
      exact ⟨rfl, rfl, rfl, rfl, rfl, rfl⟩

end MiGate.Db
