import MiGate.Traffic.Ledger

namespace MiGate.Traffic

open Db Go Relational

/-! What the samples of a key add up to, against the total of its row. -/

inductive Direction where
  | up
  | down
deriving DecidableEq, Repr

def Direction.ofSample : Direction → TrafficSample → Int64
  | .up, sample => sample.deltaUp
  | .down, sample => sample.deltaDown

def Direction.delta : Direction → TrafficState → Int64
  | .up, row => row.deltaUp
  | .down, row => row.deltaDown

def Direction.total : Direction → TrafficState → Int64
  | .up, row => row.totalUp
  | .down, row => row.totalDown

variable {direction : Direction}

@[simp] theorem Direction.ofSample_of (sampledAt : Int) (row : TrafficState) :
    direction.ofSample (trafficSampleOf sampledAt row) = direction.delta row := by
  cases direction <;> rfl

@[simp] theorem Direction.delta_zero : direction.delta .zero = 0 := by
  cases direction <;> rfl

/-- An observation adds its delta to the total of the row it finds. -/
theorem Direction.total_observeNext (observedAt : Int) (current : Option TrafficState) (raw : TrafficRawStat) :
    direction.total (observeNext observedAt current raw) =
      direction.total (current.getD .zero) + direction.delta (observeNext observedAt current raw) := by
  cases direction <;> rfl

/-- What a sample counts for a key in one direction. -/
def countedFor (key : TrafficKey) (direction : Direction) (sample : TrafficSample) : Int :=
  if sample.key.2 = key then (direction.ofSample sample).toInt else 0

/-- The sum of a delta column over all samples of a key. -/
def sampleSum (key : TrafficKey) (direction : Direction) (store : Store) : Int :=
  (store.trafficSamples.rows.map (countedFor key direction)).sum

/-- What the samples of a key count in one bucket. -/
def bucketCount (key : TrafficKey) (direction : Direction) (sampledAt : Int) (store : Store) : Int :=
  ((store.trafficSamples.find? (sampledAt, key)).map fun sample => (direction.ofSample sample).toInt).getD 0

/-- What the samples of a key count outside one bucket. -/
def otherBuckets (key : TrafficKey) (direction : Direction) (sampledAt : Int) (store : Store) : Int :=
  sampleSum key direction store - bucketCount key direction sampledAt store

variable {key : TrafficKey} {store : Store}

/-- A sample written into a bucket of the key replaces what the bucket counted. -/
theorem sampleSum_upsert (direction : Direction) {sample : TrafficSample} {after : Store}
    (written : after.trafficSamples = store.trafficSamples.upsert sample) (same : sample.key.2 = key) :
    otherBuckets key direction sample.sampledAt after = otherBuckets key direction sample.sampledAt store ∧
      bucketCount key direction sample.sampledAt after = (direction.ofSample sample).toInt := by
  have named : sample.key = (sample.sampledAt, key) := by rw [← same]; rfl
  have count : bucketCount key direction sample.sampledAt after = (direction.ofSample sample).toInt := by
    rw [bucketCount, written, ← named, Table.find?_upsert_self]
    rfl
  refine ⟨?_, count⟩
  have replaced : ((store.trafficSamples.find? sample.key).map (countedFor key direction)).getD 0 =
      bucketCount key direction sample.sampledAt store := by
    rw [bucketCount, named]
    cases found : store.trafficSamples.find? (sample.sampledAt, key) with
    | none => rfl
    | some old =>
        have oldKey : old.key.2 = key := by rw [Table.key_of_find? found]
        simp [countedFor, oldKey]
  rw [otherBuckets, count, otherBuckets, sampleSum, written, Table.sum_upsert, replaced, sampleSum,
    show countedFor key direction sample = (direction.ofSample sample).toInt by simp [countedFor, same]]
  omega

/-- A sample of another key counts nothing for this one. -/
theorem sampleSum_upsert_other (direction : Direction) {sample : TrafficSample} {after : Store} (sampledAt : Int)
    (written : after.trafficSamples = store.trafficSamples.upsert sample) (other : sample.key.2 ≠ key) :
    otherBuckets key direction sampledAt after = otherBuckets key direction sampledAt store ∧
      bucketCount key direction sampledAt after = bucketCount key direction sampledAt store := by
  have apart : sample.key ≠ (sampledAt, key) := fun same => other (by rw [same])
  have count : bucketCount key direction sampledAt after = bucketCount key direction sampledAt store := by
    rw [bucketCount, written, Table.find?_upsert_of_ne _ apart, bucketCount]
  refine ⟨?_, count⟩
  have replaced : ((store.trafficSamples.find? sample.key).map (countedFor key direction)).getD 0 = 0 := by
    cases found : store.trafficSamples.find? sample.key with
    | none => rfl
    | some old =>
        have oldKey : old.key.2 ≠ key := by
          rw [Table.key_of_find? found]
          exact other
        simp [countedFor, oldKey]
  rw [otherBuckets, count, otherBuckets, sampleSum, written, Table.sum_upsert, replaced, sampleSum,
    show countedFor key direction sample = 0 by simp [countedFor, other]]
  omega

theorem sampleSum_eq (direction : Direction) (sampledAt : Int) (store : Store) :
    sampleSum key direction store =
      otherBuckets key direction sampledAt store + bucketCount key direction sampledAt store := by
  unfold otherBuckets
  omega

theorem sampleSum_of_other {sample : TrafficSample} {after : Store}
    (written : after.trafficSamples = store.trafficSamples.upsert sample) (other : sample.key.2 ≠ key) :
    sampleSum key direction after = sampleSum key direction store := by
  obtain ⟨others, bucket⟩ := sampleSum_upsert_other direction 0 written other
  rw [sampleSum_eq direction 0, sampleSum_eq direction 0 store, others, bucket]

/-! ### One batch of readings -/

/-- Only the last reading of a key in a batch counts an increase: the readings share one
bucket, so what an earlier one counted is replaced. -/
def CountsOnce (observedAt : Int) : Option TrafficState → List TrafficRawStat → Prop
  | row, raw :: next :: rest =>
      let working := observeNext observedAt row raw
      working.deltaUp = 0 ∧ working.deltaDown = 0 ∧ CountsOnce observedAt (some working) (next :: rest)
  | _, _ => True

instance decidableCountsOnce (observedAt : Int) : (row : Option TrafficState) → (readings : List TrafficRawStat) →
    Decidable (CountsOnce observedAt row readings)
  | _, [] => .isTrue trivial
  | _, [_] => .isTrue trivial
  | row, raw :: next :: rest =>
      have := decidableCountsOnce observedAt (some (observeNext observedAt row raw)) (next :: rest)
      inferInstanceAs (Decidable (_ ∧ _ ∧ _))

/-- The working copy a list of readings leads to. -/
def observeAll (observedAt : Int) (row : Option TrafficState) (readings : List TrafficRawStat) :
    Option TrafficState :=
  readings.foldl (fun row raw => some (observeNext observedAt row raw)) row

theorem CountsOnce.total {observedAt : Int} {row : Option TrafficState} {readings : List TrafficRawStat}
    (once : CountsOnce observedAt row readings) (read : readings ≠ []) :
    let final := (observeAll observedAt row readings).getD .zero
    direction.total final = direction.total (row.getD .zero) + direction.delta final := by
  induction readings generalizing row with
  | nil => exact absurd rfl read
  | cons raw rest ih =>
      cases rest with
      | nil => exact Direction.total_observeNext observedAt row raw
      | cons next others =>
          obtain ⟨up, down, tail⟩ := once
          have final := ih tail (List.cons_ne_nil _ _)
          have nothing : direction.delta (observeNext observedAt row raw) = 0 := by
            cases direction with
            | up => exact up
            | down => exact down
          rw [Option.getD_some, Direction.total_observeNext, nothing, Int64.add_zero] at final
          exact final

/-- The loop of `ApplyTrafficRawStats` leaves the other buckets of a key alone, and in the
bucket of the batch what its last reading counts. -/
theorem applyTrafficLoop_samples (key : TrafficKey) (direction : Direction) (observedAt sampledAt : Int) (stats : List TrafficRawStat) (tx : TrafficTx) :
    let after := stats.foldl (applyTrafficRawStat observedAt sampledAt) tx
    otherBuckets key direction sampledAt after.store = otherBuckets key direction sampledAt tx.store ∧
      bucketCount key direction sampledAt after.store =
        if stats.filter (fun raw => raw.key = key) = [] then bucketCount key direction sampledAt tx.store
        else (direction.delta ((after.states key).getD .zero)).toInt := by
  induction stats generalizing tx with
  | nil => exact ⟨rfl, rfl⟩
  | cons raw rest ih =>
      intro after
      obtain ⟨tailOthers, tailBucket⟩ := ih (applyTrafficRawStat observedAt sampledAt tx raw)
      have written : (applyTrafficRawStat observedAt sampledAt tx raw).store.trafficSamples =
          tx.store.trafficSamples.upsert
            (trafficSampleOf sampledAt (observeTraffic observedAt (tx.states raw.key) raw)) := rfl
      by_cases same : raw.key = key
      · obtain ⟨headOthers, headBucket⟩ := sampleSum_upsert direction written same
        refine ⟨tailOthers.trans headOthers, tailBucket.trans ?_⟩
        rw [List.filter_cons_of_pos (by simpa using same), if_neg (List.cons_ne_nil _ _)]
        split
        · rename_i last
          have states : after.states key = some (observeNext observedAt (tx.states raw.key) raw) := by
            have kept : after.states key = _ := applyTrafficLoop_states observedAt sampledAt rest
              (applyTrafficRawStat observedAt sampledAt tx raw)
            rw [last, List.foldl_nil] at kept
            have next := (applyTrafficRawStat_same observedAt sampledAt tx raw).2
            rw [same] at next
            rw [same]
            exact kept.trans next
          rw [states, Option.getD_some]
          rw [Direction.ofSample_of] at headBucket
          exact headBucket.trans (by cases direction <;> rfl)
        · rfl
      · obtain ⟨headOthers, headBucket⟩ := sampleSum_upsert_other direction sampledAt written same
        refine ⟨tailOthers.trans headOthers, tailBucket.trans ?_⟩
        rw [List.filter_cons_of_neg (by simpa using same), headBucket]
        rfl

/-- A batch that spares a key repairs none of its samples. -/
theorem repairCandidates_samples {seenAt sampledAt : Int} {candidates : List SingleClientInbound} {tx : TrafficTx}
    (spared : ∀ candidate ∈ candidates, candidate.clientStateKey = key →
      pollutedClient tx.states candidate = none) :
    sampleSum key direction (candidates.foldl (repairCandidate seenAt sampledAt) tx).store =
      sampleSum key direction tx.store := by
  rw [repairCandidates_skip spared]
  have others : ∀ candidate ∈ candidates.filter (fun candidate => candidate.clientStateKey ≠ key),
      candidate.clientStateKey ≠ key := by
    intro candidate member
    simpa using (List.mem_filter.mp member).2
  generalize candidates.filter (fun candidate => candidate.clientStateKey ≠ key) = rest at others
  clear spared
  induction rest generalizing tx with
  | nil => rfl
  | cons candidate rest ih =>
      refine (ih fun other member => others other (List.mem_cons_of_mem _ member)).trans ?_
      unfold repairCandidate
      cases pollutedClient tx.states candidate with
      | none => rfl
      | some found =>
          exact sampleSum_of_other rfl (others candidate List.mem_cons_self)

/-! ### Retention -/

/-- A cleanup at a time spares a key: it is not due yet, or none of the key's samples, nor one
written now, has expired. -/
def RetentionSpares (key : TrafficKey) (observedAt sampledAt : Int) (store : Store) : Prop :=
  let expired := expiredSample (observedAt - trafficSamplesRetention) (observedAt - trafficSamplesHotRetention)
  (isZero store.nextTrafficSamplesCleanup = false ∧ observedAt < store.nextTrafficSamplesCleanup) ∨
    (∀ sample ∈ store.trafficSamples.rows, sample.key.2 = key → expired sample = false) ∧
      expired { (default : TrafficSample) with sampledAt } = false

instance (key : TrafficKey) (observedAt sampledAt : Int) (store : Store) :
    Decidable (RetentionSpares key observedAt sampledAt store) := by
  unfold RetentionSpares
  infer_instance

theorem RetentionSpares.upsert {observedAt sampledAt : Int} {sample : TrafficSample} {after : Store}
    (spares : RetentionSpares key observedAt sampledAt store) (bucket : sample.sampledAt = sampledAt)
    (written : after.trafficSamples = store.trafficSamples.upsert sample)
    (clock : after.nextTrafficSamplesCleanup = store.nextTrafficSamplesCleanup) :
    RetentionSpares key observedAt sampledAt after := by
  unfold RetentionSpares at *
  rw [clock]
  rcases spares with early | ⟨stored, fresh⟩
  · exact .inl early
  · refine .inr ⟨?_, fresh⟩
    intro other member named
    have found := Table.find?_of_mem member
    rw [written, Table.find?_upsert] at found
    split at found
    · cases found
      simpa only [expiredSample, bucket] using fresh
    · exact stored other (Table.mem_of_find? found) named

theorem RetentionSpares.cleanup {observedAt sampledAt : Int}
    (spares : RetentionSpares key observedAt sampledAt store) :
    sampleSum key direction (cleanupTrafficSamples observedAt store) = sampleSum key direction store := by
  unfold cleanupTrafficSamples
  rcases spares with ⟨started, early⟩ | ⟨stored, _⟩
  · simp [started, early]
  · split
    · rfl
    · apply Table.sum_deleteWhere
      intro sample member expired
      by_cases named : sample.key.2 = key
      · rw [stored sample member named] at expired
        cases expired
      · simp [countedFor, named]

theorem RetentionSpares.applyLoop {observedAt sampledAt : Int} {stats : List TrafficRawStat} {tx : TrafficTx}
    (spares : RetentionSpares key observedAt sampledAt tx.store) :
    RetentionSpares key observedAt sampledAt (stats.foldl (applyTrafficRawStat observedAt sampledAt) tx).store := by
  induction stats generalizing tx with
  | nil => exact spares
  | cons raw rest ih =>
      apply ih
      exact spares.upsert rfl rfl rfl

theorem RetentionSpares.repair {observedAt sampledAt : Int} {candidates : List SingleClientInbound}
    {tx : TrafficTx} (spares : RetentionSpares key observedAt sampledAt tx.store) :
    RetentionSpares key observedAt sampledAt
      (candidates.foldl (repairCandidate observedAt sampledAt) tx).store := by
  induction candidates generalizing tx with
  | nil => exact spares
  | cons candidate rest ih =>
      apply ih
      unfold repairCandidate
      cases pollutedClient tx.states candidate with
      | none => exact spares
      | some found => exact spares.upsert rfl rfl rfl

theorem RetentionSpares.markAll {observedAt sampledAt : Int} {states : TrafficStates}
    {markers : List TrafficStatusMarker} (spares : RetentionSpares key observedAt sampledAt store) :
    RetentionSpares key observedAt sampledAt
      (markers.foldl (markTrafficScope observedAt sampledAt states) store) := by
  induction markers generalizing store with
  | nil => exact spares
  | cons marker rest ih =>
      apply ih
      exact spares.upsert rfl rfl rfl

/-! ### Runs -/

/-- The bucket of a time counts nothing for the key yet. -/
def BucketClear (key : TrafficKey) (sampledAt : Int) (store : Store) : Prop :=
  bucketCount key .up sampledAt store = 0 ∧ bucketCount key .down sampledAt store = 0

theorem BucketClear.count {sampledAt : Int} (clear : BucketClear key sampledAt store) :
    bucketCount key direction sampledAt store = 0 := by
  cases direction with
  | up => exact clear.1
  | down => exact clear.2

/-- An operation loses no delta of the key: it writes into no bucket that counts something
already, and its cleanup and its repair spare the key. -/
def LedgerOp.LosesNothing (key : TrafficKey) (store : Store) : LedgerOp → Prop
  | .applyRawStats now stats observedAt =>
      let seenAt := observationTime now observedAt
      let sampledAt := trafficSampleBucket now seenAt
      reconciles now stats observedAt store key = false ∧
      (readingsOf key stats ≠ [] → BucketClear key sampledAt store) ∧
      CountsOnce seenAt (store.trafficStates.find? key) (readingsOf key stats) ∧
      RetentionSpares key seenAt sampledAt store
  | .markScopeStatus now markers observedAt =>
      let seenAt := observationTime now observedAt
      let sampledAt := trafficSampleBucket now seenAt
      (markersOf key markers ≠ [] → BucketClear key sampledAt store) ∧
      RetentionSpares key seenAt sampledAt store
  | .markUnavailable .. => True

instance (key : TrafficKey) (store : Store) : (op : LedgerOp) → Decidable (op.LosesNothing key store)
  | .applyRawStats .. => inferInstanceAs (Decidable (_ ∧ (_ → _ ∧ _) ∧ _))
  | .markScopeStatus .. => inferInstanceAs (Decidable ((_ → _ ∧ _) ∧ _))
  | .markUnavailable .. => .isTrue trivial

/-- Every operation of a run loses nothing where it runs. -/
def LosesNothing (key : TrafficKey) : Store → List LedgerOp → Prop
  | _, [] => True
  | store, op :: rest => op.LosesNothing key store ∧ LosesNothing key (op.run store) rest

instance decidableLosesNothing (key : TrafficKey) : (store : Store) → (ops : List LedgerOp) →
    Decidable (LosesNothing key store ops)
  | _, [] => .isTrue trivial
  | store, op :: rest =>
      have := decidableLosesNothing key (op.run store) rest
      inferInstanceAs (Decidable (_ ∧ _))

/-- The total of the key's row. -/
def totalOf (key : TrafficKey) (direction : Direction) (store : Store) : Int64 :=
  direction.total ((store.trafficStates.find? key).getD .zero)

/-- What an operation adds to the total of a key it adds to the samples. -/
def AddsAlike (key : TrafficKey) (direction : Direction) (before after : Store) : Prop :=
  ∃ added : Int, totalOf key direction after = totalOf key direction before + Int64.ofInt added ∧
    sampleSum key direction after = sampleSum key direction before + added

theorem AddsAlike.nothing {after : Store}
    (total : totalOf key direction after = totalOf key direction store)
    (samples : sampleSum key direction after = sampleSum key direction store) :
    AddsAlike key direction store after :=
  ⟨0, by rw [total]; exact (Int64.add_zero _).symm, by omega⟩

theorem total_unsaid {left right : Option TrafficState}
    (same : left.map TrafficState.unsaid = right.map TrafficState.unsaid) :
    direction.total (left.getD .zero) = direction.total (right.getD .zero) := by
  have unsaid : ∀ row : TrafficState, direction.total row.unsaid = direction.total row := by
    intro row
    cases direction <;> rfl
  cases left with
  | none =>
      cases right with
      | none => rfl
      | some row => cases same
  | some row =>
      cases right with
      | none => cases same
      | some other =>
          rw [Option.map_some, Option.map_some, Option.some.injEq] at same
          rw [Option.getD_some, Option.getD_some, ← unsaid row, same, unsaid]

theorem applyTrafficRawStats_addsAlike {now observedAt : Int} {stats : List TrafficRawStat}
    (losesNothing : (LedgerOp.applyRawStats now stats observedAt).LosesNothing key store) :
    AddsAlike key direction store (applyTrafficRawStats now stats observedAt store) := by
  obtain ⟨spared, clear, once, spares⟩ := losesNothing
  have total : totalOf key direction (applyTrafficRawStats now stats observedAt store) = direction.total
      ((observeAll (observationTime now observedAt) (store.trafficStates.find? key) (readingsOf key stats)).getD
        .zero) :=
    total_unsaid (applyTrafficRawStats_unsaid spared)
  by_cases empty : normalizeTrafficRawStats stats = []
  · have same : applyTrafficRawStats now stats observedAt store = store := by
      simp [applyTrafficRawStats, empty]
    rw [same]
    exact .nothing rfl rfl
  generalize seen : observationTime now observedAt = seenAt at *
  let sampledAt := trafficSampleBucket now seenAt
  let loop := applyTrafficLoop seenAt sampledAt (normalizeTrafficRawStats stats) store
  let repaired := repairPollutedSingleClientTraffic seenAt sampledAt (normalizeTrafficRawStats stats) loop
  have applied : applyTrafficRawStats now stats observedAt store = cleanupTrafficSamples seenAt repaired.store := by
    simp only [applyTrafficRawStats, seen, if_neg empty]
    rfl
  have loopSpares : RetentionSpares key seenAt sampledAt loop.store := RetentionSpares.applyLoop spares
  have repairSpares : RetentionSpares key seenAt sampledAt repaired.store := loopSpares.repair
  have untouched := spared_of_reconciles spared
  rw [seen] at untouched
  have samples : sampleSum key direction (applyTrafficRawStats now stats observedAt store) =
      sampleSum key direction loop.store := by
    rw [applied, repairSpares.cleanup]
    exact repairCandidates_samples untouched
  obtain ⟨others, bucket⟩ := applyTrafficLoop_samples key direction seenAt sampledAt
    (normalizeTrafficRawStats stats) (beginTrafficTx store ((normalizeTrafficRawStats stats).map TrafficRawStat.key))
  by_cases unread : readingsOf key stats = []
  · apply AddsAlike.nothing
    · rw [total, unread]
      rfl
    · rw [samples, sampleSum_eq direction sampledAt, sampleSum_eq direction sampledAt store]
      unfold readingsOf at unread
      rw [if_pos unread] at bucket
      exact congrArg₂ (· + ·) others bucket
  · have listed : key ∈ (normalizeTrafficRawStats stats).map TrafficRawStat.key := by
      obtain ⟨raw, member⟩ := List.exists_mem_of_ne_nil _ unread
      obtain ⟨inside, named⟩ := List.mem_filter.mp member
      exact List.mem_map.mpr ⟨raw, inside, by simpa using named⟩
    have states : loop.states key = observeAll seenAt (store.trafficStates.find? key) (readingsOf key stats) := by
      have final : loop.states key = _ := applyTrafficLoop_states seenAt sampledAt _ _
      rw [final, beginTrafficTx_states listed]
      rfl
    refine ⟨(direction.delta ((observeAll seenAt (store.trafficStates.find? key)
      (readingsOf key stats)).getD .zero)).toInt, ?_, ?_⟩
    · rw [total, once.total unread, Int64.ofInt_toInt]
      rfl
    · rw [samples, sampleSum_eq direction sampledAt, sampleSum_eq direction sampledAt store, (clear unread).count,
        ← states]
      unfold readingsOf at unread
      rw [if_neg unread] at bucket
      have sum := congrArg₂ (· + ·) others bucket
      rw [Int.add_zero]
      exact sum

/-- A marker writes a sample that counts nothing and leaves the total alone. -/
theorem markTrafficScope_samples (key : TrafficKey) (direction : Direction) (observedAt sampledAt : Int)
    (states : TrafficStates) (markers : List TrafficStatusMarker) (store : Store) :
    let after := markers.foldl (markTrafficScope observedAt sampledAt states) store
    otherBuckets key direction sampledAt after = otherBuckets key direction sampledAt store ∧
      bucketCount key direction sampledAt after =
        if markers.filter (fun marker => marker.key = key) = [] then bucketCount key direction sampledAt store
        else 0 := by
  induction markers generalizing store with
  | nil => exact ⟨rfl, rfl⟩
  | cons marker rest ih =>
      intro after
      obtain ⟨tailOthers, tailBucket⟩ := ih (markTrafficScope observedAt sampledAt states store marker)
      by_cases same : marker.key = key
      · obtain ⟨headOthers, headBucket⟩ := @sampleSum_upsert key store direction _
          (markTrafficScope observedAt sampledAt states store marker) rfl same
        refine ⟨tailOthers.trans headOthers, tailBucket.trans ?_⟩
        rw [List.filter_cons_of_pos (by simpa using same), if_neg (List.cons_ne_nil _ _)]
        split
        · refine headBucket.trans ?_
          cases direction <;> rfl
        · rfl
      · obtain ⟨headOthers, headBucket⟩ := @sampleSum_upsert_other key store direction _
          (markTrafficScope observedAt sampledAt states store marker) sampledAt rfl same
        refine ⟨tailOthers.trans headOthers, tailBucket.trans ?_⟩
        rw [List.filter_cons_of_neg (by simpa using same), headBucket]

theorem total_markAll {observedAt : Int} {markers : List TrafficStatusMarker} {row : Option TrafficState} :
    direction.total ((markers.foldl (fun row marker => some (markTraffic observedAt row marker)) row).getD .zero) =
      direction.total (row.getD .zero) := by
  induction markers generalizing row with
  | nil => rfl
  | cons marker rest ih =>
      refine ih.trans ?_
      cases direction <;> rfl

theorem markTrafficScopeStatus_addsAlike {now observedAt : Int} {markers : List TrafficStatusMarker}
    (losesNothing : (LedgerOp.markScopeStatus now markers observedAt).LosesNothing key store) :
    AddsAlike key direction store (markTrafficScopeStatus now markers observedAt store) := by
  obtain ⟨clear, spares⟩ := losesNothing
  have total : totalOf key direction (markTrafficScopeStatus now markers observedAt store) =
      totalOf key direction store := by
    rw [totalOf, markTrafficScopeStatus_find?, total_markAll]
    rfl
  refine .nothing total ?_
  by_cases empty : normalizeTrafficStatusMarkers markers = []
  · simp [markTrafficScopeStatus, empty]
  generalize seen : observationTime now observedAt = seenAt at *
  let sampledAt := trafficSampleBucket now seenAt
  let states := prefetchTrafficStates store ((normalizeTrafficStatusMarkers markers).map TrafficStatusMarker.key)
  let marked := (normalizeTrafficStatusMarkers markers).foldl (markTrafficScope seenAt sampledAt states) store
  have applied : markTrafficScopeStatus now markers observedAt store = cleanupTrafficSamples seenAt marked := by
    simp only [markTrafficScopeStatus, seen, if_neg empty]
    rfl
  have markedSpares : RetentionSpares key seenAt sampledAt marked := spares.markAll
  obtain ⟨others, bucket⟩ := markTrafficScope_samples key direction seenAt sampledAt states
    (normalizeTrafficStatusMarkers markers) store
  rw [applied, markedSpares.cleanup, sampleSum_eq direction sampledAt, sampleSum_eq direction sampledAt store]
  by_cases unmarked : markersOf key markers = []
  · unfold markersOf at unmarked
    rw [if_pos unmarked] at bucket
    exact congrArg₂ (· + ·) others bucket
  · rw [(clear unmarked).count]
    unfold markersOf at unmarked
    rw [if_neg unmarked] at bucket
    exact congrArg₂ (· + ·) others bucket

theorem LedgerOp.addsAlike {op : LedgerOp} (direction : Direction) (losesNothing : op.LosesNothing key store) :
    AddsAlike key direction store (op.run store) := by
  cases op with
  | applyRawStats now stats observedAt => exact applyTrafficRawStats_addsAlike losesNothing
  | markScopeStatus now markers observedAt => exact markTrafficScopeStatus_addsAlike losesNothing
  | markUnavailable now engine status message observedAt =>
      apply AddsAlike.nothing
      · rw [totalOf, LedgerOp.run, markTrafficUnavailable_find?]
        split
        · cases stored : store.trafficStates.find? key with
          | none => simp [totalOf, stored]
          | some row => simp only [totalOf, stored]; cases direction <;> rfl
        · rfl
      · simp only [LedgerOp.run, markTrafficUnavailable]
        split <;> rfl

theorem runLedger_addsAlike {ops : List LedgerOp} (direction : Direction) (losesNothing : LosesNothing key store ops) :
    AddsAlike key direction store (runLedger ops store) := by
  induction ops generalizing store with
  | nil => exact .nothing rfl rfl
  | cons op rest ih =>
      obtain ⟨first, firstTotal, firstSamples⟩ := op.addsAlike direction losesNothing.1
      obtain ⟨later, laterTotal, laterSamples⟩ := ih losesNothing.2
      refine ⟨first + later, ?_, ?_⟩
      · refine laterTotal.trans ?_
        rw [firstTotal, Int64.ofInt_add, Int64.add_assoc]
      · refine laterSamples.trans ?_
        omega

end MiGate.Traffic
