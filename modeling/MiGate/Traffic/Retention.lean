import MiGate.Db.TrafficAnalytics
import MiGate.Traffic.Samples

namespace MiGate.Traffic

open Db Go Relational

/-! What the retention cleanup does to the usage the analytics views report. -/

def Direction.ofReport : Direction → AnalyticsSample → Int
  | .up, row => row.deltaUp
  | .down, row => row.deltaDown

/-- The samples the query puts into one bucket of a key. -/
def inBucket (params : TrafficAnalyticsSampleParams) (bucket : Int) (key : TrafficKey)
    (sample : TrafficSample) : Bool :=
  inAnalyticsWindow params sample && analyticsGroup params sample = (bucket, key)

/-- What a direction counts over some samples. -/
def countOf (direction : Direction) (samples : List TrafficSample) : Int :=
  (samples.map fun sample => (direction.ofSample sample).toInt).sum

variable {params : TrafficAnalyticsSampleParams} {direction : Direction} {bucket : Int} {key : TrafficKey}
  {store : Store}

private theorem filter_of_nodup {α : Type} [DecidableEq α] {items : List α} (wanted : α) (distinct : items.Nodup) :
    items.filter (fun item => item = wanted) = if wanted ∈ items then [wanted] else [] := by
  induction items with
  | nil => rfl
  | cons first rest ih =>
      obtain ⟨absent, restDistinct⟩ := List.nodup_cons.mp distinct
      by_cases same : first = wanted
      · subst same
        simp [ih restDistinct, absent]
      · simp [ih restDistinct, same, Ne.symm same]

/-- What the query reports for a bucket of a key is what its samples in the window count. -/
theorem reported_eq : reported direction.ofReport bucket key (listTrafficAnalyticsSamples params store) =
    countOf direction (store.trafficSamples.rows.filter (inBucket params bucket key)) := by
  let selected := store.trafficSamples.rows.filter (inAnalyticsWindow params)
  let groups := ((selected.map (analyticsGroup params)).dedup).mergeSort analyticsOrder
  have distinct : groups.Nodup := (List.mergeSort_perm _ _).nodup_iff.mpr (List.nodup_dedup _)
  have mine : (fun row : AnalyticsSample => decide (row.bucketUnix = bucket) && decide (row.key = key)) ∘
      (fun group => summarizeSamples group (selected.filter fun sample => analyticsGroup params sample = group)) =
      fun group => decide (group = (bucket, key)) := by
    funext group
    simp [summarizeSamples, Prod.ext_iff]
  have rows : (selected.filter fun sample => analyticsGroup params sample = (bucket, key)) =
      store.trafficSamples.rows.filter (inBucket params bucket key) := by
    rw [List.filter_filter]
    congr 1
    funext sample
    rw [inBucket, Bool.and_comm]
  rw [reported, listTrafficAnalyticsSamples, List.filter_map, mine, filter_of_nodup _ distinct]
  split
  · rw [← rows]
    cases direction <;> simp [countOf, Direction.ofReport, Direction.ofSample, summarizeSamples, selected]
  · rename_i absent
    have none : (selected.filter fun sample => analyticsGroup params sample = (bucket, key)) = [] := by
      rw [List.filter_eq_nil_iff]
      intro sample member
      simp only [decide_eq_true_eq]
      intro same
      apply absent
      rw [List.mem_mergeSort, List.mem_dedup]
      exact List.mem_map.mpr ⟨sample, member, same⟩
    rw [← rows, none]
    rfl

/-- A sample past the hot retention that does not start five minutes: the cleanup thins it out. -/
def thinned (observedAt : Int) (sample : TrafficSample) : Bool :=
  sample.sampledAt / second < (observedAt - trafficSamplesHotRetention) / second &&
    sample.sampledAt / second % 300 ≠ 0

/-- Samples stand on the five-second grid, within the years RFC 3339 can write. -/
structure OnGrid (store : Store) : Prop where
  grid : ∀ sample ∈ store.trafficSamples.rows, sample.sampledAt % trafficSampleBucketSize = 0
  years : ∀ sample ∈ store.trafficSamples.rows, InYears sample.sampledAt

def cleanupDue (observedAt : Int) (store : Store) : Bool :=
  isZero store.nextTrafficSamplesCleanup || !(observedAt < store.nextTrafficSamplesCleanup)

/-- In a window that ends after the cleanup and reaches no further back than retention, the
cleanup drops exactly the thinned samples. -/
theorem expiredSample_eq_thinned {observedAt : Int} {sample : TrafficSample}
    (grid : sample.sampledAt % trafficSampleBucketSize = 0) (years : InYears sample.sampledAt)
    (first : InYears (observedAt - trafficSamplesRetention)) (last : InYears observedAt)
    (recent : (observedAt - trafficSamplesRetention) / second ≤ sample.sampledAt / second) :
    expiredSample (observedAt - trafficSamplesRetention) (observedAt - trafficSamplesHotRetention) sample =
      thinned observedAt sample := by
  have whole : sample.sampledAt % second = 0 := by
    unfold trafficSampleBucketSize second at *
    omega
  have hotYears : InYears (observedAt - trafficSamplesHotRetention) := by
    unfold InYears trafficSamplesRetention trafficSamplesHotRetention hour minute second at *
    omega
  have kept : ¬rfc3339Nano sample.sampledAt < rfc3339Nano (observedAt - trafficSamplesRetention) := by
    rw [rfc3339Nano_lt_iff years first whole]
    omega
  have boundary : (minuteOf sample.sampledAt % 5 ≠ 0 ∨ secondOf sample.sampledAt ≠ 0) ↔
      sample.sampledAt / second % 300 ≠ 0 := by
    unfold minuteOf secondOf minute second
    omega
  rw [Bool.eq_iff_iff]
  simp only [expiredSample, thinned, Bool.or_eq_true, Bool.and_eq_true, decide_eq_true_eq, kept, false_or,
    rfc3339Nano_lt_iff years hotYears whole, boundary]

theorem duration_le_retention {rangeKey : String} {duration bucketSeconds : Int}
    (range : trafficAnalyticsRange rangeKey = .ok (duration, bucketSeconds)) :
    0 ≤ duration ∧ duration ≤ trafficSamplesRetention := by
  unfold trafficAnalyticsRange at range
  unfold trafficSamplesRetention hour minute second at *
  split at range
  · cases range; omega
  split at range
  · cases range; omega
  split at range
  · cases range; omega
  split at range
  · cases range; omega
  · cases range

theorem countOf_split (direction : Direction) (dropped : TrafficSample → Bool) (samples : List TrafficSample) :
    countOf direction samples =
      countOf direction (samples.filter fun sample => !dropped sample) +
        countOf direction (samples.filter dropped) := by
  induction samples with
  | nil => rfl
  | cons sample rest ih =>
      unfold countOf at *
      cases drop : dropped sample <;> simp [drop] <;> omega

/-- The cleanup leaves what a view reports for a bucket of a key alone exactly when it is not
due, or the samples of the bucket that it thins out count nothing together. -/
theorem retention_keeps_report {observedAt now duration bucketSeconds : Int} (rangeKey scopeType : String)
    (onGrid : OnGrid store) (range : trafficAnalyticsRange rangeKey = .ok (duration, bucketSeconds))
    (first : InYears (observedAt - trafficSamplesRetention)) (last : InYears now) (later : observedAt ≤ now)
    (bucket : Int) (key : TrafficKey) (direction : Direction) :
    let params : TrafficAnalyticsSampleParams := ⟨scopeType, now - duration, now, bucketSeconds⟩
    reported direction.ofReport bucket key
        (listTrafficAnalyticsSamples params (cleanupTrafficSamples observedAt store)) =
      reported direction.ofReport bucket key (listTrafficAnalyticsSamples params store) ↔
    cleanupDue observedAt store = false ∨
      countOf direction ((store.trafficSamples.rows.filter (inBucket params bucket key)).filter
        (thinned observedAt)) = 0 := by
  intro params
  rw [reported_eq, reported_eq]
  cases due : cleanupDue observedAt store with
  | false =>
      have idle : cleanupTrafficSamples observedAt store = store := by
        unfold cleanupTrafficSamples
        unfold cleanupDue at due
        simp_all
      simp [idle]
  | true =>
      have lastYears : InYears observedAt := by
        unfold InYears trafficSamplesRetention hour minute second at *
        omega
      have sinceYears : InYears (now - duration) := by
        have bounds := duration_le_retention range
        unfold InYears trafficSamplesRetention hour minute second at *
        omega
      have drops : ∀ sample ∈ store.trafficSamples.rows, inBucket params bucket key sample = true →
          expiredSample (observedAt - trafficSamplesRetention) (observedAt - trafficSamplesHotRetention) sample =
            thinned observedAt sample := by
        intro sample member inside
        have grid := onGrid.grid sample member
        have years := onGrid.years sample member
        have whole : sample.sampledAt % second = 0 := by
          unfold trafficSampleBucketSize second at *
          omega
        apply expiredSample_eq_thinned grid years first lastYears
        simp only [inBucket, inAnalyticsWindow, Bool.and_eq_true, Bool.not_eq_true', decide_eq_false_iff_not,
          decide_eq_true_eq] at inside
        have since := inside.1.1.2
        rw [rfc3339Nano_lt_iff years sinceYears whole] at since
        have bounds := duration_le_retention range
        unfold second at *
        omega
      have cleaned : (cleanupTrafficSamples observedAt store).trafficSamples.rows.filter
          (inBucket params bucket key) =
          (store.trafficSamples.rows.filter (inBucket params bucket key)).filter
            fun sample => !thinned observedAt sample := by
        have rows : (cleanupTrafficSamples observedAt store).trafficSamples.rows =
            store.trafficSamples.rows.filter fun sample =>
              !expiredSample (observedAt - trafficSamplesRetention) (observedAt - trafficSamplesHotRetention) sample := by
          unfold cleanupTrafficSamples
          unfold cleanupDue at due
          split
          · rename_i early
            simp only [Bool.and_eq_true, Bool.not_eq_true', decide_eq_true_eq] at early
            simp [early.1, early.2] at due
          · rfl
        rw [rows, List.filter_filter, List.filter_filter]
        apply List.filter_congr
        intro sample member
        cases inside : inBucket params bucket key sample with
        | true => rw [drops sample member inside, Bool.and_comm]
        | false => simp
      rw [cleaned, countOf_split direction (thinned observedAt)
        (store.trafficSamples.rows.filter (inBucket params bucket key))]
      simp

/-! ### A week's usage thinned out -/

/-- The fifth of May 2024, two in the afternoon and five seconds. -/
def exampleColdAt : Int := 1714917605 * second

/-- A store whose one sample counts 100 bytes up. -/
def exampleColdStore : Store :=
  { Store.empty with
    trafficSamples := Table.empty.upsert
      { (default : TrafficSample) with
        sampledAt := exampleColdAt, engine := "xray", scopeType := "client", scopeKey := "c_1"
        deltaUp := 100, status := "ok" } }

/-- What the seven day view reports of the example's bucket. -/
def exampleReport (store : Store) (now : Int) : Int :=
  reported Direction.up.ofReport 1714917600 ⟨"xray", "client", "c_1"⟩
    (listTrafficAnalyticsSamples ⟨"client", now - 7 * 24 * hour, now, 3600⟩ store)

/-- A day and an hour later the cleanup drops the sample, and the seven day view loses the
100 bytes it reported before. -/
theorem thinning_loses_usage :
    let observedAt := exampleColdAt + 25 * hour
    exampleReport exampleColdStore observedAt = 100 ∧
      exampleReport (cleanupTrafficSamples observedAt exampleColdStore) observedAt = 0 := by
  intro observedAt
  simp only [exampleReport, reported_eq]
  with_unfolding_all decide

/-- Within the hot retention the views lose nothing. -/
theorem retention_keeps_report_hot :
    let observedAt := exampleColdAt + 23 * hour
    exampleReport (cleanupTrafficSamples observedAt exampleColdStore) observedAt =
      exampleReport exampleColdStore observedAt := by
  intro observedAt
  have onGrid : OnGrid exampleColdStore := by
    constructor <;> decide
  apply (retention_keeps_report "7d" "client" onGrid (by decide) (by decide) (by decide)
    (Int.le_refl _) 1714917600 ⟨"xray", "client", "c_1"⟩ .up).mpr
  right
  with_unfolding_all decide

end MiGate.Traffic
