import MiGate.Web.TrafficTotals

namespace MiGate.Web

open Go Db Relational Traffic

/-! The cumulative charts: what they show while samples of some keys are missing. -/

def totalOf : Direction → ReturnedSample → Int64
  | .up, sample => sample.totalUp
  | .down, sample => sample.totalDown

/-- The samples are at the starts of the buckets of the series. -/
def AtBuckets (bucketSeconds : Int) (samples : List ReturnedSample) : Prop :=
  ∀ sample ∈ samples, ∃ bucket, InYears (bucket * seriesSize bucketSeconds * second) ∧
    sample.sampledAt = rfc3339 (bucket * seriesSize bucketSeconds * second)

/-- Rows of the query in which a key has the samples of one engine. -/
structure BucketedSamples (scopeType : String) (bucketSeconds : Int) (samples : List ReturnedSample) : Prop
    extends ReturnedSamples scopeType samples where
  timed : AtBuckets bucketSeconds samples
  oneEngine : ∀ left ∈ samples, ∀ right ∈ samples, left.scopeKey = right.scopeKey → left.engine = right.engine

/-- The totals of a key never fall. -/
def NeverFalls (samples : List ReturnedSample) : Prop :=
  ∀ direction, ∀ earlier ∈ samples, ∀ later ∈ samples, earlier.scopeKey = later.scopeKey →
    earlier.sampledAt ≤ later.sampledAt → totalOf direction earlier ≤ totalOf direction later

def countsAt (time : String) (sample : ReturnedSample) : Bool :=
  trafficSampleCanAggregate sample && sample.sampledAt == time

/-- No later sample of the key can be aggregated. -/
def isLatest (samples : List ReturnedSample) (sample : ReturnedSample) : Bool :=
  trafficSampleCanAggregate sample && samples.all fun other =>
    !(trafficSampleCanAggregate other && other.scopeKey == sample.scopeKey) || decide (other.sampledAt ≤ sample.sampledAt)

/-- The latest totals of all keys. -/
def latestTotals (direction : Direction) (samples : List ReturnedSample) : Int64 :=
  tally (totalOf direction) (isLatest samples) samples

/-- The key has a sample that counts at a time. -/
def presentAt (samples : List ReturnedSample) (time scopeKey : String) : Bool :=
  samples.any fun sample => countsAt time sample && sample.scopeKey == scopeKey

/-- What the keys that are missing from the later bucket held in the earlier one. -/
def missingTotal (direction : Direction) (samples : List ReturnedSample) (earlier later : String) : Int64 :=
  tally (totalOf direction) (fun sample => countsAt earlier sample && !presentAt samples later sample.scopeKey) samples

/-- The latest totals of the keys that are missing from a bucket. -/
def absentTotals (direction : Direction) (samples : List ReturnedSample) (time : String) : Int64 :=
  tally (totalOf direction) (fun sample => isLatest samples sample && !presentAt samples time sample.scopeKey) samples

/-- The totals are those of counters, and a bucket adds up to less than 2^63. -/
def FitsBuckets (samples : List ReturnedSample) : Prop :=
  ∀ direction, (∀ sample ∈ samples, 0 ≤ totalOf direction sample) ∧
    ∀ time, ((samples.filter (countsAt time)).map fun sample => (totalOf direction sample).toInt).sum < 2 ^ 63

section

variable {direction : Direction} {samples : List ReturnedSample} {sample other : ReturnedSample} {bucketSeconds : Int}
  {scopeType time : String}

/-! ### Times -/

theorem BucketedSamples.years (bucketed : BucketedSamples scopeType bucketSeconds samples) (member : sample ∈ samples) :
    ∃ unix, InYears (unix * second) ∧ sample.sampledAt = rfc3339 (unix * second) := by
  obtain ⟨bucket, inYears, text⟩ := bucketed.timed sample member
  exact ⟨bucket * seriesSize bucketSeconds, inYears, text⟩

/-- A sample counts in the point of its own time. -/
theorem pointTime_eq (bucketed : BucketedSamples scopeType bucketSeconds samples) (member : sample ∈ samples) :
    pointTime bucketSeconds sample = if trafficSampleCanAggregate sample then some sample.sampledAt else none := by
  obtain ⟨bucket, inYears, text⟩ := bucketed.timed sample member
  have whole : (bucket * seriesSize bucketSeconds).tdiv (seriesSize bucketSeconds) * seriesSize bucketSeconds =
      bucket * seriesSize bucketSeconds := by
    rw [Int.mul_tdiv_cancel _ (seriesSize_pos bucketSeconds).ne']
  change (seriesBucket (seriesSize bucketSeconds) sample).map _ = _
  rw [seriesBucket_eq text inYears, whole]
  cases trafficSampleCanAggregate sample with
  | false => rfl
  | true => rw [if_pos rfl, if_pos rfl, Option.map_some, text]

theorem countsAt_iff : countsAt time sample = true ↔ trafficSampleCanAggregate sample = true ∧ sample.sampledAt = time := by
  rw [countsAt, Bool.and_eq_true, beq_iff_eq]

theorem countsAt_eq (bucketed : BucketedSamples scopeType bucketSeconds samples) (member : sample ∈ samples) :
    decide (pointTime bucketSeconds sample = some time) = countsAt time sample := by
  rw [Bool.eq_iff_iff, decide_eq_true_eq, pointTime_eq bucketed member, countsAt_iff]
  cases trafficSampleCanAggregate sample <;> simp

/-- A key has one sample at a time. -/
theorem BucketedSamples.eq_of_key (bucketed : BucketedSamples scopeType bucketSeconds samples) (member : sample ∈ samples)
    (otherMember : other ∈ samples) (key : sample.scopeKey = other.scopeKey) (times : sample.sampledAt = other.sampledAt) :
    sample = other := by
  refine List.inj_on_of_nodup_map bucketed.distinct member otherMember ?_
  rw [ReturnedSample.point, ReturnedSample.point, times, bucketed.oneEngine sample member other otherMember key, key]

/-! ### The series -/

def cumulativePart (direction : Direction) (value : Int64 × Int64) : Int64 :=
  match direction with
  | .up => value.1
  | .down => value.2

/-- What a bucket shows in the end. -/
def heldTotal (direction : Direction) (bucket : BucketValue) : Int64 :=
  bucketAmount direction bucket + (bucket.cumulative.map fun entry => cumulativePart direction entry.2).sum

theorem sum_modify {held : List (String × (Int64 × Int64))} {key : String} {value : Int64 × Int64}
    (absent : key ∉ held.map Prod.fst) :
    ((Relational.modify key (0, 0) (fun _ => value) held).map fun entry => cumulativePart direction entry.2).sum =
      (held.map fun entry => cumulativePart direction entry.2).sum + cumulativePart direction value := by
  induction held with
  | nil => simp [Relational.modify]
  | cons entry rest ih =>
      obtain ⟨other, kept⟩ := entry
      have different : other ≠ key := fun same => absent (same ▸ List.mem_cons_self)
      rw [Relational.modify, if_neg different, List.map_cons, List.sum_cons, List.map_cons, List.sum_cons,
        ih fun inside => absent (List.mem_cons_of_mem _ inside), add_assoc]

/-- As long as no key comes twice a bucket adds up the totals. -/
theorem heldTotal_foldl {taken : List ReturnedSample} {bucket : BucketValue}
    (distinct : (taken.map ReturnedSample.scopeKey).Nodup)
    (fresh : ∀ sample ∈ taken, sample.scopeKey ∉ bucket.cumulative.map Prod.fst) :
    heldTotal direction (taken.foldl (addToBucket "cumulative") bucket) =
      heldTotal direction bucket + (taken.map (totalOf direction)).sum := by
  induction taken generalizing bucket with
  | nil => exact (add_zero _).symm
  | cons first rest ih =>
      obtain ⟨alone, apart⟩ := List.nodup_cons.mp distinct
      have absent := fresh first List.mem_cons_self
      have added : heldTotal direction (addToBucket "cumulative" bucket first) =
          heldTotal direction bucket + totalOf direction first := by
        have amount : bucketAmount direction (addToBucket "cumulative" bucket first) = bucketAmount direction bucket := by
          cases direction <;> rfl
        have kept : (addToBucket "cumulative" bucket first).cumulative =
            Relational.modify first.scopeKey (0, 0) (fun _ => (first.totalUp, first.totalDown)) bucket.cumulative := rfl
        have part : cumulativePart direction (first.totalUp, first.totalDown) = totalOf direction first := by
          cases direction <;> rfl
        rw [heldTotal, amount, kept, sum_modify absent, part, ← add_assoc]
        rfl
      rw [List.foldl_cons, ih apart, added, List.map_cons, List.sum_cons, add_assoc]
      intro later inside
      have kept : (addToBucket "cumulative" bucket first).cumulative.map Prod.fst =
          bucket.cumulative.map Prod.fst ++ [first.scopeKey] := by
        change (Relational.modify _ _ _ bucket.cumulative).map Prod.fst = _
        rw [keys_modify, if_neg absent]
      rw [kept, List.mem_append, List.mem_singleton]
      intro found
      rcases found with old | same
      · exact fresh later (List.mem_cons_of_mem _ inside) old
      · exact alone (List.mem_map.mpr ⟨later, inside, same⟩)

/-- The points of the cumulative series add up the totals of their buckets. -/
theorem series_totals (bucketed : BucketedSamples scopeType bucketSeconds samples) :
    CountedOnce (pointTime bucketSeconds) (totalOf direction) samples
      ((bucketTrafficAnalyticsSeries samples bucketSeconds "cumulative").map fun point =>
        (point.time, pointAmount direction point)) := by
  refine @series_counted_of samples bucketSeconds "cumulative" (totalOf direction) (heldTotal direction)
    (pointAmount direction) (fun _ => bucketed.years) ?_ ?_
  · refine countedOnce_of_folds fun unix => ?_
    -- In one bucket all samples are of one time, so no key comes twice.
    have times : ∀ sample ∈ samples.filter fun sample => seriesBucket (seriesSize bucketSeconds) sample = some unix,
        sample ∈ samples ∧ pointTime bucketSeconds sample = some sample.sampledAt ∧
          sample.sampledAt = rfc3339 (unix * second) := by
      intro sample taken
      obtain ⟨member, bucket⟩ := List.mem_filter.mp taken
      have found : pointTime bucketSeconds sample = some (rfc3339 (unix * second)) := by
        change (seriesBucket (seriesSize bucketSeconds) sample).map _ = _
        rw [of_decide_eq_true bucket]
        rfl
      have own := pointTime_eq bucketed member
      rw [found] at own
      split at own
      · exact ⟨member, found.trans own, (Option.some.inj own).symm⟩
      · cases own
    have distinct : ((samples.filter fun sample => seriesBucket (seriesSize bucketSeconds) sample = some unix).map
        ReturnedSample.scopeKey).Nodup := by
      refine List.Nodup.map_on ?_ ((List.Nodup.of_map _ bucketed.distinct).filter _)
      intro left leftTaken right rightTaken key
      obtain ⟨leftMember, _, leftTime⟩ := times left leftTaken
      obtain ⟨rightMember, _, rightTime⟩ := times right rightTaken
      exact bucketed.eq_of_key leftMember rightMember key (leftTime.trans rightTime.symm)
    rw [heldTotal_foldl distinct fun _ _ => List.not_mem_nil]
    cases direction <;> exact zero_add _
  · intro unix bucket
    cases direction <;> rfl

/-- A point shows what its bucket adds up to. -/
theorem point_total (bucketed : BucketedSamples scopeType bucketSeconds samples) {point : TrafficV2AnalyticsPoint}
    (member : point ∈ bucketTrafficAnalyticsSeries samples bucketSeconds "cumulative") :
    pointAmount direction point = tally (totalOf direction) (countsAt point.time) samples := by
  have counted : CountedOnce _ (totalOf direction) samples _ := series_totals bucketed
  have amount := counted.amounts _ (List.mem_map_of_mem member)
  refine amount.trans (tally_congr fun sample inside => ?_)
  exact countsAt_eq bucketed inside

/-- The points come in the order of their times. -/
theorem series_ascending (bucketed : BucketedSamples scopeType bucketSeconds samples) :
    (bucketTrafficAnalyticsSeries samples bucketSeconds "cumulative").Pairwise fun left right => left.time < right.time := by
  have years : ∀ entry ∈ seriesBuckets samples bucketSeconds "cumulative", InYears (entry.1 * second) := by
    intro entry inside
    have gathered := (List.mergeSort_perm _ _).mem_iff.mp inside
    obtain ⟨sample, member, bucket⟩ := mem_keys_gather.mp (List.mem_map_of_mem gathered)
    exact seriesBucket_inYears (seriesSize_pos _) (bucketed.years member) bucket
  have distinct : (seriesBuckets samples bucketSeconds "cumulative").Pairwise fun left right => left.1 ≠ right.1 := by
    rw [← List.pairwise_map]
    exact ((List.mergeSort_perm _ _).map _).nodup_iff.mpr keys_gather_nodup
  have sorted : (seriesBuckets samples bucketSeconds "cumulative").Pairwise fun left right => decide (left.1 ≤ right.1) :=
    List.pairwise_mergeSort (fun _ _ _ => by simpa using Int.le_trans) (fun _ _ => by simpa using Int.le_total _ _) _
  rw [bucketTrafficAnalyticsSeries, List.pairwise_map]
  refine (sorted.and distinct).imp_of_mem fun {left right} leftInside rightInside both => ?_
  obtain ⟨before, apart⟩ := both
  have le := of_decide_eq_true before
  have less : left.1 * second / second < right.1 * second / second := by
    unfold second
    omega
  exact (rfc3339_lt_iff (years left leftInside) (years right rightInside)).mpr less

/-! ### What a point may fall by -/

/-- Samples of one bucket add up without wrapping. -/
theorem FitsBuckets.toInt_tally (fits : FitsBuckets samples) {selected : ReturnedSample → Bool}
    (within : ∀ sample, selected sample = true → countsAt time sample = true) :
    (tally (totalOf direction) selected samples).toInt = tally (fun sample => (totalOf direction sample).toInt) selected samples := by
  obtain ⟨counters, bounded⟩ := fits direction
  let amount (sample : ReturnedSample) : Int := (totalOf direction sample).toInt
  have rest : 0 ≤ tally amount (fun sample => countsAt time sample && !selected sample) samples := by
    refine List.sum_nonneg fun value member => ?_
    obtain ⟨sample, taken, rfl⟩ := List.mem_map.mp member
    exact Int64.le_iff_toInt_le.mp (counters sample (List.mem_of_mem_filter taken))
  have fewer : tally amount selected samples ≤ tally amount (countsAt time) samples := by
    have same : tally amount selected samples = tally amount (fun sample => countsAt time sample && selected sample) samples := by
      refine tally_congr fun sample _ => ?_
      cases chosen : selected sample with
      | false => rw [Bool.and_false]
      | true => rw [within sample chosen, Bool.and_true]
    have split : tally amount (countsAt time) samples = _ := tally_split selected
    rw [same]
    omega
  rw [tally, toInt_sum, List.map_map]
  · rfl
  · intro value member
    obtain ⟨sample, taken, rfl⟩ := List.mem_map.mp member
    exact counters sample (List.mem_of_mem_filter taken)
  · rw [List.map_map]
    exact Int.lt_of_le_of_lt fewer (bounded time)

theorem missing_covers (bucketed : BucketedSamples scopeType bucketSeconds samples) (never : NeverFalls samples)
    (fits : FitsBuckets samples) {earlier later : String} (ordered : earlier ≤ later) :
    (tally (totalOf direction) (countsAt earlier) samples).toInt ≤
      (tally (totalOf direction) (countsAt later) samples).toInt + (missingTotal direction samples earlier later).toInt := by
  let amount (sample : ReturnedSample) : Int := (totalOf direction sample).toInt
  have counters : ∀ sample ∈ samples, 0 ≤ amount sample := fun sample member =>
    Int64.le_iff_toInt_le.mp ((fits direction).1 sample member)
  rw [missingTotal, fits.toInt_tally fun _ => id, fits.toInt_tally fun _ => id,
    @FitsBuckets.toInt_tally direction samples earlier fits _ fun _ both => (Bool.and_eq_true_iff.mp both).1,
    tally_split fun sample => presentAt samples later sample.scopeKey]
  refine Int.add_le_add_right ?_ _
  refine @sum_le_of_matched _ _ ReturnedSample.scopeKey amount _ _ ?_ ?_ ?_
  · refine List.Nodup.map_on ?_ ((List.Nodup.of_map _ bucketed.distinct).filter _)
    intro left leftTaken right rightTaken key
    obtain ⟨leftMember, leftCounts⟩ := List.mem_filter.mp leftTaken
    obtain ⟨rightMember, rightCounts⟩ := List.mem_filter.mp rightTaken
    rw [Bool.and_eq_true, countsAt_iff] at leftCounts rightCounts
    exact bucketed.eq_of_key leftMember rightMember key (leftCounts.1.2.trans rightCounts.1.2.symm)
  · intro sample taken
    obtain ⟨member, both⟩ := List.mem_filter.mp taken
    rw [Bool.and_eq_true, countsAt_iff] at both
    obtain ⟨⟨_, now⟩, present⟩ := both
    obtain ⟨other, otherMember, found⟩ := List.any_eq_true.mp present
    rw [Bool.and_eq_true, countsAt_iff, beq_iff_eq] at found
    obtain ⟨⟨usable, thenTime⟩, key⟩ := found
    refine ⟨other, List.mem_filter.mpr ⟨otherMember, countsAt_iff.mpr ⟨usable, thenTime⟩⟩, key, ?_⟩
    exact Int64.le_iff_toInt_le.mp (never direction sample member other otherMember key.symm (by rwa [now, thenTime]))
  · exact fun other taken => counters other (List.mem_of_mem_filter taken)

/-! ### The summary -/

/-- The time of the last point. -/
def lastTime (series : List TrafficV2AnalyticsPoint) : String :=
  (series.getLast?.map TrafficV2AnalyticsPoint.time).getD ""

theorem summary_last (series : List TrafficV2AnalyticsPoint) :
    summaryAmount direction (summarizeTrafficAnalyticsSeries series "cumulative") =
      ((series.getLast?).map (pointAmount direction)).getD 0 := by
  have run : ∀ (points : List TrafficV2AnalyticsPoint) (summary : TrafficV2AnalyticsSummary),
      summaryAmount direction (points.foldl raisePeak summary) = summaryAmount direction summary := by
    intro points
    induction points with
    | nil => exact fun _ => rfl
    | cons point rest ih => exact fun summary => (ih _).trans (raisePeak_amount summary point)
  rw [summarizeTrafficAnalyticsSeries, if_pos rfl]
  cases series.getLast? with
  | none => cases direction <;> rfl
  | some last =>
      dsimp only
      rw [run]
      cases direction <;> rfl

theorem isLatest_iff : isLatest samples sample = true ↔ trafficSampleCanAggregate sample = true ∧
    ∀ other ∈ samples, trafficSampleCanAggregate other = true → other.scopeKey = sample.scopeKey →
      other.sampledAt ≤ sample.sampledAt := by
  simp only [isLatest, Bool.and_eq_true, List.all_eq_true, Bool.or_eq_true, Bool.not_eq_true', Bool.and_eq_false_iff,
    decide_eq_true_eq, beq_eq_false_iff_ne]
  refine and_congr_right fun _ => forall₂_congr fun other _ => ?_
  cases trafficSampleCanAggregate other <;> simp [imp_iff_not_or]

/-- No point is later than the last one. -/
theorem counts_before_last (bucketed : BucketedSamples scopeType bucketSeconds samples) (member : sample ∈ samples)
    (usable : trafficSampleCanAggregate sample = true) :
    sample.sampledAt ≤ lastTime (bucketTrafficAnalyticsSeries samples bucketSeconds "cumulative") := by
  have counted : CountedOnce _ (totalOf .up) samples _ := series_totals bucketed
  have listed : sample.sampledAt ∈ (bucketTrafficAnalyticsSeries samples bucketSeconds "cumulative").map
      TrafficV2AnalyticsPoint.time := by
    have found := (counted.labels sample.sampledAt).mpr
      ⟨sample, member, by rw [pointTime_eq bucketed member, if_pos usable]⟩
    rwa [List.map_map] at found
  have ascending := series_ascending bucketed
  rcases List.eq_nil_or_concat (bucketTrafficAnalyticsSeries samples bucketSeconds "cumulative") with empty | ⟨front, last, split⟩
  · rw [empty] at listed
    cases listed
  · rw [split, List.concat_eq_append] at ascending listed ⊢
    have final : lastTime (front ++ [last]) = last.time := by
      rw [lastTime, List.getLast?_concat]
      rfl
    rw [final]
    obtain ⟨point, inside, named⟩ := List.mem_map.mp listed
    rw [← named]
    rcases List.mem_append.mp inside with before | only
    · exact Std.le_of_lt ((List.pairwise_append.mp ascending).2.2 point before last List.mem_cons_self)
    · exact List.mem_singleton.mp only ▸ String.le_refl _

/-- With the latest totals of the keys that its bucket lacks the summary is the latest totals of all. -/
theorem summary_lacks (bucketed : BucketedSamples scopeType bucketSeconds samples) :
    let series := bucketTrafficAnalyticsSeries samples bucketSeconds "cumulative"
    summaryAmount direction (summarizeTrafficAnalyticsSeries series "cumulative") +
      absentTotals direction samples (lastTime series) = latestTotals direction samples := by
  intro series
  have shown : summaryAmount direction (summarizeTrafficAnalyticsSeries series "cumulative") =
      tally (totalOf direction) (countsAt (lastTime series)) samples := by
    rw [summary_last, lastTime]
    cases ending : series.getLast? with
    | some last => exact point_total bucketed (List.mem_of_getLast? ending)
    | none =>
        refine (tally_none fun sample member => ?_).symm
        rw [← Bool.not_eq_true, countsAt_iff]
        intro counts
        have counted : CountedOnce _ (totalOf .up) samples _ := series_totals bucketed
        have listed := (counted.labels sample.sampledAt).mpr
          ⟨sample, member, by rw [pointTime_eq bucketed member, if_pos counts.1]⟩
        change sample.sampledAt ∈ (series.map _).map Prod.fst at listed
        rw [List.getLast?_eq_none_iff.mp ending] at listed
        cases listed
  -- A key that is present in the last bucket has its latest sample there.
  have present : ∀ sample ∈ samples, countsAt (lastTime series) sample =
      (isLatest samples sample && presentAt samples (lastTime series) sample.scopeKey) := by
    intro sample member
    rw [Bool.eq_iff_iff, countsAt_iff, Bool.and_eq_true, isLatest_iff, presentAt, List.any_eq_true]
    constructor
    · intro counts
      refine ⟨⟨counts.1, fun other inside usable _ => ?_⟩, sample, member, ?_⟩
      · rw [counts.2]
        exact counts_before_last bucketed inside usable
      · rw [Bool.and_eq_true, countsAt_iff, beq_iff_eq]
        exact ⟨counts, rfl⟩
    · intro both
      obtain ⟨⟨usable, latest⟩, other, inside, found⟩ := both
      rw [Bool.and_eq_true, countsAt_iff, beq_iff_eq] at found
      obtain ⟨⟨otherUsable, time⟩, key⟩ := found
      refine ⟨usable, String.le_antisymm (counts_before_last bucketed member usable) ?_⟩
      rw [← time]
      exact latest other inside otherUsable key
  have split : latestTotals direction samples = _ :=
    tally_split fun sample => presentAt samples (lastTime series) sample.scopeKey
  rw [split, shown, tally_congr present]
  rfl

/-! ### The rankings -/

theorem addSample_later {aggregate : RankAggregate} (later : aggregate.latestAt ≤ sample.sampledAt) :
    (RankAggregate.addSample "cumulative" aggregate sample).latestAt = sample.sampledAt ∧
      rankAmount direction (RankAggregate.addSample "cumulative" aggregate sample).rank = totalOf direction sample := by
  have both : ("cumulative" : String) = "cumulative" ∧ aggregate.latestAt ≤ sample.sampledAt := ⟨rfl, later⟩
  unfold RankAggregate.addSample
  simp only [both, and_self, if_true, true_and]
  cases direction <;> rfl

theorem addSample_earlier {aggregate : RankAggregate} (earlier : ¬aggregate.latestAt ≤ sample.sampledAt) :
    (RankAggregate.addSample "cumulative" aggregate sample).latestAt = aggregate.latestAt ∧
      rankAmount direction (RankAggregate.addSample "cumulative" aggregate sample).rank =
        rankAmount direction aggregate.rank := by
  unfold RankAggregate.addSample
  simp only [earlier, and_false, if_false, if_true, true_and]
  cases direction <;> rfl

/-- The loop over the samples of a key holds the totals of the latest one. -/
structure HoldsLatest (direction : Direction) (taken : List ReturnedSample) (held : RankAggregate) : Prop where
  above : ∀ sample ∈ taken, sample.sampledAt ≤ held.latestAt
  shown : ∀ sample ∈ taken, sample.sampledAt = held.latestAt → rankAmount direction held.rank = totalOf direction sample
  attained : taken = [] ∧ held.latestAt = "" ∨ ∃ sample ∈ taken, sample.sampledAt = held.latestAt

theorem empty_le (text : String) : "" ≤ text := by
  rw [← String.not_lt, String.lt_iff]
  exact List.not_lt_nil _

theorem HoldsLatest.add {taken : List ReturnedSample} {held : RankAggregate} (holds : HoldsLatest direction taken held)
    (other : ∀ before ∈ taken, before.sampledAt ≠ sample.sampledAt) :
    HoldsLatest direction (taken ++ [sample]) (RankAggregate.addSample "cumulative" held sample) := by
  by_cases later : held.latestAt ≤ sample.sampledAt
  · obtain ⟨latest, amount⟩ := @addSample_later direction _ _ later
    constructor
    · intro found member
      rw [latest]
      rcases List.mem_append.mp member with before | last
      · exact String.le_trans (holds.above found before) later
      · exact List.mem_singleton.mp last ▸ String.le_refl _
    · intro found member time
      rw [latest] at time
      rcases List.mem_append.mp member with before | last
      · exact absurd time (other found before)
      · rw [List.mem_singleton.mp last]
        exact amount
    · exact .inr ⟨sample, List.mem_append_right _ List.mem_cons_self, latest.symm⟩
  · obtain ⟨latest, amount⟩ := @addSample_earlier direction _ _ later
    constructor
    · intro found member
      rw [latest]
      rcases List.mem_append.mp member with before | last
      · exact holds.above found before
      · rw [List.mem_singleton.mp last]
        exact (String.le_total _ _).resolve_right later
    · intro found member time
      rw [latest] at time
      rw [amount]
      rcases List.mem_append.mp member with before | last
      · exact holds.shown found before time
      · rw [List.mem_singleton.mp last] at time
        exact absurd (time ▸ String.le_refl _) later
    · rcases holds.attained with ⟨_, unset⟩ | ⟨found, inside, time⟩
      · exact absurd (unset ▸ empty_le sample.sampledAt) later
      · exact .inr ⟨found, List.mem_append_left _ inside, time.trans latest.symm⟩

theorem holdsLatest_foldl {taken : List ReturnedSample} {start : RankAggregate}
    (distinct : (taken.map ReturnedSample.sampledAt).Nodup) (blank : start.latestAt = "") :
    HoldsLatest direction taken (taken.foldl (RankAggregate.addSample "cumulative") start) := by
  induction taken using List.reverseRecOn with
  | nil => exact ⟨nofun, nofun, .inl ⟨rfl, blank⟩⟩
  | append_singleton earlier sample ih =>
      rw [List.map_append, List.nodup_append] at distinct
      obtain ⟨apart, _, alone⟩ := distinct
      rw [List.foldl_append]
      exact (ih apart).add fun before inside => alone _ (List.mem_map_of_mem inside) _ List.mem_cons_self

/-- A ranking whose limit leaves all keys amounts to their latest totals. -/
theorem ranks_latest {κ : Type} [DecidableEq κ] {rankKey : ReturnedSample → κ} {known : List (κ × TrafficV2AnalyticsRank)}
    {limit : Nat} (bucketed : BucketedSamples scopeType bucketSeconds samples)
    (listed : ∀ sample ∈ samples, rankKey sample ∈ known.map Prod.fst)
    (keys : ∀ left ∈ samples, ∀ right ∈ samples, rankKey left = rankKey right ↔ left.scopeKey = right.scopeKey)
    (room : ((samples.map rankKey).dedup).length ≤ limit) :
    ((sortedTrafficAnalyticsRanks ((rankSamples scopeType "cumulative" rankKey known samples).map Prod.snd) limit
      "cumulative").map (rankAmount direction)).sum = latestTotals direction samples := by
  let ranked := rankSamples scopeType "cumulative" rankKey known samples
  have touch : ∀ sample ∈ samples, rankTouch scopeType rankKey known sample =
      if trafficSampleCanAggregate sample then some (rankKey sample) else none := fun sample member =>
    rankTouch_eq (bucketed.scopes sample member) (listed sample member)
  have touched : ∀ {sample key}, sample ∈ samples → (rankTouch scopeType rankKey known sample = some key ↔
      trafficSampleCanAggregate sample = true ∧ rankKey sample = key) := by
    intro sample key member
    rw [touch sample member]
    cases trafficSampleCanAggregate sample <;> simp
  -- Under each key stand the totals of its latest sample.
  have described : ∀ entry ∈ ranked, ∃ found ∈ samples, isLatest samples found = true ∧ rankKey found = entry.1 ∧
      rankAmount direction entry.2.rank = totalOf direction found := by
    intro entry inside
    obtain ⟨present, value⟩ := mem_gather.mp inside
    let taken := samples.filter fun sample => rankTouch scopeType rankKey known sample = some entry.1
    have mem_taken : ∀ {sample}, sample ∈ taken ↔ sample ∈ samples ∧ trafficSampleCanAggregate sample = true ∧
        rankKey sample = entry.1 := by
      intro sample
      rw [List.mem_filter, decide_eq_true_eq]
      exact and_congr_right touched
    have distinct : (taken.map ReturnedSample.sampledAt).Nodup := by
      refine List.Nodup.map_on ?_ ((List.Nodup.of_map _ bucketed.distinct).filter _)
      intro left leftTaken right rightTaken time
      obtain ⟨leftMember, _, leftKey⟩ := mem_taken.mp leftTaken
      obtain ⟨rightMember, _, rightKey⟩ := mem_taken.mp rightTaken
      exact bucketed.eq_of_key leftMember rightMember
        ((keys left leftMember right rightMember).mp (leftKey.trans rightKey.symm)) time
    have holds : HoldsLatest direction taken entry.2 := by
      rw [value]
      exact holdsLatest_foldl distinct rfl
    rcases holds.attained with ⟨none, _⟩ | ⟨found, foundTaken, time⟩
    · obtain ⟨sample, member, named⟩ := present
      have inTaken : sample ∈ taken := mem_taken.mpr ⟨member, (touched member).mp named⟩
      rw [none] at inTaken
      cases inTaken
    · obtain ⟨member, usable, key⟩ := mem_taken.mp foundTaken
      refine ⟨found, member, isLatest_iff.mpr ⟨usable, fun other otherMember otherUsable scopeKey => ?_⟩, key,
        holds.shown found foundTaken time⟩
      rw [time]
      refine holds.above other (mem_taken.mpr ⟨otherMember, otherUsable, ?_⟩)
      rw [← key]
      exact (keys other otherMember found member).mpr scopeKey
  have counted : CountedOnce (fun sample => if isLatest samples sample then some (rankKey sample) else none)
      (totalOf direction) samples (ranked.map fun entry => (entry.1, rankAmount direction entry.2.rank)) := by
    constructor
    · rw [List.map_map]
      exact keys_gather_nodup
    · intro key
      rw [List.map_map]
      constructor
      · intro inside
        obtain ⟨entry, entryInside, rfl⟩ := List.mem_map.mp inside
        obtain ⟨found, member, latest, named, _⟩ := described entry entryInside
        exact ⟨found, member, by rw [if_pos latest, named]; rfl⟩
      · intro some
        obtain ⟨found, member, named⟩ := some
        split at named
        · rename_i latest
          refine mem_keys_gather.mpr ⟨found, member, (touched member).mpr ⟨?_, Option.some.inj named⟩⟩
          exact (isLatest_iff.mp latest).1
        · cases named
    · intro shown inside
      obtain ⟨entry, entryInside, rfl⟩ := List.mem_map.mp inside
      obtain ⟨found, member, latest, named, amount⟩ := described entry entryInside
      refine amount.trans (tally_unique (List.Nodup.of_map _ bucketed.distinct) member ?_ ?_).symm
      · rw [if_pos latest, named, decide_eq_true_eq]
      · intro other otherMember chosen
        rw [decide_eq_true_eq] at chosen
        split at chosen
        · rename_i otherLatest
          have key : other.scopeKey = found.scopeKey :=
            (keys other otherMember found member).mp ((Option.some.inj chosen).trans named.symm)
          obtain ⟨usable, last⟩ := isLatest_iff.mp latest
          obtain ⟨otherUsable, otherLast⟩ := isLatest_iff.mp otherLatest
          exact bucketed.eq_of_key otherMember member key
            (String.le_antisymm (last other otherMember otherUsable key) (otherLast found member usable key.symm))
        · cases chosen
  have total := counted.sum_eq
  rw [List.map_map] at total
  rw [((sortedRanks_perm room).map _).sum_eq, List.map_map]
  refine total.trans (tally_congr fun sample _ => ?_)
  cases isLatest samples sample <;> rfl

/-- Keys that are equal together are as many. -/
theorem dedup_length_congr {κ μ : Type} [DecidableEq κ] [DecidableEq μ] {first : ReturnedSample → κ}
    {second : ReturnedSample → μ}
    (keys : ∀ left ∈ samples, ∀ right ∈ samples, first left = first right ↔ second left = second right) :
    ((samples.map first).dedup).length = ((samples.map second).dedup).length := by
  induction samples with
  | nil => rfl
  | cons sample rest ih =>
      have tail := ih fun left inside right rightInside =>
        keys left (List.mem_cons_of_mem _ inside) right (List.mem_cons_of_mem _ rightInside)
      have again : first sample ∈ rest.map first ↔ second sample ∈ rest.map second := by
        rw [List.mem_map, List.mem_map]
        refine exists_congr fun other => and_congr_right fun inside => ?_
        exact keys other (List.mem_cons_of_mem _ inside) sample List.mem_cons_self
      rw [List.map_cons, List.map_cons]
      by_cases seen : first sample ∈ rest.map first
      · rw [List.dedup_cons_of_mem seen, List.dedup_cons_of_mem (again.mp seen), tail]
      · rw [List.dedup_cons_of_notMem seen, List.dedup_cons_of_notMem (mt again.mpr seen), List.length_cons,
          List.length_cons, tail]

theorem ranking_latest {inbounds : List Inbound} {top : Int} (bucketed : BucketedSamples scopeType bucketSeconds samples)
    (scope : scopeType = "client" ∨ scopeType = "inbound")
    (expected : ∀ sample ∈ samples,
      (sample.scopeKey, normalizeTrafficEngine sample.engine) ∈ expectedTrafficSeriesEngines scopeType inbounds)
    (room : ((samples.map ReturnedSample.scopeKey).dedup).length ≤ rankLimit top) :
    ((rankTrafficAnalyticsSamples samples scopeType inbounds top "cumulative").map (rankAmount direction)).sum =
      latestTotals direction samples := by
  rcases scope with rfl | rfl
  · have keys : ∀ left ∈ samples, ∀ right ∈ samples,
        clientRankKey left = clientRankKey right ↔ left.scopeKey = right.scopeKey := by
      intro left leftMember right rightMember
      rw [clientRankKey, clientRankKey, Prod.mk.injEq, and_iff_right_iff_imp]
      intro key
      rw [bucketed.oneEngine left leftMember right rightMember key]
    rw [rankTrafficAnalyticsSamples, if_pos rfl]
    refine ranks_latest bucketed (fun sample member => client_ranked (expected sample member)) keys ?_
    exact (dedup_length_congr keys).le.trans room
  · have scope : ("inbound" : String) ≠ "client" := by decide
    rw [rankTrafficAnalyticsSamples, if_neg scope]
    exact ranks_latest bucketed (fun sample member => inbound_ranked (expected sample member))
      (fun _ _ _ _ => Iff.rfl) room

end

/-- What the cumulative charts show.  A point falls behind an earlier one by no more than the keys
without a usable sample in its bucket held in the other; the summary lacks the latest totals of
those of the last bucket; the ranking adds up the latest totals of all. -/
theorem cumulative_charts {scopeType : String} {bucketSeconds : Int} {samples : List ReturnedSample}
    (bucketed : BucketedSamples scopeType bucketSeconds samples) (direction : Direction) :
    let series := bucketTrafficAnalyticsSeries samples bucketSeconds "cumulative"
    (NeverFalls samples → FitsBuckets samples → series.Pairwise fun earlier later =>
      (pointAmount direction earlier).toInt ≤
        (pointAmount direction later).toInt + (missingTotal direction samples earlier.time later.time).toInt) ∧
    summaryAmount direction (summarizeTrafficAnalyticsSeries series "cumulative") +
      absentTotals direction samples (lastTime series) = latestTotals direction samples ∧
    ∀ (inbounds : List Inbound) (top : Int), scopeType = "client" ∨ scopeType = "inbound" →
      (∀ sample ∈ samples, (sample.scopeKey, normalizeTrafficEngine sample.engine) ∈
        expectedTrafficSeriesEngines scopeType inbounds) →
      ((samples.map ReturnedSample.scopeKey).dedup).length ≤ rankLimit top →
        ((rankTrafficAnalyticsSamples samples scopeType inbounds top "cumulative").map (rankAmount direction)).sum =
          latestTotals direction samples := by
  intro series
  refine ⟨fun never fits => ?_, summary_lacks bucketed, fun _ _ scope expected room =>
    ranking_latest bucketed scope expected room⟩
  refine (series_ascending bucketed).imp_of_mem fun {earlier later} inside laterInside before => ?_
  rw [point_total bucketed inside, point_total bucketed laterInside]
  exact missing_covers bucketed never fits (Std.le_of_lt before)

def exampleTotalSample (minute : Int) (engine scopeKey : String) (total : Int64) (status : String) : ReturnedSample :=
  { (default : ReturnedSample) with
    sampledAt := rfc3339 (minute * 60 * second), engine, scopeType := "client", scopeKey, totalUp := total, status }

theorem example_atBuckets {samples : List ReturnedSample}
    (minutes : ∀ sample ∈ samples, sample.sampledAt = rfc3339 (29705820 * 60 * second) ∨
      sample.sampledAt = rfc3339 (29705821 * 60 * second)) : AtBuckets 60 samples := by
  intro sample member
  rcases minutes sample member with first | later
  · exact ⟨29705820, by decide, first⟩
  · exact ⟨29705821, by decide, later⟩

/-- In the second minute the sample of the first client cannot be used. -/
def exampleGapSamples : List ReturnedSample :=
  [exampleTotalSample 29705820 "xray" "c_1" 100 "ok", exampleTotalSample 29705821 "xray" "c_1" 100 "unavailable",
    exampleTotalSample 29705821 "xray" "c_2" 10 "ok"]

theorem exampleGapSamples_bucketed : BucketedSamples "client" 60 exampleGapSamples where
  scopes := by with_unfolding_all decide
  distinct := by decide
  engines := by with_unfolding_all decide
  keys := by with_unfolding_all decide
  given := by with_unfolding_all decide
  timed := example_atBuckets (by decide)
  oneEngine := by decide

theorem exampleGapSamples_neverFalls : NeverFalls exampleGapSamples := by
  intro direction
  cases direction <;> decide

theorem exampleGapSamples_fits : FitsBuckets exampleGapSamples := by
  intro direction
  have counters : ∀ sample ∈ exampleGapSamples, 0 ≤ totalOf direction sample := by
    cases direction <;> decide
  refine ⟨counters, fun time => ?_⟩
  have part : (exampleGapSamples.filter (countsAt time)).Sublist exampleGapSamples := List.filter_sublist
  refine lt_of_le_of_lt ((part.map fun sample => (totalOf direction sample).toInt).sum_le_sum ?_) ?_
  · intro value member
    obtain ⟨sample, inside, rfl⟩ := List.mem_map.mp member
    exact Int64.le_iff_toInt_le.mp (counters sample inside)
  · cases direction <;> decide

/-- The counters of two clients come to 2^63 in the second minute. -/
def exampleHugeSamples : List ReturnedSample :=
  [exampleTotalSample 29705820 "xray" "c_1" (2 ^ 62) "ok", exampleTotalSample 29705820 "xray" "c_2" 0 "ok",
    exampleTotalSample 29705821 "xray" "c_1" (2 ^ 62) "ok", exampleTotalSample 29705821 "xray" "c_2" (2 ^ 62) "ok"]

/-- Both engines report under one key. -/
def exampleTwoEngines : List ReturnedSample :=
  [exampleTotalSample 29705820 "singbox" "c_1" 100 "ok", exampleTotalSample 29705820 "xray" "c_1" 100 "ok"]

/-- A point falls and the summary lacks a key whose sample is missing; and what is said instead needs
sums that do not wrap and one engine for each key. -/
theorem cumulative_departs :
    (¬ ∀ (scopeType : String) (bucketSeconds : Int) (samples : List ReturnedSample),
      BucketedSamples scopeType bucketSeconds samples → NeverFalls samples → FitsBuckets samples →
        let series := bucketTrafficAnalyticsSeries samples bucketSeconds "cumulative"
        (series.Pairwise fun earlier later => earlier.up ≤ later.up) ∨
          (summarizeTrafficAnalyticsSeries series "cumulative").up = latestTotals .up samples) ∧
    (¬ ∀ (scopeType : String) (bucketSeconds : Int) (samples : List ReturnedSample),
      BucketedSamples scopeType bucketSeconds samples → NeverFalls samples →
        (bucketTrafficAnalyticsSeries samples bucketSeconds "cumulative").Pairwise fun earlier later =>
          earlier.up.toInt ≤ later.up.toInt + (missingTotal .up samples earlier.time later.time).toInt) ∧
    ¬ ∀ (scopeType : String) (bucketSeconds : Int) (samples : List ReturnedSample),
      ReturnedSamples scopeType samples → AtBuckets bucketSeconds samples → NeverFalls samples →
        let series := bucketTrafficAnalyticsSeries samples bucketSeconds "cumulative"
        (summarizeTrafficAnalyticsSeries series "cumulative").up + absentTotals .up samples (lastTime series) =
          latestTotals .up samples := by
  refine ⟨fun claimed => ?_, fun claimed => ?_, fun claimed => ?_⟩
  · have series : bucketTrafficAnalyticsSeries exampleGapSamples 60 "cumulative" =
        [⟨rfc3339 (29705820 * 60 * second), 100, 0, 100, 0, 0, 0⟩, ⟨rfc3339 (29705821 * 60 * second), 10, 0, 10, 0, 0, 0⟩] := by
      rw [bucketTrafficAnalyticsSeries, seriesBuckets, List.mergeSort_of_pairwise (by with_unfolding_all decide)]
      with_unfolding_all decide
    have either := claimed "client" 60 exampleGapSamples exampleGapSamples_bucketed exampleGapSamples_neverFalls
      exampleGapSamples_fits
    rw [series] at either
    revert either
    with_unfolding_all decide
  · have bucketed : BucketedSamples "client" 60 exampleHugeSamples := by
      refine ⟨?_, example_atBuckets (by decide), by decide⟩
      constructor <;> with_unfolding_all decide
    have never : NeverFalls exampleHugeSamples := by
      intro direction
      cases direction <;> decide +kernel
    have series : bucketTrafficAnalyticsSeries exampleHugeSamples 60 "cumulative" =
        [⟨rfc3339 (29705820 * 60 * second), 2 ^ 62, 0, 2 ^ 62, 0, 0, 0⟩,
          ⟨rfc3339 (29705821 * 60 * second), 2 ^ 63, 0, 2 ^ 63, 0, 0, 0⟩] := by
      rw [bucketTrafficAnalyticsSeries, seriesBuckets, List.mergeSort_of_pairwise (by with_unfolding_all decide)]
      decide +kernel
    have never := claimed "client" 60 exampleHugeSamples bucketed never
    rw [series] at never
    revert never
    decide +kernel
  · have returned : ReturnedSamples "client" exampleTwoEngines := by constructor <;> with_unfolding_all decide
    have never : NeverFalls exampleTwoEngines := by
      intro direction
      cases direction <;> decide
    have whole := claimed "client" 60 exampleTwoEngines returned (example_atBuckets (by decide)) never
    revert whole
    with_unfolding_all decide

/-- The gap of the example: the point has fallen by the total that is missing. -/
theorem example_cumulative_charts :
    let series := bucketTrafficAnalyticsSeries exampleGapSamples 60 "cumulative"
    (series.Pairwise fun earlier later => earlier.up.toInt ≤
      later.up.toInt + (missingTotal .up exampleGapSamples earlier.time later.time).toInt) ∧
    (summarizeTrafficAnalyticsSeries series "cumulative").up + absentTotals .up exampleGapSamples (lastTime series) = 110 ∧
    ((rankTrafficAnalyticsSamples exampleGapSamples "client" [exampleChartedInbound] 5 "cumulative").map
      (rankAmount .up)).sum = 110 := by
  intro series
  have charts := cumulative_charts exampleGapSamples_bucketed .up
  have latest : latestTotals .up exampleGapSamples = 110 := by with_unfolding_all decide
  obtain ⟨points, summary, ranking⟩ := charts
  rw [latest] at summary ranking
  exact ⟨points exampleGapSamples_neverFalls exampleGapSamples_fits, summary,
    ranking [exampleChartedInbound] 5 (.inl rfl) (by with_unfolding_all decide) (by with_unfolding_all decide)⟩

end MiGate.Web
