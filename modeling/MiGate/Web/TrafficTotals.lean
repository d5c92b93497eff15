import MiGate.Relational.Overwrite
import MiGate.Web.TrafficFallback

namespace MiGate.Web

open Go Db Relational Traffic

/-! The series, the summary, the rankings and the heat map of the usage count the same samples. -/

/-! ### Keys of inbounds -/

theorem spaceless_itoa (value : Int) : Spaceless (itoa value) := by
  have digits : ∀ size : Nat, Spaceless (itoa size) :=
    fun size rune member => isSpace_of_isDigit (isDigit_itoa (Int.natCast_nonneg size) rune member)
  cases value with
  | ofNat size => exact digits size
  | negSucc size =>
      have dash : Spaceless "-" := by
        intro rune member
        rw [show rune = '-' by simpa using member]
        decide
      have same : itoa (Int.negSucc size) = "-" ++ itoa ((size + 1 : Nat) : Int) := by
        unfold itoa
        rfl
      rw [same]
      exact dash.append (digits (size + 1))

theorem trimSpace_eq_self {text : String} : trimSpace text = text ↔
    (∀ rune ∈ text.toList.head?, isSpace rune = false) ∧ ∀ rune ∈ text.toList.getLast?, isSpace rune = false := by
  rw [← trimList_eq_self, trimSpace]
  constructor
  · intro trimmed
    have runes := congrArg String.toList trimmed
    rwa [String.toList_ofList] at runes
  · intro trimmed
    rw [trimmed, String.ofList_toList]

theorem inboundStatsKey_trimmed (id : Int) (protocol : String) :
    trimSpace (inboundStatsKey id protocol) = inboundStatsKey id protocol := by
  have numbered : ∀ lead, Spaceless lead → Spaceless (lead ++ itoa id) := fun lead spaceless =>
    spaceless.append (spaceless_itoa id)
  unfold inboundStatsKey
  simp only
  split
  · exact (numbered _ (by decide)).trimSpace
  · split
    · exact (numbered _ (by decide)).trimSpace
    · split
      · exact (numbered _ (by decide)).trimSpace
      · have trimmed : trimSpace (toLower (trimSpace protocol)) = toLower (trimSpace protocol) := by
          rw [trimSpace_toLower, trimSpace_trimSpace]
        have lead : Spaceless ("inbound-" ++ itoa id ++ "-") :=
          Spaceless.append (numbered _ (by decide)) (by decide)
        have given : ("inbound-" ++ itoa id ++ "-").toList.head? = some 'i' := by
          simp
        rw [trimSpace_eq_self, String.toList_append]
        rw [trimSpace_eq_self] at trimmed
        constructor
        · intro rune first
          rw [List.head?_append, given] at first
          cases first
          decide
        · intro rune last
          rw [List.getLast?_append] at last
          cases ending : (toLower (trimSpace protocol)).toList.getLast? with
          | some found =>
              rw [ending] at last
              cases last
              exact trimmed.2 _ ending
          | none =>
              rw [ending] at last
              exact lead rune (List.mem_of_getLast? last)

/-! ### The series -/

/-- The samples the charts are made of: each names its scope, and the time of its bucket. -/
structure LoadedSamples (samples : List ReturnedSample) : Prop where
  typed : ∀ sample ∈ samples, sample.scopeType ≠ ""
  timed : ∀ sample ∈ samples, ∃ unix, InYears (unix * second) ∧ sample.sampledAt = rfc3339 (unix * second)

/-- What the samples that can be aggregated have counted. -/
def aggregable (direction : Direction) (samples : List ReturnedSample) : Int64 :=
  tally (directionOf direction) trafficSampleCanAggregate samples

def pointAmount : Direction → TrafficV2AnalyticsPoint → Int64
  | .up, point => point.up
  | .down, point => point.down

def summaryAmount : Direction → TrafficV2AnalyticsSummary → Int64
  | .up, summary => summary.up
  | .down, summary => summary.down

def rankAmount : Direction → TrafficV2AnalyticsRank → Int64
  | .up, rank => rank.up
  | .down, rank => rank.down

def bucketAmount : Direction → BucketValue → Int64
  | .up, bucket => bucket.up
  | .down, bucket => bucket.down

/-- The time of the point a sample counts in. -/
def pointTime (bucketSeconds : Int) (sample : ReturnedSample) : Option String :=
  (seriesBucket (if bucketSeconds ≤ 0 then 300 else bucketSeconds) sample).map fun unix => rfc3339 (unix * second)

section

variable {direction : Direction} {samples : List ReturnedSample} {sample : ReturnedSample} {bucketSeconds : Int}

theorem seriesBucket_eq {size unix : Int} (timed : sample.sampledAt = rfc3339 (unix * second)) (inYears : InYears (unix * second)) :
    seriesBucket size sample = if trafficSampleCanAggregate sample then some (unix.tdiv size * size) else none := by
  have whole : unix * second / second = unix := Int.mul_ediv_cancel unix (by decide)
  rw [seriesBucket, timed, parseRfc3339_rfc3339 inYears, whole, Option.map_some, whole]

theorem seriesBucket_inYears {size unix : Int} (positive : 0 < size)
    (timed : ∃ unix, InYears (unix * second) ∧ sample.sampledAt = rfc3339 (unix * second))
    (bucket : seriesBucket size sample = some unix) : InYears (unix * second) := by
  obtain ⟨start, inYears, text⟩ := timed
  rw [seriesBucket_eq text inYears] at bucket
  split at bucket
  · cases bucket
    exact tdiv_inYears positive inYears
  · cases bucket

theorem pointTime_isSome (timed : ∃ unix, InYears (unix * second) ∧ sample.sampledAt = rfc3339 (unix * second)) :
    (pointTime bucketSeconds sample).isSome = trafficSampleCanAggregate sample := by
  obtain ⟨unix, inYears, text⟩ := timed
  rw [pointTime, seriesBucket_eq text inYears]
  cases trafficSampleCanAggregate sample <;> rfl

def seriesSize (bucketSeconds : Int) : Int :=
  if bucketSeconds ≤ 0 then 300 else bucketSeconds

theorem seriesSize_pos (bucketSeconds : Int) : 0 < seriesSize bucketSeconds := by
  unfold seriesSize
  split <;> omega

/-- The points count the samples if the buckets of the loop do. -/
theorem series_counted_of {metric : String} {amount : ReturnedSample → Int64} {held : BucketValue → Int64}
    {part : TrafficV2AnalyticsPoint → Int64}
    (timed : ∀ sample ∈ samples, ∃ unix, InYears (unix * second) ∧ sample.sampledAt = rfc3339 (unix * second))
    (gathered : CountedOnce (seriesBucket (seriesSize bucketSeconds)) amount samples
      ((gather (seriesBucket (seriesSize bucketSeconds)) (fun _ => emptyBucket) (addToBucket metric) samples).map
        fun entry => (entry.1, held entry.2)))
    (shown : ∀ unix bucket, part (seriesPoint metric unix bucket) = held bucket) :
    CountedOnce (pointTime bucketSeconds) amount samples
      ((bucketTrafficAnalyticsSeries samples bucketSeconds metric).map fun point => (point.time, part point)) := by
  have counted := gathered.perm ((List.mergeSort_perm _ fun left right => left.1 ≤ right.1).map _)
  have points : ((bucketTrafficAnalyticsSeries samples bucketSeconds metric).map fun point => (point.time, part point)) =
      ((seriesBuckets samples bucketSeconds metric).map fun entry => (entry.1, held entry.2)).map
        fun entry => (rfc3339 (entry.1 * second), entry.2) := by
    rw [bucketTrafficAnalyticsSeries, List.map_map, List.map_map]
    apply List.map_congr_left
    intro entry _
    exact Prod.ext rfl (shown entry.1 entry.2)
  rw [points]
  apply counted.relabel fun unix => rfc3339 (unix * second)
  have years : ∀ unix ∈ ((seriesBuckets samples bucketSeconds metric).map fun entry =>
      (entry.1, held entry.2)).map Prod.fst, InYears (unix * second) := by
    intro unix listed
    obtain ⟨sample, member, bucket⟩ := (counted.labels unix).mp listed
    exact seriesBucket_inYears (seriesSize_pos _) (timed sample member) bucket
  intro left leftListed right rightListed same
  exact rfc3339_inj (years left leftListed) (years right rightListed) same

theorem series_counted (loaded : LoadedSamples samples) :
    CountedOnce (pointTime bucketSeconds) (directionOf direction) samples
      ((bucketTrafficAnalyticsSeries samples bucketSeconds "usage").map fun point =>
        (point.time, pointAmount direction point)) := by
  have gathered : CountedOnce (seriesBucket (seriesSize bucketSeconds)) (directionOf direction) samples
      ((gather (seriesBucket (seriesSize bucketSeconds)) (fun _ => emptyBucket) (addToBucket "usage") samples).map
        fun entry => (entry.1, bucketAmount direction entry.2)) := by
    apply countedOnce_gather
    · intro _
      cases direction <;> rfl
    · intro bucket sample
      cases direction <;> rfl
  refine series_counted_of loaded.timed gathered fun _ _ => ?_
  cases direction <;> rfl

theorem counted_aggregable {κ : Type} [DecidableEq κ] {label : ReturnedSample → Option κ} {entries : List (κ × Int64)}
    (counted : CountedOnce label (directionOf direction) samples entries)
    (labelled : ∀ sample ∈ samples, (label sample).isSome = trafficSampleCanAggregate sample) :
    (entries.map Prod.snd).sum = aggregable direction samples := by
  rw [counted.sum_eq]
  exact tally_congr labelled

theorem raisePeak_amount (summary : TrafficV2AnalyticsSummary) (point : TrafficV2AnalyticsPoint) :
    summaryAmount direction (raisePeak summary point) = summaryAmount direction summary := by
  unfold raisePeak
  split
  · cases direction <;> rfl
  · rfl

theorem addToSummary_amount (summary : TrafficV2AnalyticsSummary) (point : TrafficV2AnalyticsPoint) :
    summaryAmount direction (addToSummary summary point) = summaryAmount direction summary + pointAmount direction point := by
  rw [addToSummary, raisePeak_amount]
  cases direction <;> rfl

theorem summary_amount (series : List TrafficV2AnalyticsPoint) :
    summaryAmount direction (summarizeTrafficAnalyticsSeries series "usage") = (series.map (pointAmount direction)).sum := by
  have run : ∀ (series : List TrafficV2AnalyticsPoint) (summary : TrafficV2AnalyticsSummary),
      summaryAmount direction (series.foldl addToSummary summary) =
        summaryAmount direction summary + (series.map (pointAmount direction)).sum := by
    intro series
    induction series with
    | nil => exact fun summary => (add_zero _).symm
    | cons point rest ih =>
        intro summary
        rw [List.foldl_cons, ih, addToSummary_amount, List.map_cons, List.sum_cons, add_assoc]
  have usage : ("usage" : String) ≠ "cumulative" := by decide
  have start : summaryAmount direction { (default : TrafficV2AnalyticsSummary) with
      points := series.length, hasData := !series.isEmpty } = 0 := by
    cases direction <;> rfl
  have total := run series { (default : TrafficV2AnalyticsSummary) with points := series.length, hasData := !series.isEmpty }
  rw [start, zero_add] at total
  rw [← total, summarizeTrafficAnalyticsSeries, if_neg usage]
  cases direction <;> rfl

/-! ### The heat map -/

/-- The cell of the heat map a sample counts in. -/
def cellOf (bucketSeconds : Int) (sample : ReturnedSample) : Option (String × Int) :=
  (pointTime bucketSeconds sample).bind fun time => heatmapCell ⟨time, 0, 0, 0, 0, 0, 0⟩

/-- Both directions of a sample. -/
def bothOf (sample : ReturnedSample) : Int64 :=
  directionOf .up sample + directionOf .down sample

theorem cellOf_isSome (timed : ∃ unix, InYears (unix * second) ∧ sample.sampledAt = rfc3339 (unix * second)) :
    (cellOf bucketSeconds sample).isSome = trafficSampleCanAggregate sample := by
  have positive : 0 < (if bucketSeconds ≤ 0 then 300 else bucketSeconds) := by split <;> omega
  have bucketed : (pointTime bucketSeconds sample).isSome = _ := pointTime_isSome timed
  rw [← bucketed, cellOf, pointTime]
  cases bucket : seriesBucket (if bucketSeconds ≤ 0 then 300 else bucketSeconds) sample with
  | none => rfl
  | some unix =>
      have inYears := seriesBucket_inYears positive timed bucket
      simp only [Option.map_some, Option.bind_some, heatmapCell, parseRfc3339_rfc3339 inYears, Option.isSome_some]

theorem tally_both : tally bothOf trafficSampleCanAggregate samples = aggregable .up samples + aggregable .down samples := by
  rw [tally, aggregable, aggregable, tally, tally, ← List.sum_map_add]
  rfl

theorem seriesPoint_total {point : TrafficV2AnalyticsPoint} (member : point ∈ bucketTrafficAnalyticsSeries samples bucketSeconds "usage") :
    point.total = pointAmount .up point + pointAmount .down point := by
  obtain ⟨entry, _, rfl⟩ := List.mem_map.mp member
  rfl

theorem heatmap_counted (loaded : LoadedSamples samples) :
    CountedOnce (cellOf bucketSeconds) bothOf samples
      ((heatmapTrafficAnalytics (bucketTrafficAnalyticsSeries samples bucketSeconds "usage")).map fun cell =>
        ((cell.day, cell.hour), cell.total)) := by
  let series := bucketTrafficAnalyticsSeries samples bucketSeconds "usage"
  have points : CountedOnce (pointTime bucketSeconds) bothOf samples (series.map fun point => (point.time, point.total)) := by
    have both : CountedOnce (pointTime bucketSeconds) bothOf samples
        (series.map fun point => (point.time, pointAmount .up point + pointAmount .down point)) :=
      (series_counted loaded).add (series_counted loaded)
    have totals : (series.map fun point => (point.time, point.total)) =
        series.map fun point => (point.time, pointAmount .up point + pointAmount .down point) := by
      apply List.map_congr_left
      intro point member
      rw [seriesPoint_total member]
    rw [totals]
    exact both
  let add (total : Int64) (point : TrafficV2AnalyticsPoint) : Int64 := total + point.total
  have gathered : CountedOnce heatmapCell TrafficV2AnalyticsPoint.total series
      ((gather heatmapCell (fun _ => 0) add series).map fun entry => (entry.1, id entry.2)) :=
    countedOnce_gather (fun _ => rfl) fun _ _ => rfl
  have cells : CountedOnce (fun entry : String × Int64 => heatmapCell ⟨entry.1, 0, 0, 0, 0, 0, 0⟩) Prod.snd
      (series.map fun point => (point.time, point.total))
      ((heatmapTrafficAnalytics series).map fun cell => ((cell.day, cell.hour), cell.total)) := by
    rw [countedOnce_map, heatmapTrafficAnalytics, List.map_map]
    exact gathered.perm ((List.mergeSort_perm _ _).map _)
  exact points.trans cells

/-! ### The rankings -/

theorem addSample_amount (aggregate : RankAggregate) (sample : ReturnedSample) :
    rankAmount direction (RankAggregate.addSample "usage" aggregate sample).rank =
      rankAmount direction aggregate.rank + directionOf direction sample := by
  cases direction <;> rfl

/-- The ranks count the samples under keys of their own, and all are listed. -/
def RankedOnce {κ : Type} [DecidableEq κ] (rankKey : ReturnedSample → κ) (samples : List ReturnedSample)
    (ranks : List TrafficV2AnalyticsRank) : Prop :=
  ∃ keyed : List (κ × TrafficV2AnalyticsRank), ranks.Perm (keyed.map Prod.snd) ∧
    ∀ direction, CountedOnce (fun sample => if trafficSampleCanAggregate sample then some (rankKey sample) else none)
      (directionOf direction) samples (keyed.map fun entry => (entry.1, rankAmount direction entry.2))

section

variable {κ : Type} [DecidableEq κ] {metric : String} {rankKey : ReturnedSample → κ}
  {known : List (κ × TrafficV2AnalyticsRank)} {limit : Nat} {scopeType : String}

/-- Under which key the loop of a ranking counts a sample. -/
def rankTouch (scopeType : String) (rankKey : ReturnedSample → κ) (known : List (κ × TrafficV2AnalyticsRank))
    (sample : ReturnedSample) : Option κ :=
  if normalizeTrafficScopeType sample.scopeType = scopeType ∧ trafficSampleCanAggregate sample = true ∧
    (lastWrite known (rankKey sample)).isSome then some (rankKey sample) else none

theorem rankTouch_eq (scopes : normalizeTrafficScopeType sample.scopeType = scopeType)
    (listed : rankKey sample ∈ known.map Prod.fst) :
    rankTouch scopeType rankKey known sample = if trafficSampleCanAggregate sample then some (rankKey sample) else none := by
  have present : (lastWrite known (rankKey sample)).isSome = true :=
    Option.isSome_iff_exists.mpr (lastWrite_isSome.mpr listed)
  simp only [rankTouch, scopes, present, true_and, and_true]

/-- A limit that is no less than the number of keys cuts nothing off. -/
theorem sortedRanks_perm (room : ((samples.map rankKey).dedup).length ≤ limit) :
    (sortedTrafficAnalyticsRanks ((rankSamples scopeType metric rankKey known samples).map Prod.snd) limit metric).Perm
      ((rankSamples scopeType metric rankKey known samples).map fun entry => entry.2.rank) := by
  have keys : (rankSamples scopeType metric rankKey known samples).map Prod.fst ⊆ (samples.map rankKey).dedup := by
    intro key member
    obtain ⟨sample, sampleMember, named⟩ := mem_keys_gather.mp member
    rw [ite_eq_iff] at named
    obtain ⟨_, same⟩ | ⟨_, missing⟩ := named
    · exact List.mem_dedup.mpr (List.mem_map.mpr ⟨sample, sampleMember, Option.some.inj same⟩)
    · cases missing
  have fits := (List.subperm_of_subset keys_gather_nodup keys).length_le.trans room
  rw [List.length_map] at fits
  rw [sortedTrafficAnalyticsRanks, List.take_of_length_le]
  · refine (List.mergeSort_perm _ _).trans (List.Perm.of_eq ?_)
    simp only [List.map_map]
    rfl
  · rw [List.length_mergeSort, List.length_map, List.length_map]
    exact fits

/-- A rank counts nothing before its first sample. -/
theorem known_blank (blank : ∀ entry ∈ known, ∀ direction, rankAmount direction entry.2 = 0) (key : κ)
    (direction : Direction) : rankAmount direction ((lastWrite known key).getD default) = 0 := by
  cases found : lastWrite known key with
  | some entry => exact blank (key, entry) (mem_of_lastWrite found) direction
  | none => cases direction <;> rfl

theorem ranks_once (blank : ∀ entry ∈ known, ∀ direction, rankAmount direction entry.2 = 0)
    (scopes : ∀ sample ∈ samples, normalizeTrafficScopeType sample.scopeType = scopeType)
    (listed : ∀ sample ∈ samples, rankKey sample ∈ known.map Prod.fst)
    (room : ((samples.map rankKey).dedup).length ≤ limit) :
    RankedOnce rankKey samples
      (sortedTrafficAnalyticsRanks ((rankSamples scopeType "usage" rankKey known samples).map Prod.snd) limit "usage") := by
  let ranked := rankSamples scopeType "usage" rankKey known samples
  have counted : ∀ direction, CountedOnce (rankTouch scopeType rankKey known) (directionOf direction) samples
      (ranked.map fun entry => (entry.1, rankAmount direction entry.2.rank)) := by
    intro direction
    let held (aggregate : RankAggregate) : Int64 := rankAmount direction aggregate.rank
    have adds : ∀ aggregate sample, held (RankAggregate.addSample "usage" aggregate sample) =
        held aggregate + directionOf direction sample := addSample_amount
    exact @countedOnce_gather _ _ RankAggregate _ _ _ (rankTouch scopeType rankKey known) _ samples _ _ held
      (fun key => known_blank blank key direction) adds
  refine ⟨ranked.map fun entry => (entry.1, entry.2.rank), ?_, fun direction => ?_⟩
  · refine (sortedRanks_perm room).trans (List.Perm.of_eq ?_)
    rw [List.map_map]
    rfl
  · rw [List.map_map]
    exact (counted direction).congr fun sample member => rankTouch_eq (scopes sample member) (listed sample member)

end

theorem RankedOnce.sum_eq {κ : Type} [DecidableEq κ] {rankKey : ReturnedSample → κ} {ranks : List TrafficV2AnalyticsRank}
    (ranked : RankedOnce rankKey samples ranks) :
    (ranks.map (rankAmount direction)).sum = aggregable direction samples := by
  obtain ⟨keyed, same, counted⟩ := ranked
  have total := counted_aggregable (counted direction) fun sample _ => by split <;> simp_all
  rw [← total, (same.map (rankAmount direction)).sum_eq, List.map_map, List.map_map]
  rfl

/-! ### The samples of a scope -/

variable {inbounds : List Inbound} {scopeType : String}

theorem mem_filterTrafficAnalyticsSamples (scope : scopeType = "client" ∨ scopeType = "inbound")
    (loaded : LoadedSamples samples) (member : sample ∈ filterTrafficAnalyticsSamples samples scopeType inbounds) :
    sample ∈ samples ∧ normalizeTrafficScopeType sample.scopeType = scopeType ∧
      (sample.scopeKey, normalizeTrafficEngine sample.engine) ∈ expectedTrafficSeriesEngines scopeType inbounds := by
  obtain ⟨inside, kept⟩ := List.mem_filter.mp member
  rw [Bool.and_eq_true, Bool.or_eq_true, decide_eq_true_eq, decide_eq_true_eq, if_pos scope, decide_eq_true_eq] at kept
  exact ⟨inside, kept.1.resolve_left (loaded.typed sample inside), List.mem_of_mem_filter kept.2⟩

theorem clientTrafficStatsKey_trimmed (client : Client) :
    trimSpace (clientTrafficStatsKey client) = clientTrafficStatsKey client := by
  unfold clientTrafficStatsKey
  split <;> exact trimSpace_trimSpace _

theorem expectedTrafficEngine_normal (protocol : String) :
    normalizeTrafficEngine (expectedTrafficEngine protocol) = expectedTrafficEngine protocol := by
  unfold expectedTrafficEngine
  split <;> with_unfolding_all decide

/-- A client with samples has a rank. -/
theorem client_ranked {scopeKey engine : String} (expected : (scopeKey, engine) ∈ expectedTrafficSeriesEngines "client" inbounds) :
    (engine, scopeKey) ∈ (clientRankMeta inbounds).map Prod.fst := by
  have scope : ("client" : String) = "client" := rfl
  rw [expectedTrafficSeriesEngines, if_pos scope] at expected
  obtain ⟨added, given⟩ := List.mem_filter.mp expected
  obtain ⟨entry, inside, same⟩ := List.mem_map.mp added
  obtain ⟨inbound, inboundMember, listed⟩ := List.mem_flatMap.mp inside
  obtain ⟨client, clientMember, rfl⟩ := List.mem_map.mp listed
  rw [clientTrafficStatsKey_trimmed, expectedTrafficEngine_normal, Prod.mk.injEq] at same
  obtain ⟨rfl, rfl⟩ := same
  have named : clientTrafficStatsKey client ≠ "" := by
    rw [Bool.and_eq_true, decide_eq_true_eq] at given
    exact given.1
  exact List.mem_map.mpr ⟨_, List.mem_flatMap.mpr ⟨inbound, inboundMember, List.mem_map.mpr ⟨client,
    List.mem_filter.mpr ⟨clientMember, decide_eq_true named⟩, rfl⟩⟩, rfl⟩

theorem inbound_ranked {scopeKey engine : String} (expected : (scopeKey, engine) ∈ expectedTrafficSeriesEngines "inbound" inbounds) :
    scopeKey ∈ (inboundRankMeta inbounds).map Prod.fst := by
  have scope : ("inbound" : String) ≠ "client" := by decide
  rw [expectedTrafficSeriesEngines, if_neg scope, if_pos rfl] at expected
  obtain ⟨entry, inside, same⟩ := List.mem_map.mp (List.mem_of_mem_filter expected)
  obtain ⟨inbound, member, rfl⟩ := List.mem_map.mp inside
  rw [inboundStatsKey_trimmed, Prod.mk.injEq] at same
  rw [← same.1]
  exact List.mem_map.mpr ⟨_, List.mem_map.mpr ⟨inbound, member, rfl⟩, rfl⟩

theorem addToAggregate_scopeType (samples : List ReturnedSample) (aggregate : ReturnedSample) :
    (samples.foldl addToAggregate aggregate).scopeType = aggregate.scopeType := by
  induction samples generalizing aggregate with
  | nil => rfl
  | cons sample rest ih => exact ih (addToAggregate aggregate sample)

/-- An inbound is charted with its own samples and with aggregates of its clients'. -/
theorem mem_fallback {inboundSamples clientSamples : List ReturnedSample}
    (member : sample ∈ trafficAnalyticsInboundSamplesWithClientFallback inboundSamples clientSamples inbounds) :
    sample ∈ inboundSamples ∨ sample.scopeType = "inbound" ∧ sample.scopeKey ∈ (inboundRankMeta inbounds).map Prod.fst ∧
      ∃ client ∈ clientSamples, sample.sampledAt = client.sampledAt := by
  unfold trafficAnalyticsInboundSamplesWithClientFallback at member
  simp only at member
  split at member
  · exact .inl member
  · rw [List.mem_mergeSort] at member
    rcases List.mem_append.mp member with own | aggregated
    · exact .inl (List.mem_of_mem_filter own)
    · right
      obtain ⟨entry, inside, rfl⟩ := List.mem_map.mp aggregated
      obtain ⟨gathered, gatheredMember, rfl⟩ := List.mem_map.mp inside
      obtain ⟨⟨client, clientMember, touched⟩, value⟩ := mem_gather.mp gatheredMember
      obtain ⟨listed, time, _, _⟩ := fallbackPoint_eq.mp (aggregatedPoint_eq touched).1
      obtain ⟨inbound, inboundMember, enabled⟩ := List.mem_flatMap.mp (mem_of_lastWrite listed)
      obtain ⟨_, _, same⟩ := List.mem_map.mp enabled
      have point : gathered.2.point = gathered.1 := by
        rw [value, addToAggregate_point]
        rfl
      have typed : gathered.2.scopeType = "inbound" := by
        rw [value, addToAggregate_scopeType]
        rfl
      have key : gathered.1.scopeKey = inboundStatsKey inbound.id inbound.protocol := (congrArg Prod.snd same).symm
      have described : gathered.2.scopeType = "inbound" ∧ gathered.2.scopeKey ∈ (inboundRankMeta inbounds).map Prod.fst ∧
          ∃ client ∈ clientSamples, gathered.2.sampledAt = client.sampledAt := by
        refine ⟨typed, ?_, client, clientMember, (congrArg AggregateKey.sampledAt point).trans time.symm⟩
        rw [show gathered.2.scopeKey = inboundStatsKey inbound.id inbound.protocol from
          (congrArg AggregateKey.scopeKey point).trans key]
        exact List.mem_map.mpr ⟨_, List.mem_map.mpr ⟨inbound, inboundMember, rfl⟩, rfl⟩
      simp only
      split
      · exact described
      · exact described

theorem LoadedSamples.filter (loaded : LoadedSamples samples) (scopeType : String) (inbounds : List Inbound) :
    LoadedSamples (filterTrafficAnalyticsSamples samples scopeType inbounds) where
  typed sample member := loaded.typed sample (List.mem_of_mem_filter member)
  timed sample member := loaded.timed sample (List.mem_of_mem_filter member)

theorem LoadedSamples.effective (loaded : LoadedSamples samples) (inbounds : List Inbound) :
    LoadedSamples (effectiveInboundSamples samples inbounds) where
  typed sample member := by
    rcases mem_fallback member with own | ⟨typed, _⟩
    · exact (loaded.filter "inbound" inbounds).typed sample own
    · rw [typed]
      decide
  timed sample member := by
    rcases mem_fallback member with own | ⟨_, _, client, clientMember, time⟩
    · exact (loaded.filter "inbound" inbounds).timed sample own
    · rw [time]
      exact (loaded.filter "client" inbounds).timed client clientMember

theorem LoadedSamples.chosen (loaded : LoadedSamples samples) (scopeType : String) (inbounds : List Inbound) :
    LoadedSamples (chosenSamples scopeType samples inbounds) := by
  unfold chosenSamples
  split
  · exact loaded.effective inbounds
  · exact loaded.filter "client" inbounds

/-! ### All four -/

def rankLimit (top : Int) : Nat :=
  if top ≤ 0 then 5 else top.toNat

/-- Under which the ranking of clients keeps a sample. -/
def clientRankKey (sample : ReturnedSample) : String × String :=
  (normalizeTrafficEngine sample.engine, sample.scopeKey)

theorem clients_rankedOnce {top : Int} (loaded : LoadedSamples samples)
    (room : (((filterTrafficAnalyticsSamples samples "client" inbounds).map clientRankKey).dedup).length ≤ rankLimit top) :
    RankedOnce clientRankKey (filterTrafficAnalyticsSamples samples "client" inbounds)
      (rankTrafficAnalyticsSamples (filterTrafficAnalyticsSamples samples "client" inbounds) "client" inbounds top "usage") := by
  rw [rankTrafficAnalyticsSamples, if_pos rfl]
  refine ranks_once ?_ ?_ ?_ room
  · intro entry member direction
    obtain ⟨inbound, _, inside⟩ := List.mem_flatMap.mp member
    obtain ⟨client, _, rfl⟩ := List.mem_map.mp inside
    cases direction <;> rfl
  · intro sample member
    exact (mem_filterTrafficAnalyticsSamples (.inl rfl) loaded member).2.1
  · intro sample member
    exact client_ranked (mem_filterTrafficAnalyticsSamples (.inl rfl) loaded member).2.2

theorem inbounds_rankedOnce {top : Int} (loaded : LoadedSamples samples)
    (room : (((effectiveInboundSamples samples inbounds).map ReturnedSample.scopeKey).dedup).length ≤ rankLimit top) :
    RankedOnce ReturnedSample.scopeKey (effectiveInboundSamples samples inbounds)
      (rankTrafficAnalyticsSamples (effectiveInboundSamples samples inbounds) "inbound" inbounds top "usage") := by
  have scope : ("inbound" : String) ≠ "client" := by decide
  have token : normalizeTrafficScopeType "inbound" = "inbound" := by with_unfolding_all decide
  rw [rankTrafficAnalyticsSamples, if_neg scope]
  refine ranks_once ?_ ?_ ?_ room
  · intro entry member direction
    obtain ⟨inbound, _, rfl⟩ := List.mem_map.mp member
    cases direction <;> rfl
  · intro sample member
    rcases mem_fallback member with own | ⟨typed, _⟩
    · exact (mem_filterTrafficAnalyticsSamples (.inr rfl) loaded own).2.1
    · rw [typed]
      exact token
  · intro sample member
    rcases mem_fallback member with own | ⟨_, listed, _⟩
    · exact inbound_ranked (mem_filterTrafficAnalyticsSamples (.inr rfl) loaded own).2.2
    · exact listed

end

/-- The series, the summary, the heat map and the ranking of the usage each count every sample
they are made from once, as far as it can be aggregated; so they amount to the same. -/
theorem usage_totals {params : TrafficV2AnalyticsParams} {samples : List ReturnedSample} {inbounds : List Inbound}
    (usage : params.metric = "usage") (loaded : LoadedSamples samples) :
    let answer := buildTrafficV2Analytics params samples inbounds
    let chosen := chosenSamples params.scopeType samples inbounds
    (∀ sample ∈ chosen, (pointTime params.bucketSeconds sample).isSome = trafficSampleCanAggregate sample ∧
      (cellOf params.bucketSeconds sample).isSome = trafficSampleCanAggregate sample) ∧
    (∀ direction,
      CountedOnce (pointTime params.bucketSeconds) (directionOf direction) chosen
        (answer.series.map fun point => (point.time, pointAmount direction point)) ∧
      (answer.series.map (pointAmount direction)).sum = aggregable direction chosen ∧
      summaryAmount direction answer.summary = aggregable direction chosen) ∧
    (CountedOnce (cellOf params.bucketSeconds) bothOf chosen
        (answer.heatmap.map fun cell => ((cell.day, cell.hour), cell.total)) ∧
      (answer.heatmap.map TrafficV2HeatmapPoint.total).sum = aggregable .up chosen + aggregable .down chosen) ∧
    (params.scopeType = "client" → ((chosen.map clientRankKey).dedup).length ≤ rankLimit params.top →
      RankedOnce clientRankKey chosen answer.topClients ∧
        ∀ direction, (answer.topClients.map (rankAmount direction)).sum = aggregable direction chosen) ∧
    (params.scopeType = "inbound" → ((chosen.map ReturnedSample.scopeKey).dedup).length ≤ rankLimit params.top →
      RankedOnce ReturnedSample.scopeKey chosen answer.topInbounds ∧
        ∀ direction, (answer.topInbounds.map (rankAmount direction)).sum = aggregable direction chosen) := by
  intro answer chosen
  have chosenLoaded := loaded.chosen params.scopeType inbounds
  have seriesEq : answer.series = bucketTrafficAnalyticsSeries chosen params.bucketSeconds "usage" := by
    simp only [answer, buildTrafficV2Analytics, usage, chosen]
  have series : ∀ direction, CountedOnce (pointTime params.bucketSeconds) (directionOf direction) chosen
      (answer.series.map fun point => (point.time, pointAmount direction point)) := by
    intro direction
    rw [seriesEq]
    exact series_counted chosenLoaded
  have seriesSum : ∀ direction, (answer.series.map (pointAmount direction)).sum = aggregable direction chosen := by
    intro direction
    rw [← counted_aggregable (series direction) fun sample member => pointTime_isSome (chosenLoaded.timed sample member),
      List.map_map]
    rfl
  have cells : CountedOnce (cellOf params.bucketSeconds) bothOf chosen
      (answer.heatmap.map fun cell => ((cell.day, cell.hour), cell.total)) := by
    have heatmapEq : answer.heatmap = heatmapTrafficAnalytics answer.series := rfl
    rw [heatmapEq, seriesEq]
    exact heatmap_counted chosenLoaded
  refine ⟨fun sample member => ⟨pointTime_isSome (chosenLoaded.timed sample member), cellOf_isSome (chosenLoaded.timed sample member)⟩,
    fun direction => ⟨series direction, seriesSum direction, ?_⟩, ⟨cells, ?_⟩, ?_, ?_⟩
  · rw [← seriesSum direction, ← summary_amount]
    have summaryEq : answer.summary = if answer.series.isEmpty then
        { summarizeTrafficAnalyticsSeries answer.series "usage" with emptyReason := "waiting" }
      else summarizeTrafficAnalyticsSeries answer.series "usage" := by
      simp only [answer, buildTrafficV2Analytics, usage]
    rw [summaryEq]
    split
    · cases direction <;> rfl
    · rfl
  · have total := cells.sum_eq
    rw [List.map_map, tally_congr fun sample member => cellOf_isSome (chosenLoaded.timed sample member), tally_both] at total
    exact total
  · intro client room
    have chosenEq : chosen = filterTrafficAnalyticsSamples samples "client" inbounds := by
      simp only [chosen, chosenSamples, client]
      rfl
    have ranked : RankedOnce clientRankKey chosen answer.topClients := by
      rw [chosenEq] at room ⊢
      simp only [answer, buildTrafficV2Analytics, usage]
      exact clients_rankedOnce loaded room
    exact ⟨ranked, fun direction => ranked.sum_eq⟩
  · intro inbound room
    have chosenEq : chosen = effectiveInboundSamples samples inbounds := by
      simp only [chosen, chosenSamples, inbound, if_true]
    have ranked : RankedOnce ReturnedSample.scopeKey chosen answer.topInbounds := by
      rw [chosenEq] at room ⊢
      simp only [answer, buildTrafficV2Analytics, usage]
      exact inbounds_rankedOnce loaded room
    exact ⟨ranked, fun direction => ranked.sum_eq⟩

def exampleUsageParams : TrafficV2AnalyticsParams where
  range := "1h"
  metric := "usage"
  scopeType := "inbound"
  bucketSeconds := 60
  top := 5

def exampleClientSamples : List ReturnedSample :=
  [exampleChartSample (rfc3339 (1782349200 * second)) "client" "c_1" 10]

theorem exampleClientSamples_loaded : LoadedSamples exampleClientSamples where
  typed := by decide
  timed sample member := by
    rw [List.mem_singleton.mp member]
    exact ⟨1782349200, by decide, rfl⟩

/-- An inbound without samples of its own is charted with its client's, so that the series
amounts to more than the samples of inbounds do. -/
theorem fallback_exceeds_samples :
    ((buildTrafficV2Analytics exampleUsageParams exampleClientSamples [exampleChartedInbound]).series.map
        (pointAmount .up)).sum = 10 ∧
      aggregable .up (filterTrafficAnalyticsSamples exampleClientSamples "inbound" [exampleChartedInbound]) = 0 := by
  constructor <;> decide +kernel

/-- The series of the example. -/
theorem example_usage_totals :
    let answer := buildTrafficV2Analytics exampleUsageParams exampleClientSamples [exampleChartedInbound]
    let chosen := chosenSamples "inbound" exampleClientSamples [exampleChartedInbound]
    (answer.series.map (pointAmount .up)).sum = aggregable .up chosen ∧
      summaryAmount .up answer.summary = aggregable .up chosen ∧
      (answer.heatmap.map TrafficV2HeatmapPoint.total).sum = aggregable .up chosen + aggregable .down chosen ∧
      (answer.topInbounds.map (rankAmount .up)).sum = aggregable .up chosen := by
  intro answer chosen
  have usage : exampleUsageParams.metric = "usage" := rfl
  have totals := @usage_totals exampleUsageParams exampleClientSamples [exampleChartedInbound] usage
    exampleClientSamples_loaded
  obtain ⟨_, series, ⟨_, heatmap⟩, _, inbounds⟩ := totals
  obtain ⟨_, sum, summary⟩ := series .up
  exact ⟨sum, summary, heatmap, (inbounds rfl (by with_unfolding_all decide)).2 .up⟩

end MiGate.Web
