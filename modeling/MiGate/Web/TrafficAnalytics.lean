import MiGate.Db.TrafficAnalytics
import MiGate.Go.Encoding
import MiGate.Go.Int64
import MiGate.Relational.Tally
import MiGate.Web.TrafficSummary

namespace MiGate.Web

open Go Db Relational

/-! The history charts of the traffic. -/

/-- A `TrafficSample` as a query returns it: its time is a text. -/
structure ReturnedSample where
  sampledAt : String
  engine : String
  scopeType : String
  scopeKey : String
  totalUp : Int64
  totalDown : Int64
  deltaUp : Int64
  deltaDown : Int64
  rateUp : ℚ
  rateDown : ℚ
  windowSeconds : ℚ
  status : String
deriving DecidableEq, Inhabited

/-- A row of `ListTrafficAnalyticsSamples`, scanned. -/
def scanSample (row : AnalyticsSample) : ReturnedSample where
  sampledAt := rfc3339 (row.bucketUnix * second)
  engine := row.key.engine
  scopeType := row.key.scopeType
  scopeKey := row.key.scopeKey
  totalUp := row.totalUp
  totalDown := row.totalDown
  deltaUp := .ofInt row.deltaUp
  deltaDown := .ofInt row.deltaDown
  rateUp := row.rateUp
  rateDown := row.rateDown
  windowSeconds := row.windowSeconds
  status := row.status

def normalizeTrafficScopeType (value : String) : String :=
  toLower (trimSpace (value.map fun rune => if rune = '-' then '_' else rune))

def trafficSampleCanAggregate (sample : ReturnedSample) : Bool :=
  toLower (trimSpace sample.status) ∈ ["", "ok", "partial"]

/-! ### The samples of a scope -/

/-- The scope keys and the engines that count for them. -/
def expectedTrafficSeriesEngines (scopeType : String) (inbounds : List Inbound) : List (String × String) :=
  let added :=
    if scopeType = "client" then inbounds.flatMap fun inbound => inbound.clients.map fun client =>
      (clientTrafficStatsKey client, expectedTrafficEngine inbound.protocol)
    else if scopeType = "inbound" then inbounds.map fun inbound =>
      (inboundStatsKey inbound.id inbound.protocol, expectedTrafficEngine inbound.protocol)
    else []
  (added.map fun entry => (trimSpace entry.1, normalizeTrafficEngine entry.2)).filter fun entry =>
    entry.1 ≠ "" && entry.2 ≠ ""

def sampleEngines (samples : List ReturnedSample) : List (String × String) :=
  (samples.filter fun sample => trimSpace sample.scopeKey ≠ "" && normalizeTrafficEngine sample.engine ≠ "").map
    fun sample => (sample.scopeKey, normalizeTrafficEngine sample.engine)

def selectedTrafficSeriesEngines (samples : List ReturnedSample) (scopeType : String) (inbounds : List Inbound) :
    List (String × String) :=
  (expectedTrafficSeriesEngines scopeType inbounds).filter (· ∈ sampleEngines samples)

def filterTrafficAnalyticsSamples (samples : List ReturnedSample) (scopeType : String) (inbounds : List Inbound) :
    List ReturnedSample :=
  let allowed := selectedTrafficSeriesEngines samples scopeType inbounds
  samples.filter fun sample =>
    (sample.scopeType = "" || normalizeTrafficScopeType sample.scopeType = scopeType) &&
      (if scopeType = "client" ∨ scopeType = "inbound" then
        (sample.scopeKey, normalizeTrafficEngine sample.engine) ∈ allowed
      else true)

/-! ### Inbounds without samples of their own -/

structure AggregateKey where
  sampledAt : String
  engine : String
  scopeKey : String
deriving DecidableEq

def nativeInboundKey (sample : ReturnedSample) : Option AggregateKey :=
  let key : AggregateKey := ⟨sample.sampledAt, normalizeTrafficEngine sample.engine, trimSpace sample.scopeKey⟩
  if normalizeTrafficScopeType sample.scopeType = "inbound" ∧ key.scopeKey ≠ "" ∧ key.engine ≠ "" ∧
      trafficSampleCanAggregate sample then some key
  else none

def nativeInboundKeys (inboundSamples : List ReturnedSample) : List AggregateKey :=
  inboundSamples.filterMap nativeInboundKey

/-- The engine and the key of an enabled client, and the key of its inbound. -/
def enabledClientKeys (inbounds : List Inbound) : List ((String × String) × String) :=
  inbounds.flatMap fun inbound =>
    (inbound.clients.filter fun client => client.enabled && clientTrafficStatsKey client ≠ "").map fun client =>
      ((expectedTrafficEngine inbound.protocol, clientTrafficStatsKey client), inboundStatsKey inbound.id inbound.protocol)

/-- The key of the inbound that `clientMetaByKey` holds for a client. -/
def clientMetaByKey (inbounds : List Inbound) (engine clientKey : String) : Option String :=
  lastWrite (enabledClientKeys inbounds) (engine, clientKey)

def clientKeysByInbound (inbounds : List Inbound) (engine inboundKey : String) : List String :=
  ((enabledClientKeys inbounds).filter fun entry => entry.1.1 = engine && entry.2 = inboundKey).map
    fun entry => entry.1.2

/-- The point a sample of a client belongs to, unless the inbound has a sample of its own there. -/
def fallbackPoint (native : List AggregateKey) (inbounds : List Inbound) (sample : ReturnedSample) : Option AggregateKey :=
  ((clientMetaByKey inbounds (normalizeTrafficEngine sample.engine) sample.scopeKey).map fun inboundKey =>
    (⟨sample.sampledAt, normalizeTrafficEngine sample.engine, inboundKey⟩ : AggregateKey)).filter (· ∉ native)

def aggregatedPoint (native : List AggregateKey) (inbounds : List Inbound) (sample : ReturnedSample) : Option AggregateKey :=
  (fallbackPoint native inbounds sample).filter fun _ => trafficSampleCanAggregate sample

/-- An aggregate before its first sample, whose status it takes. -/
def emptyAggregate (key : AggregateKey) : ReturnedSample :=
  { (default : ReturnedSample) with
    sampledAt := key.sampledAt, engine := key.engine, scopeType := "inbound", scopeKey := key.scopeKey }

def addToAggregate (aggregate sample : ReturnedSample) : ReturnedSample :=
  { aggregate with
    totalUp := aggregate.totalUp + sample.totalUp
    totalDown := aggregate.totalDown + sample.totalDown
    deltaUp := aggregate.deltaUp + sample.deltaUp
    deltaDown := aggregate.deltaDown + sample.deltaDown
    rateUp := aggregate.rateUp + sample.rateUp
    rateDown := aggregate.rateDown + sample.rateDown
    windowSeconds := max aggregate.windowSeconds sample.windowSeconds
    status := combineTrafficStatuses aggregate.status sample.status }

/-- The status `clientStatusByPoint` holds for a client. -/
def clientStatusByPoint (native : List AggregateKey) (inbounds : List Inbound) (clientSamples : List ReturnedSample)
    (key : AggregateKey) (clientKey : String) : Option String :=
  lastWrite (clientSamples.filterMap fun sample =>
    (fallbackPoint native inbounds sample).map fun point => ((point, sample.scopeKey), sample.status)) (key, clientKey)

/-- The status of a point: that of all enabled clients of the inbound. -/
def pointStatus (native : List AggregateKey) (inbounds : List Inbound) (clientSamples : List ReturnedSample)
    (key : AggregateKey) : String :=
  (clientKeysByInbound inbounds key.engine key.scopeKey).foldl (fun status clientKey =>
    let known := (clientStatusByPoint native inbounds clientSamples key clientKey).getD ""
    combineTrafficStatuses status (if trimSpace known ≠ "" then known else "waiting")) ""

/-- The aggregates of clients, in the order of their first samples. -/
def clientAggregates (native : List AggregateKey) (inbounds : List Inbound) (clientSamples : List ReturnedSample) :
    List (AggregateKey × ReturnedSample) :=
  (gather (aggregatedPoint native inbounds) emptyAggregate addToAggregate clientSamples).map fun entry =>
    let status := pointStatus native inbounds clientSamples entry.1
    (entry.1, if status ≠ "" then { entry.2 with status } else entry.2)

/-- By time, engine and key. -/
def sampleOrder (left right : ReturnedSample) : Bool :=
  left.sampledAt < right.sampledAt || (left.sampledAt == right.sampledAt &&
    (left.engine < right.engine || (left.engine == right.engine && left.scopeKey ≤ right.scopeKey)))

def trafficAnalyticsInboundSamplesWithClientFallback (inboundSamples clientSamples : List ReturnedSample)
    (inbounds : List Inbound) : List ReturnedSample :=
  let native := nativeInboundKeys inboundSamples
  let aggregates := clientAggregates native inbounds clientSamples
  if clientSamples.isEmpty || aggregates.isEmpty then inboundSamples
  else
    let kept := inboundSamples.filter fun sample =>
      ⟨sample.sampledAt, normalizeTrafficEngine sample.engine, trimSpace sample.scopeKey⟩ ∉ aggregates.map Prod.fst ||
        trafficSampleCanAggregate sample
    (kept ++ aggregates.map Prod.snd).mergeSort sampleOrder

/-! ### The series -/

structure TrafficV2AnalyticsPoint where
  time : String
  up : Int64
  down : Int64
  total : Int64
  rateUp : ℚ
  rateDown : ℚ
  rateTotal : ℚ
deriving DecidableEq

/-- What the loop has added up for a bucket. -/
structure BucketValue where
  up : Int64
  down : Int64
  rateUp : ℚ
  rateDown : ℚ
  rateCount : Nat
  cumulative : List (String × (Int64 × Int64))

def emptyBucket : BucketValue :=
  ⟨0, 0, 0, 0, 0, []⟩

def addToBucket (metric : String) (bucket : BucketValue) (sample : ReturnedSample) : BucketValue where
  up := if metric = "usage" then bucket.up + sample.deltaUp else bucket.up
  down := if metric = "usage" then bucket.down + sample.deltaDown else bucket.down
  rateUp := bucket.rateUp + sample.rateUp
  rateDown := bucket.rateDown + sample.rateDown
  rateCount := bucket.rateCount + 1
  cumulative := if metric = "cumulative" then
      modify sample.scopeKey (0, 0) (fun _ => (sample.totalUp, sample.totalDown)) bucket.cumulative
    else bucket.cumulative

/-- The bucket a sample counts in, in Unix seconds. -/
def seriesBucket (bucketSeconds : Int) (sample : ReturnedSample) : Option Int :=
  if trafficSampleCanAggregate sample then
    (parseRfc3339 sample.sampledAt).map fun sampledAt => (sampledAt / second).tdiv bucketSeconds * bucketSeconds
  else none

def seriesPoint (metric : String) (bucketUnix : Int) (bucket : BucketValue) : TrafficV2AnalyticsPoint :=
  let up := if metric = "cumulative" then bucket.up + (bucket.cumulative.map fun entry => entry.2.1).sum else bucket.up
  let down := if metric = "cumulative" then bucket.down + (bucket.cumulative.map fun entry => entry.2.2).sum
    else bucket.down
  let rateDivisor : ℚ := if bucket.rateCount = 0 then 1 else bucket.rateCount
  { time := rfc3339 (bucketUnix * second)
    up, down, total := up + down
    rateUp := bucket.rateUp / rateDivisor
    rateDown := bucket.rateDown / rateDivisor
    rateTotal := (bucket.rateUp + bucket.rateDown) / rateDivisor }

def seriesBuckets (samples : List ReturnedSample) (bucketSeconds : Int) (metric : String) : List (Int × BucketValue) :=
  (gather (seriesBucket (if bucketSeconds ≤ 0 then 300 else bucketSeconds)) (fun _ => emptyBucket) (addToBucket metric)
    samples).mergeSort fun left right => left.1 ≤ right.1

def bucketTrafficAnalyticsSeries (samples : List ReturnedSample) (bucketSeconds : Int) (metric : String) :
    List TrafficV2AnalyticsPoint :=
  (seriesBuckets samples bucketSeconds metric).map fun entry => seriesPoint metric entry.1 entry.2

structure TrafficV2AnalyticsSummary where
  up : Int64
  down : Int64
  total : Int64
  rateUp : ℚ
  rateDown : ℚ
  rateTotal : ℚ
  peakUp : Int64
  peakDown : Int64
  peakTotal : Int64
  peakRate : ℚ
  peakAt : String
  points : Nat
  hasData : Bool
  emptyReason : String
deriving Inhabited

/-- The part of both loops that keeps the highest point. -/
def raisePeak (summary : TrafficV2AnalyticsSummary) (point : TrafficV2AnalyticsPoint) : TrafficV2AnalyticsSummary :=
  if summary.peakTotal < point.total ∨ (point.total = summary.peakTotal ∧ summary.peakRate < point.rateTotal) then
    { summary with
      peakUp := point.up, peakDown := point.down, peakTotal := point.total, peakRate := point.rateTotal
      peakAt := point.time }
  else summary

def addToSummary (summary : TrafficV2AnalyticsSummary) (point : TrafficV2AnalyticsPoint) : TrafficV2AnalyticsSummary :=
  raisePeak
    { summary with
      up := summary.up + point.up, down := summary.down + point.down, total := summary.total + point.total
      rateUp := summary.rateUp + point.rateUp, rateDown := summary.rateDown + point.rateDown
      rateTotal := summary.rateTotal + point.rateTotal } point

def summarizeTrafficAnalyticsSeries (series : List TrafficV2AnalyticsPoint) (metric : String) :
    TrafficV2AnalyticsSummary :=
  let summary := { (default : TrafficV2AnalyticsSummary) with points := series.length, hasData := !series.isEmpty }
  if metric = "cumulative" then
    match series.getLast? with
    | none => summary
    | some last =>
        series.foldl raisePeak
          { summary with
            up := last.up, down := last.down, total := last.total
            rateUp := last.rateUp, rateDown := last.rateDown, rateTotal := last.rateTotal }
  else
    let summary := series.foldl addToSummary summary
    let divisor : ℚ := if series.isEmpty then 1 else series.length
    { summary with
      rateUp := summary.rateUp / divisor, rateDown := summary.rateDown / divisor, rateTotal := summary.rateTotal / divisor }

/-! ### The rankings -/

structure TrafficV2AnalyticsRank where
  id : Int
  label : String
  scopeKey : String
  protocol : String
  up : Int64
  down : Int64
  total : Int64
  rateTotal : ℚ
deriving Inhabited

structure RankAggregate where
  rank : TrafficV2AnalyticsRank
  rateSum : ℚ
  rateCount : Nat
  latestAt : String

def RankAggregate.addSample (metric : String) (aggregate : RankAggregate) (sample : ReturnedSample) : RankAggregate :=
  let later := metric = "cumulative" ∧ aggregate.latestAt ≤ sample.sampledAt
  let rank := aggregate.rank
  let rateSum := aggregate.rateSum + (sample.rateUp + sample.rateDown)
  let rateCount := aggregate.rateCount + 1
  let counted :=
    if metric = "cumulative" then
      if later then
        { rank with up := sample.totalUp, down := sample.totalDown, total := sample.totalUp + sample.totalDown }
      else rank
    else
      { rank with
        up := rank.up + sample.deltaUp, down := rank.down + sample.deltaDown
        total := rank.total + (sample.deltaUp + sample.deltaDown) }
  { rank := { counted with rateTotal := rateSum / rateCount }
    rateSum, rateCount
    latestAt := if later then sample.sampledAt else aggregate.latestAt }

/-- The columns of a rank that come from the inbounds: by engine and key of the client. -/
def clientRankMeta (inbounds : List Inbound) : List ((String × String) × TrafficV2AnalyticsRank) :=
  inbounds.flatMap fun inbound =>
    (inbound.clients.filter fun client => clientTrafficStatsKey client ≠ "").map fun client =>
      ((expectedTrafficEngine inbound.protocol, clientTrafficStatsKey client),
        { (default : TrafficV2AnalyticsRank) with
          id := client.id, label := client.email, scopeKey := clientTrafficStatsKey client, protocol := inbound.protocol })

def inboundRankMeta (inbounds : List Inbound) : List (String × TrafficV2AnalyticsRank) :=
  inbounds.map fun inbound =>
    (inboundStatsKey inbound.id inbound.protocol,
      { (default : TrafficV2AnalyticsRank) with
        id := inbound.id, label := inbound.remark, scopeKey := inboundStatsKey inbound.id inbound.protocol
        protocol := inbound.protocol })

/-- The loops of `rankTrafficAnalyticsClients` and `rankTrafficAnalyticsInbounds`: one aggregate for each key. -/
def rankSamples {κ : Type} [DecidableEq κ] (scopeType metric : String) (rankKey : ReturnedSample → κ)
    (known : List (κ × TrafficV2AnalyticsRank)) (samples : List ReturnedSample) : List (κ × RankAggregate) :=
  gather
    (fun sample =>
      if normalizeTrafficScopeType sample.scopeType = scopeType ∧ trafficSampleCanAggregate sample = true ∧
          (lastWrite known (rankKey sample)).isSome then some (rankKey sample)
      else none)
    (fun key => ⟨(lastWrite known key).getD default, 0, 0, ""⟩) (RankAggregate.addSample metric) samples

/-- Go sorts what it finds in a map; between equal ranks the order is not determined. -/
def sortedTrafficAnalyticsRanks (aggregates : List RankAggregate) (limit : Nat) (metric : String) :
    List TrafficV2AnalyticsRank :=
  let before (left right : TrafficV2AnalyticsRank) : Bool :=
    if metric = "rate" ∧ left.rateTotal ≠ right.rateTotal then right.rateTotal < left.rateTotal
    else if left.total = right.total then left.label < right.label
    else right.total < left.total
  ((aggregates.map RankAggregate.rank).mergeSort fun left right => !before right left).take limit

def rankTrafficAnalyticsSamples (samples : List ReturnedSample) (scopeType : String) (inbounds : List Inbound)
    (limit : Int) (metric : String) : List TrafficV2AnalyticsRank :=
  let limit := if limit ≤ 0 then 5 else limit.toNat
  if scopeType = "client" then
    sortedTrafficAnalyticsRanks ((rankSamples "client" metric
      (fun sample => (normalizeTrafficEngine sample.engine, sample.scopeKey)) (clientRankMeta inbounds) samples).map
        Prod.snd) limit metric
  else
    sortedTrafficAnalyticsRanks ((rankSamples "inbound" metric ReturnedSample.scopeKey (inboundRankMeta inbounds)
      samples).map Prod.snd) limit metric

/-! ### The heat map -/

structure TrafficV2HeatmapPoint where
  day : String
  hour : Int
  total : Int64
deriving DecidableEq

/-- Day and hour of a point; Go joins them into one text. -/
def heatmapCell (point : TrafficV2AnalyticsPoint) : Option (String × Int) :=
  (parseRfc3339 point.time).map fun time =>
    let (year, month, day) := civilDate (time / (24 * Go.hour))
    (String.ofList (padded 4 year ++ '-' :: padded 2 month ++ '-' :: padded 2 day), time / Go.hour % 24)

def heatmapKey (cell : String × Int) : String :=
  cell.1 ++ "-" ++ String.ofList (padded 2 cell.2)

def heatmapTrafficAnalytics (series : List TrafficV2AnalyticsPoint) : List TrafficV2HeatmapPoint :=
  ((gather heatmapCell (fun _ => (0 : Int64)) (fun total point => total + point.total) series).mergeSort
    fun left right => heatmapKey left.1 ≤ heatmapKey right.1).map fun entry => ⟨entry.1.1, entry.1.2, entry.2⟩

/-! ### The answer -/

structure TrafficV2AnalyticsParams where
  range : String
  metric : String
  scopeType : String
  bucketSeconds : Int
  top : Int

structure TrafficV2AnalyticsResponse where
  range : String
  metric : String
  scopeType : String
  bucketSeconds : Int
  summary : TrafficV2AnalyticsSummary
  series : List TrafficV2AnalyticsPoint
  topClients : List TrafficV2AnalyticsRank
  topInbounds : List TrafficV2AnalyticsRank
  heatmap : List TrafficV2HeatmapPoint

/-- The samples the inbounds are charted with. -/
def effectiveInboundSamples (samples : List ReturnedSample) (inbounds : List Inbound) : List ReturnedSample :=
  trafficAnalyticsInboundSamplesWithClientFallback (filterTrafficAnalyticsSamples samples "inbound" inbounds)
    (filterTrafficAnalyticsSamples samples "client" inbounds) inbounds

def chosenSamples (scopeType : String) (samples : List ReturnedSample) (inbounds : List Inbound) : List ReturnedSample :=
  if scopeType = "inbound" then effectiveInboundSamples samples inbounds
  else filterTrafficAnalyticsSamples samples "client" inbounds

def buildTrafficV2Analytics (params : TrafficV2AnalyticsParams) (samples : List ReturnedSample)
    (inbounds : List Inbound) : TrafficV2AnalyticsResponse :=
  let series := bucketTrafficAnalyticsSeries (chosenSamples params.scopeType samples inbounds) params.bucketSeconds
    params.metric
  let summary := summarizeTrafficAnalyticsSeries series params.metric
  { range := params.range
    metric := params.metric
    scopeType := params.scopeType
    bucketSeconds := params.bucketSeconds
    summary := if series.isEmpty then { summary with emptyReason := "waiting" } else summary
    series
    topClients := rankTrafficAnalyticsSamples (filterTrafficAnalyticsSamples samples "client" inbounds) "client" inbounds
      params.top params.metric
    topInbounds := rankTrafficAnalyticsSamples (effectiveInboundSamples samples inbounds) "inbound" inbounds params.top
      params.metric
    heatmap := heatmapTrafficAnalytics series }

end MiGate.Web
