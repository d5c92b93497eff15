import MiGate.Db.TrafficRow
import MiGate.Go.Rfc3339

namespace MiGate.Db

open Go Relational

structure TrafficAnalyticsSampleParams where
  scopeType : String
  since : Int
  until_ : Int
  bucketSeconds : Int
deriving DecidableEq, Repr

/-- A row of the analytics query: the samples of one key in one bucket.  The sums are those of
SQL before they are read into 64 bits. -/
structure AnalyticsSample where
  bucketUnix : Int
  key : TrafficKey
  totalUp : Int64
  totalDown : Int64
  deltaUp : Int
  deltaDown : Int
  rateUp : ℚ
  rateDown : ℚ
  windowSeconds : ℚ
  status : String
deriving DecidableEq, Repr

def analyticsScopeType (scopeType : String) : String :=
  if normalizeTrafficToken scopeType = "" then "core" else normalizeTrafficToken scopeType

def analyticsBucketSeconds (bucketSeconds : Int) : Int :=
  if bucketSeconds ≤ 0 then 300 else if 86400 < bucketSeconds then 86400 else bucketSeconds

/-- The `WHERE` clause; times are compared as the stored texts. -/
def inAnalyticsWindow (params : TrafficAnalyticsSampleParams) (sample : TrafficSample) : Bool :=
  sample.scopeType = analyticsScopeType params.scopeType &&
    !(rfc3339Nano sample.sampledAt < rfc3339Nano params.since) &&
    (isZero params.until_ || !(rfc3339Nano params.until_ < rfc3339Nano sample.sampledAt))

/-- The start of a sample's bucket, in Unix seconds. -/
def bucketUnix (bucketSeconds : Int) (sample : TrafficSample) : Int :=
  (sample.sampledAt / second).tdiv bucketSeconds * bucketSeconds

def analyticsGroup (params : TrafficAnalyticsSampleParams) (sample : TrafficSample) : Int × TrafficKey :=
  (bucketUnix (analyticsBucketSeconds params.bucketSeconds) sample, sample.key.2)

/-- The `CASE` that gives a bucket its status. -/
def analyticsStatus (statuses : List String) : String :=
  if statuses.all (· == "ok") then "ok"
  else if statuses.all (· == "not_configured") then "not_configured"
  else if 1 < statuses.dedup.length then "partial"
  else if "partial" ∈ statuses then "partial"
  else if "unsupported" ∈ statuses ∧ "unavailable" ∉ statuses ∧ "stale" ∉ statuses then "unsupported"
  else if "stale" ∈ statuses ∧ "unavailable" ∉ statuses then "stale"
  else if "unavailable" ∈ statuses then "unavailable"
  else "waiting"

/-- `MAX(CASE WHEN rn = 1 THEN total ELSE 0 END)` over samples that are newest first. -/
def newestTotal (total : TrafficSample → Int64) : List TrafficSample → Int64
  | [] => 0
  | [newest] => total newest
  | newest :: _ => max (total newest) 0

def average (values : List ℚ) : ℚ :=
  values.sum / values.length

/-- The row `GROUP BY` makes of the samples of one group. -/
def summarizeSamples (group : Int × TrafficKey) (samples : List TrafficSample) : AnalyticsSample :=
  let newestFirst := samples.mergeSort fun left right =>
    rfc3339Nano right.sampledAt ≤ rfc3339Nano left.sampledAt
  { bucketUnix := group.1
    key := group.2
    totalUp := newestTotal (·.totalUp) newestFirst
    totalDown := newestTotal (·.totalDown) newestFirst
    deltaUp := (samples.map (·.deltaUp.toInt)).sum
    deltaDown := (samples.map (·.deltaDown.toInt)).sum
    rateUp := average (samples.map (·.rateUp))
    rateDown := average (samples.map (·.rateDown))
    windowSeconds := (samples.map (·.windowSeconds)).foldr max 0
    status := analyticsStatus (samples.map (·.status)) }

/-- `ORDER BY bucket_unix, engine, scope_key`. -/
def analyticsOrder (left right : Int × TrafficKey) : Bool :=
  left.1 < right.1 ||
    (left.1 = right.1 && (left.2.engine < right.2.engine ||
      (left.2.engine = right.2.engine && left.2.scopeKey ≤ right.2.scopeKey)))

def listTrafficAnalyticsSamples (params : TrafficAnalyticsSampleParams) (store : Store) :
    List AnalyticsSample :=
  let selected := store.trafficSamples.rows.filter (inAnalyticsWindow params)
  let groups := ((selected.map (analyticsGroup params)).dedup).mergeSort analyticsOrder
  groups.map fun group => summarizeSamples group (selected.filter fun sample => analyticsGroup params sample = group)

/-- The ranges the analytics endpoint offers, with their bucket sizes in seconds. -/
def trafficAnalyticsRange (rangeKey : String) : Except String (Int × Int) :=
  if rangeKey = "1h" then .ok (hour, 60)
  else if rangeKey = "24h" then .ok (24 * hour, 5 * 60)
  else if rangeKey = "7d" then .ok (7 * 24 * hour, 60 * 60)
  else if rangeKey = "30d" then .ok (30 * 24 * hour, 6 * 60 * 60)
  else .error "invalid_range"

/-! ### What the query reports of a column -/

/-- What the query reports for one bucket and key. -/
def reported (delta : AnalyticsSample → Int) (bucket : Int) (key : TrafficKey) (rows : List AnalyticsSample) : Int :=
  ((rows.filter fun row => row.bucketUnix = bucket && row.key = key).map delta).sum

end MiGate.Db
