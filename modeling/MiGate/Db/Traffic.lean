import MiGate.Db.Store
import MiGate.Go.Strings
import MiGate.Go.Time

namespace MiGate.Db

open Go Relational

def normalizeTrafficToken (value : String) : String :=
  toLower (trimSpace value)

def normalizeTrafficEngine (engine : String) : String :=
  if normalizeTrafficToken engine = "sing-box" then "singbox" else normalizeTrafficToken engine

def normalizeTrafficStatus (status : String) : String :=
  let status := trimSpace status
  if status = "" then "waiting" else status

def expectedTrafficEngineForProtocol (protocol : String) : String :=
  if toLower (trimSpace protocol) ∈ ["hysteria2", "tuic", "shadowtls"] then "singbox" else "xray"

/-- One raw reading as `normalizeTrafficRawStats` keeps it, or nothing when it names no counter. -/
def normalizeTrafficRawStat (raw : TrafficRawStat) : Option TrafficRawStat :=
  let status := trimSpace raw.status
  let raw := { raw with
    engine := normalizeTrafficEngine raw.engine
    scopeType := normalizeTrafficToken raw.scopeType
    scopeKey := trimSpace raw.scopeKey
    status := if status = "" then "ok" else status
    message := trimSpace raw.message }
  if raw.engine = "" ∨ raw.scopeType = "" ∨ raw.scopeKey = "" then none else some raw

def normalizeTrafficRawStats (stats : List TrafficRawStat) : List TrafficRawStat :=
  stats.filterMap normalizeTrafficRawStat

def normalizeTrafficStatusMarker (marker : TrafficStatusMarker) : Option TrafficStatusMarker :=
  let status := trimSpace marker.status
  let marker := { marker with
    engine := normalizeTrafficToken marker.engine
    scopeType := normalizeTrafficToken marker.scopeType
    scopeKey := trimSpace marker.scopeKey
    status := if status = "" then "unavailable" else status
    message := trimSpace marker.message }
  if marker.engine = "" ∨ marker.scopeType = "" ∨ marker.scopeKey = "" then none else some marker

def normalizeTrafficStatusMarkers (stats : List TrafficStatusMarker) : List TrafficStatusMarker :=
  stats.filterMap normalizeTrafficStatusMarker

/-! ### The stored states -/

/-- The rows a transaction has read, by key; Go joins the three parts with NUL bytes. -/
abbrev TrafficStates := TrafficKey → Option TrafficState

def TrafficStates.set (states : TrafficStates) (key : TrafficKey) (state : TrafficState) :
    TrafficStates :=
  fun other => if other = key then some state else states other

/-- The zero value of Go's `TrafficState`, which a map yields for an absent key. -/
def TrafficState.zero : TrafficState where
  engine := ""
  scopeType := ""
  scopeKey := ""
  totalUp := 0
  totalDown := 0
  lastRawUp := 0
  lastRawDown := 0
  deltaUp := 0
  deltaDown := 0
  rateUp := 0
  rateDown := 0
  windowSeconds := 0
  lastSeenAt := none
  status := ""
  message := ""

def normalizeTrafficState (state : TrafficState) : TrafficState :=
  { state with
    engine := normalizeTrafficEngine state.engine
    scopeType := normalizeTrafficToken state.scopeType
    scopeKey := trimSpace state.scopeKey }

def prefetchTrafficStates (store : Store) (keys : List TrafficKey) : TrafficStates :=
  (store.trafficStates.rows.filter fun row => row.key ∈ keys).foldl
    (fun states row => states.set (normalizeTrafficState row).key (normalizeTrafficState row))
    fun _ => none

def isBaselineOnlyTrafficStatus (state : TrafficState) : Bool :=
  let status := normalizeTrafficStatus state.status
  if status = "waiting" ∨ status = "not_configured" ∨ status = "unsupported" then true
  else if status = "ok" then true
  else if status = "unavailable" then
    let message := toLower (trimSpace state.message)
    message = "" || contains message "baseline unavailable" || contains message "stats offline" ||
      contains message "waiting"
  else false

def isMissingRawBaseline (state : TrafficState) : Bool :=
  state.lastRawUp = 0 && state.lastRawDown = 0 &&
    state.deltaUp = 0 && state.deltaDown = 0 &&
    state.rateUp = 0 && state.rateDown = 0 &&
    state.windowSeconds = 0 &&
    isBaselineOnlyTrafficStatus state

/-- A core's counter has been reset when it reads lower than its last known non-zero value. -/
def isCounterReset (rawUp rawDown lastRawUp lastRawDown : Int64) : Bool :=
  (0 < lastRawUp && rawUp < lastRawUp) || (0 < lastRawDown && rawDown < lastRawDown)

def shouldSuppressRecoveredTrafficRate (state : TrafficState) : Bool :=
  normalizeTrafficStatus state.status ∈ ["waiting", "unavailable", "unsupported", "not_configured"]

/-! ### `ApplyTrafficRawStats` -/

/-- An observation without a time is made now. -/
def observationTime (now observedAt : Int) : Int :=
  if isZero observedAt then now else observedAt

def elapsedSince (observedAt : Int) (current : Option TrafficState) : ℚ :=
  match current.bind (·.lastSeenAt) with
  | some previous => if previous < observedAt then seconds (sub observedAt previous) else 0
  | none => 0

def rawIncrease (raw lastRaw : Int64) : Int64 :=
  if lastRaw ≤ raw then raw - lastRaw else 0

def lacksBaseline (current : Option TrafficState) : Bool :=
  match current with
  | none => true
  | some state => isMissingRawBaseline state

/-- The row one normalized reading of `ApplyTrafficRawStats` writes over `current`. -/
def observeTraffic (observedAt : Int) (current : Option TrafficState) (raw : TrafficRawStat) :
    TrafficState :=
  let state := current.getD .zero
  let elapsed := elapsedSince observedAt current
  let deltaUp := if lacksBaseline current then 0 else rawIncrease raw.rawUp state.lastRawUp
  let deltaDown := if lacksBaseline current then 0 else rawIncrease raw.rawDown state.lastRawDown
  let rated := 0 < elapsed && !shouldSuppressRecoveredTrafficRate state
  let message := trimSpace raw.message
  let reset := deltaUp = 0 && deltaDown = 0 && current.isSome &&
    isCounterReset raw.rawUp raw.rawDown state.lastRawUp state.lastRawDown
  { engine := raw.engine
    scopeType := raw.scopeType
    scopeKey := raw.scopeKey
    totalUp := state.totalUp + deltaUp
    totalDown := state.totalDown + deltaDown
    lastRawUp := raw.rawUp
    lastRawDown := raw.rawDown
    deltaUp := deltaUp
    deltaDown := deltaDown
    rateUp := if rated then deltaUp.toInt / elapsed else 0
    rateDown := if rated then deltaDown.toInt / elapsed else 0
    windowSeconds := elapsed
    lastSeenAt := some observedAt
    status := raw.status
    message := if reset && message = "" then "counter reset detected, baseline re-established"
      else message }

def trafficSampleBucketSize : Int := 5 * second

def trafficSamplesHotRetention : Int := 24 * hour

def trafficSamplesRetention : Int := 30 * 24 * hour

def trafficSamplesCleanupInterval : Int := hour

def trafficSampleBucket (now observedAt : Int) : Int :=
  truncate (observationTime now observedAt) trafficSampleBucketSize

def trafficSampleOf (sampledAt : Int) (state : TrafficState) : TrafficSample where
  sampledAt := sampledAt
  engine := state.engine
  scopeType := state.scopeType
  scopeKey := state.scopeKey
  totalUp := state.totalUp
  totalDown := state.totalDown
  deltaUp := state.deltaUp
  deltaDown := state.deltaDown
  rateUp := state.rateUp
  rateDown := state.rateDown
  windowSeconds := state.windowSeconds
  status := state.status

/-- A transaction under way: the database as written so far and the rows it works on. -/
structure TrafficTx where
  store : Store
  states : TrafficStates

def TrafficTx.write (tx : TrafficTx) (sampledAt : Int) (row : TrafficState) : TrafficTx :=
  { tx with
    store := { tx.store with
      trafficStates := tx.store.trafficStates.upsert row
      trafficSamples := tx.store.trafficSamples.upsert (trafficSampleOf sampledAt row) } }

/-- One turn of the loop of `ApplyTrafficRawStats`.  The copy it goes on working with keeps
the reading's own message. -/
def applyTrafficRawStat (observedAt sampledAt : Int) (tx : TrafficTx) (raw : TrafficRawStat) :
    TrafficTx :=
  let row := observeTraffic observedAt (tx.states raw.key) raw
  let tx := tx.write sampledAt row
  { tx with states := tx.states.set raw.key { row with message := trimSpace raw.message } }

/-- A row of the join of enabled inbounds with their one enabled client. -/
structure SingleClientInbound where
  inboundKey : String
  clientKey : String
deriving DecidableEq, Repr

def singleClientInbounds (store : Store) : List SingleClientInbound :=
  store.inbounds.rows.flatMap fun inbound =>
    let enabledClients := store.clients.rows.filter fun client =>
      client.inboundID = inbound.id && client.enabled
    if inbound.enabled && inbound.protocol ∉ ["hysteria2", "tuic", "shadowtls", "wireguard"] &&
        enabledClients.length = 1 then
      enabledClients.map fun client =>
        { inboundKey := "inbound-" ++ itoa inbound.id ++ "-" ++ toLower (trimSpace inbound.protocol)
          clientKey := trimSpace client.statsKey }
    else []

def repairCandidates (store : Store) (stats : List TrafficRawStat) : List SingleClientInbound :=
  (singleClientInbounds store).filter fun candidate =>
    (stats.any fun raw => raw.engine = "xray" && raw.scopeType = "inbound" &&
      raw.scopeKey = candidate.inboundKey) && candidate.clientKey ≠ ""

def SingleClientInbound.inboundStateKey (candidate : SingleClientInbound) : TrafficKey :=
  ⟨"xray", "inbound", candidate.inboundKey⟩

def SingleClientInbound.clientStateKey (candidate : SingleClientInbound) : TrafficKey :=
  ⟨"xray", "client", candidate.clientKey⟩

/-- The states of a candidate whose client counted more than its inbound did. -/
def pollutedClient (states : TrafficStates) (candidate : SingleClientInbound) :
    Option (TrafficState × TrafficState) :=
  match states candidate.inboundStateKey, states candidate.clientStateKey with
  | some inboundState, some clientState =>
      if inboundState.status ≠ "ok" ∨ clientState.status ≠ "ok" then none
      else if clientState.totalUp ≤ inboundState.totalUp ∧
          clientState.totalDown ≤ inboundState.totalDown then none
      else some (inboundState, clientState)
  | _, _ => none

def reconciledMessage : String :=
  "client totals reconciled to native inbound counters because stored client totals exceeded the inbound total"

def reconcileState (seenAt : Int) (inboundState clientState : TrafficState) : TrafficState :=
  { clientState with
    totalUp := inboundState.totalUp
    totalDown := inboundState.totalDown
    deltaUp := 0
    deltaDown := 0
    rateUp := 0
    rateDown := 0
    windowSeconds := 0
    lastSeenAt := some seenAt
    status := "partial"
    message := reconciledMessage }

theorem reconcileState_key (seenAt : Int) (inboundState clientState : TrafficState) :
    (reconcileState seenAt inboundState clientState).key = clientState.key := rfl

def repairCandidate (seenAt sampledAt : Int) (tx : TrafficTx) (candidate : SingleClientInbound) :
    TrafficTx :=
  match pollutedClient tx.states candidate with
  | none => tx
  | some (inboundState, clientState) =>
      let key := candidate.clientStateKey
      let sample := trafficSampleOf sampledAt (reconcileState seenAt inboundState clientState)
      { store := { tx.store with
          trafficStates := tx.store.trafficStates.modifyWhere (fun row => row.key = key)
            (reconcileState seenAt inboundState) (reconcileState_key seenAt inboundState)
          trafficSamples := tx.store.trafficSamples.upsert
            { sample with engine := "xray", scopeType := "client", scopeKey := candidate.clientKey } }
        states := tx.states.set key (reconcileState seenAt inboundState clientState) }

def repairPollutedSingleClientTraffic (seenAt sampledAt : Int) (stats : List TrafficRawStat)
    (tx : TrafficTx) : TrafficTx :=
  (repairCandidates tx.store stats).foldl (repairCandidate seenAt sampledAt) tx

/-- The samples retention drops: those past it, and past the hot part of it those that do
not start a block of five minutes.  Times are compared as the stored texts. -/
def expiredSample (cutoff hotCutoff : Int) (sample : TrafficSample) : Bool :=
  let sampledAt := rfc3339Nano sample.sampledAt
  sampledAt < rfc3339Nano cutoff ||
    (sampledAt < rfc3339Nano hotCutoff &&
      (minuteOf sample.sampledAt % 5 ≠ 0 || secondOf sample.sampledAt ≠ 0))

def cleanupTrafficSamples (observedAt : Int) (store : Store) : Store :=
  if !isZero store.nextTrafficSamplesCleanup && observedAt < store.nextTrafficSamplesCleanup then store
  else
    { store with
      nextTrafficSamplesCleanup := observedAt + trafficSamplesCleanupInterval
      trafficSamples := store.trafficSamples.deleteWhere
        (expiredSample (observedAt - trafficSamplesRetention)
          (observedAt - trafficSamplesHotRetention)) }

def beginTrafficTx (store : Store) (keys : List TrafficKey) : TrafficTx :=
  { store := store, states := prefetchTrafficStates store keys }

/-- The transaction of `ApplyTrafficRawStats` when its loop has ended. -/
def applyTrafficLoop (observedAt sampledAt : Int) (stats : List TrafficRawStat) (store : Store) :
    TrafficTx :=
  stats.foldl (applyTrafficRawStat observedAt sampledAt)
    (beginTrafficTx store (stats.map TrafficRawStat.key))

def applyTrafficRawStats (now : Int) (stats : List TrafficRawStat) (observedAt : Int)
    (store : Store) : Store :=
  let observedAt := observationTime now observedAt
  let stats := normalizeTrafficRawStats stats
  if stats = [] then store
  else
    let sampledAt := trafficSampleBucket now observedAt
    let tx := repairPollutedSingleClientTraffic observedAt sampledAt stats
      (applyTrafficLoop observedAt sampledAt stats store)
    cleanupTrafficSamples observedAt tx.store

/-! ### Status markers -/

/-- The `SET` clause of `MarkTrafficUnavailable`. -/
def setUnavailable (observedAt : Int) (status message : String) (row : TrafficState) : TrafficState :=
  { row with
    deltaUp := 0
    deltaDown := 0
    rateUp := 0
    rateDown := 0
    windowSeconds := 0
    status := status
    message := message
    lastSeenAt := some observedAt }

theorem setUnavailable_key (observedAt : Int) (status message : String) (row : TrafficState) :
    (setUnavailable observedAt status message row).key = row.key := rfl

def markTrafficUnavailable (now : Int) (engine status message : String) (observedAt : Int)
    (store : Store) : Store :=
  let engine := normalizeTrafficToken engine
  if engine = "" then store
  else
    let status := if trimSpace status = "" then "unavailable" else trimSpace status
    let observedAt := observationTime now observedAt
    { store with
      trafficStates := store.trafficStates.modifyWhere (fun row => row.engine = engine)
        (setUnavailable observedAt status (trimSpace message))
        (setUnavailable_key observedAt status (trimSpace message)) }

/-- The row a status marker writes over the stored one: only its side fields change. -/
def markTraffic (observedAt : Int) (current : Option TrafficState) (marker : TrafficStatusMarker) :
    TrafficState :=
  { current.getD .zero with
    engine := marker.engine
    scopeType := marker.scopeType
    scopeKey := marker.scopeKey
    deltaUp := 0
    deltaDown := 0
    rateUp := 0
    rateDown := 0
    windowSeconds := 0
    lastSeenAt := some observedAt
    status := marker.status
    message := marker.message }

/-- One turn of the loop of `MarkTrafficScopeStatus`.  The sample takes its totals from the
rows read when the transaction began. -/
def markTrafficScope (observedAt sampledAt : Int) (states : TrafficStates) (store : Store)
    (marker : TrafficStatusMarker) : Store :=
  let row := markTraffic observedAt (store.trafficStates.find? marker.key) marker
  let known := (states marker.key).getD .zero
  { store with
    trafficStates := store.trafficStates.upsert row
    trafficSamples := store.trafficSamples.upsert
      { trafficSampleOf sampledAt row with totalUp := known.totalUp, totalDown := known.totalDown } }

def markTrafficScopeStatus (now : Int) (markers : List TrafficStatusMarker) (observedAt : Int)
    (store : Store) : Store :=
  let observedAt := observationTime now observedAt
  let markers := normalizeTrafficStatusMarkers markers
  if markers = [] then store
  else
    let sampledAt := trafficSampleBucket now observedAt
    let states := prefetchTrafficStates store (markers.map TrafficStatusMarker.key)
    cleanupTrafficSamples observedAt
      (markers.foldl (markTrafficScope observedAt sampledAt states) store)

/-! ### `ResetClientTrafficBaseline` -/

def trafficStateEnginesForClient (store : Store) (statsKey : String) : List String :=
  (store.trafficStates.rows.filterMap fun row =>
    if row.scopeType = "client" ∧ row.scopeKey = statsKey then some (normalizeTrafficEngine row.engine)
    else none).filter (· ≠ "")

def clientExpectedTrafficEngineByID (store : Store) (clientID : Int) : Option String := do
  let client ← store.clients.find? clientID
  let inbound ← store.inbounds.find? client.inboundID
  return expectedTrafficEngineForProtocol inbound.protocol

def isBaselineFor (statsKey engine : String) (raw : TrafficRawStat) : Bool :=
  normalizeTrafficToken raw.scopeType = "client" && trimSpace raw.scopeKey = statsKey &&
    normalizeTrafficToken raw.engine = engine

/-- The last reading given for the client under an engine. -/
def baselineByEngine (baselines : List TrafficRawStat) (statsKey engine : String) :
    Option TrafficRawStat :=
  (baselines.filter (isBaselineFor statsKey engine)).getLast?

def baselineEngines (baselines : List TrafficRawStat) (statsKey : String) : List String :=
  (baselines.filterMap fun raw =>
    if normalizeTrafficToken raw.scopeType = "client" ∧ trimSpace raw.scopeKey = statsKey then
      some (normalizeTrafficToken raw.engine)
    else none).filter (· ≠ "")

def resetTrafficState (now : Int) (engine statsKey : String) (baseline : Option TrafficRawStat) :
    TrafficState where
  engine := engine
  scopeType := "client"
  scopeKey := statsKey
  totalUp := 0
  totalDown := 0
  lastRawUp := (baseline.map (·.rawUp)).getD 0
  lastRawDown := (baseline.map (·.rawDown)).getD 0
  deltaUp := 0
  deltaDown := 0
  rateUp := 0
  rateDown := 0
  windowSeconds := 0
  lastSeenAt := some now
  status := if baseline.isSome then "waiting" else "unavailable"
  message := if baseline.isSome then "baseline reset" else "baseline unavailable during reset"

def resetClientTrafficBaseline (now clientID : Int) (baselines : List TrafficRawStat) (store : Store) :
    Except String (Store × Client) :=
  match store.clients.find? clientID with
  | none => .error "sql: no rows in result set"
  | some client =>
      let engines := trafficStateEnginesForClient store client.statsKey ++
        ((clientExpectedTrafficEngineByID store clientID).filter (· ≠ "")).toList ++
        baselineEngines baselines client.statsKey
      let reset (states : Table TrafficState.key) (engine : String) :=
        states.upsert
          (resetTrafficState now engine client.statsKey (baselineByEngine baselines client.statsKey engine))
      .ok ({ store with trafficStates := engines.foldl reset store.trafficStates }, client)

end MiGate.Db
