import MiGate.Db.TrafficRow
import MiGate.Web.TrafficMetrics
import MiGate.Web.Validation

namespace MiGate.Web

open Go Db Relational

/-! What the panel shows of the traffic of inbounds and clients: `summarizeTrafficFromStates`. -/

structure ClientSummary extends ClientTrafficSummary where
  total : Int64
  rateTotal : ℚ
  engine : String
  xrayUp : Int64
  xrayDown : Int64
  note : String
deriving Inhabited

structure InboundSummary extends InboundTrafficSummary where
  total : Int64
  rateTotal : ℚ
deriving Inhabited

def expectedTrafficEngine (protocol : String) : String :=
  if isSingboxProtocol protocol then "singbox" else "xray"

def inboundStatsKey (id : Int) (protocol : String) : String :=
  let protocol := toLower (trimSpace protocol)
  if protocol = "hysteria2" then "hy2-inbound-" ++ itoa id
  else if protocol = "tuic" then "tuic-inbound-" ++ itoa id
  else if protocol = "shadowtls" then "shadowtls-inbound-" ++ itoa id
  else "inbound-" ++ itoa id ++ "-" ++ protocol

def clientTrafficStatsKey (client : Client) : String :=
  if trimSpace client.statsKey ≠ "" then trimSpace client.statsKey else trimSpace client.email

/-! ### States -/

/-- The column `last_seen_at`. -/
def seenAt (state : TrafficState) : String :=
  (state.lastSeenAt.map rfc3339Nano).getD ""

/-- One turn of the loop that fills `stateByScope`: of the rows that are one but for spelling the last seen stays. -/
def indexTrafficState (index : TrafficStates) (state : TrafficState) : TrafficStates :=
  let state := normalizeTrafficState state
  if state.engine = "" ∨ state.scopeType = "" ∨ state.scopeKey = "" then index
  else match index state.key with
    | none => index.set state.key state
    | some current => if seenAt current < seenAt state then index.set state.key state else index

/-- `stateByScope`, with the engine in the key. -/
def indexTrafficStates (states : List TrafficState) : TrafficStates :=
  states.foldl indexTrafficState fun _ => none

def selectTrafficState (index : TrafficStates) (scopeType scopeKey expectedEngine : String) : Option TrafficState :=
  index ⟨normalizeTrafficEngine expectedEngine, scopeType, scopeKey⟩

def trafficStateStaleAfter : Int := 3 * minute

def trafficStateWithFreshness (now : Int) (state : TrafficState) : TrafficState :=
  match state.lastSeenAt with
  | none => state
  | some seen =>
      if trimSpace state.status ∈ ["stale", "unsupported", "not_configured"] ∨ sub now seen ≤ trafficStateStaleAfter then state
      else
        { state with
          status := "stale", deltaUp := 0, deltaDown := 0, rateUp := 0, rateDown := 0, windowSeconds := 0
          message := if trimSpace state.message = "" then "traffic sample is stale" else state.message }

def stateStatus (state : TrafficState) : String :=
  if trimSpace state.status = "" then "waiting" else trimSpace state.status

def combineTrafficStatuses (current next : String) : String :=
  let current := trimSpace current
  let next := trimSpace next
  if current = "" then next
  else if next = "" then current
  else if current = next then current
  else if current = "not_configured" then next
  else if next = "not_configured" then current
  else "partial"

/-! ### Summaries -/

/-- A summary without a state. -/
def waitingSummary (expectedEngine : String) : ClientSummary :=
  { (default : ClientSummary) with status := "waiting", source := "migate", engine := expectedEngine }

/-- The columns both summaries take from a state: the totals as they are, the rest as far as it is fresh. -/
def stateSummary (now : Int) (state : TrafficState) (source : String) : ClientTrafficSummary :=
  let freshState := trafficStateWithFreshness now state
  { up := state.totalUp, down := state.totalDown
    deltaUp := freshState.deltaUp, deltaDown := freshState.deltaDown
    rateUp := freshState.rateUp, rateDown := freshState.rateDown
    windowSeconds := freshState.windowSeconds
    status := stateStatus freshState, message := freshState.message
    lastSampledAt := seenAt state, source }

/-- The summary of an inbound's own counter. -/
def nativeSummary (now : Int) (expectedEngine : String) (state : Option TrafficState) : InboundSummary :=
  match state with
  | none => { (default : InboundSummary) with status := "waiting", source := "migate", engine := expectedEngine }
  | some state =>
      { stateSummary now state "inbound" with
        engine := state.engine, total := 0, rateTotal := 0 }

def inboundSummaryHasUsableData (summary : InboundSummary) (hasState : Bool) : Bool :=
  hasState && trimSpace summary.status ∈ ["ok", "partial"]

def clientTrafficCanAggregate (summary : ClientSummary) : Bool :=
  trimSpace summary.status ∈ ["ok", "partial"]

def clientSummaryExceedsInbound (client : ClientSummary) (inbound : InboundSummary) : Bool :=
  inbound.up < client.up || inbound.down < client.down

def clientStateSummary (now : Int) (state : TrafficState) : ClientSummary :=
  let freshState := trafficStateWithFreshness now state
  { stateSummary now state "client" with
    total := state.totalUp + state.totalDown, rateTotal := freshState.rateUp + freshState.rateDown
    engine := state.engine, note := ""
    xrayUp := if state.engine = "xray" then state.lastRawUp else 0
    xrayDown := if state.engine = "xray" then state.lastRawDown else 0 }

/-- The summary of a client that has more than its inbound. -/
def reconcileSummary (client : ClientSummary) (inbound : InboundSummary) : ClientSummary :=
  { client with
    up := inbound.up, down := inbound.down, total := inbound.up + inbound.down
    deltaUp := inbound.deltaUp, deltaDown := inbound.deltaDown
    rateUp := inbound.rateUp, rateDown := inbound.rateDown, rateTotal := inbound.rateUp + inbound.rateDown
    windowSeconds := inbound.windowSeconds, status := combineTrafficStatuses client.status "partial"
    source := "client_reconciled", note := reconciledMessage }

/-- An inbound as the loop over its clients sees it. -/
structure InboundScope where
  expectedEngine : String
  native : InboundSummary
  nativeInboundUsable : Bool
  enabledClientCount : Nat

def inboundScope (now : Int) (index : TrafficStates) (inbound : Inbound) : InboundScope :=
  let expectedEngine := expectedTrafficEngine inbound.protocol
  let state := selectTrafficState index "inbound" (inboundStatsKey inbound.id inbound.protocol) expectedEngine
  let native := nativeSummary now expectedEngine state
  { expectedEngine, native
    nativeInboundUsable := inboundSummaryHasUsableData native state.isSome
    enabledClientCount := inbound.clients.countP fun client => client.enabled }

def summarizeClient (now : Int) (index : TrafficStates) (scope : InboundScope) (client : Client) : ClientSummary :=
  match selectTrafficState index "client" (clientTrafficStatsKey client) scope.expectedEngine with
  | none => waitingSummary scope.expectedEngine
  | some state =>
      let summary := clientStateSummary now state
      if client.enabled && scope.enabledClientCount == 1 && scope.nativeInboundUsable &&
          clientSummaryExceedsInbound summary scope.native then reconcileSummary summary scope.native
      else summary

/-- What the loop over the clients of an inbound has added up. -/
structure ClientAggregate where
  summary : InboundSummary
  hasData : Bool
  /-- The statuses of all enabled clients. -/
  status : String

def ClientAggregate.start (expectedEngine : String) : ClientAggregate where
  summary := { (default : InboundSummary) with source := "client_aggregate", engine := expectedEngine }
  hasData := false
  status := ""

def ClientAggregate.add (aggregate : ClientAggregate) (client : ClientSummary) : ClientAggregate :=
  let status := combineTrafficStatuses aggregate.status client.status
  if clientTrafficCanAggregate client then
    let summary := aggregate.summary
    { status, hasData := true
      summary := { summary with
        up := summary.up + client.up, down := summary.down + client.down
        deltaUp := summary.deltaUp + client.deltaUp, deltaDown := summary.deltaDown + client.deltaDown
        rateUp := summary.rateUp + client.rateUp, rateDown := summary.rateDown + client.rateDown
        windowSeconds := max summary.windowSeconds client.windowSeconds
        status := combineTrafficStatuses summary.status client.status
        lastSampledAt := if summary.lastSampledAt < client.lastSampledAt then client.lastSampledAt
          else summary.lastSampledAt } }
  else { aggregate with status }

def aggregateClients (now : Int) (index : TrafficStates) (scope : InboundScope) (clients : List Client) : ClientAggregate :=
  ((clients.filter fun client => client.enabled).map (summarizeClient now index scope)).foldl ClientAggregate.add
    (.start scope.expectedEngine)

def summarizeInbound (now : Int) (index : TrafficStates) (inbound : Inbound) : InboundSummary :=
  let scope := inboundScope now index inbound
  let aggregate := aggregateClients now index scope inbound.clients
  let summary :=
    if !scope.nativeInboundUsable && aggregate.hasData then { aggregate.summary with status := aggregate.status }
    else scope.native
  { summary with total := summary.up + summary.down, rateTotal := summary.rateUp + summary.rateDown }

abbrev InboundSummaries := Table (Prod.fst : Int × InboundSummary → Int)

abbrev ClientSummaries := Table (Prod.fst : Int × ClientSummary → Int)

/-- The maps `byInbound` and `byClient`. -/
def summarizeTrafficFromStates (now : Int) (states : List TrafficState) (inbounds : List Inbound) :
    InboundSummaries × ClientSummaries :=
  let index := indexTrafficStates states
  (inbounds.foldl (fun byInbound inbound => byInbound.upsert (inbound.id, summarizeInbound now index inbound)) .empty,
   (inbounds.flatMap fun inbound => inbound.clients.map fun client =>
      (client.id, summarizeClient now index (inboundScope now index inbound) client)).foldl Table.upsert .empty)

/-- `ListTrafficStates`. -/
def listTrafficStates (states : Table TrafficState.key) : List TrafficState :=
  states.rows.mergeSort fun left right =>
    left.engine < right.engine || (left.engine == right.engine && (left.scopeType < right.scopeType ||
      (left.scopeType == right.scopeType && left.scopeKey ≤ right.scopeKey)))

/-! ### The state under a key -/

/-- No row stands under another spelling of its key. -/
def NormalRows (states : Table TrafficState.key) : Prop :=
  ∀ row ∈ states.rows, normalizeTrafficKey row.key = row.key

def TrafficKey.Given (key : TrafficKey) : Prop :=
  key.engine ≠ "" ∧ key.scopeType ≠ "" ∧ key.scopeKey ≠ ""

theorem indexTrafficState_other {index : TrafficStates} {state : TrafficState} {key : TrafficKey}
    (normal : normalizeTrafficKey state.key = state.key) (other : state.key ≠ key) :
    indexTrafficState index state key = index key := by
  have kept : index.set state.key state key = index key := if_neg (Ne.symm other)
  simp only [indexTrafficState, normalizeTrafficState_of_normal normal]
  split
  · rfl
  · cases index state.key with
    | none => exact kept
    | some current =>
        by_cases later : seenAt current < seenAt state
        · simp only [later, if_true, kept]
        · simp only [later, if_false]

theorem foldl_indexTrafficState_other {states : List TrafficState} {key : TrafficKey}
    (normal : ∀ state ∈ states, normalizeTrafficKey state.key = state.key) (others : ∀ state ∈ states, state.key ≠ key)
    (index : TrafficStates) : states.foldl indexTrafficState index key = index key := by
  induction states generalizing index with
  | nil => rfl
  | cons state rest ih =>
      rw [List.foldl_cons, ih (fun state member => normal state (List.mem_cons_of_mem _ member))
        fun state member => others state (List.mem_cons_of_mem _ member)]
      exact indexTrafficState_other (normal state List.mem_cons_self) (others state List.mem_cons_self)

theorem indexTrafficState_fresh {index : TrafficStates} {state : TrafficState}
    (normal : normalizeTrafficKey state.key = state.key) (given : TrafficKey.Given state.key)
    (fresh : index state.key = none) : indexTrafficState index state state.key = some state := by
  have named : ¬(state.engine = "" ∨ state.scopeType = "" ∨ state.scopeKey = "") := by
    obtain ⟨engine, scopeType, scopeKey⟩ := given
    simp only [TrafficState.key] at engine scopeType scopeKey
    simp only [engine, scopeType, scopeKey, or_self, not_false_eq_true]
  simp only [indexTrafficState, normalizeTrafficState_of_normal normal, if_neg named, fresh]
  exact if_pos rfl

theorem foldl_indexTrafficState {states : List TrafficState} {key : TrafficKey}
    (normal : ∀ state ∈ states, normalizeTrafficKey state.key = state.key)
    (distinct : (states.map TrafficState.key).Nodup) (given : TrafficKey.Given key) (index : TrafficStates)
    (fresh : index key = none) :
    states.foldl indexTrafficState index key = states.find? fun state => state.key = key := by
  induction states generalizing index with
  | nil => exact fresh
  | cons state rest ih =>
      rw [List.map_cons, List.nodup_cons] at distinct
      obtain ⟨alone, restDistinct⟩ := distinct
      have first := normal state List.mem_cons_self
      have restNormal : ∀ state ∈ rest, normalizeTrafficKey state.key = state.key :=
        fun state member => normal state (List.mem_cons_of_mem _ member)
      rw [List.foldl_cons, List.find?_cons]
      by_cases same : state.key = key
      · subst same
        have others : ∀ later ∈ rest, later.key ≠ state.key :=
          fun later member equal => alone (List.mem_map.mpr ⟨later, member, equal⟩)
        rw [foldl_indexTrafficState_other restNormal others]
        simpa using indexTrafficState_fresh first given fresh
      · rw [ih restNormal restDistinct _ ((indexTrafficState_other first same).trans fresh)]
        simp [same]

/-- Where no row is spelled otherwise, the index holds the stored rows. -/
theorem indexTrafficStates_listed {table : Table TrafficState.key} {key : TrafficKey} (normal : NormalRows table)
    (given : TrafficKey.Given key) : indexTrafficStates (listTrafficStates table) key = table.find? key := by
  have same : (listTrafficStates table).Perm table.rows := List.mergeSort_perm _ _
  have distinct : ((listTrafficStates table).map TrafficState.key).Nodup :=
    (same.map TrafficState.key).nodup_iff.mpr table.distinct
  have listedNormal : ∀ state ∈ listTrafficStates table, normalizeTrafficKey state.key = state.key :=
    fun state member => normal state (same.mem_iff.mp member)
  rw [indexTrafficStates, foldl_indexTrafficState listedNormal distinct given _ rfl]
  cases stored : table.find? key with
  | none =>
      rw [List.find?_eq_none]
      intro state member found
      exact Table.find?_eq_none.mp stored state (same.mem_iff.mp member) (by simpa using found)
  | some row =>
      cases found : (listTrafficStates table).find? fun state => state.key = key with
      | none =>
          have listed := same.mem_iff.mpr (Table.mem_of_find? stored)
          have unequal := List.find?_eq_none.mp found row listed
          exact absurd (Table.key_of_find? stored) (by simpa using unequal)
      | some state =>
          have listed := same.mem_iff.mp (List.mem_of_find?_eq_some found)
          have named : state.key = key := by simpa using List.find?_some found
          rw [Table.eq_of_key_eq listed (Table.mem_of_find? stored) (named.trans (Table.key_of_find? stored).symm)]

end MiGate.Web
