import MiGate.Traffic.Repair
import MiGate.Web.TrafficSummary

namespace MiGate.Web

open Go Db Relational Traffic

/-! The clients the dashboard counts as limited, beside those the subscription handler refuses. -/

def businessTrafficUsageFromSummary (summary : ClientSummary) : Option Int64 :=
  businessTrafficUsage
    { clientID := 0, statsKey := "", engine := "", totalUp := summary.up, totalDown := summary.down, rateUp := 0
      rateDown := 0, status := summary.status, message := "", lastSeenAt := none }

def limitedClient (byClient : ClientSummaries) (client : Client) : Bool :=
  let summary := ((byClient.find? client.id).map Prod.snd).getD default
  0 < client.trafficLimit &&
    (businessTrafficUsageFromSummary summary).any fun used => client.trafficLimit ≤ used.toInt

structure ClientCounts where
  clients : Nat
  active : Nat
  expired : Nat
  limited : Nat
deriving DecidableEq

/-- One turn of the loop over the clients; `now` is in Unix seconds. -/
def ClientCounts.add (now : Int) (byClient : ClientSummaries) (counts : ClientCounts) (client : Client) : ClientCounts :=
  let expired := clientExpired now client
  let limited := limitedClient byClient client
  { clients := counts.clients + 1
    active := if client.enabled && !expired && !limited then counts.active + 1 else counts.active
    expired := if expired then counts.expired + 1 else counts.expired
    limited := if limited then counts.limited + 1 else counts.limited }

/-- The summaries the dashboard reads. -/
def dashboardTraffic (now : Int) (store : Store) : ClientSummaries :=
  (summarizeTrafficFromStates now (listTrafficStates store.trafficStates)
    (listInboundTraffic store.inbounds store.clients)).2

def dashboardClientCounts (now seconds : Int) (store : Store) : ClientCounts :=
  ((listInboundTraffic store.inbounds store.clients).flatMap fun inbound => inbound.clients).foldl
    (ClientCounts.add seconds (dashboardTraffic now store)) ⟨0, 0, 0, 0⟩

/-! ### When the two agree -/

def goesStale (now : Int) (state : TrafficState) : Bool :=
  state.lastSeenAt.any fun seen =>
    trimSpace state.status ∉ ["stale", "unsupported", "not_configured"] && trafficStateStaleAfter < sub now seen

/-- The row of an inbound is fresh and has data. -/
def nativeUsable (now : Int) (native : TrafficState) : Bool :=
  !goesStale now native && trimSpace native.status ∈ ["ok", "partial"]

def nativeKey (inbound : InboundRow) : TrafficKey :=
  ⟨expectedTrafficEngineForProtocol inbound.protocol, "inbound", inboundStatsKey inbound.id inbound.protocol⟩

/-- The row of the inbound that the dashboard shows in place of the client's: the client is
the only enabled one of its inbound and has more than it. -/
def reconcilingRow (now : Int) (store : Store) (inbound : InboundRow) (client : Client) (row : TrafficState) :
    Option TrafficState :=
  (store.trafficStates.find? (nativeKey inbound)).filter fun native =>
    client.enabled && (store.clients.rows.countP fun other => other.inboundID == inbound.id && other.enabled) == 1 &&
      nativeUsable now native && (native.totalUp < row.totalUp || native.totalDown < row.totalDown)

/-- Where the client is shown with its inbound's row, the two are on one side of the limit;
where it is shown with its own, that is not one without data that has gone stale above the limit. -/
def LimitsAgree (now : Int) (store : Store) (inbound : InboundRow) (client : Client) : Prop :=
  ∀ row, store.trafficStates.find? (clientUsageKey inbound client) = some row →
    match reconcilingRow now store inbound client row with
    | some native =>
        client.trafficLimit ≤ (usedTraffic native).toInt ↔
          noData row.status = false ∧ client.trafficLimit ≤ (usedTraffic row).toInt
    | none =>
        ¬(noData row.status = true ∧ goesStale now row = true ∧ client.trafficLimit ≤ (usedTraffic row).toInt)

/-! ### The dashboard's usage -/

theorem expectedTrafficEngine_eq (protocol : String) :
    expectedTrafficEngine protocol = expectedTrafficEngineForProtocol protocol := by
  simp [expectedTrafficEngine, expectedTrafficEngineForProtocol, isSingboxProtocol]

theorem trafficStateWithFreshness_status (now : Int) (state : TrafficState) :
    (trafficStateWithFreshness now state).status = if goesStale now state then "stale" else state.status := by
  unfold trafficStateWithFreshness goesStale
  cases state.lastSeenAt with
  | none => rfl
  | some seen =>
      by_cases kept : trimSpace state.status ∈ ["stale", "unsupported", "not_configured"] ∨
          sub now seen ≤ trafficStateStaleAfter
      · have fresh : ¬(trimSpace state.status ∉ ["stale", "unsupported", "not_configured"] ∧
            trafficStateStaleAfter < sub now seen) := by
          rcases kept with listed | recent
          · exact fun gone => gone.1 listed
          · exact fun gone => absurd gone.2 (by omega)
        simp only [if_pos kept, Option.any_some, Bool.and_eq_true, decide_eq_true_eq, if_neg fresh]
      · obtain ⟨unlisted, old⟩ := not_or.mp kept
        have stale : trimSpace state.status ∉ ["stale", "unsupported", "not_configured"] ∧
            trafficStateStaleAfter < sub now seen := ⟨unlisted, by omega⟩
        simp only [if_neg kept, Option.any_some, Bool.and_eq_true, decide_eq_true_eq, if_pos stale]

theorem noData_trimSpace (status : String) : noData (trimSpace status) = noData status := by
  simp [noData]

theorem noData_stateStatus (state : TrafficState) : noData (stateStatus state) = noData state.status := by
  unfold stateStatus
  split
  · rename_i blank
    rw [← noData_trimSpace state.status, blank]
    with_unfolding_all decide
  · exact noData_trimSpace state.status

theorem businessTrafficUsageFromSummary_eq (summary : ClientSummary) :
    businessTrafficUsageFromSummary summary = if noData summary.status then none else some (summary.up + summary.down) := by
  rw [businessTrafficUsageFromSummary, businessTrafficUsage_eq]

theorem clientStateSummary_usage (now : Int) (row : TrafficState) :
    businessTrafficUsageFromSummary (clientStateSummary now row) =
      if noData row.status && !goesStale now row then none else some (usedTraffic row) := by
  have status : (clientStateSummary now row).status = stateStatus (trafficStateWithFreshness now row) := rfl
  have used : (clientStateSummary now row).up + (clientStateSummary now row).down = usedTraffic row := rfl
  have stale : noData "stale" = false := by with_unfolding_all decide
  rw [businessTrafficUsageFromSummary_eq, status, used, noData_stateStatus, trafficStateWithFreshness_status]
  cases goesStale now row <;> simp [stale]

theorem combineTrafficStatuses_partial (status : String) : combineTrafficStatuses status "partial" = "partial" := by
  have trimmed : trimSpace "partial" = "partial" := Spaceless.trimSpace (by decide)
  have given : ("partial" : String) ≠ "" := by decide
  have configured : ("partial" : String) ≠ "not_configured" := by decide
  unfold combineTrafficStatuses
  simp only [trimmed, if_neg given, if_neg configured]
  split
  · rfl
  · split
    · assumption
    · split <;> rfl

theorem reconcileSummary_usage (client : ClientSummary) (inbound : InboundSummary) :
    businessTrafficUsageFromSummary (reconcileSummary client inbound) = some (inbound.up + inbound.down) := by
  have status : (reconcileSummary client inbound).status = "partial" := combineTrafficStatuses_partial client.status
  have data : noData "partial" = false := by with_unfolding_all decide
  rw [businessTrafficUsageFromSummary_eq, status, data]
  rfl

theorem nativeSummary_usable (now : Int) (engine : String) (native : TrafficState) :
    inboundSummaryHasUsableData (nativeSummary now engine (some native)) true = nativeUsable now native := by
  have status : (nativeSummary now engine (some native)).status = stateStatus (trafficStateWithFreshness now native) := rfl
  have stale : trimSpace "stale" = "stale" := Spaceless.trimSpace (by decide)
  have waiting : trimSpace "waiting" = "waiting" := Spaceless.trimSpace (by decide)
  rw [inboundSummaryHasUsableData, status, stateStatus, trafficStateWithFreshness_status, nativeUsable]
  cases goesStale now native with
  | true => simp [stale]
  | false =>
      by_cases blank : trimSpace native.status = ""
      · simp [blank, waiting]
      · simp [blank]

/-! ### Every history leaves normal rows -/

theorem NormalRows.upsert {states : Table TrafficState.key} {row : TrafficState} (normal : NormalRows states)
    (rowNormal : normalizeTrafficKey row.key = row.key) : NormalRows (states.upsert row) := by
  intro stored member
  have found := Table.find?_of_mem member
  rw [Table.find?_upsert] at found
  split at found
  · cases found
    exact rowNormal
  · exact normal stored (Table.mem_of_find? found)

theorem NormalRows.modifyWhere {states : Table TrafficState.key} {selected : TrafficState → Bool}
    {change : TrafficState → TrafficState} (keeps : ∀ row, (change row).key = row.key) (normal : NormalRows states) :
    NormalRows (states.modifyWhere selected change keeps) := by
  intro stored member
  obtain ⟨old, oldMember, rfl⟩ := Table.mem_modifyWhere.mp member
  split
  · rw [keeps old]
    exact normal old oldMember
  · exact normal old oldMember

theorem NormalRows.applyLoop {observedAt sampledAt : Int} {stats : List TrafficRawStat} {tx : TrafficTx}
    (read : ∀ raw ∈ stats, normalizeTrafficKey raw.key = raw.key) (normal : NormalRows tx.store.trafficStates) :
    NormalRows (stats.foldl (applyTrafficRawStat observedAt sampledAt) tx).store.trafficStates := by
  induction stats generalizing tx with
  | nil => exact normal
  | cons raw rest ih =>
      exact ih (fun raw member => read raw (List.mem_cons_of_mem _ member)) (normal.upsert (read raw List.mem_cons_self))

theorem NormalRows.repair {seenAt sampledAt : Int} {candidates : List SingleClientInbound} {tx : TrafficTx}
    (normal : NormalRows tx.store.trafficStates) :
    NormalRows (candidates.foldl (repairCandidate seenAt sampledAt) tx).store.trafficStates := by
  induction candidates generalizing tx with
  | nil => exact normal
  | cons candidate rest ih =>
      apply ih
      unfold repairCandidate
      cases pollutedClient tx.states candidate with
      | none => exact normal
      | some found => exact normal.modifyWhere (reconcileState_key seenAt found.1)

theorem NormalRows.mark {observedAt sampledAt : Int} {states : TrafficStates}
    {markers : List TrafficStatusMarker} {store : Store}
    (named : ∀ marker ∈ markers, normalizeTrafficKey marker.key = marker.key) (normal : NormalRows store.trafficStates) :
    NormalRows (markers.foldl (markTrafficScope observedAt sampledAt states) store).trafficStates := by
  induction markers generalizing store with
  | nil => exact normal
  | cons marker rest ih =>
      exact ih (fun marker member => named marker (List.mem_cons_of_mem _ member))
        (normal.upsert (named marker List.mem_cons_self))

/-- The engines an action names are not the alias of one, as in every call of the panel. -/
def NamesCores : Traffic.TrafficAction → Prop
  | .ledger (.markScopeStatus _ markers _) => ∀ marker ∈ markers, normalizeTrafficToken marker.engine ≠ "sing-box"
  | .reset _ _ baselines => ∀ raw ∈ baselines, normalizeTrafficToken raw.engine ≠ "sing-box"
  | _ => True

theorem normalizeTrafficEngine_token_eq {engine : String} (core : normalizeTrafficToken engine ≠ "sing-box") :
    normalizeTrafficEngine (normalizeTrafficToken engine) = normalizeTrafficToken engine := by
  rw [normalizeTrafficEngine, normalizeTrafficToken_idempotent, if_neg core]

theorem normalizeTrafficStatusMarkers_key {markers : List TrafficStatusMarker} {marker : TrafficStatusMarker}
    (core : ∀ marker ∈ markers, normalizeTrafficToken marker.engine ≠ "sing-box")
    (member : marker ∈ normalizeTrafficStatusMarkers markers) : normalizeTrafficKey marker.key = marker.key := by
  obtain ⟨source, listed, kept⟩ := List.mem_filterMap.mp member
  unfold normalizeTrafficStatusMarker at kept
  simp only at kept
  split at kept
  · cases kept
  · cases kept
    simp [normalizeTrafficKey, TrafficStatusMarker.key, normalizeTrafficEngine_token_eq (core source listed)]

theorem NormalRows.ledger {op : LedgerOp} {store : Store} (named : NamesCores (.ledger op))
    (normal : NormalRows store.trafficStates) : NormalRows (op.run store).trafficStates := by
  cases op with
  | applyRawStats now stats observedAt =>
      simp only [LedgerOp.run, applyTrafficRawStats]
      split
      · exact normal
      · rw [cleanupTrafficSamples_states]
        exact NormalRows.repair (NormalRows.applyLoop (fun raw member => normalizeTrafficRawStats_key member) normal)
  | markScopeStatus now markers observedAt =>
      simp only [LedgerOp.run, markTrafficScopeStatus]
      split
      · exact normal
      · rw [cleanupTrafficSamples_states]
        exact NormalRows.mark (fun marker member => normalizeTrafficStatusMarkers_key named member) normal
  | markUnavailable now engine status message observedAt =>
      simp only [LedgerOp.run, markTrafficUnavailable]
      split
      · exact normal
      · exact normal.modifyWhere (setUnavailable_key _ _ _)

/-- The engines a reset writes rows of. -/
theorem resetEngines_normal {store : Store} {clientID : Int} {statsKey engine : String} {baselines : List TrafficRawStat}
    (core : ∀ raw ∈ baselines, normalizeTrafficToken raw.engine ≠ "sing-box")
    (listed : engine ∈ trafficStateEnginesForClient store statsKey ++
      ((clientExpectedTrafficEngineByID store clientID).filter (· ≠ "")).toList ++
      baselineEngines baselines statsKey) :
    normalizeTrafficEngine engine = engine := by
  rcases List.mem_append.mp listed with stored | given
  · rcases List.mem_append.mp stored with existing | expected
    · obtain ⟨row, _, kept⟩ := List.mem_filterMap.mp (List.mem_of_mem_filter existing)
      split at kept
      · cases kept
        exact normalizeTrafficEngine_idempotent row.engine
      · cases kept
    · simp only [Option.mem_toList, Option.filter_eq_some_iff] at expected
      simp only [clientExpectedTrafficEngineByID, Option.bind_eq_bind, Option.bind_eq_some_iff,
        Option.pure_def, Option.some.injEq] at expected
      obtain ⟨⟨client, _, inbound, _, named⟩, _⟩ := expected
      rw [← named]
      exact normalizeTrafficEngine_core (expectedTrafficEngineForProtocol_cases inbound.protocol)
  · obtain ⟨raw, member, kept⟩ := List.mem_filterMap.mp (List.mem_of_mem_filter given)
    split at kept
    · cases kept
      exact normalizeTrafficEngine_token_eq (core raw member)
    · cases kept

theorem NormalRows.resetAll {now : Int} {statsKey : String} {baselines : String → Option TrafficRawStat}
    {engines : List String} {states : Table TrafficState.key} (trimmed : trimSpace statsKey = statsKey)
    (named : ∀ engine ∈ engines, normalizeTrafficEngine engine = engine) (normal : NormalRows states) :
    NormalRows (engines.foldl (fun states engine =>
      states.upsert (resetTrafficState now engine statsKey (baselines engine))) states) := by
  induction engines generalizing states with
  | nil => exact normal
  | cons engine rest ih =>
      have client : normalizeTrafficToken "client" = "client" := by with_unfolding_all decide
      refine ih (fun engine member => named engine (List.mem_cons_of_mem _ member)) (normal.upsert ?_)
      simp only [normalizeTrafficKey, TrafficState.key, resetTrafficState, named engine List.mem_cons_self, client, trimmed]

/-- A step of the panel: it names cores, and the clients it finds have trimmed keys. -/
def CoreStep (action : Traffic.TrafficAction) (before after : Store) : Prop :=
  TrafficStep action before after ∧ NamesCores action ∧ ∀ client ∈ before.clients.rows, client.Sound

theorem NormalRows.step {action : Traffic.TrafficAction} {before after : Store} (normal : NormalRows before.trafficStates)
    (step : CoreStep action before after) : NormalRows after.trafficStates := by
  obtain ⟨done, named, sound⟩ := step
  cases action with
  | ledger op =>
      rw [show after = op.run before from done]
      exact normal.ledger named
  | reset now clientID baselines =>
      obtain ⟨client, done⟩ := done
      unfold resetClientTrafficBaseline at done
      cases found : before.clients.find? clientID with
      | none =>
          rw [found] at done
          cases done
      | some stored =>
          simp only [found, Except.ok.injEq, Prod.mk.injEq] at done
          obtain ⟨rfl, _⟩ := done
          have trimmed := (sound stored (Serial.mem_of_find? found)).statsKey
          exact NormalRows.resetAll trimmed (fun engine listed => resetEngines_normal named listed) normal
  | other =>
      rw [show after.trafficStates = before.trafficStates from done]
      exact normal

theorem NormalRows.reach {fresh store : Store} (normal : NormalRows fresh.trafficStates)
    (reached : Transition.Reach CoreStep fresh store) : NormalRows store.trafficStates := by
  induction reached with
  | start => exact normal
  | step _ step ih => exact ih.step step

/-! ### What the dashboard counts -/

/-- The count is the number of the clients counted. -/
theorem dashboardClientCounts_limited (now seconds : Int) (store : Store) :
    (dashboardClientCounts now seconds store).limited =
      (((listInboundTraffic store.inbounds store.clients).flatMap fun inbound => inbound.clients).countP
        (limitedClient (dashboardTraffic now store))) := by
  have run : ∀ (clients : List Client) (counts : ClientCounts),
      (clients.foldl (ClientCounts.add seconds (dashboardTraffic now store)) counts).limited =
        counts.limited + clients.countP (limitedClient (dashboardTraffic now store)) := by
    intro clients
    induction clients with
    | nil => exact fun counts => rfl
    | cons client rest ih =>
        intro counts
        rw [List.foldl_cons, ih, List.countP_cons]
        cases found : limitedClient (dashboardTraffic now store) client with
        | false => simp [ClientCounts.add, found]
        | true =>
            simp only [ClientCounts.add, found, if_true]
            omega
  rw [dashboardClientCounts, run]
  exact Nat.zero_add _

/-! ### One client -/

section

variable {now seconds : Int} {store : Store} {inbound : InboundRow} {client : Client}

theorem inboundStatsKey_given (id : Int) (protocol : String) : inboundStatsKey id protocol ≠ "" := by
  unfold inboundStatsKey
  simp only
  split
  · simp
  · split
    · simp
    · split <;> simp

theorem dashboardTraffic_client (inboundStored : inbound ∈ store.inbounds.rows)
    (clientStored : client ∈ store.clients.rows) (home : client.inboundID = inbound.id) :
    let index := indexTrafficStates (listTrafficStates store.trafficStates)
    (dashboardTraffic now store).find? client.id =
      some (client.id, summarizeClient now index
        (inboundScope now index (trafficInbound inbound store.clients.rows)) (trafficClient client)) := by
  intro index
  have distinct := listInboundTraffic_clients store.inbounds store.clients
  have listed : trafficInbound inbound store.clients.rows ∈ listInboundTraffic store.inbounds store.clients :=
    List.mem_map.mpr ⟨inbound, inboundStored, rfl⟩
  have inside : trafficClient client ∈ (trafficInbound inbound store.clients.rows).clients :=
    List.mem_map.mpr ⟨client, List.mem_filter.mpr ⟨clientStored, by simpa using home⟩, rfl⟩
  let summaries := (listInboundTraffic store.inbounds store.clients).flatMap fun inbound => inbound.clients.map fun client =>
    (client.id, summarizeClient now index (inboundScope now index inbound) client)
  have member : (client.id, summarizeClient now index (inboundScope now index (trafficInbound inbound store.clients.rows))
      (trafficClient client)) ∈ summaries :=
    List.mem_flatMap.mpr ⟨_, listed, List.mem_map.mpr ⟨_, inside, rfl⟩⟩
  have apart : (summaries.map Prod.fst).Nodup := by
    rw [List.map_flatMap] at distinct ⊢
    simp only [List.map_map]
    exact distinct
  exact Table.find?_foldl_upsert apart member .empty

theorem trafficInbound_enabled (inbound : InboundRow) (clients : List Client) :
    ((trafficInbound inbound clients).clients.countP fun client => client.enabled) =
      clients.countP fun other => other.inboundID == inbound.id && other.enabled := by
  simp only [trafficInbound, List.countP_map, List.countP_filter]
  congr 1
  funext other
  exact Bool.and_comm _ _

theorem selectTrafficState_core {table : Table TrafficState.key} {scopeType scopeKey protocol : String}
    (normal : NormalRows table) (typed : scopeType ≠ "") (keyed : scopeKey ≠ "") :
    selectTrafficState (indexTrafficStates (listTrafficStates table)) scopeType scopeKey (expectedTrafficEngine protocol) =
      table.find? ⟨expectedTrafficEngineForProtocol protocol, scopeType, scopeKey⟩ := by
  have given : expectedTrafficEngineForProtocol protocol ≠ "" := by
    rcases expectedTrafficEngineForProtocol_cases protocol with same | same <;> rw [same] <;> decide
  rw [selectTrafficState, expectedTrafficEngine_eq,
    normalizeTrafficEngine_core (expectedTrafficEngineForProtocol_cases protocol)]
  exact indexTrafficStates_listed normal ⟨given, typed, keyed⟩

theorem limitedClient_usage (inboundStored : inbound ∈ store.inbounds.rows)
    (clientStored : client ∈ store.clients.rows) (home : client.inboundID = inbound.id) (limited : 0 < client.trafficLimit) :
    limitedClient (dashboardTraffic now store) client =
      (((dashboardTraffic now store).find? client.id).bind fun found => businessTrafficUsageFromSummary found.2).any
        fun used => client.trafficLimit ≤ used.toInt := by
  simp only [limitedClient, limited, decide_true, Bool.true_and]
  rw [dashboardTraffic_client inboundStored clientStored home]
  rfl

/-- What the dashboard takes for the client's used traffic. -/
theorem dashboard_usage (normal : NormalRows store.trafficStates) (sound : client.Sound)
    (inboundStored : inbound ∈ store.inbounds.rows) (clientStored : client ∈ store.clients.rows)
    (home : client.inboundID = inbound.id) :
    (((dashboardTraffic now store).find? client.id).bind fun found => businessTrafficUsageFromSummary found.2) =
      (store.trafficStates.find? (clientUsageKey inbound client)).bind fun row =>
        match reconcilingRow now store inbound client row with
        | some native => some (usedTraffic native)
        | none => if noData row.status && !goesStale now row then none else some (usedTraffic row) := by
  have statsKey : clientTrafficStatsKey (trafficClient client) = client.statsKey := by
    simp only [clientTrafficStatsKey, trafficClient, sound.statsKey, if_pos sound.statsKeyGiven]
  have own : selectTrafficState (indexTrafficStates (listTrafficStates store.trafficStates)) "client"
      (clientTrafficStatsKey (trafficClient client)) (expectedTrafficEngine inbound.protocol) =
        store.trafficStates.find? (clientUsageKey inbound client) := by
    rw [statsKey]
    exact selectTrafficState_core normal (by decide) sound.statsKeyGiven
  have inbounds : selectTrafficState (indexTrafficStates (listTrafficStates store.trafficStates)) "inbound"
      (inboundStatsKey inbound.id inbound.protocol) (expectedTrafficEngine inbound.protocol) =
        store.trafficStates.find? (nativeKey inbound) :=
    selectTrafficState_core normal (by decide) (inboundStatsKey_given _ _)
  have waiting : businessTrafficUsageFromSummary (waitingSummary (expectedTrafficEngine inbound.protocol)) = none := by
    have none : noData "waiting" = true := by with_unfolding_all decide
    rw [businessTrafficUsageFromSummary_eq]
    exact if_pos none
  rw [dashboardTraffic_client inboundStored clientStored home, Option.bind_some]
  simp only [summarizeClient, inboundScope, trafficInbound_enabled]
  rw [show (trafficInbound inbound store.clients.rows).protocol = inbound.protocol from rfl,
    show (trafficInbound inbound store.clients.rows).id = inbound.id from rfl,
    show (trafficClient client).enabled = client.enabled from rfl, own, inbounds]
  cases store.trafficStates.find? (clientUsageKey inbound client) with
  | none => exact waiting
  | some row =>
      simp only [Option.bind_some]
      cases stored : store.trafficStates.find? (nativeKey inbound) with
      | none =>
          have alone : reconcilingRow now store inbound client row = none := by rw [reconcilingRow, stored]; rfl
          simp only [alone, Option.isSome_none, inboundSummaryHasUsableData, Bool.false_and, Bool.and_false,
            Bool.false_eq_true, if_false]
          exact clientStateSummary_usage now row
      | some native =>
          have exceeds : clientSummaryExceedsInbound (clientStateSummary now row)
              (nativeSummary now (expectedTrafficEngine inbound.protocol) (some native)) =
                (native.totalUp < row.totalUp || native.totalDown < row.totalDown) := rfl
          have used : (nativeSummary now (expectedTrafficEngine inbound.protocol) (some native)).up +
              (nativeSummary now (expectedTrafficEngine inbound.protocol) (some native)).down = usedTraffic native := rfl
          simp only [Option.isSome_some, nativeSummary_usable, exceeds, reconcilingRow, stored]
          split
          · rename_i reconciled
            rw [Option.filter_some, if_pos reconciled, reconcileSummary_usage, used]
          · rename_i spared
            rw [Option.filter_some, if_neg spared]
            exact clientStateSummary_usage now row

theorem NormalRows.sound {table : Table TrafficState.key} (normal : NormalRows table) : Traffic.RowsSound table := by
  intro row member
  have engine : normalizeTrafficEngine row.engine = row.engine := congrArg TrafficKey.engine (normal row member)
  refine ⟨?_, fun aliased => absurd (engine.trans aliased) (normalizeTrafficEngine_ne_alias row.engine)⟩
  rw [← engine]
  exact normalizeTrafficEngine_token row.engine

/-- The row the subscription handler reads is the one under the client's key. -/
theorem clientStateByEngine_normal (normal : NormalRows store.trafficStates) (sound : client.Sound) :
    clientStateByEngine (trafficStatesForClient store client.statsKey) client.statsKey
        (expectedTrafficEngineForProtocol inbound.protocol) =
      store.trafficStates.find? (clientUsageKey inbound client) := by
  have core := expectedTrafficEngineForProtocol_cases inbound.protocol
  cases stored : store.trafficStates.find? (clientUsageKey inbound client) with
  | some row => exact clientStateByEngine_eq normal.sound core sound.statsKey stored
  | none =>
      cases chosen : clientStateByEngine (trafficStatesForClient store client.statsKey) client.statsKey
          (expectedTrafficEngineForProtocol inbound.protocol) with
      | none => rfl
      | some row =>
          obtain ⟨member, scopeType, scopeKey, _, stands⟩ := clientStateByEngine_mem chosen
          have engine : normalizeTrafficEngine row.engine = row.engine := congrArg TrafficKey.engine (normal row member)
          have named : row.key = clientUsageKey inbound client := by
            simp only [TrafficState.key, clientUsageKey, scopeType, scopeKey, ← stands, engine]
          exact absurd named (Table.find?_eq_none.mp stored row member)

/-- Of an enabled client that has not expired the handler asks only for the limit. -/
theorem subscriptionAccess_limit {path : String} {row : InboundRow}
    (found : getSubscriptionByToken store (subscriptionToken path) = some (row, client))
    (enabled : row.enabled = true ∧ client.enabled = true) (unexpired : clientExpired seconds client = false) :
    subscriptionAccess seconds path store = .inactive ↔ trafficLimitReached store client = true := by
  have token := (getSubscriptionByToken_found found).1
  simp only [subscriptionAccess, if_neg token, found, enabled.1, enabled.2, unexpired]
  cases trafficLimitReached store client <;> simp

/-- The dashboard counts a client as limited exactly when the subscription handler refuses it
for its limit, if and only if the two read alike what the client has used. -/
theorem limits_agree_iff (normal : NormalRows store.trafficStates) (sound : client.Sound)
    (inboundStored : inbound ∈ store.inbounds.rows) (clientStored : client ∈ store.clients.rows)
    (home : client.inboundID = inbound.id) (limited : 0 < client.trafficLimit) :
    ((limitedClient (dashboardTraffic now store) client = true ↔ trafficLimitReached store client = true) ↔
        LimitsAgree now store inbound client) ∧
      ∀ path row, getSubscriptionByToken store (subscriptionToken path) = some (row, client) →
        row.enabled = true ∧ client.enabled = true → clientExpired seconds client = false →
        (subscriptionAccess seconds path store = .inactive ↔ trafficLimitReached store client = true) := by
  refine ⟨?_, fun path row found enabled unexpired => subscriptionAccess_limit found enabled unexpired⟩
  have clientFound := Serial.find?_of_mem clientStored
  have inboundFound : store.inbounds.find? client.inboundID = some inbound := by
    rw [home]
    exact Serial.find?_of_mem inboundStored
  rw [limitedClient_usage inboundStored clientStored home limited,
    dashboard_usage normal sound inboundStored clientStored home, trafficLimitReached_eq clientFound (store.clients.positive _ clientStored) inboundFound,
    clientStateByEngine_normal normal sound, LimitsAgree]
  simp only [limited, decide_true, Bool.true_and]
  cases store.trafficStates.find? (clientUsageKey inbound client) with
  | none => simp
  | some row =>
      simp only [Option.bind_some, Option.any_some, Bool.and_eq_true, Bool.not_eq_true', decide_eq_true_eq,
        Option.some.injEq, forall_eq']
      cases reconcilingRow now store inbound client row with
      | some native => simp
      | none => cases noData row.status <;> cases goesStale now row <;> simp

end

/-! ### A client that is refused but not counted -/

def exampleQuicInbound (id : Int) : InboundRow :=
  { (default : InboundRow) with id, protocol := "hysteria2", core := "singbox", enabled := true }

def exampleQuicClient (id : Int) : Client :=
  { (default : Client) with
    id, inboundID := 1, credentialID := "u_1", subscriptionToken := "t0k3n", statsKey := "c_1", enabled := true
    trafficLimit := 100 }

/-- A panel with one client of the other core, whose limit is 100 bytes. -/
def exampleQuic : Store :=
  { exampleLimited with
    inbounds := Serial.empty.insert exampleQuicInbound fun _ => rfl
    clients := Serial.empty.insert exampleQuicClient fun _ => rfl }

def exampleQuicReading (scopeType scopeKey : String) (up down : Int64) : TrafficRawStat :=
  { engine := "singbox", scopeType, scopeKey, rawUp := up, rawDown := down, status := "ok", message := "" }

/-- The counter of the inbound is first read when the client has used 110 of its 100 bytes. -/
def exampleQuicUsage : List LedgerOp :=
  [.applyRawStats 0 [exampleQuicReading "client" "c_1" 10 10] 1000000000,
   .applyRawStats 0 [exampleQuicReading "client" "c_1" 70 60, exampleQuicReading "inbound" "hy2-inbound-1" 70 60] 6000000000]

theorem exampleQuic_normal : NormalRows (runLedger exampleQuicUsage exampleQuic).trafficStates := by
  have normal : (runLedger exampleQuicUsage exampleQuic).trafficStates.rows.all
      (fun row => normalizeTrafficKey row.key = row.key) = true := by with_unfolding_all decide
  intro row member
  simpa using List.all_eq_true.mp normal row member

theorem exampleQuicClient_sound : (exampleQuicClient 1).Sound := by
  constructor <;> with_unfolding_all decide

/-- The subscription of the client is refused, yet the dashboard does not count it: it shows
the client with the counter of its inbound, which stands at nothing. -/
theorem refused_client_not_counted :
    let store := runLedger exampleQuicUsage exampleQuic
    exampleQuicInbound 1 ∈ store.inbounds.rows ∧ exampleQuicClient 1 ∈ store.clients.rows ∧
      subscriptionAccess 7 "/sub/t0k3n" store = .inactive ∧ trafficLimitReached store (exampleQuicClient 1) = true ∧
      limitedClient (dashboardTraffic 7000000000 store) (exampleQuicClient 1) = false := by
  intro store
  have inbound : exampleQuicInbound 1 ∈ store.inbounds.rows := by with_unfolding_all decide
  have client : exampleQuicClient 1 ∈ store.clients.rows := by with_unfolding_all decide
  refine ⟨inbound, client, by with_unfolding_all decide, by with_unfolding_all decide, ?_⟩
  rw [limitedClient_usage inbound client rfl (by decide),
    dashboard_usage exampleQuic_normal exampleQuicClient_sound inbound client rfl]
  with_unfolding_all decide

theorem example_limits_agree_iff :
    let store := runLedger exampleQuicUsage exampleQuic
    ((limitedClient (dashboardTraffic 7000000000 store) (exampleQuicClient 1) = true ↔
        trafficLimitReached store (exampleQuicClient 1) = true) ↔
      LimitsAgree 7000000000 store (exampleQuicInbound 1) (exampleQuicClient 1)) ∧
    ∀ path row, getSubscriptionByToken store (subscriptionToken path) = some (row, exampleQuicClient 1) →
      row.enabled = true ∧ (exampleQuicClient 1).enabled = true → clientExpired 7 (exampleQuicClient 1) = false →
      (subscriptionAccess 7 path store = .inactive ↔ trafficLimitReached store (exampleQuicClient 1) = true) :=
  limits_agree_iff exampleQuic_normal exampleQuicClient_sound (by with_unfolding_all decide) (by with_unfolding_all decide) rfl (by decide)

end MiGate.Web
