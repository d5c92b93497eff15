import MiGate.Web.TrafficFallback
import MiGate.Web.TrafficLimits

namespace MiGate.Web

open Go Db Relational Traffic

/-! Two observations of the traffic of the same inbounds: when the totals that are shown may fall. -/

def stateTotal : Direction → TrafficState → Int64
  | .up, state => state.totalUp
  | .down, state => state.totalDown

def shownTotal : Direction → InboundSummary → Int64
  | .up, summary => summary.up
  | .down, summary => summary.down

/-- The rows of the table of states: one under each key, and the totals of counters. -/
structure StoredStates (states : List TrafficState) : Prop where
  normal : ∀ state ∈ states, normalizeTrafficKey state.key = state.key
  distinct : (states.map TrafficState.key).Nodup
  counters : ∀ state ∈ states, ∀ direction, 0 ≤ stateTotal direction state

/-- Every stored total is at least what it was. -/
def Grows (first second : List TrafficState) : Prop :=
  ∀ state ∈ first, ∃ later ∈ second, later.key = state.key ∧
    ∀ direction, stateTotal direction state ≤ stateTotal direction later

def nativeState (states : List TrafficState) (inbound : Inbound) : Option TrafficState :=
  selectTrafficState (indexTrafficStates states) "inbound" (inboundStatsKey inbound.id inbound.protocol)
    (expectedTrafficEngine inbound.protocol)

def clientState (states : List TrafficState) (inbound : Inbound) (client : Client) : Option TrafficState :=
  selectTrafficState (indexTrafficStates states) "client" (clientTrafficStatsKey client)
    (expectedTrafficEngine inbound.protocol)

/-- An enabled client that has data counts for its inbound. -/
def countsClient (now : Int) (states : List TrafficState) (inbound : Inbound) (client : Client) : Bool :=
  client.enabled && (clientState states inbound client).any (nativeUsable now)

def clientTotal (direction : Direction) (states : List TrafficState) (inbound : Inbound) (client : Client) : Int64 :=
  ((clientState states inbound client).map (stateTotal direction)).getD 0

/-- The clients that count come to less than 2^63. -/
def FitsClients (now : Int) (states : List TrafficState) (inbound : Inbound) : Prop :=
  ∀ direction, ((inbound.clients.filter (countsClient now states inbound)).map fun client =>
    (clientTotal direction states inbound client).toInt).sum < 2 ^ 63

/-- What an observation reports for an inbound. -/
def Reports (now : Int) (states : List TrafficState) (inbounds : List Inbound) (inbound : Inbound) (summary : InboundSummary) :
    Prop :=
  (summarizeTrafficFromStates now states inbounds).1.find? inbound.id = some (inbound.id, summary)

section

variable {now later : Int} {states first second : List TrafficState} {inbound : Inbound} {client : Client}
  {direction : Direction} {key : TrafficKey} {state : TrafficState}

/-! ### The states that are found -/

theorem indexTrafficState_set {index : TrafficStates} (normal : normalizeTrafficKey state.key = state.key) {found : TrafficState}
    (held : indexTrafficState index state key = some found) :
    index key = some found ∨ found = state ∧ state.key = key ∧ TrafficKey.Given key := by
  by_cases same : state.key = key
  · subst same
    simp only [indexTrafficState, normalizeTrafficState_of_normal normal] at held
    split at held
    · exact .inl held
    · rename_i given
      obtain ⟨engine, scopes⟩ := not_or.mp given
      obtain ⟨scopeType, scopeKey⟩ := not_or.mp scopes
      have put : index.set state.key state state.key = some state := if_pos rfl
      cases before : index state.key with
      | none =>
          simp only [before, put, Option.some.injEq] at held
          exact .inr ⟨held.symm, rfl, engine, scopeType, scopeKey⟩
      | some current =>
          simp only [before] at held
          split at held
          · rw [put, Option.some.injEq] at held
            exact .inr ⟨held.symm, rfl, engine, scopeType, scopeKey⟩
          · exact .inl (before.symm.trans held)
  · rw [indexTrafficState_other normal same] at held
    exact .inl held

theorem foldl_indexTrafficState_mem (normal : ∀ state ∈ states, normalizeTrafficKey state.key = state.key)
    {index : TrafficStates} {found : TrafficState} (held : states.foldl indexTrafficState index key = some found) :
    index key = some found ∨ found ∈ states ∧ found.key = key ∧ TrafficKey.Given key := by
  induction states generalizing index with
  | nil => exact .inl held
  | cons state rest ih =>
      rcases ih (fun state member => normal state (List.mem_cons_of_mem _ member)) held with before | ⟨inside, named⟩
      · rcases indexTrafficState_set (normal state List.mem_cons_self) before with old | ⟨rfl, named⟩
        · exact .inl old
        · exact .inr ⟨List.mem_cons_self, named⟩
      · exact .inr ⟨List.mem_cons_of_mem _ inside, named⟩

theorem StoredStates.find (stored : StoredStates states) {found : TrafficState} :
    indexTrafficStates states key = some found ↔ found ∈ states ∧ found.key = key ∧ TrafficKey.Given key := by
  constructor
  · intro held
    rcases foldl_indexTrafficState_mem stored.normal held with none | listed
    · cases none
    · exact listed
  · intro listed
    obtain ⟨inside, named, given⟩ := listed
    rw [indexTrafficStates, foldl_indexTrafficState stored.normal stored.distinct given _ rfl]
    cases other : states.find? fun state => state.key = key with
    | none => exact absurd named (by simpa using List.find?_eq_none.mp other found inside)
    | some state =>
        have same : state.key = key := by simpa using List.find?_some other
        rw [List.inj_on_of_nodup_map stored.distinct (List.mem_of_find?_eq_some other) inside (same.trans named.symm)]

theorem StoredStates.grown (stored : StoredStates first) (storedLater : StoredStates second) (grows : Grows first second)
    {found : TrafficState} (held : indexTrafficStates first key = some found) :
    ∃ grown, indexTrafficStates second key = some grown ∧ ∀ direction, stateTotal direction found ≤ stateTotal direction grown := by
  obtain ⟨inside, named, given⟩ := stored.find.mp held
  obtain ⟨grown, grownInside, sameKey, more⟩ := grows found inside
  exact ⟨grown, storedLater.find.mpr ⟨grownInside, sameKey.trans named, given⟩, more⟩

theorem StoredStates.counter (stored : StoredStates states) {found : TrafficState}
    (held : indexTrafficStates states key = some found) : 0 ≤ stateTotal direction found :=
  stored.counters found (stored.find.mp held).1 direction

/-! ### What is shown -/

theorem clientTrafficCanAggregate_state (now : Int) (state : TrafficState) :
    clientTrafficCanAggregate (clientStateSummary now state) = nativeUsable now state := by
  have status : (clientStateSummary now state).status = (nativeSummary now "" (some state)).status := rfl
  rw [← nativeSummary_usable now "" state, clientTrafficCanAggregate, inboundSummaryHasUsableData, status, Bool.true_and]

theorem clientTrafficCanAggregate_waiting (engine : String) :
    clientTrafficCanAggregate (waitingSummary engine) = false := by
  have waiting : trimSpace "waiting" = "waiting" := Spaceless.trimSpace (by decide)
  rw [clientTrafficCanAggregate, waitingSummary, waiting]
  decide

/-- Both totals of a client, as the aggregate adds them up. -/
def clientShown : Direction → ClientSummary → Int64
  | .up, summary => summary.up
  | .down, summary => summary.down

theorem add_shown (aggregate : ClientAggregate) (client : ClientSummary) :
    shownTotal direction (aggregate.add client).summary =
        shownTotal direction aggregate.summary + (if clientTrafficCanAggregate client then clientShown direction client else 0) ∧
      (aggregate.add client).hasData = (aggregate.hasData || clientTrafficCanAggregate client) ∧
      (aggregate.add client).summary.source = aggregate.summary.source := by
  unfold ClientAggregate.add
  cases clientTrafficCanAggregate client with
  | false => exact ⟨(add_zero _).symm, (Bool.or_false _).symm, rfl⟩
  | true =>
      refine ⟨?_, (Bool.or_true _).symm, rfl⟩
      cases direction <;> rfl

theorem foldl_add_shown {clients : List ClientSummary} {aggregate : ClientAggregate} :
    let final := clients.foldl ClientAggregate.add aggregate
    shownTotal direction final.summary = shownTotal direction aggregate.summary +
        tally (clientShown direction) clientTrafficCanAggregate clients ∧
      final.hasData = (aggregate.hasData || clients.any clientTrafficCanAggregate) ∧
      final.summary.source = aggregate.summary.source := by
  induction clients generalizing aggregate with
  | nil => exact ⟨(add_zero _).symm, (Bool.or_false _).symm, rfl⟩
  | cons client rest ih =>
      obtain ⟨shown, data, source⟩ := @add_shown direction aggregate client
      obtain ⟨restShown, restData, restSource⟩ := @ih (aggregate.add client)
      refine ⟨?_, ?_, restSource.trans source⟩
      · rw [List.foldl_cons, restShown, shown, tally_cons, add_assoc]
      · rw [List.foldl_cons, restData, data, List.any_cons, Bool.or_assoc]

/-- A client's summary while its inbound has no data of its own. -/
theorem summarizeClient_plain {scope : InboundScope} (engine : scope.expectedEngine = expectedTrafficEngine inbound.protocol)
    (unusable : scope.nativeInboundUsable = false) :
    summarizeClient now (indexTrafficStates states) scope client =
      match clientState states inbound client with
      | none => waitingSummary scope.expectedEngine
      | some state => clientStateSummary now state := by
  unfold summarizeClient clientState
  rw [engine]
  cases selectTrafficState (indexTrafficStates states) "client" (clientTrafficStatsKey client)
      (expectedTrafficEngine inbound.protocol) with
  | none => rfl
  | some state => simp only [unusable, Bool.and_false, Bool.false_and, Bool.false_eq_true, if_false]

/-- The clients that count make up the aggregate. -/
theorem aggregateClients_shown {scope : InboundScope} (engine : scope.expectedEngine = expectedTrafficEngine inbound.protocol)
    (unusable : scope.nativeInboundUsable = false) :
    let aggregate := aggregateClients now (indexTrafficStates states) scope inbound.clients
    shownTotal direction aggregate.summary =
        tally (clientTotal direction states inbound) (countsClient now states inbound) inbound.clients ∧
      aggregate.hasData = inbound.clients.any (countsClient now states inbound) ∧
      aggregate.summary.source = "client_aggregate" := by
  have each : ∀ client, clientShown direction (summarizeClient now (indexTrafficStates states) scope client) =
        clientTotal direction states inbound client ∧
      clientTrafficCanAggregate (summarizeClient now (indexTrafficStates states) scope client) =
        (clientState states inbound client).any (nativeUsable now) := by
    intro client
    rw [summarizeClient_plain engine unusable, clientTotal]
    cases clientState states inbound client with
    | none =>
        refine ⟨?_, clientTrafficCanAggregate_waiting _⟩
        cases direction <;> rfl
    | some state =>
        refine ⟨?_, clientTrafficCanAggregate_state now state⟩
        cases direction <;> rfl
  have shown : (fun client => clientShown direction (summarizeClient now (indexTrafficStates states) scope client)) =
      clientTotal direction states inbound := funext fun client => (each client).1
  have usable : (fun client => client.enabled &&
      clientTrafficCanAggregate (summarizeClient now (indexTrafficStates states) scope client)) =
        countsClient now states inbound := funext fun client => by rw [(each client).2]; rfl
  have start : shownTotal direction (ClientAggregate.start scope.expectedEngine).summary = 0 := by
    cases direction <;> rfl
  intro aggregate
  obtain ⟨total, data, source⟩ := @foldl_add_shown direction ((inbound.clients.filter fun client => client.enabled).map
    (summarizeClient now (indexTrafficStates states) scope)) (.start scope.expectedEngine)
  refine ⟨?_, ?_, source⟩
  · rw [start, zero_add, tally_map, tally_filter, shown, usable] at total
    exact total
  · rw [List.any_map, List.any_filter] at data
    refine data.trans ?_
    rw [← usable]
    rfl

/-- An inbound is shown with its own totals, with those of the clients that count, or without data. -/
theorem summarizeInbound_cases (now : Int) (states : List TrafficState) (inbound : Inbound) :
    let summary := summarizeInbound now (indexTrafficStates states) inbound
    (∃ native, nativeState states inbound = some native ∧ summary.source = "inbound" ∧
      ∀ direction, shownTotal direction summary = stateTotal direction native) ∨
    (summary.source = "client_aggregate" ∧ ∀ direction, shownTotal direction summary =
      tally (clientTotal direction states inbound) (countsClient now states inbound) inbound.clients) ∨
    (nativeState states inbound = none ∧ summary.source = "migate" ∧ ∀ direction, shownTotal direction summary = 0) := by
  intro summary
  let scope := inboundScope now (indexTrafficStates states) inbound
  have native : scope.native = nativeSummary now (expectedTrafficEngine inbound.protocol) (nativeState states inbound) := rfl
  by_cases aggregated : (!scope.nativeInboundUsable &&
      (aggregateClients now (indexTrafficStates states) scope inbound.clients).hasData) = true
  · have unusable : scope.nativeInboundUsable = false := by
      rw [Bool.and_eq_true, Bool.not_eq_true'] at aggregated
      exact aggregated.1
    have shown : ∀ direction, shownTotal direction summary = shownTotal direction
        (aggregateClients now (indexTrafficStates states) scope inbound.clients).summary := by
      intro direction
      simp only [summary, summarizeInbound]
      rw [if_pos aggregated]
      cases direction <;> rfl
    have source : summary.source =
        (aggregateClients now (indexTrafficStates states) scope inbound.clients).summary.source := by
      simp only [summary, summarizeInbound]
      rw [if_pos aggregated]
    refine .inr (.inl ⟨?_, fun direction => ?_⟩)
    · rw [source]
      exact (@aggregateClients_shown now states inbound .up scope rfl unusable).2.2
    · rw [shown]
      exact (aggregateClients_shown rfl unusable).1
  · have plain : ∀ direction, shownTotal direction summary = shownTotal direction scope.native := by
      intro direction
      simp only [summary, summarizeInbound]
      rw [if_neg aggregated]
      cases direction <;> rfl
    have source : summary.source = scope.native.source := by
      simp only [summary, summarizeInbound]
      rw [if_neg aggregated]
    cases found : nativeState states inbound with
    | some state =>
        refine .inl ⟨state, rfl, ?_, fun direction => ?_⟩
        · rw [source, native, found]
          rfl
        · rw [plain, native, found]
          cases direction <;> rfl
    | none =>
        refine .inr (.inr ⟨rfl, ?_, fun direction => ?_⟩)
        · rw [source, native, found]
          rfl
        · rw [plain, native, found]
          cases direction <;> rfl

/-! ### Two observations -/

theorem clientTotal_nonneg (stored : StoredStates states) : 0 ≤ (clientTotal direction states inbound client).toInt := by
  unfold clientTotal
  cases found : clientState states inbound client with
  | none => exact (show (0 : Int) ≤ (0 : Int64).toInt by decide)
  | some state => exact Int64.le_iff_toInt_le.mp (stored.counter found)

theorem clientTotal_grows (stored : StoredStates first) (storedLater : StoredStates second) (grows : Grows first second) :
    (clientTotal direction first inbound client).toInt ≤ (clientTotal direction second inbound client).toInt := by
  cases found : clientState first inbound client with
  | none =>
      have nothing : (clientTotal direction first inbound client).toInt = 0 := by
        rw [clientTotal, found]
        rfl
      rw [nothing]
      exact clientTotal_nonneg storedLater
  | some state =>
      obtain ⟨grown, held, more⟩ := stored.grown storedLater grows found
      have heldLater : clientState second inbound client = some grown := held
      rw [clientTotal, clientTotal, found, heldLater]
      exact Int64.le_iff_toInt_le.mp (more direction)

theorem FitsClients.toInt_tally (stored : StoredStates states) (fits : FitsClients now states inbound) :
    (tally (clientTotal direction states inbound) (countsClient now states inbound) inbound.clients).toInt =
      tally (fun client => (clientTotal direction states inbound client).toInt) (countsClient now states inbound)
        inbound.clients := by
  rw [tally, toInt_sum, List.map_map]
  · rfl
  · intro value member
    obtain ⟨client, _, rfl⟩ := List.mem_map.mp member
    exact Int64.le_iff_toInt_le.mpr (clientTotal_nonneg stored)
  · rw [List.map_map]
    exact fits direction

/-- As long as no client drops out the aggregate grows with its clients. -/
theorem aggregate_grows (stored : StoredStates first) (storedLater : StoredStates second) (grows : Grows first second)
    (stay : ∀ client ∈ inbound.clients, countsClient now first inbound client = true →
      countsClient later second inbound client = true) :
    tally (fun client => (clientTotal direction first inbound client).toInt) (countsClient now first inbound) inbound.clients ≤
      tally (fun client => (clientTotal direction second inbound client).toInt) (countsClient later second inbound)
        inbound.clients := by
  rw [tally_eq_sum, tally_eq_sum]
  refine List.sum_le_sum fun client member => ?_
  cases counted : countsClient now first inbound client with
  | true =>
      rw [if_pos rfl, if_pos (stay client member counted)]
      exact clientTotal_grows stored storedLater grows
  | false =>
      rw [if_neg Bool.false_ne_true]
      split
      · exact clientTotal_nonneg storedLater
      · exact Int.le_refl 0

theorem summarizeInbound_grows (stored : StoredStates first) (storedLater : StoredStates second) (grows : Grows first second) :
    let before := summarizeInbound now (indexTrafficStates first) inbound
    let after := summarizeInbound later (indexTrafficStates second) inbound
    before.source = "migate" ∨ after.source = before.source →
    (after.source = "client_aggregate" → FitsClients later second inbound ∧
      ∀ client ∈ inbound.clients, countsClient now first inbound client = true →
        countsClient later second inbound client = true) →
    shownTotal direction before ≤ shownTotal direction after := by
  intro before after source clients
  have native : ("inbound" : String) ≠ "migate" ∧ ("client_aggregate" : String) ≠ "inbound" ∧ ("migate" : String) ≠ "inbound" := by
    decide
  have aggregate : ("client_aggregate" : String) ≠ "migate" ∧ ("inbound" : String) ≠ "client_aggregate" ∧
      ("migate" : String) ≠ "client_aggregate" := by decide
  have beforeCases := summarizeInbound_cases now first inbound
  have afterCases := summarizeInbound_cases later second inbound
  rcases beforeCases with ⟨row, found, named, shown⟩ | ⟨named, shown⟩ | ⟨_, named, shown⟩
  · -- Its own counter, then and now.
    have same : after.source = "inbound" := (source.resolve_left (named.trans_ne native.1)).trans named
    rcases afterCases with ⟨grown, foundLater, _, shownLater⟩ | ⟨other, _⟩ | ⟨_, other, _⟩
    · obtain ⟨held, heldLater, more⟩ := stored.grown storedLater grows found
      have sameRow : held = grown := Option.some.inj (heldLater.symm.trans foundLater)
      rw [shown, shownLater, ← sameRow]
      exact more direction
    · exact absurd (other.symm.trans same) native.2.1
    · exact absurd (other.symm.trans same) native.2.2
  · -- Its clients, then and now.
    have same : after.source = "client_aggregate" := (source.resolve_left (named.trans_ne aggregate.1)).trans named
    rcases afterCases with ⟨_, _, other, _⟩ | ⟨_, shownLater⟩ | ⟨_, other, _⟩
    · exact absurd (other.symm.trans same) aggregate.2.1
    · obtain ⟨fitsLater, stay⟩ := clients same
      have fits : FitsClients now first inbound := fun direction =>
        Int.lt_of_le_of_lt (aggregate_grows stored storedLater grows stay) (fitsLater direction)
      rw [shown, shownLater, Int64.le_iff_toInt_le, fits.toInt_tally stored, fitsLater.toInt_tally storedLater]
      exact aggregate_grows stored storedLater grows stay
    · exact absurd (other.symm.trans same) aggregate.2.2
  · -- Nothing was shown then.
    rw [shown]
    rcases afterCases with ⟨grown, foundLater, _, shownLater⟩ | ⟨same, shownLater⟩ | ⟨_, _, shownLater⟩
    · rw [shownLater]
      exact storedLater.counter foundLater
    · have fitsLater := (clients same).1
      rw [shownLater, Int64.le_iff_toInt_le, fitsLater.toInt_tally storedLater]
      refine List.sum_nonneg fun value member => ?_
      obtain ⟨client, _, rfl⟩ := List.mem_map.mp member
      exact clientTotal_nonneg storedLater
    · rw [shownLater]
      exact Int64.le_refl 0

theorem reports_summarizeInbound {inbounds : List Inbound} (distinct : (inbounds.map fun inbound => inbound.id).Nodup)
    (member : inbound ∈ inbounds) :
    Reports now states inbounds inbound (summarizeInbound now (indexTrafficStates states) inbound) := by
  let entry (inbound : Inbound) : Int × InboundSummary :=
    (inbound.id, summarizeInbound now (indexTrafficStates states) inbound)
  have apart : ((inbounds.map entry).map Prod.fst).Nodup := by
    rw [List.map_map]
    exact distinct
  have found := Table.find?_foldl_upsert apart (List.mem_map_of_mem member) .empty
  rw [List.foldl_map] at found
  exact found

end

/-- Of two observations the later one shows an inbound with no less, as long as its totals come from the
same source, or from none before, and no client that counted drops out. -/
theorem displayed_totals_grow {now later : Int} {first second : List TrafficState} {inbounds : List Inbound}
    (stored : StoredStates first) (storedLater : StoredStates second) (grows : Grows first second)
    (distinct : (inbounds.map fun inbound => inbound.id).Nodup) :
    ∀ inbound ∈ inbounds, (∃ before, Reports now first inbounds inbound before) ∧
      (∃ after, Reports later second inbounds inbound after) ∧
      ∀ before after, Reports now first inbounds inbound before → Reports later second inbounds inbound after →
        before.source = "migate" ∨ after.source = before.source →
        (after.source = "client_aggregate" → FitsClients later second inbound ∧
          ∀ client ∈ inbound.clients, countsClient now first inbound client = true →
            countsClient later second inbound client = true) →
        ∀ direction, shownTotal direction before ≤ shownTotal direction after := by
  intro inbound member
  have reported : ∀ {now states}, Reports now states inbounds inbound _ := reports_summarizeInbound distinct member
  refine ⟨⟨_, reported⟩, ⟨_, reported⟩, fun before after reports reportsLater source clients _ => ?_⟩
  obtain rfl := congrArg Prod.snd (Option.some.inj (reported.symm.trans reports))
  obtain rfl := congrArg Prod.snd (Option.some.inj (reported.symm.trans reportsLater))
  exact summarizeInbound_grows stored storedLater grows source clients

def exampleState (scopeType scopeKey : String) (totalUp : Int64) (status : String) : TrafficState :=
  { (default : TrafficState) with engine := "xray", scopeType, scopeKey, totalUp, status }

/-- The counter of the inbound, and those of its clients. -/
def exampleStates (native client other : Int64) (nativeStatus otherStatus : String) : List TrafficState :=
  [exampleState "inbound" "inbound-1-vless" native nativeStatus, exampleState "client" "c_1" client "ok",
    exampleState "client" "c_2" other otherStatus]

def exampleKeys : List TrafficKey :=
  [⟨"xray", "inbound", "inbound-1-vless"⟩, ⟨"xray", "client", "c_1"⟩, ⟨"xray", "client", "c_2"⟩]

theorem exampleStates_stored {native client other : Int64} {nativeStatus otherStatus : String}
    (counters : 0 ≤ native ∧ 0 ≤ client ∧ 0 ≤ other) :
    StoredStates (exampleStates native client other nativeStatus otherStatus) where
  normal := by
    have keys : ∀ key ∈ exampleKeys, normalizeTrafficKey key = key := by with_unfolding_all decide
    exact fun state member => keys state.key (List.mem_map_of_mem member)
  distinct := by
    change exampleKeys.Nodup
    decide
  counters := by
    intro state member direction
    simp only [exampleStates, List.mem_cons, List.not_mem_nil, or_false] at member
    rcases member with rfl | rfl | rfl <;> cases direction
    · exact counters.1
    · exact Int64.le_refl 0
    · exact counters.2.1
    · exact Int64.le_refl 0
    · exact counters.2.2
    · exact Int64.le_refl 0

theorem exampleStates_grow {native client other grownNative grownClient grownOther : Int64}
    {nativeStatus otherStatus nativeLater otherLater : String}
    (more : native ≤ grownNative ∧ client ≤ grownClient ∧ other ≤ grownOther) :
    Grows (exampleStates native client other nativeStatus otherStatus)
      (exampleStates grownNative grownClient grownOther nativeLater otherLater) := by
  have still : ∀ direction scopeType scopeKey status statusLater (before after : Int64), before ≤ after →
      stateTotal direction (exampleState scopeType scopeKey before status) ≤
        stateTotal direction (exampleState scopeType scopeKey after statusLater) := by
    intro direction _ _ _ _ before after le
    cases direction with
    | up => exact le
    | down => exact Int64.le_refl 0
  intro state member
  simp only [exampleStates, List.mem_cons, List.not_mem_nil, or_false] at member
  rcases member with rfl | rfl | rfl
  · exact ⟨_, List.mem_cons_self, rfl, fun direction => still direction _ _ _ _ _ _ more.1⟩
  · exact ⟨_, List.mem_cons_of_mem _ List.mem_cons_self, rfl, fun direction => still direction _ _ _ _ _ _ more.2.1⟩
  · exact ⟨_, List.mem_cons_of_mem _ (List.mem_cons_of_mem _ List.mem_cons_self), rfl,
      fun direction => still direction _ _ _ _ _ _ more.2.2⟩

/-- The totals that are shown fall when the inbound's own counter goes stale, when a client drops out
of the aggregate, and when the aggregate wraps. -/
theorem displayed_totals_fall :
    (¬ ∀ (now later : Int) (first second : List TrafficState) (inbounds : List Inbound), StoredStates first →
      StoredStates second → Grows first second → (inbounds.map fun inbound => inbound.id).Nodup →
        ∀ inbound ∈ inbounds, ∀ before after, Reports now first inbounds inbound before →
          Reports later second inbounds inbound after → before.up ≤ after.up) ∧
    (¬ ∀ (now later : Int) (first second : List TrafficState) (inbounds : List Inbound), StoredStates first →
      StoredStates second → Grows first second → (inbounds.map fun inbound => inbound.id).Nodup →
        ∀ inbound ∈ inbounds, ∀ before after, Reports now first inbounds inbound before →
          Reports later second inbounds inbound after → after.source = before.source → before.up ≤ after.up) ∧
    ¬ ∀ (now later : Int) (first second : List TrafficState) (inbounds : List Inbound), StoredStates first →
      StoredStates second → Grows first second → (inbounds.map fun inbound => inbound.id).Nodup →
        ∀ inbound ∈ inbounds, ∀ before after, Reports now first inbounds inbound before →
          Reports later second inbounds inbound after → after.source = before.source →
          (∀ client ∈ inbound.clients, countsClient now first inbound client = true →
            countsClient later second inbound client = true) → before.up ≤ after.up := by
  have distinct : ([exampleChartedInbound].map fun inbound => inbound.id).Nodup := by decide
  refine ⟨fun claimed => ?_, fun claimed => ?_, fun claimed => ?_⟩
  · have falls := claimed 0 0 (exampleStates 100 40 0 "ok" "ok") (exampleStates 100 40 0 "stale" "ok") [exampleChartedInbound]
      (exampleStates_stored (by decide)) (exampleStates_stored (by decide)) (exampleStates_grow (by decide)) distinct
      exampleChartedInbound List.mem_cons_self _ _ (reports_summarizeInbound distinct List.mem_cons_self)
      (reports_summarizeInbound distinct List.mem_cons_self)
    revert falls
    with_unfolding_all decide
  · have falls := claimed 0 0 (exampleStates 0 30 20 "stale" "ok") (exampleStates 0 30 20 "stale" "unavailable")
      [exampleChartedInbound] (exampleStates_stored (by decide)) (exampleStates_stored (by decide))
      (exampleStates_grow (by decide)) distinct exampleChartedInbound List.mem_cons_self _ _
      (reports_summarizeInbound distinct List.mem_cons_self) (reports_summarizeInbound distinct List.mem_cons_self)
      (by with_unfolding_all decide)
    revert falls
    with_unfolding_all decide
  · have falls := claimed 0 0 (exampleStates 0 (2 ^ 62) 0 "stale" "ok") (exampleStates 0 (2 ^ 62) (2 ^ 62) "stale" "ok")
      [exampleChartedInbound] (exampleStates_stored (by decide +kernel)) (exampleStates_stored (by decide +kernel))
      (exampleStates_grow (by decide +kernel)) distinct exampleChartedInbound List.mem_cons_self _ _
      (reports_summarizeInbound distinct List.mem_cons_self) (reports_summarizeInbound distinct List.mem_cons_self)
      (by with_unfolding_all decide) (by with_unfolding_all decide)
    revert falls
    decide +kernel

/-- A client of the example has gone on while the inbound's own counter is stale. -/
theorem example_totals_grow :
    (summarizeInbound 0 (indexTrafficStates (exampleStates 100 30 20 "stale" "ok")) exampleChartedInbound).up ≤
      (summarizeInbound 0 (indexTrafficStates (exampleStates 100 45 20 "stale" "ok")) exampleChartedInbound).up := by
  have stored : ∀ {total : Int64}, 0 ≤ total → StoredStates (exampleStates 100 total 20 "stale" "ok") :=
    fun counter => exampleStates_stored ⟨by decide, counter, by decide⟩
  have grows : Grows (exampleStates 100 30 20 "stale" "ok") (exampleStates 100 45 20 "stale" "ok") :=
    exampleStates_grow (by decide)
  have distinct : ([exampleChartedInbound].map fun inbound => inbound.id).Nodup := by decide
  have fits : FitsClients 0 (exampleStates 100 45 20 "stale" "ok") exampleChartedInbound := by
    intro direction
    cases direction <;> with_unfolding_all decide
  obtain ⟨_, _, shown⟩ := displayed_totals_grow (stored (by decide)) (stored (by decide)) grows distinct
    exampleChartedInbound List.mem_cons_self
  exact shown _ _ (reports_summarizeInbound distinct List.mem_cons_self)
    (reports_summarizeInbound distinct List.mem_cons_self) (.inr (by with_unfolding_all decide))
    (fun _ => ⟨fits, by with_unfolding_all decide⟩) .up

end MiGate.Web
