import MiGate.Traffic.Ledger
import MiGate.Transition.Reach
import MiGate.Web.Subscription

namespace MiGate.Traffic

open Db Go Relational Transition Web

/-! Whether a client whose used traffic has reached its limit stays refused. -/

/-! ### The rows any history leaves -/

inductive TrafficAction where
  | ledger (op : LedgerOp)
  | reset (now clientID : Int) (baselines : List TrafficRawStat)
  | other

/-- The steps of a store as its traffic rows see them: every operation but the ledger's and
the reset of a client leaves them alone. -/
def TrafficStep : TrafficAction → Store → Store → Prop
  | .ledger op, before, after => after = op.run before
  | .reset now clientID baselines, before, after =>
      ∃ client, resetClientTrafficBaseline now clientID baselines before = .ok (after, client)
  | .other, before, after => after.trafficStates = before.trafficStates

/-- Engines are stored lower-case and trimmed, and nothing is ever counted under the alias
of the sing-box engine. -/
def RowSound (row : TrafficState) : Prop :=
  normalizeTrafficToken row.engine = row.engine ∧
    (row.engine = "sing-box" → row.totalUp = 0 ∧ row.totalDown = 0)

def RowsSound (states : Table TrafficState.key) : Prop :=
  ∀ row ∈ states.rows, RowSound row

theorem RowsSound.upsert {states : Table TrafficState.key} {row : TrafficState} (sound : RowsSound states)
    (rowSound : RowSound row) : RowsSound (states.upsert row) := by
  intro stored member
  have found := Table.find?_of_mem member
  rw [Table.find?_upsert] at found
  split at found
  · cases found
    exact rowSound
  · exact sound stored (Table.mem_of_find? found)

theorem RowsSound.modifyWhere {states : Table TrafficState.key} {selected : TrafficState → Bool}
    {change : TrafficState → TrafficState} (keeps : ∀ row, (change row).key = row.key)
    (sound : RowsSound states) (changed : ∀ row, selected row = true → RowSound row → RowSound (change row)) :
    RowsSound (states.modifyWhere selected change keeps) := by
  intro stored member
  obtain ⟨old, oldMember, rfl⟩ := Table.mem_modifyWhere.mp member
  split
  · rename_i chosen
    exact changed old chosen (sound old oldMember)
  · exact sound old oldMember

theorem normalizeTrafficEngine_ne_alias (engine : String) : normalizeTrafficEngine engine ≠ "sing-box" := by
  unfold normalizeTrafficEngine
  split
  · decide
  · assumption

theorem normalizeTrafficEngine_token (engine : String) :
    normalizeTrafficToken (normalizeTrafficEngine engine) = normalizeTrafficEngine engine := by
  unfold normalizeTrafficEngine
  split
  · exact normalizeTrafficToken_singbox
  · exact normalizeTrafficToken_idempotent engine

theorem rowSound_of_engine {row : TrafficState} {engine : String}
    (named : row.engine = normalizeTrafficEngine engine) : RowSound row := by
  constructor
  · rw [named]
    exact normalizeTrafficEngine_token engine
  · intro aliased
    exact absurd (named.symm.trans aliased) (normalizeTrafficEngine_ne_alias engine)

theorem normalizeTrafficRawStats_engine {stats : List TrafficRawStat} {raw : TrafficRawStat}
    (member : raw ∈ normalizeTrafficRawStats stats) :
    raw.engine = normalizeTrafficEngine raw.engine := by
  have normal := normalizeTrafficRawStats_key member
  simp only [normalizeTrafficKey, TrafficRawStat.key, TrafficKey.mk.injEq] at normal
  exact normal.1.symm

theorem RowsSound.applyLoop {observedAt sampledAt : Int} {stats : List TrafficRawStat} {tx : TrafficTx}
    (normal : ∀ raw ∈ stats, raw.engine = normalizeTrafficEngine raw.engine)
    (sound : RowsSound tx.store.trafficStates) :
    RowsSound (stats.foldl (applyTrafficRawStat observedAt sampledAt) tx).store.trafficStates := by
  induction stats generalizing tx with
  | nil => exact sound
  | cons raw rest ih =>
      apply ih (fun raw member => normal raw (List.mem_cons_of_mem _ member))
      exact sound.upsert (rowSound_of_engine (normal raw List.mem_cons_self))

theorem RowsSound.repair {seenAt sampledAt : Int} {candidates : List SingleClientInbound} {tx : TrafficTx}
    (sound : RowsSound tx.store.trafficStates) :
    RowsSound (candidates.foldl (repairCandidate seenAt sampledAt) tx).store.trafficStates := by
  induction candidates generalizing tx with
  | nil => exact sound
  | cons candidate rest ih =>
      apply ih
      unfold repairCandidate
      cases pollutedClient tx.states candidate with
      | none => exact sound
      | some found =>
          apply sound.modifyWhere (reconcileState_key seenAt found.1)
          intro row chosen rowSound
          have named : row.engine = "xray" := by
            have key : row.key = candidate.clientStateKey := by simpa using chosen
            exact congrArg TrafficKey.engine key
          refine ⟨rowSound.1, fun aliased => ?_⟩
          rw [show row.engine = "sing-box" from aliased] at named
          exact absurd named (by decide)

theorem RowsSound.mark {observedAt sampledAt : Int} {states : TrafficStates}
    {markers : List TrafficStatusMarker} {store : Store}
    (normal : ∀ marker ∈ markers, normalizeTrafficToken marker.engine = marker.engine)
    (sound : RowsSound store.trafficStates) :
    RowsSound (markers.foldl (markTrafficScope observedAt sampledAt states) store).trafficStates := by
  induction markers generalizing store with
  | nil => exact sound
  | cons marker rest ih =>
      apply ih (fun marker member => normal marker (List.mem_cons_of_mem _ member))
      apply sound.upsert
      refine ⟨normal marker List.mem_cons_self, fun aliased => ?_⟩
      cases stored : store.trafficStates.find? marker.key with
      | none => exact ⟨rfl, rfl⟩
      | some row =>
          have named : row.engine = marker.engine := congrArg TrafficKey.engine (Table.key_of_find? stored)
          exact (sound row (Table.mem_of_find? stored)).2 (named.trans aliased)

theorem normalizeTrafficStatusMarkers_engine {markers : List TrafficStatusMarker} {marker : TrafficStatusMarker}
    (member : marker ∈ normalizeTrafficStatusMarkers markers) :
    normalizeTrafficToken marker.engine = marker.engine := by
  obtain ⟨source, _, kept⟩ := List.mem_filterMap.mp member
  unfold normalizeTrafficStatusMarker at kept
  simp only at kept
  split at kept
  · cases kept
  · cases kept
    exact normalizeTrafficToken_idempotent source.engine

theorem RowsSound.ledger {op : LedgerOp} {store : Store} (sound : RowsSound store.trafficStates) :
    RowsSound (op.run store).trafficStates := by
  cases op with
  | applyRawStats now stats observedAt =>
      simp only [LedgerOp.run, applyTrafficRawStats]
      split
      · exact sound
      · rw [cleanupTrafficSamples_states]
        apply RowsSound.repair
        exact RowsSound.applyLoop (fun raw member => normalizeTrafficRawStats_engine member) sound
  | markScopeStatus now markers observedAt =>
      simp only [LedgerOp.run, markTrafficScopeStatus]
      split
      · exact sound
      · rw [cleanupTrafficSamples_states]
        exact RowsSound.mark (fun marker member => normalizeTrafficStatusMarkers_engine member) sound
  | markUnavailable now engine status message observedAt =>
      simp only [LedgerOp.run, markTrafficUnavailable]
      split
      · exact sound
      · exact sound.modifyWhere (setUnavailable_key _ _ _) fun row _ rowSound => rowSound

theorem expectedTrafficEngineForProtocol_cases (protocol : String) :
    expectedTrafficEngineForProtocol protocol = "xray" ∨
      expectedTrafficEngineForProtocol protocol = "singbox" := by
  unfold expectedTrafficEngineForProtocol
  split
  · exact .inr rfl
  · exact .inl rfl

theorem coreEngine_token {engine : String} (core : engine = "xray" ∨ engine = "singbox") :
    normalizeTrafficToken engine = engine := by
  rcases core with rfl | rfl
  · with_unfolding_all decide
  · exact normalizeTrafficToken_singbox

/-- The engines a reset writes rows of. -/
theorem resetEngines_token {store : Store} {clientID : Int} {statsKey engine : String}
    {baselines : List TrafficRawStat}
    (listed : engine ∈ trafficStateEnginesForClient store statsKey ++
      ((clientExpectedTrafficEngineByID store clientID).filter (· ≠ "")).toList ++
      baselineEngines baselines statsKey) :
    normalizeTrafficToken engine = engine := by
  rcases List.mem_append.mp listed with stored | given
  · rcases List.mem_append.mp stored with existing | expected
    · obtain ⟨row, _, kept⟩ := List.mem_filterMap.mp (List.mem_of_mem_filter existing)
      split at kept
      · cases kept
        exact normalizeTrafficEngine_token row.engine
      · cases kept
    · simp only [Option.mem_toList, Option.filter_eq_some_iff] at expected
      simp only [clientExpectedTrafficEngineByID, Option.bind_eq_bind, Option.bind_eq_some_iff,
        Option.pure_def, Option.some.injEq] at expected
      obtain ⟨⟨client, _, inbound, _, named⟩, _⟩ := expected
      rw [← named]
      exact coreEngine_token (expectedTrafficEngineForProtocol_cases inbound.protocol)
  · obtain ⟨raw, _, kept⟩ := List.mem_filterMap.mp (List.mem_of_mem_filter given)
    split at kept
    · cases kept
      exact normalizeTrafficToken_idempotent raw.engine
    · cases kept

theorem RowsSound.resetAll {now : Int} {statsKey : String} {baselines : String → Option TrafficRawStat}
    {engines : List String} {states : Table TrafficState.key}
    (normal : ∀ engine ∈ engines, normalizeTrafficToken engine = engine) (sound : RowsSound states) :
    RowsSound (engines.foldl (fun states engine =>
      states.upsert (resetTrafficState now engine statsKey (baselines engine))) states) := by
  induction engines generalizing states with
  | nil => exact sound
  | cons engine rest ih =>
      apply ih (fun engine member => normal engine (List.mem_cons_of_mem _ member))
      exact sound.upsert ⟨normal engine List.mem_cons_self, fun _ => ⟨rfl, rfl⟩⟩

theorem RowsSound.reset {now clientID : Int} {baselines : List TrafficRawStat} {before after : Store}
    {client : Client} (done : resetClientTrafficBaseline now clientID baselines before = .ok (after, client))
    (sound : RowsSound before.trafficStates) : RowsSound after.trafficStates := by
  unfold resetClientTrafficBaseline at done
  cases found : before.clients.find? clientID with
  | none =>
      rw [found] at done
      cases done
  | some stored =>
      simp only [found, Except.ok.injEq, Prod.mk.injEq] at done
      obtain ⟨rfl, _⟩ := done
      exact RowsSound.resetAll (fun engine listed => resetEngines_token listed) sound

theorem RowsSound.step {action : TrafficAction} {before after : Store} (sound : RowsSound before.trafficStates)
    (step : TrafficStep action before after) : RowsSound after.trafficStates := by
  cases action with
  | ledger op =>
      rw [show after = op.run before from step]
      exact sound.ledger
  | reset now clientID baselines =>
      obtain ⟨client, done⟩ := step
      exact sound.reset done
  | other =>
      rw [show after.trafficStates = before.trafficStates from step]
      exact sound

/-- A history that began with no traffic rows leaves sound ones. -/
theorem RowsSound.reach {fresh store : Store} (empty : fresh.trafficStates = .empty)
    (reached : Reach TrafficStep fresh store) : RowsSound store.trafficStates := by
  induction reached with
  | start =>
      rw [empty]
      intro row member
      cases member
  | step _ step ih => exact ih.step step

/-! ### The row a client's usage is read from -/

theorem trafficStatesForClient_sorted (store : Store) (statsKey : String) :
    (trafficStatesForClient store statsKey).Pairwise fun left right => left.engine ≤ right.engine := by
  have sorted : (trafficStatesForClient store statsKey).Pairwise
      fun left right => decide (left.engine ≤ right.engine) = true :=
    List.pairwise_mergeSort (fun _ _ _ => by simpa using String.le_trans)
      (fun left right => by simpa using String.le_total left.engine right.engine) _
  exact sorted.imp fun {left right} le => by simpa using le

theorem mem_trafficStatesForClient {store : Store} {statsKey : String} {row : TrafficState} :
    row ∈ trafficStatesForClient store statsKey ↔
      row ∈ store.trafficStates.rows ∧ row.scopeType = "client" ∧ row.scopeKey = statsKey := by
  simp [trafficStatesForClient, List.mem_mergeSort]

/-- The row the usage is read from has the client's scope and an engine that normalizes to
the wanted one. -/
theorem clientStateByEngine_mem {store : Store} {statsKey engine : String} {row : TrafficState}
    (chosen : clientStateByEngine (trafficStatesForClient store statsKey) statsKey engine = some row) :
    row ∈ store.trafficStates.rows ∧ row.scopeType = "client" ∧ row.scopeKey = statsKey ∧
      trimSpace statsKey = statsKey ∧ normalizeTrafficEngine row.engine = engine := by
  have member := List.mem_of_getLast? chosen
  obtain ⟨listed, kept⟩ := List.mem_filter.mp member
  obtain ⟨stored, scopeType, scopeKey⟩ := mem_trafficStatesForClient.mp listed
  simp only [Bool.and_eq_true, decide_eq_true_eq] at kept
  refine ⟨stored, scopeType, scopeKey, ?_, kept.2⟩
  rw [← scopeKey]
  exact kept.1.2.trans scopeKey.symm

private theorem le_getLast {α : Type} {related : α → α → Prop} {items : List α} {item last : α}
    (sorted : items.Pairwise related) (member : item ∈ items) (final : items.getLast? = some last) :
    item = last ∨ related item last := by
  induction items with
  | nil => cases member
  | cons first rest ih =>
      obtain ⟨before, restSorted⟩ := List.pairwise_cons.mp sorted
      cases rest with
      | nil =>
          cases final
          exact .inl (List.mem_singleton.mp member)
      | cons second others =>
          rw [List.getLast?_cons_cons] at final
          rcases List.mem_cons.mp member with rfl | inside
          · exact .inr (before last (List.mem_of_getLast? final))
          · exact ih restSorted inside final

theorem normalizeTrafficEngine_core {engine : String} (core : engine = "xray" ∨ engine = "singbox") :
    normalizeTrafficEngine engine = engine := by
  rcases core with rfl | rfl <;> with_unfolding_all decide

/-- An engine of a sound row that stands for a core is the core's or its alias. -/
theorem RowSound.engine_cases {row : TrafficState} {engine : String} (sound : RowSound row)
    (stands : normalizeTrafficEngine row.engine = engine) :
    row.engine = engine ∨ row.engine = "sing-box" ∧ engine = "singbox" := by
  rw [normalizeTrafficEngine, sound.1] at stands
  split at stands
  · rename_i aliased
    exact .inr ⟨aliased, stands.symm⟩
  · exact .inl stands

/-- The row under a core's own name is the one the usage is read from. -/
theorem clientStateByEngine_eq {store : Store} {statsKey engine : String} {row : TrafficState}
    (sound : RowsSound store.trafficStates) (core : engine = "xray" ∨ engine = "singbox")
    (trimmed : trimSpace statsKey = statsKey)
    (stored : store.trafficStates.find? ⟨engine, "client", statsKey⟩ = some row) :
    clientStateByEngine (trafficStatesForClient store statsKey) statsKey engine = some row := by
  have named := Table.key_of_find? stored
  simp only [TrafficState.key, TrafficKey.mk.injEq] at named
  obtain ⟨engineEq, scopeType, scopeKey⟩ := named
  have clientToken : normalizeTrafficToken "client" = "client" := by with_unfolding_all decide
  let kept := (trafficStatesForClient store statsKey).filter fun state =>
    normalizeTrafficToken state.scopeType = "client" && trimSpace state.scopeKey = statsKey &&
      normalizeTrafficEngine state.engine = engine
  have member : row ∈ kept := by
    refine List.mem_filter.mpr ⟨mem_trafficStatesForClient.mpr ⟨Table.mem_of_find? stored, scopeType, scopeKey⟩, ?_⟩
    simp [scopeType, scopeKey, engineEq, clientToken, trimmed, normalizeTrafficEngine_core core]
  cases final : kept.getLast? with
  | none =>
      rw [List.getLast?_eq_none_iff] at final
      rw [final] at member
      cases member
  | some last =>
      obtain ⟨lastStored, lastType, lastKey, _, stands⟩ := clientStateByEngine_mem final
      have below : last.engine ≤ row.engine := by
        rw [engineEq]
        rcases (sound last lastStored).engine_cases stands with same | ⟨aliased, rfl⟩
        · exact same ▸ String.le_refl _
        · have before : "sing-box" ≤ "singbox" := by decide
          exact aliased ▸ before
      have same : row.engine = last.engine := by
        rcases le_getLast ((trafficStatesForClient_sorted store statsKey).filter _) member final with rfl | above
        · rfl
        · exact String.le_antisymm above below
      have equal : row = last := by
        apply Table.eq_of_key_eq (Table.mem_of_find? stored) lastStored
        simp only [TrafficState.key, scopeType, scopeKey, lastType, lastKey, same]
      rw [equal]
      exact final

/-! ### What one operation does to a row -/

def usedTraffic (row : TrafficState) : Int64 :=
  row.totalUp + row.totalDown

/-- The statuses under which a row counts as holding no data. -/
def noData (status : String) : Bool :=
  toLower (trimSpace status) ∈ ["", "waiting", "not_configured"]

/-- The last status an operation writes under the key, if it writes one. -/
def LedgerOp.writtenStatus (key : TrafficKey) : LedgerOp → Option String
  | .applyRawStats _ stats _ => (readingsOf key stats).getLast?.map (·.status)
  | .markScopeStatus _ markers _ => (markersOf key markers).getLast?.map (·.status)
  | .markUnavailable _ engine status message _ =>
      if concerns engine key then some (unavailableMarker status message key).status else none

/-- The last status a run writes under the key, if it writes one. -/
def writtenStatus (key : TrafficKey) : List LedgerOp → Option String
  | [] => none
  | op :: rest => (writtenStatus key rest).or (op.writtenStatus key)

/-- What an observation may add to the used traffic at most. -/
def readingSum (readings : List TrafficRawStat) : Int :=
  (readings.map fun raw => raw.rawUp.toInt + raw.rawDown.toInt).sum

/-- A batch counts within 64 bits for the row it finds: raw values are not negative, and the
used traffic and the new raw values together stay below 2^63.  It does not reconcile the key. -/
def LedgerOp.CountsWithin (key : TrafficKey) (store : Store) : LedgerOp → Prop
  | .applyRawStats now stats observedAt =>
      let row := (store.trafficStates.find? key).getD .zero
      reconciles now stats observedAt store key = false ∧
      0 ≤ row.lastRawUp ∧ 0 ≤ row.lastRawDown ∧
      (∀ raw ∈ readingsOf key stats, 0 ≤ raw.rawUp ∧ 0 ≤ raw.rawDown) ∧
      (usedTraffic row).toInt + readingSum (readingsOf key stats) < 2 ^ 63
  | _ => True

instance (key : TrafficKey) (store : Store) : (op : LedgerOp) → Decidable (op.CountsWithin key store)
  | .applyRawStats .. => inferInstanceAs (Decidable (_ ∧ _))
  | .markScopeStatus .. => .isTrue trivial
  | .markUnavailable .. => .isTrue trivial

/-- Every operation of a run counts within 64 bits where it runs. -/
def CountsWithin (key : TrafficKey) : Store → List LedgerOp → Prop
  | _, [] => True
  | store, op :: rest => op.CountsWithin key store ∧ CountsWithin key (op.run store) rest

instance decidableCountsWithin (key : TrafficKey) : (store : Store) → (ops : List LedgerOp) →
    Decidable (CountsWithin key store ops)
  | _, [] => .isTrue trivial
  | store, op :: rest =>
      have := decidableCountsWithin key (op.run store) rest
      inferInstanceAs (Decidable (_ ∧ _))

theorem rawIncrease_bounds {raw lastRaw : Int64} (lastNonneg : 0 ≤ lastRaw) (nonneg : 0 ≤ raw) :
    0 ≤ (rawIncrease raw lastRaw).toInt ∧ (rawIncrease raw lastRaw).toInt ≤ raw.toInt := by
  have lastNonneg := Int64.le_iff_toInt_le.mp lastNonneg
  have nonneg := Int64.le_iff_toInt_le.mp nonneg
  have upper := raw.toInt_lt
  rw [Int64.toInt_zero] at lastNonneg nonneg
  rw [rawIncrease_eq, Int64.toInt_ofInt_of_le (by omega) (by omega)]
  omega

/-- An observation never lowers the used traffic, and adds at most the raw values it reads. -/
theorem usedTraffic_observeNext {row : TrafficState} {raw : TrafficRawStat} (observedAt : Int)
    (lastUp : 0 ≤ row.lastRawUp) (lastDown : 0 ≤ row.lastRawDown) (up : 0 ≤ raw.rawUp) (down : 0 ≤ raw.rawDown)
    (fits : (usedTraffic row).toInt + (raw.rawUp.toInt + raw.rawDown.toInt) < 2 ^ 63) :
    let next := observeNext observedAt (some row) raw
    (usedTraffic row).toInt ≤ (usedTraffic next).toInt ∧
      (usedTraffic next).toInt ≤ (usedTraffic row).toInt + (raw.rawUp.toInt + raw.rawDown.toInt) := by
  intro next
  have upBounds := rawIncrease_bounds lastUp up
  have downBounds := rawIncrease_bounds lastDown down
  have upNonneg := Int64.le_iff_toInt_le.mp up
  have downNonneg := Int64.le_iff_toInt_le.mp down
  have lower := (usedTraffic row).le_toInt
  rw [Int64.toInt_zero] at upNonneg downNonneg
  cases missing : isMissingRawBaseline row with
  | true =>
      have same : usedTraffic next = usedTraffic row := by
        simp [next, usedTraffic, observeNext, observeTraffic, lacksBaseline, missing]
      rw [same]
      omega
  | false =>
      have split : usedTraffic next =
          usedTraffic row + rawIncrease raw.rawUp row.lastRawUp + rawIncrease raw.rawDown row.lastRawDown := by
        simp only [next, usedTraffic, observeNext, observeTraffic, lacksBaseline, missing, Option.getD_some,
          Bool.false_eq_true, if_false]
        ac_rfl
      have first : (usedTraffic row + rawIncrease raw.rawUp row.lastRawUp).toInt =
          (usedTraffic row).toInt + (rawIncrease raw.rawUp row.lastRawUp).toInt := by
        rw [Int64.toInt_add, Int.bmod_eq_of_le (by omega) (by omega)]
      rw [split, Int64.toInt_add, first, Int.bmod_eq_of_le (by omega) (by omega)]
      omega

/-- The row a refused client's usage is read from: it has used up the limit, and its status
is the one last written. -/
structure UsedUp (limit : Int) (status : String) (row : TrafficState) : Prop where
  reached : limit ≤ (usedTraffic row).toInt
  status : row.status = status

theorem UsedUp.observeAll {limit : Int} {status : String} {observedAt : Int} {readings : List TrafficRawStat}
    {row : TrafficState} (usedUp : UsedUp limit status row)
    (lastUp : 0 ≤ row.lastRawUp) (lastDown : 0 ≤ row.lastRawDown)
    (nonneg : ∀ raw ∈ readings, 0 ≤ raw.rawUp ∧ 0 ≤ raw.rawDown)
    (fits : (usedTraffic row).toInt + readingSum readings < 2 ^ 63) :
    ∃ after, readings.foldl (fun row raw => some (observeNext observedAt row raw)) (some row) = some after ∧
      UsedUp limit ((readings.getLast?.map (·.status)).getD status) after := by
  induction readings generalizing row status with
  | nil => exact ⟨row, rfl, usedUp⟩
  | cons raw rest ih =>
      obtain ⟨up, down⟩ := nonneg raw List.mem_cons_self
      have restNonneg : ∀ raw ∈ rest, 0 ≤ raw.rawUp ∧ 0 ≤ raw.rawDown :=
        fun raw member => nonneg raw (List.mem_cons_of_mem _ member)
      have restSum : 0 ≤ readingSum rest := by
        apply List.sum_nonneg
        intro amount member
        obtain ⟨other, inside, rfl⟩ := List.mem_map.mp member
        have upNonneg := Int64.le_iff_toInt_le.mp (restNonneg other inside).1
        have downNonneg := Int64.le_iff_toInt_le.mp (restNonneg other inside).2
        rw [Int64.toInt_zero] at upNonneg downNonneg
        omega
      have sum : readingSum (raw :: rest) = raw.rawUp.toInt + raw.rawDown.toInt + readingSum rest := by
        simp [readingSum]
      have grown := usedTraffic_observeNext observedAt lastUp lastDown up down (by omega)
      have next : UsedUp limit raw.status (observeNext observedAt (some row) raw) :=
        ⟨usedUp.reached.trans grown.1, rfl⟩
      obtain ⟨after, run, final⟩ := ih next up down restNonneg (by omega)
      refine ⟨after, run, ?_⟩
      rw [List.getLast?_cons]
      cases last : rest.getLast? with
      | none => simpa [last] using final
      | some reading => simpa [last] using final

theorem UsedUp.markAll {limit : Int} {status : String} {observedAt : Int} {markers : List TrafficStatusMarker}
    {row : TrafficState} (usedUp : UsedUp limit status row) :
    ∃ after, markers.foldl (fun row marker => some (markTraffic observedAt row marker)) (some row) = some after ∧
      UsedUp limit ((markers.getLast?.map (·.status)).getD status) after := by
  induction markers generalizing row status with
  | nil => exact ⟨row, rfl, usedUp⟩
  | cons marker rest ih =>
      have next : UsedUp limit marker.status (markTraffic observedAt (some row) marker) := ⟨usedUp.reached, rfl⟩
      obtain ⟨after, run, final⟩ := ih next
      refine ⟨after, run, ?_⟩
      rw [List.getLast?_cons]
      cases last : rest.getLast? with
      | none => simpa [last] using final
      | some reading => simpa [last] using final

theorem UsedUp.of_unsaid {limit : Int} {status : String} {row after : TrafficState}
    (usedUp : UsedUp limit status row) (same : after.unsaid = row.unsaid) : UsedUp limit status after where
  reached := by
    have used : usedTraffic after.unsaid = usedTraffic row.unsaid := by rw [same]
    rw [show usedTraffic after = usedTraffic row from used]
    exact usedUp.reached
  status := by
    have kept : after.unsaid.status = row.unsaid.status := by rw [same]
    exact kept.trans usedUp.status

/-- One operation that counts within 64 bits keeps the limit reached; the status is the one it writes. -/
theorem UsedUp.run {limit : Int} {status : String} {key : TrafficKey} {store : Store} {op : LedgerOp}
    {row : TrafficState} (stored : store.trafficStates.find? key = some row) (usedUp : UsedUp limit status row)
    (counts : op.CountsWithin key store) :
    ∃ after, (op.run store).trafficStates.find? key = some after ∧
      UsedUp limit ((op.writtenStatus key).getD status) after := by
  cases op with
  | applyRawStats now stats observedAt =>
      obtain ⟨spared, lastUp, lastDown, nonneg, fits⟩ := counts
      rw [stored, Option.getD_some] at lastUp lastDown fits
      obtain ⟨observed, run, final⟩ := usedUp.observeAll lastUp lastDown nonneg fits
      have left := applyTrafficRawStats_unsaid spared
      rw [stored] at left
      unfold readingsOf at run
      rw [run, Option.map_some, Option.map_eq_some_iff] at left
      obtain ⟨after, found, same⟩ := left
      exact ⟨after, found, final.of_unsaid same⟩
  | markScopeStatus now markers observedAt =>
      rw [LedgerOp.run, markTrafficScopeStatus_find?, stored]
      exact usedUp.markAll
  | markUnavailable now engine status' message observedAt =>
      rw [LedgerOp.run, markTrafficUnavailable_find?, stored, LedgerOp.writtenStatus]
      cases concerns engine key with
      | true => exact ⟨_, rfl, usedUp.reached, rfl⟩
      | false => exact ⟨row, rfl, usedUp⟩

theorem UsedUp.runLedger {limit : Int} {status : String} {key : TrafficKey} {store : Store} {ops : List LedgerOp}
    {row : TrafficState} (stored : store.trafficStates.find? key = some row) (usedUp : UsedUp limit status row)
    (counts : CountsWithin key store ops) :
    ∃ after, (runLedger ops store).trafficStates.find? key = some after ∧
      UsedUp limit ((writtenStatus key ops).getD status) after := by
  induction ops generalizing store row status with
  | nil => exact ⟨row, stored, usedUp⟩
  | cons op rest ih =>
      obtain ⟨next, found, nextUsedUp⟩ := usedUp.run stored counts.1
      obtain ⟨after, run, final⟩ := ih found nextUsedUp counts.2
      refine ⟨after, run, ?_⟩
      rw [writtenStatus]
      cases later : writtenStatus key rest with
      | none => simpa [later] using final
      | some written => simpa [later] using final

/-! ### The subscription handler over a run -/

theorem LedgerOp.run_frame (op : LedgerOp) (store : Store) : SameButTraffic store (op.run store) := by
  cases op with
  | applyRawStats now stats observedAt => exact applyTrafficRawStats_frame now stats observedAt store
  | markScopeStatus now markers observedAt => exact markTrafficScopeStatus_frame now markers observedAt store
  | markUnavailable now engine status message observedAt =>
      simp only [LedgerOp.run, markTrafficUnavailable]
      split <;> exact ⟨rfl, rfl, rfl, rfl, rfl, rfl⟩

theorem runLedger_frame (ops : List LedgerOp) (store : Store) : SameButTraffic store (runLedger ops store) :=
  SameButTraffic.foldl (fun store => store) (fun store (op : LedgerOp) => op.run store)
    (fun store op => op.run_frame store) ops store

theorem RowsSound.runLedger {ops : List LedgerOp} {store : Store} (sound : RowsSound store.trafficStates) :
    RowsSound (runLedger ops store).trafficStates := by
  induction ops generalizing store with
  | nil => exact sound
  | cons op rest ih => exact ih sound.ledger

/-- The key a client's usage is counted under. -/
def clientUsageKey (inbound : InboundRow) (client : Client) : TrafficKey :=
  ⟨expectedTrafficEngineForProtocol inbound.protocol, "client", client.statsKey⟩

theorem noData_normalized (status : String) : noData (normalizeTrafficStatus status) = noData status := by
  have waiting : noData "waiting" = true := by with_unfolding_all decide
  by_cases blank : trimSpace status = ""
  · have empty : toLower "" = "" := by with_unfolding_all decide
    simp only [normalizeTrafficStatus, blank, if_true, waiting]
    simp [noData, blank, empty]
  · simp [normalizeTrafficStatus, blank, noData]

theorem businessTrafficUsage_eq (usage : ClientTrafficUsage) :
    businessTrafficUsage usage = if noData usage.status then none else some (usage.totalUp + usage.totalDown) := by
  simp [businessTrafficUsage, noData]

/-- What the token of a request finds. -/
theorem getSubscriptionByToken_found {store : Store} {token : String} {inbound : InboundRow} {client : Client}
    (found : getSubscriptionByToken store token = some (inbound, client)) :
    token ≠ "" ∧ store.clients.find? client.id = some client ∧ 0 < client.id ∧
      ∃ row, store.inbounds.find? client.inboundID = some row ∧ row.protocol = inbound.protocol := by
  unfold getSubscriptionByToken at found
  by_cases blank : trimSpace token = ""
  · simp [blank] at found
  simp only [blank, if_false] at found
  obtain ⟨stored, member, kept⟩ := List.exists_of_findSome?_eq_some found
  split at kept
  · rw [Option.map_eq_some_iff] at kept
    obtain ⟨row, inboundFound, same⟩ := kept
    cases same
    refine ⟨?_, Serial.find?_of_mem member, store.clients.positive _ member, row, inboundFound, rfl⟩
    rintro rfl
    exact blank (by with_unfolding_all decide)
  · cases kept

theorem getSubscriptionByToken_frame {before after : Store} (frame : SameButTraffic before after)
    (token : String) : getSubscriptionByToken after token = getSubscriptionByToken before token := by
  simp only [getSubscriptionByToken, frame.clients, frame.inbounds]

/-- The limit check reads the row its key names. -/
theorem trafficLimitReached_eq {store : Store} {client : Client} {inbound : InboundRow}
    (clientFound : store.clients.find? client.id = some client) (positive : 0 < client.id)
    (inboundFound : store.inbounds.find? client.inboundID = some inbound) :
    trafficLimitReached store client =
      (decide (0 < client.trafficLimit) &&
        (clientStateByEngine (trafficStatesForClient store client.statsKey) client.statsKey
          (expectedTrafficEngineForProtocol inbound.protocol)).any fun row =>
            !noData row.status && decide (client.trafficLimit ≤ (usedTraffic row).toInt)) := by
  have known : ¬client.id ≤ 0 := by omega
  have engine := normalizeTrafficEngine_core (expectedTrafficEngineForProtocol_cases inbound.protocol)
  simp only [trafficLimitReached, getClientTrafficUsageForClient, if_neg known, clientFound, inboundFound,
    Option.bind_eq_bind, Option.bind_some, Option.pure_def, chooseClientTrafficUsage, engine]
  congr 1
  cases chosen : clientStateByEngine (trafficStatesForClient store client.statsKey) client.statsKey
      (expectedTrafficEngineForProtocol inbound.protocol) with
  | none =>
      have waiting : noData "waiting" = true := by with_unfolding_all decide
      simp [businessTrafficUsage_eq, waiting]
  | some row =>
      simp only [businessTrafficUsage_eq, usageFromTrafficState, noData_normalized]
      cases data : noData row.status <;> simp [data, usedTraffic]

/-- Once a subscription request was refused because the limit is reached, a later request is
refused as long as the last status written for the client is one that counts as data (or
the client has expired), whatever else happened in between. -/
theorem limit_stays_enforced {fresh store : Store} {path : String} {inbound : InboundRow} {client : Client}
    {ops : List LedgerOp} {now : Int}
    (empty : fresh.trafficStates = .empty) (reached : Reach TrafficStep fresh store)
    (found : getSubscriptionByToken store (subscriptionToken path) = some (inbound, client))
    (enabled : inbound.enabled = true ∧ client.enabled = true)
    (refused : trafficLimitReached store client = true)
    (counts : CountsWithin (clientUsageKey inbound client) store ops) :
    subscriptionAccess now path (runLedger ops store) = .inactive ↔
      clientExpired now client = true ∨
        ∀ status, writtenStatus (clientUsageKey inbound client) ops = some status → noData status = false := by
  obtain ⟨token, clientFound, positive, row, inboundFound, protocol⟩ := getSubscriptionByToken_found found
  have sound := RowsSound.reach empty reached
  have frame := runLedger_frame ops store
  have core := expectedTrafficEngineForProtocol_cases inbound.protocol
  -- the row that refused the client is the one under its own key
  rw [trafficLimitReached_eq clientFound positive inboundFound, Bool.and_eq_true, decide_eq_true_eq,
    Option.any_eq_true, protocol] at refused
  obtain ⟨limited, state, chosen, ended⟩ := refused
  rw [Bool.and_eq_true, Bool.not_eq_true', decide_eq_true_eq] at ended
  obtain ⟨stored, scopeType, scopeKey, trimmed, stands⟩ := clientStateByEngine_mem chosen
  have named : state.key = clientUsageKey inbound client := by
    rcases (sound state stored).engine_cases stands with same | ⟨aliased, _⟩
    · simp only [TrafficState.key, clientUsageKey, same, scopeType, scopeKey]
    · obtain ⟨up, down⟩ := (sound state stored).2 aliased
      have zero : (usedTraffic state).toInt = 0 := by simp [usedTraffic, up, down]
      omega
  have usedUp : UsedUp client.trafficLimit state.status state := ⟨ended.2, rfl⟩
  obtain ⟨after, afterStored, final⟩ := usedUp.runLedger (named ▸ Table.find?_of_mem stored) counts
  have afterChosen := clientStateByEngine_eq sound.runLedger core trimmed afterStored
  have limit : trafficLimitReached (runLedger ops store) client =
      !noData ((writtenStatus (clientUsageKey inbound client) ops).getD state.status) := by
    rw [trafficLimitReached_eq (by rw [frame.clients, clientFound]) positive (by rw [frame.inbounds, inboundFound]),
      protocol, afterChosen]
    simp [limited, final.reached, final.status]
  have access : subscriptionAccess now path (runLedger ops store) = .inactive ↔
      (clientExpired now client || trafficLimitReached (runLedger ops store) client) = true := by
    simp only [subscriptionAccess, if_neg token, getSubscriptionByToken_frame frame, found, enabled.1, enabled.2]
    cases clientExpired now client <;> cases trafficLimitReached (runLedger ops store) client <;> simp
  rw [access, Bool.or_eq_true, limit]
  cases written : writtenStatus (clientUsageKey inbound client) ops with
  | none => simp [ended.1]
  | some status => simp

/-! ### A missing counter makes the link available again -/

def exampleLimitedInbound (id : Int) : InboundRow :=
  { (default : InboundRow) with id, protocol := "vless", core := "xray", enabled := true }

def exampleLimitedClient (id : Int) : Client :=
  { (default : Client) with
    id, inboundID := 1, subscriptionToken := "t0k3n", statsKey := "c_1", enabled := true, trafficLimit := 100 }

/-- A panel with one client, whose limit is 100 bytes. -/
def exampleLimited : Store where
  inbounds := Serial.empty.insert exampleLimitedInbound fun _ => rfl
  clients := Serial.empty.insert exampleLimitedClient fun _ => rfl
  outbounds := .empty
  outboundSubscriptions := .empty
  routingRules := .empty
  trafficStates := .empty
  trafficSamples := .empty
  coreApplyStates := .empty
  nextTrafficSamplesCleanup := zeroInstant

def exampleUsage : List LedgerOp :=
  [exampleReading 10 10 1000000000, exampleReading 70 60 6000000000]

/-- The marker the scheduler writes when a restarted core does not report the client. -/
def exampleMissingCounter : LedgerOp :=
  .markScopeStatus 0 [⟨"xray", "client", "c_1", "waiting", "waiting for traffic sample"⟩] 11000000000

/-- The client has used 110 of its 100 bytes and is refused; the core restarts, its counter
is missing from the next answer, and the link is there again. -/
theorem missing_counter_reopens :
    let store := runLedger exampleUsage exampleLimited
    subscriptionAccess 7 "/sub/t0k3n" store = .inactive ∧
      (getSubscriptionByToken store "t0k3n").any (fun found => trafficLimitReached store found.2) = true ∧
      subscriptionAccess 12 "/sub/t0k3n" (runLedger [exampleMissingCounter] store) ≠ .inactive := by
  with_unfolding_all decide

theorem exampleUsage_reached : Reach TrafficStep exampleLimited (runLedger exampleUsage exampleLimited) :=
  .step
    (.step .start (show TrafficStep (.ledger (exampleReading 10 10 1000000000)) _ _ from rfl))
    (show TrafficStep (.ledger (exampleReading 70 60 6000000000)) _ _ from rfl)

/-- Statistics that cannot be queried leave the client refused. -/
theorem limit_stays_enforced_offline :
    let offline := LedgerOp.markUnavailable 0 "xray" "unavailable" "connection refused" 11000000000
    subscriptionAccess 12 "/sub/t0k3n" (runLedger [offline] (runLedger exampleUsage exampleLimited)) = .inactive := by
  intro offline
  have found : getSubscriptionByToken (runLedger exampleUsage exampleLimited) (subscriptionToken "/sub/t0k3n") =
      some (exampleLimitedInbound 1, exampleLimitedClient 1) := by with_unfolding_all decide
  have enforced := @limit_stays_enforced _ _ _ _ _ [offline] 12 rfl exampleUsage_reached found
    (by with_unfolding_all decide) (by with_unfolding_all decide) (by with_unfolding_all decide)
  have last : writtenStatus (clientUsageKey (exampleLimitedInbound 1) (exampleLimitedClient 1)) [offline] =
      some "unavailable" := by with_unfolding_all decide
  have data : noData "unavailable" = false := by with_unfolding_all decide
  apply enforced.mpr
  right
  intro status written
  cases last.symm.trans written
  exact data

end MiGate.Traffic
