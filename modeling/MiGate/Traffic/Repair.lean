import MiGate.Traffic.Limit
import MiGate.Db.Refinement

namespace MiGate.Traffic

open Db Fallible Go Relational Transition

/-! What the reconciliation of an only client with its inbound does to the totals of the client. -/

variable {store : Store} {inbound : InboundRow} {client : Client} {tx : TrafficTx} {key : TrafficKey}

/-- An enabled inbound of Xray with one enabled client. -/
structure OnlyClient (store : Store) (inbound : InboundRow) (client : Client) : Prop where
  stored : inbound ∈ store.inbounds.rows
  enabled : inbound.enabled = true
  core : inbound.core = coreXray
  only : (store.clients.rows.filter fun other => other.inboundID = inbound.id && other.enabled) = [client]

def candidateOf (inbound : InboundRow) (client : Client) : SingleClientInbound where
  inboundKey := generatedTagOf inbound.id inbound.protocol
  clientKey := trimSpace client.statsKey

/-- The last reading of a key in a batch has the status ok. -/
def observedOk (stats : List TrafficRawStat) (key : TrafficKey) : Bool :=
  ((normalizeTrafficRawStats stats).filter fun raw => raw.key = key).getLast?.any fun raw => raw.status = "ok"

/-- Neither total is more than the other row's. -/
def Within (left right : TrafficState) : Prop :=
  left.totalUp ≤ right.totalUp ∧ left.totalDown ≤ right.totalDown

instance (left right : TrafficState) : Decidable (Within left right) :=
  inferInstanceAs (Decidable (_ ∧ _))

/-! ### Candidates -/

theorem OnlyClient.client_mem (only : OnlyClient store inbound client) :
    client ∈ store.clients.rows ∧ client.inboundID = inbound.id := by
  have member : client ∈ store.clients.rows.filter fun other => other.inboundID = inbound.id && other.enabled := by
    rw [only.only]
    exact List.mem_singleton_self client
  obtain ⟨stored, chosen⟩ := List.mem_filter.mp member
  rw [Bool.and_eq_true, decide_eq_true_eq] at chosen
  exact ⟨stored, chosen.1⟩

/-- Inbounds of Xray have none of the protocols that are left out. -/
theorem reconciled_protocol {row : InboundRow} (sound : row.Sound) (core : row.core = coreXray) :
    row.protocol ∉ ["hysteria2", "tuic", "shadowtls", "wireguard"] := by
  obtain ⟨capability, member, named, served⟩ := sound.capability
  have protocols : ∀ capability ∈ inboundCapabilities, capability.core = coreXray →
      capability.protocol ∉ ["hysteria2", "tuic", "shadowtls", "wireguard"] := by decide
  exact named ▸ protocols capability member (served.trans core)

theorem mem_singleClientInbounds {candidate : SingleClientInbound} :
    candidate ∈ singleClientInbounds store ↔ ∃ inbound ∈ store.inbounds.rows, ∃ client,
      inbound.enabled = true ∧ inbound.protocol ∉ ["hysteria2", "tuic", "shadowtls", "wireguard"] ∧
      (store.clients.rows.filter fun other => other.inboundID = inbound.id && other.enabled) = [client] ∧
      candidate = candidateOf inbound client := by
  unfold singleClientInbounds
  rw [List.mem_flatMap]
  constructor
  · intro listed
    obtain ⟨inbound, stored, among⟩ := listed
    dsimp only at among
    split at among
    · rename_i chosen
      simp only [Bool.and_eq_true, decide_eq_true_eq] at chosen
      obtain ⟨⟨enabled, protocol⟩, single⟩ := chosen
      obtain ⟨client, only⟩ := List.length_eq_one_iff.mp single
      rw [only, List.map_singleton, List.mem_singleton] at among
      exact ⟨inbound, stored, client, enabled, protocol, only, among⟩
    · cases among
  · intro found
    obtain ⟨inbound, stored, client, enabled, protocol, only, rfl⟩ := found
    refine ⟨inbound, stored, ?_⟩
    simp only [only, enabled, protocol, not_false_eq_true, decide_true, Bool.true_and, List.length_singleton, if_true,
      List.map_singleton, List.mem_singleton]
    rfl

/-- A client's key belongs to one candidate. -/
theorem candidate_unique (rows : Db.RowsSound store) {left right : SingleClientInbound}
    (leftMember : left ∈ singleClientInbounds store) (rightMember : right ∈ singleClientInbounds store)
    (same : left.clientStateKey = right.clientStateKey) : left = right := by
  obtain ⟨leftInbound, leftStored, leftClient, _, _, leftOnly, rfl⟩ := mem_singleClientInbounds.mp leftMember
  obtain ⟨rightInbound, rightStored, rightClient, _, _, rightOnly, rfl⟩ := mem_singleClientInbounds.mp rightMember
  have belongs : ∀ {inbound : InboundRow} {client : Client},
      (store.clients.rows.filter fun other => other.inboundID = inbound.id && other.enabled) = [client] →
      client ∈ store.clients.rows ∧ client.inboundID = inbound.id := by
    intro inbound client only
    have member := only ▸ List.mem_singleton_self client
    obtain ⟨stored, chosen⟩ := List.mem_filter.mp member
    rw [Bool.and_eq_true, decide_eq_true_eq] at chosen
    exact ⟨stored, chosen.1⟩
  obtain ⟨leftKept, leftOwned⟩ := belongs leftOnly
  obtain ⟨rightKept, rightOwned⟩ := belongs rightOnly
  have keys : trimSpace leftClient.statsKey = trimSpace rightClient.statsKey :=
    congrArg TrafficKey.scopeKey same
  rw [(rows.clients leftClient leftKept).statsKey, (rows.clients rightClient rightKept).statsKey] at keys
  have client : leftClient = rightClient := List.inj_on_of_nodup_map rows.statsKeys leftKept rightKept keys
  subst client
  rw [Serial.eq_of_id_eq leftStored rightStored (leftOwned.symm.trans rightOwned)]

/-! ### Observation -/

/-- The last reading decides the status. -/
theorem applyTrafficLoop_status {observedAt sampledAt : Int} {stats : List TrafficRawStat} (tx : TrafficTx)
    (observed : (stats.filter fun raw => raw.key = key).getLast?.any (fun raw => raw.status = "ok") = true) :
    ∃ row, (stats.foldl (applyTrafficRawStat observedAt sampledAt) tx).states key = some row ∧ row.status = "ok" := by
  rw [applyTrafficLoop_states]
  obtain ⟨raw, last, ok⟩ := (Option.any_eq_true _ _).mp observed
  obtain ⟨earlier, readings⟩ := List.getLast?_eq_some_iff.mp last
  rw [readings, List.foldl_append]
  exact ⟨_, rfl, of_decide_eq_true ok⟩

theorem observed_mem {stats : List TrafficRawStat} (observed : observedOk stats key = true) :
    ∃ raw ∈ normalizeTrafficRawStats stats, raw.key = key := by
  obtain ⟨raw, last, _⟩ := (Option.any_eq_true _ _).mp observed
  obtain ⟨member, named⟩ := List.mem_filter.mp (List.mem_of_getLast? last)
  exact ⟨raw, member, of_decide_eq_true named⟩

/-! ### The repair -/

theorem Within.refl (row : TrafficState) : Within row row :=
  ⟨Int64.le_refl _, Int64.le_refl _⟩

theorem pollutedClient_eq_some {candidate : SingleClientInbound} {native mine : TrafficState}
    (nativeHeld : tx.states candidate.inboundStateKey = some native) (nativeOk : native.status = "ok")
    (mineHeld : tx.states candidate.clientStateKey = some mine) (mineOk : mine.status = "ok") :
    pollutedClient tx.states candidate = if Within mine native then none else some (native, mine) := by
  simp only [pollutedClient, nativeHeld, mineHeld, nativeOk, mineOk, ne_eq, not_true_eq_false, or_self, if_false]
  exact if_congr Iff.rfl rfl rfl

/-- A client that has been reconciled is in order. -/
theorem pollutedClient_repaired {seenAt sampledAt : Int} {candidate : SingleClientInbound} {native mine : TrafficState}
    (polluted : pollutedClient tx.states candidate = some (native, mine)) :
    pollutedClient (repairCandidate seenAt sampledAt tx candidate).states candidate = none := by
  have mineAfter : (repairCandidate seenAt sampledAt tx candidate).states candidate.clientStateKey =
      some (reconcileState seenAt native mine) := by
    simp only [repairCandidate, polluted, TrafficStates.set, if_true]
  unfold pollutedClient
  rw [mineAfter]
  cases (repairCandidate seenAt sampledAt tx candidate).states candidate.inboundStateKey with
  | none => rfl
  | some native' =>
      have status : (reconcileState seenAt native mine).status ≠ "ok" := show "partial" ≠ "ok" by decide
      exact if_pos (.inr status)

/-- What the repair leaves of the row of a client that belongs to one candidate. -/
theorem repairCandidates_row {seenAt sampledAt : Int} {candidates : List SingleClientInbound}
    {candidate : SingleClientInbound} {native mine : TrafficState} (member : candidate ∈ candidates)
    (unique : ∀ other ∈ candidates, other.clientStateKey = candidate.clientStateKey → other = candidate)
    (polluted : pollutedClient tx.states candidate = some (native, mine)) :
    (candidates.foldl (repairCandidate seenAt sampledAt) tx).store.trafficStates.find? candidate.clientStateKey =
      (tx.store.trafficStates.find? candidate.clientStateKey).map (reconcileState seenAt native) := by
  induction candidates generalizing tx with
  | nil => cases member
  | cons first rest ih =>
      have uniqueRest : ∀ other ∈ rest, other.clientStateKey = candidate.clientStateKey → other = candidate :=
        fun other inside => unique other (List.mem_cons_of_mem _ inside)
      rw [List.foldl_cons]
      by_cases same : first.clientStateKey = candidate.clientStateKey
      · -- the turn of the candidate itself; every later one with its key is itself again, and in order
        have turn : first = candidate := unique first List.mem_cons_self same
        subst turn
        have spared : ∀ other ∈ rest, other.clientStateKey = first.clientStateKey →
            pollutedClient (repairCandidate seenAt sampledAt tx first).states other = none := by
          intro other inside equal
          rw [uniqueRest other inside equal]
          exact pollutedClient_repaired polluted
        rw [repairCandidates_spared spared]
        simp only [repairCandidate, polluted, Table.find?_modifyWhere]
        cases stored : tx.store.trafficStates.find? first.clientStateKey with
        | none => rfl
        | some row => simp [Table.key_of_find? stored]
      · have apart : ∀ other : SingleClientInbound, first.clientStateKey ≠ other.inboundStateKey := by
          simp [SingleClientInbound.clientStateKey, SingleClientInbound.inboundStateKey]
        have clientKept := repairCandidate_other seenAt sampledAt tx same
        have inboundKept := repairCandidate_other seenAt sampledAt tx (apart candidate)
        have inside : candidate ∈ rest := (List.mem_cons.mp member).resolve_left fun turn => same (turn ▸ rfl)
        have still : pollutedClient (repairCandidate seenAt sampledAt tx first).states candidate = some (native, mine) := by
          rw [← polluted]
          simp only [pollutedClient, inboundKept.2, clientKept.2]
        rw [ih inside uniqueRest still, clientKept.1]

theorem repairCandidates_inbound {seenAt sampledAt : Int} {candidates : List SingleClientInbound}
    {candidate : SingleClientInbound} :
    (candidates.foldl (repairCandidate seenAt sampledAt) tx).store.trafficStates.find? candidate.inboundStateKey =
      tx.store.trafficStates.find? candidate.inboundStateKey := by
  apply repairCandidates_spared
  intro other _ same
  have apart : other.clientStateKey ≠ candidate.inboundStateKey := by
    simp [SingleClientInbound.clientStateKey, SingleClientInbound.inboundStateKey]
  exact absurd same apart

/-! ### A batch -/

/-- The transaction of a batch before the reconciliation. -/
def observedTx (now : Int) (stats : List TrafficRawStat) (observedAt : Int) (store : Store) : TrafficTx :=
  applyTrafficLoop (observationTime now observedAt) (trafficSampleBucket now (observationTime now observedAt))
    (normalizeTrafficRawStats stats) store

theorem OnlyClient.candidate_mem (rows : Db.RowsSound store) (only : OnlyClient store inbound client)
    {now observedAt : Int} {stats : List TrafficRawStat}
    (inboundOk : observedOk stats (candidateOf inbound client).inboundStateKey = true) :
    candidateOf inbound client ∈
      repairCandidates (observedTx now stats observedAt store).store (normalizeTrafficRawStats stats) := by
  have frame := applyTrafficLoop_frame (observationTime now observedAt)
    (trafficSampleBucket now (observationTime now observedAt)) (normalizeTrafficRawStats stats) store
  obtain ⟨stored, owned⟩ := only.client_mem
  have sound := rows.clients client stored
  obtain ⟨raw, member, named⟩ := observed_mem inboundOk
  rw [repairCandidates, List.mem_filter]
  constructor
  · refine mem_singleClientInbounds.mpr ⟨inbound, ?_, client, only.enabled,
      reconciled_protocol (rows.inbounds inbound only.stored) only.core, ?_, rfl⟩
    · rw [observedTx, frame.inbounds]
      exact only.stored
    · rw [observedTx, frame.clients]
      exact only.only
  · have given : (candidateOf inbound client).clientKey ≠ "" := by
      rw [candidateOf, sound.statsKey]
      exact sound.statsKeyGiven
    rw [Bool.and_eq_true, List.any_eq_true]
    refine ⟨⟨raw, member, ?_⟩, decide_eq_true given⟩
    obtain ⟨engine, scopeType, scopeKey⟩ := TrafficKey.mk.inj named
    simp [engine, scopeType, scopeKey]

/-- The row of a key that a batch has observed, and the copy the repair reads of it. -/
theorem observedTx_row {now observedAt : Int} {stats : List TrafficRawStat} (observed : observedOk stats key = true) :
    ∃ row copy, (observedTx now stats observedAt store).store.trafficStates.find? key = some row ∧
      (observedTx now stats observedAt store).states key = some copy ∧ copy.status = "ok" ∧
      copy.totalUp = row.totalUp ∧ copy.totalDown = row.totalDown := by
  obtain ⟨raw, member, named⟩ := observed_mem observed
  have listed : key ∈ (normalizeTrafficRawStats stats).map TrafficRawStat.key := List.mem_map.mpr ⟨raw, member, named⟩
  obtain ⟨copy, held, ok⟩ := @applyTrafficLoop_status key (observationTime now observedAt)
    (trafficSampleBucket now (observationTime now observedAt)) _
    (beginTrafficTx store ((normalizeTrafficRawStats stats).map TrafficRawStat.key)) observed
  let begun := beginTrafficTx store ((normalizeTrafficRawStats stats).map TrafficRawStat.key)
  have started : (begun.store.trafficStates.find? key).map TrafficState.unsaid = (begun.states key).map TrafficState.unsaid :=
    congrArg (Option.map TrafficState.unsaid) (beginTrafficTx_states listed).symm
  have agree := applyTrafficLoop_unsaid (observationTime now observedAt)
    (trafficSampleBucket now (observationTime now observedAt)) (normalizeTrafficRawStats stats) started
  dsimp only at agree
  rw [held, Option.map_some] at agree
  obtain ⟨row, stored, same⟩ := Option.map_eq_some_iff.mp agree
  refine ⟨row, copy, stored, held, ok, ?_, ?_⟩
  · exact (congrArg TrafficState.totalUp same).symm
  · exact (congrArg TrafficState.totalDown same).symm

/-- After a batch an only client counts no more than its inbound; the repair has made neither of its totals
larger just if the client did not exceed the inbound in one and fall short of it in the other. -/
theorem repair_lowers_iff {store : Store} {inbound : InboundRow} {client : Client} (rows : Db.RowsSound store)
    (only : OnlyClient store inbound client) (now : Int) (stats : List TrafficRawStat) (observedAt : Int)
    (inboundOk : observedOk stats (candidateOf inbound client).inboundStateKey = true)
    (clientOk : observedOk stats (candidateOf inbound client).clientStateKey = true) :
    ∃ native before after,
      (observedTx now stats observedAt store).store.trafficStates.find? (candidateOf inbound client).inboundStateKey =
        some native ∧
      (observedTx now stats observedAt store).store.trafficStates.find? (candidateOf inbound client).clientStateKey =
        some before ∧
      (applyTrafficRawStats now stats observedAt store).trafficStates.find? (candidateOf inbound client).inboundStateKey =
        some native ∧
      (applyTrafficRawStats now stats observedAt store).trafficStates.find? (candidateOf inbound client).clientStateKey =
        some after ∧
      Within after native ∧ (Within after before ↔ Within before native ∨ Within native before) := by
  obtain ⟨native, nativeCopy, nativeStored, nativeHeld, nativeOk, nativeUp, nativeDown⟩ :=
    @observedTx_row store _ now observedAt stats inboundOk
  obtain ⟨before, copy, stored, held, ok, up, down⟩ := @observedTx_row store _ now observedAt stats clientOk
  have member := @OnlyClient.candidate_mem _ _ _ rows only now observedAt _ inboundOk
  have unique : ∀ other ∈ repairCandidates (observedTx now stats observedAt store).store (normalizeTrafficRawStats stats),
      other.clientStateKey = (candidateOf inbound client).clientStateKey → other = candidateOf inbound client := by
    have frame := applyTrafficLoop_frame (observationTime now observedAt)
      (trafficSampleBucket now (observationTime now observedAt)) (normalizeTrafficRawStats stats) store
    have same : singleClientInbounds (observedTx now stats observedAt store).store = singleClientInbounds store := by
      rw [singleClientInbounds, singleClientInbounds, observedTx, frame.inbounds, frame.clients]
    intro other inside
    refine candidate_unique rows ?_ ?_
    · exact same ▸ (List.mem_filter.mp inside).1
    · exact same ▸ (List.mem_filter.mp member).1
  have batch : ∀ key, (applyTrafficRawStats now stats observedAt store).trafficStates.find? key =
      ((repairCandidates (observedTx now stats observedAt store).store (normalizeTrafficRawStats stats)).foldl
        (repairCandidate (observationTime now observedAt) (trafficSampleBucket now (observationTime now observedAt)))
        (observedTx now stats observedAt store)).store.trafficStates.find? key := by
    intro key
    have some : normalizeTrafficRawStats stats ≠ [] := by
      obtain ⟨raw, inside, _⟩ := observed_mem clientOk
      exact List.ne_nil_of_mem inside
    rw [applyTrafficRawStats, if_neg some, cleanupTrafficSamples_states]
    rfl
  have polluted := pollutedClient_eq_some nativeHeld nativeOk held ok
  have copies : Within copy nativeCopy ↔ Within before native := by
    rw [Within, Within, up, down, nativeUp, nativeDown]
  have nativeAfter := (batch _).trans (repairCandidates_inbound.trans nativeStored)
  by_cases within : Within copy nativeCopy
  · rw [if_pos within] at polluted
    have spared := @repairCandidates_spared _ _ (observationTime now observedAt)
      (trafficSampleBucket now (observationTime now observedAt)) _
      fun other inside same => (unique other inside same).symm ▸ polluted
    have after := (batch _).trans (spared.trans stored)
    exact ⟨native, before, before, nativeStored, stored, nativeAfter, after, copies.mp within,
      fun _ => .inl (copies.mp within), fun _ => .refl before⟩
  · rw [if_neg within] at polluted
    have repaired := @repairCandidates_row _ (observationTime now observedAt)
      (trafficSampleBucket now (observationTime now observedAt)) _ _ _ _ member unique polluted
    rw [stored, Option.map_some] at repaired
    let after := reconcileState (observationTime now observedAt) nativeCopy before
    have afterUp : after.totalUp = native.totalUp := nativeUp
    have afterDown : after.totalDown = native.totalDown := nativeDown
    have lowered : Within after before ↔ Within native before := by
      rw [Within, Within, afterUp, afterDown]
    refine ⟨native, before, after, nativeStored, stored, nativeAfter, (batch _).trans repaired, ?_, ?_⟩
    · rw [Within, afterUp, afterDown]
      exact Within.refl native
    · rw [lowered]
      exact ⟨.inr, fun either => either.resolve_left fun below => within (copies.mpr below)⟩

/-! ### A repair that raises a total -/

def exampleRepairInbound (id : Int) : InboundRow :=
  { (default : InboundRow) with id, protocol := "vless", core := "xray", port := 443, enabled := true }

def exampleRepairClient (id : Int) : Client :=
  { (default : Client) with id, inboundID := 1, credentialID := "u_1", statsKey := "c_1", enabled := true }

def exampleRepairStart : Store :=
  { exampleLimited with
    inbounds := Serial.empty.insert exampleRepairInbound fun _ => rfl
    clients := Serial.empty.insert exampleRepairClient fun _ => rfl }

def exampleInboundReading (up down : Int64) : TrafficRawStat :=
  { engine := "xray", scopeType := "inbound", scopeKey := "inbound-1-vless", rawUp := up, rawDown := down
    status := "ok", message := "" }

def exampleClientReading (up down : Int64) : TrafficRawStat :=
  { engine := "xray", scopeType := "client", scopeKey := "c_1", rawUp := up, rawDown := down
    status := "ok", message := "" }

def exampleObserved : Store :=
  runLedger
    [.applyRawStats 0 [exampleInboundReading 1 1, exampleClientReading 1 1] 1000000000,
     .applyRawStats 0 [exampleInboundReading 1 101, exampleClientReading 1 101] 6000000000] exampleRepairStart

def exampleReset : Except String (Store × Client) :=
  resetClientTrafficBaseline 7000000000 1 [exampleClientReading 1 101] exampleObserved

/-- Both are observed, the client is reset, and it is observed alone. -/
def exampleUnrepaired : Store :=
  runLedger [.applyRawStats 0 [exampleClientReading 11 101] 11000000000]
    ((exampleReset.toOption.map Prod.fst).getD exampleObserved)

/-- The first readings of a core that has been restarted. -/
def exampleRestarted : List TrafficRawStat :=
  [exampleInboundReading 1 1, exampleClientReading 1 1]

theorem reach_runLedger (ops : List LedgerOp) (store : Store) : Reach TrafficStep store (runLedger ops store) := by
  induction ops generalizing store with
  | nil => exact .start
  | cons op rest ih =>
      have turn : TrafficStep (.ledger op) store (op.run store) := rfl
      exact Reach.trans (.step .start turn) (ih (op.run store))

theorem exampleUnrepaired_reached : Reach TrafficStep exampleRepairStart exampleUnrepaired := by
  have done : exampleReset.isOk = true := by with_unfolding_all decide
  obtain ⟨reset, isOk⟩ := eq_ok_of_isOk done
  have turn : TrafficStep (.reset 7000000000 1 [exampleClientReading 1 101]) exampleObserved reset.1 := ⟨reset.2, isOk⟩
  have shown : exampleUnrepaired = runLedger [.applyRawStats 0 [exampleClientReading 11 101] 11000000000] reset.1 := by
    rw [exampleUnrepaired, isOk]
    rfl
  rw [shown]
  exact Reach.trans (.step (reach_runLedger _ _) turn) (reach_runLedger _ _)

/-- The client has received nothing since it was reset, and is given what the inbound received before. -/
theorem repair_raises_download :
    ∃ store before after, Reach TrafficStep exampleRepairStart store ∧
      observedOk exampleRestarted ⟨"xray", "inbound", "inbound-1-vless"⟩ = true ∧
      observedOk exampleRestarted exampleKey = true ∧
      (observedTx 0 exampleRestarted 16000000000 store).store.trafficStates.find? exampleKey = some before ∧
      (applyTrafficRawStats 0 exampleRestarted 16000000000 store).trafficStates.find? exampleKey = some after ∧
      before.totalDown = 0 ∧ after.totalDown = 100 ∧ ¬ Within after before := by
  have before : ((observedTx 0 exampleRestarted 16000000000 exampleUnrepaired).store.trafficStates.find? exampleKey).any
      (fun row => row.totalDown = 0) = true := by with_unfolding_all decide
  have after : ((applyTrafficRawStats 0 exampleRestarted 16000000000 exampleUnrepaired).trafficStates.find? exampleKey).any
      (fun row => row.totalDown = 100) = true := by with_unfolding_all decide
  obtain ⟨old, stored, none⟩ := (Option.any_eq_true _ _).mp before
  obtain ⟨new, kept, hundred⟩ := (Option.any_eq_true _ _).mp after
  rw [decide_eq_true_eq] at none hundred
  refine ⟨exampleUnrepaired, old, new, exampleUnrepaired_reached, by with_unfolding_all decide, by with_unfolding_all decide, stored, kept, none,
    hundred, fun within => ?_⟩
  have less := within.2
  rw [none, hundred] at less
  exact absurd less (by decide)

theorem example_repair_lowers_iff :
    ∃ native before after,
      (observedTx 0 exampleRestarted 16000000000 exampleUnrepaired).store.trafficStates.find?
        (candidateOf (exampleRepairInbound 1) (exampleRepairClient 1)).inboundStateKey = some native ∧
      (observedTx 0 exampleRestarted 16000000000 exampleUnrepaired).store.trafficStates.find?
        (candidateOf (exampleRepairInbound 1) (exampleRepairClient 1)).clientStateKey = some before ∧
      (applyTrafficRawStats 0 exampleRestarted 16000000000 exampleUnrepaired).trafficStates.find?
        (candidateOf (exampleRepairInbound 1) (exampleRepairClient 1)).inboundStateKey = some native ∧
      (applyTrafficRawStats 0 exampleRestarted 16000000000 exampleUnrepaired).trafficStates.find?
        (candidateOf (exampleRepairInbound 1) (exampleRepairClient 1)).clientStateKey = some after ∧
      Within after native ∧ (Within after before ↔ Within before native ∨ Within native before) := by
  have inbounds : exampleUnrepaired.inbounds.rows = [exampleRepairInbound 1] := by with_unfolding_all decide
  have clients : exampleUnrepaired.clients.rows = [exampleRepairClient 1] := by with_unfolding_all decide
  have outbounds : exampleUnrepaired.outbounds.rows = [] := by with_unfolding_all decide
  refine repair_lowers_iff ?_ ?_ 0 exampleRestarted 16000000000 (by with_unfolding_all decide) (by with_unfolding_all decide)
  · refine { inbounds := ?_, outbounds := ?_, clients := ?_, statsKeys := ?_, credentialIDs := ?_ }
    · intro row member
      rw [inbounds, List.mem_singleton] at member
      subst member
      exact ⟨by with_unfolding_all decide, by with_unfolding_all decide, by with_unfolding_all decide, by decide⟩
    · rw [outbounds]
      exact nofun
    · intro client member
      rw [clients, List.mem_singleton] at member
      subst member
      exact ⟨by with_unfolding_all decide, by decide, by with_unfolding_all decide, by decide⟩
    · rw [clients]
      exact List.nodup_singleton _
    · rw [clients]
      exact List.nodup_singleton _
  · refine { stored := ?_, enabled := rfl, core := rfl, only := ?_ }
    · rw [inbounds]
      exact List.mem_singleton_self _
    · rw [clients]
      decide

end MiGate.Traffic
