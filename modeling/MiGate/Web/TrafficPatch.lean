import MiGate.Web.TrafficMetrics

namespace MiGate.Web

open Go Db Relational

/-! The patch from one snapshot to the next, as the server builds it and as the page applies it. -/

def trafficV2MetricEqual (left right : TrafficCumulativeMetric) : Bool :=
  left.up == right.up && left.down == right.down && left.total == right.total && left.status == right.status &&
    left.source == right.source && left.message == right.message

def trafficV2RealtimeEqual (left right : TrafficRealtimeMetric) : Bool :=
  left.deltaUp == right.deltaUp && left.deltaDown == right.deltaDown && left.deltaTotal == right.deltaTotal &&
    left.rateUp == right.rateUp && left.rateDown == right.rateDown && left.rateTotal == right.rateTotal &&
    left.observedAt == right.observedAt && left.windowSeconds == right.windowSeconds &&
    left.status == right.status && left.source == right.source && left.message == right.message

def trafficV2TotalsEqual (left right : TrafficV2Total) : Bool :=
  trafficV2MetricEqual left.cumulative right.cumulative && trafficV2RealtimeEqual left.realtime right.realtime

def trafficV2InboundEqual (left right : TrafficV2Inbound) : Bool :=
  left.id == right.id && left.remark == right.remark && left.protocol == right.protocol &&
    left.port == right.port && left.enabled == right.enabled &&
    trafficV2MetricEqual left.cumulative right.cumulative && trafficV2RealtimeEqual left.realtime right.realtime

def trafficV2ClientEqual (left right : TrafficV2Client) : Bool :=
  left.id == right.id && left.inboundID == right.inboundID && left.email == right.email &&
    left.enabled == right.enabled && left.trafficLimit == right.trafficLimit && left.expiryAt == right.expiryAt &&
    trafficV2MetricEqual left.cumulative right.cumulative && trafficV2RealtimeEqual left.realtime right.realtime

/-- Reading a `map[string]string`, which has an empty text for a missing key. -/
def engineStatus (engines : EngineStatuses) (engine : String) : String :=
  (engines.lookup engine).getD ""

def trafficV2CoverageEqual (left right : TrafficV2Coverage) : Bool :=
  left.overall == right.overall && left.ok == right.ok && left.waiting == right.waiting &&
    left.stale == right.stale && left.unavailable == right.unavailable && left.unsupported == right.unsupported &&
    left.partialCount == right.partialCount && left.notConfigured == right.notConfigured &&
    left.engines.keys.card == right.engines.keys.card &&
    decide (∀ engine ∈ left.engines.keys, engineStatus right.engines engine = engineStatus left.engines engine)

structure TrafficV2Patch where
  generatedAt : String
  observedAt : String
  windowSeconds : ℚ
  total : Option TrafficV2Total
  inbounds : List TrafficV2Inbound
  removedInboundIDs : List Int
  clients : List TrafficV2Client
  removedClientIDs : List Int
  coverage : Option TrafficV2Coverage

def changedTrafficV2Inbounds : List TrafficV2Inbound → List TrafficV2Inbound → List TrafficV2Inbound :=
  Keyed.changed TrafficV2Inbound.id trafficV2InboundEqual

def changedTrafficV2Clients : List TrafficV2Client → List TrafficV2Client → List TrafficV2Client :=
  Keyed.changed TrafficV2Client.id trafficV2ClientEqual

def removedTrafficV2InboundIDs : List TrafficV2Inbound → List TrafficV2Inbound → List Int :=
  Keyed.removed TrafficV2Inbound.id

def removedTrafficV2ClientIDs : List TrafficV2Client → List TrafficV2Client → List Int :=
  Keyed.removed TrafficV2Client.id

/-- The patch, and whether anything has changed. -/
def buildTrafficV2Patch (previous current : TrafficV2Snapshot) : TrafficV2Patch × Bool :=
  let patch : TrafficV2Patch :=
    { generatedAt := current.generatedAt, observedAt := current.observedAt, windowSeconds := current.windowSeconds
      total := if trafficV2TotalsEqual previous.total current.total then none else some current.total
      inbounds := changedTrafficV2Inbounds previous.inbounds current.inbounds
      removedInboundIDs := removedTrafficV2InboundIDs previous.inbounds current.inbounds
      clients := changedTrafficV2Clients previous.clients current.clients
      removedClientIDs := removedTrafficV2ClientIDs previous.clients current.clients
      coverage := if trafficV2CoverageEqual previous.coverage current.coverage then none else some current.coverage }
  (patch, patch.total.isSome || patch.coverage.isSome || !patch.inbounds.isEmpty ||
    !patch.removedInboundIDs.isEmpty || !patch.clients.isEmpty || !patch.removedClientIDs.isEmpty)

/-! ### What arrives -/

/-- A coverage as the page parses it: a zero with `omitempty` is missing. -/
structure CoverageData where
  overall : String
  engines : EngineStatuses
  ok : Nat
  waiting : Nat
  stale : Nat
  unavailable : Nat
  unsupported : Nat
  partialCount : Nat
  notConfigured : Option Nat
deriving DecidableEq

structure SnapshotData where
  generatedAt : String
  observedAt : String
  windowSeconds : ℚ
  total : TrafficV2Total
  inbounds : List TrafficV2Inbound
  clients : List TrafficV2Client
  coverage : CoverageData

structure PatchData where
  generatedAt : String
  observedAt : String
  windowSeconds : ℚ
  total : Option TrafficV2Total
  inbounds : Option (List TrafficV2Inbound)
  removedInboundIDs : Option (List Int)
  clients : Option (List TrafficV2Client)
  removedClientIDs : Option (List Int)
  coverage : Option CoverageData

/-- A list with `omitempty`. -/
def omitEmpty {α : Type} (items : List α) : Option (List α) :=
  if items.isEmpty then none else some items

def TrafficV2Coverage.encode (coverage : TrafficV2Coverage) : CoverageData :=
  { overall := coverage.overall, engines := coverage.engines, ok := coverage.ok, waiting := coverage.waiting
    stale := coverage.stale, unavailable := coverage.unavailable, unsupported := coverage.unsupported
    partialCount := coverage.partialCount
    notConfigured := if coverage.notConfigured = 0 then none else some coverage.notConfigured }

def TrafficV2Snapshot.encode (snapshot : TrafficV2Snapshot) : SnapshotData :=
  { generatedAt := snapshot.generatedAt, observedAt := snapshot.observedAt, windowSeconds := snapshot.windowSeconds
    total := snapshot.total, inbounds := snapshot.inbounds, clients := snapshot.clients
    coverage := snapshot.coverage.encode }

def TrafficV2Patch.encode (patch : TrafficV2Patch) : PatchData :=
  { generatedAt := patch.generatedAt, observedAt := patch.observedAt, windowSeconds := patch.windowSeconds
    total := patch.total, inbounds := omitEmpty patch.inbounds
    removedInboundIDs := omitEmpty patch.removedInboundIDs, clients := omitEmpty patch.clients
    removedClientIDs := omitEmpty patch.removedClientIDs, coverage := patch.coverage.map TrafficV2Coverage.encode }

/-! ### What the page makes of it -/

def emptyTrafficMetric : TrafficCumulativeMetric where
  up := 0
  down := 0
  total := 0
  status := "waiting"
  source := "migate"
  message := ""

def emptyTrafficRealtime : TrafficRealtimeMetric where
  deltaUp := 0
  deltaDown := 0
  deltaTotal := 0
  rateUp := 0
  rateDown := 0
  rateTotal := 0
  observedAt := ""
  windowSeconds := 0
  status := "waiting"
  source := "inbound"
  message := ""

def emptyTrafficV2 : SnapshotData where
  generatedAt := ""
  observedAt := ""
  windowSeconds := 0
  total := { cumulative := emptyTrafficMetric, realtime := emptyTrafficRealtime }
  inbounds := []
  clients := []
  coverage :=
    { overall := "waiting"
      engines := (Finmap.singleton "xray" "not_configured").insert "singbox" "not_configured"
      ok := 0, waiting := 0, stale := 0, unavailable := 0, unsupported := 0, partialCount := 0
      notConfigured := none }

def mergeTrafficV2ById {ρ : Type} (key : ρ → Int) (current : List ρ) (updates : Option (List ρ))
    (removedIDs : Option (List Int)) : List ρ :=
  Keyed.merge key current (updates.getD []) (removedIDs.getD [])

def mergeTrafficV2Snapshot (current : Option SnapshotData) (patch : PatchData) : SnapshotData :=
  let base := current.getD emptyTrafficV2
  { generatedAt := patch.generatedAt, observedAt := patch.observedAt, windowSeconds := patch.windowSeconds
    total := patch.total.getD base.total
    inbounds := mergeTrafficV2ById TrafficV2Inbound.id base.inbounds patch.inbounds patch.removedInboundIDs
    clients := mergeTrafficV2ById TrafficV2Client.id base.clients patch.clients patch.removedClientIDs
    coverage := patch.coverage.getD base.coverage }

/-! ### The comparisons are exact -/

theorem trafficV2MetricEqual_iff {left right : TrafficCumulativeMetric} :
    trafficV2MetricEqual left right = true ↔ left = right := by
  cases left
  cases right
  simp only [trafficV2MetricEqual, Bool.and_eq_true, beq_iff_eq, TrafficCumulativeMetric.mk.injEq, and_assoc]

theorem trafficV2RealtimeEqual_iff {left right : TrafficRealtimeMetric} :
    trafficV2RealtimeEqual left right = true ↔ left = right := by
  cases left
  cases right
  simp only [trafficV2RealtimeEqual, Bool.and_eq_true, beq_iff_eq, TrafficRealtimeMetric.mk.injEq, and_assoc]

theorem trafficV2TotalsEqual_iff {left right : TrafficV2Total} :
    trafficV2TotalsEqual left right = true ↔ left = right := by
  cases left
  cases right
  simp only [trafficV2TotalsEqual, Bool.and_eq_true, trafficV2MetricEqual_iff, trafficV2RealtimeEqual_iff,
    TrafficV2Total.mk.injEq]

theorem trafficV2InboundEqual_iff (left right : TrafficV2Inbound) :
    trafficV2InboundEqual left right = true ↔ left = right := by
  cases left
  cases right
  simp only [trafficV2InboundEqual, Bool.and_eq_true, beq_iff_eq, trafficV2MetricEqual_iff,
    trafficV2RealtimeEqual_iff, TrafficV2Inbound.mk.injEq, and_assoc]

theorem trafficV2ClientEqual_iff (left right : TrafficV2Client) :
    trafficV2ClientEqual left right = true ↔ left = right := by
  cases left
  cases right
  simp only [trafficV2ClientEqual, Bool.and_eq_true, beq_iff_eq, trafficV2MetricEqual_iff,
    trafficV2RealtimeEqual_iff, TrafficV2Client.mk.injEq, and_assoc]

/-- No engine has an empty status, so a missing engine is not taken for one that is there. -/
def TrafficV2Coverage.Spoken (coverage : TrafficV2Coverage) : Prop :=
  ∀ engine status, coverage.engines.lookup engine = some status → status ≠ ""

theorem engines_eq {left right : EngineStatuses}
    (spoken : ∀ engine status, left.lookup engine = some status → status ≠ "")
    (card : left.keys.card = right.keys.card)
    (same : ∀ engine ∈ left.keys, engineStatus right engine = engineStatus left engine) : left = right := by
  have found : ∀ engine ∈ left.keys, right.lookup engine = left.lookup engine := by
    intro engine member
    obtain ⟨status, stored⟩ := Finmap.mem_iff.mp (Finmap.mem_keys.mp member)
    have read := same engine member
    rw [engineStatus, engineStatus, stored, Option.getD_some] at read
    cases other : right.lookup engine with
    | none =>
        rw [other] at read
        exact absurd read.symm (spoken engine status stored)
    | some value =>
        rw [other, Option.getD_some] at read
        rw [stored, read]
  have subset : left.keys ⊆ right.keys := by
    intro engine member
    obtain ⟨status, stored⟩ := Finmap.mem_iff.mp (Finmap.mem_keys.mp member)
    exact Finmap.mem_keys.mpr (Finmap.mem_iff.mpr ⟨status, (found engine member).trans stored⟩)
  have keys : left.keys = right.keys := Finset.eq_of_subset_of_card_le subset (Nat.le_of_eq card.symm)
  refine Finmap.ext_lookup fun engine => ?_
  by_cases member : engine ∈ left.keys
  · exact (found engine member).symm
  · have absent : engine ∉ right.keys := keys ▸ member
    rw [Finmap.lookup_eq_none.mpr fun inside => member (Finmap.mem_keys.mpr inside),
      Finmap.lookup_eq_none.mpr fun inside => absent (Finmap.mem_keys.mpr inside)]

theorem trafficV2CoverageEqual_iff {left right : TrafficV2Coverage} (spoken : left.Spoken) :
    trafficV2CoverageEqual left right = true ↔ left = right := by
  constructor
  · intro equal
    simp only [trafficV2CoverageEqual, Bool.and_eq_true, beq_iff_eq, decide_eq_true_eq, and_assoc] at equal
    obtain ⟨overall, ok, waiting, stale, unavailable, unsupported, partialCount, notConfigured, card, same⟩ := equal
    have engines := engines_eq spoken card same
    cases left
    cases right
    simp only [TrafficV2Coverage.mk.injEq]
    exact ⟨overall, engines, ok, waiting, stale, unavailable, unsupported, partialCount, notConfigured⟩
  · rintro rfl
    simp [trafficV2CoverageEqual]

/-! ### What the server serves -/

theorem status_spoken (counts : TrafficCoverageCounts) : counts.status ≠ "" := by
  unfold TrafficCoverageCounts.status
  split_ifs <;> decide

theorem spoken_insert {engines : EngineStatuses} {engine status : String} (given : status ≠ "")
    (spoken : ∀ engine status, engines.lookup engine = some status → status ≠ "") :
    ∀ other found, (engines.insert engine status).lookup other = some found → found ≠ "" := by
  intro other found stored
  by_cases same : other = engine
  · rw [same, Finmap.lookup_insert] at stored
    rw [← Option.some.inj stored]
    exact given
  · rw [Finmap.lookup_insert_of_ne engines same] at stored
    exact spoken other found stored

theorem trafficV2Coverage_spoken (summaries : List InboundTrafficSummary) : (trafficV2Coverage summaries).Spoken := by
  have start : ∀ engine status, ((Finmap.singleton "xray" "not_configured").insert "singbox" "not_configured" :
      EngineStatuses).lookup engine = some status → status ≠ "" := by
    refine spoken_insert (by decide) fun engine status stored => ?_
    by_cases same : engine = "xray"
    · rw [same, Finmap.lookup_singleton_eq] at stored
      rw [← Option.some.inj stored]
      decide
    · have absent : (Finmap.singleton "xray" "not_configured" : EngineStatuses).lookup engine = none :=
        Finmap.lookup_eq_none.mpr fun inside => same ((Finmap.mem_singleton _ _ _).mp inside)
      rw [absent] at stored
      cases stored
  unfold TrafficV2Coverage.Spoken trafficV2Coverage engineStatuses
  dsimp only
  generalize (summaries.filter fun summary => summary.engine != "").map
    (fun summary => coverageEngineKey summary.engine) = engines
  generalize ((Finmap.singleton "xray" "not_configured").insert "singbox" "not_configured" : EngineStatuses) = built
    at start
  induction engines generalizing built with
  | nil => exact start
  | cons engine rest ih => exact ih _ (spoken_insert (status_spoken _) start)

/-- A snapshot with one entry for each inbound and client. -/
structure TrafficV2Snapshot.Sound (snapshot : TrafficV2Snapshot) : Prop where
  inbounds : (snapshot.inbounds.map TrafficV2Inbound.id).Nodup
  clients : (snapshot.clients.map TrafficV2Client.id).Nodup
  coverage : snapshot.coverage.Spoken
  observedAt : snapshot.observedAt = snapshot.total.realtime.observedAt
  windowSeconds : snapshot.windowSeconds = snapshot.total.realtime.windowSeconds

theorem buildTrafficV2Snapshot_sound (view : TrafficView) (now : Int) : (buildTrafficV2Snapshot view now).Sound where
  inbounds := by
    rw [buildTrafficV2Snapshot, List.map_map]
    exact view.distinctInbounds
  clients := by
    rw [buildTrafficV2Snapshot, List.map_flatMap]
    have distinct := view.distinctClients
    rw [List.map_flatMap] at distinct
    simp only [List.map_map]
    exact distinct
  coverage := trafficV2Coverage_spoken _
  observedAt := rfl
  windowSeconds := rfl

/-! ### Parts -/

/-- What a patch carries or leaves as it is. -/
inductive TrafficPart where
  | total
  | coverage
  | inbound (id : Int)
  | client (id : Int)

def TrafficPart.Same (previous current : TrafficV2Snapshot) : TrafficPart → Prop
  | .total => previous.total = current.total
  | .coverage => previous.coverage = current.coverage
  | .inbound id =>
      Keyed.lookup TrafficV2Inbound.id previous.inbounds id = Keyed.lookup TrafficV2Inbound.id current.inbounds id
  | .client id =>
      Keyed.lookup TrafficV2Client.id previous.clients id = Keyed.lookup TrafficV2Client.id current.clients id

def TrafficPart.Shown (data : SnapshotData) (snapshot : TrafficV2Snapshot) : TrafficPart → Prop
  | .total => data.total = snapshot.total
  | .coverage => data.coverage = snapshot.coverage.encode
  | .inbound id =>
      Keyed.lookup TrafficV2Inbound.id data.inbounds id = Keyed.lookup TrafficV2Inbound.id snapshot.inbounds id
  | .client id =>
      Keyed.lookup TrafficV2Client.id data.clients id = Keyed.lookup TrafficV2Client.id snapshot.clients id

/-- What the page holds has one entry for each inbound and client. -/
structure SnapshotData.Distinct (data : SnapshotData) : Prop where
  inbounds : (data.inbounds.map TrafficV2Inbound.id).Nodup
  clients : (data.clients.map TrafficV2Client.id).Nodup

/-- The page shows a snapshot, but for the time at which it was generated. -/
structure SnapshotData.Shows (data : SnapshotData) (snapshot : TrafficV2Snapshot) : Prop where
  observedAt : data.observedAt = snapshot.observedAt
  windowSeconds : data.windowSeconds = snapshot.windowSeconds
  distinct : data.Distinct
  parts : ∀ part : TrafficPart, part.Shown data snapshot

theorem encode_inj {left right : TrafficV2Coverage} (same : left.encode = right.encode) : left = right := by
  simp only [TrafficV2Coverage.encode, CoverageData.mk.injEq] at same
  obtain ⟨overall, engines, ok, waiting, stale, unavailable, unsupported, partialCount, notConfigured⟩ := same
  have last : left.notConfigured = right.notConfigured := by
    split at notConfigured <;> split at notConfigured <;> simp_all
  cases left
  cases right
  simp only [TrafficV2Coverage.mk.injEq]
  exact ⟨overall, engines, ok, waiting, stale, unavailable, unsupported, partialCount, last⟩

theorem encode_shows {snapshot : TrafficV2Snapshot} (sound : snapshot.Sound) : snapshot.encode.Shows snapshot where
  observedAt := rfl
  windowSeconds := rfl
  distinct := ⟨sound.inbounds, sound.clients⟩
  parts := fun part => by cases part <;> rfl

theorem getD_omitEmpty {α : Type} (items : List α) : (omitEmpty items).getD [] = items := by
  cases items <;> rfl

variable {previous current : TrafficV2Snapshot} {data : SnapshotData}

theorem merge_distinct (sound : current.Sound) (distinct : data.Distinct) :
    (mergeTrafficV2Snapshot (some data) (buildTrafficV2Patch previous current).1.encode).Distinct where
  inbounds := by
    simp only [mergeTrafficV2Snapshot, mergeTrafficV2ById, TrafficV2Patch.encode, getD_omitEmpty, Option.getD_some]
    exact Keyed.nodup_merge distinct.inbounds (sound.inbounds.sublist (List.filter_sublist.map _))
  clients := by
    simp only [mergeTrafficV2Snapshot, mergeTrafficV2ById, TrafficV2Patch.encode, getD_omitEmpty, Option.getD_some]
    exact Keyed.nodup_merge distinct.clients (sound.clients.sublist (List.filter_sublist.map _))

/-- A part that has changed is brought by the patch; any other stays as the page has it. -/
theorem merge_shown (before : previous.Sound) (after : current.Sound) (distinct : data.Distinct)
    (part : TrafficPart) :
    part.Shown (mergeTrafficV2Snapshot (some data) (buildTrafficV2Patch previous current).1.encode) current ↔
      (part.Same previous current → part.Shown data previous) := by
  cases part with
  | total =>
      simp only [TrafficPart.Shown, TrafficPart.Same, mergeTrafficV2Snapshot, buildTrafficV2Patch,
        TrafficV2Patch.encode, Option.getD_some]
      by_cases same : previous.total = current.total
      · rw [if_pos (trafficV2TotalsEqual_iff.mpr same)]
        simp [same]
      · simp [trafficV2TotalsEqual_iff, same]
  | coverage =>
      simp only [TrafficPart.Shown, TrafficPart.Same, mergeTrafficV2Snapshot, buildTrafficV2Patch,
        TrafficV2Patch.encode, Option.getD_some]
      by_cases same : previous.coverage = current.coverage
      · rw [if_pos ((trafficV2CoverageEqual_iff before.coverage).mpr same)]
        simp [same]
      · simp [trafficV2CoverageEqual_iff before.coverage, same]
  | inbound id =>
      have patched := @Keyed.lookup_patched _ _ _ _ _ _ _ _ id _ trafficV2InboundEqual_iff before.inbounds after.inbounds
        distinct.inbounds
      simp only [TrafficPart.Shown, TrafficPart.Same, mergeTrafficV2Snapshot, mergeTrafficV2ById,
        buildTrafficV2Patch, changedTrafficV2Inbounds, removedTrafficV2InboundIDs, TrafficV2Patch.encode,
        getD_omitEmpty, Option.getD_some, patched]
      split
      · rename_i same
        simp [same]
      · rename_i other
        simp [other]
  | client id =>
      have patched := @Keyed.lookup_patched _ _ _ _ _ _ _ _ id _ trafficV2ClientEqual_iff before.clients after.clients
        distinct.clients
      simp only [TrafficPart.Shown, TrafficPart.Same, mergeTrafficV2Snapshot, mergeTrafficV2ById,
        buildTrafficV2Patch, changedTrafficV2Clients, removedTrafficV2ClientIDs, TrafficV2Patch.encode,
        getD_omitEmpty, Option.getD_some, patched]
      split
      · rename_i same
        simp [same]
      · rename_i other
        simp [other]

/-- A patch makes a page that shows one snapshot show the next. -/
theorem merge_shows (before : previous.Sound) (after : current.Sound) (shows : data.Shows previous) :
    (mergeTrafficV2Snapshot (some data) (buildTrafficV2Patch previous current).1.encode).Shows current where
  observedAt := rfl
  windowSeconds := rfl
  distinct := merge_distinct after shows.distinct
  parts := fun part => (merge_shown before after shows.distinct part).mpr fun _ => shows.parts part

end MiGate.Web
