import MiGate.Config.Tags
import MiGate.Traffic.Samples
import MiGate.Web.TrafficAnalytics

namespace MiGate.Web

open Go Db Relational Traffic

/-! What the samples of clients add to inbounds that have no samples of their own. -/

def directionOf : Direction → ReturnedSample → Int64
  | .up, sample => sample.deltaUp
  | .down, sample => sample.deltaDown

def ReturnedSample.point (sample : ReturnedSample) : AggregateKey :=
  ⟨sample.sampledAt, sample.engine, sample.scopeKey⟩

/-- What a query of `ListTrafficAnalyticsSamples` returns: one row for each time, engine and key. -/
structure ReturnedSamples (scopeType : String) (samples : List ReturnedSample) : Prop where
  scopes : ∀ sample ∈ samples, normalizeTrafficScopeType sample.scopeType = scopeType
  distinct : (samples.map ReturnedSample.point).Nodup
  engines : ∀ sample ∈ samples, normalizeTrafficEngine sample.engine = sample.engine ∧ sample.engine ≠ ""
  keys : ∀ sample ∈ samples, trimSpace sample.scopeKey = sample.scopeKey ∧ sample.scopeKey ≠ ""
  given : ∀ sample ∈ samples, trimSpace sample.status ≠ ""

/-- The inbounds of a store: their numbers are distinct, and no two enabled clients of an engine share a key. -/
structure ListedInbounds (inbounds : List Inbound) : Prop where
  positive : ∀ inbound ∈ inbounds, 0 < inbound.id
  distinct : (inbounds.map fun inbound => inbound.id).Nodup
  clientKeys : ((enabledClientKeys inbounds).map Prod.fst).Nodup

/-- What the samples that can be aggregated contribute to chosen points. -/
def contributionTo (direction : Direction) (chosen : AggregateKey → Bool) (samples : List ReturnedSample) : Int64 :=
  tally (directionOf direction) (fun sample => trafficSampleCanAggregate sample && chosen sample.point) samples

def contribution (direction : Direction) (point : AggregateKey) (samples : List ReturnedSample) : Int64 :=
  contributionTo direction (· = point) samples

/-- The point of an inbound at a time. -/
def inboundPoint (sampledAt : String) (inbound : Inbound) : AggregateKey :=
  ⟨sampledAt, expectedTrafficEngine inbound.protocol, inboundStatsKey inbound.id inbound.protocol⟩

def clientPoint (sampledAt : String) (inbound : Inbound) (client : Client) : AggregateKey :=
  ⟨sampledAt, expectedTrafficEngine inbound.protocol, clientTrafficStatsKey client⟩

/-! ### Aggregates -/

section

variable {direction : Direction} {native : List AggregateKey} {inbounds : List Inbound} {key : AggregateKey}
  {inboundSamples clientSamples : List ReturnedSample} {aggregate sample : ReturnedSample}

/-- The status of a sample with data. -/
def hasData (status : String) : Bool :=
  toLower (trimSpace status) ∈ ["ok", "partial"]

theorem hasData_given {status : String} (data : hasData status = true) : trimSpace status ≠ "" := by
  intro blank
  have lowered : toLower "" = "" := by with_unfolding_all decide
  simp [hasData, blank, lowered] at data

theorem toLower_eq_empty {text : String} : toLower text = "" ↔ text = "" := by
  rw [toLower, ← String.toList_inj, ← String.toList_inj, String.toList_ofList, String.toList_empty, List.map_eq_nil_iff]

theorem trafficSampleCanAggregate_iff (given : trimSpace sample.status ≠ "") :
    trafficSampleCanAggregate sample = hasData sample.status := by
  have lowered : toLower (trimSpace sample.status) ≠ "" := fun blank => given (toLower_eq_empty.mp blank)
  simp [trafficSampleCanAggregate, hasData, lowered]

theorem hasData_trimSpace (status : String) : hasData (trimSpace status) = hasData status := by
  simp [hasData]

theorem hasData_partial : hasData "partial" = true := by
  with_unfolding_all decide

theorem hasData_not_configured : hasData "not_configured" = false := by
  with_unfolding_all decide

/-- Data is never hidden by a status without. -/
theorem combineTrafficStatuses_data {current next : String} (data : hasData current = true ∨ hasData next = true) :
    hasData (combineTrafficStatuses current next) = true := by
  rw [← hasData_trimSpace current, ← hasData_trimSpace next] at data
  have blank : hasData "" = false := by with_unfolding_all decide
  unfold combineTrafficStatuses
  simp only
  split
  · rename_i missing
    rw [missing, blank] at data
    exact data.resolve_left Bool.false_ne_true
  · split
    · rename_i missing
      rw [missing, blank] at data
      exact data.resolve_right Bool.false_ne_true
    · split
      · rename_i same
        rw [← same, or_self] at data
        exact data
      · split
        · rename_i unconfigured
          rw [unconfigured, hasData_not_configured] at data
          exact data.resolve_left Bool.false_ne_true
        · split
          · rename_i unconfigured
            rw [unconfigured, hasData_not_configured] at data
            exact data.resolve_right Bool.false_ne_true
          · exact hasData_partial

theorem addToAggregate_point (samples : List ReturnedSample) (aggregate : ReturnedSample) :
    (samples.foldl addToAggregate aggregate).point = aggregate.point := by
  induction samples generalizing aggregate with
  | nil => rfl
  | cons sample rest ih => exact ih (addToAggregate aggregate sample)

theorem aggregatedPoint_eq {point : AggregateKey} (aggregated : aggregatedPoint native inbounds sample = some point) :
    fallbackPoint native inbounds sample = some point ∧ trafficSampleCanAggregate sample = true := by
  rw [aggregatedPoint, Option.filter_eq_some_iff] at aggregated
  exact aggregated

theorem fallbackPoint_eq {point : AggregateKey} : fallbackPoint native inbounds sample = some point ↔
    clientMetaByKey inbounds (normalizeTrafficEngine sample.engine) sample.scopeKey = some point.scopeKey ∧
      sample.sampledAt = point.sampledAt ∧ normalizeTrafficEngine sample.engine = point.engine ∧ point ∉ native := by
  rw [fallbackPoint, Option.filter_eq_some_iff, Option.map_eq_some_iff, decide_eq_true_eq]
  constructor
  · intro found
    obtain ⟨⟨inboundKey, listed, rfl⟩, absent⟩ := found
    exact ⟨listed, rfl, rfl, absent⟩
  · intro described
    obtain ⟨listed, time, engine, absent⟩ := described
    refine ⟨⟨point.scopeKey, listed, ?_⟩, absent⟩
    rw [time, engine]

/-- A sample that can be aggregated decides the status of its client at its point. -/
theorem clientStatusByPoint_eq (clients : ReturnedSamples "client" clientSamples) (member : sample ∈ clientSamples)
    (fallback : fallbackPoint native inbounds sample = some key) :
    clientStatusByPoint native inbounds clientSamples key sample.scopeKey = some sample.status := by
  apply lastWrite_eq
  · exact List.mem_filterMap.mpr ⟨sample, member, by rw [fallback]; rfl⟩
  · intro status written
    obtain ⟨other, otherMember, wrote⟩ := List.mem_filterMap.mp written
    obtain ⟨point, otherFallback, same⟩ := Option.map_eq_some_iff.mp wrote
    simp only [Prod.mk.injEq] at same
    obtain ⟨⟨rfl, scopeKey⟩, rfl⟩ := same
    obtain ⟨_, time, engine, _⟩ := fallbackPoint_eq.mp fallback
    obtain ⟨_, otherTime, otherEngine, _⟩ := fallbackPoint_eq.mp otherFallback
    rw [(clients.engines sample member).1] at engine
    rw [(clients.engines other otherMember).1] at otherEngine
    have points : other.point = sample.point := by
      simp only [ReturnedSample.point, time, otherTime, engine, otherEngine, scopeKey]
    rw [List.inj_on_of_nodup_map clients.distinct otherMember member points]

theorem combineAll_data {statusOf : String → String} {clientKeys : List String} {status : String}
    (data : hasData status = true ∨ ∃ clientKey ∈ clientKeys, hasData (statusOf clientKey) = true) :
    hasData (clientKeys.foldl (fun status clientKey => combineTrafficStatuses status (statusOf clientKey)) status) =
      true := by
  induction clientKeys generalizing status with
  | nil =>
      rcases data with here | ⟨_, member, _⟩
      · exact here
      · cases member
  | cons clientKey rest ih =>
      apply ih
      rcases data with here | ⟨found, member, data⟩
      · exact .inl (combineTrafficStatuses_data (.inl here))
      · rcases List.mem_cons.mp member with rfl | inside
        · exact .inl (combineTrafficStatuses_data (.inr data))
        · exact .inr ⟨found, inside, data⟩

theorem pointStatus_data (clients : ReturnedSamples "client" clientSamples) (member : sample ∈ clientSamples)
    (aggregated : aggregatedPoint native inbounds sample = some key) :
    hasData (pointStatus native inbounds clientSamples key) = true := by
  obtain ⟨fallback, data⟩ := aggregatedPoint_eq aggregated
  have given := clients.given sample member
  obtain ⟨listed, _, engine, _⟩ := fallbackPoint_eq.mp fallback
  have entry := mem_of_lastWrite listed
  rw [engine] at entry
  have own : sample.scopeKey ∈ clientKeysByInbound inbounds key.engine key.scopeKey :=
    List.mem_map.mpr ⟨_, List.mem_filter.mpr ⟨entry, by simp⟩, rfl⟩
  apply combineAll_data
  refine .inr ⟨sample.scopeKey, own, ?_⟩
  rw [clientStatusByPoint_eq clients member fallback, Option.getD_some, if_pos given]
  rw [trafficSampleCanAggregate_iff given] at data
  exact data

/-- An aggregate stands at its point, and can be aggregated itself. -/
theorem clientAggregates_spec (clients : ReturnedSamples "client" clientSamples)
    (member : (key, aggregate) ∈ clientAggregates native inbounds clientSamples) :
    aggregate.point = key ∧ trafficSampleCanAggregate aggregate = true := by
  obtain ⟨entry, inside, same⟩ := List.mem_map.mp member
  simp only [Prod.mk.injEq] at same
  obtain ⟨named, rfl⟩ := same
  obtain ⟨⟨sample, sampleMember, aggregated⟩, value⟩ := mem_gather.mp inside
  rw [named] at aggregated
  have data := pointStatus_data clients sampleMember aggregated
  have given : pointStatus native inbounds clientSamples entry.1 ≠ "" := by
    intro blank
    rw [← named, blank] at data
    exact absurd data (by with_unfolding_all decide)
  rw [if_pos given]
  constructor
  · have point : entry.2.point = entry.1 := by
      rw [value, addToAggregate_point]
      rfl
    rw [← named]
    exact point
  · simp only [trafficSampleCanAggregate, named]
    simp only [hasData, decide_eq_true_eq, List.mem_cons, List.not_mem_nil, or_false] at data
    rcases data with ok | some
    · simp [ok]
    · simp [some]

theorem clientAggregates_counted :
    CountedOnce (aggregatedPoint native inbounds) (directionOf direction) clientSamples
      ((clientAggregates native inbounds clientSamples).map fun entry => (entry.1, directionOf direction entry.2)) := by
  have same : ((clientAggregates native inbounds clientSamples).map fun entry => (entry.1, directionOf direction entry.2)) =
      (gather (aggregatedPoint native inbounds) emptyAggregate addToAggregate clientSamples).map
        fun entry => (entry.1, directionOf direction entry.2) := by
    rw [clientAggregates, List.map_map]
    apply List.map_congr_left
    intro entry _
    simp only [Function.comp_apply]
    split
    · cases direction <;> rfl
    · rfl
  rw [same]
  apply countedOnce_gather
  · intro key
    cases direction <;> rfl
  · intro aggregate sample
    cases direction <;> rfl

/-- To the contributions of the inbounds' own samples come those of the clients' samples, once each. -/
theorem fallback_contributionTo (clients : ReturnedSamples "client" clientSamples) (chosen : AggregateKey → Bool) :
    contributionTo direction chosen (trafficAnalyticsInboundSamplesWithClientFallback inboundSamples clientSamples inbounds) =
      contributionTo direction chosen inboundSamples +
        tally (directionOf direction)
          (fun sample => (aggregatedPoint (nativeInboundKeys inboundSamples) inbounds sample).any chosen) clientSamples := by
  let native := nativeInboundKeys inboundSamples
  let aggregates := clientAggregates native inbounds clientSamples
  have counted : CountedOnce (aggregatedPoint native inbounds) (directionOf direction) clientSamples
      (aggregates.map fun entry => (entry.1, directionOf direction entry.2)) := clientAggregates_counted
  have fromClients : contributionTo direction chosen (aggregates.map Prod.snd) =
      tally (directionOf direction) (fun sample => (aggregatedPoint native inbounds sample).any chosen) clientSamples := by
    rw [← counted.tally_eq chosen, contributionTo, tally_map, tally_map]
    apply tally_congr
    intro entry member
    obtain ⟨point, aggregable⟩ := clientAggregates_spec clients member
    simp only [point, aggregable, Bool.true_and]
  unfold trafficAnalyticsInboundSamplesWithClientFallback
  simp only
  split
  · rename_i empty
    have none : tally (directionOf direction) (fun sample => (aggregatedPoint native inbounds sample).any chosen)
        clientSamples = 0 := by
      rw [← fromClients]
      rw [Bool.or_eq_true, List.isEmpty_iff, List.isEmpty_iff] at empty
      rcases empty with noSamples | noAggregates
      · have nothing : aggregates = [] := by rw [show aggregates = clientAggregates native inbounds clientSamples from rfl, noSamples]; rfl
        rw [nothing]
        rfl
      · rw [show aggregates = [] from noAggregates]
        rfl
    rw [none, add_zero]
  · have kept : contributionTo direction chosen (inboundSamples.filter fun sample =>
        ⟨sample.sampledAt, normalizeTrafficEngine sample.engine, trimSpace sample.scopeKey⟩ ∉ aggregates.map Prod.fst ||
          trafficSampleCanAggregate sample) = contributionTo direction chosen inboundSamples := by
      rw [contributionTo, tally_filter]
      apply tally_congr
      intro sample _
      cases trafficSampleCanAggregate sample <;> simp
    rw [← fromClients, ← kept]
    exact (tally_perm (List.mergeSort_perm _ _)).trans tally_append

/-! ### One inbound -/

theorem mem_nativeInboundKeys (natives : ReturnedSamples "inbound" inboundSamples) :
    key ∈ nativeInboundKeys inboundSamples ↔
      ∃ native ∈ inboundSamples, trafficSampleCanAggregate native = true ∧ native.point = key := by
  have named : ∀ native ∈ inboundSamples, nativeInboundKey native =
      if trafficSampleCanAggregate native = true then some native.point else none := by
    intro native member
    obtain ⟨engine, engineGiven⟩ := natives.engines native member
    obtain ⟨scopeKey, keyGiven⟩ := natives.keys native member
    simp only [nativeInboundKey, natives.scopes native member, engine, engineGiven, scopeKey, keyGiven, ne_eq,
      not_false_eq_true, true_and, ReturnedSample.point]
  rw [nativeInboundKeys, List.mem_filterMap]
  constructor
  · intro found
    obtain ⟨native, member, key⟩ := found
    rw [named native member] at key
    split at key
    · rename_i aggregable
      exact ⟨native, member, aggregable, Option.some.inj key⟩
    · cases key
  · intro found
    obtain ⟨native, member, aggregable, rfl⟩ := found
    exact ⟨native, member, by rw [named native member, if_pos aggregable]⟩

theorem inboundStatsKey_inj {left right : Inbound} (leftPositive : 0 < left.id) (rightPositive : 0 < right.id)
    (same : inboundStatsKey left.id left.protocol = inboundStatsKey right.id right.protocol) : left.id = right.id :=
  @Config.inboundStatsTag_inj left.toInboundRow right.toInboundRow leftPositive rightPositive same

private theorem flatMap_only {α β : Type} {f : α → List β} {items : List α} {item : α} (distinct : items.Nodup)
    (member : item ∈ items) (others : ∀ other ∈ items, other ≠ item → f other = []) : items.flatMap f = f item := by
  induction items with
  | nil => cases member
  | cons first rest ih =>
      obtain ⟨absent, restDistinct⟩ := List.nodup_cons.mp distinct
      rw [List.flatMap_cons]
      rcases List.mem_cons.mp member with rfl | inside
      · have none : rest.flatMap f = [] := by
          rw [List.flatMap_eq_nil_iff]
          intro other otherMember
          exact others other (List.mem_cons_of_mem _ otherMember) fun same => absent (same ▸ otherMember)
        rw [none, List.append_nil]
      · have empty := others first List.mem_cons_self fun same => absent (same ▸ inside)
        rw [empty, List.nil_append]
        exact ih restDistinct inside fun other otherMember => others other (List.mem_cons_of_mem _ otherMember)

/-- The clients under the key of an inbound are its own. -/
theorem clientKeysByInbound_eq {inbound : Inbound} (listed : ListedInbounds inbounds) (member : inbound ∈ inbounds) :
    clientKeysByInbound inbounds (expectedTrafficEngine inbound.protocol) (inboundStatsKey inbound.id inbound.protocol) =
      (inbound.clients.filter fun client => client.enabled && clientTrafficStatsKey client ≠ "").map
        clientTrafficStatsKey := by
  rw [clientKeysByInbound, enabledClientKeys, List.filter_flatMap, List.map_flatMap,
    flatMap_only (List.Nodup.of_map _ listed.distinct) member]
  · rw [List.filter_map, List.map_map, List.filter_filter]
    have all : ((fun entry : (String × String) × String => decide (entry.1.1 = expectedTrafficEngine inbound.protocol) &&
        decide (entry.2 = inboundStatsKey inbound.id inbound.protocol)) ∘ fun client =>
          ((expectedTrafficEngine inbound.protocol, clientTrafficStatsKey client),
            inboundStatsKey inbound.id inbound.protocol)) = fun _ => true := by
      funext client
      simp
    simp only [all, Bool.true_and]
    rfl
  · intro other otherMember different
    rw [List.map_eq_nil_iff, List.filter_eq_nil_iff]
    intro entry entryMember selected
    obtain ⟨client, _, rfl⟩ := List.mem_map.mp entryMember
    simp only [Bool.and_eq_true, decide_eq_true_eq] at selected
    have ids := inboundStatsKey_inj (listed.positive other otherMember) (listed.positive inbound member) selected.2
    exact different (List.inj_on_of_nodup_map listed.distinct otherMember member ids)

theorem clientMetaByKey_iff {engine clientKey inboundKey : String} (listed : ListedInbounds inbounds) :
    clientMetaByKey inbounds engine clientKey = some inboundKey ↔
      clientKey ∈ clientKeysByInbound inbounds engine inboundKey := by
  have entries : clientKey ∈ clientKeysByInbound inbounds engine inboundKey ↔
      ((engine, clientKey), inboundKey) ∈ enabledClientKeys inbounds := by
    rw [clientKeysByInbound, List.mem_map]
    constructor
    · intro found
      obtain ⟨⟨⟨otherEngine, otherKey⟩, otherInbound⟩, inside, rfl⟩ := found
      obtain ⟨member, selected⟩ := List.mem_filter.mp inside
      simp only [Bool.and_eq_true, decide_eq_true_eq] at selected
      rw [← selected.1, ← selected.2]
      exact member
    · exact fun member => ⟨_, List.mem_filter.mpr ⟨member, by simp⟩, rfl⟩
  rw [entries, clientMetaByKey]
  constructor
  · exact mem_of_lastWrite
  · intro member
    apply lastWrite_eq member
    intro other otherMember
    have same := List.inj_on_of_nodup_map listed.clientKeys otherMember member rfl
    exact (Prod.mk.inj same).2

theorem clientKeysByInbound_nodup {engine inboundKey : String} (listed : ListedInbounds inbounds) :
    (clientKeysByInbound inbounds engine inboundKey).Nodup := by
  have distinct := listed.clientKeys.sublist
    ((List.filter_sublist (p := fun entry => entry.1.1 = engine && entry.2 = inboundKey)).map Prod.fst)
  rw [clientKeysByInbound]
  apply List.Nodup.of_map fun clientKey => (engine, clientKey)
  rw [List.map_map]
  have same : ((enabledClientKeys inbounds).filter fun entry => entry.1.1 = engine && entry.2 = inboundKey).map
      ((fun clientKey => (engine, clientKey)) ∘ fun entry => entry.1.2) =
        ((enabledClientKeys inbounds).filter fun entry => entry.1.1 = engine && entry.2 = inboundKey).map Prod.fst := by
    apply List.map_congr_left
    intro entry member
    have selected := (List.mem_filter.mp member).2
    simp only [Bool.and_eq_true, decide_eq_true_eq] at selected
    simp only [Function.comp_apply, ← selected.1]
  rw [same]
  exact distinct

/-- The key of a sample of an engine at a time. -/
def clientLabel (sampledAt engine : String) (sample : ReturnedSample) : Option String :=
  if trafficSampleCanAggregate sample = true ∧ sample.sampledAt = sampledAt ∧ sample.engine = engine then
    some sample.scopeKey
  else none

theorem tally_clientLabel (sampledAt engine clientKey : String) :
    tally (directionOf direction) (fun sample => clientLabel sampledAt engine sample = some clientKey) clientSamples =
      contribution direction ⟨sampledAt, engine, clientKey⟩ clientSamples := by
  apply tally_congr
  intro sample _
  rw [Bool.eq_iff_iff, decide_eq_true_eq, Bool.and_eq_true, decide_eq_true_eq, ReturnedSample.point, AggregateKey.mk.injEq,
    clientLabel, ite_eq_iff]
  simp [and_assoc]

theorem aggregatedPoint_iff {point : AggregateKey} (listed : ListedInbounds inbounds)
    (engines : normalizeTrafficEngine sample.engine = sample.engine) (absent : point ∉ native) :
    aggregatedPoint native inbounds sample = some point ↔
      ∃ clientKey ∈ clientKeysByInbound inbounds point.engine point.scopeKey,
        clientLabel point.sampledAt point.engine sample = some clientKey := by
  rw [aggregatedPoint, Option.filter_eq_some_iff, fallbackPoint_eq, clientMetaByKey_iff listed, engines]
  constructor
  · intro found
    obtain ⟨⟨inside, time, engine, _⟩, aggregable⟩ := found
    rw [engine] at inside
    exact ⟨sample.scopeKey, inside, if_pos ⟨aggregable, time, engine⟩⟩
  · intro found
    obtain ⟨clientKey, inside, labelled⟩ := found
    rw [clientLabel, ite_eq_iff] at labelled
    obtain ⟨⟨aggregable, time, engine⟩, same⟩ | ⟨_, missing⟩ := labelled
    · rw [← Option.some.inj same] at inside
      rw [engine]
      exact ⟨⟨inside, time, rfl, absent⟩, aggregable⟩
    · cases missing

/-- The clients without a key contribute nothing. -/
theorem contribution_keyless {inbound : Inbound} {client : Client} {sampledAt : String}
    (clients : ReturnedSamples "client" clientSamples) (keyless : clientTrafficStatsKey client = "") :
    contribution direction (clientPoint sampledAt inbound client) clientSamples = 0 := by
  apply tally_none
  intro sample member
  have given := (clients.keys sample member).2
  have apart : sample.point ≠ clientPoint sampledAt inbound client :=
    fun same => given ((congrArg AggregateKey.scopeKey same).trans keyless)
  dsimp only
  rw [decide_eq_false apart, Bool.and_false]

/-- Where an inbound has no sample of its own, the samples of its clients are added up. -/
theorem tally_fallback {inbound : Inbound} {sampledAt : String} (listed : ListedInbounds inbounds)
    (clients : ReturnedSamples "client" clientSamples) (member : inbound ∈ inbounds)
    (absent : inboundPoint sampledAt inbound ∉ native) :
    tally (directionOf direction) (fun sample => (aggregatedPoint native inbounds sample).any
        (· = inboundPoint sampledAt inbound)) clientSamples =
      ((inbound.clients.filter fun client => client.enabled).map fun client =>
        contribution direction (clientPoint sampledAt inbound client) clientSamples).sum := by
  let point := inboundPoint sampledAt inbound
  have labels : ∀ sample ∈ clientSamples, ((aggregatedPoint native inbounds sample).any (· = point)) =
      ((clientLabel sampledAt point.engine sample).any (· ∈ clientKeysByInbound inbounds point.engine point.scopeKey)) := by
    intro sample sampleMember
    have found : aggregatedPoint native inbounds sample = some point ↔ _ :=
      aggregatedPoint_iff listed (clients.engines sample sampleMember).1 absent
    rw [Bool.eq_iff_iff, Option.any_eq_true, Option.any_eq_true]
    constructor
    · intro aggregated
      obtain ⟨other, same, equal⟩ := aggregated
      rw [of_decide_eq_true equal] at same
      obtain ⟨clientKey, inside, labelled⟩ := found.mp same
      exact ⟨clientKey, labelled, decide_eq_true inside⟩
    · intro labelled
      obtain ⟨clientKey, same, inside⟩ := labelled
      exact ⟨point, found.mpr ⟨clientKey, of_decide_eq_true inside, same⟩, decide_eq_true rfl⟩
  have blank : ∀ client ∈ inbound.clients, client.enabled = true → (decide (clientTrafficStatsKey client ≠ "")) = false →
      contribution direction (clientPoint sampledAt inbound client) clientSamples = 0 := by
    intro client _ _ keyless
    exact contribution_keyless clients (by simpa using keyless)
  have own := clientKeysByInbound_eq listed member
  rw [tally_congr labels, ← sum_tally_keys (clientKeysByInbound_nodup listed)]
  simp only [tally_clientLabel]
  rw [show clientKeysByInbound inbounds point.engine point.scopeKey = _ from own, List.map_map]
  exact (tally_and blank).symm

theorem contribution_native {point : AggregateKey} {own : ReturnedSample} (natives : ReturnedSamples "inbound" inboundSamples)
    (member : own ∈ inboundSamples) (aggregable : trafficSampleCanAggregate own = true) (here : own.point = point) :
    contribution direction point inboundSamples = directionOf direction own := by
  apply tally_unique natives.distinct.of_map member
  · simp [aggregable, here]
  · intro other otherMember selected
    have same : other.point = point := of_decide_eq_true (Bool.and_eq_true_iff.mp selected).2
    exact List.inj_on_of_nodup_map natives.distinct otherMember member (same.trans here.symm)

/-- With the samples of clients to fall back on, an inbound is charted at each time with its own
sample if that has data, and with the samples of its enabled clients if not; and whatever points
are chosen, each sample of a client counts at most once among them, and only where the inbound
has no data of its own. -/
theorem fallback_attributes (natives : ReturnedSamples "inbound" inboundSamples)
    (clients : ReturnedSamples "client" clientSamples) (listed : ListedInbounds inbounds) (direction : Direction) :
    let result := trafficAnalyticsInboundSamplesWithClientFallback inboundSamples clientSamples inbounds
    (∀ inbound ∈ inbounds, ∀ sampledAt,
      (∀ own ∈ inboundSamples, trafficSampleCanAggregate own = true → own.point = inboundPoint sampledAt inbound →
        contribution direction (inboundPoint sampledAt inbound) result = directionOf direction own) ∧
      ((∀ own ∈ inboundSamples, own.point = inboundPoint sampledAt inbound → trafficSampleCanAggregate own = false) →
        contribution direction (inboundPoint sampledAt inbound) result =
          ((inbound.clients.filter fun client => client.enabled).map fun client =>
            contribution direction (clientPoint sampledAt inbound client) clientSamples).sum)) ∧
    (∀ sample ∈ clientSamples, ∀ left ∈ inbounds, ∀ right ∈ inbounds, ∀ sampledAt sampledAt',
      aggregatedPoint (nativeInboundKeys inboundSamples) inbounds sample = some (inboundPoint sampledAt left) →
      aggregatedPoint (nativeInboundKeys inboundSamples) inbounds sample = some (inboundPoint sampledAt' right) →
      left = right) ∧
    ∀ chosen : AggregateKey → Bool,
      contributionTo direction chosen result =
        contributionTo direction chosen inboundSamples +
          tally (directionOf direction)
            (fun sample => (aggregatedPoint (nativeInboundKeys inboundSamples) inbounds sample).any chosen) clientSamples := by
  intro result
  have split : ∀ chosen, contributionTo direction chosen result = _ := fallback_contributionTo clients
  refine ⟨fun inbound member sampledAt => ⟨?_, ?_⟩, ?_, split⟩
  · intro own ownMember aggregable here
    have named := (mem_nativeInboundKeys natives).mpr ⟨own, ownMember, aggregable, here⟩
    have none : tally (directionOf direction) (fun sample =>
        (aggregatedPoint (nativeInboundKeys inboundSamples) inbounds sample).any (· = inboundPoint sampledAt inbound))
          clientSamples = 0 := by
      apply tally_none
      intro sample _
      rw [← Bool.not_eq_true, Option.any_eq_true]
      intro found
      obtain ⟨point, aggregated, here⟩ := found
      obtain ⟨_, _, _, absent⟩ := fallbackPoint_eq.mp (aggregatedPoint_eq aggregated).1
      exact absent (of_decide_eq_true here ▸ named)
    rw [contribution, split, none, add_zero]
    exact contribution_native natives ownMember aggregable here
  · intro without
    have absent : inboundPoint sampledAt inbound ∉ nativeInboundKeys inboundSamples := by
      intro named
      obtain ⟨own, ownMember, aggregable, here⟩ := (mem_nativeInboundKeys natives).mp named
      rw [without own ownMember here] at aggregable
      cases aggregable
    have nothing : contributionTo direction (· = inboundPoint sampledAt inbound) inboundSamples = 0 := by
      apply tally_none
      intro own ownMember
      by_cases here : own.point = inboundPoint sampledAt inbound
      · rw [without own ownMember here, Bool.false_and]
      · simp [here]
    rw [contribution, split, nothing, zero_add]
    exact tally_fallback listed clients member absent
  · intro sample _ left leftMember right rightMember sampledAt sampledAt' toLeft toRight
    have points := Option.some.inj (toLeft.symm.trans toRight)
    have ids := inboundStatsKey_inj (listed.positive left leftMember) (listed.positive right rightMember)
      (congrArg AggregateKey.scopeKey points)
    exact List.inj_on_of_nodup_map listed.distinct leftMember rightMember ids

end

def exampleChartedInbound : Inbound :=
  { (default : Inbound) with
    id := 1, protocol := "vless"
    clients := [
      { (default : Client) with id := 10, inboundID := 1, statsKey := "c_1", enabled := true },
      { (default : Client) with id := 11, inboundID := 1, statsKey := "c_2", enabled := true }] }

def exampleChartSample (sampledAt scopeType scopeKey : String) (deltaUp : Int64) : ReturnedSample :=
  { (default : ReturnedSample) with sampledAt, engine := "xray", scopeType, scopeKey, deltaUp, status := "ok" }

/-- The inbound has a sample in the first minute, its clients in the first and the second. -/
theorem example_fallback_attributes :
    let natives := [exampleChartSample "2026-06-25T01:00:00Z" "inbound" "inbound-1-vless" 5]
    let clients := [exampleChartSample "2026-06-25T01:00:00Z" "client" "c_1" 10,
      exampleChartSample "2026-06-25T01:01:00Z" "client" "c_1" 20, exampleChartSample "2026-06-25T01:01:00Z" "client" "c_2" 30]
    let result := trafficAnalyticsInboundSamplesWithClientFallback natives clients [exampleChartedInbound]
    contribution .up (inboundPoint "2026-06-25T01:00:00Z" exampleChartedInbound) result = 5 ∧
      contribution .up (inboundPoint "2026-06-25T01:01:00Z" exampleChartedInbound) result = 50 := by
  intro natives clients result
  have nativesReturned : ReturnedSamples "inbound" natives := by constructor <;> with_unfolding_all decide
  have clientsReturned : ReturnedSamples "client" clients := by constructor <;> with_unfolding_all decide
  have listed : ListedInbounds [exampleChartedInbound] := by constructor <;> with_unfolding_all decide
  have attributed := fallback_attributes nativesReturned clientsReturned listed .up
  obtain ⟨first, _⟩ := attributed.1 exampleChartedInbound List.mem_cons_self "2026-06-25T01:00:00Z"
  obtain ⟨_, second⟩ := attributed.1 exampleChartedInbound List.mem_cons_self "2026-06-25T01:01:00Z"
  constructor
  · exact first _ List.mem_cons_self (by with_unfolding_all decide) (by with_unfolding_all decide)
  · rw [second (by decide)]
    with_unfolding_all decide

/-! ### What the store hands over -/

theorem listInboundTraffic_listed {store : Store} (sound : Db.RowsSound store) :
    ListedInbounds (listInboundTraffic store.inbounds store.clients) where
  positive := by
    intro inbound member
    obtain ⟨row, stored, rfl⟩ := List.mem_map.mp member
    exact store.inbounds.positive row stored
  distinct := by
    rw [listInboundTraffic_ids]
    exact store.inbounds.ids_nodup
  clientKeys := by
    have key : ∀ client ∈ store.clients.rows, clientTrafficStatsKey (trafficClient client) = client.statsKey := by
      intro client stored
      have clientSound := sound.clients client stored
      simp only [clientTrafficStatsKey, trafficClient, clientSound.statsKey, if_pos clientSound.statsKeyGiven]
    have listed : ((enabledClientKeys (listInboundTraffic store.inbounds store.clients)).map Prod.fst).map Prod.snd =
        store.inbounds.rows.flatMap fun row =>
          ((store.clients.rows.filter fun client => client.inboundID == row.id).filter fun client =>
            client.enabled && client.statsKey ≠ "").map Client.statsKey := by
      rw [List.map_map, enabledClientKeys, listInboundTraffic, List.flatMap_map, List.map_flatMap]
      apply List.flatMap_congr
      intro row _
      rw [trafficInbound, List.map_map, List.filter_map, List.map_map]
      have selected : ∀ client ∈ store.clients.rows.filter fun client => client.inboundID == row.id,
          ((fun client => client.enabled && decide (clientTrafficStatsKey client ≠ "")) ∘ trafficClient) client =
            (client.enabled && decide (client.statsKey ≠ "")) := by
        intro client member
        simp only [Function.comp_apply, key client (List.mem_of_mem_filter member)]
        rfl
      rw [List.filter_congr selected]
      apply List.map_congr_left
      intro client member
      exact key client (List.mem_of_mem_filter (List.mem_of_mem_filter member))
    apply List.Nodup.of_map Prod.snd
    rw [listed, List.nodup_flatMap]
    constructor
    · intro row _
      exact sound.statsKeys.sublist ((List.filter_sublist.trans List.filter_sublist).map Client.statsKey)
    · refine store.inbounds.ascending.imp fun {left right} less => ?_
      intro statsKey leftMember rightMember
      obtain ⟨first, inLeft, rfl⟩ := List.mem_map.mp leftMember
      obtain ⟨second, inRight, same⟩ := List.mem_map.mp rightMember
      obtain ⟨firstStored, firstHome⟩ := List.mem_filter.mp (List.mem_of_mem_filter inLeft)
      obtain ⟨secondStored, secondHome⟩ := List.mem_filter.mp (List.mem_of_mem_filter inRight)
      have one := List.inj_on_of_nodup_map sound.statsKeys firstStored secondStored same.symm
      rw [one] at firstHome
      have home : left.id = right.id := (eq_of_beq firstHome).symm.trans (eq_of_beq secondHome)
      omega

/-- The start of a bucket is a time that can be written. -/
theorem tdiv_inYears {unix size : Int} (positive : 0 < size) (inYears : InYears (unix * second)) :
    InYears (unix.tdiv size * size * second) := by
  have bounds : -62167219200 ≤ unix ∧ unix < 253402300800 := by
    unfold InYears second at inYears
    omega
  have between : (0 ≤ unix.tdiv size * size ∧ unix.tdiv size * size ≤ unix) ∨
      (unix ≤ unix.tdiv size * size ∧ unix.tdiv size * size ≤ 0) := by
    rcases Int.le_total 0 unix with nonneg | nonpos
    · rw [Int.tdiv_eq_ediv_of_nonneg nonneg]
      exact .inl ⟨Int.mul_nonneg (Int.ediv_nonneg nonneg positive.le) positive.le, Int.ediv_mul_le unix positive.ne'⟩
    · obtain ⟨past, rfl⟩ : ∃ past, unix = -past := ⟨-unix, (Int.neg_neg unix).symm⟩
      have nonneg : 0 ≤ past := by omega
      have lower := Int.mul_nonneg (Int.ediv_nonneg nonneg positive.le) positive.le
      have upper := Int.ediv_mul_le past positive.ne'
      rw [Int.neg_tdiv, Int.tdiv_eq_ediv_of_nonneg nonneg, Int.neg_mul]
      exact .inr ⟨by omega, by omega⟩
  unfold InYears second
  omega

theorem bucketUnix_inYears {bucketSeconds : Int} {sample : TrafficSample} (positive : 0 < bucketSeconds)
    (inYears : InYears sample.sampledAt) : InYears (bucketUnix bucketSeconds sample * second) := by
  apply tdiv_inYears positive
  unfold InYears second at inYears ⊢
  omega

theorem rfc3339_inj {left right : Int} (leftYears : InYears (left * second)) (rightYears : InYears (right * second))
    (same : rfc3339 (left * second) = rfc3339 (right * second)) : left = right := by
  have apart : ∀ {earlier later : Int}, InYears (earlier * second) → InYears (later * second) → earlier < later →
      rfc3339 (earlier * second) < rfc3339 (later * second) := by
    intro earlier later earlierYears laterYears less
    rw [rfc3339_lt_iff earlierYears laterYears]
    unfold second
    omega
  rcases Int.lt_trichotomy left right with less | equal | greater
  · exact absurd (same ▸ apart leftYears rightYears less) (String.lt_irrefl _)
  · exact equal
  · exact absurd (same ▸ apart rightYears leftYears greater) (String.lt_irrefl _)

theorem analyticsStatus_given (statuses : List String) : trimSpace (analyticsStatus statuses) ≠ "" := by
  unfold analyticsStatus
  repeat' split
  all_goals with_unfolding_all decide

theorem listTrafficAnalyticsSamples_returned {store : Store} {params : TrafficAnalyticsSampleParams} {scopeType : String}
    (scope : scopeType = "inbound" ∨ scopeType = "client") (asked : params.scopeType = scopeType)
    (normal : ∀ sample ∈ store.trafficSamples.rows, normalizeTrafficKey sample.key.2 = sample.key.2 ∧
      TrafficKey.Given sample.key.2 ∧ InYears sample.sampledAt) :
    ReturnedSamples scopeType ((listTrafficAnalyticsSamples params store).map scanSample) := by
  have token : analyticsScopeType params.scopeType = scopeType ∧ normalizeTrafficScopeType scopeType = scopeType := by
    rw [asked]
    rcases scope with rfl | rfl <;> with_unfolding_all decide
  let selected := store.trafficSamples.rows.filter (inAnalyticsWindow params)
  let groups := ((selected.map (analyticsGroup params)).dedup).mergeSort analyticsOrder
  have distinct : groups.Nodup := (List.mergeSort_perm _ _).nodup_iff.mpr (List.nodup_dedup _)
  have group : ∀ group ∈ groups, InYears (group.1 * second) ∧ normalizeTrafficKey group.2 = group.2 ∧
      TrafficKey.Given group.2 ∧ group.2.scopeType = scopeType := by
    intro group member
    obtain ⟨sample, inWindow, rfl⟩ := List.mem_map.mp (List.mem_dedup.mp ((List.mergeSort_perm _ _).mem_iff.mp member))
    obtain ⟨stored, window⟩ := List.mem_filter.mp inWindow
    obtain ⟨keyNormal, given, inYears⟩ := normal sample stored
    have typed : sample.scopeType = scopeType := by
      rw [inAnalyticsWindow, Bool.and_eq_true, Bool.and_eq_true, decide_eq_true_eq, token.1] at window
      exact window.1.1
    have size : 0 < analyticsBucketSeconds params.bucketSeconds := by
      unfold analyticsBucketSeconds
      split
      · decide
      · split
        · decide
        · omega
    exact ⟨bucketUnix_inYears size inYears, keyNormal, given, typed⟩
  have listed : ∀ sample ∈ (listTrafficAnalyticsSamples params store).map scanSample, ∃ group ∈ groups,
      sample.point = ⟨rfc3339 (group.1 * second), group.2.engine, group.2.scopeKey⟩ ∧
        sample.scopeType = group.2.scopeType ∧ trimSpace sample.status ≠ "" := by
    intro sample member
    obtain ⟨row, rowMember, rfl⟩ := List.mem_map.mp member
    obtain ⟨group, groupMember, rfl⟩ := List.mem_map.mp rowMember
    exact ⟨group, groupMember, rfl, rfl, analyticsStatus_given _⟩
  constructor
  · intro sample member
    obtain ⟨group', groupMember, _, typed, _⟩ := listed sample member
    rw [typed, (group group' groupMember).2.2.2]
    exact token.2
  · rw [listTrafficAnalyticsSamples, List.map_map, List.map_map]
    apply List.Nodup.map_on _ distinct
    intro left leftMember right rightMember same
    obtain ⟨leftYears, _, _, leftTyped⟩ := group left leftMember
    obtain ⟨rightYears, _, _, rightTyped⟩ := group right rightMember
    simp only [Function.comp_apply, ReturnedSample.point, scanSample, summarizeSamples, AggregateKey.mk.injEq] at same
    obtain ⟨time, engine, scopeKey⟩ := same
    have keys : left.2 = right.2 := by
      cases leftKey : left.2
      cases rightKey : right.2
      simp_all
    exact Prod.ext (rfc3339_inj leftYears rightYears time) keys
  · intro sample member
    obtain ⟨group', groupMember, point, _⟩ := listed sample member
    obtain ⟨_, keyNormal, given, _⟩ := group group' groupMember
    have engine : sample.engine = group'.2.engine := congrArg AggregateKey.engine point
    rw [engine]
    exact ⟨congrArg TrafficKey.engine keyNormal, given.1⟩
  · intro sample member
    obtain ⟨group', groupMember, point, _⟩ := listed sample member
    obtain ⟨_, keyNormal, given, _⟩ := group group' groupMember
    have scopeKey : sample.scopeKey = group'.2.scopeKey := congrArg AggregateKey.scopeKey point
    rw [scopeKey]
    exact ⟨congrArg TrafficKey.scopeKey keyNormal, given.2.2⟩
  · intro sample member
    obtain ⟨_, _, _, _, given⟩ := listed sample member
    exact given

end MiGate.Web
