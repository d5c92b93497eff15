import MiGate.Db.DefaultRoute
import MiGate.Config.References

namespace MiGate.Config

open Go Db Fallible Relational Transition

variable {platform : Platform} {store : Store}

/-! The cores send what no rule matches to the first outbound of their configuration. -/

theorem initial_leads : DirectLeads (places Store.initial.outbounds) := by
  have empty : DirectLeads (places Store.empty.outbounds) :=
    ⟨List.nodup_nil, fun _ inside => absurd inside List.not_mem_nil⟩
  exact reopen_leads empty (by decide)

theorem listOutbounds_find? (leads : DirectLeads (places store.outbounds)) {row : Outbound}
    (stored : row ∈ store.outbounds.rows) (direct : row.place.direct = true) {chosen : Outbound → Bool}
    (kept : chosen (loadOutbound row) = true) : (listOutbounds store).find? chosen = some (loadOutbound row) := by
  have first : (store.outbounds.rows.insertionSort sortBefore).find? (chosen ∘ loadOutbound) = some row := by
    refine find?_of_least (List.pairwise_insertionSort _ _) ((List.mem_insertionSort _).mpr stored) kept ?_
    intro other inside stands
    have otherStored := (List.mem_insertionSort _).mp inside
    by_contra different
    have apart : other.id ≠ row.id := fun same => different (Serial.eq_of_id_eq otherStored stored same)
    have ahead := leads.ahead row.place (List.mem_map_of_mem stored) direct other.place
      (List.mem_map_of_mem otherStored) apart
    simp only [sortBefore, Place.Ahead, Outbound.place] at stands ahead
    omega
  rw [listOutbounds, List.find?_map, first]
  rfl

theorem mapM_head? {α β : Type} {f : α → Except String β} {items : List α} {results : List β} {first : α}
    {result : β} (finished : items.mapM f = .ok results) (leads : items.head? = some first)
    (done : f first = .ok result) : results.head? = some result := by
  rw [mapM_eq_ok] at finished
  cases finished with
  | nil => cases leads
  | cons head _ =>
      cases Option.some.inj leads
      rw [List.head?_cons, ← Except.ok.inj (head.symm.trans done)]

theorem ensureSystemOutbound_head? {ω : Type} {tag : ω → String} {system first : ω} {outbounds : List ω}
    (leads : outbounds.head? = some first) (other : tag first ≠ tag system) :
    (ensureSystemOutbound tag system outbounds).head? = some first := by
  cases outbounds with
  | nil => cases leads
  | cons head rest =>
      cases Option.some.inj leads
      rw [ensureSystemOutbound, if_neg other, List.head?_cons]

section

variable {outbounds : List Outbound} {row : Outbound} (positive : 0 < row.id)
  (freedom : normalizeOutboundProtocol row.protocol = "freedom")

include freedom

theorem freedom_supported {core : String} (known : core = coreXray ∨ core = coreSingbox) :
    outboundSupportsCore (loadOutbound row) core = true := by
  have cores : outboundProtocolSupportedCores row.protocol = [coreXray, coreSingbox] := by
    rw [outboundProtocolSupportedCores, freedom]
    exact if_pos (.inr (by decide))
  have both : supportsCore [coreXray, coreSingbox] coreXray = true ∧
      supportsCore [coreXray, coreSingbox] coreSingbox = true := by with_unfolding_all decide
  have read : outboundSupportsCore (loadOutbound row) core =
      supportsCore (outboundProtocolSupportedCores row.protocol) core := rfl
  rw [read, cores]
  rcases known with rfl | rfl
  · exact both.1
  · exact both.2

theorem freedom_valid : validateOutboundProfile (loadOutbound row) = .ok () := by
  have read : validateOutboundProfile (loadOutbound row) = validateOutboundProfile row := rfl
  have free : outboundProtocolNeedsEndpoint "freedom" = false := by decide
  rw [read, validateOutboundProfile, freedom]
  simp [free, onlyIf, validateOutboundCredentials]

include positive

theorem xray_freedom_built :
    Xray.buildOutbound platform (loadOutbound row) = .ok (Xray.freedomOutbound ("xray-out-" ++ itoa row.id)) := by
  have tagged : generatedOutboundTag coreXray (loadOutbound row).id (loadOutbound row).tag =
      "xray-out-" ++ itoa row.id := generatedOutboundTag_xray positive _
  have spoken : normalizeOutboundProtocol (loadOutbound row).protocol = "freedom" := freedom
  simp only [Xray.buildOutbound, bind_eq_ok, expect_eq_ok, pure_eq_ok]
  refine ⟨(), freedom_valid freedom, ("freedom", [], []), ?_, ?_⟩
  · rw [spoken, Xray.buildOutboundSettings, if_pos rfl]
  · rw [tagged]
    rfl

theorem singbox_freedom_built : Singbox.buildOutbound platform (loadOutbound row) =
    .ok (Singbox.directOutbound ("singbox-out-" ++ itoa row.id)) := by
  have tagged : generatedOutboundTag coreSingbox (loadOutbound row).id (loadOutbound row).tag =
      "singbox-out-" ++ itoa row.id := generatedOutboundTag_singbox positive _
  have spoken : normalizeOutboundProtocol (loadOutbound row).protocol = "freedom" := freedom
  simp only [Singbox.buildOutbound, bind_eq_ok]
  refine ⟨(), freedom_valid freedom, ?_⟩
  rw [tagged, spoken, Singbox.buildOutboundOf, if_pos rfl]
  rfl

end

theorem direct_freedom {row : Outbound} (direct : row.place.direct = true) :
    normalizeOutboundProtocol row.protocol = "freedom" := by
  simp only [Place.direct, Outbound.place, Bool.and_eq_true, beq_iff_eq] at direct
  rw [direct.2]
  with_unfolding_all decide

section

variable (leads : DirectLeads (places store.outbounds)) {row : Outbound} (stored : row ∈ store.outbounds.rows)
  (direct : row.place.direct = true) (enabled : row.enabled = true)

include leads stored direct enabled

theorem xray_first_outbound {inbounds : List Inbound} {rules : List Db.RoutingRule}
    {opts : ManagementDirectOptions} {config : Xray.Config}
    (built : Xray.buildConfigWithOutboundsOptions platform inbounds (listOutbounds store) rules opts = .ok config) :
    config.outbounds.head? = some (Xray.freedomOutbound ("xray-out-" ++ itoa row.id)) := by
  have positive := store.outbounds.positive row stored
  have freedom := direct_freedom direct
  simp only [Xray.buildConfigWithOutboundsOptions, Xray.buildOutbounds, bind_eq_ok, pure_eq_ok] at built
  obtain ⟨_, _, _, ⟨each, finished, rfl⟩, _, _, rfl⟩ := built
  have head : each.head? = some (Xray.freedomOutbound ("xray-out-" ++ itoa row.id)) := by
    refine mapM_head? finished ?_ (xray_freedom_built positive freedom)
    rw [List.head?_filter]
    refine listOutbounds_find? leads stored direct ?_
    rw [Bool.and_eq_true]
    exact ⟨enabled, freedom_supported freedom (.inl rfl)⟩
  have notSystem : (Xray.freedomOutbound ("xray-out-" ++ itoa row.id)).tag ≠ systemDirectTag :=
    systemDirectTag_ne Xray.outboundLead_first (by decide) row.id
  have some : each.isEmpty = false := by
    cases each with
    | nil => cases head
    | cons _ _ => rfl
  dsimp only [Xray.appendStatsAPIInbound]
  rw [some, if_neg Bool.false_ne_true]
  split
  · exact head
  · exact ensureSystemOutbound_head? head notSystem

theorem singbox_first_outbound {inbounds : List Inbound} {rules : List RoutingRule}
    {opts : Singbox.BuildOptions} {config : Singbox.Config}
    (built : Singbox.buildConfigWithOutboundsOptions platform inbounds (listOutbounds store) rules opts =
      .ok config) :
    config.outbounds.head? = some (Singbox.directOutbound ("singbox-out-" ++ itoa row.id)) := by
  have positive := store.outbounds.positive row stored
  have freedom := direct_freedom direct
  simp only [Singbox.buildConfigWithOutboundsOptions, Singbox.buildOutbounds, bind_eq_ok, pure_eq_ok] at built
  obtain ⟨_, ⟨each, finished, rfl⟩, _, _, rfl⟩ := built
  have head : each.head? = some (Singbox.directOutbound ("singbox-out-" ++ itoa row.id)) := by
    refine mapM_head? finished ?_ (singbox_freedom_built positive freedom)
    rw [List.head?_filter]
    refine listOutbounds_find? leads stored direct ?_
    have kept : Singbox.isRemovedSingboxOutbound (loadOutbound row) = false := by
      have read : normalizeOutboundProtocol (loadOutbound row).protocol = "freedom" := freedom
      rw [Singbox.isRemovedSingboxOutbound, read]
      decide
    rw [Bool.and_eq_true, Bool.and_eq_true, Bool.not_eq_true']
    exact ⟨⟨enabled, freedom_supported freedom (.inr rfl)⟩, kept⟩
  have notSystem : (Singbox.directOutbound ("singbox-out-" ++ itoa row.id)).tag ≠ systemDirectTag :=
    systemDirectTag_ne Singbox.outboundLead_first (by decide) row.id
  have some : each.isEmpty = false := by
    cases each with
    | nil => cases head
    | cons _ _ => rfl
  dsimp only
  rw [some, if_neg Bool.false_ne_true]
  split
  · exact head
  · exact ensureSystemOutbound_head? head notSystem

end

theorem events_lead (reached : Reach (Guarded (fun event store => StoreEvent.keepsDirectFirst event store = true)
    (Steps (eventStep platform))) Store.initial store) : DirectLeads (places store.outbounds) := by
  induction reached with
  | start => exact initial_leads
  | step earlier stepped ih => exact eventStep_leads (events_tags earlier.unguarded) ih stepped.1 stepped.2

/-- In every run whose steps meet the condition, the `direct` outbound stays what unmatched traffic
takes, as long as it is there and enabled. -/
theorem direct_stays_default
    (reached : Reach (Guarded (fun event store => StoreEvent.keepsDirectFirst event store = true)
      (Steps (eventStep platform))) Store.initial store)
    {row : Outbound} (stored : row ∈ store.outbounds.rows) (direct : row.place.direct = true)
    (enabled : row.enabled = true) :
    (listOutbounds store).find? Outbound.enabled = some (loadOutbound row) ∧
      (∀ inbounds rules opts config,
        Xray.buildConfigWithOutboundsOptions platform inbounds (listOutbounds store) rules opts = .ok config →
          config.outbounds.head? = some (Xray.freedomOutbound ("xray-out-" ++ itoa row.id))) ∧
      ∀ inbounds rules opts config,
        Singbox.buildConfigWithOutboundsOptions platform inbounds (listOutbounds store) rules opts = .ok config →
          config.outbounds.head? = some (Singbox.directOutbound ("singbox-out-" ++ itoa row.id)) := by
  have leads := events_lead reached
  refine ⟨listOutbounds_find? leads stored direct enabled, ?_, ?_⟩
  · intro _ _ _ _ built
    exact xray_first_outbound leads stored direct enabled built
  · intro _ _ _ _ built
    exact singbox_first_outbound leads stored direct enabled built

def exampleNode : MaterializedSubscriptionOutbound :=
  { (default : MaterializedSubscriptionOutbound) with
    tag := "hk", protocol := "trojan", address := "hk.example.com", port := 443, password := "secret"
    subscriptionIdentity := "hk" }

/-- A subscription is put before the other outbounds, `direct` is deleted and seeded again. -/
def exampleReseeding : List StoreEvent :=
  [.operate (.createOutboundSubscription "" { (default : OutboundSubscriptionParams) with
      url := "https://example.com/sub", enabled := true, prepend := true }),
    .operate (.materializeSubscriptionOutbounds "" 1 [exampleNode] none), .operate (.deleteOutbound 1), .reopen]

def exampleReseededStore : Store :=
  arrive (restrict (fun event store => StoreEvent.keepsDirectFirst event store)
    (eventStep examplePlatform)) exampleReseeding Store.initial

theorem reseeded_direct_first :
    (listOutbounds exampleReseededStore).find? Outbound.enabled =
      some (loadOutbound { defaultOutbound "direct" "直接连接" "freedom" 0 with id := 5 }) :=
  (direct_stays_default (Reach.arrive_restrict (fun event store => StoreEvent.keepsDirectFirst event store)
    (eventStep examplePlatform) exampleReseeding Store.initial)
    (show _ ∈ exampleReseededStore.outbounds.rows by with_unfolding_all decide) (by with_unfolding_all decide)
    (by decide)).1

/-- After a reordering has moved `blocked` to the front, a re-opening puts the new `direct` behind it. -/
def exampleBlockedStore : Store :=
  arrive (eventStep examplePlatform) [.operate (.deleteOutbound 1), .operate (.reorderOutbounds []), .reopen]
    Store.initial

theorem blackhole_departs :
    ¬ ∀ (platform : Platform) (store : Store), Reach (Steps (eventStep platform)) Store.initial store →
      ∀ row ∈ store.outbounds.rows, row.place.direct = true → row.enabled = true →
        (listOutbounds store).find? Outbound.enabled = some (loadOutbound row) := by
  intro claimed
  have first := claimed examplePlatform exampleBlockedStore (Reach.arrive _ _ _)
    { defaultOutbound "direct" "直接连接" "freedom" 0 with id := 4 } (by decide) (by decide)
    (by decide)
  have blackhole : ((listOutbounds exampleBlockedStore).find? Outbound.enabled).map Outbound.protocol =
      some "blackhole" := by decide
  rw [first] at blackhole
  revert blackhole
  decide

end MiGate.Config
