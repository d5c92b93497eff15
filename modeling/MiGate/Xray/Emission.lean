import MiGate.Config.Connection

namespace MiGate.Xray

open Go Db Fallible MiGate.Config Relational Routing

variable {platform : Platform} {store : Store} {config : Config}

/-! What a configuration consists of once it has been built. -/

def Config.rules (config : Config) : List RoutingRule :=
  match config.routing with
  | some routing => routing.rules
  | none => []

/-- The rules of the generator's loop, each with the stored rule it comes from. -/
def emittedRules (store : Store) (rules : List Db.RoutingRule) : List (Db.RoutingRule × RoutingRule) :=
  keptOf (buildRule (ruleMaps (listInbounds store)) (listInbounds store) (listOutbounds store)) rules

/-- The parts of a configuration that was built. -/
structure Built (platform : Platform) (store : Store) (opts : ManagementDirectOptions) (config : Config) :
    Prop where
  inbounds : ∃ built, config.inbounds = built ++ [apiInbound] ∧
    List.Forall₂ (fun inbound built => buildInbound platform inbound = .ok built)
      (servedInbounds coreXray (listInbounds store)) built
  outbounds : ∃ built, buildOutbounds platform (listOutbounds store) = .ok built ∧
    config.outbounds =
      if (systemRoutingRules platform opts).isEmpty then built
      else ensureSystemOutbound OutboundConfig.tag (freedomOutbound systemDirectOutboundTag) built
  succeeds : ∀ rule ∈ listRoutingRules store, ∃ emitted,
    buildRule (ruleMaps (listInbounds store)) (listInbounds store) (listOutbounds store) rule = .ok emitted
  rules : config.rules = apiRule :: (systemRoutingRules platform opts ++
    (emittedRules store (listRoutingRules store)).map Prod.snd)
  api : config.api = { tag := "api", services := ["StatsService"] }

theorem built_of_ok {opts : ManagementDirectOptions}
    (done : buildConfigWithOutboundsOptions platform (listInbounds store) (listOutbounds store)
      (listRoutingRules store) opts = .ok config) : Built platform store opts config := by
  simp only [buildConfigWithOutboundsOptions, bind_eq_ok, pure_eq_ok] at done
  obtain ⟨inbounds, builtInbounds, outbounds, builtOutbounds, emitted, builtRules, rfl⟩ := done
  refine ⟨⟨inbounds, rfl, mapM_eq_ok.mp builtInbounds⟩, ⟨outbounds, builtOutbounds, rfl⟩,
    mapM_succeeds builtRules, ?_, rfl⟩
  rw [emittedRules, keptOf_results builtRules]
  generalize systemRoutingRules platform opts ++ emitted.filterMap id = rules
  cases rules <;> rfl

/-! What the maps of the rule loop hold for the rules of a sound store. -/

theorem mem_servedInbounds {core : String} {inbound : Inbound} :
    inbound ∈ servedInbounds core (listInbounds store) ↔
      ∃ row ∈ store.inbounds.rows, inboundServes core (listed store row) = true ∧ listed store row = inbound := by
  rw [servedInbounds, List.mem_filter, mem_listInbounds]
  constructor
  · rintro ⟨⟨row, member, rfl⟩, serves⟩
    exact ⟨row, member, serves, rfl⟩
  · rintro ⟨row, member, serves, rfl⟩
    exact ⟨⟨row, member, rfl⟩, serves⟩

theorem find?_zero {ρ : Type} {id : ρ → Int} (table : Serial id) : table.find? 0 = none := by
  cases found : table.find? 0 with
  | none => rfl
  | some row => exact absurd (Serial.pos_of_find? found) (by decide)

/-- A rule that applies to a core finds the tag its inbound has there. -/
theorem ruleInbounds_eq (inv : StoreInv store) {rule : Db.RoutingRule} (member : rule ∈ store.routingRules.rows)
    {core : String} (normal : normalizeCore core = core)
    (applies : routingRuleAppliesToCore rule (listInbounds store) core = true) (tag : Inbound → String)
    (aliases : String → Option String) :
    ruleInbounds (lastWrite ((servedInbounds core (listInbounds store)).map fun inbound => (inbound.id, tag inbound)))
      aliases rule = some ((store.inbounds.find? rule.inboundID).map fun row => tag (listed store row)).toList := by
  have bound : ∀ row, store.inbounds.find? rule.inboundID = some row →
      ruleInbounds (lastWrite ((servedInbounds core (listInbounds store)).map fun inbound =>
        (inbound.id, tag inbound))) aliases rule = some [tag (listed store row)] := by
    intro row found
    have named : row.id = rule.inboundID := Serial.id_of_find? found
    have stored := Serial.mem_of_find? found
    rw [routingRuleAppliesToCore_iff inv member, normal, applies_bound_iff inv.rows found] at applies
    have written : lastWrite ((servedInbounds core (listInbounds store)).map fun inbound =>
        (inbound.id, tag inbound)) rule.inboundID = some (tag (listed store row)) := by
      apply lastWrite_eq
      · refine List.mem_map.mpr ⟨listed store row, mem_servedInbounds.mpr ⟨row, stored, applies, rfl⟩, ?_⟩
        rw [listed_id, named]
      · intro other inside
        obtain ⟨inbound, served, same⟩ := List.mem_map.mp inside
        obtain ⟨another, anotherStored, _, rfl⟩ := mem_servedInbounds.mp served
        simp only [listed_id, Prod.mk.injEq] at same
        rw [← same.2, Serial.eq_of_id_eq anotherStored stored (same.1.trans named.symm)]
    simp only [ruleInbounds, if_pos (Serial.pos_of_find? found), written, Option.map_some]
  cases inv.names member with
  | anything noInbound noClient untagged =>
      have blank : trimSpace "" = "" := trimSpace_empty
      simp [ruleInbounds, noInbound, untagged, blank, find?_zero]
  | inbound row found noClient => rw [bound row found, found]; rfl
  | client row client found clientFound belongs => rw [bound row found, found]; rfl

theorem clientRouteUser_spec {client : Client} (sound : client.Sound) (protocol : String) :
    clientRouteUser protocol client =
      (if toLower (trimSpace protocol) = "socks" ∨ toLower (trimSpace protocol) = "http" then client.credentialID
        else client.statsKey) ∧ trimSpace (clientRouteUser protocol client) ≠ "" := by
  have same : clientRouteUser protocol client =
      if toLower (trimSpace protocol) = "socks" ∨ toLower (trimSpace protocol) = "http" then client.credentialID
        else client.statsKey := by
    simp only [clientRouteUser, Client.credentialIDValue, clientStatsName, sound.credentialID, sound.statsKey,
      if_pos sound.credentialIDGiven, if_pos sound.statsKeyGiven, ne_eq]
  refine ⟨same, ?_⟩
  rw [same]
  split
  · rw [sound.credentialID]
    exact sound.credentialIDGiven
  · rw [sound.statsKey]
    exact sound.statsKeyGiven

/-- A rule is confined to its client, and left out if that is disabled. -/
theorem ruleUsers_eq (inv : StoreInv store) {rule : Db.RoutingRule} (member : rule ∈ store.routingRules.rows)
    (applies : routingRuleAppliesToCore rule (listInbounds store) coreXray = true) :
    ruleUsers (ruleMaps (listInbounds store)) rule =
      match store.inbounds.find? rule.inboundID, store.clients.find? rule.clientID with
      | some row, some client =>
          if client.enabled then some [clientRouteUser (toLower (trimSpace row.protocol)) client] else none
      | _, _ => some [] := by
  cases inv.names member with
  | anything noInbound noClient untagged => simp [ruleUsers, noInbound, noClient, find?_zero]
  | inbound row found noClient => simp [ruleUsers, noClient, find?_zero, found]
  | client row client found clientFound belongs =>
      have named : client.id = rule.clientID := Serial.id_of_find? clientFound
      have home : row.id = rule.inboundID := Serial.id_of_find? found
      have stored := Serial.mem_of_find? clientFound
      rw [routingRuleAppliesToCore_iff inv member, normalizeCore_xray, applies_bound_iff inv.rows found] at applies
      have written : ∀ value, (rule.clientID, value) ∈ (servedInbounds coreXray (listInbounds store)).flatMap
          (fun inbound => (enabledClients inbound.clients).map fun client =>
            (client.id, client, toLower (trimSpace inbound.protocol))) →
          client.enabled = true ∧ value = (client, toLower (trimSpace row.protocol)) := by
        intro value inside
        obtain ⟨inbound, served, listing⟩ := List.mem_flatMap.mp inside
        obtain ⟨other, kept, same⟩ := List.mem_map.mp listing
        obtain ⟨another, anotherStored, _, rfl⟩ := mem_servedInbounds.mp served
        obtain ⟨present, enabled⟩ := List.mem_filter.mp kept
        obtain ⟨otherStored, there⟩ := List.mem_filter.mp present
        rw [Prod.mk.injEq] at same
        have equal : other = client := Serial.eq_of_id_eq otherStored stored (same.1.trans named.symm)
        rw [beq_iff_eq, equal, belongs, ← home] at there
        have rowEqual := Serial.eq_of_id_eq anotherStored (Serial.mem_of_find? found) there.symm
        rw [equal] at enabled
        exact ⟨enabled, by rw [← same.2, equal, rowEqual]; rfl⟩
      simp only [ruleUsers, if_pos (Serial.pos_of_find? clientFound), found, clientFound, ruleMaps]
      cases enabled : client.enabled with
      | false =>
          rw [lastWrite_eq_none fun value inside => absurd (written value inside).1 (by simp [enabled])]
          rfl
      | true =>
          have given := (clientRouteUser_spec (inv.rows.clients client stored)
            (toLower (trimSpace row.protocol))).2
          have inside : (rule.clientID, client, toLower (trimSpace row.protocol)) ∈
              (servedInbounds coreXray (listInbounds store)).flatMap fun inbound =>
                (enabledClients inbound.clients).map fun client =>
                  (client.id, client, toLower (trimSpace inbound.protocol)) := by
            refine List.mem_flatMap.mpr ⟨listed store row, mem_servedInbounds.mpr
              ⟨row, Serial.mem_of_find? found, applies, rfl⟩, List.mem_map.mpr ⟨client, ?_, ?_⟩⟩
            · exact List.mem_filter.mpr ⟨List.mem_filter.mpr ⟨stored, by simp [belongs, home]⟩, enabled⟩
            · rw [named]
              rfl
          rw [lastWrite_eq inside fun other member => (written other member).2]
          simp [given]

/-- The users of the client that a stored rule names. -/
def routeUsers (store : Store) (rule : Db.RoutingRule) : List String :=
  match store.inbounds.find? rule.inboundID, store.clients.find? rule.clientID with
  | some row, some client => [clientRouteUser (toLower (trimSpace row.protocol)) client]
  | _, _ => []

/-- The tag of the inbound that a stored rule names. -/
def sourceTags (store : Store) (rule : Db.RoutingRule) : List String :=
  ((store.inbounds.find? rule.inboundID).map fun row =>
    generatedInboundTag (listed store row).toInboundRow).toList

/-- If a stored rule names a client, it is enabled. -/
def ClientEnabled (store : Store) (rule : Db.RoutingRule) : Prop :=
  ∀ client ∈ store.clients.find? rule.clientID, client.enabled = true

theorem ruleUsers_eq_some (inv : StoreInv store) {rule : Db.RoutingRule}
    (member : rule ∈ store.routingRules.rows)
    (applies : routingRuleAppliesToCore rule (listInbounds store) coreXray = true) {user : List String} :
    ruleUsers (ruleMaps (listInbounds store)) rule = some user ↔
      ClientEnabled store rule ∧ routeUsers store rule = user := by
  rw [ruleUsers_eq inv member applies]
  cases inv.names member with
  | anything noInbound noClient untagged =>
      simp [ClientEnabled, routeUsers, noInbound, noClient, find?_zero]
  | inbound row found noClient => simp [ClientEnabled, routeUsers, noClient, find?_zero, found]
  | client row client found clientFound belongs =>
      cases enabled : client.enabled with
      | false => simp [ClientEnabled, routeUsers, found, clientFound, enabled]
      | true => simp [ClientEnabled, routeUsers, found, clientFound, enabled]

/-- What a stored rule is emitted as, given the outbound it leads to. -/
def emittedRule (store : Store) (rule : Db.RoutingRule) (outbound : Outbound) : RoutingRule where
  inboundTag := sourceTags store rule
  user := routeUsers store rule
  domain := if rule.domain ≠ "" then splitRuleValues rule.domain else []
  ip := if rule.ip ≠ "" then splitRuleValues rule.ip else []
  port := ""
  protocol := if rule.protocol ≠ "" then splitRuleValues rule.protocol else []
  outboundTag := generatedOutboundTag coreXray outbound.id rule.outboundTag

theorem buildRule_eq_some (inv : StoreInv store) {rule : Db.RoutingRule} (member : rule ∈ store.routingRules.rows)
    {outbound : Outbound} (found : store.outbounds.find? rule.outboundID = some outbound) {emitted : RoutingRule} :
    buildRule (ruleMaps (listInbounds store)) (listInbounds store) (listOutbounds store) rule =
        .ok (some emitted) ↔
      rule.enabled = true ∧ routingRuleAppliesToCore rule (listInbounds store) coreXray = true ∧
        ClientEnabled store rule ∧ outboundSupportsCore outbound coreXray = true ∧
          emittedRule store rule outbound = emitted := by
  have resolved := resolveRuleOutbound_eq found
  unfold buildRule
  by_cases active : rule.enabled = true ∧ routingRuleAppliesToCore rule (listInbounds store) coreXray = true
  · obtain ⟨enabled, applies⟩ := active
    have tags : ruleInbounds (ruleMaps (listInbounds store)).inboundTagsByID
        (ruleMaps (listInbounds store)).inboundTagAliases rule = some (sourceTags store rule) :=
      ruleInbounds_eq inv member normalizeCore_xray applies _ _
    simp only [enabled, applies, Bool.not_true, Bool.or_self, Bool.false_eq_true, if_false, resolved, bind_eq_ok,
      expect_eq_ok, require_eq_ok, pure_eq_ok, Option.some.injEq, exists_const, exists_eq_left', tags,
      Option.bind_eq_bind, Option.bind_some, Option.bind_eq_some_iff, ruleUsers_eq_some inv member applies,
      true_and]
    constructor
    · rintro ⟨supported, _, ⟨clientEnabled, rfl⟩, rfl⟩
      exact ⟨clientEnabled, supported, rfl⟩
    · rintro ⟨clientEnabled, supported, rfl⟩
      exact ⟨supported, _, ⟨clientEnabled, rfl⟩, rfl⟩
  · have skipped : (!rule.enabled || !routingRuleAppliesToCore rule (listInbounds store) coreXray) = true := by
      cases on : rule.enabled <;> simp_all
    rw [if_pos skipped]
    refine iff_of_false (by simp) fun claimed => active ⟨claimed.1, claimed.2.1⟩

end MiGate.Xray
