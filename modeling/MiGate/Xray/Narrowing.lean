import MiGate.Config.Tags
import MiGate.Xray.Emission

namespace MiGate.Xray

open Go Db Fallible MiGate.Config Relational Routing Transition

variable {platform : Platform} {store : Store}

/-- Whether a connection matches a rule of Xray; the ports, which only the system rules have,
are left aside. -/
def Matches (rule : RoutingRule) (connection : Connection) : Prop :=
  (rule.inboundTag = [] ∨ generatedInboundTag connection.inbound.toInboundRow ∈ rule.inboundTag) ∧
    (rule.user = [] ∨ ∃ client ∈ connection.client,
      clientRouteUser (toLower (trimSpace connection.inbound.protocol)) client ∈ rule.user) ∧
    Unless rule.domain connection.domain ∧ Unless rule.ip connection.ip ∧
    Unless rule.protocol connection.protocol

/-- Every emitted rule matches only connections that its stored rule selects. -/
def Narrows (selects : Db.RoutingRule → Connection → Prop) (store : Store) : Prop :=
  ∀ pair ∈ emittedRules store (listRoutingRules store), ∀ connection : Connection,
    connection.Arrives store coreXray → Matches pair.2 connection → selects pair.1 connection

theorem arrived_inbound {core : String} {connection : Connection} (arrives : connection.Arrives store core) :
    ∃ row ∈ store.inbounds.rows, listed store row = connection.inbound := by
  obtain ⟨row, stored, _, same⟩ := mem_servedInbounds.mp arrives.1
  exact ⟨row, stored, same⟩

/-- A connection's client is one of the clients stored for its inbound. -/
theorem arrived_client {core : String} {connection : Connection} {client : Client}
    (arrives : connection.Arrives store core) (present : client ∈ connection.client) :
    client ∈ store.clients.rows ∧ client.inboundID = connection.inbound.id := by
  obtain ⟨row, stored, same⟩ := arrived_inbound arrives
  have inside := (List.mem_filter.mp (arrives.2 client present)).1
  rw [← same] at inside ⊢
  obtain ⟨clientStored, belongs⟩ := List.mem_filter.mp inside
  exact ⟨clientStored, by simpa using belongs⟩

/-- Clients are told apart by the name Xray knows them under. -/
theorem clientRouteUser_inj (rows : RowsSound store) {left right : Client} (leftStored : left ∈ store.clients.rows)
    (rightStored : right ∈ store.clients.rows) {protocol : String}
    (same : clientRouteUser protocol left = clientRouteUser protocol right) : left = right := by
  rw [(clientRouteUser_spec (rows.clients left leftStored) protocol).1,
    (clientRouteUser_spec (rows.clients right rightStored) protocol).1] at same
  split at same
  · exact List.inj_on_of_nodup_map rows.credentialIDs leftStored rightStored same
  · exact List.inj_on_of_nodup_map rows.statsKeys leftStored rightStored same

theorem matches_source (inv : StoreInv store) {rule : Db.RoutingRule} (member : rule ∈ store.routingRules.rows)
    {outbound : Outbound} {connection : Connection} (arrives : connection.Arrives store coreXray)
    (matched : Matches (emittedRule store rule outbound) connection) : SelectsSource rule connection := by
  obtain ⟨tagged, used, _⟩ := matched
  simp only [emittedRule, sourceTags, routeUsers] at tagged used
  obtain ⟨row, stored, same⟩ := arrived_inbound arrives
  have home : ∀ source, store.inbounds.find? rule.inboundID = some source →
      connection.inbound.id = rule.inboundID := by
    intro source found
    have named : source.id = rule.inboundID := Serial.id_of_find? found
    simp only [found, Option.map_some, Option.toList_some, List.cons_ne_nil, false_or, List.mem_singleton,
      ← same] at tagged
    rw [← same, ← named]
    exact generatedInboundTag_inj (store.inbounds.positive row stored)
      (store.inbounds.positive source (Serial.mem_of_find? found)) tagged
  cases inv.names member with
  | anything noInbound noClient untagged => exact ⟨fun bound => by omega, fun bound => by omega⟩
  | inbound source found noClient => exact ⟨fun _ => home source found, fun bound => by omega⟩
  | client source client found clientFound belongs =>
      refine ⟨fun _ => home source found, fun _ => ?_⟩
      have arrivedAt := home source found
      have named : source.id = rule.inboundID := Serial.id_of_find? found
      rw [← same, listed_id, ← named] at arrivedAt
      have rowEqual := Serial.eq_of_id_eq stored (Serial.mem_of_find? found) arrivedAt
      simp only [found, clientFound, List.cons_ne_nil, false_or, List.mem_singleton, ← same, rowEqual] at used
      obtain ⟨other, present, sameUser⟩ := used
      refine ⟨other, present, ?_⟩
      have clientStored := Serial.mem_of_find? clientFound
      rw [clientRouteUser_inj inv.rows (arrived_client arrives present).1 clientStored sameUser]
      exact Serial.id_of_find? clientFound

/-- Xray's rules keep the inbound and the client of the stored rules, and their lists of domains,
addresses and protocols that have elements. -/
theorem narrows (inv : StoreInv store) :
    Narrows (fun rule connection => SelectsSource rule connection ∧ SelectsLists rule connection) store := by
  rintro ⟨rule, emitted⟩ pair connection arrives matched
  obtain ⟨listedRule, built⟩ := mem_keptOf.mp pair
  have member := mem_listRoutingRules.mp listedRule
  obtain ⟨outbound, found⟩ := inv.target member
  obtain ⟨_, _, _, _, rfl⟩ := (buildRule_eq_some inv member found).mp built
  refine ⟨matches_source inv member arrives matched, ?_⟩
  obtain ⟨_, _, domain, ip, protocol⟩ := matched
  have blank : ∀ text : String, ¬text ≠ "" → splitRuleValues text = [] := by
    intro text empty
    rw [not_not.mp empty]
    with_unfolding_all decide
  exact ⟨domain.of_if (blank _), ip.of_if (blank _), protocol.of_if (blank _)⟩

/-- The inbound of a rule that applies to a core is one that the core serves. -/
theorem served_of_applies (inv : StoreInv store) {rule : Db.RoutingRule} (member : rule ∈ store.routingRules.rows)
    {core : String} (normal : normalizeCore core = core)
    (applies : routingRuleAppliesToCore rule (listInbounds store) core = true) {row : InboundRow}
    (found : store.inbounds.find? rule.inboundID = some row) :
    listed store row ∈ servedInbounds core (listInbounds store) := by
  rw [routingRuleAppliesToCore_iff inv member, normal, applies_bound_iff inv.rows found] at applies
  exact mem_servedInbounds.mpr ⟨row, Serial.mem_of_find? found, applies, rfl⟩

theorem sourceServed (inv : StoreInv store) {rule : Db.RoutingRule} (member : rule ∈ store.routingRules.rows)
    (applies : routingRuleAppliesToCore rule (listInbounds store) coreXray = true)
    (enabled : ClientEnabled store rule) : SourceServed store coreXray rule := by
  cases inv.names member with
  | anything noInbound noClient untagged => exact ⟨fun bound => by omega, fun bound => by omega⟩
  | inbound row found noClient =>
      have served := served_of_applies inv member normalizeCore_xray applies found
      have home : row.id = rule.inboundID := Serial.id_of_find? found
      exact ⟨fun _ => ⟨_, served, home⟩, fun bound => by omega⟩
  | client row client found clientFound belongs =>
      have served := served_of_applies inv member normalizeCore_xray applies found
      have home : row.id = rule.inboundID := Serial.id_of_find? found
      refine ⟨fun _ => ⟨_, served, home⟩, fun _ => ⟨_, served, client, ?_, Serial.id_of_find? clientFound⟩⟩
      refine List.mem_filter.mpr ⟨List.mem_filter.mpr ⟨Serial.mem_of_find? clientFound, ?_⟩, enabled _ clientFound⟩
      simp [belongs, home]

/-- Every rule of a built configuration that comes from a stored rule matches only connections of
its inbound and its client that fall under its lists, as far as these have elements; a rule
whose inbound or client is not served is left out. -/
theorem emitted_rules_narrow (platform : Platform) (store : Store) (reachable : Reachable platform store)
    (opts : ManagementDirectOptions) (config : Config)
    (done : buildConfigWithOutboundsOptions platform (listInbounds store) (listOutbounds store)
      (listRoutingRules store) opts = .ok config) :
    config.rules = apiRule :: (systemRoutingRules platform opts ++
        (emittedRules store (listRoutingRules store)).map Prod.snd) ∧
      (∀ pair ∈ emittedRules store (listRoutingRules store),
        pair.1 ∈ listRoutingRules store ∧ pair.1.enabled = true ∧ SourceServed store coreXray pair.1) ∧
      Narrows (fun rule connection => SelectsSource rule connection ∧ SelectsLists rule connection) store := by
  have inv := reachable.inv
  refine ⟨(built_of_ok done).rules, ?_, narrows inv⟩
  rintro ⟨rule, emitted⟩ pair
  obtain ⟨listedRule, built⟩ := mem_keptOf.mp pair
  have member := mem_listRoutingRules.mp listedRule
  obtain ⟨outbound, found⟩ := inv.target member
  obtain ⟨enabled, applies, clientEnabled, _⟩ := (buildRule_eq_some inv member found).mp built
  exact ⟨listedRule, enabled, sourceServed inv member applies clientEnabled⟩

/-- An inbound with a client, and a rule for that client alone. -/
def exampleClientStore : Store :=
  arrive (storeStep examplePlatform)
    [.createInbound (exampleEntropy 1) { (default : CreateInboundParams) with
        protocol := "socks", port := 20001
        initialClient := some { (default : CreateClientParams) with email := "user", enabled := some true } },
      .createRoutingRule { (default : RoutingRuleParams) with
        clientID := 1, outboundID := 1, domain := "example.com, example.net", enabled := true }]
    Store.initial

theorem emitted_rules_narrow_client :
    ∃ config, buildConfigWithOutboundsOptions examplePlatform (listInbounds exampleClientStore)
        (listOutbounds exampleClientStore) (listRoutingRules exampleClientStore) default = .ok config ∧
      (emittedRules exampleClientStore (listRoutingRules exampleClientStore)).length = 1 ∧
      (∀ pair ∈ emittedRules exampleClientStore (listRoutingRules exampleClientStore),
        SourceServed exampleClientStore coreXray pair.1) ∧
      Narrows (fun rule connection => SelectsSource rule connection ∧ SelectsLists rule connection)
        exampleClientStore := by
  have reachable : Reachable examplePlatform exampleClientStore := Reach.arrive _ _ _
  have built : (buildConfigWithOutboundsOptions examplePlatform (listInbounds exampleClientStore)
      (listOutbounds exampleClientStore) (listRoutingRules exampleClientStore) default).isOk = true := by
    with_unfolding_all decide
  obtain ⟨config, done⟩ := eq_ok_of_isOk built
  obtain ⟨_, served, narrow⟩ := emitted_rules_narrow examplePlatform exampleClientStore reachable default config done
  exact ⟨config, done, by with_unfolding_all decide, fun pair member => (served pair member).2.2, narrow⟩

/-- An inbound, a rule for the domains of a rule set, and one whose list of domains is a lone comma. -/
def exampleWideStore : Store :=
  arrive (storeStep examplePlatform)
    [exampleInbound 1 "socks" 20001,
      .createRoutingRule { (default : RoutingRuleParams) with outboundID := 1, ruleSet := "geosite-cn", enabled := true },
      .createRoutingRule { (default : RoutingRuleParams) with outboundID := 2, domain := ",", enabled := true }]
    Store.initial

def exampleRuleSetRule : Db.RoutingRule :=
  { (default : Db.RoutingRule) with
    id := 1, outboundID := 1, outboundTag := "direct", ruleSet := "geosite-cn", enabled := true, sort := 0 }

def exampleCommaRule : Db.RoutingRule :=
  { (default : Db.RoutingRule) with
    id := 2, outboundID := 2, outboundTag := "blocked", domain := ",", enabled := true, sort := 1 }

/-- A connection that falls under no domain and no rule set. -/
def Bare (connection : Connection) : Prop :=
  (∀ entry, ¬connection.domain entry) ∧ ∀ entry, ¬connection.ruleSet entry

/-- A rule that is emitted with nothing but its outbound matches every connection. -/
theorem catchAll_widens {selects : Db.RoutingRule → Connection → Prop} (narrow : Narrows selects store)
    (served : servedInbounds coreXray (listInbounds store) ≠ []) {rule : Db.RoutingRule} {outboundTag : String}
    (emitted : (rule, { (default : RoutingRule) with outboundTag }) ∈ emittedRules store (listRoutingRules store)) :
    ∃ connection, Bare connection ∧ selects rule connection := by
  obtain ⟨inbound, member⟩ := List.exists_mem_of_ne_nil _ served
  refine ⟨⟨inbound, none, fun _ => False, fun _ => False, fun _ => False, fun _ => False⟩,
    ⟨fun _ => id, fun _ => id⟩, ?_⟩
  refine narrow _ emitted _ ⟨member, fun _ present => nomatch present⟩ ?_
  exact ⟨.inl rfl, .inl rfl, .inl rfl, .inl rfl, .inl rfl⟩

theorem rule_set_and_blank_list_widen :
    (¬ ∀ (platform : Platform) (store : Store) (config : Config), Reachable platform store →
      buildConfigWithOutbounds platform (listInbounds store) (listOutbounds store) (listRoutingRules store) =
        .ok config → Narrows Selects store) ∧
    ¬ ∀ (platform : Platform) (store : Store) (config : Config), Reachable platform store →
      buildConfigWithOutbounds platform (listInbounds store) (listOutbounds store) (listRoutingRules store) =
        .ok config → Narrows SelectsStored store := by
  have reachable : Reachable examplePlatform exampleWideStore := Reach.arrive _ _ _
  have built : (buildConfigWithOutbounds examplePlatform (listInbounds exampleWideStore)
      (listOutbounds exampleWideStore) (listRoutingRules exampleWideStore)).isOk = true := by
    with_unfolding_all decide
  have served : servedInbounds coreXray (listInbounds exampleWideStore) ≠ [] := by
    with_unfolding_all decide
  obtain ⟨config, done⟩ := eq_ok_of_isOk built
  constructor
  · intro claimed
    have emitted : (exampleRuleSetRule, { (default : RoutingRule) with outboundTag := "xray-out-1" }) ∈
        emittedRules exampleWideStore (listRoutingRules exampleWideStore) := by
      with_unfolding_all decide
    obtain ⟨connection, bare, _, ruleSet⟩ := catchAll_widens (claimed _ _ config reachable done) served emitted
    obtain ⟨entry, _, falls⟩ := ruleSet (by decide)
    exact bare.2 entry falls
  · intro claimed
    have emitted : (exampleCommaRule, { (default : RoutingRule) with outboundTag := "xray-out-2" }) ∈
        emittedRules exampleWideStore (listRoutingRules exampleWideStore) := by
      with_unfolding_all decide
    obtain ⟨connection, bare, _, domain, _⟩ := catchAll_widens (claimed _ _ config reachable done) served emitted
    obtain ⟨entry, _, falls⟩ := domain (by decide)
    exact bare.1 entry falls

end MiGate.Xray
