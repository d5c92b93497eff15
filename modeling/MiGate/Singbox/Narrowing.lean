import MiGate.Singbox.Emission

namespace MiGate.Singbox

open Go Db Fallible MiGate.Config Relational Routing Transition

variable {platform : Platform} {store : Store}

/-- Whether a connection matches a route rule of sing-box; the ports, which only the system rules
have, are left aside. -/
def Matches (rule : RouteRule) (connection : Connection) : Prop :=
  (rule.inbound = [] ∨ inboundStatsTag connection.inbound.toInboundRow ∈ rule.inbound) ∧
    Unless rule.domain connection.domain ∧ Unless rule.ipCIDR connection.ip ∧
    Unless rule.protocol connection.protocol

/-- Every emitted rule matches only connections that its stored rule selects. -/
def Narrows (selects : RoutingRule → Connection → Prop) (store : Store) : Prop :=
  ∀ pair ∈ emittedRules store (listRoutingRules store), ∀ connection : Connection,
    connection.Arrives store coreSingbox → Matches pair.2 connection → selects pair.1 connection

/-- The connections of the inbound that a stored rule names, or that its client belongs to. -/
def SelectsInbound (rule : RoutingRule) (connection : Connection) : Prop :=
  0 < rule.inboundID → connection.inbound.id = rule.inboundID

/-- The inbound a rule names is served by sing-box, and the client it names belongs to it. -/
def InboundServed (store : Store) (rule : RoutingRule) : Prop :=
  (0 < rule.inboundID → ∃ inbound ∈ Xray.servedInbounds coreSingbox (listInbounds store),
    inbound.id = rule.inboundID) ∧
    (0 < rule.clientID → ∃ inbound ∈ Xray.servedInbounds coreSingbox (listInbounds store),
      inbound.id = rule.inboundID ∧ ∃ client ∈ inbound.clients, client.id = rule.clientID)

theorem matches_inbound (inv : StoreInv store) {rule : RoutingRule} (member : rule ∈ store.routingRules.rows)
    {outbound : Outbound} {connection : Connection} (arrives : connection.Arrives store coreSingbox)
    (matched : Matches (emittedRule store rule outbound) connection) : SelectsInbound rule connection := by
  intro bound
  have tagged := matched.1
  obtain ⟨row, stored, same⟩ := Xray.arrived_inbound arrives
  have home : ∀ source, store.inbounds.find? rule.inboundID = some source →
      connection.inbound.id = rule.inboundID := by
    intro source found
    have named : source.id = rule.inboundID := Serial.id_of_find? found
    simp only [emittedRule, sourceTags, found, Option.map_some, Option.toList_some, List.cons_ne_nil, false_or,
      List.mem_singleton, ← same] at tagged
    rw [← same, ← named]
    exact inboundStatsTag_inj (store.inbounds.positive row stored)
      (store.inbounds.positive source (Serial.mem_of_find? found)) tagged
  cases inv.names member with
  | anything noInbound noClient untagged => omega
  | inbound source found noClient => exact home source found
  | client source client found clientFound belongs => exact home source found

/-- The rules of sing-box keep the inbound of the stored rules, and their lists of domains,
addresses and protocols that have elements. -/
theorem narrows (inv : StoreInv store) :
    Narrows (fun rule connection => SelectsInbound rule connection ∧ SelectsLists rule connection) store := by
  rintro ⟨rule, emitted⟩ pair connection arrives matched
  obtain ⟨listedRule, built⟩ := mem_keptOf.mp pair
  have member := mem_listRoutingRules.mp listedRule
  obtain ⟨outbound, found⟩ := inv.target member
  obtain ⟨_, _, _, _, rfl⟩ := (buildRule_eq_some inv member found).mp built
  refine ⟨matches_inbound inv member arrives matched, ?_⟩
  obtain ⟨_, domain, ip, protocol⟩ := matched
  have blank : ∀ text : String, ¬trimSpace text ≠ "" → splitRuleValues text = [] :=
    fun _ empty => splitRuleValues_blank (not_not.mp empty)
  exact ⟨domain.of_if (blank _), ip.of_if (blank _), protocol.of_if (blank _)⟩

theorem inboundServed (inv : StoreInv store) {rule : RoutingRule} (member : rule ∈ store.routingRules.rows)
    (applies : routingRuleAppliesToCore rule (listInbounds store) coreSingbox = true) :
    InboundServed store rule := by
  cases inv.names member with
  | anything noInbound noClient untagged => exact ⟨fun bound => by omega, fun bound => by omega⟩
  | inbound row found noClient =>
      have served := Xray.served_of_applies inv member normalizeCore_singbox applies found
      have home : row.id = rule.inboundID := Serial.id_of_find? found
      exact ⟨fun _ => ⟨_, served, home⟩, fun bound => by omega⟩
  | client row client found clientFound belongs =>
      have served := Xray.served_of_applies inv member normalizeCore_singbox applies found
      have home : row.id = rule.inboundID := Serial.id_of_find? found
      refine ⟨fun _ => ⟨_, served, home⟩, fun _ => ⟨_, served, home, client, ?_, Serial.id_of_find? clientFound⟩⟩
      exact List.mem_filter.mpr ⟨Serial.mem_of_find? clientFound, by simp [belongs, home]⟩

/-- An inbound with two clients, and a rule for the first of them. -/
def exampleClientOps : List StoreOp :=
  [.createInbound (exampleEntropy 1) { (default : CreateInboundParams) with
      protocol := "hysteria2", port := 20001
      initialClient := some { (default : CreateClientParams) with email := "one", enabled := some true } },
    .createClient (exampleEntropy 2) { (default : CreateClientParams) with
      inboundID := 1, email := "two", enabled := some true },
    .createRoutingRule { (default : RoutingRuleParams) with clientID := 1, outboundID := 1, enabled := true }]

def exampleClientStore : Store :=
  arrive (storeStep examplePlatform) exampleClientOps Store.initial

/-- The first client disabled, and besides its rule one for a rule set and one for a lone comma. -/
def exampleWideStore : Store :=
  arrive (storeStep examplePlatform)
    (exampleClientOps ++
      [.setClientEnabled 1 1 false,
        .createRoutingRule { (default : RoutingRuleParams) with
          outboundID := 1, ruleSet := "geosite-cn", enabled := true },
        .createRoutingRule { (default : RoutingRuleParams) with outboundID := 1, domain := ",", enabled := true }])
    Store.initial

/-- The configuration of a store promises something about the rules it was built from. -/
def Promised (promise : Store → Prop) : Prop :=
  ∀ (platform : Platform) (store : Store) (config : Config), Reachable platform store →
    buildConfigWithOutbounds platform (listInbounds store) (listOutbounds store) (listRoutingRules store) =
      .ok config → promise store

theorem Promised.wide {promise : Store → Prop} (promised : Promised promise) : promise exampleWideStore := by
  have built : (buildConfigWithOutbounds examplePlatform (listInbounds exampleWideStore)
      (listOutbounds exampleWideStore) (listRoutingRules exampleWideStore)).isOk = true := by
    with_unfolding_all decide
  obtain ⟨config, done⟩ := eq_ok_of_isOk built
  exact promised examplePlatform exampleWideStore config (Reach.arrive _ _ _) done

end MiGate.Singbox
