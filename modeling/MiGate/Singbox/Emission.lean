import MiGate.Xray.Narrowing

namespace MiGate.Singbox

open Go Db Fallible MiGate.Config Relational Routing

variable {platform : Platform} {store : Store} {config : Config}

def Config.rules (config : Config) : List RouteRule :=
  config.route.getD []

/-- The rules of the generator's loop, each with the stored rule it comes from. -/
def emittedRules (store : Store) (rules : List RoutingRule) : List (RoutingRule × RouteRule) :=
  keptOf (buildRule (ruleMaps (listInbounds store)) (listInbounds store) (listOutbounds store)) rules

/-- The parts of a configuration that was built. -/
structure Built (platform : Platform) (store : Store) (opts : BuildOptions) (config : Config) : Prop where
  inbounds : config.inbounds =
    (listInbounds store).zipIdx.filterMap fun (inbound, i) => buildInbound platform inbound i
  outbounds : ∃ built, buildOutbounds platform (listOutbounds store) = .ok built ∧
    config.outbounds =
      if (systemRouteRules platform opts.managementDirect).isEmpty then built
      else ensureSystemOutbound OutboundConfig.tag (directOutbound systemDirectOutboundTag) built
  succeeds : ∀ rule ∈ listRoutingRules store, ∃ emitted,
    buildRule (ruleMaps (listInbounds store)) (listInbounds store) (listOutbounds store) rule = .ok emitted
  rules : config.rules = systemRouteRules platform opts.managementDirect ++
    (emittedRules store (listRoutingRules store)).map Prod.snd

theorem built_of_ok {opts : BuildOptions}
    (done : buildConfigWithOutboundsOptions platform (listInbounds store) (listOutbounds store)
      (listRoutingRules store) opts = .ok config) : Built platform store opts config := by
  simp only [buildConfigWithOutboundsOptions, bind_eq_ok, pure_eq_ok] at done
  obtain ⟨outbounds, builtOutbounds, emitted, builtRules, rfl⟩ := done
  refine ⟨rfl, ⟨outbounds, builtOutbounds, rfl⟩, mapM_succeeds builtRules, ?_⟩
  rw [emittedRules, keptOf_results builtRules]
  simp only [Config.rules]
  generalize systemRouteRules platform opts.managementDirect ++ emitted.filterMap id = rules
  cases rules <;> rfl

/-- The tag of the inbound that a stored rule names. -/
def sourceTags (store : Store) (rule : RoutingRule) : List String :=
  ((store.inbounds.find? rule.inboundID).map fun row => inboundStatsTag (listed store row).toInboundRow).toList

/-- What a stored rule is emitted as, given the outbound it leads to. -/
def emittedRule (store : Store) (rule : RoutingRule) (outbound : Outbound) : RouteRule where
  inbound := sourceTags store rule
  domain := if trimSpace rule.domain ≠ "" then splitRuleValues rule.domain else []
  ipCIDR := if trimSpace rule.ip ≠ "" then splitRuleValues rule.ip else []
  port := []
  protocol := if trimSpace rule.protocol ≠ "" then splitRuleValues rule.protocol else []
  outbound := generatedOutboundTag coreSingbox outbound.id rule.outboundTag

theorem buildRule_eq_some (inv : StoreInv store) {rule : RoutingRule} (member : rule ∈ store.routingRules.rows)
    {outbound : Outbound} (found : store.outbounds.find? rule.outboundID = some outbound) {emitted : RouteRule} :
    buildRule (ruleMaps (listInbounds store)) (listInbounds store) (listOutbounds store) rule =
        .ok (some emitted) ↔
      rule.enabled = true ∧ routingRuleAppliesToCore rule (listInbounds store) coreSingbox = true ∧
        outboundSupportsCore outbound coreSingbox = true ∧ isRemovedSingboxOutbound outbound = false ∧
          emittedRule store rule outbound = emitted := by
  have resolved := resolveRuleOutbound_eq found
  unfold buildRule
  by_cases active : rule.enabled = true ∧ routingRuleAppliesToCore rule (listInbounds store) coreSingbox = true
  · obtain ⟨enabled, applies⟩ := active
    have tags : Xray.ruleInbounds (ruleMaps (listInbounds store)).inboundTagsByID
        (ruleMaps (listInbounds store)).inboundAliases rule = some (sourceTags store rule) :=
      Xray.ruleInbounds_eq inv member normalizeCore_singbox applies _ _
    simp only [enabled, applies, Bool.not_true, Bool.or_self, Bool.false_eq_true, if_false, resolved, bind_eq_ok,
      expect_eq_ok, require_eq_ok, Option.some.injEq, exists_const, exists_eq_left', tags, true_and]
    cases removed : isRemovedSingboxOutbound outbound with
    | true =>
        have removedLoaded : isRemovedSingboxOutbound (loadOutbound outbound) = true := removed
        simp [removedLoaded]
    | false =>
        have present : isRemovedSingboxOutbound (loadOutbound outbound) = false := removed
        rw [present]
        simp only [Bool.false_eq_true, if_false, pure_eq_ok, Option.bind_eq_bind, Option.bind_some,
          Option.some.injEq, true_and]
        exact Iff.rfl
  · have skipped : (!rule.enabled || !routingRuleAppliesToCore rule (listInbounds store) coreSingbox) = true := by
      cases on : rule.enabled <;> simp_all
    rw [if_pos skipped]
    exact iff_of_false (by simp) fun claimed => active ⟨claimed.1, claimed.2.1⟩

end MiGate.Singbox
