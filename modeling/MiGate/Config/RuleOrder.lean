import MiGate.Config.References

namespace MiGate.Config

open Go Db Fallible Relational

/-! Which rules a configuration begins with, and the order of the ones that follow. -/

/-- The rules of the operator among those of a configuration, each with the rule it comes from. -/
structure UserRules {ρ : Type} (core : String) (inbounds : List Inbound) (rules : List RoutingRule)
    (build : RoutingRule → Except String (Option ρ)) (user : List (RoutingRule × ρ)) : Prop where
  subsequence : (user.map Prod.fst).Sublist
    (rules.filter fun rule => rule.enabled && routingRuleAppliesToCore rule inbounds core)
  emitted : ∀ rule result, (rule, result) ∈ user ↔ rule ∈ rules ∧ build rule = .ok (some result)
  ordered : rules.Pairwise ruleBefore → (user.map Prod.fst).Pairwise ruleBefore

section

variable {ρ ω : Type} {core : String} {inbounds : List Inbound} {rules : List RoutingRule}
  {build : RoutingRule → Except String (Option ρ)}

theorem keptOf_userRules (active : ∀ rule result, build rule = .ok (some result) →
    rule.enabled = true ∧ routingRuleAppliesToCore rule inbounds core = true) :
    UserRules core inbounds rules build (keptOf build rules) := by
  have subsequence : ((keptOf build rules).map Prod.fst).Sublist
      (rules.filter fun rule => rule.enabled && routingRuleAppliesToCore rule inbounds core) := by
    induction rules with
    | nil => exact List.Sublist.slnil
    | cons rule rest ih =>
        cases built : build rule with
        | error failure =>
            simp only [keptOf, List.filterMap_cons, built]
            exact ih.trans (List.Sublist.filter _ (List.sublist_cons_self rule rest))
        | ok result =>
            cases result with
            | none =>
                simp only [keptOf, List.filterMap_cons, built]
                exact ih.trans (List.Sublist.filter _ (List.sublist_cons_self rule rest))
            | some result =>
                obtain ⟨enabled, applies⟩ := active rule result built
                simp only [keptOf, List.filterMap_cons, built, List.map_cons, List.filter_cons, enabled, applies,
                  Bool.and_self, if_true]
                exact ih.cons_cons rule
  exact ⟨subsequence, fun _ _ => mem_keptOf, fun ordered => (ordered.sublist List.filter_sublist).sublist subsequence⟩

theorem mem_ensureSystemOutbound (tag : ω → String) (system : ω) (outbounds : List ω) :
    system ∈ ensureSystemOutbound tag system outbounds := by
  induction outbounds with
  | nil => exact List.mem_singleton_self system
  | cons outbound rest ih =>
      rw [ensureSystemOutbound]
      split
      · exact List.mem_cons_self
      · exact List.mem_cons_of_mem _ ih

/-- What the management configuration sends out directly. -/
def ManagementDirectOptions.Sends (platform : Platform) (opts : ManagementDirectOptions) : Prop :=
  opts.enabled = true ∧ normalizeManagementDirectHosts platform opts.hosts ≠ [] ∧
    normalizeManagementDirectPorts opts.ports ≠ []

theorem systemRules_eq_nil {platform : Platform} {opts : ManagementDirectOptions}
    (ipRule domainRule : List String → List Int → ρ) :
    systemRules (managementDirect platform opts) ipRule domainRule = [] ↔ ¬opts.Sends platform := by
  have split : ∀ hosts : List String, hosts.filter (isCIDROrIP platform) = [] →
      hosts.filter (fun host => !isCIDROrIP platform host) = [] → hosts = [] := by
    intro hosts noAddress noDomain
    rw [List.filter_eq_nil_iff] at noAddress noDomain
    refine List.eq_nil_iff_forall_not_mem.mpr fun host member => noDomain host member ?_
    simpa using noAddress host member
  unfold systemRules managementDirect ManagementDirectOptions.Sends
  generalize normalizeManagementDirectHosts platform opts.hosts = hosts
  generalize normalizeManagementDirectPorts opts.ports = ports
  by_cases sends : opts.enabled = true ∧ hosts ≠ [] ∧ ports ≠ []
  · obtain ⟨enabled, someHost, somePort⟩ := sends
    have busy : (!opts.enabled || hosts.isEmpty || ports.isEmpty) = false := by
      simp [enabled, someHost, somePort]
    simp only [busy, Bool.false_eq_true, if_false]
    refine iff_of_false (fun none => ?_) fun idle => idle ⟨enabled, someHost, somePort⟩
    obtain ⟨noAddress, noDomain⟩ := List.append_eq_nil_iff.mp none
    refine someHost (split hosts ?_ ?_)
    · by_contra some
      rw [if_neg (by simpa using some)] at noAddress
      cases noAddress
    · by_contra some
      rw [if_neg (by simpa using some)] at noDomain
      cases noDomain
  · have idle : (!opts.enabled || hosts.isEmpty || ports.isEmpty) = true := by
      by_contra busy
      simp only [Bool.or_eq_true, Bool.not_eq_true', List.isEmpty_iff, not_or, Bool.not_eq_false] at busy
      exact sends ⟨busy.1.1, busy.1.2, busy.2⟩
    simp only [idle, if_true]
    exact iff_of_true rfl sends

end

theorem listRoutingRules_ordered (store : Store) : (listRoutingRules store).Pairwise ruleBefore :=
  List.pairwise_insertionSort ruleBefore _

end MiGate.Config

namespace MiGate.Xray

open Go Db Fallible MiGate.Config

variable {platform : Platform} {inbounds : List Inbound} {outbounds : List Outbound} {rules : List Db.RoutingRule}
  {opts : ManagementDirectOptions} {config : Config}

theorem buildRule_active {maps : RuleMaps} (rule : Db.RoutingRule) (result : RoutingRule)
    (built : buildRule maps inbounds outbounds rule = .ok (some result)) :
    rule.enabled = true ∧ routingRuleAppliesToCore rule inbounds coreXray = true := by
  unfold buildRule at built
  split at built
  · rw [pure_eq_ok] at built
    cases built
  · rename_i active
    simpa using active

/-- The rules of the configuration, from the one for the statistics to those of the operator. -/
theorem rules_layout (done : buildConfigWithOutboundsOptions platform inbounds outbounds rules opts = .ok config) :
    config.rules = apiRule :: (systemRoutingRules platform opts ++
      (keptOf (buildRule (ruleMaps inbounds) inbounds outbounds) rules).map Prod.snd) := by
  simp only [buildConfigWithOutboundsOptions, bind_eq_ok, pure_eq_ok] at done
  obtain ⟨_, _, _, _, emitted, builtRules, rfl⟩ := done
  rw [keptOf_results builtRules]
  generalize systemRoutingRules platform opts ++ emitted.filterMap id = kept
  cases kept <;> rfl

/-- The outbound of the management rules stands among those of the configuration. -/
theorem systemOutbound_present
    (done : buildConfigWithOutboundsOptions platform inbounds outbounds rules opts = .ok config)
    {rule : RoutingRule} (system : rule ∈ systemRoutingRules platform opts) :
    ∃ outbound ∈ config.outbounds, outbound.tag = rule.outboundTag ∧ outbound.protocol = "freedom" := by
  simp only [buildConfigWithOutboundsOptions, bind_eq_ok, pure_eq_ok] at done
  obtain ⟨_, _, _, _, _, _, rfl⟩ := done
  have some : (systemRoutingRules platform opts).isEmpty = false := by
    rw [List.isEmpty_eq_false_iff]
    exact List.ne_nil_of_mem system
  have target : rule.outboundTag = systemDirectOutboundTag :=
    systemRules_target RoutingRule.outboundTag systemDirectOutboundTag (fun _ _ => rfl) (fun _ _ => rfl) system
  refine ⟨freedomOutbound systemDirectOutboundTag, ?_, target.symm, rfl⟩
  simp only [some, appendStatsAPIInbound]
  exact mem_ensureSystemOutbound _ _ _

end MiGate.Xray

namespace MiGate.Singbox

open Go Db Fallible MiGate.Config

variable {platform : Platform} {inbounds : List Inbound} {outbounds : List Outbound} {rules : List RoutingRule}
  {opts : BuildOptions} {config : Config}

theorem buildRule_active {maps : RuleMaps} (rule : RoutingRule) (result : RouteRule)
    (built : buildRule maps inbounds outbounds rule = .ok (some result)) :
    rule.enabled = true ∧ routingRuleAppliesToCore rule inbounds coreSingbox = true := by
  unfold buildRule at built
  split at built
  · rw [pure_eq_ok] at built
    cases built
  · rename_i active
    simpa using active

theorem rules_layout (done : buildConfigWithOutboundsOptions platform inbounds outbounds rules opts = .ok config) :
    config.rules = systemRouteRules platform opts.managementDirect ++
      (keptOf (buildRule (ruleMaps inbounds) inbounds outbounds) rules).map Prod.snd := by
  simp only [buildConfigWithOutboundsOptions, bind_eq_ok, pure_eq_ok] at done
  obtain ⟨_, _, emitted, builtRules, rfl⟩ := done
  rw [keptOf_results builtRules]
  simp only [Config.rules]
  generalize systemRouteRules platform opts.managementDirect ++ emitted.filterMap id = kept
  cases kept <;> rfl

theorem systemOutbound_present
    (done : buildConfigWithOutboundsOptions platform inbounds outbounds rules opts = .ok config)
    {rule : RouteRule} (system : rule ∈ systemRouteRules platform opts.managementDirect) :
    ∃ outbound ∈ config.outbounds, outbound.tag = rule.outbound ∧ outbound.type = "direct" := by
  simp only [buildConfigWithOutboundsOptions, bind_eq_ok, pure_eq_ok] at done
  obtain ⟨_, _, _, _, rfl⟩ := done
  have some : (systemRouteRules platform opts.managementDirect).isEmpty = false := by
    rw [List.isEmpty_eq_false_iff]
    exact List.ne_nil_of_mem system
  have target : rule.outbound = systemDirectOutboundTag :=
    systemRules_target RouteRule.outbound systemDirectOutboundTag (fun _ _ => rfl) (fun _ _ => rfl) system
  refine ⟨directOutbound systemDirectOutboundTag, ?_, target.symm, rfl⟩
  simp only [some]
  exact mem_ensureSystemOutbound _ _ _

end MiGate.Singbox

namespace MiGate.Config

open Go Db Fallible

/-- The rules of a configuration: the one of the statistics, those of the management, and then
those of the operator in the order they are given in. -/
theorem rule_order (platform : Platform) (inbounds : List Inbound) (outbounds : List Outbound)
    (rules : List RoutingRule) (opts : Singbox.BuildOptions) :
    (∀ config, Xray.buildConfigWithOutboundsOptions platform inbounds outbounds rules opts.managementDirect = .ok config →
      let system := Xray.systemRoutingRules platform opts.managementDirect
      ∃ user, config.rules = Xray.apiRule :: (system ++ user.map Prod.snd) ∧
        UserRules coreXray inbounds rules (Xray.buildRule (Xray.ruleMaps inbounds) inbounds outbounds) user ∧
        (system = [] ↔ ¬opts.managementDirect.Sends platform) ∧
        ∀ rule ∈ system, ∃ outbound ∈ config.outbounds, outbound.tag = rule.outboundTag ∧ outbound.protocol = "freedom") ∧
    (∀ config, Singbox.buildConfigWithOutboundsOptions platform inbounds outbounds rules opts = .ok config →
      let system := Singbox.systemRouteRules platform opts.managementDirect
      ∃ user, config.rules = system ++ user.map Prod.snd ∧
        UserRules coreSingbox inbounds rules (Singbox.buildRule (Singbox.ruleMaps inbounds) inbounds outbounds) user ∧
        (system = [] ↔ ¬opts.managementDirect.Sends platform) ∧
        ∀ rule ∈ system, ∃ outbound ∈ config.outbounds, outbound.tag = rule.outbound ∧ outbound.type = "direct") ∧
    ∀ store, (listRoutingRules store).Pairwise ruleBefore := by
  refine ⟨fun config done => ?_, fun config done => ?_, listRoutingRules_ordered⟩
  · exact ⟨_, Xray.rules_layout done, keptOf_userRules Xray.buildRule_active, systemRules_eq_nil _ _,
      fun rule system => Xray.systemOutbound_present done system⟩
  · exact ⟨_, Singbox.rules_layout done, keptOf_userRules Singbox.buildRule_active, systemRules_eq_nil _ _,
      fun rule system => Singbox.systemOutbound_present done system⟩

def exampleDirect : Outbound :=
  { (default : Outbound) with id := 1, tag := "direct", protocol := "freedom", enabled := true }

def exampleRule (id : Int) (domain : String) : RoutingRule :=
  { (default : RoutingRule) with
    id, sort := id, outboundID := 1, outboundTag := "direct", domain, enabled := true }

/-- A list that is not in order stays so: the generator does not sort. -/
theorem unsorted_rules_stay :
    ruleBefore (exampleRule 1 "a.example") (exampleRule 2 "b.example") ∧
      ¬ruleBefore (exampleRule 2 "b.example") (exampleRule 1 "a.example") ∧
      (Xray.buildConfigWithOutbounds examplePlatform [] [exampleDirect]
          [exampleRule 2 "b.example", exampleRule 1 "a.example"]).toOption.map
        (fun config => config.rules.map fun rule => rule.domain) = some [[], ["b.example"], ["a.example"]] := by
  with_unfolding_all decide

end MiGate.Config
