import MiGate.Db.Refinement
import MiGate.Singbox.Config

namespace MiGate.Config

open Go Db Fallible Relational Routing Transition

variable {platform : Platform} {store : Store}

/-! Generation fails only over a rule that leads to an outbound its core does not have. -/

/-- The rule loops have an outbound to work with, and their core supports it. -/
theorem rule_target (inv : StoreInv store) (compatible : RulesCompatible store) {core : String}
    (normal : normalizeCore core = core) {rule : RoutingRule} (member : rule ∈ listRoutingRules store)
    (enabled : rule.enabled = true) (applies : routingRuleAppliesToCore rule (listInbounds store) core = true) :
    ∃ outbound, resolveRuleOutbound rule (listOutbounds store) = some outbound ∧
      outboundSupportsCore outbound core = true := by
  rw [mem_listRoutingRules] at member
  obtain ⟨row, found⟩ := inv.target member
  have named : row.id = rule.outboundID := Serial.id_of_find? found
  refine ⟨loadOutbound row, resolveRuleOutbound_eq found, ?_⟩
  rw [routingRuleAppliesToCore_iff inv member, normal] at applies
  refine compatible rule.link (List.mem_map_of_mem member) enabled core applies row.protocol ?_
  exact List.mem_map.mpr ⟨row, Serial.mem_of_find? found, Prod.ext named rfl⟩

/-- Every protocol a core supports is one its generator knows. -/
theorem supported_protocols {outbound : Outbound} {core : String}
    (supported : outboundSupportsCore outbound core = true) :
    normalizeOutboundProtocol outbound.protocol ∈ sharedOutboundProtocols ++ builtinOutboundProtocols ∨
      normalizeCore core = coreSingbox ∧ normalizeOutboundProtocol outbound.protocol ∈ singboxOnlyOutboundProtocols := by
  simp only [outboundSupportsCore, outboundProtocolSupportedCores] at supported
  split_ifs at supported with shared only
  · exact .inl (List.mem_append.mpr shared)
  · refine .inr ⟨?_, only⟩
    simp only [supportsCore, List.any_cons, List.any_nil, Bool.or_false, beq_iff_eq,
      normalizeCore_singbox] at supported
    exact supported.symm
  · cases supported

/-- Normalization leaves none of the aliases. -/
theorem normalizeOutboundProtocol_plain (protocol : String) :
    normalizeOutboundProtocol protocol ∉ ["socks5", "direct", "block"] := by
  intro member
  have again := normalizeOutboundProtocol_idempotent protocol
  generalize normalizeOutboundProtocol protocol = token at member again
  have moves : ∀ token ∈ ["socks5", "direct", "block"], normalizeOutboundProtocol token ≠ token := by
    with_unfolding_all decide
  exact moves token member again

theorem xray_outbound_builds {row : Outbound} (sound : row.Sound)
    (supported : outboundSupportsCore (loadOutbound row) coreXray = true) :
    ∃ config, Xray.buildOutbound platform (loadOutbound row) = .ok config := by
  have valid : validateOutboundProfile (loadOutbound row) = .ok () := sound.profile
  have built : ∃ settings, Xray.buildOutboundSettings platform
      (normalizeOutboundProtocol (loadOutbound row).protocol) (loadOutbound row) = some settings := by
    have plain := normalizeOutboundProtocol_plain (loadOutbound row).protocol
    rcases supported_protocols supported with known | ⟨wrong, _⟩
    · generalize normalizeOutboundProtocol (loadOutbound row).protocol = protocol at known plain
      simp only [sharedOutboundProtocols, builtinOutboundProtocols, List.cons_append, List.nil_append,
        List.mem_cons, List.not_mem_nil, or_false, not_or] at known plain
      rcases known with rfl | rfl | rfl | rfl | rfl | rfl | rfl | rfl | rfl | rfl | rfl | rfl <;>
        first | exact ⟨_, rfl⟩ | simp at plain
    · rw [normalizeCore_xray] at wrong
      exact absurd wrong coreXray_ne_coreSingbox
  obtain ⟨⟨protocol, settings, stream⟩, some⟩ := built
  exact ⟨_, by simp only [Xray.buildOutbound, bind_eq_ok, expect_eq_ok, pure_eq_ok]; exact ⟨(), valid, _, some, rfl⟩⟩

/-- A stored inbound of Xray has a protocol that its generator knows. -/
theorem xray_inbound_settings {row : InboundRow} (sound : row.Sound) (core : row.core = coreXray)
    (inbound : Inbound) :
    ∃ settings, Xray.buildInboundSettings platform (toLower (trimSpace row.protocol)) inbound = some settings := by
  have protocols : ∀ capability ∈ inboundCapabilities, capability.core = coreXray →
      toLower (trimSpace capability.protocol) ∈ ["vless", "vmess", "trojan", "shadowsocks", "socks", "http"] := by
    with_unfolding_all decide
  obtain ⟨capability, member, named, served⟩ := sound.capability
  have known := protocols capability member (served.trans core)
  rw [named] at known
  generalize toLower (trimSpace row.protocol) = protocol at known
  simp only [List.mem_cons, List.not_mem_nil, or_false] at known
  rcases known with rfl | rfl | rfl | rfl | rfl | rfl <;> exact ⟨_, rfl⟩

theorem xray_inbound_builds (inv : StoreInv store) {inbound : Inbound}
    (served : inbound ∈ Xray.servedInbounds coreXray (listInbounds store)) :
    ∃ config, Xray.buildInbound platform inbound = .ok config := by
  obtain ⟨member, serves⟩ := List.mem_filter.mp served
  obtain ⟨row, stored, rfl⟩ := mem_listInbounds.mp member
  have sound := inv.rows.inbounds row stored
  have core := ((inboundServes_listed sound coreXray).mp serves).2
  obtain ⟨⟨settings, stream⟩, built⟩ : ∃ settings, Xray.buildInboundSettings platform
      (toLower (trimSpace row.protocol)) (listed store row) = some settings := xray_inbound_settings sound core _
  simp only [Xray.buildInbound, bind_eq_ok, require_eq_ok, expect_eq_ok, pure_eq_ok, listed,
    sound.loadInbound_eq, Bool.and_eq_true, decide_eq_true_eq]
  exact ⟨_, (), sound.port, _, built, rfl⟩

theorem xray_buildRule_ok (inv : StoreInv store) (compatible : RulesCompatible store) {rule : RoutingRule}
    (maps : Xray.RuleMaps) (member : rule ∈ listRoutingRules store) :
    ∃ emitted, Xray.buildRule maps (listInbounds store) (listOutbounds store) rule = .ok emitted := by
  unfold Xray.buildRule
  by_cases skipped : (!rule.enabled || !routingRuleAppliesToCore rule (listInbounds store) coreXray) = true
  · exact ⟨none, if_pos skipped⟩
  · rw [if_neg skipped]
    simp only [Bool.or_eq_true, Bool.not_eq_true', not_or, Bool.not_eq_false] at skipped
    obtain ⟨outbound, resolved, supported⟩ :=
      rule_target inv compatible normalizeCore_xray member skipped.1 skipped.2
    simp only [bind_eq_ok, expect_eq_ok, require_eq_ok, pure_eq_ok]
    exact ⟨_, outbound, resolved, (), supported, rfl⟩

/-- Xray's configuration of a compatible store is built, whatever is managed directly. -/
theorem xray_builds (inv : StoreInv store) (compatible : RulesCompatible store) (opts : ManagementDirectOptions) :
    ∃ config, Xray.buildConfigWithOutboundsOptions platform (listInbounds store) (listOutbounds store)
      (listRoutingRules store) opts = .ok config := by
  have inboundsBuild : ∀ inbound ∈ Xray.servedInbounds coreXray (listInbounds store),
      ∃ config, Xray.buildInbound platform inbound = .ok config :=
    fun _ served => xray_inbound_builds inv served
  obtain ⟨inbounds, builtInbounds⟩ := mapM_isOk inboundsBuild
  have outboundsBuild : ∀ outbound ∈ (listOutbounds store).filter fun ob =>
      ob.enabled && outboundSupportsCore ob coreXray, ∃ config, Xray.buildOutbound platform outbound = .ok config := by
    intro outbound kept
    obtain ⟨member, usable⟩ := List.mem_filter.mp kept
    obtain ⟨row, stored, rfl⟩ := mem_listOutbounds.mp member
    rw [Bool.and_eq_true] at usable
    exact xray_outbound_builds (inv.rows.outbounds row stored) usable.2
  obtain ⟨outbounds, builtOutbounds⟩ := mapM_isOk outboundsBuild
  obtain ⟨rules, builtRules⟩ := mapM_isOk fun rule member =>
    xray_buildRule_ok inv compatible (Xray.ruleMaps (listInbounds store)) member
  simp only [Xray.buildConfigWithOutboundsOptions, Xray.buildOutbounds, bind_eq_ok, pure_eq_ok]
  exact ⟨_, inbounds, builtInbounds, _, ⟨outbounds, builtOutbounds, rfl⟩, rules, builtRules, rfl⟩

theorem singbox_outbound_builds {row : Outbound} (sound : row.Sound)
    (supported : outboundSupportsCore (loadOutbound row) coreSingbox = true)
    (present : Singbox.isRemovedSingboxOutbound (loadOutbound row) = false) :
    ∃ config, Singbox.buildOutbound platform (loadOutbound row) = .ok config := by
  have valid : validateOutboundProfile (loadOutbound row) = .ok () := sound.profile
  simp only [Singbox.buildOutbound, bind_eq_ok]
  refine Exists.imp (fun _ built => ⟨(), valid, built⟩) ?_
  have plain := normalizeOutboundProtocol_plain (loadOutbound row).protocol
  have known : normalizeOutboundProtocol (loadOutbound row).protocol ∈
      sharedOutboundProtocols ++ builtinOutboundProtocols ++ singboxOnlyOutboundProtocols := by
    rcases supported_protocols supported with shared | ⟨_, only⟩
    · exact List.mem_append_left _ shared
    · exact List.mem_append_right _ only
  simp only [Singbox.isRemovedSingboxOutbound, beq_eq_false_iff_ne] at present
  generalize normalizeOutboundProtocol (loadOutbound row).protocol = protocol at known plain present
  simp only [sharedOutboundProtocols, builtinOutboundProtocols, singboxOnlyOutboundProtocols,
    List.cons_append, List.nil_append, List.mem_cons, List.not_mem_nil, or_false, not_or] at known plain
  rcases known with rfl | rfl | rfl | rfl | rfl | rfl | rfl | rfl | rfl | rfl | rfl | rfl | rfl | rfl | rfl <;>
    first | exact ⟨_, rfl⟩ | exact absurd rfl present | simp at plain

theorem singbox_buildRule_ok (inv : StoreInv store) (compatible : RulesCompatible store) {rule : RoutingRule}
    (maps : Singbox.RuleMaps) (member : rule ∈ listRoutingRules store) :
    ∃ emitted, Singbox.buildRule maps (listInbounds store) (listOutbounds store) rule = .ok emitted := by
  unfold Singbox.buildRule
  by_cases skipped : (!rule.enabled || !routingRuleAppliesToCore rule (listInbounds store) coreSingbox) = true
  · exact ⟨none, if_pos skipped⟩
  · rw [if_neg skipped]
    simp only [Bool.or_eq_true, Bool.not_eq_true', not_or, Bool.not_eq_false] at skipped
    obtain ⟨outbound, resolved, supported⟩ :=
      rule_target inv compatible normalizeCore_singbox member skipped.1 skipped.2
    simp only [bind_eq_ok, expect_eq_ok, require_eq_ok]
    cases removed : Singbox.isRemovedSingboxOutbound outbound with
    | true => exact ⟨none, outbound, resolved, (), supported, by rw [if_pos removed]; rfl⟩
    | false => exact ⟨_, outbound, resolved, (), supported, by simp only [removed]; rfl⟩

theorem singbox_builds (inv : StoreInv store) (compatible : RulesCompatible store)
    (opts : Singbox.BuildOptions) :
    ∃ config, Singbox.buildConfigWithOutboundsOptions platform (listInbounds store) (listOutbounds store)
      (listRoutingRules store) opts = .ok config := by
  have outboundsBuild : ∀ outbound ∈ (listOutbounds store).filter fun outbound =>
      outbound.enabled && outboundSupportsCore outbound coreSingbox && !Singbox.isRemovedSingboxOutbound outbound,
      ∃ config, Singbox.buildOutbound platform outbound = .ok config := by
    intro outbound kept
    obtain ⟨member, usable⟩ := List.mem_filter.mp kept
    obtain ⟨row, stored, rfl⟩ := mem_listOutbounds.mp member
    simp only [Bool.and_eq_true, Bool.not_eq_true'] at usable
    exact singbox_outbound_builds (inv.rows.outbounds row stored) usable.1.2 usable.2
  obtain ⟨outbounds, builtOutbounds⟩ := mapM_isOk outboundsBuild
  obtain ⟨rules, builtRules⟩ := mapM_isOk fun rule member =>
    singbox_buildRule_ok inv compatible (Singbox.ruleMaps (listInbounds store)) member
  simp only [Singbox.buildConfigWithOutboundsOptions, Singbox.buildOutbounds, bind_eq_ok, pure_eq_ok]
  exact ⟨_, _, ⟨outbounds, builtOutbounds, rfl⟩, rules, builtRules, rfl⟩

/-- Every store that a run of compatible steps reaches can be built, for both cores. -/
theorem compatible_run_builds (platform : Platform) (store : Store)
    (reached : Reach (CompatibleSteps platform) Store.initial store) :
    (∃ config, Xray.buildConfigWithOutbounds platform (listInbounds store) (listOutbounds store)
      (listRoutingRules store) = .ok config) ∧
    ∃ config, Singbox.buildConfigWithOutbounds platform (listInbounds store) (listOutbounds store)
      (listRoutingRules store) = .ok config := by
  have reachable : Reachable platform store := reached.unguarded
  have compatible := rulesCompatible_of_reach reached
  exact ⟨xray_builds reachable.inv compatible default, singbox_builds reachable.inv compatible default⟩

/-- Surroundings for examples that use none of the libraries. -/
def examplePlatform : Platform where
  x25519 := fun _ => .error "no key is asked for"
  sha256 := fun _ => []
  unmarshalOutboundSettings := fun _ => default
  inboundPortAvailable := fun _ => true
  fileExists := fun _ => false
  parseIP := fun _ => none
  isCIDR := fun _ => false
  urlHost := fun _ => none
  splitHost := fun _ => none

def exampleEntropy (byte : UInt8) : Entropy where
  inboundPort := 0
  inboundUUID := .replicate 16 byte
  realityPrivateKey := .replicate 32 byte
  realityShortID := .replicate 4 byte
  credentialUUID := .replicate 16 byte
  secret := .replicate 24 byte
  username := .replicate 8 byte
  subscriptionTokens := fun _ => .replicate 24 byte
  statsKeys := fun _ => .replicate 16 byte

def exampleInbound (byte : UInt8) (protocol : String) (port : Int) : StoreOp :=
  .createInbound (exampleEntropy byte) { (default : CreateInboundParams) with protocol, port }

/-- A hysteria2 inbound and outbound, with a rule for every inbound that leads from one to the other. -/
def exampleHysteria2 : List StoreOp :=
  [exampleInbound 1 "hysteria2" 20001,
    .createOutbound "" { (default : CreateOutboundParams) with
      tag := "hy2", protocol := "hysteria2", address := "proxy.example", port := 443, password := "secret" },
    .createRoutingRule { (default : RoutingRuleParams) with
      outboundID := 4, domain := "example.com", enabled := true }]

/-- The store that a run of compatible steps ends in. -/
def exampleHysteria2Store : Store :=
  arrive (restrict StoreOp.keepsCompatible (storeStep examplePlatform)) exampleHysteria2 Store.initial

theorem compatible_run_builds_hysteria2 :
    (listRoutingRules exampleHysteria2Store).length = 1 ∧
      (∃ config, Xray.buildConfigWithOutbounds examplePlatform (listInbounds exampleHysteria2Store)
        (listOutbounds exampleHysteria2Store) (listRoutingRules exampleHysteria2Store) = .ok config) ∧
      ∃ config, Singbox.buildConfigWithOutbounds examplePlatform (listInbounds exampleHysteria2Store)
        (listOutbounds exampleHysteria2Store) (listRoutingRules exampleHysteria2Store) = .ok config :=
  ⟨by with_unfolding_all decide, compatible_run_builds examplePlatform exampleHysteria2Store (Reach.arrive_restrict _ _ _ _)⟩

/-- An Xray inbound added under the rule brings a core that does not have its outbound. -/
def exampleAddedCoreStore : Store :=
  arrive (storeStep examplePlatform) (exampleHysteria2 ++ [exampleInbound 2 "socks" 20002]) Store.initial

theorem added_core_breaks_build :
    ¬ ∀ (platform : Platform) (store : Store), Reachable platform store →
      (∃ config, Xray.buildConfigWithOutbounds platform (listInbounds store) (listOutbounds store)
        (listRoutingRules store) = .ok config) ∧
      ∃ config, Singbox.buildConfigWithOutbounds platform (listInbounds store) (listOutbounds store)
        (listRoutingRules store) = .ok config := by
  intro claimed
  have fails : (Xray.buildConfigWithOutbounds examplePlatform (listInbounds exampleAddedCoreStore)
      (listOutbounds exampleAddedCoreStore) (listRoutingRules exampleAddedCoreStore)).isOk = false := by
    with_unfolding_all decide
  obtain ⟨⟨config, built⟩, _⟩ := claimed examplePlatform exampleAddedCoreStore (Reach.arrive _ _ _)
  rw [built] at fails
  cases fails

end MiGate.Config
