import MiGate.Db.InboundsInv
import MiGate.Db.OutboundsInv

namespace MiGate.Db

open Go Fallible Relational Routing

variable {store after : Store}

theorem findClientInbound_spec {clientID : Int} {client : Client} {inbound : InboundRow}
    (found : findClientInbound clientID store = some (client, inbound)) :
    store.clients.find? clientID = some client ∧ store.inbounds.find? client.inboundID = some inbound := by
  simp only [findClientInbound, Option.bind_eq_bind, Option.bind_eq_some_iff, Option.pure_def,
    Option.some.injEq, Prod.mk.injEq] at found
  obtain ⟨_, clientFound, _, inboundFound, rfl, rfl⟩ := found
  exact ⟨clientFound, inboundFound⟩

/-- A rule's source is either empty, an inbound, or a client with its inbound. -/
theorem resolveRoutingRuleSource_spec {params : RoutingRuleParams} {source : RuleSource}
    (resolved : resolveRoutingRuleSource params store = .ok source) :
    (source.inboundID = 0 ∧ source.clientID = 0 ∧ source.inboundTag = "") ∨
      ∃ row, store.inbounds.find? source.inboundID = some row ∧
        (source.clientID = 0 ∨ (source.clientID, source.inboundID) ∈ (topology store).clients) := by
  simp only [resolveRoutingRuleSource] at resolved
  split at resolved
  · simp only [bind_eq_ok, require_eq_ok] at resolved
    obtain ⟨_, _, rest⟩ := resolved
    split at rest
    · simp only [resolveRoutingInboundTagByID, bind_eq_ok, expect_eq_ok, pure_eq_ok] at rest
      obtain ⟨_, ⟨row, found, _⟩, rfl⟩ := rest
      exact .inr ⟨row, found, .inl rfl⟩
    · simp only [resolveRoutingInboundTag, trimSpace_trimSpace, bind_eq_ok, pure_eq_ok] at rest
      obtain ⟨id, tagged, rfl⟩ := rest
      split at tagged
      · rename_i untagged
        rw [pure_eq_ok] at tagged
        exact .inl ⟨tagged.symm, rfl, untagged⟩
      · simp only [bind_eq_ok, expect_eq_ok, pure_eq_ok] at tagged
        obtain ⟨row, found, rfl⟩ := tagged
        exact .inr ⟨row, Serial.find?_of_mem (List.mem_of_find?_eq_some found), .inl rfl⟩
  · simp only [bind_eq_ok, expect_eq_ok, require_eq_ok, pure_eq_ok, Prod.exists] at resolved
    obtain ⟨client, inbound, found, _, _, _, _, rfl⟩ := resolved
    obtain ⟨clientFound, inboundFound⟩ := findClientInbound_spec found
    refine .inr ⟨inbound, inboundFound, .inr ?_⟩
    have named := Serial.id_of_find? clientFound
    exact List.mem_map.mpr ⟨client, Serial.mem_of_find? clientFound, by rw [Client.membership, named]⟩

theorem mem_distinctCores {rows : List InboundRow} {row : InboundRow} (member : row ∈ rows) :
    rowCore row ∈ distinctCores rows := by
  have keeps : ∀ (rows : List InboundRow) (cores : List String) (core : String),
      (core ∈ cores ∨ core ∈ rows.map rowCore) → core ∈ rows.foldl
        (fun cores row => if cores.contains (rowCore row) then cores else cores ++ [rowCore row]) cores := by
    intro rows
    induction rows with
    | nil =>
        rintro cores core (seen | absent)
        · exact seen
        · cases absent
    | cons first rest ih =>
        intro cores core seen
        rw [List.foldl_cons]
        refine ih _ core ?_
        by_cases known : cores.contains (rowCore first) = true
        · simp only [known, if_true]
          rw [List.contains_iff_mem] at known
          rcases seen with old | new
          · exact .inl old
          · rcases List.mem_cons.mp new with rfl | later
            · exact .inl known
            · exact .inr later
        · simp only [known, Bool.false_eq_true, if_false, List.mem_append, List.mem_singleton]
          rcases seen with old | new
          · exact .inl (.inl old)
          · rcases List.mem_cons.mp new with same | later
            · exact .inl (.inr same)
            · exact .inr later
  exact keeps rows [] _ (.inr (List.mem_map_of_mem member))

theorem validateRoutingCoreCompatibility_spec {inboundID clientID : Int} {outbound : Outbound}
    (valid : validateRoutingCoreCompatibility inboundID clientID outbound store = .ok ()) :
    ∃ cores, routingRuleCores inboundID clientID store = .ok cores ∧
      ∀ core ∈ cores, outboundSupportsCore outbound core = true := by
  simp only [validateRoutingCoreCompatibility, bind_eq_ok] at valid
  obtain ⟨cores, listed, rest⟩ := valid
  refine ⟨cores, listed, fun core member => ?_⟩
  cases unsupported : cores.find? fun core => !outboundSupportsCore outbound core with
  | none =>
      have supported := List.find?_eq_none.mp unsupported core member
      simpa using supported
  | some failing =>
      rw [unsupported] at rest
      cases rest

/-- Whether a protocol is one a core has. -/
def protocolSupports (protocol core : String) : Prop :=
  supportsCore (outboundProtocolSupportedCores protocol) core = true

theorem normalizeCore_cases (core : String) :
    normalizeCore core = coreXray ∨ normalizeCore core = coreSingbox := by
  by_cases singbox : toLower (trimSpace core) = coreSingbox ∨ toLower (trimSpace core) = "singbox"
  · exact .inr (by simp [normalizeCore, singbox])
  · exact .inl (by simp [normalizeCore, singbox])

@[simp] theorem normalizeCore_xray : normalizeCore coreXray = coreXray := by
  with_unfolding_all decide

@[simp] theorem normalizeCore_singbox : normalizeCore coreSingbox = coreSingbox := by
  with_unfolding_all decide

theorem coreXray_ne_coreSingbox : coreXray ≠ coreSingbox := by
  decide

/-- Xray is the narrower core: what it supports, every core supports. -/
theorem protocolSupports_of_xray {protocol : String} (supported : protocolSupports protocol coreXray)
    (core : String) : protocolSupports protocol core := by
  unfold protocolSupports outboundProtocolSupportedCores at supported ⊢
  simp only [supportsCore, List.any_eq_true, beq_iff_eq] at supported ⊢
  split_ifs at supported ⊢
  · rcases normalizeCore_cases core with xray | singbox
    · exact ⟨coreXray, by simp, by rw [xray, normalizeCore_xray]⟩
    · exact ⟨coreSingbox, by simp, by rw [singbox, normalizeCore_singbox]⟩
  · obtain ⟨item, member, same⟩ := supported
    rw [List.mem_singleton.mp member, normalizeCore_xray, normalizeCore_singbox] at same
    exact absurd same coreXray_ne_coreSingbox.symm
  · obtain ⟨item, member, _⟩ := supported
    cases member

theorem InboundRow.Sound.capability {row : InboundRow} (sound : row.Sound) :
    ∃ capability ∈ inboundCapabilities, capability.protocol = row.protocol ∧ capability.core = row.core := by
  have supported := sound.supported
  unfold supportedInboundProtocol at supported
  obtain ⟨capability, found⟩ := Option.isSome_iff_exists.mp supported
  have named := List.find?_some found
  refine ⟨capability, List.mem_of_find?_eq_some found, ?_, ?_⟩
  · rw [sound.normal] at named
    simpa using named
  · rw [sound.core, inferInboundCore, found]

theorem InboundRow.Sound.core_cases {row : InboundRow} (sound : row.Sound) :
    row.core = coreXray ∨ row.core = coreSingbox := by
  obtain ⟨capability, member, _, core⟩ := sound.capability
  have cores : ∀ capability ∈ inboundCapabilities,
      capability.core = coreXray ∨ capability.core = coreSingbox := by
    decide
  rw [← core]
  exact cores capability member

theorem InboundRow.Sound.rowCore_eq {row : InboundRow} (sound : row.Sound) : rowCore row = row.core := by
  have given : trimSpace coreXray ≠ "" ∧ trimSpace coreSingbox ≠ "" := by
    with_unfolding_all decide
  rcases sound.core_cases with core | core
  · simp [rowCore, core, given.1]
  · simp [rowCore, core, given.2]

theorem mem_topology_inbounds {entry : Entry String} :
    entry ∈ (topology store).inbounds ↔ ∃ row ∈ store.inbounds.rows, row.entry = entry :=
  List.mem_map

/-- A rule that passes the checks refers to what exists and fits the cores it applies to. -/
theorem resolveRule_spec {params : RoutingRuleParams} {source : RuleSource} {outbound : Outbound}
    (resolved : resolveRule params store = .ok (source, outbound)) (rule : RoutingRule) :
    (writeRule source outbound params rule).link.Refers (topology store) ∧
      (RowsSound store → ∀ core, (writeRule source outbound params rule).link.Applies (topology store) core →
        ∀ protocol, (outbound.id, protocol) ∈ (topology store).outbounds → protocolSupports protocol core) := by
  simp only [resolveRule, bind_eq_ok, pure_eq_ok, Prod.mk.injEq] at resolved
  obtain ⟨_, sourceResolved, _, outboundResolved, _, valid, rfl, rfl⟩ := resolved
  simp only [resolveRoutingOutbound, bind_eq_ok, require_eq_ok, expect_eq_ok] at outboundResolved
  obtain ⟨_, _, outboundFound⟩ := outboundResolved
  obtain ⟨cores, listed, supported⟩ := validateRoutingCoreCompatibility_spec valid
  have origin := resolveRoutingRuleSource_spec sourceResolved
  have targetFound := Serial.mem_of_find? outboundFound
  constructor
  · refine ⟨?_, ?_⟩
    · rw [mem_outboundIDs]
      exact List.mem_map_of_mem targetFound
    · rcases origin with ⟨noInbound, noClient, untagged⟩ | ⟨row, found, client⟩
      · exact .inl ⟨noInbound, noClient, by simp [RoutingRule.link, writeRule, untagged]⟩
      · refine .inr ⟨?_, client⟩
        rw [mem_inboundIDs, ← Serial.find?_isSome]
        simp only [RoutingRule.link, writeRule, found, Option.isSome_some]
  · intro rows core applies protocol member
    obtain ⟨target, targetMember, speaks⟩ := List.mem_map.mp member
    simp only [Outbound.speaks, Prod.mk.injEq] at speaks
    have same := Serial.eq_of_id_eq targetMember targetFound speaks.1
    have supports : ∀ core ∈ cores, protocolSupports protocol core := by
      intro core inside
      rw [← speaks.2, same]
      exact supported core inside
    rcases origin with ⟨noInbound, noClient, _⟩ | ⟨row, found, _⟩
    · rw [Link.applies_global noInbound] at applies
      simp only [routingRuleCores, noInbound, noClient, lt_self_iff_false, if_false, pure_eq_ok] at listed
      rcases applies with ⟨entry, inside, _, served⟩ | empty
      · obtain ⟨row, rowMember, rfl⟩ := mem_topology_inbounds.mp inside
        have counted := mem_distinctCores rowMember
        rw [(rows.inbounds row rowMember).rowCore_eq] at counted
        refine supports core ?_
        rw [← listed, if_neg, ← served]
        · exact counted
        · simp [List.ne_nil_of_mem counted]
      · have none : store.inbounds.rows = [] := List.map_eq_nil_iff.mp empty
        refine protocolSupports_of_xray (supports coreXray ?_) core
        rw [← listed, none]
        simp [distinctCores]
    · have numbered := Serial.id_of_find? found
      have positive := store.inbounds.positive row (Serial.mem_of_find? found)
      rw [numbered] at positive
      rw [Link.applies_bound (ne_of_gt positive)] at applies
      obtain ⟨entry, inside, named, _, served⟩ := applies
      obtain ⟨other, otherMember, rfl⟩ := mem_topology_inbounds.mp inside
      have sameRow := Serial.eq_of_id_eq otherMember (Serial.mem_of_find? found) (named.trans numbered.symm)
      simp only [routingRuleCores, if_pos positive, bind_eq_ok, expect_eq_ok, pure_eq_ok] at listed
      obtain ⟨_, foundAgain, rfl⟩ := listed
      rw [found, Option.some.injEq] at foundAgain
      refine supports core ?_
      rw [← served, ← foundAgain, (rows.inbounds row (Serial.mem_of_find? found)).rowCore_eq, sameRow]
      exact List.mem_singleton_self _

/-- What an operation does to the rules: each is an old one or has passed the checks. -/
def RulesWritten (store after : Store) : Prop :=
  ∃ links, topology after = { topology store with rules := links } ∧
    ∀ link ∈ links, link ∈ (topology store).rules ∨
      (link.Refers (topology store) ∧ (RowsSound store → ∀ core, link.Applies (topology store) core →
        ∀ protocol, (link.outboundID, protocol) ∈ (topology store).outbounds →
          protocolSupports protocol core))

theorem rowsSound_rules (rules : Serial RoutingRule.id) (rows : RowsSound store) :
    RowsSound { store with routingRules := rules } :=
  { rows with }

theorem createRoutingRule_spec {params : RoutingRuleParams} {rule : RoutingRule}
    (done : createRoutingRule params store = .ok (after, rule)) :
    (RowsSound store → RowsSound after) ∧ RulesWritten store after := by
  simp only [createRoutingRule, bind_eq_ok, pure_eq_ok, Prod.exists, Prod.mk.injEq] at done
  obtain ⟨source, outbound, resolved, rfl, _⟩ := done
  refine ⟨rowsSound_rules _, _, rfl, ?_⟩
  rw [Serial.map_insert]
  intro link member
  rcases List.mem_append.mp member with old | new
  · exact .inl old
  · rw [List.mem_singleton.mp new]
    exact .inr (resolveRule_spec resolved default)

theorem updateRoutingRule_spec {id : Int} {params : RoutingRuleParams} {rule : RoutingRule}
    (done : updateRoutingRule id params store = .ok (after, rule)) :
    (RowsSound store → RowsSound after) ∧ RulesWritten store after := by
  simp only [updateRoutingRule, bind_eq_ok, expect_eq_ok, pure_eq_ok, Prod.exists, Prod.mk.injEq] at done
  obtain ⟨source, outbound, resolved, _, _, rfl, _⟩ := done
  refine ⟨rowsSound_rules _, _, rfl, ?_⟩
  intro link member
  obtain ⟨written, inside, rfl⟩ := List.mem_map.mp member
  rw [Serial.mem_modifyWhere] at inside
  obtain ⟨old, oldMember, rfl⟩ := inside
  split
  · exact .inr (resolveRule_spec resolved old)
  · exact .inl (List.mem_map_of_mem oldMember)

theorem deleteRoutingRule_spec {id : Int} (done : deleteRoutingRule id store = .ok after) :
    (RowsSound store → RowsSound after) ∧ RulesWritten store after := by
  simp only [deleteRoutingRule, bind_eq_ok, require_eq_ok, pure_eq_ok] at done
  obtain ⟨_, _, rfl⟩ := done
  refine ⟨rowsSound_rules _, _, rfl, ?_⟩
  exact fun link member => .inl (Serial.map_deleteWhere_subset _ _ _ member)

theorem reorderRoutingRules_spec (ids : List Int) :
    (RowsSound store → RowsSound (reorderRoutingRules ids store)) ∧
      topology (reorderRoutingRules ids store) = topology store := by
  refine ⟨rowsSound_rules _, ?_⟩
  have links : ∀ (pairs : List (Int × Nat)) (rules : Serial RoutingRule.id),
      (pairs.foldl (fun rules pair => rules.modifyWhere (fun rule => rule.id == pair.1) (sortRule pair.2)
        (sortRule_id pair.2)) rules).rows.map RoutingRule.link = rules.rows.map RoutingRule.link := by
    intro pairs
    induction pairs with
    | nil => exact fun _ => rfl
    | cons pair rest ih =>
        intro rules
        rw [List.foldl_cons, ih, Serial.map_modifyWhere]
        exact fun _ _ _ => rfl
  simp only [topology, reorderRoutingRules, writeRuleSorts, links]

end MiGate.Db
