import MiGate.Config.Totality
import MiGate.Db.Renames

namespace MiGate.Config

open Go Db Fallible Relational Transition

variable {platform : Platform} {history : RuleHistory} {store : Store}

/-! What the rules of a store repeat of other rows. -/

/-- A rule names stored rows and repeats what they say: the tag its outbound had when the rule was
written, the email and the inbound of its client, and a name of its inbound. -/
theorem rules_stay_consistent
    (reached : Reach (Steps (recordedStep platform)) (Store.initial, RuleHistory.empty) (store, history)) :
    ∀ rule ∈ store.routingRules.rows,
      rule.outboundID ∈ store.outbounds.rows.map Outbound.id ∧
        (rule.inboundID = 0 ∨ rule.inboundID ∈ store.inbounds.rows.map InboundRow.id) ∧
          rule.Consistent history store := by
  intro rule stored
  have inv := events_inv (reach_recorded_iff.mpr ⟨history, reached⟩)
  obtain ⟨outbound, origin⟩ := inv.topology.rules rule.link (List.mem_map_of_mem stored)
  refine ⟨mem_outboundIDs.mp outbound, ?_, (recorded_copies reached).rules rule stored⟩
  rcases origin with ⟨global, _⟩ | ⟨bound, _⟩
  · exact .inl global
  · exact .inr (mem_inboundIDs.mp bound)

/-- An inbound with a client, a manual outbound, and a rule between them that names the inbound by
its remark, which then changes. -/
def exampleRenaming : List StoreEvent :=
  [.operate (.createInbound (exampleEntropy 1) { (default : CreateInboundParams) with
      protocol := "trojan", port := 20001, initialClient := some { (default : CreateClientParams) with
        email := "alice" } }),
    .operate (.createOutbound "" { (default : CreateOutboundParams) with
      tag := "proxy", protocol := "socks", address := "proxy.example", port := 1080 }),
    .operate (.createRoutingRule { (default : RoutingRuleParams) with
      inboundTag := "trojan", outboundID := 4, domain := "example.com", enabled := true }),
    .operate (.updateInbound (exampleEntropy 2) 1 { (default : UpdateInboundParams) with
      remark := "office", protocol := "trojan", security := "none", port := 20001, enabled := true })]

def exampleRenamed : Store × RuleHistory :=
  arrive (recordedStep examplePlatform) exampleRenaming (Store.initial, RuleHistory.empty)

theorem renamed_rule_consistent :
    ∃ rule ∈ exampleRenamed.1.routingRules.rows, rule.inboundTag = "office" ∧
      rule.id ∉ exampleRenamed.2.renamedInbounds ∧ rule.Consistent exampleRenamed.2 exampleRenamed.1 := by
  have present : ∃ rule ∈ exampleRenamed.1.routingRules.rows, rule.inboundTag = "office" ∧
      rule.id ∉ exampleRenamed.2.renamedInbounds := by with_unfolding_all decide
  obtain ⟨rule, stored, tagged, followed⟩ := present
  exact ⟨rule, stored, tagged, followed, (rules_stay_consistent (Reach.arrive (recordedStep examplePlatform)
    exampleRenaming (Store.initial, RuleHistory.empty)) rule stored).2.2⟩

/-- The outbound is given another tag. -/
def exampleRetaggedStore : Store :=
  arrive (eventStep examplePlatform)
    (exampleRenaming ++ [.operate (.updateOutbound 4 { (default : UpdateOutboundParams) with
      tag := "exit", protocol := "socks", address := "proxy.example", port := 1080, enabled := true })])
    Store.initial

theorem retagged_outbound_left_behind :
    ¬ ∀ (platform : Platform) (store : Store), Reach (Steps (eventStep platform)) Store.initial store →
      ∀ rule ∈ store.routingRules.rows, (rule.outboundID, rule.outboundTag) ∈ store.outboundNames ∧
        (rule.clientID ≠ 0 → (rule.clientID, rule.inboundID, rule.clientEmail) ∈ store.clientNames) ∧
        (rule.inboundID ≠ 0 → (rule.inboundID, rule.inboundTag) ∈ store.inboundNames) := by
  intro claimed
  have stale : ∃ rule ∈ exampleRetaggedStore.routingRules.rows,
      (rule.outboundID, rule.outboundTag) ∉ exampleRetaggedStore.outboundNames := by with_unfolding_all decide
  obtain ⟨rule, stored, absent⟩ := stale
  exact absent (claimed examplePlatform exampleRetaggedStore (Reach.arrive _ _ _) rule stored).1

end MiGate.Config
