import MiGate.Db.RoutingInv

namespace MiGate.Db

open Go Fallible Relational Routing

variable {store : Store} {rule : RoutingRule}

/-! What a rule of a sound store names, and which cores it therefore applies to. -/

/-- A row as `ListInbounds` gives it. -/
def listed (store : Store) (row : InboundRow) : Inbound :=
  { loadInbound row with clients := store.clients.rows.filter fun client => client.inboundID == row.id }

@[simp] theorem listed_id (row : InboundRow) : (listed store row).id = row.id := rfl

theorem mem_listInbounds {inbound : Inbound} :
    inbound ∈ listInbounds store ↔ ∃ row ∈ store.inbounds.rows, listed store row = inbound :=
  List.mem_map

theorem InboundRow.Sound.loadInbound_eq {row : InboundRow} (sound : row.Sound) : loadInbound row = row := by
  have given : row.core ≠ "" := by
    rcases sound.core_cases with core | core <;> simp [core, coreXray, coreSingbox]
  simp [loadInbound, given]

theorem InboundRow.Sound.inboundCore_eq {row : InboundRow} (sound : row.Sound) : inboundCore row = row.core := by
  have given : trimSpace coreXray ≠ "" ∧ trimSpace coreSingbox ≠ "" := by
    with_unfolding_all decide
  rcases sound.core_cases with core | core
  · simp [inboundCore, core, given.1]
  · simp [inboundCore, core, given.2]

theorem inboundServes_listed {row : InboundRow} (sound : row.Sound) (core : String) :
    inboundServes core (listed store row) = true ↔ row.enabled = true ∧ row.core = core := by
  simp only [inboundServes, listed, sound.loadInbound_eq, sound.inboundCore_eq, Bool.and_eq_true, beq_iff_eq]

/-- What a stored rule names: nothing, or a stored inbound and perhaps one of its clients. -/
inductive RoutingRule.Names (store : Store) (rule : RoutingRule) : Prop
  | anything (noInbound : rule.inboundID = 0) (noClient : rule.clientID = 0) (untagged : rule.inboundTag = "")
  | inbound (row : InboundRow) (found : store.inbounds.find? rule.inboundID = some row)
      (noClient : rule.clientID = 0)
  | client (row : InboundRow) (client : Client) (found : store.inbounds.find? rule.inboundID = some row)
      (clientFound : store.clients.find? rule.clientID = some client)
      (belongs : client.inboundID = rule.inboundID)

theorem StoreInv.names (inv : StoreInv store) (member : rule ∈ store.routingRules.rows) :
    RoutingRule.Names store rule := by
  obtain ⟨_, ⟨noInbound, noClient, untagged⟩ | ⟨inbound, client⟩⟩ :=
    inv.topology.rules rule.link (List.mem_map_of_mem member)
  · exact .anything noInbound noClient (by simpa [RoutingRule.link] using untagged)
  · rw [mem_inboundIDs, ← Serial.find?_isSome] at inbound
    obtain ⟨row, found⟩ := Option.isSome_iff_exists.mp inbound
    rcases client with free | bound
    · exact .inbound row found free
    · obtain ⟨client, inside, same⟩ := List.mem_map.mp bound
      simp only [Client.membership, RoutingRule.link, Prod.mk.injEq] at same
      refine .client row client found ?_ same.2
      rw [← same.1]
      exact Serial.find?_of_mem inside

/-- A stored rule leads to a stored outbound. -/
theorem StoreInv.target (inv : StoreInv store) (member : rule ∈ store.routingRules.rows) :
    ∃ outbound, store.outbounds.find? rule.outboundID = some outbound := by
  have target := (inv.topology.rules rule.link (List.mem_map_of_mem member)).1
  rw [mem_outboundIDs, ← Serial.find?_isSome] at target
  exact Option.isSome_iff_exists.mp target

/-- Searching the listed inbounds for the one a row was listed as. -/
theorem find?_listInbounds {row : InboundRow} {selected : Inbound → Bool} (member : row ∈ store.inbounds.rows)
    (hit : selected (listed store row) = true)
    (only : ∀ other ∈ store.inbounds.rows, selected (listed store other) = true → other.id = row.id) :
    (listInbounds store).find? selected = some (listed store row) := by
  cases found : (listInbounds store).find? selected with
  | none =>
      have missed := List.find?_eq_none.mp found _ (mem_listInbounds.mpr ⟨row, member, rfl⟩)
      exact absurd hit missed
  | some inbound =>
      obtain ⟨other, inside, rfl⟩ := mem_listInbounds.mp (List.mem_of_find?_eq_some found)
      rw [Serial.eq_of_id_eq inside member (only other inside (List.find?_some found))]

theorem find?_listInbounds_id {id : Int} {row : InboundRow} (found : store.inbounds.find? id = some row) :
    (listInbounds store).find? (fun inbound => inbound.id == id) = some (listed store row) := by
  have named := Serial.id_of_find? found
  refine find?_listInbounds (Serial.mem_of_find? found) (by simpa [listed, loadInbound] using named) ?_
  intro other _ same
  rw [named]
  simpa [listed, loadInbound] using same

/-- The inbound that has a client is the one the client belongs to. -/
theorem find?_listInbounds_client {id : Int} {row : InboundRow} {client : Client}
    (found : store.clients.find? id = some client) (belongs : store.inbounds.find? client.inboundID = some row) :
    (listInbounds store).find? (fun inbound => inbound.clients.any fun client => client.id == id) =
      some (listed store row) := by
  have named := Serial.id_of_find? found
  have home := Serial.id_of_find? belongs
  refine find?_listInbounds (Serial.mem_of_find? belongs) ?_ ?_
  · simp only [listed, List.any_eq_true, List.mem_filter, beq_iff_eq]
    exact ⟨client, ⟨Serial.mem_of_find? found, home.symm⟩, named⟩
  · intro other _ has
    simp only [listed, List.any_eq_true, List.mem_filter, beq_iff_eq] at has
    obtain ⟨another, ⟨inside, there⟩, same⟩ := has
    have equal := Serial.eq_of_id_eq inside (Serial.mem_of_find? found) (same.trans named.symm)
    rw [← there, equal, home]

theorem listInbounds_isEmpty : (listInbounds store).isEmpty = true ↔ (topology store).inbounds = [] := by
  simp [listInbounds, topology]

/-- What a bound rule applies to is decided by its one inbound. -/
theorem applies_bound_iff {row : InboundRow} (rows : RowsSound store)
    (found : store.inbounds.find? rule.inboundID = some row) (core : String) :
    rule.link.Applies (topology store) core ↔ inboundServes core (listed store row) = true := by
  have positive := Serial.pos_of_find? found
  have member := Serial.mem_of_find? found
  have home : row.id = rule.inboundID := Serial.id_of_find? found
  rw [Link.applies_bound (ne_of_gt positive), inboundServes_listed (rows.inbounds row member)]
  constructor
  · rintro ⟨entry, inside, named, applied⟩
    obtain ⟨other, otherMember, rfl⟩ := mem_topology_inbounds.mp inside
    have same := Serial.eq_of_id_eq otherMember member (named.trans home.symm)
    rw [same] at applied
    exact applied
  · exact fun applied => ⟨row.entry, mem_topology_inbounds.mpr ⟨row, member, rfl⟩, home,
      applied⟩

/-- The code's own notion of the cores a rule applies to is the one of the topology. -/
theorem routingRuleAppliesToCore_iff (inv : StoreInv store) (member : rule ∈ store.routingRules.rows)
    (core : String) :
    routingRuleAppliesToCore rule (listInbounds store) core = true ↔
      rule.link.Applies (topology store) (normalizeCore core) := by
  cases inv.names member with
  | anything noInbound noClient untagged =>
      have blank : trimSpace "" = "" := trimSpace_empty
      simp only [routingRuleAppliesToCore, noInbound, noClient, untagged, blank, lt_self_iff_false, if_false,
        if_true, Bool.or_eq_true, List.any_eq_true, listInbounds_isEmpty]
      rw [Link.applies_global noInbound]
      refine or_congr_left ⟨?_, ?_⟩
      · rintro ⟨inbound, inside, serves⟩
        obtain ⟨row, rowMember, rfl⟩ := mem_listInbounds.mp inside
        rw [inboundServes_listed (inv.rows.inbounds row rowMember)] at serves
        exact ⟨row.entry, mem_topology_inbounds.mpr ⟨row, rowMember, rfl⟩, serves⟩
      · rintro ⟨entry, inside, applied⟩
        obtain ⟨row, rowMember, rfl⟩ := mem_topology_inbounds.mp inside
        refine ⟨listed store row, mem_listInbounds.mpr ⟨row, rowMember, rfl⟩, ?_⟩
        exact (inboundServes_listed (inv.rows.inbounds row rowMember) _).mpr applied
  | inbound row found noClient =>
      have positive := Serial.pos_of_find? found
      simp only [routingRuleAppliesToCore, noClient, lt_self_iff_false, if_false, if_pos positive,
        find?_listInbounds_id found, applies_bound_iff inv.rows found]
  | client row client found clientFound belongs =>
      have positive := Serial.pos_of_find? clientFound
      rw [← belongs] at found
      simp only [routingRuleAppliesToCore, if_pos positive, find?_listInbounds_client clientFound found]
      rw [belongs] at found
      rw [applies_bound_iff inv.rows found]

theorem mem_listOutbounds {outbound : Outbound} :
    outbound ∈ listOutbounds store ↔ ∃ row ∈ store.outbounds.rows, loadOutbound row = outbound := by
  simp only [listOutbounds, List.mem_map, List.mem_insertionSort]

instance : Std.Total ruleBefore where
  total left right := by
    unfold ruleBefore
    omega

instance : IsTrans RoutingRule ruleBefore where
  trans first second third before after := by
    unfold ruleBefore at *
    omega

theorem mem_listRoutingRules : rule ∈ listRoutingRules store ↔ rule ∈ store.routingRules.rows :=
  List.mem_insertionSort ruleBefore

/-- The outbound a rule resolves to is the one it was stored with. -/
theorem resolveRuleOutbound_eq {row : Outbound} (found : store.outbounds.find? rule.outboundID = some row) :
    resolveRuleOutbound rule (listOutbounds store) = some (loadOutbound row) := by
  have named : row.id = rule.outboundID := Serial.id_of_find? found
  have member := Serial.mem_of_find? found
  rw [resolveRuleOutbound, if_pos (Serial.pos_of_find? found)]
  cases search : (listOutbounds store).find? fun outbound => outbound.id == rule.outboundID with
  | none =>
      have missed := List.find?_eq_none.mp search _ (mem_listOutbounds.mpr ⟨row, member, rfl⟩)
      exact absurd (by simpa [loadOutbound] using named) missed
  | some outbound =>
      obtain ⟨other, inside, rfl⟩ := mem_listOutbounds.mp (List.mem_of_find?_eq_some search)
      have same : other.id = rule.outboundID := by simpa [loadOutbound] using List.find?_some search
      rw [Serial.eq_of_id_eq inside member (same.trans named.symm)]

end MiGate.Db
