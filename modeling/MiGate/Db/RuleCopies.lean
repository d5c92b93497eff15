import MiGate.Db.ClientsSound
import MiGate.Db.Tags

namespace MiGate.Db

open Go Fallible Relational Transition

variable {platform : Platform} {entropy : Entropy} {history : RuleHistory} {store after : Store}

/-! A rule repeats columns of the rows it names: the tag of its outbound, the email of its client
and a name of its inbound. -/

def Store.outboundNames (store : Store) : List (Int × String) :=
  store.outbounds.rows.map fun row => (row.id, row.tag)

def Store.clientNames (store : Store) : List (Int × Int × String) :=
  store.clients.rows.map fun client => (client.id, client.inboundID, client.email)

/-- An inbound goes by its generated tag and by its remark. -/
def Store.inboundNames (store : Store) : List (Int × String) :=
  store.inbounds.rows.flatMap fun row => [(row.id, generatedInboundTag row), (row.id, trimSpace row.remark)]

/-- What has happened to the rules: the tag the outbound of a rule had when the rule was last written,
and the rules that since then the renaming of an outbound or of an inbound has gone past. -/
structure RuleHistory where
  outboundTags : Int → String
  renamedOutbounds : List Int
  renamedInbounds : List Int

/-- What a rule repeats is what the rows it names say, unless a renaming has gone past it. -/
structure RoutingRule.Consistent (history : RuleHistory) (store : Store) (rule : RoutingRule) : Prop where
  snapshot : rule.outboundTag = history.outboundTags rule.id
  outbound : rule.id ∉ history.renamedOutbounds → (rule.outboundID, rule.outboundTag) ∈ store.outboundNames
  client : rule.clientID ≠ 0 → (rule.clientID, rule.inboundID, rule.clientEmail) ∈ store.clientNames
  inbound : rule.id ∉ history.renamedInbounds → rule.inboundID ≠ 0 →
    (rule.inboundID, rule.inboundTag) ∈ store.inboundNames

structure CopiesSound (history : RuleHistory) (store : Store) : Prop where
  rules : ∀ rule ∈ store.routingRules.rows, rule.Consistent history store
  remarks : ∀ row ∈ store.inbounds.rows, trimSpace row.remark = row.remark ∧ row.remark ≠ ""

theorem mem_outboundNames {id : Int} {tag : String} :
    (id, tag) ∈ store.outboundNames ↔ ∃ row ∈ store.outbounds.rows, row.id = id ∧ row.tag = tag := by
  simp [Store.outboundNames]

theorem mem_clientNames {id inboundID : Int} {email : String} :
    (id, inboundID, email) ∈ store.clientNames ↔
      ∃ client ∈ store.clients.rows, client.id = id ∧ client.inboundID = inboundID ∧ client.email = email := by
  simp [Store.clientNames]

theorem mem_inboundNames {id : Int} {tag : String} :
    (id, tag) ∈ store.inboundNames ↔
      ∃ row ∈ store.inbounds.rows, row.id = id ∧ (tag = generatedInboundTag row ∨ tag = trimSpace row.remark) := by
  simp only [Store.inboundNames, List.mem_flatMap, List.mem_cons, List.not_mem_nil, or_false, Prod.mk.injEq]
  constructor
  · rintro ⟨row, stored, ⟨rfl, rfl⟩ | ⟨rfl, rfl⟩⟩
    · exact ⟨row, stored, rfl, .inl rfl⟩
    · exact ⟨row, stored, rfl, .inr rfl⟩
  · rintro ⟨row, stored, rfl, rfl | rfl⟩
    · exact ⟨row, stored, .inl ⟨rfl, rfl⟩⟩
    · exact ⟨row, stored, .inr ⟨rfl, rfl⟩⟩

/-! Steps that rename nothing a rule names. -/

/-- No name is lost. -/
structure KeepsNames (store after : Store) : Prop where
  outbounds : store.outboundNames ⊆ after.outboundNames
  clients : store.clientNames ⊆ after.clientNames
  inbounds : store.inboundNames ⊆ after.inboundNames

theorem KeepsNames.of_eq (outbounds : after.outbounds.rows = store.outbounds.rows)
    (clients : after.clients.rows = store.clients.rows) (inbounds : after.inbounds.rows = store.inbounds.rows) :
    KeepsNames store after where
  outbounds := by rw [Store.outboundNames, Store.outboundNames, outbounds]; exact List.Subset.refl _
  clients := by rw [Store.clientNames, Store.clientNames, clients]; exact List.Subset.refl _
  inbounds := by rw [Store.inboundNames, Store.inboundNames, inbounds]; exact List.Subset.refl _

theorem KeepsNames.trans {middle : Store} (first : KeepsNames store middle) (second : KeepsNames middle after) :
    KeepsNames store after where
  outbounds := List.Subset.trans first.outbounds second.outbounds
  clients := List.Subset.trans first.clients second.clients
  inbounds := List.Subset.trans first.inbounds second.inbounds

theorem RoutingRule.Consistent.keep {rule : RoutingRule} (consistent : rule.Consistent history store)
    (keeps : KeepsNames store after) : rule.Consistent history after where
  snapshot := consistent.snapshot
  outbound := fun unmarked => keeps.outbounds (consistent.outbound unmarked)
  client := fun named => keeps.clients (consistent.client named)
  inbound := fun unmarked bound => keeps.inbounds (consistent.inbound unmarked bound)

theorem CopiesSound.keep (sound : CopiesSound history store) (keeps : KeepsNames store after)
    (rules : after.routingRules.rows ⊆ store.routingRules.rows)
    (remarks : ∀ row ∈ after.inbounds.rows, trimSpace row.remark = row.remark ∧ row.remark ≠ "") :
    CopiesSound history after where
  rules := fun rule member => (sound.rules rule (rules member)).keep keeps
  remarks := remarks

/-- A history that says more marks more rules. -/
theorem CopiesSound.mono {later : RuleHistory} (sound : CopiesSound history store)
    (tags : later.outboundTags = history.outboundTags)
    (outbounds : history.renamedOutbounds ⊆ later.renamedOutbounds)
    (inbounds : history.renamedInbounds ⊆ later.renamedInbounds) : CopiesSound later store where
  rules := by
    intro rule member
    have consistent := sound.rules rule member
    exact ⟨by rw [tags]; exact consistent.snapshot, fun unmarked => consistent.outbound (mt (@outbounds _) unmarked),
      consistent.client, fun unmarked => consistent.inbound (mt (@inbounds _) unmarked)⟩
  remarks := sound.remarks

theorem CopiesSound.keep_others (sound : CopiesSound history store) (keeps : KeepsNames store after)
    (rules : after.routingRules = store.routingRules) (inbounds : after.inbounds = store.inbounds) :
    CopiesSound history after := by
  refine sound.keep keeps ?_ ?_
  · rw [rules]
    exact List.Subset.refl _
  · rw [inbounds]
    exact sound.remarks

theorem keepsNames_outbounds {outbounds : Serial Outbound.id}
    (kept : store.outboundNames ⊆ outbounds.rows.map fun row => (row.id, row.tag)) :
    KeepsNames store { store with outbounds } where
  outbounds := kept
  clients := List.Subset.refl _
  inbounds := List.Subset.refl _

theorem keepsNames_clients {clients : Serial Client.id}
    (kept : store.clientNames ⊆ clients.rows.map fun client => (client.id, client.inboundID, client.email)) :
    KeepsNames store { store with clients } where
  outbounds := List.Subset.refl _
  clients := kept
  inbounds := List.Subset.refl _

theorem keepsNames_modifyOutbounds {selected : Outbound → Bool} {change : Outbound → Outbound}
    (keeps : ∀ row, (change row).id = row.id) (tags : ∀ row ∈ store.outbounds.rows, (change row).tag = row.tag) :
    KeepsNames store { store with outbounds := store.outbounds.modifyWhere selected change keeps } := by
  apply keepsNames_outbounds
  rw [Serial.map_modifyWhere]
  · exact List.Subset.refl _
  · intro row stored _
    rw [keeps, tags row stored]

theorem keepsNames_insertOutboundRow (row : Outbound) : KeepsNames store (insertOutboundRow row store) := by
  apply keepsNames_outbounds
  rw [Serial.map_insert]
  exact List.subset_append_left _ _

theorem keepsNames_writeOutboundSorts (first : Int) (ids : List Int) :
    KeepsNames store { store with outbounds := writeOutboundSorts first ids store.outbounds } := by
  apply keepsNames_outbounds
  rw [map_writeOutboundSorts]
  · exact List.Subset.refl _
  · exact fun _ _ => rfl

theorem keepsNames_modifyInbounds {selected : InboundRow → Bool} {change : InboundRow → InboundRow}
    (keeps : ∀ row, (change row).id = row.id) (protocols : ∀ row, (change row).protocol = row.protocol)
    (remarks : ∀ row, (change row).remark = row.remark) :
    KeepsNames store { store with inbounds := store.inbounds.modifyWhere selected change keeps } where
  outbounds := List.Subset.refl _
  clients := List.Subset.refl _
  inbounds := by
    rintro ⟨id, tag⟩ named
    obtain ⟨row, stored, same, tagged⟩ := mem_inboundNames.mp named
    refine mem_inboundNames.mpr ⟨if selected row then change row else row, ?_, ?_⟩
    · exact List.mem_map.mpr ⟨row, stored, rfl⟩
    · split
      · rw [keeps, remarks, generatedInboundTag, keeps, protocols]
        exact ⟨same, tagged⟩
      · exact ⟨same, tagged⟩

/-! The operations on inbounds and clients. -/

theorem Client.Tidy.trimmed {client : Client} (tidy : client.Tidy) : trimSpace client.email = client.email := by
  rw [← tidy.email]
  exact trimSpace_orElse (trimSpace_trimSpace _) (by with_unfolding_all decide)

theorem keepsNames_insertClient {client stored : Client} (done : insertClient client store = .ok (after, stored)) :
    KeepsNames store after := by
  obtain ⟨rfl, _⟩ := insertClient_spec done
  apply keepsNames_clients
  rw [Serial.map_insert]
  exact List.subset_append_left _ _

theorem keepsNames_insertInbound {row stored : InboundRow}
    (done : insertInbound entropy row store = .ok (after, stored)) : KeepsNames store after := by
  obtain ⟨rfl, _⟩ := insertInbound_spec done
  refine ⟨List.Subset.refl _, List.Subset.refl _, ?_⟩
  rintro ⟨id, tag⟩ named
  obtain ⟨old, member, same⟩ := mem_inboundNames.mp named
  exact mem_inboundNames.mpr ⟨old, Serial.mem_insert.mpr (.inl member), same⟩

theorem CreateInboundParams.prepare_remark {params : CreateInboundParams} {row : InboundRow}
    (prepared : params.prepare platform entropy store = .ok row) :
    trimSpace row.remark = row.remark ∧ row.remark ≠ "" := by
  have sound := (CreateInboundParams.prepare_spec prepared).1
  simp only [CreateInboundParams.prepare, bind_eq_ok, require_eq_ok, pure_eq_ok] at prepared
  obtain ⟨_, supported, _, _, _, _, settings, _, _, _, rfl⟩ := prepared
  have named : ∀ capability ∈ inboundCapabilities,
      trimSpace capability.protocol = capability.protocol ∧ capability.protocol ≠ "" := by with_unfolding_all decide
  obtain ⟨capability, member, same, _⟩ := sound.capability
  dsimp only at same ⊢
  rw [← same]
  exact ⟨trimSpace_orElse (trimSpace_trimSpace _) (named capability member).1,
    orElse_ne_empty (named capability member).2⟩

theorem insertInbound_remarks {row stored : InboundRow}
    (remarks : ∀ row ∈ store.inbounds.rows, trimSpace row.remark = row.remark ∧ row.remark ≠ "")
    (remark : trimSpace row.remark = row.remark ∧ row.remark ≠ "")
    (done : insertInbound entropy row store = .ok (after, stored)) :
    ∀ row ∈ after.inbounds.rows, trimSpace row.remark = row.remark ∧ row.remark ≠ "" := by
  obtain ⟨rfl, _⟩ := insertInbound_spec done
  intro other member
  rcases Serial.mem_insert.mp member with old | new
  · exact remarks other old
  · rw [new]
    exact remark

theorem createInbound_copies {params : CreateInboundParams} {inbound : Inbound} (sound : CopiesSound history store)
    (done : createInbound platform entropy params store = .ok (after, inbound)) : CopiesSound history after := by
  have rules := congrArg Store.routingRules (createInbound_onlyWrites done)
  dsimp only at rules
  simp only [createInbound, bind_eq_ok] at done
  obtain ⟨row, preparing, rest⟩ := done
  have remark := CreateInboundParams.prepare_remark preparing
  cases initial : params.initialClient with
  | none =>
      simp only [initial, bind_eq_ok, pure_eq_ok, Prod.mk.injEq, Prod.exists] at rest
      obtain ⟨_, _, inserted, rfl, _⟩ := rest
      refine sound.keep (keepsNames_insertInbound inserted) ?_ (insertInbound_remarks sound.remarks remark inserted)
      rw [← rules]
      exact List.Subset.refl _
  | some initialClient =>
      simp only [initial, bind_eq_ok, pure_eq_ok, Prod.mk.injEq, Prod.exists] at rest
      obtain ⟨_, _, middle, _, inserted, _, _, added, rfl, _⟩ := rest
      have remarks := insertInbound_remarks sound.remarks remark inserted
      refine sound.keep ((keepsNames_insertInbound inserted).trans (keepsNames_insertClient added)) ?_ ?_
      · rw [← rules]
        exact List.Subset.refl _
      · rw [(insertClient_spec added).1]
        exact remarks

theorem CopiesSound.modifyInbounds {selected : InboundRow → Bool} {change : InboundRow → InboundRow}
    (keeps : ∀ row, (change row).id = row.id) (sound : CopiesSound history store)
    (protocols : ∀ row, (change row).protocol = row.protocol) (remarks : ∀ row, (change row).remark = row.remark) :
    CopiesSound history { store with inbounds := store.inbounds.modifyWhere selected change keeps } := by
  refine sound.keep (keepsNames_modifyInbounds keeps protocols remarks) (List.Subset.refl _) ?_
  intro row member
  dsimp only at member
  obtain ⟨old, stored, rfl⟩ := Serial.mem_modifyWhere.mp member
  split
  · rw [remarks]
    exact sound.remarks old stored
  · exact sound.remarks old stored

theorem applyCertificateToInbounds_copies {cert : Certificate} {ids : List Int} {inbounds : List Inbound}
    (sound : CopiesSound history store) (done : applyCertificateToInbounds cert ids store = .ok (after, inbounds)) :
    CopiesSound history after := by
  refine foldlM_invariant (fun state : Store × List Inbound => CopiesSound history state.1) sound ?_ done
  intro id _ before next kept turned
  simp only [applyCertificateToInbound, bind_eq_ok, pure_eq_ok] at turned
  obtain ⟨_, _, _, _, _, _, rfl⟩ := turned
  exact kept.modifyInbounds (certifyInbound_id cert) (fun _ => rfl) fun _ => rfl

theorem setInboundEnabled_copies {id : Int} {enabled : Bool} {inbound : Inbound} (sound : CopiesSound history store)
    (done : setInboundEnabled id enabled store = .ok (after, inbound)) : CopiesSound history after := by
  simp only [setInboundEnabled, bind_eq_ok, pure_eq_ok, Prod.mk.injEq] at done
  obtain ⟨_, _, rfl, _⟩ := done
  exact sound.modifyInbounds (enableInbound_id enabled) (fun _ => rfl) fun _ => rfl

/-- The rules that stay name neither the inbound nor a client of it. -/
theorem deleteInbound_copies {id : Int} (sound : CopiesSound history store) (done : deleteInbound id store = .ok after) :
    CopiesSound history after := by
  simp only [deleteInbound, bind_eq_ok, expect_eq_ok, pure_eq_ok] at done
  obtain ⟨inbound, found, rfl⟩ := done
  have numbered := Serial.id_of_find? found
  constructor
  · intro rule member
    obtain ⟨stored, stays⟩ := Serial.mem_deleteWhere.mp member
    have consistent := sound.rules rule stored
    simp only [ruleGoesWithInbound, numbered, Bool.or_eq_false_iff, beq_eq_false_iff_ne] at stays
    have other : rule.inboundID ≠ id := stays.2
    constructor
    · exact consistent.snapshot
    · exact consistent.outbound
    · intro named
      obtain ⟨client, there, same⟩ := mem_clientNames.mp (consistent.client named)
      refine mem_clientNames.mpr ⟨client, Serial.mem_deleteWhere.mpr ⟨there, ?_⟩, same⟩
      rw [same.2.1]
      exact beq_eq_false_iff_ne.mpr other
    · intro unmarked bound
      obtain ⟨row, there, same⟩ := mem_inboundNames.mp (consistent.inbound unmarked bound)
      refine mem_inboundNames.mpr ⟨row, Serial.mem_deleteWhere.mpr ⟨there, ?_⟩, same⟩
      rw [same.1]
      exact beq_eq_false_iff_ne.mpr other
  · exact fun row member => sound.remarks row (Serial.mem_deleteWhere.mp member).1

theorem createClient_copies {params : CreateClientParams} {client : Client} (sound : CopiesSound history store)
    (done : createClient entropy params store = .ok (after, client)) : CopiesSound history after := by
  simp only [createClient, bind_eq_ok] at done
  obtain ⟨_, _, _, _, prepared, _, inserting⟩ := done
  have keeps := keepsNames_insertClient inserting
  obtain ⟨rfl, _⟩ := insertClient_spec inserting
  exact sound.keep keeps (List.Subset.refl _) sound.remarks

theorem setClientEnabled_copies {inboundID id : Int} {enabled : Bool} {client : Client} (sound : CopiesSound history store)
    (done : setClientEnabled inboundID id enabled store = .ok (after, client)) : CopiesSound history after := by
  simp only [setClientEnabled, bind_eq_ok, pure_eq_ok, Prod.mk.injEq] at done
  obtain ⟨_, _, rfl, _⟩ := done
  refine sound.keep (keepsNames_clients ?_) (List.Subset.refl _) sound.remarks
  rw [Serial.map_modifyWhere]
  · exact List.Subset.refl _
  · exact fun _ _ _ => rfl

theorem deleteClient_copies {id : Int} (sound : CopiesSound history store) (done : deleteClient id store = .ok after) :
    CopiesSound history after := by
  simp only [deleteClient, bind_eq_ok, pure_eq_ok] at done
  obtain ⟨_, _, rfl⟩ := done
  refine ⟨fun rule member => ?_, sound.remarks⟩
  obtain ⟨stored, stays⟩ := Serial.mem_deleteWhere.mp member
  have consistent := sound.rules rule stored
  refine ⟨consistent.snapshot, consistent.outbound, fun named => ?_, consistent.inbound⟩
  obtain ⟨client, there, same⟩ := mem_clientNames.mp (consistent.client named)
  refine mem_clientNames.mpr ⟨client, Serial.mem_deleteWhere.mpr ⟨there, ?_⟩, same⟩
  rw [same.1]
  exact stays

/-- The rules of the client get its new email. -/
theorem updateClient_copies {id : Int} {params : UpdateClientParams} {client : Client} (clients : ClientsSound store)
    (sound : CopiesSound history store) (done : updateClient entropy id params store = .ok (after, client)) :
    CopiesSound history after := by
  simp only [updateClient, bind_eq_ok, expect_eq_ok, pure_eq_ok, Prod.mk.injEq] at done
  obtain ⟨current, found, inbound, _, _, _, _, _, rfl, _⟩ := done
  have stored := Serial.mem_of_find? found
  have numbered := Serial.id_of_find? found
  refine ⟨fun rule member => ?_, sound.remarks⟩
  -- the rule as it was, and the email it now repeats
  obtain ⟨old, there, written⟩ : ∃ old ∈ store.routingRules.rows,
      rule = if old.clientID = id then renameRuleClient (clientEmail params.email) old else old := by
    dsimp only at member
    split at member
    · obtain ⟨old, there, rfl⟩ := Serial.mem_modifyWhere.mp member
      refine ⟨old, there, ?_⟩
      simp only [beq_iff_eq]
    · rename_i kept
      refine ⟨rule, member, ?_⟩
      split
      · rename_i chosen
        have consistent := sound.rules rule member
        have named : rule.clientID ≠ 0 := by
          have positive := store.clients.positive current stored
          omega
        obtain ⟨owner, ownerStored, same, _, email⟩ := mem_clientNames.mp (consistent.client named)
        have owns : owner = current := Serial.eq_of_id_eq ownerStored stored (by omega)
        rw [not_not, (clients.tidy current stored).trimmed, ← owns, email] at kept
        rw [← kept]
        rfl
      · rfl
  have consistent := sound.rules old there
  by_cases chosen : old.clientID = id
  · rw [written, if_pos chosen]
    refine ⟨consistent.snapshot, consistent.outbound, fun named => ?_, consistent.inbound⟩
    obtain ⟨owner, ownerStored, same, bound, _⟩ := mem_clientNames.mp (consistent.client named)
    refine mem_clientNames.mpr ⟨_, List.mem_map.mpr ⟨owner, ownerStored, if_pos ?_⟩, same, bound, rfl⟩
    exact beq_iff_eq.mpr (same.trans chosen)
  · rw [written, if_neg chosen]
    refine ⟨consistent.snapshot, consistent.outbound, fun named => ?_, consistent.inbound⟩
    obtain ⟨owner, ownerStored, same⟩ := mem_clientNames.mp (consistent.client named)
    refine mem_clientNames.mpr ⟨owner, List.mem_map.mpr ⟨owner, ownerStored, if_neg ?_⟩, same⟩
    rw [beq_iff_eq, same.1]
    exact chosen

end MiGate.Db
