import MiGate.Db.Invariant

namespace MiGate.Db

open Go Fallible Relational Routing

variable {entropy : Entropy} {store after : Store}

theorem orElse_ne_empty {value fallback : String} (given : fallback ≠ "") : orElse value fallback ≠ "" := by
  unfold orElse
  split
  · exact given
  · assumption

theorem trimSpace_orElse {value fallback : String} (valueTrimmed : trimSpace value = value)
    (fallbackTrimmed : trimSpace fallback = fallback) :
    trimSpace (orElse value fallback) = orElse value fallback := by
  unfold orElse
  split
  · exact fallbackTrimmed
  · exact valueTrimmed

theorem spaceless_username (entropy : Entropy) : Spaceless ("user-" ++ newSecret entropy.username) := by
  have lead : Spaceless "user-" := by decide
  exact lead.append (spaceless_newSecret _)

theorem append_ne_empty {left right : String} (given : left ≠ "") : left ++ right ≠ "" := by
  intro empty
  have runes := congrArg String.toList empty
  simp_all

/-- The credential identifier a client gets is trimmed and not empty, whatever is asked for. -/
theorem normalizeClientCredentials_id (entropy : Entropy) (protocol uuid credentialID password : String) :
    let given := (normalizeClientCredentials entropy protocol uuid credentialID password).credentialID
    trimSpace given = given ∧ given ≠ "" := by
  have asked : trimSpace (orElse (trimSpace credentialID) (trimSpace uuid)) =
      orElse (trimSpace credentialID) (trimSpace uuid) :=
    trimSpace_orElse (trimSpace_trimSpace _) (trimSpace_trimSpace _)
  have generatedUUID := (spaceless_newUUID entropy.credentialUUID).trimSpace
  have generatedSecret := (spaceless_newSecret entropy.secret).trimSpace
  have generatedName := (spaceless_username entropy).trimSpace
  simp only [normalizeClientCredentials]
  cases (getInboundCapability protocol).map InboundCapability.credentialType with
  | none =>
      exact ⟨trimSpace_orElse (trimSpace_trimSpace _) generatedUUID, orElse_ne_empty (newUUID_ne_empty _)⟩
  | some kind =>
      cases kind with
      | none =>
          exact ⟨trimSpace_orElse (trimSpace_trimSpace _) generatedSecret,
            orElse_ne_empty (newSecret_ne_empty _)⟩
      | usernamePassword =>
          exact ⟨trimSpace_orElse asked generatedName, orElse_ne_empty (append_ne_empty (by decide))⟩
      | uuid | password | credentialIDPassword =>
          exact ⟨trimSpace_orElse asked generatedUUID, orElse_ne_empty (newUUID_ne_empty _)⟩

theorem updatedClientCredentials_id (entropy : Entropy) (protocol : String) (params : UpdateClientParams)
    (client : Client) :
    let given := (updatedClientCredentials entropy protocol params client).credentialID
    trimSpace given = given ∧ given ≠ "" := by
  simp only [updatedClientCredentials]
  split <;> exact normalizeClientCredentials_id ..

theorem newStatsKey_spec {key : String} (drawn : newStatsKey entropy store = .ok key) :
    trimSpace key = key ∧ key ≠ "" := by
  rw [newStatsKey, expect_eq_ok] at drawn
  have member := List.mem_of_find?_eq_some drawn
  obtain ⟨i, _, rfl⟩ := List.mem_map.mp member
  have lead : Spaceless "c_" := by decide
  exact ⟨(lead.append (spaceless_randomHexToken (entropy.statsKeys i))).trimSpace, append_ne_empty (by decide)⟩

theorem prepareClientForCreate_spec {protocol : String} {params : CreateClientParams} {client : Client}
    (prepared : prepareClientForCreate entropy protocol params store = .ok client) :
    client.Sound ∧ client.inboundID = params.inboundID := by
  simp only [prepareClientForCreate, bind_eq_ok, pure_eq_ok] at prepared
  obtain ⟨_, _, _, _, _, _, statsKey, drawn, rfl⟩ := prepared
  have given := normalizeClientCredentials_id entropy protocol params.uuid params.credentialID params.password
  have key := newStatsKey_spec drawn
  exact ⟨⟨given.1, given.2, key.1, key.2⟩, rfl⟩

theorem insertClient_spec {client inserted : Client}
    (done : insertClient client store = .ok (after, inserted)) :
    after = { store with clients := store.clients.insert (fun id => { client with id }) fun _ => rfl } ∧
      (client.credentialID ≠ "" → client.credentialID ∉ store.clients.rows.map Client.credentialID) ∧
      (client.statsKey ≠ "" → client.statsKey ∉ store.clients.rows.map Client.statsKey) := by
  simp only [insertClient, bind_eq_ok, require_eq_ok, pure_eq_ok, Prod.mk.injEq, Bool.or_eq_true,
    beq_iff_eq, Bool.not_eq_true', List.any_eq_false] at done
  obtain ⟨_, _, _, freshID, _, _, _, freshKey, rfl, _⟩ := done
  refine ⟨rfl, fun given member => ?_, fun given member => ?_⟩
  · obtain ⟨row, inside, same⟩ := List.mem_map.mp member
    rcases freshID with empty | fresh
    · exact given empty
    · exact fresh row inside same
  · obtain ⟨row, inside, same⟩ := List.mem_map.mp member
    rcases freshKey with empty | fresh
    · exact given empty
    · exact fresh row inside same

theorem nodup_append_fresh {α : Type} {items : List α} {item : α} (nodup : items.Nodup)
    (fresh : item ∉ items) : (items ++ [item]).Nodup := by
  rw [List.nodup_append]
  refine ⟨nodup, List.nodup_singleton _, ?_⟩
  rintro left leftMember right rightMember rfl
  rw [List.mem_singleton] at rightMember
  exact fresh (rightMember ▸ leftMember)

theorem insertClient_rows {client inserted : Client} (rows : RowsSound store) (sound : client.Sound)
    (done : insertClient client store = .ok (after, inserted)) : RowsSound after := by
  obtain ⟨rfl, freshID, freshKey⟩ := insertClient_spec done
  refine { rows with clients := ?_, statsKeys := ?_, credentialIDs := ?_ }
  · intro row member
    rcases Serial.mem_insert.mp member with old | new
    · exact rows.clients row old
    · rw [new]
      exact ⟨sound.credentialID, sound.credentialIDGiven, sound.statsKey, sound.statsKeyGiven⟩
  · rw [Serial.map_insert]
    exact nodup_append_fresh rows.statsKeys (freshKey sound.statsKeyGiven)
  · rw [Serial.map_insert]
    exact nodup_append_fresh rows.credentialIDs (freshID sound.credentialIDGiven)

theorem insertClient_topology {client inserted : Client}
    (done : insertClient client store = .ok (after, inserted)) :
    topology after = { topology store with
      clients := (topology store).clients ++ [(store.clients.next, client.inboundID)] } := by
  obtain ⟨rfl, _⟩ := insertClient_spec done
  simp only [topology, Serial.map_insert]
  rfl

theorem getInboundBasic_spec {id : Int} {row : InboundRow} (found : getInboundBasic store id = .ok row) :
    ∃ stored, store.inbounds.find? id = some stored ∧ row = loadInbound stored := by
  simp only [getInboundBasic, bind_eq_ok, expect_eq_ok, pure_eq_ok] at found
  obtain ⟨stored, found, rfl⟩ := found
  exact ⟨stored, found, rfl⟩

theorem mem_inboundIDs {id : Int} : id ∈ (topology store).inboundIDs ↔ id ∈ store.inbounds.rows.map InboundRow.id := by
  simp only [Topology.inboundIDs, topology, List.map_map]
  rfl

theorem mem_outboundIDs {id : Int} :
    id ∈ (topology store).outboundIDs ↔ id ∈ store.outbounds.rows.map Outbound.id := by
  simp only [Topology.outboundIDs, topology, List.map_map]
  rfl

theorem createClient_spec {params : CreateClientParams} {client : Client}
    (done : createClient entropy params store = .ok (after, client)) :
    (RowsSound store → RowsSound after) ∧ params.inboundID ∈ (topology store).inboundIDs ∧
      topology after = { topology store with
        clients := (topology store).clients ++ [(store.clients.next, params.inboundID)] } := by
  simp only [createClient, bind_eq_ok, require_eq_ok] at done
  obtain ⟨_, _, inbound, loaded, prepared, preparing, inserting⟩ := done
  obtain ⟨stored, found, rfl⟩ := getInboundBasic_spec loaded
  obtain ⟨sound, bound⟩ := prepareClientForCreate_spec preparing
  refine ⟨fun rows => insertClient_rows rows sound inserting, ?_, ?_⟩
  · rw [mem_inboundIDs, ← Serial.find?_isSome, found]
    rfl
  · rw [insertClient_topology inserting, bound]

theorem updateClient_rows {id : Int} {params : UpdateClientParams} {client : Client} (rows : RowsSound store)
    (done : updateClient entropy id params store = .ok (after, client)) : RowsSound after := by
  simp only [updateClient, bind_eq_ok, expect_eq_ok, pure_eq_ok, Prod.mk.injEq] at done
  obtain ⟨current, _, inbound, _, _, _, _, distinct, rfl, _⟩ := done
  simp only [checkClientDuplicates, bind_eq_ok, require_eq_ok, Bool.or_eq_true, Bool.not_eq_true',
    List.any_eq_false, List.mem_filter, bne_iff_ne, beq_iff_eq] at distinct
  obtain ⟨_, _, _, _, fresh⟩ := distinct
  have given := updatedClientCredentials_id entropy inbound.protocol params current
  refine { rows with clients := ?_, statsKeys := ?_, credentialIDs := ?_ }
  · intro row member
    rw [Serial.mem_modifyWhere] at member
    obtain ⟨old, inside, rfl⟩ := member
    have sound := rows.clients old inside
    split
    · exact ⟨given.1, given.2, sound.statsKey, sound.statsKeyGiven⟩
    · exact sound
  · rw [Serial.map_modifyWhere]
    · exact rows.statsKeys
    · exact fun _ _ _ => rfl
  · refine Serial.nodup_modifyWhere (updateClientRow_id _ _ _) rows.credentialIDs
      (fun row _ chosen => by simpa using chosen) ?_
    intro row inside _ other otherInside distinct
    rcases fresh with empty | unused
    · exact absurd empty given.2
    · exact unused other ⟨otherInside, distinct⟩

theorem updateClient_topology {id : Int} {params : UpdateClientParams} {client : Client}
    (done : updateClient entropy id params store = .ok (after, client)) :
    topology after = topology store := by
  simp only [updateClient, bind_eq_ok, expect_eq_ok, pure_eq_ok, Prod.mk.injEq] at done
  obtain ⟨current, _, inbound, _, _, _, _, _, rfl, _⟩ := done
  simp only [topology]
  rw [Serial.map_modifyWhere]
  · congr 1
    split
    · rw [Serial.map_modifyWhere]
      exact fun _ _ _ => rfl
    · rfl
  · exact fun _ _ _ => rfl

theorem setClientEnabled_rows {inboundID id : Int} {enabled : Bool} {client : Client} (rows : RowsSound store)
    (done : setClientEnabled inboundID id enabled store = .ok (after, client)) : RowsSound after := by
  simp only [setClientEnabled, bind_eq_ok, expect_eq_ok, pure_eq_ok, Prod.mk.injEq] at done
  obtain ⟨_, _, rfl, _⟩ := done
  refine { rows with clients := ?_, statsKeys := ?_, credentialIDs := ?_ }
  · intro row member
    rw [Serial.mem_modifyWhere] at member
    obtain ⟨old, inside, rfl⟩ := member
    have sound := rows.clients old inside
    split
    · exact ⟨sound.credentialID, sound.credentialIDGiven, sound.statsKey, sound.statsKeyGiven⟩
    · exact sound
  · rw [Serial.map_modifyWhere]
    · exact rows.statsKeys
    · exact fun _ _ _ => rfl
  · rw [Serial.map_modifyWhere]
    · exact rows.credentialIDs
    · exact fun _ _ _ => rfl

theorem setClientEnabled_topology {inboundID id : Int} {enabled : Bool} {client : Client}
    (done : setClientEnabled inboundID id enabled store = .ok (after, client)) :
    topology after = topology store := by
  simp only [setClientEnabled, bind_eq_ok, expect_eq_ok, pure_eq_ok, Prod.mk.injEq] at done
  obtain ⟨_, _, rfl, _⟩ := done
  simp only [topology]
  rw [Serial.map_modifyWhere]
  exact fun _ _ _ => rfl

/-- Dropping rows keeps them sound. -/
theorem RowsSound.dropClients (rows : RowsSound store) (gone : Client → Bool) :
    RowsSound { store with clients := store.clients.deleteWhere gone } where
  inbounds := rows.inbounds
  outbounds := rows.outbounds
  clients := fun client member => rows.clients client (Serial.mem_deleteWhere.mp member).1
  statsKeys := rows.statsKeys.sublist (List.filter_sublist.map _)
  credentialIDs := rows.credentialIDs.sublist (List.filter_sublist.map _)

theorem deleteClient_spec {id : Int} (done : deleteClient id store = .ok after) :
    (RowsSound store → RowsSound after) ∧
      topology after = { topology store with
        clients := (topology store).clients.filter fun client => client.1 != id
        rules := (topology store).rules.filter fun link => link.clientID != id } := by
  simp only [deleteClient, bind_eq_ok, require_eq_ok, pure_eq_ok] at done
  obtain ⟨_, _, rfl⟩ := done
  refine ⟨fun rows => ?_, ?_⟩
  · have dropped := rows.dropClients fun client => client.id == id
    exact { dropped with }
  · simp only [topology, Serial.deleteWhere, List.filter_map]
    rfl

end MiGate.Db
