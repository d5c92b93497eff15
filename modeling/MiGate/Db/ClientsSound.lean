import MiGate.Db.Events
import MiGate.Db.Frames
import MiGate.Db.Refinement

namespace MiGate.Db

open Go Fallible Relational Routing Transition

variable {platform : Platform} {entropy : Entropy} {store after : Store}

/-! The invariant of the store survives its being opened again. -/

theorem StoreInv.insertOutbound {row : Outbound} (inv : StoreInv store) (sound : row.Sound) :
    StoreInv (insertOutboundRow row store) where
  rows := insertOutboundRow_rows inv.rows sound
  topology := by
    rw [insertOutboundRow_topology]
    refine ⟨fun link member => ?_, inv.topology.clients⟩
    refine (inv.topology.rules link member).mono (List.Subset.refl _) (List.Subset.refl _) ?_
    exact List.map_subset _ (List.subset_append_left _ _)

theorem StoreInv.seed {row : Outbound} (sound : row.Sound) (inv : StoreInv store) :
    StoreInv (seedOutbound row store) := by
  unfold seedOutbound
  split
  · exact inv
  · exact inv.insertOutbound sound

theorem StoreInv.reopen (inv : StoreInv store) : StoreInv store.reopen := by
  have direct : directOutbound.Sound := ⟨by with_unfolding_all decide, by with_unfolding_all decide⟩
  have blocked : blockedOutbound.Sound := ⟨by with_unfolding_all decide, by with_unfolding_all decide⟩
  have dns : dnsOutbound.Sound := ⟨by with_unfolding_all decide, by with_unfolding_all decide⟩
  have same : StoreInv { store with nextTrafficSamplesCleanup := zeroInstant } := ⟨{ inv.rows with }, inv.topology⟩
  rw [reopen_eq]
  exact (same.seed direct |>.seed blocked) |>.seed dns

theorem events_inv (reached : Reach (Steps (eventStep platform)) Store.initial store) : StoreInv store := by
  induction reached with
  | start => exact storeInv_initial
  | @step before _ event _ stepped ih =>
      cases event with
      | operate op => exact ih.step (storeStep_eq_some.mp stepped)
      | reopen =>
          rw [← Option.some.inj stepped]
          exact ih.reopen

/-! The credentials of the clients: written as they are read, unique, and what the protocol of
their inbound asks for. -/

/-- The columns a client is recognised by are trimmed and given. -/
structure Client.Tidy (client : Client) : Prop where
  uuid : trimSpace client.uuid = client.uuid
  uuidGiven : client.uuid ≠ ""
  password : trimSpace client.password = client.password
  email : clientEmail client.email = client.email

structure ClientsSound (store : Store) : Prop where
  tidy : ∀ client ∈ store.clients.rows, client.Tidy
  uuids : (store.clients.rows.map Client.uuid).Nodup
  emails : (store.clients.rows.map fun client => (client.inboundID, client.email)).Nodup
  valid : ∀ client ∈ store.clients.rows, ∀ row ∈ store.inbounds.rows, row.id = client.inboundID →
    validateClientCredential row.protocol client = .ok ()

theorem normalizeClientCredentials_tidy (entropy : Entropy) (protocol uuid credentialID password : String) :
    let given := normalizeClientCredentials entropy protocol uuid credentialID password
    trimSpace given.uuid = given.uuid ∧ given.uuid ≠ "" ∧ trimSpace given.password = given.password := by
  have asked : trimSpace (orElse (trimSpace credentialID) (trimSpace uuid)) =
      orElse (trimSpace credentialID) (trimSpace uuid) :=
    trimSpace_orElse (trimSpace_trimSpace _) (trimSpace_trimSpace _)
  have generatedUUID := (spaceless_newUUID entropy.credentialUUID).trimSpace
  have generatedSecret := (spaceless_newSecret entropy.secret).trimSpace
  have generatedName := (spaceless_username entropy).trimSpace
  have secretGiven := newSecret_ne_empty entropy.secret
  have blank : trimSpace "" = "" := trimSpace_empty
  simp only [normalizeClientCredentials]
  cases (getInboundCapability protocol).map InboundCapability.credentialType with
  | none =>
      exact ⟨trimSpace_orElse (trimSpace_trimSpace _) generatedUUID, orElse_ne_empty (newUUID_ne_empty _),
        trimSpace_trimSpace _⟩
  | some kind =>
      cases kind with
      | none =>
          exact ⟨trimSpace_orElse (trimSpace_trimSpace _) generatedSecret, orElse_ne_empty secretGiven, blank⟩
      | uuid => exact ⟨trimSpace_orElse asked generatedUUID, orElse_ne_empty (newUUID_ne_empty _), blank⟩
      | password =>
          have secret : trimSpace (orElse (orElse (trimSpace password) (trimSpace uuid)) (newSecret entropy.secret)) =
              orElse (orElse (trimSpace password) (trimSpace uuid)) (newSecret entropy.secret) :=
            trimSpace_orElse (trimSpace_orElse (trimSpace_trimSpace _) (trimSpace_trimSpace _)) generatedSecret
          exact ⟨secret, orElse_ne_empty secretGiven, secret⟩
      | credentialIDPassword =>
          exact ⟨trimSpace_orElse asked generatedUUID, orElse_ne_empty (newUUID_ne_empty _),
            trimSpace_orElse (trimSpace_trimSpace _) generatedSecret⟩
      | usernamePassword =>
          exact ⟨trimSpace_orElse asked generatedName, orElse_ne_empty (append_ne_empty (by decide)),
            trimSpace_orElse (trimSpace_trimSpace _) generatedSecret⟩

theorem updatedClientCredentials_tidy (entropy : Entropy) (protocol : String) (params : UpdateClientParams)
    (client : Client) :
    let given := updatedClientCredentials entropy protocol params client
    trimSpace given.uuid = given.uuid ∧ given.uuid ≠ "" ∧ trimSpace given.password = given.password := by
  simp only [updatedClientCredentials]
  split <;> exact normalizeClientCredentials_tidy ..

theorem clientEmail_idempotent (email : String) : clientEmail (clientEmail email) = clientEmail email := by
  have given : clientEmail email ≠ "" := orElse_ne_empty (by decide)
  have trimmed : trimSpace (clientEmail email) = clientEmail email :=
    trimSpace_orElse (trimSpace_trimSpace _) (by with_unfolding_all decide)
  rw [clientEmail, trimmed, orElse, if_neg given]

/-- The validation reads the credentials only, and the protocol by its capability. -/
theorem validateClientCredential_congr {protocol other : String} {client row : Client}
    (capability : getInboundCapability protocol = getInboundCapability other) (uuid : client.uuid = row.uuid)
    (credentialID : client.credentialID = row.credentialID) (password : client.password = row.password) :
    validateClientCredential protocol client = .ok () ↔ validateClientCredential other row = .ok () := by
  have id : client.credentialIDValue = row.credentialIDValue := by
    rw [Client.credentialIDValue, Client.credentialIDValue, uuid, credentialID]
  simp only [validateClientCredential, capability, id, password, bind_eq_ok, expect_eq_ok]

/-- A new client whose credentials and email no other one has. -/
theorem ClientsSound.insert {client : Client} (sound : ClientsSound store) (tidy : client.Tidy)
    (freshUUID : client.uuid ∉ store.clients.rows.map Client.uuid)
    (freshEmail : ∀ other ∈ store.clients.rows, other.inboundID = client.inboundID → other.email ≠ client.email)
    (valid : ∀ row ∈ store.inbounds.rows, row.id = client.inboundID →
      validateClientCredential row.protocol client = .ok ()) :
    ClientsSound { store with clients := store.clients.insert (fun id => { client with id }) fun _ => rfl } where
  tidy := by
    intro row member
    rcases Serial.mem_insert.mp member with old | new
    · exact sound.tidy row old
    · rw [new]
      exact ⟨tidy.uuid, tidy.uuidGiven, tidy.password, tidy.email⟩
  uuids := by
    rw [Serial.map_insert]
    exact nodup_append_fresh sound.uuids freshUUID
  emails := by
    rw [Serial.map_insert]
    refine nodup_append_fresh sound.emails fun member => ?_
    obtain ⟨other, inside, same⟩ := List.mem_map.mp member
    exact freshEmail other inside (congrArg Prod.fst same) (congrArg Prod.snd same)
  valid := by
    intro row member inbound stored bound
    rcases Serial.mem_insert.mp member with old | new
    · exact sound.valid row old inbound stored bound
    · rw [new] at bound ⊢
      exact (validateClientCredential_congr rfl rfl rfl rfl).mp (valid inbound stored bound)

theorem ClientsSound.delete (sound : ClientsSound store) (gone : Client → Bool) :
    ClientsSound { store with clients := store.clients.deleteWhere gone } where
  tidy := fun client member => sound.tidy client (Serial.mem_deleteWhere.mp member).1
  uuids := sound.uuids.sublist (List.filter_sublist.map _)
  emails := sound.emails.sublist (List.filter_sublist.map _)
  valid := fun client member => sound.valid client (Serial.mem_deleteWhere.mp member).1

/-- Inbounds may go, or change so that their clients still have valid credentials. -/
theorem ClientsSound.inbounds {inbounds : Serial InboundRow.id} (sound : ClientsSound store)
    (kept : ∀ client ∈ store.clients.rows, ∀ row ∈ inbounds.rows, row.id = client.inboundID →
      ∃ old ∈ store.inbounds.rows, old.id = row.id ∧
        (validateClientCredential old.protocol client = .ok () →
          validateClientCredential row.protocol client = .ok ())) :
    ClientsSound { store with inbounds } where
  tidy := sound.tidy
  uuids := sound.uuids
  emails := sound.emails
  valid := by
    intro client member row stored bound
    obtain ⟨old, there, named, still⟩ := kept client member row stored bound
    exact still (sound.valid client member old there (named.trans bound))

/-- The invariant speaks of the inbounds and the clients only. -/
theorem ClientsSound.congr (sound : ClientsSound store) (inbounds : after.inbounds = store.inbounds)
    (clients : after.clients = store.clients) : ClientsSound after where
  tidy := by rw [clients]; exact sound.tidy
  uuids := by rw [clients]; exact sound.uuids
  emails := by rw [clients]; exact sound.emails
  valid := by rw [clients, inbounds]; exact sound.valid

theorem checkClientDuplicates_eq_ok {others : List Client} {inboundID : Int} {email : String}
    {credentials : ClientCredentials} (checked : checkClientDuplicates others inboundID email credentials = .ok ()) :
    (∀ other ∈ others, other.inboundID = inboundID → other.email ≠ email) ∧
      (∀ other ∈ others, other.uuid ≠ credentials.uuid) := by
  simp only [checkClientDuplicates, bind_eq_ok, require_eq_ok, Bool.not_eq_true', List.any_eq_false,
    Bool.and_eq_true, beq_iff_eq, not_and] at checked
  obtain ⟨_, emails, _, uuids, _⟩ := checked
  exact ⟨emails, uuids⟩

theorem prepareClientForCreate_sound {protocol : String} {params : CreateClientParams} {client : Client}
    (prepared : prepareClientForCreate entropy protocol params store = .ok client) :
    client.Tidy ∧ validateClientCredential protocol client = .ok () ∧
      (∀ other ∈ store.clients.rows, other.inboundID = params.inboundID → other.email ≠ client.email) := by
  simp only [prepareClientForCreate, bind_eq_ok, pure_eq_ok] at prepared
  obtain ⟨_, valid, _, checked, _, _, _, _, rfl⟩ := prepared
  obtain ⟨uuid, given, password⟩ := normalizeClientCredentials_tidy entropy protocol params.uuid
    params.credentialID params.password
  exact ⟨⟨uuid, given, password, clientEmail_idempotent _⟩,
    (validateClientCredential_congr rfl rfl rfl rfl).mp valid, (checkClientDuplicates_eq_ok checked).1⟩

theorem insertClient_fresh {client inserted : Client} (done : insertClient client store = .ok (after, inserted)) :
    client.uuid ∉ store.clients.rows.map Client.uuid := by
  simp only [insertClient, bind_eq_ok, require_eq_ok, Bool.not_eq_true', List.any_eq_false, beq_iff_eq] at done
  obtain ⟨_, fresh, _⟩ := done
  intro member
  obtain ⟨row, inside, same⟩ := List.mem_map.mp member
  exact fresh row inside same

theorem createClient_clients {params : CreateClientParams} {client : Client} (sound : ClientsSound store)
    (done : createClient entropy params store = .ok (after, client)) : ClientsSound after := by
  simp only [createClient, bind_eq_ok] at done
  obtain ⟨_, _, inbound, loaded, prepared, preparing, inserting⟩ := done
  obtain ⟨row, found, rfl⟩ := getInboundBasic_spec loaded
  obtain ⟨tidy, valid, emails⟩ := prepareClientForCreate_sound preparing
  have bound := (prepareClientForCreate_spec preparing).2
  have fresh := insertClient_fresh inserting
  obtain ⟨rfl, _⟩ := insertClient_spec inserting
  refine sound.insert tidy fresh ?_ ?_
  · rw [bound]
    exact emails
  · intro other stored named
    have same : other = row :=
      Serial.eq_of_id_eq stored (Serial.mem_of_find? found) ((named.trans bound).trans (Serial.id_of_find? found).symm)
    rw [same]
    exact valid

/-- A new inbound has no clients yet. -/
theorem ClientsSound.insertInbound {row inserted : InboundRow} (sound : ClientsSound store) (inv : StoreInv store)
    (done : Db.insertInbound entropy row store = .ok (after, inserted)) : ClientsSound after := by
  obtain ⟨rfl, _⟩ := insertInbound_spec done
  refine sound.inbounds fun client member other stored bound => ?_
  rcases Serial.mem_insert.mp stored with old | new
  · exact ⟨other, old, rfl, id⟩
  · have dwelling : client.inboundID ∈ store.inbounds.rows.map InboundRow.id :=
      mem_inboundIDs.mp (inv.topology.clients client.membership (List.mem_map_of_mem member))
    rw [← bound, new] at dwelling
    exact absurd dwelling Serial.next_fresh

theorem createInbound_clients {params : CreateInboundParams} {inbound : Inbound} (sound : ClientsSound store)
    (inv : StoreInv store) (done : createInbound platform entropy params store = .ok (after, inbound)) :
    ClientsSound after := by
  simp only [createInbound, bind_eq_ok] at done
  obtain ⟨row, preparing, rest⟩ := done
  cases initial : params.initialClient with
  | none =>
      simp only [initial, bind_eq_ok, pure_eq_ok, Prod.mk.injEq, Prod.exists] at rest
      obtain ⟨_, _, inserted, rfl, _⟩ := rest
      exact sound.insertInbound inv inserted
  | some initialClient =>
      simp only [initial, bind_eq_ok, pure_eq_ok, Prod.mk.injEq, Prod.exists] at rest
      obtain ⟨prepared, preparingClient, withInbound, inserted, insertingInbound, _, _, inserting, rfl, _⟩ := rest
      obtain ⟨tidy, valid, _⟩ := prepareClientForCreate_sound preparingClient
      have fresh := insertClient_fresh inserting
      have entered := sound.insertInbound inv insertingInbound
      obtain ⟨made, numbered⟩ := insertInbound_spec insertingInbound
      obtain ⟨rfl, _⟩ := insertClient_spec inserting
      refine entered.insert ⟨tidy.uuid, tidy.uuidGiven, tidy.password, tidy.email⟩ fresh ?_ ?_
      · intro other member same
        rw [made] at member
        have dwelling : other.inboundID ∈ store.inbounds.rows.map InboundRow.id :=
          mem_inboundIDs.mp (inv.topology.clients other.membership (List.mem_map_of_mem member))
        rw [same, numbered] at dwelling
        exact absurd dwelling Serial.next_fresh
      · intro other stored named
        rw [made] at stored
        rcases Serial.mem_insert.mp stored with old | new
        · have inside := List.mem_map_of_mem (f := InboundRow.id) old
          rw [named, numbered] at inside
          exact absurd inside Serial.next_fresh
        · rw [new]
          exact (validateClientCredential_congr rfl rfl rfl rfl).mp valid

theorem ClientsSound.modifyInbounds {selected : InboundRow → Bool} {change : InboundRow → InboundRow}
    (keeps : ∀ row, (change row).id = row.id) (sound : ClientsSound store)
    (protocol : ∀ row, (change row).protocol = row.protocol) :
    ClientsSound { store with inbounds := store.inbounds.modifyWhere selected change keeps } := by
  refine sound.inbounds fun client _ row stored _ => ?_
  obtain ⟨old, there, rfl⟩ := Serial.mem_modifyWhere.mp stored
  refine ⟨old, there, ?_, ?_⟩
  · split
    · rw [keeps]
    · rfl
  · split
    · rw [protocol]
      exact id
    · exact id

theorem applyCertificateToInbounds_clients {cert : Certificate} {ids : List Int} {inbounds : List Inbound}
    (sound : ClientsSound store) (done : applyCertificateToInbounds cert ids store = .ok (after, inbounds)) :
    ClientsSound after := by
  refine foldlM_invariant (fun state : Store × List Inbound => ClientsSound state.1) sound ?_ done
  intro id _ before next kept turned
  simp only [applyCertificateToInbound, bind_eq_ok, pure_eq_ok] at turned
  obtain ⟨_, _, _, _, _, _, rfl⟩ := turned
  exact kept.modifyInbounds (certifyInbound_id cert) fun _ => rfl

theorem validateExistingClients_eq_ok {inboundID : Int} {protocol : String}
    (validated : validateExistingClientsForProtocolChange inboundID protocol store = .ok ()) {client : Client}
    (member : client ∈ store.clients.rows) (bound : client.inboundID = inboundID) :
    validateClientCredential protocol client = .ok () := by
  have each : ∀ clients : List Client,
      clients.foldlM (fun _ client => validateExistingClient protocol client) () = .ok () →
      ∀ client ∈ clients, validateExistingClient protocol client = .ok () := by
    intro clients
    induction clients with
    | nil => exact fun _ client member => absurd member List.not_mem_nil
    | cons first rest ih =>
        intro looped
        rw [List.foldlM_cons, bind_eq_ok] at looped
        obtain ⟨_, firstValid, restValid⟩ := looped
        exact List.forall_mem_cons.mpr ⟨firstValid, ih restValid⟩
  have existing := each _ validated client (List.mem_filter.mpr ⟨member, beq_iff_eq.mpr bound⟩)
  unfold validateExistingClient at existing
  cases valid : validateClientCredential protocol client with
  | ok done => rfl
  | error reason =>
      rw [valid] at existing
      cases existing

/-- A change of protocol is refused if a client of the inbound does not have what the new one asks for. -/
theorem updateInbound_clients {id : Int} {params : UpdateInboundParams} {inbound : Inbound}
    (sound : ClientsSound store) (done : updateInbound platform entropy id params store = .ok (after, inbound)) :
    ClientsSound after := by
  simp only [updateInbound, bind_eq_ok, expect_eq_ok, onlyIf_eq_ok, pure_eq_ok, Prod.mk.injEq] at done
  obtain ⟨row, preparing, old, found, _, validated, _, _, _, _, rfl, _⟩ := done
  have kept : ClientsSound { store with
      inbounds := store.inbounds.modifyWhere (fun other => other.id == id)
        (updateInboundRow row.toInboundSettings row.core row.enabled)
        (updateInboundRow_id row.toInboundSettings row.core row.enabled) } := by
    refine sound.inbounds fun client member other stored bound => ?_
    obtain ⟨before, there, rfl⟩ := Serial.mem_modifyWhere.mp stored
    refine ⟨before, there, ?_, fun valid => ?_⟩
    · split <;> rfl
    · split at bound
      · rename_i chosen
        rw [if_pos chosen]
        have same : before = old := Serial.eq_of_id_eq there (Serial.mem_of_find? found)
          ((beq_iff_eq.mp chosen).trans (Serial.id_of_find? found).symm)
        by_cases changed : normalizeInboundProtocol old.protocol = row.protocol
        · have capability : getInboundCapability before.protocol = getInboundCapability row.protocol := by
            rw [same, ← changed, getInboundCapability_normalize]
          exact (validateClientCredential_congr capability rfl rfl rfl).mp valid
        · refine validateExistingClients_eq_ok (validated changed) member ?_
          rw [← bound]
          exact beq_iff_eq.mp chosen
      · rename_i others
        rw [if_neg others]
        exact valid
  exact kept.congr rfl rfl

theorem updateClient_clients {id : Int} {params : UpdateClientParams} {client : Client} (sound : ClientsSound store)
    (done : updateClient entropy id params store = .ok (after, client)) : ClientsSound after := by
  simp only [updateClient, bind_eq_ok, expect_eq_ok, pure_eq_ok, Prod.mk.injEq] at done
  obtain ⟨current, found, inbound, loaded, _, valid, _, checked, rfl, _⟩ := done
  obtain ⟨stored, there, rfl⟩ := getInboundBasic_spec loaded
  obtain ⟨emails, uuids⟩ := checkClientDuplicates_eq_ok checked
  obtain ⟨uuid, given, password⟩ := updatedClientCredentials_tidy entropy (loadInbound stored).protocol params current
  have apart : ∀ other ∈ store.clients.rows, other.id ≠ id →
      other ∈ store.clients.rows.filter fun row => row.id != id :=
    fun other member different => List.mem_filter.mpr ⟨member, bne_iff_ne.mpr different⟩
  have chosen : ∀ row ∈ store.clients.rows, (row.id == id) = true → row = current := fun row member named =>
    Serial.eq_of_id_eq member (Serial.mem_of_find? found) ((beq_iff_eq.mp named).trans (Serial.id_of_find? found).symm)
  constructor
  case tidy =>
      intro row member
      dsimp only at member
      obtain ⟨old, inside, rfl⟩ := Serial.mem_modifyWhere.mp member
      split
      · exact ⟨uuid, given, password, clientEmail_idempotent _⟩
      · exact sound.tidy old inside
  case uuids =>
      refine Serial.nodup_modifyWhere (updateClientRow_id _ _ _) sound.uuids
        (fun row _ named => beq_iff_eq.mp named) ?_
      intro row _ _ other member different
      exact uuids other (apart other member different)
  case emails =>
      refine Serial.nodup_modifyWhere (updateClientRow_id _ _ _) sound.emails
        (fun row _ named => beq_iff_eq.mp named) ?_
      intro row inside named other member different same
      have bound : other.inboundID = current.inboundID := by
        rw [← chosen row inside named]
        exact congrArg Prod.fst same
      exact emails other (apart other member different) bound (congrArg Prod.snd same)
  case valid =>
      intro row member target targetStored bound
      dsimp only at member targetStored
      obtain ⟨old, inside, rfl⟩ := Serial.mem_modifyWhere.mp member
      split at bound
      · rename_i named
        rw [if_pos named]
        have same : target = stored := by
          refine Serial.eq_of_id_eq targetStored (Serial.mem_of_find? there) ?_
          rw [bound, Serial.id_of_find? there, ← chosen old inside named]
          rfl
        rw [same]
        exact (validateClientCredential_congr rfl rfl rfl rfl).mp valid
      · rename_i others
        rw [if_neg others]
        exact sound.valid old inside target targetStored bound

theorem setClientEnabled_clients {inboundID id : Int} {enabled : Bool} {client : Client} (sound : ClientsSound store)
    (done : setClientEnabled inboundID id enabled store = .ok (after, client)) : ClientsSound after := by
  simp only [setClientEnabled, bind_eq_ok, pure_eq_ok, Prod.mk.injEq] at done
  obtain ⟨_, _, rfl, _⟩ := done
  have kept : ∀ row ∈ (store.clients.modifyWhere (fun row => row.inboundID == inboundID && row.id == id)
      (enableClient enabled) (enableClient_id enabled)).rows, ∃ old ∈ store.clients.rows,
        row = enableClient row.enabled old := by
    intro row member
    obtain ⟨old, inside, rfl⟩ := Serial.mem_modifyWhere.mp member
    refine ⟨old, inside, ?_⟩
    split <;> rfl
  constructor
  case tidy =>
      intro row member
      obtain ⟨old, inside, same⟩ := kept row member
      have tidy := sound.tidy old inside
      rw [same]
      exact ⟨tidy.uuid, tidy.uuidGiven, tidy.password, tidy.email⟩
  case uuids =>
      dsimp only
      rw [Serial.map_modifyWhere]
      · exact sound.uuids
      · exact fun _ _ _ => rfl
  case emails =>
      dsimp only
      rw [Serial.map_modifyWhere]
      · exact sound.emails
      · exact fun _ _ _ => rfl
  case valid =>
      intro row member inbound stored bound
      obtain ⟨old, inside, same⟩ := kept row member
      rw [same] at bound ⊢
      exact (validateClientCredential_congr rfl rfl rfl rfl).mp (sound.valid old inside inbound stored bound)

theorem operate_clients {op : StoreOp} (inv : StoreInv store) (sound : ClientsSound store)
    (done : op.run platform store = .ok after) : ClientsSound after := by
  cases op with
  | createInbound entropy params =>
      obtain ⟨_, created⟩ := map_fst_eq_ok.mp done
      exact createInbound_clients sound inv created
  | updateInbound entropy id params =>
      obtain ⟨_, updated⟩ := map_fst_eq_ok.mp done
      exact updateInbound_clients sound updated
  | deleteInbound id =>
      simp only [StoreOp.run, Db.deleteInbound, bind_eq_ok, pure_eq_ok] at done
      obtain ⟨_, _, rfl⟩ := done
      refine ((sound.delete fun client => client.inboundID == id).inbounds ?_).congr rfl rfl
      intro client _ row stored _
      exact ⟨row, (Serial.mem_deleteWhere.mp stored).1, rfl, fun valid => valid⟩
  | setInboundEnabled id enabled =>
      simp only [StoreOp.run, map_fst_eq_ok, Db.setInboundEnabled, bind_eq_ok, pure_eq_ok, Prod.mk.injEq] at done
      obtain ⟨_, _, _, rfl, _⟩ := done
      exact sound.modifyInbounds (enableInbound_id enabled) fun _ => rfl
  | applyCertificateToInbounds cert inboundIDs =>
      obtain ⟨_, applied⟩ := map_fst_eq_ok.mp done
      exact applyCertificateToInbounds_clients sound applied
  | createClient entropy params =>
      obtain ⟨_, created⟩ := map_fst_eq_ok.mp done
      exact createClient_clients sound created
  | updateClient entropy id params =>
      obtain ⟨_, updated⟩ := map_fst_eq_ok.mp done
      exact updateClient_clients sound updated
  | deleteClient id =>
      simp only [StoreOp.run, Db.deleteClient, bind_eq_ok, pure_eq_ok] at done
      obtain ⟨_, _, rfl⟩ := done
      exact (sound.delete fun client => client.id == id).congr rfl rfl
  | setClientEnabled inboundID id enabled =>
      obtain ⟨_, switched⟩ := map_fst_eq_ok.mp done
      exact setClientEnabled_clients sound switched
  | _ =>
      have only := run_onlyWrites done
      exact sound.congr (congrArg Store.inbounds only).symm (congrArg Store.clients only).symm

theorem empty_clients : ClientsSound Store.empty where
  tidy := fun _ member => absurd member List.not_mem_nil
  uuids := List.nodup_nil
  emails := List.nodup_nil
  valid := fun _ member => absurd member List.not_mem_nil

theorem reopen_clients (sound : ClientsSound store) : ClientsSound store.reopen := by
  have seeded : ∀ {before : Store} (row : Outbound), ClientsSound before → ClientsSound (seedOutbound row before) := by
    intro before row kept
    unfold seedOutbound
    split
    · exact kept
    · exact kept.congr rfl rfl
  rw [reopen_eq]
  exact seeded _ (seeded _ (seeded _ (sound.congr rfl rfl)))

theorem events_clients (reached : Reach (Steps (eventStep platform)) Store.initial store) : ClientsSound store := by
  induction reached with
  | start => exact reopen_clients empty_clients
  | @step before _ event earlier stepped ih =>
      cases event with
      | operate op => exact operate_clients (events_inv earlier) ih (storeStep_eq_some.mp stepped)
      | reopen =>
          rw [← Option.some.inj stepped]
          exact reopen_clients ih

end MiGate.Db
