import MiGate.Db.ClientsInv

namespace MiGate.Db

open Go Fallible Relational Routing

variable {platform : Platform} {entropy : Entropy} {store after : Store}

@[simp] theorem normalizeInboundProtocol_idempotent (protocol : String) :
    normalizeInboundProtocol (normalizeInboundProtocol protocol) = normalizeInboundProtocol protocol := by
  simp [normalizeInboundProtocol, trimSpace_toLower]

@[simp] theorem getInboundCapability_normalize (protocol : String) :
    getInboundCapability (normalizeInboundProtocol protocol) = getInboundCapability protocol := by
  simp [getInboundCapability]

@[simp] theorem inferInboundCore_normalize (protocol : String) :
    inferInboundCore (normalizeInboundProtocol protocol) = inferInboundCore protocol := by
  simp [inferInboundCore]

/-- What both ways to write an inbound make of a protocol and a port that pass their checks. -/
theorem InboundRow.Sound.of_checked {row : InboundRow} {protocol : String}
    (named : row.protocol = normalizeInboundProtocol protocol)
    (supported : supportedInboundProtocol (normalizeInboundProtocol protocol) = true)
    (core : row.core = inferInboundCore (normalizeInboundProtocol protocol))
    (port : (decide (0 < row.port) && decide (row.port ≤ 65535)) = true) : row.Sound where
  normal := by rw [named, normalizeInboundProtocol_idempotent]
  supported := by rw [named, supported]
  core := by rw [core, named]
  port := by simpa using port

theorem CreateInboundParams.prepare_spec {params : CreateInboundParams} {row : InboundRow}
    (prepared : params.prepare platform entropy store = .ok row) :
    row.Sound ∧ row.enabled = true ∧ row.core = inferInboundCore params.protocol ∧
      row.protocol = normalizeInboundProtocol params.protocol := by
  simp only [CreateInboundParams.prepare, bind_eq_ok, require_eq_ok, pure_eq_ok] at prepared
  obtain ⟨_, supported, port, _, _, inRange, settings, _, _, _, rfl⟩ := prepared
  exact ⟨.of_checked rfl supported rfl inRange, rfl, inferInboundCore_normalize _, rfl⟩

theorem UpdateInboundParams.prepare_spec {id : Int} {params : UpdateInboundParams} {row : InboundRow}
    (prepared : params.prepare platform entropy id store = .ok row) :
    row.Sound ∧ row.enabled = params.enabled ∧ row.remark ≠ "" ∧
      row.core = inferInboundCore (orElse (normalizeInboundProtocol params.protocol) "vless") := by
  simp only [UpdateInboundParams.prepare, bind_eq_ok, require_eq_ok, pure_eq_ok] at prepared
  obtain ⟨_, named, port, _, _, inRange, _, supported, settings, _, _, _, rfl⟩ := prepared
  have normal : normalizeInboundProtocol (orElse (normalizeInboundProtocol params.protocol) "vless") =
      orElse (normalizeInboundProtocol params.protocol) "vless" := by
    unfold orElse
    split
    · with_unfolding_all decide
    · exact normalizeInboundProtocol_idempotent _
  refine ⟨?_, rfl, by simpa using named, rfl⟩
  exact .of_checked normal.symm (normal.symm ▸ supported) (congrArg inferInboundCore normal.symm) inRange

theorem InboundRow.Sound.congr {row other : InboundRow} (sound : row.Sound)
    (protocol : other.protocol = row.protocol) (core : other.core = row.core) (port : other.port = row.port) :
    other.Sound where
  normal := by rw [protocol, sound.normal]
  supported := by rw [protocol, sound.supported]
  core := by rw [core, protocol, sound.core]
  port := by rw [port]; exact sound.port

theorem insertInbound_spec {row inserted : InboundRow}
    (done : insertInbound entropy row store = .ok (after, inserted)) :
    after = { store with
        inbounds := store.inbounds.insert (fun id => { row with id, uuid := inserted.uuid }) fun _ => rfl } ∧
      inserted.id = store.inbounds.next := by
  simp only [insertInbound, bind_eq_ok, require_eq_ok, pure_eq_ok, Prod.mk.injEq] at done
  obtain ⟨_, _, _, _, rfl, rfl⟩ := done
  exact ⟨rfl, rfl⟩

theorem insertInbound_rows {row inserted : InboundRow} (rows : RowsSound store) (sound : row.Sound)
    (done : insertInbound entropy row store = .ok (after, inserted)) : RowsSound after := by
  obtain ⟨rfl, _⟩ := insertInbound_spec done
  refine { rows with inbounds := ?_ }
  intro other member
  rcases Serial.mem_insert.mp member with old | new
  · exact rows.inbounds other old
  · rw [new]
    exact sound.congr rfl rfl rfl

theorem insertInbound_topology {row inserted : InboundRow}
    (done : insertInbound entropy row store = .ok (after, inserted)) :
    topology after = { topology store with
      inbounds := (topology store).inbounds ++ [⟨store.inbounds.next, row.enabled, row.core⟩] } := by
  obtain ⟨rfl, _⟩ := insertInbound_spec done
  simp only [topology, Serial.map_insert]
  rfl

/-- A created inbound is enabled and comes with at most one client. -/
theorem createInbound_spec {params : CreateInboundParams} {inbound : Inbound}
    (done : createInbound platform entropy params store = .ok (after, inbound)) :
    (RowsSound store → RowsSound after) ∧
      ∃ members : List (Int × Int), (∀ member ∈ members, member.2 = store.inbounds.next) ∧
        topology after = { topology store with
          inbounds := (topology store).inbounds ++
            [⟨store.inbounds.next, true, inferInboundCore params.protocol⟩]
          clients := (topology store).clients ++ members } := by
  simp only [createInbound, bind_eq_ok] at done
  obtain ⟨row, preparing, rest⟩ := done
  obtain ⟨sound, enabled, core, _⟩ := CreateInboundParams.prepare_spec preparing
  cases asked : params.initialClient with
  | none =>
      simp only [asked, bind_eq_ok, pure_eq_ok, Prod.exists, Prod.mk.injEq] at rest
      obtain ⟨_, _, inserting, rfl, _⟩ := rest
      refine ⟨fun rows => insertInbound_rows rows sound inserting, [], by simp, ?_⟩
      rw [insertInbound_topology inserting, enabled, core]
      simp
  | some initialClient =>
      simp only [asked, bind_eq_ok, pure_eq_ok, Prod.exists, Prod.mk.injEq] at rest
      obtain ⟨prepared, preparingClient, withInbound, inserted, inserting, _, _, insertingClient, rfl, _⟩ := rest
      have clientSound := (prepareClientForCreate_spec preparingClient).1
      have numbered := (insertInbound_spec inserting).2
      refine ⟨fun rows => ?_, [(withInbound.clients.next, inserted.id)], by simp [numbered], ?_⟩
      · refine insertClient_rows (insertInbound_rows rows sound inserting) ?_ insertingClient
        exact ⟨clientSound.credentialID, clientSound.credentialIDGiven, clientSound.statsKey,
          clientSound.statsKeyGiven⟩
      · rw [insertClient_topology insertingClient, insertInbound_topology inserting, enabled, core]

theorem topology_modifyInbound {id : Int} {enabled : Bool} {core : String} {change : InboundRow → InboundRow}
    (keeps : ∀ row, (change row).id = row.id) (switched : ∀ row, (change row).enabled = enabled)
    (cored : ∀ row ∈ store.inbounds.rows, row.id = id → (change row).core = core) :
    (store.inbounds.modifyWhere (fun row => row.id == id) change keeps).rows.map InboundRow.entry =
      setEntry id enabled core (topology store).inbounds := by
  simp only [Serial.modifyWhere, setEntry, topology, List.map_map]
  refine List.map_congr_left fun row member => ?_
  simp only [Function.comp_apply, beq_iff_eq, InboundRow.entry]
  by_cases named : row.id = id
  · simp [named, keeps, switched, cored row member named]
  · simp [named]

theorem retagRules_links {applies : Bool} {old new : String} {rules : Serial RoutingRule.id}
    (oldGiven : applies = true → old ≠ "") (newGiven : applies = true → new ≠ "") :
    (retagRules applies old new rules).rows.map RoutingRule.link = rules.rows.map RoutingRule.link := by
  unfold retagRules
  split
  · rename_i applied
    rw [Serial.map_modifyWhere]
    intro rule _ chosen
    have tagged : rule.inboundTag = old := by simpa using chosen
    have oldTagged : (old != "") = true := by simpa using oldGiven applied
    have newTagged : (new != "") = true := by simpa using newGiven applied
    simp only [RoutingRule.link, retagRule, tagged, oldTagged, newTagged]
  · rfl

theorem updateInbound_spec {id : Int} {params : UpdateInboundParams} {inbound : Inbound}
    (done : updateInbound platform entropy id params store = .ok (after, inbound)) :
    (RowsSound store → RowsSound after) ∧
      topology after = { topology store with
        inbounds := setEntry id params.enabled
          (inferInboundCore (orElse (normalizeInboundProtocol params.protocol) "vless"))
          (topology store).inbounds } := by
  simp only [updateInbound, bind_eq_ok, expect_eq_ok, require_eq_ok, onlyIf_eq_ok, pure_eq_ok,
    Prod.mk.injEq] at done
  obtain ⟨row, preparing, old, found, _, _, _, _, _, _, rfl, _⟩ := done
  obtain ⟨sound, enabled, named, core⟩ := UpdateInboundParams.prepare_spec preparing
  have tagGiven : ∀ rest : String, "inbound-" ++ rest ≠ "" := fun rest => append_ne_empty (by decide)
  refine ⟨fun rows => { rows with inbounds := ?_ }, ?_⟩
  · intro other member
    rw [Serial.mem_modifyWhere] at member
    obtain ⟨stored, inside, rfl⟩ := member
    split
    · exact sound.congr rfl rfl rfl
    · exact rows.inbounds stored inside
  · have renamed : ∀ unique rules,
        (retagRules (trimSpace old.remark != "" && trimSpace old.remark != row.remark && unique)
          (trimSpace old.remark) row.remark rules).rows.map RoutingRule.link =
          rules.rows.map RoutingRule.link := by
      intro unique rules
      refine retagRules_links (fun applied => ?_) fun _ => named
      simp only [Bool.and_eq_true, bne_iff_ne] at applied
      exact applied.1.1
    have retagged : ∀ changed, (retagRules changed (generatedTagOf id old.protocol)
        ("inbound-" ++ itoa id ++ "-" ++ row.protocol) store.routingRules).rows.map RoutingRule.link =
          store.routingRules.rows.map RoutingRule.link := by
      intro changed
      refine retagRules_links (fun _ => ?_) fun _ => ?_
      · simp only [generatedTagOf, String.append_assoc]
        exact tagGiven _
      · simp only [String.append_assoc]
        exact tagGiven _
    simp only [topology]
    rw [topology_modifyInbound (updateInboundRow_id _ _ _) (fun _ => enabled) (fun _ _ _ => core), renamed,
      retagged]
    rfl

theorem setInboundEnabled_spec {id : Int} {enabled : Bool} {inbound : Inbound}
    (done : setInboundEnabled id enabled store = .ok (after, inbound)) :
    (RowsSound store → RowsSound after) ∧ ∃ row, store.inbounds.find? id = some row ∧
      topology after = { topology store with
        inbounds := setEntry id enabled row.core (topology store).inbounds } := by
  simp only [setInboundEnabled, bind_eq_ok, expect_eq_ok, pure_eq_ok, Prod.mk.injEq] at done
  obtain ⟨row, found, rfl, _⟩ := done
  refine ⟨fun rows => { rows with inbounds := ?_ }, row, found, ?_⟩
  · intro other member
    rw [Serial.mem_modifyWhere] at member
    obtain ⟨stored, inside, rfl⟩ := member
    have sound := rows.inbounds stored inside
    split
    · exact sound.congr rfl rfl rfl
    · exact sound
  · have cored : ∀ other ∈ store.inbounds.rows, other.id = id → (enableInbound enabled other).core = row.core := by
      intro other member named
      rw [Serial.eq_of_id_eq member (Serial.mem_of_find? found) (named.trans (Serial.id_of_find? found).symm)]
      rfl
    simp only [topology]
    rw [topology_modifyInbound (enableInbound_id enabled) (fun _ => rfl) cored]
    rfl

theorem applyCertificateToInbounds_spec {cert : Certificate} {inboundIDs : List Int}
    {updated : List Inbound} (rows : RowsSound store)
    (done : applyCertificateToInbounds cert inboundIDs store = .ok (after, updated)) :
    RowsSound after ∧ topology after = topology store := by
  refine foldlM_invariant
    (fun state : Store × List Inbound => RowsSound state.1 ∧ topology state.1 = topology store)
    ⟨rows, rfl⟩ ?_ done
  rintro id _ ⟨start, listed⟩ ⟨next, listedNext⟩ ⟨sound, same⟩ turned
  simp only [applyCertificateToInbound, bind_eq_ok, expect_eq_ok, require_eq_ok, pure_eq_ok,
    Prod.mk.injEq] at turned
  obtain ⟨_, _, _, _, _, _, rfl, _⟩ := turned
  refine ⟨{ sound with inbounds := ?_ }, ?_⟩
  · intro other member
    rw [Serial.mem_modifyWhere] at member
    obtain ⟨stored, inside, rfl⟩ := member
    have rowSound := sound.inbounds stored inside
    split
    · exact rowSound.congr rfl rfl rfl
    · exact rowSound
  · rw [← same]
    simp only [topology]
    rw [Serial.map_modifyWhere]
    exact fun _ _ _ => rfl

theorem deleteInbound_spec {id : Int} (done : deleteInbound id store = .ok after) :
    (RowsSound store → RowsSound after) ∧ ∃ links ⊆ (topology store).rules,
      (∀ link ∈ links, link.inboundID ≠ id) ∧
      topology after = { topology store with
        inbounds := (topology store).inbounds.filter fun entry => entry.id != id
        clients := (topology store).clients.filter fun client => client.2 != id
        rules := links } := by
  simp only [deleteInbound, bind_eq_ok, expect_eq_ok, pure_eq_ok] at done
  obtain ⟨inbound, found, rfl⟩ := done
  refine ⟨fun rows => ?_, _, Serial.map_deleteWhere_subset RoutingRule.link store.routingRules
    (ruleGoesWithInbound inbound store.clients.rows), ?_, ?_⟩
  · have dropped := rows.dropClients fun client => client.inboundID == id
    exact { dropped with inbounds := fun row member => rows.inbounds row (Serial.mem_deleteWhere.mp member).1 }
  · intro link member
    obtain ⟨rule, inside, rfl⟩ := List.mem_map.mp member
    have kept := (Serial.mem_deleteWhere.mp inside).2
    simp only [ruleGoesWithInbound, Bool.or_eq_false_iff, beq_eq_false_iff_ne] at kept
    rw [Serial.id_of_find? found] at kept
    exact kept.2
  · simp only [topology, Serial.deleteWhere, List.filter_map]
    rfl

end MiGate.Db
