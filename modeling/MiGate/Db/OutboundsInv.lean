import MiGate.Db.ClientsInv

namespace MiGate.Db

open Go Fallible Relational Routing

variable {store after : Store}

theorem outboundProtocolAlias_idempotent (protocol : String) :
    outboundProtocolAlias (outboundProtocolAlias protocol) = outboundProtocolAlias protocol := by
  unfold outboundProtocolAlias
  split_ifs <;> simp_all

theorem normalizeOutboundProtocol_idempotent (protocol : String) :
    normalizeOutboundProtocol (normalizeOutboundProtocol protocol) = normalizeOutboundProtocol protocol := by
  have settled : toLower (trimSpace (outboundProtocolAlias (toLower (trimSpace protocol)))) =
      outboundProtocolAlias (toLower (trimSpace protocol)) := by
    have normal : toLower (trimSpace (toLower (trimSpace protocol))) = toLower (trimSpace protocol) := by
      simp [trimSpace_toLower]
    generalize toLower (trimSpace protocol) = token at normal ⊢
    unfold outboundProtocolAlias
    split_ifs
    · with_unfolding_all decide
    · with_unfolding_all decide
    · with_unfolding_all decide
    · exact normal
  unfold normalizeOutboundProtocol
  rw [settled, outboundProtocolAlias_idempotent]

/-- Validation reads five columns, and the texts of two of them only trimmed. -/
theorem validateOutboundProfile_congr {left right : Outbound}
    (protocol : normalizeOutboundProtocol left.protocol = normalizeOutboundProtocol right.protocol)
    (address : trimSpace left.address = trimSpace right.address) (port : left.port = right.port)
    (username : trimSpace left.username = trimSpace right.username)
    (password : left.password = right.password) :
    validateOutboundProfile left = validateOutboundProfile right := by
  have uuid : isUUID left.username = isUUID right.username := by
    unfold isUUID
    rw [username]
  simp only [validateOutboundProfile, validateOutboundEndpoint, validateOutboundCredentials, protocol,
    address, port, username, password, uuid]

theorem Outbound.Sound.congr {row other : Outbound} (sound : row.Sound)
    (protocol : other.protocol = row.protocol) (address : other.address = row.address)
    (port : other.port = row.port) (username : other.username = row.username)
    (password : other.password = row.password) : other.Sound where
  normal := by rw [protocol, sound.normal]
  profile := by
    rw [← sound.profile]
    exact validateOutboundProfile_congr (by rw [protocol]) (by rw [address]) port (by rw [username]) password

theorem OutboundProfile.prepare_spec {profile written : OutboundProfile} (row : Outbound)
    (prepared : profile.prepare = .ok written) :
    (written.write row).Sound ∧ written.protocol = normalizeOutboundProtocol profile.protocol := by
  simp only [OutboundProfile.prepare, bind_eq_ok, require_eq_ok, pure_eq_ok] at prepared
  obtain ⟨_, _, _, _, _, _, _, _, _, _, _, valid, rfl⟩ := prepared
  refine ⟨⟨normalizeOutboundProtocol_idempotent _, ?_⟩, rfl⟩
  rw [← valid]
  exact validateOutboundProfile_congr rfl rfl rfl (trimSpace_trimSpace _) rfl

theorem insertOutboundRow_rows {row : Outbound} (rows : RowsSound store) (sound : row.Sound) :
    RowsSound (insertOutboundRow row store) := by
  refine { rows with outbounds := ?_ }
  intro other member
  rcases Serial.mem_insert.mp member with old | new
  · exact rows.outbounds other old
  · rw [new]
    exact sound.congr rfl rfl rfl rfl rfl

theorem insertOutboundRow_topology {row : Outbound} :
    topology (insertOutboundRow row store) = { topology store with
      outbounds := (topology store).outbounds ++ [(store.outbounds.next, row.protocol)] } := by
  simp only [topology, insertOutboundRow, Serial.map_insert]
  rfl

theorem createOutbound_spec {now : String} {params : CreateOutboundParams} {outbound : Outbound}
    (done : createOutbound now params store = .ok (after, outbound)) :
    (RowsSound store → RowsSound after) ∧
      topology after = { topology store with
        outbounds := (topology store).outbounds ++
          [(store.outbounds.next, normalizeOutboundProtocol params.protocol)] } := by
  simp only [createOutbound, bind_eq_ok, require_eq_ok, pure_eq_ok, Prod.mk.injEq] at done
  obtain ⟨written, prepared, _, _, _, _, rfl, _⟩ := done
  refine ⟨fun rows => insertOutboundRow_rows rows (OutboundProfile.prepare_spec _ prepared).1, ?_⟩
  rw [insertOutboundRow_topology]
  have spoken := (OutboundProfile.prepare_spec default prepared).2
  simp only [OutboundProfile.write, spoken]
  rfl

theorem topology_modifyOutbound {id : Int} {protocol : String} {change : Outbound → Outbound}
    (keeps : ∀ row, (change row).id = row.id) (spoken : ∀ row, (change row).protocol = protocol) :
    (store.outbounds.modifyWhere (fun row => row.id == id) change keeps).rows.map Outbound.speaks =
      setProtocol id protocol (topology store).outbounds := by
  simp only [Serial.modifyWhere, setProtocol, topology, List.map_map]
  refine List.map_congr_left fun row member => ?_
  simp only [Function.comp_apply, beq_iff_eq, Outbound.speaks]
  by_cases named : row.id = id
  · simp [named, keeps, spoken]
  · simp [named]

/-- A change of outbounds that keeps what they are validated by. -/
theorem RowsSound.modifyOutbounds {selected : Outbound → Bool} {change : Outbound → Outbound}
    (keeps : ∀ row, (change row).id = row.id) (rows : RowsSound store)
    (sound : ∀ row ∈ store.outbounds.rows, row.Sound → selected row = true → (change row).Sound) :
    RowsSound { store with outbounds := store.outbounds.modifyWhere selected change keeps } := by
  refine { rows with outbounds := ?_ }
  intro other member
  rw [Serial.mem_modifyWhere] at member
  obtain ⟨stored, inside, rfl⟩ := member
  split
  · rename_i chosen
    exact sound stored inside (rows.outbounds stored inside) chosen
  · exact rows.outbounds stored inside

theorem topology_keepOutbounds {selected : Outbound → Bool} {change : Outbound → Outbound}
    (keeps : ∀ row, (change row).id = row.id) (spoken : ∀ row, (change row).speaks = row.speaks) :
    topology { store with outbounds := store.outbounds.modifyWhere selected change keeps } =
      topology store := by
  simp only [topology]
  rw [Serial.map_modifyWhere]
  exact fun row _ _ => spoken row

theorem updateOutbound_spec {id : Int} {params : UpdateOutboundParams} {outbound : Outbound}
    (done : updateOutbound id params store = .ok (after, outbound)) :
    (RowsSound store → RowsSound after) ∧ ∃ current, getOutboundByID store id = some current ∧
      topology after =
        if current.source = outboundSourceSubscription then topology store
        else { topology store with
          outbounds := setProtocol id (normalizeOutboundProtocol params.protocol) (topology store).outbounds } := by
  simp only [updateOutbound, bind_eq_ok, expect_eq_ok] at done
  obtain ⟨current, found, rest⟩ := done
  by_cases subscribed : current.source = outboundSourceSubscription
  · simp only [subscribed, if_true, updateSubscriptionOutboundEditableFields, bind_eq_ok, onlyIf_eq_ok,
      pure_eq_ok, Prod.mk.injEq] at rest
    obtain ⟨_, _, rfl, _⟩ := rest
    refine ⟨fun rows => ?_, current, found, ?_⟩
    · exact rows.modifyOutbounds (editSubscriptionOutbound_id _ _)
        fun _ _ sound _ => sound.congr rfl rfl rfl rfl rfl
    · rw [if_pos subscribed]
      exact topology_keepOutbounds (editSubscriptionOutbound_id _ _) fun _ => rfl
  · simp only [subscribed, if_false, bind_eq_ok, require_eq_ok, pure_eq_ok, Prod.mk.injEq] at rest
    obtain ⟨written, prepared, _, _, rfl, _⟩ := rest
    refine ⟨fun rows => ?_, current, found, ?_⟩
    · exact rows.modifyOutbounds (updateOutboundRow_id _ _) fun row _ _ _ =>
        (OutboundProfile.prepare_spec row prepared).1.congr rfl rfl rfl rfl rfl
    · rw [if_neg subscribed]
      simp only [topology]
      rw [topology_modifyOutbound (updateOutboundRow_id _ _)
        fun row => (OutboundProfile.prepare_spec row prepared).2]
      rfl

theorem RowsSound.dropOutbounds (rows : RowsSound store) (gone : Outbound → Bool)
    (rules : Serial RoutingRule.id) :
    RowsSound { store with outbounds := store.outbounds.deleteWhere gone, routingRules := rules } :=
  { rows with outbounds := fun row member => rows.outbounds row (Serial.mem_deleteWhere.mp member).1 }

theorem deleteOutbound_spec {id : Int} (done : deleteOutbound id store = .ok after) :
    (RowsSound store → RowsSound after) ∧ (∀ link ∈ (topology store).rules, link.outboundID ≠ id) ∧
      topology after = { topology store with
        outbounds := (topology store).outbounds.filter fun outbound => outbound.1 != id } := by
  simp only [deleteOutbound, bind_eq_ok, require_eq_ok, pure_eq_ok, beq_iff_eq, List.length_eq_zero_iff,
    List.filter_eq_nil_iff] at done
  obtain ⟨_, _, _, free, rfl⟩ := done
  refine ⟨fun rows => rows.dropOutbounds _ _, ?_, ?_⟩
  · intro link member
    obtain ⟨rule, inside, rfl⟩ := List.mem_map.mp member
    exact free rule inside
  · simp only [topology, Serial.deleteWhere, List.filter_map]
    rfl

theorem setOutboundEnabled_spec {id : Int} {enabled : Bool} {outbound : Outbound}
    (done : setOutboundEnabled id enabled store = .ok (after, outbound)) :
    (RowsSound store → RowsSound after) ∧ topology after = topology store := by
  simp only [setOutboundEnabled, bind_eq_ok, expect_eq_ok, onlyIf_eq_ok, pure_eq_ok, Prod.mk.injEq] at done
  obtain ⟨_, _, _, _, rfl, _⟩ := done
  refine ⟨fun rows => ?_, topology_keepOutbounds (enableOutbound_id enabled) fun _ => rfl⟩
  exact rows.modifyOutbounds (enableOutbound_id enabled) fun _ _ sound _ => sound.congr rfl rfl rfl rfl rfl

/-- Writing sorts changes no column but the sort. -/
theorem map_writeOutboundSorts {α : Type} {column : Outbound → α} (first : Int) (ids : List Int)
    (outbounds : Serial Outbound.id) (same : ∀ sort row, column (sortOutbound sort row) = column row) :
    (writeOutboundSorts first ids outbounds).rows.map column = outbounds.rows.map column := by
  unfold writeOutboundSorts
  generalize ids.zipIdx = pairs
  induction pairs generalizing outbounds with
  | nil => rfl
  | cons pair rest ih =>
      rw [List.foldl_cons, ih, Serial.map_modifyWhere]
      exact fun row _ _ => same _ row

theorem RowsSound.sortOutbounds {first : Int} {ids : List Int} (rows : RowsSound store) :
    RowsSound { store with outbounds := writeOutboundSorts first ids store.outbounds } := by
  refine { rows with outbounds := ?_ }
  intro row member
  have unsorted := map_writeOutboundSorts first ids store.outbounds
    (show ∀ sort row, sortOutbound 0 (sortOutbound sort row) = sortOutbound 0 row from fun _ _ => rfl)
  have image : sortOutbound 0 row ∈ store.outbounds.rows.map (sortOutbound 0) := by
    rw [← unsorted]
    exact List.mem_map_of_mem member
  obtain ⟨old, inside, same⟩ := List.mem_map.mp image
  have sound : (sortOutbound 0 row).Sound := by
    rw [← same]
    exact (rows.outbounds old inside).congr rfl rfl rfl rfl rfl
  exact sound.congr rfl rfl rfl rfl rfl

theorem topology_sortOutbounds {first : Int} {ids : List Int} :
    topology { store with outbounds := writeOutboundSorts first ids store.outbounds } = topology store := by
  simp only [topology]
  rw [map_writeOutboundSorts]
  exact fun _ _ => rfl

theorem rebalanceOutboundSorts_spec :
    (RowsSound store → RowsSound (rebalanceOutboundSorts store)) ∧
      topology (rebalanceOutboundSorts store) = topology store :=
  ⟨fun rows => rows.sortOutbounds, topology_sortOutbounds⟩

theorem reorderOutbounds_spec {ids : List Int} (done : reorderOutbounds ids store = .ok after) :
    (RowsSound store → RowsSound after) ∧ topology after = topology store := by
  simp only [reorderOutbounds, bind_eq_ok, require_eq_ok, pure_eq_ok] at done
  obtain ⟨_, _, _, _, rfl⟩ := done
  refine ⟨fun rows => rebalanceOutboundSorts_spec.1 rows.sortOutbounds, ?_⟩
  rw [rebalanceOutboundSorts_spec.2, topology_sortOutbounds]

/-- The subscriptions matter to neither. -/
theorem storeInv_subscriptions (subscriptions : Serial OutboundSubscription.id) :
    (RowsSound store → RowsSound { store with outboundSubscriptions := subscriptions }) ∧
      topology { store with outboundSubscriptions := subscriptions } = topology store :=
  ⟨fun rows => { rows with }, rfl⟩

theorem updateOutboundSubscription_spec {now : String} {id : Int} {params : OutboundSubscriptionParams}
    {subscription : OutboundSubscription}
    (done : updateOutboundSubscription now id params store = .ok (after, subscription)) :
    (RowsSound store → RowsSound after) ∧ topology after = topology store := by
  simp only [updateOutboundSubscription, bind_eq_ok, require_eq_ok, expect_eq_ok, pure_eq_ok,
    Prod.mk.injEq] at done
  obtain ⟨_, _, _, _, rfl, _⟩ := done
  cases params.enabled with
  | true => exact ⟨fun rows => { rows with }, rfl⟩
  | false =>
      refine ⟨fun rows => ?_, ?_⟩
      · have disabled := rows.modifyOutbounds (enableOutbound_id false)
          fun row _ sound (_ : isSubscriptionOutbound id row = true) => sound.congr rfl rfl rfl rfl rfl
        exact { disabled with }
      · simp only [topology, Bool.false_eq_true, if_false]
        rw [Serial.map_modifyWhere]
        exact fun _ _ _ => rfl

/-- Dropping subscription outbounds drops the rules that lead to them as well. -/
theorem deleteSubscriptionOutbounds_spec (ids : List Int) :
    (RowsSound store → RowsSound (deleteSubscriptionOutbounds ids store)) ∧
      ∃ outbounds ⊆ (topology store).outbounds,
        topology (deleteSubscriptionOutbounds ids store) = { topology store with
          outbounds, rules := (topology store).rules.filter fun link => !ids.contains link.outboundID } ∧
        ∀ outbound ∈ (topology store).outbounds, ids.contains outbound.1 = false → outbound ∈ outbounds := by
  refine ⟨fun rows => rows.dropOutbounds _ _, _, Serial.map_deleteWhere_subset Outbound.speaks
    store.outbounds fun row => row.source == outboundSourceSubscription && ids.contains row.id, ?_, ?_⟩
  · simp only [topology, deleteSubscriptionOutbounds, Serial.deleteWhere, List.filter_map]
    rfl
  · intro outbound member kept
    obtain ⟨row, inside, rfl⟩ := List.mem_map.mp member
    refine List.mem_map_of_mem (Serial.mem_deleteWhere.mpr ⟨inside, ?_⟩)
    simp only [Outbound.speaks] at kept
    rw [kept, Bool.and_false]

theorem deleteOutboundSubscription_spec {now : String} {id : Int}
    (done : deleteOutboundSubscription now id store = .ok after) :
    (RowsSound store → RowsSound after) ∧ ∃ ids,
      topology after = topology (deleteSubscriptionOutbounds ids store) := by
  simp only [deleteOutboundSubscription, bind_eq_ok, require_eq_ok, pure_eq_ok] at done
  obtain ⟨_, _, rfl⟩ := done
  refine ⟨fun rows => ?_, subscriptionOutboundIDs id store, ?_⟩
  · exact rebalanceOutboundSorts_spec.1 ((storeInv_subscriptions _).1
      ((deleteSubscriptionOutbounds_spec _).1 rows))
  · rw [rebalanceOutboundSorts_spec.2]
    rfl

theorem reorderOutboundSubscriptions_spec {now : String} {ids : List Int}
    (done : reorderOutboundSubscriptions now ids store = .ok after) :
    (RowsSound store → RowsSound after) ∧ topology after = topology store := by
  simp only [reorderOutboundSubscriptions, bind_eq_ok, require_eq_ok, pure_eq_ok] at done
  obtain ⟨_, _, _, _, rfl⟩ := done
  refine ⟨fun rows => rebalanceOutboundSorts_spec.1 ((storeInv_subscriptions _).1 rows), ?_⟩
  rw [rebalanceOutboundSorts_spec.2]
  rfl

theorem createOutboundSubscription_spec {now : String} {params : OutboundSubscriptionParams}
    {subscription : OutboundSubscription}
    (done : createOutboundSubscription now params store = .ok (after, subscription)) :
    (RowsSound store → RowsSound after) ∧ topology after = topology store := by
  simp only [createOutboundSubscription, bind_eq_ok, require_eq_ok, pure_eq_ok, Prod.mk.injEq] at done
  obtain ⟨_, _, rfl, _⟩ := done
  exact storeInv_subscriptions _

theorem markOutboundSubscriptionFetch_spec {now : String} {id : Int} {fetchedAt lastErr : String}
    {identities : Option (List String)}
    (done : markOutboundSubscriptionFetch now id fetchedAt lastErr identities store = .ok after) :
    (RowsSound store → RowsSound after) ∧ topology after = topology store := by
  simp only [markOutboundSubscriptionFetch, bind_eq_ok, require_eq_ok, pure_eq_ok] at done
  obtain ⟨_, _, rfl⟩ := done
  exact storeInv_subscriptions _

theorem MaterializedSubscriptionOutbound.write_sound {node : MaterializedSubscriptionOutbound}
    (valid : validateOutboundProfile node.asOutbound = .ok ()) (now : String) (row : Outbound) :
    (node.write now row).Sound where
  normal := normalizeOutboundProtocol_idempotent _
  profile := by
    rw [← valid]
    exact validateOutboundProfile_congr rfl (trimSpace_trimSpace _) rfl (trimSpace_trimSpace _) rfl

theorem existingNodeRow_mem {subscriptionID : Int} {node : MaterializedSubscriptionOutbound} {existing : Outbound}
    (claimed : existingNodeRow subscriptionID node store = some existing) : existing ∈ store.outbounds.rows := by
  simp only [existingNodeRow] at claimed
  split at claimed
  · rename_i row named
    split at named
    · rw [Option.some.injEq] at claimed
      rw [← claimed]
      exact Serial.mem_of_find? (Option.filter_eq_some_iff.mp named).1
    · cases named
  · split at claimed
    · cases claimed
    · exact List.mem_of_find?_eq_some claimed

theorem existingNodeRow_mine {subscriptionID : Int} {node : MaterializedSubscriptionOutbound} {existing : Outbound}
    (claimed : existingNodeRow subscriptionID node store = some existing) :
    isSubscriptionOutbound subscriptionID existing = true := by
  simp only [existingNodeRow] at claimed
  split at claimed
  · rename_i row named
    split at named
    · rw [Option.some.injEq] at claimed
      rw [← claimed]
      exact (Option.filter_eq_some_iff.mp named).2
    · cases named
  · split at claimed
    · cases claimed
    · have picked := List.find?_some claimed
      rw [Bool.and_eq_true] at picked
      exact picked.1

/-- A node is written over the row it claims, or becomes a row of its own. -/
theorem materializeNode_spec {now : String} {subscriptionID : Int} {node : MaterializedSubscriptionOutbound}
    {done next : Store × List Int} (written : materializeNode now subscriptionID done node = .ok next) :
    (RowsSound done.1 → RowsSound next.1) ∧
      ((∃ existing, existingNodeRow subscriptionID node done.1 = some existing ∧
        topology next.1 = { topology done.1 with
          outbounds :=
            setProtocol existing.id (normalizeOutboundProtocol node.protocol) (topology done.1).outbounds }) ∨
      (existingNodeRow subscriptionID node done.1 = none ∧
        topology next.1 = { topology done.1 with
          outbounds := (topology done.1).outbounds ++
            [(done.1.outbounds.next, normalizeOutboundProtocol node.protocol)] })) := by
  obtain ⟨start, seenIDs⟩ := done
  simp only [materializeNode, bind_eq_ok, require_eq_ok] at written
  obtain ⟨_, valid, _, _, rest⟩ := written
  cases claimed : existingNodeRow subscriptionID node start with
  | some existing =>
      simp only [claimed, bind_eq_ok, require_eq_ok, pure_eq_ok] at rest
      obtain ⟨_, _, rfl⟩ := rest
      refine ⟨fun rows => ?_, .inl ⟨existing, rfl, ?_⟩⟩
      · exact rows.modifyOutbounds (rewriteNodeRow_id node now) fun row _ _ _ =>
          (MaterializedSubscriptionOutbound.write_sound valid now row).congr rfl rfl rfl rfl rfl
      · simp only [topology]
        rw [topology_modifyOutbound (rewriteNodeRow_id node now) fun _ => rfl]
        rfl
  | none =>
      simp only [claimed, bind_eq_ok, require_eq_ok, pure_eq_ok] at rest
      obtain ⟨_, _, rfl⟩ := rest
      refine ⟨fun rows => insertOutboundRow_rows rows ?_, .inr ⟨rfl, insertOutboundRow_topology⟩⟩
      exact MaterializedSubscriptionOutbound.write_sound valid now _

theorem materializeSubscriptionOutbounds_spec {now : String} {subscriptionID : Int}
    {nodes : List MaterializedSubscriptionOutbound} {identities : Option (List String)}
    {outbounds : List Outbound}
    (done : materializeSubscriptionOutbounds now subscriptionID nodes identities store =
      .ok (after, outbounds)) :
    (RowsSound store → RowsSound after) ∧ ∃ written, ∃ ids : List Int,
      nodes.foldlM (materializeNode now subscriptionID) (store, []) = .ok written ∧
        topology after = topology (deleteSubscriptionOutbounds ids written.1) := by
  simp only [materializeSubscriptionOutbounds, bind_eq_ok, require_eq_ok, expect_eq_ok, pure_eq_ok,
    Prod.mk.injEq] at done
  obtain ⟨_, _, _, _, written, looped, rfl, _⟩ := done
  refine ⟨fun rows => ?_, written, (subscriptionOutboundIDs subscriptionID written.1).filter
    fun id => !written.2.contains id, looped, ?_⟩
  · have soundAfter := foldlM_invariant (fun state : Store × List Int => RowsSound state.1) rows
      (fun node _ start next sound turned => (materializeNode_spec turned).1 sound) looped
    exact rebalanceOutboundSorts_spec.1 ((storeInv_subscriptions _).1
      ((deleteSubscriptionOutbounds_spec _).1 soundAfter))
  · rw [rebalanceOutboundSorts_spec.2]
    rfl

end MiGate.Db
