import MiGate.Db.Tags

namespace MiGate.Db

open Go Fallible Relational Transition

variable {platform : Platform} {store after : Store}

/-! The columns of outbounds that configurations are made of are stored trimmed. -/

structure Outbound.Trimmed (row : Outbound) : Prop where
  tag : trimSpace row.tag = row.tag
  protocol : normalizeOutboundProtocol row.protocol = row.protocol
  address : trimSpace row.address = row.address
  username : trimSpace row.username = row.username
  settingsJSON : trimSpace row.settingsJSON = row.settingsJSON

def ColumnsTrimmed (outbounds : Serial Outbound.id) : Prop :=
  ∀ row ∈ outbounds.rows, row.Trimmed

theorem Outbound.Trimmed.congr {row other : Outbound} (trimmed : row.Trimmed) (tag : other.tag = row.tag)
    (protocol : other.protocol = row.protocol) (address : other.address = row.address)
    (username : other.username = row.username) (settingsJSON : other.settingsJSON = row.settingsJSON) :
    other.Trimmed := by
  refine ⟨?_, ?_, ?_, ?_, ?_⟩
  · rw [tag, trimmed.tag]
  · rw [protocol, trimmed.protocol]
  · rw [address, trimmed.address]
  · rw [username, trimmed.username]
  · rw [settingsJSON, trimmed.settingsJSON]

theorem ColumnsTrimmed.modify {outbounds : Serial Outbound.id} {selected : Outbound → Bool}
    {change : Outbound → Outbound} (keeps : ∀ row, (change row).id = row.id) (trimmed : ColumnsTrimmed outbounds)
    (changed : ∀ row, row.Trimmed → (change row).Trimmed) :
    ColumnsTrimmed (outbounds.modifyWhere selected change keeps) := by
  intro row member
  obtain ⟨old, stored, rfl⟩ := Serial.mem_modifyWhere.mp member
  split
  · exact changed old (trimmed old stored)
  · exact trimmed old stored

theorem ColumnsTrimmed.delete {outbounds : Serial Outbound.id} (trimmed : ColumnsTrimmed outbounds)
    (gone : Outbound → Bool) : ColumnsTrimmed (outbounds.deleteWhere gone) :=
  fun row member => trimmed row (Serial.mem_deleteWhere.mp member).1

theorem ColumnsTrimmed.insertRow {row : Outbound} (trimmed : ColumnsTrimmed store.outbounds) (new : row.Trimmed) :
    ColumnsTrimmed (insertOutboundRow row store).outbounds := by
  intro other member
  rcases Serial.mem_insert.mp member with old | rfl
  · exact trimmed other old
  · exact new.congr rfl rfl rfl rfl rfl

theorem ColumnsTrimmed.sorts {outbounds : Serial Outbound.id} (trimmed : ColumnsTrimmed outbounds) (first : Int)
    (ids : List Int) : ColumnsTrimmed (writeOutboundSorts first ids outbounds) := by
  intro row member
  have unsorted := map_writeOutboundSorts first ids outbounds
    (show ∀ sort row, sortOutbound 0 (sortOutbound sort row) = sortOutbound 0 row from fun _ _ => rfl)
  have image : sortOutbound 0 row ∈ outbounds.rows.map (sortOutbound 0) := by
    rw [← unsorted]
    exact List.mem_map_of_mem member
  obtain ⟨old, inside, same⟩ := List.mem_map.mp image
  have sorted : (sortOutbound 0 row).Trimmed := by
    rw [← same]
    exact (trimmed old inside).congr rfl rfl rfl rfl rfl
  exact sorted.congr rfl rfl rfl rfl rfl

theorem OutboundProfile.prepare_trimmed {profile written : OutboundProfile} (row : Outbound)
    (prepared : profile.prepare = .ok written) : (written.write row).Trimmed := by
  simp only [OutboundProfile.prepare, bind_eq_ok, pure_eq_ok] at prepared
  obtain ⟨_, _, _, _, _, _, _, _, _, _, _, _, rfl⟩ := prepared
  exact ⟨trimSpace_trimSpace _, normalizeOutboundProtocol_idempotent _, trimSpace_trimSpace _, trimSpace_trimSpace _,
    trimSpace_trimSpace _⟩

theorem MaterializedSubscriptionOutbound.write_trimmed (node : MaterializedSubscriptionOutbound) (now : String)
    {row : Outbound} (tag : trimSpace row.tag = row.tag) : (node.write now row).Trimmed :=
  ⟨tag, normalizeOutboundProtocol_idempotent _, trimSpace_trimSpace _, trimSpace_trimSpace _, trimSpace_trimSpace _⟩

theorem createOutbound_trimmed {now : String} {params : CreateOutboundParams} {outbound : Outbound}
    (trimmed : ColumnsTrimmed store.outbounds) (done : createOutbound now params store = .ok (after, outbound)) :
    ColumnsTrimmed after.outbounds := by
  simp only [createOutbound, bind_eq_ok, pure_eq_ok, Prod.mk.injEq] at done
  obtain ⟨_, prepared, _, _, _, _, rfl, _⟩ := done
  exact trimmed.insertRow (OutboundProfile.prepare_trimmed _ prepared)

theorem updateOutbound_trimmed {id : Int} {params : UpdateOutboundParams} {outbound : Outbound}
    (trimmed : ColumnsTrimmed store.outbounds) (done : updateOutbound id params store = .ok (after, outbound)) :
    ColumnsTrimmed after.outbounds := by
  simp only [updateOutbound, bind_eq_ok] at done
  obtain ⟨current, _, rest⟩ := done
  by_cases subscribed : current.source = outboundSourceSubscription
  · simp only [subscribed, if_true, updateSubscriptionOutboundEditableFields, bind_eq_ok, pure_eq_ok,
      Prod.mk.injEq] at rest
    obtain ⟨_, _, rfl, _⟩ := rest
    exact trimmed.modify (editSubscriptionOutbound_id _ _) fun row old => old.congr rfl rfl rfl rfl rfl
  · simp only [subscribed, if_false, bind_eq_ok, pure_eq_ok, Prod.mk.injEq] at rest
    obtain ⟨profile, prepared, _, _, rfl, _⟩ := rest
    refine trimmed.modify (updateOutboundRow_id _ _) fun row _ => ?_
    exact (OutboundProfile.prepare_trimmed row prepared).congr rfl rfl rfl rfl rfl

theorem materializeNode_trimmed {now : String} {subscriptionID : Int} {node : MaterializedSubscriptionOutbound}
    {done next : Store × List Int} (trimmed : ColumnsTrimmed done.1.outbounds)
    (turned : materializeNode now subscriptionID done node = .ok next) : ColumnsTrimmed next.1.outbounds := by
  simp only [materializeNode, bind_eq_ok] at turned
  obtain ⟨_, _, _, _, rest⟩ := turned
  cases claimed : existingNodeRow subscriptionID node done.1 with
  | some existing =>
      simp only [claimed, bind_eq_ok, pure_eq_ok] at rest
      obtain ⟨_, _, rfl⟩ := rest
      refine trimmed.modify (rewriteNodeRow_id node now) fun row _ => ?_
      have written := node.write_trimmed now (show trimSpace { row with tag := trimSpace row.tag : Outbound }.tag =
        { row with tag := trimSpace row.tag : Outbound }.tag from trimSpace_trimSpace _)
      exact written.congr rfl rfl rfl rfl rfl
  | none =>
      simp only [claimed, bind_eq_ok, pure_eq_ok] at rest
      obtain ⟨_, _, rfl⟩ := rest
      exact trimmed.insertRow (node.write_trimmed now (trimSpace_trimSpace _))

/-- A materialization answers with the outbounds it leaves. -/
theorem materializeSubscriptionOutbounds_trimmed {now : String} {subscriptionID : Int}
    {nodes : List MaterializedSubscriptionOutbound} {identities : Option (List String)} {outbounds : List Outbound}
    (trimmed : ColumnsTrimmed store.outbounds)
    (done : materializeSubscriptionOutbounds now subscriptionID nodes identities store = .ok (after, outbounds)) :
    ColumnsTrimmed after.outbounds ∧ outbounds = listOutbounds after := by
  simp only [materializeSubscriptionOutbounds, bind_eq_ok, pure_eq_ok, Prod.mk.injEq] at done
  obtain ⟨_, _, _, _, written, looped, rfl, rfl⟩ := done
  have kept := foldlM_invariant (fun state : Store × List Int => ColumnsTrimmed state.1.outbounds) trimmed
    (fun _ _ _ _ before turned => materializeNode_trimmed before turned) looped
  exact ⟨(kept.delete _).sorts _ _, rfl⟩

theorem operate_trimmed {op : StoreOp} (trimmed : ColumnsTrimmed store.outbounds)
    (done : op.run platform store = .ok after) : ColumnsTrimmed after.outbounds := by
  cases op with
  | createOutbound now params =>
      obtain ⟨_, created⟩ := map_fst_eq_ok.mp done
      exact createOutbound_trimmed trimmed created
  | updateOutbound id params =>
      obtain ⟨_, updated⟩ := map_fst_eq_ok.mp done
      exact updateOutbound_trimmed trimmed updated
  | deleteOutbound id =>
      simp only [StoreOp.run, Db.deleteOutbound, bind_eq_ok, pure_eq_ok] at done
      obtain ⟨_, _, _, _, rfl⟩ := done
      exact trimmed.delete _
  | setOutboundEnabled id enabled =>
      simp only [StoreOp.run, map_fst_eq_ok, Db.setOutboundEnabled, bind_eq_ok, pure_eq_ok, Prod.mk.injEq] at done
      obtain ⟨_, _, _, _, _, rfl, _⟩ := done
      exact trimmed.modify (enableOutbound_id enabled) fun row old => old.congr rfl rfl rfl rfl rfl
  | reorderOutbounds ids =>
      simp only [StoreOp.run, Db.reorderOutbounds, bind_eq_ok, pure_eq_ok] at done
      obtain ⟨_, _, _, _, rfl⟩ := done
      exact (trimmed.sorts _ _).sorts _ _
  | updateOutboundSubscription now id params =>
      simp only [StoreOp.run, map_fst_eq_ok, Db.updateOutboundSubscription, bind_eq_ok, pure_eq_ok,
        Prod.mk.injEq] at done
      obtain ⟨_, _, _, _, _, rfl, _⟩ := done
      cases params.enabled with
      | true => exact trimmed
      | false => exact trimmed.modify (enableOutbound_id false) fun row old => old.congr rfl rfl rfl rfl rfl
  | deleteOutboundSubscription now id =>
      simp only [StoreOp.run, Db.deleteOutboundSubscription, bind_eq_ok, pure_eq_ok] at done
      obtain ⟨_, _, rfl⟩ := done
      exact (trimmed.delete _).sorts _ _
  | reorderOutboundSubscriptions now ids =>
      simp only [StoreOp.run, Db.reorderOutboundSubscriptions, bind_eq_ok, pure_eq_ok] at done
      obtain ⟨_, _, _, _, rfl⟩ := done
      exact trimmed.sorts _ _
  | materializeSubscriptionOutbounds now subscriptionID nodes identities =>
      obtain ⟨_, materialized⟩ := map_fst_eq_ok.mp done
      exact (materializeSubscriptionOutbounds_trimmed trimmed materialized).1
  | _ =>
      rw [outbounds_unchanged rfl done]
      exact trimmed

theorem reopen_trimmed (trimmed : ColumnsTrimmed store.outbounds) : ColumnsTrimmed store.reopen.outbounds := by
  have seeded : ∀ row store, ColumnsTrimmed store.outbounds → row.Trimmed →
      ColumnsTrimmed (seedOutbound row store).outbounds := by
    intro row store old new
    unfold seedOutbound
    split
    · exact old
    · exact old.insertRow new
  have defaults : directOutbound.Trimmed ∧ blockedOutbound.Trimmed ∧ dnsOutbound.Trimmed := by
    refine ⟨⟨?_, ?_, ?_, ?_, ?_⟩, ⟨?_, ?_, ?_, ?_, ?_⟩, ⟨?_, ?_, ?_, ?_, ?_⟩⟩ <;> with_unfolding_all decide
  rw [reopen_eq]
  exact seeded _ _ (seeded _ _ (seeded _ _ trimmed defaults.1) defaults.2.1) defaults.2.2

theorem events_trimmed (reached : Reach (Steps (eventStep platform)) Store.initial store) :
    ColumnsTrimmed store.outbounds := by
  induction reached with
  | start =>
      have empty : ColumnsTrimmed Store.empty.outbounds := fun _ member => absurd member List.not_mem_nil
      exact reopen_trimmed empty
  | @step before _ event _ stepped ih =>
      cases event with
      | operate op => exact operate_trimmed ih (storeStep_eq_some.mp stepped)
      | reopen =>
          rw [← Option.some.inj stepped]
          exact reopen_trimmed ih

end MiGate.Db
