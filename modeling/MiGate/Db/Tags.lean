import MiGate.Db.Events
import MiGate.Db.OutboundsFrame
import MiGate.Db.OutboundsInv

namespace MiGate.Db

open Go Fallible Relational Transition

variable {platform : Platform} {store after : Store}

/-! The tags of the outbounds are unique and trimmed, whatever happens to the store. -/

structure TagsSound (outbounds : Serial Outbound.id) : Prop where
  nodup : (outbounds.rows.map Outbound.tag).Nodup
  trimmed : ∀ tag ∈ outbounds.rows.map Outbound.tag, trimSpace tag = tag

theorem TagsSound.sublist {all kept : Serial Outbound.id} (sound : TagsSound all)
    (fewer : (kept.rows.map Outbound.tag).Sublist (all.rows.map Outbound.tag)) : TagsSound kept where
  nodup := sound.nodup.sublist fewer
  trimmed := fun tag member => sound.trimmed tag (fewer.subset member)

theorem TagsSound.keep {outbounds : Serial Outbound.id} {selected : Outbound → Bool} {change : Outbound → Outbound}
    (keeps : ∀ row, (change row).id = row.id) (sound : TagsSound outbounds)
    (same : ∀ row, (change row).tag = row.tag) : TagsSound (outbounds.modifyWhere selected change keeps) := by
  refine sound.sublist ?_
  rw [Serial.map_modifyWhere _ _ _ _ _ fun row _ _ => same row]

theorem TagsSound.delete {outbounds : Serial Outbound.id} (sound : TagsSound outbounds) (gone : Outbound → Bool) :
    TagsSound (outbounds.deleteWhere gone) :=
  sound.sublist (List.filter_sublist.map _)

theorem TagsSound.unique {outbounds : Serial Outbound.id} (sound : TagsSound outbounds) {left right : Outbound}
    (leftStored : left ∈ outbounds.rows) (rightStored : right ∈ outbounds.rows) (same : left.tag = right.tag) :
    left = right :=
  List.inj_on_of_nodup_map sound.nodup leftStored rightStored same

theorem TagsSound.insertRow {row : Outbound} (sound : TagsSound store.outbounds)
    (free : outboundTagTaken row.tag store = false) (trimmed : trimSpace row.tag = row.tag) :
    TagsSound (insertOutboundRow row store).outbounds := by
  have tags : (insertOutboundRow row store).outbounds.rows.map Outbound.tag =
      store.outbounds.rows.map Outbound.tag ++ [row.tag] := Serial.map_insert ..
  rw [outboundTagTaken, List.any_eq_false] at free
  constructor
  · rw [tags, List.nodup_append']
    refine ⟨sound.nodup, List.nodup_singleton _, ?_⟩
    intro tag member last
    obtain ⟨other, stored, rfl⟩ := List.mem_map.mp member
    exact free other stored (beq_iff_eq.mpr (List.mem_singleton.mp last))
  · intro tag member
    rw [tags, List.mem_append, List.mem_singleton] at member
    rcases member with old | new
    · exact sound.trimmed tag old
    · rw [new]
      exact trimmed

/-- One row gets a tag that no other row has. -/
theorem TagsSound.retag {outbounds : Serial Outbound.id} {id : Int} {tag : String} {change : Outbound → Outbound}
    (keeps : ∀ row, (change row).id = row.id) (sound : TagsSound outbounds)
    (tagged : ∀ row ∈ outbounds.rows, row.id = id → (change row).tag = tag)
    (free : ∀ row ∈ outbounds.rows, row.id ≠ id → row.tag ≠ tag) (trimmed : trimSpace tag = tag) :
    TagsSound (outbounds.modifyWhere (fun row => row.id == id) change keeps) where
  nodup := by
    refine Serial.nodup_modifyWhere keeps sound.nodup (fun row _ chosen => beq_iff_eq.mp chosen) ?_
    intro row stored chosen other otherStored different
    rw [tagged row stored (beq_iff_eq.mp chosen)]
    exact free other otherStored different
  trimmed := by
    intro written member
    obtain ⟨row, stored, rfl⟩ := List.mem_map.mp member
    obtain ⟨old, oldStored, rfl⟩ := Serial.mem_modifyWhere.mp stored
    split
    · rename_i chosen
      rw [tagged old oldStored (beq_iff_eq.mp chosen)]
      exact trimmed
    · exact sound.trimmed _ (List.mem_map_of_mem oldStored)

theorem rebalanceOutboundSorts_tags (sound : TagsSound store.outbounds) :
    TagsSound (rebalanceOutboundSorts store).outbounds := by
  refine sound.sublist ?_
  rw [rebalanceOutboundSorts, map_writeOutboundSorts _ _ _ fun _ _ => rfl]

theorem createOutbound_tags {now : String} {params : CreateOutboundParams} {outbound : Outbound}
    (sound : TagsSound store.outbounds) (done : createOutbound now params store = .ok (after, outbound)) :
    TagsSound after.outbounds := by
  simp only [createOutbound, bind_eq_ok, require_eq_ok, pure_eq_ok, Prod.mk.injEq, Bool.not_eq_true'] at done
  obtain ⟨profile, prepared, _, _, _, free, rfl, _⟩ := done
  simp only [OutboundProfile.prepare, bind_eq_ok, require_eq_ok, pure_eq_ok] at prepared
  obtain ⟨_, _, _, _, _, _, _, _, _, _, _, _, rfl⟩ := prepared
  exact sound.insertRow free (trimSpace_trimSpace _)

theorem updateOutbound_tags {id : Int} {params : UpdateOutboundParams} {outbound : Outbound}
    (sound : TagsSound store.outbounds) (done : updateOutbound id params store = .ok (after, outbound)) :
    TagsSound after.outbounds := by
  simp only [updateOutbound, bind_eq_ok, expect_eq_ok] at done
  obtain ⟨current, _, rest⟩ := done
  by_cases subscribed : current.source = outboundSourceSubscription
  · simp only [subscribed, if_true, updateSubscriptionOutboundEditableFields, bind_eq_ok, pure_eq_ok,
      Prod.mk.injEq] at rest
    obtain ⟨_, _, rfl, _⟩ := rest
    exact sound.keep (editSubscriptionOutbound_id _ _) fun _ => rfl
  · simp only [subscribed, if_false, bind_eq_ok, require_eq_ok, pure_eq_ok, Prod.mk.injEq,
      Bool.not_eq_true', List.any_eq_false, Bool.and_eq_true, bne_iff_ne, beq_iff_eq, not_and] at rest
    obtain ⟨profile, prepared, _, free, rfl, _⟩ := rest
    simp only [OutboundProfile.prepare, bind_eq_ok, require_eq_ok, pure_eq_ok] at prepared
    obtain ⟨_, _, _, _, _, _, _, _, _, _, _, _, rfl⟩ := prepared
    exact sound.retag (updateOutboundRow_id _ _) (fun _ _ _ => rfl) free (trimSpace_trimSpace _)

theorem materializeNode_tags {now : String} {subscriptionID : Int} {node : MaterializedSubscriptionOutbound}
    {done next : Store × List Int} (sound : TagsSound done.1.outbounds)
    (turned : materializeNode now subscriptionID done node = .ok next) : TagsSound next.1.outbounds := by
  simp only [materializeNode, bind_eq_ok] at turned
  obtain ⟨_, _, _, _, rest⟩ := turned
  cases claimed : existingNodeRow subscriptionID node done.1 with
  | some existing =>
      simp only [claimed, bind_eq_ok, require_eq_ok, pure_eq_ok, Bool.not_eq_true', List.any_eq_false,
        Bool.and_eq_true, bne_iff_ne, beq_iff_eq, not_and] at rest
      obtain ⟨_, free, rfl⟩ := rest
      refine sound.retag (rewriteNodeRow_id node now) ?_ free (trimSpace_trimSpace _)
      intro row stored named
      have same := Serial.eq_of_id_eq stored (existingNodeRow_mem claimed) named
      rw [← same]
      rfl
  | none =>
      simp only [claimed, bind_eq_ok, require_eq_ok, pure_eq_ok, Bool.not_eq_true'] at rest
      obtain ⟨_, free, rfl⟩ := rest
      exact sound.insertRow free (trimSpace_trimSpace _)

theorem materializeSubscriptionOutbounds_tags {now : String} {subscriptionID : Int}
    {nodes : List MaterializedSubscriptionOutbound} {identities : Option (List String)}
    {outbounds : List Outbound} (sound : TagsSound store.outbounds)
    (done : materializeSubscriptionOutbounds now subscriptionID nodes identities store =
      .ok (after, outbounds)) : TagsSound after.outbounds := by
  simp only [materializeSubscriptionOutbounds, bind_eq_ok, pure_eq_ok, Prod.mk.injEq] at done
  obtain ⟨_, _, _, _, written, looped, rfl, _⟩ := done
  have kept := foldlM_invariant (fun state : Store × List Int => TagsSound state.1.outbounds) sound
    (fun _ _ _ _ before turned => materializeNode_tags before turned) looped
  exact rebalanceOutboundSorts_tags (kept.delete _)

theorem operate_tags {op : StoreOp} (sound : TagsSound store.outbounds) (done : op.run platform store = .ok after) :
    TagsSound after.outbounds := by
  cases op with
  | createOutbound now params =>
      obtain ⟨_, created⟩ := map_fst_eq_ok.mp done
      exact createOutbound_tags sound created
  | updateOutbound id params =>
      obtain ⟨_, updated⟩ := map_fst_eq_ok.mp done
      exact updateOutbound_tags sound updated
  | deleteOutbound id =>
      simp only [StoreOp.run, Db.deleteOutbound, bind_eq_ok, pure_eq_ok] at done
      obtain ⟨_, _, _, _, rfl⟩ := done
      exact sound.delete _
  | setOutboundEnabled id enabled =>
      simp only [StoreOp.run, map_fst_eq_ok, Db.setOutboundEnabled, bind_eq_ok, pure_eq_ok, Prod.mk.injEq] at done
      obtain ⟨_, _, _, _, _, rfl, _⟩ := done
      exact sound.keep (enableOutbound_id enabled) fun _ => rfl
  | reorderOutbounds ids =>
      simp only [StoreOp.run, Db.reorderOutbounds, bind_eq_ok, pure_eq_ok] at done
      obtain ⟨_, _, _, _, rfl⟩ := done
      apply rebalanceOutboundSorts_tags
      refine sound.sublist ?_
      rw [map_writeOutboundSorts _ _ _ fun _ _ => rfl]
  | updateOutboundSubscription now id params =>
      simp only [StoreOp.run, map_fst_eq_ok, Db.updateOutboundSubscription, bind_eq_ok, pure_eq_ok,
        Prod.mk.injEq] at done
      obtain ⟨_, _, _, _, _, rfl, _⟩ := done
      cases params.enabled with
      | true => exact sound
      | false => exact sound.keep (enableOutbound_id false) fun _ => rfl
  | deleteOutboundSubscription now id =>
      simp only [StoreOp.run, Db.deleteOutboundSubscription, bind_eq_ok, pure_eq_ok] at done
      obtain ⟨_, _, rfl⟩ := done
      exact rebalanceOutboundSorts_tags (sound.delete _)
  | reorderOutboundSubscriptions now ids =>
      simp only [StoreOp.run, Db.reorderOutboundSubscriptions, bind_eq_ok, pure_eq_ok] at done
      obtain ⟨_, _, _, _, rfl⟩ := done
      exact rebalanceOutboundSorts_tags sound
  | materializeSubscriptionOutbounds now subscriptionID nodes identities =>
      obtain ⟨_, materialized⟩ := map_fst_eq_ok.mp done
      exact materializeSubscriptionOutbounds_tags sound materialized
  | _ =>
      rw [outbounds_unchanged rfl done]
      exact sound

theorem seedOutbound_tags {row : Outbound} (sound : TagsSound store.outbounds)
    (trimmed : trimSpace row.tag = row.tag) : TagsSound (seedOutbound row store).outbounds := by
  unfold seedOutbound
  split
  · exact sound
  · rename_i free
    exact sound.insertRow (Bool.eq_false_iff.mpr free) trimmed

theorem reopen_tags (sound : TagsSound store.outbounds) : TagsSound store.reopen.outbounds := by
  have tags : trimSpace directOutbound.tag = directOutbound.tag ∧
      trimSpace blockedOutbound.tag = blockedOutbound.tag ∧ trimSpace dnsOutbound.tag = dnsOutbound.tag := by
    with_unfolding_all decide
  rw [reopen_eq]
  exact seedOutbound_tags (seedOutbound_tags (seedOutbound_tags sound tags.1) tags.2.1) tags.2.2

theorem empty_tags : TagsSound Store.empty.outbounds :=
  ⟨List.nodup_nil, fun _ member => absurd member List.not_mem_nil⟩

theorem events_tags (reached : Reach (Steps (eventStep platform)) Store.initial store) :
    TagsSound store.outbounds := by
  induction reached with
  | start => exact reopen_tags empty_tags
  | @step before _ event _ stepped ih =>
      cases event with
      | operate op => exact operate_tags ih (storeStep_eq_some.mp stepped)
      | reopen =>
          rw [← Option.some.inj stepped]
          exact reopen_tags ih

end MiGate.Db
