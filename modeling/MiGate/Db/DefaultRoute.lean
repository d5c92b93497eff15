import MiGate.Db.Precedence
import MiGate.Db.Tags

namespace MiGate.Db

open Go Fallible Relational Transition

variable {platform : Platform} {store after : Store}

/-! What each operation does to the place of the `direct` outbound.  Only three kinds of step can
put another outbound before it: a creation, an update that makes a row `direct`, and a
re-opening of the store, which inserts what is missing of the defaults without rebalancing. -/

/-- Whether a profile is written as the `direct` outbound. -/
def OutboundProfile.direct (profile : OutboundProfile) : Bool :=
  trimSpace profile.tag == "direct" && normalizeOutboundProtocol profile.protocol == "freedom"

/-- The condition under which a step puts no outbound before `direct`. -/
def StoreEvent.keepsDirectFirst (event : StoreEvent) (store : Store) : Bool :=
  match event with
  | .operate (.createOutbound _ params) => !params.profile.direct || store.outbounds.rows.isEmpty
  | .operate (.updateOutbound id params) => !params.profile.direct ||
      store.outbounds.rows.all fun row => row.id != id || row.source == outboundSourceSubscription ||
        store.outbounds.rows.all fun other => other.id == id || decide (row.place.Ahead other.place)
  | .operate _ => true
  | .reopen =>
      if outboundTagTaken "direct" store then
        store.outbounds.rows.all fun row => !row.place.direct ||
          ((outboundTagTaken "blocked" store || row.sort ≤ 1) && (outboundTagTaken "dns" store || row.sort ≤ 2))
      else store.outbounds.rows.all fun row => 0 < row.sort

/-! The operations that keep every place. -/

theorem places_modifyWhere {selected : Outbound → Bool} {change : Outbound → Outbound}
    {keeps : ∀ row, (change row).id = row.id} (outbounds : Serial Outbound.id)
    (same : ∀ row, (change row).place = row.place) :
    places (outbounds.modifyWhere selected change keeps) = places outbounds :=
  Serial.map_modifyWhere _ _ _ _ _ fun row _ _ => same row

theorem places_deleteWhere {selected : Outbound → Bool} (outbounds : Serial Outbound.id) :
    (places (outbounds.deleteWhere selected)).Sublist (places outbounds) :=
  List.filter_sublist.map _

@[simp] theorem editSubscriptionOutbound_place (remark : String) (enabled : Bool) (row : Outbound) :
    (editSubscriptionOutbound remark enabled row).place = row.place := rfl

@[simp] theorem enableOutbound_place (enabled : Bool) (row : Outbound) :
    (enableOutbound enabled row).place = row.place := rfl

@[simp] theorem updateOutboundRow_place (profile : OutboundProfile) (enabled : Bool) (row : Outbound) :
    (updateOutboundRow profile enabled row).place =
      { row.place with tag := profile.tag, protocol := profile.protocol } := rfl

theorem createOutbound_leads {now : String} {params : CreateOutboundParams} {outbound : Outbound}
    (leads : DirectLeads (places store.outbounds))
    (guard : (StoreEvent.operate (.createOutbound now params)).keepsDirectFirst store = true)
    (done : createOutbound now params store = .ok (after, outbound)) : DirectLeads (places after.outbounds) := by
  simp only [createOutbound, bind_eq_ok, require_eq_ok, pure_eq_ok, Prod.mk.injEq, Bool.not_eq_true'] at done
  obtain ⟨profile, prepared, _, _, _, free, rfl, _⟩ := done
  simp only [OutboundProfile.prepare, bind_eq_ok, require_eq_ok, pure_eq_ok] at prepared
  obtain ⟨_, _, _, _, _, _, _, _, _, _, _, _, rfl⟩ := prepared
  have last : ∀ place ∈ places store.outbounds,
      place.sort < nextSort (store.outbounds.rows.map Outbound.sort) := by
    intro place inside
    obtain ⟨row, stored, rfl⟩ := List.mem_map.mp inside
    exact lt_nextSort (List.mem_map_of_mem stored)
  refine insertOutboundRow_leads leads free (fun place inside _ => (last place inside).le) ?_
  intro direct place inside
  have written : params.profile.direct = true := direct
  have empty : store.outbounds.rows = [] := by
    simpa [StoreEvent.keepsDirectFirst, written] using guard
  rw [places, empty] at inside
  cases inside

/-- A row that is written anew stays in its place, and so do all others. -/
theorem renameOutbound_leads {id : Int} {profile : OutboundProfile} {enabled : Bool}
    (leads : DirectLeads (places store.outbounds))
    (free : ∀ row ∈ store.outbounds.rows, row.id ≠ id → row.tag ≠ profile.tag)
    (first : profile.tag = "direct" → profile.protocol = "freedom" → ∀ row ∈ store.outbounds.rows, row.id = id →
      ∀ other ∈ store.outbounds.rows, other.id ≠ id → row.place.Ahead other.place) :
    DirectLeads (places (store.outbounds.modifyWhere (fun row => row.id == id)
      (updateOutboundRow profile enabled) (updateOutboundRow_id profile enabled))) where
  tags := by
    have before := leads.tags
    rw [places, List.map_map] at before ⊢
    refine Serial.nodup_modifyWhere (updateOutboundRow_id profile enabled) before
      (fun row _ chosen => beq_iff_eq.mp chosen) ?_
    exact fun _ _ _ other otherStored different => free other otherStored different
  ahead := by
    intro place inside direct other otherInside different
    obtain ⟨row, member, rfl⟩ := List.mem_map.mp inside
    obtain ⟨otherRow, otherMember, rfl⟩ := List.mem_map.mp otherInside
    obtain ⟨old, stored, rfl⟩ := Serial.mem_modifyWhere.mp member
    obtain ⟨otherOld, otherStored, rfl⟩ := Serial.mem_modifyWhere.mp otherMember
    -- Being ahead is told by numbers and sorts, which both rows have kept.
    have kept : ∀ row : Outbound, ∃ tag protocol,
        (if row.id == id then updateOutboundRow profile enabled row else row).place =
          { row.place with tag, protocol } := by
      intro row
      split
      · exact ⟨_, _, rfl⟩
      · exact ⟨_, _, rfl⟩
    obtain ⟨tag, protocol, placed⟩ := kept old
    obtain ⟨otherTag, otherProtocol, otherPlaced⟩ := kept otherOld
    have apart : otherOld.id ≠ old.id := by
      rw [placed, otherPlaced] at different
      exact different
    have stands : old.place.Ahead otherOld.place := by
      by_cases chosen : old.id = id
      · rw [if_pos (beq_iff_eq.mpr chosen)] at direct
        simp only [Place.direct, updateOutboundRow_place, Bool.and_eq_true, beq_iff_eq] at direct
        refine first direct.1 direct.2 old stored chosen otherOld otherStored ?_
        rw [← chosen]
        exact apart
      · rw [if_neg (mt beq_iff_eq.mp chosen)] at direct
        exact leads.ahead old.place (List.mem_map_of_mem stored) direct otherOld.place
          (List.mem_map_of_mem otherStored) apart
    rw [placed, otherPlaced]
    exact stands

theorem updateOutbound_leads {id : Int} {params : UpdateOutboundParams} {outbound : Outbound}
    (leads : DirectLeads (places store.outbounds))
    (guard : (StoreEvent.operate (.updateOutbound id params)).keepsDirectFirst store = true)
    (done : updateOutbound id params store = .ok (after, outbound)) : DirectLeads (places after.outbounds) := by
  simp only [updateOutbound, bind_eq_ok, expect_eq_ok] at done
  obtain ⟨current, found, rest⟩ := done
  by_cases subscribed : current.source = outboundSourceSubscription
  · simp only [subscribed, if_true, updateSubscriptionOutboundEditableFields, bind_eq_ok, pure_eq_ok,
      Prod.mk.injEq] at rest
    obtain ⟨_, _, rfl, _⟩ := rest
    dsimp only
    rw [places_modifyWhere _ (editSubscriptionOutbound_place _ _)]
    exact leads
  · simp only [subscribed, if_false, bind_eq_ok, require_eq_ok, pure_eq_ok, Prod.mk.injEq,
      Bool.not_eq_true', List.any_eq_false, Bool.and_eq_true, bne_iff_ne, beq_iff_eq, not_and] at rest
    obtain ⟨profile, prepared, _, free, rfl, _⟩ := rest
    simp only [OutboundProfile.prepare, bind_eq_ok, require_eq_ok, pure_eq_ok] at prepared
    obtain ⟨_, _, _, _, _, _, _, _, _, _, _, _, rfl⟩ := prepared
    refine renameOutbound_leads leads free ?_
    intro tag protocol row stored named other otherStored different
    have direct : params.profile.direct = true := by
      rw [OutboundProfile.direct, Bool.and_eq_true, beq_iff_eq, beq_iff_eq]
      exact ⟨tag, protocol⟩
    -- The row the guard speaks of is the one that was read.
    have manual : row.source ≠ outboundSourceSubscription := by
      intro source
      obtain ⟨read, foundRow, loaded⟩ := Option.map_eq_some_iff.mp found
      have same : read = row :=
        Serial.eq_of_id_eq (Serial.mem_of_find? foundRow) stored ((Serial.id_of_find? foundRow).trans named.symm)
      apply subscribed
      rw [← loaded, same, loadOutbound, source]
      exact if_neg (by with_unfolding_all decide)
    simp only [StoreEvent.keepsDirectFirst, direct, Bool.not_true, Bool.false_or, List.all_eq_true,
      Bool.or_eq_true, bne_iff_ne, beq_iff_eq, decide_eq_true_eq] at guard
    rcases guard row stored with (unnamed | subscription) | stands
    · exact absurd named unnamed
    · exact absurd subscription manual
    · exact (stands other otherStored).resolve_left different

theorem deleteOutbound_leads {id : Int} (leads : DirectLeads (places store.outbounds))
    (done : deleteOutbound id store = .ok after) : DirectLeads (places after.outbounds) := by
  simp only [deleteOutbound, bind_eq_ok, pure_eq_ok] at done
  obtain ⟨_, _, _, _, rfl⟩ := done
  exact leads.sublist (places_deleteWhere _)

theorem setOutboundEnabled_leads {id : Int} {enabled : Bool} {outbound : Outbound}
    (leads : DirectLeads (places store.outbounds))
    (done : setOutboundEnabled id enabled store = .ok (after, outbound)) :
    DirectLeads (places after.outbounds) := by
  simp only [setOutboundEnabled, bind_eq_ok, pure_eq_ok, Prod.mk.injEq] at done
  obtain ⟨_, _, _, _, rfl, _⟩ := done
  dsimp only
  rw [places_modifyWhere _ (enableOutbound_place enabled)]
  exact leads

theorem reorderOutbounds_leads {ids : List Int} (leads : DirectLeads (places store.outbounds))
    (done : reorderOutbounds ids store = .ok after) : DirectLeads (places after.outbounds) := by
  simp only [reorderOutbounds, bind_eq_ok, pure_eq_ok] at done
  obtain ⟨_, _, _, _, rfl⟩ := done
  apply rebalanceOutboundSorts_leads
  rw [tags_writeOutboundSorts]
  exact leads.tags

theorem updateOutboundSubscription_leads {now : String} {id : Int} {params : OutboundSubscriptionParams}
    {subscription : OutboundSubscription} (leads : DirectLeads (places store.outbounds))
    (done : updateOutboundSubscription now id params store = .ok (after, subscription)) :
    DirectLeads (places after.outbounds) := by
  simp only [updateOutboundSubscription, bind_eq_ok, pure_eq_ok, Prod.mk.injEq] at done
  obtain ⟨_, _, _, _, rfl, _⟩ := done
  cases params.enabled with
  | true => exact leads
  | false =>
      simp only [Bool.false_eq_true, if_false]
      rw [places_modifyWhere _ (enableOutbound_place false)]
      exact leads

theorem deleteOutboundSubscription_leads {now : String} {id : Int}
    (leads : DirectLeads (places store.outbounds))
    (done : deleteOutboundSubscription now id store = .ok after) : DirectLeads (places after.outbounds) := by
  simp only [deleteOutboundSubscription, bind_eq_ok, pure_eq_ok] at done
  obtain ⟨_, _, rfl⟩ := done
  exact rebalanceOutboundSorts_leads (leads.sublist (places_deleteWhere _)).tags

theorem reorderOutboundSubscriptions_leads {now : String} {ids : List Int}
    (leads : DirectLeads (places store.outbounds))
    (done : reorderOutboundSubscriptions now ids store = .ok after) : DirectLeads (places after.outbounds) := by
  simp only [reorderOutboundSubscriptions, bind_eq_ok, pure_eq_ok] at done
  obtain ⟨_, _, _, _, rfl⟩ := done
  exact rebalanceOutboundSorts_leads leads.tags

/-- The nodes may bring a `direct` outbound of their own, but no tag that is taken. -/
theorem materializeSubscriptionOutbounds_leads {now : String} {subscriptionID : Int}
    {nodes : List MaterializedSubscriptionOutbound} {identities : Option (List String)}
    {outbounds : List Outbound} (sound : TagsSound store.outbounds)
    (done : materializeSubscriptionOutbounds now subscriptionID nodes identities store =
      .ok (after, outbounds)) : DirectLeads (places after.outbounds) := by
  simp only [materializeSubscriptionOutbounds, bind_eq_ok, pure_eq_ok, Prod.mk.injEq] at done
  obtain ⟨_, _, _, _, written, looped, rfl, _⟩ := done
  have kept := foldlM_invariant (fun state : Store × List Int => TagsSound state.1.outbounds) sound
    (fun _ _ _ _ before turned => materializeNode_tags before turned) looped
  apply rebalanceOutboundSorts_leads
  rw [places_tags]
  exact (kept.delete _).nodup

/-! Re-opening the store. -/

theorem mem_seedOutbound {row : Outbound} {place : Place}
    (member : place ∈ places (seedOutbound row store).outbounds) :
    place ∈ places store.outbounds ∨
      outboundTagTaken row.tag store = false ∧ place = { row.place with id := store.outbounds.next } := by
  unfold seedOutbound at member
  split at member
  · exact .inl member
  · rename_i free
    rw [places_insert, List.mem_append, List.mem_singleton] at member
    exact member.imp_right fun new => ⟨Bool.eq_false_iff.mpr free, new⟩

theorem outboundTagTaken_seedOutbound {row : Outbound} {tag : String} (taken : outboundTagTaken tag store = true) :
    outboundTagTaken tag (seedOutbound row store) = true := by
  unfold seedOutbound
  split
  · exact taken
  · rw [outboundTagTaken, List.any_eq_true] at taken ⊢
    obtain ⟨other, stored, same⟩ := taken
    exact ⟨other, Serial.mem_insert.mpr (.inl stored), same⟩

theorem seedOutbound_leads {row : Outbound} (leads : DirectLeads (places store.outbounds))
    (behind : ∀ place ∈ places store.outbounds, place.direct = true →
      outboundTagTaken row.tag store = true ∨ place.sort ≤ row.sort)
    (before : row.place.direct = true → outboundTagTaken row.tag store = true ∨
      ∀ place ∈ places store.outbounds, row.sort < place.sort) :
    DirectLeads (places (seedOutbound row store).outbounds) := by
  unfold seedOutbound
  split
  · exact leads
  · rename_i free
    refine insertOutboundRow_leads leads (Bool.eq_false_iff.mpr free) ?_ ?_
    · exact fun place inside direct => (behind place inside direct).resolve_left free
    · exact fun direct => (before direct).resolve_left free

theorem blockedOutbound_other : blockedOutbound.place.direct = false := by
  decide

theorem dnsOutbound_other : dnsOutbound.place.direct = false := by
  decide

theorem outboundTagTaken_direct {place : Place} (inside : place ∈ places store.outbounds)
    (direct : place.direct = true) : outboundTagTaken "direct" store = true := by
  obtain ⟨row, stored, rfl⟩ := List.mem_map.mp inside
  simp only [Place.direct, Bool.and_eq_true] at direct
  exact List.any_eq_true.mpr ⟨row, stored, direct.1⟩

/-- The first default is `direct` itself: it is there, or it gets the least sort of all. -/
theorem seedDirect_leads (leads : DirectLeads (places store.outbounds))
    (guard : StoreEvent.reopen.keepsDirectFirst store = true) :
    DirectLeads (places (seedOutbound directOutbound store).outbounds) := by
  refine seedOutbound_leads leads ?_ ?_
  · exact fun place inside direct => .inl (outboundTagTaken_direct inside direct)
  · intro _
    cases taken : outboundTagTaken "direct" store with
    | true => exact .inl taken
    | false =>
        refine .inr fun place inside => ?_
        obtain ⟨row, stored, rfl⟩ := List.mem_map.mp inside
        simp only [StoreEvent.keepsDirectFirst, taken, Bool.false_eq_true, if_false, List.all_eq_true,
          decide_eq_true_eq] at guard
        exact guard row stored

/-- The other defaults that are missing will not come before it. -/
theorem seedDirect_low (guard : StoreEvent.reopen.keepsDirectFirst store = true) {place : Place}
    (inside : place ∈ places (seedOutbound directOutbound store).outbounds) (direct : place.direct = true) :
    (outboundTagTaken "blocked" (seedOutbound directOutbound store) = true ∨ place.sort ≤ 1) ∧
      (outboundTagTaken "dns" (seedOutbound directOutbound store) = true ∨ place.sort ≤ 2) := by
  rcases mem_seedOutbound inside with old | ⟨_, new⟩
  · have taken := outboundTagTaken_direct old direct
    obtain ⟨row, stored, rfl⟩ := List.mem_map.mp old
    simp only [StoreEvent.keepsDirectFirst, taken, if_true, List.all_eq_true, Bool.or_eq_true,
      Bool.and_eq_true, Bool.not_eq_true', decide_eq_true_eq] at guard
    rcases guard row stored with other | ⟨beforeBlocked, beforeDNS⟩
    · exact absurd direct (Bool.eq_false_iff.mp other)
    · exact ⟨beforeBlocked.imp_left outboundTagTaken_seedOutbound,
        beforeDNS.imp_left outboundTagTaken_seedOutbound⟩
  · rw [new]
    exact ⟨.inr (show (0 : Int) ≤ 1 by decide), .inr (show (0 : Int) ≤ 2 by decide)⟩

theorem reopen_leads (leads : DirectLeads (places store.outbounds))
    (guard : StoreEvent.reopen.keepsDirectFirst store = true) :
    DirectLeads (places store.reopen.outbounds) := by
  let opened : Store := { store with nextTrafficSamplesCleanup := zeroInstant }
  have first : DirectLeads (places (seedOutbound directOutbound opened).outbounds) :=
    seedDirect_leads leads guard
  have low : ∀ place ∈ places (seedOutbound directOutbound opened).outbounds, place.direct = true →
      (outboundTagTaken "blocked" (seedOutbound directOutbound opened) = true ∨ place.sort ≤ 1) ∧
        (outboundTagTaken "dns" (seedOutbound directOutbound opened) = true ∨ place.sort ≤ 2) :=
    fun _ inside direct => seedDirect_low (show StoreEvent.reopen.keepsDirectFirst opened = true from guard)
      inside direct
  have second : DirectLeads (places (seedOutbound blockedOutbound (seedOutbound directOutbound opened)).outbounds) := by
    refine seedOutbound_leads first (fun place inside direct => (low place inside direct).1) ?_
    exact fun direct => absurd direct (Bool.eq_false_iff.mp blockedOutbound_other)
  have third : DirectLeads (places (seedOutbound dnsOutbound
      (seedOutbound blockedOutbound (seedOutbound directOutbound opened))).outbounds) := by
    refine seedOutbound_leads second ?_ fun direct => absurd direct (Bool.eq_false_iff.mp dnsOutbound_other)
    intro place inside direct
    rcases mem_seedOutbound inside with old | ⟨_, new⟩
    · exact (low place old direct).2.imp_left outboundTagTaken_seedOutbound
    · rw [new] at direct
      exact absurd direct (Bool.eq_false_iff.mp blockedOutbound_other)
  exact third

/-! The other operations write no outbound. -/

theorem operate_leads {op : StoreOp} (sound : TagsSound store.outbounds)
    (leads : DirectLeads (places store.outbounds))
    (guard : (StoreEvent.operate op).keepsDirectFirst store = true) (done : op.run platform store = .ok after) :
    DirectLeads (places after.outbounds) := by
  cases op with
  | createOutbound now params =>
      obtain ⟨_, created⟩ := map_fst_eq_ok.mp done
      exact createOutbound_leads leads guard created
  | updateOutbound id params =>
      obtain ⟨_, updated⟩ := map_fst_eq_ok.mp done
      exact updateOutbound_leads leads guard updated
  | deleteOutbound id => exact deleteOutbound_leads leads done
  | setOutboundEnabled id enabled =>
      obtain ⟨_, switched⟩ := map_fst_eq_ok.mp done
      exact setOutboundEnabled_leads leads switched
  | reorderOutbounds ids => exact reorderOutbounds_leads leads done
  | updateOutboundSubscription now id params =>
      obtain ⟨_, updated⟩ := map_fst_eq_ok.mp done
      exact updateOutboundSubscription_leads leads updated
  | deleteOutboundSubscription now id => exact deleteOutboundSubscription_leads leads done
  | reorderOutboundSubscriptions now ids => exact reorderOutboundSubscriptions_leads leads done
  | materializeSubscriptionOutbounds now subscriptionID nodes identities =>
      obtain ⟨_, materialized⟩ := map_fst_eq_ok.mp done
      exact materializeSubscriptionOutbounds_leads sound materialized
  | _ =>
      rw [outbounds_unchanged rfl done]
      exact leads

theorem eventStep_leads {event : StoreEvent} (sound : TagsSound store.outbounds)
    (leads : DirectLeads (places store.outbounds))
    (guard : event.keepsDirectFirst store = true) (stepped : eventStep platform event store = some after) :
    DirectLeads (places after.outbounds) := by
  cases event with
  | operate op => exact operate_leads sound leads guard (storeStep_eq_some.mp stepped)
  | reopen =>
      rw [← Option.some.inj stepped]
      exact reopen_leads leads guard

end MiGate.Db
