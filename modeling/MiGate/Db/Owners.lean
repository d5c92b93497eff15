import MiGate.Db.Events
import MiGate.Db.OutboundsFrame
import MiGate.Db.OutboundsInv
import MiGate.Db.Precedence

namespace MiGate.Db

open Go Fallible Relational Transition

variable {platform : Platform} {store after : Store}

/-! Whose an outbound is: a subscription's outbound belongs to a subscription that is there, and is
not enabled while that is disabled. -/

/-- What an outbound's columns say about its subscription. -/
structure Outbound.Owned (subscriptions : Serial OutboundSubscription.id) (row : Outbound) : Prop where
  source : row.source = outboundSourceSubscription ↔ row.subscriptionID ≠ 0
  owner : row.subscriptionID ≠ 0 → ∃ subscription ∈ subscriptions.rows, subscription.id = row.subscriptionID ∧
    subscription.deletedAt = "" ∧ (row.enabled = true → subscription.enabled = true)

def OwnersSound (store : Store) : Prop :=
  ∀ row ∈ store.outbounds.rows, row.Owned store.outboundSubscriptions

/-- An outbound of no subscription. -/
theorem Outbound.Owned.manual {subscriptions : Serial OutboundSubscription.id} {row : Outbound}
    (source : row.source ≠ outboundSourceSubscription) (free : row.subscriptionID = 0) : row.Owned subscriptions where
  source := ⟨fun same => absurd same source, fun owned => absurd free owned⟩
  owner := fun owned => absurd free owned

/-- A change that keeps the owner and does not enable. -/
theorem Outbound.Owned.congr {subscriptions : Serial OutboundSubscription.id} {row other : Outbound}
    (owned : row.Owned subscriptions) (source : other.source = row.source)
    (subscriptionID : other.subscriptionID = row.subscriptionID)
    (enabled : other.enabled = true → row.enabled = true) : other.Owned subscriptions where
  source := by rw [source, subscriptionID, owned.source]
  owner := by
    rw [subscriptionID]
    intro given
    obtain ⟨subscription, stored, named, live, on⟩ := owned.owner given
    exact ⟨subscription, stored, named, live, on ∘ enabled⟩

/-- A change of the subscriptions that neither takes the owner away nor disables it. -/
theorem Outbound.Owned.transfer {before changed : Serial OutboundSubscription.id} {row : Outbound}
    (owned : row.Owned before)
    (kept : ∀ subscription ∈ before.rows, subscription.id = row.subscriptionID → subscription.deletedAt = "" →
      (row.enabled = true → subscription.enabled = true) → ∃ other ∈ changed.rows,
        other.id = row.subscriptionID ∧ other.deletedAt = "" ∧ (row.enabled = true → other.enabled = true)) :
    row.Owned changed where
  source := owned.source
  owner := by
    intro given
    obtain ⟨subscription, stored, named, live, on⟩ := owned.owner given
    exact kept subscription stored named live on

theorem OwnersSound.sort {outbounds : Serial Outbound.id} (sound : OwnersSound store)
    (same : ∀ row ∈ outbounds.rows, ∃ old ∈ store.outbounds.rows, row = sortOutbound row.sort old) :
    OwnersSound { store with outbounds } := by
  intro row member
  obtain ⟨old, stored, sorted⟩ := same row member
  refine (sound old stored).congr ?_ ?_ ?_
  · rw [sorted]; rfl
  · rw [sorted]; rfl
  · rw [sorted]; exact id

theorem rebalanceOutboundSorts_owners (sound : OwnersSound store) : OwnersSound (rebalanceOutboundSorts store) :=
  sound.sort fun _ member => stored_of_writeOutboundSorts member

/-- The columns of every subscription that owners are judged by stay as they are. -/
theorem OwnersSound.keep {selected : OutboundSubscription → Bool}
    {change : OutboundSubscription → OutboundSubscription} (keeps : ∀ row, (change row).id = row.id)
    (sound : OwnersSound store) (live : ∀ row, (change row).deletedAt = row.deletedAt)
    (enabled : ∀ row, (change row).enabled = row.enabled) :
    OwnersSound { store with
      outboundSubscriptions := store.outboundSubscriptions.modifyWhere selected change keeps } := by
  intro row member
  refine (sound row member).transfer ?_
  intro subscription stored named there on
  dsimp only
  refine ⟨_, Serial.mem_modifyWhere.mpr ⟨subscription, stored, rfl⟩, ?_⟩
  split
  · rw [keeps, live, enabled]
    exact ⟨named, there, on⟩
  · exact ⟨named, there, on⟩

theorem OwnersSound.insert {row : Outbound} (sound : OwnersSound store)
    (owned : row.Owned store.outboundSubscriptions) : OwnersSound (insertOutboundRow row store) := by
  intro other member
  rcases Serial.mem_insert.mp member with old | new
  · exact sound other old
  · rw [new]
    exact owned.congr rfl rfl id

theorem OwnersSound.modify {selected : Outbound → Bool} {change : Outbound → Outbound}
    (keeps : ∀ row, (change row).id = row.id) (sound : OwnersSound store)
    (owned : ∀ row ∈ store.outbounds.rows, selected row = true → (change row).Owned store.outboundSubscriptions) :
    OwnersSound { store with outbounds := store.outbounds.modifyWhere selected change keeps } := by
  intro other member
  dsimp only at member
  obtain ⟨row, stored, rfl⟩ := Serial.mem_modifyWhere.mp member
  split
  · rename_i chosen
    exact owned row stored chosen
  · exact sound row stored

theorem OwnersSound.delete {gone : Outbound → Bool} (sound : OwnersSound store) :
    OwnersSound { store with outbounds := store.outbounds.deleteWhere gone } :=
  fun row member => sound row (Serial.mem_deleteWhere.mp member).1

theorem loadOutbound_source (row : Outbound) :
    (loadOutbound row).source = outboundSourceSubscription ↔ row.source = outboundSourceSubscription := by
  unfold loadOutbound
  dsimp only
  split
  · rename_i blank
    constructor
    · intro same
      exact absurd same (by decide)
    · intro same
      rw [same] at blank
      exact absurd blank (by with_unfolding_all decide)
  · rfl

/-- An outbound may be enabled as soon as its subscription is. -/
theorem Outbound.Owned.switch {row changed : Outbound} (owned : row.Owned store.outboundSubscriptions)
    (source : changed.source = row.source) (subscriptionID : changed.subscriptionID = row.subscriptionID)
    (may : changed.enabled = true → ensureSubscriptionOutboundCanEnable store (loadOutbound row) = .ok ()) :
    changed.Owned store.outboundSubscriptions where
  source := by rw [source, subscriptionID, owned.source]
  owner := by
    rw [subscriptionID]
    intro given
    cases on : changed.enabled with
    | false =>
        obtain ⟨subscription, stored, named, live, _⟩ := owned.owner given
        exact ⟨subscription, stored, named, live, nofun⟩
    | true =>
        have checked := may on
        have subscribed := (loadOutbound_source row).mpr (owned.source.mpr given)
        have bound : ¬((loadOutbound row).source ≠ outboundSourceSubscription ∨ (loadOutbound row).subscriptionID = 0) :=
          not_or.mpr ⟨not_not.mpr subscribed, given⟩
        rw [ensureSubscriptionOutboundCanEnable, if_neg bound, require_eq_ok] at checked
        change subscriptionEnabled store row.subscriptionID = true at checked
        unfold subscriptionEnabled at checked
        cases found : store.outboundSubscriptions.find? row.subscriptionID with
        | none => simp [found] at checked
        | some subscription =>
            simp only [found, Bool.and_eq_true, beq_iff_eq] at checked
            exact ⟨subscription, Serial.mem_of_find? found, Serial.id_of_find? found, checked.1, fun _ => checked.2⟩

theorem getOutboundByID_loads {id : Int} {current row : Outbound} (found : getOutboundByID store id = some current)
    (stored : row ∈ store.outbounds.rows) (named : row.id = id) : current = loadOutbound row := by
  obtain ⟨read, there, loaded⟩ := Option.map_eq_some_iff.mp found
  have same : read = row :=
    Serial.eq_of_id_eq (Serial.mem_of_find? there) stored ((Serial.id_of_find? there).trans named.symm)
  rw [← loaded, same]

theorem createOutbound_owners {now : String} {params : CreateOutboundParams} {outbound : Outbound}
    (sound : OwnersSound store) (done : createOutbound now params store = .ok (after, outbound)) :
    OwnersSound after := by
  simp only [createOutbound, bind_eq_ok, require_eq_ok, pure_eq_ok, Prod.mk.injEq, bne_iff_ne] at done
  obtain ⟨profile, _, _, manual, _, _, rfl, _⟩ := done
  exact sound.insert (.manual manual rfl)

theorem updateOutbound_owners {id : Int} {params : UpdateOutboundParams} {outbound : Outbound}
    (sound : OwnersSound store) (done : updateOutbound id params store = .ok (after, outbound)) :
    OwnersSound after := by
  simp only [updateOutbound, bind_eq_ok, expect_eq_ok] at done
  obtain ⟨current, found, rest⟩ := done
  by_cases subscribed : current.source = outboundSourceSubscription
  · simp only [subscribed, if_true, updateSubscriptionOutboundEditableFields, bind_eq_ok, onlyIf_eq_ok, pure_eq_ok,
      Prod.mk.injEq] at rest
    obtain ⟨_, may, rfl, _⟩ := rest
    refine sound.modify _ fun row stored chosen => (sound row stored).switch rfl rfl ?_
    obtain ⟨read, there, loaded⟩ := Option.map_eq_some_iff.mp found
    have named : current.id = id := by
      rw [← loaded, ← Serial.id_of_find? there]
      rfl
    rw [← getOutboundByID_loads found stored ((beq_iff_eq.mp chosen).trans named)]
    exact may
  · simp only [subscribed, if_false, bind_eq_ok, pure_eq_ok, Prod.mk.injEq] at rest
    obtain ⟨profile, _, _, _, rfl, _⟩ := rest
    refine sound.modify _ fun row stored chosen => ?_
    rw [getOutboundByID_loads found stored (beq_iff_eq.mp chosen), loadOutbound_source] at subscribed
    refine .manual subscribed ?_
    exact not_not.mp (mt (sound row stored).source.mpr subscribed)

theorem setOutboundEnabled_owners {id : Int} {enabled : Bool} {outbound : Outbound} (sound : OwnersSound store)
    (done : setOutboundEnabled id enabled store = .ok (after, outbound)) : OwnersSound after := by
  simp only [setOutboundEnabled, bind_eq_ok, expect_eq_ok, onlyIf_eq_ok, pure_eq_ok, Prod.mk.injEq] at done
  obtain ⟨current, found, _, may, rfl, _⟩ := done
  refine sound.modify _ fun row stored chosen => (sound row stored).switch rfl rfl ?_
  rw [← getOutboundByID_loads found stored (beq_iff_eq.mp chosen)]
  exact may

theorem createOutboundSubscription_owners {now : String} {params : OutboundSubscriptionParams}
    {subscription : OutboundSubscription} (sound : OwnersSound store)
    (done : createOutboundSubscription now params store = .ok (after, subscription)) : OwnersSound after := by
  simp only [createOutboundSubscription, bind_eq_ok, pure_eq_ok, Prod.mk.injEq] at done
  obtain ⟨_, _, rfl, _⟩ := done
  intro row member
  refine (sound row member).transfer fun subscription stored named live on => ?_
  exact ⟨subscription, Serial.mem_insert.mpr (.inl stored), named, live, on⟩

/-- Disabling a subscription disables its outbounds with it. -/
theorem updateOutboundSubscription_owners {now : String} {id : Int} {params : OutboundSubscriptionParams}
    {subscription : OutboundSubscription} (sound : OwnersSound store)
    (done : updateOutboundSubscription now id params store = .ok (after, subscription)) : OwnersSound after := by
  simp only [updateOutboundSubscription, bind_eq_ok, pure_eq_ok, Prod.mk.injEq] at done
  obtain ⟨_, _, _, _, rfl, _⟩ := done
  intro row member
  dsimp only at member ⊢
  have switched : row.Owned store.outboundSubscriptions ∧
      (row.enabled = true → row.subscriptionID = id → row.subscriptionID ≠ 0 → params.enabled = true) := by
    cases on : params.enabled with
    | true =>
        rw [on, if_pos rfl] at member
        exact ⟨sound row member, fun _ _ _ => rfl⟩
    | false =>
        rw [on, if_neg Bool.false_ne_true] at member
        obtain ⟨old, stored, rfl⟩ := Serial.mem_modifyWhere.mp member
        split
        · exact ⟨(sound old stored).congr rfl rfl nofun, nofun⟩
        · rename_i others
          refine ⟨sound old stored, fun _ mine given => absurd ?_ others⟩
          simp [isSubscriptionOutbound, mine, (sound old stored).source.mpr given]
  refine switched.1.transfer fun subscription stored named live on => ?_
  refine ⟨_, Serial.mem_modifyWhere.mpr ⟨subscription, stored, rfl⟩, ?_⟩
  split
  · rename_i chosen
    refine ⟨named, live, fun enabled => switched.2 enabled ?_ ?_⟩
    · simp only [isLiveSubscription, Bool.and_eq_true, beq_iff_eq] at chosen
      rw [← named, chosen.1]
    · rw [← named]
      exact (store.outboundSubscriptions.positive subscription stored).ne'
  · exact ⟨named, live, on⟩

theorem deleteSubscriptionOutbounds_owners {ids : List Int} (sound : OwnersSound store) :
    OwnersSound (deleteSubscriptionOutbounds ids store) :=
  fun row member => sound row (Serial.mem_deleteWhere.mp member).1

/-- A retired subscription leaves no outbound behind. -/
theorem deleteOutboundSubscription_owners {now : String} {id : Int} (sound : OwnersSound store)
    (done : deleteOutboundSubscription now id store = .ok after) : OwnersSound after := by
  simp only [deleteOutboundSubscription, bind_eq_ok, pure_eq_ok] at done
  obtain ⟨_, _, rfl⟩ := done
  apply rebalanceOutboundSorts_owners
  intro row member
  obtain ⟨stored, spared⟩ := Serial.mem_deleteWhere.mp member
  have owned := sound row stored
  refine owned.transfer fun subscription inside named live on => ?_
  have other : subscription.id ≠ id := by
    intro same
    have given : row.subscriptionID ≠ 0 := by
      rw [← named]
      exact (store.outboundSubscriptions.positive subscription inside).ne'
    have mine : isSubscriptionOutbound id row = true := by
      simp [isSubscriptionOutbound, ← named, same, owned.source.mpr given]
    have listed : row.id ∈ subscriptionOutboundIDs id store :=
      List.mem_map_of_mem (List.mem_filter.mpr ⟨stored, mine⟩)
    simp [owned.source.mpr given, listed] at spared
  refine ⟨subscription, ?_, named, live, on⟩
  dsimp only
  refine Serial.mem_modifyWhere.mpr ⟨subscription, inside, ?_⟩
  rw [if_neg]
  simp [isLiveSubscription, other]

theorem writeSubscriptionPriorities_owners {now : String} {ids : List Int} (sound : OwnersSound store) :
    OwnersSound { store with
      outboundSubscriptions := writeSubscriptionPriorities now ids store.outboundSubscriptions } := by
  unfold writeSubscriptionPriorities
  generalize ids.zipIdx = places
  induction places generalizing store with
  | nil => exact sound
  | cons place rest ih =>
      have first : OwnersSound { store with
          outboundSubscriptions := store.outboundSubscriptions.modifyWhere (fun row => row.id == place.1)
            (prioritizeSubscription now place.2) (prioritizeSubscription_id now place.2) } :=
        sound.keep _ (fun _ => rfl) fun _ => rfl
      exact ih first

theorem recordFetch_owners {selected : OutboundSubscription → Bool} {fetched lastErr now : String}
    {identities : Option (List String)} (sound : OwnersSound store) :
    OwnersSound { store with
      outboundSubscriptions := store.outboundSubscriptions.modifyWhere selected
        (recordFetch fetched lastErr identities now) (recordFetch_id fetched lastErr identities now) } := by
  refine sound.keep _ ?_ ?_
  · intro row
    cases identities <;> rfl
  · intro row
    cases identities <;> rfl

theorem materializeNode_owners {now : String} {subscriptionID : Int} {node : MaterializedSubscriptionOutbound}
    {done next : Store × List Int} (sound : OwnersSound done.1)
    (enabled : ∃ subscription ∈ done.1.outboundSubscriptions.rows, subscription.id = subscriptionID ∧
      subscription.deletedAt = "" ∧ subscription.enabled = true)
    (turned : materializeNode now subscriptionID done node = .ok next) : OwnersSound next.1 := by
  obtain ⟨subscription, inside, named, live, on⟩ := enabled
  have given : subscriptionID ≠ 0 := by
    rw [← named]
    exact (done.1.outboundSubscriptions.positive subscription inside).ne'
  -- Whatever row carries the node, it is the subscription's.
  have carried : ∀ row : Outbound, row.source = outboundSourceSubscription → row.subscriptionID = subscriptionID →
      row.Owned done.1.outboundSubscriptions := by
    intro row source mine
    refine ⟨⟨fun _ => ?_, fun _ => source⟩, fun _ => ⟨subscription, inside, ?_, live, fun _ => on⟩⟩
    · rw [mine]
      exact given
    · rw [mine, named]
  simp only [materializeNode, bind_eq_ok] at turned
  obtain ⟨_, _, _, _, rest⟩ := turned
  cases claimed : existingNodeRow subscriptionID node done.1 with
  | some existing =>
      simp only [claimed, bind_eq_ok, pure_eq_ok] at rest
      obtain ⟨_, _, rfl⟩ := rest
      refine sound.modify _ fun row stored chosen => ?_
      have same := Serial.eq_of_id_eq stored (existingNodeRow_mem claimed) (beq_iff_eq.mp chosen)
      have mine := existingNodeRow_mine claimed
      rw [← same, isSubscriptionOutbound, Bool.and_eq_true, beq_iff_eq, beq_iff_eq] at mine
      exact carried _ mine.2 mine.1
  | none =>
      simp only [claimed, bind_eq_ok, pure_eq_ok] at rest
      obtain ⟨_, _, rfl⟩ := rest
      exact sound.insert (carried _ rfl rfl)

theorem materializeSubscriptionOutbounds_owners {now : String} {subscriptionID : Int}
    {nodes : List MaterializedSubscriptionOutbound} {identities : Option (List String)} {outbounds : List Outbound}
    (sound : OwnersSound store)
    (done : materializeSubscriptionOutbounds now subscriptionID nodes identities store = .ok (after, outbounds)) :
    OwnersSound after := by
  simp only [materializeSubscriptionOutbounds, bind_eq_ok, expect_eq_ok, require_eq_ok, pure_eq_ok,
    Prod.mk.injEq] at done
  obtain ⟨subscription, found, _, on, written, looped, rfl, _⟩ := done
  rw [findLiveSubscription, Option.filter_eq_some_iff, isLiveSubscription, Bool.and_eq_true, beq_iff_eq,
    beq_iff_eq] at found
  obtain ⟨there, named, live⟩ := found
  have loop := foldlM_invariant (fun state : Store × List Int =>
      OwnersSound state.1 ∧ state.1.outboundSubscriptions = store.outboundSubscriptions) ⟨sound, rfl⟩ ?_ looped
  · apply rebalanceOutboundSorts_owners
    exact recordFetch_owners (deleteSubscriptionOutbounds_owners loop.1)
  · intro node _ before next kept turned
    have only := materializeNode_onlyWrites turned
    refine ⟨materializeNode_owners kept.1 ?_ turned, ?_⟩
    · rw [kept.2]
      exact ⟨subscription, Serial.mem_of_find? there, named, live, on⟩
    · rw [← only]
      exact kept.2

/-- Whatever an operation does, its outbounds have their owners. -/
theorem operate_owners {op : StoreOp} (sound : OwnersSound store) (done : op.run platform store = .ok after) :
    OwnersSound after := by
  cases op with
  | createOutbound now params =>
      obtain ⟨_, created⟩ := map_fst_eq_ok.mp done
      exact createOutbound_owners sound created
  | updateOutbound id params =>
      obtain ⟨_, updated⟩ := map_fst_eq_ok.mp done
      exact updateOutbound_owners sound updated
  | deleteOutbound id =>
      simp only [StoreOp.run, Db.deleteOutbound, bind_eq_ok, pure_eq_ok] at done
      obtain ⟨_, _, _, _, rfl⟩ := done
      exact sound.delete
  | setOutboundEnabled id enabled =>
      obtain ⟨_, switched⟩ := map_fst_eq_ok.mp done
      exact setOutboundEnabled_owners sound switched
  | reorderOutbounds ids =>
      simp only [StoreOp.run, Db.reorderOutbounds, bind_eq_ok, pure_eq_ok] at done
      obtain ⟨_, _, _, _, rfl⟩ := done
      apply rebalanceOutboundSorts_owners
      exact sound.sort fun _ member => stored_of_writeOutboundSorts member
  | createOutboundSubscription now params =>
      obtain ⟨_, created⟩ := map_fst_eq_ok.mp done
      exact createOutboundSubscription_owners sound created
  | updateOutboundSubscription now id params =>
      obtain ⟨_, updated⟩ := map_fst_eq_ok.mp done
      exact updateOutboundSubscription_owners sound updated
  | deleteOutboundSubscription now id => exact deleteOutboundSubscription_owners sound done
  | reorderOutboundSubscriptions now ids =>
      simp only [StoreOp.run, Db.reorderOutboundSubscriptions, bind_eq_ok, pure_eq_ok] at done
      obtain ⟨_, _, _, _, rfl⟩ := done
      exact rebalanceOutboundSorts_owners (writeSubscriptionPriorities_owners sound)
  | markOutboundSubscriptionFetch now id fetchedAt lastErr identities =>
      simp only [StoreOp.run, Db.markOutboundSubscriptionFetch, bind_eq_ok, pure_eq_ok] at done
      obtain ⟨_, _, rfl⟩ := done
      exact recordFetch_owners sound
  | materializeSubscriptionOutbounds now subscriptionID nodes identities =>
      obtain ⟨_, materialized⟩ := map_fst_eq_ok.mp done
      exact materializeSubscriptionOutbounds_owners sound materialized
  | _ =>
      rw [← run_onlyWrites done]
      exact sound

theorem seedOutbound_owners {row : Outbound} (manual : row.source ≠ outboundSourceSubscription)
    (free : row.subscriptionID = 0) (sound : OwnersSound store) : OwnersSound (seedOutbound row store) := by
  unfold seedOutbound
  split
  · exact sound
  · exact sound.insert (.manual manual free)

theorem reopen_owners (sound : OwnersSound store) : OwnersSound store.reopen := by
  have manual : outboundSourceManual ≠ outboundSourceSubscription := by decide
  rw [reopen_eq]
  exact seedOutbound_owners manual rfl (seedOutbound_owners manual rfl (seedOutbound_owners manual rfl sound))

theorem empty_owners : OwnersSound Store.empty :=
  fun _ member => absurd member List.not_mem_nil

theorem events_owners (reached : Reach (Steps (eventStep platform)) Store.initial store) : OwnersSound store := by
  induction reached with
  | start => exact reopen_owners empty_owners
  | @step before _ event _ stepped ih =>
      cases event with
      | operate op => exact operate_owners ih (storeStep_eq_some.mp stepped)
      | reopen =>
          rw [← Option.some.inj stepped]
          exact reopen_owners ih

end MiGate.Db
