import MiGate.Config.DefaultRoute
import MiGate.Db.Standing

namespace MiGate.Db

open Go Fallible Relational Transition

variable {platform : Platform} {store after : Store}

/-! What each step does to the order of the outbounds.  A creation, an update, the update of a
subscription and a re-opening of the store change what outbounds rank by, or add one, and do
not rebalance. -/

/-- The condition under which such a step leaves every outbound where it ranks. -/
def StoreEvent.keepsRanks (event : StoreEvent) (store : Store) : Bool :=
  match event with
  | .operate (.createOutbound _ params) =>
      let sort := nextSort (store.outbounds.rows.map Outbound.sort)
      let rank := manualRank (trimSpace params.tag) (normalizeOutboundProtocol params.protocol) sort
      (standings store).all fun other => !decide (rankLess rank other.rank)
  | .operate (.updateOutbound id params) =>
      store.outbounds.rows.all fun row => row.id != id || row.source == outboundSourceSubscription ||
        store.outbounds.rows.all fun other => other.id == id ||
          decide (Standing.InOrder
            ⟨row.id, row.sort, manualRank (trimSpace params.tag) (normalizeOutboundProtocol params.protocol) row.sort⟩
            (standing store.outboundSubscriptions other))
  | .operate (.updateOutboundSubscription _ id params) =>
      store.outbounds.rows.all fun row => !isSubscriptionOutbound id row ||
        store.outbounds.rows.all fun other => isSubscriptionOutbound id other ||
          decide (Standing.InOrder
            ⟨row.id, row.sort,
              nodeRank row.tag row.protocol params.prepend (outboundRank store.outboundSubscriptions row).2⟩
            (standing store.outboundSubscriptions other))
  | .operate _ => true
  | .reopen =>
      defaultOutbounds.all fun row => outboundTagTaken row.tag store ||
        (standings store).all fun other => decide ((standing store.outboundSubscriptions row).InOrder other)

/-! Steps that rebalance leave everything in order. -/

theorem kept_of_rebalanced (owners : OwnersSound (rebalanceOutboundSorts store)) :
    RanksKept (standings (rebalanceOutboundSorts store)) := by
  refine rebalanceOutboundSorts_kept fun row stored => ?_
  have inside : renumber store row ∈ (rebalanceOutboundSorts store).outbounds.rows := by
    rw [rebalanceOutboundSorts_rows]
    exact List.mem_map_of_mem stored
  exact (owners _ inside).congr rfl rfl id

/-! Steps that keep every standing. -/

/-- What an outbound ranks by is the flag and the priority of its subscription. -/
theorem outboundRank_same {subscriptions changed : Serial OutboundSubscription.id} {row : Outbound}
    (owned : row.Owned subscriptions)
    (same : ∀ subscription ∈ subscriptions.rows, subscription.id = row.subscriptionID →
      ∃ other ∈ changed.rows, other.id = subscription.id ∧ other.prepend = subscription.prepend ∧
        other.priority = subscription.priority) :
    outboundRank changed row = outboundRank subscriptions row := by
  by_cases node : row.source = outboundSourceSubscription
  · obtain ⟨subscription, found, _⟩ := owned.find node
    obtain ⟨other, stored, named, prepend, priority⟩ :=
      same subscription (Serial.mem_of_find? found) (Serial.id_of_find? found)
    have there : changed.find? row.subscriptionID = some other := by
      rw [← Serial.id_of_find? found, ← named]
      exact Serial.find?_of_mem stored
    rw [outboundRank_node node found, outboundRank_node node there, prepend, priority]
  · rw [outboundRank_manual owned node, outboundRank_manual owned node]

theorem resubscribed_kept (owners : OwnersSound store) (kept : RanksKept (standings store))
    (outbounds : after.outbounds = store.outbounds)
    (same : ∀ subscription ∈ store.outboundSubscriptions.rows,
      ∃ other ∈ after.outboundSubscriptions.rows, other.id = subscription.id ∧
        other.prepend = subscription.prepend ∧ other.priority = subscription.priority) :
    RanksKept (standings after) := by
  have unmoved : standings after = standings store := by
    rw [standings, outbounds]
    refine List.map_congr_left fun row stored => ?_
    rw [standing, outboundRank_same (owners row stored) fun subscription inside _ => same subscription inside, standing]
  rw [unmoved]
  exact kept

theorem standings_modifyWhere {selected : Outbound → Bool} {change : Outbound → Outbound}
    (keeps : ∀ row, (change row).id = row.id)
    (same : ∀ row, standing store.outboundSubscriptions (change row) = standing store.outboundSubscriptions row) :
    standings { store with outbounds := store.outbounds.modifyWhere selected change keeps } = standings store :=
  Serial.map_modifyWhere _ _ _ _ keeps fun row _ _ => same row

/-! Steps that change the rank of some outbounds. -/

/-- Those whose ranks change must fit among the others, and be in order among themselves. -/
theorem ranksKept_rerank {outbounds : Serial Outbound.id} {before now : Outbound → Standing} (selected : Outbound → Bool)
    (named : ∀ row, (before row).id = row.id ∧ (now row).id = row.id)
    (kept : RanksKept (outbounds.rows.map before))
    (others : ∀ row ∈ outbounds.rows, selected row = false → now row = before row)
    (among : ∀ row ∈ outbounds.rows, selected row = true → ∀ other ∈ outbounds.rows, selected other = true →
      row.id ≠ other.id → (now row).InOrder (now other)) :
    RanksKept (outbounds.rows.map now) ↔ ∀ row ∈ outbounds.rows, selected row = true →
      ∀ other ∈ outbounds.rows, selected other = false → (now row).InOrder (before other) := by
  constructor
  · intro reranked row stored chosen other otherStored left
    have different : row.id ≠ other.id := by
      intro same
      rw [Serial.eq_of_id_eq stored otherStored same, left] at chosen
      cases chosen
    rw [← others other otherStored left]
    refine reranked _ (List.mem_map_of_mem stored) _ (List.mem_map_of_mem otherStored) ?_
    rwa [(named row).2, (named other).2]
  · intro fits one inside other otherInside different
    obtain ⟨row, stored, rfl⟩ := List.mem_map.mp inside
    obtain ⟨otherRow, otherStored, rfl⟩ := List.mem_map.mp otherInside
    rw [(named row).2, (named otherRow).2] at different
    cases chosen : selected row with
    | true =>
        cases otherChosen : selected otherRow with
        | true => exact among row stored chosen otherRow otherStored otherChosen different
        | false =>
            rw [others otherRow otherStored otherChosen]
            exact fits row stored chosen otherRow otherStored otherChosen
    | false =>
        rw [others row stored chosen]
        cases otherChosen : selected otherRow with
        | true => exact (fits otherRow otherStored otherChosen row stored chosen).symm
        | false =>
            rw [others otherRow otherStored otherChosen]
            refine kept _ (List.mem_map_of_mem stored) _ (List.mem_map_of_mem otherStored) ?_
            rwa [(named row).1, (named otherRow).1]

theorem standings_insert {row : Outbound} : standings (insertOutboundRow row store) =
    standings store ++ [standing store.outboundSubscriptions { row with id := store.outbounds.next }] :=
  Serial.map_insert _ _ _ _

theorem standings_fresh {one : Standing} (inside : one ∈ standings store) : one.id ≠ store.outbounds.next := by
  obtain ⟨row, stored, rfl⟩ := List.mem_map.mp inside
  exact Int.ne_of_lt (store.outbounds.bounded row stored)

/-- One row more is in order if it stands in order with those there are. -/
theorem insertOutboundRow_kept {row : Outbound} (manual : row.source ≠ outboundSourceSubscription)
    (free : row.subscriptionID = 0) : RanksKept (standings (insertOutboundRow row store)) ↔
      RanksKept (standings store) ∧ ∀ other ∈ standings store,
        Standing.InOrder ⟨store.outbounds.next, row.sort, manualRank row.tag row.protocol row.sort⟩ other := by
  have owned : Outbound.Owned store.outboundSubscriptions { row with id := store.outbounds.next } :=
    .manual manual free
  rw [standings_insert, ranksKept_concat fun _ inside => standings_fresh inside, standing,
    outboundRank_manual owned manual]

theorem OutboundProfile.prepare_names {profile written : OutboundProfile} (prepared : profile.prepare = .ok written) :
    written.tag = trimSpace profile.tag ∧ written.protocol = normalizeOutboundProtocol profile.protocol := by
  simp only [OutboundProfile.prepare, bind_eq_ok, pure_eq_ok] at prepared
  obtain ⟨_, _, _, _, _, _, _, _, _, _, _, _, rfl⟩ := prepared
  exact ⟨rfl, rfl⟩

theorem createOutbound_kept {now : String} {params : CreateOutboundParams} {outbound : Outbound}
    (kept : RanksKept (standings store)) (done : createOutbound now params store = .ok (after, outbound)) :
    RanksKept (standings after) ↔ (StoreEvent.operate (.createOutbound now params)).keepsRanks store = true := by
  simp only [createOutbound, bind_eq_ok, require_eq_ok, pure_eq_ok, Prod.mk.injEq, bne_iff_ne] at done
  obtain ⟨profile, prepared, _, manual, _, _, rfl, _⟩ := done
  obtain ⟨tag, protocol⟩ := OutboundProfile.prepare_names prepared
  rw [insertOutboundRow_kept manual rfl, and_iff_right kept, StoreEvent.keepsRanks, List.all_eq_true]
  refine forall₂_congr fun other inside => ?_
  dsimp only [OutboundProfile.write]
  rw [tag, protocol]
  have last : other.sort < nextSort (store.outbounds.rows.map Outbound.sort) := by
    obtain ⟨row, stored, rfl⟩ := List.mem_map.mp inside
    exact lt_nextSort (List.mem_map_of_mem stored)
  rw [Bool.not_eq_true', decide_eq_false_iff_not]
  constructor
  · exact fun order => order.2.2 last
  · exact fun behind => ⟨ne_of_gt last, fun before => absurd last (lt_asymm before), fun _ => behind⟩

theorem updateOutbound_kept {id : Int} {params : UpdateOutboundParams} {outbound : Outbound}
    (owners : OwnersSound store) (kept : RanksKept (standings store))
    (done : updateOutbound id params store = .ok (after, outbound)) :
    RanksKept (standings after) ↔ (StoreEvent.operate (.updateOutbound id params)).keepsRanks store = true := by
  simp only [updateOutbound, bind_eq_ok, expect_eq_ok] at done
  obtain ⟨current, found, rest⟩ := done
  have source : ∀ row ∈ store.outbounds.rows, row.id = id →
      (row.source = outboundSourceSubscription ↔ current.source = outboundSourceSubscription) := by
    intro row stored named
    rw [getOutboundByID_loads found stored named, loadOutbound_source]
  by_cases subscribed : current.source = outboundSourceSubscription
  · simp only [subscribed, if_true, updateSubscriptionOutboundEditableFields, bind_eq_ok, pure_eq_ok,
      Prod.mk.injEq] at rest
    obtain ⟨_, _, rfl, _⟩ := rest
    rw [standings_modifyWhere (editSubscriptionOutbound_id _ _) fun _ => rfl]
    refine iff_of_true kept ?_
    rw [StoreEvent.keepsRanks, List.all_eq_true]
    intro row stored
    by_cases named : row.id = id
    · simp [(source row stored named).mpr subscribed]
    · simp [named]
  · simp only [subscribed, if_false, bind_eq_ok, pure_eq_ok, Prod.mk.injEq] at rest
    obtain ⟨profile, prepared, _, _, rfl, _⟩ := rest
    obtain ⟨tag, protocol⟩ := OutboundProfile.prepare_names prepared
    -- The row that is written stays manual and keeps its sort.
    have written : ∀ row ∈ store.outbounds.rows, row.id = id →
        standing store.outboundSubscriptions (updateOutboundRow profile params.enabled row) =
          ⟨row.id, row.sort, manualRank (trimSpace params.tag) (normalizeOutboundProtocol params.protocol) row.sort⟩ := by
      intro row stored named
      have manual : row.source ≠ outboundSourceSubscription := mt (source row stored named).mp subscribed
      have owned : Outbound.Owned store.outboundSubscriptions (updateOutboundRow profile params.enabled row) :=
        .manual manual (not_not.mp (mt (owners row stored).source.mpr manual))
      rw [standing, outboundRank_manual owned manual]
      dsimp only [updateOutboundRow, OutboundProfile.write]
      rw [tag, protocol]
      rfl
    rw [standings, Serial.modifyWhere, List.map_map]
    refine (ranksKept_rerank (fun row => row.id == id) ?_ kept ?_ ?_).trans ?_
    · intro row
      refine ⟨rfl, ?_⟩
      dsimp only [Function.comp_apply]
      split <;> rfl
    · intro row _ unnamed
      rw [Function.comp_apply, unnamed, if_neg Bool.false_ne_true]
    · intro row _ chosen other _ otherChosen different
      exact absurd ((beq_iff_eq.mp chosen).trans (beq_iff_eq.mp otherChosen).symm) different
    · rw [StoreEvent.keepsRanks, List.all_eq_true]
      refine forall₂_congr fun row stored => ?_
      by_cases named : row.id = id
      · have manual : row.source ≠ outboundSourceSubscription := mt (source row stored named).mp subscribed
        simp only [Function.comp_apply, named, beq_self_eq_true, if_true, forall_const, bne_self_eq_false,
          beq_eq_false_iff_ne.mpr manual, Bool.false_or, List.all_eq_true, Bool.or_eq_true, decide_eq_true_eq,
          written row stored named]
        refine forall₂_congr fun other _ => ?_
        cases other.id == id <;> simp
      · simp [named]

/-- The nodes of one subscription rank alike, prepended or not. -/
theorem nodeRank_less (tag protocol otherTag otherProtocol : String) (prepend other : Bool) (priority : Int) :
    rankLess (nodeRank tag protocol prepend priority) (nodeRank otherTag otherProtocol prepend priority) ↔
      rankLess (nodeRank tag protocol other priority) (nodeRank otherTag otherProtocol other priority) := by
  unfold nodeRank rankLess
  cases builtIn tag protocol with
  | some number =>
      cases builtIn otherTag otherProtocol with
      | some otherNumber => rfl
      | none => cases prepend <;> cases other <;> simp
  | none =>
      cases builtIn otherTag otherProtocol with
      | some otherNumber => cases prepend <;> cases other <;> simp
      | none => simp

theorem nodeRank_priority (tag protocol : String) (prepend other : Bool) (priority : Int) :
    nodeRank tag protocol prepend (nodeRank tag protocol other priority).2 = nodeRank tag protocol prepend priority := by
  unfold nodeRank
  cases builtIn tag protocol <;> rfl

theorem updateOutboundSubscription_kept {now : String} {id : Int} {params : OutboundSubscriptionParams}
    {subscription : OutboundSubscription} (owners : OwnersSound store) (kept : RanksKept (standings store))
    (done : updateOutboundSubscription now id params store = .ok (after, subscription)) :
    RanksKept (standings after) ↔
      (StoreEvent.operate (.updateOutboundSubscription now id params)).keepsRanks store = true := by
  simp only [updateOutboundSubscription, bind_eq_ok, expect_eq_ok, pure_eq_ok, Prod.mk.injEq] at done
  obtain ⟨_, _, current, found, rfl, _⟩ := done
  obtain ⟨there, live⟩ := Option.filter_eq_some_iff.mp found
  let changed := store.outboundSubscriptions.modifyWhere (isLiveSubscription id) (params.write now)
    (params.write_id now)
  have rewritten : changed.find? id = some (params.write now current) := by
    have inside : params.write now current ∈ changed.rows := by
      refine Serial.mem_modifyWhere.mpr ⟨current, Serial.mem_of_find? there, ?_⟩
      rw [if_pos live]
    have named := Serial.find?_of_mem inside
    rwa [params.write_id, Serial.id_of_find? there] at named
  -- That its outbounds are disabled with it changes no standing.
  have switched : ∀ outbounds, outbounds = (if params.enabled then store.outbounds
      else store.outbounds.modifyWhere (isSubscriptionOutbound id) (enableOutbound false) (enableOutbound_id false)) →
        outbounds.rows.map (standing changed) = store.outbounds.rows.map (standing changed) := by
    intro outbounds written
    rw [written]
    split
    · rfl
    · exact Serial.map_modifyWhere _ _ _ _ _ fun _ _ _ => rfl
  have mine : ∀ row ∈ store.outbounds.rows, isSubscriptionOutbound id row = true →
      outboundRank store.outboundSubscriptions row = nodeRank row.tag row.protocol current.prepend current.priority ∧
        outboundRank changed row = nodeRank row.tag row.protocol params.prepend current.priority := by
    intro row stored chosen
    rw [isSubscriptionOutbound, Bool.and_eq_true, beq_iff_eq, beq_iff_eq] at chosen
    refine ⟨outboundRank_node chosen.2 (by rwa [chosen.1]), ?_⟩
    exact outboundRank_node chosen.2 (by rwa [chosen.1])
  rw [standings, switched _ rfl]
  refine (ranksKept_rerank (isSubscriptionOutbound id) (fun _ => ⟨rfl, rfl⟩) kept ?_ ?_).trans ?_
  · intro row stored others
    rw [standing, standing, outboundRank_same (owners row stored)]
    intro owner inside named
    have other : owner.id ≠ id := by
      intro same
      have given : row.subscriptionID ≠ 0 := named ▸ (store.outboundSubscriptions.positive owner inside).ne'
      simp [isSubscriptionOutbound, ← named, same, (owners row stored).source.mpr given] at others
    refine ⟨owner, Serial.mem_modifyWhere.mpr ⟨owner, inside, ?_⟩, rfl, rfl, rfl⟩
    rw [if_neg]
    simp [isLiveSubscription, other]
  · intro row stored chosen other otherStored otherChosen different
    have order := kept _ (List.mem_map_of_mem stored) _ (List.mem_map_of_mem otherStored) different
    unfold Standing.InOrder standing at order ⊢
    dsimp only at order ⊢
    rw [(mine row stored chosen).1, (mine other otherStored otherChosen).1] at order
    rw [(mine row stored chosen).2, (mine other otherStored otherChosen).2,
      nodeRank_less _ _ _ _ params.prepend current.prepend, nodeRank_less _ _ _ _ params.prepend current.prepend]
    exact order
  · rw [StoreEvent.keepsRanks, List.all_eq_true]
    refine forall₂_congr fun row stored => ?_
    cases chosen : isSubscriptionOutbound id row with
    | false => simp
    | true =>
        have now : standing changed row = ⟨row.id, row.sort, nodeRank row.tag row.protocol params.prepend
            (outboundRank store.outboundSubscriptions row).2⟩ := by
          rw [standing, (mine row stored chosen).1, nodeRank_priority, (mine row stored chosen).2]
        simp only [forall_const, Bool.not_true, Bool.false_or, List.all_eq_true, Bool.or_eq_true, decide_eq_true_eq, now]
        refine forall₂_congr fun other _ => ?_
        cases isSubscriptionOutbound id other <;> simp

theorem deleteOutbound_kept {id : Int} (kept : RanksKept (standings store))
    (done : deleteOutbound id store = .ok after) : RanksKept (standings after) := by
  simp only [deleteOutbound, bind_eq_ok, pure_eq_ok] at done
  obtain ⟨_, _, _, _, rfl⟩ := done
  exact kept.subset (Serial.map_deleteWhere_subset _ _ _)

theorem setOutboundEnabled_kept {id : Int} {enabled : Bool} {outbound : Outbound} (kept : RanksKept (standings store))
    (done : setOutboundEnabled id enabled store = .ok (after, outbound)) : RanksKept (standings after) := by
  simp only [setOutboundEnabled, bind_eq_ok, pure_eq_ok, Prod.mk.injEq] at done
  obtain ⟨_, _, _, _, rfl, _⟩ := done
  rw [standings_modifyWhere (enableOutbound_id enabled) fun _ => rfl]
  exact kept

theorem createOutboundSubscription_kept {now : String} {params : OutboundSubscriptionParams}
    {subscription : OutboundSubscription} (owners : OwnersSound store) (kept : RanksKept (standings store))
    (done : createOutboundSubscription now params store = .ok (after, subscription)) : RanksKept (standings after) := by
  simp only [createOutboundSubscription, bind_eq_ok, pure_eq_ok, Prod.mk.injEq] at done
  obtain ⟨_, _, rfl, _⟩ := done
  refine resubscribed_kept owners kept rfl fun owner inside => ?_
  exact ⟨owner, Serial.mem_insert.mpr (.inl inside), rfl, rfl, rfl⟩

theorem markOutboundSubscriptionFetch_kept {now fetchedAt lastErr : String} {id : Int}
    {identities : Option (List String)} (owners : OwnersSound store) (kept : RanksKept (standings store))
    (done : markOutboundSubscriptionFetch now id fetchedAt lastErr identities store = .ok after) :
    RanksKept (standings after) := by
  simp only [markOutboundSubscriptionFetch, bind_eq_ok, pure_eq_ok] at done
  obtain ⟨_, _, rfl⟩ := done
  refine resubscribed_kept owners kept rfl fun owner inside => ?_
  dsimp only
  refine ⟨_, Serial.mem_modifyWhere.mpr ⟨owner, inside, rfl⟩, ?_⟩
  split
  · cases identities <;> exact ⟨rfl, rfl, rfl⟩
  · exact ⟨rfl, rfl, rfl⟩

/-- An operation keeps the order of the outbounds just when it meets the condition. -/
theorem operate_kept {op : StoreOp} (owners : OwnersSound store) (kept : RanksKept (standings store))
    (done : op.run platform store = .ok after) :
    RanksKept (standings after) ↔ (StoreEvent.operate op).keepsRanks store = true := by
  have owned := operate_owners owners done
  cases op with
  | createOutbound now params =>
      obtain ⟨_, created⟩ := map_fst_eq_ok.mp done
      exact createOutbound_kept kept created
  | updateOutbound id params =>
      obtain ⟨_, updated⟩ := map_fst_eq_ok.mp done
      exact updateOutbound_kept owners kept updated
  | updateOutboundSubscription now id params =>
      obtain ⟨_, updated⟩ := map_fst_eq_ok.mp done
      exact updateOutboundSubscription_kept owners kept updated
  | deleteOutbound id => exact iff_of_true (deleteOutbound_kept kept done) rfl
  | setOutboundEnabled id enabled =>
      obtain ⟨_, switched⟩ := map_fst_eq_ok.mp done
      exact iff_of_true (setOutboundEnabled_kept kept switched) rfl
  | reorderOutbounds ids =>
      simp only [StoreOp.run, Db.reorderOutbounds, bind_eq_ok, pure_eq_ok] at done
      obtain ⟨_, _, _, _, rfl⟩ := done
      exact iff_of_true (kept_of_rebalanced owned) rfl
  | createOutboundSubscription now params =>
      obtain ⟨_, created⟩ := map_fst_eq_ok.mp done
      exact iff_of_true (createOutboundSubscription_kept owners kept created) rfl
  | deleteOutboundSubscription now id =>
      simp only [StoreOp.run, Db.deleteOutboundSubscription, bind_eq_ok, pure_eq_ok] at done
      obtain ⟨_, _, rfl⟩ := done
      exact iff_of_true (kept_of_rebalanced owned) rfl
  | reorderOutboundSubscriptions now ids =>
      simp only [StoreOp.run, Db.reorderOutboundSubscriptions, bind_eq_ok, pure_eq_ok] at done
      obtain ⟨_, _, _, _, rfl⟩ := done
      exact iff_of_true (kept_of_rebalanced owned) rfl
  | markOutboundSubscriptionFetch now id fetchedAt lastErr identities =>
      exact iff_of_true (markOutboundSubscriptionFetch_kept owners kept done) rfl
  | materializeSubscriptionOutbounds now subscriptionID nodes identities =>
      obtain ⟨_, materialized⟩ := map_fst_eq_ok.mp done
      simp only [Db.materializeSubscriptionOutbounds, bind_eq_ok, pure_eq_ok, Prod.mk.injEq] at materialized
      obtain ⟨_, _, _, _, _, _, rfl, _⟩ := materialized
      exact iff_of_true (kept_of_rebalanced owned) rfl
  | _ =>
      refine iff_of_true ?_ rfl
      have outbounds := congrArg Store.outbounds (run_onlyWrites done)
      have subscriptions := congrArg Store.outboundSubscriptions (run_onlyWrites done)
      rw [standings, ← outbounds, ← subscriptions]
      exact kept

/-! Re-opening the store. -/

/-- A default is there already, or its sort and its rank agree with those of all others. -/
def Fits (store : Store) (row : Outbound) : Prop :=
  outboundTagTaken row.tag store = true ∨
    ∀ other ∈ standings store, (standing store.outboundSubscriptions row).InOrder other

theorem seedOutbound_kept {row : Outbound} (manual : row.source ≠ outboundSourceSubscription)
    (free : row.subscriptionID = 0) :
    RanksKept (standings (seedOutbound row store)) ↔ RanksKept (standings store) ∧ Fits store row := by
  have owned : row.Owned store.outboundSubscriptions := .manual manual free
  unfold seedOutbound Fits
  split
  · rename_i taken
    rw [and_iff_left (.inl taken)]
  · rename_i untaken
    rw [insertOutboundRow_kept manual free, or_iff_right untaken, standing, outboundRank_manual owned manual]
    rfl

/-- Whether a default fits does not change by another one that goes before it. -/
theorem fits_seedOutbound {first row : Outbound} (tags : first.tag ≠ row.tag)
    (order : ∀ subscriptions, (standing subscriptions row).InOrder (standing subscriptions first)) :
    Fits (seedOutbound first store) row ↔ Fits store row := by
  unfold seedOutbound
  split
  · rfl
  · have untaken : outboundTagTaken row.tag (insertOutboundRow first store) = outboundTagTaken row.tag store := by
      simp [outboundTagTaken, insertOutboundRow, Serial.insert, tags]
    have last : (standing store.outboundSubscriptions row).InOrder
        (standing store.outboundSubscriptions { first with id := store.outbounds.next }) :=
      order store.outboundSubscriptions
    unfold Fits
    rw [untaken, standings_insert, List.forall_mem_append, List.forall_mem_singleton]
    exact or_congr_right (and_iff_left last)

theorem standing_default (subscriptions : Serial OutboundSubscription.id) (tag remark protocol : String) (sort : Int) :
    standing subscriptions (defaultOutbound tag remark protocol sort) = ⟨0, sort, manualRank tag protocol sort⟩ := by
  have manual : (defaultOutbound tag remark protocol sort).source ≠ outboundSourceSubscription :=
    show outboundSourceManual ≠ outboundSourceSubscription by decide
  have owned : (defaultOutbound tag remark protocol sort).Owned subscriptions := .manual manual rfl
  rw [standing, outboundRank_manual owned manual]
  rfl

theorem reopen_kept (kept : RanksKept (standings store)) :
    RanksKept (standings store.reopen) ↔ StoreEvent.reopen.keepsRanks store = true := by
  have manual : outboundSourceManual ≠ outboundSourceSubscription := by decide
  have fits : StoreEvent.reopen.keepsRanks store = true ↔
      (Fits store directOutbound ∧ Fits store blockedOutbound) ∧ Fits store dnsOutbound := by
    simp only [StoreEvent.keepsRanks, defaultOutbounds, List.all_cons, List.all_nil, Bool.and_true, Bool.and_eq_true,
      Bool.or_eq_true, List.all_eq_true, decide_eq_true_eq, and_assoc]
    rfl
  -- The defaults are in order among themselves.
  have blocked : ∀ subscriptions, (standing subscriptions blockedOutbound).InOrder (standing subscriptions directOutbound) := by
    intro subscriptions
    rw [blockedOutbound, directOutbound, standing_default, standing_default]
    decide
  have dns : ∀ subscriptions, (standing subscriptions dnsOutbound).InOrder (standing subscriptions blockedOutbound) ∧
      (standing subscriptions dnsOutbound).InOrder (standing subscriptions directOutbound) := by
    intro subscriptions
    rw [dnsOutbound, blockedOutbound, directOutbound, standing_default, standing_default, standing_default]
    decide
  rw [reopen_eq, seedOutbound_kept manual rfl, seedOutbound_kept manual rfl, seedOutbound_kept manual rfl,
    fits_seedOutbound (by decide) fun subscriptions => (dns subscriptions).1,
    fits_seedOutbound (by decide) fun subscriptions => (dns subscriptions).2,
    fits_seedOutbound (by decide) blocked, fits]
  exact and_congr_left' (and_congr_left' (and_iff_right kept))

theorem initial_kept : RanksKept (standings Store.initial) := by
  unfold RanksKept
  decide

/-- A step keeps the order of the outbounds just when it meets the condition. -/
theorem eventStep_kept {event : StoreEvent} (owners : OwnersSound store) (kept : RanksKept (standings store))
    (stepped : eventStep platform event store = some after) :
    RanksKept (standings after) ↔ event.keepsRanks store = true := by
  cases event with
  | operate op => exact operate_kept owners kept (storeStep_eq_some.mp stepped)
  | reopen =>
      rw [← Option.some.inj stepped]
      exact reopen_kept kept

/-- In every run whose steps meet the condition the sorts are canonical, and the next step keeps them
so just when it meets the condition too. -/
theorem sorts_stay_canonical
    (reached : Reach (Guarded (fun event store => StoreEvent.keepsRanks event store = true)
      (Steps (eventStep platform))) Store.initial store) :
    Canonical store ∧ ∀ event after, eventStep platform event store = some after →
      (Canonical after ↔ event.keepsRanks store = true) := by
  have kept : RanksKept (standings store) := by
    induction reached with
    | start => exact initial_kept
    | step earlier stepped ih => exact (eventStep_kept (events_owners earlier.unguarded) ih stepped.2).mpr stepped.1
  refine ⟨canonical_iff.mpr kept, fun event after stepped => ?_⟩
  rw [canonical_iff]
  exact eventStep_kept (events_owners reached.unguarded) kept stepped

/-- Where the nodes of a subscription are put. -/
def exampleFeed (prepend : Bool) : OutboundSubscriptionParams :=
  { (default : OutboundSubscriptionParams) with url := "https://example.com/sub", enabled := true, prepend }

/-- A subscription of one node, and an outbound that is added by hand. -/
def exampleFeeding (prepend : Bool) : List StoreOp :=
  [.createOutboundSubscription "" (exampleFeed prepend),
    .materializeSubscriptionOutbounds "" 1 [Config.exampleNode] none,
    .createOutbound "" { (default : CreateOutboundParams) with tag := "sink", protocol := "blackhole" }]

def examplePrependedStore : Store :=
  arrive (restrict (fun event store => StoreEvent.keepsRanks event store) (eventStep Config.examplePlatform))
    ((exampleFeeding true).map .operate) Store.initial

def exampleAppendedStore : Store :=
  arrive (eventStep Config.examplePlatform) [.operate (.updateOutboundSubscription "" 1 (exampleFeed false))]
    examplePrependedStore

/-- The node stands before the outbound, until its subscription is no longer prepended. -/
theorem prepended_node_in_place : Canonical examplePrependedStore ∧ ¬Canonical exampleAppendedStore := by
  have stay := sorts_stay_canonical (Reach.arrive_restrict (fun event store => StoreEvent.keepsRanks event store)
    (eventStep Config.examplePlatform) ((exampleFeeding true).map .operate) Store.initial)
  refine ⟨stay.1, fun canonical => ?_⟩
  have unkept : StoreEvent.keepsRanks (.operate (.updateOutboundSubscription "" 1 (exampleFeed false)))
      examplePrependedStore = false := by with_unfolding_all decide
  have guard := (stay.2 _ exampleAppendedStore (arrive_single (by with_unfolding_all decide))).mp canonical
  exact Bool.false_ne_true (unkept.symm.trans guard)

def exampleUnbalancedStore : Store :=
  arrive (storeStep Config.examplePlatform) (exampleFeeding false) Store.initial

/-- The outbound is listed behind a node that ranks behind it. -/
theorem manual_behind_node :
    ¬ ∀ (platform : Platform) (store : Store), Reachable platform store → Canonical store := by
  intro claimed
  have canonical := claimed Config.examplePlatform exampleUnbalancedStore (Reach.arrive _ _ _)
  have listed : (listOutbounds exampleUnbalancedStore).map Outbound.id = [1, 2, 3, 4, 5] := by with_unfolding_all decide
  have rebalanced : (listOutbounds (rebalanceOutboundSorts exampleUnbalancedStore)).map Outbound.id = [1, 2, 3, 5, 4] := by
    with_unfolding_all decide
  have settled := canonical.settled
  rw [listed, rebalanced] at settled
  exact absurd settled (by decide)

end MiGate.Db
