import MiGate.Config.DefaultRoute
import MiGate.Db.Owners
import MiGate.Db.RefreshTx
import MiGate.Subscription.Reconcile

namespace MiGate.Subscription

open Go Db Fallible Relational Transition

variable {platform : Platform} {now : String} {subscriptionID : Int} {nodes : List MaterializedSubscriptionOutbound}
  {identities : Option (List String)} {store after : Store} {outbounds : List Outbound}

/-! What a refresh leaves alone: the outbounds of others but for their sorts, the order among them,
and the rules that lead to none of the outbounds it removes. -/

def isOthersOutbound (subscriptionID : Int) (row : Outbound) : Bool :=
  !isSubscriptionOutbound subscriptionID row

/-- The outbounds that `rebalanceOutboundSortsTx` puts before all others. -/
def isBuiltInOutbound (row : Outbound) : Bool :=
  (row.tag == "direct" && row.protocol == "freedom") || (row.tag == "blocked" && row.protocol == "blackhole") ||
    (row.tag == "dns" && row.protocol == "dns")

def isManualOutbound (row : Outbound) : Bool :=
  row.source != outboundSourceSubscription && row.subscriptionID == 0

/-- An outbound of the subscription that the store has and the refreshed store has not. -/
def removedOutbound (subscriptionID : Int) (store after : Store) (id : Int) : Bool :=
  (store.outbounds.rows.any fun row => isSubscriptionOutbound subscriptionID row && row.id == id) &&
    !after.outbounds.rows.any fun row => row.id == id

/-- The numbers of some outbounds, in the order in which they are listed. -/
def listedIDs (keep : Outbound → Bool) (store : Store) : List Int :=
  ((listOutbounds store).filter keep).map Outbound.id

structure TouchesOnly (subscriptionID : Int) (store after : Store) : Prop where
  others : (after.outbounds.rows.filter (isOthersOutbound subscriptionID)).map (sortOutbound 0) =
    (store.outbounds.rows.filter (isOthersOutbound subscriptionID)).map (sortOutbound 0)
  manualOrder : listedIDs (fun row => isManualOutbound row && !isBuiltInOutbound row) after =
    listedIDs (fun row => isManualOutbound row && !isBuiltInOutbound row) store
  otherOrder : ∀ other, other ≠ subscriptionID →
    listedIDs (fun row => isSubscriptionOutbound other row && !isBuiltInOutbound row) after =
      listedIDs (fun row => isSubscriptionOutbound other row && !isBuiltInOutbound row) store
  rules : after.routingRules.rows = store.routingRules.rows.filter fun rule =>
    !removedOutbound subscriptionID store after rule.outboundID
  subscriptions : (after.outboundSubscriptions.rows.filter fun row => row.id != subscriptionID) =
    store.outboundSubscriptions.rows.filter fun row => row.id != subscriptionID
  inbounds : after.inbounds = store.inbounds
  clients : after.clients = store.clients
  trafficStates : after.trafficStates = store.trafficStates
  trafficSamples : after.trafficSamples = store.trafficSamples
  coreApplyStates : after.coreApplyStates = store.coreApplyStates

theorem materializeNode_others {node : MaterializedSubscriptionOutbound} {done next : Store × List Int}
    (turned : materializeNode now subscriptionID done node = .ok next) {row : Outbound}
    (others : isOthersOutbound subscriptionID row = true) :
    row ∈ next.1.outbounds.rows ↔ row ∈ done.1.outbounds.rows := by
  rw [isOthersOutbound, Bool.not_eq_true'] at others
  simp only [materializeNode, bind_eq_ok] at turned
  obtain ⟨_, _, _, _, rest⟩ := turned
  cases claimed : existingNodeRow subscriptionID node done.1 with
  | some existing =>
      simp only [claimed, bind_eq_ok, pure_eq_ok] at rest
      obtain ⟨_, _, rfl⟩ := rest
      have mine := existingNodeRow_mine claimed
      have unnamed : ∀ stored ∈ done.1.outbounds.rows,
          isSubscriptionOutbound subscriptionID stored = false → ¬(stored.id == existing.id) = true := by
        intro stored inside notMine named
        rw [Serial.eq_of_id_eq inside (existingNodeRow_mem claimed) (beq_iff_eq.mp named), mine] at notMine
        cases notMine
      dsimp only
      rw [Serial.mem_modifyWhere]
      constructor
      · rintro ⟨old, stored, rfl⟩
        split at others
        · rename_i named
          rw [Serial.eq_of_id_eq stored (existingNodeRow_mem claimed) (beq_iff_eq.mp named)] at others
          exact absurd (mine.symm.trans others) Bool.noConfusion
        · rename_i other
          rwa [if_neg other]
      · intro stored
        exact ⟨row, stored, if_neg (unnamed row stored others)⟩
  | none =>
      simp only [claimed, bind_eq_ok, pure_eq_ok] at rest
      obtain ⟨_, _, rfl⟩ := rest
      dsimp only [insertOutboundRow]
      rw [Serial.mem_insert]
      refine or_iff_left fun new => ?_
      have mine : isSubscriptionOutbound subscriptionID row = true := by
        rw [new]
        simp [isSubscriptionOutbound, newNodeRow, MaterializedSubscriptionOutbound.write]
      rw [mine] at others
      cases others

theorem materializeNodes_others {start written : Store × List Int}
    (looped : nodes.foldlM (materializeNode now subscriptionID) start = .ok written) {row : Outbound}
    (others : isOthersOutbound subscriptionID row = true) :
    row ∈ written.1.outbounds.rows ↔ row ∈ start.1.outbounds.rows :=
  foldlM_invariant (fun state : Store × List Int => row ∈ state.1.outbounds.rows ↔ row ∈ start.1.outbounds.rows)
    Iff.rfl (fun _ _ _ _ before turned => (materializeNode_others turned others).trans before) looped

/-- The store before the rebalancing, and the loop that led to it. -/
theorem materialize_parts
    (done : materializeSubscriptionOutbounds now subscriptionID nodes identities store = .ok (after, outbounds)) :
    ∃ written targets, nodes.foldlM (materializeNode now subscriptionID) (store, []) = .ok (written, targets) ∧
      after = rebalanceOutboundSorts (updateSubscriptionFetch subscriptionID now "" identities now
        (deleteSubscriptionOutbounds ((subscriptionOutboundIDs subscriptionID written).filter fun id =>
          !targets.contains id) written)) := by
  simp only [materializeSubscriptionOutbounds, bind_eq_ok, pure_eq_ok, Prod.mk.injEq] at done
  obtain ⟨_, _, _, _, ⟨written, targets⟩, looped, rfl, _⟩ := done
  exact ⟨written, targets, looped, rfl⟩

/-- What the rebalancing starts from. -/
def refreshed (now : String) (subscriptionID : Int) (identities : Option (List String)) (targets : List Int)
    (written : Store) : Store :=
  updateSubscriptionFetch subscriptionID now "" identities now
    (deleteSubscriptionOutbounds ((subscriptionOutboundIDs subscriptionID written).filter fun id =>
      !targets.contains id) written)

variable {written : Store} {targets : List Int}

theorem refreshed_others (looped : nodes.foldlM (materializeNode now subscriptionID) (store, []) = .ok (written, targets))
    {row : Outbound} (others : isOthersOutbound subscriptionID row = true) :
    row ∈ (refreshed now subscriptionID identities targets written).outbounds.rows ↔ row ∈ store.outbounds.rows := by
  have kept := materializeNodes_others looped others
  rw [isOthersOutbound, Bool.not_eq_true'] at others
  calc row ∈ (refreshed now subscriptionID identities targets written).outbounds.rows
      ↔ row ∈ written.outbounds.rows ∧ (isSubscriptionOutbound subscriptionID row = true → row.id ∈ targets) :=
        mem_deleteStale
    _ ↔ row ∈ written.outbounds.rows := and_iff_left fun mine => absurd (mine.symm.trans others) Bool.noConfusion
    _ ↔ row ∈ store.outbounds.rows := kept

/-- The rebalancing keeps the order among outbounds that rank alike. -/
theorem listedIDs_rebalanced {before kept : Store} {keep : Outbound → Bool}
    (stable : ∀ sort row, keep (loadOutbound (sortOutbound sort row)) = keep row)
    (stored : ∀ row, keep row = true → (row ∈ kept.outbounds.rows ↔ row ∈ before.outbounds.rows))
    (level : ∀ left right, keep left = true → keep right = true →
      rankBefore kept.outboundSubscriptions left right → sortBefore left right) :
    listedIDs keep (rebalanceOutboundSorts kept) = listedIDs keep before := by
  have loads : ∀ row, keep (loadOutbound row) = keep row := fun row => stable row.sort row
  have rankedOrder : ((ranked kept).filter keep).Pairwise sortBefore := by
    have sorted : ((ranked kept).filter keep).Pairwise (rankBefore kept.outboundSubscriptions) :=
      (List.pairwise_insertionSort _ _).filter keep
    refine sorted.imp_of_mem fun {left right} leftInside rightInside before => ?_
    exact level left right (List.mem_filter.mp leftInside).2 (List.mem_filter.mp rightInside).2 before
  have listedOrder : ((before.outbounds.rows.insertionSort sortBefore).filter keep).Pairwise sortBefore :=
    (List.pairwise_insertionSort _ _).filter keep
  have perm : ((ranked kept).filter keep).Perm ((before.outbounds.rows.insertionSort sortBefore).filter keep) := by
    refine ((List.perm_insertionSort _ _).filter keep).trans (.trans ?_
      ((List.perm_insertionSort _ _).filter keep).symm)
    rw [Serial.filter_rows_eq stored]
  have same : (ranked kept).filter keep = (before.outbounds.rows.insertionSort sortBefore).filter keep := by
    refine perm.eq_of_pairwise ?_ rankedOrder listedOrder
    intro left right leftInside rightInside less greater
    refine Serial.eq_of_id_eq (mem_ranked.mp (List.mem_of_mem_filter leftInside)) ?_ ?_
    · exact mem_ranked.mp (List.mem_of_mem_filter (perm.mem_iff.mpr rightInside))
    · simp only [sortBefore] at less greater
      omega
  have rebalanced : listedIDs keep (rebalanceOutboundSorts kept) = ((ranked kept).filter keep).map Outbound.id := by
    rw [listedIDs, listOutbounds_rebalanceOutboundSorts, List.filter_map, List.map_map]
    refine congrArg₂ List.map rfl (List.filter_congr fun row _ => ?_)
    exact stable _ row
  have listed : listedIDs keep before =
      ((before.outbounds.rows.insertionSort sortBefore).filter keep).map Outbound.id := by
    rw [listedIDs, listOutbounds, List.filter_map, List.map_map]
    exact congrArg₂ List.map rfl (List.filter_congr fun row _ => loads row)
  rw [rebalanced, same, listed]

theorem outboundRank_later {subscriptions : Serial OutboundSubscription.id} {row : Outbound}
    (later : isBuiltInOutbound row = false) :
    outboundRank subscriptions row =
      let subscription := subscriptions.find? row.subscriptionID
      let place := (subscription.map OutboundSubscription.priority).getD row.sort
      if row.source = outboundSourceSubscription then
        if (subscription.map OutboundSubscription.prepend).getD false then (1, place) else (3, place)
      else (2, place) := by
  simp only [isBuiltInOutbound, Bool.or_eq_false_iff, Bool.and_eq_false_iff, beq_eq_false_iff_ne] at later
  obtain ⟨⟨direct, blocked⟩, dns⟩ := later
  rw [outboundRank, if_neg (not_and_or.mpr direct), if_neg (not_and_or.mpr blocked), if_neg (not_and_or.mpr dns)]

/-- An outbound of no subscription is ranked by its sort. -/
theorem outboundRank_manual {subscriptions : Serial OutboundSubscription.id} {row : Outbound}
    (manual : isManualOutbound row = true) (later : isBuiltInOutbound row = false) :
    outboundRank subscriptions row = (2, row.sort) := by
  rw [isManualOutbound, Bool.and_eq_true, bne_iff_ne, beq_iff_eq] at manual
  have ownerless : subscriptions.find? row.subscriptionID = none := by
    rw [manual.2, Serial.find?_eq_none]
    intro subscription stored
    exact (subscriptions.positive subscription stored).ne'
  rw [outboundRank_later later, ownerless]
  simp [manual.1]

/-- An outbound of a subscription is ranked by the subscription. -/
theorem outboundRank_owned {subscriptions : Serial OutboundSubscription.id} {owner : Int} {row : Outbound}
    (owned : isSubscriptionOutbound owner row = true) (later : isBuiltInOutbound row = false) :
    outboundRank subscriptions row =
      (if ((subscriptions.find? owner).map OutboundSubscription.prepend).getD false then 1 else 3,
        ((subscriptions.find? owner).map OutboundSubscription.priority).getD row.sort) := by
  rw [isSubscriptionOutbound, Bool.and_eq_true, beq_iff_eq, beq_iff_eq] at owned
  rw [outboundRank_later later, owned.1]
  dsimp only
  rw [if_pos owned.2]
  split
  · rfl
  · rfl

theorem sortBefore_of_manual {subscriptions : Serial OutboundSubscription.id} {left right : Outbound}
    (leftKept : (isManualOutbound left && !isBuiltInOutbound left) = true)
    (rightKept : (isManualOutbound right && !isBuiltInOutbound right) = true)
    (before : rankBefore subscriptions left right) : sortBefore left right := by
  rw [Bool.and_eq_true, Bool.not_eq_true'] at leftKept rightKept
  rw [rankBefore, outboundRank_manual leftKept.1 leftKept.2, outboundRank_manual rightKept.1 rightKept.2] at before
  simp only [rankLess, sortBefore, Prod.mk.injEq] at before ⊢
  omega

theorem sortBefore_of_owned {subscriptions : Serial OutboundSubscription.id} {owner : Int} {left right : Outbound}
    (leftKept : (isSubscriptionOutbound owner left && !isBuiltInOutbound left) = true)
    (rightKept : (isSubscriptionOutbound owner right && !isBuiltInOutbound right) = true)
    (before : rankBefore subscriptions left right) : sortBefore left right := by
  rw [Bool.and_eq_true, Bool.not_eq_true'] at leftKept rightKept
  rw [rankBefore, outboundRank_owned leftKept.1 leftKept.2, outboundRank_owned rightKept.1 rightKept.2] at before
  generalize ((subscriptions.find? owner).map OutboundSubscription.priority) = priority at before
  cases priority with
  | none =>
      simp only [rankLess, sortBefore, Prod.mk.injEq, Option.getD_none] at before ⊢
      omega
  | some priority =>
      simp only [rankLess, sortBefore, Option.getD_some] at before ⊢
      omega

theorem isManualOutbound_listed (sort : Int) (row : Outbound) :
    isManualOutbound (loadOutbound (sortOutbound sort row)) = isManualOutbound row := by
  have source : ((loadOutbound (sortOutbound sort row)).source != outboundSourceSubscription) =
      (row.source != outboundSourceSubscription) := by
    rw [Bool.eq_iff_iff, bne_iff_ne, bne_iff_ne, ne_eq, ne_eq, loadOutbound_source]
    rfl
  rw [isManualOutbound, source]
  rfl

@[simp] theorem isBuiltInOutbound_listed (sort : Int) (row : Outbound) :
    isBuiltInOutbound (loadOutbound (sortOutbound sort row)) = isBuiltInOutbound row := rfl

theorem mem_refreshed {row : Outbound} :
    row ∈ (refreshed now subscriptionID identities targets written).outbounds.rows ↔
      row ∈ written.outbounds.rows ∧ (isSubscriptionOutbound subscriptionID row = true → row.id ∈ targets) :=
  mem_deleteStale

theorem rebalanced_ids (kept : Store) (id : Int) :
    ((rebalanceOutboundSorts kept).outbounds.rows.any fun row => row.id == id) =
      kept.outbounds.rows.any fun row => row.id == id := by
  rw [rebalanceOutboundSorts_rows, List.any_map]
  rfl

/-- The stale outbounds are those that the refreshed store is without. -/
theorem stale_iff (looped : nodes.foldlM (materializeNode now subscriptionID) (store, []) = .ok (written, targets))
    (id : Int) :
    id ∈ (subscriptionOutboundIDs subscriptionID written).filter (fun id => !targets.contains id) ↔
      removedOutbound subscriptionID store
        (rebalanceOutboundSorts (refreshed now subscriptionID identities targets written)) id = true := by
  obtain ⟨all, seen, length, writes⟩ := materializeNodes_writes looped
  rw [List.nil_append] at seen
  dsimp only at seen writes
  rw [← seen] at length writes
  have unwritten : id ∉ targets → lastWrite (targets.zip nodes) id = none := by
    intro missing
    cases last : lastWrite (targets.zip nodes) id with
    | none => rfl
    | some node =>
        have zipped := lastWrite_isSome.mp ⟨node, last⟩
        rw [List.map_fst_zip length.le] at zipped
        exact absurd zipped missing
  simp only [removedOutbound, rebalanced_ids, Bool.and_eq_true, Bool.not_eq_true', List.any_eq_true,
    List.any_eq_false, beq_iff_eq, List.mem_filter, List.contains_eq_mem, decide_eq_false_iff_not]
  constructor
  · rintro ⟨listed, missing⟩
    obtain ⟨row, inside, rfl⟩ := List.mem_map.mp listed
    obtain ⟨stored, mine⟩ := List.mem_filter.mp inside
    refine ⟨⟨row, (writes.untouched row (unwritten missing)).mp stored, mine, rfl⟩, ?_⟩
    intro other kept same
    obtain ⟨otherStored, claimed⟩ := mem_refreshed.mp kept
    rw [Serial.eq_of_id_eq otherStored stored same] at claimed
    exact missing (claimed mine)
  · rintro ⟨⟨row, stored, mine, rfl⟩, gone⟩
    have missing : row.id ∉ targets := by
      intro target
      have zipped : row.id ∈ (targets.zip nodes).map Prod.fst := by rwa [List.map_fst_zip length.le]
      obtain ⟨other, inside, same⟩ := List.mem_map.mp (writes.present row.id zipped)
      refine gone other (mem_refreshed.mpr ⟨inside, fun _ => ?_⟩) same
      rwa [same]
    have kept := (writes.untouched row (unwritten missing)).mpr stored
    exact ⟨List.mem_map_of_mem (List.mem_filter.mpr ⟨kept, mine⟩), missing⟩

/-- A refresh that succeeds touches only what is its own. -/
theorem refresh_touchesOnly
    (done : materializeSubscriptionOutbounds now subscriptionID nodes identities store = .ok (after, outbounds)) :
    TouchesOnly subscriptionID store after := by
  obtain ⟨written, targets, looped, rfl⟩ := materialize_parts done
  have loop := materializeNodes_onlyWrites looped
  dsimp only at loop
  have kept : ∀ {keep : Outbound → Bool}, (∀ row, keep row = true → isOthersOutbound subscriptionID row = true) →
      ∀ row, keep row = true →
        (row ∈ (refreshed now subscriptionID identities targets written).outbounds.rows ↔
          row ∈ store.outbounds.rows) :=
    fun others row given => refreshed_others looped (others row given)
  constructor
  case others =>
      rw [rebalanceOutboundSorts_rows, List.filter_map, List.map_map]
      exact congrArg _ (Serial.filter_rows_eq (kept fun _ others => others))
  case manualOrder =>
      refine listedIDs_rebalanced ?_ (kept ?_) fun _ _ => sortBefore_of_manual
      · intro sort row
        rw [isManualOutbound_listed, isBuiltInOutbound_listed]
      · intro row given
        rw [Bool.and_eq_true, isManualOutbound, Bool.and_eq_true, bne_iff_ne] at given
        simp [isOthersOutbound, isSubscriptionOutbound, given.1.1]
  case otherOrder =>
      intro other different
      refine listedIDs_rebalanced ?_ (kept ?_) fun _ _ => sortBefore_of_owned
      · intro sort row
        rw [isSubscriptionOutbound_loadOutbound, isSubscriptionOutbound_sortOutbound, isBuiltInOutbound_listed]
      · intro row given
        rw [Bool.and_eq_true, isSubscriptionOutbound, Bool.and_eq_true, beq_iff_eq] at given
        simp [isOthersOutbound, isSubscriptionOutbound, given.1.1, different]
  case rules =>
      have rules : written.routingRules = store.routingRules := by rw [← loop]
      rw [← rules]
      refine List.filter_congr fun rule _ => congrArg _ ?_
      rw [Bool.eq_iff_iff, List.contains_iff_mem]
      exact stale_iff looped rule.outboundID
  case subscriptions =>
      have subscriptions : written.outboundSubscriptions = store.outboundSubscriptions := by rw [← loop]
      refine Serial.filter_rows_eq fun row other => ?_
      change row ∈ (written.outboundSubscriptions.modifyWhere (fun row => row.id == subscriptionID)
        (recordFetch now "" identities now) (recordFetch_id now "" identities now)).rows ↔ _
      rw [subscriptions, Serial.mem_modifyWhere]
      rw [bne_iff_ne] at other
      constructor
      · rintro ⟨old, stored, rfl⟩
        split at other
        · rename_i named
          rw [recordFetch_id] at other
          exact absurd (beq_iff_eq.mp named) other
        · rename_i unnamed
          rwa [if_neg unnamed]
      · exact fun stored => ⟨row, stored, if_neg (mt beq_iff_eq.mp other)⟩
  all_goals rw [← loop]; rfl

theorem TouchesOnly.refl (subscriptionID : Int) (store : Store) : TouchesOnly subscriptionID store store where
  others := rfl
  manualOrder := rfl
  otherOrder := fun _ _ => rfl
  rules := by
    symm
    rw [List.filter_eq_self]
    intro rule _
    rw [Bool.not_eq_true', removedOutbound]
    cases found : store.outbounds.rows.any fun row => row.id == rule.outboundID with
    | true => simp
    | false =>
        rw [Bool.and_eq_false_iff, List.any_eq_false]
        left
        intro row stored
        have missed := List.any_eq_false.mp found row stored
        simp [missed]
  subscriptions := rfl
  inbounds := rfl
  clients := rfl
  trafficStates := rfl
  trafficSamples := rfl
  coreApplyStates := rfl

/-- A committed transaction has made the operation, and its listing is of the store it leaves. -/
theorem committed_refresh {faults : Faults String} {count : Nat}
    (committed : Statements.transact (materializeTx now subscriptionID nodes identities) faults (store, 0) =
      (.ok (), after, count)) :
    materializeSubscriptionOutbounds now subscriptionID nodes identities store = .ok (after, listOutbounds after) := by
  have performed := (materializeTx_performs now subscriptionID nodes identities).transact.sound committed
  cases done : materializeSubscriptionOutbounds now subscriptionID nodes identities store with
  | error reason =>
      rw [done] at performed
      cases performed
  | ok result =>
      rw [done] at performed
      cases performed
      simp only [materializeSubscriptionOutbounds, bind_eq_ok, pure_eq_ok] at done
      obtain ⟨_, _, _, _, _, _, rfl⟩ := done
      rfl

theorem failed_call {faults : Faults String} {database : Store} {count : Nat} {reason : String}
    (failed : Statements.transact (materializeTx now subscriptionID nodes identities) faults (store, 0) =
      (.error reason, database, count)) :
    materializeSubscriptionOutboundsTx now subscriptionID nodes identities faults (store, 0) =
      (.error reason, database, count) := by
  unfold materializeSubscriptionOutboundsTx
  simp only [bind, failed]

theorem committed_call {faults : Faults String} {count : Nat}
    (committed : Statements.transact (materializeTx now subscriptionID nodes identities) faults (store, 0) =
      (.ok (), after, count)) :
    materializeSubscriptionOutboundsTx now subscriptionID nodes identities faults (store, 0) =
      match faults count with
      | some reason => (.error reason, after, count + 1)
      | none => (.ok (listOutbounds after), after, count + 1) := by
  unfold materializeSubscriptionOutboundsTx
  simp only [bind, committed]
  unfold Statements.query Statements.statement
  dsimp only
  cases faults count with
  | some reason => rfl
  | none => rfl

/-- A refresh, whichever of its statements fail: the transaction fails and leaves the store as it was, or
it is the operation, after which only the listing may fail. -/
theorem refresh_is_all_or_nothing (faults : Faults String) (store : Store) (now : String) (subscriptionID : Int)
    (nodes : List MaterializedSubscriptionOutbound) (identities : Option (List String)) :
    let refresh := materializeTx now subscriptionID nodes identities
    let transacted := Statements.transact refresh faults (store, 0)
    let call := materializeSubscriptionOutboundsTx now subscriptionID nodes identities faults (store, 0)
    TouchesOnly subscriptionID store call.2.1 ∧
      (∀ reason, transacted.1 = .error reason → call.1 = .error reason ∧ call.2.1 = store) ∧
      (transacted.1 = .ok () → ∃ outbounds,
        materializeSubscriptionOutbounds now subscriptionID nodes identities store = .ok (call.2.1, outbounds) ∧
        (call.1 = .ok outbounds ∨ ∃ reason, faults transacted.2.2 = some reason ∧ call.1 = .error reason)) := by
  dsimp only
  cases ran : Statements.transact (materializeTx now subscriptionID nodes identities) faults (store, 0) with
  | mk outcome session =>
      obtain ⟨database, count⟩ := session
      cases outcome with
      | error reason =>
          have failed : (Statements.transact (materializeTx now subscriptionID nodes identities) faults
              (store, 0)).1 = .error reason := by rw [ran]
          have same : database = store := by
            have unchanged := Statements.transact_error failed
            rwa [ran] at unchanged
          rw [failed_call ran, same]
          refine ⟨.refl subscriptionID store, ?_, nofun⟩
          intro other stopped
          cases stopped
          exact ⟨rfl, rfl⟩
      | ok done =>
          have made := committed_refresh ran
          rw [committed_call ran]
          cases fault : faults count with
          | some reason =>
              exact ⟨refresh_touchesOnly made, nofun, fun _ => ⟨_, made, .inr ⟨reason, rfl, rfl⟩⟩⟩
          | none => exact ⟨refresh_touchesOnly made, nofun, fun _ => ⟨_, made, .inl rfl⟩⟩

def exampleSubscription : StoreEvent :=
  .operate (.createOutboundSubscription "" { (default : OutboundSubscriptionParams) with
    url := "https://example.com/sub", enabled := true })

/-- The seeded `direct` outbound stands behind `blocked`, and there is a subscription. -/
def exampleMisplacedStore : Store :=
  arrive (eventStep Config.examplePlatform)
    [.operate (.deleteOutbound 1), .operate (.reorderOutbounds []), .reopen, exampleSubscription] Store.initial

/-- The driver fails at one statement. -/
def failsAt (number : Nat) : Faults String := fun issued =>
  if issued = number then some "interrupted" else none

theorem refresh_moves_builtins_and_fails_late :
    (¬ ∀ (store : Store) (now : String) (subscriptionID : Int) (nodes : List MaterializedSubscriptionOutbound)
        (identities : Option (List String)) (after : Store) (outbounds : List Outbound),
      materializeSubscriptionOutbounds now subscriptionID nodes identities store = .ok (after, outbounds) →
        listedIDs isManualOutbound after = listedIDs isManualOutbound store) ∧
      ¬ ∀ (faults : Faults String) (store : Store) (now : String) (subscriptionID : Int)
        (nodes : List MaterializedSubscriptionOutbound) (identities : Option (List String)) (reason : String),
      (materializeSubscriptionOutboundsTx now subscriptionID nodes identities faults (store, 0)).1 = .error reason →
        (materializeSubscriptionOutboundsTx now subscriptionID nodes identities faults (store, 0)).2.1 = store := by
  constructor
  · intro claimed
    have before : listedIDs isManualOutbound exampleMisplacedStore = [2, 4, 3] := by with_unfolding_all decide
    have moved : (materializeSubscriptionOutbounds "" 1 [] none exampleMisplacedStore).map (fun done =>
        listedIDs isManualOutbound done.1) = .ok [4, 2, 3] := by with_unfolding_all decide
    cases done : materializeSubscriptionOutbounds "" 1 [] none exampleMisplacedStore with
    | error reason =>
        rw [done] at moved
        cases moved
    | ok result =>
        rw [done] at moved
        have kept := claimed _ _ _ _ _ result.1 result.2 done
        rw [before] at kept
        have listed : listedIDs isManualOutbound result.1 = [4, 2, 3] := Except.ok.inj moved
        rw [kept] at listed
        exact absurd listed (by decide)
  · intro claimed
    have failed : (materializeSubscriptionOutboundsTx "" 1 [] none (failsAt 9) (exampleMisplacedStore, 0)).1 =
        .error "interrupted" := by with_unfolding_all decide
    have kept := claimed (failsAt 9) exampleMisplacedStore "" 1 [] none "interrupted" failed
    have moved : listedIDs isManualOutbound
        (materializeSubscriptionOutboundsTx "" 1 [] none (failsAt 9) (exampleMisplacedStore, 0)).2.1 = [4, 2, 3] := by
      with_unfolding_all decide
    rw [kept] at moved
    exact absurd moved (by with_unfolding_all decide)

/-! No outbound is without its subscription, nor enabled while that is disabled. -/

/-- Each outbound of a subscription has one that is not deleted, and is enabled only while it is. -/
theorem no_orphaned_outbound (reached : Reach (Steps (eventStep platform)) Store.initial store) {row : Outbound}
    (stored : row ∈ store.outbounds.rows) (owned : row.subscriptionID ≠ 0) :
    ∃ subscription, findLiveSubscription store row.subscriptionID = some subscription ∧
      (row.enabled = true → subscription.enabled = true) := by
  obtain ⟨subscription, inside, named, live, on⟩ := (events_owners reached row stored).owner owned
  refine ⟨subscription, ?_, on⟩
  have found : store.outboundSubscriptions.find? row.subscriptionID = some subscription := by
    rw [← named]
    exact Serial.find?_of_mem inside
  simp [findLiveSubscription, found, Option.filter, isLiveSubscription, named, live]

/-- A subscription is disabled after a refresh, then its outbound is edited. -/
def exampleDisabling : List StoreEvent :=
  [exampleSubscription, .operate (.materializeSubscriptionOutbounds "" 1 [Config.exampleNode] none),
    .operate (.updateOutboundSubscription "" 1 { (default : OutboundSubscriptionParams) with
      url := "https://example.com/sub" }),
    .operate (.updateOutbound 4 { (default : UpdateOutboundParams) with remark := "HK" })]

def exampleDisabledStore : Store :=
  arrive (eventStep Config.examplePlatform) exampleDisabling Store.initial

theorem disabled_outbound_owned :
    ∃ row ∈ exampleDisabledStore.outbounds.rows, row.subscriptionID = 1 ∧ row.remark = "HK" ∧ row.enabled = false ∧
      ∃ subscription, findLiveSubscription exampleDisabledStore row.subscriptionID = some subscription ∧
        (row.enabled = true → subscription.enabled = true) := by
  have written : ∃ row ∈ exampleDisabledStore.outbounds.rows, row.subscriptionID = 1 ∧ row.remark = "HK" ∧
      row.enabled = false := by with_unfolding_all decide
  obtain ⟨row, stored, owner, remark, disabled⟩ := written
  refine ⟨row, stored, owner, remark, disabled, ?_⟩
  exact no_orphaned_outbound (Reach.arrive (eventStep Config.examplePlatform) exampleDisabling Store.initial) stored
    (by rw [owner]; decide)

end MiGate.Subscription
