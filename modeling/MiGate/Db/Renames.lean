import MiGate.Db.Owners
import MiGate.Db.RuleCopies

namespace MiGate.Db

open Go Fallible Relational Transition

variable {platform : Platform} {entropy : Entropy} {history : RuleHistory} {store after : Store}

/-! The operations on outbounds and their subscriptions. -/

theorem keepsNames_rebalanceOutboundSorts : KeepsNames store (rebalanceOutboundSorts store) :=
  keepsNames_writeOutboundSorts 0 _

theorem keepsNames_createOutbound {now : String} {params : CreateOutboundParams} {outbound : Outbound}
    (done : createOutbound now params store = .ok (after, outbound)) : KeepsNames store after := by
  simp only [createOutbound, bind_eq_ok, pure_eq_ok, Prod.mk.injEq] at done
  obtain ⟨_, _, _, _, _, _, rfl, _⟩ := done
  exact keepsNames_insertOutboundRow _

theorem keepsNames_setOutboundEnabled {id : Int} {enabled : Bool} {outbound : Outbound}
    (done : setOutboundEnabled id enabled store = .ok (after, outbound)) : KeepsNames store after := by
  simp only [setOutboundEnabled, bind_eq_ok, pure_eq_ok, Prod.mk.injEq] at done
  obtain ⟨_, _, _, _, rfl, _⟩ := done
  exact keepsNames_modifyOutbounds (enableOutbound_id enabled) fun _ _ => rfl

theorem keepsNames_reorderOutbounds {ids : List Int} (done : reorderOutbounds ids store = .ok after) :
    KeepsNames store after := by
  simp only [reorderOutbounds, bind_eq_ok, pure_eq_ok] at done
  obtain ⟨_, _, _, _, rfl⟩ := done
  exact (keepsNames_writeOutboundSorts 100000 ids).trans keepsNames_rebalanceOutboundSorts

theorem keepsNames_subscriptions (outboundSubscriptions : Serial OutboundSubscription.id) :
    KeepsNames store { store with outboundSubscriptions } :=
  .of_eq rfl rfl rfl

/-- A node writes its row anew but for the tag, which is trimmed already. -/
theorem keepsNames_materializeNode {now : String} {subscriptionID : Int} {node : MaterializedSubscriptionOutbound}
    {done next : Store × List Int} (tags : TagsSound done.1.outbounds)
    (turned : materializeNode now subscriptionID done node = .ok next) : KeepsNames done.1 next.1 := by
  simp only [materializeNode, bind_eq_ok] at turned
  obtain ⟨_, _, _, _, rest⟩ := turned
  cases claimed : existingNodeRow subscriptionID node done.1 with
  | some existing =>
      simp only [claimed, bind_eq_ok, pure_eq_ok] at rest
      obtain ⟨_, _, rfl⟩ := rest
      refine keepsNames_modifyOutbounds (rewriteNodeRow_id node now) fun row stored => ?_
      exact tags.trimmed row.tag (List.mem_map_of_mem stored)
  | none =>
      simp only [claimed, bind_eq_ok, pure_eq_ok] at rest
      obtain ⟨_, _, rfl⟩ := rest
      exact keepsNames_insertOutboundRow _

/-- The outbounds that go take their rules with them. -/
theorem CopiesSound.deleteSubscriptionOutbounds (sound : CopiesSound history store) (ids : List Int) :
    CopiesSound history (Db.deleteSubscriptionOutbounds ids store) := by
  refine ⟨fun rule member => ?_, sound.remarks⟩
  obtain ⟨stored, stays⟩ := Serial.mem_deleteWhere.mp member
  have consistent := sound.rules rule stored
  refine ⟨consistent.snapshot, fun unmarked => ?_, consistent.client, consistent.inbound⟩
  obtain ⟨row, there, same, tagged⟩ := mem_outboundNames.mp (consistent.outbound unmarked)
  refine mem_outboundNames.mpr ⟨row, Serial.mem_deleteWhere.mpr ⟨there, ?_⟩, same, tagged⟩
  rw [same, stays, Bool.and_false]

theorem materializeSubscriptionOutbounds_copies {now : String} {subscriptionID : Int}
    {nodes : List MaterializedSubscriptionOutbound} {identities : Option (List String)}
    {outbounds : List Outbound} (tags : TagsSound store.outbounds) (sound : CopiesSound history store)
    (done : materializeSubscriptionOutbounds now subscriptionID nodes identities store = .ok (after, outbounds)) :
    CopiesSound history after := by
  simp only [materializeSubscriptionOutbounds, bind_eq_ok, pure_eq_ok, Prod.mk.injEq] at done
  obtain ⟨_, _, _, _, written, looped, rfl, _⟩ := done
  have kept := foldlM_invariant
    (fun state : Store × List Int => TagsSound state.1.outbounds ∧ CopiesSound history state.1) ⟨tags, sound⟩ ?_ looped
  · refine CopiesSound.keep_others ?_ keepsNames_rebalanceOutboundSorts rfl rfl
    refine CopiesSound.keep_others ?_ (keepsNames_subscriptions _) rfl rfl
    exact kept.2.deleteSubscriptionOutbounds _
  · rintro node _ before next ⟨tagged, copied⟩ turned
    have only := materializeNode_onlyWrites turned
    refine ⟨materializeNode_tags tagged turned, ?_⟩
    exact copied.keep_others (keepsNames_materializeNode tagged turned) (congrArg Store.routingRules only).symm
      (congrArg Store.inbounds only).symm

theorem deleteOutboundSubscription_copies {now : String} {id : Int} (sound : CopiesSound history store)
    (done : deleteOutboundSubscription now id store = .ok after) : CopiesSound history after := by
  simp only [deleteOutboundSubscription, bind_eq_ok, pure_eq_ok] at done
  obtain ⟨_, _, rfl⟩ := done
  refine CopiesSound.keep_others ?_ keepsNames_rebalanceOutboundSorts rfl rfl
  refine CopiesSound.keep_others ?_ (keepsNames_subscriptions _) rfl rfl
  exact sound.deleteSubscriptionOutbounds _

theorem updateOutboundSubscription_copies {now : String} {id : Int} {params : OutboundSubscriptionParams}
    {subscription : OutboundSubscription} (sound : CopiesSound history store)
    (done : updateOutboundSubscription now id params store = .ok (after, subscription)) : CopiesSound history after := by
  simp only [updateOutboundSubscription, bind_eq_ok, pure_eq_ok, Prod.mk.injEq] at done
  obtain ⟨_, _, _, _, rfl, _⟩ := done
  split
  · exact sound.keep_others (keepsNames_subscriptions _) rfl rfl
  · have disabled : CopiesSound history { store with
        outbounds := store.outbounds.modifyWhere (isSubscriptionOutbound id) (enableOutbound false)
          (enableOutbound_id false) } :=
      sound.keep_others (keepsNames_modifyOutbounds (enableOutbound_id false) fun _ _ => rfl) rfl rfl
    exact disabled.keep_others (keepsNames_subscriptions _) rfl rfl

theorem reorderOutboundSubscriptions_copies {now : String} {ids : List Int} (sound : CopiesSound history store)
    (done : reorderOutboundSubscriptions now ids store = .ok after) : CopiesSound history after := by
  simp only [reorderOutboundSubscriptions, bind_eq_ok, pure_eq_ok] at done
  obtain ⟨_, _, _, _, rfl⟩ := done
  exact sound.keep_others ((keepsNames_subscriptions _).trans keepsNames_rebalanceOutboundSorts) rfl rfl

/-- An outbound that a rule names is not deleted. -/
theorem deleteOutbound_copies {id : Int} (sound : CopiesSound history store) (done : deleteOutbound id store = .ok after) :
    CopiesSound history after := by
  simp only [deleteOutbound, bind_eq_ok, require_eq_ok, pure_eq_ok, beq_iff_eq, List.length_eq_zero_iff,
    List.filter_eq_nil_iff] at done
  obtain ⟨_, _, _, unused, rfl⟩ := done
  refine ⟨fun rule stored => ?_, sound.remarks⟩
  have consistent := sound.rules rule stored
  refine ⟨consistent.snapshot, fun unmarked => ?_, consistent.client, consistent.inbound⟩
  obtain ⟨row, there, same, tagged⟩ := mem_outboundNames.mp (consistent.outbound unmarked)
  refine mem_outboundNames.mpr ⟨row, Serial.mem_deleteWhere.mpr ⟨there, ?_⟩, same, tagged⟩
  rw [same]
  exact beq_eq_false_iff_ne.mpr (unused rule stored)

/-! What a renaming goes past. -/

/-- The rule names an outbound whose tag an update changes, as it does for a manual one. -/
def losesOutboundTag (id : Int) (tag : String) (store : Store) (rule : RoutingRule) : Bool :=
  rule.outboundID == id && store.outbounds.rows.any fun row =>
    row.id == id && row.source != outboundSourceSubscription && row.tag != tag

/-- The history with the rules that lose the tag of their outbound. -/
def RuleHistory.renameOutbound (id : Int) (tag : String) (store : Store) (history : RuleHistory) : RuleHistory :=
  { history with
    renamedOutbounds := history.renamedOutbounds ++
      (store.routingRules.rows.filter (losesOutboundTag id tag store)).map RoutingRule.id }

theorem updateOutbound_copies {id : Int} {params : UpdateOutboundParams} {outbound : Outbound}
    (sound : CopiesSound history store) (done : updateOutbound id params store = .ok (after, outbound)) :
    CopiesSound (history.renameOutbound id (trimSpace params.tag) store) after := by
  -- the rules the update does not go past keep what the history says of them
  have kept : ∀ rule ∈ store.routingRules.rows,
      rule.id ∉ (history.renameOutbound id (trimSpace params.tag) store).renamedOutbounds →
      rule.id ∉ history.renamedOutbounds ∧ losesOutboundTag id (trimSpace params.tag) store rule = false := by
    intro rule stored unmarked
    simp only [RuleHistory.renameOutbound, List.mem_append, not_or] at unmarked
    refine ⟨unmarked.1, Bool.eq_false_iff.mpr fun loses => unmarked.2 ?_⟩
    exact List.mem_map_of_mem (List.mem_filter.mpr ⟨stored, loses⟩)
  simp only [updateOutbound, bind_eq_ok, expect_eq_ok] at done
  obtain ⟨current, loaded, rest⟩ := done
  by_cases subscribed : current.source = outboundSourceSubscription
  · simp only [if_pos subscribed, updateSubscriptionOutboundEditableFields, bind_eq_ok, pure_eq_ok,
      Prod.mk.injEq] at rest
    obtain ⟨_, _, rfl, _⟩ := rest
    refine CopiesSound.mono (sound.keep_others ?_ rfl rfl) rfl (List.subset_append_left _ _) (List.Subset.refl _)
    exact keepsNames_modifyOutbounds (editSubscriptionOutbound_id _ _) fun _ _ => rfl
  · simp only [if_neg subscribed, bind_eq_ok, pure_eq_ok, Prod.mk.injEq] at rest
    obtain ⟨profile, prepared, _, _, rfl, _⟩ := rest
    simp only [OutboundProfile.prepare, bind_eq_ok, pure_eq_ok] at prepared
    obtain ⟨_, _, _, _, _, _, _, _, _, _, _, _, rfl⟩ := prepared
    refine ⟨fun rule stored => ?_, sound.remarks⟩
    have consistent := sound.rules rule stored
    refine ⟨consistent.snapshot, fun unmarked => ?_, consistent.client, consistent.inbound⟩
    obtain ⟨old, stays⟩ := kept rule stored unmarked
    obtain ⟨row, there, same, tagged⟩ := mem_outboundNames.mp (consistent.outbound old)
    refine mem_outboundNames.mpr ⟨_, List.mem_map.mpr ⟨row, there, rfl⟩, ?_⟩
    split
    · rename_i chosen
      have named : row.id = id := beq_iff_eq.mp chosen
      rw [getOutboundByID_loads loaded there named, loadOutbound_source] at subscribed
      rw [losesOutboundTag, beq_iff_eq.mpr (same.symm.trans named), Bool.true_and, List.any_eq_false] at stays
      have unchanged := stays row there
      rw [beq_iff_eq.mpr named, bne_iff_ne.mpr subscribed, Bool.true_and, Bool.true_and, bne_iff_ne, not_not] at unchanged
      exact ⟨same, unchanged.symm.trans tagged⟩
    · exact ⟨same, tagged⟩

theorem trimList_of_trimmed {α : Type} {drop fewer : α → Bool} {runes : List α}
    (trimmed : trimList drop runes = runes) (less : ∀ rune, drop rune = false → fewer rune = false) :
    trimList fewer runes = runes := by
  obtain ⟨starts, ends⟩ := trimList_eq_self.mp trimmed
  exact trimList_eq_self.mpr ⟨fun rune first => less rune (starts rune first), fun rune last => less rune (ends rune last)⟩

theorem sqlTrim_of_trimmed {text : String} (trimmed : trimSpace text = text) : sqlTrim text = text := by
  have runes : trimList isSpace text.toList = text.toList := by
    have same := congrArg String.toList trimmed
    rwa [trimSpace, String.toList_ofList] at same
  rw [sqlTrim, trimList_of_trimmed runes, String.ofList_toList]
  intro rune other
  refine beq_eq_false_iff_ne.mpr fun blank => ?_
  rw [blank] at other
  exact absurd other (by decide)

theorem supported_lower {row : InboundRow} (sound : row.Sound) :
    toLower (trimSpace row.protocol) = row.protocol ∧ sqlLower row.protocol = row.protocol := by
  have each : ∀ capability ∈ inboundCapabilities,
      toLower (trimSpace capability.protocol) = capability.protocol ∧
        sqlLower capability.protocol = capability.protocol := by with_unfolding_all decide
  obtain ⟨capability, member, named, _⟩ := sound.capability
  rw [← named]
  exact each capability member

/-- Another inbound has the remark too. -/
def remarkShared (id : Int) (remark : String) (store : Store) : Bool :=
  store.inbounds.rows.any fun row => row.id != id && trimSpace row.remark == remark

/-- A rule follows the renaming of an inbound unless it is one of the inbound and tagged with a remark
that another one shares, or one of another inbound and tagged with a name that this one gives up. -/
def followsRename (id : Int) (protocol remark : String) (old : InboundRow) (store : Store) (rule : RoutingRule) :
    Bool :=
  let renamed := trimSpace old.remark != remark
  let shared := remarkShared id (trimSpace old.remark) store
  if rule.inboundID == id then
    !renamed || !shared || rule.inboundTag == generatedInboundTag old ||
      rule.inboundTag == generatedTagOf id protocol
  else
    rule.inboundID == 0 ||
      ((generatedTagOf id protocol == generatedInboundTag old || rule.inboundTag != generatedInboundTag old) &&
        (!renamed || shared || rule.inboundTag != trimSpace old.remark))

/-- The history with the rules that do not follow the renaming of an inbound. -/
def RuleHistory.renameInbound (id : Int) (params : UpdateInboundParams) (store : Store) (history : RuleHistory) :
    RuleHistory :=
  let protocol := orElse (normalizeInboundProtocol params.protocol) "vless"
  let left := store.routingRules.rows.filter fun rule => store.inbounds.rows.any fun row =>
    row.id == id && !followsRename id protocol (trimSpace params.remark) row store rule
  { history with renamedInbounds := history.renamedInbounds ++ left.map RoutingRule.id }

theorem remarkMatches_iff (sound : CopiesSound history store) {id : Int} {old : InboundRow}
    (found : store.inbounds.find? id = some old) :
    ((store.inbounds.rows.filter fun other => sqlTrim other.remark == trimSpace old.remark).length == 1) =
      !remarkShared id (trimSpace old.remark) store := by
  have stored := Serial.mem_of_find? found
  have numbered := Serial.id_of_find? found
  have trimmed : ∀ row ∈ store.inbounds.rows, sqlTrim row.remark = trimSpace row.remark := fun row member => by
    rw [sqlTrim_of_trimmed (sound.remarks row member).1, (sound.remarks row member).1]
  have counted : old ∈ store.inbounds.rows.filter fun other => sqlTrim other.remark == trimSpace old.remark :=
    List.mem_filter.mpr ⟨stored, beq_iff_eq.mpr (trimmed old stored)⟩
  have distinct : (store.inbounds.rows.filter fun other => sqlTrim other.remark == trimSpace old.remark).Nodup :=
    (List.Nodup.of_map _ store.inbounds.ids_nodup).filter _
  rw [Bool.eq_iff_iff, beq_iff_eq, Bool.not_eq_true', remarkShared, List.any_eq_false]
  constructor
  · intro single row member
    obtain ⟨only, one⟩ := List.length_eq_one_iff.mp single
    simp only [Bool.and_eq_true, bne_iff_ne, beq_iff_eq, not_and]
    intro other same
    have inside : row ∈ store.inbounds.rows.filter fun other => sqlTrim other.remark == trimSpace old.remark :=
      List.mem_filter.mpr ⟨member, beq_iff_eq.mpr ((trimmed row member).trans same)⟩
    rw [one, List.mem_singleton] at inside counted
    rw [inside, ← counted] at other
    exact other numbered
  · intro unshared
    have all : ∀ row ∈ store.inbounds.rows.filter fun other => sqlTrim other.remark == trimSpace old.remark,
        row = old := by
      intro row inside
      obtain ⟨member, same⟩ := List.mem_filter.mp inside
      rw [beq_iff_eq, trimmed row member] at same
      have apart := unshared row member
      simp only [Bool.and_eq_true, bne_iff_ne, beq_iff_eq, not_and] at apart
      have named : row.id = id := not_not.mp fun other => apart other same
      exact Serial.eq_of_id_eq member stored (named.trans numbered.symm)
    rw [List.eq_replicate_of_mem all] at distinct counted ⊢
    rw [List.length_replicate]
    rw [List.nodup_replicate] at distinct
    have given := List.length_pos_of_mem counted
    rw [List.length_replicate] at given
    omega

/-- The tag a rule has after one statement that retags. -/
def retag (applies : Bool) (old new tag : String) : String :=
  if applies && tag == old then new else tag

theorem mem_retagRules {applies : Bool} {old new : String} {rules : Serial RoutingRule.id} {rule : RoutingRule}
    (member : rule ∈ (retagRules applies old new rules).rows) :
    ∃ before ∈ rules.rows, rule = retagRule (retag applies old new before.inboundTag) before := by
  unfold retagRules at member
  cases applies with
  | false => exact ⟨rule, member, rfl⟩
  | true =>
      obtain ⟨before, stored, rfl⟩ := List.mem_map.mp member
      refine ⟨before, stored, ?_⟩
      dsimp only
      by_cases tagged : before.inboundTag = old
      · rw [if_pos (beq_iff_eq.mpr tagged), retag, tagged, beq_self_eq_true]
        rfl
      · rw [if_neg (mt beq_iff_eq.mp tagged), retag, beq_eq_false_iff_ne.mpr tagged]
        rfl

theorem retag_other {applies : Bool} {old new tag : String} (other : applies = true → tag ≠ old) :
    retag applies old new tag = tag := by
  unfold retag
  split
  · rename_i chosen
    rw [Bool.and_eq_true, beq_iff_eq] at chosen
    exact absurd chosen.2 (other chosen.1)
  · rfl

theorem retag_cases (applies : Bool) (old new tag : String) :
    retag applies old new tag = tag ∨ retag applies old new tag = new := by
  unfold retag
  split
  · exact .inr rfl
  · exact .inl rfl

/-- A rule of the inbound is tagged with a name that the inbound then has. -/
theorem retagged_own {oldGen newGen oldRemark remark tag : String} {unshared : Bool} (given : oldRemark ≠ "")
    (tagged : tag = oldGen ∨ tag = oldRemark)
    (follows : oldRemark = remark ∨ unshared = true ∨ tag = oldGen ∨ tag = newGen) :
    retag (oldRemark != "" && oldRemark != remark && unshared) oldRemark remark
        (retag (oldGen != newGen) oldGen newGen tag) = newGen ∨
      retag (oldRemark != "" && oldRemark != remark && unshared) oldRemark remark
        (retag (oldGen != newGen) oldGen newGen tag) = remark := by
  by_cases generated : tag = oldGen
  · have first : retag (oldGen != newGen) oldGen newGen tag = newGen := by
      by_cases same : oldGen = newGen
      · rw [generated, ← same, retag_other]
        simp
      · rw [generated, retag, bne_iff_ne.mpr same, beq_self_eq_true]
        rfl
    rw [first]
    exact retag_cases ..
  · have remarked : tag = oldRemark := tagged.resolve_left generated
    rw [@retag_other (oldGen != newGen) oldGen newGen tag fun _ => generated]
    by_cases renamed : oldRemark = remark
    · rw [retag_other fun _ => by simp_all]
      exact .inr (remarked.trans renamed)
    · rcases follows with same | alone | same | same
      · exact absurd same renamed
      · right
        rw [retag, alone, bne_iff_ne.mpr given, bne_iff_ne.mpr renamed, remarked, beq_self_eq_true]
        rfl
      · exact absurd same generated
      · rcases retag_cases (oldRemark != "" && oldRemark != remark && unshared) oldRemark remark tag with kept | new
        · exact .inl (kept.trans same)
        · exact .inr new

theorem updateInbound_copies {id : Int} {params : UpdateInboundParams} {inbound : Inbound}
    (sound : CopiesSound history store)
    (done : updateInbound platform entropy id params store = .ok (after, inbound)) :
    CopiesSound (history.renameInbound id params store) after := by
  simp only [updateInbound, bind_eq_ok, expect_eq_ok, pure_eq_ok, Prod.mk.injEq] at done
  obtain ⟨row, preparing, old, found, _, _, _, _, _, _, rfl, _⟩ := done
  have stored := Serial.mem_of_find? found
  have numbered := Serial.id_of_find? found
  have rowSound := (UpdateInboundParams.prepare_spec preparing).1
  have given := (UpdateInboundParams.prepare_spec preparing).2.2.1
  have written : row.protocol = orElse (normalizeInboundProtocol params.protocol) "vless" ∧
      row.remark = trimSpace params.remark := by
    simp only [UpdateInboundParams.prepare, bind_eq_ok, pure_eq_ok] at preparing
    obtain ⟨_, _, _, _, _, _, _, _, _, _, _, _, rfl⟩ := preparing
    exact ⟨rfl, rfl⟩
  have follows : ∀ rule ∈ store.routingRules.rows,
      rule.id ∉ (history.renameInbound id params store).renamedInbounds →
      rule.id ∉ history.renamedInbounds ∧ followsRename id row.protocol row.remark old store rule = true := by
    intro rule member unmarked
    simp only [RuleHistory.renameInbound, List.mem_append, not_or] at unmarked
    refine ⟨unmarked.1, not_not.mp fun left => unmarked.2 ?_⟩
    refine List.mem_map_of_mem (List.mem_filter.mpr ⟨member, List.any_eq_true.mpr ⟨old, stored, ?_⟩⟩)
    rw [written.1, written.2, Bool.not_eq_true] at left
    rw [left, numbered, beq_self_eq_true]
    rfl
  have generated : "inbound-" ++ itoa id ++ "-" ++ row.protocol = generatedTagOf id row.protocol := by
    rw [generatedTagOf, (supported_lower rowSound).1]
  have oldTag : generatedTagOf id old.protocol = generatedInboundTag old := by
    rw [generatedInboundTag, numbered]
    rfl
  rw [generated, oldTag, remarkMatches_iff sound found]
  constructor
  · intro rule member
    obtain ⟨middle, retagged, rfl⟩ := mem_retagRules member
    obtain ⟨before, there, rfl⟩ := mem_retagRules retagged
    have consistent := sound.rules before there
    refine ⟨consistent.snapshot, consistent.outbound, consistent.client, fun unmarked bound => ?_⟩
    obtain ⟨earlier, followed⟩ := follows before there unmarked
    obtain ⟨source, sourceStored, named, tagged⟩ := mem_inboundNames.mp (consistent.inbound earlier bound)
    refine mem_inboundNames.mpr ⟨_, List.mem_map.mpr ⟨source, sourceStored, rfl⟩, ?_⟩
    dsimp only [retagRule]
    by_cases own : before.inboundID = id
    · have same : source = old := Serial.eq_of_id_eq sourceStored stored (named.trans (own.trans numbered.symm))
      rw [same] at named tagged
      rw [same, if_pos (beq_iff_eq.mpr numbered), updateInboundRow_id]
      refine ⟨named, ?_⟩
      have newTag : generatedInboundTag (updateInboundRow row.toInboundSettings row.core row.enabled old) =
          generatedTagOf id row.protocol := by
        rw [generatedInboundTag, updateInboundRow_id, numbered]
        rfl
      have newRemark : trimSpace (updateInboundRow row.toInboundSettings row.core row.enabled old).remark = row.remark := by
        change trimSpace row.remark = row.remark
        rw [written.2, trimSpace_trimSpace]
      rw [newTag, newRemark]
      refine retagged_own ?_ tagged ?_
      · rw [(sound.remarks old stored).1]
        exact (sound.remarks old stored).2
      · simp only [followsRename, own, beq_self_eq_true, if_true, Bool.or_eq_true, Bool.not_eq_true', bne_eq_false_iff_eq,
          beq_iff_eq] at followed
        rw [Bool.not_eq_true']
        tauto
    · rw [if_neg (mt beq_iff_eq.mp (named ▸ own))]
      refine ⟨named, ?_⟩
      have dwelling : before.inboundID ≠ 0 := bound
      simp only [followsRename, beq_eq_false_iff_ne.mpr own, beq_eq_false_iff_ne.mpr dwelling, Bool.false_eq_true,
        if_false, Bool.false_or, Bool.and_eq_true, Bool.or_eq_true, beq_iff_eq, bne_iff_ne, Bool.not_eq_true',
        bne_eq_false_iff_eq] at followed
      obtain ⟨notGenerated, notRemark⟩ := followed
      have first : retag (generatedInboundTag old != generatedTagOf id row.protocol) (generatedInboundTag old)
          (generatedTagOf id row.protocol) before.inboundTag = before.inboundTag := by
        refine retag_other fun changed => notGenerated.resolve_left fun kept => ?_
        exact bne_iff_ne.mp changed kept.symm
      rw [first, retag_other]
      · exact tagged
      · intro applies
        simp only [Bool.and_eq_true, bne_iff_ne, Bool.not_eq_true'] at applies
        refine notRemark.resolve_left fun settled => settled.elim applies.1.2 fun shared => ?_
        rw [shared] at applies
        cases applies.2
  · intro other member
    obtain ⟨before, there, rfl⟩ := List.mem_map.mp member
    dsimp only
    split
    · refine ⟨?_, given⟩
      change trimSpace row.remark = row.remark
      rw [written.2, trimSpace_trimSpace]
    · exact sound.remarks before there

/-! A rule is written with the names its rows go by. -/

theorem resolveRoutingRuleSource_names {params : RoutingRuleParams} {source : RuleSource} (rows : RowsSound store)
    (clients : ClientsSound store) (sound : CopiesSound history store)
    (resolved : resolveRoutingRuleSource params store = .ok source) :
    (source.clientID ≠ 0 → (source.clientID, source.inboundID, source.clientEmail) ∈ store.clientNames) ∧
      (source.inboundID ≠ 0 → (source.inboundID, source.inboundTag) ∈ store.inboundNames) := by
  simp only [resolveRoutingRuleSource] at resolved
  split at resolved
  · simp only [bind_eq_ok, require_eq_ok] at resolved
    obtain ⟨_, _, rest⟩ := resolved
    split at rest
    · simp only [resolveRoutingInboundTagByID, bind_eq_ok, expect_eq_ok, pure_eq_ok] at rest
      obtain ⟨_, ⟨row, found, rfl⟩, rfl⟩ := rest
      have numbered := Serial.id_of_find? found
      refine ⟨fun named => absurd rfl named, fun _ => mem_inboundNames.mpr ⟨row, Serial.mem_of_find? found, numbered, ?_⟩⟩
      rw [generatedInboundTag, numbered]
      exact .inl rfl
    · simp only [resolveRoutingInboundTag, trimSpace_trimSpace, bind_eq_ok, pure_eq_ok] at rest
      obtain ⟨id, tagged, rfl⟩ := rest
      refine ⟨fun named => absurd rfl named, fun bound => ?_⟩
      split at tagged
      · rw [pure_eq_ok] at tagged
        exact absurd tagged.symm bound
      · simp only [bind_eq_ok, expect_eq_ok, pure_eq_ok] at tagged
        obtain ⟨row, found, rfl⟩ := tagged
        have stored := List.mem_of_find?_eq_some found
        have matched := List.find?_some found
        have lower := supported_lower (rows.inbounds row stored)
        have remark := (sound.remarks row stored).1
        rw [lower.2, sqlTrim_of_trimmed remark, Bool.or_eq_true, beq_iff_eq, beq_iff_eq] at matched
        refine mem_inboundNames.mpr ⟨row, stored, rfl, ?_⟩
        rw [generatedInboundTag, lower.1, remark]
        exact matched.imp_right Eq.symm
  · simp only [bind_eq_ok, expect_eq_ok, require_eq_ok, pure_eq_ok, Prod.exists] at resolved
    obtain ⟨client, inbound, found, _, _, _, _, rfl⟩ := resolved
    obtain ⟨clientFound, inboundFound⟩ := findClientInbound_spec found
    have stored := Serial.mem_of_find? clientFound
    have numbered := Serial.id_of_find? inboundFound
    refine ⟨fun _ => mem_clientNames.mpr ⟨client, stored, Serial.id_of_find? clientFound, rfl, ?_⟩,
      fun _ => mem_inboundNames.mpr ⟨inbound, Serial.mem_of_find? inboundFound, numbered, ?_⟩⟩
    · exact (clients.tidy client stored).trimmed.symm
    · rw [generatedInboundTag, numbered]
      exact .inl rfl

/-- The history with a rule that is written anew. -/
def RuleHistory.writeRule (id outboundID : Int) (store : Store) (history : RuleHistory) : RuleHistory where
  outboundTags := Function.update history.outboundTags id ((store.outbounds.find? outboundID).elim "" Outbound.tag)
  renamedOutbounds := history.renamedOutbounds.filter (· != id)
  renamedInbounds := history.renamedInbounds.filter (· != id)

theorem RoutingRule.Consistent.writeOther {rule : RoutingRule} {id : Int} (consistent : rule.Consistent history store)
    (other : rule.id ≠ id) (outboundID : Int) (before : Store) :
    rule.Consistent (history.writeRule id outboundID before) store where
  snapshot := by
    simp only [RuleHistory.writeRule, Function.update_of_ne other]
    exact consistent.snapshot
  outbound := fun unmarked => consistent.outbound fun marked =>
    unmarked (List.mem_filter.mpr ⟨marked, bne_iff_ne.mpr other⟩)
  client := consistent.client
  inbound := fun unmarked => consistent.inbound fun marked =>
    unmarked (List.mem_filter.mpr ⟨marked, bne_iff_ne.mpr other⟩)

theorem resolveRule_consistent {params : RoutingRuleParams} {source : RuleSource} {outbound : Outbound} {id : Int}
    (rows : RowsSound store) (clients : ClientsSound store) (sound : CopiesSound history store)
    (resolved : resolveRule params store = .ok (source, outbound)) {rule : RoutingRule} (named : rule.id = id) :
    (writeRule source outbound params rule).Consistent (history.writeRule id params.outboundID store) store := by
  simp only [resolveRule, resolveRoutingOutbound, bind_eq_ok, require_eq_ok, expect_eq_ok, pure_eq_ok,
    Prod.mk.injEq] at resolved
  obtain ⟨_, sourceResolved, _, ⟨_, _, found⟩, _, _, rfl, rfl⟩ := resolved
  obtain ⟨client, inbound⟩ := resolveRoutingRuleSource_names rows clients sound sourceResolved
  refine ⟨?_, fun _ => ?_, client, fun _ => inbound⟩
  · simp only [writeRule_id, named, RuleHistory.writeRule, Function.update_self, found]
    rfl
  · exact mem_outboundNames.mpr ⟨_, Serial.mem_of_find? found, rfl, rfl⟩

theorem RoutingRule.Consistent.rules {rule : RoutingRule} (consistent : rule.Consistent history store)
    (routingRules : Serial RoutingRule.id) : rule.Consistent history { store with routingRules } :=
  ⟨consistent.snapshot, consistent.outbound, consistent.client, consistent.inbound⟩

theorem createRoutingRule_copies {params : RoutingRuleParams} {rule : RoutingRule} (rows : RowsSound store)
    (clients : ClientsSound store) (sound : CopiesSound history store)
    (done : createRoutingRule params store = .ok (after, rule)) :
    CopiesSound (history.writeRule store.routingRules.next params.outboundID store) after := by
  simp only [createRoutingRule, bind_eq_ok, pure_eq_ok, Prod.exists, Prod.mk.injEq] at done
  obtain ⟨source, outbound, resolved, rfl, _⟩ := done
  refine ⟨fun rule member => ?_, sound.remarks⟩
  rcases Serial.mem_insert.mp member with old | new
  · have other : rule.id ≠ store.routingRules.next := ne_of_lt (store.routingRules.bounded rule old)
    exact ((sound.rules rule old).writeOther other _ _).rules _
  · rw [new]
    let blank : RoutingRule := { (default : RoutingRule) with
      id := store.routingRules.next, sort := nextSort (store.routingRules.rows.map RoutingRule.sort) }
    have numbered : blank.id = store.routingRules.next := rfl
    exact (resolveRule_consistent rows clients sound resolved numbered).rules _

theorem updateRoutingRule_copies {id : Int} {params : RoutingRuleParams} {rule : RoutingRule} (rows : RowsSound store)
    (clients : ClientsSound store) (sound : CopiesSound history store)
    (done : updateRoutingRule id params store = .ok (after, rule)) :
    CopiesSound (history.writeRule id params.outboundID store) after := by
  simp only [updateRoutingRule, bind_eq_ok, pure_eq_ok, Prod.exists, Prod.mk.injEq] at done
  obtain ⟨source, outbound, resolved, _, _, rfl, _⟩ := done
  refine ⟨fun rule member => ?_, sound.remarks⟩
  obtain ⟨old, stored, rfl⟩ := List.mem_map.mp member
  dsimp only
  split
  · rename_i chosen
    exact (resolveRule_consistent rows clients sound resolved (beq_iff_eq.mp chosen)).rules _
  · rename_i other
    exact ((sound.rules old stored).writeOther (mt beq_iff_eq.mpr other) _ _).rules _

theorem reorderRoutingRules_copies (ids : List Int) (sound : CopiesSound history store) :
    CopiesSound history (reorderRoutingRules ids store) := by
  have sorted : ∀ (pairs : List (Int × Nat)) (rules : Serial RoutingRule.id),
      (∀ rule ∈ rules.rows, rule.Consistent history store) →
      ∀ rule ∈ (pairs.foldl (fun rules pair => rules.modifyWhere (fun rule => rule.id == pair.1) (sortRule pair.2)
        (sortRule_id pair.2)) rules).rows, rule.Consistent history store := by
    intro pairs
    induction pairs with
    | nil => exact fun _ all => all
    | cons pair rest ih =>
        intro rules all
        rw [List.foldl_cons]
        refine ih _ fun rule member => ?_
        obtain ⟨old, stored, rfl⟩ := List.mem_map.mp member
        have consistent := all old stored
        dsimp only
        split
        · exact ⟨consistent.snapshot, consistent.outbound, consistent.client, consistent.inbound⟩
        · exact consistent
  exact ⟨fun rule member => (sorted _ _ sound.rules rule member).rules _, sound.remarks⟩

/-! The store together with the history of its rules. -/

def RuleHistory.empty : RuleHistory :=
  ⟨fun _ => "", [], []⟩

def RuleHistory.record (event : StoreEvent) (store : Store) (history : RuleHistory) : RuleHistory :=
  match event with
  | .operate (.createRoutingRule params) => history.writeRule store.routingRules.next params.outboundID store
  | .operate (.updateRoutingRule id params) => history.writeRule id params.outboundID store
  | .operate (.updateOutbound id params) => history.renameOutbound id (trimSpace params.tag) store
  | .operate (.updateInbound _ id params) => history.renameInbound id params store
  | _ => history

/-- An event, recorded in the history. -/
def recordedStep (platform : Platform) (event : StoreEvent) (state : Store × RuleHistory) :
    Option (Store × RuleHistory) :=
  (eventStep platform event state.1).map fun after => (after, state.2.record event state.1)

theorem recordedStep_eq_some {event : StoreEvent} {before next : Store × RuleHistory} :
    recordedStep platform event before = some next ↔
      eventStep platform event before.1 = some next.1 ∧ next.2 = before.2.record event before.1 := by
  rw [recordedStep, Option.map_eq_some_iff]
  constructor
  · rintro ⟨after, moved, rfl⟩
    exact ⟨moved, rfl⟩
  · rintro ⟨moved, recorded⟩
    exact ⟨next.1, moved, by rw [← recorded]⟩

/-- Recording leaves the runs of the store as they are. -/
theorem reach_recorded_iff :
    Reach (Steps (eventStep platform)) Store.initial store ↔
      ∃ history, Reach (Steps (recordedStep platform)) (Store.initial, RuleHistory.empty) (store, history) := by
  constructor
  · intro reached
    induction reached with
    | start => exact ⟨_, .start⟩
    | step _ moved ih =>
        obtain ⟨history, recorded⟩ := ih
        exact ⟨_, .step recorded (recordedStep_eq_some.mpr ⟨moved, rfl⟩)⟩
  · rintro ⟨history, recorded⟩
    have stores : ∀ {state : Store × RuleHistory},
        Reach (Steps (recordedStep platform)) (Store.initial, RuleHistory.empty) state →
        Reach (Steps (eventStep platform)) Store.initial state.1 := by
      intro state reached
      induction reached with
      | start => exact .start
      | step _ moved ih => exact .step ih (recordedStep_eq_some.mp moved).1
    exact stores recorded

theorem operate_copies {op : StoreOp} (inv : StoreInv store) (clients : ClientsSound store)
    (tags : TagsSound store.outbounds) (sound : CopiesSound history store)
    (done : op.run platform store = .ok after) : CopiesSound (history.record (.operate op) store) after := by
  cases op with
  | createInbound entropy params =>
      obtain ⟨_, created⟩ := map_fst_eq_ok.mp done
      exact createInbound_copies sound created
  | updateInbound entropy id params =>
      obtain ⟨_, updated⟩ := map_fst_eq_ok.mp done
      exact updateInbound_copies sound updated
  | deleteInbound id => exact deleteInbound_copies sound done
  | setInboundEnabled id enabled =>
      obtain ⟨_, switched⟩ := map_fst_eq_ok.mp done
      exact setInboundEnabled_copies sound switched
  | applyCertificateToInbounds cert inboundIDs =>
      obtain ⟨_, applied⟩ := map_fst_eq_ok.mp done
      exact applyCertificateToInbounds_copies sound applied
  | createClient entropy params =>
      obtain ⟨_, created⟩ := map_fst_eq_ok.mp done
      exact createClient_copies sound created
  | updateClient entropy id params =>
      obtain ⟨_, updated⟩ := map_fst_eq_ok.mp done
      exact updateClient_copies clients sound updated
  | deleteClient id => exact deleteClient_copies sound done
  | setClientEnabled inboundID id enabled =>
      obtain ⟨_, switched⟩ := map_fst_eq_ok.mp done
      exact setClientEnabled_copies sound switched
  | createOutbound now params =>
      obtain ⟨_, created⟩ := map_fst_eq_ok.mp done
      have only := run_onlyWrites done
      exact sound.keep_others (keepsNames_createOutbound created) (congrArg Store.routingRules only).symm
        (congrArg Store.inbounds only).symm
  | updateOutbound id params =>
      obtain ⟨_, updated⟩ := map_fst_eq_ok.mp done
      exact updateOutbound_copies sound updated
  | deleteOutbound id => exact deleteOutbound_copies sound done
  | setOutboundEnabled id enabled =>
      obtain ⟨_, switched⟩ := map_fst_eq_ok.mp done
      have only := run_onlyWrites done
      exact sound.keep_others (keepsNames_setOutboundEnabled switched) (congrArg Store.routingRules only).symm
        (congrArg Store.inbounds only).symm
  | reorderOutbounds ids =>
      have only := run_onlyWrites done
      exact sound.keep_others (keepsNames_reorderOutbounds done) (congrArg Store.routingRules only).symm
        (congrArg Store.inbounds only).symm
  | updateOutboundSubscription now id params =>
      obtain ⟨_, updated⟩ := map_fst_eq_ok.mp done
      exact updateOutboundSubscription_copies sound updated
  | deleteOutboundSubscription now id => exact deleteOutboundSubscription_copies sound done
  | reorderOutboundSubscriptions now ids => exact reorderOutboundSubscriptions_copies sound done
  | materializeSubscriptionOutbounds now subscriptionID nodes identities =>
      obtain ⟨_, refreshed⟩ := map_fst_eq_ok.mp done
      exact materializeSubscriptionOutbounds_copies tags sound refreshed
  | createOutboundSubscription | markOutboundSubscriptionFetch =>
      rw [← run_onlyWrites done]
      exact sound.keep_others (keepsNames_subscriptions _) rfl rfl
  | createRoutingRule params =>
      obtain ⟨_, created⟩ := map_fst_eq_ok.mp done
      exact createRoutingRule_copies inv.rows clients sound created
  | updateRoutingRule id params =>
      obtain ⟨_, updated⟩ := map_fst_eq_ok.mp done
      exact updateRoutingRule_copies inv.rows clients sound updated
  | deleteRoutingRule id =>
      simp only [StoreOp.run, Db.deleteRoutingRule, bind_eq_ok, pure_eq_ok] at done
      obtain ⟨_, _, rfl⟩ := done
      refine ⟨fun rule member => ?_, sound.remarks⟩
      exact (sound.rules rule (Serial.mem_deleteWhere.mp member).1).rules _
  | reorderRoutingRules ids =>
      rw [← Except.ok.inj done]
      exact reorderRoutingRules_copies ids sound

theorem reopen_copies (sound : CopiesSound history store) : CopiesSound history store.reopen := by
  have seeded : ∀ {before : Store} (row : Outbound), CopiesSound history before →
      CopiesSound history (seedOutbound row before) := by
    intro before row kept
    unfold seedOutbound
    split
    · exact kept
    · exact kept.keep_others (keepsNames_insertOutboundRow row) rfl rfl
  rw [reopen_eq]
  refine seeded _ (seeded _ (seeded _ ?_))
  exact sound.keep_others (.of_eq rfl rfl rfl) rfl rfl

theorem empty_copies : CopiesSound history Store.empty where
  rules := fun _ member => absurd member List.not_mem_nil
  remarks := fun _ member => absurd member List.not_mem_nil

theorem recorded_copies {state : Store × RuleHistory}
    (reached : Reach (Steps (recordedStep platform)) (Store.initial, RuleHistory.empty) state) :
    CopiesSound state.2 state.1 := by
  induction reached with
  | start => exact reopen_copies empty_copies
  | @step before after event earlier moved ih =>
      obtain ⟨stepped, recorded⟩ := recordedStep_eq_some.mp moved
      have known := reach_recorded_iff.mpr ⟨before.2, earlier⟩
      rw [recorded]
      cases event with
      | operate op =>
          exact operate_copies (events_inv known) (events_clients known) (events_tags known) ih
            (storeStep_eq_some.mp stepped)
      | reopen =>
          rw [← Option.some.inj stepped]
          exact reopen_copies ih

end MiGate.Db
