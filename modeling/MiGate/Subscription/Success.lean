import MiGate.Db.RuleScope
import MiGate.Subscription.Tags

namespace MiGate.Subscription

open Go Db Fallible Relational

variable {platform : Platform} {now : String} {subscriptionID : Int} {store : Store}

/-! Materializing links that the store accepts does not fail. -/

/-- What the store validates of a link. -/
def linkOutbound (link : ParsedLink) : Outbound :=
  { (default : Outbound) with
    protocol := normalizeOutboundProtocol link.protocol, address := link.address, port := link.port
    username := link.username, password := link.password }

def storeAccepts (link : ParsedLink) : Bool :=
  (validateOutboundProfile (linkOutbound link)).isOk

theorem storeAccepts_iff {link : ParsedLink} :
    storeAccepts link = true ↔ validateOutboundProfile (linkOutbound link) = .ok () := by
  unfold storeAccepts
  cases validateOutboundProfile (linkOutbound link) with
  | ok done => simp [Except.isOk, Except.toBool]
  | error error => simp [Except.isOk, Except.toBool]

theorem claimedRow_mem {existing : List Outbound} {identity : String} {i : Nat} {row : Outbound}
    (claimed : claimedRow subscriptionID existing identity i = some row) :
    row ∈ existing ∧ isSubscriptionOutbound subscriptionID row = true := by
  rw [← List.mem_filter]
  unfold claimedRow at claimed
  cases byIdentity : rowByIdentity subscriptionID existing identity with
  | some found =>
      rw [byIdentity] at claimed
      cases claimed
      obtain ⟨other, inside, same⟩ := List.mem_map.mp (mem_of_lastWrite byIdentity)
      have sameRow : other = row := congrArg Prod.snd same
      rw [← sameRow]
      exact List.mem_of_mem_filter inside
  | none =>
      rw [byIdentity] at claimed
      exact (List.mem_insertionSort _).mp (List.mem_of_getElem? claimed)

/-- The tags after a node has been written are those before, and its own where it is a new row. -/
theorem materializeNode_newTag {node : MaterializedSubscriptionOutbound} {done next : Store × List Int}
    (sound : TagsSound done.1.outbounds) (turned : materializeNode now subscriptionID done node = .ok next)
    {row : Outbound} (stored : row ∈ next.1.outbounds.rows) :
    row.tag ∈ done.1.outbounds.rows.map Outbound.tag ∨
      existingNodeRow subscriptionID node done.1 = none ∧ row.tag = trimSpace node.tag := by
  simp only [materializeNode, bind_eq_ok] at turned
  obtain ⟨_, _, _, _, rest⟩ := turned
  cases claimed : existingNodeRow subscriptionID node done.1 with
  | some existing =>
      simp only [claimed, bind_eq_ok, pure_eq_ok] at rest
      obtain ⟨_, _, rfl⟩ := rest
      dsimp only at stored
      obtain ⟨old, oldStored, rfl⟩ := Serial.mem_modifyWhere.mp stored
      refine .inl ?_
      split
      · have kept : (rewriteNodeRow node now old).tag = old.tag :=
          sound.trimmed old.tag (List.mem_map_of_mem oldStored)
        rw [kept]
        exact List.mem_map_of_mem oldStored
      · exact List.mem_map_of_mem oldStored
  | none =>
      simp only [claimed, bind_eq_ok, pure_eq_ok] at rest
      obtain ⟨_, _, rfl⟩ := rest
      dsimp only at stored
      rcases Serial.mem_insert.mp stored with old | new
      · exact .inl (List.mem_map_of_mem old)
      · rw [new]
        exact .inr ⟨rfl, rfl⟩

/-- A node that is valid fails only over its tag, which matters only if no row is claimed. -/
theorem materializeNode_succeeds {node : MaterializedSubscriptionOutbound} {done : Store × List Int}
    (sound : TagsSound done.1.outbounds) (valid : validateOutboundProfile node.asOutbound = .ok ())
    (given : nodeIdentity node ≠ "")
    (free : existingNodeRow subscriptionID node done.1 = none → outboundTagTaken (trimSpace node.tag) done.1 = false) :
    ∃ next, materializeNode now subscriptionID done node = .ok next := by
  have hasIdentity : (trimSpace node.subscriptionIdentity != "") = true := bne_iff_ne.mpr given
  cases claimed : existingNodeRow subscriptionID node done.1 with
  | some existing =>
      have stored := existingNodeRow_mem claimed
      have settled : trimSpace existing.tag = existing.tag :=
        sound.trimmed existing.tag (List.mem_map_of_mem stored)
      have untaken : (!done.1.outbounds.rows.any fun row =>
          row.id != existing.id && row.tag == trimSpace existing.tag) = true := by
        rw [Bool.not_eq_true', List.any_eq_false]
        intro row rowStored both
        rw [Bool.and_eq_true, bne_iff_ne, beq_iff_eq, settled] at both
        exact both.1 (congrArg Outbound.id (sound.unique rowStored stored both.2))
      simp only [materializeNode, valid, hasIdentity, claimed, require, untaken, if_true]
      exact ⟨_, rfl⟩
  | none =>
      have untaken : (!outboundTagTaken (trimSpace node.tag) done.1) = true := by
        rw [free claimed]
        rfl
      simp only [materializeNode, valid, hasIdentity, claimed, require, untaken, if_true]
      exact ⟨_, rfl⟩

/-- What the loop over the links keeps: the tags that are stored count as used, and the rows that
links may claim are still the subscription's. -/
structure Tracks (subscriptionID : Int) (existing : List Outbound) (usedTags : List String) (store : Store) : Prop where
  sound : TagsSound store.outbounds
  used : ∀ tag ∈ store.outbounds.rows.map Outbound.tag, tag ≠ "" → tag ∈ usedTags
  rows : ∀ row ∈ existing, isSubscriptionOutbound subscriptionID row = true → 0 < row.id ∧
    ∃ kept ∈ store.outbounds.rows, kept.id = row.id ∧ isSubscriptionOutbound subscriptionID kept = true

namespace Tracks

variable {existing : List Outbound} {tagPrefix : String} {usedTags : List String} {link : ParsedLink} {i : Nat}
  {start next : Store × List Int}

/-- A node without a row has the tag made for it. -/
theorem fresh (tracks : Tracks subscriptionID existing usedTags store)
    (unclaimed : existingNodeRow subscriptionID
      (materializeLink platform subscriptionID existing tagPrefix usedTags link i) store = none) :
    (materializeLink platform subscriptionID existing tagPrefix usedTags link i).tag =
      uniqueTag (tagPrefix ++ slug link.remark) usedTags := by
  cases claimed : claimedRow subscriptionID existing (linkIdentity platform link) i with
  | some row =>
      obtain ⟨inside, mine⟩ := claimedRow_mem claimed
      obtain ⟨positive, kept, stored, named, keptMine⟩ := tracks.rows row inside mine
      have nodeID : (materializeLink platform subscriptionID existing tagPrefix usedTags link i).id = row.id := by
        simp [materializeLink, claimed]
      rw [existingNodeRow_named (nodeID ▸ positive) stored (named.trans nodeID.symm) keptMine] at unclaimed
      cases unclaimed
  | none =>
      have blank : trimSpace "" = "" := trimSpace_empty
      simp [materializeLink, claimed, blank]

/-- The tag of a node without a row is free. -/
theorem free (tracks : Tracks subscriptionID existing usedTags store)
    (unclaimed : existingNodeRow subscriptionID
      (materializeLink platform subscriptionID existing tagPrefix usedTags link i) store = none) :
    outboundTagTaken (trimSpace (materializeLink platform subscriptionID existing tagPrefix usedTags link i).tag)
      store = false := by
  rw [tracks.fresh unclaimed, uniqueTag_trimmed, outboundTagTaken, List.any_eq_false]
  intro row stored same
  have inside := tracks.used row.tag (List.mem_map_of_mem stored)
  rw [beq_iff_eq.mp same] at inside
  exact uniqueTag_free _ _ (inside (uniqueTag_given _ _))

/-- The node written, its tag counts as used. -/
theorem step (tracks : Tracks subscriptionID existing usedTags start.1)
    (turned : materializeNode now subscriptionID start
      (materializeLink platform subscriptionID existing tagPrefix usedTags link i) = .ok next) :
    Tracks subscriptionID existing
      ((materializeLink platform subscriptionID existing tagPrefix usedTags link i).tag :: usedTags) next.1 where
  sound := materializeNode_tags tracks.sound turned
  used := by
    intro tag member nonempty
    obtain ⟨row, stored, rfl⟩ := List.mem_map.mp member
    rcases materializeNode_newTag tracks.sound turned stored with old | ⟨unclaimed, new⟩
    · exact List.mem_cons_of_mem _ (tracks.used row.tag old nonempty)
    · rw [new, tracks.fresh unclaimed, uniqueTag_trimmed]
      exact List.mem_cons_self
  rows := by
    intro row inside mine
    obtain ⟨positive, kept, stored, named, keptMine⟩ := tracks.rows row inside mine
    obtain ⟨later, laterStored, laterNamed, _, laterMine⟩ := materializeNode_keeps tracks.sound turned stored
    exact ⟨positive, later, laterStored, laterNamed.trans named, laterMine.trans keptMine⟩

/-- What is listed before the loop is what is stored. -/
theorem listed (sound : TagsSound store.outbounds) : Tracks subscriptionID (listOutbounds store)
    (((listOutbounds store).map Outbound.tag).filter fun tag => trimSpace tag != "") store where
  sound := sound
  used := by
    intro tag member given
    obtain ⟨row, stored, rfl⟩ := List.mem_map.mp member
    have settled := sound.trimmed row.tag member
    refine List.mem_filter.mpr ⟨?_, ?_⟩
    · exact List.mem_map.mpr ⟨loadOutbound row, mem_listOutbounds.mpr ⟨row, stored, rfl⟩, rfl⟩
    · rw [settled]
      exact bne_iff_ne.mpr given
  rows := by
    intro row member mine
    obtain ⟨stored, inside, rfl⟩ := mem_listOutbounds.mp member
    exact ⟨store.outbounds.positive stored inside, stored, inside, rfl,
      (isSubscriptionOutbound_loadOutbound stored).symm.trans mine⟩

end Tracks

/-- The loop succeeds as long as the tags that are stored count as used. -/
theorem materializeLinks_succeeds {existing : List Outbound} {tagPrefix : String} {links : List (ParsedLink × Nat)}
    {usedTags : List String} {start : Store × List Int} (tracks : Tracks subscriptionID existing usedTags start.1)
    (valid : ∀ pair ∈ links, storeAccepts pair.1 = true)
    (given : ∀ link, trimSpace (linkIdentity platform link) ≠ "") :
    ∃ written, (materializeLinks platform subscriptionID existing tagPrefix usedTags links).foldlM
      (materializeNode now subscriptionID) start = .ok written := by
  induction links generalizing usedTags start with
  | nil => exact ⟨start, rfl⟩
  | cons pair rest ih =>
      obtain ⟨link, i⟩ := pair
      have nodeValid : validateOutboundProfile
          (materializeLink platform subscriptionID existing tagPrefix usedTags link i).asOutbound = .ok () :=
        storeAccepts_iff.mp (valid (link, i) List.mem_cons_self)
      have nodeGiven : nodeIdentity (materializeLink platform subscriptionID existing tagPrefix usedTags link i) ≠ "" :=
        given link
      obtain ⟨next, turned⟩ := @materializeNode_succeeds now _ _ _ tracks.sound nodeValid nodeGiven tracks.free
      rw [materializeLinks, List.foldlM_cons, turned]
      exact ih (tracks.step turned) fun later member => valid later (List.mem_cons_of_mem _ member)

end MiGate.Subscription
