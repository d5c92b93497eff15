import MiGate.Subscription.Refresh

namespace MiGate.Subscription

open Go Db Fallible Relational Transition

variable {platform : Platform} {now : String} {subscriptionID : Int} {existing : List Outbound}
  {tagPrefix : String} {store : Store}

/-! The tags a refresh makes: the search for one ends, and what it finds nobody has. -/

/-- The loop `for i := 2; used[tag]; i++`, from a tag and a number to those it ends with. -/
inductive TagLoop (base : String) (used : List String) : String → Nat → String → Nat → Prop where
  | ends {tag : String} {number : Nat} (free : tag ∉ used) : TagLoop base used tag number tag number
  | turns {tag found : String} {number last : Nat} (taken : tag ∈ used)
      (rest : TagLoop base used (base ++ "-" ++ itoa number) (number + 1) found last) :
      TagLoop base used tag number found last

theorem firstFreeTag_loop {base : String} {used : List String} {fuel number : Nat}
    (free : firstFreeTag base used fuel number ∉ used) :
    ∃ last ≤ number + fuel + 1,
      TagLoop base used (base ++ "-" ++ itoa number) (number + 1) (firstFreeTag base used fuel number) last := by
  induction fuel generalizing number with
  | zero => exact ⟨number + 1, le_rfl, .ends free⟩
  | succ fuel ih =>
      rw [firstFreeTag] at free ⊢
      by_cases taken : used.contains (base ++ "-" ++ itoa number) = true
      · rw [if_pos taken] at free ⊢
        obtain ⟨last, bound, rest⟩ := ih free
        exact ⟨last, by omega, .turns (List.contains_iff_mem.mp taken) rest⟩
      · rw [if_neg taken]
        exact ⟨number + 1, by omega, .ends fun member => taken (List.contains_iff_mem.mpr member)⟩

theorem uniqueTag_loop (base : String) (used : List String) :
    ∃ last ≤ used.length + 3, TagLoop (orElse (trimSpace base) "sub-node") used
      (orElse (trimSpace base) "sub-node") 2 (uniqueTag base used) last := by
  unfold uniqueTag
  dsimp only
  by_cases taken : used.contains (orElse (trimSpace base) "sub-node") = true
  · rw [if_pos taken]
    obtain ⟨last, bound, rest⟩ := firstFreeTag_loop (firstFreeTag_free (orElse (trimSpace base) "sub-node") used)
    exact ⟨last, by omega, .turns (List.contains_iff_mem.mp taken) rest⟩
  · rw [if_neg taken]
    exact ⟨2, by omega, .ends fun member => taken (List.contains_iff_mem.mpr member)⟩

/-! Of the nodes of a pass, the new ones are those whose link takes over no row. -/

def isNewLink (platform : Platform) (subscriptionID : Int) (existing : List Outbound) (pair : ParsedLink × Nat) : Bool :=
  (claimedRow subscriptionID existing (linkIdentity platform pair.1) pair.2).isNone

def newNodesAmong (platform : Platform) (subscriptionID : Int) (existing : List Outbound)
    (links : List (ParsedLink × Nat)) (nodes : List MaterializedSubscriptionOutbound) :
    List MaterializedSubscriptionOutbound :=
  ((links.zip nodes).filter fun entry => isNewLink platform subscriptionID existing entry.1).map Prod.snd

theorem newNodesAmong_cons {pair : ParsedLink × Nat} {links : List (ParsedLink × Nat)}
    {node : MaterializedSubscriptionOutbound} {nodes : List MaterializedSubscriptionOutbound} :
    newNodesAmong platform subscriptionID existing (pair :: links) (node :: nodes) =
      if isNewLink platform subscriptionID existing pair then
        node :: newNodesAmong platform subscriptionID existing links nodes
      else newNodesAmong platform subscriptionID existing links nodes := by
  rw [newNodesAmong, List.zip_cons_cons, List.filter_cons]
  split <;> rfl

/-- The new nodes of `Materialize`. -/
def newNodes (platform : Platform) (subscriptionID : Int) (links : List ParsedLink) (existing : List Outbound)
    (tagPrefix : String) : List MaterializedSubscriptionOutbound :=
  newNodesAmong platform subscriptionID existing links.zipIdx
    (materialize platform subscriptionID links existing tagPrefix).1

def newTags (platform : Platform) (subscriptionID : Int) (links : List ParsedLink) (existing : List Outbound)
    (tagPrefix : String) : List String :=
  (newNodes platform subscriptionID links existing tagPrefix).map MaterializedSubscriptionOutbound.tag

theorem materializeLink_newTag {usedTags : List String} {link : ParsedLink} {i : Nat}
    (new : isNewLink platform subscriptionID existing (link, i) = true) :
    (materializeLink platform subscriptionID existing tagPrefix usedTags link i).tag =
      uniqueTag (tagPrefix ++ slug link.remark) usedTags := by
  have unclaimed : claimedRow subscriptionID existing (linkIdentity platform link) i = none := Option.isNone_iff_eq_none.mp new
  have blank : trimSpace "" = "" := trimSpace_empty
  simp [materializeLink, unclaimed, blank]

/-- Through the whole pass a new node's tag is none of those used before it. -/
theorem newNodesAmong_tags {usedTags : List String} {links : List (ParsedLink × Nat)} :
    let tags := (newNodesAmong platform subscriptionID existing links
      (materializeLinks platform subscriptionID existing tagPrefix usedTags links)).map MaterializedSubscriptionOutbound.tag
    tags.Nodup ∧ ∀ tag ∈ tags, tag ≠ "" ∧ trimSpace tag = tag ∧ tag ∉ usedTags := by
  induction links generalizing usedTags with
  | nil => exact ⟨List.nodup_nil, fun _ member => absurd member List.not_mem_nil⟩
  | cons pair rest ih =>
      obtain ⟨link, i⟩ := pair
      dsimp only at ih ⊢
      obtain ⟨apart, others⟩ :=
        @ih ((materializeLink platform subscriptionID existing tagPrefix usedTags link i).tag :: usedTags)
      rw [materializeLinks, newNodesAmong_cons]
      by_cases new : isNewLink platform subscriptionID existing (link, i) = true
      · rw [if_pos new, List.map_cons]
        refine ⟨List.nodup_cons.mpr ⟨fun again => ?_, apart⟩, ?_⟩
        · exact (others _ again).2.2 List.mem_cons_self
        · intro tag member
          rcases List.mem_cons.mp member with rfl | later
          · rw [materializeLink_newTag new]
            exact ⟨uniqueTag_given _ _, uniqueTag_trimmed _ _, uniqueTag_free _ _⟩
          · obtain ⟨given, trimmed, unused⟩ := others tag later
            exact ⟨given, trimmed, fun used => unused (List.mem_cons_of_mem _ used)⟩
      · rw [if_neg new]
        refine ⟨apart, fun tag later => ?_⟩
        obtain ⟨given, trimmed, unused⟩ := others tag later
        exact ⟨given, trimmed, fun used => unused (List.mem_cons_of_mem _ used)⟩

theorem newTags_fresh (links : List ParsedLink) :
    (newTags platform subscriptionID links existing tagPrefix).Nodup ∧
      ∀ tag ∈ newTags platform subscriptionID links existing tagPrefix,
        tag ≠ "" ∧ tag ∉ existing.map Outbound.tag := by
  obtain ⟨apart, each⟩ := @newNodesAmong_tags platform subscriptionID existing tagPrefix
    ((existing.map Outbound.tag).filter fun tag => trimSpace tag != "") links.zipIdx
  refine ⟨apart, fun tag member => ?_⟩
  obtain ⟨given, trimmed, unused⟩ := each tag member
  refine ⟨given, fun listed => unused (List.mem_filter.mpr ⟨listed, ?_⟩)⟩
  rw [trimmed]
  exact bne_iff_ne.mpr given

/-! The write of these nodes does not fail over a tag. -/

theorem require_ne_error {condition : Bool} {error other : String} (different : error ≠ other) :
    require condition error ≠ .error other := by
  unfold require
  split
  · nofun
  · exact fun same => different (Except.error.inj same)

theorem expect_ne_error {α : Type} {value : Option α} {error other : String} (different : error ≠ other) :
    expect value error ≠ .error other := by
  unfold expect
  split
  · nofun
  · exact fun same => different (Except.error.inj same)

theorem bind_ne_error {α β : Type} {first : Except String α} {rest : α → Except String β} {error : String}
    (starts : first ≠ .error error) (goes : ∀ value, first = .ok value → rest value ≠ .error error) :
    (first >>= rest) ≠ .error error := by
  cases first with
  | error other => exact fun same => starts (congrArg Except.error (Except.error.inj same))
  | ok value => exact goes value rfl

theorem ne_of_starts {text : String} (starts : text.toList.head? = some 'o') :
    text ≠ uniqueConstraintFailed "outbounds.tag" := by
  intro same
  rw [same] at starts
  exact absurd starts (by decide)

theorem validateOutboundProfile_ne_error (outbound : Outbound) :
    validateOutboundProfile outbound ≠ .error (uniqueConstraintFailed "outbounds.tag") := by
  unfold validateOutboundProfile
  dsimp only
  refine bind_ne_error ?_ fun _ _ => ?_
  · unfold onlyIf
    split
    · rename_i needed
      have listed : normalizeOutboundProtocol outbound.protocol ∈ ["socks", "http", "https", "vless", "trojan",
          "shadowsocks", "hysteria2", "tuic", "shadowtls"] := List.contains_iff_mem.mp needed
      have texts : ∀ protocol ∈ ["socks", "http", "https", "vless", "trojan", "shadowsocks", "hysteria2", "tuic",
          "shadowtls"], s!"{protocol} outbound requires address" ≠ uniqueConstraintFailed "outbounds.tag" ∧
            s!"{protocol} outbound requires valid port" ≠ uniqueConstraintFailed "outbounds.tag" := by decide
      obtain ⟨address, port⟩ := texts _ listed
      exact bind_ne_error (require_ne_error address) fun _ _ => require_ne_error port
    · nofun
  · have texts : ∀ text ∈ ["vless outbound requires valid uuid in username", "trojan outbound requires password",
        "shadowsocks outbound requires method in username", "shadowsocks outbound requires password",
        "hysteria2 outbound requires password", "tuic outbound requires valid uuid in username",
        "tuic outbound requires password", "shadowtls outbound requires password"],
        text ≠ uniqueConstraintFailed "outbounds.tag" := by decide
    unfold validateOutboundCredentials
    split_ifs
    · exact require_ne_error (texts _ (by simp))
    · exact require_ne_error (texts _ (by simp))
    · exact bind_ne_error (require_ne_error (texts _ (by simp))) fun _ _ => require_ne_error (texts _ (by simp))
    · exact require_ne_error (texts _ (by simp))
    · exact bind_ne_error (require_ne_error (texts _ (by simp))) fun _ _ => require_ne_error (texts _ (by simp))
    · exact require_ne_error (texts _ (by simp))
    · nofun

/-- A node fails over its tag only if it has no row and its tag is taken. -/
theorem materializeNode_ne_error {node : MaterializedSubscriptionOutbound} {done : Store × List Int}
    (sound : TagsSound done.1.outbounds)
    (free : existingNodeRow subscriptionID node done.1 = none → outboundTagTaken (trimSpace node.tag) done.1 = false) :
    materializeNode now subscriptionID done node ≠ .error (uniqueConstraintFailed "outbounds.tag") := by
  by_cases valid : validateOutboundProfile node.asOutbound = .ok ()
  · by_cases given : nodeIdentity node = ""
    · have refused : (trimSpace node.subscriptionIdentity != "") = false := by
        rw [show trimSpace node.subscriptionIdentity = "" from given]
        rfl
      simp only [materializeNode, valid, ok_bind, refused]
      exact bind_ne_error (require_ne_error (by decide)) fun _ never => by cases never
    · obtain ⟨next, turned⟩ := @materializeNode_succeeds now subscriptionID node done sound valid given free
      rw [turned]
      intro same
      cases same
  · exact bind_ne_error (validateOutboundProfile_ne_error _) fun _ accepted => absurd accepted valid

theorem materializeLinks_ne_error {links : List (ParsedLink × Nat)} {usedTags : List String} {start : Store × List Int}
    (tracks : Tracks subscriptionID existing usedTags start.1) :
    (materializeLinks platform subscriptionID existing tagPrefix usedTags links).foldlM
      (materializeNode now subscriptionID) start ≠ .error (uniqueConstraintFailed "outbounds.tag") := by
  induction links generalizing usedTags start with
  | nil => nofun
  | cons pair rest ih =>
      rw [materializeLinks, List.foldlM_cons]
      exact bind_ne_error (materializeNode_ne_error tracks.sound tracks.free) fun _ turned => ih (tracks.step turned)

theorem materialize_ne_error (sound : TagsSound store.outbounds) (links : List ParsedLink)
    (identities : Option (List String)) :
    materializeSubscriptionOutbounds now subscriptionID
      (materialize platform subscriptionID links (listOutbounds store) tagPrefix).1 identities store ≠
        .error (uniqueConstraintFailed "outbounds.tag") := by
  have missing : s!"outbound subscription not found: {subscriptionID}" ≠ uniqueConstraintFailed "outbounds.tag" :=
    ne_of_starts (by simp [toString])
  have disabled : s!"outbound subscription disabled: {subscriptionID}" ≠ uniqueConstraintFailed "outbounds.tag" :=
    ne_of_starts (by simp [toString])
  unfold materializeSubscriptionOutbounds
  refine bind_ne_error (expect_ne_error missing) fun subscription _ => ?_
  refine bind_ne_error (require_ne_error disabled) fun _ _ => ?_
  refine bind_ne_error (materializeLinks_ne_error (Tracks.listed sound)) fun _ _ => ?_
  nofun

/-- The search for a tag ends, the tags it makes in a pass are fresh, and so the write of the nodes
never fails over a tag. -/
theorem tags_end_fresh :
    (∀ base used, ∃ last ≤ used.length + 3, TagLoop (orElse (trimSpace base) "sub-node") used
      (orElse (trimSpace base) "sub-node") 2 (uniqueTag base used) last) ∧
    (∀ platform subscriptionID links existing tagPrefix,
      (newTags platform subscriptionID links existing tagPrefix).Nodup ∧
        ∀ tag ∈ newTags platform subscriptionID links existing tagPrefix,
          tag ≠ "" ∧ tag ∉ existing.map Outbound.tag) ∧
    ∀ platform store, Reach (Steps (eventStep platform)) Store.initial store →
      ∀ now subscriptionID links tagPrefix identities,
        materializeSubscriptionOutbounds now subscriptionID
          (materialize platform subscriptionID links (listOutbounds store) tagPrefix).1 identities store ≠
            .error (uniqueConstraintFailed "outbounds.tag") :=
  ⟨uniqueTag_loop, fun _ _ links _ _ => newTags_fresh links,
    fun _ _ reached _ _ links _ identities => materialize_ne_error (events_tags reached) links identities⟩

end MiGate.Subscription
