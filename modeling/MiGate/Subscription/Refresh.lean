import MiGate.Subscription.Success

namespace MiGate.Subscription

open Go Db Fallible Relational

variable {platform : Platform} {now : String} {subscriptionID : Int} {existing : List Outbound}
  {tagPrefix : String} {store after : Store} {link : ParsedLink}

/-! The nodes `Materialize` makes of links, and the outbounds the store makes of these. -/

/-- What the row of a link holds. -/
def linkServer (platform : Platform) (link : ParsedLink) : Server :=
  ⟨trimSpace (linkIdentity platform link), trimSpace (firstNonEmpty [link.remark, link.address]),
    normalizeOutboundProtocol link.protocol, trimSpace link.address, link.port, trimSpace link.username,
    link.password, link.rawLink, trimSpace link.settingsJSON⟩

/-- The rows that links take over; a link may find none. -/
def claimedIDs (platform : Platform) (subscriptionID : Int) (existing : List Outbound) (links : List ParsedLink) :
    List Int :=
  links.zipIdx.filterMap fun (link, i) =>
    (claimedRow subscriptionID existing (linkIdentity platform link) i).map Outbound.id

/-- No two links are the same server, and none takes over the row of another. -/
structure ClaimsApart (platform : Platform) (subscriptionID : Int) (existing : List Outbound)
    (links : List ParsedLink) : Prop where
  identities : (links.map (linkIdentity platform)).Nodup
  rows : (claimedIDs platform subscriptionID existing links).Nodup

theorem parseURLLink_protocol {raw protocol : String} {link : ParsedLink}
    (parsed : parseURLLink platform raw protocol = .ok link) : link.protocol = protocol := by
  simp only [parseURLLink, bind_eq_ok, pure_eq_ok] at parsed
  obtain ⟨_, _, _, _, rfl⟩ := parsed
  rfl

theorem parseSSLink_protocol {raw : String} {link : ParsedLink} (parsed : parseSSLink platform raw = .ok link) :
    link.protocol = "shadowsocks" := by
  simp only [parseSSLink, bind_eq_ok] at parsed
  obtain ⟨url, _, _, _, rest⟩ := parsed
  split at rest
  · cases rest
  · simp only [bind_eq_ok, pure_eq_ok] at rest
    obtain ⟨_, _, rfl⟩ := rest
    rfl

theorem parseLink_protocol {raw : String} {link : ParsedLink} (parsed : parseLink platform raw = .ok link) :
    link.protocol ∈ ["vless", "trojan", "shadowsocks"] := by
  unfold parseLink at parsed
  dsimp only at parsed
  split at parsed
  · cases parsed
  split at parsed
  · rw [parseURLLink_protocol parsed]
    exact List.mem_cons_self
  split at parsed
  · rw [parseURLLink_protocol parsed]
    exact List.mem_cons_of_mem _ List.mem_cons_self
  split at parsed
  · rw [parseSSLink_protocol parsed]
    exact List.mem_cons_of_mem _ (List.mem_cons_of_mem _ List.mem_cons_self)
  split at parsed <;> cases parsed

theorem plain_of_parsed {raw : String} (parsed : parseLink platform raw = .ok link) :
    plainProtocol (linkServer platform link).protocol := by
  have plain : ∀ protocol ∈ ["vless", "trojan", "shadowsocks"],
      normalizeOutboundProtocol protocol ≠ "freedom" ∧ normalizeOutboundProtocol protocol ≠ "blackhole" ∧
        normalizeOutboundProtocol protocol ≠ "dns" := by with_unfolding_all decide
  exact plain _ (parseLink_protocol parsed)

theorem trimSpace_linkIdentity : trimSpace (linkIdentity platform link) = linkIdentity platform link := by
  unfold linkIdentity orElse
  split
  · exact (spaceless_encodeHex _).trimSpace
  · exact trimSpace_trimSpace _

theorem digest_given (sized : ∀ text, (platform.sha256 text).length = 32) (text : String) :
    platform.sha256 text ≠ [] := by
  intro empty
  have size := sized text
  rw [empty] at size
  cases size

theorem linkIdentity_given (digest : ∀ text, platform.sha256 text ≠ []) : linkIdentity platform link ≠ "" := by
  unfold linkIdentity orElse
  split
  · exact encodeHex_ne_empty (digest _)
  · assumption

/-- What the nodes are made of does not depend on the tags that are used. -/
theorem map_materializeLinks {α : Type} {f : MaterializedSubscriptionOutbound → α} (g : ParsedLink × Nat → α)
    (same : ∀ usedTags link i,
      f (materializeLink platform subscriptionID existing tagPrefix usedTags link i) = g (link, i))
    (usedTags : List String) (links : List (ParsedLink × Nat)) :
    (materializeLinks platform subscriptionID existing tagPrefix usedTags links).map f = links.map g := by
  induction links generalizing usedTags with
  | nil => rfl
  | cons pair rest ih =>
      rw [materializeLinks, List.map_cons, List.map_cons, ih, same]

/-- The nodes of a list of links. -/
def linkNodes (platform : Platform) (subscriptionID : Int) (links : List ParsedLink) (existing : List Outbound)
    (tagPrefix : String) : List MaterializedSubscriptionOutbound :=
  (materialize platform subscriptionID links existing tagPrefix).1

variable {links : List ParsedLink}

theorem linkNodes_servers : (linkNodes platform subscriptionID links existing tagPrefix).map nodeServer =
    links.map (linkServer platform) := by
  refine (map_materializeLinks (linkServer platform ∘ Prod.fst) (fun _ _ _ => rfl) _ _).trans ?_
  rw [← List.map_map, List.zipIdx_map_fst]

theorem linkNodes_identities : (linkNodes platform subscriptionID links existing tagPrefix).map nodeIdentity =
    links.map (linkIdentity platform) := by
  refine (map_materializeLinks (linkIdentity platform ∘ Prod.fst) (fun _ _ _ => trimSpace_linkIdentity) _ _).trans ?_
  rw [← List.map_map, List.zipIdx_map_fst]

theorem linkNodes_positions : ((linkNodes platform subscriptionID links existing tagPrefix).map
    MaterializedSubscriptionOutbound.position).Pairwise (· < ·) := by
  have positions : (linkNodes platform subscriptionID links existing tagPrefix).map
      MaterializedSubscriptionOutbound.position = (links.zipIdx.map Prod.snd).map Nat.cast := by
    rw [List.map_map]
    exact map_materializeLinks _ (fun _ _ _ => rfl) _ _
  rw [positions, List.zipIdx_map_snd, List.pairwise_map]
  exact (List.pairwise_lt_range' 1).imp fun less => Int.ofNat_lt.mpr less

/-- The number of a claimed row is positive; a node without one has none. -/
theorem filter_positive {α : Type} {items : List α} {number : α → Option Int}
    (positive : ∀ item ∈ items, ∀ found, number item = some found → 0 < found) :
    (items.map fun item => (number item).getD 0).filter (fun id => 0 < id) = items.filterMap number := by
  induction items with
  | nil => rfl
  | cons item rest ih =>
      have others := ih fun later member => positive later (List.mem_cons_of_mem _ member)
      rw [List.map_cons]
      cases numbered : number item with
      | none => rw [List.filterMap_cons_none numbered, Option.getD_none, List.filter_cons_of_neg (by simp), others]
      | some found =>
          have above := positive item List.mem_cons_self found numbered
          rw [List.filterMap_cons_some numbered, Option.getD_some, List.filter_cons_of_pos (by simpa using above), others]

theorem linkNodes_named (positive : ∀ row ∈ existing, 0 < row.id) :
    namedIDs (linkNodes platform subscriptionID links existing tagPrefix) =
      claimedIDs platform subscriptionID existing links := by
  have ids : (linkNodes platform subscriptionID links existing tagPrefix).map MaterializedSubscriptionOutbound.id =
      links.zipIdx.map fun (link, i) =>
        ((claimedRow subscriptionID existing (linkIdentity platform link) i).map Outbound.id).getD 0 :=
    map_materializeLinks _ (fun _ _ _ => rfl) _ _
  rw [namedIDs, ids]
  refine filter_positive fun pair _ found numbered => ?_
  obtain ⟨row, claimed, rfl⟩ := Option.map_eq_some_iff.mp numbered
  exact positive row (claimedRow_mem claimed).1

theorem linkNodes_length : (linkNodes platform subscriptionID links existing tagPrefix).length = links.length := by
  rw [← List.length_map nodeServer, linkNodes_servers, List.length_map]

/-- A node is that of one of the links. -/
theorem mem_materializeLinks {usedTags : List String} {links : List (ParsedLink × Nat)}
    {node : MaterializedSubscriptionOutbound}
    (member : node ∈ materializeLinks platform subscriptionID existing tagPrefix usedTags links) :
    ∃ usedTags, ∃ pair ∈ links,
      node = materializeLink platform subscriptionID existing tagPrefix usedTags pair.1 pair.2 := by
  induction links generalizing usedTags with
  | nil => cases member
  | cons pair rest ih =>
      rcases List.mem_cons.mp member with first | later
      · exact ⟨usedTags, pair, List.mem_cons_self, first⟩
      · obtain ⟨tags, other, inside, same⟩ := ih later
        exact ⟨tags, other, List.mem_cons_of_mem _ inside, same⟩

/-! Links and the store: what is listed is what is stored. -/

theorem listOutbounds_positive : ∀ row ∈ listOutbounds store, 0 < row.id := by
  intro row member
  obtain ⟨stored, inside, rfl⟩ := mem_listOutbounds.mp member
  exact store.outbounds.positive stored inside

theorem stored_of_claimed {identity : String} {i : Nat} {row : Outbound}
    (claimed : claimedRow subscriptionID (listOutbounds store) identity i = some row) :
    ∃ stored ∈ store.outbounds.rows, stored.id = row.id ∧ isSubscriptionOutbound subscriptionID stored = true := by
  obtain ⟨listed, mine⟩ := claimedRow_mem claimed
  obtain ⟨stored, inside, rfl⟩ := mem_listOutbounds.mp listed
  exact ⟨stored, inside, rfl, (isSubscriptionOutbound_loadOutbound stored).symm.trans mine⟩

/-- An identity under which no row is found is not stored. -/
theorem unstored_of_unclaimed {identity : String} {i : Nat} (given : trimSpace identity ≠ "")
    (unclaimed : claimedRow subscriptionID (listOutbounds store) identity i = none) {row : Outbound}
    (stored : row ∈ store.outbounds.rows) (mine : isSubscriptionOutbound subscriptionID row = true) :
    row.subscriptionIdentity ≠ identity := by
  intro same
  have missed : rowByIdentity subscriptionID (listOutbounds store) identity = none := by
    unfold claimedRow at unclaimed
    split at unclaimed
    · cases unclaimed
    · assumption
  have listed : loadOutbound row ∈ (listOutbounds store).filter (isSubscriptionOutbound subscriptionID) :=
    List.mem_filter.mpr ⟨mem_listOutbounds.mpr ⟨row, stored, rfl⟩,
      (isSubscriptionOutbound_loadOutbound row).trans mine⟩
  have identified : (trimSpace (loadOutbound row).subscriptionIdentity != "") = true := by
    rw [show (loadOutbound row).subscriptionIdentity = identity from same]
    exact bne_iff_ne.mpr given
  have kept : loadOutbound row ∈ ((listOutbounds store).filter (isSubscriptionOutbound subscriptionID)).filter
      fun row => trimSpace row.subscriptionIdentity != "" := List.mem_filter.mpr ⟨listed, identified⟩
  have written := List.mem_map_of_mem (f := fun row : Outbound => (row.subscriptionIdentity, row)) kept
  have unwritten := List.lookup_eq_none_iff.mp missed _ (List.mem_reverse.mpr written)
  exact bne_iff_ne.mp unwritten same.symm

theorem linkNodes_claiming (digest : ∀ text, platform.sha256 text ≠ [])
    (distinct : (links.map (linkIdentity platform)).Nodup) :
    Claiming subscriptionID (linkNodes platform subscriptionID links (listOutbounds store) tagPrefix)
      store.outbounds where
  named := by
    intro node member positive
    obtain ⟨_, ⟨link, i⟩, _, rfl⟩ := mem_materializeLinks member
    cases claimed : claimedRow subscriptionID (listOutbounds store) (linkIdentity platform link) i with
    | none => simp [materializeLink, claimed] at positive
    | some row =>
        obtain ⟨stored, inside, named, mine⟩ := stored_of_claimed claimed
        exact ⟨stored, inside, by simpa [materializeLink, claimed] using named, mine⟩
  unnamed := by
    intro node member notPositive
    obtain ⟨_, ⟨link, i⟩, _, rfl⟩ := mem_materializeLinks member
    have given : trimSpace (linkIdentity platform link) ≠ "" := by
      rw [trimSpace_linkIdentity]
      exact linkIdentity_given digest
    cases claimed : claimedRow subscriptionID (listOutbounds store) (linkIdentity platform link) i with
    | none =>
        refine ⟨by simp [materializeLink, claimed], fun row stored mine => ?_⟩
        have other := unstored_of_unclaimed given claimed stored mine
        exact fun same => other (same.trans trimSpace_linkIdentity)
    | some row =>
        have above := listOutbounds_positive row (claimedRow_mem claimed).1
        simp [materializeLink, claimed] at notPositive
        omega
  distinct := by
    rw [linkNodes_identities]
    exact distinct

/-! When the store accepts the nodes of a list of links, and what it then holds. -/

theorem materializeLinks_valid {usedTags : List String} {links : List (ParsedLink × Nat)}
    {start written : Store × List Int}
    (looped : (materializeLinks platform subscriptionID existing tagPrefix usedTags links).foldlM
      (materializeNode now subscriptionID) start = .ok written) :
    ∀ pair ∈ links, storeAccepts pair.1 = true := by
  induction links generalizing usedTags start with
  | nil => exact fun _ member => absurd member List.not_mem_nil
  | cons first rest ih =>
      rw [materializeLinks, List.foldlM_cons, bind_eq_ok] at looped
      obtain ⟨next, turned, others⟩ := looped
      intro pair member
      rcases List.mem_cons.mp member with rfl | later
      · exact storeAccepts_iff.mpr (materializeNode_valid turned).1
      · exact ih others pair later

/-- The links of a subscription that is there are taken in just when the store accepts each. -/
theorem materialize_isOk_iff (digest : ∀ text, platform.sha256 text ≠ []) (sound : TagsSound store.outbounds)
    {subscription : OutboundSubscription} (found : findLiveSubscription store subscriptionID = some subscription)
    (enabled : subscription.enabled = true) {identities : Option (List String)} :
    (∃ result, materializeSubscriptionOutbounds now subscriptionID
        (linkNodes platform subscriptionID links (listOutbounds store) tagPrefix) identities store = .ok result) ↔
      ∀ link ∈ links, storeAccepts link = true := by
  constructor
  · rintro ⟨⟨after, outbounds⟩, done⟩ link member
    obtain ⟨_, _, _, reconciled⟩ := materializeSubscriptionOutbounds_reconciled done
    have inside : ∃ pair ∈ links.zipIdx, pair.1 = link := by
      rw [← List.mem_map, List.zipIdx_map_fst]
      exact member
    obtain ⟨pair, zipped, rfl⟩ := inside
    exact materializeLinks_valid reconciled.looped pair zipped
  · intro valid
    have looped : ∃ written, (linkNodes platform subscriptionID links (listOutbounds store) tagPrefix).foldlM
        (materializeNode now subscriptionID) (store, []) = .ok written := by
      refine materializeLinks_succeeds (Tracks.listed sound) ?_ ?_
      · exact fun pair member => valid pair.1 (List.fst_mem_of_mem_zipIdx member)
      · intro link
        rw [trimSpace_linkIdentity]
        exact linkIdentity_given digest
    obtain ⟨written, looped⟩ := looped
    simp only [materializeSubscriptionOutbounds, expect, found, require, looped, bind, Except.bind, enabled, if_true]
    exact ⟨_, rfl⟩

/-- Each outbound of the subscription then holds one of the links. -/
theorem materialize_holds {identities : Option (List String)} {outbounds : List Outbound}
    (done : materializeSubscriptionOutbounds now subscriptionID
      (linkNodes platform subscriptionID links existing tagPrefix) identities store = .ok (after, outbounds))
    {row : Outbound} (member : row ∈ subscriptionOutbounds subscriptionID after) :
    ∃ link ∈ links, server row = linkServer platform link := by
  obtain ⟨written, kept, targets, reconciled⟩ := materializeSubscriptionOutbounds_reconciled done
  rw [reconciled.ranked_mine] at member
  obtain ⟨old, inside, rfl⟩ := List.mem_map.mp member
  obtain ⟨stored, mine⟩ := List.mem_filter.mp inside
  obtain ⟨oldWritten, target⟩ := reconciled.mem_iff.mp ⟨mem_ranked.mp stored, mine⟩
  rw [← List.map_fst_zip reconciled.length.le, ← lastWrite_isSome] at target
  obtain ⟨node, last⟩ := target
  have holds := (reconciled.writes.written old oldWritten node last).server
  have listed : nodeServer node ∈ links.map (linkServer platform) := by
    rw [← linkNodes_servers]
    exact List.mem_map_of_mem (List.of_mem_zip (mem_of_lastWrite last)).2
  obtain ⟨link, linkInside, same⟩ := List.mem_map.mp listed
  exact ⟨link, linkInside, holds.trans same.symm⟩

/-- Where no link takes the row of another, the outbounds are the links, in order. -/
theorem materialize_servers (digest : ∀ text, platform.sha256 text ≠ []) (sound : TagsSound store.outbounds)
    {identities : Option (List String)} {outbounds : List Outbound}
    (done : materializeSubscriptionOutbounds now subscriptionID
      (linkNodes platform subscriptionID links (listOutbounds store) tagPrefix) identities store =
        .ok (after, outbounds))
    (plain : ∀ link ∈ links, plainProtocol (linkServer platform link).protocol)
    (apart : ClaimsApart platform subscriptionID (listOutbounds store) links) :
    (subscriptionOutbounds subscriptionID after).map server = links.map (linkServer platform) := by
  obtain ⟨written, kept, targets, reconciled⟩ := materializeSubscriptionOutbounds_reconciled done
  have claiming : Claiming subscriptionID (linkNodes platform subscriptionID links (listOutbounds store) tagPrefix)
      store.outbounds := linkNodes_claiming digest apart.identities
  obtain ⟨_, _, nodup⟩ := targets_spec claiming sound reconciled.looped rfl
  rw [linkNodes_named listOutbounds_positive] at nodup
  rw [← linkNodes_servers]
  refine reconciled.servers_eq linkNodes_positions ?_ (nodup apart.rows)
  intro node member
  have listed : nodeServer node ∈ links.map (linkServer platform) := by
    rw [← linkNodes_servers]
    exact List.mem_map_of_mem member
  obtain ⟨link, inside, same⟩ := List.mem_map.mp listed
  rw [← same]
  exact plain link inside

end MiGate.Subscription
