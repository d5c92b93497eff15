import MiGate.Config.DefaultRoute
import MiGate.Subscription.Refresh

namespace MiGate.Subscription

open Go Db Fallible Relational Transition

variable {platform : Platform} {now : String} {subscriptionID : Int} {tagPrefix : String} {store after : Store}
  {links : List ParsedLink}

/-! Which row a server keeps over a refresh. -/

/-- The outbounds are the links, in order, and a server that was there before keeps its row. -/
structure KeepsIdentity (platform : Platform) (subscriptionID : Int) (links : List ParsedLink)
    (store after : Store) : Prop where
  servers : (subscriptionOutbounds subscriptionID after).map server = links.map (linkServer platform)
  kept : ∀ row ∈ subscriptionOutbounds subscriptionID store, ∀ link ∈ links,
    row.subscriptionIdentity = linkIdentity platform link →
      ∃ left ∈ subscriptionOutbounds subscriptionID after,
        left.id = row.id ∧ left.tag = row.tag ∧ server left = linkServer platform link

/-- The links have at most one row each under their identity, and no link that has none stands in
the place of a row another link has. -/
structure NoRowTaken (platform : Platform) (subscriptionID : Int) (links : List ParsedLink)
    (existing : List Outbound) : Prop where
  unique : ∀ left ∈ subscriptionRows subscriptionID existing, ∀ right ∈ subscriptionRows subscriptionID existing,
    left.subscriptionIdentity ∈ links.map (linkIdentity platform) →
      left.subscriptionIdentity = right.subscriptionIdentity → left.id = right.id
  placed : ∀ pair ∈ links.zip (subscriptionRows subscriptionID existing),
    pair.2.subscriptionIdentity ∈ links.map (linkIdentity platform) →
      linkIdentity platform pair.1 ∈ (subscriptionRows subscriptionID existing).map Outbound.subscriptionIdentity

theorem mem_subscriptionRows {existing : List Outbound} {row : Outbound} :
    row ∈ subscriptionRows subscriptionID existing ↔
      row ∈ existing ∧ isSubscriptionOutbound subscriptionID row = true := by
  rw [subscriptionRows, List.mem_insertionSort, List.mem_filter]

theorem rowByIdentity_mem {existing : List Outbound} {identity : String} {row : Outbound}
    (found : rowByIdentity subscriptionID existing identity = some row) :
    row ∈ subscriptionRows subscriptionID existing ∧ row.subscriptionIdentity = identity := by
  obtain ⟨other, inside, same⟩ := List.mem_map.mp (mem_of_lastWrite found)
  have sameRow : other = row := congrArg Prod.snd same
  have named : other.subscriptionIdentity = identity := congrArg Prod.fst same
  rw [← sameRow, mem_subscriptionRows, ← List.mem_filter]
  exact ⟨List.mem_of_mem_filter inside, named⟩

/-- An identity is found just when a row has it. -/
theorem rowByIdentity_isSome {existing : List Outbound} {identity : String} (given : trimSpace identity ≠ "") :
    (∃ row, rowByIdentity subscriptionID existing identity = some row) ↔
      identity ∈ (subscriptionRows subscriptionID existing).map Outbound.subscriptionIdentity := by
  rw [rowByIdentity, lastWrite_isSome, List.map_map]
  constructor
  · intro member
    obtain ⟨row, inside, named⟩ := List.mem_map.mp member
    refine List.mem_map.mpr ⟨row, ?_, named⟩
    rw [mem_subscriptionRows, ← List.mem_filter]
    exact List.mem_of_mem_filter inside
  · intro member
    obtain ⟨row, inside, named⟩ := List.mem_map.mp member
    refine List.mem_map.mpr ⟨row, List.mem_filter.mpr ⟨?_, ?_⟩, named⟩
    · rwa [mem_subscriptionRows, ← List.mem_filter] at inside
    · rw [named]
      exact bne_iff_ne.mpr given

/-- A link whose identity is stored claims a row with it. -/
theorem claimedRow_stored {existing : List Outbound} {identity : String} {i : Nat} (given : trimSpace identity ≠ "")
    (stored : identity ∈ (subscriptionRows subscriptionID existing).map Outbound.subscriptionIdentity) :
    ∃ row ∈ subscriptionRows subscriptionID existing, row.subscriptionIdentity = identity ∧
      claimedRow subscriptionID existing identity i = some row := by
  obtain ⟨row, found⟩ := (rowByIdentity_isSome given).mpr stored
  obtain ⟨inside, named⟩ := rowByIdentity_mem found
  refine ⟨row, inside, named, ?_⟩
  rw [claimedRow, found]

theorem claimedRow_unstored {existing : List Outbound} {identity : String} {i : Nat} (given : trimSpace identity ≠ "")
    (unstored : identity ∉ (subscriptionRows subscriptionID existing).map Outbound.subscriptionIdentity) :
    claimedRow subscriptionID existing identity i = (subscriptionRows subscriptionID existing)[i]? := by
  cases found : rowByIdentity subscriptionID existing identity with
  | none => rw [claimedRow, found]
  | some row => exact absurd ((rowByIdentity_isSome given).mp ⟨row, found⟩) unstored

/-- No row is claimed twice: links whose rows have one number stand in one place. -/
theorem claimedIDs_nodup_iff {existing : List Outbound} :
    (claimedIDs platform subscriptionID existing links).Nodup ↔
      ∀ i j (first : i < links.length) (second : j < links.length) left right,
        claimedRow subscriptionID existing (linkIdentity platform links[i]) i = some left →
        claimedRow subscriptionID existing (linkIdentity platform links[j]) j = some right →
        left.id = right.id → i = j := by
  rw [List.Nodup, claimedIDs, List.pairwise_filterMap, List.pairwise_iff_getElem]
  simp only [List.length_zipIdx, List.getElem_zipIdx, Nat.zero_add, Option.map_eq_some_iff]
  constructor
  · intro apart i j first second left right leftClaimed rightClaimed same
    rcases lt_trichotomy i j with less | equal | greater
    · exact absurd same (apart i j first second less left.id ⟨left, leftClaimed, rfl⟩ right.id ⟨right, rightClaimed, rfl⟩)
    · exact equal
    · exact absurd same.symm
        (apart j i second first greater right.id ⟨right, rightClaimed, rfl⟩ left.id ⟨left, leftClaimed, rfl⟩)
  · rintro only i j first second less _ ⟨left, leftClaimed, rfl⟩ _ ⟨right, rightClaimed, rfl⟩ same
    exact absurd (only i j first second left right leftClaimed rightClaimed same) (Nat.ne_of_lt less)

/-- A claimed row has the identity of the link, or stands in its place while no row has it. -/
theorem claimedRow_cases {existing : List Outbound} {identity : String} {i : Nat} {row : Outbound}
    (given : trimSpace identity ≠ "") (claimed : claimedRow subscriptionID existing identity i = some row) :
    row ∈ subscriptionRows subscriptionID existing ∧ row.subscriptionIdentity = identity ∨
      identity ∉ (subscriptionRows subscriptionID existing).map Outbound.subscriptionIdentity ∧
        (subscriptionRows subscriptionID existing)[i]? = some row := by
  by_cases stored : identity ∈ (subscriptionRows subscriptionID existing).map Outbound.subscriptionIdentity
  · obtain ⟨other, inside, named, found⟩ := claimedRow_stored (i := i) given stored
    rw [found, Option.some.injEq] at claimed
    rw [← claimed]
    exact .inl ⟨inside, named⟩
  · rw [claimedRow_unstored given stored] at claimed
    exact .inr ⟨stored, claimed⟩

theorem subscriptionRows_ids_nodup {existing : List Outbound} (numbered : (existing.map Outbound.id).Nodup) :
    ((subscriptionRows subscriptionID existing).map Outbound.id).Nodup := by
  have same := (List.perm_insertionSort sortBefore (existing.filter (isSubscriptionOutbound subscriptionID))).map
    Outbound.id
  exact same.nodup_iff.mpr (numbered.sublist (List.filter_sublist.map _))

/-- Where no row is taken, each link that claims one has it for itself. -/
theorem NoRowTaken.claimedIDs_nodup {existing : List Outbound}
    (given : ∀ link, trimSpace (linkIdentity platform link) ≠ "")
    (distinct : (links.map (linkIdentity platform)).Nodup) (numbered : (existing.map Outbound.id).Nodup)
    (free : NoRowTaken platform subscriptionID links existing) :
    (claimedIDs platform subscriptionID existing links).Nodup := by
  rw [claimedIDs_nodup_iff]
  intro i j first second left right leftClaimed rightClaimed sameID
  have rows := @subscriptionRows_ids_nodup subscriptionID existing numbered
  have listed : ∀ k (bound : k < links.length), linkIdentity platform links[k] ∈ links.map (linkIdentity platform) :=
    fun k bound => List.mem_map_of_mem (List.getElem_mem bound)
  have place : linkIdentity platform links[i] = linkIdentity platform links[j] → i = j := by
    intro equal
    have found : (links.map (linkIdentity platform))[i]? = (links.map (linkIdentity platform))[j]? := by
      rw [List.getElem?_map, List.getElem?_map, List.getElem?_eq_getElem first, List.getElem?_eq_getElem second,
        Option.map_some, Option.map_some, equal]
    exact (List.getElem?_inj (by rwa [List.length_map]) distinct).mp found
  rcases claimedRow_cases (given _) leftClaimed with ⟨leftInside, leftNamed⟩ | ⟨leftUnstored, leftPlace⟩ <;>
    rcases claimedRow_cases (given _) rightClaimed with ⟨rightInside, rightNamed⟩ | ⟨rightUnstored, rightPlace⟩
  · have same := List.inj_on_of_nodup_map rows leftInside rightInside sameID
    exact place (by rw [← leftNamed, ← rightNamed, same])
  · have same := List.inj_on_of_nodup_map rows leftInside (List.mem_of_getElem? rightPlace) sameID
    rw [← same] at rightPlace
    have stored := free.placed (links[j], left)
      (List.mem_of_getElem? (List.getElem?_zip_eq_some.mpr ⟨List.getElem?_eq_getElem second, rightPlace⟩))
    dsimp only at stored
    rw [leftNamed] at stored
    exact absurd (stored (listed i first)) rightUnstored
  · have same := List.inj_on_of_nodup_map rows (List.mem_of_getElem? leftPlace) rightInside sameID
    rw [same] at leftPlace
    have stored := free.placed (links[i], right)
      (List.mem_of_getElem? (List.getElem?_zip_eq_some.mpr ⟨List.getElem?_eq_getElem first, leftPlace⟩))
    dsimp only at stored
    rw [rightNamed] at stored
    exact absurd (stored (listed j second)) leftUnstored
  · have same := List.inj_on_of_nodup_map rows (List.mem_of_getElem? leftPlace) (List.mem_of_getElem? rightPlace) sameID
    obtain ⟨_, leftAt⟩ := List.getElem?_eq_some_iff.mp leftPlace
    obtain ⟨_, rightAt⟩ := List.getElem?_eq_some_iff.mp rightPlace
    exact (List.Nodup.of_map Outbound.id rows).getElem_inj_iff.mp ((leftAt.trans same).trans rightAt.symm)

/-- A link without a row of its identity that claims one in its place leaves no other link that row. -/
theorem placed_of_nodup {existing : List Outbound} (given : ∀ link, trimSpace (linkIdentity platform link) ≠ "")
    (unique : ∀ left ∈ subscriptionRows subscriptionID existing,
      ∀ right ∈ subscriptionRows subscriptionID existing,
        left.subscriptionIdentity ∈ links.map (linkIdentity platform) →
          left.subscriptionIdentity = right.subscriptionIdentity → left.id = right.id)
    (apart : (claimedIDs platform subscriptionID existing links).Nodup) {i : Nat} {link : ParsedLink} {row : Outbound}
    (here : links[i]? = some link) (place : (subscriptionRows subscriptionID existing)[i]? = some row)
    (wanted : row.subscriptionIdentity ∈ links.map (linkIdentity platform)) :
    linkIdentity platform link ∈ (subscriptionRows subscriptionID existing).map Outbound.subscriptionIdentity := by
  by_contra unstored
  obtain ⟨first, rfl⟩ := List.getElem?_eq_some_iff.mp here
  obtain ⟨j, second, named⟩ := List.mem_iff_getElem.mp wanted
  rw [List.length_map] at second
  rw [List.getElem_map] at named
  have inside := List.mem_of_getElem? place
  have stored : linkIdentity platform links[j] ∈
      (subscriptionRows subscriptionID existing).map Outbound.subscriptionIdentity := by
    rw [named]
    exact List.mem_map_of_mem inside
  obtain ⟨other, otherInside, otherNamed, otherClaimed⟩ := claimedRow_stored (i := j) (given _) stored
  have claimed := claimedRow_unstored (i := i) (given _) unstored
  have same := unique row inside other otherInside wanted (named.symm.trans otherNamed.symm)
  have equal := claimedIDs_nodup_iff.mp apart i j first second row other (claimed.trans place) otherClaimed same
  subst equal
  exact unstored stored

theorem listOutbounds_numbered : ((listOutbounds store).map Outbound.id).Nodup := by
  have ids : (listOutbounds store).map Outbound.id = (store.outbounds.rows.insertionSort sortBefore).map Outbound.id := by
    rw [listOutbounds, List.map_map]
    rfl
  rw [ids]
  exact ((List.perm_insertionSort _ _).map _).nodup_iff.mpr store.outbounds.ids_nodup

/-- A node that names a row is written to it. -/
theorem targets_named {nodes : List MaterializedSubscriptionOutbound} {start written : Store × List Int}
    (claiming : Claiming subscriptionID nodes start.1.outbounds) (sound : TagsSound start.1.outbounds)
    (looped : nodes.foldlM (materializeNode now subscriptionID) start = .ok written) {targets : List Int}
    (seen : written.2 = start.2 ++ targets) :
    ∀ pair ∈ targets.zip nodes, 0 < pair.2.id → pair.1 = pair.2.id := by
  induction nodes generalizing start targets with
  | nil =>
      intro pair member
      rw [List.zip_nil_right] at member
      cases member
  | cons node rest ih =>
      rw [List.foldlM_cons, bind_eq_ok] at looped
      obtain ⟨next, first, others⟩ := looped
      obtain ⟨firstSeen, _⟩ := materializeNode_writes first
      obtain ⟨laterTargets, laterSeen, _, _⟩ := materializeNodes_writes others
      have split : targets = nodeTarget subscriptionID node start.1 :: laterTargets := by
        rw [laterSeen, firstSeen, List.append_assoc, List.singleton_append] at seen
        exact (List.append_cancel_left seen).symm
      intro pair member positive
      rw [split, List.zip_cons_cons] at member
      rcases List.mem_cons.mp member with rfl | later
      · exact (claiming.target_named positive).1
      · exact ih (claiming.tail sound first) (materializeNode_tags sound first) others laterSeen pair later positive

/-- The node of a link that claims a row names it. -/
theorem linkNodes_claiming_node {existing : List Outbound} {i : Nat} {link : ParsedLink} {row : Outbound}
    (here : links[i]? = some link)
    (claimed : claimedRow subscriptionID existing (linkIdentity platform link) i = some row) :
    ∃ node, (linkNodes platform subscriptionID links existing tagPrefix)[i]? = some node ∧ node.id = row.id ∧
      nodeServer node = linkServer platform link := by
  have made : (linkNodes platform subscriptionID links existing tagPrefix).map
        (fun node => (node.id, nodeServer node)) =
      links.zipIdx.map fun pair =>
        (((claimedRow subscriptionID existing (linkIdentity platform pair.1) pair.2).map Outbound.id).getD 0,
          linkServer platform pair.1) := map_materializeLinks _ (fun _ _ _ => rfl) _ _
  have both := congrArg (fun items => items[i]?) made
  simp only [List.getElem?_map, List.getElem?_zipIdx, here, Option.map_some, Nat.zero_add, claimed,
    Option.getD_some] at both
  obtain ⟨node, found, same⟩ := Option.map_eq_some_iff.mp both
  rw [Prod.mk.injEq] at same
  exact ⟨node, found, same.1, same.2⟩

/-- A row that a link claims, and no other, stays and holds the link. -/
theorem Reconciled.claimed_kept {written kept : Store} {targets : List Int}
    (reconciled : Reconciled now subscriptionID (linkNodes platform subscriptionID links (listOutbounds store)
      tagPrefix) store after written kept targets)
    (claiming : Claiming subscriptionID (linkNodes platform subscriptionID links (listOutbounds store) tagPrefix)
      store.outbounds) (sound : TagsSound store.outbounds) (apart : targets.Nodup) {i : Nat} {link : ParsedLink}
    {row : Outbound} (here : links[i]? = some link)
    (claimed : claimedRow subscriptionID (listOutbounds store) (linkIdentity platform link) i = some row) :
    ∃ left ∈ subscriptionOutbounds subscriptionID after,
      left.id = row.id ∧ left.tag = row.tag ∧ server left = linkServer platform link := by
  obtain ⟨node, found, named, holds⟩ := @linkNodes_claiming_node platform subscriptionID tagPrefix links _ i link _
    here claimed
  obtain ⟨old, oldStored, rfl⟩ := mem_listOutbounds.mp (claimedRow_mem claimed).1
  obtain ⟨bound, nodeAt⟩ := List.getElem?_eq_some_iff.mp found
  have targetBound : i < targets.length := by rwa [reconciled.length]
  have zipped : (targets[i], node) ∈ targets.zip (linkNodes platform subscriptionID links (listOutbounds store)
      tagPrefix) := by
    refine List.mem_iff_getElem.mpr ⟨i, by rw [List.length_zip]; omega, ?_⟩
    rw [List.getElem_zip, nodeAt]
  have positive : 0 < node.id := by
    rw [named]
    exact store.outbounds.positive old oldStored
  have target : targets[i] = old.id := (targets_named claiming sound reconciled.looped rfl _ zipped positive).trans named
  obtain ⟨left, leftStored, leftID, leftTag, _⟩ := materializeNodes_keeps sound reconciled.looped oldStored
  have last : lastWrite (targets.zip (linkNodes platform subscriptionID links (listOutbounds store) tagPrefix))
      left.id = some node := by
    rw [leftID, ← target]
    refine lastWrite_eq zipped fun other member => ?_
    have numbers : ((targets.zip (linkNodes platform subscriptionID links (listOutbounds store) tagPrefix)).map
        Prod.fst).Nodup := by rwa [List.map_fst_zip reconciled.length.le]
    exact congrArg Prod.snd (List.inj_on_of_nodup_map numbers member zipped rfl)
  have carries := reconciled.writes.written left leftStored node last
  have claimedID : left.id ∈ targets := by
    rw [leftID, ← target]
    exact List.getElem_mem targetBound
  obtain ⟨keptStored, mine⟩ := reconciled.mem_iff.mpr ⟨leftStored, claimedID⟩
  refine ⟨loadOutbound (renumber kept left), ?_, leftID, leftTag, carries.server.trans holds⟩
  rw [reconciled.ranked_mine]
  exact List.mem_map_of_mem (List.mem_filter.mpr ⟨mem_ranked.mpr keptStored, mine⟩)

theorem mem_subscriptionOutbounds {row : Outbound} :
    row ∈ subscriptionOutbounds subscriptionID store ↔ row ∈ subscriptionRows subscriptionID (listOutbounds store) := by
  rw [subscriptionOutbounds, mem_subscriptionRows, List.mem_filter]

/-- Where the links have the outbounds in order, an outbound is known by its identity. -/
theorem KeepsIdentity.unique (keeps : KeepsIdentity platform subscriptionID links store after)
    (distinct : (links.map (linkIdentity platform)).Nodup) {left right : Outbound}
    (leftListed : left ∈ subscriptionOutbounds subscriptionID after)
    (rightListed : right ∈ subscriptionOutbounds subscriptionID after)
    (same : left.subscriptionIdentity = right.subscriptionIdentity) : left = right := by
  have identities : (subscriptionOutbounds subscriptionID after).map Outbound.subscriptionIdentity =
      links.map (linkIdentity platform) := by
    have servers := congrArg (List.map Server.identity) keeps.servers
    rw [List.map_map, List.map_map] at servers
    refine servers.trans (List.map_congr_left fun link _ => ?_)
    exact trimSpace_linkIdentity
  rw [← identities] at distinct
  exact List.inj_on_of_nodup_map distinct leftListed rightListed same

/-- A refresh keeps the servers' rows just when no link takes the row of another. -/
theorem refresh_keeps_identity_iff (sized : ∀ text, (platform.sha256 text).length = 32)
    (reached : Reach (Steps (eventStep platform)) Store.initial store)
    (fetched : ∀ link ∈ links, ∃ raw, parseLink platform raw = .ok link)
    (distinct : (links.map (linkIdentity platform)).Nodup) {identities : Option (List String)}
    {outbounds : List Outbound}
    (done : materializeSubscriptionOutbounds now subscriptionID
      (materialize platform subscriptionID links (listOutbounds store) tagPrefix).1 identities store =
        .ok (after, outbounds)) :
    KeepsIdentity platform subscriptionID links store after ↔
      NoRowTaken platform subscriptionID links (listOutbounds store) := by
  have given : ∀ link, trimSpace (linkIdentity platform link) ≠ "" := by
    intro link
    rw [trimSpace_linkIdentity]
    exact linkIdentity_given (digest_given sized)
  have claiming : Claiming subscriptionID (linkNodes platform subscriptionID links (listOutbounds store) tagPrefix)
      store.outbounds := linkNodes_claiming (digest_given sized) distinct
  have sound := events_tags reached
  obtain ⟨written, kept, targets, reconciled⟩ := materializeSubscriptionOutbounds_reconciled done
  have spec : (claimedIDs platform subscriptionID (listOutbounds store) links).Sublist targets ∧
      ((claimedIDs platform subscriptionID (listOutbounds store) links).Nodup → targets.Nodup) := by
    rw [← linkNodes_named listOutbounds_positive]
    exact ⟨(targets_spec claiming sound reconciled.looped rfl).1, (targets_spec claiming sound reconciled.looped rfl).2.2⟩
  obtain ⟨named, nodup⟩ := spec
  constructor
  · intro keeps
    have apart : targets.Nodup := by
      by_contra shared
      have fewer := reconciled.length_lt shared
      rw [← List.length_map server, keeps.servers, List.length_map] at fewer
      exact Nat.ne_of_lt fewer linkNodes_length.symm
    have unique : ∀ left ∈ subscriptionRows subscriptionID (listOutbounds store),
        ∀ right ∈ subscriptionRows subscriptionID (listOutbounds store),
          left.subscriptionIdentity ∈ links.map (linkIdentity platform) →
            left.subscriptionIdentity = right.subscriptionIdentity → left.id = right.id := by
      intro left leftInside right rightInside wanted same
      obtain ⟨link, inside, identity⟩ := List.mem_map.mp wanted
      obtain ⟨leftKept, leftListed, leftID, _, leftServer⟩ :=
        keeps.kept left (mem_subscriptionOutbounds.mpr leftInside) link inside identity.symm
      obtain ⟨rightKept, rightListed, rightID, _, rightServer⟩ :=
        keeps.kept right (mem_subscriptionOutbounds.mpr rightInside) link inside (same.symm.trans identity.symm)
      have equal := keeps.unique distinct leftListed rightListed
        (congrArg Server.identity (leftServer.trans rightServer.symm))
      rw [← leftID, ← rightID, equal]
    refine ⟨unique, fun pair zipped wanted => ?_⟩
    obtain ⟨i, found⟩ := List.mem_iff_getElem?.mp zipped
    obtain ⟨here, place⟩ := List.getElem?_zip_eq_some.mp found
    exact placed_of_nodup given unique (apart.sublist named) here place wanted
  · intro free
    have claimedApart := free.claimedIDs_nodup given distinct listOutbounds_numbered
    have apart := nodup claimedApart
    refine ⟨materialize_servers (digest_given sized) sound done ?_ ⟨distinct, claimedApart⟩, ?_⟩
    · intro link inside
      obtain ⟨raw, parsed⟩ := fetched link inside
      exact plain_of_parsed parsed
    · intro row listed link inside identity
      have rowInside := mem_subscriptionOutbounds.mp listed
      obtain ⟨i, bound, rfl⟩ := List.mem_iff_getElem.mp inside
      have stored : linkIdentity platform links[i] ∈
          (subscriptionRows subscriptionID (listOutbounds store)).map Outbound.subscriptionIdentity := by
        rw [← identity]
        exact List.mem_map_of_mem rowInside
      obtain ⟨other, otherInside, otherNamed, claimed⟩ := claimedRow_stored (i := i) (given _) stored
      have wanted : row.subscriptionIdentity ∈ links.map (linkIdentity platform) := by
        rw [identity]
        exact List.mem_map_of_mem inside
      have sameID := free.unique row rowInside other otherInside wanted (identity.trans otherNamed.symm)
      have sameRow : row = other := List.inj_on_of_nodup_map
        (subscriptionRows_ids_nodup listOutbounds_numbered) rowInside otherInside sameID
      rw [← sameRow] at claimed
      exact reconciled.claimed_kept claiming sound apart (List.getElem?_eq_getElem bound) claimed

/-- SHA-256 of the two texts the examples ask for. -/
def examplePrinted : Platform :=
  { Config.examplePlatform with
    sha256 := fun text =>
      if text = "trojan|hk.example.com|443||secret" then
        [188, 208, 186, 124, 228, 168, 253, 189, 227, 168, 237, 160, 121, 101, 238, 138, 24, 66, 236, 78, 77,
          26, 40, 130, 70, 157, 5, 109, 112, 123, 58, 114]
      else if text = "trojan|sg.example.com|443||secret" then
        [247, 94, 196, 50, 33, 102, 125, 137, 58, 236, 114, 86, 29, 161, 97, 216, 144, 27, 247, 254, 7, 120,
          197, 51, 96, 135, 218, 248, 130, 142, 94, 72]
      else List.replicate 32 0 }

theorem examplePrinted_sized (text : String) : (examplePrinted.sha256 text).length = 32 := by
  dsimp only [examplePrinted]
  split
  · rfl
  · split <;> rfl

/-- The server of the link `trojan://secret@hk.example.com:443#hk`. -/
def exampleHK : ParsedLink where
  identity := "bcd0ba7ce4a8fdbde3a8eda07965ee8a1842ec4e4d1a2882469d056d707b3a72"
  remark := "hk"
  protocol := "trojan"
  address := "hk.example.com"
  port := 443
  username := ""
  password := "secret"
  rawLink := "trojan://secret@hk.example.com:443#hk"
  settingsJSON := "\x7b\x7d"

/-- The server of the link `trojan://secret@sg.example.com:443#sg`. -/
def exampleSG : ParsedLink where
  identity := "f75ec43221667d893aec72561da161d8901bf7fe0778c5336087daf8828e5e48"
  remark := "sg"
  protocol := "trojan"
  address := "sg.example.com"
  port := 443
  username := ""
  password := "secret"
  rawLink := "trojan://secret@sg.example.com:443#sg"
  settingsJSON := "\x7b\x7d"

theorem examples_fetched : ∀ link ∈ [exampleHK, exampleSG], ∃ raw, parseLink examplePrinted raw = .ok link := by
  have parsed : (parseLink examplePrinted exampleHK.rawLink).toOption = some exampleHK ∧
      (parseLink examplePrinted exampleSG.rawLink).toOption = some exampleSG := by decide +kernel
  have fetched : ∀ link, (parseLink examplePrinted link.rawLink).toOption = some link →
      ∃ raw, parseLink examplePrinted raw = .ok link := by
    intro link found
    refine ⟨link.rawLink, ?_⟩
    cases result : parseLink examplePrinted link.rawLink with
    | error reason =>
        rw [result] at found
        cases found
    | ok other =>
        rw [result] at found
        exact congrArg Except.ok (Option.some.inj found)
  intro link member
  rcases List.mem_cons.mp member with rfl | later
  · exact fetched exampleHK parsed.1
  · rw [List.mem_singleton.mp later]
    exact fetched exampleSG parsed.2

/-- A subscription with the server `hk`. -/
def exampleKnown : List StoreEvent :=
  [.operate (.createOutboundSubscription "" { (default : OutboundSubscriptionParams) with
      url := "https://example.com/sub", enabled := true }),
    .operate (.materializeSubscriptionOutbounds "" 1
      (linkNodes examplePrinted 1 [exampleHK] [] "") none)]

def exampleKnownStore : Store :=
  arrive (eventStep examplePrinted) exampleKnown Store.initial

theorem appended_server_keeps_rows : ∃ after outbounds,
    materializeSubscriptionOutbounds "" 1
        (materialize examplePrinted 1 [exampleHK, exampleSG] (listOutbounds exampleKnownStore) "").1 none exampleKnownStore =
      .ok (after, outbounds) ∧ KeepsIdentity examplePrinted 1 [exampleHK, exampleSG] exampleKnownStore after := by
  obtain ⟨⟨after, outbounds⟩, done⟩ := eq_ok_of_isOk (show (materializeSubscriptionOutbounds "" 1
    (materialize examplePrinted 1 [exampleHK, exampleSG] (listOutbounds exampleKnownStore) "").1 none
    exampleKnownStore).isOk = true by decide +kernel)
  refine ⟨after, outbounds, done, (refresh_keeps_identity_iff examplePrinted_sized (Reach.arrive _ _ _)
    examples_fetched (by decide +kernel) done).mpr ⟨?_, ?_⟩⟩
  · decide +kernel
  · decide +kernel

/-- The server that is inserted takes the row of the known one, and is lost. -/
theorem inserted_server_is_lost : Reach (Steps (eventStep examplePrinted)) Store.initial exampleKnownStore ∧
    ([exampleSG, exampleHK].map (linkIdentity examplePrinted)).Nodup ∧ ∃ after outbounds,
      materializeSubscriptionOutbounds "" 1
          (materialize examplePrinted 1 [exampleSG, exampleHK] (listOutbounds exampleKnownStore) "").1 none exampleKnownStore =
        .ok (after, outbounds) ∧ ¬KeepsIdentity examplePrinted 1 [exampleSG, exampleHK] exampleKnownStore after := by
  have left : (materializeSubscriptionOutbounds "" 1
      (materialize examplePrinted 1 [exampleSG, exampleHK] (listOutbounds exampleKnownStore) "").1 none
      exampleKnownStore).toOption.map (fun result => (subscriptionOutbounds 1 result.1).length) = some 1 := by
    decide +kernel
  cases done : materializeSubscriptionOutbounds "" 1
      (materialize examplePrinted 1 [exampleSG, exampleHK] (listOutbounds exampleKnownStore) "").1 none exampleKnownStore with
  | error error =>
      rw [done] at left
      cases left
  | ok result =>
      obtain ⟨after, outbounds⟩ := result
      refine ⟨Reach.arrive _ _ _, by decide +kernel, after, outbounds, rfl, fun keeps => ?_⟩
      rw [done] at left
      have fewer : (subscriptionOutbounds 1 after).length = 1 := Option.some.inj left
      rw [← List.length_map server, keeps.servers, List.length_map] at fewer
      revert fewer
      decide

end MiGate.Subscription
