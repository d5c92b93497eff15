import MiGate.Db.OutboundsInv
import MiGate.Relational.OrderBy

namespace MiGate.Db

open Go Fallible Relational

variable {store after : Store}

/-! Where an outbound stands is not stored as such: it is told by the columns below, which
almost every operation writes in a way of its own. -/

/-- The columns that tell where an outbound stands, and which one it is. -/
structure Place where
  id : Int
  tag : String
  protocol : String
  sort : Int
deriving DecidableEq

def Outbound.place (row : Outbound) : Place :=
  ⟨row.id, row.tag, row.protocol, row.sort⟩

/-- Whether this is the built-in `direct` outbound. -/
def Place.direct (place : Place) : Bool :=
  place.tag == "direct" && place.protocol == "freedom"

/-- To stand before another outbound in `ORDER BY sort ASC, id ASC`. -/
def Place.Ahead (place other : Place) : Prop :=
  place.sort < other.sort ∨ (place.sort = other.sort ∧ place.id < other.id)

instance (place other : Place) : Decidable (place.Ahead other) :=
  inferInstanceAs (Decidable (place.sort < other.sort ∨ (place.sort = other.sort ∧ place.id < other.id)))

/-- Tags are unique, and the `direct` outbound, if there is one, stands before all the others. -/
structure DirectLeads (places : List Place) : Prop where
  tags : (places.map Place.tag).Nodup
  ahead : ∀ place ∈ places, place.direct = true → ∀ other ∈ places, other.id ≠ place.id → place.Ahead other

def places (outbounds : Serial Outbound.id) : List Place :=
  outbounds.rows.map Outbound.place

@[simp] theorem places_tags (outbounds : Serial Outbound.id) :
    (places outbounds).map Place.tag = outbounds.rows.map Outbound.tag := by
  rw [places, List.map_map]
  rfl

theorem DirectLeads.sublist {all kept : List Place} (leads : DirectLeads all) (fewer : kept.Sublist all) :
    DirectLeads kept where
  tags := leads.tags.sublist (fewer.map Place.tag)
  ahead := fun place inside direct other otherInside =>
    leads.ahead place (fewer.subset inside) direct other (fewer.subset otherInside)

/-- A new outbound may be put behind; if it is `direct` itself, it has to come before the others. -/
theorem DirectLeads.concat {all : List Place} {new : Place} (leads : DirectLeads all)
    (fresh : ∀ place ∈ all, place.tag ≠ new.tag) (behind : ∀ place ∈ all, place.direct = true → place.Ahead new)
    (before : new.direct = true → ∀ place ∈ all, new.Ahead place) : DirectLeads (all ++ [new]) where
  tags := by
    rw [List.map_append, List.map_singleton, List.nodup_append']
    refine ⟨leads.tags, List.nodup_singleton _, ?_⟩
    intro tag member last
    obtain ⟨place, inside, rfl⟩ := List.mem_map.mp member
    exact fresh place inside (List.mem_singleton.mp last)
  ahead := by
    intro place inside direct other otherInside different
    rcases List.mem_append.mp inside with old | new'
    · rcases List.mem_append.mp otherInside with otherOld | otherNew
      · exact leads.ahead place old direct other otherOld different
      · rw [List.mem_singleton.mp otherNew]
        exact behind place old direct
    · have same : place = new := List.mem_singleton.mp new'
      rcases List.mem_append.mp otherInside with otherOld | otherNew
      · rw [same] at direct ⊢
        exact before direct other otherOld
      · rw [same, List.mem_singleton.mp otherNew] at different
        exact absurd rfl different

/-- There is only one `direct` outbound. -/
theorem DirectLeads.unique {outbounds : Serial Outbound.id} (leads : DirectLeads (places outbounds))
    {left right : Outbound} (leftStored : left ∈ outbounds.rows) (rightStored : right ∈ outbounds.rows)
    (same : left.tag = right.tag) : left = right := by
  have tags : (outbounds.rows.map Outbound.tag).Nodup := by
    have nodup := leads.tags
    rw [places, List.map_map] at nodup
    exact nodup
  exact List.inj_on_of_nodup_map tags leftStored rightStored same

theorem places_insert {row : Outbound} :
    places (insertOutboundRow row store).outbounds =
      places store.outbounds ++ [{ row.place with id := store.outbounds.next }] := by
  simp only [places, insertOutboundRow, Serial.map_insert]
  rfl

/-- An inserted row has the greatest number, so it stands behind every row of no greater sort. -/
theorem insertOutboundRow_leads {row : Outbound} (leads : DirectLeads (places store.outbounds))
    (free : outboundTagTaken row.tag store = false)
    (behind : ∀ place ∈ places store.outbounds, place.direct = true → place.sort ≤ row.sort)
    (before : row.place.direct = true → ∀ place ∈ places store.outbounds, row.sort < place.sort) :
    DirectLeads (places (insertOutboundRow row store).outbounds) := by
  rw [places_insert]
  refine leads.concat ?_ ?_ ?_
  · intro place inside
    obtain ⟨other, stored, rfl⟩ := List.mem_map.mp inside
    rw [outboundTagTaken, List.any_eq_false] at free
    exact fun same => free other stored (beq_iff_eq.mpr same)
  · intro place inside direct
    have notGreater := behind place inside direct
    obtain ⟨other, stored, rfl⟩ := List.mem_map.mp inside
    rcases notGreater.lt_or_eq with less | equal
    · exact .inl less
    · exact .inr ⟨equal, store.outbounds.bounded other stored⟩
  · exact fun direct place inside => .inl (before direct place inside)

theorem lt_nextSort {sorts : List Int} {sort : Int} (member : sort ∈ sorts) : sort < nextSort sorts := by
  unfold nextSort
  cases greatest : sorts.max? with
  | none =>
      rw [List.max?_eq_none_iff] at greatest
      rw [greatest] at member
      cases member
  | some last =>
      have below := (List.max?_eq_some_iff.mp greatest).2 sort member
      exact Int.lt_add_one_of_le below

/-! Rebalancing puts `direct` first, wherever it stood. -/

instance : Std.Total sortBefore where
  total left right := by
    unfold sortBefore
    omega

instance : IsTrans Outbound sortBefore where
  trans left middle right := by
    unfold sortBefore
    omega

instance (subscriptions : Serial OutboundSubscription.id) : Std.Total (rankBefore subscriptions) where
  total left right := by
    unfold rankBefore rankLess sortBefore
    rw [Prod.ext_iff, Prod.ext_iff]
    omega

instance (subscriptions : Serial OutboundSubscription.id) : IsTrans Outbound (rankBefore subscriptions) where
  trans left middle right := by
    unfold rankBefore rankLess sortBefore
    rw [Prod.ext_iff, Prod.ext_iff, Prod.ext_iff]
    omega

theorem outboundRank_direct {subscriptions : Serial OutboundSubscription.id} {row : Outbound}
    (direct : row.place.direct = true) : outboundRank subscriptions row = (0, 0) := by
  simp only [Place.direct, Outbound.place, Bool.and_eq_true, beq_iff_eq] at direct
  rw [outboundRank, if_pos direct]

theorem outboundRank_other (subscriptions : Serial OutboundSubscription.id) {row : Outbound}
    (other : row.place.direct = false) : rankLess (0, 0) (outboundRank subscriptions row) := by
  simp only [Place.direct, Outbound.place, Bool.and_eq_false_iff, beq_eq_false_iff_ne] at other
  have notDirect : ¬(row.tag = "direct" ∧ row.protocol = "freedom") := fun both =>
    other.elim (fun differs => differs both.1) fun differs => differs both.2
  rw [outboundRank, if_neg notDirect]
  simp only [rankLess]
  split_ifs <;> simp

/-- What a later `UPDATE` of the loop does not name, it leaves as it is. -/
theorem mem_of_writeOutboundSorts {first : Int} {pairs : List (Int × Nat)} {outbounds : Serial Outbound.id}
    {row : Outbound} (unnamed : row.id ∉ pairs.map Prod.fst)
    (member : row ∈ (pairs.foldl (fun outbounds (id, i) => outbounds.modifyWhere (fun row => row.id == id)
      (sortOutbound (first + i)) (sortOutbound_id (first + i))) outbounds).rows) : row ∈ outbounds.rows := by
  induction pairs generalizing outbounds with
  | nil => exact member
  | cons pair rest ih =>
      rw [List.map_cons, List.mem_cons, not_or] at unnamed
      obtain ⟨old, stored, same⟩ := Serial.mem_modifyWhere.mp (ih unnamed.2 member)
      split at same
      · rename_i chosen
        rw [← same, sortOutbound_id] at unnamed
        exact absurd (beq_iff_eq.mp chosen) unnamed.1
      · rwa [← same]

/-- Every row the loop names gets one of the numbers it is named with. -/
theorem sort_of_writeOutboundSorts {first : Int} {pairs : List (Int × Nat)} {outbounds : Serial Outbound.id}
    {row : Outbound} (named : row.id ∈ pairs.map Prod.fst)
    (member : row ∈ (pairs.foldl (fun outbounds (id, i) => outbounds.modifyWhere (fun row => row.id == id)
      (sortOutbound (first + i)) (sortOutbound_id (first + i))) outbounds).rows) :
    ∃ i, (row.id, i) ∈ pairs ∧ row.sort = first + i := by
  induction pairs generalizing outbounds with
  | nil => cases named
  | cons pair rest ih =>
      by_cases later : row.id ∈ rest.map Prod.fst
      · obtain ⟨i, inside, written⟩ := ih later member
        exact ⟨i, List.mem_cons_of_mem _ inside, written⟩
      · have here : row.id = pair.1 := by
          rw [List.map_cons, List.mem_cons] at named
          exact named.resolve_right later
        obtain ⟨old, stored, same⟩ := Serial.mem_modifyWhere.mp (mem_of_writeOutboundSorts later member)
        split at same
        · refine ⟨pair.2, ?_, ?_⟩
          · rw [here]
            exact List.mem_cons_self
          · rw [← same]
            rfl
        · rename_i missed
          rw [same] at missed
          exact absurd (beq_iff_eq.mpr here) missed

theorem tags_writeOutboundSorts (first : Int) (ids : List Int) (outbounds : Serial Outbound.id) :
    (places (writeOutboundSorts first ids outbounds)).map Place.tag = (places outbounds).map Place.tag := by
  rw [places, places, List.map_map, List.map_map]
  exact map_writeOutboundSorts first ids outbounds fun _ _ => rfl

/-- A row whose sort the loop has written was there before, with some other sort. -/
theorem stored_of_writeOutboundSorts {first : Int} {ids : List Int} {outbounds : Serial Outbound.id}
    {row : Outbound} (member : row ∈ (writeOutboundSorts first ids outbounds).rows) :
    ∃ old ∈ outbounds.rows, row = sortOutbound row.sort old := by
  have unsorted := map_writeOutboundSorts first ids outbounds
    (show ∀ sort row, sortOutbound 0 (sortOutbound sort row) = sortOutbound 0 row from fun _ _ => rfl)
  have image : sortOutbound 0 row ∈ outbounds.rows.map (sortOutbound 0) := by
    rw [← unsorted]
    exact List.mem_map_of_mem member
  obtain ⟨old, stored, same⟩ := List.mem_map.mp image
  refine ⟨old, stored, ?_⟩
  calc row = sortOutbound row.sort (sortOutbound 0 row) := rfl
    _ = sortOutbound row.sort (sortOutbound 0 old) := by rw [same]
    _ = sortOutbound row.sort old := rfl

/-- The order in which the rebalancing numbers the outbounds. -/
def ranked (store : Store) : List Outbound :=
  store.outbounds.rows.insertionSort (rankBefore store.outboundSubscriptions)

theorem mem_ranked {row : Outbound} : row ∈ ranked store ↔ row ∈ store.outbounds.rows :=
  (List.perm_insertionSort _ _).mem_iff

theorem ranked_ids_nodup : ((ranked store).map Outbound.id).Nodup :=
  ((List.perm_insertionSort _ _).map Outbound.id).nodup_iff.mpr store.outbounds.ids_nodup

/-- Nothing ranks before `direct`, as no other outbound has its tag. -/
theorem ranked_head (tags : ((places store.outbounds).map Place.tag).Nodup) {row : Outbound}
    (stored : row ∈ store.outbounds.rows) (direct : row.place.direct = true) :
    (ranked store).head? = some row := by
  refine head?_of_least (List.pairwise_insertionSort _ _) (mem_ranked.mpr stored) ?_
  intro rival inside stands
  cases rivalDirect : rival.place.direct with
  | true =>
      have sameTag : rival.tag = row.tag := by
        simp only [Place.direct, Outbound.place, Bool.and_eq_true, beq_iff_eq] at rivalDirect direct
        rw [rivalDirect.1, direct.1]
      have distinct : (store.outbounds.rows.map Outbound.tag).Nodup := by
        rw [places, List.map_map] at tags
        exact tags
      exact List.inj_on_of_nodup_map distinct (mem_ranked.mp inside) stored sameTag
  | false =>
      have greater := outboundRank_other store.outboundSubscriptions rivalDirect
      rw [rankBefore, outboundRank_direct direct] at stands
      generalize outboundRank store.outboundSubscriptions rival = rank at stands greater
      simp only [rankLess, Prod.ext_iff] at stands greater
      omega

/-- Each rebalanced row has its number in the ranking as its sort. -/
theorem rebalanced_sort {row : Outbound} (member : row ∈ (rebalanceOutboundSorts store).outbounds.rows) :
    ∃ i, (row.id, i) ∈ ((ranked store).map Outbound.id).zipIdx ∧ row.sort = i := by
  obtain ⟨old, stored, same⟩ := stored_of_writeOutboundSorts member
  have named : row.id = old.id := by rw [same, sortOutbound_id]
  have numbered : row.id ∈ ((ranked store).map Outbound.id).zipIdx.map Prod.fst := by
    rw [List.zipIdx_map_fst, named]
    exact List.mem_map_of_mem (mem_ranked.mpr stored)
  obtain ⟨i, inside, written⟩ := sort_of_writeOutboundSorts numbered member
  exact ⟨i, inside, written.trans (Int.zero_add _)⟩

theorem rebalanceOutboundSorts_leads (tags : ((places store.outbounds).map Place.tag).Nodup) :
    DirectLeads (places (rebalanceOutboundSorts store).outbounds) where
  tags := by
    rw [rebalanceOutboundSorts, tags_writeOutboundSorts]
    exact tags
  ahead := by
    intro place inside direct other otherInside different
    obtain ⟨row, member, rfl⟩ := List.mem_map.mp inside
    obtain ⟨otherRow, otherMember, rfl⟩ := List.mem_map.mp otherInside
    obtain ⟨old, stored, same⟩ := stored_of_writeOutboundSorts member
    have first : ((ranked store).map Outbound.id).head? = some row.id := by
      rw [same] at direct ⊢
      rw [List.head?_map, ranked_head tags stored direct]
      rfl
    obtain ⟨i, numbered, sorted⟩ := rebalanced_sort member
    obtain ⟨j, otherNumbered, otherSorted⟩ := rebalanced_sort otherMember
    have zero : i = 0 := (zipIdx_of_head ranked_ids_nodup first numbered).mp rfl
    have notZero : j ≠ 0 := fun zero =>
      different ((zipIdx_of_head ranked_ids_nodup first otherNumbered).mpr zero)
    refine .inl ?_
    simp only [Outbound.place]
    omega

end MiGate.Db
