import MiGate.Db.Precedence

namespace MiGate.Db

open Go Relational

variable {store : Store}

/-! What a rebalanced store lists: the ranking, renumbered. -/

/-- A row with its number in the ranking as its sort. -/
def renumber (store : Store) (row : Outbound) : Outbound :=
  sortOutbound (((ranked store).map Outbound.id).idxOf row.id : Nat) row

theorem rebalanceOutboundSorts_rows :
    (rebalanceOutboundSorts store).outbounds.rows = store.outbounds.rows.map (renumber store) := by
  have unsorted : (rebalanceOutboundSorts store).outbounds.rows.map (sortOutbound 0) =
      store.outbounds.rows.map (sortOutbound 0) :=
    map_writeOutboundSorts 0 ((ranked store).map Outbound.id) store.outbounds fun _ _ => rfl
  have numbered : ∀ row ∈ (rebalanceOutboundSorts store).outbounds.rows, renumber store (sortOutbound 0 row) = row := by
    intro row member
    obtain ⟨i, inside, sorted⟩ := rebalanced_sort member
    obtain ⟨inRange, there⟩ := List.getElem?_eq_some_iff.mp (List.mem_zipIdx_iff_getElem?.mp inside)
    have named : ((ranked store).map Outbound.id)[i] = row.id := there
    have number : ((ranked store).map Outbound.id).idxOf row.id = i := by
      rw [← named]
      exact ranked_ids_nodup.idxOf_getElem i inRange
    have sortNumber : (((ranked store).map Outbound.id).idxOf row.id : Int) = row.sort := by rw [number, sorted]
    calc renumber store (sortOutbound 0 row) = sortOutbound row.sort (sortOutbound 0 row) := by
          rw [renumber, sortOutbound_id, sortNumber]
      _ = row := rfl
  calc (rebalanceOutboundSorts store).outbounds.rows
      = ((rebalanceOutboundSorts store).outbounds.rows.map (sortOutbound 0)).map (renumber store) := by
        rw [List.map_map]
        exact (List.map_id' _).symm.trans (List.map_congr_left fun row member => (numbered row member).symm)
    _ = store.outbounds.rows.map (renumber store) := by
        rw [unsorted, List.map_map]
        rfl

theorem renumber_sorted : ((ranked store).map (renumber store)).Pairwise sortBefore := by
  rw [List.pairwise_map, List.pairwise_iff_getElem]
  intro i j iBound jBound less
  have number : ∀ k (bound : k < (ranked store).length),
      ((ranked store).map Outbound.id).idxOf (ranked store)[k].id = k := by
    intro k bound
    have inRange : k < ((ranked store).map Outbound.id).length := by rwa [List.length_map]
    have there := ranked_ids_nodup.idxOf_getElem k inRange
    rwa [List.getElem_map] at there
  refine .inl ?_
  rw [renumber, renumber, number i iBound, number j jBound]
  exact Int.ofNat_lt.mpr less

theorem rankBefore_antisymm {subscriptions : Serial OutboundSubscription.id} {left right : Outbound}
    (before : rankBefore subscriptions left right) (behind : rankBefore subscriptions right left) :
    left.id = right.id := by
  revert before behind
  unfold rankBefore rankLess sortBefore
  rw [Prod.ext_iff, Prod.ext_iff]
  omega

theorem listOutbounds_rebalanceOutboundSorts :
    listOutbounds (rebalanceOutboundSorts store) =
      (ranked store).map fun row => loadOutbound (renumber store row) := by
  have perm : ((rebalanceOutboundSorts store).outbounds.rows.insertionSort sortBefore).Perm
      ((ranked store).map (renumber store)) := by
    rw [rebalanceOutboundSorts_rows]
    exact (List.perm_insertionSort _ _).trans ((List.perm_insertionSort _ _).map _).symm
  have same : (rebalanceOutboundSorts store).outbounds.rows.insertionSort sortBefore =
      (ranked store).map (renumber store) := by
    refine perm.eq_of_pairwise ?_ (List.pairwise_insertionSort _ _) renumber_sorted
    intro left right leftInside rightInside before after
    refine Serial.eq_of_id_eq ((List.mem_insertionSort _).mp leftInside) ?_ ?_
    · exact (List.mem_insertionSort _).mp (perm.mem_iff.mpr rightInside)
    · simp only [sortBefore] at before after
      omega
  rw [listOutbounds, same, List.map_map]
  rfl

end MiGate.Db
