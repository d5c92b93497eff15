import MiGate.Db.Owners
import MiGate.Db.Rebalance

namespace MiGate.Db

open Go Fallible Relational

variable {store after : Store}

/-! How an outbound stands: where its sort puts it, and where the ranking would. -/

structure Standing where
  id : Int
  sort : Int
  rank : Int × Int
deriving DecidableEq

def standing (subscriptions : Serial OutboundSubscription.id) (row : Outbound) : Standing :=
  ⟨row.id, row.sort, outboundRank subscriptions row⟩

def standings (store : Store) : List Standing :=
  store.outbounds.rows.map (standing store.outboundSubscriptions)

/-- Of two outbounds the one with the lesser sort does not rank behind the other. -/
def Standing.InOrder (one other : Standing) : Prop :=
  one.sort ≠ other.sort ∧ (one.sort < other.sort → ¬rankLess other.rank one.rank) ∧
    (other.sort < one.sort → ¬rankLess one.rank other.rank)

instance (one other : Standing) : Decidable (one.InOrder other) :=
  inferInstanceAs (Decidable (one.sort ≠ other.sort ∧ (one.sort < other.sort → ¬rankLess other.rank one.rank) ∧
    (other.sort < one.sort → ¬rankLess one.rank other.rank)))

theorem Standing.InOrder.symm {one other : Standing} (order : one.InOrder other) : other.InOrder one :=
  ⟨order.1.symm, order.2.2, order.2.1⟩

/-- Every two outbounds stand in the order of their ranks. -/
def RanksKept (all : List Standing) : Prop :=
  ∀ one ∈ all, ∀ other ∈ all, one.id ≠ other.id → one.InOrder other

theorem RanksKept.subset {all some : List Standing} (kept : RanksKept all) (fewer : some ⊆ all) : RanksKept some :=
  fun one inside other otherInside => kept one (fewer inside) other (fewer otherInside)

/-- A standing more is in order with those there are. -/
theorem ranksKept_concat {all : List Standing} {new : Standing} (fresh : ∀ one ∈ all, one.id ≠ new.id) :
    RanksKept (all ++ [new]) ↔ RanksKept all ∧ ∀ one ∈ all, new.InOrder one := by
  constructor
  · intro kept
    refine ⟨kept.subset (List.subset_append_left _ _), fun one inside => ?_⟩
    exact kept new (List.mem_append_right _ List.mem_cons_self) one (List.mem_append_left _ inside)
      (fresh one inside).symm
  · intro ⟨kept, order⟩ one inside other otherInside different
    rcases List.mem_append.mp inside with old | last
    · rcases List.mem_append.mp otherInside with otherOld | otherLast
      · exact kept one old other otherOld different
      · rw [List.mem_singleton.mp otherLast]
        exact (order one old).symm
    · rw [List.mem_singleton.mp last] at different ⊢
      rcases List.mem_append.mp otherInside with otherOld | otherLast
      · exact order other otherOld
      · exact absurd (congrArg Standing.id (List.mem_singleton.mp otherLast)).symm different

/-- The sorts are what a rebalancing makes of them: they are different, the groups follow one
another, and to rebalance would change the order of nothing. -/
structure Canonical (store : Store) : Prop where
  distinct : (store.outbounds.rows.map Outbound.sort).Nodup
  grouped : ∀ left ∈ store.outbounds.rows, ∀ right ∈ store.outbounds.rows, left.sort < right.sort →
    ¬rankLess (outboundRank store.outboundSubscriptions right) (outboundRank store.outboundSubscriptions left)
  settled : (listOutbounds (rebalanceOutboundSorts store)).map Outbound.id = (listOutbounds store).map Outbound.id

theorem rankBefore_of_sort {subscriptions : Serial OutboundSubscription.id} {left right : Outbound}
    (less : left.sort < right.sort)
    (order : ¬rankLess (outboundRank subscriptions right) (outboundRank subscriptions left)) :
    rankBefore subscriptions left right := by
  revert order
  unfold rankBefore rankLess sortBefore
  rw [Prod.ext_iff]
  omega

/-- The outbounds are listed as they rank. -/
theorem RanksKept.settled (kept : RanksKept (standings store)) :
    (listOutbounds (rebalanceOutboundSorts store)).map Outbound.id = (listOutbounds store).map Outbound.id := by
  have ordered : (store.outbounds.rows.insertionSort sortBefore).Pairwise (rankBefore store.outboundSubscriptions) := by
    have nodup : (store.outbounds.rows.insertionSort sortBefore).Nodup :=
      (List.perm_insertionSort _ _).nodup_iff.mpr (List.Nodup.of_map Outbound.id store.outbounds.ids_nodup)
    refine ((List.pairwise_insertionSort sortBefore store.outbounds.rows).and nodup).imp_of_mem ?_
    intro left right leftInside rightInside both
    obtain ⟨before, apart⟩ := both
    have leftStored := (List.mem_insertionSort sortBefore).mp leftInside
    have rightStored := (List.mem_insertionSort sortBefore).mp rightInside
    have different : left.id ≠ right.id := fun same => apart (Serial.eq_of_id_eq leftStored rightStored same)
    have order := kept (standing _ left) (List.mem_map_of_mem leftStored) (standing _ right)
      (List.mem_map_of_mem rightStored) different
    have less : left.sort < right.sort := by
      have unequal : left.sort ≠ right.sort := order.1
      unfold sortBefore at before
      omega
    exact rankBefore_of_sort less (order.2.1 less)
  have same : ranked store = store.outbounds.rows.insertionSort sortBefore := by
    refine ((List.perm_insertionSort _ _).trans (List.perm_insertionSort _ _).symm).eq_of_pairwise ?_
      (List.pairwise_insertionSort _ _) ordered
    intro left right leftInside rightInside before behind
    exact Serial.eq_of_id_eq ((List.mem_insertionSort _).mp leftInside) ((List.mem_insertionSort _).mp rightInside)
      (rankBefore_antisymm before behind)
  rw [listOutbounds_rebalanceOutboundSorts, same, listOutbounds, List.map_map, List.map_map]
  rfl

theorem canonical_iff : Canonical store ↔ RanksKept (standings store) := by
  constructor
  · intro canonical one inside other otherInside different
    obtain ⟨left, leftStored, rfl⟩ := List.mem_map.mp inside
    obtain ⟨right, rightStored, rfl⟩ := List.mem_map.mp otherInside
    refine ⟨fun same => different ?_, canonical.grouped left leftStored right rightStored,
      canonical.grouped right rightStored left leftStored⟩
    exact congrArg Outbound.id (List.inj_on_of_nodup_map canonical.distinct leftStored rightStored same)
  · intro kept
    have orderly : ∀ left ∈ store.outbounds.rows, ∀ right ∈ store.outbounds.rows, left.id ≠ right.id →
        (standing store.outboundSubscriptions left).InOrder (standing store.outboundSubscriptions right) :=
      fun left leftStored right rightStored => kept _ (List.mem_map_of_mem leftStored) _ (List.mem_map_of_mem rightStored)
    refine ⟨?_, ?_, kept.settled⟩
    · unfold List.Nodup
      rw [List.pairwise_map]
      refine store.outbounds.ascending.imp_of_mem fun {left right} leftStored rightStored less => ?_
      exact (orderly left leftStored right rightStored (Int.ne_of_lt less)).1
    · intro left leftStored right rightStored less
      refine (orderly left leftStored right rightStored fun same => ?_).2.1 less
      rw [Serial.eq_of_id_eq leftStored rightStored same] at less
      exact absurd less (lt_irrefl _)

/-! What an outbound ranks by. -/

/-- The number of the built-in outbound that a tag and a protocol name. -/
def builtIn (tag protocol : String) : Option Int :=
  if tag = "direct" ∧ protocol = "freedom" then some 0
  else if tag = "blocked" ∧ protocol = "blackhole" then some 1
  else if tag = "dns" ∧ protocol = "dns" then some 2
  else none

/-- How an outbound of no subscription ranks. -/
def manualRank (tag protocol : String) (sort : Int) : Int × Int :=
  match builtIn tag protocol with
  | some number => (0, number)
  | none => (2, sort)

/-- How a node ranks, its subscription being prepended or not. -/
def nodeRank (tag protocol : String) (prepend : Bool) (priority : Int) : Int × Int :=
  match builtIn tag protocol with
  | some number => (0, number)
  | none => (if prepend then 1 else 3, priority)

theorem outboundRank_manual {subscriptions owners : Serial OutboundSubscription.id} {row : Outbound}
    (owned : row.Owned owners) (manual : row.source ≠ outboundSourceSubscription) :
    outboundRank subscriptions row = manualRank row.tag row.protocol row.sort := by
  have free : row.subscriptionID = 0 := by
    by_contra given
    exact manual (owned.source.mpr given)
  have unowned : subscriptions.find? row.subscriptionID = none := by
    rw [Serial.find?_eq_none, free]
    exact fun other stored => ne_of_gt (subscriptions.positive other stored)
  unfold outboundRank manualRank builtIn
  rw [unowned]
  split_ifs <;> rfl

theorem outboundRank_node {subscriptions : Serial OutboundSubscription.id} {row : Outbound}
    {subscription : OutboundSubscription} (node : row.source = outboundSourceSubscription)
    (found : subscriptions.find? row.subscriptionID = some subscription) :
    outboundRank subscriptions row = nodeRank row.tag row.protocol subscription.prepend subscription.priority := by
  unfold outboundRank nodeRank builtIn
  rw [found]
  dsimp only [Option.map_some, Option.getD_some]
  split_ifs <;> rfl

theorem Outbound.Owned.find {subscriptions : Serial OutboundSubscription.id} {row : Outbound}
    (owned : row.Owned subscriptions) (node : row.source = outboundSourceSubscription) :
    ∃ subscription, subscriptions.find? row.subscriptionID = some subscription ∧ subscription.deletedAt = "" := by
  obtain ⟨subscription, stored, named, live, _⟩ := owned.owner (owned.source.mp node)
  exact ⟨subscription, named ▸ Serial.find?_of_mem stored, live⟩

theorem nodeRank_group (tag protocol : String) (prepend : Bool) (priority : Int) :
    (nodeRank tag protocol prepend priority).1 ≠ 2 := by
  unfold nodeRank
  cases builtIn tag protocol with
  | some number => exact (show (0 : Int) ≠ 2 by decide)
  | none =>
      cases prepend with
      | false => exact (show (3 : Int) ≠ 2 by decide)
      | true => exact (show (1 : Int) ≠ 2 by decide)

/-- Only a manual outbound ranks by its sort. -/
theorem outboundRank_sort {subscriptions : Serial OutboundSubscription.id} {row : Outbound}
    (owned : row.Owned subscriptions) (sort : Int) : outboundRank subscriptions (sortOutbound sort row) =
      if (outboundRank subscriptions row).1 = 2 then (2, sort) else outboundRank subscriptions row := by
  have sorted : (sortOutbound sort row).Owned subscriptions := owned.congr rfl rfl id
  by_cases node : row.source = outboundSourceSubscription
  · obtain ⟨subscription, found, _⟩ := owned.find node
    have first := outboundRank_node node found
    have second : outboundRank subscriptions (sortOutbound sort row) = _ := outboundRank_node node found
    rw [if_neg (first ▸ nodeRank_group _ _ _ _), first, second]
    rfl
  · have first := @outboundRank_manual subscriptions subscriptions row owned node
    have second : outboundRank subscriptions (sortOutbound sort row) = manualRank row.tag row.protocol sort :=
      @outboundRank_manual subscriptions subscriptions (sortOutbound sort row) sorted node
    rw [first, second]
    unfold manualRank
    cases builtIn row.tag row.protocol with
    | some number => rfl
    | none => rfl

/-- What has been rebalanced is in order. -/
theorem rebalanceOutboundSorts_kept (owners : OwnersSound store) : RanksKept (standings (rebalanceOutboundSorts store)) := by
  have subscriptions : (rebalanceOutboundSorts store).outboundSubscriptions = store.outboundSubscriptions := rfl
  have number : ∀ i (bound : i < (ranked store).length),
      ((ranked store).map Outbound.id).idxOf (ranked store)[i].id = i := by
    intro i bound
    have inRange : i < ((ranked store).map Outbound.id).length := by rwa [List.length_map]
    have there := ranked_ids_nodup.idxOf_getElem i inRange
    rwa [List.getElem_map] at there
  have place : ∀ row ∈ store.outbounds.rows, ∃ i, ∃ bound : i < (ranked store).length, (ranked store)[i] = row := by
    intro row stored
    exact List.getElem_of_mem (mem_ranked.mpr stored)
  -- Of two rows the one that ranks first gets the lesser number, and ranks no later for it.
  have ordered : ∀ i j (first : i < (ranked store).length) (second : j < (ranked store).length), i < j →
      (standing store.outboundSubscriptions (renumber store (ranked store)[i])).InOrder
        (standing store.outboundSubscriptions (renumber store (ranked store)[j])) := by
    intro i j first second less
    have before := List.pairwise_iff_getElem.mp
      (List.pairwise_insertionSort (rankBefore store.outboundSubscriptions) store.outbounds.rows) i j first second less
    have left := owners _ (mem_ranked.mp (List.getElem_mem first))
    have right := owners _ (mem_ranked.mp (List.getElem_mem second))
    unfold standing renumber Standing.InOrder
    rw [number i first, number j second, outboundRank_sort left, outboundRank_sort right]
    change rankBefore store.outboundSubscriptions (ranked store)[i] (ranked store)[j] at before
    unfold rankBefore at before
    generalize outboundRank store.outboundSubscriptions (ranked store)[i] = one at before ⊢
    generalize outboundRank store.outboundSubscriptions (ranked store)[j] = other at before ⊢
    obtain ⟨group, among⟩ := one
    obtain ⟨otherGroup, otherAmong⟩ := other
    simp only [rankLess, sortOutbound, Prod.mk.injEq] at before ⊢
    split_ifs <;> simp only <;> omega
  intro one inside other otherInside different
  rw [standings, subscriptions, rebalanceOutboundSorts_rows, List.map_map] at inside otherInside
  obtain ⟨left, leftStored, rfl⟩ := List.mem_map.mp inside
  obtain ⟨right, rightStored, rfl⟩ := List.mem_map.mp otherInside
  obtain ⟨i, first, rfl⟩ := place left leftStored
  obtain ⟨j, second, rfl⟩ := place right rightStored
  rcases lt_trichotomy i j with less | equal | greater
  · exact ordered i j first second less
  · subst equal
    exact absurd rfl different
  · exact (ordered j i second first greater).symm

end MiGate.Db
