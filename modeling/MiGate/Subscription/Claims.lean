import MiGate.Subscription.Reconcile

namespace MiGate.Subscription

open Go Db Fallible Relational

variable {now : String} {subscriptionID : Int} {store : Store}

/-! Which row each node is written to, when no two nodes have one identity: the one it names, else
a new one. -/

/-- The numbers of the rows that nodes name. -/
def namedIDs (nodes : List MaterializedSubscriptionOutbound) : List Int :=
  (nodes.map MaterializedSubscriptionOutbound.id).filter fun id => 0 < id

def nodeIdentity (node : MaterializedSubscriptionOutbound) : String :=
  trimSpace node.subscriptionIdentity

/-- What `Materialize` sees to: named rows are the subscription's, and a node that names none has
an identity that is not stored. -/
structure Claiming (subscriptionID : Int) (nodes : List MaterializedSubscriptionOutbound)
    (outbounds : Serial Outbound.id) : Prop where
  named : ∀ node ∈ nodes, 0 < node.id →
    ∃ row ∈ outbounds.rows, row.id = node.id ∧ isSubscriptionOutbound subscriptionID row = true
  unnamed : ∀ node ∈ nodes, ¬0 < node.id → node.id = 0 ∧ ∀ row ∈ outbounds.rows,
    isSubscriptionOutbound subscriptionID row = true → row.subscriptionIdentity ≠ nodeIdentity node
  distinct : (nodes.map nodeIdentity).Nodup

theorem existingNodeRow_named {node : MaterializedSubscriptionOutbound} (positive : 0 < node.id) {row : Outbound}
    (stored : row ∈ store.outbounds.rows) (named : row.id = node.id)
    (mine : isSubscriptionOutbound subscriptionID row = true) :
    existingNodeRow subscriptionID node store = some row := by
  have found : store.outbounds.find? node.id = some row := by
    rw [← named]
    exact Serial.find?_of_mem stored
  simp [existingNodeRow, positive, found, Option.filter, mine]

theorem existingNodeRow_unnamed {node : MaterializedSubscriptionOutbound} (zero : node.id = 0)
    (missing : ∀ row ∈ store.outbounds.rows, isSubscriptionOutbound subscriptionID row = true →
      row.subscriptionIdentity ≠ nodeIdentity node) : existingNodeRow subscriptionID node store = none := by
  have search : (store.outbounds.rows.find? fun row => isSubscriptionOutbound subscriptionID row &&
      row.subscriptionIdentity == trimSpace node.subscriptionIdentity) = none := by
    rw [List.find?_eq_none]
    intro row stored
    rw [Bool.and_eq_true, beq_iff_eq]
    exact fun both => missing row stored both.1 both.2
  simp [existingNodeRow, zero, search]

theorem materializeNode_valid {node : MaterializedSubscriptionOutbound} {done next : Store × List Int}
    (turned : materializeNode now subscriptionID done node = .ok next) :
    validateOutboundProfile node.asOutbound = .ok () ∧ nodeIdentity node ≠ "" := by
  simp only [materializeNode, bind_eq_ok, require_eq_ok, bne_iff_ne] at turned
  obtain ⟨_, valid, _, given, _⟩ := turned
  exact ⟨valid, given⟩

namespace Claiming

variable {node : MaterializedSubscriptionOutbound} {rest : List MaterializedSubscriptionOutbound}
  {done next : Store × List Int}

/-- The nodes that follow see the rows they name, and no row with an identity of theirs. -/
theorem tail (claiming : Claiming subscriptionID (node :: rest) done.1.outbounds)
    (sound : TagsSound done.1.outbounds) (turned : materializeNode now subscriptionID done node = .ok next) :
    Claiming subscriptionID rest next.1.outbounds where
  named := by
    intro later member positive
    obtain ⟨row, stored, named, mine⟩ := claiming.named later (List.mem_cons_of_mem _ member) positive
    obtain ⟨kept, keptStored, keptNamed, _, keptMine⟩ := materializeNode_keeps sound turned stored
    exact ⟨kept, keptStored, keptNamed.trans named, keptMine.trans mine⟩
  unnamed := by
    intro later member notPositive
    obtain ⟨zero, missing⟩ := claiming.unnamed later (List.mem_cons_of_mem _ member) notPositive
    refine ⟨zero, fun row stored mine => ?_⟩
    obtain ⟨_, writes⟩ := materializeNode_writes turned
    cases last : lastWrite [(nodeTarget subscriptionID node done.1, node)] row.id with
    | none => exact missing row ((writes.untouched row last).mp stored) mine
    | some written =>
        have carries := writes.written row stored written last
        have same : written = node := by
          have inside := mem_of_lastWrite last
          rw [List.mem_singleton] at inside
          exact congrArg Prod.snd inside
        have identity : row.subscriptionIdentity = nodeIdentity node := by
          rw [← same]
          exact congrArg Server.identity carries.server
        have distinct := List.nodup_cons.mp claiming.distinct
        rw [identity]
        exact fun shared => distinct.1 (shared ▸ List.mem_map_of_mem member)
  distinct := (List.nodup_cons.mp claiming.distinct).2

theorem target_named (claiming : Claiming subscriptionID (node :: rest) store.outbounds) (positive : 0 < node.id) :
    nodeTarget subscriptionID node store = node.id ∧ node.id < store.outbounds.next := by
  obtain ⟨row, stored, named, mine⟩ := claiming.named node List.mem_cons_self positive
  rw [nodeTarget, existingNodeRow_named positive stored named mine, ← named]
  exact ⟨rfl, store.outbounds.bounded row stored⟩

theorem target_unnamed (claiming : Claiming subscriptionID (node :: rest) store.outbounds)
    (notPositive : ¬0 < node.id) : nodeTarget subscriptionID node store = store.outbounds.next := by
  obtain ⟨zero, missing⟩ := claiming.unnamed node List.mem_cons_self notPositive
  rw [nodeTarget, existingNodeRow_unnamed zero missing]
  rfl

end Claiming

theorem materializeNode_next {node : MaterializedSubscriptionOutbound} {done next : Store × List Int}
    (turned : materializeNode now subscriptionID done node = .ok next) :
    next.1.outbounds.next = if (existingNodeRow subscriptionID node done.1).isSome then done.1.outbounds.next
      else done.1.outbounds.next + 1 := by
  simp only [materializeNode, bind_eq_ok] at turned
  obtain ⟨_, _, _, _, rest⟩ := turned
  cases claimed : existingNodeRow subscriptionID node done.1 with
  | some existing =>
      simp only [claimed, bind_eq_ok, pure_eq_ok] at rest
      obtain ⟨_, _, rfl⟩ := rest
      rfl
  | none =>
      simp only [claimed, bind_eq_ok, pure_eq_ok] at rest
      obtain ⟨_, _, rfl⟩ := rest
      rfl

/-- The targets are the named rows and new ones, so they are distinct just when the named ones are. -/
theorem targets_spec {nodes : List MaterializedSubscriptionOutbound} {start written : Store × List Int}
    (claiming : Claiming subscriptionID nodes start.1.outbounds) (sound : TagsSound start.1.outbounds)
    (looped : nodes.foldlM (materializeNode now subscriptionID) start = .ok written) {targets : List Int}
    (seen : written.2 = start.2 ++ targets) :
    (namedIDs nodes).Sublist targets ∧
      (∀ target ∈ targets, target ∈ namedIDs nodes ∨ start.1.outbounds.next ≤ target) ∧
      ((namedIDs nodes).Nodup → targets.Nodup) := by
  induction nodes generalizing start targets with
  | nil =>
      cases looped
      rw [List.self_eq_append_right.mp seen]
      exact ⟨.slnil, fun _ member => absurd member List.not_mem_nil, fun _ => List.nodup_nil⟩
  | cons node rest ih =>
      rw [List.foldlM_cons, bind_eq_ok] at looped
      obtain ⟨next, first, others⟩ := looped
      obtain ⟨firstSeen, _⟩ := materializeNode_writes first
      obtain ⟨laterTargets, laterSeen, _, _⟩ := materializeNodes_writes others
      have split : targets = nodeTarget subscriptionID node start.1 :: laterTargets := by
        rw [laterSeen, firstSeen, List.append_assoc, List.singleton_append] at seen
        exact (List.append_cancel_left seen).symm
      obtain ⟨sub, bounds, nodup⟩ := ih (claiming.tail sound first) (materializeNode_tags sound first) others laterSeen
      have grows : start.1.outbounds.next ≤ next.1.outbounds.next := by
        rw [materializeNode_next first]
        split <;> omega
      -- Named rows are older than any row the loop makes.
      have older : ∀ id ∈ namedIDs rest, id < start.1.outbounds.next := by
        intro id member
        obtain ⟨inside, positive⟩ := List.mem_filter.mp member
        obtain ⟨later, laterInside, rfl⟩ := List.mem_map.mp inside
        obtain ⟨row, stored, named, _⟩ :=
          claiming.named later (List.mem_cons_of_mem _ laterInside) (of_decide_eq_true positive)
        rw [← named]
        exact start.1.outbounds.bounded row stored
      rw [split]
      by_cases positive : 0 < node.id
      · obtain ⟨target, below⟩ := claiming.target_named positive
        have names : namedIDs (node :: rest) = node.id :: namedIDs rest := by simp [namedIDs, positive]
        rw [target, names]
        refine ⟨sub.cons_cons _, ?_, ?_⟩
        · intro other member
          rcases List.mem_cons.mp member with rfl | later
          · exact .inl List.mem_cons_self
          · exact (bounds other later).imp (List.mem_cons_of_mem _) grows.trans
        · intro apart
          obtain ⟨notLater, restApart⟩ := List.nodup_cons.mp apart
          refine List.nodup_cons.mpr ⟨fun again => ?_, nodup restApart⟩
          rcases bounds node.id again with named | new
          · exact notLater named
          · omega
      · have names : namedIDs (node :: rest) = namedIDs rest := by simp [namedIDs, positive]
        have target := claiming.target_unnamed positive
        have made : next.1.outbounds.next = start.1.outbounds.next + 1 := by
          obtain ⟨zero, missing⟩ := claiming.unnamed node List.mem_cons_self positive
          rw [materializeNode_next first, existingNodeRow_unnamed zero missing]
          rfl
        rw [target, names]
        refine ⟨sub.cons _, ?_, ?_⟩
        · intro other member
          rcases List.mem_cons.mp member with rfl | later
          · exact .inr le_rfl
          · exact (bounds other later).imp_right grows.trans
        · intro apart
          refine List.nodup_cons.mpr ⟨fun again => ?_, nodup apart⟩
          rcases bounds _ again with named | new
          · exact absurd (older _ named) (lt_irrefl _)
          · omega

end MiGate.Subscription
