import MiGate.Db.Tags
import MiGate.Relational.Overwrite
import MiGate.Subscription.Materialize

namespace MiGate.Subscription

open Go Db Fallible Relational

variable {now : String} {subscriptionID : Int} {store : Store}

/-! What the loop over the nodes writes: a row holds the last node that claimed it. -/

/-- The columns of a subscription's outbound that come from its link. -/
structure Server where
  identity : String
  remark : String
  protocol : String
  address : String
  port : Int
  username : String
  password : String
  rawLink : String
  settingsJSON : String
deriving DecidableEq

def server (row : Outbound) : Server :=
  ⟨row.subscriptionIdentity, row.remark, row.protocol, row.address, row.port, row.username, row.password,
    row.rawLink, row.settingsJSON⟩

def nodeServer (node : MaterializedSubscriptionOutbound) : Server :=
  server (node.write "" default)

/-- The row is the subscription's and holds the node. -/
structure Carries (subscriptionID : Int) (row : Outbound) (node : MaterializedSubscriptionOutbound) : Prop where
  mine : isSubscriptionOutbound subscriptionID row = true
  server : server row = nodeServer node
  sort : row.sort = 50000 + node.position

/-- The number of the row a node is written to. -/
def nodeTarget (subscriptionID : Int) (node : MaterializedSubscriptionOutbound) (store : Store) : Int :=
  ((existingNodeRow subscriptionID node store).map Outbound.id).getD store.outbounds.next

theorem materializeNode_writes {node : MaterializedSubscriptionOutbound} {done next : Store × List Int}
    (turned : materializeNode now subscriptionID done node = .ok next) :
    next.2 = done.2 ++ [nodeTarget subscriptionID node done.1] ∧
      Overwrites (Carries subscriptionID) done.1.outbounds next.1.outbounds
        [(nodeTarget subscriptionID node done.1, node)] := by
  simp only [materializeNode, bind_eq_ok] at turned
  obtain ⟨_, _, _, _, rest⟩ := turned
  cases claimed : existingNodeRow subscriptionID node done.1 with
  | some existing =>
      simp only [claimed, bind_eq_ok, pure_eq_ok] at rest
      obtain ⟨_, _, rfl⟩ := rest
      have target : nodeTarget subscriptionID node done.1 = existing.id := by rw [nodeTarget, claimed]; rfl
      have stored := existingNodeRow_mem claimed
      rw [target]
      refine ⟨rfl, Overwrites.modify (rewriteNodeRow_id node now) (List.mem_map_of_mem stored) ?_⟩
      intro row rowStored named
      have same : row = existing := Serial.eq_of_id_eq rowStored stored named
      have mine := existingNodeRow_mine claimed
      rw [← same] at mine
      exact ⟨mine, rfl, rfl⟩
  | none =>
      simp only [claimed, bind_eq_ok, pure_eq_ok] at rest
      obtain ⟨_, _, rfl⟩ := rest
      have target : nodeTarget subscriptionID node done.1 = done.1.outbounds.next := by rw [nodeTarget, claimed]; rfl
      rw [target]
      have mine : isSubscriptionOutbound subscriptionID (newNodeRow subscriptionID node now) = true := by
        simp [isSubscriptionOutbound, newNodeRow, MaterializedSubscriptionOutbound.write]
      exact ⟨rfl, Overwrites.insert (fun id => { newNodeRow subscriptionID node now with id }) (fun _ => rfl)
        ⟨mine, rfl, rfl⟩⟩

/-- The loop has one target for each node, in order. -/
theorem materializeNodes_writes {nodes : List MaterializedSubscriptionOutbound} {start written : Store × List Int}
    (looped : nodes.foldlM (materializeNode now subscriptionID) start = .ok written) :
    ∃ targets, written.2 = start.2 ++ targets ∧ targets.length = nodes.length ∧
      Overwrites (Carries subscriptionID) start.1.outbounds written.1.outbounds (targets.zip nodes) := by
  induction nodes generalizing start with
  | nil =>
      cases looped
      exact ⟨[], (List.append_nil _).symm, rfl, Overwrites.refl _⟩
  | cons node rest ih =>
      rw [List.foldlM_cons, bind_eq_ok] at looped
      obtain ⟨next, first, others⟩ := looped
      obtain ⟨seen, writes⟩ := materializeNode_writes first
      obtain ⟨targets, seenAll, length, later⟩ := ih others
      refine ⟨nodeTarget subscriptionID node start.1 :: targets, ?_, ?_, writes.trans later⟩
      · rw [seenAll, seen, List.append_assoc, List.singleton_append]
      · rw [List.length_cons, List.length_cons, length]

/-- A row that is there stays there, with its tag. -/
theorem materializeNode_keeps {node : MaterializedSubscriptionOutbound} {done next : Store × List Int}
    (sound : TagsSound done.1.outbounds) (turned : materializeNode now subscriptionID done node = .ok next)
    {row : Outbound} (stored : row ∈ done.1.outbounds.rows) :
    ∃ kept ∈ next.1.outbounds.rows, kept.id = row.id ∧ kept.tag = row.tag ∧
      isSubscriptionOutbound subscriptionID kept = isSubscriptionOutbound subscriptionID row := by
  simp only [materializeNode, bind_eq_ok] at turned
  obtain ⟨_, _, _, _, rest⟩ := turned
  cases claimed : existingNodeRow subscriptionID node done.1 with
  | some existing =>
      simp only [claimed, bind_eq_ok, pure_eq_ok] at rest
      obtain ⟨_, _, rfl⟩ := rest
      dsimp only
      by_cases chosen : row.id = existing.id
      · refine ⟨rewriteNodeRow node now row, ?_, rfl, ?_, rfl⟩
        · exact Serial.mem_modifyWhere.mpr ⟨row, stored, if_pos (beq_iff_eq.mpr chosen)⟩
        · exact sound.trimmed row.tag (List.mem_map_of_mem stored)
      · refine ⟨row, ?_, rfl, rfl, rfl⟩
        exact Serial.mem_modifyWhere.mpr ⟨row, stored, if_neg (mt beq_iff_eq.mp chosen)⟩
  | none =>
      simp only [claimed, bind_eq_ok, pure_eq_ok] at rest
      obtain ⟨_, _, rfl⟩ := rest
      exact ⟨row, Serial.mem_insert.mpr (.inl stored), rfl, rfl, rfl⟩

theorem materializeNodes_keeps {nodes : List MaterializedSubscriptionOutbound} {start written : Store × List Int}
    (sound : TagsSound start.1.outbounds)
    (looped : nodes.foldlM (materializeNode now subscriptionID) start = .ok written) {row : Outbound}
    (stored : row ∈ start.1.outbounds.rows) :
    ∃ kept ∈ written.1.outbounds.rows, kept.id = row.id ∧ kept.tag = row.tag ∧
      isSubscriptionOutbound subscriptionID kept = isSubscriptionOutbound subscriptionID row := by
  induction nodes generalizing start row with
  | nil =>
      cases looped
      exact ⟨row, stored, rfl, rfl, rfl⟩
  | cons node rest ih =>
      rw [List.foldlM_cons, bind_eq_ok] at looped
      obtain ⟨next, first, others⟩ := looped
      obtain ⟨middle, middleStored, middleID, middleTag, middleMine⟩ := materializeNode_keeps sound first stored
      obtain ⟨kept, keptStored, keptID, keptTag, keptMine⟩ :=
        ih (materializeNode_tags sound first) others middleStored
      exact ⟨kept, keptStored, keptID.trans middleID, keptTag.trans middleTag, keptMine.trans middleMine⟩

end MiGate.Subscription
