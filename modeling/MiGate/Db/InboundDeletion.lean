import MiGate.Config.Totality
import MiGate.Db.ClientsSound
import MiGate.Db.RefreshTx
import MiGate.Db.RuleScope

namespace MiGate.Db

open Go Fallible Relational Statements Transition

variable {platform : Platform} {store after : Store}

/-! `DeleteInbound` statement by statement, and which rules go with the inbound. -/

/-- The rules of the clients of an inbound. -/
def ruleOfClients (inboundID : Int) (clients : List Client) (rule : RoutingRule) : Bool :=
  clients.any fun client => client.inboundID == inboundID && client.id == rule.clientID

/-- The rules the first `DELETE` names. -/
def ruleNamesInbound (inbound : InboundRow) (clients : List Client) (rule : RoutingRule) : Bool :=
  ruleOfClients inbound.id clients rule ||
    rule.inboundTag == generatedTagOf inbound.id inbound.protocol ||
    (sqlTrim inbound.remark != "" && rule.inboundTag == sqlTrim inbound.remark)

def deleteNamedRules (inbound : InboundRow) (store : Store) : Store :=
  { store with routingRules := store.routingRules.deleteWhere (ruleNamesInbound inbound store.clients.rows) }

/-- The rules of a client go with it: `ON DELETE CASCADE`. -/
def deleteClientsOf (inboundID : Int) (store : Store) : Store :=
  { store with
    clients := store.clients.deleteWhere fun client => client.inboundID == inboundID
    routingRules := store.routingRules.deleteWhere (ruleOfClients inboundID store.clients.rows) }

/-- The clients of an inbound go with it, and the rules of both. -/
def deleteInboundRow (id : Int) (store : Store) : Store :=
  let store := deleteClientsOf id store
  { store with
    inbounds := store.inbounds.deleteWhere fun row => row.id == id
    routingRules := store.routingRules.deleteWhere fun rule => rule.inboundID == id }

def deleteInboundStatements (id : Int) : Tx Unit := do
  let found ← query fun store => store.inbounds.find? id
  let inbound ← check (expect found s!"inbound not found: {id}")
  execute (deleteNamedRules inbound)
  execute (deleteClientsOf id)
  let affected ← statement fun store => .ok (deleteInboundRow id store, (store.inbounds.find? id).isSome)
  check (require affected s!"inbound not found: {id}")

def deleteInboundTx (id : Int) : Tx Unit :=
  transact (deleteInboundStatements id)

theorem deleteInboundTx_performs (id : Int) :
    Performs (deleteInboundTx id) fun store => (deleteInbound id store).map fun store => (store, ()) := by
  refine Performs.transact (Performs.congr ((Performs.query _).bind fun found => (Performs.check _).bind fun inbound =>
    (Performs.execute _).bind fun _ => (Performs.execute _).bind fun _ => (Performs.statement _).bind fun affected =>
      .check _) fun store => ?_)
  unfold deleteInbound
  cases found : store.inbounds.find? id with
  | none => rfl
  | some inbound =>
      have present : ((deleteClientsOf id (deleteNamedRules inbound store)).inbounds.find? id).isSome = true := by
        change (store.inbounds.find? id).isSome = true
        rw [found]
        rfl
      have named := Serial.id_of_find? found
      have rules : ∀ rule ∈ store.routingRules.rows,
          (((ruleNamesInbound inbound store.clients.rows rule || ruleOfClients id store.clients.rows rule) ||
              ruleOfClients id (store.clients.deleteWhere fun client => client.inboundID == id).rows rule) ||
            rule.inboundID == id) =
          ruleGoesWithInbound inbound store.clients.rows rule := by
        intro rule _
        have gone : ruleOfClients id (store.clients.deleteWhere fun client => client.inboundID == id).rows rule = false := by
          simp only [ruleOfClients, List.any_eq_false, Serial.mem_deleteWhere, beq_eq_false_iff_ne]
          intro client member
          simp [member.2]
        rw [gone, ruleNamesInbound, ruleGoesWithInbound, named, ruleOfClients]
        cases store.clients.rows.any fun client => client.inboundID == id && client.id == rule.clientID
        · simp
        · simp
      have same : deleteInboundRow id (deleteClientsOf id (deleteNamedRules inbound store)) =
          { store with
            routingRules := store.routingRules.deleteWhere (ruleGoesWithInbound inbound store.clients.rows)
            clients := store.clients.deleteWhere fun client => client.inboundID == id
            inbounds := store.inbounds.deleteWhere fun row => row.id == id } := by
        simp only [deleteInboundRow, deleteClientsOf, deleteNamedRules, Serial.deleteWhere_deleteWhere, Bool.or_self]
        rw [Serial.deleteWhere_congr rules]
      simp only [Except.bind, Except.map, expect, require, present, same, bind, pure, Except.pure, if_true]

/-- What a deletion is to leave: everything but the inbound, its clients and their rules. -/
def withoutInbound (id : Int) (store : Store) : Store :=
  { store with
    inbounds := store.inbounds.deleteWhere fun row => row.id == id
    clients := store.clients.deleteWhere fun client => client.inboundID == id
    routingRules := store.routingRules.deleteWhere fun rule =>
      rule.inboundID == id || ruleOfClients id store.clients.rows rule }

/-- A deletion takes what belongs to the inbound and nothing else, and takes nothing where it
fails, whatever statement fails. -/
structure DeletesOwn (id : Int) (store : Store) : Prop where
  deleted : ∀ faults issued after count,
    deleteInboundTx id faults (store, issued) = (.ok (), after, count) → after = withoutInbound id store
  undone : ∀ faults issued reason,
    (deleteInboundTx id faults (store, issued)).1 = .error reason →
      (deleteInboundTx id faults (store, issued)).2.1 = store
  completes : ∀ row ∈ store.inbounds.rows, row.id = id → ∀ issued, ∃ after count,
    deleteInboundTx id (fun _ => none) (store, issued) = (.ok (), after, count)

/-- No rule of anything else is tagged with a name of the inbound. -/
def TagsApart (id : Int) (store : Store) : Prop :=
  ∀ row ∈ store.inbounds.rows, row.id = id → ∀ rule ∈ store.routingRules.rows, rule.inboundID ≠ id →
    rule.inboundTag ≠ generatedTagOf id row.protocol ∧
      (sqlTrim row.remark ≠ "" → rule.inboundTag ≠ sqlTrim row.remark)

/-- A rule of a client of the inbound is bound to the inbound. -/
theorem StoreInv.ruleOfClients_bound (inv : StoreInv store) {id : Int} {rule : RoutingRule}
    (member : rule ∈ store.routingRules.rows) (ofClients : ruleOfClients id store.clients.rows rule = true) :
    rule.inboundID = id := by
  simp only [ruleOfClients, List.any_eq_true, Bool.and_eq_true, beq_iff_eq] at ofClients
  obtain ⟨client, inside, home, named⟩ := ofClients
  have positive := store.clients.positive client inside
  cases inv.names member with
  | anything _ noClient _ => omega
  | inbound _ _ noClient => omega
  | client _ other _ found belongs =>
      have same : other = client :=
        Serial.eq_of_id_eq (Serial.mem_of_find? found) inside ((Serial.id_of_find? found).trans named.symm)
      rw [← belongs, same, home]

theorem ruleGoesWithInbound_iff (inbound : InboundRow) (clients : List Client) (rule : RoutingRule) :
    ruleGoesWithInbound inbound clients rule = true ↔
      ((ruleOfClients inbound.id clients rule = true ∨
            rule.inboundTag = generatedTagOf inbound.id inbound.protocol) ∨
          (sqlTrim inbound.remark ≠ "" ∧ rule.inboundTag = sqlTrim inbound.remark)) ∨
        rule.inboundID = inbound.id := by
  simp only [ruleGoesWithInbound, ruleOfClients, Bool.or_eq_true, Bool.and_eq_true, beq_iff_eq, bne_iff_ne, ne_eq]

/-- The deletion leaves what it is to leave exactly where no other rule is tagged so. -/
theorem deleteInbound_own_iff (inv : StoreInv store) {id : Int} (done : deleteInbound id store = .ok after) :
    after = withoutInbound id store ↔ TagsApart id store := by
  simp only [deleteInbound, bind_eq_ok, expect_eq_ok, pure_eq_ok] at done
  obtain ⟨inbound, found, rfl⟩ := done
  have named := Serial.id_of_find? found
  have stored := Serial.mem_of_find? found
  constructor
  · intro same row member rowNamed rule ruleMember elsewhere
    have equal : row = inbound := Serial.eq_of_id_eq member stored (rowNamed.trans named.symm)
    have spared : rule ∈ (withoutInbound id store).routingRules.rows := by
      refine Serial.mem_deleteWhere.mpr ⟨ruleMember, ?_⟩
      have unowned : ruleOfClients id store.clients.rows rule ≠ true :=
        fun ofClients => elsewhere (inv.ruleOfClients_bound ruleMember ofClients)
      simpa [elsewhere] using unowned
    rw [← same] at spared
    have stays := (Serial.mem_deleteWhere.mp spared).2
    rw [equal]
    constructor
    · intro tagged
      rw [← named] at tagged
      have goes := (ruleGoesWithInbound_iff inbound store.clients.rows rule).mpr (.inl (.inl (.inr tagged)))
      exact Bool.noConfusion (stays.symm.trans goes)
    · intro given tagged
      have goes := (ruleGoesWithInbound_iff inbound store.clients.rows rule).mpr (.inl (.inr ⟨given, tagged⟩))
      exact Bool.noConfusion (stays.symm.trans goes)
  · intro apart
    have rules : ∀ rule ∈ store.routingRules.rows, ruleGoesWithInbound inbound store.clients.rows rule =
        (rule.inboundID == id || ruleOfClients id store.clients.rows rule) := by
      intro rule member
      rw [Bool.eq_iff_iff, ruleGoesWithInbound_iff, named, Bool.or_eq_true, beq_iff_eq]
      constructor
      · intro goes
        by_cases bound : rule.inboundID = id
        · exact .inl bound
        · obtain ⟨otherTag, otherRemark⟩ := apart inbound stored named rule member bound
          rcases goes with ((owned | tagged) | ⟨given, tagged⟩) | selected
          · exact .inr owned
          · exact absurd tagged otherTag
          · exact absurd tagged (otherRemark given)
          · exact absurd selected bound
      · intro owned
        cases owned with
        | inl selected => exact .inr selected
        | inr owned => exact .inl (.inl (.inl owned))
    rw [withoutInbound, Serial.deleteWhere_congr rules]

theorem deleteInbound_completes {row : InboundRow} (stored : row ∈ store.inbounds.rows) :
    ∃ after, deleteInbound row.id store = .ok after := by
  simp only [deleteInbound, bind_eq_ok, expect_eq_ok, pure_eq_ok]
  exact ⟨_, row, Serial.find?_of_mem stored, rfl⟩

/-- Deleting an inbound takes exactly what belongs to it where no other rule is tagged with a
name of it, and takes a rule of something else where one is. -/
theorem deletesOwn_iff (reached : Reach (Steps (eventStep platform)) Store.initial store) (id : Int) :
    DeletesOwn id store ↔ TagsApart id store := by
  have inv := events_inv reached
  have performs := deleteInboundTx_performs id
  constructor
  · intro owns row member named
    subst named
    obtain ⟨after, count, ran⟩ := owns.completes row member rfl 0
    obtain ⟨state, done, same⟩ := map_eq_ok.mp (performs.sound ran)
    cases same
    exact (deleteInbound_own_iff inv done).mp (owns.deleted _ _ _ _ ran) row member rfl
  · intro apart
    refine ⟨?_, fun _ _ _ => transact_error, ?_⟩
    · intro faults issued after count ran
      obtain ⟨state, done, same⟩ := map_eq_ok.mp (performs.sound ran)
      cases same
      exact (deleteInbound_own_iff inv done).mpr apart
    · intro row member named issued
      obtain ⟨after, done⟩ := deleteInbound_completes member
      rw [named] at done
      exact ⟨after, performs.complete issued (map_eq_ok.mpr ⟨after, done, rfl⟩)⟩

/-- Two inbounds of one remark, and a rule that is created for it. -/
def exampleTwins (tag : String) : Store :=
  arrive (eventStep Config.examplePlatform)
    [.operate (Config.exampleInbound 1 "socks" 20001), .operate (Config.exampleInbound 2 "socks" 20002),
      .operate (.createRoutingRule { (default : RoutingRuleParams) with
        inboundTag := tag, outboundID := 1, enabled := true })] Store.initial

/-- The rule was given to the first inbound, and goes with the second. -/
theorem twin_rule_is_lost :
    (exampleTwins "socks").routingRules.rows.map (fun rule => (rule.inboundID, rule.inboundTag)) = [(1, "socks")] ∧
      ((deleteInbound 2 (exampleTwins "socks")).toOption.map fun after => after.routingRules.rows.length) = some 0 ∧
      ¬ ∀ (platform : Platform) (store : Store), Reach (Steps (eventStep platform)) Store.initial store →
        ∀ id, DeletesOwn id store := by
  have lost : ((deleteInbound 2 (exampleTwins "socks")).toOption.map fun after =>
      after.routingRules.rows.length) = some 0 := by with_unfolding_all decide
  have owned : (withoutInbound 2 (exampleTwins "socks")).routingRules.rows.length = 1 := by with_unfolding_all decide
  refine ⟨by with_unfolding_all decide, lost, fun always => ?_⟩
  have owns := always Config.examplePlatform (exampleTwins "socks") (Reach.arrive _ _ _) 2
  cases done : deleteInbound 2 (exampleTwins "socks") with
  | error reason =>
      rw [done] at lost
      cases lost
  | ok after =>
      have effect : (deleteInbound 2 (exampleTwins "socks")).map (fun store => (store, ())) = .ok (after, ()) := by
        rw [done]
        rfl
      obtain ⟨count, ran⟩ := (deleteInboundTx_performs 2).complete 0 effect
      have same := owns.deleted _ _ _ _ ran
      rw [done, same] at lost
      have equal : (withoutInbound 2 (exampleTwins "socks")).routingRules.rows.length = 0 := Option.some.inj lost
      omega

/-- A rule tagged with the generated tag of its inbound stays when the twin goes. -/
theorem twin_rule_stays : DeletesOwn 2 (exampleTwins "inbound-1-socks") := by
  refine (deletesOwn_iff (Reach.arrive (eventStep Config.examplePlatform) _ _) 2).mpr ?_
  unfold TagsApart
  with_unfolding_all decide

end MiGate.Db
