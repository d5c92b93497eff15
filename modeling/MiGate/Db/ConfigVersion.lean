import MiGate.Db.ClientsInv
import MiGate.Db.Events
import MiGate.Db.Frames
import MiGate.Db.TrafficRow
import MiGate.Relational.Firing

namespace MiGate.Db

open Go Fallible Relational Transition

variable {platform : Platform} {entropy : Entropy} {store middle after : Store}

/-! The counter `validation_version` and the triggers that increase it. -/

/-- The columns of a client whose update fires a trigger. -/
structure VersionedClient where
  uuid : String
  credentialID : String
  password : String
  statsKey : String
  email : String
  enabled : Bool
deriving DecidableEq

def Client.versioned (client : Client) : VersionedClient where
  uuid := client.uuid
  credentialID := client.credentialID
  password := client.password
  statsKey := client.statsKey
  email := client.email
  enabled := client.enabled

/-- How often, at least, the triggers of `ensureConfigVersionTriggers` fire between two stores. -/
def configFirings (store after : Store) : Nat :=
  store.inbounds.firings (fun row => row) after.inbounds +
    store.clients.firings Client.versioned after.clients +
    store.outbounds.firings (fun row => row) after.outbounds +
    store.routingRules.firings (fun row => row) after.routingRules

/-- The database with the value of `validation_version` in `config_meta`. -/
structure VersionedStore where
  store : Store
  version : Int

def VersionedStore.initial : VersionedStore :=
  ⟨Store.initial, 1 + configFirings Store.empty Store.initial⟩

def VersionedStore.validationConfigVersion (versioned : VersionedStore) : Int :=
  versioned.version

/-- Two stores that differ in no table that has a trigger. -/
structure SameConfigTables (store after : Store) : Prop where
  inbounds : after.inbounds = store.inbounds
  clients : after.clients = store.clients
  outbounds : after.outbounds = store.outbounds
  routingRules : after.routingRules = store.routingRules

/-- An event of the store, or an operation on its other tables. -/
inductive VersionedEvent where
  | event (event : StoreEvent)
  | elsewhere

def VersionStep (platform : Platform) (action : VersionedEvent) (before after : VersionedStore) : Prop :=
  match action with
  | .event event => eventStep platform event before.store = some after.store ∧
      before.version + configFirings before.store after.store ≤ after.version
  | .elsewhere => SameConfigTables before.store after.store ∧ after.version = before.version

theorem SameButTraffic.config (same : SameButTraffic store after) : SameConfigTables store after :=
  ⟨same.inbounds, same.clients, same.outbounds, same.routingRules⟩

theorem SameConfigTables.silent (same : SameConfigTables store after) : configFirings store after = 0 := by
  rw [configFirings, same.inbounds, same.clients, same.outbounds, same.routingRules]
  simp only [Serial.firings_self]

/-! No operation moves a client to another inbound, which no trigger would notice. -/

def ClientsStay (store after : Store) : Prop :=
  ∀ old ∈ store.clients.rows, ∀ new ∈ after.clients.rows, new.id = old.id → new.inboundID = old.inboundID

theorem ClientsStay.congr (same : after.clients = store.clients) : ClientsStay store after := by
  intro old stored new member named
  rw [same] at member
  rw [Serial.eq_of_id_eq member stored named]

theorem ClientsStay.modify {selected : Client → Bool} {change : Client → Client}
    (keeps : ∀ row, (change row).id = row.id)
    (clients : after.clients = store.clients.modifyWhere selected change keeps)
    (bound : ∀ row, (change row).inboundID = row.inboundID) : ClientsStay store after := by
  intro old stored new member named
  rw [clients] at member
  obtain ⟨source, inside, rfl⟩ := Serial.mem_modifyWhere.mp member
  have same : source = old := by
    refine Serial.eq_of_id_eq inside stored ?_
    rw [← named]
    split
    · exact (keeps source).symm
    · rfl
  rw [← same]
  split
  · exact bound source
  · rfl

theorem ClientsStay.delete {gone : Client → Bool} (clients : after.clients = store.clients.deleteWhere gone) :
    ClientsStay store after := by
  intro old stored new member named
  rw [clients] at member
  rw [Serial.eq_of_id_eq (Serial.mem_deleteWhere.mp member).1 stored named]

theorem insertClient_stay {client inserted : Client} (done : insertClient client store = .ok (after, inserted)) :
    ClientsStay store after := by
  obtain ⟨rfl, _⟩ := insertClient_spec done
  intro old stored new member named
  rcases Serial.mem_insert.mp member with kept | made
  · rw [Serial.eq_of_id_eq kept stored named]
  · have below := store.clients.bounded old stored
    rw [made] at named
    exact absurd named (Int.ne_of_gt below)

theorem createInbound_stay {params : CreateInboundParams} {inbound : Inbound}
    (done : createInbound platform entropy params store = .ok (after, inbound)) : ClientsStay store after := by
  simp only [createInbound, bind_eq_ok] at done
  obtain ⟨row, _, rest⟩ := done
  cases initial : params.initialClient with
  | none =>
      simp only [initial, bind_eq_ok, pure_eq_ok, Prod.mk.injEq, Prod.exists] at rest
      obtain ⟨_, _, inserted, rfl, _⟩ := rest
      exact .congr (congrArg Store.clients (insertInbound_onlyWrites inserted)).symm
  | some initialClient =>
      simp only [initial, bind_eq_ok, pure_eq_ok, Prod.mk.injEq, Prod.exists] at rest
      obtain ⟨_, _, _, _, inserted, _, _, added, rfl, _⟩ := rest
      have entered := congrArg Store.clients (insertInbound_onlyWrites inserted)
      intro old stored
      rw [show store.clients = _ from entered] at stored
      exact insertClient_stay added old stored

theorem operate_stay {op : StoreOp} (done : op.run platform store = .ok after) : ClientsStay store after := by
  cases op with
  | createInbound entropy params =>
      obtain ⟨_, created⟩ := map_fst_eq_ok.mp done
      exact createInbound_stay created
  | deleteInbound id =>
      simp only [StoreOp.run, Db.deleteInbound, bind_eq_ok, pure_eq_ok] at done
      obtain ⟨_, _, rfl⟩ := done
      exact .delete rfl
  | createClient entropy params =>
      obtain ⟨_, created⟩ := map_fst_eq_ok.mp done
      simp only [Db.createClient, bind_eq_ok] at created
      obtain ⟨_, _, _, _, _, _, inserted⟩ := created
      exact insertClient_stay inserted
  | updateClient entropy id params =>
      simp only [StoreOp.run, map_fst_eq_ok, Db.updateClient, bind_eq_ok, pure_eq_ok, Prod.mk.injEq] at done
      obtain ⟨_, _, _, _, _, _, _, _, _, rfl, _⟩ := done
      exact .modify (updateClientRow_id _ _ _) rfl fun _ => rfl
  | deleteClient id =>
      simp only [StoreOp.run, Db.deleteClient, bind_eq_ok, pure_eq_ok] at done
      obtain ⟨_, _, rfl⟩ := done
      exact .delete rfl
  | setClientEnabled inboundID id enabled =>
      simp only [StoreOp.run, map_fst_eq_ok, Db.setClientEnabled, bind_eq_ok, pure_eq_ok, Prod.mk.injEq] at done
      obtain ⟨_, _, _, rfl, _⟩ := done
      exact .modify (enableClient_id enabled) rfl fun _ => rfl
  | _ => exact .congr (congrArg Store.clients (run_onlyWrites done)).symm

theorem seedOutbound_clients (row : Outbound) (store : Store) : (seedOutbound row store).clients = store.clients := by
  unfold seedOutbound
  split <;> rfl

theorem event_stay {event : StoreEvent} (stepped : eventStep platform event store = some after) :
    ClientsStay store after := by
  cases event with
  | operate op => exact operate_stay (storeStep_eq_some.mp stepped)
  | reopen =>
      refine .congr ?_
      rw [← Option.some.inj stepped, reopen_eq]
      simp only [seedOutbound_clients]

/-! What the generators read of the store. -/

/-- A client without the columns that go into no configuration. -/
def configClient (client : Client) : Client :=
  { client with subscriptionToken := "", trafficLimit := 0, expiryAt := 0 }

/-- The columns of the four tables that go into a configuration. -/
structure ConfigColumns where
  inbounds : List InboundRow
  clients : List Client
  outbounds : List Outbound
  routingRules : List RoutingRule
deriving DecidableEq

def Store.configColumns (store : Store) : ConfigColumns where
  inbounds := store.inbounds.rows
  clients := store.clients.rows.map configClient
  outbounds := store.outbounds.rows
  routingRules := store.routingRules.rows

theorem configColumns_of_silent (silent : configFirings store after = 0) (stay : ClientsStay store after) :
    after.configColumns = store.configColumns := by
  simp only [configFirings, Nat.add_eq_zero_iff, and_assoc] at silent
  obtain ⟨inbounds, clients, outbounds, routingRules⟩ := silent
  have columns : after.clients.rows.map configClient = store.clients.rows.map configClient := by
    refine Serial.column_of_silent clients fun old stored new member named same => ?_
    have bound := stay old stored new member named
    simp only [Client.versioned, VersionedClient.mk.injEq] at same
    obtain ⟨uuid, credentialID, password, statsKey, email, enabled⟩ := same
    simp only [configClient, Client.mk.injEq, and_true, true_and]
    exact ⟨named, bound, uuid, credentialID, password, statsKey, email, enabled⟩
  simp only [Store.configColumns, columns, Serial.rows_of_silent inbounds, Serial.rows_of_silent outbounds,
    Serial.rows_of_silent routingRules]

theorem VersionStep.version_le {action : VersionedEvent} {before after : VersionedStore}
    (stepped : VersionStep platform action before after) : before.version ≤ after.version := by
  cases action with
  | event event =>
      have counted := stepped.2
      omega
  | elsewhere => exact Int.le_of_eq stepped.2.symm

theorem VersionStep.configColumns {action : VersionedEvent} {before after : VersionedStore}
    (stepped : VersionStep platform action before after) (same : after.version = before.version) :
    after.store.configColumns = before.store.configColumns := by
  cases action with
  | event event =>
      obtain ⟨moved, counted⟩ := stepped
      exact configColumns_of_silent (by omega) (event_stay moved)
  | elsewhere =>
      obtain ⟨frame, _⟩ := stepped
      exact configColumns_of_silent frame.silent (.congr frame.clients)

theorem version_mono {before after : VersionedStore} (run : Reach (VersionStep platform) before after) :
    before.version ≤ after.version := by
  induction run with
  | start => exact Int.le_refl _
  | step _ stepped ih => exact Int.le_trans ih stepped.version_le

/-- While the version stays the same, so does everything the generators read. -/
theorem configColumns_of_version {before after : VersionedStore} (run : Reach (VersionStep platform) before after)
    (same : after.version = before.version) : after.store.configColumns = before.store.configColumns := by
  induction run with
  | start => rfl
  | @step middle after _ earlier stepped ih =>
      have first := version_mono earlier
      have last := stepped.version_le
      have unchanged : middle.version = before.version := by omega
      exact (stepped.configColumns (same.trans unchanged.symm)).trans (ih unchanged)

end MiGate.Db
