import MiGate.Db.ConfigVersion
import MiGate.Web.Validation

namespace MiGate.Web

open Go Db Config Relational Transition

/-! Requests for the dashboard summary, one query or critical section at a time, among writers of
the store. -/

def dashboardSummaryTTL : Int := 7 * second

def dashboardValidationTTL : Int := 30 * second

def dashboardConfigKey (version : Int) : String :=
  "v:" ++ itoa version

/-- The validation of a summary, with the version it was stored under. -/
structure DashboardSummary where
  validation : DashboardValidation
  version : Int

structure DashboardSummaryCache where
  expiresAt : Int
  value : Option DashboardSummary
  validationExpiresAt : Int
  validationValue : Option DashboardValidation
  validationKey : String

def newDashboardSummaryCache : DashboardSummaryCache where
  expiresAt := zeroInstant
  value := none
  validationExpiresAt := zeroInstant
  validationValue := none
  validationKey := ""

def DashboardSummaryCache.current (cache : DashboardSummaryCache) (now : Int) : Option DashboardSummary :=
  if now < cache.expiresAt then cache.value else none

def DashboardSummaryCache.cachedValidation (cache : DashboardSummaryCache) (configKey : String) (now : Int) :
    Option DashboardValidation :=
  if cache.validationKey = configKey ∧ now < cache.validationExpiresAt then cache.validationValue else none

/-- The rows of both queries of `ListInbounds`, put together. -/
def joinClients (rows : List InboundRow) (clients : List Client) : List Inbound :=
  rows.map fun row => { loadInbound row with clients := clients.filter fun client => client.inboundID == row.id }

def validationSnapshotOf (store : Store) : ValidationSnapshot where
  inbounds := listInbounds store
  outbounds := listOutbounds store
  rules := listRoutingRules store

/-- What a request has read once it knows the version; `seen` is the store it read it of. -/
structure DashboardReading where
  outbounds : List Outbound
  rules : List RoutingRule
  now : Int
  version : Int
  seen : VersionedStore

/-- How far a request has come. -/
inductive DashboardStage where
  | idle
  | started
  | outboundsRead (outbounds : List Outbound)
  | rulesRead (outbounds : List Outbound) (rules : List RoutingRule)
  | versionRead (reading : DashboardReading)
  | missed (reading : DashboardReading)
  | inboundsRead (reading : DashboardReading) (rows : List InboundRow)
  | snapshotRead (reading : DashboardReading) (snapshot : ValidationSnapshot)
  | summarized (summary : DashboardSummary)

/-- The store, the cache and the requests, with the states the store has had and the summaries
that were answered. -/
structure Dashboard where
  versioned : VersionedStore
  cache : DashboardSummaryCache
  requests : Nat → DashboardStage
  past : List VersionedStore
  answers : List DashboardSummary

def Dashboard.opened (versioned : VersionedStore) : Dashboard where
  versioned
  cache := newDashboardSummaryCache
  requests := fun _ => .idle
  past := [versioned]
  answers := []

def Dashboard.move (dashboard : Dashboard) (request : Nat) (stage : DashboardStage) : Dashboard :=
  { dashboard with requests := fun other => if other = request then stage else dashboard.requests other }

def Dashboard.answer (dashboard : Dashboard) (request : Nat) (summary : DashboardSummary) : Dashboard :=
  { dashboard.move request .idle with answers := summary :: dashboard.answers }

def Dashboard.write (dashboard : Dashboard) (next : VersionedStore) : Dashboard :=
  { dashboard with versioned := next, past := next :: dashboard.past }

/-- The entry of `dashboardSummaryCache.get`. -/
def Dashboard.get (dashboard : Dashboard) (request : Nat) (now : Int) : Option Dashboard :=
  match dashboard.requests request with
  | .idle =>
      match dashboard.cache.current now with
      | some summary => some (dashboard.answer request summary)
      | none => some (dashboard.move request .started)
  | _ => none

/-- The queries of `buildDashboardSummaryBase` that a validation goes on to use. -/
def Dashboard.readBase (dashboard : Dashboard) (request : Nat) : Option Dashboard :=
  let store := dashboard.versioned.store
  match dashboard.requests request with
  | .started => some (dashboard.move request (.outboundsRead (listOutbounds store)))
  | .outboundsRead outbounds => some (dashboard.move request (.rulesRead outbounds (listRoutingRules store)))
  | _ => none

def Dashboard.readVersion (dashboard : Dashboard) (request : Nat) (now : Int) : Option Dashboard :=
  match dashboard.requests request with
  | .rulesRead outbounds rules =>
      let version := dashboard.versioned.validationConfigVersion
      some (dashboard.move request (.versionRead { outbounds, rules, now, version, seen := dashboard.versioned }))
  | _ => none

def Dashboard.cachedValidation (dashboard : Dashboard) (request : Nat) (now : Int) : Option Dashboard :=
  match dashboard.requests request with
  | .versionRead reading =>
      match dashboard.cache.cachedValidation (dashboardConfigKey reading.version) now with
      | some validation => some (dashboard.move request (.summarized { validation, version := reading.version }))
      | none => some (dashboard.move request (.missed reading))
  | _ => none

/-- The queries of `buildDashboardValidationSnapshot`. -/
def Dashboard.readInbounds (dashboard : Dashboard) (request : Nat) : Option Dashboard :=
  let store := dashboard.versioned.store
  match dashboard.requests request with
  | .missed reading => some (dashboard.move request (.inboundsRead reading store.inbounds.rows))
  | .inboundsRead reading rows =>
      let snapshot : ValidationSnapshot :=
        { inbounds := joinClients rows store.clients.rows, outbounds := reading.outbounds, rules := reading.rules }
      some (dashboard.move request (.snapshotRead reading snapshot))
  | _ => none

def Dashboard.validate (around : ValidationSurroundings) (dashboard : Dashboard) (request : Nat) :
    Option Dashboard :=
  match dashboard.requests request with
  | .snapshotRead reading snapshot =>
      let validation := buildDashboardValidation around snapshot
      let cache := { dashboard.cache with
        validationValue := some validation, validationKey := dashboardConfigKey reading.version
        validationExpiresAt := reading.now + dashboardValidationTTL }
      some { dashboard.move request (.summarized { validation, version := reading.version }) with cache }
  | _ => none

/-- The end of `dashboardSummaryCache.get`, where another request may have been faster. -/
def Dashboard.finish (dashboard : Dashboard) (request : Nat) (now later : Int) : Option Dashboard :=
  match dashboard.requests request with
  | .summarized summary =>
      match dashboard.cache.current now with
      | some other => some (dashboard.answer request other)
      | none =>
          let cache := { dashboard.cache with value := some summary, expiresAt := later + dashboardSummaryTTL }
          some { dashboard.answer request summary with cache }
  | _ => none

/-- One turn of a request: a query or a critical section, with the clock as it reads it. -/
inductive DashboardTurn where
  | get (now : Int)
  | readBase
  | readVersion (now : Int)
  | cachedValidation (now : Int)
  | readInbounds
  | validate
  | finish (now later : Int)
  | fail

def DashboardTurn.run (around : ValidationSurroundings) (turn : DashboardTurn) (request : Nat)
    (dashboard : Dashboard) : Option Dashboard :=
  match turn with
  | get now => dashboard.get request now
  | readBase => dashboard.readBase request
  | readVersion now => dashboard.readVersion request now
  | cachedValidation now => dashboard.cachedValidation request now
  | readInbounds => dashboard.readInbounds request
  | validate => dashboard.validate around request
  | finish now later => dashboard.finish request now later
  | fail => some (dashboard.move request .idle)

/-- The turns of the requests as steps of a system. -/
def dashboardTurn (around : ValidationSurroundings) (turn : Nat × DashboardTurn) (dashboard : Dashboard) :
    Option Dashboard :=
  turn.2.run around turn.1 dashboard

inductive DashboardAction where
  | write (event : VersionedEvent)
  | request (number : Nat) (turn : DashboardTurn)

def DashboardStep (around : ValidationSurroundings) (action : DashboardAction) (before after : Dashboard) : Prop :=
  match action with
  | .write event => ∃ next, VersionStep around.platform event before.versioned next ∧ after = before.write next
  | .request number turn => dashboardTurn around (number, turn) before = some after

/-- A request that does not find its validation cached still holds the outbounds and rules of the
store it read the version of, and finds its inbounds and clients when it comes to read them. -/
def undisturbed (action : DashboardAction) (dashboard : Dashboard) : Bool :=
  let columns := dashboard.versioned.store.configColumns
  match action with
  | .request number (.cachedValidation now) =>
      match dashboard.requests number with
      | .versionRead reading =>
          (dashboard.cache.cachedValidation (dashboardConfigKey reading.version) now).isSome ||
            (reading.outbounds = listOutbounds reading.seen.store ∧
              reading.rules = listRoutingRules reading.seen.store)
      | _ => true
  | .request number .readInbounds =>
      match dashboard.requests number with
      | .missed reading => columns.inbounds = reading.seen.store.configColumns.inbounds
      | .inboundsRead reading _ => columns.clients = reading.seen.store.configColumns.clients
      | _ => true
  | _ => true

end MiGate.Web
