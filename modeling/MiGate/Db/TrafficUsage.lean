import MiGate.Db.TrafficRow

namespace MiGate.Db

open Go Relational

structure ClientTrafficUsage where
  clientID : Int
  statsKey : String
  engine : String
  totalUp : Int64
  totalDown : Int64
  rateUp : ℚ
  rateDown : ℚ
  status : String
  message : String
  lastSeenAt : Option Int
deriving DecidableEq, Repr

/-- The rows of a client, in the order of their engines. -/
def trafficStatesForClient (store : Store) (statsKey : String) : List TrafficState :=
  (store.trafficStates.rows.filter fun row =>
    row.scopeType = "client" && row.scopeKey = statsKey).mergeSort fun left right => left.engine ≤ right.engine

/-- The entry `byEngine` of `chooseClientTrafficUsage` holds for an engine: the last row of it. -/
def clientStateByEngine (states : List TrafficState) (statsKey engine : String) : Option TrafficState :=
  (states.filter fun state =>
    normalizeTrafficToken state.scopeType = "client" && trimSpace state.scopeKey = statsKey &&
      normalizeTrafficEngine state.engine = engine).getLast?

def usageFromTrafficState (clientID : Int) (statsKey : String) (state : TrafficState) : ClientTrafficUsage where
  clientID := clientID
  statsKey := statsKey
  engine := normalizeTrafficEngine state.engine
  totalUp := state.totalUp
  totalDown := state.totalDown
  rateUp := state.rateUp
  rateDown := state.rateDown
  status := normalizeTrafficStatus state.status
  message := state.message
  lastSeenAt := state.lastSeenAt

def chooseClientTrafficUsage (clientID : Int) (statsKey expectedEngine : String)
    (states : List TrafficState) : ClientTrafficUsage :=
  let expectedEngine := normalizeTrafficEngine expectedEngine
  match clientStateByEngine states statsKey expectedEngine with
  | some state => usageFromTrafficState clientID statsKey state
  | none =>
      { clientID, statsKey, engine := expectedEngine, totalUp := 0, totalDown := 0, rateUp := 0
        rateDown := 0, status := "waiting", message := "", lastSeenAt := none }

def getClientTrafficUsageForClient (store : Store) (clientID : Int) : Option ClientTrafficUsage :=
  if clientID ≤ 0 then none
  else do
    let client ← store.clients.find? clientID
    let inbound ← store.inbounds.find? client.inboundID
    return chooseClientTrafficUsage clientID client.statsKey
      (expectedTrafficEngineForProtocol inbound.protocol) (trafficStatesForClient store client.statsKey)

/-! ### The row a client's usage is read from -/

/-- The rows every operation leaves behind: engines are lower-case and trimmed, and no
reading is ever counted under the alias of the sing-box engine. -/
def TrafficRowsSound (store : Store) : Prop :=
  ∀ row ∈ store.trafficStates.rows, normalizeTrafficToken row.engine = row.engine ∧
    (row.engine = "sing-box" → row.totalUp = 0 ∧ row.totalDown = 0)

end MiGate.Db
