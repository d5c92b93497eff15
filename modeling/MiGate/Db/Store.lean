import MiGate.Db.Models
import MiGate.Go.Time
import MiGate.Relational.Serial

namespace MiGate.Db

open Relational

/-- The contents of the database, with the one in-memory field of Go's `Store`.  The
columns `UNIQUE` constraints speak of are checked by the operations that write them. -/
structure Store where
  inbounds : Serial InboundRow.id
  clients : Serial Client.id
  outbounds : Serial Outbound.id
  outboundSubscriptions : Serial OutboundSubscription.id
  routingRules : Serial RoutingRule.id
  trafficStates : Table TrafficState.key
  trafficSamples : Table TrafficSample.key
  coreApplyStates : Table CoreApplyState.core
  nextTrafficSamplesCleanup : Int

/-- The tables as migration creates them, before the default outbounds are seeded. -/
def Store.empty : Store where
  inbounds := .empty
  clients := .empty
  outbounds := .empty
  outboundSubscriptions := .empty
  routingRules := .empty
  trafficStates := .empty
  trafficSamples := .empty
  coreApplyStates := .empty
  nextTrafficSamplesCleanup := Go.zeroInstant

end MiGate.Db
