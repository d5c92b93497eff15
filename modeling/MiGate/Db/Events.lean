import MiGate.Db.Operations

namespace MiGate.Db

open Go

/-- Something that happens to a store: an operation, or the program being started again on it. -/
inductive StoreEvent where
  | operate (op : StoreOp)
  | reopen

/-- The store `Open` makes of what another run of the program has left. -/
def Store.reopen (store : Store) : Store :=
  seedDefaultOutbounds { store with nextTrafficSamplesCleanup := zeroInstant }

def eventStep (platform : Platform) (event : StoreEvent) (store : Store) : Option Store :=
  match event with
  | .operate op => storeStep platform op store
  | .reopen => some store.reopen

/-- `INSERT OR IGNORE` of one default outbound. -/
def seedOutbound (row : Outbound) (store : Store) : Store :=
  if outboundTagTaken row.tag store then store else insertOutboundRow row store

def directOutbound : Outbound := defaultOutbound "direct" "直接连接" "freedom" 0
def blockedOutbound : Outbound := defaultOutbound "blocked" "阻断" "blackhole" 1
def dnsOutbound : Outbound := defaultOutbound "dns" "DNS" "dns" 2

theorem reopen_eq (store : Store) : store.reopen = seedOutbound dnsOutbound (seedOutbound blockedOutbound
    (seedOutbound directOutbound { store with nextTrafficSamplesCleanup := zeroInstant })) := rfl

end MiGate.Db
