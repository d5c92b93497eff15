import MiGate.Db.Frames

namespace MiGate.Db

open Go Fallible Relational

variable {platform : Platform} {store after : Store}

/-! The operations that are not about outbounds write none. -/

/-- Whether an operation may write the `outbounds` table. -/
def StoreOp.writesOutbounds : StoreOp → Bool
  | createOutbound .. | updateOutbound .. | deleteOutbound .. | setOutboundEnabled .. | reorderOutbounds ..
  | updateOutboundSubscription .. | deleteOutboundSubscription .. | reorderOutboundSubscriptions ..
  | materializeSubscriptionOutbounds .. => true
  | _ => false

theorem outbounds_unchanged {op : StoreOp} (other : op.writesOutbounds = false)
    (done : op.run platform store = .ok after) : after.outbounds = store.outbounds := by
  have same := congrArg Store.outbounds (run_onlyWrites done)
  cases op with
  | createOutbound | updateOutbound | deleteOutbound | setOutboundEnabled | reorderOutbounds => cases other
  | updateOutboundSubscription | deleteOutboundSubscription | reorderOutboundSubscriptions => cases other
  | materializeSubscriptionOutbounds => cases other
  | _ => exact same.symm

end MiGate.Db
