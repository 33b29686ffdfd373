import ScadaCore.Scada.Types

/-!
# Scada.MonitoredItem — subscriptions and their handlers

What `scada/monitored_item.h` declares for a subscription and for the handlers of
an item. `V` are the values of variables, `E` what the `std::any` of an event can
hold; an empty one is `none`.
-/

namespace ScadaCore.Scada.MonitoredItem

/-- `struct MonitoredItemCreateResult`. -/
structure CreateResult where
  itemId : UInt32 := 0
  clientHandle : UInt32 := 0
  status : Status := StatusCode.bad
deriving DecidableEq, Repr

/-- `struct MonitoredItemSubscriptionOptions`. -/
structure SubscriptionOptions where
  maxPendingNotifications : Nat := 65536
  maxBatchSize : Nat := 1024
deriving DecidableEq, Repr

def batchCount (options : SubscriptionOptions) (maxCount size : Nat) : Nat :=
  min (min maxCount options.maxBatchSize) size

/-- `MonitoredItemNotification`. -/
inductive Notification (V E : Type) where
  | dataChange (itemId clientHandle : UInt32) (value : DataValue V)
  | event (itemId clientHandle : UInt32) (status : Status) (event : Option E)
  | itemStatus (itemId clientHandle : UInt32) (status : Status)
  | overflow (status : Status)

variable {V E : Type}

def Notification.clientHandle? : Notification V E → Option UInt32
  | .dataChange _ clientHandle _ => some clientHandle
  | .event _ clientHandle _ _ => some clientHandle
  | .itemStatus _ clientHandle _ => some clientHandle
  | .overflow _ => none

/-- What is queued in place of what a queue has no room for. -/
def Notification.overflowMark : Notification V E := .overflow StatusCode.badObjectIsBusy

/-- `MonitoredItemHandler`: which of the two functions it is, and whether there is
something in the `std::function`. -/
inductive Handler where
  | dataChange (callable : Bool)
  | event (callable : Bool)
deriving DecidableEq, Repr

/-- A call of an item's handler. -/
inductive Invocation (V E : Type) where
  | dataChange (item : Nat) (value : DataValue V)
  | event (item : Nat) (status : Status) (event : Option E)

namespace Invocation

def item : Invocation V E → Nat
  | .dataChange item _ => item
  | .event item _ _ => item

def isBad : Invocation V E → Bool
  | .dataChange _ value => value.statusCode.isBad
  | .event _ status _ => status.bad

end Invocation

end ScadaCore.Scada.MonitoredItem
