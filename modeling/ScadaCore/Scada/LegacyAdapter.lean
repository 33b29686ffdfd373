import ScadaCore.Lts.CallChain
import ScadaCore.Scada.MonitoredItem
import ScadaCore.Data.Table

/-!
# Scada.LegacyAdapter — single items over a shared subscription

`LegacyMonitoredItemAdapter` gives out single items and serves them all by one
`MonitoredItemSubscriptionPump`. The code is a chain of calls on the thread of
the executor: an instruction is a critical section with what follows it up to
the next call, so that the mutex it acquires is free again after it. One section
makes calls before it ends: `AddItem` starts the pump under the mutex of the
state, and the read loop that is spawned there may run at once.

Items have numbers; `CreateMonitoredItem` gives out a number whose item is still
in its initial state. What a backend answers, when it answers and what a handler
calls is up to the environment. A weak pointer that has expired is not modelled:
the items it could lead to are closed by then, which no function tells from
their absence.
-/

namespace ScadaCore.Scada.LegacyAdapter

open Lts MonitoredItem

/-! ## Data -/

inductive Mutex where
  | state
  | item (item : Nat)
  | pump
deriving DecidableEq, Repr

/-- `struct ItemState`; of a handler we keep whether it can be called. -/
structure ItemState where
  dataChangeHandler : Bool := false
  eventHandler : Bool := false
  itemId : UInt32 := 0
  clientHandle : UInt32 := 0
  addRequested : Bool := false
  closed : Bool := false
deriving DecidableEq, Repr

def ItemState.setHandler (item : ItemState) : Handler → ItemState
  | .dataChange callable => { item with dataChangeHandler := callable }
  | .event callable => { item with eventHandler := callable }

/-- `class MonitoredItemSubscriptionPump`: whether `state_` is there, which it is
once a subscription was created, and its `closed`. -/
structure Pump where
  started : Bool := false
  closed : Bool := false
deriving DecidableEq, Repr

def Pump.connected (pump : Pump) : Bool := pump.started && !pump.closed

structure State where
  pump : Option Pump := none
  itemsByClientHandle : Table UInt32 Nat := ∅
  nextClientHandle : UInt32 := 1
  closed : Bool := false

/-- The adapter with its items, the mutexes that the chain holds, and what has
been seen from outside: calls of handlers, calls of `RemoveItems`, and whether
the owner has closed the adapter. -/
structure Adapter (V E : Type) where
  state : State := {}
  items : Nat → ItemState := fun _ => {}
  held : List Mutex := []
  invocations : List (Invocation V E) := []
  removals : List UInt32 := []
  closedByOwner : Bool := false

/-- The instructions, by the function they are the next step of. -/
inductive Instr (V E : Type) where
  /-- `MonitoredItem::Subscribe`. -/
  | subscribe (item : Nat) (handler : Handler)
  /-- The destructor of an item. -/
  | destroy (item : Nat)
  /-- `LegacyMonitoredItemAdapter::Close`. -/
  | close (status : Status)
  /-- `AddItem`, its coroutine, `CreateSubscription` within `Start`, the rest of
  the critical section, and what waits for `AddItems`. -/
  | addItem (item : Nat)
  | startItem (item : Nat)
  | createSubscription (item : Nat)
  | register (item : Nat)
  | callAddItems (item : Nat) (clientHandle : UInt32)
  | addItems (item : Nat) (clientHandle : UInt32)
  | eraseItemMapping (clientHandle : UInt32)
  | report (item : Nat) (status : Status)
  | closeItem (item : Nat)
  | itemAdded (item : Nat) (clientHandle itemId : UInt32)
  /-- `RemoveItem` and its coroutine. -/
  | removeItem (clientHandle itemId : UInt32)
  | removeItems (itemId : UInt32)
  /-- `ReadLoop` when it is spawned, at the head of its loop and in `ReadNext`. -/
  | startReadLoop
  | readLoop
  | readNext
  /-- One round of the loop of `OnNotifications`. -/
  | notify (notification : Notification V E)
  /-- `CloseAll` for the read loop; its loop over the items; `Close` of the
  pump. -/
  | errorHandler (status : Status)
  | closeItems (items : List Nat)
  | closePump
  /-- A handler, which may call the adapter. -/
  | handler
  /-- The process has been terminated by a `base::Check`. -/
  | terminated

/-- What the environment answers. -/
inductive Answer (V E : Type) where
  /-- Nothing: the thread goes on, at this time. -/
  | run (now : Time)
  | createSubscription (answer : StatusOr Unit)
  | addItems (results : List CreateResult)
  | readNext (answer : StatusOr (List (Notification V E)))
  | handlerReturns

variable {V E : Type}

namespace Adapter

abbrev Result (V E : Type) := Adapter V E × List (Instr V E)

variable (a : Adapter V E) (item : Nat)

def setItem (itemState : ItemState) : Adapter V E :=
  { a with items := Function.update a.items item itemState }

/-! ## Items -/

def closeItem : Adapter V E :=
  a.setItem item { a.items item with closed := true }

def subscribe (handler : Handler) : Result V E :=
  let itemState := (a.items item).setHandler handler
  (a.setItem item itemState,
    if !itemState.closed && !itemState.addRequested then [.addItem item] else [])

/-- `SubscriptionBackedMonitoredItem::Close`. -/
def destroy : Result V E :=
  let itemState := a.items item
  if itemState.closed then
    (a, [])
  else
    (a.closeItem item,
      if itemState.clientHandle ≠ 0 then
        [.removeItem itemState.clientHandle itemState.itemId]
      else
        -- not added yet: an add that is under way finds the item closed
        [])

def invoke (invocation : Invocation V E) : Result V E :=
  ({ a with invocations := a.invocations ++ [invocation] }, [.handler])

/-- The item is told a status, by the data-change handler if it has one and else
by the event handler. -/
def tellStatus (status : Status) (now : Time) : Result V E :=
  if (a.items item).dataChangeHandler then
    match DataValue.ofStatus status.code now with
    | some value => a.invoke (.dataChange item value)
    | none => (a, [.terminated])
  else if (a.items item).eventHandler then
    a.invoke (.event item status none)
  else
    (a, [])

/-! ## `AddItem` -/

/-- `AddItem` up to the spawn of its coroutine. -/
def addItem : Result V E :=
  let itemState := a.items item
  if itemState.closed || itemState.addRequested then
    (a, [])
  else
    (a.setItem item { itemState with addRequested := true }, [.startItem item])

/-- The end of the critical section: the item gets a client handle. -/
def register : Result V E :=
  let clientHandle := a.state.nextClientHandle
  ({ a with
      state := { a.state with
        nextClientHandle := clientHandle + 1
        itemsByClientHandle := a.state.itemsByClientHandle.insert clientHandle item }
      held := a.held.erase .state },
    [.callAddItems item clientHandle])

/-- The critical section of the coroutine, up to the start of a new pump. -/
def startItem : Result V E :=
  if a.state.closed then
    (a.closeItem item, [])
  else
    match a.state.pump with
    | some _ => a.register item
    | none =>
      -- the mutex stays locked over `Start`
      ({ a with state := { a.state with pump := some {} }, held := .state :: a.held },
        [.createSubscription item])

/-- `Start` after `CreateSubscription`. The status of a failed start is Bad, so
that the item is closed and the critical section left. -/
def subscriptionCreated : StatusOr Unit → Result V E
  | .ok () =>
    ({ a with state := { a.state with pump := a.state.pump.map ({ · with started := true }) } },
      [.startReadLoop, .register item])
  | .error _ =>
    -- of the items only this one is closed, and nobody is told
    let a := { a with state := { a.state with closed := true }, held := a.held.erase .state }
    (a.closeItem item, [])

def resultStatus : List CreateResult → Status
  | [] => StatusCode.bad
  | result :: _ => result.status

/-- `AddItem` after `AddItems`. -/
def itemsAdded (clientHandle : UInt32) (results : List CreateResult) : List (Instr V E) :=
  if (resultStatus results).bad then
    [.eraseItemMapping clientHandle, .report item (resultStatus results), .closeItem item]
  else
    [.itemAdded item clientHandle ((results.head?.map CreateResult.itemId).getD 0)]

/-- `MonitoredItemSubscriptionPump::AddItems` up to the call of the subscription. -/
def callAddItems (clientHandle : UInt32) : Result V E :=
  if a.state.pump.any Pump.connected then
    (a, [.addItems item clientHandle])
  else
    -- the pump answers for a subscription that is not there
    (a, itemsAdded item clientHandle [{ clientHandle, status := StatusCode.badDisconnected }])

/-- A refused item is told so, unless it has been closed. -/
def report (status : Status) (now : Time) : Result V E :=
  if (a.items item).closed then (a, []) else a.tellStatus item status now

/-- An added item that has been closed meanwhile is removed again. -/
def itemAdded (clientHandle itemId : UInt32) : Result V E :=
  if (a.items item).closed then
    (a, [.removeItem clientHandle itemId])
  else
    (a.setItem item { a.items item with clientHandle, itemId }, [])

/-! ## Removal -/

def eraseItemMapping (clientHandle : UInt32) : Adapter V E :=
  { a with state := { a.state with
      itemsByClientHandle := a.state.itemsByClientHandle.erase clientHandle } }

/-- `RemoveItem` up to the spawn of its coroutine. -/
def removeItem (clientHandle itemId : UInt32) : Result V E :=
  (a.eraseItemMapping clientHandle,
    if a.state.closed || a.state.pump.isNone || itemId == 0 then [] else [.removeItems itemId])

/-- The coroutine of `RemoveItem`, with `MonitoredItemSubscriptionPump::RemoveItems`. -/
def removeItems (itemId : UInt32) : Result V E :=
  if !a.state.closed && a.state.pump.any Pump.connected then
    ({ a with removals := a.removals ++ [itemId] }, [])
  else
    (a, [])

/-! ## The pump -/

/-- `ReadLoop` up to `ReadNext`. -/
def readLoop : Result V E :=
  (a, if a.state.pump.any Pump.connected then [.readNext] else [])

/-- `ReadLoop` after `ReadNext`. An overflow has no item to be delivered to. -/
def readReturned (answer : StatusOr (List (Notification V E))) : Result V E :=
  if a.state.pump.any Pump.connected then
    match answer with
    | .error status => (a, [.errorHandler status])
    | .ok notifications =>
      (a, (notifications.filter (·.clientHandle?.isSome)).map .notify ++ [.readLoop])
  else
    -- closed while `ReadNext` was waiting: what it returned is dropped
    (a, [])

/-- `MonitoredItemSubscriptionPump::Close`. -/
def closePump : Adapter V E :=
  { a with state := { a.state with
      pump := a.state.pump.map fun pump => { pump with closed := pump.started || pump.closed } } }

def resolveItem (notification : Notification V E) : Option Nat :=
  notification.clientHandle?.bind a.state.itemsByClientHandle.lookup

/-- One round of the loop of `OnNotifications`. -/
def notify (now : Time) (notification : Notification V E) : Result V E :=
  match a.resolveItem notification with
  | none => (a, [])
  | some item =>
    if (a.items item).closed then
      (a, [])
    else
      match notification with
      | .dataChange _ _ value =>
        if (a.items item).dataChangeHandler then a.invoke (.dataChange item value) else (a, [])
      | .event _ _ status event =>
        if (a.items item).eventHandler then a.invoke (.event item status event) else (a, [])
      | .itemStatus _ _ status => a.tellStatus item status now
      | .overflow _ => (a, [])

/-- The critical section of `CloseAll`. -/
def closeAll : Result V E :=
  if a.state.closed then
    (a, [])
  else
    ({ a with state := { a.state with closed := true, itemsByClientHandle := ∅ } },
      [.closeItems a.state.itemsByClientHandle.values] ++
        if a.state.pump.isSome then [.closePump] else [])

/-- What the next instruction does; `none` if it waits for another answer. -/
def exec : Instr V E → Answer V E → Option (Result V E)
  | .subscribe item handler, .run _ => a.subscribe item handler
  | .destroy item, .run _ => a.destroy item
  | .close _, .run _ => { a with closedByOwner := true }.closeAll
  | .addItem item, .run _ => a.addItem item
  | .startItem item, .run _ => a.startItem item
  | .createSubscription item, .createSubscription answer => a.subscriptionCreated item answer
  | .register item, .run _ => a.register item
  | .callAddItems item clientHandle, .run _ => a.callAddItems item clientHandle
  | .addItems item clientHandle, .addItems results =>
    some (a, itemsAdded item clientHandle results)
  | .eraseItemMapping clientHandle, .run _ => some (a.eraseItemMapping clientHandle, [])
  | .report item status, .run now => a.report item status now
  | .closeItem item, .run _ => some (a.closeItem item, [])
  | .itemAdded item clientHandle itemId, .run _ => a.itemAdded item clientHandle itemId
  | .removeItem clientHandle itemId, .run _ => a.removeItem clientHandle itemId
  | .removeItems itemId, .run _ => a.removeItems itemId
  | .startReadLoop, .run _ => some (a, [.readLoop])
  | .readLoop, .run _ => a.readLoop
  | .readNext, .readNext answer => a.readReturned answer
  | .notify notification, .run now => a.notify now notification
  | .errorHandler _, .run _ => a.closeAll
  | .closeItems items, .run _ => some (items.foldl closeItem a, [])
  | .closePump, .run _ => some (a.closePump, [])
  | .handler, .handlerReturns => some (a, [])
  | _, _ => none

def acquires : Instr V E → List Mutex
  | .subscribe item _ | .destroy item | .addItem item | .report item _ | .closeItem item
  | .itemAdded item _ _ => [.item item]
  | .startItem item => if a.state.closed then [.state, .item item] else [.state]
  | .createSubscription item => [.item item]
  | .close _ | .errorHandler _ | .eraseItemMapping _ | .removeItem _ _ => [.state]
  | .removeItems _ => [.state, .pump]
  | .notify notification =>
    if notification.clientHandle?.isSome then
      .state :: (a.resolveItem notification).toList.map .item
    else
      []
  | .closeItems items => items.map .item
  | .callAddItems _ _ | .readLoop | .readNext | .closePump => [.pump]
  | .register _ | .addItems _ _ | .startReadLoop | .handler | .terminated => []

end Adapter

def code : CallChain.Code (Adapter V E) (Instr V E) Mutex (Answer V E) where
  exec := Adapter.exec
  acquires := Adapter.acquires
  held := Adapter.held
  entry
    | .subscribe _ _ | .destroy _ | .close _ => true
    | _ => false
  yields
    | .handler => true
    | _ => false
  suspends
    | .startItem _ | .addItems _ _ | .removeItems _ | .startReadLoop | .readNext => true
    | _ => false

/-- The thread of the executor and what can happen on it. -/
abbrev Thread (V E : Type) := CallChain.State (Adapter V E) (Instr V E)

@[inherit_doc Thread]
abbrev Event (V E : Type) := CallChain.Event (Instr V E) (Answer V E)

def thread : System (Thread V E) (Event V E) := CallChain.system code {}

theorem thread_step_act {a : Adapter V E} {x : Instr V E} {rest suspended : List (Instr V E)}
    {answer : Answer V E} {r : Adapter.Result V E} (hfree : ¬ CallChain.Blocked code a x)
    (hexec : a.exec x answer = some r) :
    thread.step ⟨a, x :: rest, suspended⟩ (.act answer) = ⟨r.1, r.2 ++ rest, suspended⟩ :=
  CallChain.step_act code hfree hexec

end ScadaCore.Scada.LegacyAdapter
