import ScadaCore.Data.Table
import ScadaCore.Lts.System
import ScadaCore.Scada.MonitoredItem
import Mathlib.Logic.Function.Basic

/-!
# Scada.Multiplexing — one subscription over many backends

`MultiplexingMonitoredItemSubscription` routes its items to backend services
and merges what they deliver. A backend is reached through a pump; a pump that
fails is dropped, and the items it carried are routed again by `RebindLoop`.

The coroutines share a `State` under a mutex. One step of the model is one
critical section of one of them, and every answer they get in between (of the
router, of a backend, of the allocator) comes with the event: the order of the
steps and the answers are arbitrary. The queue `pending` is in `Delivery`.
`weak_state.lock()` does not fail here, as the destructor of the subscription closes it before the state can go.

Three things are recorded that the program does not keep: which pump returned a
child id, which failures an item has been through and which of them its last
complete routing has seen, and which `RemoveItems` calls were made.
-/

namespace ScadaCore.Scada

/-! ## Data -/

/-- A `MonitoredItemSubscriptionPump`, by its id and its backend. -/
@[ext]
structure Pump where
  id : Nat
  service : Nat
deriving DecidableEq, Repr

/-- A pointer to a pump. The program compares addresses, and an address can be
used again once its pump is gone. -/
structure PumpPtr where
  pump : Pump
  address : Nat
deriving DecidableEq, Repr

structure MonitoredItemRoute where
  service : Nat
  valueId : ReadValueId := {}
deriving DecidableEq, Repr

structure MonitoredItemCreateRequest where
  itemToMonitor : ReadValueId := {}
  clientHandle : Nat := 0
deriving DecidableEq, Repr

def noServiceStatus (valueId : ReadValueId) : StatusCode :=
  if valueId.attributeId = .value ∨ valueId.attributeId = .eventNotifier then
    .badWrongNodeId
  else
    .badWrongAttributeId

/-- An entry of `Item::children`, with the pump whose `AddItems` returned it. -/
structure Child where
  service : Nat
  childId : Nat
  pump : Pump
deriving DecidableEq, Repr

/-- `struct Item`. The last two fields are not the program's: the numbers of the
failures that took a child off the item, and how many failures there had been
when the router was asked by the last pass that bound all of its routes. -/
structure Item where
  clientHandle : Nat := 0
  valueId : ReadValueId := {}
  children : List Child := []
  needsRebind : Bool := false
  losses : List Nat := []
  coveredAt : Nat := 0
deriving DecidableEq, Repr

def Item.boundTo (item : Item) (service : Nat) : Bool :=
  item.children.any (·.service == service)

/-- `struct State`; `pumpIds` gives 0 for a missing entry, as `operator[]` does. -/
structure State where
  nextItemId : Nat := 1
  items : Table Nat Item := ∅
  pumps : Table Nat PumpPtr := ∅
  pumpIds : Nat → Nat := fun _ => 0
  nextPumpId : Nat := 1
  rebindTimer : Bool := false
  rebindRunning : Bool := false
  closed : Bool := false
  closeStatus : Status := StatusCode.badDisconnected

variable (state : State)

namespace State

/-- `CarriesItemsLocked`: whether any item is bound to the backend. -/
def carriesItemsLocked (service : Nat) : Bool :=
  state.items.values.any (·.boundTo service)

/-! ## Failures -/

/-- What `OnBackendFailed` does to an item. -/
def loseBackend (service failure : Nat) (item : Item) : Item :=
  if item.boundTo service then
    { item with
      children := item.children.filter (·.service != service)
      needsRebind := true
      losses := failure :: item.losses }
  else
    item

/-- `OnBackendFailed` up to the end of its critical section, for an accepted
failure: the loop over the items, and whether `RebindLoop` has to be started. -/
def dropBackend (service failure : Nat) : State × Bool :=
  let anyUnbound := state.carriesItemsLocked service
  let startRebind := anyUnbound && !state.rebindRunning
  ({ state with
      pumps := state.pumps.erase service
      items := state.items.mapValues (loseBackend service failure)
      rebindRunning := state.rebindRunning || startRebind },
    startRebind)

/-- A later pump for the same backend may already have replaced the one that
failed. -/
def acceptsFailure (service pumpId : Nat) : Bool :=
  !state.closed && (state.pumps.lookup service).isSome && state.pumpIds service == pumpId

/-- The critical section of `Close`. -/
def close (status : Status) : State :=
  { state with
    closed := true
    closeStatus := status
    items := ∅
    pumps := ∅
    rebindTimer := false }

end State

/-! ## Coroutines -/

/-- Where `BindRoutes` is with its current route: at the head of the loop, at
the two critical sections of `EnsurePump` and the start of the pump between
them, waiting for `AddItems`, and at the cleanup of a child without an item. -/
inductive BindPoint where
  | head
  | ensurePump
  | startPump (pumpId : Nat)
  | publishPump (pumpId address : Nat)
  | addItems (pump : PumpPtr)
  | removeOrphan (pump : PumpPtr) (childId : Nat)
deriving DecidableEq, Repr

/-- A call of `BindRoutes`. `consultedAt` is the number of failures there had
been when its routes were asked for. -/
structure BindRoutes where
  item : Nat
  route : MonitoredItemRoute
  rest : List MonitoredItemRoute
  allBound : Bool := true
  point : BindPoint := .head
  consultedAt : Nat
deriving DecidableEq, Repr

namespace BindRoutes

/-- The call goes on, or returns whether all routes are bound. -/
abbrev Outcome := BindRoutes ⊕ Bool

def start (item : Nat) (routes : List MonitoredItemRoute) (consultedAt : Nat) : Outcome :=
  match routes with
  | [] => .inr false
  | route :: rest => .inl { item, route, rest, consultedAt }

variable (call : BindRoutes)

def next : Outcome :=
  match call.rest with
  | [] => .inr call.allBound
  | route :: rest => .inl { call with route, rest, point := .head }

def newPump (pumpId address : Nat) : PumpPtr :=
  { pump := { id := pumpId, service := call.route.service }, address }

def goTo (point : BindPoint) : Outcome := .inl { call with point }

/-- The route is not bound; the loop goes on with the next one. -/
def giveUp : Outcome := { call with allBound := false }.next

end BindRoutes

/-- A coroutine, by the point it is at. `rebindWait` to `rebindWrite` are the
points of `RebindLoop`; a `rest` is what is left of `pending_items`. -/
inductive Task where
  | addItem (request : MonitoredItemCreateRequest)
  | addItemRoute (request : MonitoredItemCreateRequest)
  | addItemCreate (request : MonitoredItemCreateRequest) (routes : List MonitoredItemRoute)
      (consultedAt : Nat)
  | addItemBind (request : MonitoredItemCreateRequest) (call : BindRoutes)
  | addItemFinish (request : MonitoredItemCreateRequest) (itemId : Nat)
  | added (result : MonitoredItem.CreateResult)
  | removeItem (itemId : Nat)
  | removeChildren (itemId : Nat) (children : List Child)
  | removed (status : Status)
  | rebindWait
  | rebindCollect
  | rebindVisit (rest : List Nat)
  | rebindRoute (itemId : Nat) (rest : List Nat)
  | rebindBind (call : BindRoutes) (rest : List Nat)
  | rebindWrite (itemId : Nat) (allBound : Bool) (consultedAt : Nat) (rest : List Nat)
  | rebindDone

/-- The answers a step may need: of the router, of the allocator for a pump
that starts, and of a backend that adds the item. -/
structure Choice where
  routes : List MonitoredItemRoute := []
  started : Option Nat := none
  answer : Option Nat := none

/-- A `RemoveItems` call for a child of an item. -/
structure Removal where
  itemId : Nat
  childId : Nat
  issuedTo : Pump
  returnedBy : Pump
deriving DecidableEq, Repr

/-- The subscription with its coroutines, the pumps that exist, those whose
read loop has ended with an error, and the error handlers posted. `failures`,
`returned` and `removals` are records of the past: the number of accepted
failures, the child ids returned for an item by a pump, the removals. -/
structure Multiplexing where
  state : State := {}
  heap : List PumpPtr := []
  failed : List Pump := []
  posted : List (Pump × Status) := []
  tasks : List Task := []
  failures : Nat := 0
  returned : List (Pump × Nat × Nat) := []
  removals : List Removal := []

namespace Multiplexing

variable (m : Multiplexing)

def destroy (pump : PumpPtr) : Multiplexing :=
  { m with heap := m.heap.filter (· != pump) }

def setItem (itemId : Nat) (item : Item) : Multiplexing :=
  { m with state := { m.state with items := m.state.items.insert itemId item } }

def eraseItem (itemId : Nat) : Multiplexing :=
  { m with state := { m.state with items := m.state.items.erase itemId } }

/-! ## BindRoutes -/

def publish (service : Nat) (pump : PumpPtr) : Multiplexing :=
  { m with state := { m.state with
      pumpIds := Function.update m.state.pumpIds service pump.pump.id
      pumps := m.state.pumps.insert service pump } }

/-- The pump of a backend is taken out of `pumps` and freed. -/
def unpublish (service : Nat) (pump : PumpPtr) : Multiplexing :=
  { m with state := { m.state with pumps := m.state.pumps.erase service } }.destroy pump

/-- A child id came back from `AddItems`. -/
def noteReturned (pump : Pump) (childId itemId : Nat) : Multiplexing :=
  { m with returned := (pump, childId, itemId) :: m.returned }

def addChild (item : Item) (child : Child) : Item :=
  { item with children := item.children ++ [child] }

/-- The critical section after `AddItems`. -/
def record (call : BindRoutes) (pump : PumpPtr) (answer : Option Nat) :
    Multiplexing × BindRoutes.Outcome :=
  match answer with
  | some childId =>
    match m.state.closed, m.state.items.lookup call.item with
    | false, some item =>
      ((m.noteReturned pump.pump childId call.item).setItem call.item
        (addChild item { service := call.route.service, childId, pump := pump.pump }), call.next)
    | _, _ =>
      -- the item was removed, or the subscription closed, in the meantime
      (m.noteReturned pump.pump childId call.item,
        { call with allBound := false }.goTo (.removeOrphan pump childId))
  | none =>
    if !m.state.closed && !m.state.carriesItemsLocked call.route.service then
      -- a pump that carries nothing was made for this attempt
      match m.state.pumps.lookup call.route.service with
      | some published =>
        if published.address = pump.address then
          (m.unpublish call.route.service published, call.giveUp)
        else
          (m, call.giveUp)
      | none => (m, call.giveUp)
    else
      (m, call.giveUp)

/-- The next critical section of a call of `BindRoutes`. -/
def stepBind (call : BindRoutes) (choice : Choice) : Multiplexing × BindRoutes.Outcome :=
  match call.point with
  | .head =>
    match m.state.closed, m.state.items.lookup call.item with
    | false, some item =>
      if item.boundTo call.route.service then (m, call.next) else (m, call.goTo .ensurePump)
    | _, _ => (m, .inr false)
  | .ensurePump =>
    if m.state.closed then
      (m, call.giveUp)
    else
      match m.state.pumps.lookup call.route.service with
      | some pump => (m, call.goTo (.addItems pump))
      | none =>
        ({ m with state := { m.state with nextPumpId := m.state.nextPumpId + 1 } },
          call.goTo (.startPump m.state.nextPumpId))
  | .startPump pumpId =>
    match choice.started with
    | none => (m, call.giveUp)
    | some address =>
      -- an address in use is not given out again
      if address ∈ m.heap.map PumpPtr.address then
        (m, .inl call)
      else
        ({ m with heap := call.newPump pumpId address :: m.heap },
          call.goTo (.publishPump pumpId address))
  | .publishPump pumpId address =>
    let pump := call.newPump pumpId address
    if m.state.closed then
      (m.destroy pump, call.giveUp)
    else
      match m.state.pumps.lookup call.route.service with
      | some published => (m.destroy pump, call.goTo (.addItems published))
      | none => (m.publish call.route.service pump, call.goTo (.addItems pump))
  | .addItems pump => m.record call pump choice.answer
  | .removeOrphan pump childId =>
    match m.state.pumps.lookup call.route.service with
    | some published =>
      if published.address = pump.address then
        ({ m with removals := m.removals ++
            [{ itemId := call.item, childId, issuedTo := published.pump,
               returnedBy := pump.pump }] },
          call.next)
      else
        (m, call.next)
    | none => (m, call.next)

/-! ## The other coroutines -/

variable (request : MonitoredItemCreateRequest)

/-- A call of `BindRoutes` by `AddItem`. -/
def addItemBound (itemId : Nat) :
    BindRoutes.Outcome → Task
  | .inl call => .addItemBind request call
  | .inr _ => .addItemFinish request itemId

/-- A call of `BindRoutes` by `RebindLoop`. -/
def rebindBound (itemId consultedAt : Nat) (rest : List Nat) : BindRoutes.Outcome → Task
  | .inl call => .rebindBind call rest
  | .inr allBound => .rebindWrite itemId allBound consultedAt rest

/-- `AddItem` without a backend, or on a closed subscription. -/
def refused (status : Status) : Task :=
  .added { clientHandle := UInt32.ofNat request.clientHandle, status }

def stepAddItemCreate (routes : List MonitoredItemRoute) (consultedAt : Nat) :
    Multiplexing × Task :=
  if m.state.closed then
    (m, refused request m.state.closeStatus)
  else
    let itemId := m.state.nextItemId
    ({ m with state := { m.state with
        nextItemId := (itemId + 1) % 2 ^ 32
        items := m.state.items.insert itemId
          { clientHandle := request.clientHandle, valueId := request.itemToMonitor } } },
      addItemBound request itemId (BindRoutes.start itemId routes consultedAt))

/-- The last critical section of `AddItem`: an item without a child goes
again. -/
def stepAddItemFinish (itemId : Nat) : Multiplexing × Task :=
  match m.state.items.lookup itemId with
  | none => (m, refused request (noServiceStatus request.itemToMonitor))
  | some item =>
    if item.children.isEmpty then
      (m.eraseItem itemId, refused request (noServiceStatus request.itemToMonitor))
    else
      (m, .added {
        itemId := UInt32.ofNat itemId
        clientHandle := UInt32.ofNat request.clientHandle
        status := StatusCode.good })

def stepRemoveItem (itemId : Nat) : Multiplexing × Task :=
  match m.state.items.lookup itemId with
  | none => (m, .removed StatusCode.badMonitoredItemIdInvalid)
  | some item => (m.eraseItem itemId, .removeChildren itemId item.children)

/-- One round of the loop of `RemoveItem` over the children it moved out. The
pump is looked up by the service alone. -/
def stepRemoveChildren (itemId : Nat) (children : List Child) : Multiplexing × Task :=
  match children with
  | [] => (m, .removed StatusCode.good)
  | child :: rest =>
    match m.state.pumps.lookup child.service with
    | none => (m, .removeChildren itemId rest)
    | some pump =>
      ({ m with removals := m.removals ++
          [{ itemId, childId := child.childId, issuedTo := pump.pump,
             returnedBy := child.pump }] },
        .removeChildren itemId rest)

def pendingItems : List Nat :=
  (state.items.entries.filter (·.2.needsRebind)).map (·.1)

def stepRebindCollect : Multiplexing × Task :=
  if m.state.closed then
    (m, .rebindDone)
  else
    match pendingItems m.state with
    | [] =>
      ({ m with state := { m.state with rebindRunning := false, rebindTimer := false } },
        .rebindDone)
    | pending => (m, .rebindVisit pending)

def stepRebindVisit (pending : List Nat) : Multiplexing × Task :=
  match pending with
  | [] => (m, .rebindWait)
  | itemId :: rest =>
    if m.state.closed then
      (m, .rebindDone)
    else if (m.state.items.lookup itemId).any (·.needsRebind) then
      (m, .rebindRoute itemId rest)
    else
      (m, .rebindVisit rest)

/-- What a pass of `RebindLoop` leaves of the item. -/
def rebound (item : Item) (allBound : Bool) (consultedAt : Nat) : Item :=
  { item with
    needsRebind := !allBound
    coveredAt := if allBound then max item.coveredAt consultedAt else item.coveredAt }

/-- The write after `BindRoutes` in `RebindLoop`. -/
def stepRebindWrite (itemId : Nat) (allBound : Bool) (consultedAt : Nat) : Multiplexing :=
  match m.state.items.lookup itemId with
  | none => m
  | some item => m.setItem itemId (rebound item allBound consultedAt)

/-- The next critical section of a coroutine. -/
def stepTask (choice : Choice) : Task → Multiplexing × Task
  | .addItem request =>
    if m.state.closed then (m, refused request m.state.closeStatus)
    else (m, .addItemRoute request)
  | .addItemRoute request =>
    if choice.routes.isEmpty then (m, refused request (noServiceStatus request.itemToMonitor))
    else (m, .addItemCreate request choice.routes m.failures)
  | .addItemCreate request routes consultedAt => m.stepAddItemCreate request routes consultedAt
  | .addItemBind request call =>
    ((m.stepBind call choice).1, addItemBound request call.item (m.stepBind call choice).2)
  | .addItemFinish request itemId => m.stepAddItemFinish request itemId
  | .removeItem itemId => m.stepRemoveItem itemId
  | .removeChildren itemId children => m.stepRemoveChildren itemId children
  | .rebindWait =>
    if m.state.closed then (m, .rebindDone)
    else ({ m with state := { m.state with rebindTimer := true } }, .rebindCollect)
  | .rebindCollect => m.stepRebindCollect
  | .rebindVisit rest => m.stepRebindVisit rest
  | .rebindRoute itemId rest =>
    (m, rebindBound itemId m.failures rest (BindRoutes.start itemId choice.routes m.failures))
  | .rebindBind call rest =>
    ((m.stepBind call choice).1,
      rebindBound call.item call.consultedAt rest (m.stepBind call choice).2)
  | .rebindWrite itemId allBound consultedAt rest =>
    (m.stepRebindWrite itemId allBound consultedAt, .rebindVisit rest)
  | .added result => (m, .added result)
  | .removed status => (m, .removed status)
  | .rebindDone => (m, .rebindDone)

/-! ## The event system -/

/-- `OnBackendFailed` for a pump. The dead pump is freed, and `RebindLoop`
started, after the critical section. -/
def onBackendFailed (pump : Pump) : Multiplexing :=
  if m.state.acceptsFailure pump.service pump.id then
    let dropped := m.state.dropBackend pump.service m.failures
    { m with
      state := dropped.1
      heap := m.heap.filter fun pump' => m.state.pumps.lookup pump.service != some pump'
      tasks := if dropped.2 then m.tasks ++ [.rebindWait] else m.tasks
      failures := m.failures + 1 }
  else
    m

/-- `Close`; the pumps are closed after the critical section. -/
def close (status : Status) : Multiplexing :=
  if m.state.closed then
    m
  else
    { m with
      state := m.state.close status
      heap := m.heap.filter fun pump => !m.state.pumps.values.contains pump }

/-- `addItem` and `removeItem` start a coroutine and `run` takes a step of one;
`readFails` is an error in the read loop of a pump, whose handler is posted, and
`backendFailed` runs a posted handler. The order in which an unordered map is
iterated over can change: `rehash`. -/
inductive Event where
  | addItem (request : MonitoredItemCreateRequest)
  | removeItem (itemId : Nat)
  | run (task : Nat) (choice : Choice)
  | readFails (pump : Pump) (status : Status)
  | backendFailed (handler : Nat)
  | close (status : Status)
  | rehash (items : Table Nat Item)

/-- A condition on the steps of tasks. -/
def Event.OnRun (p : Nat → Choice → Prop) : Event → Prop
  | .run task choice => p task choice
  | _ => True

instance (p : Nat → Choice → Prop) [∀ task choice, Decidable (p task choice)] :
    DecidablePred (Event.OnRun p)
  | .run task choice => inferInstanceAs (Decidable (p task choice))
  | .addItem _ | .removeItem _ | .readFails _ _ | .backendFailed _ | .close _ | .rehash _ =>
    inferInstanceAs (Decidable True)

def run (task : Nat) (choice : Choice) : Multiplexing :=
  match m.tasks[task]? with
  | none => m
  | some t =>
    let result := m.stepTask choice t
    { result.1 with tasks := result.1.tasks.set task result.2 }

def step : Event → Multiplexing
  | .addItem request => { m with tasks := m.tasks ++ [.addItem request] }
  | .removeItem itemId => { m with tasks := m.tasks ++ [.removeItem itemId] }
  | .run task choice => m.run task choice
  | .readFails pump status =>
    -- the read loop of a closed pump ends silently, and it ends only once
    if pump ∈ m.heap.map PumpPtr.pump ∧ pump ∉ m.failed then
      { m with failed := pump :: m.failed, posted := m.posted ++ [(pump, status)] }
    else
      m
  | .backendFailed handler =>
    match m.posted[handler]? with
    | none => m
    | some (pump, _) =>
      { m with posted := m.posted.eraseIdx handler }.onBackendFailed pump
  | .close status => m.close status
  | .rehash items =>
    if items.entries.Perm m.state.items.entries then
      { m with state := { m.state with items } }
    else
      m

def system : Lts.System Multiplexing Event := ⟨{}, step⟩

/-! ## Parts of runs -/

def runs (task : Nat) (choices : List Choice) : List Event := choices.map (.run task)

/-- The backend of the next route adds the item, through a pump that has to be
made first. -/
def bindNew (address childId : Nat) : List Choice :=
  [{}, {}, { started := some address }, {}, { answer := some childId }]

def routedTo (services : List Nat) : Choice := { routes := services.map fun service => { service } }

/-- The pump of a backend fails, and its handler runs. -/
def pumpFails (pumpId service : Nat) : List Event :=
  [.readFails { id := pumpId, service } StatusCode.bad, .backendFailed 0]

end Multiplexing

end ScadaCore.Scada
