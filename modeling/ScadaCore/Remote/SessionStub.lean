import ScadaCore.Remote.SubscriptionStub

/-!
# Remote.SessionStub — dispatch of the requests of a session

`SessionStub::ProcessRequest` and the stubs it forwards to. A handler either
answers on the spot or starts a coroutine that awaits a service; the coroutine
is a `Task`, and its end is `finish`. A request is answered by the handlers of
all operations present in it, one after the other.

`none` is the end of the program: an input that cannot be read, or a result that
cannot be written.

Two handlers do not do what the others do, and keep their own bodies:
`onDeleteSubscription` is called with the presence flag of another operation in
the place of the request id, and the two monitored-item handlers drop a request
whose subscription id is unknown.
-/

namespace ScadaCore.Remote

open Scada

/-! ## Service calls -/

/-- The methods of the services that requests ask for. -/
inductive Method where
  | read | write | call
  | browse | translateBrowsePaths
  | addNodes | deleteNodes | addReferences | deleteReferences
  | historyReadRaw | historyReadEvents
deriving DecidableEq, Repr

/-- What a method returns. -/
abbrev Method.Results : Method → Type
  | .read => List (DataValue Value)
  | .write | .deleteNodes | .addReferences | .deleteReferences => List StatusCode
  | .call => CallResult
  | .browse => List BrowseResult
  | .translateBrowsePaths => List BrowsePathResult
  | .addNodes => List AddNodesResult
  | .historyReadRaw => HistoryReadRawResult
  | .historyReadEvents => HistoryReadEventsResult

/-- The answers of the services when a coroutine is resumed. The events of a history
have been resolved to the languages of the session. -/
abbrev Outcomes := (method : Method) → StatusOr method.Results

/-- A service call with the arguments its coroutine has captured. -/
inductive Call where
  | read (inputs : List ReadValueId)
  | write (inputs : List WriteValue)
  | call (parameters : CallParameters)
  | browse (inputs : List BrowseDescription)
  | translateBrowsePaths (inputs : List BrowsePath)
  | addNodes (inputs : List AddNodesItem)
  | deleteNodes (inputs : List DeleteNodesItem)
  | addReferences (inputs : List AddReferencesItem)
  | deleteReferences (inputs : List DeleteReferencesItem)
  | historyReadRaw (details : HistoryReadRawDetails)
  | historyReadEvents (details : HistoryReadEventsDetails)

namespace Call

def method : Call → Method
  | .read _ => .read
  | .write _ => .write
  | .call _ => .call
  | .browse _ => .browse
  | .translateBrowsePaths _ => .translateBrowsePaths
  | .addNodes _ => .addNodes
  | .deleteNodes _ => .deleteNodes
  | .addReferences _ => .addReferences
  | .deleteReferences _ => .deleteReferences
  | .historyReadRaw _ => .historyReadRaw
  | .historyReadEvents _ => .historyReadEvents

/-- The coroutines of `SessionStub` itself capture a `shared_ptr` to the
session; those of the view, node-management and history stubs keep only their
own stub alive. -/
def holdsSession : Call → Bool
  | .read _ | .write _ | .call _ => true
  | _ => false

end Call

/-- A coroutine that awaits a service on behalf of a request. -/
structure Task where
  requestId : Nat
  call : Call

/-- What processing a request produces: a response sent on the spot, a
coroutine, or a monitored item handed to the monitored-item service (which is
answered before it is subscribed). -/
inductive Output where
  | respond (response : Response)
  | spawn (task : Task)
  | monitor (readValueId : ReadValueId)

def Method.result : (method : Method) → StatusOr method.Results → Option Result
  | .read, results => do
    return .read (← (StatusOr.valueOr results).mapM DataValue.convert)
  | .write, results => some (.write ((StatusOr.valueOr results).map StatusCode.convert))
  | .call, .ok result => do
    return .callOutputArgument (← result.outputArguments.mapM Variant.convert)
  | .browse, .ok results => some (.browse (results.map BrowseResult.convert))
  | .translateBrowsePaths, results => do
    return .browsePath (← (StatusOr.valueOr results).mapM BrowsePathResult.convert)
  | .addNodes, .ok results => some (.addNode (results.map AddNodesResult.convert))
  | .deleteNodes, .ok results => some (.deleteNode (results.map StatusCode.convert))
  | .addReferences, results =>
    some (.addReference ((StatusOr.valueOr results).map StatusCode.convert))
  | .deleteReferences, results =>
    some (.deleteReference ((StatusOr.valueOr results).map StatusCode.convert))
  | .historyReadRaw, .ok result => do
    return .historyReadRaw (← result.values.mapM DataValue.convert) result.continuationPoint
  | .historyReadEvents, .ok result => do
    return .historyReadEvents (← result.events.mapM Event.convert)
  | .call, .error _ | .browse, .error _ | .addNodes, .error _ | .deleteNodes, .error _
  | .historyReadRaw, .error _ | .historyReadEvents, .error _ => some .nothing

def Method.Encodable : (method : Method) → method.Results → Prop
  | .read, values => ∀ value ∈ values, value.Encodable
  | .call, result => ∀ value ∈ result.outputArguments, value.Encodable
  | .translateBrowsePaths, results => ∀ result ∈ results, ∀ target ∈ result.targets,
    target.Encodable
  | .historyReadRaw, result => ∀ value ∈ result.values, value.Encodable
  | .historyReadEvents, result => ∀ event ∈ result.events, event.Encodable
  | .write, _ | .browse, _ | .addNodes, _ | .deleteNodes, _ | .addReferences, _
  | .deleteReferences, _ => True

def Outcomes.Encodable (outcomes : Outcomes) (method : Method) : Prop :=
  ∀ results, outcomes method = .ok results → method.Encodable results

theorem Method.result_isSome_iff (outcomes : Outcomes) (method : Method) :
    (method.result (outcomes method)).isSome ↔ outcomes.Encodable method := by
  unfold Outcomes.Encodable
  cases houtcome : outcomes method with
  | error error => cases method <;> simp [Method.result, StatusOr.valueOr]
  | ok results =>
    cases method <;>
      simp [Method.result, StatusOr.valueOr, Method.Encodable, mapM_isSome_iff,
        DataValue.convert_isSome_iff, Variant.convert_isSome_iff, Event.convert_isSome_iff,
        BrowsePathResult.convert_isSome_iff]

/-! ## The session -/

/-- Which of the `scada::services` pointers are set. -/
structure Services where
  attributeService : Bool := true
  methodService : Bool := true
  viewService : Bool := true
  nodeManagementService : Bool := true
  historyService : Bool := true

/-- The subscriptions of a session. -/
structure Subscriptions where
  nextSubscriptionId : Nat := 1
  subscriptions : Nat → Option SubscriptionStub := fun _ => none

/-- `class SessionStub`, over connection handles `C`. -/
structure SessionStub (C : Type) extends Subscriptions where
  userId : NodeId
  services : Services := {}
  connection : Option C := none
  /-- The points of its `HistoryStub`. -/
  continuationPoints : ContinuationPoints := ∅

namespace SessionStub

variable {C : Type}

def respondStatus (requestId : Nat) (code : StatusCode) : Output :=
  .respond { requestId, status := code }

/-- A handler that needs a service: without it the request fails with `Bad`. -/
def withService (available : Bool) (requestId : Nat) (call : Call) : List Output :=
  if available then [.spawn { requestId, call }] else [respondStatus requestId .bad]

/-! ### The handlers of `SessionStub` -/

variable (request : Request)

def onPing : List Output :=
  if request.ping then [respondStatus request.requestId .good] else []

variable (stub : SessionStub C)

def onRead : List Output :=
  match request.read with
  | none => []
  | some inputs =>
    withService stub.services.attributeService request.requestId
      (.read (inputs.map Wire.ReadValueId.convert))

/-- The inputs are read only if there is a service to write them. -/
def onWrite : Option (List Output) :=
  if request.write.isEmpty then
    some []
  else if !stub.services.attributeService then
    some [respondStatus request.requestId .bad]
  else do
    let inputs ← request.write.mapM Wire.Write.convert
    return [.spawn { requestId := request.requestId, call := .write inputs }]

/-- Only a `Call` that carries a device command is handled. -/
def onCall : Option (List Output) :=
  match request.call.join with
  | none => some []
  | some command => do
    let parameters ← command.convert
    return withService stub.services.methodService request.requestId (.call parameters)

def onCreateSubscription (stub : Subscriptions) (requestId : Nat) : Subscriptions × List Output :=
  let subscriptionId := stub.nextSubscriptionId
  ({ stub with
      nextSubscriptionId := subscriptionId + 1
      subscriptions := Function.update stub.subscriptions subscriptionId (some { subscriptionId }) },
    [.respond { requestId, status := StatusCode.good
                result := .createSubscription subscriptionId }])

def onDeleteSubscription (stub : Subscriptions) (requestId subscriptionId : Nat) :
    Subscriptions × List Output :=
  let code :=
    if (stub.subscriptions subscriptionId).isSome then StatusCode.good
    else StatusCode.badWrongSubscriptionId
  ({ stub with subscriptions := Function.update stub.subscriptions subscriptionId none },
    [respondStatus requestId code])

/-- The parameters are read first; then an unknown subscription id drops the request
without an answer. -/
def onCreateMonitoredItem (stub : Subscriptions) (requestId : Nat)
    (request : CreateMonitoredItem) (created : Bool) : Option (Subscriptions × List Output) := do
  let _ ← request.monitoringParameters.mapM Wire.MonitoringParameters.convert
  match stub.subscriptions request.subscriptionId with
  | none => return (stub, [])
  | some subscription =>
    let (subscription', response) ←
      subscription.onCreateMonitoredItem requestId request.readValueId created
    return ({ stub with
        subscriptions := Function.update stub.subscriptions request.subscriptionId
          (some subscription') },
      .respond response :: if created then [.monitor request.readValueId] else [])

def onDeleteMonitoredItem (stub : Subscriptions) (requestId : Nat)
    (request : DeleteMonitoredItem) : Subscriptions × List Output :=
  match stub.subscriptions request.subscriptionId with
  | none => (stub, [])
  | some subscription =>
    let (subscription', response) :=
      subscription.onDeleteMonitoredItem requestId request.monitoredItemId
    ({ stub with
        subscriptions := Function.update stub.subscriptions request.subscriptionId
          (some subscription') },
      [.respond response])

/-! ### The other stubs -/

def spawnIf (present : Bool) (requestId : Nat) (call : Call) : List Output :=
  if present then [.spawn { requestId, call }] else []

def viewServiceStub : List Output :=
  spawnIf request.browse.isSome request.requestId
      (.browse ((request.browse.getD []).map Wire.BrowseDescription.convert)) ++
    spawnIf (!request.browsePath.isEmpty) request.requestId
      (.translateBrowsePaths (request.browsePath.map Wire.BrowsePath.convert))

/-- `NodeManagementStub::OnDeleteNodes`: deleting one's own user is refused at
once. -/
def onDeleteNodes (userId : NodeId) (requestId : Nat) (inputs : List DeleteNodesItem) :
    List Output :=
  if inputs.any (·.nodeId == userId) then [respondStatus requestId .badCantDeleteOwnUser]
  else [.spawn { requestId, call := .deleteNodes inputs }]

def nodeManagementStub (userId : NodeId) (request : Request) : Option (List Output) := do
  let addedNodes ← request.addNode.mapM Wire.AddNode.convert
  return spawnIf (!request.addNode.isEmpty) request.requestId (.addNodes addedNodes) ++
    (if request.deleteNode.isEmpty then []
     else onDeleteNodes userId request.requestId
      (request.deleteNode.map Wire.DeleteNode.convert)) ++
    spawnIf (!request.addReference.isEmpty) request.requestId
      (.addReferences (request.addReference.map Wire.AddReference.convert)) ++
    spawnIf (!request.deleteReference.isEmpty) request.requestId
      (.deleteReferences (request.deleteReference.map Wire.DeleteReference.convert))

def onHistoryReadRaw (points : ContinuationPoints) (request : Request) :
    Option (ContinuationPoints × List Output) :=
  match request.historyReadRaw with
  | none => some (points, [])
  | some read => do
    let (points, details) ← HistoryStub.onHistoryReadRaw points read
    return (points, [.spawn { requestId := request.requestId, call := .historyReadRaw details }])

def onHistoryReadEvents : Option (List Output) :=
  match request.historyReadEvents with
  | none => some []
  | some read => do
    let details ← HistoryStub.readEventsDetails read
    return [.spawn { requestId := request.requestId, call := .historyReadEvents details }]

def historyStub (points : ContinuationPoints) (request : Request) :
    Option (ContinuationPoints × List Output) := do
  let (points, raw) ← onHistoryReadRaw points request
  let events ← onHistoryReadEvents request
  return (points, raw ++ events)

/-! ### `ProcessRequest` -/

/-- The four subscription operations, in the order `ProcessRequest` tests them.
The delete-subscription handler gets `has_create_subscription()` where the
request id belongs. -/
def processSubscriptions (stub : Subscriptions) (request : Request) (created : Bool) :
    Option (Subscriptions × List Output) := do
  let (stub, o₁) :=
    if request.createSubscription then onCreateSubscription stub request.requestId
    else (stub, [])
  let (stub, o₂) :=
    match request.deleteSubscription with
    | none => (stub, [])
    | some subscriptionId =>
      onDeleteSubscription stub (if request.createSubscription then 1 else 0) subscriptionId
  let (stub, o₃) ←
    (match request.createMonitoredItem with
     | none => some (stub, [])
     | some r => onCreateMonitoredItem stub request.requestId r created)
  let (stub, o₄) :=
    match request.deleteMonitoredItem with
    | none => (stub, [])
    | some r => onDeleteMonitoredItem stub request.requestId r
  return (stub, o₁ ++ o₂ ++ o₃ ++ o₄)

def processRequest (created : Bool) : Option (SessionStub C × List Output) := do
  let answers := onPing request ++ stub.onRead request
  let writes ← stub.onWrite request
  let calls ← stub.onCall request
  let (toSubscriptions, subscriptions) ←
    processSubscriptions stub.toSubscriptions request created
  let views := if stub.services.viewService then viewServiceStub request else []
  let nodes ←
    (if stub.services.nodeManagementService then nodeManagementStub stub.userId request
     else some [])
  let (continuationPoints, histories) ←
    (if stub.services.historyService then historyStub stub.continuationPoints request
     else some (stub.continuationPoints, []))
  return ({ stub with toSubscriptions, continuationPoints },
    answers ++ writes ++ calls ++ subscriptions ++ views ++ nodes ++ histories)

def keepPoint (outcomes : Outcomes) : Call → SessionStub C
  | .historyReadRaw details =>
    { stub with
      continuationPoints :=
        HistoryStub.keepPoint stub.continuationPoints details (outcomes .historyReadRaw) }
  | _ => stub

/-- The end of a coroutine, and the responses it sends. The coroutines of the session
itself send nothing once the connection is gone; the others hand their response to
the session as long as it is alive. -/
def finish (task : Task) (outcomes : Outcomes) : Option (SessionStub C × List Response) :=
  if task.call.holdsSession && stub.connection.isNone then
    some (stub, [])
  else do
    let outcome := outcomes task.call.method
    let result ← task.call.method.result outcome
    return (stub.keepPoint outcomes task.call,
      [{ requestId := task.requestId, status := StatusOr.status outcome, result }])

end SessionStub

end ScadaCore.Remote
