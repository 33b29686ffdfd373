import ScadaCore.Scada.NamespaceRemapper
import ScadaCore.Scada.Services

/-!
# Scada.RemappingServices — services of another server's namespaces

The wrappers of `remapping_services.cpp`. Each operation awaits the wrapped
service once: what it sends there and what it makes of the answer is a `Call`.
A request should arrive with every identifier translated to the downstream
server, and an answer with every identifier translated back; what an identifier
is, the traversals of `Services` say.
-/

namespace ScadaCore.Scada

open MonitoredItem

/-- The map of identifiers that a remapper is. -/
def Remap.map (remap : Remap) : ∀ kind, IdOf kind → IdOf kind
  | .nodeId => remap.nodeId
  | .expandedNodeId => remap.expandedNodeId
  | .qualifiedName => remap.qualifiedName

/-! ## The overloads for messages -/

variable (r : NamespaceRemapper)

def ReferenceDescription.toProxy (reference : ReferenceDescription) : ReferenceDescription :=
  { reference with
    referenceTypeId := reference.referenceTypeId.toProxy r
    nodeId := reference.nodeId.toProxy r
    browseName := reference.browseName.toProxy r
    typeDefinition := reference.typeDefinition.toProxy r }

def Variant.toProxy (value : Variant) : Variant := value.remap r.toProxy

def Variant.toDownstream (value : Variant) : Variant := value.remap r.toDownstream

def Event.toProxy (event : Event) : Event :=
  { event with
    eventTypeId := event.eventTypeId.toProxy r
    sourceNodeId := event.sourceNodeId.toProxy r
    userId := event.userId.toProxy r
    acknowledgedUserId := event.acknowledgedUserId.toProxy r
    value := event.value.toProxy r }

def ModelChangeEvent.toProxy (event : ModelChangeEvent) : ModelChangeEvent :=
  { event with
    nodeId := event.nodeId.toProxy r
    typeDefinitionId := event.typeDefinitionId.toProxy r }

def SemanticChangeEvent.toProxy (event : SemanticChangeEvent) : SemanticChangeEvent :=
  { event with nodeId := event.nodeId.toProxy r }

/-- `RemapVariant` reaches all identifiers of a variant. -/
theorem Variant.remap_eq (value : Variant) (remap : Remap) :
    value.remap remap = Variant.ids.mapAll remap.map value := by
  rcases value with _ | scalar | elements
  · rfl
  · cases scalar <;> rfl
  · cases elements <;> rfl

theorem Variant.toProxy_eq : Variant.toProxy r = Variant.ids.mapAll r.toProxy.map := by
  funext value
  exact value.remap_eq r.toProxy

theorem Variant.toDownstream_eq :
    Variant.toDownstream r = Variant.ids.mapAll r.toDownstream.map := by
  funext value
  exact value.remap_eq r.toDownstream

/-! ## The wrappers -/

variable {C : Type} (context : C)

namespace RemappingViewService

def browse (inputs : List BrowseDescription) :
    Call (C × List BrowseDescription) (StatusOr (List BrowseResult)) where
  sent := (context, inputs.map fun description =>
    { description with
      nodeId := description.nodeId.toDownstream r
      referenceTypeId := description.referenceTypeId.toDownstream r })
  resume := Except.map <| List.map fun browseResult =>
    { browseResult with
      references := browseResult.references.map (ReferenceDescription.toProxy r) }

def translateBrowsePaths (inputs : List BrowsePath) :
    Call (List BrowsePath) (StatusOr (List BrowsePathResult)) where
  sent := inputs.map fun path =>
    { nodeId := path.nodeId.toDownstream r
      relativePath := path.relativePath.map fun element =>
        { element with
          referenceTypeId := element.referenceTypeId.toDownstream r
          targetName := element.targetName.toDownstream r } }
  resume := Except.map <| List.map fun pathResult =>
    { pathResult with
      targets := pathResult.targets.map fun target =>
        { target with targetId := target.targetId.toProxy r } }

end RemappingViewService

namespace RemappingAttributeService

def read (inputs : List ReadValueId) :
    Call (C × List ReadValueId) (StatusOr (List (DataValue Value))) where
  sent := (context, inputs.map fun read => { read with nodeId := read.nodeId.toDownstream r })
  resume := Except.map <| List.map fun dataValue =>
    { dataValue with value := Variant.toProxy r dataValue.value }

def write (inputs : List WriteValue) : Call (C × List WriteValue) (StatusOr (List StatusCode)) where
  sent := (context, inputs.map fun write =>
    { write with
      nodeId := write.nodeId.toDownstream r
      value := Variant.toDownstream r write.value })

end RemappingAttributeService

namespace RemappingHistoryService

def historyReadRaw (details : HistoryReadRawDetails) :
    Call HistoryReadRawDetails (StatusOr HistoryReadRawResult) where
  sent := { details with nodeId := details.nodeId.toDownstream r }
  resume := Except.map fun result =>
    { result with
      values := result.values.map fun dataValue =>
        { dataValue with value := Variant.toProxy r dataValue.value } }

/-- The filter and the events are handed on. -/
def historyReadEvents (details : HistoryReadEventsDetails) :
    Call HistoryReadEventsDetails (StatusOr HistoryReadEventsResult) where
  sent := { details with nodeId := details.nodeId.toDownstream r }

end RemappingHistoryService

namespace RemappingHistoryUpdateService

def historyUpdateData (details : UpdateDataDetails) :
    Call (C × UpdateDataDetails) (StatusOr (List StatusCode)) where
  sent := (context,
    { details with
      nodeId := details.nodeId.toDownstream r
      values := details.values.map fun dataValue =>
        { dataValue with value := Variant.toDownstream r dataValue.value } })

/-- The events are handed on. -/
def historyUpdateEvent (details : UpdateEventDetails) :
    Call (C × UpdateEventDetails) (StatusOr (List StatusCode)) where
  sent := (context, { details with nodeId := details.nodeId.toDownstream r })

end RemappingHistoryUpdateService

namespace RemappingMethodService

def call (parameters : CallParameters) (context : C) :
    Call (C × CallParameters) (StatusOr CallResult) where
  sent := (context,
    { nodeId := parameters.nodeId.toDownstream r
      methodId := parameters.methodId.toDownstream r
      arguments := parameters.arguments.map (Variant.toDownstream r) })
  resume := Except.map fun result =>
    { outputArguments := result.outputArguments.map (Variant.toProxy r) }

end RemappingMethodService

namespace RemappingNodeManagementService

def addNodes (inputs : List AddNodesItem) :
    Call (C × List AddNodesItem) (StatusOr (List AddNodesResult)) where
  sent := (context, inputs.map fun item =>
    { item with
      requestedId := item.requestedId.toDownstream r
      parentId := item.parentId.toDownstream r
      typeDefinitionId := item.typeDefinitionId.toDownstream r
      attributes := { item.attributes with
        browseName := item.attributes.browseName.toDownstream r
        dataType := item.attributes.dataType.toDownstream r
        value := item.attributes.value.map (Variant.toDownstream r) } })
  resume := Except.map <| List.map fun added =>
    { added with addedNodeId := added.addedNodeId.toProxy r }

def deleteNodes (inputs : List DeleteNodesItem) :
    Call (C × List DeleteNodesItem) (StatusOr (List StatusCode)) where
  sent := (context, inputs.map fun item => { item with nodeId := item.nodeId.toDownstream r })

def addReferences (inputs : List AddReferencesItem) :
    Call (C × List AddReferencesItem) (StatusOr (List StatusCode)) where
  sent := (context, inputs.map fun item =>
    { item with
      sourceNodeId := item.sourceNodeId.toDownstream r
      referenceTypeId := item.referenceTypeId.toDownstream r
      targetNodeId := item.targetNodeId.toDownstream r })

def deleteReferences (inputs : List DeleteReferencesItem) :
    Call (C × List DeleteReferencesItem) (StatusOr (List StatusCode)) where
  sent := (context, inputs.map fun item =>
    { item with
      sourceNodeId := item.sourceNodeId.toDownstream r
      referenceTypeId := item.referenceTypeId.toDownstream r
      targetNodeId := item.targetNodeId.toDownstream r })

end RemappingNodeManagementService

namespace RemappingMonitoredItemSubscription

def remapEventPayloadToProxy : Option AnyEvent → Option AnyEvent
  | some (.event event) => some (.event (event.toProxy r))
  | some (.modelChange event) => some (.modelChange (event.toProxy r))
  | some (.semanticChange event) => some (.semanticChange (event.toProxy r))
  | payload => payload

/-- Of the filters, `AddItems` looks at those for events. -/
def remapFilter : MonitoringFilter → MonitoringFilter
  | .event filter => .event
      { filter with
        ofType := filter.ofType.map (NodeId.toDownstream r)
        childOf := filter.childOf.map (NodeId.toDownstream r) }
  | filter => filter

/-- One round of the loop of `AddItems`. -/
def remapRequest (request : CreateRequest) : CreateRequest :=
  { request with
    itemToMonitor :=
      { request.itemToMonitor with nodeId := request.itemToMonitor.nodeId.toDownstream r }
    parameters := { request.parameters with filter := remapFilter r request.parameters.filter } }

def addItems (requests : List CreateRequest) : Call (List CreateRequest) (List CreateResult) where
  sent := requests.map (remapRequest r)

def removeItems (itemIds : List UInt32) : Call (List UInt32) (List Status) where
  sent := itemIds

/-- One round of the loop of `ReadNext`. -/
def remapNotification : Notification Value AnyEvent → Notification Value AnyEvent
  | .dataChange itemId clientHandle value =>
    .dataChange itemId clientHandle { value with value := Variant.toProxy r value.value }
  | .event itemId clientHandle status payload =>
    .event itemId clientHandle status (remapEventPayloadToProxy r payload)
  | notification => notification

def readNext (maxCount : Nat) : Call Nat (StatusOr (List (Notification Value AnyEvent))) where
  sent := maxCount
  resume := Except.map (List.map (remapNotification r))

end RemappingMonitoredItemSubscription

/-! ## What is translated -/

/-- The operation translates a request but for the identifiers in `leftOut`, and
an answer but for those in `leftOutOfAnswer`: what they hold is translated only if
it stays as it is. -/
structure Translates {Q A : Type} (op : NamespaceRemapper → Q → Call Q A) (request : Ids Q)
    (answer : Ids A) (leftOut : Q → List (Sigma IdOf)) (leftOutOfAnswer : A → List (Sigma IdOf)) :
    Prop where
  sent : ∀ r q, (op r q).sent = request.mapAll r.toDownstream.map q ↔
    ∀ id ∈ leftOut q, r.toDownstream.map id.1 id.2 = id.2
  resume : ∀ r q a, (op r q).resume a = answer.mapAll r.toProxy.map a ↔
    ∀ id ∈ leftOutOfAnswer a, r.toProxy.map id.1 id.2 = id.2

/-- Nothing is left out. -/
abbrev TranslatesAll {Q A : Type} (op : NamespaceRemapper → Q → Call Q A) (request : Ids Q)
    (answer : Ids A) : Prop :=
  Translates op request answer (fun _ => []) (fun _ => [])

theorem Translates.all {Q A : Type} {op : NamespaceRemapper → Q → Call Q A} {request : Ids Q}
    {answer : Ids A} (hsent : ∀ r q, (op r q).sent = request.mapAll r.toDownstream.map q)
    (hresume : ∀ r q a, (op r q).resume a = answer.mapAll r.toProxy.map a) :
    TranslatesAll op request answer :=
  ⟨fun r q => iff_of_true (hsent r q) (by simp), fun r q a => iff_of_true (hresume r q a) (by simp)⟩

theorem browse_translates :
    TranslatesAll (fun r q => RemappingViewService.browse (C := C) r q.1 q.2)
      (BrowseDescription.ids.list.snd C) (BrowseResult.ids.list.except _) :=
  .all (fun _ _ => rfl) (fun _ _ _ => rfl)

theorem translateBrowsePaths_translates :
    TranslatesAll RemappingViewService.translateBrowsePaths BrowsePath.ids.list
      (BrowsePathResult.ids.list.except _) :=
  .all (fun _ _ => rfl) (fun _ _ _ => rfl)

theorem read_translates :
    TranslatesAll (fun r q => RemappingAttributeService.read (C := C) r q.1 q.2)
      (ReadValueId.ids.list.snd C) (DataValue.ids.list.except _) := by
  refine .all (fun _ _ => rfl) (fun r q a => ?_)
  simp only [RemappingAttributeService.read, Variant.toProxy_eq]
  rfl

theorem write_translates :
    TranslatesAll (fun r q => RemappingAttributeService.write (C := C) r q.1 q.2)
      (WriteValue.ids.list.snd C) (.nothing _) := by
  refine .all (fun r q => ?_) (fun _ _ _ => rfl)
  simp only [RemappingAttributeService.write, Variant.toDownstream_eq]
  rfl

/-- Of `HistoryReadRaw`, the aggregate type is left out. -/
theorem historyReadRaw_translates :
    Translates RemappingHistoryService.historyReadRaw HistoryReadRawDetails.ids
      (HistoryReadRawResult.ids.except _)
      (fun details => AggregateFilter.ids.elems details.aggregation) (fun _ => []) := by
  constructor
  · rintro r details
    rw [← AggregateFilter.ids.mapAll_eq_self_iff, eq_comm]
    simp only [RemappingHistoryService.historyReadRaw, HistoryReadRawDetails.ids,
      HistoryReadRawDetails.mk.injEq, true_and, and_true]
    exact and_iff_right rfl
  · intro r q a
    refine iff_of_true ?_ (by simp)
    simp only [RemappingHistoryService.historyReadRaw, Variant.toProxy_eq]
    rfl

/-- Of `HistoryReadEvents`, the filter and all events are left out. -/
theorem historyReadEvents_translates :
    Translates RemappingHistoryService.historyReadEvents HistoryReadEventsDetails.ids
      (HistoryReadEventsResult.ids.except _)
      (fun details => EventFilter.ids.elems details.filter)
      (HistoryReadEventsResult.ids.except _).elems := by
  constructor
  · intro r details
    rw [← EventFilter.ids.mapAll_eq_self_iff, eq_comm]
    simp only [RemappingHistoryService.historyReadEvents, HistoryReadEventsDetails.ids,
      HistoryReadEventsDetails.mk.injEq, true_and]
    exact and_iff_right rfl
  · intro r details result
    rw [← Traversal.mapAll_eq_self_iff]
    exact eq_comm

theorem historyUpdateData_translates :
    TranslatesAll (fun r q => RemappingHistoryUpdateService.historyUpdateData (C := C) r q.1 q.2)
      (UpdateDataDetails.ids.snd C) (.nothing _) := by
  refine .all (fun r q => ?_) (fun _ _ _ => rfl)
  simp only [RemappingHistoryUpdateService.historyUpdateData, Variant.toDownstream_eq]
  rfl

/-- Of `HistoryUpdateEvent`, all events are left out. -/
theorem historyUpdateEvent_translates :
    Translates (fun r q => RemappingHistoryUpdateService.historyUpdateEvent (C := C) r q.1 q.2)
      (UpdateEventDetails.ids.snd C) (.nothing _)
      (fun q => Event.ids.list.elems q.2.events) (fun _ => []) := by
  constructor
  · rintro r ⟨context, details⟩
    rw [← Traversal.mapAll_eq_self_iff, eq_comm]
    simp only [RemappingHistoryUpdateService.historyUpdateEvent, UpdateEventDetails.ids,
      Traversal.snd, Prod.mk.injEq, UpdateEventDetails.mk.injEq, true_and]
    exact and_iff_right rfl
  · intro r q a
    exact iff_of_true rfl (by simp)

theorem call_translates :
    TranslatesAll (fun r q => RemappingMethodService.call (C := C) r q.2 q.1)
      (CallParameters.ids.snd C) (CallResult.ids.except _) := by
  refine .all (fun r q => ?_) (fun r q a => ?_)
  · simp only [RemappingMethodService.call, Variant.toDownstream_eq]
    rfl
  · simp only [RemappingMethodService.call, Variant.toProxy_eq]
    rfl

theorem addNodes_translates :
    TranslatesAll (fun r q => RemappingNodeManagementService.addNodes (C := C) r q.1 q.2)
      (AddNodesItem.ids.list.snd C) (AddNodesResult.ids.list.except _) := by
  refine .all (fun r q => ?_) (fun _ _ _ => rfl)
  simp only [RemappingNodeManagementService.addNodes, Variant.toDownstream_eq]
  rfl

theorem deleteNodes_translates :
    TranslatesAll (fun r q => RemappingNodeManagementService.deleteNodes (C := C) r q.1 q.2)
      (DeleteNodesItem.ids.list.snd C) (.nothing _) :=
  .all (fun _ _ => rfl) (fun _ _ _ => rfl)

theorem addReferences_translates :
    TranslatesAll (fun r q => RemappingNodeManagementService.addReferences (C := C) r q.1 q.2)
      (AddReferencesItem.ids.list.snd C) (.nothing _) :=
  .all (fun _ _ => rfl) (fun _ _ _ => rfl)

theorem deleteReferences_translates :
    TranslatesAll (fun r q => RemappingNodeManagementService.deleteReferences (C := C) r q.1 q.2)
      (DeleteReferencesItem.ids.list.snd C) (.nothing _) :=
  .all (fun _ _ => rfl) (fun _ _ _ => rfl)

namespace RemappingMonitoredItemSubscription

/-- The identifiers of a filter that `AddItems` does not look at. -/
def filterLeftOut : MonitoringFilter → List (Sigma IdOf)
  | .aggregate filter => AggregateFilter.ids.elems filter
  | _ => []

/-- The identifiers of a notification that `ReadNext` does not look at. -/
def notificationLeftOut : Notification Value AnyEvent → List (Sigma IdOf)
  | .event _ _ _ (some (.deviceFrame event)) => DeviceFrameEvent.ids.elems event
  | _ => []

theorem remapFilter_eq_iff (filter : MonitoringFilter) :
    remapFilter r filter = MonitoringFilter.ids.mapAll r.toDownstream.map filter ↔
      ∀ id ∈ filterLeftOut filter, r.toDownstream.map id.1 id.2 = id.2 := by
  cases filter with
  | none
  | dataChange deadbandValue
  | event filter => exact iff_of_true rfl (by simp [filterLeftOut])
  | aggregate filter =>
    rw [filterLeftOut, ← Traversal.mapAll_eq_self_iff]
    simp only [remapFilter, MonitoringFilter.ids, MonitoringFilter.aggregate.injEq]
    exact eq_comm

theorem remapRequest_eq_iff (request : CreateRequest) :
    remapRequest r request = CreateRequest.ids.mapAll r.toDownstream.map request ↔
      ∀ id ∈ filterLeftOut request.parameters.filter, r.toDownstream.map id.1 id.2 = id.2 := by
  rw [← remapFilter_eq_iff]
  constructor
  · intro h
    exact congrArg (fun request => request.parameters.filter) h
  · intro h
    rw [remapRequest, h]
    rfl

/-- Of `AddItems`, the aggregate types are left out. -/
theorem addItems_translates :
    Translates addItems CreateRequest.ids.list (.nothing _)
      (List.flatMap fun request => filterLeftOut request.parameters.filter) (fun _ => []) :=
  ⟨fun r requests => Traversal.map_eq_list_mapAll_iff (remapRequest_eq_iff r) requests,
    fun r requests results => iff_of_true rfl (by simp)⟩

theorem removeItems_translates :
    TranslatesAll (fun _ itemIds => removeItems itemIds) (.nothing _) (.nothing _) :=
  .all (fun _ _ => rfl) (fun _ _ _ => rfl)

theorem remapEventPayloadToProxy_event (event : Event) :
    remapEventPayloadToProxy r (some (.event event)) =
      some (.event (Event.ids.mapAll r.toProxy.map event)) := by
  simp only [remapEventPayloadToProxy, Event.toProxy, Variant.toProxy_eq]
  rfl

theorem remapNotification_eq_iff (notification : Notification Value AnyEvent) :
    remapNotification r notification = Notification.ids.mapAll r.toProxy.map notification ↔
      ∀ id ∈ notificationLeftOut notification, r.toProxy.map id.1 id.2 = id.2 := by
  cases notification with
  | dataChange itemId clientHandle value =>
    refine iff_of_true ?_ (by simp [notificationLeftOut])
    simp only [remapNotification, Variant.toProxy_eq]
    rfl
  | itemStatus itemId clientHandle status =>
    exact iff_of_true rfl (by simp [notificationLeftOut])
  | overflow status => exact iff_of_true rfl (by simp [notificationLeftOut])
  | event itemId clientHandle status payload =>
    rcases payload with _ | event | event | event | event
    · exact iff_of_true rfl (by simp [notificationLeftOut])
    · refine iff_of_true ?_ (by simp [notificationLeftOut])
      rw [remapNotification, remapEventPayloadToProxy_event]
      rfl
    · -- a device frame is handed on as it is
      rw [notificationLeftOut, ← Traversal.mapAll_eq_self_iff, eq_comm]
      simp [remapNotification, remapEventPayloadToProxy, Notification.ids, Traversal.option,
        AnyEvent.ids]
    · exact iff_of_true rfl (by simp [notificationLeftOut])
    · exact iff_of_true rfl (by simp [notificationLeftOut])

/-- Of `ReadNext`, the events of device frames are left out. -/
theorem readNext_translates :
    Translates readNext (.nothing _) (Notification.ids.list.except _) (fun _ => [])
      (fun answer => (answer.toOption.getD []).flatMap notificationLeftOut) := by
  constructor
  · intro r maxCount
    exact iff_of_true rfl (by simp)
  · intro r maxCount answer
    cases answer with
    | error status => exact iff_of_true rfl (by simp [Except.toOption])
    | ok notifications =>
      have hiff := Traversal.map_eq_list_mapAll_iff (remapNotification_eq_iff r) notifications
      simpa [readNext, Except.map, Traversal.except, Except.toOption] using hiff

end RemappingMonitoredItemSubscription

open RemappingMonitoredItemSubscription

/-- An event of the history is the one that the subscription delivers exactly if
there is nothing to translate in it. -/
theorem historyReadEvents_eq_readNext_iff {details : HistoryReadEventsDetails} {maxCount : Nat}
    {itemId clientHandle : UInt32} {status : Status} {event event' : Event}
    (h : (readNext r maxCount).resume
        (.ok [.event itemId clientHandle status (some (.event event))]) =
      .ok [.event itemId clientHandle status (some (.event event'))]) :
    (RemappingHistoryService.historyReadEvents r details).resume (.ok { events := [event] }) =
        .ok { events := [event'] } ↔
      ∀ id ∈ Event.ids.elems event, r.toProxy.map id.1 id.2 = id.2 := by
  have hevent : Event.ids.mapAll r.toProxy.map event = event' := by
    simpa [readNext, Except.map, remapNotification, remapEventPayloadToProxy_event] using h
  rw [← Traversal.mapAll_eq_self_iff, hevent]
  simp [RemappingHistoryService.historyReadEvents, eq_comm]

/-- What the wrappers translate, operation by operation: everything, but for the
aggregate types of `HistoryReadRaw` and `AddItems`, the filter and the events of
`HistoryReadEvents`, the events of `HistoryUpdateEvent` and the device frames of
`ReadNext`. So an event of the history is the one that the subscription delivers
only if there is nothing to translate in it. -/
theorem remapping_translates (C : Type) :
    TranslatesAll (fun r q => RemappingViewService.browse (C := C) r q.1 q.2)
      (BrowseDescription.ids.list.snd C) (BrowseResult.ids.list.except _) ∧
    TranslatesAll RemappingViewService.translateBrowsePaths BrowsePath.ids.list
      (BrowsePathResult.ids.list.except _) ∧
    TranslatesAll (fun r q => RemappingAttributeService.read (C := C) r q.1 q.2)
      (ReadValueId.ids.list.snd C) (DataValue.ids.list.except _) ∧
    TranslatesAll (fun r q => RemappingAttributeService.write (C := C) r q.1 q.2)
      (WriteValue.ids.list.snd C) (.nothing _) ∧
    Translates RemappingHistoryService.historyReadRaw HistoryReadRawDetails.ids
      (HistoryReadRawResult.ids.except _)
      (fun details => AggregateFilter.ids.elems details.aggregation) (fun _ => []) ∧
    Translates RemappingHistoryService.historyReadEvents HistoryReadEventsDetails.ids
      (HistoryReadEventsResult.ids.except _)
      (fun details => EventFilter.ids.elems details.filter)
      (HistoryReadEventsResult.ids.except _).elems ∧
    TranslatesAll (fun r q => RemappingHistoryUpdateService.historyUpdateData (C := C) r q.1 q.2)
      (UpdateDataDetails.ids.snd C) (.nothing _) ∧
    Translates (fun r q => RemappingHistoryUpdateService.historyUpdateEvent (C := C) r q.1 q.2)
      (UpdateEventDetails.ids.snd C) (.nothing _)
      (fun q => Event.ids.list.elems q.2.events) (fun _ => []) ∧
    TranslatesAll (fun r q => RemappingMethodService.call (C := C) r q.2 q.1)
      (CallParameters.ids.snd C) (CallResult.ids.except _) ∧
    TranslatesAll (fun r q => RemappingNodeManagementService.addNodes (C := C) r q.1 q.2)
      (AddNodesItem.ids.list.snd C) (AddNodesResult.ids.list.except _) ∧
    TranslatesAll (fun r q => RemappingNodeManagementService.deleteNodes (C := C) r q.1 q.2)
      (DeleteNodesItem.ids.list.snd C) (.nothing _) ∧
    TranslatesAll (fun r q => RemappingNodeManagementService.addReferences (C := C) r q.1 q.2)
      (AddReferencesItem.ids.list.snd C) (.nothing _) ∧
    TranslatesAll (fun r q => RemappingNodeManagementService.deleteReferences (C := C) r q.1 q.2)
      (DeleteReferencesItem.ids.list.snd C) (.nothing _) ∧
    Translates addItems CreateRequest.ids.list (.nothing _)
      (List.flatMap fun request => filterLeftOut request.parameters.filter) (fun _ => []) ∧
    TranslatesAll (fun _ itemIds => removeItems itemIds) (.nothing _) (.nothing _) ∧
    Translates readNext (.nothing _) (Notification.ids.list.except _) (fun _ => [])
      (fun answer => (answer.toOption.getD []).flatMap notificationLeftOut) ∧
    (∀ (r : NamespaceRemapper) (details : HistoryReadEventsDetails) (maxCount : Nat)
        (itemId clientHandle : UInt32) (status : Status) (event event' : Event),
      (readNext r maxCount).resume
          (.ok [.event itemId clientHandle status (some (.event event))]) =
        .ok [.event itemId clientHandle status (some (.event event'))] →
      ((RemappingHistoryService.historyReadEvents r details).resume (.ok { events := [event] }) =
          .ok { events := [event'] } ↔
        ∀ id ∈ Event.ids.elems event, r.toProxy.map id.1 id.2 = id.2)) :=
  ⟨browse_translates, translateBrowsePaths_translates, read_translates, write_translates,
    historyReadRaw_translates, historyReadEvents_translates, historyUpdateData_translates,
    historyUpdateEvent_translates, call_translates, addNodes_translates, deleteNodes_translates,
    addReferences_translates, deleteReferences_translates, addItems_translates,
    removeItems_translates, readNext_translates,
    fun r _ _ _ _ _ _ _ h => historyReadEvents_eq_readNext_iff r h⟩

/-- The namespace 1 of the downstream server is the namespace 2 of the proxy. -/
def plantRemapper : NamespaceRemapper :=
  (NamespaceRemapper.build ["http://opcfoundation.org/UA/", "urn:plant"]
    ⟨["http://opcfoundation.org/UA/", "urn:proxy"]⟩).1

/-- An event of a node in that namespace is read from the history with the node
id of the downstream server, and delivered by the subscription with that of the
proxy. An aggregate type goes to the downstream server with the namespace index of
the proxy. -/
theorem remapping_leaves_untranslated :
    (∃ event', (readNext plantRemapper 1).resume
        (.ok [.event 1 1 StatusCode.good (some (.event { sourceNodeId := ⟨.numeric 7, 1⟩ }))]) =
      .ok [.event 1 1 StatusCode.good (some (.event event'))] ∧
      (RemappingHistoryService.historyReadEvents plantRemapper {}).resume
        (.ok { events := [{ sourceNodeId := ⟨.numeric 7, 1⟩ }] }) ≠ .ok { events := [event'] }) ∧
    (RemappingHistoryService.historyReadRaw plantRemapper
        { aggregation := { aggregateType := ⟨.numeric 7, 2⟩ } }).sent ≠
      HistoryReadRawDetails.ids.mapAll plantRemapper.toDownstream.map
        { aggregation := { aggregateType := ⟨.numeric 7, 2⟩ } } := by
  refine ⟨⟨_, rfl, ?_⟩, by decide⟩
  intro h
  have hsources := congrArg (fun answer => answer.toOption.map fun result =>
    result.events.map Event.sourceNodeId) h
  revert hsources
  decide

end ScadaCore.Scada
