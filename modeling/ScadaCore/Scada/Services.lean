import ScadaCore.Data.Traversal
import ScadaCore.Scada.Event
import ScadaCore.Scada.MonitoredItem

/-!
# Scada.Services — requests, results and the identifiers in them

The messages of the services of a server, as the headers in `scada/` declare
them. With each comes `ids`, the traversal of all the identifiers that it holds:
node ids, expanded node ids and qualified names, be they fields or the values of
variants. It says which namespace indexes a message depends on, and knows nothing
of the code that translates them.
-/

namespace ScadaCore.Scada

/-! ## Identifiers -/

/-- What holds a namespace index. -/
inductive IdKind where
  | nodeId | expandedNodeId | qualifiedName
deriving DecidableEq, Repr

abbrev IdOf : IdKind → Type
  | .nodeId => NodeId
  | .expandedNodeId => ExpandedNodeId
  | .qualifiedName => QualifiedName

/-- The identifiers of an `α`. -/
abbrev Ids (α : Type) := Traversal IdOf α

def NodeId.ids : Ids NodeId := Traversal.elem (I := IdOf) IdKind.nodeId
def ExpandedNodeId.ids : Ids ExpandedNodeId := Traversal.elem (I := IdOf) IdKind.expandedNodeId
def QualifiedName.ids : Ids QualifiedName := Traversal.elem (I := IdOf) IdKind.qualifiedName

-- the law of a record is that of its fields, taken together
attribute [local simp] Traversal.mapAll_eq_self_iff or_imp forall_and

def Variant.ids : Ids Variant where
  mapAll f
    | some (.scalar (.nodeId id)) => some (.scalar (.nodeId (NodeId.ids.mapAll f id)))
    | some (.scalar (.expandedNodeId id)) =>
      some (.scalar (.expandedNodeId (ExpandedNodeId.ids.mapAll f id)))
    | some (.scalar (.qualifiedName name)) =>
      some (.scalar (.qualifiedName (QualifiedName.ids.mapAll f name)))
    | some (.array (.nodeId ids)) => some (.array (.nodeId (NodeId.ids.list.mapAll f ids)))
    | some (.array (.expandedNodeId ids)) =>
      some (.array (.expandedNodeId (ExpandedNodeId.ids.list.mapAll f ids)))
    | some (.array (.qualifiedName names)) =>
      some (.array (.qualifiedName (QualifiedName.ids.list.mapAll f names)))
    | value => value
  elems
    | some (.scalar (.nodeId id)) => NodeId.ids.elems id
    | some (.scalar (.expandedNodeId id)) => ExpandedNodeId.ids.elems id
    | some (.scalar (.qualifiedName name)) => QualifiedName.ids.elems name
    | some (.array (.nodeId ids)) => NodeId.ids.list.elems ids
    | some (.array (.expandedNodeId ids)) => ExpandedNodeId.ids.list.elems ids
    | some (.array (.qualifiedName names)) => QualifiedName.ids.list.elems names
    | _ => []
  mapAll_eq_self_iff f value := by
    rcases value with _ | scalar | elements
    · simp
    · cases scalar <;> simp
    · cases elements <;> simp

def DataValue.ids : Ids (DataValue Value) where
  mapAll f d := { d with value := Variant.ids.mapAll f d.value }
  elems d := Variant.ids.elems d.value

/-! ## Events -/

def Event.ids : Ids Event where
  mapAll f e := { e with
    eventTypeId := NodeId.ids.mapAll f e.eventTypeId
    sourceNodeId := NodeId.ids.mapAll f e.sourceNodeId
    userId := NodeId.ids.mapAll f e.userId
    value := Variant.ids.mapAll f e.value
    acknowledgedUserId := NodeId.ids.mapAll f e.acknowledgedUserId }
  elems e := NodeId.ids.elems e.eventTypeId ++ NodeId.ids.elems e.sourceNodeId ++
    NodeId.ids.elems e.userId ++ Variant.ids.elems e.value ++
    NodeId.ids.elems e.acknowledgedUserId

def DeviceFrameEvent.ids : Ids DeviceFrameEvent where
  mapAll f e := { e with base := Event.ids.mapAll f e.base }
  elems e := Event.ids.elems e.base

def ModelChangeEvent.ids : Ids ModelChangeEvent where
  mapAll f e := { e with
    nodeId := NodeId.ids.mapAll f e.nodeId
    typeDefinitionId := NodeId.ids.mapAll f e.typeDefinitionId }
  elems e := NodeId.ids.elems e.nodeId ++ NodeId.ids.elems e.typeDefinitionId

def SemanticChangeEvent.ids : Ids SemanticChangeEvent where
  mapAll f e := { e with nodeId := NodeId.ids.mapAll f e.nodeId }
  elems e := NodeId.ids.elems e.nodeId

def AnyEvent.ids : Ids AnyEvent where
  mapAll f
    | .event e => .event (Event.ids.mapAll f e)
    | .deviceFrame e => .deviceFrame (DeviceFrameEvent.ids.mapAll f e)
    | .modelChange e => .modelChange (ModelChangeEvent.ids.mapAll f e)
    | .semanticChange e => .semanticChange (SemanticChangeEvent.ids.mapAll f e)
  elems
    | .event e => Event.ids.elems e
    | .deviceFrame e => DeviceFrameEvent.ids.elems e
    | .modelChange e => ModelChangeEvent.ids.elems e
    | .semanticChange e => SemanticChangeEvent.ids.elems e

/-! ## View -/

inductive BrowseDirection where
  | forward | inverse | both
deriving DecidableEq, Repr

/-- `enum class NodeClass`. -/
inductive NodeClass where
  | unspecified | object | variable | method | objectType | variableType | referenceType
  | dataType | view
deriving DecidableEq, Repr

structure BrowseDescription where
  nodeId : NodeId := {}
  direction : BrowseDirection := .both
  referenceTypeId : NodeId := {}
  includeSubtypes : Bool := true
  nodeClassMask : UInt32 := 0
  resultMask : UInt32 := 0x3f
deriving DecidableEq, Repr

def BrowseDescription.ids : Ids BrowseDescription where
  mapAll f d := { d with
    nodeId := NodeId.ids.mapAll f d.nodeId
    referenceTypeId := NodeId.ids.mapAll f d.referenceTypeId }
  elems d := NodeId.ids.elems d.nodeId ++ NodeId.ids.elems d.referenceTypeId

structure ReferenceDescription where
  referenceTypeId : NodeId := {}
  forward : Bool := true
  nodeId : NodeId := {}
  nodeClass : NodeClass := .unspecified
  browseName : QualifiedName := {}
  displayName : LocalizedText := {}
  typeDefinition : NodeId := {}
deriving DecidableEq, Repr

def ReferenceDescription.ids : Ids ReferenceDescription where
  mapAll f d := { d with
    referenceTypeId := NodeId.ids.mapAll f d.referenceTypeId
    nodeId := NodeId.ids.mapAll f d.nodeId
    browseName := QualifiedName.ids.mapAll f d.browseName
    typeDefinition := NodeId.ids.mapAll f d.typeDefinition }
  elems d := NodeId.ids.elems d.referenceTypeId ++ NodeId.ids.elems d.nodeId ++
    QualifiedName.ids.elems d.browseName ++ NodeId.ids.elems d.typeDefinition

structure BrowseResult where
  statusCode : StatusCode := .good
  continuationPoint : ByteString := []
  references : List ReferenceDescription := []
deriving DecidableEq, Repr

def BrowseResult.ids : Ids BrowseResult where
  mapAll f r := { r with references := ReferenceDescription.ids.list.mapAll f r.references }
  elems r := ReferenceDescription.ids.list.elems r.references

structure RelativePathElement where
  referenceTypeId : NodeId := {}
  inverse : Bool := false
  includeSubtypes : Bool := true
  targetName : QualifiedName := {}
deriving DecidableEq, Repr

def RelativePathElement.ids : Ids RelativePathElement where
  mapAll f e := { e with
    referenceTypeId := NodeId.ids.mapAll f e.referenceTypeId
    targetName := QualifiedName.ids.mapAll f e.targetName }
  elems e := NodeId.ids.elems e.referenceTypeId ++ QualifiedName.ids.elems e.targetName

structure BrowsePath where
  nodeId : NodeId := {}
  relativePath : List RelativePathElement := []
deriving DecidableEq, Repr

def BrowsePath.ids : Ids BrowsePath where
  mapAll f p := {
    nodeId := NodeId.ids.mapAll f p.nodeId
    relativePath := RelativePathElement.ids.list.mapAll f p.relativePath }
  elems p := NodeId.ids.elems p.nodeId ++ RelativePathElement.ids.list.elems p.relativePath

structure BrowsePathTarget where
  targetId : ExpandedNodeId := {}
  remainingPathIndex : Nat := 0
deriving DecidableEq, Repr

def BrowsePathTarget.ids : Ids BrowsePathTarget where
  mapAll f t := { t with targetId := ExpandedNodeId.ids.mapAll f t.targetId }
  elems t := ExpandedNodeId.ids.elems t.targetId

structure BrowsePathResult where
  statusCode : StatusCode := .good
  targets : List BrowsePathTarget := []
deriving DecidableEq, Repr

def BrowsePathResult.ids : Ids BrowsePathResult where
  mapAll f r := { r with targets := BrowsePathTarget.ids.list.mapAll f r.targets }
  elems r := BrowsePathTarget.ids.list.elems r.targets

/-! ## Attributes and methods -/

def ReadValueId.ids : Ids ReadValueId where
  mapAll f i := { i with nodeId := NodeId.ids.mapAll f i.nodeId }
  elems i := NodeId.ids.elems i.nodeId

/-- `struct WriteValue`, with the raw `WriteFlags`. -/
structure WriteValue where
  nodeId : NodeId := {}
  attributeId : AttributeId := .value
  value : Variant := none
  flags : BitVec 32 := 0
deriving DecidableEq, Repr

def WriteValue.ids : Ids WriteValue where
  mapAll f w := { w with
    nodeId := NodeId.ids.mapAll f w.nodeId
    value := Variant.ids.mapAll f w.value }
  elems w := NodeId.ids.elems w.nodeId ++ Variant.ids.elems w.value

/-- The parameters of `Call`, the context apart. -/
structure CallParameters where
  nodeId : NodeId := {}
  methodId : NodeId := {}
  arguments : List Variant := []
deriving DecidableEq, Repr

def CallParameters.ids : Ids CallParameters where
  mapAll f c := {
    nodeId := NodeId.ids.mapAll f c.nodeId
    methodId := NodeId.ids.mapAll f c.methodId
    arguments := Variant.ids.list.mapAll f c.arguments }
  elems c := NodeId.ids.elems c.nodeId ++ NodeId.ids.elems c.methodId ++
    Variant.ids.list.elems c.arguments

structure CallResult where
  outputArguments : List Variant := []
deriving DecidableEq, Repr

def CallResult.ids : Ids CallResult where
  mapAll f r := { outputArguments := Variant.ids.list.mapAll f r.outputArguments }
  elems r := Variant.ids.list.elems r.outputArguments

/-! ## Filters -/

structure EventFilter where
  types : BitVec 32 := 0
  ofType : List NodeId := []
  childOf : List NodeId := []
deriving DecidableEq, Repr

def EventFilter.ids : Ids EventFilter where
  mapAll f e := { e with
    ofType := NodeId.ids.list.mapAll f e.ofType
    childOf := NodeId.ids.list.mapAll f e.childOf }
  elems e := NodeId.ids.list.elems e.ofType ++ NodeId.ids.list.elems e.childOf

/-- `struct AggregateFilter`; a `Duration` is a count of microseconds. -/
structure AggregateFilter where
  startTime : Time := nullTime
  interval : Int64 := 0
  aggregateType : NodeId := {}
deriving DecidableEq, Repr

def AggregateFilter.ids : Ids AggregateFilter where
  mapAll f a := { a with aggregateType := NodeId.ids.mapAll f a.aggregateType }
  elems a := NodeId.ids.elems a.aggregateType

/-- `MonitoringFilter`; a data-change filter is its dead band. -/
inductive MonitoringFilter where
  | none
  | dataChange (deadbandValue : Double)
  | event (filter : EventFilter)
  | aggregate (filter : AggregateFilter)
deriving DecidableEq, Repr

def MonitoringFilter.ids : Ids MonitoringFilter where
  mapAll f
    | .event filter => .event (EventFilter.ids.mapAll f filter)
    | .aggregate filter => .aggregate (AggregateFilter.ids.mapAll f filter)
    | filter => filter
  elems
    | .event filter => EventFilter.ids.elems filter
    | .aggregate filter => AggregateFilter.ids.elems filter
    | _ => []

/-! ## History -/

structure HistoryReadRawDetails where
  nodeId : NodeId := {}
  fromTime : Time := nullTime
  toTime : Time := nullTime
  maxCount : Nat := 0
  aggregation : AggregateFilter := {}
  releaseContinuationPoint : Bool := false
  continuationPoint : ByteString := []
deriving DecidableEq, Repr

def HistoryReadRawDetails.ids : Ids HistoryReadRawDetails where
  mapAll f d := { d with
    nodeId := NodeId.ids.mapAll f d.nodeId
    aggregation := AggregateFilter.ids.mapAll f d.aggregation }
  elems d := NodeId.ids.elems d.nodeId ++ AggregateFilter.ids.elems d.aggregation

structure HistoryReadRawResult where
  values : List (DataValue Value) := []
  continuationPoint : ByteString := []

def HistoryReadRawResult.ids : Ids HistoryReadRawResult where
  mapAll f r := { r with values := DataValue.ids.list.mapAll f r.values }
  elems r := DataValue.ids.list.elems r.values

structure HistoryReadEventsDetails where
  nodeId : NodeId := {}
  fromTime : Time := nullTime
  toTime : Time := nullTime
  filter : EventFilter := {}
deriving DecidableEq, Repr

def HistoryReadEventsDetails.ids : Ids HistoryReadEventsDetails where
  mapAll f d := { d with
    nodeId := NodeId.ids.mapAll f d.nodeId
    filter := EventFilter.ids.mapAll f d.filter }
  elems d := NodeId.ids.elems d.nodeId ++ EventFilter.ids.elems d.filter

structure HistoryReadEventsResult where
  events : List Event := []
deriving DecidableEq, Repr

def HistoryReadEventsResult.ids : Ids HistoryReadEventsResult where
  mapAll f r := { events := Event.ids.list.mapAll f r.events }
  elems r := Event.ids.list.elems r.events

inductive PerformUpdateType where
  | insert | replace | update | remove
deriving DecidableEq, Repr

structure UpdateDataDetails where
  nodeId : NodeId := {}
  performInsertReplace : PerformUpdateType := .update
  values : List (DataValue Value) := []

def UpdateDataDetails.ids : Ids UpdateDataDetails where
  mapAll f d := { d with
    nodeId := NodeId.ids.mapAll f d.nodeId
    values := DataValue.ids.list.mapAll f d.values }
  elems d := NodeId.ids.elems d.nodeId ++ DataValue.ids.list.elems d.values

structure UpdateEventDetails where
  nodeId : NodeId := {}
  performInsertReplace : PerformUpdateType := .insert
  events : List Event := []
deriving DecidableEq, Repr

def UpdateEventDetails.ids : Ids UpdateEventDetails where
  mapAll f d := { d with
    nodeId := NodeId.ids.mapAll f d.nodeId
    events := Event.ids.list.mapAll f d.events }
  elems d := NodeId.ids.elems d.nodeId ++ Event.ids.list.elems d.events

/-! ## Node management -/

structure NodeAttributes where
  browseName : QualifiedName := {}
  displayName : LocalizedText := {}
  inverseName : LocalizedText := {}
  dataType : NodeId := {}
  value : Option Variant := none
deriving DecidableEq, Repr

def NodeAttributes.ids : Ids NodeAttributes where
  mapAll f a := { a with
    browseName := QualifiedName.ids.mapAll f a.browseName
    dataType := NodeId.ids.mapAll f a.dataType
    value := Variant.ids.option.mapAll f a.value }
  elems a := QualifiedName.ids.elems a.browseName ++ NodeId.ids.elems a.dataType ++
    Variant.ids.option.elems a.value

structure AddNodesItem where
  requestedId : NodeId := {}
  parentId : NodeId := {}
  nodeClass : NodeClass := .object
  typeDefinitionId : NodeId := {}
  attributes : NodeAttributes := {}
deriving DecidableEq, Repr

def AddNodesItem.ids : Ids AddNodesItem where
  mapAll f i := { i with
    requestedId := NodeId.ids.mapAll f i.requestedId
    parentId := NodeId.ids.mapAll f i.parentId
    typeDefinitionId := NodeId.ids.mapAll f i.typeDefinitionId
    attributes := NodeAttributes.ids.mapAll f i.attributes }
  elems i := NodeId.ids.elems i.requestedId ++ NodeId.ids.elems i.parentId ++
    NodeId.ids.elems i.typeDefinitionId ++ NodeAttributes.ids.elems i.attributes

structure AddNodesResult where
  statusCode : StatusCode := .good
  addedNodeId : NodeId := {}
deriving DecidableEq, Repr

def AddNodesResult.ids : Ids AddNodesResult where
  mapAll f r := { r with addedNodeId := NodeId.ids.mapAll f r.addedNodeId }
  elems r := NodeId.ids.elems r.addedNodeId

structure DeleteNodesItem where
  nodeId : NodeId := {}
  deleteTargetReferences : Bool := false
deriving DecidableEq, Repr

def DeleteNodesItem.ids : Ids DeleteNodesItem where
  mapAll f i := { i with nodeId := NodeId.ids.mapAll f i.nodeId }
  elems i := NodeId.ids.elems i.nodeId

structure AddReferencesItem where
  sourceNodeId : NodeId := {}
  referenceTypeId : NodeId := {}
  forward : Bool := true
  targetServerUri : String := ""
  targetNodeId : ExpandedNodeId := {}
  targetNodeClass : NodeClass := .object
deriving DecidableEq, Repr

def AddReferencesItem.ids : Ids AddReferencesItem where
  mapAll f i := { i with
    sourceNodeId := NodeId.ids.mapAll f i.sourceNodeId
    referenceTypeId := NodeId.ids.mapAll f i.referenceTypeId
    targetNodeId := ExpandedNodeId.ids.mapAll f i.targetNodeId }
  elems i := NodeId.ids.elems i.sourceNodeId ++ NodeId.ids.elems i.referenceTypeId ++
    ExpandedNodeId.ids.elems i.targetNodeId

structure DeleteReferencesItem where
  sourceNodeId : NodeId := {}
  referenceTypeId : NodeId := {}
  forward : Bool := true
  targetNodeId : ExpandedNodeId := {}
  deleteBidirectional : Bool := true
deriving DecidableEq, Repr

def DeleteReferencesItem.ids : Ids DeleteReferencesItem where
  mapAll f i := { i with
    sourceNodeId := NodeId.ids.mapAll f i.sourceNodeId
    referenceTypeId := NodeId.ids.mapAll f i.referenceTypeId
    targetNodeId := ExpandedNodeId.ids.mapAll f i.targetNodeId }
  elems i := NodeId.ids.elems i.sourceNodeId ++ NodeId.ids.elems i.referenceTypeId ++
    ExpandedNodeId.ids.elems i.targetNodeId

/-! ## Subscriptions -/

namespace MonitoredItem

structure MonitoringParameters where
  samplingInterval : Option Int64 := none
  filter : MonitoringFilter := .none
  queueSize : Option Nat := none
deriving DecidableEq, Repr

/-- `struct MonitoredItemCreateRequest`. -/
structure CreateRequest where
  itemToMonitor : ReadValueId := {}
  parameters : MonitoringParameters := {}
  clientHandle : UInt32 := 0
deriving DecidableEq, Repr

def CreateRequest.ids : Ids CreateRequest where
  mapAll f r := { r with
    itemToMonitor := ReadValueId.ids.mapAll f r.itemToMonitor
    parameters := { r.parameters with
      filter := MonitoringFilter.ids.mapAll f r.parameters.filter } }
  elems r := ReadValueId.ids.elems r.itemToMonitor ++
    MonitoringFilter.ids.elems r.parameters.filter
  mapAll_eq_self_iff f r := by
    rcases r with ⟨item, ⟨interval, filter, size⟩, handle⟩
    simp

def Notification.ids : Ids (Notification Value AnyEvent) where
  mapAll f
    | .dataChange itemId clientHandle value =>
      .dataChange itemId clientHandle (DataValue.ids.mapAll f value)
    | .event itemId clientHandle status payload =>
      .event itemId clientHandle status (AnyEvent.ids.option.mapAll f payload)
    | notification => notification
  elems
    | .dataChange _ _ value => DataValue.ids.elems value
    | .event _ _ _ payload => AnyEvent.ids.option.elems payload
    | _ => []

end MonitoredItem

/-! ## Wrappers -/

/-- An operation of a wrapper that awaits the wrapped service once: what it sends
there, and what it makes of the answer. -/
structure Call (Q A : Type) where
  sent : Q
  resume : A → A := id

end ScadaCore.Scada
