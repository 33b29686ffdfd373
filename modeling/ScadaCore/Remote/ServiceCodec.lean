import ScadaCore.Remote.HistoryRequests
import ScadaCore.Remote.ResultCodec
import ScadaCore.Scada.NodeAttributes

/-!
# Remote.ServiceCodec — the inputs and results of the services on the wire

The `Convert` overloads that the stubs and proxies of the services use beside those
of `RequestCodec` and `ResultCodec`. Most of them are total. Three kinds of data are
not: a variant, a time, and the target of a browse path, which is to be a node of
this server. `Encodable` says what a sender can write and `Readable` what a receiver
can read, and a receiver can read all that a sender writes.
-/

namespace ScadaCore.Remote.Wire

structure ReadValueId where
  nodeId : NodeId := {}
  attributeId : Scada.AttributeId := .unknown 0
deriving DecidableEq, Repr

structure DeviceCommand where
  nodeId : NodeId := {}
  methodId : NodeId := {}
  argument : List Variant := []
deriving DecidableEq, Repr

structure BrowseDescription where
  nodeId : NodeId := {}
  direction : Scada.BrowseDirection := .forward
  referenceTypeId : Option NodeId := none
  includeSubtypes : Bool := false
deriving DecidableEq, Repr

structure Attributes where
  browseNameUtf8 : String := ""
  displayNameUtf8 : String := ""
  dataTypeId : Option NodeId := none
  value : Option Variant := none
deriving DecidableEq, Repr

structure AddNode where
  requestedNodeId : Option NodeId := none
  typeDefinitionId : NodeId := {}
  parentId : NodeId := {}
  nodeClass : Scada.NodeClass := .unspecified
  attributes : Option Attributes := none
deriving DecidableEq, Repr

structure MonitoringParameters where
  aggregateFilter : Option AggregateFilter := none
  eventFilter : Option EventFilter := none
deriving DecidableEq, Repr

end ScadaCore.Remote.Wire

namespace ScadaCore

open Remote

/-! ## Inputs -/

def Scada.ReadValueId.convert (source : ReadValueId) : Wire.ReadValueId :=
  { nodeId := source.nodeId.convert, attributeId := source.attributeId }

def Remote.Wire.ReadValueId.convert (source : ReadValueId) : Scada.ReadValueId :=
  { nodeId := source.nodeId.convert, attributeId := source.attributeId }

def Scada.CallParameters.convert (source : CallParameters) : Option Wire.DeviceCommand := do
  let argument ← source.arguments.mapM Variant.convert
  return { nodeId := source.nodeId.convert, methodId := source.methodId.convert, argument }

def Remote.Wire.DeviceCommand.convert (source : DeviceCommand) : Option Scada.CallParameters := do
  let arguments ← source.argument.mapM Variant.convert
  return { nodeId := source.nodeId.convert, methodId := source.methodId.convert, arguments }

def Scada.BrowseDescription.convert (source : BrowseDescription) : Wire.BrowseDescription :=
  { nodeId := source.nodeId.convert
    direction := source.direction
    referenceTypeId := some source.referenceTypeId.convert
    includeSubtypes := source.includeSubtypes }

def Remote.Wire.BrowseDescription.convert (source : BrowseDescription) : Scada.BrowseDescription :=
  { nodeId := source.nodeId.convert
    direction := source.direction
    referenceTypeId := NodeId.ofField source.referenceTypeId
    includeSubtypes := source.includeSubtypes }

def Scada.NodeAttributes.convert (source : NodeAttributes) : Option Wire.Attributes := do
  let value ← source.value.mapM Variant.convert
  return {
    browseNameUtf8 := source.browseName.name
    displayNameUtf8 := utf8OfUtf16 source.displayName.text
    dataTypeId := source.dataType.field
    value }

def Scada.NodeAttributes.field (source : NodeAttributes) : Option (Option Wire.Attributes) :=
  if source.isEmpty then some none else source.convert.map some

def Remote.Wire.Attributes.convert (source : Attributes) : Option Scada.NodeAttributes := do
  let value ← source.value.mapM Variant.convert
  return {
    browseName := { name := source.browseNameUtf8 }
    displayName := { text := Scada.utf16OfUtf8 source.displayNameUtf8 }
    dataType := NodeId.ofField source.dataTypeId
    value }

def Scada.AddNodesItem.convert (source : AddNodesItem) : Option Wire.AddNode := do
  let attributes ← source.attributes.field
  return {
    nodeClass := source.nodeClass
    requestedNodeId := source.requestedId.field
    parentId := source.parentId.convert
    typeDefinitionId := source.typeDefinitionId.convert
    attributes }

def Remote.Wire.AddNode.convert (source : AddNode) : Option Scada.AddNodesItem := do
  let attributes ← source.attributes.mapM Attributes.convert
  return {
    requestedId := NodeId.ofField source.requestedNodeId
    parentId := source.parentId.convert
    nodeClass := source.nodeClass
    typeDefinitionId := source.typeDefinitionId.convert
    attributes := attributes.getD {} }

def Remote.Wire.MonitoringParameters.convert (source : MonitoringParameters) :
    Option Scada.MonitoredItem.MonitoringParameters :=
  match source.aggregateFilter, source.eventFilter with
  | some filter, _ => filter.convert.map fun filter => { filter := .aggregate filter }
  | none, some filter => some { filter := .event filter.convert }
  | none, none => some {}

/-! ## Results -/

def Scada.ReferenceDescription.convert (source : ReferenceDescription) :
    Wire.ReferenceDescription :=
  { referenceTypeId := source.referenceTypeId.convert
    forward := source.forward
    nodeId := source.nodeId.convert }

def Scada.BrowseResult.convert (source : BrowseResult) : Wire.BrowseResult :=
  { statusCode := source.statusCode.raw
    references := source.references.map ReferenceDescription.convert }

def Scada.BrowsePathTarget.convert (source : BrowsePathTarget) : Option Wire.BrowsePathTarget := do
  check (source.targetId.serverIndex == 0)
  check source.targetId.namespaceUri.isEmpty
  return {
    targetId := source.targetId.nodeId.convert
    remainingPathIndex := UInt32.ofNat source.remainingPathIndex }

def Scada.BrowsePathResult.convert (source : BrowsePathResult) : Option Wire.BrowsePathResult := do
  let target ← source.targets.mapM BrowsePathTarget.convert
  return { statusCode := source.statusCode.raw, target }

def Scada.AddNodesResult.convert (source : AddNodesResult) : Wire.AddNodeResult :=
  { statusCode := source.statusCode.raw, addedNodeId := source.addedNodeId.field }

/-! ## What can be written -/

def Scada.BrowsePathTarget.Encodable (target : BrowsePathTarget) : Prop :=
  target.targetId.serverIndex = 0 ∧ target.targetId.namespaceUri = ""

theorem Scada.BrowsePathTarget.convert_isSome_iff (target : BrowsePathTarget) :
    target.convert.isSome ↔ target.Encodable := by
  unfold BrowsePathTarget.convert BrowsePathTarget.Encodable
  by_cases hserver : target.targetId.serverIndex = 0 <;>
    by_cases huri : target.targetId.namespaceUri = "" <;> simp [hserver, huri]

theorem Scada.BrowsePathResult.convert_isSome_iff (result : BrowsePathResult) :
    result.convert.isSome ↔ ∀ target ∈ result.targets, target.Encodable := by
  simp [BrowsePathResult.convert, mapM_isSome_iff,
    BrowsePathTarget.convert_isSome_iff]

theorem Scada.WriteValue.convert_isSome_iff (w : WriteValue) :
    w.convert.isSome ↔ w.value.Encodable := by
  simp [WriteValue.convert, Variant.convert_isSome_iff]

theorem Scada.CallParameters.convert_isSome_iff (c : CallParameters) :
    c.convert.isSome ↔ ∀ argument ∈ c.arguments, argument.Encodable := by
  simp [CallParameters.convert, mapM_isSome_iff, Variant.convert_isSome_iff]

theorem Scada.AddNodesItem.convert_isSome_iff (item : AddNodesItem) :
    item.convert.isSome ↔ ∀ value, item.attributes.value = some value → value.Encodable := by
  cases hvalue : item.attributes.value with
  | none =>
    cases hempty : item.attributes.isEmpty <;>
      simp [AddNodesItem.convert, NodeAttributes.field, NodeAttributes.convert,
        hvalue, hempty]
  | some value =>
    -- attributes with a value are not empty
    have hset : item.attributes.isEmpty = false := by
      simp [NodeAttributes.isEmpty, hvalue]
    simp [AddNodesItem.convert, NodeAttributes.field, NodeAttributes.convert,
      hvalue, hset, Variant.convert_isSome_iff]

theorem Scada.AggregateFilter.field_isSome_iff (filter : AggregateFilter) :
    filter.field.isSome ↔ filter.isNull = true ∨ filter.startTime.Encodable := by
  cases hnull : filter.isNull <;>
    simp [AggregateFilter.field, AggregateFilter.convert, hnull,
      encodeWireMicroseconds_isSome_iff]

/-! ## What can be read -/

def Remote.Wire.ReadableTime (wire : Int64) : Prop :=
  wire = Int64.minValue ∨ Int64.minValue.toInt + Scada.timeTToMicrosecondsOffset ≤ wire.toInt

/-- A variant is read unless it is a time that overflows. -/
def Remote.Wire.Variant.Readable (wire : Variant) : Prop :=
  wire.rank = 0 → Scada.VariantType.ofCode wire.dataType = some .dateTime →
    ReadableTime wire.timeValueTime

theorem Remote.Wire.Variant.convert_isSome_iff (wire : Variant) :
    wire.convert.isSome ↔ wire.Readable := by
  unfold Variant.convert Variant.Readable
  by_cases hrank : wire.rank = 0
  · rw [if_pos hrank]
    unfold Variant.scalar
    cases htype : Scada.VariantType.ofCode wire.dataType with
    | none => simp
    | some type =>
      cases type with
      | dateTime => simp [hrank, ReadableTime, Scada.decodeWireTime_isSome_iff]
      | _ => simp
  · rw [if_neg hrank]
    split <;> simp [hrank]

theorem Remote.Wire.Write.convert_isSome_iff (wire : Write) :
    wire.convert.isSome ↔ wire.value.Readable := by
  simp [Write.convert, Variant.convert_isSome_iff]

theorem Remote.Wire.DeviceCommand.convert_isSome_iff (wire : DeviceCommand) :
    wire.convert.isSome ↔ ∀ value ∈ wire.argument, value.Readable := by
  simp [DeviceCommand.convert, mapM_isSome_iff, Variant.convert_isSome_iff]

def Remote.Wire.AddNode.Readable (wire : AddNode) : Prop :=
  ∀ attributes, wire.attributes = some attributes →
    ∀ value, attributes.value = some value → value.Readable

theorem Remote.Wire.AddNode.convert_isSome_iff (wire : AddNode) :
    wire.convert.isSome ↔ wire.Readable := by
  unfold AddNode.convert AddNode.Readable
  cases hattributes : wire.attributes with
  | none => simp
  | some attributes =>
    cases hvalue : attributes.value <;>
      simp [Attributes.convert, hvalue, Variant.convert_isSome_iff]

def Remote.Wire.AggregateFilter.Readable (wire : AggregateFilter) : Prop :=
  ReadableTime wire.startTime.toInt64

theorem Remote.Wire.AggregateFilter.convert_isSome_iff (wire : AggregateFilter) :
    wire.convert.isSome ↔ wire.Readable := by
  simp [AggregateFilter.convert, AggregateFilter.Readable, ReadableTime,
    Scada.decodeWireTime_isSome_iff]

/-- An event filter counts only where there is no aggregate filter, and is read
whatever it holds. -/
theorem Remote.Wire.MonitoringParameters.convert_isSome_iff (wire : MonitoringParameters) :
    wire.convert.isSome ↔ ∀ filter, wire.aggregateFilter = some filter → filter.Readable := by
  unfold MonitoringParameters.convert
  cases haggregate : wire.aggregateFilter with
  | none => cases wire.eventFilter <;> simp
  | some filter => simp [AggregateFilter.convert_isSome_iff]

namespace Remote.HistoryStub

theorem timeOfField_isSome_iff (wire : UInt64) :
    (timeOfField wire).isSome ↔ Wire.ReadableTime wire.toInt64 := by
  unfold timeOfField
  split
  · rename_i hzero
    rw [hzero]
    exact iff_of_true rfl (by unfold Wire.ReadableTime; decide)
  · exact Scada.decodeWireTime_isSome_iff _

end Remote.HistoryStub

def Remote.Wire.HistoryReadRaw.Readable (wire : HistoryReadRaw) : Prop :=
  ReadableTime wire.fromTime.toInt64 ∧ ReadableTime wire.toTime.toInt64 ∧
    ∀ filter, wire.aggregateFilter = some filter → filter.Readable

theorem Remote.HistoryStub.readRawDetails_isSome_iff (wire : Wire.HistoryReadRaw) :
    (HistoryStub.readRawDetails wire).isSome ↔ wire.Readable := by
  unfold HistoryStub.readRawDetails Wire.HistoryReadRaw.Readable
  rw [← timeOfField_isSome_iff, ← timeOfField_isSome_iff]
  cases HistoryStub.timeOfField wire.fromTime <;> cases HistoryStub.timeOfField wire.toTime <;>
    cases wire.aggregateFilter <;>
    simp [Wire.AggregateFilter.ofField, Wire.AggregateFilter.convert_isSome_iff]

def Remote.Wire.HistoryReadEvents.Readable (wire : HistoryReadEvents) : Prop :=
  ReadableTime wire.fromTime.toInt64 ∧ ReadableTime wire.toTime.toInt64

theorem Remote.HistoryStub.readEventsDetails_isSome_iff (wire : Wire.HistoryReadEvents) :
    (HistoryStub.readEventsDetails wire).isSome ↔ wire.Readable := by
  unfold HistoryStub.readEventsDetails Wire.HistoryReadEvents.Readable
  rw [← timeOfField_isSome_iff, ← timeOfField_isSome_iff]
  cases HistoryStub.timeOfField wire.fromTime <;> cases HistoryStub.timeOfField wire.toTime <;>
    simp

/-! ## What is written can be read -/

theorem Scada.Variant.readable_convert {v : Variant} {wire : Wire.Variant}
    (h : v.convert = some wire) : wire.convert.isSome := by
  rcases v with _ | scalar | elements
  · cases h
    rfl
  · cases scalar with
    | expandedNodeId _ => simp [Variant.convert, Scalar.convert, Value.isNull] at h
    | dateTime time =>
      obtain ⟨wireTime, htime, rfl⟩ := Option.map_eq_some_iff.mp h
      simp [Wire.Variant.convert, Wire.Variant.scalar, Scalar.type,
        decodeWireTime_of_encode htime]
    | _ =>
      cases h
      simp [Wire.Variant.convert, Wire.Variant.scalar, Scalar.type]
  · -- an array is not read as a scalar, and one without elements as no value at all
    rw [Wire.Variant.convert_isSome_iff]
    intro hrank
    cases elements with
    | empty count =>
      cases h
      exact fun htype => absurd htype (by decide)
    | _ =>
      simp [Variant.convert, Elements.convert, Value.isNull,
        Elements.type] at h <;>
      simp [← h] at hrank

theorem Scada.Variant.readable_field {v : Variant} {wire : Option Wire.Variant}
    (h : v.field = some wire) : (Wire.Variant.ofField wire).isSome := by
  unfold Variant.field at h
  split at h
  · cases h
    rfl
  · obtain ⟨wire, hwire, rfl⟩ := Option.map_eq_some_iff.mp h
    exact Variant.readable_convert hwire

theorem Scada.Time.readable_encode {time : Time} {wire : Int64}
    (h : encodeWireMicroseconds time = some wire) :
    (Wire.timeOfField wire.toUInt64).isSome := by
  unfold Wire.timeOfField
  split
  · rfl
  · rw [Int64.toInt64_toUInt64, decodeWireTime_of_encode h]
    rfl

theorem Scada.DataValue.readable_convert {d : DataValue Value} {wire : Wire.DataValue}
    (h : d.convert = some wire) : wire.convert.isSome := by
  simp only [DataValue.convert, Option.bind_eq_bind, Option.bind_eq_some_iff] at h
  obtain ⟨serverTime, hserver, sourceTime, hsource, value, hvalue, hwire⟩ := h
  cases hwire
  exact isSome_bind (Time.readable_encode hserver) fun _ =>
    isSome_bind (Time.readable_encode hsource) fun _ =>
      isSome_bind (Variant.readable_field hvalue) fun _ => rfl

theorem Scada.Event.readable_convert {event : Event} {wire : Wire.Event}
    (h : event.convert = some wire) : wire.convert.isSome := by
  simp only [Event.convert, Option.bind_eq_bind, Option.bind_eq_some_iff] at h
  obtain ⟨-, -, time, htime, value, hvalue, acknowledgeTime, hacknowledge, hwire⟩ := h
  cases hwire
  have hdecode : (decodeWireTime time.toUInt64.toInt64).isSome := by
    rw [Int64.toInt64_toUInt64, decodeWireTime_of_encode htime]
    rfl
  have hacknowledged : (Wire.timeOfField acknowledgeTime.toUInt64).isSome := by
    unfold Time.field at hacknowledge
    split at hacknowledge
    · cases hacknowledge
      rfl
    · exact Time.readable_encode hacknowledge
  exact isSome_bind hdecode fun _ =>
    isSome_bind (Variant.readable_field hvalue) fun _ =>
      isSome_bind hacknowledged fun _ => rfl

theorem Scada.WriteValue.readable_convert {w : WriteValue} {wire : Wire.Write}
    (h : w.convert = some wire) : wire.convert.isSome := by
  obtain ⟨value, hvalue, hwire⟩ := Option.bind_eq_some_iff.mp h
  cases hwire
  exact isSome_bind (Variant.readable_convert hvalue) fun _ => rfl

theorem Scada.CallParameters.readable_convert {c : CallParameters}
    {wire : Wire.DeviceCommand} (h : c.convert = some wire) : wire.convert.isSome := by
  obtain ⟨argument, hargument, hwire⟩ := Option.bind_eq_some_iff.mp h
  cases hwire
  exact isSome_bind
    (mapM_isSome_of_mapM hargument fun _ _ => Variant.readable_convert) fun _ => rfl

theorem Scada.NodeAttributes.readable_convert {a : NodeAttributes} {wire : Wire.Attributes}
    (h : a.convert = some wire) : wire.convert.isSome := by
  obtain ⟨value, hvalue, hwire⟩ := Option.bind_eq_some_iff.mp h
  cases hwire
  cases hset : a.value with
  | none =>
    rw [hset] at hvalue
    cases hvalue
    rfl
  | some v =>
    rw [hset, Option.mapM_some] at hvalue
    obtain ⟨wire, hwire, rfl⟩ := Option.map_eq_some_iff.mp hvalue
    obtain ⟨back, hback⟩ := Option.isSome_iff_exists.mp (Variant.readable_convert hwire)
    simp [Wire.Attributes.convert, hback]

theorem Scada.AddNodesItem.readable_convert {item : AddNodesItem} {wire : Wire.AddNode}
    (h : item.convert = some wire) : wire.convert.isSome := by
  obtain ⟨attributes, hattributes, hwire⟩ := Option.bind_eq_some_iff.mp h
  cases hwire
  unfold NodeAttributes.field at hattributes
  split at hattributes
  · cases hattributes
    rfl
  · obtain ⟨sent, hsent, rfl⟩ := Option.map_eq_some_iff.mp hattributes
    obtain ⟨back, hback⟩ :=
      Option.isSome_iff_exists.mp (NodeAttributes.readable_convert hsent)
    simp [Wire.AddNode.convert, hback]

end ScadaCore
