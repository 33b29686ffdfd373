import ScadaCore.Scada.Variant

/-!
# Scada.Event — what event notifications carry

The events of `scada/event.h`. A notification carries one of them in a `std::any`
(`AnyEvent`), which its receivers take apart by the type they find.
-/

namespace ScadaCore.Scada

def systemEventType : NodeId := { identifier := .numeric 2130 }

def severityNormal : UInt32 := 500

structure Event where
  eventTypeId : NodeId := systemEventType
  eventId : UInt64 := 0
  time : Time := nullTime
  receiveTime : Time := nullTime
  changeMask : UInt32 := 0
  severity : UInt32 := severityNormal
  sourceNodeId : NodeId := {}
  sourceName : LocalizedText := {}
  userId : NodeId := {}
  value : Variant := none
  qualifier : Qualifier := {}
  message : LocalizedText := {}
  acked : Bool := false
  acknowledgedTime : Time := nullTime
  acknowledgedUserId : NodeId := {}
deriving DecidableEq, Repr

structure DeviceFrame where
  direction : Int32 := 0
  rawData : ByteString := []
  format : String := ""
  typeId : Int32 := 0
  cause : Int32 := 0
  objectAddress : Int32 := 0
  sendSequence : Int32 := 0
  receiveSequence : Int32 := 0
deriving DecidableEq, Repr

structure DeviceFrameEvent where
  base : Event := {}
  frame : DeviceFrame := {}
deriving DecidableEq, Repr

/-- `struct ModelChangeEvent`; the verbs are bits. -/
structure ModelChangeEvent where
  nodeId : NodeId := {}
  typeDefinitionId : NodeId := {}
  verb : BitVec 8 := 0
deriving DecidableEq, Repr

namespace ModelChangeEvent

/-- `enum Verb`. -/
def nodeAdded : BitVec 8 := 0x01
def nodeDeleted : BitVec 8 := 0x02
def referenceAdded : BitVec 8 := 0x04
def referenceDeleted : BitVec 8 := 0x08
def dataTypeChanged : BitVec 8 := 0x10

def has (event : ModelChangeEvent) (verb : BitVec 8) : Bool := event.verb &&& verb != 0

end ModelChangeEvent

structure SemanticChangeEvent where
  nodeId : NodeId := {}
deriving DecidableEq, Repr

/-- What the `std::any` of an event notification holds. -/
inductive AnyEvent where
  | event (event : Event)
  | deviceFrame (event : DeviceFrameEvent)
  | modelChange (event : ModelChangeEvent)
  | semanticChange (event : SemanticChangeEvent)
deriving DecidableEq, Repr

end ScadaCore.Scada
