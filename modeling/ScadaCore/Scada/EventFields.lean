import ScadaCore.Scada.Event
import ScadaCore.Data.Panic

/-!
# Scada.EventFields — events as lists of fields

An event crosses the bridge as a list of variants. `disassembleEvent` writes the
list and `assembleEvent` reads it, with the converting getters of `Variant` and
with nothing but the type id in field 0 and the number of fields to tell the four
layouts apart. Nobody looks at whether a getter succeeded.
-/

namespace ScadaCore.Scada

/-! ## The getters of `Variant` -/

/-- What the conversions of a variant take from elsewhere: the cast of a double,
which the language leaves open for one that does not fit, the formatting of
doubles, times and node ids, and the installed `BooleanTextProvider`. -/
structure Conversions where
  int64OfDouble : Double → Int64
  formatDouble : Double → String
  formatTime : Time → String
  nodeIdToString : NodeId → String
  booleanTextProvider : Option (Bool → List Char)

variable (conv : Conversions)

def Conversions.label (value : Bool) : List Char :=
  match conv.booleanTextProvider with
  | some provider => provider value
  | none => if value then "true".toList else "false".toList

namespace Variant

/-- `get_if`, for the alternatives that are read without a conversion. -/
def getTime : Variant → Option Time
  | some (.scalar (.dateTime value)) => some value
  | _ => none

@[inherit_doc getTime]
def getByteString : Variant → Option ByteString
  | some (.scalar (.byteString value)) => some value
  | _ => none

@[inherit_doc getTime]
def getNodeId : Variant → Option NodeId
  | some (.scalar (.nodeId value)) => some value
  | _ => none

/-- `Variant::get(Int64&)`; `none` leaves the target as it is. -/
def getInt64 : Variant → Option Int64
  | some (.scalar (.bool value)) => some (if value then 1 else 0)
  | some (.scalar (.int8 value)) => some value.toInt64
  | some (.scalar (.uint8 value)) => some value.toUInt64.toInt64
  | some (.scalar (.int16 value)) => some value.toInt64
  | some (.scalar (.uint16 value)) => some value.toUInt64.toInt64
  | some (.scalar (.int32 value)) => some value.toInt64
  | some (.scalar (.uint32 value)) => some value.toUInt64.toInt64
  | some (.scalar (.int64 value)) => some value
  | some (.scalar (.uint64 value)) => some value.toInt64
  | some (.scalar (.double value)) => some (conv.int64OfDouble value)
  | _ => none

def getBool : Variant → Option Bool
  | some (.scalar (.bool value)) => some value
  | v => (v.getInt64 conv).map (· != 0)

/-- `FormatHelper<String>` after `ToStringHelper` has taken the variant apart. -/
def getString : Variant → Option String
  | none => some ""
  | some (.scalar (.bool value)) => some (if value then "1" else "0")
  | some (.scalar (.double value)) => some (conv.formatDouble value)
  | some (.scalar (.string value)) => some value
  | some (.scalar (.qualifiedName value)) => some value.name
  | some (.scalar (.localizedText value)) => some (utf8OfUtf16 value.text)
  | some (.scalar (.nodeId value)) => some (conv.nodeIdToString value)
  | some (.scalar (.dateTime value)) => some (conv.formatTime value)
  | v => (v.getInt64 conv).map fun value => toString value.toInt

def toLocalizedText (utf8 : String) : LocalizedText := { text := utf16OfUtf8 utf8 }

/-- `FormatHelper<LocalizedText>`; only a localized text keeps its locale. -/
def getLocalizedText : Variant → Option LocalizedText
  | none => some {}
  | some (.scalar (.bool value)) => some { text := conv.label value }
  | some (.scalar (.double value)) => some (toLocalizedText (conv.formatDouble value))
  | some (.scalar (.string value)) => some (toLocalizedText value)
  | some (.scalar (.qualifiedName value)) => some (toLocalizedText value.name)
  | some (.scalar (.localizedText value)) => some value
  | some (.scalar (.nodeId value)) => some (toLocalizedText (conv.nodeIdToString value))
  | some (.scalar (.dateTime value)) => some (toLocalizedText (conv.formatTime value))
  | v => (v.getInt64 conv).map fun value => toLocalizedText (toString value.toInt)

/-- `Variant::get_int`. A value that does not fit is a failure, but the target
has been overwritten with what is left of it. -/
def getInt {T : Type} (narrow : Int64 → T) (widen : T → Int64) (conv : Conversions)
    (v : Variant) (value : T) : Bool × T :=
  match v.getInt64 conv with
  | none => (false, value)
  | some wide => (widen (narrow wide) == wide, narrow wide)

def getUInt8 : Conversions → Variant → UInt8 → Bool × UInt8 :=
  getInt (fun wide => wide.toUInt64.toUInt8) (fun value => value.toUInt64.toInt64)

def getInt32 : Conversions → Variant → Int32 → Bool × Int32 :=
  getInt Int64.toInt32 Int32.toInt64

def getUInt32 : Conversions → Variant → UInt32 → Bool × UInt32 :=
  getInt (fun wide => wide.toUInt64.toUInt32) (fun value => value.toUInt64.toInt64)

def getUInt64 : Conversions → Variant → UInt64 → Bool × UInt64 :=
  getInt Int64.toUInt64 UInt64.toInt64

/-! Every getter gives back what its own alternative holds. -/

@[simp] theorem getTime_dateTime (sent : Time) :
    getTime (some (.scalar (.dateTime sent))) = some sent := rfl

@[simp] theorem getByteString_byteString (sent : ByteString) :
    getByteString (some (.scalar (.byteString sent))) = some sent := rfl

@[simp] theorem getNodeId_nodeId (sent : NodeId) :
    getNodeId (some (.scalar (.nodeId sent))) = some sent := rfl

@[simp] theorem getBool_bool (sent : Bool) :
    getBool conv (some (.scalar (.bool sent))) = some sent := rfl

@[simp] theorem getString_string (sent : String) :
    getString conv (some (.scalar (.string sent))) = some sent := rfl

@[simp] theorem getLocalizedText_localizedText (sent : LocalizedText) :
    getLocalizedText conv (some (.scalar (.localizedText sent))) = some sent := rfl

theorem getInt_of_getInt64 {T : Type} {narrow : Int64 → T} {widen : T → Int64}
    (hnarrow : ∀ value, narrow (widen value) = value) {conv : Conversions} {v : Variant} {sent : T}
    (h : v.getInt64 conv = some (widen sent)) (value : T) :
    getInt narrow widen conv v value = (true, sent) := by
  simp [getInt, h, hnarrow]

@[simp] theorem getUInt8_uint8 (sent value : UInt8) :
    getUInt8 conv (some (.scalar (.uint8 sent))) value = (true, sent) :=
  getInt_of_getInt64 (by simp) rfl value

@[simp] theorem getInt32_int32 (sent value : Int32) :
    getInt32 conv (some (.scalar (.int32 sent))) value = (true, sent) :=
  getInt_of_getInt64 (by simp) rfl value

@[simp] theorem getUInt32_uint32 (sent value : UInt32) :
    getUInt32 conv (some (.scalar (.uint32 sent))) value = (true, sent) :=
  getInt_of_getInt64 (by simp) rfl value

/-- The cast of a 64-bit id to a signed integer may be negative, and is undone by
the cast back. -/
@[simp] theorem getUInt64_uint64 (sent value : UInt64) :
    getUInt64 conv (some (.scalar (.uint64 sent))) value = (true, sent) :=
  getInt_of_getInt64 (by simp) rfl value

end Variant

/-! ## The layouts -/

def generalModelChangeEventType : NodeId := { identifier := .numeric 2133 }
def semanticChangeEventType : NodeId := { identifier := .numeric 2738 }

def eventFieldCount : Nat := 15
def eventFieldCountV1 : Nat := 14
def deviceFrameFieldCount : Nat := eventFieldCount + 8

/-- `fields[index].get(target)` for a getter that leaves its target on failure:
what the target holds afterwards. There is no such field if this is `none`. -/
def readField {T : Type} (fields : List Variant) (index : Nat) (get : Variant → Option T)
    (target : T) : Option T :=
  fields[index]?.map fun field => (get field).getD target

/-- `fields[index].get(target)` for the integers. -/
def readInt {T : Type} (fields : List Variant) (index : Nat) (get : Variant → T → Bool × T)
    (target : T) : Option T :=
  fields[index]?.map fun field => (get field target).2

variable (fields : List Variant)

def assembleBaseEvent : Option Event := do
  let event : Event := {}
  let eventTypeId ← readField fields 0 Variant.getNodeId event.eventTypeId
  let eventId ← readInt fields 1 (Variant.getUInt64 conv) event.eventId
  let time ← readField fields 2 Variant.getTime event.time
  let changeMask ← readInt fields 3 (Variant.getUInt32 conv) event.changeMask
  let severity ← readInt fields 4 (Variant.getUInt32 conv) event.severity
  let sourceNodeId ← readField fields 5 Variant.getNodeId event.sourceNodeId
  let userId ← readField fields 6 Variant.getNodeId event.userId
  let value ← fields[7]?
  let qualifier ← readInt fields 8 (Variant.getUInt32 conv) 0
  let message ← readField fields 9 (Variant.getLocalizedText conv) event.message
  let acked ← readField fields 10 (Variant.getBool conv) event.acked
  let acknowledgedTime ← readField fields 11 Variant.getTime event.acknowledgedTime
  let acknowledgedUserId ← readField fields 12 Variant.getNodeId event.acknowledgedUserId
  let receiveTime ← readField fields 13 Variant.getTime event.receiveTime
  let sourceName ←
    if fields.length > 14 then
      readField fields 14 (Variant.getLocalizedText conv) event.sourceName
    else
      some event.sourceName
  return {
    eventTypeId, eventId, time, changeMask, severity, sourceNodeId, userId, value
    qualifier := ⟨qualifier.toBitVec⟩
    message, acked, acknowledgedTime, acknowledgedUserId, receiveTime, sourceName }

def assembleDeviceFrameEvent : Option DeviceFrameEvent := do
  let frame : DeviceFrame := {}
  let base ← assembleBaseEvent conv (fields.take eventFieldCount)
  let direction ← readInt fields 15 (Variant.getInt32 conv) frame.direction
  let rawData ← readField fields 16 Variant.getByteString frame.rawData
  let format ← readField fields 17 (Variant.getString conv) frame.format
  let typeId ← readInt fields 18 (Variant.getInt32 conv) frame.typeId
  let cause ← readInt fields 19 (Variant.getInt32 conv) frame.cause
  let objectAddress ← readInt fields 20 (Variant.getInt32 conv) frame.objectAddress
  let sendSequence ← readInt fields 21 (Variant.getInt32 conv) frame.sendSequence
  let receiveSequence ← readInt fields 22 (Variant.getInt32 conv) frame.receiveSequence
  return {
    base
    frame := {
      direction, rawData, format, typeId, cause, objectAddress, sendSequence
      receiveSequence } }

def assembleModelChangeEvent : Option ModelChangeEvent := do
  let event : ModelChangeEvent := {}
  let nodeId ← readField fields 1 Variant.getNodeId event.nodeId
  let typeDefinitionId ← readField fields 2 Variant.getNodeId event.typeDefinitionId
  let verb ← readInt fields 3 (Variant.getUInt8 conv) ⟨event.verb⟩
  return { nodeId, typeDefinitionId, verb := verb.toBitVec }

def assembleSemanticChangeEvent : Option SemanticChangeEvent := do
  let event : SemanticChangeEvent := {}
  let nodeId ← readField fields 1 Variant.getNodeId event.nodeId
  return { nodeId }

/-- `AssembleEvent`: the event that the `std::any` holds, if it holds one. There is
no result where `base::Check` panics or a field is missing. -/
def assembleEvent : Option (Option AnyEvent) := do
  check (!fields.isEmpty)
  let eventTypeId ← readField fields 0 Variant.getNodeId {}
  if eventTypeId = generalModelChangeEventType ∧ fields.length = 4 then
    return some (.modelChange (← assembleModelChangeEvent conv fields))
  else if eventTypeId = semanticChangeEventType ∧ fields.length = 2 then
    return some (.semanticChange (← assembleSemanticChangeEvent fields))
  else if !eventTypeId.isNull ∧ fields.length = deviceFrameFieldCount then
    return some (.deviceFrame (← assembleDeviceFrameEvent conv fields))
  else if !eventTypeId.isNull ∧
      (fields.length = eventFieldCount ∨ fields.length = eventFieldCountV1) then
    return some (.event (← assembleBaseEvent conv fields))
  else
    return none

namespace Event

def disassemble (event : Event) : List Variant := [
  some (.scalar (.nodeId event.eventTypeId)),
  some (.scalar (.uint64 event.eventId)),
  some (.scalar (.dateTime event.time)),
  some (.scalar (.uint32 event.changeMask)),
  some (.scalar (.uint32 event.severity)),
  some (.scalar (.nodeId event.sourceNodeId)),
  some (.scalar (.nodeId event.userId)),
  event.value,
  some (.scalar (.uint32 ⟨event.qualifier.raw⟩)),
  some (.scalar (.localizedText event.message)),
  some (.scalar (.bool event.acked)),
  some (.scalar (.dateTime event.acknowledgedTime)),
  some (.scalar (.nodeId event.acknowledgedUserId)),
  some (.scalar (.dateTime event.receiveTime)),
  some (.scalar (.localizedText event.sourceName))]

end Event

def DeviceFrameEvent.disassemble (event : DeviceFrameEvent) : List Variant :=
  event.base.disassemble ++ [
    some (.scalar (.int32 event.frame.direction)),
    some (.scalar (.byteString event.frame.rawData)),
    some (.scalar (.string event.frame.format)),
    some (.scalar (.int32 event.frame.typeId)),
    some (.scalar (.int32 event.frame.cause)),
    some (.scalar (.int32 event.frame.objectAddress)),
    some (.scalar (.int32 event.frame.sendSequence)),
    some (.scalar (.int32 event.frame.receiveSequence))]

def ModelChangeEvent.disassemble (event : ModelChangeEvent) : List Variant := [
  some (.scalar (.nodeId generalModelChangeEventType)),
  some (.scalar (.nodeId event.nodeId)),
  some (.scalar (.nodeId event.typeDefinitionId)),
  some (.scalar (.uint8 ⟨event.verb⟩))]

def SemanticChangeEvent.disassemble (event : SemanticChangeEvent) : List Variant := [
  some (.scalar (.nodeId semanticChangeEventType)),
  some (.scalar (.nodeId event.nodeId))]

/-- `DisassembleEvent`; an empty `std::any` panics. -/
def disassembleEvent : Option AnyEvent → Option (List Variant)
  | none => none
  | some (.event event) => some event.disassemble
  | some (.modelChange event) => some event.disassemble
  | some (.semanticChange event) => some event.disassemble
  | some (.deviceFrame event) => some event.disassemble

/-! ## What comes back -/

def AnyEvent.typeId : AnyEvent → NodeId
  | .event payload => payload.eventTypeId
  | .deviceFrame payload => payload.base.eventTypeId
  | .modelChange _ => generalModelChangeEventType
  | .semanticChange _ => semanticChangeEventType

theorem assembleBaseEvent_disassemble (event : Event) :
    assembleBaseEvent conv event.disassemble = some event := by
  simp [assembleBaseEvent, Event.disassemble, readField, readInt]

theorem assembleDeviceFrameEvent_disassemble (event : DeviceFrameEvent) :
    assembleDeviceFrameEvent conv event.disassemble = some event := by
  have hbase : event.disassemble.take eventFieldCount = event.base.disassemble := rfl
  rw [assembleDeviceFrameEvent, hbase, assembleBaseEvent_disassemble]
  simp [DeviceFrameEvent.disassemble, Event.disassemble, readField, readInt]

theorem assembleModelChangeEvent_disassemble (event : ModelChangeEvent) :
    assembleModelChangeEvent conv event.disassemble = some event := by
  simp [assembleModelChangeEvent, ModelChangeEvent.disassemble, readField, readInt]

theorem assembleSemanticChangeEvent_disassemble (event : SemanticChangeEvent) :
    assembleSemanticChangeEvent event.disassemble = some event := by
  simp [assembleSemanticChangeEvent, SemanticChangeEvent.disassemble, readField]

variable {fields}

/-- The type id that `assembleEvent` dispatches on is that of the event. -/
theorem readField_typeId {event : AnyEvent} (h : disassembleEvent (some event) = some fields) :
    readField fields 0 Variant.getNodeId {} = some event.typeId ∧ fields.isEmpty = false := by
  cases event <;> cases h <;> exact ⟨rfl, rfl⟩

/-- An event with a type id is read back as it was written: the same alternative
with the same fields. One without is read as no event at all. -/
theorem assembleEvent_disassembleEvent (conv : Conversions) (event : AnyEvent) :
    (disassembleEvent (some event)).bind (assembleEvent conv) =
      some (if event.typeId.isNull then none else some event) := by
  obtain ⟨fields, hfields⟩ : ∃ fields, disassembleEvent (some event) = some fields := by
    cases event <;> exact ⟨_, rfl⟩
  obtain ⟨htype, hne⟩ := readField_typeId hfields
  rw [hfields, Option.bind_some, assembleEvent, htype, hne]
  -- the number of fields leaves one layout, for which the type id has to be there
  cases event with
  | event payload =>
    cases hfields
    have hlength : payload.disassemble.length = 15 := rfl
    cases hnull : (AnyEvent.event payload).typeId.isNull <;>
      simp [hlength, eventFieldCount, deviceFrameFieldCount, eventFieldCountV1, hnull,
        assembleBaseEvent_disassemble]
  | deviceFrame payload =>
    cases hfields
    have hlength : payload.disassemble.length = 23 := rfl
    cases hnull : (AnyEvent.deviceFrame payload).typeId.isNull <;>
      simp [hlength, eventFieldCount, deviceFrameFieldCount, eventFieldCountV1, hnull,
        assembleDeviceFrameEvent_disassemble]
  | modelChange payload =>
    cases hfields
    have hlength : payload.disassemble.length = 4 := rfl
    have hnull : generalModelChangeEventType.isNull = false := rfl
    simp [hlength, hnull, AnyEvent.typeId, assembleModelChangeEvent_disassemble]
  | semanticChange payload =>
    cases hfields
    have hlength : payload.disassemble.length = 2 := rfl
    have hnull : semanticChangeEventType.isNull = false := rfl
    simp [hlength, hnull, AnyEvent.typeId, assembleSemanticChangeEvent_disassemble]

/-! ## No layout is read out of bounds -/

theorem readField_isSome {T : Type} {index : Nat} (h : index < fields.length)
    (get : Variant → Option T) (target : T) : (readField fields index get target).isSome := by
  simp [readField, h]

theorem readInt_isSome {T : Type} {index : Nat} (h : index < fields.length)
    (get : Variant → T → Bool × T) (target : T) : (readInt fields index get target).isSome := by
  simp [readInt, h]

theorem assembleBaseEvent_isSome (h : eventFieldCountV1 ≤ fields.length) :
    (assembleBaseEvent conv fields).isSome := by
  unfold eventFieldCountV1 at h
  have hread {T : Type} {index : Nat} (hindex : index < 14) (get : Variant → Option T)
      (target : T) : (readField fields index get target).isSome :=
    readField_isSome (by omega) get target
  have hint {T : Type} {index : Nat} (hindex : index < 14) (get : Variant → T → Bool × T)
      (target : T) : (readInt fields index get target).isSome :=
    readInt_isSome (by omega) get target
  have hvalue : fields[7]?.isSome := by simp; omega
  unfold assembleBaseEvent
  repeat
    first
    | refine isSome_bind (hread (by decide) _ _) fun _ => ?_
    | refine isSome_bind (hint (by decide) _ _) fun _ => ?_
    | refine isSome_bind hvalue fun _ => ?_
  -- the source name, which a list of 14 fields does not have
  split
  · rename_i hlong
    exact isSome_bind (readField_isSome hlong _ _) fun _ => rfl
  · rfl

theorem assembleDeviceFrameEvent_isSome (h : fields.length = deviceFrameFieldCount) :
    (assembleDeviceFrameEvent conv fields).isSome := by
  have hbase : eventFieldCountV1 ≤ (fields.take eventFieldCount).length := by
    rw [List.length_take, h]
    decide
  refine isSome_bind (assembleBaseEvent_isSome conv hbase) fun _ => ?_
  have hlength : fields.length = 23 := h
  simp [readField, readInt, hlength]

/-- Whatever the fields are, if there is one, the counts have been checked before
a field is read. -/
theorem assembleEvent_isSome (fields : List Variant) :
    (assembleEvent conv fields).isSome ↔ fields ≠ [] := by
  cases fields with
  | nil => simp [assembleEvent]
  | cons field rest =>
    refine iff_of_true ?_ (List.cons_ne_nil _ _)
    refine isSome_bind rfl fun _ => ?_
    refine isSome_bind (readField_isSome (Nat.succ_pos _) _ _) fun _ => ?_
    split
    · rename_i hmodel
      refine isSome_bind ?_ fun _ => rfl
      simp [assembleModelChangeEvent, readField, readInt, hmodel.2]
    · split
      · rename_i hsemantic
        refine isSome_bind ?_ fun _ => rfl
        simp [assembleSemanticChangeEvent, readField, hsemantic.2]
      · split
        · rename_i hframe
          exact isSome_bind (assembleDeviceFrameEvent_isSome conv hframe.2) fun _ => rfl
        · split
          · rename_i hbase
            refine isSome_bind (assembleBaseEvent_isSome conv ?_) fun _ => rfl
            rcases hbase.2 with hcount | hcount
            · rw [hcount]
              decide
            · exact hcount.ge
          · rfl

/-- The fields are those of one of the four layouts: by the type id for the two
model notifications, and for the other two by any type id. -/
def HasLayout (fields : List Variant) : Prop :=
  let eventTypeId := (fields.head?.bind Variant.getNodeId).getD {}
  eventTypeId = generalModelChangeEventType ∧ fields.length = 4 ∨
    eventTypeId = semanticChangeEventType ∧ fields.length = 2 ∨
    eventTypeId.isNull = false ∧ (fields.length = deviceFrameFieldCount ∨
      fields.length = eventFieldCount ∨ fields.length = eventFieldCountV1)

instance (fields : List Variant) : Decidable (HasLayout fields) :=
  inferInstanceAs (Decidable (_ ∨ _ ∨ _))

theorem assembleEvent_of_not_hasLayout (hne : fields ≠ [])
    (h : ¬ HasLayout fields) : assembleEvent conv fields = some none := by
  cases fields with
  | nil => exact absurd rfl hne
  | cons field rest =>
    have htype : readField (field :: rest) 0 Variant.getNodeId {} =
        some ((Variant.getNodeId field).getD {}) := rfl
    unfold HasLayout at h
    simp only [List.head?_cons, Option.bind_some, not_or] at h
    rcases h with ⟨hmodel, hsemantic, hevent⟩
    rw [assembleEvent, htype]
    simp only [List.isEmpty_cons, Bool.not_false, check_bind, if_true, Option.bind_eq_bind,
      Option.bind_some]
    rw [if_neg hmodel, if_neg hsemantic, if_neg ?_, if_neg ?_]
    · rfl
    · rintro ⟨hid, hcount⟩
      exact hevent ⟨Bool.not_eq_true' _ ▸ hid, .inr hcount⟩
    · rintro ⟨hid, hcount⟩
      exact hevent ⟨Bool.not_eq_true' _ ▸ hid, .inl hcount⟩

/-- **Reading is total**, except for the list without fields: there the check of
`AssembleEvent` comes before the test for an empty list. -/
theorem assembleEvent_total_iff (conv : Conversions) (fields : List Variant) :
    ((assembleEvent conv fields).isSome ∧
      (¬ HasLayout fields → assembleEvent conv fields = some none)) ↔ fields ≠ [] := by
  constructor
  · intro h
    exact (assembleEvent_isSome conv fields).mp h.1
  · intro hne
    exact ⟨(assembleEvent_isSome conv fields).mpr hne, assembleEvent_of_not_hasLayout conv hne⟩

def Conversions.trivial : Conversions where
  int64OfDouble _ := 0
  formatDouble _ := ""
  formatTime _ := ""
  nodeIdToString _ := ""
  booleanTextProvider := none

theorem assembleEvent_nil_panics : ¬ HasLayout [] ∧ assembleEvent .trivial [] = none := by
  decide

end ScadaCore.Scada
