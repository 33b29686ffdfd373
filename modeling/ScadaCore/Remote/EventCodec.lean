import ScadaCore.Remote.VariantCodec
import ScadaCore.Scada.Event
import ScadaCore.Data.Panic

/-!
# Remote.EventCodec — data values and events on the wire

The `Convert` overloads for data values, events and model changes. As for
variants, `none` is a call without a result: a failed `base::Check`,
`base::NotReached`, or a time whose encoding overflows. The `Encodable` of a type
says which of its values are encoded. Whatever data value comes off the wire is
one of those.
-/

namespace ScadaCore.Remote.Wire

structure StatusCode where
  severity : BitVec 32 := 0
  subCode : BitVec 32 := 0
deriving DecidableEq, Repr

structure DataValue where
  serverTime : UInt64 := 0
  sourceTime : UInt64 := 0
  value : Option Variant := none
  qualifier : BitVec 32 := 0
  statusCode : BitVec 32 := 0
deriving DecidableEq, Repr

structure Event where
  eventId : UInt64 := 0
  time : UInt64 := 0
  severity : UInt32 := 0
  sourceNodeId : Option NodeId := none
  userNodeId : Option NodeId := none
  value : Option Variant := none
  qualifier : BitVec 32 := 0
  messageUtf8 : String := ""
  acknowledged : Bool := false
  acknowledgeTime : UInt64 := 0
  acknowledgeUserId : Option NodeId := none
  sourceName : String := ""
  messageLocale : String := ""
deriving DecidableEq, Repr

structure ModelChangeEvent where
  nodeId : Option NodeId := none
  typeDefinitionId : Option NodeId := none
  nodeAdded : Bool := false
  nodeDeleted : Bool := false
  referenceAdded : Bool := false
  referenceDeleted : Bool := false
deriving DecidableEq, Repr

end ScadaCore.Remote.Wire

namespace ScadaCore

open Remote

/-! ## Fields -/

def Scada.StatusCode.convert (source : StatusCode) : Wire.StatusCode :=
  { severity := source.getSeverity, subCode := source.getSubCode }

/-- `Convert(const protocol::StatusCode&, scada::StatusCode&)`, where
`MakeStatusCode` takes 16 bits of the sub-code. -/
def Remote.Wire.StatusCode.convert (source : StatusCode) : Scada.StatusCode :=
  ⟨source.severity <<< 14 ||| source.subCode &&& 0xffff⟩

/-- A node id that is sent unless it is null. -/
def Scada.NodeId.field (source : NodeId) : Option Wire.NodeId :=
  if source.isNull then none else some source.convert

def Scada.Variant.field (source : Variant) : Option (Option Wire.Variant) :=
  if source.isNull then some none else source.convert.map some

def Scada.Time.field (source : Time) : Option Int64 :=
  if source = nullTime then some 0 else encodeWireMicroseconds source

/-- A node id that is kept if it was not sent. -/
def Remote.Wire.NodeId.ofField (source : Option NodeId) : Scada.NodeId :=
  (source.map NodeId.convert).getD {}

def Remote.Wire.Variant.ofField : Option Variant → Option Scada.Variant
  | none => some none
  | some source => source.convert

def Remote.Wire.timeOfField (source : UInt64) : Option Scada.Time :=
  if source = 0 then some Scada.nullTime else Scada.decodeWireTime source.toInt64

theorem Scada.Variant.field_isSome_iff (v : Variant) : v.field.isSome ↔ v.Encodable := by
  unfold Variant.field
  split
  · rename_i hnull
    refine iff_of_true rfl (v.convert_isSome_iff.mp ?_)
    cases v with
    | none => rfl
    | some value =>
      have hvalue : value.isNull = true := hnull
      simp [Variant.convert, hvalue]
  · rw [Option.isSome_map]
    exact v.convert_isSome_iff

theorem Scada.Time.field_isSome_iff (time : Time) : time.field.isSome ↔ time.Encodable := by
  unfold Time.field
  split
  · rename_i hnull
    rw [hnull]
    decide
  · exact encodeWireMicroseconds_isSome_iff time

theorem Remote.Wire.Variant.encodable_of_ofField {source : Option Variant}
    {v : Scada.Variant} (h : Variant.ofField source = some v) : v.Encodable := by
  cases source with
  | none =>
    cases h
    trivial
  | some wire => exact encodable_of_convert h

theorem Remote.Wire.encodable_of_timeOfField {source : UInt64} {time : Scada.Time}
    (h : timeOfField source = some time) : time.Encodable := by
  unfold timeOfField at h
  split at h
  · rw [← Option.some.inj h]
    decide
  · exact Scada.encodable_of_decode h

/-- The time of a field that is always sent comes back like any other: the null
time, which is read for 0, is the one that 0 stands for. -/
theorem Remote.Wire.timeOfField_toUInt64 (wire : Int64) :
    timeOfField wire.toUInt64 = Scada.decodeWireTime wire := by
  unfold timeOfField
  split
  · rename_i hzero
    have hwire : wire = 0 := by simpa using congrArg UInt64.toInt64 hzero
    rw [hwire]
    decide
  · rw [Int64.toInt64_toUInt64]

theorem Scada.Variant.field_survives_iff (v : Variant) :
    (∃ wire, v.field = some wire ∧ Wire.Variant.ofField wire = some v) ↔ v.OnWire := by
  cases v with
  | none => exact iff_of_true ⟨none, rfl, rfl⟩ trivial
  | some value =>
    rw [← value.carried_iff]
    by_cases hnull : value.isNull = true
    · -- an array of nothing, of which nothing is sent either way
      have hfield : Variant.field (some value) = some none := by
        simp [Variant.field, Variant.isNull, hnull]
      have hconvert : Variant.convert (some value) = some {} := by
        simp [Variant.convert, hnull]
      refine iff_of_false ?_ ?_
      · rintro ⟨wire, hwire, hback⟩
        cases hfield.symm.trans hwire
        cases hback
      · rintro ⟨wire, hwire, hback⟩
        cases hconvert.symm.trans hwire
        cases hback
    · have hfield : Variant.field (some value) =
          (Variant.convert (some value)).map some := by
        simp [Variant.field, Variant.isNull, hnull]
      rw [hfield]
      simp [Variant.Survives, Wire.Variant.ofField, Option.map_eq_some_iff]

/-! ## Data values -/

def Scada.DataValue.convert (source : DataValue Value) : Option Wire.DataValue := do
  let serverTime ← encodeWireMicroseconds source.serverTimestamp
  let sourceTime ← encodeWireMicroseconds source.sourceTimestamp
  let value ← Variant.field source.value
  return {
    serverTime := serverTime.toUInt64
    sourceTime := sourceTime.toUInt64
    value
    qualifier := source.qualifier.raw
    statusCode := source.statusCode.raw }

/-- `Convert(const protocol::DataValue&, scada::DataValue&)`, into a fresh data
value. -/
def Remote.Wire.DataValue.convert (source : DataValue) : Option (Scada.DataValue Scada.Value) := do
  let serverTimestamp ← timeOfField source.serverTime
  let sourceTimestamp ← timeOfField source.sourceTime
  let value ← Variant.ofField source.value
  return {
    value
    qualifier := ⟨source.qualifier⟩
    sourceTimestamp
    serverTimestamp
    statusCode := ⟨source.statusCode⟩ }

structure Scada.DataValue.Encodable (d : DataValue Value) : Prop where
  serverTimestamp : d.serverTimestamp.Encodable
  sourceTimestamp : d.sourceTimestamp.Encodable
  value : Variant.Encodable d.value

theorem Scada.DataValue.convert_isSome_iff (d : DataValue Value) :
    d.convert.isSome ↔ d.Encodable := by
  have hfields : d.convert.isSome ↔ (encodeWireMicroseconds d.serverTimestamp).isSome ∧
      (encodeWireMicroseconds d.sourceTimestamp).isSome ∧
      (Variant.field d.value).isSome := by
    unfold DataValue.convert
    cases encodeWireMicroseconds d.serverTimestamp <;>
      cases encodeWireMicroseconds d.sourceTimestamp <;>
        cases Variant.field d.value <;> simp
  rw [hfields, encodeWireMicroseconds_isSome_iff, encodeWireMicroseconds_isSome_iff,
    Variant.field_isSome_iff]
  constructor
  · rintro ⟨hserver, hsource, hvalue⟩
    exact ⟨hserver, hsource, hvalue⟩
  · rintro ⟨hserver, hsource, hvalue⟩
    exact ⟨hserver, hsource, hvalue⟩

theorem Remote.Wire.DataValue.encodable_of_convert {wire : DataValue}
    {d : Scada.DataValue Scada.Value} (h : wire.convert = some d) : d.Encodable := by
  obtain ⟨serverTimestamp, hserver, h⟩ := Option.bind_eq_some_iff.mp h
  obtain ⟨sourceTimestamp, hsource, h⟩ := Option.bind_eq_some_iff.mp h
  obtain ⟨value, hvalue, h⟩ := Option.bind_eq_some_iff.mp h
  cases h
  exact ⟨encodable_of_timeOfField hserver, encodable_of_timeOfField hsource,
    Variant.encodable_of_ofField hvalue⟩

/-- The data values that come back as they went. -/
structure Scada.DataValue.OnWire (d : DataValue Value) : Prop where
  serverTimestamp : d.serverTimestamp.OnWire
  sourceTimestamp : d.sourceTimestamp.OnWire
  value : Variant.OnWire d.value

/-- What the other end gets for a data value. -/
def Scada.DataValue.relay (d : DataValue Value) : Option (DataValue Value) :=
  d.convert.bind Wire.DataValue.convert

theorem Scada.DataValue.relay_eq_self_iff (d : DataValue Value) : d.relay = some d ↔ d.OnWire := by
  constructor
  · intro h
    obtain ⟨wire, hwire, hback⟩ := Option.bind_eq_some_iff.mp h
    obtain ⟨serverTime, hserver, hwire⟩ := Option.bind_eq_some_iff.mp hwire
    obtain ⟨sourceTime, hsource, hwire⟩ := Option.bind_eq_some_iff.mp hwire
    obtain ⟨field, hfield, hwire⟩ := Option.bind_eq_some_iff.mp hwire
    cases hwire
    obtain ⟨serverTimestamp, hserverBack, hback⟩ := Option.bind_eq_some_iff.mp hback
    obtain ⟨sourceTimestamp, hsourceBack, hback⟩ := Option.bind_eq_some_iff.mp hback
    obtain ⟨value, hvalueBack, hback⟩ := Option.bind_eq_some_iff.mp hback
    have hd := Option.some.inj hback
    rw [Wire.timeOfField_toUInt64] at hserverBack hsourceBack
    rw [show serverTimestamp = d.serverTimestamp from congrArg (·.serverTimestamp) hd]
      at hserverBack
    rw [show sourceTimestamp = d.sourceTimestamp from congrArg (·.sourceTimestamp) hd]
      at hsourceBack
    rw [show value = d.value from congrArg (·.value) hd] at hvalueBack
    exact ⟨(onWire_iff _).mp ⟨serverTime, hserver, hserverBack⟩,
      (onWire_iff _).mp ⟨sourceTime, hsource, hsourceBack⟩,
      (Variant.field_survives_iff _).mp ⟨field, hfield, hvalueBack⟩⟩
  · rintro ⟨hserver, hsource, hvalue⟩
    obtain ⟨serverTime, hserver, hserverBack⟩ := (onWire_iff _).mpr hserver
    obtain ⟨sourceTime, hsource, hsourceBack⟩ := (onWire_iff _).mpr hsource
    obtain ⟨field, hfield, hvalueBack⟩ := (Variant.field_survives_iff _).mpr hvalue
    simp [DataValue.relay, DataValue.convert, Wire.DataValue.convert, hserver,
      hsource, hfield, Wire.timeOfField_toUInt64, hserverBack, hsourceBack, hvalueBack]

/-! ## Events -/

def Scada.Event.convert (source : Event) : Option Wire.Event := do
  check (source.eventId != 0)
  let time ← encodeWireMicroseconds source.time
  let value ← source.value.field
  let acknowledgeTime ← source.acknowledgedTime.field
  return {
    eventId := source.eventId
    time := time.toUInt64
    severity := source.severity
    sourceNodeId := source.sourceNodeId.field
    userNodeId := source.userId.field
    value
    qualifier := source.qualifier.raw
    -- a text that is not set has the value of an empty one
    messageUtf8 := utf8OfUtf16 source.message.text
    messageLocale := source.message.locale
    acknowledged := source.acked
    acknowledgeTime := acknowledgeTime.toUInt64
    acknowledgeUserId := source.acknowledgedUserId.field
    sourceName := utf8OfUtf16 source.sourceName.text }

def Remote.Wire.Event.convert (source : Event) : Option Scada.Event := do
  let time ← Scada.decodeWireTime source.time.toInt64
  let value ← Variant.ofField source.value
  let acknowledgedTime ← timeOfField source.acknowledgeTime
  return {
    eventId := source.eventId
    time
    severity := source.severity
    sourceNodeId := NodeId.ofField source.sourceNodeId
    sourceName := { text := Scada.utf16OfUtf8 source.sourceName }
    userId := NodeId.ofField source.userNodeId
    value
    qualifier := ⟨source.qualifier⟩
    message :=
      { locale := source.messageLocale, text := Scada.utf16OfUtf8 source.messageUtf8 }
    acked := source.acknowledged
    acknowledgedTime
    acknowledgedUserId := NodeId.ofField source.acknowledgeUserId }

structure Scada.Event.Encodable (e : Event) : Prop where
  eventId : e.eventId ≠ 0
  time : e.time.Encodable
  value : e.value.Encodable
  acknowledgedTime : e.acknowledgedTime.Encodable

theorem Scada.Event.convert_isSome_iff (e : Event) : e.convert.isSome ↔ e.Encodable := by
  have hfields : e.convert.isSome ↔ e.eventId ≠ 0 ∧
      (encodeWireMicroseconds e.time).isSome ∧ e.value.field.isSome ∧
      e.acknowledgedTime.field.isSome := by
    unfold Event.convert
    rw [check_bind]
    by_cases hid : e.eventId = 0
    · simp [hid]
    · cases encodeWireMicroseconds e.time <;> cases e.value.field <;>
        cases e.acknowledgedTime.field <;> simp [hid]
  rw [hfields, encodeWireMicroseconds_isSome_iff, Variant.field_isSome_iff,
    Time.field_isSome_iff]
  constructor
  · rintro ⟨hid, htime, hvalue, hacknowledged⟩
    exact ⟨hid, htime, hvalue, hacknowledged⟩
  · rintro ⟨hid, htime, hvalue, hacknowledged⟩
    exact ⟨hid, htime, hvalue, hacknowledged⟩

namespace Scada.ModelChangeEvent

def isValid (event : ModelChangeEvent) : Bool :=
  if event.nodeId.isNull then
    false
  else if event.verb == 0 then
    false
  else if event.has nodeAdded && event.typeDefinitionId.isNull then
    false
  else if event.has nodeDeleted && event.verb != nodeDeleted then
    false
  else
    true

def convert (source : ModelChangeEvent) : Option Wire.ModelChangeEvent := do
  check source.isValid
  return {
    nodeId := source.nodeId.field
    typeDefinitionId := source.typeDefinitionId.field
    nodeAdded := source.has nodeAdded
    nodeDeleted := source.has nodeDeleted
    referenceAdded := source.has referenceAdded
    referenceDeleted := source.has referenceDeleted }

theorem convert_isSome_iff (e : ModelChangeEvent) : e.convert.isSome ↔ e.isValid := by
  unfold convert
  rw [check_bind]
  cases e.isValid <;> simp

end Scada.ModelChangeEvent

def Remote.Wire.ModelChangeEvent.convert (source : Wire.ModelChangeEvent) :
    Scada.ModelChangeEvent :=
  let verb (sent : Bool) (bit : BitVec 8) : BitVec 8 := if sent then bit else 0
  { nodeId := Wire.NodeId.ofField source.nodeId
    typeDefinitionId := Wire.NodeId.ofField source.typeDefinitionId
    verb := verb source.nodeAdded Scada.ModelChangeEvent.nodeAdded |||
      verb source.nodeDeleted Scada.ModelChangeEvent.nodeDeleted |||
      verb source.referenceAdded Scada.ModelChangeEvent.referenceAdded |||
      verb source.referenceDeleted Scada.ModelChangeEvent.referenceDeleted }

end ScadaCore
