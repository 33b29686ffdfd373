import ScadaCore.Remote.EventCodec

/-!
# Remote.Hops — what one hop leaves of data values, events and model changes

A hop is the encoding of one tier followed by the decoding of the next, into a
fresh object. Data values of plain contents arrive as they went, and so do times
whose wire count does not collide with the one that stands for `kMaxTime`. An
event loses the fields that have no place in the message. A model change loses the
verb `DataTypeChanged`, which has no flag: an event of that verb alone arrives without any, and the tier that relays it
panics.
-/

namespace ScadaCore

open Remote

namespace Scada

/-! ## Fields -/

def Time.InWireRange (time : Time) : Prop :=
  Int64.minValue.toInt < time.toInt + timeTToMicrosecondsOffset ∧
    time.toInt + timeTToMicrosecondsOffset < Int64.maxValue.toInt

instance (time : Time) : Decidable time.InWireRange :=
  inferInstanceAs (Decidable (_ ∧ _))

theorem Time.InWireRange.onWire {time : Time} (h : time.InWireRange) : time.OnWire :=
  .inr h.2

theorem onWire_nullTime : Time.OnWire nullTime := by decide

def Scalar.Plain : Scalar → Prop
  | .bool _ | .int8 _ | .uint8 _ | .int16 _ | .uint16 _ | .int32 _ | .uint32 _ | .int64 _
  | .uint64 _ | .string _ | .byteString _ => True
  | _ => False

def Elements.Plain : Elements → Prop
  | .bool _ | .int8 _ | .uint8 _ | .int16 _ | .uint16 _ | .int32 _ | .uint32 _ | .int64 _
  | .uint64 _ | .string _ => True
  | _ => False

def Variant.Plain : Variant → Prop
  | none => True
  | some (.scalar scalar) => scalar.Plain
  | some (.array elements) => elements.Plain

theorem Variant.Plain.onWire {v : Variant} (h : v.Plain) : v.OnWire := by
  rcases v with _ | ⟨scalar | elements⟩
  · trivial
  · cases scalar <;> trivial
  · cases elements <;> trivial

theorem NodeId.ofField_field {n : NodeId} (h : n.OnWire) : Wire.NodeId.ofField n.field = n := by
  unfold NodeId.field
  split
  · rename_i hnull
    -- only `{}` is null, and `{}` is what an absent field stands for
    unfold NodeId.isNull at hnull
    rw [Bool.and_eq_true, beq_iff_eq, beq_iff_eq] at hnull
    rcases n with ⟨identifier, namespaceIndex⟩
    rcases hnull with ⟨rfl, rfl⟩
    rfl
  · exact n.convert_onWire.mpr h

theorem Time.field_survives {time : Time} (h : time.OnWire) :
    ∃ wire, time.field = some wire ∧ Wire.timeOfField wire.toUInt64 = some time := by
  rcases (onWire_iff time).mpr h with ⟨wire, hencode, hdecode⟩
  unfold Time.field
  split
  · rename_i hnull
    rw [hnull]
    exact ⟨0, rfl, rfl⟩
  · refine ⟨wire, hencode, ?_⟩
    rw [Wire.timeOfField_toUInt64]
    exact hdecode

/-! ## Data values -/

/-- A data value of plain contents and times that are null or inside the range of
the wire is encoded, and what is decoded is the data value: all five fields. -/
theorem DataValue.plain_survives (d : DataValue Value) (hvalue : Variant.Plain d.value)
    (hserver : d.serverTimestamp = nullTime ∨ d.serverTimestamp.InWireRange)
    (hsource : d.sourceTimestamp = nullTime ∨ d.sourceTimestamp.InWireRange) :
    ∃ wire, d.convert = some wire ∧ wire.convert = some d := by
  have htime : ∀ time : Time, time = nullTime ∨ time.InWireRange → time.OnWire := by
    intro time h
    rcases h with h | h
    · rw [h]
      exact onWire_nullTime
    · exact h.onWire
  have hrelay : d.relay = some d :=
    d.relay_eq_self_iff.mpr ⟨htime _ hserver, htime _ hsource, hvalue.onWire⟩
  exact Option.bind_eq_some_iff.mp hrelay

/-- The least 64-bit integer, a null server time and the last time before the
count of `kMaxTime`. -/
theorem DataValue.plain_survives_extremes :
    let d : DataValue Value :=
      { value := some (.scalar (.int64 Int64.minValue))
        qualifier := ⟨0xffffffff⟩
        sourceTimestamp := 9211727563254775806
        serverTimestamp := nullTime
        statusCode := ⟨0xffffffff⟩ }
    ∃ wire, d.convert = some wire ∧ wire.convert = some d :=
  DataValue.plain_survives _ trivial (.inl rfl) (.inr (by decide))

/-! ## Events -/

def Event.relay (e : Event) : Option Event :=
  e.convert.bind Wire.Event.convert

/-- The event without what the message has no place for. -/
def Event.afterHop (e : Event) : Event :=
  { e with
    eventTypeId := systemEventType
    receiveTime := nullTime
    changeMask := 0
    sourceName := { e.sourceName with locale := "" } }

/-- The events whose fields are read back one by one. -/
structure Event.OnWire (e : Event) : Prop where
  eventId : e.eventId ≠ 0
  time : e.time.OnWire
  sourceNodeId : e.sourceNodeId.OnWire
  userId : e.userId.OnWire
  value : e.value.OnWire
  acknowledgedTime : e.acknowledgedTime.OnWire
  acknowledgedUserId : e.acknowledgedUserId.OnWire

theorem Event.OnWire.afterHop {e : Event} (h : e.OnWire) : e.afterHop.OnWire :=
  ⟨h.eventId, h.time, h.sourceNodeId, h.userId, h.value, h.acknowledgedTime,
    h.acknowledgedUserId⟩

theorem Event.afterHop_afterHop (e : Event) : e.afterHop.afterHop = e.afterHop := rfl

theorem Event.relay_eq_afterHop {e : Event} (h : e.OnWire) : e.relay = some e.afterHop := by
  rcases (onWire_iff e.time).mpr h.time with ⟨time, htime, htimeBack⟩
  rcases (Variant.field_survives_iff e.value).mpr h.value with ⟨value, hvalue, hvalueBack⟩
  rcases Time.field_survives h.acknowledgedTime with ⟨acknowledged, hacknowledged, hackBack⟩
  have hid : (e.eventId != 0) = true := bne_iff_ne.mpr h.eventId
  unfold Event.relay Event.convert
  rw [check_bind, if_pos hid, htime, hvalue, hacknowledged]
  simp only [Option.bind_eq_bind, Option.bind_some, Option.pure_def, Wire.Event.convert,
    Int64.toInt64_toUInt64, htimeBack, hvalueBack, hackBack, NodeId.ofField_field h.sourceNodeId,
    NodeId.ofField_field h.userId, NodeId.ofField_field h.acknowledgedUserId,
    utf16OfUtf8_utf8OfUtf16]
  rfl

/-- A hop resets the event type, the receive time and the change mask, clears the
locale of the source name and keeps everything else. A second one changes nothing
more. -/
theorem Event.relay_exact (e : Event) (hid : e.eventId ≠ 0)
    (hsource : e.sourceNodeId.isNull ∨ e.sourceNodeId.OnWire)
    (huser : e.userId.isNull ∨ e.userId.OnWire)
    (hackUser : e.acknowledgedUserId.isNull ∨ e.acknowledgedUserId.OnWire)
    (hvalue : e.value.Plain) (htime : e.time.InWireRange)
    (hackTime : e.acknowledgedTime.InWireRange) :
    e.relay = some {
      eventTypeId := systemEventType
      eventId := e.eventId
      time := e.time
      receiveTime := nullTime
      changeMask := 0
      severity := e.severity
      sourceNodeId := e.sourceNodeId
      sourceName := { locale := "", text := e.sourceName.text }
      userId := e.userId
      value := e.value
      qualifier := e.qualifier
      message := e.message
      acked := e.acked
      acknowledgedTime := e.acknowledgedTime
      acknowledgedUserId := e.acknowledgedUserId } ∧
    e.relay.bind Event.relay = e.relay := by
  have hnode : ∀ n : NodeId, n.isNull ∨ n.OnWire → n.OnWire := by
    intro n h
    rcases h with h | h
    · -- the null id is numeric
      unfold NodeId.isNull at h
      rw [Bool.and_eq_true, beq_iff_eq, beq_iff_eq] at h
      constructor <;> rw [h.2] <;> decide
    · exact h
  have honWire : e.OnWire :=
    ⟨hid, htime.onWire, hnode _ hsource, hnode _ huser, hvalue.onWire, hackTime.onWire,
      hnode _ hackUser⟩
  constructor
  · exact Event.relay_eq_afterHop honWire
  · rw [Event.relay_eq_afterHop honWire, Option.bind_some,
      Event.relay_eq_afterHop honWire.afterHop, Event.afterHop_afterHop]

/-- An acknowledged event with everything a hop drops. -/
theorem Event.relay_exact_acknowledged :
    let e : Event :=
      { eventTypeId := { identifier := .numeric 1 }
        eventId := 7
        time := 0
        receiveTime := 5
        changeMask := 3
        sourceName := { locale := "en", text := ['P'] }
        userId := { identifier := .string "u" }
        value := some (.scalar (.uint64 18446744073709551615))
        message := { locale := "en", text := ['M'] }
        acked := true
        acknowledgedTime := 1 }
    e.relay = some {
        eventId := 7
        time := 0
        sourceName := { text := ['P'] }
        userId := { identifier := .string "u" }
        value := some (.scalar (.uint64 18446744073709551615))
        message := { locale := "en", text := ['M'] }
        acked := true
        acknowledgedTime := 1 } ∧
      e.relay.bind Event.relay = e.relay :=
  Event.relay_exact _ (by decide) (.inl rfl) (.inr (by unfold NodeId.OnWire; decide)) (.inl rfl)
    trivial (by decide) (by decide)

/-! ## Model changes -/

namespace ModelChangeEvent

def Declared (e : ModelChangeEvent) : Prop :=
  e.verb &&&
    (nodeAdded ||| nodeDeleted ||| referenceAdded ||| referenceDeleted ||| dataTypeChanged) = e.verb

instance (e : ModelChangeEvent) : Decidable e.Declared :=
  inferInstanceAs (Decidable (_ = _))

def flagged : BitVec 8 := nodeAdded ||| nodeDeleted ||| referenceAdded ||| referenceDeleted

theorem ite_has (e : ModelChangeEvent) (i : Nat) :
    (if e.has (BitVec.twoPow 8 i) then BitVec.twoPow 8 i else 0) =
      e.verb &&& BitVec.twoPow 8 i := by
  unfold has
  by_cases hzero : e.verb &&& BitVec.twoPow 8 i = 0
  · rw [hzero]
    rfl
  · rw [if_pos (bne_iff_ne.mpr hzero)]
    -- the conjunction with one bit is that bit or nothing
    rw [BitVec.and_twoPow] at hzero ⊢
    split at hzero
    · rename_i hbit
      rw [if_pos hbit]
    · exact absurd rfl hzero

def relay (e : ModelChangeEvent) : Option ModelChangeEvent :=
  e.convert.map Wire.ModelChangeEvent.convert

variable {e : ModelChangeEvent}

theorem relay_eq (hvalid : e.isValid) (hnode : e.nodeId.OnWire)
    (htype : e.typeDefinitionId.OnWire) : e.relay = some { e with verb := e.verb &&& flagged } := by
  have hverb : (if e.has nodeAdded then nodeAdded else 0) |||
      (if e.has nodeDeleted then nodeDeleted else 0) |||
      (if e.has referenceAdded then referenceAdded else 0) |||
      (if e.has referenceDeleted then referenceDeleted else 0) = e.verb &&& flagged := by
    rw [show nodeAdded = BitVec.twoPow 8 0 from rfl, show nodeDeleted = BitVec.twoPow 8 1 from rfl,
      show referenceAdded = BitVec.twoPow 8 2 from rfl,
      show referenceDeleted = BitVec.twoPow 8 3 from rfl, ite_has, ite_has, ite_has, ite_has,
      ← BitVec.and_or_distrib_left, ← BitVec.and_or_distrib_left, ← BitVec.and_or_distrib_left]
    rfl
  unfold relay convert
  rw [check_bind, if_pos hvalid]
  simp only [Option.pure_def, Option.map_some, Wire.ModelChangeEvent.convert,
    NodeId.ofField_field hnode, NodeId.ofField_field htype, hverb]

theorem isValid_iff (e : ModelChangeEvent) :
    e.isValid ↔ e.nodeId.isNull = false ∧ e.verb ≠ 0 ∧
      (e.has nodeAdded → e.typeDefinitionId.isNull = false) ∧
      (e.has nodeDeleted → e.verb = nodeDeleted) := by
  unfold isValid
  cases e.nodeId.isNull <;> cases e.typeDefinitionId.isNull <;> cases e.has nodeAdded <;>
    cases e.has nodeDeleted <;> simp

/-- The verb is made of the flagged ones and the one that has no flag. -/
theorem Declared.verb_eq (h : e.Declared) :
    e.verb = (e.verb &&& flagged) ||| (e.verb &&& dataTypeChanged) := by
  rw [← BitVec.and_or_distrib_left]
  exact h.symm

theorem Declared.flagged_eq_verb_iff (h : e.Declared) :
    e.verb &&& flagged = e.verb ↔ e.has dataTypeChanged = false := by
  have hhas : e.has dataTypeChanged = false ↔ e.verb &&& dataTypeChanged = 0 := by
    unfold has
    rw [bne_eq_false_iff_eq]
  rw [hhas]
  constructor
  · intro hflagged
    rw [← hflagged, BitVec.and_assoc]
    exact BitVec.and_zero
  · intro hzero
    have hverb := h.verb_eq
    rw [hzero] at hverb
    exact (hverb.trans BitVec.or_zero).symm

theorem Declared.flagged_eq_zero_iff (h : e.Declared) (hne : e.verb ≠ 0) :
    e.verb &&& flagged = 0 ↔ e.verb = dataTypeChanged := by
  constructor
  · intro hzero
    have hverb := h.verb_eq
    rw [hzero, show dataTypeChanged = BitVec.twoPow 8 4 from rfl, BitVec.and_twoPow] at hverb
    -- without a flagged verb the other one is there, or there is none
    split at hverb
    · exact hverb.trans BitVec.zero_or
    · exact absurd hverb hne
  · intro hverb
    rw [hverb]
    rfl

/-- What arrives is valid unless no verb is left: the checks of the ids and of the
deletion read flagged verbs only. -/
theorem isValid_flagged (hvalid : e.isValid) :
    ({ e with verb := e.verb &&& flagged } : ModelChangeEvent).isValid ↔
      e.verb &&& flagged ≠ 0 := by
  rcases (isValid_iff e).mp hvalid with ⟨hnode, _, hadded, hdeleted⟩
  have hhas : ∀ verb, flagged &&& verb = verb →
      ({ e with verb := e.verb &&& flagged } : ModelChangeEvent).has verb = e.has verb := by
    intro verb hverb
    unfold has
    rw [BitVec.and_assoc, hverb]
  rw [isValid_iff, hhas nodeAdded rfl, hhas nodeDeleted rfl]
  constructor
  · intro h
    exact h.2.1
  · intro hne
    refine ⟨hnode, hne, hadded, ?_⟩
    intro hdel
    rw [hdeleted hdel]
    rfl

/-- A valid event arrives as it went if and only if it has not the verb
`DataTypeChanged`. What arrives is valid if and only if the event has another
verb. -/
theorem modelChange_relayed_iff (e : ModelChangeEvent) (hvalid : e.isValid) (hdeclared : e.Declared)
    (hnode : e.nodeId.OnWire) (htype : e.typeDefinitionId.OnWire) :
    (e.relay = some e ↔ e.has dataTypeChanged = false) ∧
      ∃ arrived, e.relay = some arrived ∧ (arrived.isValid ↔ e.verb ≠ dataTypeChanged) := by
  rw [relay_eq hvalid hnode htype]
  constructor
  · rw [← hdeclared.flagged_eq_verb_iff]
    rcases e with ⟨nodeId, typeDefinitionId, verb⟩
    simp only [Option.some.injEq, mk.injEq, true_and]
  · refine ⟨_, rfl, ?_⟩
    have hne : e.verb ≠ 0 := ((isValid_iff e).mp hvalid).2.1
    rw [isValid_flagged hvalid, Ne, hdeclared.flagged_eq_zero_iff hne]

theorem modelChange_relayed_referenceAdded :
    let e : ModelChangeEvent := { nodeId := { identifier := .numeric 1 }, verb := referenceAdded }
    (e.relay = some e ↔ e.has dataTypeChanged = false) ∧
      ∃ arrived, e.relay = some arrived ∧ (arrived.isValid ↔ e.verb ≠ dataTypeChanged) :=
  modelChange_relayed_iff _ (by decide) (by decide) (by unfold NodeId.OnWire; decide)
    (by unfold NodeId.OnWire; decide)

/-- The change of a data type arrives as no change, which the next tier does not
encode. -/
theorem dataTypeChanged_not_relayed :
    let e : ModelChangeEvent := { nodeId := { identifier := .numeric 1 }, verb := dataTypeChanged }
    let arrived : ModelChangeEvent := { nodeId := { identifier := .numeric 1 }, verb := 0 }
    e.isValid ∧ e.Declared ∧ e.relay = some arrived ∧ arrived ≠ e ∧ arrived.isValid = false ∧
      arrived.convert = none := by
  decide

end ModelChangeEvent

end Scada

end ScadaCore
