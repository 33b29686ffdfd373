import ScadaCore.Data.Table
import ScadaCore.Remote.RequestCodec
import ScadaCore.Remote.EventCodec

/-!
# Remote.HistoryRequests — the range of a history read on its way to the backend

`HistoryProxy` writes a request and `HistoryStub` reads it. A null time, which is
an open end of the range, is not sent; the stub takes a time that was not sent for
`scada::Time()`, and that is not the null time but the first instant of 1970.
-/

namespace ScadaCore.Remote.Wire

structure AggregateFilter where
  startTime : UInt64 := 0
  interval : UInt64 := 0
  aggregateType : NodeId := {}
deriving DecidableEq, Repr

structure HistoryReadRaw where
  nodeId : NodeId := {}
  fromTime : UInt64 := 0
  toTime : UInt64 := 0
  maxCount : UInt64 := 0
  aggregateFilter : Option AggregateFilter := none
  releaseContinuationPoint : Bool := false
  continuationPoint : Scada.ByteString := []
deriving DecidableEq, Repr

structure HistoryReadEvents where
  nodeId : NodeId := {}
  fromTime : UInt64 := 0
  toTime : UInt64 := 0
  filter : Option EventFilter := none
deriving DecidableEq, Repr

end ScadaCore.Remote.Wire

namespace ScadaCore

open Scada Remote

/-! ## The requests -/

namespace Scada.AggregateFilter

def isNull (filter : AggregateFilter) : Bool := filter.interval == 0

def convert (source : AggregateFilter) : Option Wire.AggregateFilter := do
  let startTime ← encodeWireMicroseconds source.startTime
  return {
    startTime := startTime.toUInt64
    interval := source.interval.toUInt64
    aggregateType := source.aggregateType.convert }

def field (source : AggregateFilter) : Option (Option Wire.AggregateFilter) :=
  if source.isNull then some none else source.convert.map some

end Scada.AggregateFilter

def Remote.Wire.AggregateFilter.convert (source : Wire.AggregateFilter) :
    Option Scada.AggregateFilter := do
  let startTime ← decodeWireTime source.startTime.toInt64
  return {
    startTime
    interval := source.interval.toInt64
    aggregateType := source.aggregateType.convert }

def Remote.Wire.AggregateFilter.ofField :
    Option Wire.AggregateFilter → Option Scada.AggregateFilter
  | some filter => filter.convert
  | none => some {}

namespace Scada.HistoryReadRawDetails

def forward (details : HistoryReadRawDetails) : Bool :=
  details.toTime == nullTime || decide (details.fromTime ≤ details.toTime)

end Scada.HistoryReadRawDetails

namespace Remote.HistoryProxy

def historyReadRaw (details : HistoryReadRawDetails) : Option Wire.HistoryReadRaw := do
  let fromTime ← details.fromTime.field
  let toTime ← details.toTime.field
  let aggregateFilter ← details.aggregation.field
  return {
    nodeId := details.nodeId.convert
    fromTime := fromTime.toUInt64
    toTime := toTime.toUInt64
    maxCount := UInt64.ofNat details.maxCount
    aggregateFilter
    releaseContinuationPoint := details.releaseContinuationPoint
    continuationPoint := details.continuationPoint }

def historyReadEvents (details : HistoryReadEventsDetails) : Option Wire.HistoryReadEvents := do
  let fromTime ← details.fromTime.field
  let toTime ← details.toTime.field
  return {
    nodeId := details.nodeId.convert
    fromTime := fromTime.toUInt64
    toTime := toTime.toUInt64
    filter := some details.filter.convert }

end Remote.HistoryProxy

namespace Remote.HistoryStub

/-- An end of the range, off the wire: one that is not set is `scada::Time()`. -/
def timeOfField (source : UInt64) : Option Time :=
  if source = 0 then some 0 else decodeWireTime source.toInt64

def readRawDetails (request : Wire.HistoryReadRaw) : Option HistoryReadRawDetails := do
  let fromTime ← timeOfField request.fromTime
  let toTime ← timeOfField request.toTime
  let aggregation ← Wire.AggregateFilter.ofField request.aggregateFilter
  return {
    nodeId := request.nodeId.convert
    fromTime
    toTime
    maxCount := request.maxCount.toNat
    aggregation
    releaseContinuationPoint := request.releaseContinuationPoint
    continuationPoint := request.continuationPoint }

def readEventsDetails (request : Wire.HistoryReadEvents) : Option HistoryReadEventsDetails := do
  let fromTime ← timeOfField request.fromTime
  let toTime ← timeOfField request.toTime
  return {
    nodeId := request.nodeId.convert
    fromTime
    toTime
    filter := (request.filter.map Wire.EventFilter.convert).getD {} }

end Remote.HistoryStub

/-! ## The answers -/

/-- `protocol::Response`, as far as the answer to a read of values sets it. -/
structure Remote.Wire.HistoryReadRawResponse where
  statusCode : Wire.StatusCode
  values : List Wire.DataValue := []
  continuationPoint : ByteString := []

def Remote.HistoryProxy.onHistoryReadRawResponse (response : Wire.HistoryReadRawResponse) :
    Option (StatusOr HistoryReadRawResult) :=
  let status : Status := response.statusCode.convert
  if hbad : status.bad then
    some (.error ⟨status, hbad⟩)
  else do
    let values ← response.values.mapM Wire.DataValue.convert
    return .ok { values, continuationPoint := response.continuationPoint }

abbrev Remote.ContinuationPoints := Table ByteString HistoryReadRawDetails

namespace Remote.HistoryStub

variable (points : ContinuationPoints)

/-- `OnHistoryReadRaw`: the parameters for `OnHistoryReadRawAsync`, and what is left
of the points. -/
def onHistoryReadRaw (request : Wire.HistoryReadRaw) :
    Option (ContinuationPoints × HistoryReadRawDetails) :=
  let found :=
    if request.continuationPoint = [] then none else points.lookup request.continuationPoint
  match found with
  | some details =>
    -- `ignore_params`: of the request only the flag and the point are taken
    some (points.erase request.continuationPoint,
      { details with
        releaseContinuationPoint := request.releaseContinuationPoint
        continuationPoint := request.continuationPoint })
  | none => (readRawDetails request).map (points, ·)

def historyReadRawResponse (result : StatusOr HistoryReadRawResult) :
    Option Wire.HistoryReadRawResponse :=
  match result with
  | .error status => some { statusCode := status.1.code.convert }
  | .ok chunk => do
    let values ← chunk.values.mapM DataValue.convert
    return {
      statusCode := StatusCode.good.convert
      values
      continuationPoint := chunk.continuationPoint }

/-- A read that is to be continued is remembered under its point. -/
def keepPoint (details : HistoryReadRawDetails) :
    StatusOr HistoryReadRawResult → ContinuationPoints
  | .ok chunk =>
    -- `emplace` leaves a point that is there with the parameters it has
    if chunk.continuationPoint = [] then points
    else points.emplace (chunk.continuationPoint, details)
  | .error _ => points

/-- `OnHistoryReadRawAsync`, from the answer of the service on. -/
def onHistoryReadRawAsync (details : HistoryReadRawDetails)
    (result : StatusOr HistoryReadRawResult) :
    Option (ContinuationPoints × Wire.HistoryReadRawResponse) :=
  (historyReadRawResponse result).map (keepPoint points details result, ·)

def destroy : List HistoryReadRawDetails :=
  points.entries.map fun entry =>
    { entry.2 with releaseContinuationPoint := true, continuationPoint := entry.1 }

end Remote.HistoryStub

/-! ## What becomes of a time -/

/-- The time that the backend gets for an end of the range. The one other time
that changes is that whose distance from the 1601 epoch stands for `kMaxTime`. -/
def Remote.received (time : Time) : Time :=
  if time = nullTime then 0 else if time.OnWire then time else maxTime

namespace Remote

theorem received_eq_self_iff (time : Time) :
    received time = time ↔ time ≠ nullTime ∧ time.OnWire := by
  unfold received
  split
  · rename_i hnull
    refine iff_of_false ?_ fun h => h.1 hnull
    rw [hnull]
    decide
  · rename_i hnull
    split
    · rename_i hwire
      exact iff_of_true rfl ⟨hnull, hwire⟩
    · rename_i hlost
      refine iff_of_false ?_ fun h => hlost h.2
      intro hmax
      exact hlost (Or.inl hmax.symm)

/-- What the proxy writes for a time, the stub reads as `received` says. -/
theorem timeOfField_field {time : Time} {wire : Int64} (h : time.field = some wire) :
    HistoryStub.timeOfField wire.toUInt64 = some (received time) := by
  unfold Time.field at h
  unfold received
  split at h
  · rename_i hnull
    cases h
    rw [if_pos hnull]
    rfl
  · rename_i hnull
    have hset : wire.toUInt64 ≠ 0 := by
      intro hzero
      have hwire : wire = 0 := by simpa using congrArg UInt64.toInt64 hzero
      rw [hwire] at h
      exact hnull (eq_nullTime_of_encode_zero h)
    rw [if_neg hnull, HistoryStub.timeOfField, if_neg hset]
    exact decodeWireTime_of_encode h

/-! ## The range -/

theorem aggregation_received {aggregation : Scada.AggregateFilter}
    {wire : Option Wire.AggregateFilter} (h : aggregation.field = some wire) :
    ∃ reached, Wire.AggregateFilter.ofField wire = some reached := by
  unfold Scada.AggregateFilter.field at h
  split at h
  · cases h
    exact ⟨_, rfl⟩
  · obtain ⟨filter, hfilter, rfl⟩ := Option.map_eq_some_iff.mp h
    obtain ⟨startTime, hstart, hfilter⟩ := Option.bind_eq_some_iff.mp hfilter
    cases hfilter
    simp [Wire.AggregateFilter.ofField, Wire.AggregateFilter.convert,
      decodeWireTime_of_encode hstart]

/-- The ends of the range that the backend is called with. -/
theorem readRawDetails_received {details : HistoryReadRawDetails} {wire : Wire.HistoryReadRaw}
    (h : HistoryProxy.historyReadRaw details = some wire) :
    ∃ reached, HistoryStub.readRawDetails wire = some reached ∧
      reached.fromTime = received details.fromTime ∧
      reached.toTime = received details.toTime := by
  simp only [HistoryProxy.historyReadRaw, Option.bind_eq_bind, Option.bind_eq_some_iff] at h
  obtain ⟨fromTime, hfrom, toTime, hto, aggregateFilter, haggregate, hwire⟩ := h
  obtain ⟨aggregation, haggregation⟩ := aggregation_received haggregate
  cases hwire
  simp [HistoryStub.readRawDetails, timeOfField_field hfrom, timeOfField_field hto,
    haggregation]

@[inherit_doc readRawDetails_received]
theorem readEventsDetails_received {details : HistoryReadEventsDetails}
    {wire : Wire.HistoryReadEvents} (h : HistoryProxy.historyReadEvents details = some wire) :
    ∃ reached, HistoryStub.readEventsDetails wire = some reached ∧
      reached.fromTime = received details.fromTime ∧
      reached.toTime = received details.toTime := by
  simp only [HistoryProxy.historyReadEvents, Option.bind_eq_bind, Option.bind_eq_some_iff] at h
  obtain ⟨fromTime, hfrom, toTime, hto, hwire⟩ := h
  cases hwire
  simp [HistoryStub.readEventsDetails, timeOfField_field hfrom, timeOfField_field hto]

theorem received_le_epoch_iff (time : Time) : received time ≤ 0 ↔ time = nullTime ∨ time ≤ 0 := by
  unfold received
  split
  · rename_i hnull
    exact iff_of_true (by decide) (Or.inl hnull)
  · rename_i hnull
    split
    · exact (or_iff_right hnull).symm
    · -- such a time is far beyond the epoch
      rename_i hlost
      refine iff_of_false (by decide) ?_
      rintro (h | h)
      · exact hnull h
      · apply hlost
        right
        rw [Int64.le_iff_toInt_le] at h
        have hzero : (0 : Int64).toInt = 0 := rfl
        have hmax := Int64.toInt_maxValue
        have hoffset : timeTToMicrosecondsOffset = 11644473600000000 := rfl
        omega

/-- An open end becomes the first instant of 1970: a read from any later time, which
went forward without an end, goes backward to it. -/
theorem forward_of_open_end {details reached : HistoryReadRawDetails}
    (hfrom : reached.fromTime = received details.fromTime)
    (hto : reached.toTime = received details.toTime) (hopen : details.toTime = nullTime) :
    reached.forward = details.forward ↔ details.fromTime = nullTime ∨ details.fromTime ≤ 0 := by
  have hforward : details.forward = true := by simp [HistoryReadRawDetails.forward, hopen]
  have hend : reached.toTime = 0 := by rw [hto, hopen]; rfl
  have hbounded : (0 : Time) ≠ nullTime := by decide
  rw [hforward, HistoryReadRawDetails.forward, hend, hfrom, ← received_le_epoch_iff]
  simp [hbounded]

/-- **History ranges on the wire, exactly.** A range reaches the backend as it was
sent if and only if it is bounded at both ends by times that the wire carries, for
the values of a node and for its events alike. A read of values that keeps its
range keeps its direction; one without an end keeps it if it starts before 1970
or has no start either. -/
theorem historyRange_survives_iff {details : HistoryReadRawDetails} {raw : Wire.HistoryReadRaw}
    (hraw : HistoryProxy.historyReadRaw details = some raw)
    {query : HistoryReadEventsDetails} {events : Wire.HistoryReadEvents}
    (hevents : HistoryProxy.historyReadEvents query = some events) :
    (∃ reached, HistoryStub.readRawDetails raw = some reached ∧
      (reached.fromTime = details.fromTime ∧ reached.toTime = details.toTime ↔
        (details.fromTime ≠ nullTime ∧ details.fromTime.OnWire) ∧
          details.toTime ≠ nullTime ∧ details.toTime.OnWire) ∧
      (reached.fromTime = details.fromTime ∧ reached.toTime = details.toTime →
        reached.forward = details.forward) ∧
      (details.toTime = nullTime →
        (reached.forward = details.forward ↔
          details.fromTime = nullTime ∨ details.fromTime ≤ 0))) ∧
      ∃ reached, HistoryStub.readEventsDetails events = some reached ∧
        (reached.fromTime = query.fromTime ∧ reached.toTime = query.toTime ↔
          (query.fromTime ≠ nullTime ∧ query.fromTime.OnWire) ∧
            query.toTime ≠ nullTime ∧ query.toTime.OnWire) := by
  obtain ⟨reached, hreached, hfrom, hto⟩ := readRawDetails_received hraw
  obtain ⟨found, hfound, hstart, hend⟩ := readEventsDetails_received hevents
  refine ⟨⟨reached, hreached, ?_, ?_, forward_of_open_end hfrom hto⟩, found, hfound, ?_⟩
  · rw [hfrom, hto, received_eq_self_iff, received_eq_self_iff]
  · rintro ⟨hsameFrom, hsameTo⟩
    rw [HistoryReadRawDetails.forward, HistoryReadRawDetails.forward, hsameFrom, hsameTo]
  · rw [hstart, hend, received_eq_self_iff, received_eq_self_iff]

/-- A read of one hour of 2020, which both ends of the wire understand. -/
theorem historyRange_survives_one_hour :
    let details : HistoryReadRawDetails :=
      { nodeId := { identifier := .numeric 7 }
        fromTime := 1577836800000000
        toTime := 1577840400000000 }
    ∃ raw reached, HistoryProxy.historyReadRaw details = some raw ∧
      HistoryStub.readRawDetails raw = some reached ∧
      reached.fromTime = details.fromTime ∧ reached.toTime = details.toTime := by
  intro details
  have hsent : (HistoryProxy.historyReadRaw details).isSome := by decide
  have hquery : (HistoryProxy.historyReadEvents {}).isSome := by decide
  obtain ⟨raw, hraw⟩ := Option.isSome_iff_exists.mp hsent
  obtain ⟨events, hevents⟩ := Option.isSome_iff_exists.mp hquery
  obtain ⟨⟨reached, hreached, hsame, -⟩, -⟩ := historyRange_survives_iff hraw hevents
  exact ⟨raw, reached, hraw, hreached, hsame.mpr (by decide)⟩

/-- A read of everything since 2020 reaches the backend as one that goes backward
from 2020 to 1970. -/
theorem historyRange_open_end_reversed :
    let details : HistoryReadRawDetails :=
      { nodeId := { identifier := .numeric 7 }, fromTime := 1577836800000000 }
    details.forward = true ∧
      (HistoryProxy.historyReadRaw details).bind HistoryStub.readRawDetails =
        some { details with toTime := 0 } ∧
      ({ details with toTime := 0 } : HistoryReadRawDetails).forward = false := by
  decide

end Remote

end ScadaCore
