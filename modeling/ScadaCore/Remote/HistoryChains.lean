import ScadaCore.Remote.HistoryChunks

/-!
# Remote.HistoryChains — what `node::read_value_history` returns

A `Chain` is a session with one call of `node::read_value_history` that the backend
answers by a list of chunks, each of them linked to the next by a continuation point.
Between the moves of this read the session may do whatever else it likes.
-/

namespace ScadaCore.Remote.HistoryChunks

open Scada Lts.System

/-! ## Chains -/

def Event.moveOf (read : Nat) : Event → Option Move
  | .move i m => if i = read then some m else none
  | _ => none

/-- All chunks but the last have a continuation point. -/
def Linked : List HistoryReadRawResult → Prop
  | [] => False
  | chunk :: chunks => if chunk.continuationPoint = [] then chunks = [] else Linked chunks

variable (chunks : List HistoryReadRawResult)

def moves : List Move :=
  chunks.flatMap fun chunk => [.receive, .call, .answer (.ok chunk), .deliver]

/-- The calls with the parameters `received` that the chunks are the answers to: the
first is made with `point`, the others with the point of the chunk before. -/
def chainCalls (received : HistoryReadRawDetails) (point : ByteString) :
    List HistoryReadRawResult → List HistoryReadRawDetails
  | [] => []
  | chunk :: chunks =>
    { received with continuationPoint := point } ::
      chainCalls received chunk.continuationPoint chunks

/-- Nothing but the read itself makes a process panic. -/
def OthersGoOn (read : Nat) (s : Option Session) (e : Event) : Prop :=
  e.moveOf read = none → s.isSome → (system.step s e).isSome

instance (read : Nat) (s : Option Session) (e : Event) : Decidable (OthersGoOn read s e) :=
  inferInstanceAs (Decidable (_ → _))

/-- A session in which the backend answers a call of `node::read_value_history`,
received with the parameters `received`, by `chunks`. -/
structure Chain where
  before : List Event
  session : Session
  nodeId : NodeId
  details : HistoryReadRawDetails
  request : Wire.HistoryReadRaw
  received : HistoryReadRawDetails
  after : List Event
  chunks : List HistoryReadRawResult
  reached : system.run before = some session
  unset : details.nodeId.isNull = true ∧ details.continuationPoint = []
  sent : HistoryProxy.historyReadRaw { details with nodeId } = some request
  arrives : HistoryStub.readRawDetails request = some received
  linked : Linked chunks
  answered : after.filterMap (Event.moveOf session.reads.length) = moves chunks
  connected : session.stub.isSome = true ∧ .destroy ∉ after
  distinct : system.Meets Distinct (before ++ .readValueHistory nodeId details :: after)
  others : system.Meets (OthersGoOn session.reads.length)
    (before ++ .readValueHistory nodeId details :: after)

namespace Chain

variable (c : Chain)

def read : Nat := c.session.reads.length

def events : List Event := c.before ++ .readValueHistory c.nodeId c.details :: c.after

def Returns (values : List (DataValue Value)) : Prop :=
  ∃ session, system.run c.events = some session ∧
    session.reads[c.read]? = some (.returned (.ok values))

end Chain

/-! ## One chunk -/

def relayed : Option (List (DataValue Value)) :=
  (chunks.flatMap (·.values)).mapM DataValue.relay

theorem relayed_cons (chunk : HistoryReadRawResult) (chunks : List HistoryReadRawResult) :
    relayed (chunk :: chunks) =
      (chunk.values.mapM DataValue.relay).bind fun values =>
        (relayed chunks).map (values ++ ·) := by
  simp only [relayed, List.flatMap_cons, List.mapM_append]
  cases chunk.values.mapM DataValue.relay with
  | none => rfl
  | some values => cases (chunks.flatMap (·.values)).mapM DataValue.relay <;> rfl

theorem relayed_eq_values_iff :
    relayed chunks = some (chunks.flatMap (·.values)) ↔
      ∀ chunk ∈ chunks, ∀ value ∈ chunk.values, DataValue.OnWire value := by
  rw [relayed, mapM_eq_self_iff]
  simp only [DataValue.relay_eq_self_iff, List.mem_flatMap]
  constructor
  · intro h chunk hchunk value hvalue
    exact h value ⟨chunk, hchunk, hvalue⟩
  · rintro h value ⟨chunk, hchunk, hvalue⟩
    exact h chunk hchunk value hvalue

theorem relay_eq_bind (values : List (DataValue Value)) :
    values.mapM DataValue.relay =
      (values.mapM DataValue.convert).bind (List.mapM Wire.DataValue.convert) :=
  (mapM_bind_mapM DataValue.convert Wire.DataValue.convert values).symm

/-- The answer that a read gets: the chunk is encoded, and its point is kept. -/
theorem step_answer (points : ContinuationPoints) (loop : Option Node.ReadValueHistory)
    (details : HistoryReadRawDetails) (chunk : HistoryReadRawResult) :
    (Read.chunk loop (.called details)).step (some points) (.answer (.ok chunk)) =
      (chunk.values.mapM DataValue.convert).map fun values =>
        (some (if chunk.continuationPoint = [] then points
            else points.emplace (chunk.continuationPoint, details)),
          .chunk loop (.answered {
            statusCode := StatusCode.good.convert
            values
            continuationPoint := chunk.continuationPoint })) := by
  simp only [Read.step, HistoryStub.onHistoryReadRawAsync, HistoryStub.historyReadRawResponse]
  cases chunk.values.mapM DataValue.convert <;> rfl

/-- The delivery of such an answer: the loop takes the values, and returns or asks for
the next chunk. -/
theorem step_deliver (stub : Option ContinuationPoints) (loop : Node.ReadValueHistory)
    (values : List Wire.DataValue) (point : ByteString) :
    (Read.chunk (some loop) (.answered {
        statusCode := StatusCode.good.convert, values, continuationPoint := point })).step
        stub .deliver =
      (values.mapM Wire.DataValue.convert).bind fun values =>
        (proceed (some loop) (.ok { values, continuationPoint := point })).map (stub, ·) := by
  have hgood : ¬ (Status.ofCode (StatusCode.good.convert.convert)).bad := by decide
  simp only [Read.step, HistoryProxy.onHistoryReadRawResponse, hgood]
  cases values.mapM Wire.DataValue.convert with
  | none => rfl
  | some values =>
    cases hnext : proceed (some loop) (.ok { values, continuationPoint := point }) <;>
      simp [hnext]

/-- The continuation point of a request is carried as it is, apart from the rest. -/
theorem historyReadRaw_withPoint {details : HistoryReadRawDetails} {request : Wire.HistoryReadRaw}
    (h : HistoryProxy.historyReadRaw details = some request) (point : ByteString) :
    HistoryProxy.historyReadRaw { details with continuationPoint := point } =
      some { request with continuationPoint := point } := by
  simp only [HistoryProxy.historyReadRaw, Option.bind_eq_bind, Option.bind_eq_some_iff] at h ⊢
  obtain ⟨fromTime, hfrom, toTime, hto, aggregateFilter, haggregate, hrequest⟩ := h
  cases hrequest
  exact ⟨fromTime, hfrom, toTime, hto, aggregateFilter, haggregate, rfl⟩

@[inherit_doc historyReadRaw_withPoint]
theorem readRawDetails_withPoint {request : Wire.HistoryReadRaw} {received : HistoryReadRawDetails}
    (h : HistoryStub.readRawDetails request = some received) (point : ByteString) :
    HistoryStub.readRawDetails { request with continuationPoint := point } =
        some { received with continuationPoint := point } ∧
      received.releaseContinuationPoint = request.releaseContinuationPoint := by
  simp only [HistoryStub.readRawDetails, Option.bind_eq_bind, Option.bind_eq_some_iff] at h ⊢
  obtain ⟨fromTime, hfrom, toTime, hto, aggregation, haggregation, hreceived⟩ := h
  cases hreceived
  exact ⟨⟨fromTime, hfrom, toTime, hto, aggregation, haggregation, rfl⟩, rfl⟩

/-! ## What the session does to its reads -/

variable {e : Event} {read : Nat} {s : Session}

theorem eq_move_of_moveOf {move : Move} (h : e.moveOf read = some move) : e = .move read move := by
  cases e with
  | move i m =>
    simp only [Event.moveOf, Option.ite_none_right_eq_some] at h
    obtain ⟨rfl, hmove⟩ := h
    cases hmove
    rfl
  | _ => cases h

theorem ne_of_moveOf_eq_none {i : Nat} {move : Move} (h : (Event.move i move).moveOf read = none) :
    i ≠ read := by
  rintro rfl
  simp [Event.moveOf] at h

theorem Session.read_of_step {s' : Session} {i : Nat} {read : Read} (h : s.step e = some s')
    (hother : e.moveOf i = none) (hread : s.reads[i]? = some read) : s'.reads[i]? = some read := by
  have hlt : i < s.reads.length := (List.getElem?_eq_some_iff.mp hread).1
  cases Session.change_of_step h with
  | readValueHistory new | historyReadRaw new => rw [List.getElem?_append_left hlt, hread]
  | moved => rw [List.getElem?_set_ne (ne_of_moveOf_eq_none hother), hread]
  | _ => exact hread

theorem Session.length_reads_le {s' : Session} (h : s.step e = some s') :
    s.reads.length ≤ s'.reads.length := by
  cases Session.change_of_step h <;> simp

theorem calls_eq_nil {es : List Event} (hs : system.run es = some s)
    (hread : s.reads.length ≤ read) : system.collect (calls read) es = [] := by
  induction es using List.reverseRecOn generalizing s with
  | nil => rfl
  | append_singleton es e ih =>
    obtain ⟨s₀, hs₀, hstep⟩ := step_of_run_concat hs
    have hread₀ : s₀.reads.length ≤ read := (Session.length_reads_le hstep).trans hread
    rw [collect_concat, ih hs₀ hread₀, hs₀, List.nil_append]
    cases e with
    | move i move =>
      simp only [calls]
      split
      · rename_i hi
        rw [hi, List.getElem?_eq_none hread₀]
        rfl
      · rfl
    | _ => rfl

theorem calls_eq_nil_of_other (h : e.moveOf read = none) : calls read (some s) e = [] := by
  cases e with
  | move i move => simp [calls, ne_of_moveOf_eq_none h]
  | _ => rfl

namespace Chain

variable (c : Chain)

/-! ## Progress of the read -/

variable (point : ByteString)

def loop (values : List (DataValue Value)) : Node.ReadValueHistory where
  nodeId := c.nodeId
  nextDetails := { c.details with continuationPoint := point }
  values := values

def requestAt : Wire.HistoryReadRaw :=
  { c.request with continuationPoint := point }

def callAt : HistoryReadRawDetails :=
  { c.received with continuationPoint := point }

/-- If the stub knows the point, then with the parameters of the chain. -/
def Resumes (points : ContinuationPoints) (point : ByteString) : Prop :=
  point ≠ [] → ∀ details, points.lookup point = some details →
    { details with
      releaseContinuationPoint := c.received.releaseContinuationPoint
      continuationPoint := point } = c.callAt point

/-- The loop has the values of the chunks before `chunks`. -/
def Holds (values : List (DataValue Value)) (chunks : List HistoryReadRawResult) : Prop :=
  relayed c.chunks = (relayed chunks).map (values ++ ·)

/-- Where the read is when it still has the moves `todo` to make, and the calls
`out` to cause. -/
inductive Progress (points : ContinuationPoints) :
    (todo : List Move) → (out : List HistoryReadRawDetails) → Read → Prop where
  | sent {point values chunk chunks} (hlinked : Linked (chunk :: chunks))
      (hholds : c.Holds values (chunk :: chunks)) (hresumes : c.Resumes points point) :
      Progress points (.receive :: .call :: .answer (.ok chunk) :: .deliver :: moves chunks)
        (chainCalls c.received point (chunk :: chunks))
        (.chunk (some (c.loop point values)) (.sent (c.requestAt point)))
  | spawned {point values chunk chunks} (hlinked : Linked (chunk :: chunks))
      (hholds : c.Holds values (chunk :: chunks)) :
      Progress points (.call :: .answer (.ok chunk) :: .deliver :: moves chunks)
        (chainCalls c.received point (chunk :: chunks))
        (.chunk (some (c.loop point values)) (.spawned (c.callAt point)))
  | called {point values chunk chunks} (hlinked : Linked (chunk :: chunks))
      (hholds : c.Holds values (chunk :: chunks)) :
      Progress points (.answer (.ok chunk) :: .deliver :: moves chunks)
        (chainCalls c.received chunk.continuationPoint chunks)
        (.chunk (some (c.loop point values)) (.called (c.callAt point)))
  | answered {point values chunk chunks wires} (hlinked : Linked (chunk :: chunks))
      (hholds : c.Holds values (chunk :: chunks))
      (hwires : chunk.values.mapM DataValue.convert = some wires)
      (hresumes : c.Resumes points chunk.continuationPoint) :
      Progress points (.deliver :: moves chunks)
        (chainCalls c.received chunk.continuationPoint chunks)
        (.chunk (some (c.loop point values)) (.answered {
          statusCode := StatusCode.good.convert
          values := wires
          continuationPoint := chunk.continuationPoint }))
  | returned {values} (hvalues : relayed c.chunks = some values) :
      Progress points [] [] (.returned (.ok values))

variable {c} {points : ContinuationPoints} {todo : List Move}
    {out : List HistoryReadRawDetails} {values : List (DataValue Value)} {point' : ByteString}
    {s : Option Session}

/-- The stub may lose points, and learn others than the one that the read is to
present. -/
theorem Progress.mono {points' : ContinuationPoints} {read : Read}
    (h : c.Progress points todo out read) (hpoints : ∀ point, read.pending = some point → ∀ details,
      points'.lookup point = some details → points.lookup point = some details) :
    c.Progress points' todo out read := by
  cases h with
  | sent hlinked hholds hresumes =>
    exact .sent hlinked hholds fun hpoint details hlookup =>
      hresumes hpoint details (hpoints _ rfl details hlookup)
  | spawned hlinked hholds => exact .spawned hlinked hholds
  | called hlinked hholds => exact .called hlinked hholds
  | answered hlinked hholds hwires hresumes =>
    exact .answered hlinked hholds hwires fun hpoint details hlookup =>
      hresumes hpoint details (hpoints _ rfl details hlookup)
  | returned hvalues => exact .returned hvalues

/-! ## The moves of the read -/

theorem Holds.next {got : List (DataValue Value)} {chunk : HistoryReadRawResult}
    {chunks : List HistoryReadRawResult} (h : c.Holds values (chunk :: chunks))
    (hgot : chunk.values.mapM DataValue.relay = some got) : c.Holds (values ++ got) chunks := by
  rw [Holds, h, relayed_cons, hgot]
  cases relayed chunks <;> simp

theorem Holds.panic {chunk : HistoryReadRawResult} {chunks : List HistoryReadRawResult}
    (h : c.Holds values (chunk :: chunks)) (hgot : chunk.values.mapM DataValue.relay = none) :
    relayed c.chunks = none := by
  rw [h, relayed_cons, hgot]
  rfl

/-- The stub makes of the request the call that is to come of it, whether it goes by
the point or by the parameters that are sent once more. -/
theorem onHistoryReadRaw_requestAt {point : ByteString} (h : c.Resumes points point) :
    ∃ points', HistoryStub.onHistoryReadRaw points (c.requestAt point) =
      some (points', c.callAt point) := by
  obtain ⟨hparams, hrelease⟩ := readRawDetails_withPoint c.arrives point
  by_cases hpoint : point = []
  · refine ⟨points, ?_⟩
    simp [HistoryStub.onHistoryReadRaw, requestAt, hpoint, callAt, hpoint ▸ hparams]
  · cases hfound : points.lookup point with
    | some details =>
      refine ⟨points.erase point, ?_⟩
      rw [onHistoryReadRaw_of_found hpoint hfound, ← h hpoint details hfound, hrelease]
      rfl
    | none =>
      refine ⟨points, ?_⟩
      simp [HistoryStub.onHistoryReadRaw, requestAt, hpoint, hfound, callAt, hparams]

/-- A point that has just been returned is known with the parameters of the chain. -/
theorem resumes_emplace (hfresh : point' ∉ points) :
    c.Resumes (points.emplace (point', c.callAt point)) point' := by
  intro _ details hlookup
  have hnone : points.lookup point' = none := AList.lookup_eq_none.mpr hfresh
  rw [Table.lookup_emplace_self points (point', c.callAt point), hnone] at hlookup
  cases hlookup
  rfl

theorem historyReadRaw_loop (values : List (DataValue Value)) :
    HistoryProxy.historyReadRaw (c.loop point values).sanitizedDetails =
      some (c.requestAt point) :=
  historyReadRaw_withPoint c.sent point

theorem proceed_last (values got : List (DataValue Value))
    (hpoint : point' = []) :
    proceed (some (c.loop point values)) (.ok { values := got, continuationPoint := point' }) =
      some (.returned (.ok (values ++ got))) := by
  simp [proceed, Node.ReadValueHistory.onChunk, hpoint, loop]

theorem proceed_next (values got : List (DataValue Value))
    (hpoint : point' ≠ []) :
    proceed (some (c.loop point values)) (.ok { values := got, continuationPoint := point' }) =
      some (.chunk (some (c.loop point' (values ++ got))) (.sent (c.requestAt point'))) := by
  have hround : (c.loop point values).onChunk
      (.ok { values := got, continuationPoint := point' }) =
        .inl (c.loop point' (values ++ got)) := by
    simp [Node.ReadValueHistory.onChunk, hpoint, loop]
  simp only [proceed, hround, c.historyReadRaw_loop point' (values ++ got)]
  rfl

/-- A move of the read: it makes progress, or a process panics over a value. -/
theorem Progress.step {move : Move} {read : Read} (h : c.Progress points (move :: todo) out read)
    (hfresh : ∀ point details, read.entry move = some (.put point details) → point ∉ points) :
    ∃ rest, out = (read.call move).toList ++ rest ∧
      (read.step (some points) move = none ∧ relayed c.chunks = none ∨
        ∃ points' read', read.step (some points) move = some (some points', read') ∧
          c.Progress points' todo rest read') := by
  cases h with
  | sent hlinked hholds hresumes =>
    -- the stub goes by the point, or by the parameters that the request repeats
    obtain ⟨points', hreceive⟩ := c.onHistoryReadRaw_requestAt hresumes
    refine ⟨_, rfl, Or.inr ⟨points', _, ?_, .spawned hlinked hholds⟩⟩
    simp [Read.step, hreceive]
  | spawned hlinked hholds =>
    exact ⟨_, rfl, Or.inr ⟨points, _, rfl, .called hlinked hholds⟩⟩
  | @called point values chunk chunks hlinked hholds =>
    -- encoding the chunk may panic; if it does not, the point is kept for this chain
    refine ⟨_, rfl, ?_⟩
    rw [step_answer]
    cases hwires : chunk.values.mapM DataValue.convert with
    | none =>
      refine Or.inl ⟨rfl, hholds.panic ?_⟩
      rw [relay_eq_bind, hwires]
      rfl
    | some wires =>
      refine Or.inr ⟨_, _, rfl, .answered hlinked hholds hwires ?_⟩
      intro hpoint
      rw [if_neg hpoint]
      have hput : (Read.chunk (some (c.loop point values)) (.called (c.callAt point))).entry
          (.answer (.ok chunk)) = some (.put chunk.continuationPoint (c.callAt point)) := by
        simp [Read.entry, hpoint]
      exact c.resumes_emplace point (hfresh _ _ hput) hpoint
  | @answered point values chunk chunks wires hlinked hholds hwires hresumes =>
    have hrelay : chunk.values.mapM DataValue.relay = wires.mapM Wire.DataValue.convert := by
      rw [relay_eq_bind, hwires]
      rfl
    -- decoding the chunk may panic; if it does not, its values go to the loop
    refine ⟨_, rfl, ?_⟩
    rw [step_deliver]
    cases hgot : wires.mapM Wire.DataValue.convert with
    | none => exact Or.inl ⟨rfl, hholds.panic (hrelay.trans hgot)⟩
    | some got =>
      have hnext := hholds.next (hrelay.trans hgot)
      right
      rw [Option.bind_some]
      by_cases hpoint : chunk.continuationPoint = []
      · -- the last chunk
        have hlast : chunks = [] := by simpa [Linked, hpoint] using hlinked
        subst hlast
        rw [c.proceed_last point values got hpoint]
        refine ⟨points, _, rfl, .returned ?_⟩
        rw [hnext]
        simp [relayed]
      · have hrest : Linked chunks := by simpa [Linked, hpoint] using hlinked
        rw [c.proceed_next point values got hpoint]
        cases chunks with
        | nil => exact hrest.elim
        | cons next chunks => exact ⟨points, _, rfl, .sent hrest hnext hresumes⟩

/-! ## The rest of the session -/

/-- The read has the moves `todo` to make and the calls `out` to cause, or a value of
its chunks has made a process panic. -/
def At (todo : List Move) (out : List HistoryReadRawDetails) : Option Session → Prop
  | none => relayed c.chunks = none
  | some session => ∃ points read, session.stub = some points ∧
      session.reads[c.read]? = some read ∧ c.Progress points todo out read

theorem at_own {e : Event} {move : Move} (hmove : e.moveOf c.read = some move)
    (hdistinct : Distinct s e) (h : c.At (move :: todo) out s) :
    ∃ rest, out = calls c.read s e ++ rest ∧ c.At todo rest (system.step s e) := by
  cases s with
  | none => exact ⟨out, rfl, h⟩
  | some session =>
    obtain ⟨points, read, hpoints, hread, hprogress⟩ := h
    cases eq_move_of_moveOf hmove
    have hlt : c.read < session.reads.length := (List.getElem?_eq_some_iff.mp hread).1
    have hentry : session.entry (.move c.read move) = read.entry move := by
      simp [Session.entry, hread]
    have hcalls : calls c.read (some session) (.move c.read move) = (read.call move).toList := by
      simp [calls, hread]
    obtain ⟨rest, rfl, hnext⟩ := hprogress.step fun point details hput =>
      not_mem_points_of_distinct hdistinct (hentry.trans hput) hpoints
    refine ⟨rest, by rw [hcalls], ?_⟩
    rcases hnext with ⟨hpanic, hnone⟩ | ⟨points', read', hstep, hnext⟩
    · have hstop : system.step (some session) (.move c.read move) = none := by
        simp [system, Session.step, hread, hpoints, hpanic]
      rw [hstop]
      exact hnone
    · have hgo : system.step (some session) (.move c.read move) =
          some ⟨some points', session.reads.set c.read read'⟩ := by
        simp [system, Session.step, hread, hpoints, hstep]
      rw [hgo]
      exact ⟨points', read', rfl, by simp [hlt], hnext⟩

/-- What a session does besides the read. A point that someone else is given is not
the one that the read is to present. -/
theorem at_other {e : Event} (hmove : e.moveOf c.read = none) (hdistinct : Distinct s e)
    (hgoesOn : OthersGoOn c.read s e) (hconnected : e ≠ .destroy) (h : c.At todo out s) :
    calls c.read s e = [] ∧ c.At todo out (system.step s e) := by
  cases s with
  | none => exact ⟨rfl, h⟩
  | some session =>
    obtain ⟨points, read, hpoints, hread, hprogress⟩ := h
    refine ⟨calls_eq_nil_of_other hmove, ?_⟩
    obtain ⟨session', hstep⟩ := Option.isSome_iff_exists.mp (hgoesOn hmove rfl)
    have hstub := Session.stub_of_step hstep hconnected
    rw [hpoints] at hstub
    rw [hstep]
    refine ⟨_, read, hstub, Session.read_of_step hstep hmove hread, hprogress.mono ?_⟩
    -- of the points only one that is put now could stand in the way
    intro point hpending details hlookup
    refine (Ledger.lookup_posted hlookup).resolve_right fun hput => ?_
    have hnew : session.Distinct (session.entry e) := hdistinct
    rw [hput] at hnew
    refine hnew (List.mem_append_right _ (List.mem_filterMap.mpr ⟨read, ?_, hpending⟩))
    exact List.mem_of_getElem? hread

/-! ## The whole read -/

theorem at_start :
    ∃ session', c.session.step (.readValueHistory c.nodeId c.details) = some session' ∧
      c.At (moves c.chunks) (chainCalls c.received [] c.chunks) (some session') := by
  obtain ⟨points, hpoints⟩ := Option.isSome_iff_exists.mp c.connected.1
  obtain ⟨hnodeId, hpoint⟩ := c.unset
  have hfirst : c.loop [] [] = { nodeId := c.nodeId, nextDetails := c.details } := by
    rw [loop, ← hpoint]
  have hloop : Node.readValueHistory c.nodeId c.details = some (c.loop [] []) := by
    simp [Node.readValueHistory, hnodeId, hpoint, hfirst]
  have hstep : c.session.step (.readValueHistory c.nodeId c.details) =
      some { c.session with
        reads := c.session.reads ++ [.chunk (some (c.loop [] [])) (.sent (c.requestAt []))] } := by
    simp [Session.step, hloop, Session.send, c.historyReadRaw_loop]
  refine ⟨_, hstep, points, .chunk (some (c.loop [] [])) (.sent (c.requestAt [])), hpoints,
    by simp [read], ?_⟩
  have hlinked := c.linked
  cases hchunks : c.chunks with
  | nil =>
    rw [hchunks] at hlinked
    exact hlinked.elim
  | cons chunk chunks =>
    rw [hchunks] at hlinked
    refine .sent hlinked ?_ fun hno => absurd rfl hno
    rw [Holds, hchunks]
    simp

/-- The conditions on the rest of the session, event by event. -/
theorem meetsFrom_after
    (hs : system.step (some c.session) (.readValueHistory c.nodeId c.details) = s) :
    system.MeetsFrom (fun s e => Distinct s e ∧ OthersGoOn c.read s e ∧ e ≠ .destroy) s
      c.after := by
  rw [meetsFrom_iff]
  intro pre e hpre
  have hrun : system.run (c.before ++ .readValueHistory c.nodeId c.details :: pre) =
      system.runFrom s pre := by
    rw [run_append, c.reached, runFrom_cons, hs]
  have hprefix : (c.before ++ .readValueHistory c.nodeId c.details :: pre) ++ [e] <+:
      c.before ++ .readValueHistory c.nodeId c.details :: c.after := by
    simpa using hpre
  refine ⟨hrun ▸ c.distinct _ e hprefix, hrun ▸ c.others _ e hprefix, ?_⟩
  rintro rfl
  exact c.connected.2 (hpre.subset (by simp))

theorem ends : ∃ rest,
    chainCalls c.received [] c.chunks = system.collect (calls c.read) c.events ++ rest ∧
      c.At [] rest (system.run c.events) := by
  obtain ⟨session', hstep, hstart⟩ := c.at_start
  have hnext : system.step (some c.session) (.readValueHistory c.nodeId c.details) =
      some session' := hstep
  rw [← c.answered] at hstart
  obtain ⟨rest, hout, hend⟩ := system.collectFrom_interleaved (calls c.read)
    (Event.moveOf c.read) c.At _
    (fun s e move todo out hmove hc h => c.at_own hmove hc.1 h)
    (fun s e todo out hmove hc h => c.at_other hmove hc.1 hc.2.1 hc.2.2 h)
    (c.meetsFrom_after hnext) hstart
  have hbefore : system.collect (calls c.read) c.before = [] := calls_eq_nil c.reached le_rfl
  have hcalls : system.collect (calls c.read) c.events =
      system.collectFrom (calls c.read) (some session') c.after := by
    rw [events, collect_append, hbefore, c.reached, collectFrom, hnext]
    rfl
  have hrun : system.run c.events = system.runFrom (some session') c.after := by
    rw [events, run_append, c.reached, runFrom_cons, hnext]
  exact ⟨rest, hcalls ▸ hout, hrun ▸ hend⟩

/-- The call returns what the wire leaves of the values, if it leaves anything. -/
theorem returns_iff (values : List (DataValue Value)) :
    c.Returns values ↔ relayed c.chunks = some values := by
  obtain ⟨rest, -, hend⟩ := c.ends
  cases hrun : system.run c.events with
  | none =>
    rw [hrun] at hend
    have hnone : relayed c.chunks = none := hend
    refine iff_of_false ?_ (by simp [hnone])
    rintro ⟨session, hsession, -⟩
    cases hrun.symm.trans hsession
  | some session =>
    rw [hrun] at hend
    obtain ⟨points, read, -, hread, hprogress⟩ := hend
    generalize htodo : ([] : List Move) = todo at hprogress
    cases hprogress with
    | returned hvalues =>
      rw [hvalues, Option.some.injEq]
      constructor
      · rintro ⟨session', hsession', hreturned⟩
        cases hrun.symm.trans hsession'
        cases hread.symm.trans hreturned
        rfl
      · rintro rfl
        exact ⟨session, hrun, hread⟩
    | _ => cases htodo

theorem calls_eq_of_returns (h : c.Returns values) :
    system.collect (calls c.read) c.events = chainCalls c.received [] c.chunks := by
  obtain ⟨rest, hcalls, hend⟩ := c.ends
  obtain ⟨session, hsession, hreturned⟩ := h
  rw [hsession] at hend
  obtain ⟨points, read, -, hread, hprogress⟩ := hend
  cases hread.symm.trans hreturned
  generalize htodo : ([] : List Move) = todo at hprogress
  cases hprogress
  rw [hcalls, List.append_nil]

end Chain

/-- **History chunk by chunk, exactly.** Whatever else the session does, the backend
is called for the chunks with the parameters of the first call, each time with the
point of the chunk before; if the call returns, all these calls have been made. It
returns the values of the chunks, in order, if and only if the wire carries each of
them. In any session, a request that presents a point which has been returned and not
presented since continues the call that the point was returned for, and the points
that were not presented are released, once each, with the stub. -/
theorem historyChunks_faithful_iff (c : Chain) (es : List Event) :
    system.collect (calls c.read) c.events <+: chainCalls c.received [] c.chunks ∧
      (∀ values, c.Returns values →
        system.collect (calls c.read) c.events = chainCalls c.received [] c.chunks) ∧
      (c.Returns (c.chunks.flatMap (·.values)) ↔
        ∀ chunk ∈ c.chunks, ∀ value ∈ chunk.values, DataValue.OnWire value) ∧
      (system.Meets Distinct es → FollowsUp es ∧ ReleasesOnce es) := by
  refine ⟨?_, fun values => c.calls_eq_of_returns, ?_, fun hes => ?_⟩
  · obtain ⟨rest, hcalls, -⟩ := c.ends
    exact ⟨rest, hcalls.symm⟩
  · rw [c.returns_iff, relayed_eq_values_iff]
  · exact ⟨followsUp_of_distinct hes, releasesOnce_of_distinct hes⟩

/-! ## A text with a locale -/

def numberChunk : HistoryReadRawResult where
  values := [{ value := some (.scalar (.int32 1)) }]
  continuationPoint := [7]

def textChunk : HistoryReadRawResult where
  values := [{ value := some (.scalar (.localizedText { locale := "en", text := ['o', 'n'] })) }]

/-- The two chunks are read while someone else starts a read of their own. -/
def textChain : Chain where
  before := []
  session := {}
  nodeId := { identifier := .numeric 7 }
  details := { fromTime := 1577836800000000, toTime := 1577840400000000 }
  request := {
    nodeId := (⟨.numeric 7, 0⟩ : NodeId).convert
    fromTime := 13222310400000000
    toTime := 13222314000000000 }
  received := {
    nodeId := { identifier := .numeric 7 }
    fromTime := 1577836800000000
    toTime := 1577840400000000 }
  after :=
    [.move 0 .receive, .move 0 .call, .move 0 (.answer (.ok numberChunk)),
      .historyReadRaw { nodeId := { identifier := .numeric 8 } }, .move 1 .receive,
      .move 0 .deliver, .move 0 .receive, .move 0 .call, .move 0 (.answer (.ok textChunk)),
      .move 0 .deliver]
  chunks := [numberChunk, textChunk]
  reached := rfl
  unset := by decide
  sent := by decide
  arrives := by decide
  linked := by simp [Linked, numberChunk, textChunk]
  answered := rfl
  connected := by simp
  distinct := by
    rw [Lts.System.meets_iff_meetsFrom]
    decide
  others := by
    rw [Lts.System.meets_iff_meetsFrom]
    decide

/-- The caller gets the text without its locale. -/
theorem textChain_returns :
    textChain.Returns
      [{ value := some (.scalar (.int32 1)) },
        { value := some (.scalar (.localizedText { text := ['o', 'n'] })) }] :=
  ⟨_, rfl, rfl⟩

theorem textChain_not_faithful : ¬ textChain.Returns (textChain.chunks.flatMap (·.values)) := by
  rintro ⟨session, hsession, hreturned⟩
  obtain ⟨session', hsession', hreturned'⟩ := textChain_returns
  cases hsession.symm.trans hsession'
  have hsame := hreturned.symm.trans hreturned'
  simp [textChain, numberChunk, textChunk] at hsame

/-- The same session with another number in place of the text. -/
def numberChain : Chain :=
  { textChain with
    chunks := [numberChunk, { numberChunk with continuationPoint := [] }]
    after :=
      [.move 0 .receive, .move 0 .call, .move 0 (.answer (.ok numberChunk)),
        .historyReadRaw { nodeId := { identifier := .numeric 8 } }, .move 1 .receive,
        .move 0 .deliver, .move 0 .receive, .move 0 .call,
        .move 0 (.answer (.ok { numberChunk with continuationPoint := [] })), .move 0 .deliver]
    linked := by simp [Linked, numberChunk]
    answered := rfl
    connected := by simp [textChain]
    distinct := by
      rw [Lts.System.meets_iff_meetsFrom]
      decide
    others := by
      rw [Lts.System.meets_iff_meetsFrom]
      decide }

theorem numberChain_faithful : numberChain.Returns (numberChain.chunks.flatMap (·.values)) := by
  refine (historyChunks_faithful_iff numberChain []).2.2.1.mpr ?_
  have hnumber : DataValue.OnWire { value := some (.scalar (.int32 1)) } :=
    ⟨by decide, by decide, trivial⟩
  simpa [numberChain, numberChunk] using hnumber

end ScadaCore.Remote.HistoryChunks
