import ScadaCore.Remote.Answers
import ScadaCore.Remote.SessionProxy

/-!
# Remote.RoundTrip — service calls of the client, served by a session stub

A client call becomes a request (`encode`), the request travels to the session
stub, the stub answers it, possibly after a service call, and the response
completes the handler of the call. The client, the server and the two queues
between them are one event system; the connection never drops. The state is `none`
when one of the two programs has ended, because of data that the wire cannot carry.

A batch that travels as a repeated field has no presence bit. An empty one
encodes to a request in which no operation is present, the stub sees nothing to
do, and the call is the only thing left waiting for it.
-/

namespace ScadaCore.Remote

open Scada SessionStub

/-- The proxies read the result of a response without a panic. -/
def Result.isReadable : Result → Bool
  | .read values | .historyReadRaw values _ => (values.mapM Wire.DataValue.convert).isSome
  | .callOutputArgument values => (values.mapM Wire.Variant.convert).isSome
  | .historyReadEvents events => (events.mapM Wire.Event.convert).isSome
  | _ => true

theorem Method.isReadable_result {method : Method} {outcome : StatusOr method.Results}
    {result : Result} (h : method.result outcome = some result) : result.isReadable = true := by
  cases method <;> cases outcome <;>
    simp only [Method.result, StatusOr.valueOr, Option.bind_eq_bind, Option.bind_eq_some_iff,
      Option.pure_def, Option.some.injEq] at h <;>
    first
      | (subst h; rfl)
      | obtain ⟨wires, hwires, rfl⟩ := h
  all_goals first
    | exact mapM_isSome_of_mapM hwires fun _ _ => DataValue.readable_convert
    | exact mapM_isSome_of_mapM hwires fun _ _ => Variant.readable_convert
    | exact mapM_isSome_of_mapM hwires fun _ _ => Event.readable_convert
    | rfl

namespace Call

/-- The request a proxy sends for a call. `Read` and `Browse` set their message
even for an empty list of inputs; the other batches are plain repeated fields. -/
def encode (requestId : Nat) : Call → Option Request
  | .read inputs => some { requestId, read := some (inputs.map ReadValueId.convert) }
  | .write inputs => do return { requestId, write := ← inputs.mapM WriteValue.convert }
  | .call parameters => do return { requestId, call := some (some (← parameters.convert)) }
  | .browse inputs => some { requestId, browse := some (inputs.map BrowseDescription.convert) }
  | .translateBrowsePaths inputs =>
    some { requestId, browsePath := inputs.map BrowsePath.convert }
  | .addNodes inputs => do return { requestId, addNode := ← inputs.mapM AddNodesItem.convert }
  | .deleteNodes inputs => some { requestId, deleteNode := inputs.map DeleteNodesItem.convert }
  | .addReferences inputs =>
    some { requestId, addReference := inputs.map AddReferencesItem.convert }
  | .deleteReferences inputs =>
    some { requestId, deleteReference := inputs.map DeleteReferencesItem.convert }
  | .historyReadRaw details => do
    return { requestId, historyReadRaw := some (← HistoryProxy.historyReadRaw details) }
  | .historyReadEvents details => do
    return { requestId, historyReadEvents := some (← HistoryProxy.historyReadEvents details) }

def Encodable : Call → Prop
  | .write inputs => ∀ input ∈ inputs, input.value.Encodable
  | .call parameters => ∀ argument ∈ parameters.arguments, argument.Encodable
  | .addNodes inputs =>
    ∀ input ∈ inputs, ∀ value, input.attributes.value = some value → value.Encodable
  | .historyReadRaw details =>
    details.fromTime.Encodable ∧ details.toTime.Encodable ∧
      (details.aggregation.isNull = true ∨ details.aggregation.startTime.Encodable)
  | .historyReadEvents details => details.fromTime.Encodable ∧ details.toTime.Encodable
  | .read _ | .browse _ | .translateBrowsePaths _ | .deleteNodes _ | .addReferences _
  | .deleteReferences _ => True

/-- The call is not an empty batch of one of the six calls that travel as a
repeated field. -/
def isPresent : Call → Bool
  | .write inputs => !inputs.isEmpty
  | .translateBrowsePaths inputs => !inputs.isEmpty
  | .addNodes inputs => !inputs.isEmpty
  | .deleteNodes inputs => !inputs.isEmpty
  | .addReferences inputs => !inputs.isEmpty
  | .deleteReferences inputs => !inputs.isEmpty
  | .read _ | .call _ | .browse _ | .historyReadRaw _ | .historyReadEvents _ => true

theorem encode_isSome_iff (requestId : Nat) (c : Call) :
    (c.encode requestId).isSome ↔ c.Encodable := by
  cases c with
  | historyReadRaw details =>
    simp only [encode, Encodable, Option.bind_eq_bind, Option.pure_def, isSome_bind_some,
      HistoryProxy.historyReadRaw, ← AggregateFilter.field_isSome_iff]
    rw [← Time.field_isSome_iff, ← Time.field_isSome_iff]
    cases details.fromTime.field <;> cases details.toTime.field <;> simp
  | historyReadEvents details =>
    simp only [encode, Encodable, Option.bind_eq_bind, Option.pure_def, isSome_bind_some,
      HistoryProxy.historyReadEvents, ← Time.field_isSome_iff]
    cases details.fromTime.field <;> cases details.toTime.field <;> simp
  | _ =>
    simp [encode, Encodable, mapM_isSome_iff, WriteValue.convert_isSome_iff,
      CallParameters.convert_isSome_iff, AddNodesItem.convert_isSome_iff]

/-- What a session stub with all its services makes of a call: nothing, if the call is
not present, and otherwise a coroutine for its method, or a refusal to delete one's own
user. -/
inductive Serves (c : Call) (requestId : Nat) : List Output → Prop
  | absent (hpresent : c.isPresent = false) : Serves c requestId []
  | started (hpresent : c.isPresent = true) (call : Call) (hmethod : call.method = c.method) :
    Serves c requestId [.spawn { requestId, call }]
  | refused (hpresent : c.isPresent = true) (hmethod : c.method = .deleteNodes)
    (code : StatusCode) : Serves c requestId [respondStatus requestId code]

section

attribute [local simp] processRequest onPing onRead onWrite onCall processSubscriptions
  viewServiceStub nodeManagementStub historyStub onHistoryReadRaw onHistoryReadEvents withService
  spawnIf

theorem processRequest_encode {C : Type} (stub : SessionStub C) (hall : stub.services = {})
    {requestId : Nat} {c : Call} {request : Request} (h : c.encode requestId = some request)
    (created : Bool) :
    ∃ stub' outputs, stub.processRequest request created = some (stub', outputs) ∧
      c.Serves requestId outputs := by
  cases c with
  | read inputs =>
    cases h
    let read := (inputs.map ReadValueId.convert).map Wire.ReadValueId.convert
    exact ⟨_, _, by simp [hall, read]; rfl, .started rfl (.read read) rfl⟩
  | browse inputs =>
    cases h
    let read := (inputs.map BrowseDescription.convert).map Wire.BrowseDescription.convert
    exact ⟨_, _, by simp [hall, read]; rfl, .started rfl (.browse read) rfl⟩
  | write inputs =>
    obtain ⟨wires, hwires, hrequest⟩ := Option.bind_eq_some_iff.mp h
    cases hrequest
    obtain ⟨read, hread⟩ := Option.isSome_iff_exists.mp
      (mapM_isSome_of_mapM hwires fun _ _ => WriteValue.readable_convert)
    rcases inputs with _ | ⟨input, inputs⟩
    · cases hwires
      exact ⟨_, [], by simp; rfl, .absent rfl⟩
    · have hne := ne_nil_of_mapM hwires
      exact ⟨_, _, by simp [hall, hread, hne]; rfl, .started rfl (.write read) rfl⟩
  | call parameters =>
    obtain ⟨wire, hwire, hrequest⟩ := Option.bind_eq_some_iff.mp h
    cases hrequest
    obtain ⟨read, hread⟩ := Option.isSome_iff_exists.mp (CallParameters.readable_convert hwire)
    exact ⟨_, _, by simp [hall, hread]; rfl, .started rfl (.call read) rfl⟩
  | addNodes inputs =>
    obtain ⟨wires, hwires, hrequest⟩ := Option.bind_eq_some_iff.mp h
    cases hrequest
    obtain ⟨read, hread⟩ := Option.isSome_iff_exists.mp
      (mapM_isSome_of_mapM hwires fun _ _ => AddNodesItem.readable_convert)
    rcases inputs with _ | ⟨input, inputs⟩
    · cases hwires
      exact ⟨_, [], by simp; rfl, .absent rfl⟩
    · have hne := ne_nil_of_mapM hwires
      exact ⟨_, _, by simp [hall, hread, hne]; rfl, .started rfl (.addNodes read) rfl⟩
  | historyReadRaw details =>
    obtain ⟨wire, hwire, hrequest⟩ := Option.bind_eq_some_iff.mp h
    cases hrequest
    obtain ⟨reached, hreached, -⟩ := readRawDetails_received hwire
    -- a read that continues another takes its parameters from there
    have hsome : (HistoryStub.onHistoryReadRaw stub.continuationPoints wire).isSome := by
      rw [onHistoryReadRaw_isSome_iff, ← HistoryStub.readRawDetails_isSome_iff,
        hreached]
      exact Or.inr rfl
    obtain ⟨read, hread⟩ := Option.isSome_iff_exists.mp hsome
    exact ⟨_, _, by simp [hall, hread]; rfl, .started rfl (.historyReadRaw read.2) rfl⟩
  | historyReadEvents details =>
    obtain ⟨wire, hwire, hrequest⟩ := Option.bind_eq_some_iff.mp h
    cases hrequest
    obtain ⟨read, hread, -⟩ := readEventsDetails_received hwire
    exact ⟨_, _, by simp [hall, hread]; rfl, .started rfl (.historyReadEvents read) rfl⟩
  | deleteNodes inputs =>
    cases h
    rcases inputs with _ | ⟨input, inputs⟩
    · exact ⟨_, [], by simp; rfl, .absent rfl⟩
    · refine ⟨_, onDeleteNodes stub.userId requestId _, by simp [hall]; exact ⟨rfl, rfl⟩, ?_⟩
      unfold onDeleteNodes
      split
      · exact .refused rfl rfl _
      · exact .started rfl (.deleteNodes _) rfl
  | translateBrowsePaths inputs | addReferences inputs | deleteReferences inputs =>
    cases h
    rcases inputs with _ | ⟨input, inputs⟩
    · exact ⟨_, [], by simp; rfl, .absent rfl⟩
    · refine ⟨_, _, by simp [hall]; exact ⟨rfl, rfl⟩, ?_⟩
      first
        | exact .started rfl (.translateBrowsePaths _) rfl
        | exact .started rfl (.addReferences _) rfl
        | exact .started rfl (.deleteReferences _) rfl

end

end Call

/-! ## Client, server and the queues between them -/

/-- A connected client and its session stub. The responses that have been sent
form one list, of which the first `delivered` have reached the client; `calls`
lists the calls made, in the order of their handlers. -/
structure Link (C : Type) where
  client : SessionProxy
  server : Server C
  toServer : List Request := []
  delivered : Nat := 0
  calls : List Call := []

namespace Link

variable {C : Type}

inductive Event where
  /-- A service call of the client, also from within a handler. -/
  | call (c : Call)
  /-- The server takes the next request. -/
  | serve
  /-- A service call of the server finishes. -/
  | complete (index : Nat) (outcomes : Outcomes)
  /-- The client takes the next response. -/
  | deliver
  /-- A handler of the client returns. -/
  | resume

variable (s : Link C)

/-- A service call of a proxy: the request is written first, and then
`SessionProxy::Request` sends it. -/
def call (c : Call) : Option (Link C) := do
  let request ← c.encode s.client.nextRequestId
  return { s with
    client := s.client.request true
    toServer := s.toServer ++ [request]
    calls := s.calls ++ [c] }

def serve : Option (Link C) :=
  match s.toServer with
  | [] => some s
  | request :: rest =>
    (s.server.receive request false).map fun server => { s with server, toServer := rest }

def complete (index : Nat) (outcomes : Outcomes) : Option (Link C) :=
  (s.server.complete index outcomes).map fun server => { s with server }

def deliver : Option (Link C) :=
  match s.server.sent[s.delivered]? with
  | none => some s
  | some (_, response) =>
    if !s.client.stack.isEmpty then
      some s
    else if response.result.isReadable then
      some { s with
        client := s.client.step (.message [response.requestId] false)
        delivered := s.delivered + 1 }
    else
      none

def resume : Link C := { s with client := s.client.step (.resume 0) }

def step : Event → Option (Link C)
  | .call c => s.call c
  | .serve => s.serve
  | .complete index outcomes => s.complete index outcomes
  | .deliver => s.deliver
  | .resume => some s.resume

variable (stub : SessionStub C) (first : Nat)

def system : Lts.System (Option (Link C)) Event where
  init := some
    { client := { transport := true, sessionCreated := true, nextRequestId := first }
      server := { stub } }
  step s e := s.bind (·.step e)

def Quiet : Prop :=
  s.toServer = [] ∧ s.server.pending = [] ∧ s.delivered = s.server.sent.length ∧
    s.client.stack = []

/-- Request ids are not used up: a call gets an id below the wrap-around. -/
def Fresh : Option (Link C) → Event → Prop
  | some s, .call _ => s.client.nextRequestId < SessionProxy.maxRequestId
  | _, _ => True

/-! ## The two accounts -/

def wireIds (request : Request) : List Nat :=
  if [Operation.read, .write, .call, .browse, .browsePath, .addNode, .deleteNode, .addReference,
    .deleteReference, .historyReadRaw, .historyReadEvents].any request.has
  then [request.requestId] else []

theorem wireIds_encode {requestId : Nat} {c : Call} {request : Request}
    (h : c.encode requestId = some request) :
    wireIds request = if c.isPresent then [requestId] else [] := by
  cases c with
  | write inputs | addNodes inputs =>
    obtain ⟨wires, hwires, hrequest⟩ := Option.bind_eq_some_iff.mp h
    cases hrequest
    rcases inputs with _ | ⟨input, inputs⟩
    · cases hwires
      rfl
    · have hne := ne_nil_of_mapM hwires
      simp [wireIds, Request.has, Call.isPresent, hne]
  | call | historyReadRaw | historyReadEvents =>
    obtain ⟨wire, -, hrequest⟩ := Option.bind_eq_some_iff.mp h
    cases hrequest
    simp [wireIds, Request.has, Call.isPresent]
  | _ =>
    cases h
    simp [wireIds, Request.has, Call.isPresent]

/-- The ids of the calls that the server can see, `first` being the id of the
first call. -/
def presentIds (calls : List Call) : List Nat :=
  (calls.zipIdx first).flatMap fun p => if p.1.isPresent then [p.2] else []

def stackIds (client : SessionProxy) : List Nat :=
  client.stack.flatMap fun
    | .responses ids _ => ids
    | .failing _ _ => []

theorem presentIds_append (calls : List Call) (c : Call) :
    presentIds first (calls ++ [c]) =
      presentIds first calls ++ if c.isPresent then [first + calls.length] else [] := by
  simp [presentIds, List.zipIdx_append]

theorem presentIds_sublist (calls : List Call) :
    (presentIds first calls).Sublist (List.range' first calls.length) := by
  induction calls generalizing first with
  | nil => exact .slnil
  | cons c calls ih =>
    simp only [presentIds, List.zipIdx_cons, List.flatMap_cons, List.length_cons,
      List.range'_succ]
    cases c.isPresent with
    | true => exact (ih (first + 1)).cons_cons first
    | false => exact (ih (first + 1)).cons first

theorem mem_presentIds {calls : List Call} {h : Nat} :
    first + h ∈ presentIds first calls ↔ ∃ c, calls[h]? = some c ∧ c.isPresent = true := by
  constructor
  · intro hmem
    obtain ⟨⟨c, id⟩, hzip, hid⟩ := List.mem_flatMap.mp hmem
    obtain ⟨hle, hget⟩ := List.mk_mem_zipIdx_iff_le_and_getElem?_sub.mp hzip
    by_cases hpresent : c.isPresent = true
    · have heq : first + h = id := by simpa [hpresent] using hid
      have hsub : id - first = h := by omega
      exact ⟨c, hsub ▸ hget, hpresent⟩
    · simp [hpresent] at hid
  · rintro ⟨c, hget, hpresent⟩
    refine List.mem_flatMap.mpr ⟨(c, first + h), ?_, by simp [hpresent]⟩
    refine List.mk_mem_zipIdx_iff_le_and_getElem?_sub.mpr ⟨Nat.le_add_right _ _, ?_⟩
    simpa using hget

structure Inv (first : Nat) (s : Link C) : Prop where
  client : s.client.Inv
  transport : s.client.transport = true
  stack : ∀ frame ∈ s.client.stack, ∃ ids, frame = .responses ids false
  server : s.server.Inv
  registered : s.client.registered = s.calls.length
  nextRequestId : s.client.nextRequestId = first + s.calls.length
  keys : ∀ id handler, s.client.requests.lookup id = some handler → id = first + handler
  /-- A request under way is that of a call, -/
  encoded : ∀ request ∈ s.toServer, ∃ (handler : Nat) (c : Call),
    s.calls[handler]? = some c ∧ c.encode (first + handler) = some request
  /-- a coroutine runs for the method of a call, -/
  started : ∀ p ∈ s.server.pending, ∃ (handler : Nat) (c : Call),
    s.calls[handler]? = some c ∧ p.2.requestId = first + handler ∧ p.2.call.method = c.method
  /-- and a response can be read. -/
  readable : ∀ p ∈ s.server.sent, p.2.result.isReadable = true
  /-- What the server can see of the calls is under way to it, in flight in it,
  or sent by it. -/
  served : (s.toServer.flatMap wireIds ++
    (s.server.pending.map (·.2.requestId) ++ s.server.sent.map (·.2.requestId))).Perm
      (presentIds first s.calls)
  delivered_le : s.delivered ≤ s.server.sent.length
  /-- What has reached the client is being looked at or has run its handler. -/
  answered : ((s.server.sent.take s.delivered).map (·.2.requestId)).Perm
    (stackIds s.client ++ s.client.invoked.map (first + ·))

variable {first} {s s' : Link C}

/-! ### The client side of a step -/

section

variable (h : s.Inv first)

include h

theorem Inv.handler_lt {id handler : Nat} (hlookup : s.client.requests.lookup id = some handler) :
    handler < s.client.registered := by
  have hvalue : handler ∈ Table.values s.client.requests :=
    (Table.values_perm_of_lookup hlookup).mem_iff.mpr List.mem_cons_self
  have hmem := h.client.conserved.mem_iff.mp
    (List.mem_append_left _ (List.mem_append_right s.client.invoked hvalue))
  exact List.mem_range.mp hmem

theorem Inv.safe_call : s.client.Safe (.request true) := by
  refine ⟨h.transport, ?_, ?_⟩
  · refine List.all_eq_true.mpr fun frame hframe => ?_
    obtain ⟨ids, rfl⟩ := h.stack frame hframe
    rfl
  · -- a pending request has a smaller id
    intro hmem
    obtain ⟨handler, hlookup⟩ := Option.isSome_iff_exists.mp (AList.lookup_isSome.mpr hmem)
    have hkey := h.keys _ _ hlookup
    have hlt := h.handler_lt hlookup
    have hid := h.nextRequestId
    have hcount := h.registered
    omega

theorem Inv.sent_lt {id : Nat} (hid : id ∈ s.server.sent.map (·.2.requestId)) :
    ∃ handler, id = first + handler ∧ handler < s.calls.length := by
  have hpresent : id ∈ presentIds first s.calls :=
    h.served.mem_iff.mp (List.mem_append_right _ (List.mem_append_right _ hid))
  have hrange : id ∈ List.range' first s.calls.length :=
    (presentIds_sublist first s.calls).subset hpresent
  obtain ⟨hle, hlt⟩ := List.mem_range'_1.mp hrange
  obtain ⟨handler, rfl⟩ := Nat.exists_eq_add_of_le hle
  exact ⟨handler, rfl, by omega⟩

theorem Inv.lookup_stackIds {id : Nat} (hid : id ∈ stackIds s.client) :
    ∃ handler, s.client.requests.lookup id = some handler ∧ id = first + handler := by
  have hnodup : (presentIds first s.calls).Nodup :=
    (presentIds_sublist first s.calls).nodup List.nodup_range'
  have hsentNodup : (s.server.sent.map (·.2.requestId)).Nodup :=
    ((h.served.nodup_iff.mpr hnodup).of_append_right).of_append_right
  have htakeNodup : ((s.server.sent.take s.delivered).map (·.2.requestId)).Nodup :=
    hsentNodup.sublist ((List.take_sublist _ _).map _)
  have hsent : id ∈ s.server.sent.map (·.2.requestId) :=
    ((List.take_sublist _ _).map _).subset (h.answered.mem_iff.mpr (List.mem_append_left _ hid))
  obtain ⟨handler, rfl, hlt⟩ := h.sent_lt hsent
  -- its handler has not run, since the id was delivered once
  have hnot : handler ∉ s.client.invoked := by
    intro hinvoked
    have hdisjoint := (List.nodup_append.mp (h.answered.nodup_iff.mp htakeNodup)).2.2
    exact hdisjoint _ hid _ (List.mem_map_of_mem hinvoked) rfl
  have hregistered : handler ∈ List.range s.client.registered :=
    List.mem_range.mpr (h.registered ▸ hlt)
  have hfailing : s.client.failingHandlers = [] := by
    refine List.flatMap_eq_nil_iff.mpr fun frame hframe => ?_
    obtain ⟨ids, rfl⟩ := h.stack frame hframe
    rfl
  have hvalue : handler ∈ Table.values s.client.requests := by
    have hmem := h.client.conserved.mem_iff.mpr hregistered
    rw [hfailing, List.append_nil] at hmem
    exact (List.mem_append.mp hmem).resolve_left hnot
  obtain ⟨⟨key, value⟩, hentry, rfl⟩ := List.mem_map.mp hvalue
  have hlookup : s.client.requests.lookup key = some value := AList.mem_lookup_iff.mpr hentry
  have hkey := h.keys _ _ hlookup
  subst hkey
  exact ⟨value, hlookup, rfl⟩

end

/-! ### What a step does -/

theorem call_cases {c : Call} (hs : s.call c = some s') :
    ∃ request, c.encode s.client.nextRequestId = some request ∧
      s' = { s with
        client := s.client.request true
        toServer := s.toServer ++ [request]
        calls := s.calls ++ [c] } := by
  obtain ⟨request, hrequest, hs⟩ := Option.bind_eq_some_iff.mp hs
  exact ⟨request, hrequest, (Option.some.inj hs).symm⟩

theorem serve_cases (h : s.Inv first) :
    (s.toServer = [] ∧ s.serve = some s) ∨
    ∃ (request : Request) (rest : List Request) (handler : Nat) (c : Call) (server : Server C)
      (outputs : List Output), s.toServer = request :: rest ∧
      s.calls[handler]? = some c ∧ c.encode (first + handler) = some request ∧
      s.serve = some { s with server, toServer := rest } ∧ server.Inv ∧
      c.Serves (first + handler) outputs ∧
      server.pending =
        s.server.pending ++ (outputs.filterMap Output.task?).map (s.server.arrived, ·) ∧
      server.sent =
        s.server.sent ++ (outputs.filterMap Output.response?).map (s.server.arrived, ·) := by
  cases hqueue : s.toServer with
  | nil => exact Or.inl ⟨rfl, by simp [serve, hqueue]⟩
  | cons request rest =>
    obtain ⟨handler, c, hcall, hencode⟩ := h.encoded request (hqueue ▸ List.mem_cons_self)
    obtain ⟨stub, outputs, hprocess, hserves⟩ :=
      Call.processRequest_encode s.server.stub h.server.services hencode false
    have hsome : (s.server.receive request false).isSome := by simp [Server.receive, hprocess]
    obtain ⟨server, hreceive⟩ := Option.isSome_iff_exists.mp hsome
    obtain ⟨outputs', hprocess', -, hpending, hsent⟩ := Server.receive_cases hreceive
    cases hprocess.symm.trans hprocess'
    exact Or.inr ⟨request, rest, handler, c, server, outputs, rfl, hcall, hencode,
      by simp [serve, hqueue, hreceive], Server.inv_receive h.server hreceive, hserves, hpending,
      hsent⟩

theorem complete_cases (h : s.Inv first) {index : Nat} {outcomes : Outcomes}
    (hs : s.complete index outcomes = some s') :
    (s.server.pending[index]? = none ∧ s' = s) ∨
    ∃ server tag task response, s' = { s with server } ∧ server.Inv ∧
      s.server.pending[index]? = some (tag, task) ∧ response.requestId = task.requestId ∧
      task.call.method.result (outcomes task.call.method) = some response.result ∧
      server.pending = s.server.pending.eraseIdx index ∧
      server.sent = s.server.sent ++ [(tag, response)] := by
  obtain ⟨server, hcomplete, rfl⟩ := Option.map_eq_some_iff.mp hs
  rcases Server.complete_cases h.server hcomplete with ⟨hnone, rfl⟩ |
    ⟨tag, task, response, hget, -, hid, hresult, -, hpending, hsent⟩
  · exact Or.inl ⟨hnone, rfl⟩
  · exact Or.inr ⟨server, tag, task, response, rfl, Server.inv_complete h.server hcomplete, hget,
      hid, hresult, hpending, hsent⟩

theorem deliver_cases (h : s.Inv first) :
    s.deliver = some s ∨ ∃ tag response, s.server.sent[s.delivered]? = some (tag, response) ∧
      s.client.stack = [] ∧ s.deliver = some { s with
        client := s.client.step (.message [response.requestId] false)
        delivered := s.delivered + 1 } := by
  unfold deliver
  cases hget : s.server.sent[s.delivered]? with
  | none => exact Or.inl rfl
  | some entry =>
    obtain ⟨tag, response⟩ := entry
    have hreadable := h.readable _ (List.mem_of_getElem? hget)
    by_cases hidle : s.client.stack.isEmpty = true
    · refine Or.inr ⟨tag, response, rfl, List.isEmpty_iff.mp hidle, ?_⟩
      simp [hidle, hreadable]
    · exact Or.inl (by simp [hidle])

theorem ids_of_serves {c : Call} {requestId : Nat} {outputs : List Output}
    (h : c.Serves requestId outputs) :
    Output.ids outputs = if c.isPresent then [requestId] else [] := by
  cases h with
  | absent hpresent => simp [hpresent]
  | started hpresent call hmethod => simp [hpresent]
  | refused hpresent hmethod code => simp [hpresent, respondStatus]

/-! ### The invariant along a run -/

section

variable (h : s.Inv first)

include h

theorem inv_call {c : Call} (hfresh : s.client.nextRequestId < SessionProxy.maxRequestId)
    (hs : s.call c = some s') : s'.Inv first := by
  obtain ⟨request, hrequest, rfl⟩ := call_cases hs
  have hold : ∀ {handler : Nat} {c' : Call}, s.calls[handler]? = some c' →
      (s.calls ++ [c])[handler]? = some c' := fun hget =>
    (List.getElem?_append_left (List.getElem?_eq_some_iff.mp hget).1).trans hget
  refine ⟨SessionProxy.inv_request h.client h.safe_call, h.transport, h.stack, h.server, ?_, ?_,
    ?_, ?_, ?_, h.readable, ?_, h.delivered_le, h.answered⟩
  · simp [SessionProxy.request, h.registered]
  · have hnext : SessionProxy.nextId s.client.nextRequestId = s.client.nextRequestId + 1 :=
      if_neg (Nat.ne_of_lt hfresh)
    rw [h.nextRequestId] at hnext
    simp [SessionProxy.request, h.nextRequestId, hnext, Nat.add_assoc]
  · intro id handler hlookup
    simp only [SessionProxy.request, if_true] at hlookup
    by_cases hid : id = s.client.nextRequestId
    · subst hid
      rw [AList.lookup_insert] at hlookup
      have heq := Option.some.inj hlookup
      rw [h.nextRequestId, ← heq, h.registered]
    · rw [AList.lookup_insert_ne hid] at hlookup
      exact h.keys _ _ hlookup
  · intro request' hmem
    rcases List.mem_append.mp hmem with hmem | hmem
    · obtain ⟨handler, c', hget, hencode⟩ := h.encoded request' hmem
      exact ⟨handler, c', hold hget, hencode⟩
    · obtain rfl := List.mem_singleton.mp hmem
      exact ⟨s.calls.length, c, by simp, h.nextRequestId ▸ hrequest⟩
  · intro p hp
    obtain ⟨handler, c', hget, hid, hmethod⟩ := h.started p hp
    exact ⟨handler, c', hold hget, hid, hmethod⟩
  · have hserved := h.served
    simp only [List.flatMap_append, List.flatMap_cons, List.flatMap_nil, List.append_nil,
      wireIds_encode hrequest, presentIds_append, ← h.nextRequestId]
    grind

theorem inv_serve (hs : s.serve = some s') : s'.Inv first := by
  rcases serve_cases h with ⟨-, hserve⟩ | ⟨request, rest, handler, c, server, outputs, hqueue,
    hcall, hencode, hserve, hinv, hserves, hpending, hsent⟩
  · cases hserve.symm.trans hs
    exact h
  · cases hserve.symm.trans hs
    refine ⟨h.client, h.transport, h.stack, hinv, h.registered, h.nextRequestId, h.keys, ?_, ?_,
      ?_, ?_, ?_, ?_⟩
    · intro request' hmem
      exact h.encoded request' (hqueue ▸ List.mem_cons_of_mem _ hmem)
    · simp only [hpending, List.forall_mem_append]
      refine ⟨h.started, ?_⟩
      cases hserves with
      | absent | refused => simp [respondStatus, Output.task?]
      | started hpresent call hmethod =>
        intro p hp
        obtain rfl := List.mem_singleton.mp hp
        exact ⟨handler, c, hcall, rfl, hmethod⟩
    · simp only [hsent, List.forall_mem_append]
      refine ⟨h.readable, ?_⟩
      cases hserves with
      | absent | started => simp [Output.response?]
      | refused => simp [respondStatus, Output.response?, Result.isReadable]
    · -- the ids of the outputs come on top
      have hids := Output.ids_perm outputs
      rw [ids_of_serves hserves, ← wireIds_encode hencode] at hids
      have hserved := h.served
      simp only [hqueue, List.flatMap_cons] at hserved
      simp only [hpending, hsent, List.map_append, List.map_map, Function.comp_def]
      refine List.Perm.trans ?_ hserved
      grind
    · simp only [hsent, List.length_append]
      exact Nat.le_add_right_of_le h.delivered_le
    · simp only [hsent, List.take_append_of_le_length h.delivered_le]
      exact h.answered

theorem inv_complete {index : Nat} {outcomes : Outcomes}
    (hs : s.complete index outcomes = some s') : s'.Inv first := by
  rcases complete_cases h hs with ⟨-, rfl⟩ |
    ⟨server, tag, task, response, rfl, hinv, hget, hid, hresult, hpending, hsent⟩
  · exact h
  · obtain ⟨hlt, hentry⟩ := List.getElem?_eq_some_iff.mp hget
    refine ⟨h.client, h.transport, h.stack, hinv, h.registered, h.nextRequestId, h.keys,
      h.encoded, ?_, ?_, ?_, ?_, ?_⟩
    · simp only [hpending]
      exact fun p hp => h.started p (List.mem_of_mem_eraseIdx hp)
    · simp only [hsent, List.forall_mem_append, List.forall_mem_singleton]
      exact ⟨h.readable, Method.isReadable_result hresult⟩
    · -- one id moves from in flight to sent
      have htake := (List.getElem_cons_eraseIdx_perm hlt).map (·.2.requestId)
      simp only [hentry, List.map_cons] at htake
      have hserved := h.served
      simp only [hpending, hsent, List.map_append, List.map_cons, List.map_nil, hid]
      refine List.Perm.trans ?_ hserved
      grind
    · simp only [hsent, List.length_append]
      exact Nat.le_add_right_of_le h.delivered_le
    · simp only [hsent, List.take_append_of_le_length h.delivered_le]
      exact h.answered

theorem inv_deliver (hs : s.deliver = some s') : s'.Inv first := by
  rcases deliver_cases h with hdeliver | ⟨tag, response, hget, hstack, hdeliver⟩
  · cases hdeliver.symm.trans hs
    exact h
  · cases hdeliver.symm.trans hs
    obtain ⟨hlt, hentry⟩ := List.getElem?_eq_some_iff.mp hget
    refine ⟨SessionProxy.inv_step (e := .message _ _) h.client trivial, ?_, ?_, h.server, ?_, ?_,
      ?_, h.encoded, h.started, h.readable, h.served, hlt, ?_⟩
    · simp [SessionProxy.step, hstack, h.transport]
    · simp [SessionProxy.step, hstack, h.transport]
    · simp [SessionProxy.step, hstack, h.transport, h.registered]
    · simp [SessionProxy.step, hstack, h.transport, h.nextRequestId]
    · simpa [SessionProxy.step, hstack, h.transport] using h.keys
    · have hanswered := h.answered
      simp only [stackIds, hstack, List.flatMap_nil, List.nil_append] at hanswered
      simp only [SessionProxy.step, hstack, h.transport, stackIds, List.take_add_one, hget,
        Option.toList_some, List.map_append, List.map_cons, List.map_nil, Bool.and_self,
        List.isEmpty_nil, if_true, List.flatMap_cons, List.flatMap_nil, List.append_nil]
      exact (List.perm_append_singleton _ _).trans (hanswered.cons _)

theorem inv_resume : s.resume.Inv first := by
  unfold resume
  have hclient : (s.client.step (.resume 0)).Inv :=
    SessionProxy.inv_step (e := .resume 0) h.client trivial
  rcases hstack : s.client.stack with _ | ⟨frame, stack⟩
  · have hsame : s.client.step (.resume 0) = s.client := by
      simp [SessionProxy.step, SessionProxy.resume, hstack]
    rw [hsame]
    exact h
  · obtain ⟨ids, rfl⟩ := h.stack frame (hstack ▸ List.mem_cons_self)
    have hrest : ∀ frame ∈ stack, ∃ ids, frame = .responses ids false := fun frame hmem =>
      h.stack frame (hstack ▸ List.mem_cons_of_mem _ hmem)
    have hanswered := h.answered
    cases ids with
    | nil =>
      have hnext : s.client.step (.resume 0) = { s.client with stack } := by
        simp [SessionProxy.step, SessionProxy.resume, hstack]
      rw [hnext] at hclient ⊢
      refine ⟨hclient, h.transport, hrest, h.server, h.registered, h.nextRequestId, h.keys,
        h.encoded, h.started, h.readable, h.served, h.delivered_le, ?_⟩
      simpa [stackIds, hstack] using hanswered
    | cons id ids =>
      obtain ⟨handler, hlookup, hid⟩ : ∃ handler,
          s.client.requests.lookup id = some handler ∧ id = first + handler :=
        h.lookup_stackIds (by simp [stackIds, hstack])
      have hnext : s.client.step (.resume 0) =
          { s.client with
            stack := .responses ids false :: stack
            requests := s.client.requests.erase id
            invoked := s.client.invoked ++ [handler] } := by
        simp [SessionProxy.step, SessionProxy.resume, hstack, hlookup]
      rw [hnext] at hclient ⊢
      refine ⟨hclient, h.transport, ?_, h.server, h.registered, h.nextRequestId, ?_, h.encoded,
        h.started, h.readable, h.served, h.delivered_le, ?_⟩
      · intro frame hmem
        rcases List.mem_cons.mp hmem with rfl | hmem
        · exact ⟨ids, rfl⟩
        · exact hrest frame hmem
      · intro id' handler' hlookup'
        by_cases hne : id' = id
        · subst hne
          rw [AList.lookup_erase] at hlookup'
          cases hlookup'
        · rw [AList.lookup_erase_ne hne] at hlookup'
          exact h.keys _ _ hlookup'
      · simp only [stackIds, hstack, List.flatMap_cons] at hanswered
        simp only [stackIds, List.flatMap_cons, List.map_append, List.map_cons, List.map_nil,
          ← hid]
        grind

theorem inv_step {e : Event} (hfresh : Fresh (some s) e) (hs : s.step e = some s') :
    s'.Inv first := by
  cases e with
  | call c => exact inv_call h hfresh hs
  | serve => exact inv_serve h hs
  | complete index outcomes => exact inv_complete h hs
  | deliver => exact inv_deliver h hs
  | resume =>
    cases hs
    exact inv_resume h

end

theorem inv_run {stub : SessionStub C} (hall : stub.services = {}) (hconn : stub.connection.isSome)
    {es : List Event} (hfresh : (system stub first).Meets Fresh es)
    (hs : (system stub first).run es = some s) : s.Inv first := by
  refine (system stub first).invariant_of_meets (fun o => ∀ s, o = some s → s.Inv first) Fresh
    ?_ ?_ hfresh s hs
  · rintro _ ⟨⟩
    refine ⟨⟨.refl _, fun _ => rfl, ?_⟩, rfl, ?_, ⟨?_, ?_, hall, hconn⟩, rfl, rfl, ?_, ?_, ?_, ?_,
      .refl _, Nat.le_refl _, .refl _⟩
    · exact fun handler hlt => absurd hlt (Nat.not_lt_zero _)
    all_goals intros; simp_all
  · intro o e h hstep s' hs
    obtain ⟨s, rfl, hs⟩ := Option.bind_eq_some_iff.mp hs
    exact inv_step (h s rfl) hstep hs

/-- When nothing is under way, exactly the handlers of the calls that were
present in their requests have run. -/
theorem Inv.mem_invoked_iff (h : s.Inv first) (hquiet : s.Quiet) (handler : Nat) :
    handler ∈ s.client.invoked ↔ ∃ c, s.calls[handler]? = some c ∧ c.isPresent = true := by
  obtain ⟨hqueue, hpending, hdelivered, hstack⟩ := hquiet
  have hserved := h.served
  have hanswered := h.answered
  simp only [hqueue, hpending, List.flatMap_nil, List.map_nil, List.nil_append] at hserved
  simp only [hdelivered, List.take_length, stackIds, hstack, List.flatMap_nil,
    List.nil_append] at hanswered
  rw [← mem_presentIds first, ← (hanswered.symm.trans hserved).mem_iff]
  simp

/-! ## Runs that follow a call -/

/-- What may happen after a call with the request id `id`, for which the services
return `outcomes`: the ids do not wrap around, and no other call or answer ends the
program. -/
def Possible (id : Nat) (outcomes : Outcomes) : Option (Link C) → Event → Prop
  | some s, .call c => s.client.nextRequestId < SessionProxy.maxRequestId ∧ c.Encodable
  | some s, .complete index answers => ∀ tag task, s.server.pending[index]? = some (tag, task) →
    if task.requestId = id then answers = outcomes else answers.Encodable task.call.method
  | _, _ => True

theorem Possible.fresh {id : Nat} {outcomes : Outcomes} {o : Option (Link C)} {e : Event}
    (h : Possible id outcomes o e) : Fresh o e := by
  cases o with
  | none => trivial
  | some s =>
    cases e with
    | call c => exact h.1
    | _ => trivial

/-- The call `c` was made with the given handler, and what was sent for it could be
written. -/
structure Tracks (first handler : Nat) (c : Call) (outcomes : Outcomes) (s : Link C) : Prop
    extends Inv first s where
  called : s.calls[handler]? = some c
  written : ∀ p ∈ s.server.sent, p.2.requestId = first + handler → outcomes.Encodable c.method

section

variable {handler : Nat} {c : Call} {outcomes : Outcomes} {e : Event}

theorem Tracks.method_eq (h : s.Tracks first handler c outcomes) {p : Nat × Task}
    (hp : p ∈ s.server.pending) (hid : p.2.requestId = first + handler) :
    p.2.call.method = c.method := by
  obtain ⟨handler', c', hget, hid', hmethod⟩ := h.started p hp
  obtain rfl : handler' = handler := by omega
  cases h.called.symm.trans hget
  exact hmethod

theorem tracks_step (h : s.Tracks first handler c outcomes)
    (he : Possible (first + handler) outcomes (some s) e) (hs : s.step e = some s') :
    s'.Tracks first handler c outcomes := by
  have hinv := inv_step h.toInv he.fresh hs
  cases e with
  | call c' =>
    obtain ⟨request, -, rfl⟩ := call_cases hs
    refine ⟨hinv, ?_, h.written⟩
    exact (List.getElem?_append_left (List.getElem?_eq_some_iff.mp h.called).1).trans h.called
  | serve =>
    rcases serve_cases h.toInv with ⟨-, hserve⟩ | ⟨request, rest, handler', c', server, outputs, -,
      hcall, -, hserve, -, hserves, -, hsent⟩
    · cases hserve.symm.trans hs
      exact h
    · cases hserve.symm.trans hs
      refine ⟨hinv, h.called, ?_⟩
      simp only [hsent, List.forall_mem_append]
      refine ⟨h.written, ?_⟩
      cases hserves with
      | absent | started => simp [Output.response?]
      | refused hpresent hmethod code =>
        intro p hp hid
        obtain rfl := List.mem_singleton.mp hp
        obtain rfl : handler' = handler := Nat.add_left_cancel hid
        cases h.called.symm.trans hcall
        rw [hmethod]
        exact fun _ _ => trivial
  | complete index answers =>
    rcases complete_cases h.toInv hs with ⟨-, rfl⟩ |
      ⟨server, tag, task, response, rfl, -, hget, hid, hresult, -, hsent⟩
    · exact h
    · refine ⟨hinv, h.called, ?_⟩
      simp only [hsent, List.forall_mem_append, List.forall_mem_singleton]
      refine ⟨h.written, ?_⟩
      intro hown
      have htask : task.requestId = first + handler := hid.symm.trans hown
      have hanswers := he tag task hget
      rw [if_pos htask] at hanswers
      subst hanswers
      rw [← h.method_eq (List.mem_of_getElem? hget) htask, ← Method.result_isSome_iff, hresult]
      rfl
  | deliver =>
    rcases deliver_cases h.toInv with hdeliver | ⟨tag, response, -, -, hdeliver⟩ <;>
      cases hdeliver.symm.trans hs
    · exact h
    · exact ⟨hinv, h.called, h.written⟩
  | resume =>
    cases hs
    exact ⟨hinv, h.called, h.written⟩

theorem step_isSome_of_possible (h : s.Tracks first handler c outcomes)
    (hwritten : outcomes.Encodable c.method)
    (he : Possible (first + handler) outcomes (some s) e) : (s.step e).isSome := by
  cases e with
  | call c' =>
    obtain ⟨request, hrequest⟩ :=
      Option.isSome_iff_exists.mp ((Call.encode_isSome_iff s.client.nextRequestId c').mpr he.2)
    simp [step, call, hrequest]
  | serve =>
    rcases serve_cases h.toInv with ⟨-, hserve⟩ | ⟨_, _, _, _, _, _, -, -, -, hserve, -⟩ <;>
      simp [step, hserve]
  | complete index answers =>
    show ((s.server.complete index answers).map _).isSome
    rw [Option.isSome_map, Server.complete]
    cases hget : s.server.pending[index]? with
    | none => rfl
    | some entry =>
      obtain ⟨tag, task⟩ := entry
      have hanswers := he tag task hget
      have hencodable : answers.Encodable task.call.method := by
        split at hanswers
        next hid => rwa [hanswers, h.method_eq (List.mem_of_getElem? hget) hid]
        next => exact hanswers
      have hfinish := (finish_isSome_iff h.server.connected).mpr hencodable
      obtain ⟨⟨stub, responses⟩, hfinish⟩ := Option.isSome_iff_exists.mp hfinish
      simp [hfinish]
  | deliver =>
    rcases deliver_cases h.toInv with hdeliver | ⟨_, _, -, -, hdeliver⟩ <;>
      simp [step, hdeliver]
  | resume => rfl

/-! ### Progress -/

/-- The steps left: a request is served, completed, delivered and looked at. -/
def remaining (s : Link C) : Nat :=
  7 * s.toServer.length + 6 * s.server.pending.length +
    5 * (s.server.sent.length - s.delivered) + s.client.turns

theorem remaining_serve (h : s.Inv first) (hqueue : s.toServer ≠ []) (hs : s.serve = some s') :
    s'.remaining < s.remaining := by
  rcases serve_cases h with ⟨hnone, -⟩ | ⟨request, rest, handler, c, server, outputs, heq, -, -,
    hserve, -, hserves, hpending, hsent⟩
  · exact absurd hnone hqueue
  · cases hserve.symm.trans hs
    have hone : (Output.ids outputs).length ≤ 1 := by
      rw [ids_of_serves hserves]
      split <;> simp
    have hcount := (Output.ids_perm outputs).length_eq
    have hle := h.delivered_le
    simp only [List.length_append, List.length_map] at hcount
    simp only [remaining, heq, hpending, hsent, List.length_append, List.length_map,
      List.length_cons]
    omega

theorem remaining_complete (h : s.Inv first) (hpending : s.server.pending ≠ [])
    {answers : Outcomes} (hs : s.complete 0 answers = some s') : s'.remaining < s.remaining := by
  have hpos := List.length_pos_iff.mpr hpending
  rcases complete_cases h hs with ⟨hnone, -⟩ |
    ⟨server, tag, task, response, rfl, -, -, -, -, hrest, hsent⟩
  · exact absurd (List.getElem?_eq_none_iff.mp hnone) (Nat.not_le_of_gt hpos)
  · have hle := h.delivered_le
    simp only [remaining, hrest, hsent, List.length_append, List.length_eraseIdx_of_lt hpos,
      List.length_singleton]
    omega

theorem remaining_deliver (h : s.Inv first) (hstack : s.client.stack = [])
    (hlt : s.delivered < s.server.sent.length) (hs : s.deliver = some s') :
    s'.remaining < s.remaining := by
  have hget : s.server.sent[s.delivered]? = some s.server.sent[s.delivered] :=
    List.getElem?_eq_getElem hlt
  simp only [deliver, hget, hstack, List.isEmpty_nil, Bool.not_true, Bool.false_eq_true,
    if_false, h.readable _ (List.getElem_mem hlt), if_true] at hs
  cases hs
  simp only [remaining, SessionProxy.step, hstack, h.transport, List.isEmpty_nil, Bool.and_self,
    if_true, SessionProxy.turns, List.map_cons, List.map_nil, List.sum_cons, List.sum_nil,
    Frame.turns, List.length_cons, List.length_nil]
  omega

theorem exists_quiet (h : s.Tracks first handler c outcomes)
    (hwritten : outcomes.Encodable c.method) :
    ∃ after s', (system stub first).MeetsFrom (Possible (first + handler) outcomes) (some s)
        after ∧ (system stub first).runFrom (some s) after = some s' ∧ s'.Quiet := by
  have hreach := (system stub first).exists_reaches
    (fun o => ∃ s, o = some s ∧ s.Tracks first handler c outcomes)
    (fun o => ∃ s, o = some s ∧ s.Quiet) (Possible (first + handler) outcomes)
    (fun o => o.elim 0 remaining) ?_ ⟨s, rfl, h⟩
  · obtain ⟨after, hmeets, s', hrun, hquiet⟩ := hreach
    exact ⟨after, s', hmeets, hrun, hquiet⟩
  · rintro _ ⟨s, rfl, h⟩ hbusy
    -- it remains to name a possible step that brings the measure down
    suffices hnext : ∃ e, Possible (first + handler) outcomes (some s) e ∧
        ∀ s', s.step e = some s' → s'.remaining < s.remaining by
      obtain ⟨e, he, hless⟩ := hnext
      obtain ⟨s', hs⟩ := Option.isSome_iff_exists.mp (step_isSome_of_possible h hwritten he)
      have hstep : (system stub first).step (some s) e = some s' := hs
      refine ⟨e, he, ⟨s', hstep, tracks_step h he hs⟩, ?_⟩
      rw [hstep]
      exact hless s' hs
    by_cases hstack : s.client.stack = []
    · by_cases hqueue : s.toServer = []
      · by_cases hpending : s.server.pending = []
        · have hlt : s.delivered < s.server.sent.length := by
            refine Nat.lt_of_le_of_ne h.delivered_le fun heq => hbusy ⟨s, rfl, ?_⟩
            exact ⟨hqueue, hpending, heq, hstack⟩
          exact ⟨.deliver, trivial, fun s' hs => remaining_deliver h.toInv hstack hlt hs⟩
        · obtain ⟨⟨tag, task⟩, rest, heq⟩ := List.exists_cons_of_ne_nil hpending
          -- another call is answered with an error, which can always be written
          let answers : Outcomes := if task.requestId = first + handler then outcomes
            else fun _ => .error ⟨StatusCode.bad, by decide⟩
          refine ⟨.complete 0 answers, ?_, fun s' hs => remaining_complete h.toInv hpending hs⟩
          intro tag' task' hget
          rw [heq] at hget
          cases hget
          by_cases hown : task.requestId = first + handler
          · simp [answers, hown]
          · simp only [answers, hown, if_false]
            intro results hok
            cases hok
      · exact ⟨.serve, trivial, fun s' hs => remaining_serve h.toInv hqueue hs⟩
    · refine ⟨.resume, trivial, fun s' hs => ?_⟩
      cases hs
      exact Nat.add_lt_add_left (SessionProxy.turns_resume_lt hstack) _

end

/-! ## Calls return -/

/-- The call made in the state `s`, for which the services return `outcomes`, returns:
things can come to rest after it, the program goes on, and whenever things have come to
rest, the handler of the call has run. -/
def Returns (first : Nat) (s : Link C) (c : Call) (outcomes : Outcomes) : Prop :=
  let S := system stub first
  let Following := S.MeetsFrom (Possible s.client.nextRequestId outcomes) (s.call c)
  (∃ after s', Following after ∧ S.runFrom (s.call c) after = some s' ∧ s'.Quiet) ∧
  ∀ after, Following after → ∃ s', S.runFrom (s.call c) after = some s' ∧
    (s'.Quiet → s.client.registered ∈ s'.client.invoked)

section

variable {c : Call} {outcomes : Outcomes}

theorem tracks_call (h : s.Inv first) (hfresh : s.client.nextRequestId < SessionProxy.maxRequestId)
    (hs : s.call c = some s') : s'.Tracks first s.client.registered c outcomes := by
  have hinv := inv_call h hfresh hs
  obtain ⟨request, -, rfl⟩ := call_cases hs
  refine ⟨hinv, by simp [h.registered], ?_⟩
  -- nothing was sent under an id that was not given out
  intro p hp hid
  obtain ⟨handler, hid', hlt⟩ := h.sent_lt (List.mem_map_of_mem hp)
  have hcount := h.registered
  omega

theorem tracks_runFrom {handler : Nat} {after : List Event}
    (h : s.Tracks first handler c outcomes)
    (hafter : (system stub first).MeetsFrom (Possible (first + handler) outcomes) (some s) after)
    (hs : (system stub first).runFrom (some s) after = some s') :
    s'.Tracks first handler c outcomes := by
  refine (system stub first).runFrom_invariant_of_meets
    (fun o => ∀ s, o = some s → s.Tracks first handler c outcomes) _ ?_ ?_ hafter s' hs
  · intro o e h he s' hs
    obtain ⟨s, rfl, hs⟩ := Option.bind_eq_some_iff.mp hs
    exact tracks_step (h s rfl) he hs
  · rintro _ ⟨⟩
    exact h

/-- **A service call returns if and only if it is present in its request, its inputs
can be written and so can what the services return for it.** On a connected session
whose stub has all services, while request ids do not wrap around, every such call comes
back except an empty batch of `Write`, `TranslateBrowsePaths`, `AddNodes`, `DeleteNodes`,
`AddReferences` or `DeleteReferences`. -/
theorem returns_iff_isPresent {stub : SessionStub C} (hall : stub.services = {})
    (hconn : stub.connection.isSome) (first : Nat) (before : List Event) (c : Call)
    (hfresh : (system stub first).Meets Fresh (before ++ [.call c]))
    (hs : (system stub first).run before = some s) (outcomes : Outcomes) :
    Returns stub first s c outcomes ↔
      c.isPresent = true ∧ c.Encodable ∧ outcomes.Encodable c.method := by
  let S := system stub first
  have h : s.Inv first := inv_run hall hconn (S.meets_of_prefix hfresh (List.prefix_append _ _)) hs
  have hid : s.client.nextRequestId = first + s.client.registered :=
    h.registered ▸ h.nextRequestId
  have hbelow : s.client.nextRequestId < SessionProxy.maxRequestId := by
    have hlast := hfresh before (.call c) (List.prefix_refl _)
    rwa [hs] at hlast
  -- the handler has run at rest exactly if the call is present
  have hinvoked : ∀ {s' : Link C}, s'.Tracks first s.client.registered c outcomes → s'.Quiet →
      (s.client.registered ∈ s'.client.invoked ↔ c.isPresent = true) := by
    intro s' htracks hquiet
    rw [htracks.mem_invoked_iff hquiet, htracks.called]
    simp
  simp only [Returns, hid]
  constructor
  · rintro ⟨⟨after, s', hafter, hrun, hquiet⟩, hreturned⟩
    obtain ⟨called, hcalled, -⟩ := hreturned [] trivial
    change s.call c = some called at hcalled
    have hstart : called.Tracks first s.client.registered c outcomes :=
      tracks_call h hbelow hcalled
    rw [hcalled] at hafter hrun hreturned
    have htracks := tracks_runFrom stub hstart hafter hrun
    obtain ⟨s'', hrun', hin⟩ := hreturned after hafter
    cases hrun.symm.trans hrun'
    have hrest := hin hquiet
    refine ⟨(hinvoked htracks hquiet).mp hrest, ?_, ?_⟩
    · obtain ⟨request, hrequest, -⟩ := call_cases hcalled
      exact (Call.encode_isSome_iff _ c).mp (Option.isSome_of_eq_some hrequest)
    · -- a response was sent for it, which had to be written
      have hsent : first + s.client.registered ∈ s'.server.sent.map (·.2.requestId) := by
        have hmem := htracks.answered.mem_iff.mpr
          (List.mem_append_right _ (List.mem_map_of_mem hrest))
        exact ((List.take_sublist _ _).map _).subset hmem
      obtain ⟨p, hp, heq⟩ := List.mem_map.mp hsent
      exact htracks.written p hp heq
  · rintro ⟨hpresent, hencodable, hwritten⟩
    obtain ⟨request, hrequest⟩ := Option.isSome_iff_exists.mp
      ((Call.encode_isSome_iff s.client.nextRequestId c).mpr hencodable)
    obtain ⟨called, hcalled⟩ : ∃ called, s.call c = some called := ⟨_, by simp [call, hrequest]; rfl⟩
    have hstart : called.Tracks first s.client.registered c outcomes :=
      tracks_call h hbelow hcalled
    rw [hcalled]
    refine ⟨exists_quiet stub hstart hwritten, ?_⟩
    intro after hafter
    have hkept : ∃ s', S.runFrom (some called) after = some s' ∧
        s'.Tracks first s.client.registered c outcomes := by
      refine S.runFrom_invariant_of_meets
        (fun o => ∃ s', o = some s' ∧ s'.Tracks first s.client.registered c outcomes) _ ?_
        ⟨called, rfl, hstart⟩ hafter
      rintro _ e ⟨s', rfl, htracks⟩ he
      obtain ⟨s'', hs''⟩ :=
        Option.isSome_iff_exists.mp (step_isSome_of_possible htracks hwritten he)
      exact ⟨s'', hs'', tracks_step htracks he hs''⟩
    obtain ⟨s', hrun, htracks⟩ := hkept
    exact ⟨s', hrun, fun hquiet => (hinvoked htracks hquiet).mpr hpresent⟩

end

def exampleLink : Link Unit :=
  { client := { transport := true, sessionCreated := true, nextRequestId := 2 }
    server := { stub := Server.exampleStub } }

theorem returns_iff_isPresent_write :
    Returns Server.exampleStub 2 exampleLink (.write [{}]) Server.exampleOutcomes := by
  refine (returns_iff_isPresent rfl rfl 2 [] (.write [{}]) ?_ rfl Server.exampleOutcomes).mpr ?_
  · rw [Lts.System.meets_iff_meetsFrom]
    exact ⟨by simp [Fresh, system, SessionProxy.maxRequestId], trivial⟩
  · exact ⟨rfl, by simp [Call.Encodable, Variant.Encodable], fun _ h => by cases h⟩

/-- An empty `Write` reaches the server, and then nothing is left to happen. -/
theorem not_returns_empty_write :
    ¬ Returns Server.exampleStub 2 exampleLink (.write []) Server.exampleOutcomes := by
  rintro ⟨-, hreturned⟩
  obtain ⟨s', hrun, hinvoked⟩ := hreturned [.serve] ⟨trivial, trivial⟩
  cases hrun
  exact absurd (hinvoked ⟨rfl, rfl, rfl, rfl⟩) (by decide)

end Link
end ScadaCore.Remote
