import ScadaCore.Lts.System
import ScadaCore.Remote.SessionStub
import Mathlib.Data.List.Perm.Basic

/-!
# Remote.Answers — how often, and under which id, a request is answered

A session receives requests and finishes the coroutines they started, in any
order. Every request gets an arrival number, and what was sent for it and what
is still in flight for it are counted together: the ids of its responses and of
its coroutines are, after every step, a permutation of the ids its processing
produced. Once none of its coroutines is in flight, its responses are exactly
those ids, and the question is settled by one look at `processRequest`.

The state is `none` when the program has ended, because of an input that cannot be
read or a result that cannot be written. A request is judged by the runs in which no
other request ends it (`Harmless`).
-/

namespace ScadaCore.Remote

open Scada

/-! ## The operations of a request -/

/-- The operations a session stub looks for in a request. -/
inductive Operation where
  | ping | read | write | call
  | createSubscription | deleteSubscription | createMonitoredItem | deleteMonitoredItem
  | browse | browsePath
  | addNode | deleteNode | addReference | deleteReference
  | historyReadRaw | historyReadEvents
deriving DecidableEq, Repr

def Method.operation : Method → Operation
  | .read => .read
  | .write => .write
  | .call => .call
  | .browse => .browse
  | .translateBrowsePaths => .browsePath
  | .addNodes => .addNode
  | .deleteNodes => .deleteNode
  | .addReferences => .addReference
  | .deleteReferences => .deleteReference
  | .historyReadRaw => .historyReadRaw
  | .historyReadEvents => .historyReadEvents

theorem Method.forall_iff {p : Method → Prop} : (∀ method, p method) ↔
    p .read ∧ p .write ∧ p .call ∧ p .browse ∧ p .translateBrowsePaths ∧ p .addNodes ∧
      p .deleteNodes ∧ p .addReferences ∧ p .deleteReferences ∧ p .historyReadRaw ∧
      p .historyReadEvents := by
  constructor
  · intro h
    exact ⟨h _, h _, h _, h _, h _, h _, h _, h _, h _, h _, h _⟩
  · intro h method
    cases method <;> simp [h]

namespace Request

def has (r : Request) : Operation → Bool
  | .ping => r.ping
  | .read => r.read.isSome
  | .write => !r.write.isEmpty
  | .call => r.call.join.isSome
  | .createSubscription => r.createSubscription
  | .deleteSubscription => r.deleteSubscription.isSome
  | .createMonitoredItem => r.createMonitoredItem.isSome
  | .deleteMonitoredItem => r.deleteMonitoredItem.isSome
  | .browse => r.browse.isSome
  | .browsePath => !r.browsePath.isEmpty
  | .addNode => !r.addNode.isEmpty
  | .deleteNode => !r.deleteNode.isEmpty
  | .addReference => !r.addReference.isEmpty
  | .deleteReference => !r.deleteReference.isEmpty
  | .historyReadRaw => r.historyReadRaw.isSome
  | .historyReadEvents => r.historyReadEvents.isSome

/-- `op` is the one operation present. -/
def Carries (r : Request) (op : Operation) : Prop := ∀ op', r.has op' = decide (op' = op)

theorem Carries.absent {r : Request} {op : Operation} (hop : r.Carries op) :
    (op ≠ .ping → r.ping = false) ∧ (op ≠ .read → r.read = none) ∧
      (op ≠ .write → r.write = []) ∧ (op ≠ .call → r.call.join = none) ∧
      (op ≠ .createSubscription → r.createSubscription = false) ∧
      (op ≠ .deleteSubscription → r.deleteSubscription = none) ∧
      (op ≠ .createMonitoredItem → r.createMonitoredItem = none) ∧
      (op ≠ .deleteMonitoredItem → r.deleteMonitoredItem = none) ∧
      (op ≠ .browse → r.browse = none) ∧ (op ≠ .browsePath → r.browsePath = []) ∧
      (op ≠ .addNode → r.addNode = []) ∧ (op ≠ .deleteNode → r.deleteNode = []) ∧
      (op ≠ .addReference → r.addReference = []) ∧
      (op ≠ .deleteReference → r.deleteReference = []) ∧
      (op ≠ .historyReadRaw → r.historyReadRaw = none) ∧
      (op ≠ .historyReadEvents → r.historyReadEvents = none) := by
  have hnot : ∀ op', op ≠ op' → r.has op' = false := fun op' hne =>
    (hop op').trans (decide_eq_false hne.symm)
  refine ⟨hnot .ping, ?_, ?_, ?_, hnot .createSubscription, ?_, ?_, ?_, ?_, ?_, ?_, ?_, ?_, ?_, ?_,
    ?_⟩ <;> intro hne <;> simpa [has] using hnot _ hne

/-- The session can read the inputs of the request. Of a history read that continues
another it reads the point only. -/
@[mk_iff] structure Readable (r : Request) (points : ContinuationPoints) : Prop where
  write : ∀ input ∈ r.write, input.value.Readable
  call : ∀ command, r.call.join = some command → ∀ value ∈ command.argument, value.Readable
  createMonitoredItem : ∀ item, r.createMonitoredItem = some item →
    ∀ parameters, item.monitoringParameters = some parameters →
      ∀ filter, parameters.aggregateFilter = some filter → filter.Readable
  addNode : ∀ input ∈ r.addNode, input.Readable
  historyReadRaw : ∀ read, r.historyReadRaw = some read →
    read.continuationPoint ≠ [] ∧ read.continuationPoint ∈ points ∨ read.Readable
  historyReadEvents : ∀ read, r.historyReadEvents = some read → read.Readable

end Request

/-- The session answers the request under its own id: a subscription is deleted only
by a request with id 0, a monitored item is created or deleted only in a subscription
that exists and created only for an attribute that has a name, the inputs can be
read, and what the services return can be written. -/
@[mk_iff] structure Answerable {C : Type} (stub : SessionStub C) (request : Request)
    (outcomes : Outcomes) : Prop where
  deleteSubscription : request.deleteSubscription.isSome → request.requestId = 0
  createMonitoredItem : ∀ item, request.createMonitoredItem = some item →
    (stub.subscriptions item.subscriptionId).isSome ∧ item.readValueId.attributeId.isNamed
  deleteMonitoredItem : ∀ item, request.deleteMonitoredItem = some item →
    (stub.subscriptions item.subscriptionId).isSome
  readable : request.Readable stub.continuationPoints
  encodable : ∀ method, request.has method.operation → outcomes.Encodable method

/-! ## The ids one request produces -/

namespace Output

def response? : Output → Option Response
  | .respond response => some response
  | _ => none

def task? : Output → Option Task
  | .spawn task => some task
  | _ => none

def requestId? : Output → Option Nat
  | .respond response => some response.requestId
  | .spawn task => some task.requestId
  | .monitor _ => none

def ids (outputs : List Output) : List Nat := outputs.filterMap requestId?

@[simp] theorem ids_nil : ids [] = [] := rfl

@[simp] theorem ids_respond (response : Response) (os : List Output) :
    ids (.respond response :: os) = response.requestId :: ids os := rfl

@[simp] theorem ids_spawn (task : Task) (os : List Output) :
    ids (.spawn task :: os) = task.requestId :: ids os := rfl

@[simp] theorem ids_monitor (v : ReadValueId) (os : List Output) :
    ids (.monitor v :: os) = ids os := rfl

theorem ids_perm (outputs : List Output) :
    ((outputs.filterMap response?).map (·.requestId) ++
      (outputs.filterMap task?).map (·.requestId)).Perm (ids outputs) := by
  induction outputs with
  | nil => exact .refl _
  | cons o os ih =>
    cases o with
    | respond response => exact ih.cons response.requestId
    | spawn task =>
      -- the id of a coroutine moves past the ids of the responses
      exact List.perm_middle.trans (ih.cons task.requestId)
    | monitor v => exact ih

end Output

namespace SessionStub

variable {C : Type} {r : Request} {op : Operation}

open Output

/-- The outputs answer the request once, under its id, if the services do not return
what cannot be written. -/
def Answers (outputs : List Output) (requestId : Nat) (outcomes : Outcomes) : Prop :=
  ids outputs = [requestId] ∧
    ∀ task ∈ outputs.filterMap task?, outcomes.Encodable task.call.method

@[simp] theorem answers_respondStatus (requestId requestId' : Nat) (code : StatusCode)
    (outcomes : Outcomes) :
    Answers [respondStatus requestId' code] requestId outcomes ↔ requestId' = requestId := by
  simp [Answers, respondStatus, task?]

@[simp] theorem answers_spawn (requestId : Nat) (call : Call) (outcomes : Outcomes) :
    Answers [.spawn { requestId, call }] requestId outcomes ↔ outcomes.Encodable call.method := by
  simp [Answers, task?]

theorem onHistoryReadRaw_isSome_iff (points : ContinuationPoints) (read : Wire.HistoryReadRaw) :
    (HistoryStub.onHistoryReadRaw points read).isSome ↔
      read.continuationPoint ≠ [] ∧ read.continuationPoint ∈ points ∨ read.Readable := by
  unfold HistoryStub.onHistoryReadRaw
  by_cases hpoint : read.continuationPoint = []
  · simp [hpoint, HistoryStub.readRawDetails_isSome_iff]
  · rw [if_neg hpoint]
    cases hfound : points.lookup read.continuationPoint with
    | none =>
      have hunknown : read.continuationPoint ∉ points := AList.lookup_eq_none.mp hfound
      simp [hunknown, HistoryStub.readRawDetails_isSome_iff]
    | some details =>
      have hknown : read.continuationPoint ∈ points :=
        AList.lookup_isSome.mp (by simp [hfound])
      simp [hknown, hpoint]

theorem answers_onCreateMonitoredItem (stub : Subscriptions) (requestId : Nat)
    (item : CreateMonitoredItem) (created : Bool) (outcomes : Outcomes) :
    (∃ answer, onCreateMonitoredItem stub requestId item created = some answer ∧
        Answers answer.2 requestId outcomes) ↔
      ((stub.subscriptions item.subscriptionId).isSome ∧ item.readValueId.attributeId.isNamed) ∧
        ∀ parameters, item.monitoringParameters = some parameters →
          ∀ filter, parameters.aggregateFilter = some filter → filter.Readable := by
  have hread : (item.monitoringParameters.mapM Wire.MonitoringParameters.convert).isSome ↔
      ∀ parameters, item.monitoringParameters = some parameters →
        ∀ filter, parameters.aggregateFilter = some filter → filter.Readable := by
    cases item.monitoringParameters <;> simp [Wire.MonitoringParameters.convert_isSome_iff]
  rw [← hread]
  unfold onCreateMonitoredItem SubscriptionStub.onCreateMonitoredItem
  cases item.monitoringParameters.mapM Wire.MonitoringParameters.convert <;>
    cases stub.subscriptions item.subscriptionId <;>
    cases item.readValueId.attributeId.isNamed <;> cases created <;> simp [Answers, task?]

attribute [local simp] processRequest onPing onRead onWrite onCall processSubscriptions
  viewServiceStub nodeManagementStub historyStub onHistoryReadRaw onHistoryReadEvents
  onCreateSubscription onDeleteSubscription onDeleteMonitoredItem
  SubscriptionStub.onDeleteMonitoredItem onDeleteNodes
  withService spawnIf Method.operation Call.method Request.has Method.forall_iff

theorem answers_iff_answerable (stub : SessionStub C) (hall : stub.services = {})
    (hop : r.Carries op) (created : Bool) (outcomes : Outcomes) :
    (∃ stub' outputs, stub.processRequest r created = some (stub', outputs) ∧
      Answers outputs r.requestId outcomes) ↔ Answerable stub r outcomes := by
  have habsent := hop.absent
  have hpresent := hop op
  rw [answerable_iff, Request.readable_iff]
  cases op with
  | ping =>
    simp at habsent hpresent
    simp [habsent, hpresent]
  | read =>
    simp at habsent hpresent
    obtain ⟨inputs, hinputs⟩ := Option.isSome_iff_exists.mp hpresent
    simp [hall, habsent, hinputs]
  | write =>
    simp at habsent hpresent
    have hread : (r.write.mapM Wire.Write.convert).isSome ↔
        ∀ input ∈ r.write, input.value.Readable := by
      simp [mapM_isSome_iff, Wire.Write.convert_isSome_iff]
    rw [← hread]
    cases hinputs : r.write.mapM Wire.Write.convert <;>
      simp [hall, habsent, hpresent, hinputs]
  | call =>
    simp at habsent hpresent
    obtain ⟨command, hcommand⟩ := Option.isSome_iff_exists.mp hpresent
    have hread := command.convert_isSome_iff
    cases hparameters : command.convert <;>
      simp_all
  | createSubscription =>
    simp at habsent hpresent
    simp [habsent, hpresent, Answers, task?]
  | deleteSubscription =>
    -- answered, but under the presence flag of the create operation
    simp at habsent hpresent
    obtain ⟨subscriptionId, hid⟩ := Option.isSome_iff_exists.mp hpresent
    have hzero : 0 = r.requestId ↔ r.requestId = 0 := eq_comm
    simp [habsent, hid, hzero]
  | createMonitoredItem =>
    simp at habsent hpresent
    obtain ⟨item, hitem⟩ := Option.isSome_iff_exists.mp hpresent
    have hcreate :=
      answers_onCreateMonitoredItem stub.toSubscriptions r.requestId item created outcomes
    cases honCreate : onCreateMonitoredItem stub.toSubscriptions r.requestId item created <;>
      simp_all
  | deleteMonitoredItem =>
    simp at habsent hpresent
    obtain ⟨item, hitem⟩ := Option.isSome_iff_exists.mp hpresent
    cases hsubscription : stub.subscriptions item.subscriptionId <;>
      simp [habsent, hitem, hsubscription, Answers, task?]
  | browse =>
    simp at habsent hpresent
    obtain ⟨inputs, hinputs⟩ := Option.isSome_iff_exists.mp hpresent
    simp [hall, habsent, hinputs]
  | addNode =>
    simp at habsent hpresent
    have hread : (r.addNode.mapM Wire.AddNode.convert).isSome ↔
        ∀ input ∈ r.addNode, input.Readable := by
      simp [mapM_isSome_iff, Wire.AddNode.convert_isSome_iff]
    rw [← hread]
    cases hinputs : r.addNode.mapM Wire.AddNode.convert <;>
      simp [hall, habsent, hpresent, hinputs]
  | deleteNode =>
    simp at habsent hpresent
    have hplain : outcomes.Encodable .deleteNodes := fun _ _ => trivial
    simp [hall, habsent, hpresent, hplain]
    split <;> simp [hplain]
  | historyReadRaw =>
    simp at habsent hpresent
    obtain ⟨read, hread⟩ := Option.isSome_iff_exists.mp hpresent
    have hreadable := onHistoryReadRaw_isSome_iff stub.continuationPoints read
    cases hdetails : HistoryStub.onHistoryReadRaw stub.continuationPoints read <;>
      simp_all
  | historyReadEvents =>
    simp at habsent hpresent
    obtain ⟨read, hread⟩ := Option.isSome_iff_exists.mp hpresent
    have hreadable := HistoryStub.readEventsDetails_isSome_iff read
    cases hdetails : HistoryStub.readEventsDetails read <;> simp_all
  | browsePath | addReference | deleteReference =>
    simp at habsent hpresent
    simp [hall, habsent, hpresent]

/-! ### What a request leaves alone -/

/-- The services, the connection and the user of a session are not touched by
its requests. -/
structure SameSession (stub stub' : SessionStub C) : Prop where
  services : stub'.services = stub.services
  connection : stub'.connection = stub.connection
  userId : stub'.userId = stub.userId

variable {stub stub' : SessionStub C} {outputs : List Output}

theorem processRequest_same {created : Bool}
    (h : stub.processRequest r created = some (stub', outputs)) : SameSession stub stub' := by
  simp only [processRequest, Option.bind_eq_bind, Option.bind_eq_some_iff] at h
  obtain ⟨_, -, _, -, _, -, _, -, _, -, hend⟩ := h
  cases hend
  exact ⟨rfl, rfl, rfl⟩

/-! ### The end of a coroutine -/

theorem keepPoint_same (stub : SessionStub C) (outcomes : Outcomes) (call : Call) :
    SameSession stub (stub.keepPoint outcomes call) := by
  cases call <;> exact ⟨rfl, rfl, rfl⟩

section Finish

variable (hconn : stub.connection.isSome) {task : Task} {outcomes : Outcomes}

include hconn

theorem finish_isSome_iff :
    (stub.finish task outcomes).isSome ↔ outcomes.Encodable task.call.method := by
  have hopen : (task.call.holdsSession && stub.connection.isNone) = false := by
    simp [hconn]
  rw [← Method.result_isSome_iff, finish, hopen]
  exact Bool.eq_iff_iff.mp (isSome_bind_some _ _)

theorem finish_cases {responses : List Response}
    (h : stub.finish task outcomes = some (stub', responses)) :
    ∃ response, responses = [response] ∧ response.requestId = task.requestId ∧
      task.call.method.result (outcomes task.call.method) = some response.result ∧
      SameSession stub stub' := by
  have hopen : (task.call.holdsSession && stub.connection.isNone) = false := by
    simp [hconn]
  rw [finish, hopen] at h
  rcases Option.bind_eq_some_iff.mp h with ⟨result, hresult, h⟩
  cases h
  exact ⟨_, rfl, rfl, hresult, stub.keepPoint_same outcomes task.call⟩

end Finish

end SessionStub

/-! ## The session as an event system -/

/-- A session with what it has sent and what it has in flight, each labelled
with the arrival number of the request it belongs to. -/
structure Server (C : Type) where
  stub : SessionStub C
  arrived : Nat := 0
  pending : List (Nat × Task) := []
  sent : List (Nat × Response) := []

namespace Server

variable {C : Type}

/-- `receive`: a request arrives (`created` is what the monitored-item service
says to a create request). `complete`: a service call in flight finishes. -/
inductive Event where
  | receive (request : Request) (created : Bool)
  | complete (index : Nat) (outcomes : Outcomes)

variable (s : Server C)

def receive (request : Request) (created : Bool) : Option (Server C) := do
  let (stub, outputs) ← s.stub.processRequest request created
  return {
    stub
    arrived := s.arrived + 1
    pending := s.pending ++ (outputs.filterMap Output.task?).map (s.arrived, ·)
    sent := s.sent ++ (outputs.filterMap Output.response?).map (s.arrived, ·) }

def complete (index : Nat) (outcomes : Outcomes) : Option (Server C) :=
  match s.pending[index]? with
  | none => some s
  | some (tag, task) => do
    let (stub, responses) ← s.stub.finish task outcomes
    return { s with
      stub
      pending := s.pending.eraseIdx index
      sent := s.sent ++ responses.map (tag, ·) }

def step : Event → Option (Server C)
  | .receive request created => s.receive request created
  | .complete index outcomes => s.complete index outcomes

def system (stub : SessionStub C) : Lts.System (Option (Server C)) Event where
  init := some { stub }
  step s e := s.bind (·.step e)

def ofTag {α : Type} (tag : Nat) (l : List (Nat × α)) : List α :=
  l.filterMap fun p => if p.1 = tag then some p.2 else none

def responsesTo (tag : Nat) : List Response := ofTag tag s.sent

def tasksOf (tag : Nat) : List Task := ofTag tag s.pending

/-- The ids under which request `tag` has been or will be answered. -/
def account (tag : Nat) : List Nat :=
  (s.responsesTo tag).map (·.requestId) ++ (s.tasksOf tag).map (·.requestId)

section OfTag

variable {α : Type}

theorem ofTag_append (tag : Nat) (l l' : List (Nat × α)) :
    ofTag tag (l ++ l') = ofTag tag l ++ ofTag tag l' := List.filterMap_append

theorem ofTag_map (tag tag' : Nat) (l : List α) :
    ofTag tag (l.map (tag', ·)) = if tag' = tag then l else [] := by
  by_cases h : tag' = tag <;> simp [ofTag, List.filterMap_map, h]

theorem ofTag_of_lt {tag : Nat} {l : List (Nat × α)} (h : ∀ p ∈ l, p.1 < tag) :
    ofTag tag l = [] := by
  refine List.filterMap_eq_nil_iff.mpr fun p hp => ?_
  have hne : p.1 ≠ tag := Nat.ne_of_lt (h p hp)
  simp [hne]

theorem mem_ofTag {tag : Nat} {l : List (Nat × α)} {x : α} : x ∈ ofTag tag l ↔ (tag, x) ∈ l := by
  simp only [ofTag, List.mem_filterMap]
  constructor
  · rintro ⟨⟨tag', y⟩, hmem, heq⟩
    by_cases htag : tag' = tag
    · simp only [htag, if_true, Option.some.injEq] at heq
      exact htag ▸ heq ▸ hmem
    · simp [htag] at heq
  · intro hmem
    exact ⟨(tag, x), hmem, by simp⟩

end OfTag

/-! ## Conservation of ids -/

/-- Labels are arrival numbers that have been given out, and the session has
all its services and a connection. -/
structure Inv (s : Server C) : Prop where
  pending_lt : ∀ p ∈ s.pending, p.1 < s.arrived
  sent_lt : ∀ p ∈ s.sent, p.1 < s.arrived
  services : s.stub.services = {}
  connected : s.stub.connection.isSome

variable {s s' : Server C} {request : Request} {created : Bool} {index : Nat}
  {outcomes : Outcomes}

theorem receive_cases (hs : s.receive request created = some s') :
    ∃ outputs, s.stub.processRequest request created = some (s'.stub, outputs) ∧
      s'.arrived = s.arrived + 1 ∧
      s'.pending = s.pending ++ (outputs.filterMap Output.task?).map (s.arrived, ·) ∧
      s'.sent = s.sent ++ (outputs.filterMap Output.response?).map (s.arrived, ·) := by
  obtain ⟨⟨stub, outputs⟩, hprocess, hs⟩ := Option.bind_eq_some_iff.mp hs
  cases hs
  exact ⟨outputs, hprocess, rfl, rfl, rfl⟩

theorem complete_cases (h : s.Inv) (hs : s.complete index outcomes = some s') :
    (s.pending[index]? = none ∧ s' = s) ∨
    ∃ tag task response, s.pending[index]? = some (tag, task) ∧
      s.stub.SameSession s'.stub ∧ response.requestId = task.requestId ∧
      task.call.method.result (outcomes task.call.method) = some response.result ∧
      s'.arrived = s.arrived ∧ s'.pending = s.pending.eraseIdx index ∧
      s'.sent = s.sent ++ [(tag, response)] := by
  unfold complete at hs
  cases hget : s.pending[index]? with
  | none =>
    simp only [hget] at hs
    cases hs
    exact Or.inl ⟨rfl, rfl⟩
  | some entry =>
    obtain ⟨tag, task⟩ := entry
    simp only [hget] at hs
    obtain ⟨⟨stub, responses⟩, hfinish, hs⟩ := Option.bind_eq_some_iff.mp hs
    obtain ⟨response, rfl, hid, hresult, hsame⟩ := SessionStub.finish_cases h.connected hfinish
    cases hs
    exact Or.inr ⟨tag, task, response, rfl, hsame, hid, hresult, rfl, rfl, rfl⟩

theorem inv_receive (h : s.Inv) (hs : s.receive request created = some s') : s'.Inv := by
  obtain ⟨outputs, hprocess, harrived, hpending, hsent⟩ := receive_cases hs
  have hsame := SessionStub.processRequest_same hprocess
  -- what is new is labelled with the number just given out
  have hlabel : ∀ {α : Type} {old new : List (Nat × α)} {xs : List α},
      new = old ++ xs.map (s.arrived, ·) → (∀ p ∈ old, p.1 < s.arrived) →
        ∀ p ∈ new, p.1 < s'.arrived := by
    rintro α old new xs rfl hold p hp
    rcases List.mem_append.mp hp with hmem | hmem
    · exact harrived ▸ Nat.lt_succ_of_lt (hold p hmem)
    · obtain ⟨x, -, rfl⟩ := List.mem_map.mp hmem
      exact harrived ▸ Nat.lt_succ_self _
  exact ⟨hlabel hpending h.pending_lt, hlabel hsent h.sent_lt,
    hsame.services.trans h.services,
    (congrArg Option.isSome hsame.connection).trans h.connected⟩

theorem inv_complete (h : s.Inv) (hs : s.complete index outcomes = some s') : s'.Inv := by
  rcases complete_cases h hs with ⟨-, rfl⟩ |
    ⟨tag, task, response, hget, hsame, -, -, harrived, hpending, hsent⟩
  · exact h
  · refine ⟨?_, ?_, hsame.services.trans h.services,
      (congrArg Option.isSome hsame.connection).trans h.connected⟩
    · rw [hpending, harrived]
      exact fun p hp => h.pending_lt p (List.mem_of_mem_eraseIdx hp)
    · rw [hsent, harrived]
      intro p hp
      rcases List.mem_append.mp hp with hold | hnew
      · exact h.sent_lt p hold
      · obtain rfl := List.mem_singleton.mp hnew
        exact h.pending_lt _ (List.mem_of_getElem? hget)

/-- Finishing a coroutine moves one id from in flight to sent. -/
theorem account_complete (h : s.Inv) (hs : s.complete index outcomes = some s') (tag : Nat) :
    (s'.account tag).Perm (s.account tag) := by
  rcases complete_cases h hs with ⟨-, rfl⟩ |
    ⟨owner, task, response, hget, -, hid, -, -, hpending, hsent⟩
  · exact .refl _
  · obtain ⟨hlt, hentry⟩ := List.getElem?_eq_some_iff.mp hget
    have hsplit : (ofTag tag ((owner, task) :: s.pending.eraseIdx index)).Perm
        (ofTag tag s.pending) := by
      rw [← hentry]
      exact (List.getElem_cons_eraseIdx_perm hlt).filterMap _
    simp only [account, responsesTo, tasksOf, hpending, hsent, ofTag_append, List.map_append,
      List.append_assoc]
    refine (List.Perm.append_left _ ?_)
    refine List.Perm.trans ?_ (hsplit.map _)
    by_cases howner : owner = tag
    · simp [howner, ofTag, hid]
    · simp [howner, ofTag]

theorem account_receive_of_lt (hs : s.receive request created = some s') {tag : Nat}
    (htag : tag < s.arrived) : s'.account tag = s.account tag := by
  obtain ⟨outputs, -, -, hpending, hsent⟩ := receive_cases hs
  have hne : s.arrived ≠ tag := Nat.ne_of_gt htag
  simp [account, responsesTo, tasksOf, hpending, hsent, ofTag_append, ofTag_map, hne]

theorem account_receive (h : s.Inv) (hs : s.receive request created = some s')
    {stub : SessionStub C} {outputs : List Output}
    (hprocess : s.stub.processRequest request created = some (stub, outputs)) :
    (s'.account s.arrived).Perm (Output.ids outputs) ∧
      s'.tasksOf s.arrived = outputs.filterMap Output.task? := by
  obtain ⟨outputs', hprocess', -, hpending, hsent⟩ := receive_cases hs
  cases hprocess.symm.trans hprocess'
  have hnone : ofTag s.arrived s.pending = [] := ofTag_of_lt h.pending_lt
  have hunsent : ofTag s.arrived s.sent = [] := ofTag_of_lt h.sent_lt
  have htasks : s'.tasksOf s.arrived = outputs.filterMap Output.task? := by
    simp [tasksOf, hpending, ofTag_append, ofTag_map, hnone]
  refine ⟨?_, htasks⟩
  rw [account, htasks]
  simpa [responsesTo, hsent, ofTag_append, ofTag_map, hunsent] using Output.ids_perm outputs

/-! ## Runs -/

theorem inv_step {e : Event} (h : s.Inv) (hs : s.step e = some s') : s'.Inv := by
  cases e with
  | receive request created => exact inv_receive h hs
  | complete index outcomes => exact inv_complete h hs

/-- The account of a request that has arrived is settled. -/
structure Accounts (tag : Nat) (ids : List Nat) (s : Server C) : Prop where
  inv : s.Inv
  arrived : tag < s.arrived
  perm : (s.account tag).Perm ids

variable {tag : Nat} {ids : List Nat} {e : Event}

theorem Accounts.step (h : s.Accounts tag ids) (hs : s.step e = some s') : s'.Accounts tag ids := by
  refine ⟨inv_step h.inv hs, ?_, ?_⟩
  · cases e with
    | receive request created =>
      obtain ⟨-, -, harrived, -⟩ := receive_cases hs
      exact harrived ▸ Nat.lt_succ_of_lt h.arrived
    | complete index outcomes =>
      rcases complete_cases h.inv hs with ⟨-, rfl⟩ | ⟨-, -, -, -, -, -, -, harrived, -⟩
      · exact h.arrived
      · exact harrived ▸ h.arrived
  · cases e with
    | receive request created =>
      exact (List.Perm.of_eq (account_receive_of_lt hs h.arrived)).trans h.perm
    | complete index outcomes => exact (account_complete h.inv hs tag).trans h.perm

theorem Accounts.runFrom (stub : SessionStub C) (h : s.Accounts tag ids) (es : List Event)
    (hrun : (system stub).runFrom (some s) es = some s') : s'.Accounts tag ids := by
  refine (system stub).runFrom_invariant (fun o => ∀ s, o = some s → s.Accounts tag ids) ?_
    (fun s₁ hs₁ => Option.some.inj hs₁ ▸ h) es s' hrun
  intro o e hkept s₁ hs₁
  obtain ⟨s₀, rfl, hstep⟩ := Option.bind_eq_some_iff.mp hs₁
  exact (hkept s₀ rfl).step hstep

theorem Accounts.tasksOf_step (h : s.Accounts tag ids) (hs : s.step e = some s') {task : Task}
    (hmem : task ∈ s'.tasksOf tag) : task ∈ s.tasksOf tag := by
  rw [tasksOf, mem_ofTag] at hmem ⊢
  cases e with
  | receive request created =>
    obtain ⟨outputs, -, -, hpending, -⟩ := receive_cases hs
    rw [hpending] at hmem
    rcases List.mem_append.mp hmem with hold | hnew
    · exact hold
    · obtain ⟨_, -, heq⟩ := List.mem_map.mp hnew
      have htag : s.arrived = tag := congrArg Prod.fst heq
      exact absurd h.arrived (htag ▸ Nat.lt_irrefl _)
  | complete index outcomes =>
    rcases complete_cases h.inv hs with ⟨-, rfl⟩ | ⟨-, -, -, -, -, -, -, -, hpending, -⟩
    · exact hmem
    · rw [hpending] at hmem
      exact List.mem_of_mem_eraseIdx hmem

/-- No other request than `tag` ends the program, and the services answer that one
as `outcomes` says. -/
def Harmless (tag : Nat) (outcomes : Outcomes) : Option (Server C) → Event → Prop
  | none, _ => True
  | some s, .receive request created => (s.stub.processRequest request created).isSome
  | some s, .complete index answers => ∀ owner task, s.pending[index]? = some (owner, task) →
    if owner = tag then answers = outcomes else answers.Encodable task.call.method

/-- A harmless step does not end the program, if what the services return for the
request can be written. -/
theorem step_isSome_of_harmless (h : s.Inv)
    (hown : ∀ task ∈ s.tasksOf tag, outcomes.Encodable task.call.method)
    (he : Harmless tag outcomes (some s) e) : (s.step e).isSome := by
  cases e with
  | receive request created =>
    obtain ⟨⟨stub, outputs⟩, hprocess⟩ := Option.isSome_iff_exists.mp he
    simp [step, receive, hprocess]
  | complete index answers =>
    show (s.complete index answers).isSome
    unfold complete
    cases hget : s.pending[index]? with
    | none => rfl
    | some entry =>
      obtain ⟨owner, task⟩ := entry
      have hwritten : answers.Encodable task.call.method := by
        have hanswers := he owner task hget
        split at hanswers
        · rename_i howner
          subst howner
          rw [hanswers]
          exact hown task (mem_ofTag.mpr (List.mem_of_getElem? hget))
        · exact hanswers
      rw [← SessionStub.finish_isSome_iff h.connected] at hwritten
      exact (isSome_bind_some _ _).trans hwritten

/-- What holds of the request while it is in flight. -/
structure InFlight (tag : Nat) (ids : List Nat) (outcomes : Outcomes) (s : Server C) : Prop
    extends s.Accounts tag ids where
  encodable : ∀ task ∈ s.tasksOf tag, outcomes.Encodable task.call.method

theorem inFlight_step {o : Option (Server C)} (stub : SessionStub C)
    (h : ∃ s, o = some s ∧ s.InFlight tag ids outcomes) (he : Harmless tag outcomes o e) :
    ∃ s', (system stub).step o e = some s' ∧ s'.InFlight tag ids outcomes := by
  obtain ⟨s, rfl, h⟩ := h
  obtain ⟨s', hs⟩ :=
    Option.isSome_iff_exists.mp (step_isSome_of_harmless h.inv h.encodable he)
  refine ⟨s', hs, h.toAccounts.step hs, ?_⟩
  intro task hmem
  exact h.encodable task (h.tasksOf_step hs hmem)

/-- Every service call may finish: some harmless continuation empties the list of
coroutines in flight. -/
theorem exists_drained (stub : SessionStub C) (h : s.InFlight tag ids outcomes) :
    ∃ after s', (system stub).MeetsFrom (Harmless tag outcomes) (some s) after ∧
      (system stub).runFrom (some s) after = some s' ∧ s'.pending = [] := by
  have hreach := (system stub).exists_reaches
    (fun o => ∃ s, o = some s ∧ s.InFlight tag ids outcomes)
    (fun o => ∃ s, o = some s ∧ s.pending = []) (Harmless tag outcomes)
    (fun o => o.elim 0 (·.pending.length)) ?_ ⟨s, rfl, h⟩
  · obtain ⟨after, hmeets, s', hrun, hpending⟩ := hreach
    exact ⟨after, s', hmeets, hrun, hpending⟩
  · rintro _ ⟨s, rfl, h⟩ hbusy
    have hne : s.pending ≠ [] := fun hnone => hbusy ⟨s, rfl, hnone⟩
    obtain ⟨⟨owner, task⟩, rest, heq⟩ := List.exists_cons_of_ne_nil hne
    -- another request is answered with an error, which can always be written
    let answers : Outcomes :=
      if owner = tag then outcomes else fun _ => .error ⟨StatusCode.bad, by decide⟩
    have he : Harmless tag outcomes (some s) (.complete 0 answers) := by
      intro owner' task' hget
      rw [heq] at hget
      cases hget
      by_cases howner : owner = tag
      · simp [answers, howner]
      · simp only [answers, howner, if_false]
        intro results hok
        cases hok
    obtain ⟨s', hs, hnext⟩ := inFlight_step stub ⟨s, rfl, h⟩ he
    refine ⟨.complete 0 answers, he, ⟨s', hs, hnext⟩, ?_⟩
    rw [hs]
    have hcomplete : s.complete 0 answers = some s' := hs
    rcases complete_cases h.inv hcomplete with ⟨hnone, -⟩ | ⟨-, -, -, -, -, -, -, -, hpending, -⟩
    · -- the list is not empty, so there is a coroutine to finish
      simp [heq] at hnone
    · simp [hpending, heq]

/-- The request that arrives in the state `s` is answered exactly once, under its own
id: its service calls can finish, the program goes on as long as no other request ends
it, and whenever the calls have finished, the ids of the responses sent for the request
are its id alone. -/
def AnsweredOnce (stub : SessionStub C) (s : Server C) (request : Request) (created : Bool)
    (outcomes : Outcomes) : Prop :=
  let S := system stub
  let received := s.receive request created
  (∃ after s', S.MeetsFrom (Harmless s.arrived outcomes) received after ∧
    S.runFrom received after = some s' ∧ s'.tasksOf s.arrived = []) ∧
  ∀ after, S.MeetsFrom (Harmless s.arrived outcomes) received after →
    ∃ s', S.runFrom received after = some s' ∧
      (s'.tasksOf s.arrived = [] →
        (s'.responsesTo s.arrived).map (·.requestId) = [request.requestId])

section Answered

variable {stub : SessionStub C}

theorem Accounts.responsesTo_iff (h : s.Accounts tag ids) (hnone : s.tasksOf tag = [])
    (requestId : Nat) :
    (s.responsesTo tag).map (·.requestId) = [requestId] ↔ ids = [requestId] := by
  have hperm := h.perm
  simp only [account, hnone, List.map_nil, List.append_nil] at hperm
  rw [← List.perm_singleton, ← List.perm_singleton]
  exact ⟨hperm.symm.trans, hperm.trans⟩

/-- The question is settled when the request is processed. -/
theorem answeredOnce_iff_answers (stub : SessionStub C) (h : s.Inv) :
    AnsweredOnce stub s request created outcomes ↔
      ∃ stub' outputs, s.stub.processRequest request created = some (stub', outputs) ∧
        SessionStub.Answers outputs request.requestId outcomes := by
  constructor
  · rintro ⟨⟨after, last, hmeets, hrun, hquiet⟩, hanswered⟩
    -- the program survives the request
    obtain ⟨s₁, hreceive : s.receive request created = some s₁, -⟩ := hanswered [] trivial
    obtain ⟨outputs, hprocess, harrived, hpending, -⟩ := receive_cases hreceive
    obtain ⟨hperm, htasks⟩ := account_receive h hreceive hprocess
    refine ⟨s₁.stub, outputs, hprocess, ?_, ?_⟩
    · have haccounts : s₁.Accounts s.arrived (Output.ids outputs) :=
        ⟨inv_receive h hreceive, harrived ▸ Nat.lt_succ_self _, hperm⟩
      have hlast := haccounts.runFrom stub after (hreceive ▸ hrun)
      obtain ⟨last', hrun', hresponses⟩ := hanswered after hmeets
      cases hrun.symm.trans hrun'
      exact (hlast.responsesTo_iff hquiet _).mp (hresponses hquiet)
    · intro task hmem
      rw [← htasks] at hmem
      obtain ⟨index, hget⟩ := List.mem_iff_getElem?.mp (mem_ofTag.mp hmem)
      -- the program also survives the end of the call
      have he : Harmless s.arrived outcomes (some s₁) (.complete index outcomes) := by
        intro owner task' hget'
        cases hget.symm.trans hget'
        simp
      obtain ⟨s₂, hcomplete, -⟩ := hanswered [.complete index outcomes] (hreceive ▸ ⟨he, trivial⟩)
      rw [hreceive] at hcomplete
      change s₁.complete index outcomes = some s₂ at hcomplete
      rw [complete, hget] at hcomplete
      obtain ⟨_, hfinish, -⟩ := Option.bind_eq_some_iff.mp hcomplete
      rw [← SessionStub.finish_isSome_iff (inv_receive h hreceive).connected, hfinish]
      rfl
  · rintro ⟨stub', outputs, hprocess, hids, hencodable⟩
    have hsome : (s.receive request created).isSome := by simp [receive, hprocess]
    obtain ⟨s₁, hreceive⟩ := Option.isSome_iff_exists.mp hsome
    obtain ⟨hperm, htasks⟩ := account_receive h hreceive hprocess
    obtain ⟨-, -, harrived, -⟩ := receive_cases hreceive
    have hflight : s₁.InFlight s.arrived [request.requestId] outcomes :=
      ⟨⟨inv_receive h hreceive, harrived ▸ Nat.lt_succ_self _, hids ▸ hperm⟩,
        fun task hmem => hencodable task (htasks ▸ hmem)⟩
    simp only [AnsweredOnce, hreceive]
    constructor
    · obtain ⟨after, s', hmeets, hrun, hpending⟩ := exists_drained stub hflight
      exact ⟨after, s', hmeets, hrun, by simp [tasksOf, hpending, ofTag]⟩
    · intro after hmeets
      obtain ⟨s', hrun, hlast⟩ := (system stub).runFrom_invariant_of_meets
        (fun o => ∃ s', o = some s' ∧ s'.InFlight s.arrived [request.requestId] outcomes)
        (Harmless s.arrived outcomes) (fun _ _ hkept he => inFlight_step stub hkept he)
        ⟨s₁, rfl, hflight⟩ hmeets
      exact ⟨s', hrun, fun hnone => (hlast.responsesTo_iff hnone _).mpr rfl⟩

end Answered

theorem inv_run {stub : SessionStub C} (hall : stub.services = {})
    (hconn : stub.connection.isSome) {es : List Event} (hs : (system stub).run es = some s) :
    s.Inv := by
  refine (system stub).invariant (fun o => ∀ s, o = some s → s.Inv) ?_ ?_ es s hs
  · intro s₀ hs₀
    cases hs₀
    exact ⟨by simp, by simp, hall, hconn⟩
  · intro o e hkept s₁ hs₁
    obtain ⟨s₀, rfl, hstep⟩ := Option.bind_eq_some_iff.mp hs₁
    exact inv_step (hkept s₀ rfl) hstep

/-- **Which requests are answered exactly once, under their own id.** In a session
with all services that stays connected, and whatever came before, a request with
exactly one operation is answered so if and only if

* it does not delete a subscription under a non-zero id,
* it does not create or delete a monitored item in a subscription the session does not
  have, or create one for an attribute without a name,
* the session can read its inputs, and
* what the services return for it can be written. -/
theorem answeredOnce_iff_answerable {stub : SessionStub C} (hall : stub.services = {})
    (hconn : stub.connection.isSome) (before : List Event)
    (hs : (system stub).run before = some s) {op : Operation} (hop : request.Carries op)
    (created : Bool) (outcomes : Outcomes) :
    AnsweredOnce stub s request created outcomes ↔ Answerable s.stub request outcomes := by
  have hinv := inv_run hall hconn hs
  rw [answeredOnce_iff_answers stub hinv]
  exact s.stub.answers_iff_answerable hinv.services hop created outcomes

def exampleStub : SessionStub Unit := { userId := {}, connection := some () }

def exampleOutcomes : Outcomes := fun _ => .error ⟨StatusCode.bad, by decide⟩

theorem answeredOnce_iff_answerable_ping :
    AnsweredOnce exampleStub { stub := exampleStub } { requestId := 5, ping := true } true
      exampleOutcomes := by
  have hping : ({ requestId := 5, ping := true } : Request).Carries .ping := by
    intro op'
    cases op' <;> rfl
  have hreadable : ({ requestId := 5, ping := true } : Request).Readable ∅ := by
    constructor <;> simp
  refine (answeredOnce_iff_answerable rfl rfl [] rfl hping true exampleOutcomes).mpr ?_
  refine ⟨by simp, by simp, by simp, hreadable, ?_⟩
  -- an error can always be written
  intro method _ results hok
  cases hok

/-- Request 5 asks to delete subscription 1; its answer carries the id 0. -/
theorem delete_subscription_answered_under_wrong_id :
    let request : Request := { requestId := 5, deleteSubscription := some 1 }
    request.Carries .deleteSubscription ∧ exampleStub.services = {} ∧
      exampleStub.connection.isSome ∧
      ¬ AnsweredOnce exampleStub { stub := exampleStub } request true exampleOutcomes := by
  refine ⟨fun op' => by cases op' <;> rfl, rfl, rfl, ?_⟩
  rintro ⟨-, hanswer⟩
  obtain ⟨s', hrun, hids⟩ := hanswer [] trivial
  cases hrun
  exact absurd (hids rfl) (by decide)

end Server

end ScadaCore.Remote
