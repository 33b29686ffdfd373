import ScadaCore.Remote.ItemTraffic
import ScadaCore.Remote.SubscriptionStub

/-!
# Remote.ItemAgreement — the monitored items of client and server

The client subscription and the server's `SubscriptionStub`, joined by two
reliable FIFO channels. The requests that the client has sent and the server
has not served yet are the `requests` of the client's router; the responses and
notifications on their way back are the `inbox`. A session carries one
subscription, and its requests are served for that one.

The two parties agree in a quiet state if the server holds exactly the items
that are created at the client. What the client will hold once it has taken in
its inbox is known in advance (`after`), and the invariant compares that with
what the server will hold once the deletions under way have reached it.
-/

namespace ScadaCore.Remote

open Scada SubscriptionProxy ProxyRequest

/-! ## The two parties -/

/-- What the server sends. Nobody waits for the response to a deletion. -/
inductive ServerMessage (V : Type) where
  | subscriptionCreated (subscriptionId : Nat)
  | itemCreated (item : Nat) (status : Status) (monitoredItemId : Nat)
  | itemDeleted
  | notification (notification : Notification V)

/-- Client and server of a session. The server side exists while the session
does, and from the creation of the subscription on. -/
structure ItemLink (V : Type) where
  client : SubscriptionProxy V := {}
  server : Option SubscriptionStub := none
  inbox : List (ServerMessage V) := []

namespace ItemLink

variable {V : Type} (link : ItemLink V)

def requests : List ProxyRequest := link.client.router.requests

def setRequests (requests : List ProxyRequest) : ItemLink V :=
  { link with client := { link.client with router := { link.client.router with requests } } }

def push (messages : List (ServerMessage V)) : ItemLink V :=
  { link with inbox := link.inbox ++ messages }

/-! ## The server -/

def createdId : Result → Nat
  | .createMonitoredItem monitoredItemId => monitoredItemId
  | _ => 0

/-- The server serves a request; `created` says whether its adapter has an item
for a create request. -/
def serveRequest (created : Bool) : ProxyRequest → Option (ItemLink V)
  | .createSubscription =>
    some ({ link with server := some { subscriptionId := 1 } }.push [.subscriptionCreated 1])
  | .createMonitoredItem item _ valueId =>
    match link.server with
    | none => some link
    | some stub =>
      (stub.onCreateMonitoredItem 0 valueId created).map fun result =>
        { link with server := some result.1 }.push
          [.itemCreated item result.2.status (createdId result.2.result)]
  | .deleteMonitoredItem _ monitoredItemId =>
    match link.server with
    | none => some link
    | some stub =>
      let result := stub.onDeleteMonitoredItem 0 monitoredItemId
      some ({ link with server := some result.1 }.push [.itemDeleted])

def serve (created : Bool) : Option (ItemLink V) :=
  match link.requests with
  | [] => some link
  | request :: rest => (link.setRequests rest).serveRequest created request

/-- The backend delivers a value. Data changes are subscribed for the attribute
Value only. -/
def backendDataChange (monitoredItemId : Nat) (value : DataValue V) : Option (ItemLink V) :=
  match link.server with
  | none => some link
  | some stub =>
    if (stub.monitoredItems monitoredItemId).any (·.attributeId == .value) then
      (stub.onDataChange monitoredItemId value).map fun result =>
        { link with server := some result.1 }.push (result.2.map .notification)
    else
      some link

/-- The backend delivers an event. Events are subscribed for the attribute
EventNotifier only. -/
def backendEvent (monitoredItemId : Nat) (status : Status) (event : EventPayload) : ItemLink V :=
  match link.server with
  | none => link
  | some stub =>
    if (stub.monitoredItems monitoredItemId).any (·.attributeId == .eventNotifier) then
      let result := stub.onEvent (V := V) monitoredItemId status.code event
      { link with server := some result.1 }.push (result.2.map .notification)
    else
      link

/-! ## The client -/

/-- The loops over the data changes and the events of a notification in
`SessionProxy::OnMessageReceived`. -/
def onNotification [BEq V] (client : SubscriptionProxy V) (notification : Notification V) :
    Option (SubscriptionProxy V) := do
  let client ← notification.dataChanges.foldlM
    (fun client change => client.onDataChange change.1 change.2) client
  notification.events.foldlM
    (fun client event => client.onEvent notification.monitoredItemId
      (notification.statusCode.getD .good) event) client

def receive [BEq V] (client : SubscriptionProxy V) (now : Nat → Time) :
    ServerMessage V → Option (SubscriptionProxy V)
  | .subscriptionCreated subscriptionId =>
    client.onCreateSubscriptionResult StatusCode.good subscriptionId now
  | .itemCreated item status monitoredItemId =>
    client.withItem item
      (MonitoredItemProxy.onCreateMonitoredItemResult item status monitoredItemId)
  | .itemDeleted => some client
  | .notification notification => onNotification client notification

def deliver [BEq V] (link : ItemLink V) (now : Nat → Time) : Option (ItemLink V) :=
  match link.inbox with
  | [] => some link
  | message :: rest =>
    (receive link.client now message).map fun client => { link with client, inbox := rest }

/-- The response handler of a request runs with `Bad_Disconnected`. -/
def failRequest (client : SubscriptionProxy V) : ProxyRequest → Option (SubscriptionProxy V)
  | .createSubscription =>
    client.onCreateSubscriptionResult StatusCode.badDisconnected 0 fun _ => nullTime
  | .createMonitoredItem item _ _ =>
    client.withItem item
      (MonitoredItemProxy.onCreateMonitoredItemResult item StatusCode.badDisconnected 0)
  | .deleteMonitoredItem _ _ => some client

def answeredRequest : ServerMessage V → Option ProxyRequest
  | .subscriptionCreated _ => some .createSubscription
  | .itemCreated item _ _ => some (.createMonitoredItem item 0 {})
  | _ => none

/-- `OnSessionDeleted`: what is in flight is lost, the pending requests fail,
oldest first, and the channel closes. -/
def disconnect : Option (ItemLink V) := do
  let pending := link.inbox.filterMap answeredRequest ++ link.requests
  let client ← pending.foldlM failRequest link.client
  let client ← client.onChannelClosed
  return { client := { client with router := { client.router with requests := [] } } }

/-! ## The event system -/

inductive Event (V : Type) where
  | connect
  | disconnect
  | createMonitoredItem (valueId : ReadValueId)
  | subscribe (i : Nat) (handler : HandlerKind)
  | destroyItem (i : Nat)
  | serve (created : Bool)
  | deliver (now : Nat → Time)
  | dataChange (monitoredItemId : Nat) (value : DataValue V)
  | event (monitoredItemId : Nat) (status : Status) (event : EventPayload)

def withClient (client : Option (SubscriptionProxy V)) : Option (ItemLink V) :=
  client.map fun client => { link with client }

def step [BEq V] (link : ItemLink V) : Event V → Option (ItemLink V)
  | .connect =>
    if link.client.sender then some link else link.withClient link.client.onChannelOpened
  | .disconnect => if link.client.sender then link.disconnect else some link
  | .createMonitoredItem valueId => link.withClient (link.client.createMonitoredItem valueId)
  | .subscribe i handler =>
    link.withClient (link.client.withItem i (MonitoredItemProxy.subscribe i handler))
  | .destroyItem i => link.withClient (link.client.destroyItem i)
  | .serve created => link.serve created
  | .deliver now => link.deliver now
  | .dataChange monitoredItemId value => link.backendDataChange monitoredItemId value
  | .event monitoredItemId status event => some (link.backendEvent monitoredItemId status event)

def system [BEq V] : Lts.System (Option (ItemLink V)) (Event V) :=
  ⟨some {}, fun link e => link.bind (step · e)⟩

/-! ## Agreement -/

def holds (id : Nat) : Prop :=
  ∃ stub valueId, link.server = some stub ∧ stub.monitoredItems id = some valueId

/-- In a quiet state with the channel open, the server holds exactly the ids of
the items created at the client. -/
def Agreed : Prop :=
  link.client.sender = true → link.requests = [] → link.inbox = [] →
    ∀ id, link.holds id ↔ ∃ i item, link.client.items i = some item ∧
      item.state = .created ∧ item.monitoredItemId = id

/-- The condition on a step. An item gets one subscriber, with a handler of the
right kind, and is not destroyed while it is being created; a Bad value that
reaches the client differs from the value it already has; and a Bad status
leaves the backend with an event that can be sent. -/
def Safe [BEq V] (link : ItemLink V) : Event V → Prop
  | .subscribe i handler => link.client.Allowed (.subscribe i handler)
  | .destroyItem i => ∀ item, link.client.items i = some item → item.state ≠ .creating
  | .deliver _ =>
    ∀ notification rest, link.inbox = .notification notification :: rest →
      ∀ change ∈ notification.dataChanges, change.2.statusCode.isBad = true →
        ∀ i item, link.client.router.monitoredItemIds change.1 = some i →
          link.client.items i = some item → (change.2 == item.currentData) = false
  | .event _ status event =>
    status.bad = true → ∃ sent, SubscriptionStub.eventPayload event = some [sent]
  | _ => True

/-! ## The invariant -/

def creation : ServerMessage V → Option Nat
  | .itemCreated _ status id => if status.bad then none else some id
  | _ => none

def answers : ServerMessage V → Option Nat
  | .itemCreated item _ _ => some item
  | _ => none

def drops (notification : Notification V) (id : Nat) : Bool :=
  notification.dataChanges.any (fun change => change.1 == id && change.2.statusCode.isBad) ||
    (!notification.events.isEmpty && notification.monitoredItemId == id &&
      Status.bad (notification.statusCode.getD .good))

/-- Whether an id is registered at the client after a message. -/
def effect (id : Nat) (registered : Bool) : ServerMessage V → Bool
  | .itemCreated _ status id' => if !status.bad && id' == id then true else registered
  | .notification notification => if drops notification id then false else registered
  | _ => registered

/-- Whether an id is registered at the client after it has taken in all that is
on its way. -/
def after (id : Nat) (registered : Bool) (messages : List (ServerMessage V)) : Bool :=
  messages.foldl (effect id) registered

theorem after_append (id : Nat) (registered : Bool) (messages messages' : List (ServerMessage V)) :
    after id registered (messages ++ messages') =
      after id (after id registered messages) messages' :=
  List.foldl_append

variable {id : Nat} {messages : List (ServerMessage V)} {link link' : ItemLink V}
    {client : SubscriptionProxy V} {stub : SubscriptionStub} {rest : List ProxyRequest}

theorem effect_eq_true {registered : Bool} {message : ServerMessage V}
    (h : effect id registered message = true) : registered = true ∨ creation message = some id := by
  cases message with
  | itemCreated item status id' =>
    by_cases hnew : status.bad = false ∧ id' = id
    · exact .inr (by simp [creation, hnew])
    · exact .inl (by simpa [effect, hnew] using h)
  | notification notification =>
    by_cases hdrops : drops notification id = true
    · simp [effect, hdrops] at h
    · exact .inl (by simpa [effect, hdrops] using h)
  | subscriptionCreated _ | itemDeleted => exact .inl h

theorem after_eq_true {registered : Bool} (h : after id registered messages = true) :
    registered = true ∨ id ∈ messages.filterMap creation := by
  induction messages generalizing registered with
  | nil => exact .inl h
  | cons message messages ih =>
    rcases ih h with hhead | hmem
    · exact (effect_eq_true hhead).imp_right fun hnew => by simp [hnew]
    · exact .inr (((List.sublist_cons_self _ _).filterMap _).subset hmem)

theorem after_false (h : id ∉ messages.filterMap creation) : after id false messages = false := by
  by_contra hyes
  exact (after_eq_true (Bool.not_eq_false _ ▸ hyes)).elim Bool.false_ne_true h

/-- The notifications of the server have one data change, or at most one event. -/
def Single (notification : Notification V) : Prop :=
  (∃ change, notification.dataChanges = [change] ∧ notification.events = []) ∨
    notification.dataChanges = [] ∧
      (notification.events = [] ∨ ∃ event, notification.events = [event])

def pendingItems (link : ItemLink V) : List Nat :=
  link.inbox.filterMap answers ++ link.requests.filterMap creates

def deletions (link : ItemLink V) : List Nat := link.requests.filterMap deletes

structure Inv (link : ItemLink V) : Prop where
  client : link.client.Inv
  closed : link.client.sender = false → link.server = none ∧ link.inbox = [] ∧ link.requests = []
  opening : link.requests.count .createSubscription + (if link.server.isSome then 1 else 0) ≤ 1
  agree : ∀ id, link.holds id ∧ id ∉ link.deletions ↔
    after id (link.client.registered id) link.inbox = true
  bounded : ∀ id, link.holds id ∨ id ∈ link.deletions ∨ link.client.registered id = true ∨
    id ∈ link.inbox.filterMap creation →
    ∃ stub, link.server = some stub ∧ id < stub.nextMonitoredItemId
  distinct : (link.inbox.filterMap creation).Nodup ∧
    ∀ id ∈ link.inbox.filterMap creation,
      link.client.registered id = false ∧ id ∉ link.deletions
  pending : link.pendingItems.Nodup ∧ ∀ i ∈ link.pendingItems, link.client.Creating i
  single : ∀ notification, .notification notification ∈ link.inbox → Single notification

theorem Inv.agreed (h : link.Inv) : link.Agreed := by
  intro _ hrequests hinbox id
  have hagree := h.agree id
  have hnone : id ∉ link.deletions := by simp [deletions, hrequests]
  rw [hinbox] at hagree
  rw [← h.client.registered_iff id]
  constructor
  · intro hholds
    exact hagree.mp ⟨hholds, hnone⟩
  · intro hregistered
    exact (hagree.mpr hregistered).1

theorem inv_idle (hclient : client.Inv) (hidle : ∀ id, client.registered id = false)
    (hrequests : client.router.requests = [] ∨
      client.sender = true ∧ client.router.requests = [.createSubscription]) :
    Inv ({ client } : ItemLink V) := by
  have hnone : deletions ({ client } : ItemLink V) = [] ∧
      pendingItems ({ client } : ItemLink V) = [] := by
    rcases hrequests with hrequests | ⟨-, hrequests⟩ <;>
      simp [deletions, pendingItems, requests, hrequests, deletes, creates]
  refine ⟨hclient, ?_, ?_, ?_, ?_, ⟨List.nodup_nil, by simp⟩, by simp [hnone], by simp⟩
  · intro hclosed
    rcases hrequests with hrequests | ⟨hopen, -⟩
    · exact ⟨rfl, rfl, hrequests⟩
    · cases hopen.symm.trans hclosed
  · rcases hrequests with hrequests | ⟨-, hrequests⟩ <;> simp [requests, hrequests]
  · intro id
    simp [holds, after, hidle]
  · intro id
    simp [holds, hnone, hidle]

theorem inv_init : Inv ({} : ItemLink V) :=
  inv_idle SubscriptionProxy.inv_init (fun _ => rfl) (.inl rfl)

/-! ### Steps of the client -/

theorem Inv.sends (h : link.Inv) {sent : List ProxyRequest}
    (hsends : link.client.Sends client sent) : Inv { link with client } := by
  have hrequests : requests { link with client } = link.requests ++ sent := hsends.requests
  have hdeletions : deletions { link with client } =
      link.deletions ++ sent.filterMap deletes := by
    rw [deletions, hrequests, List.filterMap_append]
    rfl
  -- what is registered and not in `sent` stays so
  have hkeeps : ∀ id, id ∉ sent.filterMap deletes →
      client.registered id = link.client.registered id := by
    intro id hid
    rw [Bool.eq_iff_iff, hsends.registered id]
    exact and_iff_left hid
  -- and what is deleted has been registered, so that it is not on its way
  have hfresh : ∀ id ∈ sent.filterMap deletes,
      id ∉ link.inbox.filterMap creation := by
    intro id hid hmem
    exact Bool.false_ne_true ((h.distinct.2 id hmem).1.symm.trans (hsends.deletes id hid))
  refine {
    client := hsends.inv, closed := ?closed, opening := ?opening, agree := ?agree
    bounded := ?bounded, distinct := ?distinct, pending := ?pending, single := h.single }
  case closed =>
    intro hclosed
    rw [show client.sender = link.client.sender from hsends.sender] at hclosed
    obtain ⟨hserver, hinbox, hnone⟩ := h.closed hclosed
    refine ⟨hserver, hinbox, ?_⟩
    rw [hrequests, hnone, hsends.closed hclosed]
    rfl
  case opening =>
    rw [hrequests, List.count_append, List.count_eq_zero_of_not_mem hsends.items_only]
    exact h.opening
  case agree =>
    intro id
    rw [hdeletions, List.mem_append, not_or]
    by_cases hid : id ∈ sent.filterMap deletes
    · -- a deletion is under way from now on
      have hgone : client.registered id = false := by
        by_contra hyes
        exact ((hsends.registered id).mp (Bool.not_eq_false _ ▸ hyes)).2 hid
      refine iff_of_false (fun hno => hno.2.2 hid) ?_
      simp [hgone, after_false (hfresh id hid)]
    · rw [hkeeps id hid, and_iff_left hid]
      exact h.agree id
  case bounded =>
    intro id hid
    refine h.bounded id ?_
    rw [hdeletions, List.mem_append] at hid
    rcases hid with hholds | (hdel | hdel) | hreg | hcreated
    · exact .inl hholds
    · exact .inr (.inl hdel)
    · exact .inr (.inr (.inl (hsends.deletes id hdel)))
    · exact .inr (.inr (.inl ((hsends.registered id).mp hreg).1))
    · exact .inr (.inr (.inr hcreated))
  case distinct =>
    refine ⟨h.distinct.1, ?_⟩
    intro id hid
    obtain ⟨hreg, hdel⟩ := h.distinct.2 id hid
    have hnot : id ∉ sent.filterMap deletes := fun hmem => hfresh id hmem hid
    refine ⟨(hkeeps id hnot).trans hreg, ?_⟩
    rw [hdeletions, List.mem_append, not_or]
    exact ⟨hdel, hnot⟩
  case pending =>
    have hpending : pendingItems { link with client } =
        link.pendingItems ++ sent.filterMap creates := by
      rw [pendingItems, hrequests, List.filterMap_append, ← List.append_assoc]
      rfl
    rw [hpending]
    refine ⟨List.nodup_append.mpr ⟨h.pending.1, hsends.creates.1, ?_⟩, ?_⟩
    · rintro i hi j hj rfl
      exact (hsends.creates.2 i hj).2 (h.pending.2 i hi)
    · intro i hi
      rcases List.mem_append.mp hi with hold | hnew
      · exact hsends.creating i (h.pending.2 i hold)
      · exact (hsends.creates.2 i hnew).1

theorem Inv.connect (h : link.Inv) (hclosed : link.client.sender = false)
    (heq : link.client.onChannelOpened = some client) : Inv { link with client } := by
  have hinv := (onChannelOpened_outcome h.client hclosed).inv heq
  obtain ⟨hserver, hinbox, hrequests⟩ := h.closed hclosed
  have hidle : ∀ id, link.client.registered id = false := by
    intro id
    by_contra hyes
    obtain ⟨stub, hstub, -⟩ := h.bounded id (.inr (.inr (.inl (Bool.not_eq_false _ ▸ hyes))))
    cases hserver.symm.trans hstub
  obtain ⟨client₀, server, inbox⟩ := link
  cases hserver
  cases hinbox
  unfold onChannelOpened at heq
  simp only [check_bind] at heq
  split at heq
  · split at heq
    · cases heq
      refine inv_idle hinv hidle (.inr ⟨rfl, ?_⟩)
      show client₀.router.requests ++ _ = _
      rw [show client₀.router.requests = [] from hrequests]
      rfl
    · cases heq
  · cases heq

/-! ### Deliveries -/

/-- The client takes in a message, to the effect foreseen. -/
theorem Inv.takes (h : link.Inv) {message : ServerMessage V} {rest : List (ServerMessage V)}
    (hinbox : link.inbox = message :: rest) (htakes : link.client.Takes client
      (fun id => effect id (link.client.registered id) message)
      fun i => answers message = some i) : Inv { link with client, inbox := rest } := by
  have hrequests : requests { link with client, inbox := rest } = link.requests := htakes.requests
  have hdeletions : deletions { link with client, inbox := rest } = link.deletions := by
    rw [deletions, hrequests]
    rfl
  have hrest : (rest.filterMap creation).Sublist (link.inbox.filterMap creation) :=
    hinbox ▸ (List.sublist_cons_self message rest).filterMap creation
  have hfresh : ∀ id, creation message = some id →
      id ∈ link.inbox.filterMap creation ∧ id ∉ rest.filterMap creation := by
    intro id hid
    have hnodup := h.distinct.1
    rw [hinbox, List.filterMap_cons, hid] at hnodup ⊢
    exact ⟨List.mem_cons_self, (List.nodup_cons.mp hnodup).1⟩
  refine {
    client := htakes.inv, closed := ?closed, opening := ?opening, agree := ?agree
    bounded := ?bounded, distinct := ⟨?nodup, ?distinct⟩, pending := ?pending, single := ?single }
  case closed =>
    intro hclosed
    have hnone := (h.closed (htakes.sender.symm.trans hclosed)).2.1
    cases hinbox.symm.trans hnone
  case opening =>
    rw [hrequests]
    exact h.opening
  case agree =>
    intro id
    rw [hdeletions]
    have hagree := h.agree id
    rw [hinbox] at hagree
    show link.holds id ∧ _ ↔ after id (client.registered id) rest = true
    rw [htakes.registered id]
    exact hagree
  case bounded =>
    intro id hid
    refine h.bounded id ?_
    rw [hdeletions] at hid
    rcases hid with hholds | hdel | hreg | hcreated
    · exact .inl hholds
    · exact .inr (.inl hdel)
    · rcases effect_eq_true ((htakes.registered id).symm.trans hreg) with hold | hnew
      · exact .inr (.inr (.inl hold))
      · exact .inr (.inr (.inr (hfresh id hnew).1))
    · exact .inr (.inr (.inr (hrest.subset hcreated)))
  case nodup => exact h.distinct.1.sublist hrest
  case distinct =>
    intro id hid
    obtain ⟨hreg, hdel⟩ := h.distinct.2 id (hrest.subset hid)
    rw [hdeletions]
    refine ⟨?_, hdel⟩
    rw [Bool.eq_false_iff, ne_eq, htakes.registered id]
    intro hyes
    rcases effect_eq_true hyes with hold | hnew
    · cases hreg.symm.trans hold
    · exact (hfresh id hnew).2 hid
  case pending =>
    -- the response taken in was for one item, the others still wait
    have hpending := h.pending
    unfold pendingItems at hpending ⊢
    rw [hinbox, List.filterMap_cons] at hpending
    rw [hrequests]
    cases hanswers : answers message with
    | none =>
      simp only [hanswers] at hpending
      refine ⟨hpending.1, ?_⟩
      intro i hi
      exact htakes.creating i (by rw [hanswers]; exact fun hno => by cases hno)
        (hpending.2 i hi)
    | some j =>
      simp only [hanswers, List.cons_append, List.nodup_cons] at hpending
      refine ⟨hpending.1.2, ?_⟩
      intro i hi
      refine htakes.creating i ?_ (hpending.2 i (List.mem_cons_of_mem _ hi))
      rw [hanswers]
      rintro hij
      cases hij
      exact hpending.1.1 hi
  case single =>
    intro notification hmem
    refine h.single notification ?_
    rw [hinbox]
    exact List.mem_cons_of_mem _ hmem

/-- A notification has the effect foreseen. -/
theorem onNotification_takes [BEq V] {client' : SubscriptionProxy V} (h : client.Inv)
    {notification : Notification V} (hsingle : Single notification)
    (hdiffers : ∀ change ∈ notification.dataChanges, change.2.statusCode.isBad = true →
      ∀ i item, client.router.monitoredItemIds change.1 = some i → client.items i = some item →
        (change.2 == item.currentData) = false)
    (heq : onNotification client notification = some client') :
    client.Takes client'
      (fun id => if drops notification id then false else client.registered id)
      fun _ => False := by
  unfold onNotification at heq
  rcases hsingle with ⟨change, hchanges, hevents⟩ | ⟨hchanges, hevents | ⟨event, hevents⟩⟩
  · have hstep : client.onDataChange change.1 change.2 = some client' := by
      simpa [hchanges, hevents] using heq
    have htakes := onDataChange_takes h
      (fun hbad => hdiffers change (by simp [hchanges]) hbad) hstep
    simpa [drops, hchanges, hevents] using htakes
  · have hsame : client = client' := by simpa [hchanges, hevents] using heq
    subst hsame
    simpa [drops, hchanges, hevents] using
      takes_nothing h fun _ => False
  · have hstep : client.onEvent notification.monitoredItemId
        (notification.statusCode.getD .good) event = some client' := by
      simpa [hchanges, hevents] using heq
    have htakes := onEvent_takes h hstep
    simpa [drops, hchanges, hevents] using htakes

theorem Inv.deliver [BEq V] (h : link.Inv) {now : Nat → Time} (hsafe : link.Safe (.deliver now))
    (heq : link.deliver now = some link') : link'.Inv := by
  unfold ItemLink.deliver at heq
  cases hinbox : link.inbox with
  | nil =>
    simp only [hinbox] at heq
    cases heq
    exact h
  | cons message rest =>
    simp only [hinbox] at heq
    obtain ⟨client, hreceive, rfl⟩ := Option.map_eq_some_iff.mp heq
    cases message with
    | subscriptionCreated subscriptionId =>
      -- the message itself has no effect; opening the items sends requests
      have hpopped : Inv { link with client := link.client, inbox := rest } :=
        h.takes hinbox (takes_nothing h.client _)
      obtain ⟨sent, hsends⟩ :=
        onCreateSubscriptionResult_sends h.client hreceive
      exact hpopped.sends hsends
    | itemCreated i status id =>
      have hcreating : link.client.Creating i := by
        refine h.pending.2 i ?_
        unfold pendingItems
        rw [hinbox]
        exact List.mem_append_left _ List.mem_cons_self
      have htakes := createMonitoredItemResult_takes h.client hcreating
        hreceive
      refine h.takes hinbox ⟨htakes.inv, htakes.sender, htakes.requests, htakes.registered, ?_⟩
      intro j hj
      exact htakes.creating j fun hji => hj (by rw [hji]; rfl)
    | itemDeleted =>
      cases hreceive
      exact h.takes hinbox (takes_nothing h.client _)
    | notification notification =>
      have hsingle := h.single notification (by rw [hinbox]; exact List.mem_cons_self)
      have htakes := onNotification_takes h.client hsingle
        (hsafe notification rest hinbox) hreceive
      refine h.takes hinbox ⟨htakes.inv, htakes.sender, htakes.requests, htakes.registered, ?_⟩
      intro j _
      exact htakes.creating j fun hno => hno

/-! ### Steps of the server -/

def held (server : Option SubscriptionStub) (id : Nat) : Bool :=
  server.any fun stub => (stub.monitoredItems id).isSome

def nextId (server : Option SubscriptionStub) : Nat := server.elim 0 (·.nextMonitoredItemId)

theorem holds_iff (link : ItemLink V) (id : Nat) : link.holds id ↔ held link.server id = true := by
  simp [holds, held, Option.any_eq_true, Option.isSome_iff_exists]

theorem lt_nextId_iff {server : Option SubscriptionStub} :
    id < nextId server ↔ ∃ stub, server = some stub ∧ id < stub.nextMonitoredItemId := by
  cases server <;> simp [nextId]

/-- An id that the server has not given out is in use nowhere. -/
theorem Inv.unseen (h : link.Inv) (hnext : nextId link.server ≤ id) :
    held link.server id = false ∧ id ∉ link.deletions ∧ link.client.registered id = false ∧
      id ∉ link.inbox.filterMap creation := by
  have hunused := mt (h.bounded id) (lt_nextId_iff.not.mp (Nat.not_lt.mpr hnext))
  simpa only [holds_iff, not_or, Bool.not_eq_true] using hunused

/-- The server takes the requests `popped`, which may be none, and sends
`messages`, after which it holds what the client is going to have registered. -/
theorem Inv.serverStep (h : link.Inv) {server : Option SubscriptionStub}
    {popped : List ProxyRequest} (hrequests : link.requests = popped ++ rest)
    (hopen : link.server.isSome = true ∨ popped ≠ [])
    (hopened : server.isSome = true → link.server.isSome = true ∨ .createSubscription ∈ popped)
    (hnext : nextId link.server ≤ nextId server)
    (hagree : ∀ id, held server id = true ∧ id ∉ rest.filterMap deletes ↔
      after id (held link.server id && decide (id ∉ link.deletions)) messages = true)
    (hcreated : ∀ id ∈ messages.filterMap creation, nextId link.server ≤ id ∧ id < nextId server)
    (hnodup : (messages.filterMap creation).Nodup)
    (hanswers : (messages.filterMap answers).Sublist (popped.filterMap creates))
    (hsingle : ∀ notification, .notification notification ∈ messages → Single notification) :
    Inv ({ link.setRequests rest with server }.push messages) := by
  have hdeletions : ∀ id, id ∈ rest.filterMap deletes → id ∈ link.deletions := by
    intro id hid
    rw [deletions, hrequests, List.filterMap_append]
    exact List.mem_append_right _ hid
  have hcreations : ∀ id, id ∈ (link.inbox ++ messages).filterMap creation ↔
      id ∈ link.inbox.filterMap creation ∨ id ∈ messages.filterMap creation := by
    intro id
    rw [List.filterMap_append, List.mem_append]
  refine {
    client := h.client.setRequests rest, closed := ?closed, opening := ?opening, agree := ?agree
    bounded := ?bounded, distinct := ⟨?nodup, ?distinct⟩, pending := ?pending, single := ?single }
  case closed =>
    intro hclosed
    obtain ⟨hserver, -, hnone⟩ := h.closed hclosed
    rcases hopen with hsome | hpopped
    · simp [hserver] at hsome
    · exact absurd (List.append_eq_nil_iff.mp (hrequests.symm.trans hnone)).1 hpopped
  case opening =>
    have hopening := h.opening
    rw [hrequests, List.count_append] at hopening
    show rest.count _ + (if server.isSome then 1 else 0) ≤ 1
    cases server with
    | none =>
      have hzero : (if (none : Option SubscriptionStub).isSome = true then 1 else 0) = 0 := rfl
      omega
    | some stub =>
      rcases hopened rfl with hsome | hmem
      · rw [if_pos hsome] at hopening
        exact (Nat.le_add_left _ _).trans hopening
      · have hpos := List.count_pos_iff.mpr hmem
        have hone : (if (some stub).isSome = true then 1 else 0) = 1 := rfl
        omega
  case agree =>
    intro id
    have hbefore : (held link.server id && decide (id ∉ link.deletions)) =
        after id (link.client.registered id) link.inbox := by
      rw [Bool.eq_iff_iff, Bool.and_eq_true, decide_eq_true_iff, ← holds_iff]
      exact h.agree id
    have hafter := hagree id
    rw [hbefore, ← after_append] at hafter
    exact (and_congr_left fun _ => holds_iff _ id).trans hafter
  case bounded =>
    intro id hid
    rw [← lt_nextId_iff]
    -- an id that is given out now, or one that was in use before
    by_contra hle
    obtain ⟨hheld, hdel, hreg, hcre⟩ := h.unseen (hnext.trans (Nat.not_lt.mp hle))
    have hnew : id ∉ messages.filterMap creation := fun hmem => hle (hcreated id hmem).2
    rcases hid with hholds | hdel' | hreg' | hcre'
    · have hafter := (hagree id).mp ⟨(holds_iff _ id).mp hholds, fun hno => hdel (hdeletions id hno)⟩
      rw [hheld] at hafter
      exact Bool.false_ne_true ((after_false hnew).symm.trans hafter)
    · exact hdel (hdeletions id hdel')
    · exact Bool.false_ne_true (hreg.symm.trans hreg')
    · exact ((hcreations id).mp hcre').elim hcre hnew
  case nodup =>
    show ((link.inbox ++ messages).filterMap creation).Nodup
    rw [List.filterMap_append]
    refine List.nodup_append.mpr ⟨h.distinct.1, hnodup, ?_⟩
    rintro id hold id' hnew rfl
    exact (h.unseen (hcreated id hnew).1).2.2.2 hold
  case distinct =>
    intro id hid
    rcases (hcreations id).mp hid with hold | hnew
    · obtain ⟨hreg, hdel⟩ := h.distinct.2 id hold
      exact ⟨hreg, fun hno => hdel (hdeletions id hno)⟩
    · -- an id given out now has not been seen before
      obtain ⟨-, hdel, hreg, -⟩ := h.unseen (hcreated id hnew).1
      exact ⟨hreg, fun hno => hdel (hdeletions id hno)⟩
  case pending =>
    have hsub : ((link.inbox ++ messages).filterMap answers ++
        rest.filterMap creates).Sublist link.pendingItems := by
      rw [pendingItems, hrequests, List.filterMap_append, List.filterMap_append,
        List.append_assoc]
      exact (List.Sublist.refl _).append (hanswers.append (List.Sublist.refl _))
    exact ⟨h.pending.1.sublist hsub, fun i hi => h.pending.2 i (hsub.subset hi)⟩
  case single =>
    intro notification hmem
    rcases List.mem_append.mp hmem with hold | hnew
    · exact h.single notification hold
    · exact hsingle notification hnew

/-- Without a subscription the server drops the request, unless it creates
one. -/
theorem Inv.serveFirst (h : link.Inv) (hserver : link.server = none) {request : ProxyRequest}
    (hrequests : link.requests = [request] ++ rest) {server : Option SubscriptionStub}
    (hcases : server = none ∧ messages = [] ∨ request = .createSubscription ∧
      server = some { subscriptionId := 1 } ∧ messages = [.subscriptionCreated 1]) :
    Inv ({ link.setRequests rest with server }.push messages) := by
  have hquiet : messages.filterMap creation = [] ∧ messages.filterMap answers = [] ∧
      (∀ id, held server id = false ∧ after id false messages = false) ∧
      ∀ notification, .notification notification ∉ messages := by
    rcases hcases with ⟨rfl, rfl⟩ | ⟨-, rfl, rfl⟩ <;>
      exact ⟨rfl, rfl, fun _ => ⟨rfl, rfl⟩, by simp⟩
  obtain ⟨hcreations, hanswers, hsame, hsingle⟩ := hquiet
  refine h.serverStep hrequests (Or.inr (List.cons_ne_nil _ _)) ?_ ?_ ?_ ?_ ?_ ?_ ?_
  · rcases hcases with ⟨rfl, -⟩ | ⟨rfl, -⟩ <;> simp
  · rw [hserver]
    exact Nat.zero_le _
  · intro id
    rw [hserver]
    show _ ↔ after id false messages = true
    simp [hsame id]
  · simp [hcreations]
  · simp [hcreations]
  · simp [hanswers]
  · intro notification hmem
    exact absurd hmem (hsingle notification)

theorem good_not_bad : Status.bad StatusCode.good = false := by decide

theorem bad_is_bad : Status.bad StatusCode.bad = true := by decide

theorem Inv.served_create (h : link.Inv) (hserver : link.server = some stub)
    {i subscriptionId : Nat} {valueId : ReadValueId}
    (hrequests : link.requests = [.createMonitoredItem i subscriptionId valueId] ++ rest)
    {created : Bool} {result : SubscriptionStub × Response}
    (hresult : stub.onCreateMonitoredItem 0 valueId created = some result) :
    Inv ({ link.setRequests rest with server := some result.1 }.push
      [.itemCreated i result.2.status (createdId result.2.result)]) := by
  have hdeletions : link.deletions = rest.filterMap deletes := by
    rw [deletions, hrequests]
    rfl
  obtain ⟨client, server, inbox⟩ := link
  cases hserver
  unfold SubscriptionStub.onCreateMonitoredItem at hresult
  split at hresult
  · cases hresult
  cases created with
  | true =>
    cases hresult
    -- the id is new, so no deletion of it can be on its way
    have hnew : stub.nextMonitoredItemId ∉ deletions _ := (h.unseen (Nat.le_refl _)).2.1
    have hcreations : [(.itemCreated i StatusCode.good stub.nextMonitoredItemId :
        ServerMessage V)].filterMap creation = [stub.nextMonitoredItemId] := by
      simp [creation, good_not_bad]
    refine h.serverStep hrequests (Or.inl rfl) (fun _ => Or.inl rfl)
      (Nat.le_succ stub.nextMonitoredItemId) ?_ ?_ ?_ (List.Sublist.refl _) ?_
    · intro id
      rw [← hdeletions]
      by_cases hid : id = stub.nextMonitoredItemId
      · subst hid
        simp [after, effect, createdId, hnew, held, good_not_bad]
      · simp [after, effect, createdId, held, hid, Ne.symm hid]
    · intro id hid
      have hid' : id ∈ [stub.nextMonitoredItemId] := hcreations ▸ hid
      obtain rfl := List.mem_singleton.mp hid'
      exact ⟨Nat.le_refl _, Nat.lt_succ_self _⟩
    · exact hcreations ▸ List.nodup_singleton _
    · intro notification hmem
      cases List.mem_singleton.mp hmem
  | false =>
    cases hresult
    have hcreations : [(.itemCreated i StatusCode.bad 0 : ServerMessage V)].filterMap creation =
        [] := by
      simp [creation, bad_is_bad]
    refine h.serverStep hrequests (Or.inl rfl) (fun _ => Or.inl rfl) (Nat.le_refl _) ?_ ?_ ?_
      (List.Sublist.refl _) ?_
    · intro id
      rw [← hdeletions]
      simp [after, effect, held, bad_is_bad]
    · intro id hid
      have hno : id ∈ ([] : List Nat) := hcreations ▸ hid
      cases hno
    · exact hcreations ▸ List.nodup_nil
    · intro notification hmem
      cases List.mem_singleton.mp hmem

theorem Inv.served_delete (h : link.Inv) (hserver : link.server = some stub) {subscriptionId : Nat}
    (hrequests : link.requests = [.deleteMonitoredItem subscriptionId id] ++ rest) :
    Inv ({ link.setRequests rest with
      server := some (stub.onDeleteMonitoredItem 0 id).1 }.push [.itemDeleted]) := by
  have hdeletions : link.deletions = id :: rest.filterMap deletes := by
    rw [deletions, hrequests]
    rfl
  obtain ⟨client, server, inbox⟩ := link
  cases hserver
  refine h.serverStep hrequests (Or.inl rfl) (fun _ => Or.inl rfl) (Nat.le_refl _) ?_ ?_
    List.nodup_nil (List.nil_sublist _) ?_
  · intro id'
    rw [hdeletions]
    by_cases hid : id' = id
    · simp [SubscriptionStub.onDeleteMonitoredItem, after, effect, held, hid]
    · simp [SubscriptionStub.onDeleteMonitoredItem, after, effect, held, hid]
  · intro id' hid
    cases hid
  · intro notification hmem
    cases List.mem_singleton.mp hmem

theorem Inv.serve (h : link.Inv) {created : Bool} (heq : link.serve created = some link') :
    link'.Inv := by
  unfold ItemLink.serve at heq
  cases hrequests : link.requests with
  | nil =>
    rw [hrequests] at heq
    exact Option.some.inj heq ▸ h
  | cons request rest =>
    rw [hrequests] at heq
    cases hserver : link.server with
    | none =>
      have hdropped : (link.setRequests rest).Inv := by
        have hpop := h.serveFirst hserver hrequests (Or.inl ⟨rfl, rfl⟩)
        have hsame : push { link.setRequests rest with server := none } [] =
            link.setRequests rest := by
          simp [push, setRequests, hserver]
        rw [hsame] at hpop
        exact hpop
      have hserver' : (link.setRequests rest).server = none := hserver
      cases request with
      | createSubscription =>
        cases heq
        exact h.serveFirst hserver hrequests (Or.inr ⟨rfl, rfl, rfl⟩)
      | createMonitoredItem i subscriptionId valueId | deleteMonitoredItem subscriptionId id =>
        simp only [serveRequest, hserver'] at heq
        exact Option.some.inj heq ▸ hdropped
    | some stub =>
      have hserver' : (link.setRequests rest).server = some stub := hserver
      cases request with
      | createSubscription =>
        -- a second subscription is not asked for
        have hopening := h.opening
        rw [hrequests, hserver, List.count_cons_self] at hopening
        simp at hopening
      | createMonitoredItem i subscriptionId valueId =>
        simp only [serveRequest, hserver'] at heq
        obtain ⟨result, hresult, rfl⟩ := Option.map_eq_some_iff.mp heq
        exact h.served_create hserver hrequests hresult
      | deleteMonitoredItem subscriptionId id =>
        simp only [serveRequest, hserver'] at heq
        exact Option.some.inj heq ▸ h.served_delete hserver hrequests

theorem Inv.notifies (h : link.Inv) (hserver : link.server = some stub) {isBad : Bool}
    {notification : Notification V} (hsingle : Single notification)
    (hdrops : ∀ id', drops notification id' = (id == id' && isBad)) :
    Inv ({ link with server := some (if isBad then
      { stub with monitoredItems := Function.update stub.monitoredItems id none } else stub) }.push
      [.notification notification]) := by
  obtain ⟨client, server, inbox⟩ := link
  cases hserver
  refine h.serverStep (List.nil_append _).symm (Or.inl rfl) (fun _ => Or.inl rfl) ?_ ?_ ?_
    List.nodup_nil (List.nil_sublist _) ?_
  · cases isBad <;> exact Nat.le_refl _
  · intro id'
    simp only [after, List.foldl_cons, List.foldl_nil, effect, hdrops id', deletions, requests]
    cases isBad with
    | false => simp [held]
    | true =>
      by_cases hid : id' = id
      · simp [held, hid]
      · simp [held, hid, Ne.symm hid]
  · intro id' hid
    cases hid
  · intro notification' hmem
    cases List.mem_singleton.mp hmem
    exact hsingle

theorem Inv.dataChange (h : link.Inv) {value : DataValue V}
    (heq : link.backendDataChange id value = some link') : link'.Inv := by
  unfold backendDataChange at heq
  cases hserver : link.server with
  | none =>
    simp only [hserver] at heq
    cases heq
    exact h
  | some stub =>
    simp only [hserver] at heq
    split at heq
    · obtain ⟨result, hresult, rfl⟩ := Option.map_eq_some_iff.mp heq
      unfold SubscriptionStub.onDataChange at hresult
      cases hentry : stub.monitoredItems id with
      | none => simp_all
      | some valueId =>
        simp only [hentry] at hresult
        split at hresult
        · cases hresult
        · cases hresult
          refine h.notifies hserver (Or.inl ⟨_, rfl, rfl⟩) ?_
          intro id'
          simp [drops]
    · cases heq
      exact h

theorem eventPayload_single {event : EventPayload} {events : List EventPayload}
    (h : SubscriptionStub.eventPayload event = some events) :
    events = [] ∨ ∃ sent, events = [sent] := by
  cases event with
  | event eventId =>
    by_cases hzero : eventId = 0
    · simp [SubscriptionStub.eventPayload, hzero] at h
    · simp only [SubscriptionStub.eventPayload, if_neg hzero] at h
      cases h
      exact Or.inr ⟨_, rfl⟩
  | modelChange | semanticChange =>
    cases h
    exact Or.inr ⟨_, rfl⟩
  | other =>
    cases h
    exact Or.inl rfl

/-- The client sees the badness of the status the backend delivered; a Good
code is not sent at all. -/
theorem bad_sentStatus (status : Status) :
    Status.bad ((if status.code = .good then none else some status.code).getD .good) =
      status.bad := by
  by_cases hgood : status.code = .good
  · rw [if_pos hgood, Status.bad_eq_code_isBad status, hgood]
    decide
  · rw [if_neg hgood]
    exact status.bad_ofCode_code

theorem Inv.event (h : link.Inv) {status : Status} {event : EventPayload}
    (hsafe : status.bad = true → ∃ sent, SubscriptionStub.eventPayload event = some [sent]) :
    (link.backendEvent id status event).Inv := by
  unfold backendEvent
  cases hserver : link.server with
  | none => exact h
  | some stub =>
    by_cases hserved :
        (stub.monitoredItems id).any (·.attributeId == .eventNotifier) = true
    · simp only [if_pos hserved]
      cases hentry : stub.monitoredItems id with
      | none =>
        rw [hentry] at hserved
        cases hserved
      | some valueId =>
        unfold SubscriptionStub.onEvent
        simp only [hentry, ← Status.bad_eq_code_isBad]
        cases hpayload : SubscriptionStub.eventPayload event with
        | none =>
          -- nothing is sent, so the entry has to stay
          have hgood : ¬ status.bad = true := by
            intro hbad
            obtain ⟨sent, hsent⟩ := hsafe hbad
            cases hpayload.symm.trans hsent
          have hsame : push { link with server := some stub } [] = link := by
            simp [push, ← hserver]
          simp only [if_neg hgood, List.map_nil]
          rw [hsame]
          exact h
        | some events =>
          refine h.notifies hserver (Or.inr ⟨rfl, ?_⟩) ?_
          · exact eventPayload_single hpayload
          · intro id'
            simp only [drops, List.any_nil, Bool.false_or, bad_sentStatus]
            by_cases hbad : status.bad = true
            · obtain ⟨sent, hsent⟩ := hsafe hbad
              cases hpayload.symm.trans hsent
              simp
            · simp [hbad]
    · simp only [if_neg hserved]
      exact h

/-! ### The end of a session -/

theorem failRequest_inv {client' : SubscriptionProxy V} {request : ProxyRequest} (h : client.Inv)
    (heq : failRequest client request = some client') : client'.Inv := by
  cases request with
  | createSubscription =>
    exact (onCreateSubscriptionResult_outcome h _ _ _).inv heq
  | createMonitoredItem i subscriptionId valueId =>
    exact (createMonitoredItemResult_outcome h i _ _).inv heq
  | deleteMonitoredItem subscriptionId id =>
    cases heq
    exact h

/-- After a session nothing of it is left, neither at the client nor on the
way. -/
theorem Inv.disconnect (h : link.Inv) (heq : link.disconnect = some link') : link'.Inv := by
  obtain ⟨failed, hfailed, hrest⟩ := Option.bind_eq_some_iff.mp heq
  obtain ⟨client, hclosed, hlink⟩ := Option.bind_eq_some_iff.mp hrest
  cases hlink
  have hinv : failed.Inv :=
    foldlM_preserves SubscriptionProxy.Inv (fun _ _ _ hc hstep => failRequest_inv hc hstep)
      h.client hfailed
  obtain ⟨hclient, hstate, hsender⟩ := onChannelClosed_closes hinv hclosed
  have hidle : ∀ i item, client.items i = some item → item.state = .deleted := by
    intro i item hi
    have hwell := hclient.kept.well i item hi
    rw [hstate] at hwell
    exact hwell.deleted_of_closed
  refine inv_idle (hclient.setRequests []) (fun id => ?_) (.inl rfl)
  by_contra hyes
  obtain ⟨i, item, hi, hcreated, -⟩ :=
    (hclient.registered_iff id).mp (Bool.not_eq_false _ ▸ hyes)
  cases (hidle i item hi).symm.trans hcreated

/-! ## Runs -/

theorem Inv.step [BEq V] (h : link.Inv) {e : Event V} (hsafe : link.Safe e)
    (heq : link.step e = some link') : link'.Inv := by
  cases e with
  | connect =>
    simp only [ItemLink.step] at heq
    split at heq
    · cases heq
      exact h
    · rename_i hclosed
      obtain ⟨client, hclient, rfl⟩ := Option.map_eq_some_iff.mp heq
      exact h.connect (by simpa using hclosed) hclient
  | disconnect =>
    simp only [ItemLink.step] at heq
    split at heq
    · exact h.disconnect heq
    · cases heq
      exact h
  | createMonitoredItem valueId =>
    obtain ⟨client, hclient, rfl⟩ := Option.map_eq_some_iff.mp heq
    exact h.sends (createMonitoredItem_sends h.client hclient)
  | subscribe i handler =>
    obtain ⟨client, hclient, rfl⟩ := Option.map_eq_some_iff.mp heq
    obtain ⟨sent, hsends⟩ := subscribe_sends h.client hsafe hclient
    exact h.sends hsends
  | destroyItem i =>
    obtain ⟨client, hclient, rfl⟩ := Option.map_eq_some_iff.mp heq
    obtain ⟨sent, hsends⟩ := destroyItem_sends h.client hsafe hclient
    exact h.sends hsends
  | serve created => exact h.serve heq
  | deliver now => exact h.deliver hsafe heq
  | dataChange id value => exact h.dataChange heq
  | event id status event =>
    cases heq
    exact h.event hsafe

/-- **Client and server agree** on the monitored items in every quiet state of a
run whose steps are all safe. -/
theorem agreed_of_safe [BEq V] {es : List (Event V)}
    (hsafe : system.Meets (fun s e => ∀ link ∈ s, link.Safe e) es) :
    system.Always (fun s => ∀ link ∈ s, link.Agreed) es := by
  have hinv : system.Always (fun s => ∀ link ∈ s, link.Inv) es := by
    refine system.always_of_meets _ _ ?_ ?_ hsafe
    · intro link hlink
      cases hlink
      exact inv_init
    · intro s e hs hsafe link' hlink'
      obtain ⟨link, hlink, hstep⟩ := Option.bind_eq_some_iff.mp hlink'
      exact (hs link hlink).step (hsafe link hlink) hstep
  exact system.always_mono (fun s hs link hlink => (hs link hlink).agreed) hinv

/-- An item is created and gets a Bad value, which takes it off both sides. -/
def badValueRun : List (Event Nat) :=
  [.connect, .serve true, .deliver fun _ => 0,
    .createMonitoredItem { nodeId := { identifier := .numeric 1 } }, .subscribe 0 .dataChange,
    .serve true, .deliver fun _ => 0, .dataChange 1 { statusCode := .bad },
    .deliver fun _ => 0]

theorem agreed_of_safe_badValueRun :
    system.Meets (fun s e => ∀ link ∈ s, link.Safe e) badValueRun ∧
      system.Always (fun s => ∀ link ∈ s, link.Agreed) badValueRun := by
  have hsafe : system.Meets (fun s e => ∀ link ∈ s, link.Safe e) badValueRun := by
    rw [Lts.System.meets_iff_meetsFrom]
    refine ⟨?_, ?_, ?_, ?_, ?_, ?_, ?_, ?_, ?_, trivial⟩
    · intro link _
      trivial
    · intro link _
      trivial
    · rintro link ⟨⟩ notification rest hinbox
      cases hinbox
    · intro link _
      trivial
    · rintro link ⟨⟩ item ⟨⟩
      exact ⟨rfl, rfl⟩
    · intro link _
      trivial
    · rintro link ⟨⟩ notification rest hinbox
      cases hinbox
    · intro link _
      trivial
    · rintro link ⟨⟩ notification rest hinbox
      cases hinbox
      rintro change hchange - i item hi hitem
      cases List.mem_singleton.mp hchange
      cases hi
      cases hitem
      rfl
  exact ⟨hsafe, agreed_of_safe hsafe⟩

/-- An item is destroyed while its create request is on its way. -/
def destroyedRun : List (Event Nat) :=
  [.connect, .serve true, .deliver fun _ => 0,
    .createMonitoredItem { nodeId := { identifier := .numeric 1 } }, .subscribe 0 .dataChange,
    .destroyItem 0, .serve true, .deliver fun _ => 0]

/-- Everything is quiet, and the server holds an entry that no item of the
client knows of. -/
theorem not_always_agreed_destroyedRun :
    ¬ system.Always (fun s => ∀ link ∈ s, link.Agreed) destroyedRun := by
  intro halways
  have hagreed := halways destroyedRun (List.prefix_refl _) _ rfl
  obtain ⟨i, item, hi, -⟩ := (hagreed rfl rfl rfl 1).mp ⟨_, _, rfl, rfl⟩
  cases i with
  | zero => cases hi
  | succ i => cases hi

end ItemLink

end ScadaCore.Remote
