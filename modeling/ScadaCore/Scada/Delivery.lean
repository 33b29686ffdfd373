import ScadaCore.Data.BoundedQueue
import ScadaCore.Scada.MonitoredItem
import ScadaCore.Scada.MultiplexingEffects

/-!
# Scada.Delivery — how notifications reach the reader of a subscription

The other half of `MultiplexingMonitoredItemSubscription`: the queue `pending`,
the places that put something into it, the serving gate that the subscription is
attached to, and `ReadNext`, which takes something out or waits. What the items
are bound to is the business of `Multiplexing`, which is a part of the state here.

One step is one critical section under the mutex of the subscription, one store
of the gate, or one move of a timer. A reader waits on a timer that never
expires: whoever puts something into the queue cancels it, which ends a wait that
is in progress and does nothing to one that has not started. `SetBlocked` stores
the status and then, without the lock of the gate, calls the sweeper of the
subscription; the calls under way are `sweeps`.

Two things are recorded that the program does not keep: whether a sweep has run
since the last `SetAllowed`, and what was appended to the queue from then on.
-/

namespace ScadaCore.Scada

open MonitoredItem

/-! ## Notifications -/

namespace MonitoredItem

namespace Notification

variable {V E : Type}

def isGood : Notification V E → Bool
  | .dataChange _ _ value => value.statusCode.isGood
  | .event _ _ status _ => status.good
  | .itemStatus _ _ status => status.good
  | .overflow _ => false

def withStatus (status : StatusCode) : Notification V E → Notification V E
  | .dataChange itemId clientHandle value =>
    .dataChange itemId clientHandle { value with statusCode := status }
  | .event itemId clientHandle _ payload => .event itemId clientHandle status payload
  | .itemStatus itemId clientHandle _ => .itemStatus itemId clientHandle status
  | .overflow overflowStatus => .overflow overflowStatus

end Notification

end MonitoredItem

/-- `ServingGate::State`, as a view of it reads it. -/
structure ServingGate where
  allowed : Bool := true
  blockedStatus : StatusCode := .bad
deriving DecidableEq, Repr

/-- Where a call of `ReadNext` is: at its first critical section, at the second,
which publishes the timer, before the start of the wait, in it, at the third
critical section, or at its end. -/
inductive ReadPoint (V E : Type) where
  | check
  | register
  | startWait (timer : Nat)
  | waiting (timer : Nat) (cancelled : Bool)
  | release (timer : Nat)
  | done (result : Except Status (List (Notification V E)))

/-- A call of `ReadNext`. -/
structure ReadCall (V E : Type) where
  maxCount : Nat
  point : ReadPoint V E := .check

/-- A cancelled timer ends the wait in progress on it. -/
def ReadCall.cancel {V E : Type} (timer : Nat) (call : ReadCall V E) : ReadCall V E :=
  match call.point with
  | .waiting t cancelled => { call with point := .waiting t (cancelled || t == timer) }
  | _ => call

/-- The subscription with its queue, its readers and its gate. -/
structure Delivery (V E : Type) where
  control : Multiplexing := {}
  queue : BoundedQueue (Notification V E) := {}
  readWaiter : Option Nat := none
  nextTimer : Nat := 0
  readers : List (ReadCall V E) := []
  gate : ServingGate := {}
  sweeps : List StatusCode := []
  swept : Bool := false
  appended : List (Notification V E) := []

namespace Delivery

variable {V E : Type} (options : SubscriptionOptions) (d : Delivery V E)

def isClosed : Bool := d.control.state.closed

/-! ## Putting something into the queue -/

/-- `read_waiter` is cancelled and forgotten. -/
def wake : Delivery V E :=
  match d.readWaiter with
  | none => d
  | some timer => { d with readWaiter := none, readers := d.readers.map (·.cancel timer) }

variable (notification : Notification V E)

def append : Delivery V E :=
  { d with
    queue := d.queue.accept notification
    appended := if d.swept then d.appended ++ [notification] else d.appended }

/-- The queue is full: the first time, an overflow is reported. -/
def drop : Delivery V E :=
  { d with queue := d.queue.reject .overflowMark notification }

/-- `EnqueueLocked`, which is also the end of `PushNotification`. -/
def enqueueLocked : Delivery V E :=
  if d.queue.isFull options.maxPendingNotifications then d.drop notification
  else (d.append notification).wake

def clientHandleOf (itemId : UInt32) : UInt32 :=
  match d.control.state.items.lookup itemId.toNat with
  | some item => UInt32.ofNat item.clientHandle
  | none => 0

/-- The `remap` of `PushNotification`: to a backend, the handle of the client is
the id of the item. -/
def remap : Notification V E → Notification V E
  | .dataChange _ clientHandle value =>
    .dataChange clientHandle (d.clientHandleOf clientHandle) value
  | .event _ clientHandle status payload =>
    .event clientHandle (d.clientHandleOf clientHandle) status payload
  | .itemStatus _ clientHandle status =>
    .itemStatus clientHandle (d.clientHandleOf clientHandle) status
  | .overflow status => .overflow status

/-- What `PushNotification` queues for a notification of a backend. -/
def prepared : Notification V E :=
  if d.gate.allowed then d.remap notification
  else (d.remap notification).withStatus d.gate.blockedStatus

def pushNotification : Delivery V E :=
  if d.isClosed then d else d.enqueueLocked options (d.prepared notification)

def sweepStatus (status : StatusCode) (entry : (_ : Nat) × Item) : Notification V E :=
  .itemStatus (UInt32.ofNat entry.1) (UInt32.ofNat entry.2.clientHandle) status

/-- The loop of `SweepBlocked`, which ends at the first item that finds the queue
full; what is left then is dropped. -/
def sweepItems (status : StatusCode) : List ((_ : Nat) × Item) → Delivery V E → Delivery V E
  | [], d => d
  | entry :: rest, d =>
    if d.queue.isFull options.maxPendingNotifications then
      ((entry :: rest).map (sweepStatus status)).foldl drop d
    else
      sweepItems status rest (d.append (sweepStatus status entry))

def sweepBlocked (status : StatusCode) : Delivery V E :=
  if d.isClosed then d
  else (d.sweepItems options status d.control.state.items.entries).wake

/-- The outage of an item that has no backend left. -/
def outage (service : Nat) (status : Status) (entry : (_ : Nat) × Item) :
    Option (Notification V E) :=
  if entry.2.boundTo service && entry.2.children.all (·.service == service) then
    some (.itemStatus (UInt32.ofNat entry.1) (UInt32.ofNat entry.2.clientHandle) status)
  else
    none

/-- The outages that `OnBackendFailed` queues when it runs the posted handler. -/
def outages (handler : Nat) : List (Notification V E) :=
  match d.control.posted[handler]? with
  | none => []
  | some (pump, status) =>
    if d.control.state.acceptsFailure pump.service pump.id then
      let status : Status := if status.good then StatusCode.badDisconnected else status
      d.control.state.items.entries.filterMap (outage pump.service status)
    else
      []

/-! ## The gate -/

/-- `SetBlocked`, up to the calls of the sweepers. -/
def setBlocked (status : StatusCode) : Delivery V E :=
  { d with gate := { allowed := false, blockedStatus := status }, sweeps := d.sweeps ++ [status] }

def sweep (index : Nat) : Delivery V E :=
  match d.sweeps[index]? with
  | none => d
  | some status =>
    { d.sweepBlocked options status with sweeps := d.sweeps.eraseIdx index, swept := true }

def setAllowed : Delivery V E :=
  { d with gate := { d.gate with allowed := true }, swept := false }

/-! ## Taking something out -/

def setPoint (reader : Nat) (call : ReadCall V E) (point : ReadPoint V E) : Delivery V E :=
  { d with readers := d.readers.set reader { call with point } }

def isRegistered : Bool := d.readWaiter.isSome

/-- The first critical section of `ReadNext`. -/
def readCheck (reader : Nat) (call : ReadCall V E) : Delivery V E :=
  if d.isClosed then
    d.setPoint reader call (.done (.error d.control.state.closeStatus))
  else
    let count := batchCount options call.maxCount d.queue.pending.length
    if count ≠ 0 then
      { d with queue := d.queue.take count }.setPoint reader call
        (.done (.ok (d.queue.pending.take count)))
    else if d.isRegistered then
      d.setPoint reader call (.done (.error StatusCode.badObjectIsBusy))
    else
      d.setPoint reader call .register

/-- The second one, which publishes a new timer. -/
def readRegister (reader : Nat) (call : ReadCall V E) : Delivery V E :=
  if d.isClosed then
    d.setPoint reader call (.done (.error d.control.state.closeStatus))
  else if d.queue.pending.isEmpty then
    { d with readWaiter := some d.nextTimer, nextTimer := d.nextTimer + 1 }.setPoint reader call
      (.startWait d.nextTimer)
  else
    d.setPoint reader call .check

def readRelease (reader : Nat) (call : ReadCall V E) (timer : Nat) : Delivery V E :=
  { d with readWaiter := if d.readWaiter = some timer then none else d.readWaiter }.setPoint
    reader call .check

def read (reader : Nat) : Delivery V E :=
  match d.readers[reader]? with
  | none => d
  | some call =>
    match call.point with
    | .check => d.readCheck options reader call
    | .register => d.readRegister reader call
    | .startWait timer => d.setPoint reader call (.waiting timer false)
    | .waiting timer true => d.setPoint reader call (.release timer)
    | .waiting _ false => d
    | .release timer => d.readRelease reader call timer
    | .done _ => d

def readNext (maxCount : Nat) : Delivery V E :=
  { d with
    readers := d.readers ++
      [{ maxCount, point := if maxCount = 0 then .done (.ok []) else .check }] }

/-! ## The event system -/

/-- What `Close` does to the queue and its readers. -/
def discard : Delivery V E := { d with queue := d.queue.clear }.wake

/-- A step of the coroutines and backends. -/
def runControl (e : Multiplexing.Event) : Delivery V E :=
  let d' := { d with control := d.control.step e }
  match e with
  | .close _ => if d.isClosed then d' else d'.discard
  | .backendFailed handler => (d.outages handler).foldl (enqueueLocked options) d'
  | _ => d'

inductive Event (V E : Type) where
  /-- A step of the rest of the subscription. -/
  | control (e : Multiplexing.Event)
  /-- A backend delivers. -/
  | push (notification : Notification V E)
  | setBlocked (status : StatusCode)
  /-- One of the calls of `SetBlocked` under way sweeps the subscription. -/
  | sweep (index : Nat)
  | setAllowed
  | readNext (maxCount : Nat)
  /-- A call of `ReadNext` takes its next step. -/
  | read (reader : Nat)

def step : Event V E → Delivery V E
  | .control e => d.runControl options e
  | .push notification => d.pushNotification options notification
  | .setBlocked status => d.setBlocked status
  | .sweep index => d.sweep options index
  | .setAllowed => d.setAllowed
  | .readNext maxCount => d.readNext maxCount
  | .read reader => d.read options reader

def system : Lts.System (Delivery V E) (Event V E) := ⟨{}, step options⟩

/-! ## What each operation does -/

section Effects

variable {d}

/-- All but the queue and its readers stays as it is. -/
structure Frame (d d' : Delivery V E) : Prop where
  control : d'.control = d.control
  gate : d'.gate = d.gate
  sweeps : d'.sweeps = d.sweeps
  swept : d'.swept = d.swept

theorem Frame.refl (d : Delivery V E) : Frame d d := ⟨rfl, rfl, rfl, rfl⟩

theorem Frame.trans {d d' d'' : Delivery V E} (h : Frame d d') (h' : Frame d' d'') : Frame d d'' :=
  ⟨h'.control.trans h.control, h'.gate.trans h.gate, h'.sweeps.trans h.sweeps,
    h'.swept.trans h.swept⟩

section

variable (d) (n : Notification V E)

theorem append_frame : Frame d (d.append n) :=
  ⟨rfl, rfl, rfl, rfl⟩

theorem drop_frame : Frame d (d.drop n) :=
  ⟨rfl, rfl, rfl, rfl⟩

theorem wake_frame : Frame d d.wake ∧ d.wake.queue = d.queue ∧ d.wake.appended = d.appended := by
  unfold wake
  split <;> exact ⟨⟨rfl, rfl, rfl, rfl⟩, rfl, rfl⟩

@[simp] theorem queue_wake : d.wake.queue = d.queue := (wake_frame d).2.1

@[simp] theorem readWaiter_wake : d.wake.readWaiter = none := by
  unfold wake
  split
  · assumption
  · rfl

theorem readers_wake :
    d.wake.readers = match d.readWaiter with
      | none => d.readers
      | some timer => d.readers.map (·.cancel timer) := by
  unfold wake
  split <;> simp [*]

@[simp] theorem queue_enqueueLocked :
    (d.enqueueLocked options n).queue =
      d.queue.enqueue options.maxPendingNotifications .overflowMark n := by
  unfold enqueueLocked BoundedQueue.enqueue
  split
  · rfl
  · rw [queue_wake]
    rfl

theorem enqueueLocked_frame : Frame d (d.enqueueLocked options n) := by
  unfold enqueueLocked
  split
  · exact drop_frame d n
  · exact (append_frame d n).trans (wake_frame _).1

variable (ns : List (Notification V E))

theorem queue_enqueueLocked_all :
    (ns.foldl (enqueueLocked options) d).queue =
      d.queue.enqueueAll options.maxPendingNotifications .overflowMark ns := by
  induction ns generalizing d with
  | nil => rfl
  | cons n ns ih =>
    rw [List.foldl_cons, ih, queue_enqueueLocked]
    rfl

theorem enqueueLocked_all_frame : Frame d (ns.foldl (enqueueLocked options) d) := by
  induction ns generalizing d with
  | nil => exact .refl d
  | cons n ns ih => exact (enqueueLocked_frame options d n).trans (ih _)

theorem queue_drop_all :
    (ns.foldl drop d).queue = ns.foldl (BoundedQueue.reject .overflowMark) d.queue ∧
      Frame d (ns.foldl drop d) ∧ (ns.foldl drop d).readers = d.readers ∧
      (ns.foldl drop d).readWaiter = d.readWaiter ∧ (ns.foldl drop d).appended = d.appended := by
  induction ns generalizing d with
  | nil => exact ⟨rfl, .refl d, rfl, rfl, rfl⟩
  | cons n ns ih =>
    obtain ⟨hqueue, hframe, hreaders, hwaiter, happended⟩ := ih (d.drop n)
    exact ⟨hqueue, (drop_frame d n).trans hframe, hreaders, hwaiter, happended⟩

end

/-- The loop that ends early offers all items to the queue. -/
theorem sweepItems_spec (status : StatusCode) (entries : List ((_ : Nat) × Item))
    (d : Delivery V E) :
    (d.sweepItems options status entries).queue =
        d.queue.enqueueAll options.maxPendingNotifications .overflowMark
          (entries.map (sweepStatus status)) ∧
      Frame d (d.sweepItems options status entries) ∧
      (d.sweepItems options status entries).readers = d.readers ∧
      (d.sweepItems options status entries).readWaiter = d.readWaiter := by
  induction entries generalizing d with
  | nil => exact ⟨rfl, .refl d, rfl, rfl⟩
  | cons entry rest ih =>
    unfold sweepItems
    cases hfull : d.queue.isFull options.maxPendingNotifications with
    | true =>
      obtain ⟨hqueue, hframe, hreaders, hwaiter, -⟩ :=
        queue_drop_all d ((entry :: rest).map (sweepStatus status))
      rw [if_pos rfl]
      exact ⟨hqueue.trans (BoundedQueue.enqueueAll_of_full hfull _).symm, hframe, hreaders,
        hwaiter⟩
    | false =>
      obtain ⟨hqueue, hframe, hreaders, hwaiter⟩ := ih (d.append (sweepStatus status entry))
      rw [if_neg Bool.false_ne_true]
      refine ⟨?_, (append_frame d _).trans hframe, hreaders, hwaiter⟩
      rw [hqueue, List.map_cons, BoundedQueue.enqueueAll_cons,
        BoundedQueue.enqueue_of_not_full hfull]
      rfl

def arrivals (d : Delivery V E) (e : Event V E) : List (Notification V E) :=
  if d.isClosed then []
  else
    match e with
    | .push notification => [d.prepared notification]
    | .sweep index =>
      match d.sweeps[index]? with
      | none => []
      | some status => d.control.state.items.entries.map (sweepStatus status)
    | .control (.backendFailed handler) => d.outages handler
    | _ => []

theorem outages_of_closed (h : d.isClosed = true) (handler : Nat) : d.outages handler = [] := by
  unfold isClosed at h
  unfold outages
  split
  · rfl
  · simp [State.acceptsFailure, h]

/-- What a step of a reader can do. A `move` is one that changes nothing but the
point the call is at, and neither starts a wait, publishes a timer nor returns a
batch. -/
inductive ReadEffect (d : Delivery V E) (reader : Nat) : Delivery V E → Prop where
  | stay (hidle : ∀ call timer, d.readers[reader]? = some call → call.point ≠ .startWait timer) :
      ReadEffect d reader d
  | move (call : ReadCall V E) (point : ReadPoint V E) (hcall : d.readers[reader]? = some call)
      (hactive : ∀ result, call.point ≠ .done result)
      (hfrom : ∀ timer, call.point ≠ .startWait timer)
      (hto : ∀ timer, point ≠ .waiting timer false)
      (hbatch : ∀ batch, point ≠ .done (.ok batch)) :
      ReadEffect d reader (d.setPoint reader call point)
  | deliver (call : ReadCall V E) (count : Nat) (hcall : d.readers[reader]? = some call)
      (hfrom : call.point = .check)
      (hcount : count = batchCount options call.maxCount d.queue.pending.length)
      (hsome : count ≠ 0) :
      ReadEffect d reader ({ d with queue := d.queue.take count }.setPoint reader call
        (.done (.ok (d.queue.pending.take count))))
  | register (call : ReadCall V E) (hcall : d.readers[reader]? = some call)
      (hfrom : call.point = .register) (hopen : d.isClosed = false)
      (hempty : d.queue.pending = []) :
      ReadEffect d reader
        ({ d with readWaiter := some d.nextTimer, nextTimer := d.nextTimer + 1 }.setPoint reader
          call (.startWait d.nextTimer))
  | start (call : ReadCall V E) (timer : Nat) (hcall : d.readers[reader]? = some call)
      (hfrom : call.point = .startWait timer) :
      ReadEffect d reader (d.setPoint reader call (.waiting timer false))
  | release (call : ReadCall V E) (timer : Nat) (hcall : d.readers[reader]? = some call)
      (hfrom : call.point = .release timer) :
      ReadEffect d reader
        ({ d with readWaiter := if d.readWaiter = some timer then none else d.readWaiter }.setPoint
          reader call .check)

theorem readCheck_effect {reader : Nat} {call : ReadCall V E}
    (hcall : d.readers[reader]? = some call) (hfrom : call.point = .check) :
    ReadEffect options d reader (d.readCheck options reader call) := by
  have hmove : ∀ point : ReadPoint V E, (∀ timer, point ≠ .waiting timer false) →
      (∀ batch, point ≠ .done (.ok batch)) →
      ReadEffect options d reader (d.setPoint reader call point) :=
    fun point => .move call point hcall (by simp [hfrom]) (by simp [hfrom])
  unfold readCheck
  dsimp only
  split
  · exact hmove _ (by simp) (by simp)
  · split
    · exact .deliver call _ hcall hfrom rfl ‹_›
    · split <;> exact hmove _ (by simp) (by simp)

theorem readRegister_effect {reader : Nat} {call : ReadCall V E}
    (hcall : d.readers[reader]? = some call) (hfrom : call.point = .register) :
    ReadEffect options d reader (d.readRegister reader call) := by
  have hmove : ∀ point : ReadPoint V E, (∀ timer, point ≠ .waiting timer false) →
      (∀ batch, point ≠ .done (.ok batch)) →
      ReadEffect options d reader (d.setPoint reader call point) :=
    fun point => .move call point hcall (by simp [hfrom]) (by simp [hfrom])
  unfold readRegister
  split
  · exact hmove _ (by simp) (by simp)
  · rename_i hopen
    split
    · rename_i hempty
      exact .register call hcall hfrom (Bool.eq_false_iff.mpr hopen) (List.isEmpty_iff.mp hempty)
    · exact hmove _ (by simp) (by simp)

section

variable (d)

theorem read_effect (reader : Nat) : ReadEffect options d reader (d.read options reader) := by
  unfold read
  split
  · rename_i hnone
    exact .stay fun call timer hcall => by simp [hnone] at hcall
  · rename_i call hcall
    split
    · exact readCheck_effect options hcall ‹_›
    · exact readRegister_effect options hcall ‹_›
    · exact .start call _ hcall ‹_›
    · exact .move call _ hcall (by simp [*]) (by simp [*]) (by simp) (by simp)
    · exact .stay fun call' timer hcall' => by simp_all
    · exact .release call _ hcall ‹_›
    · exact .stay fun call' timer hcall' => by simp_all

/-- It takes something out of the queue, or nothing, and does nothing else to the
subscription but publish or forget a timer. -/
theorem read_spec (reader : Nat) :
    (∃ n, (d.read options reader).queue = d.queue.take n) ∧ Frame d (d.read options reader) ∧
      (d.read options reader).appended = d.appended := by
  have hnone : d.queue = d.queue.take 0 := by simp [BoundedQueue.take]
  have heffect := read_effect options d reader
  generalize d.read options reader = d' at heffect ⊢
  cases heffect with
  | deliver call count hcall hfrom => exact ⟨⟨count, rfl⟩, ⟨rfl, rfl, rfl, rfl⟩, rfl⟩
  | _ => exact ⟨⟨0, hnone⟩, ⟨rfl, rfl, rfl, rfl⟩, rfl⟩

/-- A step that is not of a reader offers what arrived, or is `Close` and throws
all of it away. -/
theorem queue_step_of_ne_read {e : Event V E} (h : ∀ reader, e ≠ .read reader) :
    ((d.step options e).queue =
        d.queue.enqueueAll options.maxPendingNotifications .overflowMark (d.arrivals e)) ∨
      d.arrivals e = [] ∧
        (d.step options e).queue = d.queue.clear ∧ (d.step options e).isClosed = true := by
  cases e with
  | control e =>
    cases e with
    | close status =>
      cases hclosed : d.isClosed with
      | true =>
        left
        simp [step, runControl, arrivals, hclosed]
      | false =>
        right
        refine ⟨by simp [arrivals], ?_⟩
        have hopen : d.control.state.closed = false := hclosed
        simp [step, runControl, discard, isClosed, Multiplexing.step,
          Multiplexing.close, hopen, State.close, (wake_frame _).1.control]
    | backendFailed handler =>
      left
      have hqueue : (d.step options (.control (.backendFailed handler))).queue =
          d.queue.enqueueAll options.maxPendingNotifications .overflowMark
            (d.outages handler) := by
        simp only [step, runControl]
        rw [queue_enqueueLocked_all]
      rw [hqueue, arrivals]
      cases hclosed : d.isClosed with
      | true => simp [outages_of_closed hclosed]
      | false => rfl
    | _ => exact Or.inl (by simp [step, runControl, arrivals])
  | push notification =>
    left
    cases hclosed : d.isClosed with
    | true | false => simp [step, pushNotification, arrivals, hclosed]
  | sweep index =>
    left
    cases hsweep : d.sweeps[index]? with
    | none => simp [step, sweep, arrivals, hsweep]
    | some status =>
      cases hclosed : d.isClosed with
      | true => simp [step, sweep, arrivals, hsweep, hclosed, sweepBlocked]
      | false =>
        simp [step, sweep, arrivals, hsweep, hclosed, sweepBlocked,
          (sweepItems_spec options status _ d).1]
  | read reader => exact absurd rfl (h reader)
  | _ => exact Or.inl (by simp [step, setBlocked, setAllowed, readNext, arrivals])

/-- **The queue after a step**: what arrived has been offered, something has been
taken out, or all of it has been thrown away by `Close`. -/
theorem queue_step (e : Event V E) :
    ((d.step options e).queue =
        d.queue.enqueueAll options.maxPendingNotifications .overflowMark (d.arrivals e)) ∨
      (d.arrivals e = [] ∧ ((∃ n, (d.step options e).queue = d.queue.take n) ∨
        (d.step options e).queue = d.queue.clear ∧ (d.step options e).isClosed = true)) := by
  by_cases hread : ∃ reader, e = .read reader
  · obtain ⟨reader, rfl⟩ := hread
    exact Or.inr ⟨by simp [arrivals], Or.inl (read_spec options d reader).1⟩
  · push Not at hread
    rcases queue_step_of_ne_read options d hread with heq | ⟨hnone, hclear⟩
    · exact Or.inl heq
    · exact Or.inr ⟨hnone, Or.inr hclear⟩

theorem control_step (e : Event V E) :
    (d.step options e).control = match e with
      | .control e => d.control.step e
      | _ => d.control := by
  cases e with
  | control e =>
    dsimp only [step, runControl]
    split
    · split
      · rfl
      · exact (wake_frame _).1.control
    · exact (enqueueLocked_all_frame options _ _).control
    · rfl
  | push n =>
    dsimp only [step, pushNotification]
    split
    · rfl
    · exact (enqueueLocked_frame options d _).control
  | sweep index =>
    dsimp only [step, sweep]
    split
    · rfl
    · dsimp only [sweepBlocked]
      split
      · rfl
      · rw [(wake_frame _).1.control, (sweepItems_spec options _ _ d).2.1.control]
  | read reader => exact (read_spec options d reader).2.1.control
  | _ => rfl

theorem isClosed_step (e : Event V E) (h : d.isClosed = true) :
    (d.step options e).isClosed = true := by
  unfold isClosed at h ⊢
  rw [control_step]
  split
  · exact d.control.closed_step_of_closed _ h
  · exact h

end

variable (es : List (Event V E))

def controls : List Multiplexing.Event :=
  es.filterMap fun
    | .control e => some e
    | _ => none

theorem controls_concat (e : Event V E) : controls (es ++ [e]) = controls es ++ controls [e] :=
  List.filterMap_append

/-- So a run of this model is, for the bindings of the items, a run of `Multiplexing`. -/
theorem control_run_controls :
    ((system options).run es).control = Multiplexing.system.run (controls es) := by
  induction es using List.reverseRecOn with
  | nil => rfl
  | append_singleton es e ih =>
    have hstep := control_step options ((system options).run es) e
    rw [Lts.System.run_concat, controls_concat]
    cases e with
    | control e =>
      show _ = Multiplexing.system.run (controls es ++ [e])
      rw [Lts.System.run_concat, ← ih]
      exact hstep
    | _ =>
      show _ = Multiplexing.system.run (controls es ++ [])
      rw [List.append_nil, ← ih]
      exact hstep

theorem control_run :
    ∃ controls, ((system options).run es).control = Multiplexing.system.run controls :=
  ⟨_, control_run_controls options es⟩

end Effects

end Delivery

end ScadaCore.Scada
