import ScadaCore.Data.BoundedQueue
import ScadaCore.Scada.MonitoredItem

/-!
# Scada.ItemFactory — a subscription over a factory of single items

`ItemFactorySubscription` makes every item with a factory and gathers what the
items call back into one queue. One step is one critical section under the mutex
of the subscription, or the run of a posted task. A call of `ReadNext` that finds
nothing parks: it leaves its wake-up in `read_waiter`. Whoever queues something
or closes the subscription takes the wake-up out and posts it; that it does so
right after the critical section makes no difference to the others, who only see
that a task has not run yet.

The reader that is resumed resets `read_waiter`, whatever is in it, and starts
over.
-/

namespace ScadaCore.Scada

open MonitoredItem

/-- `MonitoredItemCreateRequest`, as far as the subscription reads it. -/
structure FactoryRequest where
  itemToMonitor : ReadValueId := {}
  clientHandle : UInt32 := 0
deriving DecidableEq, Repr

/-- `ItemFactorySubscription::Item`: whether there is a monitored item, and the
handle. -/
structure FactoryItem where
  monitoredItem : Bool := true
  clientHandle : UInt32 := 0
deriving DecidableEq, Repr

/-- A handler that an item was subscribed with. -/
structure FactoryHandler where
  itemId : UInt32
  clientHandle : UInt32
  isEvent : Bool
deriving DecidableEq, Repr

/-- What an item calls its handler with. -/
inductive FactorySample (V E : Type) where
  | value (value : DataValue V)
  | event (status : Status) (event : Option E)

def FactoryHandler.notification {V E : Type} (handler : FactoryHandler) :
    FactorySample V E → Option (Notification V E)
  | .value value =>
    if handler.isEvent then none
    else some (.dataChange handler.itemId handler.clientHandle value)
  | .event status payload =>
    if handler.isEvent then some (.event handler.itemId handler.clientHandle status payload)
    else none

/-- A call of `AddItem`: before the factory is asked, and after its end. -/
inductive FactoryAdd where
  | create (request : FactoryRequest)
  | done (result : CreateResult)
deriving DecidableEq, Repr

/-- A call of `ReadNext`: at its first critical section, at the one in which it
parks, parked, at the one that resets `read_waiter`, or at its end. -/
inductive FactoryPoint (V E : Type) where
  | check
  | park
  | parked
  | clear
  | done (result : Except Status (List (Notification V E)))

structure FactoryCall (V E : Type) where
  maxCount : Nat
  point : FactoryPoint V E := .check

/-- `ItemFactorySubscription::State` with the calls under way, the handlers that
items were subscribed with, and the wake-ups posted. A wake-up is the number of
the call it resumes. -/
structure ItemFactory (V E : Type) where
  items : List FactoryItem := []
  queue : BoundedQueue (Notification V E) := {}
  readWaiter : Option Nat := none
  closed : Bool := false
  closeStatus : Status := StatusCode.badDisconnected
  handlers : List FactoryHandler := []
  adds : List FactoryAdd := []
  calls : List (FactoryCall V E) := []
  posted : List Nat := []

namespace ItemFactory

variable {V E : Type} (options : SubscriptionOptions)

/-! ## Items -/

def refusal (valueId : ReadValueId) : StatusCode :=
  if valueId.attributeId = .value ∨ valueId.attributeId = .eventNotifier then
    .badWrongNodeId
  else
    .badWrongAttributeId

variable (d : ItemFactory V E)

/-- `AddItem`, up to the call of the factory. -/
def addItem (request : FactoryRequest) : ItemFactory V E :=
  { d with
    adds := d.adds ++
      [if d.closed then
        .done { clientHandle := request.clientHandle, status := d.closeStatus }
      else
        .create request] }

/-- The rest of `AddItem`, with the answer of the factory. -/
def create (add : Nat) (created : Bool) : ItemFactory V E :=
  match d.adds[add]? with
  | some (.create request) =>
    let clientHandle := request.clientHandle
    if created then
      let itemId := UInt32.ofNat (d.items.length + 1)
      { d with
        items := d.items ++ [{ clientHandle }]
        handlers := d.handlers ++
          [{ itemId, clientHandle,
             isEvent := request.itemToMonitor.attributeId == .eventNotifier }]
        adds := d.adds.set add (.done { itemId, clientHandle, status := StatusCode.good }) }
    else
      { d with
        adds := d.adds.set add (.done { clientHandle, status := refusal request.itemToMonitor }) }
  | _ => d

/-- One id of `RemoveItems`, with its result. -/
def removeItem (itemId : UInt32) : ItemFactory V E × Status :=
  if itemId = 0 then (d, StatusCode.badMonitoredItemIdInvalid)
  else
    match d.items[itemId.toNat - 1]? with
    | none => (d, StatusCode.badMonitoredItemIdInvalid)
    | some item =>
      if item.monitoredItem then
        ({ d with items := d.items.set (itemId.toNat - 1) { item with monitoredItem := false } },
          StatusCode.good)
      else
        (d, StatusCode.badMonitoredItemIdInvalid)

/-! ## The queue -/

/-- What is stored in `read_waiter` is taken out and posted. -/
def wake : ItemFactory V E :=
  { d with readWaiter := none, posted := d.posted ++ d.readWaiter.toList }

def pushNotification (notification : Notification V E) : ItemFactory V E :=
  if d.closed then d
  else if d.queue.isFull options.maxPendingNotifications then
    { d with queue := d.queue.reject .overflowMark notification }
  else
    { d with queue := d.queue.accept notification }.wake

def notification (handler : Nat) (sample : FactorySample V E) : Option (Notification V E) :=
  match d.handlers[handler]? with
  | none => none
  | some handler => handler.notification sample

def deliver (handler : Nat) (sample : FactorySample V E) : ItemFactory V E :=
  match d.notification handler sample with
  | none => d
  | some notification => d.pushNotification options notification

def close (status : Status) : ItemFactory V E :=
  if d.closed then d
  else
    { d with closed := true, closeStatus := status, items := [], queue := d.queue.clear }.wake

/-! ## Readers -/

variable (reader : Nat) (call : FactoryCall V E)

def setPoint (point : FactoryPoint V E) : ItemFactory V E :=
  { d with calls := d.calls.set reader { call with point } }

/-- The first critical section of `ReadNext`. -/
def readCheck : ItemFactory V E :=
  if d.closed then
    d.setPoint reader call (.done (.error d.closeStatus))
  else
    let count := batchCount options call.maxCount d.queue.pending.length
    if count ≠ 0 then
      { d with queue := d.queue.take count }.setPoint reader call
        (.done (.ok (d.queue.pending.take count)))
    else if d.readWaiter.isSome then
      d.setPoint reader call (.done (.error StatusCode.badObjectIsBusy))
    else
      d.setPoint reader call .park

/-- The second one: the wake-up is stored, or posted at once. -/
def readPark : ItemFactory V E :=
  if d.closed || !d.queue.pending.isEmpty then
    { d with posted := d.posted ++ [reader] }.setPoint reader call .parked
  else
    { d with readWaiter := some reader }.setPoint reader call .parked

def readClear : ItemFactory V E :=
  { d with readWaiter := none }.setPoint reader call .check

def read : ItemFactory V E :=
  match d.calls[reader]? with
  | none => d
  | some call =>
    match call.point with
    | .check => d.readCheck options reader call
    | .park => d.readPark reader call
    | .parked => d
    | .clear => d.readClear reader call
    | .done _ => d

def readNext (maxCount : Nat) : ItemFactory V E :=
  { d with
    calls := d.calls ++ [{ maxCount, point := if maxCount = 0 then .done (.ok []) else .check }] }

/-- A posted wake-up runs. -/
def resume (task : Nat) : ItemFactory V E :=
  match d.posted[task]? with
  | none => d
  | some reader =>
    match d.calls[reader]? with
    | none => { d with posted := d.posted.eraseIdx task }
    | some call => { d with posted := d.posted.eraseIdx task }.setPoint reader call .clear

/-! ## The event system -/

inductive Event (V E : Type) where
  | addItem (request : FactoryRequest)
  /-- The factory answers, and `AddItem` goes on. -/
  | create (add : Nat) (created : Bool)
  | removeItem (itemId : UInt32)
  /-- An item calls back. -/
  | deliver (handler : Nat) (sample : FactorySample V E)
  | close (status : Status)
  | readNext (maxCount : Nat)
  /-- A call of `ReadNext` takes its next step. -/
  | read (reader : Nat)
  /-- A posted wake-up runs. -/
  | resume (task : Nat)

def step : Event V E → ItemFactory V E
  | .addItem request => d.addItem request
  | .create add created => d.create add created
  | .removeItem itemId => (d.removeItem itemId).1
  | .deliver handler sample => d.deliver options handler sample
  | .close status => d.close status
  | .readNext maxCount => d.readNext maxCount
  | .read reader => d.read options reader
  | .resume task => d.resume task

def system : Lts.System (ItemFactory V E) (Event V E) := ⟨{}, step options⟩

/-! ## What each step does -/

/-- The part of the state that readers deal with. -/
structure Desk (V E : Type) where
  queue : BoundedQueue (Notification V E)
  readWaiter : Option Nat
  closed : Bool
  calls : List (FactoryCall V E)
  posted : List Nat

def desk : Desk V E where
  queue := d.queue
  readWaiter := d.readWaiter
  closed := d.closed
  calls := d.calls
  posted := d.posted

variable (k : Desk V E)

namespace Desk

def setPoint (reader : Nat) (call : FactoryCall V E) (point : FactoryPoint V E) : Desk V E :=
  { k with calls := k.calls.set reader { call with point } }

def wake : Desk V E :=
  { k with readWaiter := none, posted := k.posted ++ k.readWaiter.toList }

end Desk

def AtRest : Prop :=
  call.point = .parked ∨ ∃ result, call.point = .done result

/-- The desk after an event. -/
inductive Effect (d : ItemFactory V E) : Event V E → Desk V E → Prop where
  | quiet (e : Event V E)
      (hrest : ∀ reader call, e = .read reader → d.calls[reader]? = some call →
        AtRest call)
      (hnone : ∀ task, e = .resume task → d.posted[task]? = none) :
      Effect d e d.desk
  | reject (handler : Nat) (sample : FactorySample V E) (n : Notification V E)
      (hopen : d.closed = false)
      (hfull : d.queue.isFull options.maxPendingNotifications = true) :
      Effect d (.deliver handler sample)
        { d.desk with queue := d.queue.reject .overflowMark n }
  | accept (handler : Nat) (sample : FactorySample V E) (n : Notification V E)
      (hopen : d.closed = false)
      (hroom : d.queue.isFull options.maxPendingNotifications = false) :
      Effect d (.deliver handler sample) { d.desk with queue := d.queue.accept n }.wake
  | close (status : Status) (hopen : d.closed = false) :
      Effect d (.close status) { d.desk with closed := true, queue := d.queue.clear }.wake
  | call (maxCount : Nat) (point : FactoryPoint V E) (hpoint : point ≠ .parked) :
      Effect d (.readNext maxCount) { d.desk with calls := d.calls ++ [{ maxCount, point }] }
  | take (reader : Nat) (call : FactoryCall V E) (count : Nat)
      (hcall : d.calls[reader]? = some call) (hfrom : call.point = .check)
      (hcount : count = batchCount options call.maxCount d.queue.pending.length)
      (hsome : count ≠ 0) :
      Effect d (.read reader) ({ d.desk with queue := d.queue.take count }.setPoint reader call
        (.done (.ok (d.queue.pending.take count))))
  | finish (reader : Nat) (call : FactoryCall V E) (status : Status)
      (hcall : d.calls[reader]? = some call) (hfrom : call.point = .check) :
      Effect d (.read reader) (d.desk.setPoint reader call (.done (.error status)))
  | goPark (reader : Nat) (call : FactoryCall V E) (hcall : d.calls[reader]? = some call)
      (hfrom : call.point = .check) (hopen : d.closed = false) :
      Effect d (.read reader) (d.desk.setPoint reader call .park)
  | post (reader : Nat) (call : FactoryCall V E) (hcall : d.calls[reader]? = some call)
      (hfrom : call.point = .park) (hready : d.closed = false → d.queue.pending ≠ []) :
      Effect d (.read reader)
        ({ d.desk with posted := d.posted ++ [reader] }.setPoint reader call .parked)
  | store (reader : Nat) (call : FactoryCall V E) (hcall : d.calls[reader]? = some call)
      (hfrom : call.point = .park) (hopen : d.closed = false) (hempty : d.queue.pending = []) :
      Effect d (.read reader)
        ({ d.desk with readWaiter := some reader }.setPoint reader call .parked)
  | clear (reader : Nat) (call : FactoryCall V E) (hcall : d.calls[reader]? = some call)
      (hfrom : call.point = .clear) :
      Effect d (.read reader) ({ d.desk with readWaiter := none }.setPoint reader call .check)
  | resume (task reader : Nat) (call : FactoryCall V E) (hposted : d.posted[task]? = some reader)
      (hcall : d.calls[reader]? = some call) :
      Effect d (.resume task)
        ({ d.desk with posted := d.posted.eraseIdx task }.setPoint reader call .clear)
  | lost (task reader : Nat) (hposted : d.posted[task]? = some reader)
      (hcall : d.calls[reader]? = none) :
      Effect d (.resume task) { d.desk with posted := d.posted.eraseIdx task }

section Effects

variable {d}

theorem effect_quiet {e : Event V E} {k : Desk V E} (hk : k = d.desk)
    (hread : ∀ reader, e ≠ .read reader) (hresume : ∀ task, e ≠ .resume task) :
    Effect options d e k := by
  subst hk
  exact .quiet e (fun reader call he => absurd he (hread reader))
    fun task he => absurd he (hresume task)

theorem deliver_effect (d : ItemFactory V E) (handler : Nat) (sample : FactorySample V E) :
    Effect options d (.deliver handler sample) (d.deliver options handler sample).desk := by
  unfold deliver
  split
  · exact effect_quiet options rfl (by simp) (by simp)
  · unfold pushNotification
    split
    · exact effect_quiet options rfl (by simp) (by simp)
    · rename_i hopen
      split
      · exact .reject handler sample _ (Bool.eq_false_iff.mpr hopen) ‹_›
      · exact .accept handler sample _ (Bool.eq_false_iff.mpr hopen) (Bool.eq_false_iff.mpr ‹_›)

theorem read_effect (d : ItemFactory V E) (reader : Nat) :
    Effect options d (.read reader) (d.read options reader).desk := by
  unfold read
  split
  · rename_i hnone
    exact .quiet _ (fun reader' call he hcall => by cases he; simp [hnone] at hcall) (by simp)
  · rename_i call hcall
    have hidle : AtRest call → Effect options d (.read reader) d.desk := by
      intro hrest
      refine .quiet _ (fun reader' call' he hcall' => ?_) (by simp)
      cases he
      rw [hcall] at hcall'
      cases hcall'
      exact hrest
    split
    · rename_i hfrom
      unfold readCheck
      dsimp only
      split
      · exact .finish reader call _ hcall hfrom
      · rename_i hopen
        split
        · exact .take reader call _ hcall hfrom rfl ‹_›
        · split
          · exact .finish reader call _ hcall hfrom
          · exact .goPark reader call hcall hfrom (Bool.eq_false_iff.mpr hopen)
    · rename_i hfrom
      unfold readPark
      split
      · rename_i hready
        refine .post reader call hcall hfrom ?_
        intro hopen hempty
        simp [hopen, hempty] at hready
      · rename_i hready
        simp only [Bool.or_eq_true, Bool.not_eq_true', not_or, Bool.not_eq_true,
          Bool.not_eq_false, List.isEmpty_iff] at hready
        exact .store reader call hcall hfrom hready.1 hready.2
    · exact hidle (Or.inl ‹_›)
    · exact .clear reader call hcall ‹_›
    · exact hidle (Or.inr ⟨_, ‹_›⟩)

theorem step_effect (d : ItemFactory V E) (e : Event V E) :
    Effect options d e (d.step options e).desk := by
  cases e with
  | addItem request => exact effect_quiet options rfl (by simp) (by simp)
  | create add created =>
    refine effect_quiet options ?_ (by simp) (by simp)
    dsimp only [step, create]
    split
    · split <;> rfl
    · rfl
  | removeItem itemId =>
    refine effect_quiet options ?_ (by simp) (by simp)
    dsimp only [step, removeItem]
    split
    · rfl
    · split
      · rfl
      · split <;> rfl
  | deliver handler sample => exact deliver_effect options d handler sample
  | close status =>
    dsimp only [step, close]
    split
    · exact effect_quiet options rfl (by simp) (by simp)
    · exact .close status (Bool.eq_false_iff.mpr ‹_›)
  | readNext maxCount => exact .call maxCount _ (by split <;> simp)
  | read reader => exact read_effect options d reader
  | resume task =>
    dsimp only [step, resume]
    split
    · rename_i hnone
      exact .quiet _ (by simp) (fun task' he => by cases he; exact hnone)
    · rename_i reader hposted
      split
      · exact .lost task reader hposted ‹_›
      · exact .resume task reader _ hposted ‹_›

end Effects

def arrivals (e : Event V E) : List (Notification V E) :=
  if d.closed then []
  else
    match e with
    | .deliver handler sample => (d.notification handler sample).toList
    | _ => []

theorem queue_deliver (handler : Nat) (sample : FactorySample V E) :
    (d.deliver options handler sample).queue =
      d.queue.enqueueAll options.maxPendingNotifications .overflowMark
        (d.arrivals (.deliver handler sample)) := by
  unfold deliver arrivals
  cases hclosed : d.closed with
  | true =>
    split
    · rfl
    · simp [pushNotification, hclosed]
  | false =>
    split
    · rename_i hnone
      simp [hnone]
    · rename_i n hsome
      simp only [pushNotification, hclosed, hsome]
      cases hfull : d.queue.isFull options.maxPendingNotifications with
      | true => exact (BoundedQueue.enqueue_of_full hfull n).symm
      | false => exact (BoundedQueue.enqueue_of_not_full hfull n).symm

/-- A step that is not of a reader offers what arrived, or is `Close` and throws
all of it away. -/
theorem queue_step_of_ne_read {e : Event V E}
    (h : ∀ reader, e ≠ .read reader) :
    ((d.step options e).queue =
        d.queue.enqueueAll options.maxPendingNotifications .overflowMark (d.arrivals e)) ∨
      d.arrivals e = [] ∧
        (d.step options e).queue = d.queue.clear ∧ (d.step options e).closed = true := by
  by_cases hdeliver : ∃ handler sample, e = .deliver handler sample
  · obtain ⟨handler, sample, rfl⟩ := hdeliver
    exact Or.inl (queue_deliver options d handler sample)
  · have hnone : d.arrivals e = [] := by
      cases e with
      | deliver handler sample => exact absurd ⟨handler, sample, rfl⟩ hdeliver
      | _ => simp [arrivals]
    rw [hnone]
    have heffect := step_effect options d e
    change (d.step options e).desk.queue = d.queue ∨
      _ ∧ (d.step options e).desk.queue = d.queue.clear ∧ (d.step options e).desk.closed = true
    generalize (d.step options e).desk = k at heffect ⊢
    cases heffect with
    | reject handler sample n hopen hfull
    | accept handler sample n hopen hroom => exact absurd ⟨handler, sample, rfl⟩ hdeliver
    | close status hopen => exact Or.inr ⟨rfl, rfl, rfl⟩
    | take reader call count hcall hfrom => exact absurd rfl (h reader)
    | _ => exact Or.inl rfl

/-- **The queue after a step**: what arrived has been offered, something has been
taken out, or all of it has been thrown away by `Close`. -/
theorem queue_step (e : Event V E) :
    ((d.step options e).queue =
        d.queue.enqueueAll options.maxPendingNotifications .overflowMark (d.arrivals e)) ∨
      (d.arrivals e = [] ∧ ((∃ n, (d.step options e).queue = d.queue.take n) ∨
        (d.step options e).queue = d.queue.clear ∧ (d.step options e).closed = true)) := by
  by_cases hread : ∃ reader, e = .read reader
  · obtain ⟨reader, rfl⟩ := hread
    refine Or.inr ⟨by simp [arrivals], Or.inl ?_⟩
    have hzero : d.queue = d.queue.take 0 := by simp [BoundedQueue.take]
    have heffect := step_effect options d (.read reader)
    change ∃ n, (d.step options (.read reader)).desk.queue = d.queue.take n
    generalize (d.step options (.read reader)).desk = k at heffect ⊢
    cases heffect with
    | take reader call count hcall hfrom => exact ⟨count, rfl⟩
    | _ => exact ⟨0, hzero⟩
  · push Not at hread
    rcases queue_step_of_ne_read options d hread with heq | ⟨hnone, hclear⟩
    · exact Or.inl heq
    · exact Or.inr ⟨hnone, Or.inr hclear⟩

theorem closed_step (e : Event V E) (h : d.closed = true) : (d.step options e).closed = true := by
  have heffect := step_effect options d e
  change (d.step options e).desk.closed = true
  generalize (d.step options e).desk = k at heffect ⊢
  cases heffect with
  | close status hopen => rfl
  | _ => exact h

/-! ## Stranded readers -/

namespace Desk

def Parked (reader : Nat) : Prop :=
  ∃ call, k.calls[reader]? = some call ∧ call.point = .parked

/-- The wake-up of every parked call is stored or posted. -/
def NoStranded : Prop :=
  ∀ reader, k.Parked reader → k.readWaiter = some reader ∨ reader ∈ k.posted

/-- The calls that are parked are those with a wake-up, stored or posted, and no
call has two. After `Close` none is stored. -/
structure Served (k : Desk V E) : Prop where
  parked : ∀ reader, k.Parked reader ↔ k.readWaiter = some reader ∨ reader ∈ k.posted
  apart : ∀ reader, k.readWaiter = some reader → reader ∉ k.posted
  nodup : k.posted.Nodup
  closed : k.closed = true → k.readWaiter = none

variable {k k' : Desk V E} {reader} {call} {point : FactoryPoint V E}

theorem parked_setPoint (hcalls : k'.calls = k.calls) (hcall : k.calls[reader]? = some call)
    (i : Nat) :
    (k'.setPoint reader call point).Parked i ↔
      if i = reader then point = .parked else k.Parked i := by
  unfold Parked setPoint
  rw [hcalls]
  split
  · rename_i hi
    subst hi
    have hbound : i < k.calls.length := (List.getElem?_eq_some_iff.mp hcall).1
    simp [List.getElem?_set_self hbound]
  · rename_i hi
    simp [List.getElem?_set_ne (Ne.symm hi)]

theorem not_parked (hcall : k.calls[reader]? = some call) (hpoint : call.point ≠ .parked) :
    ¬ k.Parked reader := by
  rintro ⟨call', hcall', hparked⟩
  rw [hcall] at hcall'
  cases hcall'
  exact hpoint hparked

theorem parked_setPoint_of_ne (hcalls : k'.calls = k.calls)
    (hcall : k.calls[reader]? = some call) (hfrom : call.point ≠ .parked)
    (hto : point ≠ .parked) (i : Nat) :
    (k'.setPoint reader call point).Parked i ↔ k.Parked i := by
  rw [parked_setPoint hcalls hcall]
  split
  · rename_i hi
    subst hi
    exact iff_of_false hto (not_parked hcall hfrom)
  · exact Iff.rfl

theorem parked_setPoint_parked (hcalls : k'.calls = k.calls)
    (hcall : k.calls[reader]? = some call) (i : Nat) :
    (k'.setPoint reader call .parked).Parked i ↔ i = reader ∨ k.Parked i := by
  rw [parked_setPoint hcalls hcall]
  split
  · simp [*]
  · simp [*]

theorem parked_concat (hcalls : k'.calls = k.calls ++ [call]) (hpoint : call.point ≠ .parked)
    (i : Nat) : k'.Parked i ↔ k.Parked i := by
  unfold Parked
  rw [hcalls]
  by_cases hi : i < k.calls.length
  · rw [List.getElem?_append_left hi]
  · have hnone : k.calls[i]? = none := List.getElem?_eq_none (Nat.le_of_not_lt hi)
    rw [List.getElem?_append_right (Nat.le_of_not_lt hi), List.getElem?_singleton, hnone]
    refine iff_of_false ?_ (by simp)
    rintro ⟨call', hcall', hparked⟩
    split at hcall'
    · cases hcall'
      exact hpoint hparked
    · cases hcall'

theorem Served.of_parked (h : Served k) (hparked : ∀ i, k'.Parked i ↔ k.Parked i)
    (hwaiter : k'.readWaiter = k.readWaiter) (hposted : k'.posted = k.posted)
    (hclosed : k'.closed = k.closed) : Served k' := by
  refine ⟨?_, ?_, ?_, ?_⟩
  · intro i
    rw [hparked, hwaiter, hposted]
    exact h.parked i
  · rw [hwaiter, hposted]
    exact h.apart
  · rw [hposted]
    exact h.nodup
  · rw [hclosed, hwaiter]
    exact h.closed

theorem Served.wake (h : Served k) (hcalls : k'.calls = k.calls)
    (hwaiter : k'.readWaiter = k.readWaiter) (hposted : k'.posted = k.posted) :
    Served k'.wake := by
  refine ⟨?_, ?_, ?_, fun _ => rfl⟩
  · intro i
    have hparked : k'.wake.Parked i ↔ k.Parked i := by
      unfold Parked Desk.wake
      rw [hcalls]
    rw [hparked, h.parked]
    simp [Desk.wake, hwaiter, hposted, or_comm]
  · intro i hno
    cases hno
  · dsimp only [Desk.wake]
    rw [hwaiter, hposted]
    cases hk : k.readWaiter with
    | none => simpa using h.nodup
    | some stored =>
      rw [Option.toList_some, ← List.concat_eq_append]
      exact List.Nodup.concat (h.apart stored hk) h.nodup

theorem Served.post (h : Served k) (hcall : k.calls[reader]? = some call)
    (hfrom : call.point ≠ .parked) :
    Served ({ k with posted := k.posted ++ [reader] }.setPoint reader call .parked) := by
  have hnot : ¬ k.Parked reader := not_parked hcall hfrom
  rw [h.parked, not_or] at hnot
  refine ⟨?_, ?_, ?_, h.closed⟩
  · intro i
    refine (parked_setPoint_parked (k := k) rfl hcall i).trans ?_
    change _ ↔ k.readWaiter = some i ∨ i ∈ k.posted ++ [reader]
    rw [h.parked, List.mem_append, List.mem_singleton]
    tauto
  · intro i hstored hin
    rcases List.mem_append.mp hin with hold | hnew
    · exact h.apart i hstored hold
    · rw [List.mem_singleton.mp hnew] at hstored
      exact hnot.1 hstored
  · change (k.posted ++ [reader]).Nodup
    rw [← List.concat_eq_append]
    exact List.Nodup.concat hnot.2 h.nodup

theorem Served.store (h : Served k) (hcall : k.calls[reader]? = some call)
    (hfrom : call.point ≠ .parked) (hopen : k.closed = false) (hnone : k.readWaiter = none) :
    Served ({ k with readWaiter := some reader }.setPoint reader call .parked) := by
  have hnot : ¬ k.Parked reader := not_parked hcall hfrom
  rw [h.parked, not_or] at hnot
  refine ⟨?_, ?_, h.nodup, ?_⟩
  · intro i
    refine (parked_setPoint_parked (k := k) rfl hcall i).trans ?_
    change _ ↔ some reader = some i ∨ i ∈ k.posted
    rw [h.parked, hnone, Option.some_inj, eq_comm (a := reader)]
    simp
  · intro i hstored
    cases hstored
    exact hnot.2
  · intro hclosed
    change k.closed = true at hclosed
    rw [hopen] at hclosed
    cases hclosed

theorem Served.resume (h : Served k) {task : Nat} (hposted : k.posted[task]? = some reader)
    (hcall : k.calls[reader]? = some call) :
    Served ({ k with posted := k.posted.eraseIdx task }.setPoint reader call .clear) := by
  have hmem : reader ∈ k.posted := List.mem_of_getElem? hposted
  have herase : ∀ i, i ∈ k.posted.eraseIdx task ↔ i ≠ reader ∧ i ∈ k.posted := by
    intro i
    rw [List.mem_eraseIdx_iff_getElem?]
    constructor
    · rintro ⟨task', hne, htask'⟩
      refine ⟨?_, List.mem_of_getElem? htask'⟩
      rintro rfl
      have hbound : task' < k.posted.length := (List.getElem?_eq_some_iff.mp htask').1
      exact hne ((List.getElem?_inj hbound h.nodup).mp (htask'.trans hposted.symm))
    · rintro ⟨hne, hin⟩
      obtain ⟨task', htask'⟩ := List.mem_iff_getElem?.mp hin
      refine ⟨task', ?_, htask'⟩
      rintro rfl
      exact hne (Option.some.inj (htask'.symm.trans hposted))
  refine ⟨?_, ?_, h.nodup.sublist (List.eraseIdx_sublist _ _), h.closed⟩
  · intro i
    refine (parked_setPoint (k := k) rfl hcall i).trans ?_
    change _ ↔ k.readWaiter = some i ∨ i ∈ k.posted.eraseIdx task
    rw [herase]
    split
    · rename_i hi
      subst hi
      have hnot : k.readWaiter ≠ some i := fun hstored => h.apart i hstored hmem
      simp [hnot]
    · rename_i hi
      rw [h.parked]
      simp [hi]
  · intro i hstored hin
    exact h.apart i hstored ((herase i).mp hin).2

theorem Served.stranded (h : Served k) {other : Nat} (hstored : k.readWaiter = some other)
    (hcall : k.calls[reader]? = some call) (hfrom : call.point ≠ .parked)
    (hcalls : k'.calls = k.calls) (hposted : k'.posted = k.posted)
    (hwaiter : k'.readWaiter ≠ some other) :
    ¬ (k'.setPoint reader call point).NoStranded := by
  intro hnone
  have hparked : k.Parked other := (h.parked other).mpr (Or.inl hstored)
  have hne : other ≠ reader := by
    rintro rfl
    exact not_parked hcall hfrom hparked
  have hafter : (k'.setPoint reader call point).Parked other := by
    rw [parked_setPoint hcalls hcall, if_neg hne]
    exact hparked
  rcases hnone other hafter with hnow | hin
  · exact hwaiter hnow
  · change other ∈ k'.posted at hin
    rw [hposted] at hin
    exact h.apart other hstored hin

end Desk

/-- No reader parks, or is resumed, while another one's wake-up is stored. -/
def ParksAlone : Event V E → Prop
  | .read reader =>
    ∀ call, d.calls[reader]? = some call →
      (call.point = .park → d.closed = false → d.queue.pending = [] → d.readWaiter = none) ∧
        (call.point = .clear → d.readWaiter = none)
  | _ => True

/-- No call of `ReadNext` is parked without a wake-up. -/
def NoStranded : Prop := d.desk.NoStranded

section Stranded

variable {d} {e : Event V E} {k}

open Desk

theorem served_step (h : d.desk.Served) (heffect : Effect options d e k)
    (halone : ParksAlone d e) : k.Served := by
  cases heffect with
  | quiet e hrest hnone => exact h
  | reject handler sample n hopen hfull => exact h.of_parked (fun _ => Iff.rfl) rfl rfl rfl
  | accept handler sample n hopen hroom | close status hopen => exact h.wake rfl rfl rfl
  | call maxCount point hpoint =>
    exact h.of_parked (parked_concat rfl hpoint) rfl rfl rfl
  | take reader call count hcall hfrom
  | finish reader call status hcall hfrom
  | goPark reader call hcall hfrom hopen =>
    exact h.of_parked (parked_setPoint_of_ne rfl hcall (by simp [hfrom]) (by simp)) rfl rfl rfl
  | post reader call hcall hfrom hready => exact h.post hcall (by simp [hfrom])
  | store reader call hcall hfrom hopen hempty =>
    exact h.store hcall (by simp [hfrom]) hopen ((halone call hcall).1 hfrom hopen hempty)
  | clear reader call hcall hfrom =>
    have hnone : d.readWaiter = none := (halone call hcall).2 hfrom
    exact h.of_parked (parked_setPoint_of_ne rfl hcall (by simp [hfrom]) (by simp))
      hnone.symm rfl rfl
  | resume task reader call hposted hcall => exact h.resume hposted hcall
  | lost task reader hposted hcall =>
    obtain ⟨call, hsome, -⟩ := (h.parked reader).mpr (Or.inr (List.mem_of_getElem? hposted))
    rw [show d.desk.calls[reader]? = none from hcall] at hsome
    cases hsome

theorem parksAlone_iff {reader : Nat} {call : FactoryCall V E}
    (hcall : d.calls[reader]? = some call) :
    ParksAlone d (.read reader) ↔
      (call.point = .park → d.closed = false → d.queue.pending = [] → d.readWaiter = none) ∧
        (call.point = .clear → d.readWaiter = none) := by
  constructor
  · intro h
    exact h call hcall
  · intro h call' hcall'
    rw [hcall] at hcall'
    cases hcall'
    exact h

theorem stranded_step (h : d.desk.Served) (heffect : Effect options d e k)
    (halone : ¬ ParksAlone d e) : ¬ k.NoStranded := by
  cases heffect with
  | store reader call hcall hfrom hopen hempty =>
    cases hstored : d.readWaiter with
    | none => exact absurd ((parksAlone_iff hcall).mpr (by simp [hfrom, hstored])) halone
    | some other =>
      refine h.stranded hstored hcall (by simp [hfrom]) rfl rfl ?_
      intro hsame
      cases hsame
      exact not_parked (k := d.desk) hcall (by simp [hfrom])
        ((h.parked reader).mpr (Or.inl hstored))
  | clear reader call hcall hfrom =>
    cases hstored : d.readWaiter with
    | none => exact absurd ((parksAlone_iff hcall).mpr (by simp [hfrom, hstored])) halone
    | some other => exact h.stranded hstored hcall (by simp [hfrom]) rfl rfl (by simp)
  | quiet e hrest hnone =>
    refine absurd ?_ halone
    cases e with
    | read reader =>
      intro call hcall
      rcases hrest reader call rfl hcall with hpoint | ⟨result, hpoint⟩ <;> simp [hpoint]
    | _ => trivial
  | take reader call count hcall hfrom
  | finish reader call status hcall hfrom
  | goPark reader call hcall hfrom hopen =>
    exact absurd ((parksAlone_iff hcall).mpr (by simp [hfrom])) halone
  | post reader call hcall hfrom hready =>
    refine absurd ((parksAlone_iff hcall).mpr ⟨?_, by simp [hfrom]⟩) halone
    intro _ hopen hempty
    exact absurd hempty (hready hopen)
  | _ => exact absurd trivial halone

end Stranded

/-! ## After `Close` -/

/-- A call takes a step, or a posted wake-up runs. -/
def Runs : Event V E → Prop
  | .read reader => ∃ call, d.calls[reader]? = some call ∧ ¬ AtRest call
  | .resume task => task < d.posted.length
  | _ => False

/-- The number of steps that a call takes at most until it returns, once the
subscription is closed. -/
def stepsLeft : Nat :=
  match call.point with
  | .park => 4
  | .parked => 3
  | .clear => 2
  | .check => 1
  | .done _ => 0

def Desk.work : Nat := (k.calls.map stepsLeft).sum

theorem sum_map_set_lt {α : Type*} (f : α → Nat) {l : List α} {i : Nat} {a b : α}
    (hi : l[i]? = some a) (hlt : f b < f a) : ((l.set i b).map f).sum < (l.map f).sum := by
  induction l generalizing i with
  | nil => cases hi
  | cons x l ih =>
    cases i with
    | zero =>
      cases hi
      simpa using hlt
    | succ i => simpa using ih hi

section Closing

variable {d} {e : Event V E} {k}

section

variable (h : d.desk.Served) (hclosed : d.closed = true)

include h hclosed

theorem parksAlone_of_closed (e : Event V E) : ParksAlone d e := by
  cases e with
  | read reader =>
    intro call hcall
    refine ⟨fun _ hopen => ?_, fun _ => h.closed hclosed⟩
    rw [hclosed] at hopen
    cases hopen
  | _ => trivial

theorem runs_step (heffect : Effect options d e k) (hruns : Runs d e) :
    k.closed = true ∧ k.work < d.desk.work := by
  have hno : d.closed ≠ false := by simp [hclosed]
  cases heffect with
  | quiet e hrest hnone =>
    exfalso
    cases e with
    | read reader =>
      obtain ⟨call, hcall, hbusy⟩ := hruns
      exact hbusy (hrest reader call rfl hcall)
    | resume task =>
      have hlen : d.posted.length ≤ task := List.getElem?_eq_none_iff.mp (hnone task rfl)
      exact absurd hruns (Nat.not_lt.mpr hlen)
    | _ => exact hruns
  | take reader call count hcall hfrom
  | finish reader call status hcall hfrom
  | post reader call hcall hfrom hready
  | clear reader call hcall hfrom =>
    exact ⟨hclosed, sum_map_set_lt stepsLeft hcall (by simp [stepsLeft, hfrom])⟩
  | resume task reader call hposted hcall =>
    -- the call that is resumed was parked
    obtain ⟨call', hcall', hparked⟩ :=
      (h.parked reader).mpr (Or.inr (List.mem_of_getElem? hposted))
    have hsame : call' = call := Option.some.inj (hcall'.symm.trans hcall)
    subst hsame
    exact ⟨hclosed, sum_map_set_lt stepsLeft hcall (by simp [stepsLeft, hparked])⟩
  | lost task reader hposted hcall =>
    obtain ⟨call, hsome, -⟩ := (h.parked reader).mpr (Or.inr (List.mem_of_getElem? hposted))
    exact absurd (hsome.symm.trans hcall) (by simp)
  | goPark reader call hcall hfrom hopen
  | store reader call hcall hfrom hopen hempty => exact absurd hopen hno
  | _ => exact absurd hruns id

theorem allReturned_of_not_runs (hnothing : ∀ e, ¬ Runs d e) :
    ∀ call ∈ d.calls, ∃ result, call.point = .done result := by
  intro call hmem
  obtain ⟨reader, hcall⟩ := List.mem_iff_getElem?.mp hmem
  have hrest : AtRest call := by
    by_contra hbusy
    exact hnothing (.read reader) ⟨call, hcall, hbusy⟩
  rcases hrest with hparked | hdone
  · rcases (h.parked reader).mp ⟨call, hcall, hparked⟩ with hstored | hposted
    · rw [h.closed hclosed] at hstored
      cases hstored
    · obtain ⟨task, htask⟩ := List.mem_iff_getElem?.mp hposted
      exact absurd (List.getElem?_eq_some_iff.mp htask).1 (hnothing (.resume task))
  · exact hdone

end

end Closing

/-! ## Runs -/

/-- **Stranded readers, exactly.** In a run every parked call has a wake-up,
stored or posted, if and only if no reader parks or is resumed while another
one's wake-up is stored. After `Close` the steps of such a run come to an end,
and when nothing is left to run, all calls have returned. -/
theorem always_noStranded_iff (es : List (Event V E)) :
    ((system options).Always NoStranded es ↔ (system options).Meets ParksAlone es) ∧
      ((system options).Meets ParksAlone es → ((system options).run es).closed = true →
        ∀ rest, (system options).MeetsFrom Runs ((system options).run es) rest →
          rest.length ≤ ((system options).run es).desk.work ∧
          ((∀ e, ¬ Runs ((system options).runFrom ((system options).run es) rest) e) →
            ∀ call ∈ ((system options).runFrom ((system options).run es) rest).calls,
              ∃ result, call.point = .done result)) := by
  have hinit : (system (V := V) (E := E) options).init.desk.Served := by
    refine ⟨fun reader => ?_, fun reader hno => (by cases hno), List.nodup_nil, fun _ => rfl⟩
    refine iff_of_false ?_ (by simp [system, desk])
    rintro ⟨call, hcall, -⟩
    cases hcall
  have hserved : ∀ (d : ItemFactory V E) (e : Event V E), d.desk.Served → ParksAlone d e →
      (d.step options e).desk.Served :=
    fun d e h halone => served_step options h (step_effect options d e) halone
  constructor
  · refine (system options).always_iff_meets (fun d => d.desk.Served) NoStranded ParksAlone hinit
      (fun d h reader hparked => (h.parked reader).mp hparked) hserved ?_ es
    intro d e h halone
    exact stranded_step options h (step_effect options d e) halone
  · intro hmeets hclosed rest hrest
    have hrun : ((system options).run es).desk.Served :=
      (system options).invariant_of_meets (fun d => d.desk.Served) ParksAlone hinit hserved hmeets
    have hsteps : ∀ (d : ItemFactory V E) (e : Event V E), d.desk.Served ∧ d.closed = true → Runs d e →
        ((d.step options e).desk.Served ∧ (d.step options e).closed = true) ∧
          (d.step options e).desk.work < d.desk.work := by
      rintro d e ⟨h, hclosed⟩ hruns
      obtain ⟨hstill, hless⟩ := runs_step options h hclosed (step_effect options d e) hruns
      exact ⟨⟨hserved d e h (parksAlone_of_closed h hclosed e), hstill⟩, hless⟩
    obtain ⟨⟨hend, hendClosed⟩, hlen⟩ := (system options).length_le_measure
      (fun d => d.desk.Served ∧ d.closed = true) Runs (fun d => d.desk.work) hsteps
      ⟨hrun, hclosed⟩ hrest
    exact ⟨hlen, allReturned_of_not_runs hend hendClosed⟩

/-- A reader parks, and is woken for a notification that a second one takes. A
third one parks; the first one resumes and forgets its wake-up. -/
def strandedRun : List (Event Bool Unit) :=
  [.addItem {}, .create 0 true,
   .readNext 1, .read 0, .read 0,
   .deliver 0 (.value { value := some true }),
   .readNext 1, .read 1,
   .readNext 1, .read 2, .read 2,
   .resume 0, .read 0]

/-- The third reader is stranded; and when the first one has found the
subscription closed, nothing is left that could make it return. -/
theorem strandedRun_strands :
    ¬ (system {}).Always NoStranded strandedRun ∧
      let d := (system {}).run (strandedRun ++ [.close StatusCode.badDisconnected, .read 0])
      (∀ e, ¬ Runs d e) ∧ ∃ call ∈ d.calls, ∀ result, call.point ≠ .done result := by
  refine ⟨?_, ?_⟩
  · intro halways
    have hlast : NoStranded ((system {}).run strandedRun) :=
      halways strandedRun (List.prefix_refl _)
    have hnone : ((system {}).run strandedRun).desk.readWaiter = none ∧
        ((system {}).run strandedRun).desk.posted = [] := by decide +kernel
    rcases hlast 2 ⟨{ maxCount := 1, point := .parked }, rfl, rfl⟩ with hstored | hposted
    · rw [hnone.1] at hstored
      cases hstored
    · rw [hnone.2] at hposted
      cases hposted
  · intro d
    have hcalls : d.calls =
        [{ maxCount := 1, point := .done (.error StatusCode.badDisconnected) },
         { maxCount := 1, point := .done (.ok [.dataChange 1 0 { value := some true }]) },
         { maxCount := 1, point := .parked }] := rfl
    refine ⟨?_, { maxCount := 1, point := .parked }, by simp [hcalls], by simp⟩
    intro e hruns
    cases e with
    | read reader =>
      obtain ⟨call, hcall, hbusy⟩ := hruns
      refine hbusy ?_
      have hmem := List.mem_of_getElem? hcall
      rw [hcalls] at hmem
      simp only [List.mem_cons, List.not_mem_nil, or_false] at hmem
      rcases hmem with rfl | rfl | rfl
      · exact Or.inr ⟨_, rfl⟩
      · exact Or.inr ⟨_, rfl⟩
      · exact Or.inl rfl
    | resume task => exact absurd hruns (Nat.not_lt_zero task)
    | _ => exact hruns

end ItemFactory

end ScadaCore.Scada
