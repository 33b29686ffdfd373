import ScadaCore.Remote.EventCodec
import ScadaCore.Remote.SubscriptionStub
import ScadaCore.Scada.LegacyAdapter

/-!
# Remote.Relay — a notification on its way to the peer

What a backend notifies passes through `LegacyMonitoredItemAdapter`, which calls
the handler of the item, and through `SubscriptionStub`, which puts it on the
wire. Both are modelled elsewhere without the contents that they hand on; here
`OnDataChange` and `OnEvent` have all of it, and `onDataChange_refines` and
`onEvent_refines` connect them to the stub that keeps the items.
-/

namespace ScadaCore

/-! ## The adapter -/

namespace Scada.LegacyAdapter

open Lts CallChain MonitoredItem

variable {V E : Type}

/-- The step tells an open item that wants data changes a status that is Good. -/
inductive TellsGood (s : Thread V E) : Event V E → Prop
  | itemStatus {itemId clientHandle status rest item} (now)
      (hstack : s.stack = .notify (.itemStatus itemId clientHandle status) :: rest)
      (hfree : ¬ Blocked code s.world (.notify (.itemStatus itemId clientHandle status)))
      (hitem : s.world.state.itemsByClientHandle.lookup clientHandle = some item)
      (hopen : (s.world.items item).closed = false)
      (hhandler : (s.world.items item).dataChangeHandler)
      (hgood : status.code.isGood) : TellsGood s (.act (.run now))

/-- An instruction that is not the end of the process and does not lead to it:
what a refused item is told is Bad. -/
def Instr.sound : Instr V E → Prop
  | .terminated => False
  | .report _ status => status.bad
  | _ => True

namespace Adapter

variable {a : Adapter V E}

theorem sound_tellStatus {item : Nat} {status : Status}
    (h : (a.items item).dataChangeHandler → ¬ status.code.isGood) (now : Time) :
    ∀ y ∈ (a.tellStatus item status now).2, y.sound := by
  unfold tellStatus
  split
  · rename_i hhandler
    simp [DataValue.ofStatus, h hhandler, invoke, Instr.sound]
  · split <;> simp [invoke, Instr.sound]

theorem sound_itemsAdded (item : Nat) (clientHandle : UInt32) (results : List CreateResult) :
    ∀ y ∈ (itemsAdded item clientHandle results : List (Instr V E)), y.sound := by
  unfold itemsAdded
  split
  · rename_i hbad
    simp [Instr.sound, hbad]
  · simp [Instr.sound]

theorem sound_closeAll : ∀ y ∈ a.closeAll.2, y.sound := by
  unfold closeAll
  split
  · simp
  · split <;> simp [Instr.sound]

theorem sound_notify {notification : Notification V E}
    (h : ∀ itemId clientHandle status item, notification = .itemStatus itemId clientHandle status →
      a.state.itemsByClientHandle.lookup clientHandle = some item →
      (a.items item).closed = false → (a.items item).dataChangeHandler → ¬ status.code.isGood)
    (now : Time) : ∀ y ∈ (a.notify now notification).2, y.sound := by
  unfold notify
  split
  · simp
  next item hresolve =>
    split
    · simp
    next hopen =>
      cases notification with
      | dataChange _ _ value
      | event _ _ status event => simp only; split <;> simp [invoke, Instr.sound]
      | itemStatus itemId clientHandle status =>
        apply sound_tellStatus
        exact h itemId clientHandle status item rfl hresolve (by simpa using hopen)
      | overflow status => simp

/-- Only a status that `OnNotifications` tells an item can end the process. -/
theorem sound_exec {x : Instr V E} {answer : Answer V E} {r : Result V E}
    (h : a.exec x answer = some r) (hx : x.sound)
    (hnotify : ∀ notification now, x = .notify notification → answer = .run now →
      ∀ y ∈ (a.notify now notification).2, y.sound) : ∀ y ∈ r.2, y.sound := by
  cases x <;> cases answer <;> cases h
  case subscribe.run => simp only [subscribe]; split <;> simp [Instr.sound]
  case destroy.run => simp only [destroy]; repeat' split <;> simp [Instr.sound]
  case close.run => exact sound_closeAll
  case addItem.run => simp only [addItem]; split <;> simp [Instr.sound]
  case startItem.run =>
    simp only [startItem]
    split
    · simp
    · split <;> simp [register, Instr.sound]
  case createSubscription.createSubscription item answer =>
    cases answer <;> simp [subscriptionCreated, Instr.sound]
  case register.run => simp [register, Instr.sound]
  case callAddItems.run =>
    simp only [callAddItems]
    split
    · simp [Instr.sound]
    · exact sound_itemsAdded _ _ _
  case addItems.addItems => exact sound_itemsAdded _ _ _
  case eraseItemMapping.run => simp
  case report.run item status now =>
    simp only [report]
    split
    · simp
    · exact sound_tellStatus (fun _ => Status.not_code_isGood_of_bad hx) now
  case closeItem.run => simp
  case itemAdded.run => simp only [itemAdded]; split <;> simp [Instr.sound]
  case removeItem.run => simp only [removeItem]; split <;> simp [Instr.sound]
  case removeItems.run => simp only [removeItems]; split <;> simp [Instr.sound]
  case startReadLoop.run => simp [Instr.sound]
  case readLoop.run => simp only [readLoop]; split <;> simp [Instr.sound]
  case readNext.readNext answer =>
    simp only [readReturned]
    split
    · cases answer with
      | error status => simp [Instr.sound]
      | ok notifications =>
        intro y hy
        rcases List.mem_append.mp hy with hnotify | hloop
        · obtain ⟨n, -, rfl⟩ := List.mem_map.mp hnotify
          trivial
        · rw [List.mem_singleton.mp hloop]
          trivial
    · simp
  case notify.run notification now => exact hnotify notification now rfl rfl
  case errorHandler.run => exact sound_closeAll
  case closeItems.run => simp
  case closePump.run => simp
  case handler.handlerReturns => simp

end Adapter

def Sound (s : Thread V E) : Prop := ∀ x ∈ s.stack ++ s.suspended, x.sound

theorem Sound.step {s : Thread V E} (h : Sound s) {e : Event V E} (hgood : ¬ TellsGood s e) :
    Sound (thread.step s e) := by
  have hmove : Move code s e (thread.step s e) := step_move code s e
  refine hmove.forall_pending ?_ ?_ h
  · intro x hentry
    cases x <;> trivial
  · rintro x rest answer world calls rfl hstack hfree hexec hx
    refine Adapter.sound_exec hexec hx ?_
    rintro notification now rfl rfl
    refine Adapter.sound_notify ?_ now
    rintro itemId clientHandle status item rfl hitem hopen hhandler hstatus
    exact hgood (.itemStatus now hstack hfree hitem hopen hhandler hstatus)

theorem TellsGood.terminates {s : Thread V E} {e : Event V E} (h : TellsGood s e) :
    .terminated ∈ (thread.step s e).stack := by
  obtain @⟨itemId, clientHandle, status, rest, item, now, hstack, hfree, hitem, hopen, hhandler,
    hgood⟩ := h
  have hexec : s.world.exec (.notify (.itemStatus itemId clientHandle status)) (.run now) =
      some (s.world, [.terminated]) := by
    simp [Adapter.exec, Adapter.notify, Adapter.resolveItem, Notification.clientHandle?,
      hitem, hopen, Adapter.tellStatus, hhandler, DataValue.ofStatus, hgood]
  rcases s with ⟨a, stack, suspended⟩
  cases hstack
  rw [thread_step_act hfree hexec]
  exact List.mem_cons_self

theorem always_not_terminated_iff (es : List (Event V E)) :
    thread.Always (fun s => .terminated ∉ s.stack) es ↔
      thread.Meets (fun s e => ¬ TellsGood s e) es := by
  refine thread.always_iff_meets Sound _ _ ?_ ?_ (fun _ _ h hgood => h.step hgood) ?_ es
  · simp [Sound, thread, system]
  · intro s h hmem
    exact h _ (List.mem_append_left _ hmem)
  · intro s e _ htells
    exact not_not.mpr (not_not.mp htells).terminates

end Scada.LegacyAdapter

/-! ## The stub -/

/-- `protocol::Notification`, as far as `SubscriptionStub` sets it. -/
structure Remote.Wire.Notification where
  subscriptionId : Nat := 0
  monitoredItemId : Nat := 0
  statusCode : Option Wire.StatusCode := none
  dataChanges : List (Nat × Wire.DataValue) := []
  modelChange : List Wire.ModelChangeEvent := []
  semanticsChangedNodeId : List Wire.NodeId := []
  events : List Wire.Event := []

namespace Remote.Relay

open Scada

variable (stub : SubscriptionStub)

def eraseBad (monitoredItemId : Nat) (statusCode : StatusCode) : SubscriptionStub :=
  if statusCode.isBad then
    { stub with monitoredItems := Function.update stub.monitoredItems monitoredItemId none }
  else
    stub

def onDataChange (monitoredItemId : Nat) (dataValue : DataValue Value) :
    Option (SubscriptionStub × List Wire.Notification) :=
  match stub.monitoredItems monitoredItemId with
  | none => some (stub, [])
  | some _ => do
    -- both fields are as another tier has set them
    check (!dataValue.qualifier.failed || dataValue.statusCode.isBad)
    let sent ← dataValue.convert
    return (eraseBad stub monitoredItemId dataValue.statusCode,
      [{ subscriptionId := stub.subscriptionId
         monitoredItemId
         dataChanges := [(monitoredItemId, sent)] }])

/-- What `OnEvent` adds to the notification, by the type of the event; the inner
`none` is an event that is dropped. -/
def addEvent (notification : Wire.Notification) :
    Option AnyEvent → Option (Option Wire.Notification)
  | some (.event event) =>
    if event.eventId = 0 then
      -- dropped here, as `Convert` would stop at it
      some none
    else
      event.convert.map fun sent => some { notification with events := [sent] }
  | some (.modelChange event) =>
    event.convert.map fun sent => some { notification with modelChange := [sent] }
  | some (.semanticChange event) =>
    some (some { notification with semanticsChangedNodeId := [event.nodeId.convert] })
  | some (.deviceFrame _) | none => some (some notification)

def onEvent (monitoredItemId : Nat) (statusCode : StatusCode)
    (event : Option AnyEvent) : Option (SubscriptionStub × List Wire.Notification) :=
  match stub.monitoredItems monitoredItemId with
  | none => some (stub, [])
  | some _ => do
    let sent ← addEvent
      { subscriptionId := stub.subscriptionId
        monitoredItemId
        statusCode := if statusCode = .good then none else some statusCode.convert } event
    return (eraseBad stub monitoredItemId statusCode, sent.toList)

/-! ## What the wire carries -/

def eventPayload : Option AnyEvent → EventPayload
  | some (.event event) => .event event.eventId.toNat
  | some (.modelChange _) => .modelChange
  | some (.semanticChange _) => .semanticChange
  | some (.deviceFrame _) | none => .other

/-- The events of a message, in the order in which the receiver goes through
them. -/
def payloads (sent : Wire.Notification) : List EventPayload :=
  sent.modelChange.map (fun _ => .modelChange) ++
    sent.semanticsChangedNodeId.map (fun _ => .semanticChange) ++
    sent.events.map (fun event => .event event.eventId.toNat)

/-- The message carries the notification. -/
structure Carries (sent : Wire.Notification) (notification : Notification Value) : Prop where
  subscriptionId : sent.subscriptionId = notification.subscriptionId
  monitoredItemId : sent.monitoredItemId = notification.monitoredItemId
  statusCode : sent.statusCode = notification.statusCode.map StatusCode.convert
  dataChanges : List.Forall₂ (fun sent change => sent.1 = change.1 ∧ change.2.convert = some sent.2)
    sent.dataChanges notification.dataChanges
  events : notification.events = payloads sent
  session : notification.sessionDeleted = false

variable {stub stub' : SubscriptionStub} {monitoredItemId : Nat} {sent : List Wire.Notification}

theorem onDataChange_refines {dataValue : DataValue Value}
    (h : onDataChange stub monitoredItemId dataValue = some (stub', sent)) :
    ∃ notifications, stub.onDataChange monitoredItemId dataValue = some (stub', notifications) ∧
      List.Forall₂ Carries sent notifications := by
  unfold onDataChange at h
  cases hitem : stub.monitoredItems monitoredItemId with
  | none =>
    simp only [hitem, Option.some.injEq, Prod.mk.injEq] at h
    obtain ⟨rfl, rfl⟩ := h
    exact ⟨[], by simp [SubscriptionStub.onDataChange, hitem], .nil⟩
  | some readValueId =>
    simp only [hitem, check_bind] at h
    split at h
    · rename_i hchecked
      obtain ⟨wire, hwire, h⟩ := Option.bind_eq_some_iff.mp h
      cases h
      let notification : Notification Value :=
        { subscriptionId := stub.subscriptionId
          monitoredItemId
          dataChanges := [(monitoredItemId, dataValue)] }
      refine ⟨[notification], ?_, .cons ⟨rfl, rfl, rfl, .cons ⟨rfl, hwire⟩ .nil, rfl, rfl⟩ .nil⟩
      have hpass : (dataValue.qualifier.failed && !dataValue.statusCode.isBad) = false := by
        cases hfailed : dataValue.qualifier.failed
        · rfl
        · simpa [hfailed] using hchecked
      simp only [SubscriptionStub.onDataChange, hitem, hpass]
      rfl
    · cases h

theorem convert_eventId {event : Event} {wire : Wire.Event} (h : event.convert = some wire) :
    wire.eventId = event.eventId := by
  rw [Event.convert, check_bind] at h
  split at h
  · obtain ⟨time, -, h⟩ := Option.bind_eq_some_iff.mp h
    obtain ⟨value, -, h⟩ := Option.bind_eq_some_iff.mp h
    obtain ⟨acknowledgeTime, -, h⟩ := Option.bind_eq_some_iff.mp h
    cases h
    rfl
  · cases h

/-- The event that is added to a message without one is what the model of the
stub sends. -/
theorem addEvent_refines {notification : Wire.Notification} (hempty : payloads notification = [])
    {event : Option AnyEvent} {result : Option Wire.Notification}
    (h : addEvent notification event = some result) :
    SubscriptionStub.eventPayload (eventPayload event) = result.map payloads ∧
      ∀ sent ∈ result, sent.subscriptionId = notification.subscriptionId ∧
        sent.monitoredItemId = notification.monitoredItemId ∧
        sent.statusCode = notification.statusCode ∧
        sent.dataChanges = notification.dataChanges := by
  obtain ⟨hmodel, hsemantics, hevents⟩ :
      notification.modelChange = [] ∧ notification.semanticsChangedNodeId = [] ∧
        notification.events = [] := by
    simpa [payloads] using hempty
  rcases event with _ | event | event | event | event
  · cases h
    simp [SubscriptionStub.eventPayload, eventPayload, hempty]
  · simp only [addEvent] at h
    split at h
    · rename_i hzero
      cases h
      simp [SubscriptionStub.eventPayload, eventPayload, hzero]
    · rename_i hid
      obtain ⟨wire, hwire, rfl⟩ := Option.map_eq_some_iff.mp h
      have hnat : event.eventId.toNat ≠ 0 := fun hno => hid (UInt64.toNat_inj.mp hno)
      simp [SubscriptionStub.eventPayload, eventPayload, hnat, payloads, hmodel, hsemantics,
        convert_eventId hwire]
  · cases h
    simp [SubscriptionStub.eventPayload, eventPayload, hempty]
  · obtain ⟨wire, -, rfl⟩ := Option.map_eq_some_iff.mp h
    simp [SubscriptionStub.eventPayload, eventPayload, payloads, hsemantics, hevents]
  · cases h
    simp [SubscriptionStub.eventPayload, eventPayload, payloads, hmodel, hevents]

theorem onEvent_refines {statusCode : StatusCode} {event : Option AnyEvent}
    (h : onEvent stub monitoredItemId statusCode event = some (stub', sent)) :
    ∃ notifications : List (Notification Value),
      stub.onEvent monitoredItemId statusCode (eventPayload event) = (stub', notifications) ∧
        List.Forall₂ Carries sent notifications := by
  unfold onEvent at h
  cases hitem : stub.monitoredItems monitoredItemId with
  | none =>
    simp only [hitem, Option.some.injEq, Prod.mk.injEq] at h
    obtain ⟨rfl, rfl⟩ := h
    exact ⟨[], by simp [SubscriptionStub.onEvent, hitem], .nil⟩
  | some readValueId =>
    simp only [hitem] at h
    obtain ⟨result, hresult, h⟩ := Option.bind_eq_some_iff.mp h
    cases h
    obtain ⟨hpayload, hsame⟩ := addEvent_refines rfl hresult
    cases result with
    | none =>
      refine ⟨[], ?_, .nil⟩
      simp only [SubscriptionStub.onEvent, hitem, hpayload, Option.map_none]
      rfl
    | some wire =>
      obtain ⟨hsubscription, hmonitored, hstatus, hchanges⟩ := hsame wire rfl
      let notification : Notification Value :=
        { subscriptionId := stub.subscriptionId
          monitoredItemId
          statusCode := if statusCode = .good then none else some statusCode
          events := payloads wire }
      refine ⟨[notification], ?_, .cons ⟨hsubscription, hmonitored, ?_, ?_, rfl, rfl⟩ .nil⟩
      · simp only [SubscriptionStub.onEvent, hitem, hpayload, Option.map_some]
        rfl
      · rw [hstatus]
        by_cases hgood : statusCode = .good <;> simp [notification, hgood]
      · rw [hchanges]
        exact .nil

/-! ## What is relayed -/

theorem onDataChange_isSome_iff (stub : SubscriptionStub) (monitoredItemId : Nat)
    (dataValue : DataValue Value) :
    (onDataChange stub monitoredItemId dataValue).isSome ↔
      ((stub.monitoredItems monitoredItemId).isSome →
        (dataValue.qualifier.failed → dataValue.statusCode.isBad) ∧ dataValue.Encodable) := by
  unfold onDataChange
  cases stub.monitoredItems monitoredItemId with
  | none => simp
  | some readValueId =>
    rw [← DataValue.convert_isSome_iff]
    cases dataValue.qualifier.failed <;> cases dataValue.statusCode.isBad <;>
      cases dataValue.convert <;> simp

/-- The events that `OnEvent` does not stop at. One without an id is dropped, so
that it does not matter what it holds. -/
def Relayable : Option AnyEvent → Prop
  | some (.event event) => event.eventId = 0 ∨ event.Encodable
  | some (.modelChange event) => event.isValid
  | some (.semanticChange _) | some (.deviceFrame _) | none => True

theorem addEvent_isSome_iff (notification : Wire.Notification) (event : Option AnyEvent) :
    (addEvent notification event).isSome ↔ Relayable event := by
  rcases event with _ | event | event | event | event
  · exact iff_of_true rfl trivial
  · simp only [addEvent, Relayable]
    split
    · rename_i hzero
      exact iff_of_true rfl (Or.inl hzero)
    · rename_i hid
      rw [Option.isSome_map, Event.convert_isSome_iff, or_iff_right hid]
  · exact iff_of_true rfl trivial
  · rw [addEvent, Option.isSome_map]
    exact event.convert_isSome_iff
  · exact iff_of_true rfl trivial

theorem onEvent_isSome_iff (stub : SubscriptionStub) (monitoredItemId : Nat)
    (statusCode : StatusCode) (event : Option AnyEvent) :
    (onEvent stub monitoredItemId statusCode event).isSome ↔
      ((stub.monitoredItems monitoredItemId).isSome → Relayable event) := by
  unfold onEvent
  cases stub.monitoredItems monitoredItemId with
  | none => simp
  | some readValueId =>
    simp only [Option.isSome_some, forall_const]
    rw [← addEvent_isSome_iff]
    generalize addEvent _ event = result
    cases result <;> simp

/-- Where a notification is stopped by an assertion: in the adapter, a Good status
for a data-change handler; in `OnDataChange`, a data value off the wire that has
failed without being Bad; and in `OnEvent`, an event that cannot be encoded or a
model change that is not valid. -/
theorem relay_iff (es : List (LegacyAdapter.Event Value AnyEvent)) (stub : SubscriptionStub)
    (monitoredItemId : Nat) (wire : Wire.DataValue) (statusCode : StatusCode)
    (event : Option AnyEvent) :
    (LegacyAdapter.thread.Always (fun s => .terminated ∉ s.stack) es ↔
      LegacyAdapter.thread.Meets (fun s e => ¬ LegacyAdapter.TellsGood s e) es) ∧
    (∀ dataValue, wire.convert = some dataValue →
      ((onDataChange stub monitoredItemId dataValue).isSome ↔
        ((stub.monitoredItems monitoredItemId).isSome →
          dataValue.qualifier.failed → dataValue.statusCode.isBad))) ∧
    ((onEvent stub monitoredItemId statusCode event).isSome ↔
      ((stub.monitoredItems monitoredItemId).isSome → Relayable event)) := by
  refine ⟨LegacyAdapter.always_not_terminated_iff es, ?_,
    onEvent_isSome_iff stub monitoredItemId statusCode event⟩
  intro dataValue hwire
  have hencodable := Wire.DataValue.encodable_of_convert hwire
  rw [onDataChange_isSome_iff]
  exact imp_congr_right fun _ => and_iff_left hencodable

/-- An item that wants data changes is added, and then told that it is Good. -/
def goodStatusRun : List (LegacyAdapter.Event Value AnyEvent) :=
  [.call (.subscribe 0 (.dataChange true)), .act (.run 0), .act (.run 0), .act (.run 0),
    .act (.createSubscription (.ok ())), .act (.run 0), .act (.run 0), .suspend, .act (.run 0),
    .act (.run 0), .act (.addItems [{ itemId := 1, clientHandle := 1, status := StatusCode.good }]),
    .act (.run 0), .resume 0, .act (.readNext (.ok [.itemStatus 1 1 StatusCode.good])),
    .act (.run 0)]

def oneItem : SubscriptionStub :=
  { subscriptionId := 1, monitoredItems := fun id => if id = 1 then some {} else none }

/-- Each of the three functions stops at something that a peer can send. -/
theorem relay_stops :
    .terminated ∈ (LegacyAdapter.thread.run goodStatusRun).stack ∧
    (({ qualifier := 0x40 } : Wire.DataValue).convert.bind (onDataChange oneItem 1)).isNone ∧
    (onEvent oneItem 1 .good (some (.modelChange ({} : Wire.ModelChangeEvent).convert))).isNone := by
  refine ⟨?_, by decide, by decide⟩
  have hstack : (LegacyAdapter.thread.run goodStatusRun).stack = [.terminated, .readLoop] := rfl
  rw [hstack]
  exact List.mem_cons_self

end Remote.Relay

end ScadaCore
