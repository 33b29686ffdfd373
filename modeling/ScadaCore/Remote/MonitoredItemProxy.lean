import ScadaCore.Data.Panic
import ScadaCore.Remote.Protocol
import Mathlib.Logic.Function.Basic

/-!
# Remote.MonitoredItemProxy — the client side of a monitored item

A `MonitoredItemProxy` goes through the states deleted, creating and created
while its channel is open. It reaches three things outside itself: the router
that maps the ids of created items to their proxies, the sender, and the
handler of its subscriber; here these are the `MonitoredItemRouter`. A failed
`base::Check` is `none`. The handlers do not call back.

The pointers `router_` and `sender_` matter only as far as they are set. An
item is known to its router by the number `self`.
-/

namespace ScadaCore.Remote

open Scada Function

/-- `enum class State`, of the proxies of items and subscriptions alike. -/
inductive ProxyState where
  | deleted | creating | created
deriving DecidableEq, Repr

/-- The alternative a `MonitoredItemHandler` holds. -/
inductive HandlerKind where
  | dataChange | event
deriving DecidableEq, Repr

/-- The requests the proxies send. The response to a create request is bound to
the item that sent it; a delete request has no response handler. -/
inductive ProxyRequest where
  | createSubscription
  | createMonitoredItem (item : Nat) (subscriptionId : Nat) (valueId : ReadValueId)
  | deleteMonitoredItem (subscriptionId monitoredItemId : Nat)
deriving DecidableEq, Repr

/-- What the handler of an item is called with. -/
inductive ItemNotification (V : Type) where
  | dataChange (value : DataValue V)
  | event (status : Status) (event : Option EventPayload)

/-- What an item reaches through `router_`, `sender_` and its handler. -/
structure MonitoredItemRouter (V : Type) where
  monitoredItemIds : Nat → Option Nat := fun _ => none
  requests : List ProxyRequest := []
  notified : List (Nat × ItemNotification V) := []

namespace MonitoredItemRouter

variable {V : Type} (router : MonitoredItemRouter V)

def addMonitoredItemDataObserver (monitoredItemId self : Nat) : Option (MonitoredItemRouter V) := do
  check (router.monitoredItemIds monitoredItemId).isNone
  return { router with
    monitoredItemIds := Function.update router.monitoredItemIds monitoredItemId (some self) }

def removeMonitoredItemDataObserver (monitoredItemId : Nat) : Option (MonitoredItemRouter V) := do
  check (router.monitoredItemIds monitoredItemId).isSome
  return { router with
    monitoredItemIds := Function.update router.monitoredItemIds monitoredItemId none }

def request (request : ProxyRequest) : MonitoredItemRouter V :=
  { router with requests := router.requests ++ [request] }

def notify (self : Nat) (notification : ItemNotification V) : MonitoredItemRouter V :=
  { router with notified := router.notified ++ [(self, notification)] }

end MonitoredItemRouter

structure MonitoredItemProxy (V : Type) where
  valueId : ReadValueId
  router : Bool := false
  sender : Bool := false
  subscriptionId : Nat := 0
  monitoredItemId : Nat := 0
  state : ProxyState := .deleted
  dataChangeHandler : Bool := false
  eventHandler : Bool := false
  subscribed : Bool := false
  channelOpened : Bool := false
  currentData : DataValue V := {}

namespace MonitoredItemProxy

variable {V : Type} (self : Nat) (item : MonitoredItemProxy V) (router : MonitoredItemRouter V)

def isEvent : Bool := item.valueId.attributeId == .eventNotifier

/-! ## The functions of the class -/

def createStub : Option (MonitoredItemProxy V × MonitoredItemRouter V) := do
  check item.subscribed
  check (item.state == .deleted)
  check item.sender
  return ({ item with state := .creating },
    router.request (.createMonitoredItem self item.subscriptionId item.valueId))

def deleteStub : Option (MonitoredItemProxy V × MonitoredItemRouter V) := do
  check item.subscribed
  check item.router
  check (item.state == .created)
  check item.sender
  let router ← router.removeMonitoredItemDataObserver item.monitoredItemId
  return ({ item with state := .deleted, monitoredItemId := 0 },
    router.request (.deleteMonitoredItem item.subscriptionId item.monitoredItemId))

/-- `~MonitoredItemProxy`: what is left of it. -/
def destroy : Option (MonitoredItemRouter V) :=
  if item.state = .created then (item.deleteStub router).map (·.2) else some router

def subscribe (handler : HandlerKind) (item : MonitoredItemProxy V)
    (router : MonitoredItemRouter V) :
    Option (MonitoredItemProxy V × MonitoredItemRouter V) := do
  check !item.subscribed
  check (item.state == .deleted)
  let item :=
    { item with
      subscribed := true
      dataChangeHandler := item.dataChangeHandler || handler == .dataChange
      eventHandler := item.eventHandler || handler == .event }
  -- a data-change handler is greeted with the value at hand
  let router :=
    if handler == .dataChange && !item.currentData.isNull then
      router.notify self (.dataChange item.currentData)
    else router
  if item.channelOpened then createStub self item router else return (item, router)

def onChannelOpened (self subscriptionId : Nat) (now : Time) (item : MonitoredItemProxy V)
    (router : MonitoredItemRouter V) :
    Option (MonitoredItemProxy V × MonitoredItemRouter V) := do
  check (item.state == .deleted)
  check !item.router
  check !item.sender
  check !item.channelOpened
  let item := { item with router := true, sender := true, subscriptionId, channelOpened := true }
  if !item.subscribed then
    return (item, router)
  else if item.dataChangeHandler then
    let value := { item.currentData with serverTimestamp := now, qualifier := .offline }
    createStub self { item with currentData := value } (router.notify self (.dataChange value))
  else
    createStub self item router

def updateQualifier (statusCode : StatusCode) (remove add : BitVec 32)
    (item : MonitoredItemProxy V) (router : MonitoredItemRouter V) :
    Option (MonitoredItemProxy V × MonitoredItemRouter V) := do
  check !item.isEvent
  if !item.subscribed then
    return (item, router)
  else
    check item.dataChangeHandler
    let qualifier := item.currentData.qualifier.update remove add
    if item.currentData.statusCode == statusCode && item.currentData.qualifier == qualifier then
      return (item, router)
    else
      let value := { item.currentData with statusCode, qualifier }
      return ({ item with currentData := value }, router.notify self (.dataChange value))

/-- The first part of `OnChannelClosed`: a created item leaves the map. -/
def unregister : Option (MonitoredItemRouter V) :=
  if item.state = .created then router.removeMonitoredItemDataObserver item.monitoredItemId
  else some router

def onChannelClosed : Option (MonitoredItemProxy V × MonitoredItemRouter V) := do
  check item.router
  check item.sender
  check item.channelOpened
  let router ← item.unregister router
  let closed :=
    { item with
      channelOpened := false, router := false, sender := false, state := .deleted
      subscriptionId := 0, monitoredItemId := 0 }
  if item.state != .deleted && !item.isEvent then
    closed.updateQualifier self closed.currentData.statusCode 0 Qualifier.flagOffline router
  else
    return (closed, router)

def onCreateMonitoredItemResult (status : Status) (monitoredItemId : Nat)
    (item : MonitoredItemProxy V) (router : MonitoredItemRouter V) :
    Option (MonitoredItemProxy V × MonitoredItemRouter V) :=
  if !item.router || !item.channelOpened || item.state != .creating then
    some (item, router)
  else if status.bad then
    let item := { item with state := .deleted }
    if item.isEvent then do
      -- calling an empty function would throw
      check item.eventHandler
      return (item, router.notify self (.event status none))
    else
      item.updateQualifier self status.code 0 Qualifier.flagFailed router
  else do
    let router ← router.addMonitoredItemDataObserver monitoredItemId self
    return ({ item with state := .created, monitoredItemId }, router)

def onDataChange [BEq V] (self : Nat) (value : DataValue V) (item : MonitoredItemProxy V)
    (router : MonitoredItemRouter V) :
    Option (MonitoredItemProxy V × MonitoredItemRouter V) := do
  check item.router
  check item.subscribed
  check item.dataChangeHandler
  check !item.isEvent
  if item.state != .created || value == item.currentData then
    return (item, router)
  else
    let currentData := if item.currentData.isUpdate value then value else item.currentData
    if value.statusCode.isBad then
      let router ← router.removeMonitoredItemDataObserver item.monitoredItemId
      return ({ item with state := .deleted, monitoredItemId := 0, currentData },
        router.notify self (.dataChange value))
    else
      return ({ item with currentData }, router.notify self (.dataChange value))

/-- Unlike `onDataChange`, a Bad status leaves `monitored_item_id_` as it is. -/
def onEvent (status : Status) (event : EventPayload) (item : MonitoredItemProxy V)
    (router : MonitoredItemRouter V) :
    Option (MonitoredItemProxy V × MonitoredItemRouter V) := do
  check item.router
  check item.subscribed
  check item.eventHandler
  check item.isEvent
  if item.state != .created then
    return (item, router)
  else if status.bad then
    let router ← router.removeMonitoredItemDataObserver item.monitoredItemId
    return ({ item with state := .deleted }, router.notify self (.event status (some event)))
  else
    return (item, router.notify self (.event status (some event)))

/-! ## What each function does to a well-kept item -/

/-- The state of item `self` fits its channel, which is open or not, and the map
of the router. -/
structure Well (opened : Bool) (monitoredItemIds : Nat → Option Nat) (index : Nat)
    (item : MonitoredItemProxy V) : Prop where
  router : item.router = opened
  sender : item.sender = opened
  channelOpened : item.channelOpened = opened
  active : item.state ≠ .deleted → opened = true ∧ item.subscribed = true
  handlers : item.subscribed = true →
    item.dataChangeHandler = !item.isEvent ∧ item.eventHandler = item.isEvent
  unsubscribed : item.subscribed = false →
    item.dataChangeHandler = false ∧ item.eventHandler = false
  registered : ∀ id, monitoredItemIds id = some index ↔
    item.state = .created ∧ item.monitoredItemId = id

/-- The handler of the item is called, and nothing else happens outside it. -/
structure OnlyNotifies (router router' : MonitoredItemRouter V) : Prop where
  monitoredItemIds : router'.monitoredItemIds = router.monitoredItemIds
  requests : router'.requests = router.requests

variable {ids : Nat → Option Nat} {self} {item} {opened : Bool} {router}

theorem Well.deleted_of_closed (h : Well false ids self item) : item.state = .deleted := by
  by_contra hne
  have hopened := (h.active hne).1
  cases hopened

theorem Well.ids_of_created (h : Well opened ids self item) (hcreated : item.state = .created) :
    ids item.monitoredItemId = some self :=
  (h.registered _).mpr ⟨hcreated, rfl⟩

theorem Well.congr {ids' : Nat → Option Nat} (h : Well opened ids self item)
    (hids : ∀ id, ids' id = some self ↔ ids id = some self) : Well opened ids' self item :=
  ⟨h.router, h.sender, h.channelOpened, h.active, h.handlers, h.unsubscribed,
    fun id => (hids id).trans (h.registered id)⟩

def idsWithout (ids : Nat → Option Nat) (item : MonitoredItemProxy V) : Nat → Option Nat :=
  if item.state = .created then Function.update ids item.monitoredItemId none else ids

/-! ### How well-keeping carries over -/

section Transitions

variable {index : Nat}

theorem Well.not_registered (h : Well opened ids index item) (hne : item.state ≠ .created)
    (id : Nat) : ids id ≠ some index := by
  intro hid
  exact hne ((h.registered id).mp hid).1

theorem Well.idsWithout_ne (h : Well opened ids index item) (id : Nat) :
    item.idsWithout ids id ≠ some index := by
  unfold idsWithout
  by_cases hcreated : item.state = .created
  · rw [if_pos hcreated]
    intro hid
    by_cases hself : id = item.monitoredItemId
    · subst hself
      simp at hid
    · rw [update_of_ne hself] at hid
      exact hself ((h.registered id).mp hid).2.symm
  · rw [if_neg hcreated]
    exact h.not_registered hcreated id

theorem Well.opens (h : Well false ids index item) (subscriptionId : Nat)
    (currentData : DataValue V) :
    Well true ids index
      { item with
        router := true, sender := true, subscriptionId, channelOpened := true
        state := if item.subscribed then .creating else .deleted
        currentData } := by
  refine ⟨rfl, rfl, rfl, ?_, h.handlers, h.unsubscribed, ?_⟩
  · intro hactive
    refine ⟨rfl, ?_⟩
    by_contra hno
    exact hactive (if_neg hno)
  · intro id
    refine iff_of_false (h.not_registered (by rw [h.deleted_of_closed]; decide) id) ?_
    rintro ⟨hstate, -⟩
    dsimp only at hstate
    split at hstate <;> cases hstate

theorem Well.closes (h : Well true ids index item) (currentData : DataValue V) :
    Well false (item.idsWithout ids) index
      { item with
        channelOpened := false, router := false, sender := false, state := .deleted
        subscriptionId := 0, monitoredItemId := 0, currentData } := by
  refine ⟨rfl, rfl, rfl, fun hactive => absurd rfl hactive, h.handlers, h.unsubscribed, ?_⟩
  intro id
  refine iff_of_false (h.idsWithout_ne id) ?_
  rintro ⟨hstate, -⟩
  cases hstate

section

variable (h : Well opened ids index item)

include h

theorem Well.deletes (monitoredItemId : Nat) (currentData : DataValue V) :
    Well opened (item.idsWithout ids) index
      { item with state := .deleted, monitoredItemId, currentData } := by
  refine ⟨h.router, h.sender, h.channelOpened, fun hactive => absurd rfl hactive, h.handlers,
    h.unsubscribed, ?_⟩
  intro id
  refine iff_of_false (h.idsWithout_ne id) ?_
  rintro ⟨hstate, -⟩
  cases hstate

theorem Well.creates (hcreating : item.state = .creating) (id : Nat) :
    Well opened (update ids id (some index)) index
      { item with state := .created, monitoredItemId := id } := by
  have hactive := h.active (by rw [hcreating]; decide)
  refine ⟨h.router, h.sender, h.channelOpened, fun _ => hactive, h.handlers, h.unsubscribed, ?_⟩
  intro id'
  by_cases hid : id' = id
  · subst hid
    simp
  · rw [update_of_ne hid]
    refine iff_of_false (h.not_registered (by rw [hcreating]; decide) id') ?_
    rintro ⟨-, heq⟩
    exact hid heq.symm

theorem Well.subscribes (hsubscribed : item.subscribed = false) {handler : HandlerKind}
    (hfits : (handler == .event) = item.isEvent) :
    Well opened ids index
      { item with
        subscribed := true
        dataChangeHandler := handler == .dataChange
        eventHandler := handler == .event
        state := if opened then .creating else .deleted } := by
  have hne : item.state ≠ .created := by
    intro hcreated
    have hyes := (h.active (by rw [hcreated]; decide)).2
    rw [hsubscribed] at hyes
    cases hyes
  refine ⟨h.router, h.sender, h.channelOpened, ?_, ?_, (fun hno => by cases hno), ?_⟩
  · intro hactive
    refine ⟨?_, rfl⟩
    by_contra hclosed
    exact hactive (if_neg hclosed)
  · intro _
    refine ⟨?_, hfits⟩
    have hkind : (handler == .dataChange) = !(handler == .event) := by cases handler <;> rfl
    exact hkind.trans (congrArg (!·) hfits)
  · intro id
    refine iff_of_false (h.not_registered hne id) ?_
    rintro ⟨hstate, -⟩
    dsimp only at hstate
    split at hstate <;> cases hstate

theorem Well.receives (currentData : DataValue V) :
    Well opened ids index { item with currentData } :=
  ⟨h.router, h.sender, h.channelOpened, h.active, h.handlers, h.unsubscribed, h.registered⟩

end

end Transitions

/-! ### One lemma per function -/

theorem updateQualifier_spec (self : Nat) (code : StatusCode) (remove add : BitVec 32)
    (router : MonitoredItemRouter V) (hdata : item.isEvent = false)
    (hhandler : item.subscribed = true → item.dataChangeHandler = true) :
    ∃ currentData router', item.updateQualifier self code remove add router =
      some ({ item with currentData }, router') ∧ OnlyNotifies router router' := by
  obtain ⟨valueId, _, _, _, _, _, dataChangeHandler, _, subscribed, _, currentData⟩ := item
  unfold updateQualifier
  simp only [hdata, check_bind, Bool.not_false, if_true]
  cases subscribed with
  | false => exact ⟨currentData, router, rfl, rfl, rfl⟩
  | true =>
    obtain rfl : dataChangeHandler = true := hhandler rfl
    simp only [Bool.not_true, Bool.false_eq_true, if_false, if_true]
    split
    · exact ⟨currentData, router, rfl, rfl, rfl⟩
    · exact ⟨_, _, rfl, rfl, rfl⟩

section

variable (h : Well opened ids self item) (hcreating : item.state = .creating)
  (router : MonitoredItemRouter V)

include h hcreating

theorem onCreateMonitoredItemResult_of_creating (status : Status) (id : Nat) :
    item.onCreateMonitoredItemResult self status id router =
      if status.bad then
        if item.isEvent then
          some ({ item with state := .deleted }, router.notify self (.event status none))
        else
          updateQualifier self status.code 0 Qualifier.flagFailed { item with state := .deleted }
            router
      else
        (router.addMonitoredItemDataObserver id self).map
          ({ item with state := .created, monitoredItemId := id }, ·) := by
  obtain ⟨hopened, hsubscribed⟩ := h.active (by rw [hcreating]; decide)
  have hevent := (h.handlers hsubscribed).2
  have hkept : ¬ (!item.router || !item.channelOpened || item.state != .creating) = true := by
    simp [h.router, h.channelOpened, hopened, hcreating]
  unfold onCreateMonitoredItemResult
  simp only [if_neg hkept]
  split
  · by_cases hkind : item.isEvent = true
    · have hkind' : isEvent { item with state := .deleted } = true := hkind
      simp only [check_bind]
      rw [if_pos hkind, if_pos hkind', if_pos (hevent.trans hkind)]
      rfl
    · have hkind' : ¬ isEvent { item with state := .deleted } = true := hkind
      rw [if_neg hkind, if_neg hkind']
  · cases router.addMonitoredItemDataObserver id self <;> rfl

theorem onCreateMonitoredItemResult_bad {status : Status} (hbad : status.bad = true) (id : Nat) :
    ∃ currentData router', item.onCreateMonitoredItemResult self status id router =
      some ({ item with state := .deleted, currentData }, router') ∧
        OnlyNotifies router router' := by
  obtain ⟨-, hsubscribed⟩ := h.active (by rw [hcreating]; decide)
  rw [onCreateMonitoredItemResult_of_creating h hcreating, if_pos hbad]
  by_cases hkind : item.isEvent = true
  · rw [if_pos hkind]
    exact ⟨item.currentData, _, rfl, rfl, rfl⟩
  · rw [if_neg hkind]
    have hdata : item.isEvent = false := by simpa using hkind
    have hhandler : item.dataChangeHandler = true := by
      rw [(h.handlers hsubscribed).1, hdata]
      rfl
    exact updateQualifier_spec self status.code 0 Qualifier.flagFailed router hdata
      (fun _ => hhandler)

theorem onCreateMonitoredItemResult_good {status : Status} (hgood : ¬ status.bad = true)
    (id : Nat) :
    item.onCreateMonitoredItemResult self status id router =
      if (router.monitoredItemIds id).isNone then
        some ({ item with state := .created, monitoredItemId := id },
          { router with
            monitoredItemIds := update router.monitoredItemIds id (some self) })
      else none := by
  rw [onCreateMonitoredItemResult_of_creating h hcreating, if_neg hgood]
  unfold MonitoredItemRouter.addMonitoredItemDataObserver
  cases router.monitoredItemIds id <;> rfl

end

theorem onCreateMonitoredItemResult_of_ne (self : Nat) (router : MonitoredItemRouter V)
    (hne : item.state ≠ .creating) (status : Status) (id : Nat) :
    item.onCreateMonitoredItemResult self status id router = some (item, router) := by
  simp [onCreateMonitoredItemResult, hne]

/-- Opening the channel starts the creation of an item that has a subscriber. -/
theorem onChannelOpened_spec (h : Well false ids self item) (subscriptionId : Nat) (now : Time)
    (router : MonitoredItemRouter V) :
    ∃ currentData router', item.onChannelOpened self subscriptionId now router =
        some ({ item with
          router := true, sender := true, subscriptionId, channelOpened := true
          state := if item.subscribed then .creating else .deleted
          currentData }, router') ∧
      router'.monitoredItemIds = router.monitoredItemIds ∧
      router'.requests = router.requests ++
        if item.subscribed then [.createMonitoredItem self subscriptionId item.valueId] else [] := by
  have hstate := h.deleted_of_closed
  obtain ⟨hrouter, hsender, hchannel, -, -, -, -⟩ := h
  obtain ⟨valueId, _, _, _, _, state, dataChangeHandler, _, subscribed, _, currentData⟩ := item
  cases hstate
  cases hrouter
  cases hsender
  cases hchannel
  unfold onChannelOpened
  simp only [check_bind, beq_self_eq_true, Bool.not_false, if_true]
  cases subscribed with
  | false => exact ⟨currentData, router, rfl, rfl, (List.append_nil _).symm⟩
  | true =>
    cases dataChangeHandler with
    | false => exact ⟨currentData, _, rfl, rfl, rfl⟩
    | true => exact ⟨_, _, rfl, rfl, rfl⟩

theorem removeObserver_of_registered {id : Nat} (h : router.monitoredItemIds id = some self) :
    router.removeMonitoredItemDataObserver id =
      some { router with monitoredItemIds := update router.monitoredItemIds id none } := by
  simp [MonitoredItemRouter.removeMonitoredItemDataObserver, h]

theorem unregister_spec (h : Well opened router.monitoredItemIds self item) :
    ∃ router', item.unregister router = some router' ∧
      router'.monitoredItemIds = item.idsWithout router.monitoredItemIds ∧
      router'.requests = router.requests := by
  unfold unregister
  by_cases hcreated : item.state = .created
  · rw [if_pos hcreated, removeObserver_of_registered (h.ids_of_created hcreated)]
    exact ⟨_, rfl, by rw [idsWithout, if_pos hcreated], rfl⟩
  · rw [if_neg hcreated]
    exact ⟨router, rfl, by rw [idsWithout, if_neg hcreated], rfl⟩

theorem onChannelClosed_spec (h : Well true router.monitoredItemIds self item) :
    ∃ currentData router', item.onChannelClosed self router =
        some ({ item with
          channelOpened := false, router := false, sender := false, state := .deleted
          subscriptionId := 0, monitoredItemId := 0, currentData }, router') ∧
      router'.monitoredItemIds = item.idsWithout router.monitoredItemIds ∧
      router'.requests = router.requests := by
  obtain ⟨router₁, hremove, hids, hrequests⟩ := unregister_spec h
  unfold onChannelClosed
  simp only [check_bind, Option.bind_eq_bind]
  rw [if_pos h.router, if_pos h.sender, if_pos h.channelOpened, hremove, Option.bind_some]
  by_cases hactive : (item.state != .deleted && !item.isEvent) = true
  · rw [if_pos hactive]
    obtain ⟨hstate, hkind⟩ : item.state ≠ .deleted ∧ item.isEvent = false := by simpa using hactive
    obtain ⟨-, hsubscribed⟩ := h.active hstate
    have hhandler : item.dataChangeHandler = true := by
      rw [(h.handlers hsubscribed).1, hkind]
      rfl
    let closed : MonitoredItemProxy V :=
      { item with
        channelOpened := false, router := false, sender := false, state := .deleted
        subscriptionId := 0, monitoredItemId := 0 }
    have hkind' : closed.isEvent = false := hkind
    obtain ⟨currentData, router', heq, honly⟩ := updateQualifier_spec self
      item.currentData.statusCode 0 Qualifier.flagOffline router₁ hkind' (fun _ => hhandler)
    exact ⟨currentData, router', heq, honly.monitoredItemIds.trans hids,
      honly.requests.trans hrequests⟩
  · rw [if_neg hactive]
    exact ⟨item.currentData, router₁, rfl, hids, hrequests⟩

theorem onChannelClosed_of_closed (h : Well false ids self item) (router : MonitoredItemRouter V) :
    item.onChannelClosed self router = none := by
  simp [onChannelClosed, h.router]

/-- A subscriber starts the creation of the item if the channel is open. -/
theorem subscribe_spec (h : Well opened ids self item) (hsubscribed : item.subscribed = false)
    (handler : HandlerKind) (router : MonitoredItemRouter V) :
    ∃ router', item.subscribe self handler router =
        some ({ item with
          subscribed := true
          dataChangeHandler := handler == .dataChange
          eventHandler := handler == .event
          state := if opened then .creating else .deleted }, router') ∧
      router'.monitoredItemIds = router.monitoredItemIds ∧
      router'.requests = router.requests ++
        if opened then [.createMonitoredItem self item.subscriptionId item.valueId] else [] := by
  have hstate : item.state = .deleted := by
    by_contra hne
    have hyes := (h.active hne).2
    rw [hsubscribed] at hyes
    cases hyes
  obtain ⟨hdata, hevent⟩ := h.unsubscribed hsubscribed
  obtain ⟨-, hsender, hchannel, -, -, -, -⟩ := h
  obtain ⟨valueId, _, sender, _, _, state, _, _, subscribed, _, currentData⟩ := item
  cases hstate
  cases hsubscribed
  cases hdata
  cases hevent
  cases hsender
  cases hchannel
  unfold subscribe
  simp only [check_bind, beq_self_eq_true, Bool.not_false, if_true, Bool.false_or]
  -- the greeting is the only thing that depends on the handler and the value
  generalize hgreet : (if (handler == .dataChange && !currentData.isNull) = true then
    router.notify self (.dataChange currentData) else router) = greeted
  have honly : OnlyNotifies router greeted := by
    rw [← hgreet]
    split <;> exact ⟨rfl, rfl⟩
  cases sender with
  | false =>
    refine ⟨greeted, rfl, honly.monitoredItemIds, ?_⟩
    rw [honly.requests]
    exact (List.append_nil _).symm
  | true =>
    refine ⟨greeted.request (.createMonitoredItem self _ valueId), rfl, honly.monitoredItemIds, ?_⟩
    simp [MonitoredItemRouter.request, honly.requests]

/-- Destroying a created item takes it out of the map and asks the server to
delete it; any other item just goes. -/
theorem destroy_spec (h : Well opened router.monitoredItemIds self item) :
    ∃ router', item.destroy router = some router' ∧
      router'.monitoredItemIds = item.idsWithout router.monitoredItemIds ∧
      router'.requests = router.requests ++
        if item.state = .created then
          [.deleteMonitoredItem item.subscriptionId item.monitoredItemId]
        else [] := by
  unfold destroy
  by_cases hcreated : item.state = .created
  · obtain ⟨hopened, hsubscribed⟩ := h.active (by rw [hcreated]; decide)
    have hremove := removeObserver_of_registered (h.ids_of_created hcreated)
    have hdelete : item.deleteStub router =
        some ({ item with state := .deleted, monitoredItemId := 0 },
          MonitoredItemRouter.request
            { router with
              monitoredItemIds :=
                update router.monitoredItemIds item.monitoredItemId none }
            (.deleteMonitoredItem item.subscriptionId item.monitoredItemId)) := by
      unfold deleteStub
      simp only [check_bind]
      rw [if_pos hsubscribed, if_pos (h.router.trans hopened), if_pos (by simp [hcreated]),
        if_pos (h.sender.trans hopened), hremove]
      rfl
    simp only [if_pos hcreated, hdelete]
    exact ⟨_, rfl, by rw [idsWithout, if_pos hcreated]; rfl, rfl⟩
  · simp only [if_neg hcreated]
    refine ⟨router, rfl, ?_, (List.append_nil _).symm⟩
    rw [idsWithout, if_neg hcreated]

/-! ### Notifications -/

/-- What a notification makes of a created item. One of the wrong kind panics. The item stays, or
it is deleted and leaves the map, as after a Bad status that is not overlooked. -/
inductive Notified (kind bad overlooked : Bool) (item : MonitoredItemProxy V)
    (router : MonitoredItemRouter V) :
    Option (MonitoredItemProxy V × MonitoredItemRouter V) → Prop where
  | panics (hkind : item.isEvent ≠ kind) : Notified kind bad overlooked item router none
  | stays (hkind : item.isEvent = kind) (hgood : bad = true → overlooked = true)
      (currentData : DataValue V) {router' : MonitoredItemRouter V}
      (honly : OnlyNotifies router router') :
      Notified kind bad overlooked item router (some ({ item with currentData }, router'))
  | leaves (hkind : item.isEvent = kind) (hbad : bad = true) (monitoredItemId : Nat)
      (currentData : DataValue V) {router' : MonitoredItemRouter V}
      (hids : router'.monitoredItemIds = item.idsWithout router.monitoredItemIds)
      (hrequests : router'.requests = router.requests) :
      Notified kind bad overlooked item router
        (some ({ item with state := .deleted, monitoredItemId, currentData }, router'))

theorem onDataChange_notified [BEq V] (h : Well opened router.monitoredItemIds self item)
    (hcreated : item.state = .created) (value : DataValue V) :
    item.Notified false value.statusCode.isBad (value == item.currentData) router
      (item.onDataChange self value router) := by
  obtain ⟨hopened, hsubscribed⟩ := h.active (by rw [hcreated]; decide)
  have hhandler := (h.handlers hsubscribed).1
  have hremove := removeObserver_of_registered (h.ids_of_created hcreated)
  have hstate : (item.state != .created) = false := by simp [hcreated]
  unfold onDataChange
  simp only [check_bind, hstate, Bool.false_or]
  rw [if_pos (h.router.trans hopened), if_pos hsubscribed]
  by_cases hkind : item.isEvent = true
  · rw [if_neg (by simp [hhandler, hkind])]
    exact .panics (by simp [hkind])
  · have hdata : item.isEvent = false := by simpa using hkind
    rw [if_pos (by simp [hhandler, hkind]), if_pos (by simp [hkind]), hremove]
    split
    · rename_i hsame
      exact .stays hdata (fun _ => hsame) item.currentData ⟨rfl, rfl⟩
    · split
      · rename_i hbad
        exact .leaves hdata hbad 0 _ (if_pos hcreated).symm rfl
      · rename_i hgood
        exact .stays hdata (fun hbad => absurd hbad hgood) _ ⟨rfl, rfl⟩

theorem onEvent_notified (h : Well opened router.monitoredItemIds self item)
    (hcreated : item.state = .created) (status : Status) (event : EventPayload) :
    item.Notified true status.bad false router (item.onEvent self status event router) := by
  obtain ⟨hopened, hsubscribed⟩ := h.active (by rw [hcreated]; decide)
  have hhandler := (h.handlers hsubscribed).2
  have hremove := removeObserver_of_registered (h.ids_of_created hcreated)
  have hstate : ¬ (item.state != .created) = true := by simp [hcreated]
  unfold onEvent
  simp only [check_bind]
  rw [if_pos (h.router.trans hopened), if_pos hsubscribed, if_neg hstate]
  by_cases hkind : item.isEvent = true
  · rw [if_pos (hhandler.trans hkind), if_pos hkind, hremove]
    split
    · rename_i hbad
      exact .leaves hkind hbad item.monitoredItemId item.currentData (if_pos hcreated).symm rfl
    · rename_i hgood
      exact .stays hkind (fun hbad => absurd hbad hgood) item.currentData ⟨rfl, rfl⟩
  · rw [if_neg (by simp [hhandler, hkind])]
    exact .panics hkind

end MonitoredItemProxy

end ScadaCore.Remote
