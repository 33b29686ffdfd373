import ScadaCore.Lts.System
import ScadaCore.Remote.MonitoredItemProxy

/-!
# Remote.SubscriptionProxy — the client subscription and its checks

`SubscriptionProxy` keeps the channel of all monitored items of a session. The
channel opens and closes with the session; in between the subscription is
created, and only then are the items told that their channel is open. Closing
the channel tells every live item, whether or not it was ever told that the
channel had opened.
-/

namespace ScadaCore.Remote

open Scada Function MonitoredItemProxy

/-- `class SubscriptionProxy`. The items are numbered in the order of creation;
`items` holds the live ones, and `monitoredItems` the weak pointers. -/
structure SubscriptionProxy (V : Type) where
  sender : Bool := false
  state : ProxyState := .deleted
  subscriptionId : Nat := 0
  monitoredItems : List Nat := []
  items : Nat → Option (MonitoredItemProxy V) := fun _ => none
  nextItem : Nat := 0
  router : MonitoredItemRouter V := {}

namespace SubscriptionProxy

variable {V : Type} (proxy : SubscriptionProxy V)

def setItem (i : Nat) (item : Option (MonitoredItemProxy V))
    (router : MonitoredItemRouter V) : SubscriptionProxy V :=
  { proxy with items := Function.update proxy.items i item, router }

def withItem (i : Nat)
    (f : MonitoredItemProxy V → MonitoredItemRouter V →
      Option (MonitoredItemProxy V × MonitoredItemRouter V)) : Option (SubscriptionProxy V) :=
  match proxy.items i with
  | none => some proxy
  | some item =>
    (f item proxy.router).map fun result => proxy.setItem i (some result.1) result.2

/-- `CollectMonitoredItems`: forgets the weak pointers to dead items. -/
def collectMonitoredItems : SubscriptionProxy V :=
  { proxy with monitoredItems := proxy.monitoredItems.filter fun i => (proxy.items i).isSome }

/-- A loop over `CollectMonitoredItems()`. -/
def forEachItem (f : Nat → MonitoredItemProxy V → MonitoredItemRouter V →
      Option (MonitoredItemProxy V × MonitoredItemRouter V)) : Option (SubscriptionProxy V) :=
  proxy.collectMonitoredItems.monitoredItems.foldlM (fun proxy i => proxy.withItem i (f i))
    proxy.collectMonitoredItems

/-! ## The functions of the class -/

def addItem (valueId : ReadValueId) : SubscriptionProxy V :=
  { proxy with
    items := Function.update proxy.items proxy.nextItem (some { valueId })
    monitoredItems := proxy.monitoredItems ++ [proxy.nextItem]
    nextItem := proxy.nextItem + 1 }

def createMonitoredItem (valueId : ReadValueId) : Option (SubscriptionProxy V) := do
  check (valueId.attributeId == .eventNotifier || !valueId.nodeId.isNull)
  if proxy.state = .created then
    check proxy.sender
    -- the item has no subscriber yet, so the time is not looked at
    (proxy.addItem valueId).withItem proxy.nextItem
      (MonitoredItemProxy.onChannelOpened proxy.nextItem proxy.subscriptionId nullTime)
  else
    return proxy.addItem valueId

def onChannelOpened : Option (SubscriptionProxy V) := do
  check !proxy.sender
  check (proxy.state == .deleted)
  return { proxy with
    sender := true, state := .creating, router := proxy.router.request .createSubscription }

def onChannelClosed : Option (SubscriptionProxy V) := do
  check proxy.sender
  { proxy with sender := false, state := .deleted, subscriptionId := 0 }.forEachItem
    MonitoredItemProxy.onChannelClosed

/-- `now i` is the time when item `i` is told. -/
def onCreateSubscriptionResult (status : Status)
    (subscriptionId : Nat) (now : Nat → Time) : Option (SubscriptionProxy V) :=
  if proxy.state != .creating || !proxy.sender then
    some proxy
  else if status.bad then
    some { proxy with state := .deleted }
  else
    { proxy with state := .created, subscriptionId }.forEachItem
      fun i => MonitoredItemProxy.onChannelOpened i subscriptionId (now i)

def onDataChange [BEq V] (proxy : SubscriptionProxy V) (monitoredItemId : Nat)
    (value : DataValue V) : Option (SubscriptionProxy V) :=
  match proxy.router.monitoredItemIds monitoredItemId with
  | none => some proxy
  | some i => proxy.withItem i (MonitoredItemProxy.onDataChange i value)

def onEvent (monitoredItemId : Nat) (status : Status)
    (event : EventPayload) : Option (SubscriptionProxy V) :=
  match proxy.router.monitoredItemIds monitoredItemId with
  | none => some proxy
  | some i => proxy.withItem i (MonitoredItemProxy.onEvent i status event)

def destroyItem (i : Nat) : Option (SubscriptionProxy V) :=
  match proxy.items i with
  | none => some proxy
  | some item =>
    (item.destroy proxy.router).map (proxy.setItem i none)

/-! ## The event system -/

inductive Event (V : Type) where
  | channelOpened
  | channelClosed
  | createSubscriptionResult (status : Status) (subscriptionId : Nat) (now : Nat → Time)
  | createMonitoredItem (valueId : ReadValueId)
  | subscribe (i : Nat) (handler : HandlerKind)
  | createMonitoredItemResult (i : Nat) (status : Status) (monitoredItemId : Nat)
  | dataChange (monitoredItemId : Nat) (value : DataValue V)
  | event (monitoredItemId : Nat) (status : Status) (event : EventPayload)
  | destroyItem (i : Nat)

def step [BEq V] (proxy : SubscriptionProxy V) : Event V → Option (SubscriptionProxy V)
  | .channelOpened => proxy.onChannelOpened
  | .channelClosed => proxy.onChannelClosed
  | .createSubscriptionResult status subscriptionId now =>
    proxy.onCreateSubscriptionResult status subscriptionId now
  | .createMonitoredItem valueId => proxy.createMonitoredItem valueId
  | .subscribe i handler => proxy.withItem i (subscribe i handler)
  | .createMonitoredItemResult i status monitoredItemId =>
    proxy.withItem i (onCreateMonitoredItemResult i status monitoredItemId)
  | .dataChange monitoredItemId value => proxy.onDataChange monitoredItemId value
  | .event monitoredItemId status event => proxy.onEvent monitoredItemId status event
  | .destroyItem i => proxy.destroyItem i

def system [BEq V] : Lts.System (Option (SubscriptionProxy V)) (Event V) :=
  ⟨some {}, fun proxy e => proxy.bind (step · e)⟩

section

variable (i : Nat) (item : Option (MonitoredItemProxy V))

variable (router : MonitoredItemRouter V)

@[simp] theorem items_setItem :
    (proxy.setItem i item router).items = update proxy.items i item := rfl

@[simp] theorem router_setItem : (proxy.setItem i item router).router = router := rfl

@[simp] theorem state_setItem : (proxy.setItem i item router).state = proxy.state := rfl

end

@[simp] theorem state_addItem (valueId : ReadValueId) :
    (proxy.addItem valueId).state = proxy.state := rfl

/-! ## The invariant -/

/-- The books are in order, and every live item is well kept; `opened` says of
which items the channel is open. -/
structure Kept (opened : Nat → Bool) (proxy : SubscriptionProxy V) : Prop where
  listed : ∀ i item, proxy.items i = some item → i ∈ proxy.monitoredItems
  nodup : proxy.monitoredItems.Nodup
  fresh : ∀ i ∈ proxy.monitoredItems, i < proxy.nextItem
  well : ∀ i item, proxy.items i = some item →
    item.Well (opened i) proxy.router.monitoredItemIds i
  alive : ∀ id i, proxy.router.monitoredItemIds id = some i → (proxy.items i).isSome

/-- The items' channel is open exactly while the subscription is created. -/
structure Inv (proxy : SubscriptionProxy V) : Prop where
  sender : proxy.state ≠ .deleted → proxy.sender = true
  kept : proxy.Kept fun _ => proxy.state == .created

variable {proxy} {i : Nat} {item : MonitoredItemProxy V}
    {router : MonitoredItemRouter V} {opened : Nat → Bool}
    {f : Nat → MonitoredItemProxy V → MonitoredItemRouter V →
      Option (MonitoredItemProxy V × MonitoredItemRouter V)}

theorem withItem_eq {item' : MonitoredItemProxy V}
    {f : MonitoredItemProxy V → MonitoredItemRouter V →
      Option (MonitoredItemProxy V × MonitoredItemRouter V)} (hi : proxy.items i = some item)
    (hf : f item proxy.router = some (item', router)) :
    proxy.withItem i f = some (proxy.setItem i (some item') router) := by
  simp [withItem, hi, hf]

/-- The map changed at most where it pointed, or points, at item `i`. -/
def OthersKept (i : Nat) (ids ids' : Nat → Option Nat) : Prop :=
  ∀ id j, j ≠ i → (ids' id = some j ↔ ids id = some j)

theorem othersKept_refl (i : Nat) (ids : Nat → Option Nat) : OthersKept i ids ids :=
  fun _ _ _ => Iff.rfl

theorem othersKept_update {id : Nat} {ids : Nat → Option Nat} {entry : Option Nat}
    (hold : ids id = none ∨ ids id = some i) (hnew : entry = none ∨ entry = some i) :
    OthersKept i ids (update ids id entry) := by
  intro id' j hne
  by_cases hid : id' = id
  · subst hid
    rw [update_self]
    rcases hold with hold | hold <;> rcases hnew with hnew | hnew <;>
      simp [hold, hnew, Ne.symm hne]
  · rw [update_of_ne hid]

theorem othersKept_idsWithout {opened : Bool} {ids : Nat → Option Nat}
    (h : item.Well opened ids i) : OthersKept i ids (item.idsWithout ids) := by
  unfold idsWithout
  split
  · rename_i hcreated
    exact othersKept_update (Or.inr (h.ids_of_created hcreated)) (Or.inl rfl)
  · exact othersKept_refl i ids

theorem Kept.set (h : proxy.Kept opened) {proxy' : SubscriptionProxy V} {now : Bool}
    (hitems : ∀ j, j ≠ i → proxy'.items j = proxy.items j)
    (hothers : OthersKept i proxy.router.monitoredItemIds proxy'.router.monitoredItemIds)
    (hlist : proxy.monitoredItems ⊆ proxy'.monitoredItems) (hnodup : proxy'.monitoredItems.Nodup)
    (hfresh : ∀ j ∈ proxy'.monitoredItems, j < proxy'.nextItem)
    (hself : ∀ item, proxy'.items i = some item →
      i ∈ proxy'.monitoredItems ∧ item.Well now proxy'.router.monitoredItemIds i)
    (halive : ∀ id, proxy'.router.monitoredItemIds id = some i → (proxy'.items i).isSome) :
    proxy'.Kept (update opened i now) := by
  refine ⟨?_, hnodup, hfresh, ?_, ?_⟩
  · intro j item hj
    by_cases hji : j = i
    · subst hji
      exact (hself item hj).1
    · exact hlist (h.listed j item (hitems j hji ▸ hj))
  · intro j item hj
    by_cases hji : j = i
    · subst hji
      rw [update_self]
      exact (hself item hj).2
    · rw [update_of_ne hji]
      exact (h.well j item (hitems j hji ▸ hj)).congr fun id => hothers id j hji
  · intro id j hj
    by_cases hji : j = i
    · subst hji
      exact halive id hj
    · rw [hitems j hji]
      exact h.alive id j ((hothers id j hji).mp hj)

theorem Kept.update (h : proxy.Kept opened) {item' : MonitoredItemProxy V} {now : Bool}
    {ids : Nat → Option Nat} (hi : proxy.items i = some item) (hids : router.monitoredItemIds = ids)
    (hwell : item'.Well now ids i) (hothers : OthersKept i proxy.router.monitoredItemIds ids) :
    (proxy.setItem i (some item') router).Kept (update opened i now) := by
  subst hids
  refine h.set (fun j hji => update_of_ne hji _ _) hothers (List.Subset.refl _) h.nodup
    h.fresh ?_ ?_
  · intro item₁ hitem
    rw [items_setItem, update_self] at hitem
    cases hitem
    exact ⟨h.listed i item hi, hwell⟩
  · intro id _
    simp

theorem Kept.congr {opened' : Nat → Bool} (h : proxy.Kept opened)
    (heq : ∀ i, (proxy.items i).isSome → opened' i = opened i) : proxy.Kept opened' := by
  refine ⟨h.listed, h.nodup, h.fresh, ?_, h.alive⟩
  intro i item hi
  rw [heq i (by simp [hi])]
  exact h.well i item hi

/-! ## The loops over all items -/

theorem Kept.collect (h : proxy.Kept opened) : proxy.collectMonitoredItems.Kept opened := by
  refine ⟨?_, h.nodup.filter _, ?_, h.well, h.alive⟩
  · intro i item hi
    have hlive : proxy.items i = some item := hi
    exact List.mem_filter.mpr ⟨h.listed i item hi, by simp [hlive]⟩
  · intro i hmem
    exact h.fresh i (List.mem_filter.mp hmem).1

theorem forEachItem_spec {b : Bool} (h : proxy.Kept fun _ => b)
    (hf : ∀ i (item : MonitoredItemProxy V) router, item.Well b router.monitoredItemIds i →
      ∃ item' router' ids, f i item router = some (item', router') ∧
        router'.monitoredItemIds = ids ∧ item'.Well (!b) ids i ∧
        OthersKept i router.monitoredItemIds ids) :
    ∃ proxy', proxy.forEachItem f = some proxy' ∧ (proxy'.Kept fun _ => !b) ∧
      proxy'.state = proxy.state ∧ proxy'.sender = proxy.sender := by
  -- the channels of the items still to be visited are `b`, of the others `!b`
  let inv (todo : List Nat) (q : SubscriptionProxy V) : Prop :=
    todo.Nodup ∧ (q.Kept fun i => if i ∈ todo then b else !b) ∧
      q.state = proxy.state ∧ q.sender = proxy.sender
  have hstart : inv proxy.collectMonitoredItems.monitoredItems proxy.collectMonitoredItems := by
    refine ⟨h.collect.nodup, h.collect.congr ?_, rfl, rfl⟩
    intro i hlive
    obtain ⟨item, hi⟩ := Option.isSome_iff_exists.mp hlive
    rw [if_pos (h.collect.listed i item hi)]
  have hvisit : ∀ i todo q, inv (i :: todo) q →
      ∃ q', q.withItem i (f i) = some q' ∧ inv todo q' := by
    rintro i todo q ⟨hnodup, hkept, hstate, hsender⟩
    obtain ⟨hhead, htail⟩ := List.nodup_cons.mp hnodup
    cases hi : q.items i with
    | none =>
      refine ⟨q, by simp [withItem, hi], htail, hkept.congr ?_, hstate, hsender⟩
      intro j hlive
      have hji : j ≠ i := by
        rintro rfl
        simp [hi] at hlive
      simp [hji]
    | some item =>
      have hwell := hkept.well i item hi
      rw [if_pos List.mem_cons_self] at hwell
      obtain ⟨item', router', ids, heq, hids, hwell', hothers⟩ := hf i item q.router hwell
      refine ⟨_, withItem_eq hi heq, htail, (hkept.update hi hids hwell' hothers).congr ?_, hstate,
        hsender⟩
      intro j _
      by_cases hji : j = i
      · subst hji
        simp [hhead]
      · simp [hji]
  obtain ⟨proxy', hloop, -, hkept, hstate, hsender⟩ := foldlM_invariant inv hvisit hstart
  refine ⟨proxy', hloop, hkept.congr ?_, hstate, hsender⟩
  intro i _
  rw [if_neg List.not_mem_nil]

theorem forEachItem_of_none (hnone : ∀ i, proxy.items i = none)
    (f : Nat → MonitoredItemProxy V → MonitoredItemRouter V →
      Option (MonitoredItemProxy V × MonitoredItemRouter V)) :
    proxy.forEachItem f = some proxy.collectMonitoredItems := by
  have hlist : proxy.collectMonitoredItems.monitoredItems = [] := by
    simp [collectMonitoredItems, hnone]
  rw [forEachItem, hlist]
  rfl

/-- Closing a channel that no item was told about panics if there is an item. -/
theorem forEachItem_onChannelClosed_panics (h : proxy.Kept fun _ => false)
    (hlive : (proxy.items i).isSome) :
    proxy.forEachItem MonitoredItemProxy.onChannelClosed = none := by
  obtain ⟨item, hi⟩ := Option.isSome_iff_exists.mp hlive
  have hmem : i ∈ proxy.collectMonitoredItems.monitoredItems := h.collect.listed i item hi
  unfold forEachItem
  cases hlist : proxy.collectMonitoredItems.monitoredItems with
  | nil => simp [hlist] at hmem
  | cons first rest =>
    -- the first item of the list is alive, and panics
    have hfirst : first ∈ proxy.monitoredItems.filter fun i => (proxy.items i).isSome := by
      have hcollected : first ∈ proxy.collectMonitoredItems.monitoredItems := by simp [hlist]
      exact hcollected
    obtain ⟨firstItem, hfirstItem⟩ :=
      Option.isSome_iff_exists.mp (List.mem_filter.mp hfirst).2
    have hpanic := onChannelClosed_of_closed (h.well first firstItem hfirstItem)
      proxy.router
    have hitems : proxy.collectMonitoredItems.items first = some firstItem := hfirstItem
    have hvisit : proxy.collectMonitoredItems.withItem first
        (MonitoredItemProxy.onChannelClosed first) = none := by
      simp only [withItem, hitems]
      exact congrArg (Option.map _) hpanic
    rw [List.foldlM_cons, hvisit]
    rfl

/-! ## The steps -/

/-- The result of a step: the invariant, or a panic. -/
def Outcome (safe : Prop) (result : Option (SubscriptionProxy V)) : Prop :=
  (safe → ∃ proxy', result = some proxy' ∧ proxy'.Inv) ∧ (¬ safe → result = none)

theorem outcome_of_some {safe : Prop} {result : Option (SubscriptionProxy V)}
    {proxy' : SubscriptionProxy V} (hsafe : safe) (heq : result = some proxy')
    (hinv : proxy'.Inv) : Outcome safe result :=
  ⟨fun _ => ⟨proxy', heq, hinv⟩, fun hno => absurd hsafe hno⟩

theorem outcome_of_none {safe : Prop} {result : Option (SubscriptionProxy V)} (hno : ¬ safe)
    (heq : result = none) : Outcome safe result :=
  ⟨fun hsafe => absurd hsafe hno, fun _ => heq⟩

theorem Inv.outcome {safe : Prop} {item' : MonitoredItemProxy V} {ids : Nat → Option Nat}
    {g : MonitoredItemProxy V → MonitoredItemRouter V →
      Option (MonitoredItemProxy V × MonitoredItemRouter V)} (h : proxy.Inv) (hsafe : safe)
    (hi : proxy.items i = some item) (heq : g item proxy.router = some (item', router))
    (hids : router.monitoredItemIds = ids) (hwell : item'.Well (proxy.state == .created) ids i)
    (hothers : OthersKept i proxy.router.monitoredItemIds ids) :
    Outcome safe (proxy.withItem i g) := by
  have hkept := h.kept.update hi hids hwell hothers
  rw [update_eq_self i fun _ => proxy.state == .created] at hkept
  exact outcome_of_some hsafe (withItem_eq hi heq) ⟨h.sender, hkept⟩

theorem onChannelOpened_outcome (h : proxy.Inv) (hclosed : proxy.sender = false) :
    Outcome True proxy.onChannelOpened := by
  have hstate : proxy.state = .deleted := by
    by_contra hne
    have hsender := h.sender hne
    rw [hclosed] at hsender
    cases hsender
  have heq : proxy.onChannelOpened = some { proxy with
      sender := true, state := .creating, router := proxy.router.request .createSubscription } := by
    simp [onChannelOpened, hclosed, hstate]
  have hkept := h.kept
  rw [hstate] at hkept
  exact outcome_of_some trivial heq
    ⟨fun _ => rfl, hkept.listed, hkept.nodup, hkept.fresh, hkept.well, hkept.alive⟩

theorem Kept.of_items {opened : Nat → Bool} {proxy' : SubscriptionProxy V}
    (h : proxy.Kept opened) (hitems : proxy'.items = proxy.items)
    (hlist : proxy'.monitoredItems = proxy.monitoredItems) (hnext : proxy'.nextItem = proxy.nextItem)
    (hrouter : proxy'.router = proxy.router) : proxy'.Kept opened := by
  refine ⟨?_, ?_, ?_, ?_, ?_⟩
  · rw [hitems, hlist]
    exact h.listed
  · rw [hlist]
    exact h.nodup
  · rw [hlist, hnext]
    exact h.fresh
  · rw [hitems, hrouter]
    exact h.well
  · rw [hitems, hrouter]
    exact h.alive

/-- Closing the channel goes well if the items were told that it is open, or if
there are none. -/
theorem onChannelClosed_outcome (h : proxy.Inv) (hopened : proxy.sender = true) :
    Outcome (proxy.state = .created ∨ ∀ i, proxy.items i = none) proxy.onChannelClosed := by
  let closing : SubscriptionProxy V :=
    { proxy with sender := false, state := .deleted, subscriptionId := 0 }
  have hkept : closing.Kept fun _ => proxy.state == .created := h.kept.of_items rfl rfl rfl rfl
  have hloop : proxy.onChannelClosed = closing.forEachItem MonitoredItemProxy.onChannelClosed := by
    simp [onChannelClosed, hopened, closing]
  rw [hloop]
  by_cases hcreated : proxy.state = .created
  · -- every item is open, and closes
    rw [hcreated] at hkept
    obtain ⟨proxy', heq, hkept', hstate, -⟩ := forEachItem_spec hkept
      (f := MonitoredItemProxy.onChannelClosed) (fun i item router hwell => by
        obtain ⟨currentData, router', heq, hids, -⟩ :=
          onChannelClosed_spec hwell
        exact ⟨_, router', _, heq, hids, hwell.closes currentData, othersKept_idsWithout hwell⟩)
    refine outcome_of_some (Or.inl hcreated) heq ⟨fun hne => absurd hstate hne, ?_⟩
    rw [hstate]
    exact hkept'
  · have hclosed : closing.Kept fun _ => false := by
      have hfalse : (proxy.state == .created) = false := by simpa using hcreated
      rw [hfalse] at hkept
      exact hkept
    by_cases hnone : ∀ i, proxy.items i = none
    · -- no live item: the loop has nothing to do
      have hempty : ∀ i, closing.items i = none := hnone
      exact outcome_of_some (Or.inr hnone) (forEachItem_of_none hempty _)
        ⟨fun hne => absurd rfl hne, hclosed.collect⟩
    · refine outcome_of_none ?_ ?_
      · rintro (hyes | hyes)
        · exact hcreated hyes
        · exact hnone hyes
      · push Not at hnone
        obtain ⟨i, hi⟩ := hnone
        exact forEachItem_onChannelClosed_panics hclosed (i := i)
          (Option.isSome_iff_ne_none.mpr hi)

theorem onCreateSubscriptionResult_outcome (h : proxy.Inv) (status : Status) (subscriptionId : Nat)
    (now : Nat → Time) :
    Outcome True (proxy.onCreateSubscriptionResult status subscriptionId now) := by
  unfold onCreateSubscriptionResult
  by_cases hignored : (proxy.state != .creating || !proxy.sender) = true
  · rw [if_pos hignored]
    exact outcome_of_some trivial rfl h
  · rw [if_neg hignored]
    obtain ⟨hstate, hsender⟩ : proxy.state = .creating ∧ proxy.sender = true := by
      simpa using hignored
    have hkept := h.kept
    rw [hstate] at hkept
    by_cases hbad : status.bad = true
    · rw [if_pos hbad]
      exact outcome_of_some trivial rfl
        ⟨fun hne => absurd rfl hne, hkept.of_items rfl rfl rfl rfl⟩
    · rw [if_neg hbad]
      have hopening : Kept (fun _ => false) { proxy with state := .created, subscriptionId } :=
        hkept.of_items rfl rfl rfl rfl
      obtain ⟨proxy', heq, hkept', hstate', hsender'⟩ := forEachItem_spec hopening
        (f := fun i => MonitoredItemProxy.onChannelOpened i subscriptionId (now i))
        (fun i item router hwell => by
          obtain ⟨currentData, router', heq, hids, -⟩ :=
            onChannelOpened_spec hwell subscriptionId (now i) router
          exact ⟨_, router', _, heq, hids, hwell.opens subscriptionId currentData,
            othersKept_refl i _⟩)
      refine outcome_of_some trivial heq ⟨fun _ => hsender'.trans hsender, ?_⟩
      rw [hstate']
      exact hkept'

theorem Kept.addItem {opened : Nat → Bool} (h : proxy.Kept opened) (valueId : ReadValueId) :
    (proxy.addItem valueId).Kept (Function.update opened proxy.nextItem false) := by
  have hnew : ∀ i item, proxy.items i = some item → i ≠ proxy.nextItem := by
    rintro i item hi rfl
    exact absurd (h.fresh _ (h.listed _ item hi)) (Nat.lt_irrefl _)
  have hunused : ∀ id, proxy.router.monitoredItemIds id ≠ some proxy.nextItem := by
    intro id hid
    obtain ⟨item, hitem⟩ := Option.isSome_iff_exists.mp (h.alive id _ hid)
    exact hnew _ item hitem rfl
  refine h.set (fun j hj => Function.update_of_ne hj _ _) (othersKept_refl _ _)
    (List.subset_append_left _ _) ?_ ?_ ?_ fun id hid => absurd hid (hunused id)
  · refine List.nodup_append.mpr ⟨h.nodup, List.nodup_singleton _, ?_⟩
    rintro i hi j hj rfl
    obtain rfl := List.mem_singleton.mp hj
    exact absurd (h.fresh _ hi) (Nat.lt_irrefl _)
  · intro i hi
    rcases List.mem_append.mp hi with hold | hlast
    · exact Nat.lt_succ_of_lt (h.fresh i hold)
    · obtain rfl := List.mem_singleton.mp hlast
      exact Nat.lt_succ_self _
  · intro item hi
    obtain rfl : item = { valueId } := by
      simpa [SubscriptionProxy.addItem, eq_comm] using hi
    refine ⟨by simp [SubscriptionProxy.addItem], rfl, rfl, rfl, fun hne => absurd rfl hne,
      (fun hno => by cases hno), fun _ => ⟨rfl, rfl⟩, ?_⟩
    intro id
    refine iff_of_false (hunused id) ?_
    rintro ⟨hstate, -⟩
    cases hstate

theorem createMonitoredItem_outcome (h : proxy.Inv) (valueId : ReadValueId) :
    Outcome (valueId.attributeId = .eventNotifier ∨ valueId.nodeId.isNull = false)
      (proxy.createMonitoredItem valueId) := by
  unfold createMonitoredItem
  simp only [check_bind]
  by_cases hvalid :
      (valueId.attributeId == .eventNotifier || !valueId.nodeId.isNull) = true
  · have hsafe : valueId.attributeId = .eventNotifier ∨ valueId.nodeId.isNull = false := by
      simpa using hvalid
    have hadded := h.kept.addItem valueId
    rw [if_pos hvalid]
    by_cases hcreated : proxy.state = .created
    · -- the channel is open: the item is told at once
      have hsender := h.sender (by rw [hcreated]; decide)
      rw [if_pos hcreated, if_pos hsender]
      have hitem : (proxy.addItem valueId).items proxy.nextItem = some { valueId } := by
        simp [addItem]
      have hwell := hadded.well _ _ hitem
      rw [Function.update_self] at hwell
      obtain ⟨currentData, router', heq, hids, -⟩ :=
        onChannelOpened_spec hwell proxy.subscriptionId nullTime
          (proxy.addItem valueId).router
      refine outcome_of_some hsafe (withItem_eq hitem heq) ⟨fun _ => hsender, ?_⟩
      refine (hadded.update hitem hids (hwell.opens proxy.subscriptionId currentData)
        (othersKept_refl _ _)).congr ?_
      intro i _
      by_cases hi : i = proxy.nextItem
      · simp [hi, hcreated]
      · simp [hi, hcreated]
    · rw [if_neg hcreated]
      refine outcome_of_some hsafe rfl ⟨h.sender, hadded.congr ?_⟩
      intro i _
      by_cases hi : i = proxy.nextItem
      · simp [hi, hcreated]
      · simp [hi]
  · rw [if_neg hvalid]
    exact outcome_of_none (by simpa using hvalid) rfl

theorem withItem_of_none {i : Nat} (hi : proxy.items i = none)
    (f : MonitoredItemProxy V → MonitoredItemRouter V →
      Option (MonitoredItemProxy V × MonitoredItemRouter V)) : proxy.withItem i f = some proxy := by
  simp [withItem, hi]

theorem subscribe_outcome (h : proxy.Inv) (i : Nat) (handler : HandlerKind)
    (hallowed : ∀ item, proxy.items i = some item →
      item.subscribed = false ∧ (handler == .event) = item.isEvent) :
    Outcome True (proxy.withItem i (subscribe i handler)) := by
  cases hi : proxy.items i with
  | none => exact outcome_of_some trivial (withItem_of_none hi _) h
  | some item =>
    obtain ⟨hsubscribed, hfits⟩ := hallowed item hi
    have hwell := h.kept.well i item hi
    obtain ⟨router', heq, hids, -⟩ :=
      subscribe_spec hwell hsubscribed handler proxy.router
    exact h.outcome trivial hi heq hids (hwell.subscribes hsubscribed hfits) (othersKept_refl i _)

theorem createMonitoredItemResult_outcome (h : proxy.Inv) (i : Nat) (status : Status) (id : Nat) :
    Outcome (∀ item, proxy.items i = some item → item.state = .creating →
        status.bad = true ∨ proxy.router.monitoredItemIds id = none)
      (proxy.withItem i (onCreateMonitoredItemResult i status id)) := by
  cases hi : proxy.items i with
  | none => exact outcome_of_some (fun item hitem => by cases hitem) (withItem_of_none hi _) h
  | some item =>
    have hwell := h.kept.well i item hi
    by_cases hcreating : item.state = .creating
    · by_cases hbad : status.bad = true
      · obtain ⟨currentData, router', heq, honly⟩ :=
          onCreateMonitoredItemResult_bad hwell hcreating proxy.router hbad id
        have hkeeps : item.idsWithout proxy.router.monitoredItemIds =
            proxy.router.monitoredItemIds := by
          simp [idsWithout, hcreating]
        have hdeleted := hwell.deletes item.monitoredItemId currentData
        rw [hkeeps] at hdeleted
        exact h.outcome (fun _ _ _ => Or.inl hbad) hi heq honly.monitoredItemIds hdeleted
          (othersKept_refl i _)
      · have hresult := onCreateMonitoredItemResult_good hwell
          hcreating proxy.router hbad id
        cases hid : proxy.router.monitoredItemIds id with
        | none =>
          rw [if_pos (by simp [hid])] at hresult
          exact h.outcome (fun _ _ _ => Or.inr rfl) hi hresult rfl (hwell.creates hcreating id)
            (othersKept_update (Or.inl hid) (Or.inr rfl))
        | some j =>
          rw [if_neg (by simp [hid])] at hresult
          refine outcome_of_none ?_ (by simp [withItem, hi, hresult])
          intro hsafe
          rcases hsafe item rfl hcreating with hyes | hyes
          · exact hbad hyes
          · cases hyes
    · refine h.outcome ?_ hi
        (onCreateMonitoredItemResult_of_ne i proxy.router hcreating status id)
        rfl hwell (othersKept_refl i _)
      rintro item' hitem' hcreating'
      cases hitem'
      exact absurd hcreating' hcreating

theorem Inv.created_of_registered (h : proxy.Inv) {id i : Nat}
    (hid : proxy.router.monitoredItemIds id = some i) :
    ∃ item, proxy.items i = some item ∧ item.state = .created ∧ item.monitoredItemId = id := by
  obtain ⟨item, hi⟩ := Option.isSome_iff_exists.mp (h.kept.alive id i hid)
  exact ⟨item, hi, ((h.kept.well i item hi).registered id).mp hid⟩

def Notifies (proxy : SubscriptionProxy V) (kind bad : Bool)
    (overlooked : MonitoredItemProxy V → Bool)
    (f : Nat → MonitoredItemProxy V → MonitoredItemRouter V →
      Option (MonitoredItemProxy V × MonitoredItemRouter V)) : Prop :=
  ∀ (i : Nat) (item : MonitoredItemProxy V),
    item.Well (proxy.state == .created) proxy.router.monitoredItemIds i →
      item.state = .created →
        item.Notified kind bad (overlooked item) proxy.router (f i item proxy.router)

/-- A notification is for the kind of item that is registered for its id, if there is one. -/
theorem notified_outcome (h : proxy.Inv) {id : Nat} {kind bad : Bool}
    {overlooked : MonitoredItemProxy V → Bool} (hf : proxy.Notifies kind bad overlooked f) :
    Outcome (∀ i item, proxy.router.monitoredItemIds id = some i → proxy.items i = some item →
        item.isEvent = kind)
      (match proxy.router.monitoredItemIds id with
      | none => some proxy
      | some i => proxy.withItem i (f i)) := by
  cases hid : proxy.router.monitoredItemIds id with
  | none => exact outcome_of_some (fun i item hno => by cases hno) rfl h
  | some i =>
    obtain ⟨item, hi, hcreated, -⟩ := h.created_of_registered hid
    have hwell := h.kept.well i item hi
    have hsafe : item.isEvent = kind → ∀ i' item', some i = some i' →
        proxy.items i' = some item' → item'.isEvent = kind := by
      rintro hkind _ item' ⟨⟩ hi'
      cases hi.symm.trans hi'
      exact hkind
    have hnotified := hf i item hwell hcreated
    generalize hstep : f i item proxy.router = result at hnotified
    cases hnotified with
    | panics hkind =>
      refine outcome_of_none (fun hyes => hkind (hyes i item rfl hi)) ?_
      simp [withItem, hi, hstep]
    | stays hkind hgood currentData honly =>
      exact h.outcome (hsafe hkind) hi hstep honly.monitoredItemIds (hwell.receives currentData)
        (othersKept_refl i _)
    | leaves hkind hbad monitoredItemId currentData hids hrequests =>
      exact h.outcome (hsafe hkind) hi hstep hids (hwell.deletes monitoredItemId currentData)
        (othersKept_idsWithout hwell)

theorem onDataChange_outcome [BEq V] (h : proxy.Inv) (id : Nat) (value : DataValue V) :
    Outcome (∀ i item, proxy.router.monitoredItemIds id = some i → proxy.items i = some item →
        item.isEvent = false) (proxy.onDataChange id value) :=
  notified_outcome h fun _ _ hwell hcreated =>
    onDataChange_notified hwell hcreated value

theorem onEvent_outcome (h : proxy.Inv) (id : Nat) (status : Status) (event : EventPayload) :
    Outcome (∀ i item, proxy.router.monitoredItemIds id = some i → proxy.items i = some item →
        item.isEvent = true) (proxy.onEvent id status event) :=
  notified_outcome h fun _ _ hwell hcreated =>
    onEvent_notified hwell hcreated status event

theorem destroyItem_outcome (h : proxy.Inv) (i : Nat) : Outcome True (proxy.destroyItem i) := by
  unfold destroyItem
  cases hi : proxy.items i with
  | none => exact outcome_of_some trivial rfl h
  | some item =>
    have hwell := h.kept.well i item hi
    obtain ⟨router', heq, hids, -⟩ := destroy_spec hwell
    have hothers : OthersKept i proxy.router.monitoredItemIds router'.monitoredItemIds := by
      rw [hids]
      exact othersKept_idsWithout hwell
    have hresult : (item.destroy proxy.router).map (proxy.setItem i none) =
        some (proxy.setItem i none router') := by rw [heq]; rfl
    have hkept : (proxy.setItem i none router').Kept
        (update (fun _ => proxy.state == .created) i (proxy.state == .created)) := by
      refine h.kept.set (fun j hji => update_of_ne hji _ _) hothers (List.Subset.refl _)
        h.kept.nodup h.kept.fresh ?_ ?_
      · intro item' hitem
        simp at hitem
      · intro id hid
        rw [router_setItem, hids] at hid
        exact absurd hid (hwell.idsWithout_ne id)
    rw [update_eq_self i fun _ => proxy.state == .created] at hkept
    exact outcome_of_some trivial hresult ⟨h.sender, hkept⟩

/-! ## Every run -/

/-- The environment: the channel opens and closes in turns, and an item gets one
subscriber, with a handler of the kind its attribute calls for. -/
def Allowed (proxy : SubscriptionProxy V) : Event V → Prop
  | .channelOpened => proxy.sender = false
  | .channelClosed => proxy.sender = true
  | .subscribe i handler => ∀ item, proxy.items i = some item →
      item.subscribed = false ∧ (handler == .event) = item.isEvent
  | _ => True

/-- The condition on a step: the channel is closed only while the subscription
is created or no item is alive; a monitored item has a valid value id; the id
in a good create result is not taken; and a notification is of the kind the
registered item is for. -/
def Safe (proxy : SubscriptionProxy V) : Event V → Prop
  | .channelClosed => proxy.state = .created ∨ ∀ i, proxy.items i = none
  | .createMonitoredItem valueId =>
    valueId.attributeId = .eventNotifier ∨ valueId.nodeId.isNull = false
  | .createMonitoredItemResult i status monitoredItemId =>
    ∀ item, proxy.items i = some item → item.state = .creating →
      status.bad = true ∨ proxy.router.monitoredItemIds monitoredItemId = none
  | .dataChange monitoredItemId _ =>
    ∀ i item, proxy.router.monitoredItemIds monitoredItemId = some i →
      proxy.items i = some item → item.isEvent = false
  | .event monitoredItemId _ _ =>
    ∀ i item, proxy.router.monitoredItemIds monitoredItemId = some i →
      proxy.items i = some item → item.isEvent = true
  | _ => True

theorem step_outcome [BEq V] (h : proxy.Inv) {e : Event V} (hallowed : proxy.Allowed e) :
    Outcome (proxy.Safe e) (proxy.step e) := by
  cases e with
  | channelOpened => exact onChannelOpened_outcome h hallowed
  | channelClosed => exact onChannelClosed_outcome h hallowed
  | createSubscriptionResult status subscriptionId now =>
    exact onCreateSubscriptionResult_outcome h status subscriptionId now
  | createMonitoredItem valueId => exact createMonitoredItem_outcome h valueId
  | subscribe i handler => exact subscribe_outcome h i handler hallowed
  | createMonitoredItemResult i status id => exact createMonitoredItemResult_outcome h i status id
  | dataChange id value => exact onDataChange_outcome h id value
  | event id status event => exact onEvent_outcome h id status event
  | destroyItem i => exact destroyItem_outcome h i

theorem inv_init : Inv ({} : SubscriptionProxy V) := by
  refine ⟨fun hne => absurd rfl hne, ?_, List.nodup_nil, ?_, ?_, ?_⟩
  · intro i item hi
    cases hi
  · intro i hi
    cases hi
  · intro i item hi
    cases hi
  · intro id i hid
    cases hid

/-- **No check fails** in a run of the client subscription if and only if every
step of it is safe. -/
theorem noPanic_iff_safe [BEq V] {es : List (Event V)}
    (hallowed : system.Meets (fun s e => ∀ proxy ∈ s, proxy.Allowed e) es) :
    system.Always (fun s => s.isSome) es ↔
      system.Meets (fun s e => ∀ proxy ∈ s, proxy.Safe e) es := by
  refine system.always_iff_meets_of (fun s => ∃ proxy, s = some proxy ∧ proxy.Inv) _ _ _
    ⟨{}, rfl, inv_init⟩ ?_ ?_ ?_ hallowed
  · rintro s ⟨proxy, rfl, -⟩
    rfl
  · rintro s e ⟨proxy, rfl, h⟩ hg hsafe
    exact (step_outcome h (hg proxy rfl)).1 (hsafe proxy rfl)
  · rintro s e ⟨proxy, rfl, h⟩ hg hunsafe hsome
    have hno : ¬ proxy.Safe e := by
      intro hsafe
      refine hunsafe fun proxy' hmem => ?_
      cases hmem
      exact hsafe
    have hpanic : system.step (some proxy) e = none := (step_outcome h (hg proxy rfl)).2 hno
    rw [hpanic] at hsome
    cases hsome

/-- An item is created and subscribed in an open channel, which then closes. -/
def openedRun : List (Event Nat) :=
  [.channelOpened, .createSubscriptionResult StatusCode.good 1 fun _ => 0,
    .createMonitoredItem { nodeId := { identifier := .numeric 1 } }, .subscribe 0 .dataChange,
    .createMonitoredItemResult 0 StatusCode.good 1, .channelClosed]

theorem noPanic_iff_safe_openedRun :
    system.Meets (fun s e => ∀ proxy ∈ s, proxy.Allowed e) openedRun ∧
      (system.Always (fun s => s.isSome) openedRun ↔
        system.Meets (fun s e => ∀ proxy ∈ s, proxy.Safe e) openedRun) := by
  have hallowed : system.Meets (fun s e => ∀ proxy ∈ s, proxy.Allowed e) openedRun := by
    rw [Lts.System.meets_iff_meetsFrom]
    refine ⟨?_, ?_, ?_, ?_, ?_, ?_, trivial⟩
    · rintro proxy ⟨⟩
      rfl
    · intro proxy _
      trivial
    · intro proxy _
      trivial
    · rintro proxy ⟨⟩ item ⟨⟩
      exact ⟨rfl, rfl⟩
    · intro proxy _
      trivial
    · rintro proxy ⟨⟩
      rfl
  exact ⟨hallowed, noPanic_iff_safe hallowed⟩

/-- An item is created while the subscription is being created, and the session
is lost: the create request fails and the channel closes. -/
def lostSessionRun : List (Event Nat) :=
  [.channelOpened, .createMonitoredItem { nodeId := { identifier := .numeric 1 } },
    .createSubscriptionResult StatusCode.badDisconnected 0 fun _ => 0, .channelClosed]

/-- The item panics, as it has never been told that the channel was open. -/
theorem lostSessionRun_panics :
    system.Meets (fun s e => ∀ proxy ∈ s, proxy.Allowed e) lostSessionRun ∧
      ¬ system.Always (fun s => s.isSome) lostSessionRun := by
  constructor
  · rw [Lts.System.meets_iff_meetsFrom]
    refine ⟨?_, ?_, ?_, ?_, trivial⟩
    · rintro proxy ⟨⟩
      rfl
    · intro proxy _
      trivial
    · intro proxy _
      trivial
    · rintro proxy ⟨⟩
      rfl
  · intro halways
    have hsome := halways lostSessionRun (List.prefix_refl _)
    cases hsome

end SubscriptionProxy

end ScadaCore.Remote
