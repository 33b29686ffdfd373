import ScadaCore.Remote.SubscriptionProxy

/-!
# Remote.ItemTraffic — what the client subscription sends and takes

As seen from the server, a step of the client changes three things: the ids
under which items are registered, the items that wait for the response to a
create request, and the requests sent. `Sends` is a step the client takes on its
own, `Takes` one in which it takes in a message.
-/

namespace ScadaCore.Remote

open Scada MonitoredItemProxy

namespace ProxyRequest

def creates : ProxyRequest → Option Nat
  | .createMonitoredItem item _ _ => some item
  | _ => none

def deletes : ProxyRequest → Option Nat
  | .deleteMonitoredItem _ monitoredItemId => some monitoredItemId
  | _ => none

end ProxyRequest

namespace SubscriptionProxy

variable {V : Type}

def registered (proxy : SubscriptionProxy V) (id : Nat) : Bool :=
  (proxy.router.monitoredItemIds id).isSome

def Creating (proxy : SubscriptionProxy V) (i : Nat) : Prop :=
  ∃ item, proxy.items i = some item ∧ item.state = .creating

variable {proxy proxy' : SubscriptionProxy V} {i : Nat}
    {f : Nat → MonitoredItemProxy V → MonitoredItemRouter V →
      Option (MonitoredItemProxy V × MonitoredItemRouter V)}

theorem Inv.registered_iff (h : proxy.Inv) (id : Nat) :
    proxy.registered id = true ↔ ∃ i item, proxy.items i = some item ∧
      item.state = .created ∧ item.monitoredItemId = id := by
  constructor
  · intro hid
    obtain ⟨i, hi⟩ := Option.isSome_iff_exists.mp hid
    exact ⟨i, h.created_of_registered hi⟩
  · rintro ⟨i, item, hi, hcreated, rfl⟩
    exact Option.isSome_iff_exists.mpr ⟨i, (h.kept.well i item hi).ids_of_created hcreated⟩

theorem Outcome.inv {safe : Prop} {result : Option (SubscriptionProxy V)} (h : Outcome safe result)
    (heq : result = some proxy') : proxy'.Inv := by
  by_cases hsafe : safe
  · obtain ⟨proxy'', heq', hinv⟩ := h.1 hsafe
    rw [heq] at heq'
    exact Option.some.inj heq' ▸ hinv
  · have hnone := h.2 hsafe
    rw [heq] at hnone
    cases hnone

theorem Inv.setRequests (h : proxy.Inv) (requests : List ProxyRequest) :
    Inv { proxy with router := { proxy.router with requests } } :=
  ⟨h.sender, h.kept.listed, h.kept.nodup, h.kept.fresh, h.kept.well, h.kept.alive⟩

theorem creating_setItem (proxy : SubscriptionProxy V) (i : Nat) (item : MonitoredItemProxy V)
    (router : MonitoredItemRouter V) (j : Nat) :
    (proxy.setItem i (some item) router).Creating j ↔
      if j = i then item.state = .creating else proxy.Creating j := by
  unfold Creating
  by_cases hji : j = i
  · subst hji
    simp
  · simp [hji]

/-- An item that is not being created changes, or goes. -/
theorem Creating.set {item : MonitoredItemProxy V} {j : Nat} (hj : proxy.Creating j)
    (hi : proxy.items i = some item) (hidle : item.state ≠ .creating)
    (item' : Option (MonitoredItemProxy V)) (router : MonitoredItemRouter V) :
    (proxy.setItem i item' router).Creating j := by
  obtain ⟨item₁, hitem, hcreating⟩ := hj
  have hji : j ≠ i := by
    rintro rfl
    cases hi.symm.trans hitem
    exact hidle hcreating
  exact ⟨item₁, by simp [hji, hitem], hcreating⟩

/-- A step from `proxy` to `proxy'` that sends the requests `sent`, takes the
ids of its deletions off the map, and leaves what is being created alone. -/
structure Sends (proxy proxy' : SubscriptionProxy V) (sent : List ProxyRequest) : Prop where
  inv : proxy'.Inv
  sender : proxy'.sender = proxy.sender
  requests : proxy'.router.requests = proxy.router.requests ++ sent
  items_only : .createSubscription ∉ sent
  registered : ∀ id, proxy'.registered id = true ↔
    proxy.registered id = true ∧ id ∉ sent.filterMap ProxyRequest.deletes
  deletes : ∀ id ∈ sent.filterMap ProxyRequest.deletes, proxy.registered id = true
  creating : ∀ i, proxy.Creating i → proxy'.Creating i
  creates : (sent.filterMap ProxyRequest.creates).Nodup ∧
    ∀ i ∈ sent.filterMap ProxyRequest.creates, proxy'.Creating i ∧ ¬ proxy.Creating i
  closed : proxy.sender = false → sent = []

theorem Inv.sender_of_open (h : proxy.Inv) (hopen : (proxy.state == .created) = true) :
    proxy.sender = true := by
  have hcreated : proxy.state = .created := by simpa using hopen
  exact h.sender (by rw [hcreated]; decide)

/-- The loop over the items does not touch the subscription itself. -/
theorem forEachItem_frame (heq : proxy.forEachItem f = some proxy') :
    proxy'.state = proxy.state ∧ proxy'.sender = proxy.sender := by
  refine foldlM_preserves (fun q => q.state = proxy.state ∧ q.sender = proxy.sender) ?_
    ⟨rfl, rfl⟩ heq
  intro i q q' hq hvisit
  unfold withItem at hvisit
  split at hvisit
  · cases hvisit
    exact hq
  · obtain ⟨result, -, rfl⟩ := Option.map_eq_some_iff.mp hvisit
    exact hq

theorem onChannelClosed_closes (h : proxy.Inv) (heq : proxy.onChannelClosed = some proxy') :
    proxy'.Inv ∧ proxy'.state = .deleted ∧ proxy'.sender = false := by
  have hopened : proxy.sender = true := by
    by_contra hclosed
    simp [onChannelClosed, hclosed] at heq
  refine ⟨(onChannelClosed_outcome h hopened).inv heq, ?_⟩
  simp only [onChannelClosed, hopened, check_bind, if_true] at heq
  exact forEachItem_frame heq

/-- Nothing is sent, and the items stay as they are as far as the server is
concerned. -/
theorem sends_nothing (hinv : proxy'.Inv) (hsender : proxy'.sender = proxy.sender)
    (hrequests : proxy'.router.requests = proxy.router.requests)
    (hids : proxy'.router.monitoredItemIds = proxy.router.monitoredItemIds)
    (hcreating : ∀ i, proxy.Creating i → proxy'.Creating i) : Sends proxy proxy' [] := by
  refine ⟨hinv, hsender, ?_, List.not_mem_nil, ?_, ?_, hcreating, ⟨List.nodup_nil, ?_⟩, ?_⟩
  · rw [hrequests, List.append_nil]
  · intro id
    simp [registered, hids]
  · intro id hid
    cases hid
  · intro i hi
    cases hi
  · intro _
    rfl

theorem subscribe_sends (h : proxy.Inv) {handler : HandlerKind}
    (hallowed : ∀ item, proxy.items i = some item →
      item.subscribed = false ∧ (handler == .event) = item.isEvent)
    (heq : proxy.withItem i (subscribe i handler) = some proxy') :
    ∃ sent, Sends proxy proxy' sent := by
  have hinv := (subscribe_outcome h i handler hallowed).inv heq
  cases hi : proxy.items i with
  | none =>
    rw [withItem_of_none hi] at heq
    cases heq
    exact ⟨[], sends_nothing h rfl rfl rfl fun _ hj => hj⟩
  | some item =>
    obtain ⟨hsubscribed, -⟩ := hallowed item hi
    have hwell := h.kept.well i item hi
    obtain ⟨router', hitem, hids, hrequests⟩ :=
      subscribe_spec hwell hsubscribed handler proxy.router
    rw [withItem_eq hi hitem] at heq
    cases heq
    have hdeleted : item.state = .deleted := by
      by_contra hne
      have hyes := (hwell.active hne).2
      rw [hsubscribed] at hyes
      cases hyes
    have hothers : ∀ j item' router'', proxy.Creating j →
        (proxy.setItem i (some item') router'').Creating j :=
      fun j item' router'' hj => hj.set hi (by simp [hdeleted]) (some item') router''
    by_cases hopen : (proxy.state == .created) = true
    · -- the channel is open, and the create request goes out
      rw [if_pos hopen] at hrequests
      refine ⟨_, hinv, rfl, hrequests, by simp, ?_, by simp [ProxyRequest.deletes],
        fun j => hothers j _ _, ⟨by simp [ProxyRequest.creates], ?_⟩, ?_⟩
      · intro id
        simp [registered, hids, ProxyRequest.deletes]
      · intro j hj
        obtain rfl : j = i := by simpa [ProxyRequest.creates, eq_comm] using hj
        refine ⟨?_, ?_⟩
        · rw [creating_setItem, if_pos rfl]
          exact if_pos hopen
        · rintro ⟨item', hi', hcreating⟩
          cases hi.symm.trans hi'
          cases hdeleted.symm.trans hcreating
      · intro hclosed
        rw [h.sender_of_open hopen] at hclosed
        cases hclosed
    · rw [if_neg hopen, List.append_nil] at hrequests
      exact ⟨[], sends_nothing hinv rfl hrequests hids fun j => hothers j _ _⟩

theorem createMonitoredItem_sends (h : proxy.Inv) {valueId : ReadValueId}
    (heq : proxy.createMonitoredItem valueId = some proxy') : Sends proxy proxy' [] := by
  have hinv := (createMonitoredItem_outcome h valueId).inv heq
  have hnew : ∀ j, proxy.Creating j → j ≠ proxy.nextItem := by
    rintro j ⟨item, hj, -⟩ rfl
    exact absurd (h.kept.fresh _ (h.kept.listed _ item hj)) (Nat.lt_irrefl _)
  have hadded : ∀ j, proxy.Creating j → (proxy.addItem valueId).Creating j := by
    intro j hj
    obtain ⟨item, hitem, hcreating⟩ := hj
    refine ⟨item, ?_, hcreating⟩
    simp [addItem, hnew j ⟨item, hitem, hcreating⟩, hitem]
  unfold createMonitoredItem at heq
  simp only [check_bind] at heq
  split at heq
  · split at heq
    · split at heq
      · -- the new item is told that the channel is open; it has no subscriber
        have hitem : (proxy.addItem valueId).items proxy.nextItem = some { valueId } := by
          simp [addItem]
        have hwell := (h.kept.addItem valueId).well _ _ hitem
        rw [Function.update_self] at hwell
        obtain ⟨currentData, router', hopened, hids, hrequests⟩ :=
          onChannelOpened_spec hwell proxy.subscriptionId nullTime
            (proxy.addItem valueId).router
        rw [withItem_eq hitem hopened] at heq
        cases heq
        refine sends_nothing hinv rfl ?_ hids ?_
        · rw [router_setItem, hrequests]
          exact List.append_nil _
        · intro j hj
          rw [creating_setItem, if_neg (hnew j hj)]
          exact hadded j hj
      · cases heq
    · cases heq
      exact sends_nothing hinv rfl rfl rfl hadded
  · cases heq

theorem destroyItem_sends (h : proxy.Inv)
    (hidle : ∀ item, proxy.items i = some item → item.state ≠ .creating)
    (heq : proxy.destroyItem i = some proxy') : ∃ sent, Sends proxy proxy' sent := by
  have hinv := (destroyItem_outcome h i).inv heq
  unfold destroyItem at heq
  cases hi : proxy.items i with
  | none =>
    simp only [hi] at heq
    cases heq
    exact ⟨[], sends_nothing h rfl rfl rfl fun _ hj => hj⟩
  | some item =>
    have hwell := h.kept.well i item hi
    obtain ⟨router', hdestroy, hids, hrequests⟩ := destroy_spec hwell
    simp only [hi, hdestroy, Option.map_some] at heq
    cases heq
    have hothers : ∀ j, proxy.Creating j → (proxy.setItem i none router').Creating j :=
      fun j hj => hj.set hi (hidle item hi) none router'
    by_cases hcreated : item.state = .created
    · rw [if_pos hcreated] at hrequests
      have hreg := hwell.ids_of_created hcreated
      refine ⟨_, hinv, rfl, hrequests, by simp, ?_, ?_, hothers, ⟨List.nodup_nil, ?_⟩, ?_⟩
      · intro id
        simp only [registered, router_setItem, hids,
          idsWithout, if_pos hcreated, ProxyRequest.deletes,
          List.filterMap_cons, List.filterMap_nil, List.mem_singleton]
        by_cases hid : id = item.monitoredItemId
        · simp [hid]
        · simp [hid]
      · intro id hid
        obtain rfl : id = item.monitoredItemId := by
          simpa [ProxyRequest.deletes, eq_comm] using hid
        simp [registered, hreg]
      · intro j hj
        cases hj
      · intro hclosed
        obtain ⟨hopen, -⟩ := hwell.active (by rw [hcreated]; decide)
        rw [h.sender_of_open hopen] at hclosed
        cases hclosed
    · rw [if_neg hcreated, List.append_nil] at hrequests
      rw [idsWithout, if_neg hcreated] at hids
      exact ⟨[], sends_nothing hinv rfl hrequests hids hothers⟩

/-- The loop that opens the channel of every item: `sent` are the create
requests of the items visited so far. -/
structure Opening (proxy : SubscriptionProxy V) (todo : List Nat) (q : SubscriptionProxy V)
    (sent : List ProxyRequest) : Prop where
  nodup : todo.Nodup
  kept : q.Kept fun i => decide (i ∉ todo)
  ids : q.router.monitoredItemIds = proxy.router.monitoredItemIds
  sender : q.sender = proxy.sender
  requests : q.router.requests = proxy.router.requests ++ sent
  creates_only : ∀ request ∈ sent, ∃ i subscriptionId valueId,
    request = .createMonitoredItem i subscriptionId valueId
  creates : (sent.filterMap ProxyRequest.creates).Nodup
  visited : ∀ i ∈ sent.filterMap ProxyRequest.creates, i ∉ todo ∧ q.Creating i

theorem Opening.visit {q : SubscriptionProxy V} {todo : List Nat} {sent : List ProxyRequest}
    (h : Opening proxy (i :: todo) q sent) (subscriptionId : Nat) (now : Time) :
    ∃ q' sent', q.withItem i (MonitoredItemProxy.onChannelOpened i subscriptionId now) = some q' ∧
      Opening proxy todo q' sent' := by
  obtain ⟨hhead, htail⟩ := List.nodup_cons.mp h.nodup
  have hvisited : ∀ j ∈ sent.filterMap ProxyRequest.creates, j ≠ i ∧ j ∉ todo ∧ q.Creating j := by
    intro j hj
    obtain ⟨hnot, hcreating⟩ := h.visited j hj
    rw [List.mem_cons, not_or] at hnot
    exact ⟨hnot.1, hnot.2, hcreating⟩
  cases hi : q.items i with
  | none =>
    refine ⟨q, sent, withItem_of_none hi _, htail, h.kept.congr ?_, h.ids, h.sender, h.requests,
      h.creates_only, h.creates, fun j hj => (hvisited j hj).2⟩
    intro j hlive
    have hji : j ≠ i := by
      rintro rfl
      simp [hi] at hlive
    simp [hji]
  | some item =>
    have hwell := h.kept.well i item hi
    rw [decide_eq_false (by simp)] at hwell
    obtain ⟨currentData, router', hopened, hids, hrequests⟩ :=
      MonitoredItemProxy.onChannelOpened_spec hwell subscriptionId now q.router
    have hkept := h.kept.update hi hids (hwell.opens subscriptionId currentData)
      (othersKept_refl i _)
    refine ⟨_, sent ++ if item.subscribed then
      [.createMonitoredItem i subscriptionId item.valueId] else [], withItem_eq hi hopened,
      htail, hkept.congr ?_, hids.trans h.ids, h.sender, ?_, ?_, ?_, ?_⟩
    · intro j _
      by_cases hji : j = i
      · subst hji
        simp [hhead]
      · simp [hji]
    · rw [router_setItem, hrequests, h.requests, List.append_assoc]
    · intro request hmem
      rcases List.mem_append.mp hmem with hold | hnew
      · exact h.creates_only request hold
      · split at hnew
        · exact ⟨_, _, _, List.mem_singleton.mp hnew⟩
        · cases hnew
    · rw [List.filterMap_append]
      refine List.nodup_append.mpr ⟨h.creates, ?_, ?_⟩
      · split <;> simp [ProxyRequest.creates]
      · rintro j hj j' hj' rfl
        split at hj'
        · obtain rfl : j = i := by simpa [ProxyRequest.creates, eq_comm] using hj'
          exact (hvisited j hj).1 rfl
        · cases hj'
    · intro j hj
      rw [List.filterMap_append, List.mem_append] at hj
      rw [creating_setItem]
      rcases hj with hold | hnew
      · obtain ⟨hji, htodo, hcreating⟩ := hvisited j hold
        exact ⟨htodo, by rw [if_neg hji]; exact hcreating⟩
      · by_cases hsubscribed : item.subscribed = true
        · obtain rfl : j = i := by
            simpa [hsubscribed, ProxyRequest.creates, eq_comm] using hnew
          exact ⟨hhead, by simp [hsubscribed]⟩
        · simp [hsubscribed] at hnew

theorem onCreateSubscriptionResult_sends (h : proxy.Inv) {status : Status} {subscriptionId : Nat}
    {now : Nat → Time}
    (heq : proxy.onCreateSubscriptionResult status subscriptionId now = some proxy') :
    ∃ sent, Sends proxy proxy' sent := by
  have hinv := (onCreateSubscriptionResult_outcome h status subscriptionId now).inv heq
  unfold onCreateSubscriptionResult at heq
  split at heq
  · cases heq
    exact ⟨[], sends_nothing h rfl rfl rfl fun _ hj => hj⟩
  · rename_i hkept
    obtain ⟨hstate, hsender⟩ : proxy.state = .creating ∧ proxy.sender = true := by
      simpa using hkept
    split at heq
    · cases heq
      exact ⟨[], sends_nothing hinv rfl rfl rfl fun _ hj => hj⟩
    · -- no item has been told yet, so none is being created
      have hclosed := h.kept
      rw [hstate] at hclosed
      have hidle : ∀ i, ¬ proxy.Creating i := by
        rintro i ⟨item, hi, hcreating⟩
        have hwell : item.Well false _ i := hclosed.well i item hi
        rw [hwell.deleted_of_closed] at hcreating
        cases hcreating
      let start : SubscriptionProxy V :=
        collectMonitoredItems { proxy with state := .created, subscriptionId }
      have hstart : Opening proxy start.monitoredItems start [] := by
        have hcollected : start.Kept fun _ => false :=
          Kept.collect (hclosed.of_items rfl rfl rfl rfl)
        refine ⟨hcollected.nodup, hcollected.congr ?_, rfl, rfl, (List.append_nil _).symm, ?_,
          List.nodup_nil, ?_⟩
        · intro i hlive
          obtain ⟨item, hi⟩ := Option.isSome_iff_exists.mp hlive
          exact decide_eq_false (not_not_intro (hcollected.listed i item hi))
        · intro request hmem
          cases hmem
        · intro i hmem
          cases hmem
      obtain ⟨q, hloop, sent, hdone⟩ := foldlM_invariant
        (fun todo q => ∃ sent, Opening proxy todo q sent)
        (fun i todo q ⟨sent, hopening⟩ => by
          obtain ⟨q', sent', hvisit, hopening'⟩ := hopening.visit subscriptionId (now i)
          exact ⟨q', hvisit, sent', hopening'⟩) ⟨[], hstart⟩
      obtain rfl : q = proxy' := Option.some.inj (hloop.symm.trans heq)
      have hdeletes : sent.filterMap ProxyRequest.deletes = [] := by
        rw [List.filterMap_eq_nil_iff]
        intro request hmem
        obtain ⟨i, sub, valueId, rfl⟩ := hdone.creates_only request hmem
        rfl
      refine ⟨sent, hinv, hdone.sender, hdone.requests, ?_, ?_, ?_, ?_, ⟨hdone.creates, ?_⟩, ?_⟩
      · intro hmem
        obtain ⟨i, sub, valueId, hno⟩ := hdone.creates_only _ hmem
        cases hno
      · intro id
        simp [registered, hdone.ids, hdeletes]
      · simp [hdeletes]
      · intro i hcreating
        exact absurd hcreating (hidle i)
      · intro i hmem
        exact ⟨(hdone.visited i hmem).2, hidle i⟩
      · intro hno
        rw [hsender] at hno
        cases hno

/-- A step that sends nothing and changes which ids are registered, where
`except` says which items may cease to be in creation. -/
structure Takes (proxy proxy' : SubscriptionProxy V) (registered' : Nat → Bool)
    (except : Nat → Prop) : Prop where
  inv : proxy'.Inv
  sender : proxy'.sender = proxy.sender
  requests : proxy'.router.requests = proxy.router.requests
  registered : ∀ id, proxy'.registered id = registered' id
  creating : ∀ i, ¬ except i → proxy.Creating i → proxy'.Creating i

theorem takes_nothing (h : proxy.Inv) (except : Nat → Prop) :
    Takes proxy proxy proxy.registered except :=
  ⟨h, rfl, rfl, fun _ => rfl, fun _ _ hi => hi⟩

theorem createMonitoredItemResult_takes (h : proxy.Inv) (hcreating : proxy.Creating i)
    {status : Status} {id : Nat}
    (heq : proxy.withItem i (onCreateMonitoredItemResult i status id) = some proxy') :
    Takes proxy proxy' (fun id' => if !status.bad && id == id' then true else proxy.registered id')
      (· = i) := by
  have hinv := (createMonitoredItemResult_outcome h i status id).inv heq
  obtain ⟨item, hi, hstate⟩ := hcreating
  have hwell := h.kept.well i item hi
  have hothers : ∀ item' router j, ¬ j = i → proxy.Creating j →
      (proxy.setItem i (some item') router).Creating j := by
    intro item' router j hji hj
    rw [creating_setItem, if_neg hji]
    exact hj
  by_cases hbad : status.bad = true
  · obtain ⟨currentData, router', hitem, honly⟩ :=
      onCreateMonitoredItemResult_bad hwell hstate proxy.router hbad id
    rw [withItem_eq hi hitem] at heq
    cases heq
    refine ⟨hinv, rfl, honly.requests, ?_, hothers _ _⟩
    intro id'
    simp [registered, honly.monitoredItemIds, hbad]
  · have hitem := onCreateMonitoredItemResult_good hwell hstate proxy.router
      hbad id
    by_cases hfree : (proxy.router.monitoredItemIds id).isNone = true
    · rw [if_pos hfree] at hitem
      rw [withItem_eq hi hitem] at heq
      cases heq
      refine ⟨hinv, rfl, rfl, ?_, hothers _ _⟩
      intro id'
      by_cases hid : id' = id
      · subst hid
        simp [registered, hbad]
      · simp [registered, hid, Ne.symm hid]
    · rw [if_neg hfree] at hitem
      simp [withItem, hi, hitem] at heq

section Notifications

variable {id : Nat}

theorem notified_takes (h : proxy.Inv) {kind bad : Bool} {overlooked : MonitoredItemProxy V → Bool}
    (hf : proxy.Notifies kind bad overlooked f)
    (hdiffers : bad = true → ∀ i item, proxy.router.monitoredItemIds id = some i →
      proxy.items i = some item → overlooked item = false)
    (heq : (match proxy.router.monitoredItemIds id with
      | none => some proxy
      | some i => proxy.withItem i (f i)) = some proxy') :
    Takes proxy proxy' (fun id' => if id == id' && bad then false else proxy.registered id')
      fun _ => False := by
  have hinv := (notified_outcome h hf).inv heq
  cases hid : proxy.router.monitoredItemIds id with
  | none =>
    rw [hid] at heq
    cases heq
    refine ⟨h, rfl, rfl, fun id' => ?_, fun _ _ hj => hj⟩
    by_cases hid' : id = id'
    · subst hid'
      simp [registered, hid]
    · simp [hid']
  | some i =>
    simp only [hid] at heq
    obtain ⟨item, hi, hcreated, rfl⟩ := h.created_of_registered hid
    have hothers : ∀ j item' router', proxy.Creating j →
        (proxy.setItem i (some item') router').Creating j :=
      fun j item' router' hj => hj.set hi (by simp [hcreated]) (some item') router'
    have hnotified := hf i item (h.kept.well i item hi) hcreated
    generalize hstep : f i item proxy.router = result at hnotified
    cases hnotified with
    | panics hkind => simp [withItem, hi, hstep] at heq
    | stays hkind hgood currentData honly =>
      rw [withItem_eq hi hstep] at heq
      cases heq
      have hgood' : bad = false := by
        by_contra hbad
        rw [Bool.not_eq_false] at hbad
        cases (hdiffers hbad i item hid hi).symm.trans (hgood hbad)
      refine ⟨hinv, rfl, honly.requests, fun id' => ?_, fun j _ => hothers j _ _⟩
      simp [registered, honly.monitoredItemIds, hgood']
    | leaves hkind hbad monitoredItemId currentData hids hrequests =>
      rw [withItem_eq hi hstep] at heq
      cases heq
      refine ⟨hinv, rfl, hrequests, fun id' => ?_, fun j _ => hothers j _ _⟩
      rw [hbad, registered, router_setItem, hids,
        idsWithout, if_pos hcreated]
      by_cases hid' : id' = item.monitoredItemId
      · simp [hid']
      · simp [registered, hid', Ne.symm hid']

/-- A data change reaches the client. A Bad value is not overlooked if it
differs from the current one. -/
theorem onDataChange_takes [BEq V] (h : proxy.Inv) {value : DataValue V}
    (hdiffers : value.statusCode.isBad = true → ∀ i item,
      proxy.router.monitoredItemIds id = some i → proxy.items i = some item →
        (value == item.currentData) = false)
    (heq : proxy.onDataChange id value = some proxy') :
    Takes proxy proxy'
      (fun id' => if id == id' && value.statusCode.isBad then false else proxy.registered id')
      fun _ => False :=
  notified_takes h (fun _ _ hwell hcreated =>
    onDataChange_notified hwell hcreated value) hdiffers heq

theorem onEvent_takes (h : proxy.Inv) {status : Status} {event : EventPayload}
    (heq : proxy.onEvent id status event = some proxy') :
    Takes proxy proxy' (fun id' => if id == id' && status.bad then false else proxy.registered id')
      fun _ => False :=
  notified_takes h (fun _ _ hwell hcreated =>
    onEvent_notified hwell hcreated status event) (fun _ _ _ _ _ => rfl) heq

end Notifications

end SubscriptionProxy

end ScadaCore.Remote
