import ScadaCore.Scada.Batches

/-!
# Scada.Attribution — whose notification it is

A notification passes three numberings. A backend is given the id of the item as
its client handle and puts it into what it delivers; `PushNotification` reads the
id from there and looks up the handle that the client gave. In between the item
can be removed and its backends replaced, and notifications of a pump that is
gone are still on their way.

What holds it together is the allocation of the ids in `AddItem`. An id is in use,
in the table, in a coroutine or in a request to a backend, only after it has been
allocated (`Accounted`), and as long as the counter has not come round it is
allocated once.
-/

namespace ScadaCore.Scada

open MonitoredItem Multiplexing

/-- A call of `AddItem` that has got its id: the coroutine, what it was asked for
and the id. -/
structure Allocation where
  call : Nat
  request : MonitoredItemCreateRequest
  itemId : Nat
deriving DecidableEq, Repr

def MonitoredItem.Notification.itemId? {V E : Type} : Notification V E → Option UInt32
  | .dataChange itemId _ _ => some itemId
  | .event itemId _ _ _ => some itemId
  | .itemStatus itemId _ _ => some itemId
  | .overflow _ => none

def BindRoutes.childRequest (call : BindRoutes) : MonitoredItemCreateRequest :=
  { itemToMonitor := call.route.valueId, clientHandle := call.item }

def BindRoutes.childRequests (call : BindRoutes) : List MonitoredItemCreateRequest :=
  match call.point with
  | .addItems _ => [call.childRequest]
  | _ => []

namespace Multiplexing

def allocations (m : Multiplexing) : Event → List Allocation
  | .run task _ =>
    match m.tasks[task]? with
    | some (.addItemCreate request _ _) =>
      if m.state.closed then [] else [{ call := task, request, itemId := m.state.nextItemId }]
    | _ => []
  | _ => []

def childRequests (m : Multiplexing) (e : Event) : List MonitoredItemCreateRequest :=
  match e with
  | .run task _ =>
    (((m.step e).tasks[task]?.bind Task.call).map BindRoutes.childRequests).getD []
  | _ => []

/-! ## The ids in use -/

section Moves

variable {m m' : Multiplexing} {choice : Choice}

theorem item_of_bindMove {call call' : BindRoutes}
    (hmove : BindMove m call choice m' (.inl call')) : call'.item = call.item := by
  rcases routeMove_of_bindMove hmove with hmoves | hroute
  · exact (call_of_movesOn hmoves).1
  · cases hroute <;> rfl

theorem mem_itemIds_of_call {t : Task} {call : BindRoutes} (h : t.call = some call) :
    call.item ∈ t.itemIds := by
  cases t with
  | addItemBind request call' =>
    cases h
    exact List.mem_singleton_self _
  | rebindBind call' rest =>
    cases h
    exact List.mem_cons_self
  | _ => cases h

/-- The items of a coroutine after a move: it had them before, it took them from
the table, or it has just made one. -/
theorem itemIds_of_taskMove {t t' : Task} (hmove : TaskMove m choice t m' t') {itemId : Nat}
    (hmem : itemId ∈ t'.itemIds) :
    itemId ∈ t.itemIds ∨ (m.state.items.lookup itemId).isSome = true ∨
      itemId = m.state.nextItemId ∧ m.state.closed = false ∧
        ∃ request routes consultedAt, t = .addItemCreate request routes consultedAt := by
  cases hmove with
  | goOn _ _ _ _ hids => exact (hids itemId hmem).imp id Or.inl
  | pace _ _ rebindTimer rebindRunning _ _ hnone =>
    rw [hnone] at hmem
    cases hmem
  | create request routes consultedAt hopen =>
    refine Or.inr (Or.inr ⟨?_, hopen, request, routes, consultedAt, rfl⟩)
    cases routes <;> exact List.mem_singleton.mp hmem
  | route itemId' rest =>
    left
    cases hroutes : choice.routes <;> simpa [hroutes, BindRoutes.start, rebindBound,
      Task.itemIds] using hmem
  | write itemId' allBound consultedAt rest => exact Or.inl (List.mem_cons_of_mem _ hmem)
  | addItemBind request call _ outcome hbind =>
    left
    cases outcome with
    | inl call' =>
      rw [List.mem_singleton.mp hmem, item_of_bindMove hbind]
      exact List.mem_singleton_self _
    | inr bound => exact hmem
  | rebindBind call rest _ outcome hbind =>
    left
    cases outcome with
    | inl call' =>
      rcases List.mem_cons.mp hmem with rfl | hrest
      · rw [item_of_bindMove hbind]
        exact List.mem_cons_self
      · exact List.mem_cons_of_mem _ hrest
    | inr bound => exact hmem
  | _ => cases hmem

/-- Of the handles in the table, only those of new items are new. -/
theorem handles_of_taskMove {P : Nat → Nat → Prop} {t t' : Task}
    (h : m.state.items.All fun itemId item => P itemId item.clientHandle)
    (hmove : TaskMove m choice t m' t')
    (hnew : ∀ request routes consultedAt, t = .addItemCreate request routes consultedAt →
      m.state.closed = false → P m.state.nextItemId request.clientHandle) :
    m'.state.items.All fun itemId item => P itemId item.clientHandle := by
  -- an entry that is written again keeps its handle
  have hbound : ∀ {m' : Multiplexing} {call : BindRoutes} {outcome : BindRoutes.Outcome},
      BindMove m call choice m' outcome →
        m'.state.items.All fun itemId item => P itemId item.clientHandle := by
    intro m' call outcome hbind
    cases hbind with
    | record pump childId item _ _ _ hitem => exact Table.All.insert h (h call.item item hitem)
    | _ => exact h
  cases hmove with
  | create request routes consultedAt hopen =>
    exact Table.All.insert h (hnew request routes consultedAt rfl hopen)
  | discard request itemId | remove itemId => exact Table.All.erase h itemId
  | write itemId allBound consultedAt rest item hitem =>
    exact Table.All.insert h (h itemId item hitem)
  | addItemBind request call _ outcome hbind => exact hbound hbind
  | rebindBind call rest _ outcome hbind => exact hbound hbind
  | _ => exact h

theorem nextItemId_of_taskMove {t t' : Task} (hmove : TaskMove m choice t m' t') :
    m'.state.nextItemId = m.state.nextItemId ∨ m.state.closed = false ∧
      ∃ request routes consultedAt, t = .addItemCreate request routes consultedAt := by
  have hbound : ∀ {m' : Multiplexing} {call : BindRoutes} {outcome : BindRoutes.Outcome},
      BindMove m call choice m' outcome → m'.state.nextItemId = m.state.nextItemId := by
    intro m' call outcome hbind
    cases hbind <;> rfl
  cases hmove with
  | create request routes consultedAt hopen =>
    exact Or.inr ⟨hopen, request, routes, consultedAt, rfl⟩
  | addItemBind request call _ outcome hbind
  | rebindBind call rest _ outcome hbind => exact Or.inl (hbound hbind)
  | _ => exact Or.inl rfl

end Moves

theorem clientHandle_loseBackend (service failure : Nat) (item : Item) :
    (State.loseBackend service failure item).clientHandle = item.clientHandle := by
  unfold State.loseBackend
  split <;> rfl

section Step

variable {m : Multiplexing} {e : Event} {task : Nat} {choice : Choice} {t : Task}

theorem not_creates (hno : m.allocations (.run task choice) = []) (ht : m.tasks[task]? = some t)
    (hopen : m.state.closed = false) (request : MonitoredItemCreateRequest)
    (routes : List MonitoredItemRoute) (consultedAt : Nat) :
    t ≠ .addItemCreate request routes consultedAt := by
  rintro rfl
  simp [allocations, ht, hopen] at hno

theorem handles_step {P : Nat → Nat → Prop}
    (h : m.state.items.All fun itemId item => P itemId item.clientHandle)
    (hno : m.allocations e = []) :
    (m.step e).state.items.All fun itemId item => P itemId item.clientHandle := by
  have hmove := m.step_move e
  generalize m.step e = m' at hmove ⊢
  cases hmove with
  | run task choice t ht =>
    show (m.stepTask choice t).1.state.items.All _
    refine handles_of_taskMove h (stepTask_move m choice t) ?_
    intro request routes consultedAt heq hopen
    exact absurd heq (not_creates hno ht hopen request routes consultedAt)
  | fail handler pump status _ _ _ hdropped =>
    subst hdropped
    refine Table.All.mapValues h ?_
    intro itemId item _ hhandle
    rw [clientHandle_loseBackend]
    exact hhandle
  | close status => exact Table.all_empty
  | rehash items hperm => exact Table.All.perm h hperm
  | _ => exact h

theorem nextItemId_step (hno : m.allocations e = []) :
    (m.step e).state.nextItemId = m.state.nextItemId := by
  have hmove := m.step_move e
  generalize m.step e = m' at hmove ⊢
  cases hmove with
  | run task choice t ht =>
    rcases nextItemId_of_taskMove (stepTask_move m choice t) with
      hsame | ⟨hopen, request, routes, consultedAt, heq⟩
    · exact hsame
    · exact absurd heq (not_creates hno ht hopen request routes consultedAt)
  | fail handler pump status _ _ _ hdropped =>
    subst hdropped
    rfl
  | _ => rfl

end Step

/-- The ids that have been allocated are counted up from 1, and no id is in use but
these. -/
structure Accounted (allocs : List Allocation) (m : Multiplexing) : Prop where
  numbered : allocs.map Allocation.itemId =
    (List.range allocs.length).map fun k => (k + 1) % 2 ^ 32
  next : m.state.nextItemId = (allocs.length + 1) % 2 ^ 32
  items : m.state.items.All fun itemId item =>
    ∃ a ∈ allocs, a.itemId = itemId ∧ a.request.clientHandle = item.clientHandle
  tasks : ∀ t ∈ m.tasks, ∀ itemId ∈ t.itemIds, ∃ a ∈ allocs, a.itemId = itemId

namespace Accounted

variable {m : Multiplexing} {allocs : List Allocation}

theorem init : Accounted [] {} :=
  ⟨rfl, rfl, Table.all_empty, by simp⟩

theorem mem_lt (h : Accounted allocs m) {a : Allocation} (ha : a ∈ allocs) : a.itemId < 2 ^ 32 := by
  have hmem : a.itemId ∈ allocs.map Allocation.itemId := List.mem_map_of_mem ha
  rw [h.numbered] at hmem
  obtain ⟨k, -, hk⟩ := List.mem_map.mp hmem
  rw [← hk]
  exact Nat.mod_lt _ (Nat.two_pow_pos 32)

/-- The ids of the coroutines after an event have been allocated, if the new one
has. -/
theorem tasks_step (h : Accounted allocs m) (e : Event) {allocs' : List Allocation}
    (hmore : allocs ⊆ allocs')
    (hnew : ∀ a ∈ m.allocations e, a ∈ allocs') :
    ∀ t ∈ (m.step e).tasks, ∀ itemId ∈ t.itemIds, ∃ a ∈ allocs', a.itemId = itemId := by
  have hold : ∀ {itemId}, (∃ a ∈ allocs, a.itemId = itemId) → ∃ a ∈ allocs', a.itemId = itemId :=
    fun ⟨a, ha, hid⟩ => ⟨a, hmore ha, hid⟩
  intro t' ht' itemId hmem
  rcases mem_tasks_step ht' with hbefore | hstarting | ⟨task, choice, t, rfl, ht, rfl⟩
  · exact hold (h.tasks t' hbefore itemId hmem)
  · cases t' with
    | addItem request => cases hmem
    | removeItem itemId => cases hmem
    | rebindWait => cases hmem
    | _ => cases hstarting
  · rcases itemIds_of_taskMove (stepTask_move m choice t) hmem with
      hown | htable | ⟨rfl, hopen, request, routes, consultedAt, rfl⟩
    · exact hold (h.tasks t (List.mem_of_getElem? ht) itemId hown)
    · obtain ⟨item, hitem⟩ := Option.isSome_iff_exists.mp htable
      obtain ⟨a, ha, hid, -⟩ := h.items itemId item hitem
      exact hold ⟨a, ha, hid⟩
    · -- the item has just been made
      exact ⟨_, hnew _ (by simp [allocations, ht, hopen]; rfl), rfl⟩

theorem step (h : Accounted allocs m) (e : Event) :
    Accounted (allocs ++ m.allocations e) (m.step e) := by
  have htasks := h.tasks_step e (List.subset_append_left allocs (m.allocations e))
    fun a ha => List.mem_append_right allocs ha
  by_cases hno : m.allocations e = []
  · rw [hno, List.append_nil] at htasks ⊢
    refine ⟨h.numbered, (nextItemId_step hno).trans h.next, ?_, htasks⟩
    exact handles_step (P := fun itemId clientHandle =>
      ∃ a ∈ allocs, a.itemId = itemId ∧ a.request.clientHandle = clientHandle) h.items hno
  · -- the step is the one of `AddItem` that makes an item
    cases e with
    | run task choice =>
      cases ht : m.tasks[task]? with
      | none => simp [allocations, ht] at hno
      | some t =>
        cases t with
        | addItemCreate request routes consultedAt =>
          cases hclosed : m.state.closed with
          | true => simp [allocations, ht, hclosed] at hno
          | false =>
            have hnew : m.allocations (.run task choice) =
                [{ call := task, request, itemId := m.state.nextItemId }] := by
              simp [allocations, ht, hclosed]
            have hstate := state_step_run ht choice
            simp only [stepTask, stepAddItemCreate, hclosed, Bool.false_eq_true,
              if_false] at hstate
            rw [hnew] at htasks ⊢
            refine ⟨?_, ?_, ?_, htasks⟩
            · simp [h.numbered, h.next, List.range_succ]
            · rw [hstate, List.length_append, List.length_singleton]
              show (m.state.nextItemId + 1) % 2 ^ 32 = _
              rw [h.next, Nat.mod_add_mod]
            · rw [hstate]
              refine Table.All.insert (h.items.imp ?_) ?_
              · rintro itemId item - ⟨a, ha, hid, hhandle⟩
                exact ⟨a, List.mem_append_left _ ha, hid, hhandle⟩
              · exact ⟨_, List.mem_append_right _ (List.mem_singleton_self _), rfl, rfl⟩
        | _ => simp [allocations, ht] at hno
    | _ => exact absurd rfl hno

theorem run (es : List Event) : Accounted (system.collect allocations es) (system.run es) := by
  induction es using List.reverseRecOn with
  | nil => exact init
  | append_singleton es e ih =>
    rw [Lts.System.collect_concat, Lts.System.run_concat]
    exact ih.step e

theorem nodup (h : Accounted allocs m) (hfew : allocs.length < 2 ^ 32) :
    (allocs.map Allocation.itemId).Nodup := by
  rw [h.numbered]
  refine List.Nodup.map_on ?_ List.nodup_range
  intro k hk k' hk' heq
  rw [List.mem_range] at hk hk'
  rw [Nat.mod_eq_of_lt (by omega), Nat.mod_eq_of_lt (by omega)] at heq
  exact Nat.succ.inj heq

end Accounted

/-- A backend is given no handle but an id that has been allocated. -/
theorem childRequest_allocated {es : List Event} {request : MonitoredItemCreateRequest}
    (h : request ∈ system.collect childRequests es) :
    ∃ a ∈ system.collect allocations es, a.itemId = request.clientHandle := by
  obtain ⟨pre, e, hpre, hmem⟩ := (system.mem_collect_iff childRequests).mp h
  have haccounted := Accounted.run (pre ++ [e])
  rw [Lts.System.run_concat] at haccounted
  have hsent : ∃ t ∈ (system.step (system.run pre) e).tasks, request.clientHandle ∈ t.itemIds := by
    cases e with
    | run task choice =>
      dsimp only [childRequests] at hmem
      cases ht : ((system.run pre).step (.run task choice)).tasks[task]? with
      | none => simp [ht] at hmem
      | some t =>
        refine ⟨t, List.mem_of_getElem? ht, ?_⟩
        cases hcall : t.call with
        | none => simp [ht, hcall] at hmem
        | some call =>
          simp only [ht, hcall, Option.bind_some, Option.map_some, Option.getD_some,
            BindRoutes.childRequests] at hmem
          split at hmem
          · rw [List.mem_singleton.mp hmem]
            exact mem_itemIds_of_call hcall
          · cases hmem
    | _ => cases hmem
  obtain ⟨t, ht, hid⟩ := hsent
  obtain ⟨a, ha, heq⟩ := haccounted.tasks t ht _ hid
  exact ⟨a, (system.collect_prefix allocations hpre).subset ha, heq⟩

end Multiplexing

/-! ## Notifications -/

namespace Delivery

variable {V E : Type} (options : SubscriptionOptions)

def allocated (es : List (Event V E)) : List Allocation :=
  Multiplexing.system.collect Multiplexing.allocations (controls es)

def requested (es : List (Event V E)) : List MonitoredItemCreateRequest :=
  Multiplexing.system.collect Multiplexing.childRequests (controls es)

/-- A backend puts into what it delivers a handle that it was given. -/
def echoes (given : List MonitoredItemCreateRequest) : Event V E → Bool
  | .push n => n.clientHandle?.all fun handle => given.any (·.clientHandle == handle.toNat)
  | _ => true

/-- Backends have been given the handles that they put into what they deliver. -/
def Echoes (es : List (Event V E)) : Prop :=
  ∀ k < es.length, es[k]?.all (echoes (requested (es.take k))) = true

instance (es : List (Event V E)) : Decidable (Echoes es) :=
  inferInstanceAs (Decidable (∀ k < es.length, _))

/-- The item of the notification was allocated by one call, and the notification
has the handle of its request if the item exists, 0 if it does not. -/
def Attributed (allocs : List Allocation) (d : Delivery V E) (n : Notification V E) : Prop :=
  ∀ itemId, n.itemId? = some itemId →
    ∃ a, allocs.filter (·.itemId == itemId.toNat) = [a] ∧
      n.clientHandle? = some
        (if (d.control.state.items.lookup itemId.toNat).isSome then
          UInt32.ofNat a.request.clientHandle
        else 0)

/-- What a step puts into the queue, with the state in which it arrives. -/
def admissions (d : Delivery V E) (e : Event V E) : List (Delivery V E × Notification V E) :=
  ((queueing options).admits d e).map fun n => (d, n)

theorem itemId?_prepared (d : Delivery V E) (n : Notification V E) :
    (d.prepared n).itemId? = n.clientHandle? ∧
      (d.prepared n).clientHandle? = n.clientHandle?.map d.clientHandleOf := by
  unfold prepared
  cases n <;> split <;> exact ⟨rfl, rfl⟩

/-- What arrives names an item by the handle that a backend put into it, or is made
from an entry of the table. -/
theorem arrival_origin {d : Delivery V E} {e : Event V E} {n : Notification V E} {itemId : UInt32}
    (hmem : n ∈ d.arrivals e) (hid : n.itemId? = some itemId) :
    (∃ n', e = .push n' ∧ n'.clientHandle? = some itemId ∧
        n.clientHandle? = some (d.clientHandleOf itemId)) ∨
      ∃ key item, d.control.state.items.lookup key = some item ∧ itemId = UInt32.ofNat key ∧
        n.clientHandle? = some (UInt32.ofNat item.clientHandle) := by
  unfold arrivals at hmem
  split at hmem
  · cases hmem
  · split at hmem
    · rename_i n'
      left
      rw [List.mem_singleton] at hmem
      subst hmem
      obtain ⟨hid', hhandle⟩ := d.itemId?_prepared n'
      rw [hid'] at hid
      exact ⟨n', rfl, hid, by rw [hhandle, hid]; rfl⟩
    · -- `SweepBlocked` goes over the table and takes the handles from it
      rename_i index
      right
      split at hmem
      · cases hmem
      · rename_i status _
        obtain ⟨entry, hentry, rfl⟩ := List.mem_map.mp hmem
        cases hid
        exact ⟨entry.1, entry.2, AList.mem_lookup_iff.mpr hentry, rfl, rfl⟩
    · -- so do the outages that `OnBackendFailed` reports
      rename_i handler
      right
      unfold outages at hmem
      split at hmem
      · cases hmem
      · split at hmem
        · obtain ⟨entry, hentry, hsome⟩ := List.mem_filterMap.mp hmem
          unfold outage at hsome
          split at hsome
          · cases hsome
            cases hid
            exact ⟨entry.1, entry.2, AList.mem_lookup_iff.mpr hentry, rfl, rfl⟩
          · cases hsome
        · cases hmem
    · cases hmem

theorem filter_eq_singleton {α : Type} {f : α → Nat} {l : List α} {a : α}
    (h : (l.map f).Nodup) (ha : a ∈ l) : l.filter (f · == f a) = [a] := by
  induction l with
  | nil => cases ha
  | cons b l ih =>
    rw [List.map_cons, List.nodup_cons] at h
    rcases List.mem_cons.mp ha with rfl | htail
    · have hnone : l.filter (f · == f a) = [] := by
        rw [List.filter_eq_nil_iff]
        intro c hc heq
        exact h.1 (List.mem_map.mpr ⟨c, hc, beq_iff_eq.mp heq⟩)
      simp [hnone]
    · have hne : (f b == f a) = false := by
        rw [beq_eq_false_iff_ne]
        intro heq
        exact h.1 (heq ▸ List.mem_map_of_mem htail)
      rw [List.filter_cons_of_neg (by simp [hne]), ih h.2 htail]

theorem attributed_of_arrival {es pre : List (Event V E)} {e : Event V E} {n : Notification V E}
    (hfew : (allocated es).length < 2 ^ 32) (hecho : Echoes es) (hpre : pre ++ [e] <+: es)
    (hmem : n ∈ ((system options).run pre).arrivals e) :
    ((system options).run pre).Attributed (allocated es) n := by
  have hshorter : pre <+: es := (List.prefix_append pre [e]).trans hpre
  have hcontrols : controls pre <+: controls es := hshorter.filterMap _
  have hsubset : allocated pre ⊆ allocated es :=
    (Multiplexing.system.collect_prefix Multiplexing.allocations hcontrols).subset
  have hwhole := Multiplexing.Accounted.run (controls es)
  have hnow := Multiplexing.Accounted.run (controls pre)
  rw [← control_run_controls options pre] at hnow
  have honce : ∀ a ∈ allocated es, (allocated es).filter (·.itemId == a.itemId) = [a] :=
    fun a ha => filter_eq_singleton (hwhole.nodup hfew) ha
  intro itemId hid
  rcases arrival_origin hmem hid with ⟨n', rfl, hgiven, hhandle⟩ | ⟨key, item, hitem, rfl, hhandle⟩
  · -- the handle is one that the backend was given, so it has been allocated
    have hat : es[pre.length]? = some (.push n') := by
      rw [List.prefix_iff_getElem?.mp hpre pre.length (by simp)]
      simp
    have hechoed := hecho pre.length (List.getElem?_eq_some_iff.mp hat).1
    rw [hat, ← List.prefix_iff_eq_take.mp hshorter] at hechoed
    simp only [Option.all_some, echoes, hgiven, List.any_eq_true, beq_iff_eq] at hechoed
    obtain ⟨request, hrequest, heq⟩ := hechoed
    obtain ⟨a, ha, haid⟩ := Multiplexing.childRequest_allocated hrequest
    rw [heq] at haid
    refine ⟨a, haid ▸ honce a (hsubset ha), ?_⟩
    rw [hhandle]
    unfold clientHandleOf
    cases hitem : ((system options).run pre).control.state.items.lookup itemId.toNat with
    | none => rfl
    | some item =>
      obtain ⟨a', ha', haid', hsame⟩ := hnow.items _ item hitem
      have heq' : a' = a := by
        have hfilter := honce a (hsubset ha)
        have hmem' : a' ∈ (allocated es).filter (·.itemId == a.itemId) :=
          List.mem_filter.mpr ⟨hsubset ha', by simp [haid, haid']⟩
        rw [hfilter] at hmem'
        exact List.mem_singleton.mp hmem'
      show some (UInt32.ofNat item.clientHandle) = some (UInt32.ofNat a.request.clientHandle)
      rw [← hsame, heq']
  · -- the item is in the table, with the handle of the call that made it
    obtain ⟨a, ha, haid, hsame⟩ := hnow.items key item hitem
    have hkey : (UInt32.ofNat key).toNat = key := by
      rw [UInt32.toNat_ofNat']
      exact Nat.mod_eq_of_lt (haid ▸ hnow.mem_lt ha)
    refine ⟨a, ?_, ?_⟩
    · rw [hkey, ← haid]
      exact honce a (hsubset ha)
    · rw [hhandle, hkey, hitem, hsame]
      rfl

/-- **Attribution.** With fewer than 2^32 items ever made and backends that echo the
handles they were given: what the calls of `ReadNext` return in a run has arrived,
in this order and each of it once, and every notification of it that names an item
names one that was allocated by exactly one call of `AddItem`, with the handle of
that call, or 0 if the item did not exist when the notification arrived. -/
theorem returned_attributed (es : List (Event V E)) (hfew : (allocated es).length < 2 ^ 32)
    (hecho : Echoes es) :
    ∃ origins : List (Delivery V E × Notification V E),
      origins.Sublist ((system options).collect (admissions options) es) ∧
      ((system options).collect (batches options) es).flatMap Prod.snd = origins.map Prod.snd ∧
      ∀ origin ∈ origins, origin.1.Attributed (allocated es) origin.2 := by
  have hadmits : (system options).collect (queueing options).admits es =
      ((system options).collect (admissions options) es).map Prod.snd := by
    rw [Lts.System.map_collect]
    simp [admissions, Function.comp_def]
  have hreturned : (((system options).collect (batches options) es).flatMap Prod.snd).Sublist
      (((system options).collect (admissions options) es).map Prod.snd) := by
    rw [← hadmits]
    exact (List.sublist_append_left _ _).trans ((queueBatches options).sublist es)
  obtain ⟨origins, hsublist, heq⟩ := List.sublist_map_iff.mp hreturned
  refine ⟨origins, hsublist, heq, ?_⟩
  intro origin horigin
  obtain ⟨pre, e, hpre, hmem⟩ :=
    ((system options).mem_collect_iff (admissions options)).mp (hsublist.subset horigin)
  obtain ⟨n, hn, rfl⟩ := List.mem_map.mp hmem
  rcases BoundedQueue.mem_admitted hn with harrival | rfl
  · exact attributed_of_arrival options hfew hecho hpre harrival
  · -- an overflow marker names no item
    intro itemId hno
    cases hno

/-- An item with the handle 7 is bound and its backend delivers; the item is removed,
and its backend delivers once more. -/
def lateRun : List (Event Unit Unit) :=
  (.addItem { clientHandle := 7 } :: runs 0
    ([{}, routedTo [1], {}] ++ bindNew 100 5) ++
    runs 0 [{}]).map .control ++
  [.push (.itemStatus 5 1 StatusCode.good)] ++
  (.removeItem 1 :: runs 1 [{}, {}, {}]).map .control ++
  [.push (.itemStatus 5 1 StatusCode.good), .readNext 10, .read 0]

theorem returned_attributed_lateRun :
    (allocated lateRun).length < 2 ^ 32 ∧ Echoes lateRun ∧
      ((system {}).collect (batches {}) lateRun).flatMap Prod.snd =
        [.itemStatus 1 7 StatusCode.good, .itemStatus 1 0 StatusCode.good] ∧
      ∃ origins : List (Delivery Unit Unit × Notification Unit Unit),
        origins.Sublist ((system {}).collect (admissions {}) lateRun) ∧
        ((system {}).collect (batches {}) lateRun).flatMap Prod.snd = origins.map Prod.snd ∧
        ∀ origin ∈ origins, origin.1.Attributed (allocated lateRun) origin.2 :=
  have hfew : (allocated lateRun).length < 2 ^ 32 := by decide +kernel
  have hecho : Echoes lateRun := by decide +kernel
  ⟨hfew, hecho, rfl, returned_attributed {} lateRun hfew hecho⟩

end Delivery

end ScadaCore.Scada
