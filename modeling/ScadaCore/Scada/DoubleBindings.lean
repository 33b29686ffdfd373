import ScadaCore.Scada.Rebinding

/-!
# Scada.DoubleBindings — an item is bound to a backend once

`BindRoutes` skips a route whose backend already has the item, asks the backend
to add it, and records the child when the answer comes. It does not look again
before it records. Within one call that is safe, as the next route is looked at
afterwards. Two calls for one item are another matter: `AddItem` may still be
waiting for the second backend of an item when the first one fails and
`RebindLoop` takes the item up.
-/

namespace ScadaCore.Scada

def BindPoint.searching : BindPoint → Bool
  | .head => false
  | .ensurePump => true
  | .startPump _ => true
  | .publishPump _ _ => true
  | .addItems _ => true
  | .removeOrphan _ _ => false

namespace Multiplexing

def BoundOnce (m : Multiplexing) : Prop :=
  m.state.items.All fun _ item => (item.children.map Child.service).Nodup

/-- The router gives each backend once. -/
abbrev RoutesOnce (_m : Multiplexing) : Event → Prop :=
  Event.OnRun fun _ choice => (choice.routes.map MonitoredItemRoute.service).Nodup

def RecordsOnce (m : Multiplexing) : Event → Prop
  | .run task choice => ∀ call pump childId item, m.Calls task call →
      call.point = .addItems pump → choice.answer = some childId → m.state.closed = false →
      m.state.items.lookup call.item = some item → item.boundTo call.route.service = false
  | _ => True

/-- While a call of `BindRoutes` waits for a backend, no other call works on its
item. -/
def BindsAlone (m : Multiplexing) : Event → Prop
  | .run task _ => ∀ call pump, m.Calls task call → call.point = .addItems pump →
      ∀ task' call', m.Calls task' call' → call'.item = call.item → task' = task
  | _ => True

theorem boundTo_iff {item : Item} {service : Nat} :
    item.boundTo service = true ↔ service ∈ item.children.map Child.service := by
  simp [Item.boundTo]

/-! ## What is recorded -/

variable {m : Multiplexing} {e : Event}

theorem boundOnce_effect {b : Books} (h : m.BoundOnce) (hsafe : m.RecordsOnce e)
    (heffect : Effect m e b) :
    b.items.All fun _ item => (item.children.map Child.service).Nodup := by
  cases heffect with
  | create _ clientHandle valueId => exact Table.All.insert h List.nodup_nil
  | erase _ itemId => exact Table.All.erase h itemId
  | bind task choice call pump childId item hcall hpoint hanswer hopen hitem =>
    -- `BindRoutes` appends the child without a look at the others
    refine Table.All.insert h ?_
    have hfree := hsafe call pump childId item hcall hpoint hanswer hopen hitem
    have hnew : call.route.service ∉ item.children.map Child.service := by
      rw [← boundTo_iff, hfree]
      exact Bool.false_ne_true
    have hold := h call.item item hitem
    rw [addChild, List.map_append, List.map_singleton, ← List.concat_eq_append]
    exact hold.concat hnew
  | write task choice itemId allBound consultedAt rest item htask hitem =>
    exact Table.All.insert h (h itemId item hitem)
  | fail handler pump status =>
    refine Table.All.mapValues h ?_
    intro itemId item _ hold
    unfold State.loseBackend
    split
    · exact hold.sublist (List.filter_sublist.map _)
    · exact hold
  | close => exact Table.all_empty
  | rehash items hperm => exact Table.All.perm h hperm
  | _ => exact h

theorem not_boundOnce_of_double (hdouble : ¬ m.RecordsOnce e) : ¬ (m.step e).BoundOnce := by
  cases e with
  | run task choice =>
    unfold RecordsOnce at hdouble
    push Not at hdouble
    rcases hdouble with ⟨call, pump, childId, item, hcall, hpoint, hanswer, hopen, hitem, hbound⟩
    have hitems := congrArg Books.items (books_run_of_added hcall hpoint hanswer hopen hitem)
    intro hall
    have hlookup : (m.step (.run task choice)).state.items.lookup call.item = some
        (addChild item { service := call.route.service, childId, pump := pump.pump }) := by
      rw [show (m.step (.run task choice)).state.items = _ from hitems]
      exact AList.lookup_insert _
    have hnodup := hall call.item _ hlookup
    rw [addChild, List.map_append, List.map_singleton, List.nodup_append] at hnodup
    rw [ne_eq, Bool.not_eq_false, boundTo_iff] at hbound
    exact hnodup.2.2 _ hbound _ (List.mem_singleton_self _) rfl
  | _ => exact absurd trivial hdouble

/-! ## Calls that work alone -/

/-- A call that is binding a route works on an item that is not bound to its
backend. -/
def SearchesFree (m : Multiplexing) : Prop :=
  ∀ task call, m.Calls task call → call.point.searching = true →
    ∀ item, m.state.items.lookup call.item = some item → item.boundTo call.route.service = false

/-- The item was bound to the backend before the event, or the event is the step
of a call that records a child. -/
def BoundBy (m : Multiplexing) (e : Event) (itemId service : Nat) : Prop :=
  (∃ item, m.state.items.lookup itemId = some item ∧ item.boundTo service = true) ∨
    ∃ task choice call pump, e = .run task choice ∧ m.Calls task call ∧
      call.point = .addItems pump ∧ call.item = itemId

theorem boundBy_effect {b : Books} (heffect : Effect m e b) :
    b.items.All fun itemId item =>
      ∀ service, item.boundTo service = true → m.BoundBy e itemId service := by
  intro itemId item hitem service hbound
  rw [boundTo_iff] at hbound
  obtain ⟨child, hchild, rfl⟩ := List.mem_map.mp hbound
  rcases heffect.children itemId item hitem child hchild with
    ⟨item', hitem', hold⟩ | ⟨task, choice, call, pump, hrun, hcall, hpoint, hid, -⟩
  · exact Or.inl ⟨item', hitem', boundTo_iff.mpr (List.mem_map_of_mem hold)⟩
  · exact Or.inr ⟨task, choice, call, pump, hrun, hcall, hpoint, hid⟩

/-- A call starts to bind a route by looking at the item, and then it sticks to
the route. -/
theorem searching_of_bindMove {m' : Multiplexing} {call call' : BindRoutes} {choice : Choice}
    (hmove : BindMove m call choice m' (.inl call')) (hsearching : call'.point.searching = true) :
    call'.item = call.item ∧ call'.route = call.route ∧ (∀ pump, call.point ≠ .addItems pump) ∧
      (call.point.searching = true ∨ ∀ item, m.state.items.lookup call.item = some item →
        item.boundTo call.route.service = false) := by
  rcases routeMove_of_bindMove hmove with hmoves | hroute
  · rw [(call_of_movesOn hmoves).2] at hsearching
    cases hsearching
  cases hroute with
  | search item hpoint hitem hfree =>
    refine ⟨rfl, rfl, by simp [hpoint], Or.inr ?_⟩
    intro item' hitem'
    rw [hitem] at hitem'
    cases hitem'
    exact hfree
  | retry pumpId hpoint => exact ⟨rfl, rfl, by simp [hpoint], Or.inl hsearching⟩
  | orphan pump childId => cases hsearching
  | find _ hpoint | number hpoint | make _ _ hpoint | yield _ _ _ hpoint | publish _ _ hpoint =>
    exact ⟨rfl, rfl, by simp [hpoint], Or.inl (by rw [hpoint]; rfl)⟩

theorem searchesFree_step (h : m.SearchesFree) (halone : m.BindsAlone e) :
    (m.step e).SearchesFree := by
  rintro task call' ⟨t', ht', hcall'⟩ hsearching item hitem
  by_contra hbound
  rw [Bool.not_eq_false] at hbound
  have hby := boundBy_effect (m.step_effect e) call'.item item hitem call'.route.service hbound
  rcases getElem?_tasks_step_cases ht' with ⟨hold, hother⟩ | hstarting | ⟨choice, t, rfl, ht, rfl⟩
  · -- the call has not moved, and nobody else works on its item
    have hcalls : m.Calls task call' := ⟨t', hold, hcall'⟩
    rcases hby with ⟨item', hitem', hbound'⟩ |
      ⟨stepped, choice, call, pump, rfl, hcall, hpoint, hsame⟩
    · rw [h task call' hcalls hsearching item' hitem'] at hbound'
      cases hbound'
    · have htask := halone call pump hcall hpoint task call' hcalls hsame.symm
      exact hother choice (by rw [htask])
  · rw [Task.call_of_plain (plain_of_starting hstarting)] at hcall'
    cases hcall'
  · rcases call_of_taskMove (stepTask_move m choice t) hcall' with hhead | ⟨call, hcall, hmove⟩
    · rw [hhead] at hsearching
      cases hsearching
    obtain ⟨hitemId, hroute, hpoint, hfree⟩ := searching_of_bindMove hmove hsearching
    rcases hby with ⟨item', hitem', hbound'⟩ |
      ⟨stepped, choice', call₀, pump, he, hcall₀, hpoint₀, -⟩
    · rw [hitemId] at hitem'
      rw [hroute] at hbound'
      have hfalse : item'.boundTo call.route.service = false := by
        rcases hfree with hbefore | hfree
        · exact h task call ⟨t, ht, hcall⟩ hbefore item' hitem'
        · exact hfree item' hitem'
      rw [hfalse] at hbound'
      cases hbound'
    · -- the call that records is this one, and it does not go on binding
      cases he
      obtain ⟨t₀, ht₀, hcall₀⟩ := hcall₀
      rw [ht] at ht₀
      cases ht₀
      rw [hcall] at hcall₀
      cases hcall₀
      exact hpoint pump hpoint₀

theorem recordsOnce_of_searchesFree (h : m.SearchesFree) (e : Event) : m.RecordsOnce e := by
  cases e with
  | run task choice =>
    intro call pump childId item hcall hpoint _ _ hitem
    exact h task call hcall (by rw [hpoint]; rfl) item hitem
  | _ => trivial

/-! ## Runs -/

theorem always_boundOnce_iff_recordsOnce (es : List Event) :
    system.Always BoundOnce es ↔ system.Meets RecordsOnce es := by
  refine system.always_iff_meets BoundOnce _ _ Table.all_empty (fun m h => h) ?_ ?_ es
  · exact fun m e h hsafe => boundOnce_effect h hsafe (m.step_effect e)
  · exact fun m e _ hdouble => not_boundOnce_of_double hdouble

theorem recordsOnce_of_bindsAlone {es : List Event} (h : system.Meets BindsAlone es) :
    system.Meets RecordsOnce es := by
  have hfree : system.Always SearchesFree es := by
    refine system.always_of_meets _ _ ?_ (fun m e hm halone => searchesFree_step hm halone) h
    rintro task call ⟨t, ht, -⟩
    cases ht
  intro pre e hpre
  exact recordsOnce_of_searchesFree (hfree pre ((List.prefix_append pre [e]).trans hpre)) e

/-- **Items are bound once to a backend** throughout a run if and only if every
child is recorded where the item has none of its backend; and so it is if no two
calls of `BindRoutes` work on one item while one of them waits for a backend. -/
theorem always_boundOnce_iff (es : List Event) :
    (system.Always BoundOnce es ↔ system.Meets RecordsOnce es) ∧
      (system.Meets BindsAlone es → system.Always BoundOnce es) :=
  ⟨always_boundOnce_iff_recordsOnce es, fun h =>
    (always_boundOnce_iff_recordsOnce es).mpr (recordsOnce_of_bindsAlone h)⟩

/-- An item is added on the backends 1 and 2. Backend 1 fails while backend 2 is
still adding the item, so `RebindLoop` binds it to both of them, and then backend
2 answers `AddItem`. -/
def partialFailureRun : List Event :=
  .addItem {} :: runs 0 [{}, routedTo [1, 2], {}] ++ runs 0 (bindNew 100 1) ++
    runs 0 [{}, {}, { started := some 101 }, {}] ++ pumpFails 1 1 ++
    runs 1 [{}, {}, {}, routedTo [1, 2]] ++ runs 1 (bindNew 102 1) ++
    runs 1 [{}, {}, { answer := some 1 }] ++ runs 0 [{ answer := some 2 }]

/-- The item has two children of backend 2, each with a subscription to the same
samples. -/
theorem not_always_boundOnce_partialFailureRun :
    system.Meets RoutesOnce partialFailureRun ∧ ¬ system.Always BoundOnce partialFailureRun := by
  constructor
  · rw [Lts.System.meets_iff_meetsFrom]
    decide +kernel
  · intro halways
    have hitem : (system.run partialFailureRun).state.items.lookup 1 = some
        { children := [{ service := 1, childId := 1, pump := { id := 3, service := 1 } },
            { service := 2, childId := 1, pump := { id := 2, service := 2 } },
            { service := 2, childId := 2, pump := { id := 2, service := 2 } }]
          needsRebind := true, losses := [0] } := by
      decide +kernel
    have hnodup := halways _ (List.prefix_refl _) 1 _ hitem
    exact absurd hnodup (by decide)

end Multiplexing

end ScadaCore.Scada
