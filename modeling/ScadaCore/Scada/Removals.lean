import ScadaCore.Scada.Lifecycle
import ScadaCore.Scada.PublishedPumps

/-!
# Scada.Removals — removing one item leaves the others alone

Child ids are numbered by each backend subscription on its own, so an id says
nothing without the pump that returned it. `RemoveItem` keeps the ids of the
children it moved out together with their services, and looks the pumps up
again one by one; the cleanup in `BindRoutes` compares the address of the pump
it has asked. Either may find another pump than the one that returned the id,
unless no pump is dropped while it is in use.
-/

namespace ScadaCore.Scada

namespace Multiplexing

/-- Every `RemoveItems` call went to the pump that returned the id for the item
being removed, and so hits no child of another existing item. -/
def Isolated (m : Multiplexing) : Prop :=
  ∀ removal ∈ m.removals, removal.issuedTo = removal.returnedBy ∧
    ∀ itemId item, m.state.items.lookup itemId = some item → itemId ≠ removal.itemId →
      ∀ child ∈ item.children,
        ¬ (child.pump = removal.issuedTo ∧ child.childId = removal.childId)

def awaitedPump (call : BindRoutes) : Option PumpPtr :=
  match call.point with
  | .addItems pump => some pump
  | _ => none

/-- A backend subscription does not return an id twice. -/
abbrev FreshIds (m : Multiplexing) : Event → Prop :=
  Event.OnRun fun task choice =>
    ∀ call ∈ (m.tasks[task]?).bind Task.call, ∀ pump ∈ awaitedPump call,
      ∀ childId ∈ choice.answer, ∀ entry ∈ m.returned, entry.1 = pump.pump → entry.2.1 ≠ childId

/-- The pump that `RemoveItem` finds for a child is the one that returned it, and
a published pump at the address that the cleanup remembers is the pump it was
then. -/
def RemovesFromOwner (m : Multiplexing) : Event → Prop
  | .run task _ =>
    (∀ itemId child rest ptr, m.tasks[task]? = some (.removeChildren itemId (child :: rest)) →
      m.state.pumps.lookup child.service = some ptr → ptr.pump = child.pump) ∧
    (∀ call pump childId ptr, m.Calls task call → call.point = .removeOrphan pump childId →
      m.state.pumps.lookup call.route.service = some ptr → ptr.address = pump.address →
      ptr.pump = pump.pump)
  | _ => True

/-! ## The invariant -/

/-- The children a coroutine holds were returned for the item it works on. -/
structure Owns (returned : List (Pump × Nat × Nat)) (t : Task) : Prop where
  children : ∀ itemId children, t = .removeChildren itemId children →
    ∀ child ∈ children, (child.pump, child.childId, itemId) ∈ returned
  orphan : ∀ call, t.call = some call → ∀ pump childId, call.point = .removeOrphan pump childId →
    (pump.pump, childId, call.item) ∈ returned

structure RemovalInv (m : Multiplexing) : Prop where
  items : m.books.items.All fun itemId item =>
    ∀ child ∈ item.children, (child.pump, child.childId, itemId) ∈ m.books.returned
  tasks : ∀ t ∈ m.tasks, Owns m.returned t
  owner : ∀ pump childId itemId itemId', (pump, childId, itemId) ∈ m.books.returned →
    (pump, childId, itemId') ∈ m.books.returned → itemId = itemId'
  removals : ∀ removal ∈ m.books.removals, removal.issuedTo = removal.returnedBy ∧
    (removal.returnedBy, removal.childId, removal.itemId) ∈ m.books.returned

variable {m : Multiplexing} {e : Event} {b : Books} {childId : Nat}
    {returned : List (Pump × Nat × Nat)}

theorem RemovalInv.isolated (h : RemovalInv m) : m.Isolated := by
  intro removal hremoval
  rcases h.removals removal hremoval with ⟨hissued, hreturned⟩
  refine ⟨hissued, ?_⟩
  rintro itemId item hitem hne child hchild ⟨hpump, hid⟩
  -- the id belongs to one item only
  have hmine := h.items itemId item hitem child hchild
  rw [hpump, hid, hissued] at hmine
  exact hne (h.owner _ _ _ _ hmine hreturned)

theorem removalInv_init : RemovalInv {} := by
  refine ⟨Table.all_empty, ?_, ?_, ?_⟩
  · intro t ht
    cases ht
  · intro pump childId itemId itemId' hno
    cases hno
  · intro removal hno
    cases hno

/-! ### The books -/

theorem Effect.returned_mono (h : Effect m e b) {entry : Pump × Nat × Nat}
    (hentry : entry ∈ m.returned) : entry ∈ b.returned := by
  cases h with
  | bind | orphan => exact List.mem_cons_of_mem _ hentry
  | _ => exact hentry

theorem FreshIds.not_returned {task : Nat} {choice : Choice} (h : m.FreshIds (.run task choice))
    {call : BindRoutes} (hcall : m.Calls task call) {pump : PumpPtr}
    (hpoint : call.point = .addItems pump) (hanswer : choice.answer = some childId) (itemId : Nat) :
    (pump.pump, childId, itemId) ∉ m.returned := by
  rcases hcall with ⟨t, ht, hcall⟩
  intro hmem
  have hbind : (m.tasks[task]?).bind Task.call = some call := by rw [ht]; exact hcall
  have hpump : awaitedPump call = some pump := by rw [awaitedPump, hpoint]
  exact h call hbind pump hpump childId hanswer _ hmem rfl rfl

theorem owner_cons {pump : Pump} {itemId : Nat}
    (h : ∀ p k i j, (p, k, i) ∈ returned → (p, k, j) ∈ returned → i = j)
    (hnew : ∀ i, (pump, childId, i) ∉ returned) :
    ∀ p k i j, (p, k, i) ∈ (pump, childId, itemId) :: returned →
      (p, k, j) ∈ (pump, childId, itemId) :: returned → i = j := by
  intro p k i j hi hj
  rcases List.mem_cons.mp hi with hi | hi
  · cases hi
    rcases List.mem_cons.mp hj with hj | hj
    · cases hj
      rfl
    · exact absurd hj (hnew j)
  · rcases List.mem_cons.mp hj with hj | hj
    · cases hj
      exact absurd hi (hnew i)
    · exact h p k i j hi hj

theorem owner_effect (h : RemovalInv m) (hfresh : m.FreshIds e) (heffect : Effect m e b) :
    ∀ pump childId itemId itemId', (pump, childId, itemId) ∈ b.returned →
      (pump, childId, itemId') ∈ b.returned → itemId = itemId' := by
  cases heffect with
  | bind task choice call pump childId item hcall hpoint hanswer _ _
  | orphan task choice call pump childId hcall hpoint hanswer =>
    exact owner_cons h.owner fun i => hfresh.not_returned hcall hpoint hanswer i
  | _ => exact h.owner

theorem items_effect (h : m.books.items.All fun itemId item =>
      ∀ child ∈ item.children, (child.pump, child.childId, itemId) ∈ m.books.returned)
    (heffect : Effect m e b) :
    b.items.All fun itemId item =>
      ∀ child ∈ item.children, (child.pump, child.childId, itemId) ∈ b.returned := by
  intro itemId item hitem child hchild
  rcases heffect.children itemId item hitem child hchild with
    ⟨item', hitem', hold⟩ | ⟨task, choice, call, pump, -, -, -, -, -, -, hreturned⟩
  · exact heffect.returned_mono (h itemId item' hitem' child hold)
  · exact hreturned

theorem removals_concat {removals : List Removal}
    (h : ∀ removal ∈ removals, removal.issuedTo = removal.returnedBy ∧
      (removal.returnedBy, removal.childId, removal.itemId) ∈ returned) {new : Removal}
    (hissued : new.issuedTo = new.returnedBy)
    (hreturned : (new.returnedBy, new.childId, new.itemId) ∈ returned) :
    ∀ removal ∈ removals ++ [new], removal.issuedTo = removal.returnedBy ∧
      (removal.returnedBy, removal.childId, removal.itemId) ∈ returned := by
  intro removal hmem
  rcases List.mem_append.mp hmem with hold | hnew
  · exact h removal hold
  · rw [List.mem_singleton.mp hnew]
    exact ⟨hissued, hreturned⟩

theorem removals_effect (h : RemovalInv m) (hsafe : m.RemovesFromOwner e) (heffect : Effect m e b) :
    ∀ removal ∈ b.removals, removal.issuedTo = removal.returnedBy ∧
      (removal.returnedBy, removal.childId, removal.itemId) ∈ b.returned := by
  have hmono : ∀ removal ∈ m.removals, removal.issuedTo = removal.returnedBy ∧
      (removal.returnedBy, removal.childId, removal.itemId) ∈ b.returned := by
    intro removal hmem
    rcases h.removals removal hmem with ⟨hissued, hreturned⟩
    exact ⟨hissued, heffect.returned_mono hreturned⟩
  cases heffect with
  | removeOrphan task choice call pump published childId hcall hpoint hpublished haddress =>
    have hcall' := hcall
    rcases hcall with ⟨t, ht, hcall⟩
    exact removals_concat hmono (hsafe.2 call pump childId published hcall' hpoint hpublished
      haddress) ((h.tasks t (List.mem_of_getElem? ht)).orphan call hcall pump childId hpoint)
  | removeChild task choice itemId child rest pump htask hpump =>
    have howns := h.tasks _ (List.mem_of_getElem? htask)
    exact removals_concat hmono (hsafe.1 itemId child rest pump htask hpump)
      (howns.children itemId _ rfl child List.mem_cons_self)
  | _ => exact hmono

/-! ### The coroutines -/

theorem Owns.mono {returned' : List (Pump × Nat × Nat)} {t : Task} (h : Owns returned t)
    (hsub : ∀ entry ∈ returned, entry ∈ returned') : Owns returned' t :=
  ⟨fun itemId children ht child hchild => hsub _ (h.children itemId children ht child hchild),
    fun call hcall pump childId hpoint => hsub _ (h.orphan call hcall pump childId hpoint)⟩

theorem owns_of_starting {t : Task} (h : Starting t) : Owns returned t := by
  constructor
  · rintro itemId children rfl
    cases h
  · intro call hcall
    rw [Task.call_of_plain (plain_of_starting h)] at hcall
    cases hcall

theorem returned_of_bindMove_orphan {m' : Multiplexing} {call call' : BindRoutes} {choice : Choice}
    (hmove : BindMove m call choice m' (.inl call')) {pump : PumpPtr}
    (hpoint : call'.point = .removeOrphan pump childId) :
    (pump.pump, childId, call'.item) ∈ m'.returned := by
  rcases routeMove_of_bindMove hmove with hmoves | hroute
  · rw [(call_of_movesOn hmoves).2] at hpoint
    cases hpoint
  cases hroute with
  | orphan pump' childId' =>
    cases hpoint
    exact List.mem_cons_self
  | retry pumpId hretry =>
    rw [hretry] at hpoint
    cases hpoint
  | _ => cases hpoint

theorem owns_step (h : RemovalInv m) : ∀ t ∈ (m.step e).tasks, Owns (m.step e).returned t := by
  have hmono : ∀ entry ∈ m.returned, entry ∈ (m.step e).returned :=
    fun entry hentry => (m.step_effect e).returned_mono hentry
  intro t' ht'
  rcases mem_tasks_step ht' with hold | hstarting | ⟨task, choice, t, rfl, ht, rfl⟩
  · exact (h.tasks t' hold).mono hmono
  · exact owns_of_starting hstarting
  · have howns := h.tasks t (List.mem_of_getElem? ht)
    have hmove := stepTask_move m choice t
    constructor
    · intro itemId children heq child hchild
      apply hmono
      rcases children_of_taskMove hmove heq with ⟨item, hitem, rfl⟩ | ⟨child', rfl⟩
      · exact h.items itemId item hitem child hchild
      · exact howns.children itemId _ rfl child (List.mem_cons_of_mem _ hchild)
    · intro call' hcall' pump childId hpoint'
      rcases call_of_taskMove hmove hcall' with hhead | ⟨call, hcall, hbind⟩
      · rw [hhead] at hpoint'
        cases hpoint'
      · simp only [step, run, ht]
        exact returned_of_bindMove_orphan hbind hpoint'

/-! ## Runs -/

theorem removalInv_step (h : RemovalInv m) (hfresh : m.FreshIds e) (hsafe : m.RemovesFromOwner e) :
    RemovalInv (m.step e) := by
  have heffect := m.step_effect e
  constructor
  · exact items_effect h.items heffect
  · exact owns_step h
  · exact owner_effect h hfresh heffect
  · exact removals_effect h hsafe heffect

theorem not_isolated_of_concat {removals : List Removal} {new : Removal}
    (hbooks : m.books.removals = removals ++ [new]) (hne : new.issuedTo ≠ new.returnedBy) :
    ¬ m.Isolated := by
  intro hall
  have hmem : new ∈ m.books.removals := by
    rw [hbooks]
    exact List.mem_append_right _ (List.mem_singleton_self _)
  exact hne (hall new hmem).1

theorem not_isolated_of_stray (hstray : ¬ m.RemovesFromOwner e) : ¬ (m.step e).Isolated := by
  cases e with
  | run task choice =>
    rcases Classical.not_and_iff_not_or_not.mp hstray with hchild | horphan
    · push Not at hchild
      rcases hchild with ⟨itemId, child, rest, ptr, htask, hptr, hne⟩
      have hbooks : (m.step (.run task choice)).books.removals = m.removals ++
          [{ itemId, childId := child.childId, issuedTo := ptr.pump,
             returnedBy := child.pump }] := by
        simp only [step, run, htask, stepTask, stepRemoveChildren, hptr]
        rfl
      exact not_isolated_of_concat hbooks hne
    · push Not at horphan
      rcases horphan with ⟨call, pump, childId, ptr, hcall, hpoint, hptr, haddress, hne⟩
      have hbooks : (m.step (.run task choice)).books.removals = m.removals ++
          [{ itemId := call.item, childId, issuedTo := ptr.pump,
             returnedBy := pump.pump }] := by
        rw [books_run_of_calls hcall]
        simp only [stepBind, hpoint, hptr, if_pos haddress]
        rfl
      exact not_isolated_of_concat hbooks hne
  | _ => exact absurd trivial hstray

/-- **Removals are isolated** throughout a run if and only if every removal finds
the pump that returned the child. -/
theorem always_isolated_iff {es : List Event} (hfresh : system.Meets FreshIds es) :
    system.Always Isolated es ↔ system.Meets RemovesFromOwner es := by
  refine system.always_iff_meets_of RemovalInv _ _ _ removalInv_init ?_ ?_ ?_ hfresh
  · exact fun m h => h.isolated
  · exact fun m e h hfresh hsafe => removalInv_step h hfresh hsafe
  · exact fun m e _ _ hstray => not_isolated_of_stray hstray

/-- An item is added on backend 1 and removed again. -/
def removedRun : List Event :=
  .addItem {} :: runs 0 [{}, routedTo [1], {}] ++ runs 0 (bindNew 100 1) ++ runs 0 [{}] ++
    .removeItem 1 :: runs 1 [{}, {}, {}]

theorem always_isolated_iff_removedRun :
    system.Meets FreshIds removedRun ∧
      (system.Always Isolated removedRun ↔ system.Meets RemovesFromOwner removedRun) := by
  have hfresh : system.Meets FreshIds removedRun := by
    rw [Lts.System.meets_iff_meetsFrom]
    decide +kernel
  exact ⟨hfresh, always_isolated_iff hfresh⟩

/-- While an item of the backends 1 and 2 is being removed from backend 1, the
pump of backend 2 fails, and another item is added there. -/
def replacedPumpRun : List Event :=
  .addItem {} :: runs 0 [{}, routedTo [1, 2], {}] ++ runs 0 (bindNew 100 1) ++
    runs 0 (bindNew 101 1) ++ runs 0 [{}] ++ .removeItem 1 :: runs 1 [{}, {}] ++ pumpFails 2 2 ++
    .addItem {} :: runs 2 [{}, routedTo [2], {}] ++ runs 2 (bindNew 101 1) ++ runs 2 [{}] ++
    runs 1 [{}]

/-- The new pump of backend 2 is told to remove the child of the new item. -/
theorem not_always_isolated_replacedPumpRun :
    system.Meets FreshIds replacedPumpRun ∧ ¬ system.Always Isolated replacedPumpRun := by
  constructor
  · rw [Lts.System.meets_iff_meetsFrom]
    decide +kernel
  · intro halways
    have hlast := halways replacedPumpRun (List.prefix_refl _)
    have hremoval :
        ({ itemId := 1, childId := 1, issuedTo := { id := 3, service := 2 },
           returnedBy := { id := 2, service := 2 } } : Removal) ∈
          (system.run replacedPumpRun).removals := by
      decide +kernel
    have hitem : (system.run replacedPumpRun).state.items.lookup 2 = some
        { children := [{ service := 2, childId := 1, pump := { id := 3, service := 2 } }] } := by
      decide +kernel
    have hother := (hlast _ hremoval).2 2 _ hitem (by decide) _ List.mem_cons_self
    exact hother ⟨rfl, rfl⟩

/-! ## Pumps in use -/

/-- A pump is in use: an item has a child on it, or a coroutine has one to remove
there or is in a call with it. -/
inductive Uses (m : Multiplexing) : Nat → Pump → Prop where
  | item {itemId : Nat} {child : Child} (hchild : HasChild m.state.items itemId child) :
      Uses m child.service child.pump
  | removal {itemId : Nat} {children : List Child} {child : Child}
      (ht : .removeChildren itemId children ∈ m.tasks) (hchild : child ∈ children) :
      Uses m child.service child.pump
  | call {service : Nat} {ptr : PumpPtr} (hholds : m.Holds service ptr) : Uses m service ptr.pump

/-- The event drops no pump of an open subscription that is still in use. -/
def DropsUnused (m : Multiplexing) (e : Event) : Prop :=
  ∀ service ptr, m.state.pumps.lookup service = some ptr →
    (m.step e).state.pumps.lookup service = none → (m.step e).state.closed = false →
    ¬ (m.step e).Uses service ptr.pump

def UsesPublished (m : Multiplexing) : Prop :=
  ∀ service pump, m.Uses service pump → m.books.Published service pump

structure UseInv (m : Multiplexing) : Prop where
  published : m.state.closed = false → m.UsesPublished
  ended : m.state.closed = true → m.state.Ended

theorem useInv_init : UseInv {} := by
  refine ⟨?_, fun hno => by cases hno⟩
  rintro - service pump (⟨item, hno, -⟩ | ⟨hno, -⟩ | ⟨t, hno, -⟩) <;> cases hno

/-- An event leaves a backend the pump that it has, or takes it away. -/
theorem Effect.lookup_pumps (h : Effect m e b) {service : Nat} {ptr : PumpPtr}
    (hptr : m.state.pumps.lookup service = some ptr) :
    b.pumps.lookup service = some ptr ∨ b.pumps.lookup service = none := by
  cases h with
  | publish _ service' pumpId address hnone =>
    have hne : service ≠ service' := by
      rintro rfl
      rw [hnone] at hptr
      cases hptr
    exact Or.inl ((AList.lookup_insert_ne hne).trans hptr)
  | drop | fail => exact Table.lookup_erase_cases hptr _
  | close => exact Or.inr rfl
  | _ => exact Or.inl hptr

/-- A pump in use after an event was published before it, or is published by it. -/
theorem published_of_uses_step (h : m.UsesPublished) {service : Nat} {pump : Pump}
    (huses : (m.step e).Uses service pump) :
    m.books.Published service pump ∨ (m.step e).books.Published service pump := by
  cases huses with
  | item hchild =>
    left
    rcases hchild with ⟨item, hitem, hchild⟩
    rcases (m.step_effect e).children _ item hitem _ hchild with
      hold | ⟨task, choice, call, ptr, -, ⟨t, ht, hcall⟩, hpoint, -, hservice, hpump, -⟩
    · exact h _ _ (.item hold)
    · rw [← hpump]
      exact h _ _ (.call ⟨t, List.mem_of_getElem? ht, call, hcall, hservice, by rw [hpoint]; rfl⟩)
  | removal ht hchild =>
    left
    rcases mem_tasks_step ht with hold | hstarting | ⟨task, choice, t, rfl, ht, heq⟩
    · exact h _ _ (.removal hold hchild)
    · cases hstarting
    · rcases children_of_taskMove (stepTask_move m choice t) heq.symm with
        ⟨item, hitem, rfl⟩ | ⟨_, rfl⟩
      · exact h _ _ (.item ⟨item, hitem, hchild⟩)
      · exact h _ _ (.removal (List.mem_of_getElem? ht) (List.mem_cons_of_mem _ hchild))
  | call hholds =>
    rcases holds_step hholds with hold | hbefore | hafter
    · exact Or.inl (h _ _ (.call hold))
    · exact Or.inl ⟨_, hbefore, rfl⟩
    · exact Or.inr ⟨_, hafter, rfl⟩

theorem useInv_step (h : UseInv m) (hdrops : m.DropsUnused e) : UseInv (m.step e) := by
  refine ⟨?_, ended_step h.ended e⟩
  have heffect := m.step_effect e
  intro hopen service pump huses
  have hbefore := h.published (heffect.open_before hopen)
  rcases published_of_uses_step hbefore huses with ⟨ptr, hptr, rfl⟩ | hnow
  · rcases heffect.lookup_pumps hptr with hkept | hgone
    · exact ⟨ptr, hkept, rfl⟩
    · exact absurd huses (hdrops service ptr hptr hgone hopen)
  · exact hnow

theorem UseInv.pump_eq (h : UseInv m) {service : Nat} {pump : Pump} (huses : m.Uses service pump)
    {ptr : PumpPtr} (hptr : m.state.pumps.lookup service = some ptr) : ptr.pump = pump := by
  cases hclosed : m.state.closed with
  | true => simp [(h.ended hclosed).pumps] at hptr
  | false =>
    rcases h.published hclosed service pump huses with ⟨ptr', hptr', heq⟩
    cases hptr.symm.trans hptr'
    exact heq

/-- **Removals find the pump that returned the child** in a run that drops no pump
in use. -/
theorem meets_removesFromOwner {es : List Event} (h : system.Meets DropsUnused es) :
    system.Meets RemovesFromOwner es := by
  intro pre e hpre
  have hinv : UseInv (system.run pre) := by
    refine system.invariant_of_meets UseInv DropsUnused useInv_init ?_ ?_
    · exact fun m e hm hdrops => useInv_step hm hdrops
    · exact system.meets_of_prefix h ((List.prefix_append _ _).trans hpre)
  cases e with
  | run task choice =>
    constructor
    · intro itemId child rest ptr ht hptr
      exact hinv.pump_eq (.removal (List.mem_of_getElem? ht) List.mem_cons_self) hptr
    · rintro call pump childId ptr ⟨t, ht, hcall⟩ hpoint hptr -
      refine hinv.pump_eq (.call ⟨t, List.mem_of_getElem? ht, call, hcall, rfl, ?_⟩) hptr
      rw [hpoint]
      rfl
  | _ => trivial

end Multiplexing

end ScadaCore.Scada
