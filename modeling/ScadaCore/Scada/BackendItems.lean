import ScadaCore.Scada.Attribution
import ScadaCore.Scada.PumpCustody
import ScadaCore.Scada.Removals

/-!
# Scada.BackendItems — no backend keeps an item that nobody wants

A backend has an item from the moment its `AddItems` returns a child id until it is
told to remove it, or until its pump is closed. The subscription therefore has to
keep track of every child id: it is recorded in the item, it has been passed to
`RemoveItems`, or a coroutine has taken it over, `RemoveItem` with the children of
an item and `BindRoutes` with a child that came too late (`Tracked`). The coroutines
find the pump they have to tell, since a pump that is still open is the published
one (`KnownPump.published`).

There is one place where children get lost: `AddItem` assigns to `items` without
looking whether the id is in use. It can be, as the counter of ids has 32 bits.
-/

namespace ScadaCore.Scada

open AList

namespace HasChild

variable {items : Table Nat Item} {itemId : Nat} {child : Child}

theorem insert (h : HasChild items itemId child) {key : Nat} {item : Item}
    (hkept : itemId = key → child ∈ item.children) :
    HasChild (insert key item items) itemId child := by
  by_cases heq : itemId = key
  · subst heq
    exact ⟨item, lookup_insert items, hkept rfl⟩
  · obtain ⟨item', hitem', hchild⟩ := h
    exact ⟨item', (lookup_insert_ne heq).trans hitem', hchild⟩

theorem erase (h : HasChild items itemId child) {key : Nat} (hne : itemId ≠ key) :
    HasChild (erase key items) itemId child := by
  obtain ⟨item, hitem, hchild⟩ := h
  exact ⟨item, (lookup_erase_ne hne).trans hitem, hchild⟩

theorem of_lookup (h : HasChild items itemId child) {item : Item}
    (hitem : items.lookup itemId = some item) : child ∈ item.children := by
  obtain ⟨item', hitem', hchild⟩ := h
  rw [hitem] at hitem'
  cases hitem'
  exact hchild

end HasChild

def Pump.child (pump : Pump) (childId : Nat) : Child := { service := pump.service, childId, pump }

def Task.owes (t : Task) (pump : Pump) (childId itemId : Nat) : Prop :=
  (∃ children, t = .removeChildren itemId children ∧ pump.child childId ∈ children) ∨
    ∃ call ptr, t.call = some call ∧ call.item = itemId ∧
      call.point = .removeOrphan ptr childId ∧ ptr.pump = pump

namespace Multiplexing

variable (m : Multiplexing)

def Recorded (pump : Pump) (childId itemId : Nat) : Prop :=
  HasChild m.state.items itemId (pump.child childId)

def RemovedFrom (pump : Pump) (childId itemId : Nat) : Prop :=
  ∃ removal ∈ m.removals,
    removal.itemId = itemId ∧ removal.childId = childId ∧ removal.issuedTo = pump

def Owed (pump : Pump) (childId itemId : Nat) : Prop :=
  ∃ t ∈ m.tasks, t.owes pump childId itemId

/-- Every child that an open pump has returned is recorded, has been removed, or is
about to be. -/
def Tracked : Prop :=
  ∀ pump childId itemId, (pump, childId, itemId) ∈ m.returned → m.IsOpen pump →
    m.Recorded pump childId itemId ∨ m.RemovedFrom pump childId itemId ∨
      m.Owed pump childId itemId

/-- While no coroutine binds routes or removes children, every child that an open pump
has returned for an item is recorded in that item, and in another one only if it was
returned for that one too, or it has been passed to `RemoveItems` on the pump. -/
def NoLeak : Prop :=
  (∀ t ∈ m.tasks, t.plain = true) →
    ∀ pump childId itemId, (pump, childId, itemId) ∈ m.returned → m.IsOpen pump →
      (m.Recorded pump childId itemId ∧
        ∀ itemId', m.Recorded pump childId itemId' → (pump, childId, itemId') ∈ m.returned) ∨
      m.RemovedFrom pump childId itemId

/-- A new item takes the place of no item with a child that an open pump has, unless
that child has been removed or is about to be. -/
def KeepsChildren : Event → Prop
  | .run task _ => ∀ request routes consultedAt,
      m.tasks[task]? = some (.addItemCreate request routes consultedAt) →
      m.state.closed = false →
      ∀ child, HasChild m.state.items m.state.nextItemId child → m.IsOpen child.pump →
        m.RemovedFrom child.pump child.childId m.state.nextItemId ∨
          m.Owed child.pump child.childId m.state.nextItemId
  | _ => True

/-! ## What becomes of a child -/

section Step

variable {m m' : Multiplexing} {e : Event} {task : Nat} {choice : Choice} {t t' : Task}
  {pump : Pump} {childId itemId : Nat}

theorem mem_set_task (ht : m.tasks[task]? = some t) (t' : Task) : t' ∈ m.tasks.set task t' :=
  List.mem_set (List.getElem?_eq_some_iff.mp ht).1 t'

/-- A recorded child stays recorded through the moves of a coroutine, it is taken over
by `RemoveItem`, or its item is replaced. -/
theorem recorded_of_taskMove (hrecorded : m.Recorded pump childId itemId)
    (hmove : TaskMove m choice t m' t') :
    m'.Recorded pump childId itemId ∨ t'.owes pump childId itemId ∨
      itemId = m.state.nextItemId ∧ m.state.closed = false ∧
        ∃ request routes consultedAt, t = .addItemCreate request routes consultedAt := by
  have hbound : ∀ {m' : Multiplexing} {call : BindRoutes} {outcome : BindRoutes.Outcome},
      BindMove m call choice m' outcome → m'.Recorded pump childId itemId := by
    intro m' call outcome hbind
    cases hbind with
    | record ptr childId' item _ _ _ hitem =>
      refine hrecorded.insert ?_
      rintro rfl
      exact List.mem_append_left _ (hrecorded.of_lookup hitem)
    | _ => exact hrecorded
  cases hmove with
  | create request routes consultedAt hopen =>
    -- the entry is assigned, whether or not the id is in use
    by_cases heq : itemId = m.state.nextItemId
    · exact Or.inr (Or.inr ⟨heq, hopen, request, routes, consultedAt, rfl⟩)
    · exact Or.inl (hrecorded.insert fun hno => absurd hno heq)
  | discard request itemId' item hitem hempty =>
    -- `AddItem` gives up an item only if it has no children
    refine Or.inl (hrecorded.erase ?_)
    rintro rfl
    have hchild := hrecorded.of_lookup hitem
    rw [hempty] at hchild
    cases hchild
  | remove itemId' item hitem =>
    by_cases heq : itemId = itemId'
    · subst heq
      exact Or.inr (Or.inl (Or.inl ⟨item.children, rfl, hrecorded.of_lookup hitem⟩))
    · exact Or.inl (hrecorded.erase heq)
  | write itemId' allBound consultedAt rest item hitem =>
    refine Or.inl (hrecorded.insert ?_)
    rintro rfl
    have hchild := hrecorded.of_lookup hitem
    exact hchild
  | addItemBind request call _ outcome hbind
  | rebindBind call rest _ outcome hbind => exact Or.inl (hbound hbind)
  | _ => exact Or.inl hrecorded

theorem removedFrom_step (h : m.RemovedFrom pump childId itemId) (e : Event) :
    (m.step e).RemovedFrom pump childId itemId := by
  obtain ⟨removal, hmem, hwhat⟩ := h
  refine ⟨removal, ?_, hwhat⟩
  have heffect := m.step_effect e
  change removal ∈ (m.step e).books.removals
  generalize (m.step e).books = books at heffect ⊢
  cases heffect with
  | removeOrphan | removeChild => exact List.mem_append_left _ hmem
  | _ => exact hmem

theorem removedFrom_concat {removals : List Removal} {removal : Removal}
    (hremovals : m'.removals = removals ++ [removal]) (hitem : removal.itemId = itemId)
    (hchild : removal.childId = childId) (hpump : removal.issuedTo = pump) :
    m'.RemovedFrom pump childId itemId := by
  refine ⟨removal, ?_, hitem, hchild, hpump⟩
  rw [hremovals]
  exact List.mem_append_right _ (List.mem_singleton_self _)

/-- A coroutine that has taken over a child holds on to it until it has passed it to
the published pump. -/
theorem owes_of_taskMove (howes : t.owes pump childId itemId) {ptr : PumpPtr}
    (hptr : ptr.pump = pump) (hpublished : m.state.pumps.lookup pump.service = some ptr)
    (haimed : ∀ call, t.call = some call → Aimed call)
    (hhands : ∀ call, t.call = some call → ∀ ptr', call.point.pump = some ptr' →
      ptr'.pump = pump → ptr' = ptr)
    (hmove : TaskMove m choice t m' t') :
    t'.owes pump childId itemId ∨ m'.RemovedFrom pump childId itemId := by
  have hplain : t.plain ≠ true := by
    intro hplain
    rcases howes with ⟨children, rfl, -⟩ | ⟨call, -, hcall, -⟩
    · cases hplain
    · rw [Task.call_of_plain hplain] at hcall
      cases hcall
  -- the cleanup of `BindRoutes` finds the pump by its address
  have hbound : ∀ {m' : Multiplexing} {call : BindRoutes} {outcome : BindRoutes.Outcome},
      t.call = some call → BindMove m call choice m' outcome →
        (∃ call' ptr', t.call = some call' ∧ call'.item = itemId ∧
          call'.point = .removeOrphan ptr' childId ∧ ptr'.pump = pump) →
        m'.RemovedFrom pump childId itemId := by
    rintro m' call outcome hcall hbind ⟨call', ptr', hcall', hitem, hpoint, hpump⟩
    rw [hcall] at hcall'
    cases hcall'
    have hhand : call.point.pump = some ptr' := by
      rw [hpoint]
      rfl
    have hservice : call.route.service = pump.service := by
      rw [← hpump, haimed call hcall ptr' hhand]
    have hsame : ptr' = ptr := hhands call hcall ptr' hhand hpump
    cases hbind with
    | removeOrphan ptr'' published childId' hpoint' hpublished' haddress =>
      rw [hpoint] at hpoint'
      cases hpoint'
      rw [hservice, hpublished] at hpublished'
      cases hpublished'
      exact removedFrom_concat rfl hitem rfl hptr
    | forgetOrphan ptr'' childId' hpoint' hgone =>
      rw [hpoint] at hpoint'
      cases hpoint'
      rw [hservice] at hgone
      exact absurd (congrArg PumpPtr.address hsame.symm) (hgone ptr hpublished)
    | skip _ hpoint' => simp [hpoint] at hpoint'
    | _ => simp_all only [reduceCtorEq]
  cases hmove with
  | goOn _ _ hno | pace _ _ _ _ hno => exact absurd hno hplain
  | skipChild itemId' child rest hnone =>
    rcases howes with ⟨children, heq, hmem⟩ | ⟨call, -, hno, -⟩
    · cases heq
      rcases List.mem_cons.mp hmem with rfl | hrest
      · exact absurd hnone (by simp [Pump.child, hpublished])
      · exact Or.inl (Or.inl ⟨rest, rfl, hrest⟩)
    · cases hno
  | removeChild itemId' child rest published hpublished' =>
    rcases howes with ⟨children, heq, hmem⟩ | ⟨call, -, hno, -⟩
    · cases heq
      rcases List.mem_cons.mp hmem with rfl | hrest
      · right
        have hsame : m.state.pumps.lookup pump.service = some published := hpublished'
        rw [hpublished] at hsame
        cases hsame
        exact removedFrom_concat rfl rfl rfl hptr
      · exact Or.inl (Or.inl ⟨rest, rfl, hrest⟩)
    · cases hno
  | addItemBind request call _ outcome hbind | rebindBind call rest _ outcome hbind =>
    rcases howes with ⟨children, hno, -⟩ | horphan
    · cases hno
    · exact Or.inr (hbound rfl hbind horphan)
  | removed itemId' =>
    rcases howes with ⟨children, heq, hmem⟩ | ⟨call, -, hno, -⟩
    · cases heq
      cases hmem
    · cases hno
  | _ => exact absurd rfl hplain

/-- An answer with a child id is recorded, or `BindRoutes` has the child in hand. -/
theorem returned_of_bindMove {call : BindRoutes} {outcome : BindRoutes.Outcome}
    (haimed : Aimed call) (hmove : BindMove m call choice m' outcome)
    (hmem : (pump, childId, itemId) ∈ m'.returned) :
    (pump, childId, itemId) ∈ m.returned ∨ m'.Recorded pump childId itemId ∨
      ∃ call' ptr, outcome = .inl call' ∧ call'.item = itemId ∧
        call'.point = .removeOrphan ptr childId ∧ ptr.pump = pump := by
  cases hmove with
  | record ptr childId' item hpoint =>
    rcases List.mem_cons.mp hmem with heq | hold
    · right
      left
      cases heq
      have hservice := haimed ptr (by rw [hpoint]; rfl)
      refine ⟨_, lookup_insert _, List.mem_append_right _ ?_⟩
      rw [List.mem_singleton, Pump.child, hservice]
    · exact Or.inl hold
  | orphan ptr childId' hpoint =>
    rcases List.mem_cons.mp hmem with heq | hold
    · cases heq
      exact Or.inr (Or.inr ⟨_, ptr, rfl, rfl, rfl, rfl⟩)
    · exact Or.inl hold
  | _ => exact Or.inl hmem

theorem returned_of_taskMove (haimed : ∀ call, t.call = some call → Aimed call)
    (hmove : TaskMove m choice t m' t') (hmem : (pump, childId, itemId) ∈ m'.returned) :
    (pump, childId, itemId) ∈ m.returned ∨ m'.Recorded pump childId itemId ∨
      t'.owes pump childId itemId := by
  cases hmove with
  | addItemBind request call _ outcome hbind | rebindBind call rest _ outcome hbind =>
    rcases returned_of_bindMove (haimed call rfl) hbind hmem with
      hold | hrecorded | ⟨call', ptr, rfl, howes⟩
    · exact Or.inl hold
    · exact Or.inr (Or.inl hrecorded)
    · exact Or.inr (Or.inr (Or.inr ⟨call', ptr, rfl, howes⟩))
  | _ => exact Or.inl hmem

end Step

/-! ## Steps of the subscription -/

section Steps

variable {m} {pump : Pump} {childId itemId : Nat}

theorem returned_step_of_new (h : CustodyInv m) (e : Event)
    (hmem : (pump, childId, itemId) ∈ (m.step e).returned) :
    (pump, childId, itemId) ∈ m.returned ∨ (m.step e).Recorded pump childId itemId ∨
      (m.step e).Owed pump childId itemId := by
  have hmove := m.step_move e
  generalize m.step e = m' at hmem hmove ⊢
  cases hmove with
  | run task choice t ht =>
    rcases returned_of_taskMove (h.aimed t (List.mem_of_getElem? ht)) (stepTask_move m choice t)
      hmem with hold | hrecorded | howes
    · exact Or.inl hold
    · exact Or.inr (Or.inl hrecorded)
    · exact Or.inr (Or.inr ⟨_, mem_set_task ht _, howes⟩)
  | _ => exact Or.inl hmem

theorem owed_step (h : CustodyInv m) (e : Event) {ptr : PumpPtr} (hknown : m.KnownPump ptr)
    (hopen : m.IsOpen ptr.pump) (howed : m.Owed ptr.pump childId itemId) :
    (m.step e).RemovedFrom ptr.pump childId itemId ∨ (m.step e).Owed ptr.pump childId itemId := by
  have hpublished := hknown.published hopen
  obtain ⟨t, hmem, howes⟩ := howed
  obtain ⟨task, ht⟩ := List.mem_iff_getElem?.mp hmem
  rcases getElem?_tasks_step ht e with ⟨choice, rfl, -⟩ | ⟨-, hstays⟩
  swap
  · exact Or.inr ⟨t, List.mem_of_getElem? hstays, howes⟩
  have hhands : ∀ call, t.call = some call → ∀ ptr', call.point.pump = some ptr' →
      ptr'.pump = ptr.pump → ptr' = ptr := by
    intro call hcall ptr' hptr' hsame
    have hpublished' := (h.hands t hmem call hcall ptr' hptr').published (hsame ▸ hopen)
    rw [hsame, hpublished] at hpublished'
    exact (Option.some.inj hpublished').symm
  obtain ⟨m', t', hmove, heq⟩ := run_move ht choice
  rw [heq]
  rcases owes_of_taskMove howes rfl hpublished (h.aimed t hmem) hhands hmove with
    howes' | hremoved
  · exact Or.inr ⟨t', mem_set_task ht t', howes'⟩
  · exact Or.inl hremoved

/-- A child of an open pump that is recorded stays so, or is tracked in another way. -/
theorem recorded_step (h : CustodyInv m) {e : Event} (hkeeps : m.KeepsChildren e) {ptr : PumpPtr}
    (hknown : m.KnownPump ptr) (hopen : m.IsOpen ptr.pump) (hopen' : (m.step e).IsOpen ptr.pump)
    (hrecorded : m.Recorded ptr.pump childId itemId) :
    (m.step e).Recorded ptr.pump childId itemId ∨ (m.step e).RemovedFrom ptr.pump childId itemId ∨
      (m.step e).Owed ptr.pump childId itemId := by
  have hpublished' := (h.known_step e hknown).published hopen'
  have hmove := m.step_move e
  generalize hstep : m.step e = m' at hpublished' hmove ⊢
  cases hmove with
  | run task choice t ht =>
    rcases recorded_of_taskMove hrecorded (stepTask_move m choice t) with
      hstays | howes | ⟨rfl, hclosed, request, routes, consultedAt, rfl⟩
    · exact Or.inl hstays
    · exact Or.inr (Or.inr ⟨_, mem_set_task ht _, howes⟩)
    · -- the item is replaced
      rw [← hstep]
      rcases hkeeps request routes consultedAt ht hclosed _ hrecorded hopen with hremoved | howed
      · exact Or.inr (Or.inl (removedFrom_step hremoved _))
      · exact Or.inr (owed_step h _ hknown hopen howed)
  | fail handler pump' status _ hposted haccepted hdropped =>
    left
    subst hdropped
    have hne : ptr.pump.service ≠ pump'.service := by
      intro hservice
      have hnone : (erase pump'.service m.state.pumps).lookup ptr.pump.service =
          some ptr := hpublished'
      rw [hservice, lookup_erase] at hnone
      cases hnone
    obtain ⟨item, hitem, hchild⟩ := hrecorded
    refine ⟨State.loseBackend pump'.service m.failures item, ?_, ?_⟩
    · show (m.state.items.mapValues _).lookup itemId = _
      rw [Table.lookup_mapValues, hitem]
      rfl
    · unfold State.loseBackend
      split
      · exact List.mem_filter.mpr ⟨hchild, by simpa [Pump.child] using hne⟩
      · exact hchild
  | close status =>
    have hnone : (∅ : Table Nat PumpPtr).lookup ptr.pump.service = some ptr := hpublished'
    rw [lookup_empty] at hnone
    cases hnone
  | rehash items hperm =>
    obtain ⟨item, hitem, hchild⟩ := hrecorded
    exact Or.inl ⟨item, (perm_lookup hperm).trans hitem, hchild⟩
  | _ => exact Or.inl hrecorded

theorem tracked_step (h : CustodyInv m) (htracked : m.Tracked) {e : Event}
    (hkeeps : m.KeepsChildren e) : (m.step e).Tracked := by
  intro pump childId itemId hmem hopen'
  rcases returned_step_of_new h e hmem with hold | hrecorded | howed
  · obtain ⟨ptr, hptr, hknown⟩ := h.returned _ hold
    dsimp only at hptr
    subst hptr
    have hopen := h.open_before e hknown hopen'
    rcases htracked _ childId itemId hold hopen with hrecorded | hremoved | howed
    · exact recorded_step h hkeeps hknown hopen hopen' hrecorded
    · exact Or.inr (Or.inl (removedFrom_step hremoved e))
    · exact Or.inr (owed_step h e hknown hopen howed)
  · exact Or.inl hrecorded
  · exact Or.inr (Or.inr howed)

end Steps

/-! ## Runs -/

structure ItemInv (m : Multiplexing) : Prop where
  custody : CustodyInv m
  children : m.books.items.All fun itemId item =>
    ∀ child ∈ item.children, (child.pump, child.childId, itemId) ∈ m.books.returned
  tracked : m.Tracked

theorem itemInv_init : ItemInv {} :=
  ⟨custodyInv_init, Table.all_empty, by intro pump childId itemId hno; cases hno⟩

theorem itemInv_step {m : Multiplexing} {e : Event} (h : ItemInv m) (hkeeps : m.KeepsChildren e) :
    ItemInv (m.step e) :=
  ⟨h.custody.step e, items_effect h.children (m.step_effect e),
    tracked_step h.custody h.tracked hkeeps⟩

theorem not_owes_of_plain {t : Task} (h : t.plain = true) (pump : Pump) (childId itemId : Nat) :
    ¬ t.owes pump childId itemId := by
  rintro (⟨children, rfl, -⟩ | ⟨call, ptr, hcall, -⟩)
  · cases h
  · rw [Task.call_of_plain h] at hcall
    cases hcall

theorem noLeak_of_tracked {m : Multiplexing}
    (hchildren : m.books.items.All fun itemId item =>
      ∀ child ∈ item.children, (child.pump, child.childId, itemId) ∈ m.books.returned)
    (htracked : m.Tracked) : m.NoLeak := by
  intro hplain pump childId itemId hmem hopen
  rcases htracked pump childId itemId hmem hopen with hrecorded | hremoved | ⟨t, ht, howes⟩
  · refine Or.inl ⟨hrecorded, ?_⟩
    rintro itemId' ⟨item, hitem, hchild⟩
    exact hchildren itemId' item hitem _ hchild
  · exact Or.inr hremoved
  · exact absurd howes (not_owes_of_plain (hplain t ht) pump childId itemId)

theorem not_tracked_of_replaced {m : Multiplexing} {e : Event} (h : ItemInv m)
    (hlost : ¬ m.KeepsChildren e) : ¬ (m.step e).Tracked := by
  cases e with
  | run task choice =>
    unfold KeepsChildren at hlost
    push Not at hlost
    obtain ⟨request, routes, consultedAt, ht, hclosed, child, hchild, hopen, hremoved, howed⟩ :=
      hlost
    have hstep : m.step (.run task choice) =
        { m with
          state := { m.state with
            nextItemId := (m.state.nextItemId + 1) % 2 ^ 32
            items := m.state.items.insert m.state.nextItemId
              { clientHandle := request.clientHandle, valueId := request.itemToMonitor } }
          tasks := m.tasks.set task (addItemBound request m.state.nextItemId
            (BindRoutes.start m.state.nextItemId routes consultedAt)) } := by
      simp [step, run, ht, stepTask, stepAddItemCreate, hclosed]
    rw [hstep]
    intro htracked
    obtain ⟨item, hitem, hmem⟩ := hchild
    have hreturned := h.children _ item hitem child hmem
    rcases htracked child.pump child.childId _ hreturned hopen with
      hrecorded | hremoved' | ⟨t, ht', howes⟩
    · -- the new item has no children
      have hnone := hrecorded.of_lookup (lookup_insert _)
      cases hnone
    · exact hremoved hremoved'
    · rcases List.mem_or_eq_of_mem_set ht' with hold | rfl
      · exact howed ⟨t, hold, howes⟩
      · rcases howes with ⟨children, heq, -⟩ | ⟨call, ptr, hcall, -, hpoint, -⟩
        · exact addItemBound_ne request _ _ _ _ heq
        · rw [call_addItemBound, Sum.getLeft?_eq_some_iff] at hcall
          rw [start_head hcall] at hpoint
          cases hpoint
  | _ => exact absurd trivial hlost

/-- As long as the counter has not come round, a new item takes the place of none. -/
theorem keepsChildren_of_few {es : List Event}
    (hfew : (system.collect allocations es).length < 2 ^ 32) : system.Meets KeepsChildren es := by
  intro pre e hpre
  cases e with
  | run task choice =>
    intro request routes consultedAt ht hclosed child hchild
    exfalso
    obtain ⟨item, hitem, -⟩ := hchild
    have haccounted := Accounted.run pre
    obtain ⟨a, ha, haid, -⟩ := haccounted.items _ item hitem
    -- the id would be allocated twice
    have hafter := Accounted.run (pre ++ [.run task choice])
    have hprefix := system.collect_prefix allocations hpre
    have hnodup := hafter.nodup (Nat.lt_of_le_of_lt hprefix.length_le hfew)
    have hnew : allocations (system.run pre) (.run task choice) =
        [{ call := task, request, itemId := (system.run pre).state.nextItemId }] := by
      simp [allocations, ht, hclosed]
    rw [Lts.System.collect_concat, hnew, List.map_append, List.nodup_append] at hnodup
    exact hnodup.2.2 a.itemId (List.mem_map_of_mem ha) _ (List.mem_singleton_self _) haid
  | _ => trivial

theorem ended_run (es : List Event) (h : (system.run es).state.closed = true) :
    (system.run es).state.Ended :=
  system.invariant (fun m => m.state.closed = true → m.state.Ended) (fun hno => by cases hno)
    (fun _ e h => ended_step h e) es h

/-- **Backend items are tracked** throughout a run if and only if no new item takes the
place of an item whose children an open pump still has. Where they are tracked, there
is no leak while no operation is under way, and they are tracked where fewer than 2^32
items are made. In any run, after `Close`, every pump that was ever published is
closed. -/
theorem always_tracked_iff (es : List Event) :
    (system.Always Tracked es ↔ system.Meets KeepsChildren es) ∧
      (system.Always Tracked es → system.Always NoLeak es) ∧
      ((system.collect allocations es).length < 2 ^ 32 → system.Always Tracked es) ∧
      ∀ pre, pre <+: es → ∀ service ptr,
        (system.run pre).state.pumps.lookup service = some ptr →
        (system.run es).state.closed = true → ¬ (system.run es).IsOpen ptr.pump := by
  have hiff : system.Always Tracked es ↔ system.Meets KeepsChildren es := by
    refine system.always_iff_meets ItemInv _ _ itemInv_init (fun _ h => h.tracked) ?_ ?_ es
    · exact fun m e h hkeeps => itemInv_step h hkeeps
    · exact fun m e h hlost => not_tracked_of_replaced h hlost
  refine ⟨hiff, ?_, fun hfew => hiff.mpr (keepsChildren_of_few hfew), ?_⟩
  · intro htracked pre hpre
    have hmeets := system.meets_of_prefix (hiff.mp htracked) hpre
    have hinv : ItemInv (system.run pre) :=
      system.invariant_of_meets ItemInv KeepsChildren itemInv_init
        (fun m e h hkeeps => itemInv_step h hkeeps) hmeets
    exact noLeak_of_tracked hinv.children hinv.tracked
  · intro pre hpre service ptr hpublished hclosed hopen
    have hlookup := (known_of_published hpre hpublished).published hopen
    rw [(ended_run es hclosed).pumps, lookup_empty] at hlookup
    cases hlookup

/-! ## The counter comes round -/

def servingPump : PumpPtr := { pump := { id := 1, service := 1 }, address := 100 }

def servingPumps : Table Nat PumpPtr := AList.insert 1 servingPump ∅

@[simp] theorem lookup_servingPumps : servingPumps.lookup 1 = some servingPump := rfl

variable (items : Table Nat Item) (nextItemId : Nat)

def serving (tasks : List Task) : Multiplexing where
  state := {
    nextItemId
    items
    pumps := servingPumps
    pumpIds := Function.update (fun _ => 0) 1 1
    nextPumpId := 2 }
  heap := [servingPump]
  tasks
  returned := [(servingPump.pump, 1, 1)]

def servedItems : Table Nat Item := AList.insert 1 { children := [servingPump.pump.child 1] } ∅

/-- An item is added on backend 1. -/
def servedRun : List Event :=
  .addItem {} :: runs 0 [{}, routedTo [1], {}] ++ runs 0 (bindNew 100 1) ++ runs 0 [{}]

/-- Another item is to be added there, by the coroutine `task`, up to the answer of the
backend. -/
def askRun (task : Nat) : List Event := .addItem {} :: runs task [{}, routedTo [1], {}, {}, {}]

/-- The same with the answer, and the end of `AddItem`. -/
def answerRun (task : Nat) (answer : Option Nat) : List Event :=
  askRun task ++ runs task [{ answer }, {}]

/-- After the first item, so many are refused by the backend. -/
def refusedRun (count : Nat) : List Event :=
  servedRun ++ (List.range count).flatMap fun k => answerRun (k + 1) none

/-- An item is added, all the other ids are given to items that the backend refuses, and
then one more item is added. -/
def wrappedRun : List Event := refusedRun (2 ^ 32 - 1) ++ answerRun (2 ^ 32) (some 2)

theorem run_servedRun : system.run servedRun = serving servedItems 2
    [.added { itemId := 1, status := StatusCode.good }] := rfl

def asking (itemId : Nat) : BindRoutes where
  item := itemId
  route := { service := 1 }
  rest := []
  point := .addItems servingPump
  consultedAt := 0

theorem runFrom_askRun (tasks : List Task) :
    system.runFrom (serving items nextItemId tasks) (askRun tasks.length) =
      serving (items.insert nextItemId {}) ((nextItemId + 1) % 2 ^ 32)
        (tasks ++ [.addItemBind {} (asking nextItemId)]) := by
  have hlookup : (items.insert nextItemId ({} : Item)).lookup nextItemId = some {} :=
    lookup_insert items
  simp [askRun, runs, system, step, run, serving, stepTask, routedTo, stepAddItemCreate,
    addItemBound, BindRoutes.start, stepBind, hlookup, Item.boundTo, BindRoutes.goTo, asking]

theorem runFrom_refused (h : nextItemId ≠ 1) (tasks : List Task) :
    system.runFrom (serving servedItems nextItemId tasks) (answerRun tasks.length none) =
      serving servedItems ((nextItemId + 1) % 2 ^ 32)
        (tasks ++ [refused {} (noServiceStatus {})]) := by
  have hlookup : (servedItems.insert nextItemId ({} : Item)).lookup nextItemId = some {} :=
    lookup_insert servedItems
  have hnew : servedItems.lookup nextItemId = none := lookup_insert_ne h
  have herase : (servedItems.insert nextItemId ({} : Item)).erase nextItemId = servedItems :=
    Table.erase_insert_of_lookup_eq_none hnew {}
  have hcarries : ∀ state : State, state.items = servedItems.insert nextItemId {} →
      state.carriesItemsLocked 1 = true := by
    intro state hitems
    refine List.any_eq_true.mpr ⟨{ children := [servingPump.pump.child 1] }, ?_, rfl⟩
    rw [hitems, Table.mem_values_iff]
    exact ⟨1, (lookup_insert_ne (Ne.symm h)).trans (lookup_insert _)⟩
  rw [answerRun, Lts.System.runFrom_append, runFrom_askRun]
  simp [runs, system, step, run, serving, stepTask, stepBind, asking, record,
    hcarries, BindRoutes.giveUp, BindRoutes.next, addItemBound,
    stepAddItemFinish, hlookup, eraseItem, herase]

theorem runFrom_added (tasks : List Task) :
    system.runFrom (serving servedItems nextItemId tasks) (answerRun tasks.length (some 2)) =
      { serving ((servedItems.insert nextItemId {}).insert nextItemId
            { children := [servingPump.pump.child 2] }) ((nextItemId + 1) % 2 ^ 32)
          (tasks ++ [.added { itemId := UInt32.ofNat nextItemId, status := StatusCode.good }]) with
        returned := [(servingPump.pump, 2, nextItemId), (servingPump.pump, 1, 1)] } := by
  have hlookup : (servedItems.insert nextItemId ({} : Item)).lookup nextItemId = some {} :=
    lookup_insert servedItems
  rw [answerRun, Lts.System.runFrom_append, runFrom_askRun]
  simp [runs, system, step, run, serving, stepTask, stepBind, asking, record, hlookup,
    noteReturned, setItem, addChild, BindRoutes.next, addItemBound, stepAddItemFinish, Pump.child,
    servingPump]

/-- All that time, nothing is left of the items that are refused. -/
theorem run_refusedRun (count : Nat) (h : count ≤ 2 ^ 32 - 1) :
    ∃ tasks, tasks.length = count + 1 ∧ (∀ t ∈ tasks, t.plain = true) ∧
      system.run (refusedRun count) = serving servedItems ((count + 2) % 2 ^ 32) tasks := by
  induction count with
  | zero => exact ⟨_, rfl, by simp [Task.plain], run_servedRun⟩
  | succ count ih =>
    obtain ⟨tasks, hlength, hplain, hrun⟩ := ih (by omega)
    have hnext : (count + 2) % 2 ^ 32 ≠ 1 := by omega
    refine ⟨tasks ++ [refused {} (noServiceStatus {})], by simp [hlength], ?_, ?_⟩
    · exact List.forall_mem_append.mpr ⟨hplain, by simp [refused, Task.plain]⟩
    · have hsplit : refusedRun (count + 1) = refusedRun count ++ answerRun tasks.length none := by
        rw [hlength]
        simp [refusedRun, List.range_succ]
      rw [hsplit, Lts.System.run_append, hrun, runFrom_refused _ hnext, Nat.mod_add_mod]

/-- The item that comes after the counter has come round takes the place of the first
one: its child 1 is in no item, and the open pump has not been told to remove it. -/
theorem not_always_noLeak_wrappedRun : ¬ system.Always NoLeak wrappedRun := by
  obtain ⟨tasks, hlength, hplain, hrun⟩ := run_refusedRun (2 ^ 32 - 1) (Nat.le_refl _)
  intro halways
  have hlast := halways wrappedRun (List.prefix_refl _)
  have hend : system.run wrappedRun =
      { serving ((servedItems.insert 1 {}).insert 1 { children := [servingPump.pump.child 2] }) 2
          (tasks ++ [.added { itemId := 1, status := StatusCode.good }]) with
        returned := [(servingPump.pump, 2, 1), (servingPump.pump, 1, 1)] } := by
    have hask : answerRun (2 ^ 32) (some 2) = answerRun tasks.length (some 2) :=
      congrArg (answerRun · (some 2)) (by omega)
    rw [wrappedRun, Lts.System.run_append, hrun, hask]
    exact runFrom_added 1 tasks
  rw [hend] at hlast
  have hquiet : ∀ t ∈ tasks ++ [.added { itemId := 1, status := StatusCode.good }],
      t.plain = true :=
    List.forall_mem_append.mpr ⟨hplain, by simp [Task.plain]⟩
  have hopen : servingPump ∈ [servingPump] := List.mem_singleton_self _
  rcases hlast hquiet servingPump.pump 1 1 (by simp) ⟨servingPump, hopen, rfl⟩ with
    ⟨hrecorded, -⟩ | ⟨removal, hno, -⟩
  · have hchild := hrecorded.of_lookup (lookup_insert _)
    simp [Pump.child] at hchild
  · cases hno

end Multiplexing

end ScadaCore.Scada
