import ScadaCore.Scada.MultiplexingMoves

/-!
# Scada.MultiplexingEffects — what a step of the subscription can do

The invariants of the subscription are about its maps and the records of the
past, the `Books`, and not about where its coroutines are. `step_effect` is the
inversion lemma: the entries of the books a step can change, and the guards
under which it does.
-/

namespace ScadaCore.Scada

def BindPoint.pump : BindPoint → Option PumpPtr
  | .addItems pump => some pump
  | .removeOrphan pump _ => some pump
  | _ => none

def HasChild (items : Table Nat Item) (itemId : Nat) (child : Child) : Prop :=
  ∃ item, items.lookup itemId = some item ∧ child ∈ item.children

namespace Multiplexing

structure Books where
  items : Table Nat Item
  pumps : Table Nat PumpPtr
  pumpIds : Nat → Nat
  closed : Bool
  failed : List Pump
  posted : List (Pump × Status)
  failures : Nat
  returned : List (Pump × Nat × Nat)
  removals : List Removal

def books (m : Multiplexing) : Books where
  items := m.state.items
  pumps := m.state.pumps
  pumpIds := m.state.pumpIds
  closed := m.state.closed
  failed := m.failed
  posted := m.posted
  failures := m.failures
  returned := m.returned
  removals := m.removals

def Calls (m : Multiplexing) (task : Nat) (call : BindRoutes) : Prop :=
  ∃ t, m.tasks[task]? = some t ∧ t.call = some call

/-- A call for a route of the backend has the pump in hand. -/
def Holds (m : Multiplexing) (service : Nat) (ptr : PumpPtr) : Prop :=
  ∃ t ∈ m.tasks, ∃ call, t.call = some call ∧ call.route.service = service ∧
    call.point.pump = some ptr

/-- The books after an event. -/
inductive Effect (m : Multiplexing) : Event → Books → Prop where
  | quiet (e : Event) : Effect m e m.books
  | create (e : Event) (clientHandle : Nat) (valueId : ReadValueId) :
      Effect m e { m.books with
        items := m.state.items.insert m.state.nextItemId { clientHandle, valueId } }
  | erase (e : Event) (itemId : Nat) :
      Effect m e { m.books with items := m.state.items.erase itemId }
  | publish (e : Event) (service pumpId address : Nat)
      (hnone : m.state.pumps.lookup service = none) :
      Effect m e { m.books with
        pumps := m.state.pumps.insert service { pump := { id := pumpId, service }, address }
        pumpIds := Function.update m.state.pumpIds service pumpId }
  | drop (e : Event) (service : Nat) (hidle : m.state.carriesItemsLocked service = false) :
      Effect m e { m.books with pumps := m.state.pumps.erase service }
  | bind (task : Nat) (choice : Choice) (call : BindRoutes) (pump : PumpPtr) (childId : Nat)
      (item : Item) (hcall : m.Calls task call) (hpoint : call.point = .addItems pump)
      (hanswer : choice.answer = some childId) (hopen : m.state.closed = false)
      (hitem : m.state.items.lookup call.item = some item) :
      Effect m (.run task choice) { m.books with
        items := m.state.items.insert call.item
          (addChild item { service := call.route.service, childId, pump := pump.pump })
        returned := (pump.pump, childId, call.item) :: m.returned }
  | orphan (task : Nat) (choice : Choice) (call : BindRoutes) (pump : PumpPtr) (childId : Nat)
      (hcall : m.Calls task call) (hpoint : call.point = .addItems pump)
      (hanswer : choice.answer = some childId) :
      Effect m (.run task choice) { m.books with
        returned := (pump.pump, childId, call.item) :: m.returned }
  | removeOrphan (task : Nat) (choice : Choice) (call : BindRoutes) (pump published : PumpPtr)
      (childId : Nat) (hcall : m.Calls task call)
      (hpoint : call.point = .removeOrphan pump childId)
      (hpublished : m.state.pumps.lookup call.route.service = some published)
      (haddress : published.address = pump.address) :
      Effect m (.run task choice) { m.books with
        removals := m.removals ++ [{ itemId := call.item, childId, issuedTo := published.pump,
                                     returnedBy := pump.pump }] }
  | removeChild (task : Nat) (choice : Choice) (itemId : Nat) (child : Child) (rest : List Child)
      (pump : PumpPtr) (htask : m.tasks[task]? = some (.removeChildren itemId (child :: rest)))
      (hpump : m.state.pumps.lookup child.service = some pump) :
      Effect m (.run task choice) { m.books with
        removals := m.removals ++ [{ itemId, childId := child.childId, issuedTo := pump.pump,
                                     returnedBy := child.pump }] }
  | write (task : Nat) (choice : Choice) (itemId : Nat) (allBound : Bool) (consultedAt : Nat)
      (rest : List Nat) (item : Item)
      (htask : m.tasks[task]? = some (.rebindWrite itemId allBound consultedAt rest))
      (hitem : m.state.items.lookup itemId = some item) :
      Effect m (.run task choice) { m.books with
        items := m.state.items.insert itemId (rebound item allBound consultedAt) }
  | readFails (pump : Pump) (status : Status) (hfirst : pump ∉ m.failed) :
      Effect m (.readFails pump status) { m.books with
        failed := pump :: m.failed, posted := m.posted ++ [(pump, status)] }
  | ignore (handler : Nat) (pump : Pump) (status : Status)
      (hposted : m.posted[handler]? = some (pump, status))
      (hignored : m.state.acceptsFailure pump.service pump.id = false) :
      Effect m (.backendFailed handler) { m.books with posted := m.posted.eraseIdx handler }
  | fail (handler : Nat) (pump : Pump) (status : Status)
      (hposted : m.posted[handler]? = some (pump, status))
      (haccepted : m.state.acceptsFailure pump.service pump.id = true) :
      Effect m (.backendFailed handler) { m.books with
        posted := m.posted.eraseIdx handler
        pumps := m.state.pumps.erase pump.service
        items := m.state.items.mapValues (State.loseBackend pump.service m.failures)
        failures := m.failures + 1 }
  | close (status : Status) :
      Effect m (.close status) { m.books with items := ∅, pumps := ∅, closed := true }
  | rehash (items : Table Nat Item) (hperm : items.entries.Perm m.state.items.entries) :
      Effect m (.rehash items) { m.books with items }

/-! ## Critical sections -/

section Moves

variable {m m' : Multiplexing} {task : Nat} {call : BindRoutes} {choice : Choice}
  {outcome : BindRoutes.Outcome} {t t' : Task}

theorem effect_of_bindMove (hcall : m.Calls task call)
    (hmove : BindMove m call choice m' outcome) :
    Effect m (.run task choice) m'.books ∧ m'.tasks = m.tasks := by
  cases hmove with
  | publish pumpId address hpoint hopen hnone =>
    exact ⟨.publish _ call.route.service pumpId address hnone, rfl⟩
  | record pump childId item hpoint hanswer hopen hitem =>
    exact ⟨.bind task choice call pump childId item hcall hpoint hanswer hopen hitem, rfl⟩
  | orphan pump childId hpoint hanswer =>
    exact ⟨.orphan task choice call pump childId hcall hpoint hanswer, rfl⟩
  | dropPump pump published hpoint hidle => exact ⟨.drop _ call.route.service hidle, rfl⟩
  | removeOrphan pump published childId hpoint hpublished haddress =>
    exact ⟨.removeOrphan task choice call pump published childId hcall hpoint hpublished
      haddress, rfl⟩
  | _ => exact ⟨.quiet _, rfl⟩

theorem call_addItemBound (request : MonitoredItemCreateRequest) (itemId : Nat)
    (outcome : BindRoutes.Outcome) :
    (addItemBound request itemId outcome).call = outcome.getLeft? := by
  cases outcome <;> rfl

theorem call_rebindBound (itemId consultedAt : Nat) (rest : List Nat)
    (outcome : BindRoutes.Outcome) :
    (rebindBound itemId consultedAt rest outcome).call = outcome.getLeft? := by
  cases outcome <;> rfl

theorem addItemBound_ne (request : MonitoredItemCreateRequest) (item : Nat)
    (outcome : BindRoutes.Outcome) (itemId : Nat) (children : List Child) :
    addItemBound request item outcome ≠ .removeChildren itemId children := by
  cases outcome <;> intro hno <;> cases hno

theorem rebindBound_ne (item consultedAt : Nat) (rest : List Nat) (outcome : BindRoutes.Outcome)
    (itemId : Nat) (children : List Child) :
    rebindBound item consultedAt rest outcome ≠ .removeChildren itemId children := by
  cases outcome <;> intro hno <;> cases hno

theorem start_head {itemId consultedAt : Nat} {routes : List MonitoredItemRoute}
    {call : BindRoutes} (h : BindRoutes.start itemId routes consultedAt = .inl call) :
    call.point = .head := by
  unfold BindRoutes.start at h
  split at h
  · cases h
  · cases h
    rfl

/-- A call of `BindRoutes` that a coroutine is in has just been made, or is what
one of its moves made of it. -/
theorem call_of_taskMove {call' : BindRoutes} (hmove : TaskMove m choice t m' t')
    (h : t'.call = some call') :
    call'.point = .head ∨ ∃ call, t.call = some call ∧ BindMove m call choice m' (.inl call') := by
  cases hmove with
  | goOn _ _ _ hplain | pace _ _ rebindTimer rebindRunning _ hplain =>
    rw [Task.call_of_plain hplain] at h
    cases h
  | create request routes consultedAt =>
    rw [call_addItemBound, Sum.getLeft?_eq_some_iff] at h
    exact Or.inl (start_head h)
  | route itemId rest =>
    rw [call_rebindBound, Sum.getLeft?_eq_some_iff] at h
    exact Or.inl (start_head h)
  | addItemBind request call _ outcome hbind =>
    rw [call_addItemBound, Sum.getLeft?_eq_some_iff] at h
    exact Or.inr ⟨call, rfl, h ▸ hbind⟩
  | rebindBind call rest _ outcome hbind =>
    rw [call_rebindBound, Sum.getLeft?_eq_some_iff] at h
    exact Or.inr ⟨call, rfl, h ▸ hbind⟩
  | _ => cases h

/-- `RemoveItem` alone has children to remove. -/
theorem children_of_taskMove {itemId : Nat} {children : List Child}
    (hmove : TaskMove m choice t m' t') (h : t' = .removeChildren itemId children) :
    (∃ item, m.state.items.lookup itemId = some item ∧ item.children = children) ∨
      ∃ child, t = .removeChildren itemId (child :: children) := by
  cases hmove with
  | goOn _ _ _ hplain | pace _ _ _ _ _ hplain =>
    subst h
    cases hplain
  | create request | addItemBind request => exact absurd h (addItemBound_ne request _ _ _ _)
  | route | rebindBind => exact absurd h (rebindBound_ne _ _ _ _ _ _)
  | remove _ item hitem =>
    cases h
    exact Or.inl ⟨item, hitem, rfl⟩
  | skipChild _ child | removeChild _ child =>
    cases h
    exact Or.inr ⟨child, rfl⟩
  | _ => cases h

theorem effect_of_taskMove (ht : m.tasks[task]? = some t) (hmove : TaskMove m choice t m' t') :
    Effect m (.run task choice) m'.books ∧ m'.tasks = m.tasks := by
  cases hmove with
  | create request =>
    exact ⟨.create _ request.clientHandle request.itemToMonitor, rfl⟩
  | discard _ itemId | remove itemId => exact ⟨.erase _ itemId, rfl⟩
  | removeChild itemId child rest pump hpump =>
    exact ⟨.removeChild task choice itemId child rest pump ht hpump, rfl⟩
  | write itemId allBound consultedAt rest item hitem =>
    exact ⟨.write task choice itemId allBound consultedAt rest item ht hitem, rfl⟩
  | addItemBind _ _ _ _ hbind | rebindBind _ _ _ _ hbind =>
    exact effect_of_bindMove ⟨_, ht, rfl⟩ hbind
  | _ => exact ⟨.quiet _, rfl⟩

theorem stepTask_effect (ht : m.tasks[task]? = some t) (choice : Choice) :
    Effect m (.run task choice) (m.stepTask choice t).1.books ∧
      (m.stepTask choice t).1.tasks = m.tasks :=
  effect_of_taskMove ht (stepTask_move m choice t)

end Moves

variable {m : Multiplexing} {t : Task} {task : Nat} {e : Event}

/-! ## Steps -/

def Starting : Task → Prop
  | .addItem _ => True
  | .removeItem _ => True
  | .rebindWait => True
  | _ => False

/-- The moves of the subscription. -/
inductive Move (m : Multiplexing) : Event → Multiplexing → Prop where
  | quiet (e : Event) (hno : ∀ task choice, e = .run task choice → m.tasks[task]? = none) :
      Move m e m
  | start (e : Event) (t : Task) (hstart : Starting t) (hno : ∀ task choice, e ≠ .run task choice) :
      Move m e { m with tasks := m.tasks ++ [t] }
  | run (task : Nat) (choice : Choice) (t : Task) (ht : m.tasks[task]? = some t) :
      Move m (.run task choice) { (m.stepTask choice t).1 with
        tasks := m.tasks.set task (m.stepTask choice t).2 }
  | readFails (pump : Pump) (status : Status) (hfirst : pump ∉ m.failed) :
      Move m (.readFails pump status)
        { m with failed := pump :: m.failed, posted := m.posted ++ [(pump, status)] }
  | ignore (handler : Nat) (pump : Pump) (status : Status)
      (hposted : m.posted[handler]? = some (pump, status))
      (hignored : m.state.acceptsFailure pump.service pump.id = false) :
      Move m (.backendFailed handler) { m with posted := m.posted.eraseIdx handler }
  | fail (handler : Nat) (pump : Pump) (status : Status) (dropped : State × Bool)
      (hposted : m.posted[handler]? = some (pump, status))
      (haccepted : m.state.acceptsFailure pump.service pump.id = true)
      (hdropped : dropped = m.state.dropBackend pump.service m.failures) :
      Move m (.backendFailed handler) { m with
        state := dropped.1
        heap := m.heap.filter fun pump' => m.state.pumps.lookup pump.service != some pump'
        posted := m.posted.eraseIdx handler
        tasks := if dropped.2 then m.tasks ++ [.rebindWait] else m.tasks
        failures := m.failures + 1 }
  | close (status : Status) (hopen : m.state.closed = false) :
      Move m (.close status) { m with
        state := m.state.close status
        heap := m.heap.filter fun pump => !m.state.pumps.values.contains pump }
  | rehash (items : Table Nat Item) (hperm : items.entries.Perm m.state.items.entries) :
      Move m (.rehash items) { m with state := { m.state with items } }

theorem step_move (m : Multiplexing) (e : Event) : Move m e (m.step e) := by
  cases e with
  | addItem request => exact .start _ (.addItem request) trivial (by simp)
  | removeItem itemId => exact .start _ (.removeItem itemId) trivial (by simp)
  | run task choice =>
    cases ht : m.tasks[task]? with
    | none =>
      simp only [step, run, ht]
      refine .quiet _ ?_
      rintro task choice ⟨⟩
      exact ht
    | some t =>
      simp only [step, run, ht, (stepTask_effect ht choice).2]
      exact .run task choice t ht
  | readFails pump status =>
    dsimp only [step]
    split
    · exact .readFails pump status (And.right ‹_›)
    · exact .quiet _ (by simp)
  | backendFailed handler =>
    dsimp only [step]
    split
    · exact .quiet _ (by simp)
    · dsimp only [onBackendFailed]
      split
      · exact .fail handler _ _ _ ‹_› ‹_› rfl
      · exact .ignore handler _ _ ‹_› (Bool.eq_false_iff.mpr ‹_›)
  | close status =>
    dsimp only [step, Multiplexing.close]
    split
    · exact .quiet _ (by simp)
    · exact .close status (Bool.eq_false_iff.mpr ‹_›)
  | rehash items =>
    dsimp only [step]
    split
    · exact .rehash items ‹_›
    · exact .quiet _ (by simp)

/-- **Inversion**: the effect of an event. -/
theorem step_effect (m : Multiplexing) (e : Event) : Effect m e (m.step e).books := by
  have hmove := m.step_move e
  generalize m.step e = m' at hmove ⊢
  cases hmove with
  | run task choice t ht => exact (stepTask_effect ht choice).1
  | readFails pump status hfirst => exact .readFails pump status hfirst
  | ignore handler pump status hposted hignored => exact .ignore handler _ status hposted hignored
  | fail handler pump status _ hposted haccepted hdropped =>
    subst hdropped
    exact .fail handler pump status hposted haccepted
  | close status => exact .close status
  | rehash items hperm => exact .rehash items hperm
  | _ => exact .quiet _

theorem run_move (ht : m.tasks[task]? = some t) (choice : Choice) :
    ∃ m' t', TaskMove m choice t m' t' ∧
      m.step (.run task choice) = { m' with tasks := m.tasks.set task t' } := by
  refine ⟨_, _, stepTask_move m choice t, ?_⟩
  simp only [step, run, ht, (stepTask_effect ht choice).2]

theorem state_step_run (ht : m.tasks[task]? = some t) (choice : Choice) :
    (m.step (.run task choice)).state = (m.stepTask choice t).1.state := by
  simp [step, run, ht]

theorem mem_children_loseBackend {service failure : Nat} {item : Item} {child : Child}
    (h : child ∈ (State.loseBackend service failure item).children) :
    child ∈ item.children ∧ child.service ≠ service := by
  unfold State.loseBackend at h
  split at h
  · rcases List.mem_filter.mp h with ⟨hmem, hne⟩
    exact ⟨hmem, by simpa using hne⟩
  · rename_i hfree
    refine ⟨h, ?_⟩
    rintro rfl
    apply hfree
    exact List.any_eq_true.mpr ⟨child, h, beq_self_eq_true _⟩

/-- The item had the child before the event, or the event is the step of a call
that records it. -/
def ChildSource (m : Multiplexing) (e : Event) (b : Books) (itemId : Nat) (child : Child) :
    Prop :=
  HasChild m.state.items itemId child ∨
    ∃ task choice call pump, e = .run task choice ∧ m.Calls task call ∧
      call.point = .addItems pump ∧ call.item = itemId ∧ call.route.service = child.service ∧
      pump.pump = child.pump ∧ (child.pump, child.childId, itemId) ∈ b.returned

theorem Effect.children {b : Books} (h : Effect m e b) :
    b.items.All fun itemId item => ∀ child ∈ item.children, m.ChildSource e b itemId child := by
  have hold : ∀ b, m.state.items.All fun itemId item =>
      ∀ child ∈ item.children, m.ChildSource e b itemId child :=
    fun _ _ item hitem _ hchild => Or.inl ⟨item, hitem, hchild⟩
  cases h with
  | create =>
    refine Table.All.insert (hold _) ?_
    intro child hchild
    cases hchild
  | erase _ itemId => exact (hold _).erase itemId
  | bind task choice call pump childId item hcall hpoint _ _ hitem =>
    refine Table.All.insert (hold _) ?_
    intro child hchild
    rcases List.mem_append.mp hchild with hmine | hnew
    · exact Or.inl ⟨item, hitem, hmine⟩
    · rw [List.mem_singleton.mp hnew]
      exact Or.inr ⟨task, choice, call, pump, rfl, hcall, hpoint, rfl, rfl, rfl,
        List.mem_cons_self⟩
  | write task choice itemId allBound consultedAt rest item htask hitem =>
    exact Table.All.insert (hold _) fun child hchild => Or.inl ⟨item, hitem, hchild⟩
  | fail =>
    refine Table.All.mapValues (hold m.books) ?_
    intro itemId item hitem _ child hchild
    exact Or.inl ⟨item, hitem, (mem_children_loseBackend hchild).1⟩
  | close => exact Table.all_empty
  | rehash items hperm => exact (hold _).perm hperm
  | _ => exact hold _

/-! ## Where the coroutines go -/

/-- The coroutines after an event: one of them has taken its step, or there are
new ones. -/
theorem tasks_step (m : Multiplexing) (e : Event) :
    (∃ task choice t, e = .run task choice ∧ m.tasks[task]? = some t ∧
        (m.step e).tasks = m.tasks.set task (m.stepTask choice t).2) ∨
      (∀ task choice, e = .run task choice → m.tasks[task]? = none) ∧
        ∃ new, (∀ t ∈ new, Starting t) ∧ (m.step e).tasks = m.tasks ++ new := by
  have hsame : ∃ new, (∀ t ∈ new, Starting t) ∧ m.tasks = m.tasks ++ new := ⟨[], by simp⟩
  have hmove := m.step_move e
  generalize m.step e = m' at hmove ⊢
  cases hmove with
  | quiet _ hno => exact Or.inr ⟨hno, hsame⟩
  | start _ t hstart hno =>
    exact Or.inr ⟨fun task choice heq => absurd heq (hno task choice), [t], by simpa, rfl⟩
  | run task choice t ht => exact Or.inl ⟨task, choice, t, rfl, ht, rfl⟩
  | fail handler pump status dropped =>
    refine Or.inr ⟨by simp, ?_⟩
    dsimp only
    split
    · exact ⟨[.rebindWait], by simp [Starting], rfl⟩
    · exact hsame
  | _ => exact Or.inr ⟨by simp, hsame⟩

/-- A coroutine after an event was there before, is new, or has just taken its
step. -/
theorem getElem?_tasks_step_cases {t' : Task} (h : (m.step e).tasks[task]? = some t') :
    (m.tasks[task]? = some t' ∧ ∀ choice, e ≠ .run task choice) ∨ Starting t' ∨
      ∃ choice t, e = .run task choice ∧ m.tasks[task]? = some t ∧
        t' = (m.stepTask choice t).2 := by
  rcases m.tasks_step e with ⟨stepped, choice, t, rfl, ht, htasks⟩ | ⟨hno, new, hnew, htasks⟩
  · rw [htasks] at h
    by_cases htask : stepped = task
    · subst htask
      rw [List.getElem?_set_self (List.getElem?_eq_some_iff.mp ht).1] at h
      exact Or.inr (Or.inr ⟨choice, t, rfl, ht, (Option.some.inj h).symm⟩)
    · rw [List.getElem?_set_ne htask] at h
      exact Or.inl ⟨h, by simp [htask]⟩
  · rw [htasks] at h
    by_cases hlt : task < m.tasks.length
    · rw [List.getElem?_append_left hlt] at h
      refine Or.inl ⟨h, ?_⟩
      intro choice heq
      rw [hno task choice heq] at h
      cases h
    · rw [List.getElem?_append_right (Nat.le_of_not_lt hlt)] at h
      exact Or.inr (Or.inl (hnew t' (List.mem_of_getElem? h)))

theorem mem_tasks_step {t' : Task} (h : t' ∈ (m.step e).tasks) :
    t' ∈ m.tasks ∨ Starting t' ∨ ∃ task choice t, e = .run task choice ∧
      m.tasks[task]? = some t ∧ t' = (m.stepTask choice t).2 := by
  obtain ⟨task, htask⟩ := List.mem_iff_getElem?.mp h
  rcases getElem?_tasks_step_cases htask with ⟨hold, -⟩ | hstarting | ⟨choice, t, he, ht, heq⟩
  · exact Or.inl (List.mem_of_getElem? hold)
  · exact Or.inr (Or.inl hstarting)
  · exact Or.inr (Or.inr ⟨task, choice, t, he, ht, heq⟩)

theorem getElem?_tasks_step (ht : m.tasks[task]? = some t) (e : Event) :
    (∃ choice, e = .run task choice ∧
        (m.step e).tasks[task]? = some (m.stepTask choice t).2) ∨
      (∀ choice, e ≠ .run task choice) ∧ (m.step e).tasks[task]? = some t := by
  have hlt : task < m.tasks.length := (List.getElem?_eq_some_iff.mp ht).1
  rcases m.tasks_step e with ⟨stepped, choice, t', rfl, ht', htasks⟩ | ⟨hno, new, -, htasks⟩
  · rw [htasks]
    by_cases htask : stepped = task
    · subst htask
      rw [ht] at ht'
      cases ht'
      exact Or.inl ⟨choice, rfl, List.getElem?_set_self hlt⟩
    · exact Or.inr ⟨by simp [htask], by rw [List.getElem?_set_ne htask, ht]⟩
  · right
    refine ⟨?_, by rw [htasks, List.getElem?_append_left hlt, ht]⟩
    intro choice heq
    rw [hno task choice heq] at ht
    cases ht

theorem plain_of_starting (h : Starting t) : t.plain = true := by
  cases t with
  | addItem request => rfl
  | removeItem itemId => rfl
  | rebindWait => rfl
  | _ => cases h

/-- A pump that a call gets hold of is the published one, or is published with this. -/
theorem holds_of_bindMove {m' : Multiplexing} {choice : Choice} {call call' : BindRoutes}
    (hmove : BindMove m call choice m' (.inl call')) {ptr : PumpPtr}
    (hptr : call'.point.pump = some ptr) :
    call'.route = call.route ∧ (call.point.pump = some ptr ∨
      m.state.pumps.lookup call.route.service = some ptr ∨
      m'.state.pumps.lookup call.route.service = some ptr) := by
  rcases routeMove_of_bindMove hmove with hmoves | hroute
  · rw [(call_of_movesOn hmoves).2] at hptr
    cases hptr
  cases hroute with
  | find _ _ hpump | yield _ _ _ _ hpump =>
    cases hptr
    exact ⟨rfl, Or.inr (Or.inl hpump)⟩
  | publish =>
    cases hptr
    exact ⟨rfl, Or.inr (Or.inr (AList.lookup_insert _))⟩
  | orphan pump childId hpoint =>
    cases hptr
    exact ⟨rfl, Or.inl (by rw [hpoint]; rfl)⟩
  | retry pumpId hpoint =>
    rw [hpoint] at hptr
    cases hptr
  | _ => cases hptr

theorem holds_step {service : Nat} {ptr : PumpPtr} (h : (m.step e).Holds service ptr) :
    m.Holds service ptr ∨ m.state.pumps.lookup service = some ptr ∨
      (m.step e).state.pumps.lookup service = some ptr := by
  rcases h with ⟨t', ht', call', hcall', rfl, hptr⟩
  rcases mem_tasks_step ht' with hold | hstarting | ⟨task, choice, t, rfl, ht, rfl⟩
  · exact Or.inl ⟨t', hold, call', hcall', rfl, hptr⟩
  · rw [Task.call_of_plain (plain_of_starting hstarting)] at hcall'
    cases hcall'
  · rcases call_of_taskMove (stepTask_move m choice t) hcall' with hhead | ⟨call, hcall, hmove⟩
    · rw [hhead] at hptr
      cases hptr
    · obtain ⟨hroute, hpump⟩ := holds_of_bindMove hmove hptr
      rw [state_step_run ht, hroute]
      exact hpump.imp_left fun hold => ⟨t, List.mem_of_getElem? ht, call, hcall, rfl, hold⟩

theorem Effect.open_before {b : Books} (h : Effect m e b) (hopen : b.closed = false) :
    m.state.closed = false := by
  cases h with
  | close => cases hopen
  | _ => exact hopen

theorem books_run_of_calls {call : BindRoutes} (hcall : m.Calls task call) (choice : Choice) :
    (m.step (.run task choice)).books = (m.stepBind call choice).1.books := by
  rcases hcall with ⟨t, ht, hcall⟩
  dsimp only [step, run]
  rw [ht]
  cases t with
  | addItemBind request call' | rebindBind call' rest =>
    cases hcall
    rfl
  | _ => cases hcall

theorem books_run_of_added {call : BindRoutes} (hcall : m.Calls task call) {choice : Choice}
    {pump : PumpPtr} {childId : Nat} {item : Item} (hpoint : call.point = .addItems pump)
    (hanswer : choice.answer = some childId) (hopen : m.state.closed = false)
    (hitem : m.state.items.lookup call.item = some item) :
    (m.step (.run task choice)).books = { m.books with
      items := m.state.items.insert call.item
        (addChild item { service := call.route.service, childId, pump := pump.pump })
      returned := (pump.pump, childId, call.item) :: m.returned } := by
  rw [books_run_of_calls hcall]
  simp only [stepBind, hpoint, record, hanswer, hopen, hitem]
  rfl

theorem closed_step (m : Multiplexing) (h : ∀ status, e ≠ .close status) :
    (m.step e).state.closed = m.state.closed := by
  have heffect := m.step_effect e
  change (m.step e).books.closed = m.books.closed
  generalize (m.step e).books = books at heffect
  cases heffect with
  | close status => exact absurd rfl (h status)
  | _ => rfl

theorem closed_step_of_closed (m : Multiplexing) (e : Event) (h : m.state.closed = true) :
    (m.step e).state.closed = true := by
  by_contra hopen
  have hbefore := (m.step_effect e).open_before (Bool.not_eq_true _ ▸ hopen)
  rw [h] at hbefore
  cases hbefore

end Multiplexing

end ScadaCore.Scada
