import ScadaCore.Scada.Delivery

/-!
# Scada.Lifecycle — closing is final, and lost items have their loop

Every coroutine of `MultiplexingMonitoredItemSubscription` comes back to the
state after it has waited, and has to look at `closed` again. A closed
subscription is frozen: its coroutines run to their ends without changing the
state. While it is open, `rebind_running` says whether there is a `RebindLoop`,
of which there is never more than one, and every item with `needs_rebind` has it.
-/

namespace ScadaCore.Scada

open MonitoredItem

/-- Closed, with nothing left in it. -/
structure State.Ended (state : State) : Prop where
  closed : state.closed = true
  items : state.items = ∅
  pumps : state.pumps = ∅
  rebindTimer : state.rebindTimer = false

def Task.isRebindLoop : Task → Bool
  | .rebindWait => true
  | .rebindCollect => true
  | .rebindVisit _ => true
  | .rebindRoute _ _ => true
  | .rebindBind _ _ => true
  | .rebindWrite _ _ _ _ => true
  | _ => false

namespace Multiplexing

/-! ## A closed subscription is frozen -/

section Ended

variable {m : Multiplexing}

theorem state_of_bindMove {m' : Multiplexing} {call : BindRoutes} {choice : Choice}
    {outcome : BindRoutes.Outcome} (h : m.state.Ended)
    (hmove : BindMove m call choice m' outcome) : m'.state = m.state := by
  have hclosed : m.state.closed ≠ false := by simp [h.closed]
  have hpump : ∀ service pump, m.state.pumps.lookup service ≠ some pump := by simp [h.pumps]
  cases hmove with
  | search item _ hopen
  | find pump _ hopen
  | number _ hopen
  | yield pumpId address published _ hopen
  | publish pumpId address _ hopen
  | record pump childId item _ _ hopen => exact absurd hopen hclosed
  | dropPump pump published _ _ hpublished
  | removeOrphan pump published childId _ hpublished => exact absurd hpublished (hpump _ _)
  | _ => rfl

theorem state_of_taskMove {m' : Multiplexing} {choice : Choice} {t t' : Task}
    (h : m.state.Ended) (hmove : TaskMove m choice t m' t') : m'.state = m.state := by
  have hclosed : m.state.closed ≠ false := by simp [h.closed]
  have hnone : ∀ itemId item, m.state.items.lookup itemId ≠ some item := by simp [h.items]
  cases hmove with
  | pace _ _ rebindTimer rebindRunning _ _ _ hopen
  | create request routes consultedAt hopen => exact absurd hopen hclosed
  | discard request itemId item hitem
  | remove itemId item hitem
  | write itemId allBound consultedAt rest item hitem => exact absurd hitem (hnone _ _)
  | addItemBind request call _ outcome hbind
  | rebindBind call rest _ outcome hbind => exact state_of_bindMove h hbind
  | _ => rfl

theorem state_step_of_ended (h : m.state.Ended) (e : Event) : (m.step e).state = m.state := by
  have hmove := m.step_move e
  generalize m.step e = m' at hmove ⊢
  cases hmove with
  | run task choice t ht =>
    have hstate := state_of_taskMove h (stepTask_move m choice t)
    exact hstate
  | fail handler pump status _ _ haccepted =>
    simp [State.acceptsFailure, h.closed] at haccepted
  | close status hopen =>
    rw [h.closed] at hopen
    cases hopen
  | rehash items hperm =>
    -- there is one order of no entries
    have hnil : items = m.state.items := by
      apply AList.ext
      rw [h.items] at hperm ⊢
      exact hperm.eq_nil
    rw [hnil]
  | _ => rfl

theorem ended_step (h : m.state.closed = true → m.state.Ended) (e : Event)
    (hclosed : (m.step e).state.closed = true) : (m.step e).state.Ended := by
  cases hbefore : m.state.closed with
  | true =>
    rw [state_step_of_ended (h hbefore)]
    exact h hbefore
  | false =>
    cases e with
    | close status =>
      have hstate : (m.step (.close status)).state = m.state.close status := by
        simp [step, close, hbefore]
      rw [hstate]
      exact ⟨rfl, rfl, rfl, rfl⟩
    | _ =>
      rw [closed_step m (by simp), hbefore] at hclosed
      cases hclosed

end Ended

/-! ## The rebind loop -/

def rebindLoops (m : Multiplexing) : Nat := m.tasks.countP Task.isRebindLoop

/-- While the subscription is open, `rebind_running` tells whether there is a
loop, and every item that waits to be routed again has one. -/
structure LoopInv (m : Multiplexing) : Prop where
  single : m.rebindLoops ≤ 1
  running : m.state.closed = false → (m.state.rebindRunning = true ↔ m.rebindLoops = 1)
  flagged : m.state.closed = false →
    m.books.items.All fun _ item => item.needsRebind = true → m.state.rebindRunning = true

theorem loopInv_init : LoopInv {} :=
  ⟨Nat.zero_le _, fun _ => by decide, fun _ => Table.all_empty⟩

theorem rebindRunning_stepBind (m : Multiplexing) (call : BindRoutes) (choice : Choice) :
    (m.stepBind call choice).1.state.rebindRunning = m.state.rebindRunning := by
  have hmove := stepBind_move m call choice
  generalize (m.stepBind call choice).1 = m', (m.stepBind call choice).2 = outcome at hmove ⊢
  cases hmove <;> rfl

theorem isRebindLoop_addItemBound (request : MonitoredItemCreateRequest) (itemId : Nat)
    (outcome : BindRoutes.Outcome) :
    (addItemBound request itemId outcome).isRebindLoop = false := by
  cases outcome <;> rfl

theorem isRebindLoop_rebindBound (itemId consultedAt : Nat) (rest : List Nat)
    (outcome : BindRoutes.Outcome) :
    (rebindBound itemId consultedAt rest outcome).isRebindLoop = true := by
  cases outcome <;> rfl

/-- How a step bears on the loop: it stays what it is, or it returns because the
subscription is closed or because no item is left to route. -/
inductive LoopStep (m : Multiplexing) (t : Task) (result : Multiplexing × Task) : Prop where
  | same (hloop : result.2.isRebindLoop = t.isRebindLoop)
      (hrunning : result.1.state.rebindRunning = m.state.rebindRunning)
  | closed (hclosed : m.state.closed = true) (hdone : result.2.isRebindLoop = false)
  | idle (hloop : t.isRebindLoop = true) (hdone : result.2.isRebindLoop = false)
      (hrunning : result.1.state.rebindRunning = false)
      (hitems : result.1.state.items = m.state.items) (hnone : pendingItems m.state = [])

theorem stepTask_loop (m : Multiplexing) (choice : Choice) (t : Task) :
    LoopStep m t (m.stepTask choice t) := by
  cases t with
  | addItem request | addItemRoute request =>
    dsimp only [stepTask]
    split <;> exact .same rfl rfl
  | addItemCreate request routes consultedAt =>
    dsimp only [stepTask, stepAddItemCreate]
    split
    · exact .same rfl rfl
    · exact .same (isRebindLoop_addItemBound ..) rfl
  | addItemBind request call =>
    exact .same (isRebindLoop_addItemBound ..) (rebindRunning_stepBind m call choice)
  | addItemFinish request itemId =>
    dsimp only [stepTask, stepAddItemFinish]
    split
    · exact .same rfl rfl
    · split <;> exact .same rfl rfl
  | removeItem itemId =>
    dsimp only [stepTask, stepRemoveItem]
    split <;> exact .same rfl rfl
  | removeChildren itemId children =>
    dsimp only [stepTask, stepRemoveChildren]
    split
    · exact .same rfl rfl
    · split <;> exact .same rfl rfl
  | rebindWait =>
    dsimp only [stepTask]
    split
    · rename_i hclosed
      exact .closed hclosed rfl
    · exact .same rfl rfl
  | rebindCollect =>
    dsimp only [stepTask, stepRebindCollect]
    split
    · rename_i hclosed
      exact .closed hclosed rfl
    · split
      · rename_i hnone
        exact .idle rfl rfl rfl rfl hnone
      · exact .same rfl rfl
  | rebindVisit rest =>
    dsimp only [stepTask, stepRebindVisit]
    split
    · exact .same rfl rfl
    · split
      · rename_i hclosed
        exact .closed hclosed rfl
      · split <;> exact .same rfl rfl
  | rebindRoute itemId rest => exact .same (isRebindLoop_rebindBound ..) rfl
  | rebindBind call rest =>
    exact .same (isRebindLoop_rebindBound ..) (rebindRunning_stepBind m call choice)
  | rebindWrite itemId allBound consultedAt rest =>
    dsimp only [stepTask, stepRebindWrite]
    split <;> exact .same rfl rfl
  | _ => exact .same rfl rfl

variable {m : Multiplexing} {task : Nat} {status : Status}

/-- An item is flagged by a failure, which starts the loop, or by the loop. -/
theorem flagged_effect {e : Event} {b : Books} {running : Prop}
    (h : m.books.items.All fun _ item => item.needsRebind = true → running)
    (hwrite : ∀ (task itemId : Nat) allBound consultedAt rest,
      m.tasks[task]? = some (Task.rebindWrite itemId allBound consultedAt rest) → running)
    (hfail : ∀ handler pump status, e = .backendFailed handler →
      m.posted[handler]? = some (pump, status) →
      m.state.acceptsFailure pump.service pump.id = true →
      m.state.carriesItemsLocked pump.service = true → running) (heffect : Effect m e b) :
    b.items.All fun _ item => item.needsRebind = true → running := by
  cases heffect with
  | create _ clientHandle valueId =>
    refine Table.All.insert h ?_
    intro hno
    cases hno
  | erase _ itemId => exact Table.All.erase h itemId
  | bind task choice call pump childId item _ _ _ _ hitem =>
    exact Table.All.insert h (h call.item item hitem)
  | write task choice itemId allBound consultedAt rest item htask hitem =>
    exact Table.All.insert h fun _ => hwrite task itemId allBound consultedAt rest htask
  | fail handler pump status hposted haccepted =>
    refine Table.All.mapValues h ?_
    intro itemId item hitem hbefore
    unfold State.loseBackend
    split
    · rename_i hbound
      intro _
      refine hfail handler pump status rfl hposted haccepted ?_
      exact List.any_eq_true.mpr ⟨item, Table.mem_values_iff.mpr ⟨itemId, hitem⟩, hbound⟩
    · exact hbefore
  | close => exact Table.all_empty
  | rehash items hperm => exact Table.All.perm h hperm
  | _ => exact h

theorem flagged_of_none {state : State} (h : pendingItems state = []) (running : Prop) :
    state.items.All fun _ item => item.needsRebind = true → running := by
  intro itemId item hitem hflag
  have hentry : ⟨itemId, item⟩ ∈ state.items.entries := AList.mem_lookup_iff.mp hitem
  have hmem : itemId ∈ pendingItems state :=
    List.mem_map.mpr ⟨⟨itemId, item⟩, List.mem_filter.mpr ⟨hentry, hflag⟩, rfl⟩
  rw [h] at hmem
  cases hmem

theorem countP_set_task {tasks : List Task} {t : Task} (ht : tasks[task]? = some t) (t' : Task) :
    (tasks.set task t').countP Task.isRebindLoop =
      tasks.countP Task.isRebindLoop - (if t.isRebindLoop then 1 else 0) +
        (if t'.isRebindLoop then 1 else 0) ∧
      (t.isRebindLoop = true → 0 < tasks.countP Task.isRebindLoop) := by
  obtain ⟨hlt, rfl⟩ := List.getElem?_eq_some_iff.mp ht
  refine ⟨List.countP_set hlt, ?_⟩
  intro hloop
  exact List.countP_pos_iff.mpr ⟨_, List.getElem_mem hlt, hloop⟩

theorem loopInv_run (h : LoopInv m) (task : Nat) (choice : Choice) :
    LoopInv (m.step (.run task choice)) := by
  cases ht : m.tasks[task]? with
  | none =>
    have hsame : m.step (.run task choice) = m := by simp [step, run, ht]
    rw [hsame]
    exact h
  | some t =>
    have hstate := state_step_run ht choice
    have hcount := countP_set_task ht (m.stepTask choice t).2
    have hloops : (m.step (.run task choice)).rebindLoops =
        m.rebindLoops - (if t.isRebindLoop then 1 else 0) +
          (if (m.stepTask choice t).2.isRebindLoop then 1 else 0) := by
      simp only [rebindLoops, step, run, ht, (stepTask_effect ht choice).2]
      exact hcount.1
    have hpos : t.isRebindLoop = true → 0 < m.rebindLoops := hcount.2
    have hclosed : (m.step (.run task choice)).state.closed = m.state.closed :=
      closed_step m (by simp)
    have hsingle := h.single
    cases stepTask_loop m choice t with
    | same hloop hrunning =>
      have hsame : (m.step (.run task choice)).rebindLoops = m.rebindLoops := by
        rw [hloops, hloop]
        split
        · rename_i hyes
          have := hpos hyes
          omega
        · omega
      rw [← hstate] at hrunning
      refine ⟨hsame ▸ h.single, ?_, ?_⟩
      · intro hopen
        rw [hsame, hrunning]
        exact h.running (hclosed ▸ hopen)
      · intro hopen
        have hbefore : m.state.closed = false := hclosed ▸ hopen
        rw [hrunning]
        refine flagged_effect (h.flagged hbefore) ?_ ?_ (m.step_effect _)
        · intro task' itemId allBound consultedAt rest htask'
          have hloop' : 0 < m.rebindLoops := (countP_set_task htask' .rebindDone).2 rfl
          exact (h.running hbefore).mpr (by omega)
        · intro handler pump status hno
          cases hno
    | closed hyes hdone =>
      refine ⟨?_, ?_, ?_⟩
      · rw [hloops, hdone]
        simp only [Bool.false_eq_true, if_false]
        omega
      · intro hopen
        rw [hclosed, hyes] at hopen
        cases hopen
      · intro hopen
        rw [hclosed, hyes] at hopen
        cases hopen
    | idle hloop hdone hrunning hitems hnone =>
      have hzero : (m.step (.run task choice)).rebindLoops = 0 := by
        rw [hloops, hloop, hdone]
        simp only [if_true, Bool.false_eq_true, if_false]
        omega
      refine ⟨by omega, ?_, ?_⟩
      · intro _
        rw [hzero, hstate, hrunning]
        decide
      · intro _
        have hkept : (m.step (.run task choice)).books.items = m.state.items := by
          show (m.step (.run task choice)).state.items = m.state.items
          rw [hstate, hitems]
        rw [hkept]
        exact flagged_of_none hnone _

theorem rebindRunning_backendFailed {handler : Nat} {pump : Pump}
    (hposted : m.posted[handler]? = some (pump, status))
    (haccepts : m.state.acceptsFailure pump.service pump.id = true) :
    (m.step (.backendFailed handler)).state.rebindRunning =
      (m.state.rebindRunning || m.state.carriesItemsLocked pump.service) := by
  simp only [step, hposted, onBackendFailed, haccepts, if_true, State.dropBackend]
  cases m.state.rebindRunning <;> simp

theorem rebindLoops_backendFailed {handler : Nat} {pump : Pump}
    (hposted : m.posted[handler]? = some (pump, status))
    (haccepts : m.state.acceptsFailure pump.service pump.id = true) :
    (m.step (.backendFailed handler)).rebindLoops =
      m.rebindLoops +
        if m.state.carriesItemsLocked pump.service && !m.state.rebindRunning then 1 else 0 := by
  have htasks : (m.step (.backendFailed handler)).tasks =
      if m.state.carriesItemsLocked pump.service && !m.state.rebindRunning then
        m.tasks ++ [.rebindWait]
      else m.tasks := by
    simp only [step, hposted, onBackendFailed, haccepts, if_true, State.dropBackend]
    rfl
  unfold rebindLoops
  rw [htasks]
  split
  · rw [List.countP_append]
    rfl
  · rfl

theorem LoopInv.rebindLoops_eq_zero (h : LoopInv m) (hopen : m.state.closed = false)
    (hrun : m.state.rebindRunning = false) : m.rebindLoops = 0 := by
  have hsingle := h.single
  have hidle : m.rebindLoops ≠ 1 := by
    intro hone
    rw [(h.running hopen).mpr hone] at hrun
    cases hrun
  omega

/-- A failure that takes a child off an item starts the loop if there is none. -/
theorem loopInv_backendFailed (h : LoopInv m) (handler : Nat) :
    LoopInv (m.step (.backendFailed handler)) := by
  cases hposted : m.posted[handler]? with
  | none =>
    have hsame : m.step (.backendFailed handler) = m := by simp [step, hposted]
    rw [hsame]
    exact h
  | some entry =>
    obtain ⟨pump, status⟩ := entry
    cases haccepts : m.state.acceptsFailure pump.service pump.id with
    | false =>
      have hstep : m.step (.backendFailed handler) =
          { m with posted := m.posted.eraseIdx handler } := by
        simp [step, hposted, onBackendFailed, haccepts]
      rw [hstep]
      exact ⟨h.single, h.running, h.flagged⟩
    | true =>
      have hopen : m.state.closed = false := by
        simp only [State.acceptsFailure, Bool.and_eq_true, Bool.not_eq_true'] at haccepts
        exact haccepts.1.1
      have hsingle := h.single
      have hrunning := h.running hopen
      have hstate := rebindRunning_backendFailed hposted haccepts
      have hloops := rebindLoops_backendFailed hposted haccepts
      refine ⟨?_, ?_, ?_⟩
      · rw [hloops]
        split
        · rename_i hstart
          rw [Bool.and_eq_true, Bool.not_eq_true'] at hstart
          rw [h.rebindLoops_eq_zero hopen hstart.2]
        · exact hsingle
      · intro _
        rw [hstate, hloops]
        cases hrun : m.state.rebindRunning with
        | true => simp [hrunning.mp hrun]
        | false =>
          rw [h.rebindLoops_eq_zero hopen hrun]
          cases m.state.carriesItemsLocked pump.service <;> simp
      · intro _
        rw [hstate]
        refine flagged_effect ?_ ?_ ?_ (m.step_effect _)
        · refine (h.flagged hopen).imp ?_
          intro _ item _ hbefore hflag
          rw [hbefore hflag, Bool.true_or]
        · intro task itemId allBound consultedAt rest htask
          have hloop : 0 < m.rebindLoops := (countP_set_task htask .rebindDone).2 rfl
          rw [hrunning.mpr (by omega), Bool.true_or]
        · intro handler' pump' status' heq hposted' _ hcarries
          cases heq
          rw [hposted] at hposted'
          cases hposted'
          rw [hcarries, Bool.or_true]

theorem LoopInv.congr {m' : Multiplexing} (h : LoopInv m) (hloops : m'.rebindLoops = m.rebindLoops)
    (hrunning : m'.state.rebindRunning = m.state.rebindRunning)
    (hclosed : m'.state.closed = false → m.state.closed = false)
    (hitems : m'.books.items.entries.Perm m.books.items.entries ∨ m'.books.items = ∅) :
    LoopInv m' := by
  refine ⟨hloops ▸ h.single, ?_, ?_⟩
  · intro hopen
    rw [hloops, hrunning]
    exact h.running (hclosed hopen)
  · intro hopen
    rw [hrunning]
    rcases hitems with hperm | hnone
    · exact (h.flagged (hclosed hopen)).perm hperm
    · rw [hnone]
      exact Table.all_empty

theorem loopInv_step (h : LoopInv m) (e : Event) : LoopInv (m.step e) := by
  cases e with
  | addItem request | removeItem itemId =>
    exact h.congr (by simp [rebindLoops, step, Task.isRebindLoop]) rfl id (.inl (.refl _))
  | run task choice => exact loopInv_run h task choice
  | readFails pump status =>
    dsimp only [step]
    split
    · exact h.congr rfl rfl id (.inl (.refl _))
    · exact h
  | backendFailed handler => exact loopInv_backendFailed h handler
  | close status =>
    dsimp only [step, Multiplexing.close]
    split
    · exact h
    · exact h.congr rfl rfl (fun hno => by cases hno) (.inr rfl)
  | rehash items =>
    dsimp only [step]
    split
    · rename_i hperm
      exact h.congr rfl rfl id (.inl hperm)
    · exact h

/-! ## AddItem on a closed subscription -/

theorem refused_step_of_ended (h : m.state.Ended) {request : MonitoredItemCreateRequest}
    (ht : m.tasks[task]? = some (.addItem request)) (e : Event) :
    ((m.step e).tasks[task]? = some (.addItem request) ∧ ∀ choice, e ≠ .run task choice) ∨
      (m.step e).tasks[task]? = some (refused request m.state.closeStatus) := by
  rcases getElem?_tasks_step ht e with ⟨choice, rfl, hnext⟩ | ⟨hother, hnext⟩
  · right
    rw [hnext, stepTask, if_pos h.closed]
  · exact Or.inl ⟨hnext, hother⟩

theorem refused_step {request : MonitoredItemCreateRequest}
    (ht : m.tasks[task]? = some (refused request status)) (e : Event) :
    (m.step e).tasks[task]? = some (refused request status) := by
  rcases getElem?_tasks_step ht e with ⟨choice, rfl, hnext⟩ | ⟨-, hnext⟩
  · rw [hnext]
    rfl
  · exact hnext

end Multiplexing

namespace Delivery

variable {V E : Type} (options : SubscriptionOptions)

/-- Closed, with nothing left in it and no reader registered. -/
structure Ended (d : Delivery V E) : Prop where
  state : d.control.state.Ended
  pending : d.queue.pending = []
  readWaiter : d.readWaiter = none

/-! ## The whole subscription -/

section Ended

variable {d : Delivery V E}

theorem state_step_of_ended (h : d.Ended) (e : Event V E) :
    (d.step options e).control.state = d.control.state := by
  rw [control_step]
  split
  · exact Multiplexing.state_step_of_ended h.state _
  · rfl

theorem pending_step_of_ended (h : d.Ended) (e : Event V E) :
    (d.step options e).queue.pending = [] := by
  have hnone : d.arrivals e = [] := if_pos h.state.closed
  rcases queue_step options d e with heq | ⟨-, ⟨n, heq⟩ | ⟨heq, -⟩⟩
  · rw [heq, hnone]
    exact h.pending
  · rw [heq]
    simp [BoundedQueue.take, h.pending]
  · rw [heq]
    rfl

/-- A reader of a closed subscription stays where it is until its own next step. -/
theorem readers_step_of_ended (h : d.Ended) (e : Event V E) :
    (d.step options e).readWaiter = none ∧ ∀ reader call, d.readers[reader]? = some call →
      e ≠ .read reader → (d.step options e).readers[reader]? = some call := by
  have hclosed : d.isClosed = true := h.state.closed
  have hwaiter := h.readWaiter
  cases e with
  | control e =>
    have hstep : d.step options (.control e) = { d with control := d.control.step e } := by
      cases e <;> simp [step, runControl, hclosed, outages_of_closed hclosed]
    rw [hstep]
    exact ⟨hwaiter, fun _ _ hcall _ => hcall⟩
  | push notification =>
    have hstep : d.step options (.push notification) = d := by
      simp [step, pushNotification, hclosed]
    rw [hstep]
    exact ⟨hwaiter, fun _ _ hcall _ => hcall⟩
  | sweep index =>
    dsimp only [step, sweep]
    split
    · exact ⟨hwaiter, fun _ _ hcall _ => hcall⟩
    · simp only [sweepBlocked, hclosed, if_true]
      exact ⟨hwaiter, fun _ _ hcall _ => hcall⟩
  | readNext maxCount =>
    refine ⟨hwaiter, ?_⟩
    intro reader call hcall _
    have hlt : reader < d.readers.length := (List.getElem?_eq_some_iff.mp hcall).1
    simp only [step, readNext]
    rw [List.getElem?_append_left hlt, hcall]
  | read reader' =>
    have hset : ∀ call' reader call, d.readers[reader]? = some call →
        (.read reader' : Event V E) ≠ .read reader →
          (d.readers.set reader' call')[reader]? = some call := by
      intro call' reader call hcall hne
      have hindex : reader' ≠ reader := by
        rintro rfl
        exact hne rfl
      rw [List.getElem?_set_ne hindex, hcall]
    have heffect := read_effect options d reader'
    simp only [step]
    generalize d.read options reader' = d' at heffect ⊢
    cases heffect with
    | stay => exact ⟨hwaiter, fun _ _ hcall _ => hcall⟩
    | move call point | deliver call count | start call timer => exact ⟨hwaiter, hset _⟩
    | register call hcall hfrom hopen =>
      rw [hclosed] at hopen
      cases hopen
    | release call timer =>
      refine ⟨?_, hset _⟩
      simp [setPoint, hwaiter]
  | _ => exact ⟨hwaiter, fun _ _ hcall _ => hcall⟩

theorem ended_step_of_ended (h : d.Ended) (e : Event V E) : (d.step options e).Ended :=
  ⟨state_step_of_ended options h e ▸ h.state, pending_step_of_ended options h e,
    (readers_step_of_ended options h e).1⟩

theorem ended_step (h : d.isClosed = true → d.Ended) (e : Event V E)
    (hclosed : (d.step options e).isClosed = true) : (d.step options e).Ended := by
  cases hbefore : d.isClosed with
  | true => exact ended_step_of_ended options (h hbefore) e
  | false =>
    have hopen : d.control.state.closed = false := hbefore
    have hstays : ∀ e', (∀ status, e' ≠ .close status) →
        (d.control.step e').state.closed = false :=
      fun e' hne => (d.control.closed_step hne).trans hopen
    unfold isClosed at hclosed
    rw [control_step] at hclosed
    cases e with
    | control e =>
      cases e with
      | close status =>
        have hcontrol : (d.control.step (.close status)).state.Ended :=
          Multiplexing.ended_step (by simp [hopen]) _ hclosed
        have hstep : d.step options (.control (.close status)) =
            discard { d with control := d.control.step (.close status) } := by
          simp [step, runControl, hbefore]
        rw [hstep, discard]
        refine ⟨?_, ?_, readWaiter_wake _⟩
        · rw [(wake_frame _).1.control]
          exact hcontrol
        · rw [queue_wake]
          rfl
      | _ =>
        rw [hstays _ (by simp)] at hclosed
        cases hclosed
    | _ =>
      rw [hopen] at hclosed
      cases hclosed

theorem readNext_step_of_ended (h : d.Ended) {reader maxCount : Nat}
    (hcall : d.readers[reader]? = some { maxCount }) (e : Event V E) :
    ((d.step options e).readers[reader]? = some { maxCount } ∧ e ≠ .read reader) ∨
      (d.step options e).readers[reader]? =
        some { maxCount, point := .done (.error d.control.state.closeStatus) } := by
  by_cases he : e = .read reader
  · subst he
    right
    have hclosed : d.isClosed = true := h.state.closed
    have hlt := (List.getElem?_eq_some_iff.mp hcall).1
    simp only [step, read, hcall, readCheck, hclosed, if_true, setPoint]
    exact List.getElem?_set_self hlt
  · exact Or.inl ⟨(readers_step_of_ended options h e).2 reader _ hcall he, he⟩

theorem done_step_of_ended (h : d.Ended) {reader maxCount : Nat} {status : Status}
    (hcall : d.readers[reader]? = some { maxCount, point := .done (.error status) })
    (e : Event V E) :
    (d.step options e).readers[reader]? = some { maxCount, point := .done (.error status) } := by
  by_cases he : e = .read reader
  · subst he
    simp [step, read, hcall]
  · exact (readers_step_of_ended options h e).2 reader _ hcall he

end Ended

/-! ## Runs -/

/-- What holds in every state of the subscription, of that state and of all that
can follow. -/
structure Lifecycle (d : Delivery V E) : Prop where
  /-- Once closed, it stays closed and empty, with the same status. -/
  final : d.isClosed = true → ∀ more, ((system options).runFrom d more).Ended ∧
    ((system options).runFrom d more).control.state.closeStatus = d.control.state.closeStatus
  /-- `AddItem` on the closed subscription has returned its status once it has run. -/
  refusesAdd : d.isClosed = true → ∀ request more choice,
    .control (.run d.control.tasks.length choice) ∈ more →
      ((system options).runFrom (d.step options (.control (.addItem request)))
        more).control.tasks[d.control.tasks.length]? =
          some (Multiplexing.refused request d.control.state.closeStatus)
  /-- And so has `ReadNext`, if it asks for anything. -/
  refusesRead : d.isClosed = true → ∀ maxCount more, maxCount ≠ 0 →
    .read d.readers.length ∈ more →
      ((system options).runFrom (d.step options (.readNext maxCount))
        more).readers[d.readers.length]? =
          some { maxCount, point := .done (.error d.control.state.closeStatus) }
  /-- An item that has lost a backend has a loop that will route it again. -/
  rebinding : d.isClosed = false →
    (∃ itemId item, d.control.state.items.lookup itemId = some item ∧ item.needsRebind = true) →
      d.control.state.rebindRunning = true ∧ ∃ t ∈ d.control.tasks, t.isRebindLoop = true
  single : d.control.rebindLoops ≤ 1

def EndedWith (status : Status) (d : Delivery V E) : Prop :=
  d.Ended ∧ d.control.state.closeStatus = status

theorem endedWith_step {status : Status} (d : Delivery V E) (e : Event V E)
    (h : d.EndedWith status) : (d.step options e).EndedWith status := by
  refine ⟨ended_step_of_ended options h.1 e, ?_⟩
  rw [state_step_of_ended options h.1 e]
  exact h.2

theorem refusesAdd_of_ended {d : Delivery V E} (h : d.Ended)
    (request : MonitoredItemCreateRequest) (more : List (Event V E)) (choice : Choice)
    (hmem : .control (.run d.control.tasks.length choice) ∈ more) :
    ((system options).runFrom (d.step options (.control (.addItem request)))
      more).control.tasks[d.control.tasks.length]? =
        some (Multiplexing.refused request d.control.state.closeStatus) := by
  have hstart : (d.step options (.control (.addItem request))).control.tasks[
      d.control.tasks.length]? = some (.addItem request) := by
    rw [control_step]
    simp [Multiplexing.step]
  have huntil := (system options).runFrom_until (EndedWith d.control.state.closeStatus)
    (fun d' => d'.control.tasks[d.control.tasks.length]? = some (.addItem request))
    (fun d' => d'.control.tasks[d.control.tasks.length]? =
      some (Multiplexing.refused request d.control.state.closeStatus))
    (fun e => ∃ choice, e = .control (.run d.control.tasks.length choice))
    (endedWith_step options) ?_ ?_ (endedWith_step options d _ ⟨h, rfl⟩) hstart more
  · rcases huntil with ⟨-, hnone⟩ | hlast
    · exact absurd ⟨choice, rfl⟩ (hnone _ hmem)
    · exact hlast
  · -- it waits for its first step
    intro d' e hd' ht
    show (d'.step options e).control.tasks[_]? = _ ∧ _ ∨ (d'.step options e).control.tasks[_]? = _
    rw [control_step, ← hd'.2]
    cases e with
    | control e => simpa using Multiplexing.refused_step_of_ended hd'.1.state ht e
    | _ => simpa using Or.inl ht
  · intro d' e hd' ht
    show (d'.step options e).control.tasks[_]? = _
    rw [control_step]
    cases e with
    | control e => exact Multiplexing.refused_step ht e
    | _ => exact ht

theorem refusesRead_of_ended {d : Delivery V E} (h : d.Ended) {maxCount : Nat}
    (hcount : maxCount ≠ 0) (more : List (Event V E)) (hmem : .read d.readers.length ∈ more) :
    ((system options).runFrom (d.step options (.readNext maxCount))
      more).readers[d.readers.length]? =
        some { maxCount, point := .done (.error d.control.state.closeStatus) } := by
  have hstart : (d.step options (.readNext maxCount)).readers[d.readers.length]? =
      some { maxCount } := by
    simp [step, readNext, hcount]
  have huntil := (system options).runFrom_until (EndedWith d.control.state.closeStatus)
    (fun d' => d'.readers[d.readers.length]? = some { maxCount })
    (fun d' => d'.readers[d.readers.length]? =
      some { maxCount, point := .done (.error d.control.state.closeStatus) })
    (· = .read d.readers.length)
    (endedWith_step options) ?_ ?_ (endedWith_step options d _ ⟨h, rfl⟩) hstart more
  · rcases huntil with ⟨-, hnone⟩ | hlast
    · exact absurd rfl (hnone _ hmem)
    · exact hlast
  · intro d' e hd' hcall
    rw [← hd'.2]
    exact readNext_step_of_ended options hd'.1 hcall e
  · intro d' e hd' hcall
    exact done_step_of_ended options hd'.1 hcall e

/-- **Lifecycle**: in every state of every run. -/
theorem always_lifecycle (es : List (Event V E)) :
    (system options).Always (Lifecycle options) es := by
  intro pre _
  have hended : ((system options).run pre).isClosed = true → ((system options).run pre).Ended := by
    refine (system options).invariant (fun d => d.isClosed = true → d.Ended) ?_ ?_ pre
    · intro hno
      cases hno
    · exact fun d e h => ended_step options h e
  have hloop : ((system options).run pre).control.LoopInv := by
    obtain ⟨controls, hcontrol⟩ := control_run options pre
    rw [hcontrol]
    exact Multiplexing.system.invariant _ Multiplexing.loopInv_init
      (fun m e h => Multiplexing.loopInv_step h e) controls
  generalize (system options).run pre = d at hended hloop
  constructor
  · intro hclosed more
    exact (system options).runFrom_invariant (EndedWith d.control.state.closeStatus)
      (endedWith_step options) ⟨hended hclosed, rfl⟩ more
  · intro hclosed request more choice
    exact refusesAdd_of_ended options (hended hclosed) request more choice
  · intro hclosed maxCount more hcount
    exact refusesRead_of_ended options (hended hclosed) hcount more
  · rintro hopen ⟨itemId, item, hitem, hflag⟩
    have hrunning := hloop.flagged hopen itemId item hitem hflag
    have hone : d.control.rebindLoops = 1 := (hloop.running hopen).mp hrunning
    have hpos : 0 < d.control.tasks.countP Task.isRebindLoop := by
      rw [show d.control.tasks.countP Task.isRebindLoop = 1 from hone]
      exact Nat.one_pos
    exact ⟨hrunning, List.countP_pos_iff.mp hpos⟩
  · exact hloop.single

end Delivery

end ScadaCore.Scada
