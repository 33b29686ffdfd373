import ScadaCore.Scada.LegacyAdapter

/-!
# Scada.AdapterLocks — what the adapter does under its mutexes

`Effect` says what an instruction of the adapter can do: most only touch an item
(`Local`), and seven touch the state. From it follows the `Shape` of a chain: the
mutex of the state is held from the start of a new pump until the item that
needed it is registered, and what runs in between is the read loop.
-/

namespace ScadaCore.Scada.LegacyAdapter

open Lts CallChain MonitoredItem

variable {V E : Type}

def Instr.underLock : Instr V E → Bool
  | .createSubscription _ | .register _ => true
  | _ => false

namespace Adapter

/-! ## What an instruction does -/

/-- The result of an instruction that only touches an item: it does not open it
again, and calls its handler only while it is open. -/
structure Local (a : Adapter V E) (r : Result V E) : Prop where
  state : r.1.state = a.state
  held : r.1.held = a.held
  owner : r.1.closedByOwner = a.closedByOwner
  calls : ∀ y ∈ r.2, y.underLock = false
  closed : ∀ i, (a.items i).closed → (r.1.items i).closed
  told : r.1.invocations = a.invocations ∨ ∃ invocation,
    r.1.invocations = a.invocations ++ [invocation] ∧ (a.items invocation.item).closed = false

variable {a : Adapter V E}

theorem Local.idle {calls : List (Instr V E)} (hcalls : ∀ y ∈ calls, y.underLock = false) :
    Local a (a, calls) :=
  ⟨rfl, rfl, rfl, hcalls, fun _ hi => hi, .inl rfl⟩

theorem Local.setItem {item : Nat} {itemState : ItemState} {calls : List (Instr V E)}
    (hclosed : (a.items item).closed → itemState.closed)
    (hcalls : ∀ y ∈ calls, y.underLock = false) :
    Local a (a.setItem item itemState, calls) := by
  refine ⟨rfl, rfl, rfl, hcalls, ?_, .inl rfl⟩
  intro i hi
  by_cases heq : i = item
  · subst heq
    simpa [Adapter.setItem] using hclosed hi
  · simpa [Adapter.setItem, heq] using hi

theorem Local.invoke {invocation : Invocation V E}
    (hopen : (a.items invocation.item).closed = false) : Local a (a.invoke invocation) :=
  ⟨rfl, rfl, rfl, by simp [Adapter.invoke, Instr.underLock], fun _ hi => hi,
    .inr ⟨invocation, rfl, hopen⟩⟩

variable (item : Nat)

theorem local_subscribe (handler : Handler) : Local a (a.subscribe item handler) := by
  apply Local.setItem
  · intro hclosed
    cases handler <;> exact hclosed
  · split <;> simp [Instr.underLock]

theorem local_destroy : Local a (a.destroy item) := by
  simp only [destroy]
  split
  · exact .idle (by simp)
  · apply Local.setItem (fun _ => rfl)
    split <;> simp [Instr.underLock]

theorem local_addItem : Local a (a.addItem item) := by
  simp only [addItem]
  split
  · exact .idle (by simp)
  · exact .setItem (fun hclosed => hclosed) (by simp [Instr.underLock])

theorem local_tellStatus {item : Nat} (hopen : (a.items item).closed = false) (status : Status)
    (now : Time) : Local a (a.tellStatus item status now) := by
  unfold tellStatus
  split
  · split
    · exact .invoke hopen
    · exact .idle (by simp [Instr.underLock])
  · split
    · exact .invoke hopen
    · exact .idle (by simp)

theorem local_report (status : Status) (now : Time) : Local a (a.report item status now) := by
  unfold report
  split
  · exact .idle (by simp)
  · next hopen => exact local_tellStatus (by simpa using hopen) status now

theorem local_itemAdded (clientHandle itemId : UInt32) :
    Local a (a.itemAdded item clientHandle itemId) := by
  unfold itemAdded
  split
  · exact .idle (by simp [Instr.underLock])
  · exact .setItem (fun hclosed => hclosed) (by simp)

theorem local_notify (now : Time) (notification : Notification V E) :
    Local a (a.notify now notification) := by
  unfold notify
  split
  · exact .idle (by simp)
  next item _ =>
    split
    · exact .idle (by simp)
    next hopen =>
      have hopen : (a.items item).closed = false := by simpa using hopen
      cases notification with
      | dataChange _ _ value | event _ _ status event =>
        simp only
        split
        · exact .invoke hopen
        · exact .idle (by simp)
      | itemStatus _ _ status => exact local_tellStatus hopen status now
      | overflow status => exact .idle (by simp)

theorem itemsAdded_calls (clientHandle : UInt32) (results : List CreateResult) :
    ∀ y ∈ (itemsAdded item clientHandle results : List (Instr V E)), y.underLock = false := by
  unfold itemsAdded
  split <;> simp [Instr.underLock]

theorem local_callAddItems (clientHandle : UInt32) :
    Local a (a.callAddItems item clientHandle) := by
  unfold callAddItems
  split
  · exact .idle (by simp [Instr.underLock])
  · exact .idle (itemsAdded_calls _ _ _)

theorem local_removeItems (itemId : UInt32) : Local a (a.removeItems itemId) := by
  unfold removeItems
  split
  · exact ⟨rfl, rfl, rfl, by simp, fun _ hi => hi, .inl rfl⟩
  · exact .idle (by simp)

theorem local_readReturned (answer : StatusOr (List (Notification V E))) :
    Local a (a.readReturned answer) := by
  unfold readReturned
  split
  · split
    · exact .idle (by simp [Instr.underLock])
    · apply Local.idle
      intro y hy
      rcases List.mem_append.mp hy with hnotify | hloop
      · obtain ⟨n, -, rfl⟩ := List.mem_map.mp hnotify
        rfl
      · rw [List.mem_singleton.mp hloop]
        rfl
  · exact .idle (by simp)

theorem foldl_closeItem (items : List Nat) :
    items.foldl closeItem a =
      { a with items := fun i =>
          if i ∈ items then { a.items i with closed := true } else a.items i } := by
  induction items generalizing a with
  | nil => simp
  | cons item items ih =>
    rw [List.foldl_cons, ih]
    simp only [closeItem, Adapter.setItem]
    congr 1
    funext i
    by_cases hhead : i = item
    · simp [hhead]
    · simp [hhead]

theorem local_closeItems (items : List Nat) : Local a (items.foldl closeItem a, []) := by
  rw [foldl_closeItem]
  refine ⟨rfl, rfl, rfl, by simp, ?_, .inl rfl⟩
  intro i hi
  by_cases hmem : i ∈ items
  · simp [hmem]
  · simpa [hmem] using hi

/-- What an instruction can do. -/
inductive Effect (a : Adapter V E) : Instr V E → Answer V E → Result V E → Prop
  | item {x answer r} (h : Local a r) : Effect a x answer r
  | unmap {x answer} (clientHandle) {calls} (hcalls : ∀ y ∈ calls, y.underLock = false) :
      Effect a x answer (a.eraseItemMapping clientHandle, calls)
  | closePump (now) : Effect a .closePump (.run now) (a.closePump, [])
  | close (status now) :
      Effect a (.close status) (.run now) { a with closedByOwner := true }.closeAll
  | fail (status now) : Effect a (.errorHandler status) (.run now) a.closeAll
  | start (item now) : Effect a (.startItem item) (.run now) (a.startItem item)
  | created (item answer) : Effect a (.createSubscription item) (.createSubscription answer)
      (a.subscriptionCreated item answer)
  | register (item now) : Effect a (.register item) (.run now) (a.register item)

theorem exec_effect {x : Instr V E} {answer : Answer V E} {r : Result V E}
    (h : a.exec x answer = some r) : Effect a x answer r := by
  cases x <;> cases answer <;> cases h
  case subscribe.run => exact .item (local_subscribe _ _)
  case destroy.run => exact .item (local_destroy _)
  case close.run => exact .close _ _
  case addItem.run => exact .item (local_addItem _)
  case startItem.run => exact .start _ _
  case createSubscription.createSubscription => exact .created _ _
  case register.run => exact .register _ _
  case callAddItems.run => exact .item (local_callAddItems _ _)
  case addItems.addItems => exact .item (.idle (itemsAdded_calls _ _ _))
  case eraseItemMapping.run => exact .unmap _ (by simp)
  case report.run => exact .item (local_report _ _ _)
  case closeItem.run => exact .item (.setItem (fun _ => rfl) (by simp))
  case itemAdded.run => exact .item (local_itemAdded _ _ _)
  case removeItem.run => exact .unmap _ (by split <;> simp [Instr.underLock])
  case removeItems.run => exact .item (local_removeItems _)
  case startReadLoop.run => exact .item (.idle (by simp [Instr.underLock]))
  case readLoop.run => exact .item (.idle (by split <;> simp [Instr.underLock]))
  case readNext.readNext => exact .item (local_readReturned _)
  case notify.run => exact .item (local_notify _ _)
  case errorHandler.run => exact .fail _ _
  case closeItems.run => exact .item (local_closeItems _)
  case closePump.run => exact .closePump _
  case handler.handlerReturns => exact .item (.idle (by simp))

theorem closeAll_calls : ∀ y ∈ a.closeAll.2, y.underLock = false := by
  simp only [closeAll]
  split
  · simp
  · split <;> simp [Instr.underLock]

theorem closeAll_held : a.closeAll.1.held = a.held := by
  unfold closeAll
  split <;> rfl

end Adapter

/-! ## The shape of a chain -/

def Instr.reads : Instr V E → Bool
  | .startReadLoop | .readLoop | .readNext => true
  | _ => false

/-- Where a chain can be with the critical section that starts the pump: outside
of it, in `CreateSubscription`, in the read loop that was spawned, or at its
end. -/
inductive Shape (a : Adapter V E) : List (Instr V E) → Prop
  | free {stack} (hheld : a.held = []) (hstack : ∀ x ∈ stack, x.underLock = false) :
      Shape a stack
  | creating {item rest} (hheld : a.held = [.state]) (hopen : a.state.closed = false)
      (hpump : a.state.pump = some {}) (hrest : ∀ x ∈ rest, x.underLock = false) :
      Shape a (.createSubscription item :: rest)
  | reading {x item rest} (hreads : x.reads) (hheld : a.held = [.state])
      (hopen : a.state.closed = false) (hpump : a.state.pump = some { started := true })
      (hrest : ∀ x ∈ rest, x.underLock = false) : Shape a (x :: .register item :: rest)
  | registering {item rest} (hheld : a.held = [.state]) (hopen : a.state.closed = false)
      (hpump : a.state.pump = some { started := true })
      (hrest : ∀ x ∈ rest, x.underLock = false) : Shape a (.register item :: rest)

/-- A thread that is not stuck; what is suspended is outside of the section. -/
structure Alive (s : Thread V E) : Prop where
  shape : Shape s.world s.stack
  suspended : ∀ x ∈ s.suspended, x.underLock = false

/-- An answer of `ReadNext` that leads to no item. -/
def Quiet (answer : StatusOr (List (Notification V E))) : Prop :=
  ∃ notifications, answer = .ok notifications ∧ ∀ n ∈ notifications, n.clientHandle? = none

/-- A `ReadNext` that returns while the mutex of the state is held returns
nothing for an item. -/
def ReadsQuietly (s : Thread V E) : Event V E → Prop
  | .act (.readNext answer) =>
    .state ∈ s.world.held → s.stack.head? = some .readNext → Quiet answer
  | _ => True

variable {x : Instr V E} {s : Thread V E}

theorem underLock_of_suspends (h : code.suspends x) : x.underLock = false := by
  cases x <;> first | rfl | cases h

theorem underLock_of_entry (h : code.entry x) : x.underLock = false := by
  cases x <;> first | rfl | cases h

theorem not_yields_of_reads (h : x.reads) : ¬ code.yields x := by
  cases x <;> simp_all [Instr.reads, code]

theorem acquires_of_reads (h : x.reads) (a : Adapter V E) : .state ∉ code.acquires a x := by
  cases x <;> simp_all [Instr.reads, code, Adapter.acquires]

namespace Shape

variable {a : Adapter V E} {answer : Answer V E} {r : Adapter.Result V E}
  {stack rest : List (Instr V E)}

theorem not_blocked (hshape : Shape a (x :: rest)) : ¬ Blocked code a x := by
  rintro ⟨m, hm, hmem⟩
  cases hshape with
  | free hheld => simp [code, hheld] at hmem
  | creating hheld =>
    have hitem : m = .item _ := List.mem_singleton.mp hm
    simp [code, hheld, hitem] at hmem
  | reading hreads hheld =>
    have hstate : m = .state := by simpa [code, hheld] using hmem
    exact acquires_of_reads hreads a (hstate ▸ hm)
  | registering => cases hm

theorem free_of_idle (hshape : Shape a stack) (hidle : idle code stack) :
    a.held = [] ∧ ∀ x ∈ stack, x.underLock = false := by
  cases hshape with
  | free hheld hstack => exact ⟨hheld, hstack⟩
  | creating => cases hidle
  | reading hreads => exact absurd hidle (not_yields_of_reads hreads)
  | registering => cases hidle

/-- Of what is in the section only the read loop can be suspended. -/
theorem suspend (hshape : Shape a (x :: rest)) (hsuspends : code.suspends x) : Shape a rest := by
  cases hshape with
  | free hheld hstack => exact .free hheld fun y hy => hstack y (.tail _ hy)
  | creating => cases hsuspends
  | reading hreads hheld hopen hpump hrest => exact .registering hheld hopen hpump hrest
  | registering => cases hsuspends

theorem free_append (hheld : a.held = []) (hstack : ∀ y ∈ stack, y.underLock = false)
    (hrest : ∀ y ∈ rest, y.underLock = false) : Shape a (stack ++ rest) := by
  refine .free hheld fun y hy => ?_
  rcases List.mem_append.mp hy with hy | hy
  · exact hstack y hy
  · exact hrest y hy

theorem free_register {item : Nat} (hheld : a.held.erase .state = [])
    (hrest : ∀ y ∈ rest, y.underLock = false) :
    Shape (a.register item).1 ((a.register item).2 ++ rest) :=
  free_append hheld (by simp [Adapter.register, Instr.underLock]) hrest

theorem exec_free (hheld : a.held = []) (hx : x.underLock = false)
    (hrest : ∀ y ∈ rest, y.underLock = false) (heffect : a.Effect x answer r) :
    Shape r.1 (r.2 ++ rest) := by
  cases heffect with
  | item h => exact free_append (h.held.trans hheld) h.calls hrest
  | unmap clientHandle hcalls => exact free_append hheld hcalls hrest
  | closePump now => exact .free hheld hrest
  | close status now | fail status now =>
    exact free_append (Adapter.closeAll_held.trans hheld) Adapter.closeAll_calls hrest
  | start item now =>
    unfold Adapter.startItem
    split
    · exact .free hheld hrest
    next hopen =>
      split
      · -- the pump is there: the section ends at once
        exact free_register (by simp [hheld]) hrest
      · exact .creating (by simp [hheld]) (by simpa using hopen) rfl hrest
  | created item answer => cases hx
  | register item now => cases hx

/-- What runs in the section stays in it or leaves it, as long as nothing is read
there that leads to an item. -/
theorem exec_top (hshape : Shape a (x :: rest)) (hexec : a.exec x answer = some r)
    (hquiet : ∀ read, answer = .readNext read → a.held = [.state] → Quiet read) :
    Shape r.1 (r.2 ++ rest) := by
  cases hshape with
  | free hheld hstack =>
    have hrest : ∀ y ∈ rest, y.underLock = false := fun y hy => hstack y (.tail _ hy)
    exact exec_free hheld (hstack x (.head _)) hrest (Adapter.exec_effect hexec)
  | creating hheld hopen hpump hrest =>
    -- a start that failed leaves the section, one that did not spawns the loop in it
    cases answer <;> cases hexec
    next created =>
      rcases created with _ | ⟨⟨⟩⟩
      · refine .free ?_ hrest
        simp [Adapter.subscriptionCreated, Adapter.closeItem, Adapter.setItem, hheld]
      · exact .reading rfl hheld hopen (by simp [Adapter.subscriptionCreated, hpump]) hrest
  | reading hreads hheld hopen hpump hrest =>
    have hconnected : a.state.pump.any Pump.connected = true := by rw [hpump]; rfl
    cases x with
    | startReadLoop =>
      cases answer <;> cases hexec
      exact .reading rfl hheld hopen hpump hrest
    | readLoop =>
      cases answer <;> cases hexec
      simp only [Adapter.readLoop, hconnected]
      exact .reading rfl hheld hopen hpump hrest
    | readNext =>
      cases answer <;> cases hexec
      next read =>
        obtain ⟨notifications, rfl, hnone⟩ := hquiet read rfl hheld
        have hfilter : notifications.filter (·.clientHandle?.isSome) = [] := by
          simpa [List.filter_eq_nil_iff] using hnone
        simp only [Adapter.readReturned, hconnected, hfilter]
        exact .reading rfl hheld hopen hpump hrest
    | _ => cases hreads
  | registering hheld hopen hpump hrest =>
    cases answer <;> cases hexec
    exact free_register (by simp [hheld]) hrest

end Shape

theorem Alive.step {s' : Thread V E} {e : Event V E} (h : Alive s) (hquiet : ReadsQuietly s e)
    (hmove : Move code s e s') : Alive s' := by
  obtain ⟨hshape, hsuspended⟩ := h
  cases hmove with
  | stay => exact ⟨hshape, hsuspended⟩
  | call x hentry hidle =>
    obtain ⟨hheld, hstack⟩ := hshape.free_of_idle hidle
    refine ⟨.free hheld ?_, hsuspended⟩
    intro y hy
    rcases List.mem_cons.mp hy with rfl | hy
    · exact underLock_of_entry hentry
    · exact hstack y hy
  | exec x rest answer world calls hstack hfree hexec =>
    rw [hstack] at hshape
    refine ⟨hshape.exec_top hexec ?_, hsuspended⟩
    rintro read rfl hheld
    -- the only instruction that waits for this answer is `ReadNext`
    have htop : x = .readNext := by cases x <;> first | rfl | cases hexec
    exact hquiet (by simp [hheld]) (by simp [hstack, htop])
  | suspend x rest hstack hsuspends =>
    rw [hstack] at hshape
    refine ⟨hshape.suspend hsuspends, ?_⟩
    intro y hy
    rcases List.mem_append.mp hy with hy | hy
    · exact hsuspended y hy
    · rw [List.mem_singleton.mp hy]
      exact underLock_of_suspends hsuspends
  | resume n x hstack hmem =>
    rw [hstack] at hshape
    obtain ⟨hheld, -⟩ := hshape.free_of_idle rfl
    refine ⟨.free hheld ?_, ?_⟩
    · intro y hy
      rw [List.mem_singleton.mp hy]
      exact hsuspended x (List.mem_of_getElem? hmem)
    · intro y hy
      exact hsuspended y (List.mem_of_mem_eraseIdx hy)

/-! ## Self-deadlock -/

/-- The read loop has come back for the mutex of the state, which its own chain
holds. -/
structure Dead (s : Thread V E) : Prop where
  held : s.world.held = [.state]
  top : ∃ x rest, s.stack = x :: rest ∧
    ((∃ status, x = .errorHandler status) ∨ ∃ n, x = .notify n ∧ n.clientHandle?.isSome)

theorem Dead.selfDeadlock (h : Dead s) : SelfDeadlock code s := by
  obtain ⟨hheld, x, rest, hstack, htop⟩ := h
  refine ⟨x, rest, hstack, .state, ?_, by simp [code, hheld]⟩
  rcases htop with ⟨status, rfl⟩ | ⟨n, rfl, hn⟩
  · simp [code, Adapter.acquires]
  · simp [code, Adapter.acquires, hn]

/-- The read loop comes back for the mutex with whatever leads to an item. -/
theorem readReturned_of_not_quiet {a : Adapter V E} {read : StatusOr (List (Notification V E))}
    (hconnected : a.state.pump.any Pump.connected) (hloud : ¬ Quiet read) :
    ∃ x calls, a.readReturned read = (a, x :: calls) ∧
      ((∃ status, x = .errorHandler status) ∨ ∃ n, x = .notify n ∧ n.clientHandle?.isSome) := by
  unfold Adapter.readReturned
  rw [if_pos hconnected]
  rcases read with status | notifications
  · exact ⟨.errorHandler status, [], rfl, .inl ⟨status, rfl⟩⟩
  · cases hnamed : notifications.filter (·.clientHandle?.isSome) with
    | nil =>
      have hnone : ∀ n ∈ notifications, n.clientHandle? = none := by
        simpa [List.filter_eq_nil_iff] using hnamed
      exact absurd ⟨notifications, rfl, hnone⟩ hloud
    | cons n named =>
      have hmem : n ∈ notifications.filter (·.clientHandle?.isSome) := by
        rw [hnamed]
        exact List.mem_cons_self
      exact ⟨.notify n, _, by simp only [hnamed]; rfl, .inr ⟨n, rfl, (List.mem_filter.mp hmem).2⟩⟩

theorem Alive.dies {e : Event V E} (h : Alive s) (hloud : ¬ ReadsQuietly s e) :
    Dead (thread.step s e) := by
  obtain ⟨read, rfl, hheld, htop, hread⟩ : ∃ read, e = .act (.readNext read) ∧
      .state ∈ s.world.held ∧ s.stack.head? = some .readNext ∧ ¬ Quiet read := by
    rcases e with _ | answer | _ | _
    case act =>
      cases answer with
      | readNext read =>
        simp only [ReadsQuietly, not_forall] at hloud
        obtain ⟨hheld, htop, hread⟩ := hloud
        exact ⟨read, rfl, hheld, htop, hread⟩
      | _ => exact absurd trivial hloud
    all_goals exact absurd trivial hloud
  -- the mutex is held and `ReadNext` is on top: the chain is in the section, reading
  rcases s with ⟨a, stack, suspended⟩
  have hshape : Shape a stack := h.shape
  cases hshape with
  | free hnone =>
    rw [hnone] at hheld
    cases hheld
  | creating => cases htop
  | registering => cases htop
  | @reading x item rest hreads hstate hopen hpump =>
    obtain rfl : x = .readNext := Option.some.inj htop
    have hconnected : a.state.pump.any Pump.connected := by rw [hpump]; rfl
    obtain ⟨x, calls, hreturned, hx⟩ := readReturned_of_not_quiet hconnected hread
    have hexec : a.exec .readNext (.readNext read) = some (a, x :: calls) := by
      rw [← hreturned]
      rfl
    rw [thread_step_act h.shape.not_blocked hexec]
    exact ⟨hstate, x, _, rfl, hx⟩

theorem Alive.not_selfDeadlock (h : Alive s) : ¬ SelfDeadlock code s := by
  rintro ⟨x, rest, hstack, hblocked⟩
  have hshape := h.shape
  rw [hstack] at hshape
  exact hshape.not_blocked hblocked

/-- A chain of calls waits for itself exactly if the first `ReadNext` of a new
pump returns at once with an error or a notification for an item. -/
theorem always_not_selfDeadlock_iff (es : List (Event V E)) :
    thread.Always (fun s => ¬ SelfDeadlock code s) es ↔ thread.Meets ReadsQuietly es := by
  refine thread.always_iff_meets Alive _ ReadsQuietly ?_ (fun s h => h.not_selfDeadlock) ?_ ?_ es
  · exact ⟨.free rfl (by simp [thread, system]), by simp [thread, system]⟩
  · intro s e h hquiet
    exact h.step hquiet (step_move code s e)
  · intro s e h hloud
    exact not_not.mpr (h.dies hloud).selfDeadlock

/-- One item is subscribed on an idle thread. The backend creates a subscription,
and the first `ReadNext` fails at once. -/
def failingReadRun : List (Event V E) :=
  [.call (.subscribe 0 (.dataChange true)), .act (.run 0), .act (.run 0), .act (.run 0),
    .act (.createSubscription (.ok ())), .act (.run 0), .act (.run 0),
    .act (.readNext (.error Status.disconnected))]

theorem failingReadRun_selfDeadlock :
    SelfDeadlock code (thread.run (failingReadRun : List (Event Nat Nat))) := by
  refine ⟨.errorHandler StatusCode.badDisconnected, [.register 0], rfl, .state, ?_, ?_⟩
  · decide
  · decide

end ScadaCore.Scada.LegacyAdapter
