import ScadaCore.Scada.AdapterLocks

/-!
# Scada.AdapterFailures — which failures a subscriber hears of

An item can lose its backend in three ways: the subscription cannot be started,
its add is refused, or the read loop fails. Of these the adapter reports the
refused add, by a call of the item's handler, as soon as the thread has run what the
refusal has pushed; an item that is lost in any other way is closed without a word.
-/

namespace ScadaCore.Scada.LegacyAdapter

open Lts CallChain MonitoredItem Adapter

variable {V E : Type}

def Adapter.Listening (a : Adapter V E) (item : Nat) : Prop :=
  ((a.items item).dataChangeHandler ∨ (a.items item).eventHandler) ∧
    (a.items item).closed = false

/-- The step takes the backend of the item away, or finds that it has none: the
subscription failed to start, now or before; or the read loop fails that serves
the item or is started for it. -/
inductive Drops (s : Thread V E) : Event V E → Nat → Prop
  | closedBefore {item rest} (now) (hstack : s.stack = .startItem item :: rest)
      (hclosed : s.world.state.closed) (howner : s.world.closedByOwner = false) :
      Drops s (.act (.run now)) item
  | startFailed {item rest} (error) (hstack : s.stack = .createSubscription item :: rest) :
      Drops s (.act (.createSubscription (.error error))) item
  | readFailed {item rest} (error) (hstack : s.stack = .readNext :: rest)
      (hpump : s.world.state.pump.any Pump.connected)
      (hitem : item ∈ s.world.state.itemsByClientHandle.values ∨ .register item ∈ rest) :
      Drops s (.act (.readNext (.error error))) item

/-- The add of the item is refused, by the backend or by a pump without one. -/
inductive Refuses (s : Thread V E) : Event V E → Nat → Prop
  | backend {item clientHandle rest results}
      (hstack : s.stack = .addItems item clientHandle :: rest)
      (hbad : (Adapter.resultStatus results).bad) : Refuses s (.act (.addItems results)) item
  | pump {item clientHandle rest} (now) (hstack : s.stack = .callAddItems item clientHandle :: rest)
      (hpump : s.world.state.pump.any Pump.connected = false) : Refuses s (.act (.run now)) item

/-- A handler of the item has been called with a Bad status since the first
`count` calls. -/
def ToldSince (count : Nat) (s : Thread V E) (item : Nat) : Prop :=
  ∃ invocation ∈ s.world.invocations.drop count, invocation.item = item ∧ invocation.isBad

/-- The thread gets a turn: it runs the instruction that is on top. -/
def isTurn : Event V E → Bool
  | .act (.run _) => true
  | _ => false

/-- The thread gets as many turns as the step has pushed instructions. -/
def WorksOff (s : Thread V E) (e : Event V E) (es : List (Event V E)) : Prop :=
  (thread.step s e).stack.length ≤ s.stack.tail.length + es.countP isTurn

/-- Every listening item that the step takes the backend from is told: its handler has
been called with a Bad status once the thread has worked off what the step has pushed,
whatever else happens. -/
def Reported (s : Thread V E) (e : Event V E) : Prop :=
  ∀ item, s.world.Listening item → Drops s e item ∨ Refuses s e item →
    ∀ es, WorksOff s e es →
      ToldSince s.world.invocations.length (thread.runFrom (thread.step s e) es) item

/-- No listening item that the step takes the backend from without refusing it is ever
told. -/
def DropsSilently (s : Thread V E) (e : Event V E) : Prop :=
  ∀ item, s.world.Listening item → Drops s e item →
    ¬ ∃ es, ToldSince s.world.invocations.length (thread.runFrom (thread.step s e) es) item

/-! ## What is mapped -/

/-- The map holds nothing before a pump is started and after the adapter is
closed. -/
structure Mapped (a : Adapter V E) : Prop where
  closed : a.state.closed → a.state.itemsByClientHandle = ∅
  unstarted : a.state.pump.any Pump.started = false → a.state.itemsByClientHandle = ∅
  pump : a.held = [] → a.state.closed = false → ∀ pump ∈ a.state.pump, pump.started

variable {a : Adapter V E} {rest : List (Instr V E)} {s : Thread V E} {e : Event V E} {item : Nat}

theorem Mapped.closeAll (h : Mapped a) : Mapped a.closeAll.1 := by
  unfold Adapter.closeAll
  split
  · exact h
  · exact ⟨fun _ => rfl, fun _ => rfl, fun _ hopen => by cases hopen⟩

theorem Mapped.exec {x : Instr V E} {answer : Answer V E} {r : Adapter.Result V E} (h : Mapped a)
    (hshape : Shape a (x :: rest)) (heffect : a.Effect x answer r) : Mapped r.1 := by
  cases heffect with
  | item hlocal =>
    refine ⟨?_, ?_, ?_⟩
    · rw [hlocal.state]
      exact h.closed
    · rw [hlocal.state]
      exact h.unstarted
    · rw [hlocal.state, hlocal.held]
      exact h.pump
  | unmap clientHandle =>
    refine ⟨?_, ?_, h.pump⟩
    · intro hclosed
      simp only [eraseItemMapping, h.closed hclosed]
      rfl
    · intro hpump
      simp only [eraseItemMapping, h.unstarted hpump]
      rfl
  | closePump =>
    have hstarted : a.closePump.state.pump.any Pump.started = a.state.pump.any Pump.started := by
      simp only [closePump]
      cases a.state.pump <;> rfl
    refine ⟨h.closed, ?_, ?_⟩
    · rw [hstarted]
      exact h.unstarted
    · intro hheld hopen pump hpump
      obtain ⟨pump₀, hpump₀, rfl⟩ := Option.map_eq_some_iff.mp hpump
      exact h.pump hheld hopen pump₀ hpump₀
  | close => exact Mapped.closeAll ⟨h.closed, h.unstarted, h.pump⟩
  | fail => exact h.closeAll
  | start item =>
    unfold startItem
    split
    · exact ⟨h.closed, h.unstarted, h.pump⟩
    next hopen =>
      split
      next pump hpump =>
        -- the pump has been started, as nothing is held here
        have hheld : a.held = [] := by
          cases hshape with
          | free hheld => exact hheld
          | reading hreads => cases hreads
        have hstarted : pump.started := h.pump hheld (by simpa using hopen) pump hpump
        refine ⟨fun hclosed => absurd hclosed hopen, ?_, ?_⟩
        · intro hnot
          simp [register, hpump, hstarted] at hnot
        · intro _ _ pump' hpump'
          rw [show pump' = pump from Option.some.inj (hpump'.symm.trans hpump)]
          exact hstarted
      next hpump =>
        have hempty := h.unstarted (by rw [hpump]; rfl)
        exact ⟨fun _ => hempty, fun _ => hempty, fun hheld => by cases hheld⟩
  | created item answer =>
    cases hshape with
    | free _ hstack => cases hstack _ (.head _)
    | reading hreads => cases hreads
    | creating hheld hopen hpump =>
      have hempty := h.unstarted (by rw [hpump]; rfl)
      rcases answer with error | ⟨⟨⟩⟩
      · exact ⟨fun _ => hempty, fun _ => hempty, fun _ hopen' => by cases hopen'⟩
      · refine ⟨fun _ => hempty, fun _ => hempty, fun hfree => ?_⟩
        cases hheld.symm.trans hfree
  | register item =>
    cases hshape with
    | free _ hstack => cases hstack _ (.head _)
    | reading hreads => cases hreads
    | registering hheld hopen hpump =>
      refine ⟨?_, ?_, ?_⟩
      · intro hclosed
        cases hopen.symm.trans hclosed
      · intro hnot
        simp [register, hpump] at hnot
      · intro _ _ pump hpump'
        rw [show pump = { started := true } from Option.some.inj (hpump'.symm.trans hpump)]

/-- What holds of every state of every run. -/
structure Inv (s : Thread V E) : Prop where
  mapped : Mapped s.world
  alive : Alive s ∨ Dead s

theorem Dead.eq_of_move {s' : Thread V E} (h : Dead s) (hmove : Move code s e s') : s' = s := by
  obtain ⟨x, rest, hstack, htop⟩ := h.top
  obtain ⟨x', rest', hstack', hblocked⟩ := h.selfDeadlock
  obtain ⟨rfl, rfl⟩ : x' = x ∧ rest' = rest := List.cons.inj (hstack'.symm.trans hstack)
  refine hmove.eq_of_blocked hstack hblocked ?_ ?_
  · rcases htop with ⟨status, rfl⟩ | ⟨n, rfl, -⟩ <;> simp [code]
  · rcases htop with ⟨status, rfl⟩ | ⟨n, rfl, -⟩ <;> simp [code]

theorem Inv.step (h : Inv s) (e : Event V E) : Inv (thread.step s e) := by
  have hmove : Move code s e (thread.step s e) := step_move code s e
  rcases h.alive with halive | hdead
  · constructor
    · generalize thread.step s e = s' at hmove
      cases hmove with
      | exec x rest answer world calls hstack _ hexec =>
        have hshape : Shape s.world (x :: rest) := hstack ▸ halive.shape
        exact h.mapped.exec hshape (exec_effect hexec)
      | _ => exact h.mapped
    · by_cases hquiet : ReadsQuietly s e
      · exact .inl (halive.step hquiet hmove)
      · exact .inr (halive.dies hquiet)
  · rw [hdead.eq_of_move hmove]
    exact h

theorem inv_init : Inv (thread.init : Thread V E) :=
  ⟨⟨fun _ => rfl, fun _ => rfl, fun _ _ _ hpump => by cases hpump⟩,
    .inl ⟨.free rfl (by simp [thread, system]), by simp [thread, system]⟩⟩

/-! ## Silence -/

namespace Adapter.Effect

variable {x : Instr V E} {answer : Answer V E} {r : Result V E}

theorem closeAll_items (a : Adapter V E) : a.closeAll.1.items = a.items := by
  unfold closeAll
  split <;> rfl

theorem closeAll_invocations (a : Adapter V E) : a.closeAll.1.invocations = a.invocations := by
  unfold closeAll
  split <;> rfl

/-- `CloseItem` is the only way an item changes outside of its own functions. -/
theorem closeItem_closed {i : Nat} (item : Nat) (hi : (a.items i).closed) :
    ((a.closeItem item).items i).closed := by
  have hlocal : Local a (a.closeItem item, []) := .setItem (fun _ => rfl) (by simp)
  exact hlocal.closed i hi

theorem closed (h : a.Effect x answer r) {i : Nat} (hi : (a.items i).closed) :
    (r.1.items i).closed := by
  cases h with
  | item hlocal => exact hlocal.closed i hi
  | unmap => exact hi
  | closePump => exact hi
  | close | fail =>
    rw [closeAll_items]
    exact hi
  | start item =>
    unfold startItem
    split
    · exact closeItem_closed item hi
    · split <;> exact hi
  | created item answer =>
    rcases answer with error | ⟨⟨⟩⟩
    · exact closeItem_closed item hi
    · exact hi
  | register => exact hi

theorem told (h : a.Effect x answer r) :
    r.1.invocations = a.invocations ∨ ∃ invocation,
      r.1.invocations = a.invocations ++ [invocation] ∧
        (a.items invocation.item).closed = false := by
  cases h with
  | item hlocal => exact hlocal.told
  | unmap => exact .inl rfl
  | closePump => exact .inl rfl
  | close | fail => exact .inl (closeAll_invocations _)
  | start item =>
    left
    unfold startItem
    split
    · rfl
    · split <;> rfl
  | created item answer =>
    left
    rcases answer with error | ⟨⟨⟩⟩ <;> rfl
  | register => exact .inl rfl

end Adapter.Effect

/-- The item is closed, or nothing else can happen before it is closed, or nothing
can happen at all. -/
inductive Doomed (s : Thread V E) (item : Nat) : Prop
  | closed (h : (s.world.items item).closed)
  | closing {items rest} (hstack : s.stack = .closeItems items :: rest) (hitem : item ∈ items)
  | failing {status rest} (hstack : s.stack = .errorHandler status :: rest)
      (hopen : s.world.state.closed = false)
      (hitem : item ∈ s.world.state.itemsByClientHandle.values)
  | dead (h : Dead s)

def Untold (s₀ : Thread V E) (item : Nat) (s : Thread V E) : Prop :=
  ∃ since, s.world.invocations = s₀.world.invocations ++ since ∧
    ∀ invocation ∈ since, invocation.item ≠ item

theorem Doomed.step {s₀ s' : Thread V E} (h : Doomed s item) (huntold : Untold s₀ item s)
    (hmove : Move code s e s') : Doomed s' item ∧ Untold s₀ item s' := by
  cases h with
  | closed hclosed =>
    cases hmove with
    | exec x rest answer world calls hstack hfree hexec =>
      have heffect := exec_effect hexec
      refine ⟨.closed (heffect.closed hclosed), ?_⟩
      obtain ⟨since, hsince, hother⟩ := huntold
      rcases heffect.told with hsame | ⟨invocation, happend, hopen⟩
      · exact ⟨since, hsame.trans hsince, hother⟩
      · refine ⟨since ++ [invocation], ?_, ?_⟩
        · rw [happend, hsince, List.append_assoc]
        · intro i hi
          rcases List.mem_append.mp hi with hi | hi
          · exact hother i hi
          · -- the one that was called is open
            rw [List.mem_singleton.mp hi]
            rintro rfl
            cases hopen.symm.trans hclosed
    | _ => exact ⟨.closed hclosed, huntold⟩
  | closing hstack hitem =>
    rcases hmove.eq_or_exec hstack (by simp [code]) (by simp [code]) with
      rfl | ⟨answer, world, calls, -, hexec, rfl⟩
    · exact ⟨.closing hstack hitem, huntold⟩
    · cases answer <;> cases hexec
      refine ⟨.closed ?_, ?_⟩
      · simp [foldl_closeItem, hitem]
      · rw [foldl_closeItem]
        exact huntold
  | failing hstack hopen hitem =>
    rcases hmove.eq_or_exec hstack (by simp [code]) (by simp [code]) with
      rfl | ⟨answer, world, calls, -, hexec, rfl⟩
    · exact ⟨.failing hstack hopen hitem, huntold⟩
    · have hcloseAll : s.world.closeAll = (world, calls) := by
        cases answer with
        | run now => exact Option.some.inj hexec
        | _ => cases hexec
      simp only [closeAll, hopen] at hcloseAll
      cases hcloseAll
      exact ⟨.closing rfl hitem, huntold⟩
  | dead hdead =>
    rw [hdead.eq_of_move hmove]
    exact ⟨.dead hdead, huntold⟩

theorem Doomed.not_told (h : Doomed s item) (es : List (Event V E)) :
    ¬ ToldSince s.world.invocations.length (thread.runFrom s es) item := by
  have hinv := thread.runFrom_invariant (fun s' => Doomed s' item ∧ Untold s item s')
    (fun s' e hs' => hs'.1.step hs'.2 (step_move code s' e))
    ⟨h, [], by simp, by simp⟩ es
  obtain ⟨-, since, hsince, hother⟩ := hinv
  rintro ⟨invocation, hmem, hitem, -⟩
  rw [hsince, List.drop_left] at hmem
  exact hother invocation hmem hitem

/-! ## Which losses are reported -/

theorem Inv.shape (h : Inv s) {x : Instr V E} (hstack : s.stack = x :: rest)
    (herror : ∀ status, x ≠ .errorHandler status) (hnotify : ∀ n, x ≠ .notify n) :
    Shape s.world (x :: rest) := by
  rcases h.alive with halive | hdead
  · exact hstack ▸ halive.shape
  · obtain ⟨y, rest', hstack', htop⟩ := hdead.top
    obtain ⟨rfl, -⟩ : y = x ∧ rest' = rest := List.cons.inj (hstack'.symm.trans hstack)
    rcases htop with ⟨status, rfl⟩ | ⟨n, rfl, -⟩
    · exact absurd rfl (herror status)
    · exact absurd rfl (hnotify n)

/-- An item that is dropped is doomed, and has not been called in that step. -/
theorem Drops.doomed (hinv : Inv s) (h : Drops s e item) :
    Doomed (thread.step s e) item ∧
      (thread.step s e).world.invocations = s.world.invocations := by
  rcases s with ⟨a, stack, suspended⟩
  cases h with
  | closedBefore now hstack hclosed howner =>
    have hshape := hinv.shape hstack (by simp) (by simp)
    have hexec : a.exec (.startItem item) (.run now) = some (a.closeItem item, []) := by
      simp only [exec, startItem, if_pos hclosed]
    cases hstack
    rw [thread_step_act hshape.not_blocked hexec]
    exact ⟨.closed (by simp [closeItem, setItem]), rfl⟩
  | startFailed error hstack =>
    have hshape := hinv.shape hstack (by simp) (by simp)
    cases hstack
    rw [thread_step_act hshape.not_blocked rfl]
    exact ⟨.closed (by simp [subscriptionCreated, closeItem, setItem]),
      rfl⟩
  | @readFailed _ rest error hstack hpump hitem =>
    have hshape := hinv.shape hstack (by simp) (by simp)
    have hexec : a.exec .readNext (.readNext (.error error)) =
        some (a, [.errorHandler error]) := by
      simp only [exec, readReturned, if_pos hpump]
    cases hstack
    rw [thread_step_act hshape.not_blocked hexec]
    refine ⟨?_, rfl⟩
    cases hshape with
    | free hheld hfree =>
      -- outside of the section `CloseAll` runs, and closes what is mapped
      rcases hitem with hitem | hitem
      · have hopen : a.state.closed = false := by
          by_contra hclosed
          rw [hinv.mapped.closed (by simpa using hclosed)] at hitem
          cases hitem
        exact .failing rfl hopen hitem
      · cases hfree _ (.tail _ hitem)
    | reading hreads hheld =>
      -- within it `CloseAll` waits for the mutex of its own chain
      exact .dead ⟨hheld, _, _, rfl, .inl ⟨_, rfl⟩⟩

theorem tellStatus_told {status : Status} (now : Time) (hlisten : a.Listening item)
    (hbad : status.bad) :
    ∃ invocation, a.tellStatus item status now = a.invoke invocation ∧
      invocation.item = item ∧ invocation.isBad := by
  have hcode : status.code.isBad := (Status.bad_eq_code_isBad status).symm.trans hbad
  have hgood : ¬ status.code.isGood := Status.not_code_isGood_of_bad hbad
  unfold tellStatus
  by_cases hdata : (a.items item).dataChangeHandler
  · rw [if_pos hdata]
    simp only [DataValue.ofStatus, if_neg hgood]
    exact ⟨_, rfl, rfl, hcode⟩
  · have hevent : (a.items item).eventHandler := hlisten.1.resolve_left hdata
    rw [if_neg hdata, if_pos hevent]
    exact ⟨_, rfl, rfl, hbad⟩

theorem ToldSince.step {count : Nat} (h : ToldSince count s item) (e : Event V E) :
    ToldSince count (thread.step s e) item := by
  obtain ⟨invocation, hmem, htold⟩ := h
  refine ⟨invocation, ?_, htold⟩
  have hmove : Move code s e (thread.step s e) := step_move code s e
  generalize thread.step s e = s' at hmove ⊢
  cases hmove with
  | exec x rest answer world calls _ _ hexec =>
    dsimp only
    rcases (exec_effect hexec).told with hsame | ⟨other, happend, -⟩
    · rw [hsame]
      exact hmem
    · rw [happend, List.drop_append]
      exact List.mem_append_left _ hmem
  | _ => exact hmem

/-- The refused item is told when the thread has had `n` more turns. -/
inductive Telling (item count : Nat) : Nat → Thread V E → Prop
  | report {a status rest suspended} (hheld : a.held = []) (hlisten : a.Listening item)
      (hbad : status.bad) (hcount : a.invocations.length = count) :
      Telling item count 1 ⟨a, .report item status :: rest, suspended⟩
  | erase {a clientHandle status rest suspended} (hheld : a.held = [])
      (hlisten : a.Listening item) (hbad : status.bad) (hcount : a.invocations.length = count) :
      Telling item count 2
        ⟨a, .eraseItemMapping clientHandle :: .report item status :: rest, suspended⟩

section Telling

variable {count n : Nat}

theorem not_blocked_of_held (hheld : a.held = []) (x : Instr V E) : ¬ Blocked code a x := by
  rintro ⟨m, -, hm⟩
  simp [code, hheld] at hm

theorem Telling.turn (h : Telling item count (n + 1) s) (now : Time) :
    Telling item count n (thread.step s (.act (.run now))) ∨
      ToldSince count (thread.step s (.act (.run now))) item := by
  cases h with
  | @report a status rest suspended hheld hlisten hbad hcount =>
    right
    obtain ⟨invocation, htell, htold⟩ := tellStatus_told now hlisten hbad
    have hreport : a.exec (.report item status) (.run now) = some (a.invoke invocation) := by
      simp only [exec, Adapter.report, hlisten.2, htell]
      rfl
    rw [thread_step_act (not_blocked_of_held hheld _) hreport]
    exact ⟨invocation, by simp [invoke, ← hcount], htold⟩
  | @erase a clientHandle status rest suspended hheld hlisten hbad hcount =>
    left
    rw [thread_step_act (not_blocked_of_held hheld _) rfl]
    exact .report hheld hlisten hbad hcount

theorem Telling.other (h : Telling item count n s) (he : isTurn e = false) :
    thread.step s e = s := by
  cases h with
  | report | erase =>
    refine step_eq_self code rfl (by simp [code]) (by simp [code]) ?_
    rintro answer rfl
    cases answer with
    | run now => cases he
    | _ => rfl

theorem Telling.told (h : Telling item count n s) {es : List (Event V E)}
    (hturns : n ≤ es.countP isTurn) : ToldSince count (thread.runFrom s es) item := by
  induction es generalizing s n with
  | nil => cases h <;> simp at hturns
  | cons e es ih =>
    rw [System.runFrom_cons]
    cases he : isTurn e with
    | false =>
      rw [h.other he]
      rw [List.countP_cons_of_neg (by simp [he])] at hturns
      exact ih h hturns
    | true =>
      obtain ⟨now, rfl⟩ : ∃ now, e = .act (.run now) := by
        unfold isTurn at he
        split at he
        · exact ⟨_, rfl⟩
        · cases he
      rw [List.countP_cons_of_pos he] at hturns
      cases n with
      | zero => cases h
      | succ n =>
        rcases h.turn now with hnext | htold
        · exact ih hnext (by omega)
        · exact thread.runFrom_invariant (ToldSince count · item) (fun _ e h => h.step e) htold es

end Telling

theorem Refuses.telling (hinv : Inv s) (hlisten : s.world.Listening item) (h : Refuses s e item) :
    Telling item s.world.invocations.length 2 (thread.step s e) ∧
      (thread.step s e).stack.length = s.stack.tail.length + 3 := by
  rcases s with ⟨a, stack, suspended⟩
  cases h with
  | @backend _ clientHandle rest results hstack hbad =>
    have hshape := hinv.shape hstack (by simp) (by simp)
    cases hstack
    rw [thread_step_act hshape.not_blocked rfl]
    simp only [itemsAdded, if_pos hbad]
    cases hshape with
    | free hheld => exact ⟨.erase hheld hlisten hbad rfl, by simp⟩
    | reading hreads => cases hreads
  | @pump _ clientHandle rest now hstack hpump =>
    have hshape := hinv.shape hstack (by simp) (by simp)
    have hexec : a.exec (.callAddItems item clientHandle) (.run now) =
        some (a, itemsAdded item clientHandle
          [{ clientHandle, status := StatusCode.badDisconnected }]) := by
      have hnot : ¬ a.state.pump.any Pump.connected := by
        rw [hpump]
        simp
      simp only [exec, callAddItems, if_neg hnot]
    have hbad : (resultStatus [{ clientHandle, status := StatusCode.badDisconnected }]).bad := by
      change (Status.ofCode .badDisconnected).bad
      decide
    cases hstack
    rw [thread_step_act hshape.not_blocked hexec]
    simp only [itemsAdded, if_pos hbad]
    cases hshape with
    | free hheld => exact ⟨.erase hheld hlisten hbad rfl, by simp⟩
    | reading hreads => cases hreads

theorem dropsSilently (hinv : Inv s) (e : Event V E) : DropsSilently s e := by
  rintro item - hdrops ⟨es, htold⟩
  obtain ⟨hdoomed, hsame⟩ := hdrops.doomed hinv
  rw [← hsame] at htold
  exact hdoomed.not_told es htold

/-- Of the losses of a step, the refused adds are reported and the others not. -/
theorem reported_step_iff (hinv : Inv s) (e : Event V E) :
    Reported s e ↔ ∀ item, s.world.Listening item → ¬ Drops s e item := by
  constructor
  · intro hreported item hlisten hdrops
    -- however many turns the thread gets
    let es : List (Event V E) := List.replicate (thread.step s e).stack.length (.act (.run 0))
    have hworks : WorksOff s e es := by simp [WorksOff, es, List.countP_replicate, isTurn]
    exact dropsSilently hinv e item hlisten hdrops
      ⟨es, hreported item hlisten (.inl hdrops) es hworks⟩
  · intro hnone item hlisten hloses es hworks
    rcases hloses with hdrops | hrefuses
    · exact absurd hdrops (hnone item hlisten)
    · obtain ⟨htelling, hlength⟩ := hrefuses.telling hinv hlisten
      rw [WorksOff, hlength] at hworks
      exact htelling.told (by omega)

/-- Every loss in a run is reported exactly if no listening item is dropped, and of those
that are dropped none is ever told. -/
theorem reported_iff (es : List (Event V E)) :
    (thread.Meets Reported es ↔
      thread.Meets (fun s e => ∀ item, s.world.Listening item → ¬ Drops s e item) es) ∧
    thread.Meets DropsSilently es := by
  constructor
  · exact thread.meets_congr Inv inv_init (fun _ e h => h.step e)
      (fun _ e h => reported_step_iff h e) es
  · intro before e _
    exact dropsSilently (thread.invariant Inv inv_init (fun _ e h => h.step e) before) e

/-- One item is subscribed, and the backend does not create a subscription. -/
def failingStartRun : List (Event V E) :=
  [.call (.subscribe 0 (.dataChange true)), .act (.run 0), .act (.run 0), .act (.run 0),
    .act (.createSubscription (.error Status.disconnected))]

theorem failingStartRun_not_reported :
    ¬ thread.Meets Reported (failingStartRun : List (Event Nat Nat)) := by
  intro hmeets
  let before : List (Event Nat Nat) := failingStartRun.take 4
  have hinv : Inv (thread.run before) := thread.invariant Inv inv_init (fun _ e h => h.step e) _
  have hreported := hmeets before _ (List.prefix_refl _)
  exact (reported_step_iff hinv _).mp hreported 0 ⟨.inl rfl, rfl⟩ (.startFailed _ rfl)

end ScadaCore.Scada.LegacyAdapter
