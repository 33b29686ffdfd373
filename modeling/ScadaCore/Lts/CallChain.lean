import ScadaCore.Lts.System

/-!
# Lts.CallChain — calls, coroutines and mutexes on one thread

One thread runs a chain of calls. What it still has to do is a stack of
instructions: running the top one changes the world and pushes what it calls,
which is run before the rest. A coroutine that waits leaves the stack, its
caller goes on, and it is resumed when the thread is idle; a coroutine that was
spawned may start at once or be left for later, which is the same thing. An
instruction that acquires a mutex the chain already holds is never run: the
mutexes are not recursive, and the chain waits for itself.
-/

namespace Lts.CallChain

/-- The code a chain runs, over worlds `W`, instructions `I`, mutexes `M` and what
the environment answers, `A`. `exec` is `none` for an answer that the
instruction does not wait for. -/
structure Code (W I M A : Type*) where
  exec : W → I → A → Option (W × List I)
  acquires : W → I → List M
  held : W → List M
  /-- A call that the environment can make. -/
  entry : I → Bool
  /-- Code of the environment, which can make calls. -/
  yields : I → Bool
  /-- A coroutine where it is spawned or where it waits. -/
  suspends : I → Bool

/-- The state of the thread. -/
structure State (W I : Type*) where
  world : W
  stack : List I := []
  suspended : List I := []

inductive Event (I A : Type*) where
  | call (instr : I)
  | act (answer : A)
  | suspend
  | resume (n : Nat)

variable {W I M A : Type*} [DecidableEq M] (code : Code W I M A)

/-- The instruction acquires a mutex that is held. -/
def Blocked (w : W) (x : I) : Prop := ∃ m ∈ code.acquires w x, m ∈ code.held w

instance (w : W) (x : I) : Decidable (Blocked code w x) :=
  inferInstanceAs (Decidable (∃ m ∈ code.acquires w x, m ∈ code.held w))

/-- The chain waits for a mutex it holds itself. -/
def SelfDeadlock (s : State W I) : Prop := ∃ x rest, s.stack = x :: rest ∧ Blocked code s.world x

def idle : List I → Bool
  | [] => true
  | x :: _ => code.yields x

def step (s : State W I) : Event I A → State W I
  | .call instr =>
    if code.entry instr && idle code s.stack then { s with stack := instr :: s.stack } else s
  | .act answer =>
    match s.stack with
    | [] => s
    | x :: rest =>
      if Blocked code s.world x then
        -- the lock is not granted, now or later
        s
      else
        match code.exec s.world x answer with
        | none => s
        | some (world, calls) => { s with world, stack := calls ++ rest }
  | .suspend =>
    match s.stack with
    | [] => s
    | x :: rest =>
      if code.suspends x then { s with stack := rest, suspended := s.suspended ++ [x] } else s
  | .resume n =>
    match s.stack, s.suspended[n]? with
    | [], some x => { s with stack := [x], suspended := s.suspended.eraseIdx n }
    | _, _ => s

def system (init : W) : System (State W I) (Event I A) where
  init := { world := init }
  step := step code

theorem step_act {w : W} {x : I} {rest suspended : List I} {answer : A} {r : W × List I}
    (hfree : ¬ Blocked code w x) (hexec : code.exec w x answer = some r) :
    step code ⟨w, x :: rest, suspended⟩ (.act answer) = ⟨r.1, r.2 ++ rest, suspended⟩ := by
  simp only [step, if_neg hfree, hexec]

/-- Before such an instruction is run nothing changes: it is not code of the environment,
it does not wait, and it is not what the event answers. -/
theorem step_eq_self {s : State W I} {e : Event I A} {x : I} {rest : List I}
    (hstack : s.stack = x :: rest) (hyields : ¬ code.yields x) (hsuspends : ¬ code.suspends x)
    (hother : ∀ answer, e = .act answer → code.exec s.world x answer = none) :
    step code s e = s := by
  cases e with
  | call instr => simp [step, hstack, idle, hyields]
  | act answer => simp [step, hstack, hother answer rfl]
  | suspend => simp [step, hstack, hsuspends]
  | resume n => simp [step, hstack]

/-- What a step can do. -/
inductive Move (s : State W I) : Event I A → State W I → Prop
  | stay (e) : Move s e s
  | call (x) (hentry : code.entry x) (hidle : idle code s.stack) :
      Move s (.call x) { s with stack := x :: s.stack }
  | exec (x rest answer world calls) (hstack : s.stack = x :: rest)
      (hfree : ¬ Blocked code s.world x)
      (hexec : code.exec s.world x answer = some (world, calls)) :
      Move s (.act answer) { s with world, stack := calls ++ rest }
  | suspend (x rest) (hstack : s.stack = x :: rest) (hsuspends : code.suspends x) :
      Move s .suspend { s with stack := rest, suspended := s.suspended ++ [x] }
  | resume (n x) (hstack : s.stack = []) (hmem : s.suspended[n]? = some x) :
      Move s (.resume n) { s with stack := [x], suspended := s.suspended.eraseIdx n }

theorem step_move (s : State W I) (e : Event I A) : Move code s e (step code s e) := by
  rcases s with ⟨world, stack, suspended⟩
  cases e with
  | call instr =>
    by_cases h : code.entry instr && idle code stack
    · obtain ⟨hentry, hidle⟩ := Bool.and_eq_true_iff.mp h
      simpa [step, h] using Move.call instr hentry hidle
    · simpa [step, h] using Move.stay _
  | act answer =>
    rcases stack with _ | ⟨x, rest⟩
    · exact .stay _
    · by_cases hfree : Blocked code world x
      · simpa [step, hfree] using Move.stay _
      · cases hexec : code.exec world x answer with
        | none => simpa [step, hfree, hexec] using Move.stay _
        | some result =>
          simpa [step, hfree, hexec] using Move.exec x rest answer _ _ rfl hfree hexec
  | suspend =>
    rcases stack with _ | ⟨x, rest⟩
    · exact .stay _
    · by_cases hsuspends : code.suspends x
      · simpa [step, hsuspends] using Move.suspend x rest rfl hsuspends
      · simpa [step, hsuspends] using Move.stay _
  | resume n =>
    rcases stack with _ | ⟨x, rest⟩
    · cases hmem : suspended[n]? with
      | none => simpa [step, hmem] using Move.stay _
      | some x => simpa [step, hmem] using Move.resume n x rfl hmem
    · exact .stay _

section Move

omit [DecidableEq M]

variable {code} {s s' : State W I} {e : Event I A} {x : I} {rest : List I}

/-- An instruction that is not code of the environment and does not wait is run
before anything else happens. -/
theorem Move.eq_or_exec (hmove : Move code s e s') (hstack : s.stack = x :: rest)
    (hyields : ¬ code.yields x) (hsuspends : ¬ code.suspends x) :
    s' = s ∨ ∃ answer world calls, ¬ Blocked code s.world x ∧
      code.exec s.world x answer = some (world, calls) ∧
      s' = { s with world, stack := calls ++ rest } := by
  cases hmove with
  | stay => exact .inl rfl
  | call y _ hidle =>
    rw [hstack] at hidle
    exact absurd hidle hyields
  | exec y rest' answer world calls hstack' hfree hexec =>
    cases hstack.symm.trans hstack'
    exact .inr ⟨answer, world, calls, hfree, hexec, rfl⟩
  | suspend y rest' hstack' hsusp =>
    cases hstack.symm.trans hstack'
    exact absurd hsusp hsuspends
  | resume n y hstack' _ =>
    rw [hstack] at hstack'
    cases hstack'

/-- A chain that waits for itself waits forever. -/
theorem Move.eq_of_blocked (hmove : Move code s e s') (hstack : s.stack = x :: rest)
    (hblocked : Blocked code s.world x) (hyields : ¬ code.yields x)
    (hsuspends : ¬ code.suspends x) : s' = s := by
  rcases hmove.eq_or_exec hstack hyields hsuspends with hsame | ⟨_, _, _, hfree, _⟩
  · exact hsame
  · exact absurd hblocked hfree

/-- What holds of the calls of the environment, and of what an instruction calls
if it holds of the instruction, holds of all that is left to do. -/
theorem Move.forall_pending {P : I → Prop} (hmove : Move code s e s')
    (hentry : ∀ x, code.entry x → P x)
    (hcalls : ∀ x rest answer world calls, e = .act answer → s.stack = x :: rest →
      ¬ Blocked code s.world x → code.exec s.world x answer = some (world, calls) → P x →
      ∀ y ∈ calls, P y)
    (h : ∀ x ∈ s.stack ++ s.suspended, P x) : ∀ x ∈ s'.stack ++ s'.suspended, P x := by
  cases hmove with
  | stay => exact h
  | call x hx _ =>
    intro y hy
    rcases List.mem_cons.mp hy with rfl | hy
    · exact hentry y hx
    · exact h y hy
  | exec x rest answer world calls hstack hfree hexec =>
    have hx : P x := h x (by simp [hstack])
    intro y hy
    rw [List.append_assoc] at hy
    rcases List.mem_append.mp hy with hcall | hold
    · exact hcalls x rest answer world calls rfl hstack hfree hexec hx y hcall
    · exact h y (by rw [hstack]; exact .tail _ hold)
  | suspend x rest hstack _ =>
    intro y hy
    apply h
    rw [hstack]
    simp only [List.mem_append, List.mem_cons, List.not_mem_nil, or_false] at hy ⊢
    tauto
  | resume n x hstack hmem =>
    intro y hy
    apply h
    rw [hstack]
    rcases List.mem_append.mp hy with hy | hy
    · rw [List.mem_singleton.mp hy]
      exact List.mem_of_getElem? hmem
    · exact List.mem_of_mem_eraseIdx hy

end Move

end Lts.CallChain
