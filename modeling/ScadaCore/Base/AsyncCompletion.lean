import ScadaCore.Lts.System
import Mathlib.Data.List.Nodup

/-!
# Base.AsyncCompletion — a gate and those who wait for it

A wait on an `AsyncCompletion` stands in the list of the gate until the gate is settled or the
wait is cancelled; whoever comes first claims it. Completions are posted, so nothing else runs
while the gate is being settled. The iterators of the list are the numbers of the waits.

`Pending` is the invariant: the waits in a list are those that nobody has claimed, and every
other one was completed once.
-/

namespace ScadaCore.Base

namespace AsyncCompletion

variable {E : Type}

/-- What a wait completes with. -/
structure Completion (E : Type) where
  waiter : Nat
  error : Option E
  settled : Bool

/-- `State`, with the flag of every wait, the handler of its slot, and all completions so far.
`corrupt` says that an iterator was erased that is not in the list. -/
structure State (E : Type) where
  completed : Bool := false
  error : Option E := none
  waiters : List Nat := []
  waits : Nat := 0
  claimed : Nat → Bool := fun _ => false
  assigned : Nat → Bool := fun _ => false
  completions : List (Completion E) := []
  corrupt : Bool := false

inductive Event (E : Type) where
  /-- `Wait` or `WaitFor`, and whether the slot is connected. -/
  | wait (connected : Bool)
  /-- The slot of a wait is emitted. -/
  | cancel (waiter : Nat)
  /-- `Complete`, or `Fail` with an error. -/
  | settle (error : Option E)
  | tryComplete

variable (s : State E)

namespace State

def wait (connected : Bool) : State E :=
  if s.completed then
    { s with
      waits := s.waits + 1
      completions := s.completions ++ [{ waiter := s.waits, error := s.error, settled := true }] }
  else
    { s with
      waits := s.waits + 1
      claimed := Function.update s.claimed s.waits false
      assigned := Function.update s.assigned s.waits connected
      waiters := s.waiters ++ [s.waits] }

def complete (completion : Completion E) : State E :=
  { s with
    claimed := Function.update s.claimed completion.waiter true
    completions := s.completions ++ [completion] }

def cancel (waiter : Nat) : State E :=
  if !s.assigned waiter || s.claimed waiter then s
  else
    { s with
      waiters := s.waiters.erase waiter
      corrupt := s.corrupt || !s.waiters.contains waiter }.complete
        { waiter, error := none, settled := false }

/-- The loop of `Finish`. -/
def settleAll (error : Option E) : List Nat → State E → State E
  | [], s => s
  | waiter :: rest, s =>
    if s.claimed waiter then settleAll error rest s
    else settleAll error rest (s.complete { waiter, error, settled := true })

/-- `Finish`. A gate that is settled already ends the program. -/
def finish (error : Option E) : State E :=
  if s.completed then s
  else settleAll error s.waiters { s with completed := true, error, waiters := [] }

def step : Event E → State E
  | .wait connected => s.wait connected
  | .cancel waiter => s.cancel waiter
  | .settle error => s.finish error
  | .tryComplete => if s.completed then s else s.finish none

end State

def system : Lts.System (State E) (Event E) := ⟨{}, State.step⟩

def cancels : Event E → List Nat
  | .cancel waiter => if s.assigned waiter && !s.completed then [waiter] else []
  | _ => []

variable (es : List (Event E))

def cancelled : List Nat := system.collect cancels es

def Event.settlement : Event E → Option (Option E)
  | .settle error => some error
  | .tryComplete => some none
  | .wait _ | .cancel _ => none

def Event.connected : Event E → Option Bool
  | .wait connected => some connected
  | .cancel _ | .settle _ | .tryComplete => none

def settlements : List (Option E) := es.filterMap Event.settlement

def connections : List Bool := es.filterMap Event.connected

/-- The connected slot of this wait was emitted before anything settled the gate. -/
def Cancelled (waiter : Nat) : Prop :=
  ∃ earlier later, es = earlier ++ .cancel waiter :: later ∧
    settlements earlier = [] ∧ (connections earlier)[waiter]? = some true

/-! ## Claims -/

/-- Nobody has claimed these waits, and all others have completed once. -/
structure Pending (waiters : List Nat) (s : State E) : Prop where
  nodup : waiters.Nodup
  free : ∀ n ∈ waiters, n < s.waits ∧ s.claimed n = false
  mem : ∀ n, s.assigned n = true → n < s.waits ∧ (s.claimed n = false → n ∈ waiters)
  once : (s.completions.map Completion.waiter).Nodup
  others : ∀ n, n ∈ s.completions.map Completion.waiter ↔ n < s.waits ∧ n ∉ waiters

variable {waiters : List Nat} {s} {n : Nat} {es}

theorem Pending.complete (h : Pending waiters s) (completion : Completion E)
    (hmem : completion.waiter ∈ waiters) :
    Pending (waiters.erase completion.waiter) (s.complete completion) := by
  obtain ⟨hnodup, hfree, hassigned, honce, hothers⟩ := h
  refine ⟨hnodup.erase _, ?_, ?_, ?_, ?_⟩ <;>
    simp only [State.complete, Function.update_apply, hnodup.mem_erase_iff, List.map_append]
  · grind
  · grind
  · grind
  · grind

theorem Pending.settleAll (h : Pending waiters s) (error : Option E) :
    Pending [] (s.settleAll error waiters) ∧ ∃ claimed completions,
      s.settleAll error waiters = { s with claimed, completions := s.completions ++ completions } ∧
        ∀ c ∈ completions, c.settled = true ∧ c.error = error := by
  induction waiters generalizing s with
  | nil => exact ⟨h, s.claimed, [], by simp [State.settleAll], by simp⟩
  | cons waiter rest ih =>
    have hnext := h.complete ⟨waiter, error, true⟩ List.mem_cons_self
    rw [List.erase_cons_head] at hnext
    obtain ⟨hpending, claimed, completions, heq, hall⟩ := ih hnext
    rw [State.settleAll, (h.free waiter List.mem_cons_self).2]
    refine ⟨hpending, claimed, ⟨waiter, error, true⟩ :: completions, ?_, by simpa using hall⟩
    rw [if_neg Bool.false_ne_true, heq]
    simp [State.complete]

/-! ## Runs -/

/-- What holds of the gate when these waits have been cancelled. -/
structure Inv (gone : List Nat) (s : State E) : Prop extends Pending s.waiters s where
  intact : s.corrupt = false
  settled : s.completed = true → s.waiters = []
  completion : ∀ c ∈ s.completions,
    if c.settled then s.completed = true ∧ c.error = s.error else c.error = none
  gone_iff : ∀ n, n ∈ gone ↔ ∃ c ∈ s.completions, c.waiter = n ∧ c.settled = false

variable {gone : List Nat}

theorem Inv.finish (h : Inv gone s) (error : Option E) : Inv gone (s.finish error) := by
  unfold State.finish
  split
  · exact h
  have hpending : Pending s.waiters { s with completed := true, error, waiters := [] } :=
    ⟨h.nodup, h.free, h.mem, h.once, h.others⟩
  obtain ⟨hnone, claimed, completions, heq, hall⟩ := hpending.settleAll error
  obtain ⟨-, hintact, -, hcompletion, hgone⟩ := h
  rw [heq] at hnone ⊢
  refine ⟨hnone, hintact, fun _ => rfl, ?_, ?_⟩ <;> grind

theorem Inv.wait (h : Inv gone s) (connected : Bool) : Inv gone (s.wait connected) := by
  obtain ⟨⟨hnodup, hfree, hmem, honce, hothers⟩, hintact, hsettled, hcompletion, hgone⟩ := h
  unfold State.wait
  split
  · refine ⟨⟨hnodup, ?_, ?_, ?_, ?_⟩, hintact, hsettled, ?_, ?_⟩ <;> grind
  · refine ⟨⟨?_, ?_, ?_, honce, ?_⟩, hintact, ?_, hcompletion, hgone⟩ <;> grind

theorem Inv.cancel (h : Inv gone s) (waiter : Nat) :
    Inv (gone ++ cancels s (.cancel waiter)) (s.cancel waiter) := by
  have hmem := h.mem waiter
  unfold State.cancel
  split
  · -- who has claimed a wait while the gate is open has cancelled it
    refine { h with gone_iff := fun n => ?_ }
    obtain ⟨⟨hnodup, hfree, -, honce, hothers⟩, hintact, hsettled, hcompletion, hgone⟩ := h
    have hold := hothers waiter
    simp only [List.mem_map] at hold
    grind [cancels]
  · rename_i hfree
    have hpending : Pending s.waiters { s with
        waiters := s.waiters.erase waiter
        corrupt := s.corrupt || !s.waiters.contains waiter } :=
      ⟨h.nodup, h.free, h.mem, h.once, h.others⟩
    have hwaits : waiter ∈ s.waiters := by grind
    have hcancels : cancels s (.cancel waiter) = [waiter] := by grind [cancels, h.settled]
    rw [hcancels]
    obtain ⟨-, hintact, hsettled, hcompletion, hgone⟩ := h
    refine ⟨hpending.complete ⟨waiter, none, false⟩ hwaits, ?_, ?_, ?_, ?_⟩ <;>
      simp only [State.complete]
    · grind
    · grind
    · grind
    · intro n
      simp only [List.mem_append, List.mem_singleton, hgone, or_and_right, exists_or,
        exists_eq_left, and_true]
      exact or_congr_right eq_comm

/-- A second `TryComplete` does nothing, as the model's `Finish` of a settled gate. -/
theorem step_tryComplete (s : State E) : s.step .tryComplete = s.finish none := by
  cases hopen : s.completed <;> simp [State.step, State.finish, hopen]

theorem Inv.step (h : Inv gone s) (e : Event E) : Inv (gone ++ cancels s e) (s.step e) := by
  have hsame : ∀ s' : State E, Inv gone s' → Inv (gone ++ []) s' := by simp
  cases e with
  | wait connected => exact hsame _ (h.wait connected)
  | cancel waiter => exact h.cancel waiter
  | settle error => exact hsame _ (h.finish error)
  | tryComplete =>
    rw [step_tryComplete]
    exact hsame _ (h.finish none)

theorem inv_run (es : List (Event E)) : Inv (cancelled es) (system.run es) := by
  induction es using List.reverseRecOn with
  | nil => constructor <;> first | constructor <;> simp [system] | simp [system, cancelled]
  | append_singleton es e ih =>
    rw [Lts.System.run_concat, cancelled, Lts.System.collect_concat]
    exact ih.step e

/-! ## What the events say of the gate -/

/-- The gate after these events. -/
structure Follows (es : List (Event E)) (s : State E) : Prop where
  completed : s.completed = true ↔ settlements es ≠ []
  error : s.error = (settlements es).head?.getD none
  waits : s.waits = (connections es).length
  assigned : settlements es = [] →
    ∀ n, s.assigned n = true ↔ (connections es)[n]? = some true

theorem settlements_concat (es : List (Event E)) (e : Event E) :
    settlements (es ++ [e]) = settlements es ++ e.settlement.toList := by
  cases h : e.settlement <;> simp [settlements, h]

theorem connections_concat (es : List (Event E)) (e : Event E) :
    connections (es ++ [e]) = connections es ++ e.connected.toList := by
  cases h : e.connected <;> simp [connections, h]

theorem Follows.wait (h : Follows es s) (connected : Bool) :
    Follows (es ++ [.wait connected]) (s.wait connected) := by
  obtain ⟨hcompleted, herror, hwaits, hassigned⟩ := h
  have hsettled : settlements (es ++ [.wait connected]) = settlements es := by
    rw [settlements_concat]
    exact List.append_nil _
  have hconnected : connections (es ++ [.wait connected]) = connections es ++ [connected] :=
    connections_concat _ _
  unfold State.wait
  split
  · rename_i hclosed
    refine ⟨hsettled ▸ hcompleted, hsettled ▸ herror, by simp [hconnected, hwaits], ?_⟩
    rw [hsettled]
    intro hopen
    exact absurd hopen (hcompleted.mp hclosed)
  · refine ⟨hsettled ▸ hcompleted, hsettled ▸ herror, by simp [hconnected, hwaits], ?_⟩
    rw [hsettled, hconnected]
    intro hopen n
    have hslot := hassigned hopen n
    simp only [Function.update_apply, hwaits]
    grind

theorem Follows.cancel (h : Follows es s) (waiter : Nat) :
    Follows (es ++ [.cancel waiter]) (s.cancel waiter) := by
  obtain ⟨hcompleted, herror, hwaits, hassigned⟩ := h
  have hsettled : settlements (es ++ [.cancel waiter]) = settlements es := by
    rw [settlements_concat]
    exact List.append_nil _
  have hconnected : connections (es ++ [.cancel waiter]) = connections es := by
    rw [connections_concat]
    exact List.append_nil _
  unfold State.cancel
  split
  · exact ⟨hsettled ▸ hcompleted, hsettled ▸ herror, hconnected ▸ hwaits, by
      rw [hsettled, hconnected]; exact hassigned⟩
  · exact ⟨hsettled ▸ hcompleted, hsettled ▸ herror, hconnected ▸ hwaits, by
      rw [hsettled, hconnected]; exact hassigned⟩

theorem Follows.finish (h : Follows es s) (hinv : Inv gone s) {e : Event E} {error : Option E}
    (hsettles : e.settlement = some error) (hwait : e.connected = none) :
    Follows (es ++ [e]) (s.finish error) := by
  obtain ⟨hcompleted, herror, hwaits, hassigned⟩ := h
  have hsettled : settlements (es ++ [e]) = settlements es ++ [error] := by
    rw [settlements_concat, hsettles]
    rfl
  have hconnected : connections (es ++ [e]) = connections es := by
    rw [connections_concat, hwait]
    exact List.append_nil _
  have hclosed : settlements es ++ [error] ≠ [] := by simp
  cases hopen : s.completed with
  | true =>
    rw [State.finish, if_pos hopen]
    refine ⟨?_, ?_, by rw [hconnected, hwaits], by simp [hsettled]⟩
    · rw [hsettled]
      exact iff_of_true hopen hclosed
    · rw [hsettled, herror]
      cases hlist : settlements es with
      | nil => exact absurd hlist (hcompleted.mp hopen)
      | cons first rest => rfl
  | false =>
    have hnone : settlements es = [] := by
      by_contra hsome
      rw [hcompleted.mpr hsome] at hopen
      cases hopen
    have hpending : Pending s.waiters { s with completed := true, error, waiters := [] } :=
      ⟨hinv.nodup, hinv.free, hinv.mem, hinv.once, hinv.others⟩
    obtain ⟨-, claimed, completions, heq, -⟩ := hpending.settleAll error
    rw [State.finish, hopen, if_neg Bool.false_ne_true, heq]
    refine ⟨?_, ?_, by rw [hconnected, hwaits], by simp [hsettled]⟩
    · rw [hsettled]
      exact iff_of_true rfl hclosed
    · rw [hsettled, hnone]
      rfl

theorem follows_run (es : List (Event E)) : Follows es (system.run es) := by
  induction es using List.reverseRecOn with
  | nil => constructor <;> simp [system, settlements, connections]
  | append_singleton es e ih =>
    rw [Lts.System.run_concat]
    cases e with
    | wait connected => exact ih.wait connected
    | cancel waiter => exact ih.cancel waiter
    | settle error => exact ih.finish (inv_run es) rfl rfl
    | tryComplete =>
      change Follows _ ((system.run es).step .tryComplete)
      rw [step_tryComplete]
      exact ih.finish (inv_run es) rfl rfl

theorem mem_cancelled_iff : n ∈ cancelled es ↔ Cancelled es n := by
  rw [cancelled, Lts.System.mem_collect_iff]
  constructor
  · rintro ⟨earlier, e, ⟨later, hlater⟩, hmem⟩
    have hfollows := follows_run earlier
    cases e with
    | cancel waiter =>
      simp only [cancels] at hmem
      split at hmem
      · rename_i hslot
        rw [Bool.and_eq_true, Bool.not_eq_true'] at hslot
        cases List.mem_singleton.mp hmem
        have hopen : settlements earlier = [] := by
          by_contra hsome
          rw [hfollows.completed.mpr hsome] at hslot
          cases hslot.2
        refine ⟨earlier, later, ?_, hopen, (hfollows.assigned hopen n).mp hslot.1⟩
        rw [← hlater, List.append_assoc, List.singleton_append]
      · cases hmem
    | wait | settle | tryComplete => cases hmem
  · rintro ⟨earlier, later, rfl, hopen, hslot⟩
    have hfollows := follows_run earlier
    refine ⟨earlier, .cancel n, ⟨later, by simp⟩, ?_⟩
    have hcompleted : (system.run earlier).completed = false := by
      rw [Bool.eq_false_iff]
      exact fun hclosed => hfollows.completed.mp hclosed hopen
    simp [cancels, (hfollows.assigned hopen n).mpr hslot, hcompleted]

/-- **Every waiter is served once**: none twice, and all of them if the gate is settled or the
wait is cancelled. The gate is settled by the first event that settles it, with its error. A
completion is settled, with the error of the gate, exactly if the wait was not cancelled before; no
cancellation erases what is not in the list, which has the other waits. -/
theorem asyncCompletion_servesOnce (es : List (Event E)) :
    let s := system.run es
    (s.completed = true ↔ settlements es ≠ []) ∧
      s.error = (settlements es).head?.getD none ∧
      s.waits = (connections es).length ∧
      (s.completions.map Completion.waiter).Nodup ∧
      (∀ n ∈ s.completions.map Completion.waiter, n < s.waits) ∧
      (∀ n < s.waits, s.completed = true ∨ Cancelled es n →
        n ∈ s.completions.map Completion.waiter) ∧
      (∀ c ∈ s.completions, (c.settled = true ↔ ¬ Cancelled es c.waiter) ∧
        (c.settled = true → s.completed = true) ∧ c.error = if c.settled then s.error else none) ∧
      s.corrupt = false ∧
      (s.completed = false → s.waiters.Nodup ∧
        ∀ n, n ∈ s.waiters ↔ n < s.waits ∧ ¬ Cancelled es n) := by
  intro s
  have hinv : Inv (cancelled es) s := inv_run es
  have hfollows : Follows es s := follows_run es
  have hunique : ∀ c ∈ s.completions, ∀ c' ∈ s.completions, c.waiter = c'.waiter → c = c' :=
    fun c hc c' hc' => List.inj_on_of_nodup_map hinv.once hc hc'
  obtain ⟨⟨hnodup, hfree, hmem, honce, hothers⟩, hintact, hsettled, hcompletion, hgone⟩ := hinv
  simp only [List.mem_map] at hothers ⊢
  simp only [← mem_cancelled_iff]
  refine ⟨hfollows.completed, hfollows.error, hfollows.waits, honce, ?_, ?_, ?_, hintact, ?_⟩
  · intro n hn
    exact ((hothers n).mp hn).1
  · grind
  · grind
  · grind

end AsyncCompletion

end ScadaCore.Base
