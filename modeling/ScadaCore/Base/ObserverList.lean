import ScadaCore.Data.Slots
import ScadaCore.Lts.System
import Mathlib.Algebra.Ring.Nat

/-!
# Base.ObserverList — observers that come and go while they are notified

A loop over an `ObserverList` calls observers that may add and remove observers, or run a loop
of their own. While there is a loop, an observer is removed by setting its slot to null, and
the slots are compacted at the end of the outermost loop. A loop takes the size of the list for
its end once and goes on until its index is equal to it.

`operator++` skips the null slots up to the end of the list, and not of the loop. If the slot
at the loop's end is null, the loop steps over its end and does not stop any more. This slot
is that of the first observer that is added during the loop.
-/

namespace ScadaCore.Base

open Slots

variable {T : Type}

/-! ## The list -/

structure ObserverList (T : Type) where
  observers : List (Option T) := []
  iterationDepth : Nat := 0
  nullCount : Nat := 0
deriving DecidableEq, Repr

namespace ObserverList

def hasObserver [DecidableEq T] (l : ObserverList T) (observer : T) : Bool :=
  l.observers.contains (some observer)

/-- `AddObserver`, which panics if the observer is there already. -/
def addObserver [DecidableEq T] (l : ObserverList T) (observer : T) : Option (ObserverList T) :=
  if l.hasObserver observer then none
  else some { l with observers := l.observers ++ [some observer] }

def removeObserver [DecidableEq T] (l : ObserverList T) (observer : T) : ObserverList T :=
  let it := l.observers.idxOf (some observer)
  if it ≠ l.observers.length then
    if l.iterationDepth > 0 then
      { l with observers := l.observers.set it none, nullCount := l.nullCount + 1 }
    else
      { l with observers := l.observers.eraseIdx it }
  else
    l

variable (l : ObserverList T)

def compact : ObserverList T :=
  { l with observers := l.observers.filter Option.isSome, nullCount := 0 }

/-- The constructor of `RangeIteration`. -/
def beginIteration : ObserverList T :=
  { l with iterationDepth := l.iterationDepth + 1 }

/-- The destructor of `RangeIteration`. -/
def endIteration : ObserverList T :=
  let l := { l with iterationDepth := l.iterationDepth - 1 }
  if l.iterationDepth = 0 ∧ l.nullCount > 0 then l.compact else l

/-- The index of a `RangeIterator` after `SkipNulls`. -/
def skipNulls (index : Nat) : Nat := Slots.skip l.observers index

/-- `RangeIterator::operator*`. It must not be null. -/
def deref (index : Nat) : Option T := l.observers[index]?.join

theorem deref_eq_some_iff {l : ObserverList T} {index : Nat} {observer : T} :
    l.deref index = some observer ↔ l.observers[index]? = some (some observer) :=
  Option.join_eq_some_iff

end ObserverList

/-! ## Loops -/

/-- A range-for loop over an `ObserverList`. -/
structure NotificationLoop (T : Type) where
  /-- the index of the iterator that runs -/
  index : Nat
  /-- the index of the iterator that marks the end -/
  last : Nat
  /-- the body of the loop is being run -/
  calling : Bool := false
  /-- the observers that were there at the start -/
  start : List T
  visited : List T := []
  /-- those that were removed and had not been visited until then -/
  removed : List T := []
deriving DecidableEq, Repr

namespace NotificationLoop

def expected [DecidableEq T] (loop : NotificationLoop T) : List T := loop.start.filter (· ∉ loop.removed)

def remove [DecidableEq T] (loop : NotificationLoop T) (observer : T) : NotificationLoop T :=
  if observer ∈ loop.visited then loop else { loop with removed := loop.removed ++ [observer] }

end NotificationLoop

namespace ObserverList

/-- A list and the loops that go over it, the innermost one first. -/
structure State (T : Type) where
  list : ObserverList T := {}
  loops : List (NotificationLoop T) := []
deriving DecidableEq, Repr

inductive Event (T : Type) where
  | addObserver (observer : T)
  | removeObserver (observer : T)
  /-- a range-for loop is entered -/
  | enter
  /-- the innermost loop goes on, or returns from its body -/
  | proceed
deriving DecidableEq, Repr

namespace State

/-- It is not the turn of a loop, but of the body of one or of whoever is outside. -/
def ready (s : State T) : Bool :=
  match s.loops with
  | [] => true
  | loop :: _ => loop.calling

/-- `begin()` and `end()`. -/
def enter (s : State T) : State T where
  list := s.list.beginIteration
  loops :=
    { index := s.list.skipNulls 0
      last := s.list.skipNulls s.list.observers.length
      start := s.list.observers.reduceOption } :: s.loops

/-- What the innermost loop does. There is no result if it follows a null pointer or goes out
of range. -/
def proceed (s : State T) : Option (State T) :=
  match s.loops with
  | [] => some s
  | loop :: outer =>
    if loop.calling then
      some { s with
        loops := { loop with index := s.list.skipNulls (loop.index + 1), calling := false } :: outer }
    else if loop.index ≠ loop.last then
      match s.list.deref loop.index with
      | none => none
      | some observer =>
        some { s with
          loops := { loop with calling := true, visited := loop.visited ++ [observer] } :: outer }
    else
      some { list := s.list.endIteration, loops := outer }

def move [DecidableEq T] (s : State T) : Event T → Option (State T)
  | .addObserver observer =>
    if s.ready then (s.list.addObserver observer).map ({ s with list := · }) else some s
  | .removeObserver observer =>
    if s.ready then
      some { list := s.list.removeObserver observer, loops := s.loops.map (·.remove observer) }
    else
      some s
  | .enter => if s.ready then some s.enter else some s
  | .proceed => s.proceed

end State

/-- Nobody removes the first observer that was added during a loop, before the loop ends. -/
def Safe (s : State T) : Event T → Prop
  | .removeObserver observer => s.ready = true →
    ∀ loop ∈ s.loops, s.list.observers[loop.last]? ≠ some (some observer)
  | _ => True

theorem exists_of_not_safe {s : State T} {e : Event T} (h : ¬ Safe s e) :
    ∃ observer, e = .removeObserver observer ∧ s.ready = true ∧
      ∃ loop ∈ s.loops, s.list.observers[loop.last]? = some (some observer) := by
  cases e with
  | removeObserver observer =>
    unfold Safe at h
    push Not at h
    exact ⟨observer, rfl, h⟩
  | _ => exact absurd trivial h

def ended (o : Option (State T)) : Event T → List (NotificationLoop T)
  | .proceed =>
    match o with
    | some { loops := loop :: _, .. } =>
      if loop.calling = false ∧ loop.index = loop.last then [loop] else []
    | _ => []
  | _ => []

theorem mem_ended {s : State T} {e : Event T} {loop : NotificationLoop T}
    (h : loop ∈ ended (some s) e) :
    loop ∈ s.loops ∧ loop.calling = false ∧ loop.index = loop.last := by
  cases e with
  | proceed =>
    rcases s with ⟨list, loops⟩
    cases loops with
    | nil => cases h
    | cons top outer =>
      simp only [ended] at h
      split_ifs at h with hend
      · obtain rfl := List.mem_singleton.mp h
        exact ⟨List.mem_cons_self, hend⟩
      · cases h
  | _ => cases h

def system (T : Type) [DecidableEq T] : Lts.System (Option (State T)) (Event T) where
  init := some {}
  step s e := s.bind (·.move e)

variable [DecidableEq T]

/-! ## What can happen -/

/-- The steps that there are. -/
inductive State.Step (s : State T) : Event T → State T → Prop
  | skip (e : Event T) (hskip : e = .proceed → s.loops = []) : State.Step s e s
  | add (observer : T) (hready : s.ready = true) :
      State.Step s (.addObserver observer)
        { s with list.observers := s.list.observers ++ [some observer] }
  | remove (observer : T) (hready : s.ready = true) :
      State.Step s (.removeObserver observer)
        { list := s.list.removeObserver observer, loops := s.loops.map (·.remove observer) }
  | enter (hready : s.ready = true) : State.Step s .enter s.enter
  | back (loop : NotificationLoop T) (outer : List (NotificationLoop T))
      (hloops : s.loops = loop :: outer) (hcalling : loop.calling = true) :
      State.Step s .proceed { s with
        loops := { loop with index := s.list.skipNulls (loop.index + 1), calling := false } :: outer }
  | visit (loop : NotificationLoop T) (outer : List (NotificationLoop T)) (observer : T)
      (hloops : s.loops = loop :: outer) (hcalling : loop.calling = false)
      (hindex : loop.index ≠ loop.last) (hslot : s.list.observers[loop.index]? = some (some observer)) :
      State.Step s .proceed { s with
        loops := { loop with calling := true, visited := loop.visited ++ [observer] } :: outer }
  | leave (loop : NotificationLoop T) (outer : List (NotificationLoop T))
      (hloops : s.loops = loop :: outer) (hcalling : loop.calling = false)
      (hindex : loop.index = loop.last) :
      State.Step s .proceed { list := s.list.endIteration, loops := outer }

theorem State.step_of_move {s s' : State T} {e : Event T} (h : s.move e = some s') :
    s.Step e s' := by
  cases e with
  | addObserver observer =>
    simp only [State.move, ObserverList.addObserver] at h
    split_ifs at h with hready hpresent
    · cases h
    · cases h
      exact .add observer hready
    · cases h
      exact .skip _ (by simp)
  | removeObserver observer =>
    simp only [State.move] at h
    split_ifs at h with hready
    · cases h
      exact .remove observer hready
    · cases h
      exact .skip _ (by simp)
  | enter =>
    simp only [State.move] at h
    split_ifs at h with hready
    · cases h
      exact .enter hready
    · cases h
      exact .skip _ (by simp)
  | proceed =>
    simp only [State.move, State.proceed] at h
    cases hloops : s.loops with
    | nil =>
      rw [hloops] at h
      cases h
      exact .skip _ (fun _ => hloops)
    | cons loop outer =>
      rw [hloops] at h
      dsimp only at h
      split_ifs at h with hcalling hindex
      · cases h
        exact .back loop outer hloops hcalling
      · split at h
        · cases h
        · rename_i observer hslot
          cases h
          exact .visit loop outer observer hloops (by simpa using hcalling) hindex
            (deref_eq_some_iff.mp hslot)
      · cases h
        exact .leave loop outer hloops (by simpa using hcalling) (not_not.mp hindex)

end ObserverList

/-! ## One loop -/

namespace NotificationLoop

variable [DecidableEq T] {slots : List (Option T)} {loop : NotificationLoop T}

def next (loop : NotificationLoop T) : Nat := if loop.calling then loop.index + 1 else loop.index

/-- A loop that is going well. -/
structure Good (slots : List (Option T)) (loop : NotificationLoop T) : Prop where
  index_le : loop.index ≤ loop.last
  last_le : loop.last ≤ slots.length
  calling : loop.calling = true → loop.index < loop.last
  target : loop.calling = false → loop.index < loop.last → ∃ x, slots[loop.index]? = some (some x)
  found : loop.visited ++ Slots.between slots loop.next loop.last = loop.expected
  start : loop.start.Nodup
  sound : slots[loop.last]? ≠ some none

theorem Good.append (h : Good slots loop) (observer : T) :
    Good (slots ++ [some observer]) loop where
  index_le := h.index_le
  last_le := by
    rw [List.length_append]
    exact Nat.le_add_right_of_le h.last_le
  calling := h.calling
  target hcalling hindex := by
    rw [List.getElem?_append_left (Nat.lt_of_lt_of_le hindex h.last_le)]
    exact h.target hcalling hindex
  found := by
    rw [between_append _ _ h.last_le]
    exact h.found
  start := h.start
  sound := by
    rcases Nat.lt_or_eq_of_le h.last_le with hlt | heq
    · rw [List.getElem?_append_left hlt]
      exact h.sound
    · simp [heq]

theorem Good.nodup_found (h : Good slots loop) :
    (loop.visited ++ between slots loop.next loop.last).Nodup := by
  rw [h.found]
  exact h.start.filter _

/-- A loop keeps its place when an observer is removed. -/
theorem remove_eq (loop : NotificationLoop T) (observer : T) :
    ∃ removed, loop.remove observer = { loop with removed } := by
  unfold remove
  split_ifs <;> exact ⟨_, rfl⟩

theorem expected_remove (observer : T) :
    (loop.remove observer).expected =
      if observer ∈ loop.visited then loop.expected else loop.expected.filter (· ≠ observer) := by
  unfold remove
  split_ifs with hvisited
  · rfl
  · unfold expected
    rw [List.filter_filter]
    congr 1
    funext x
    simp [and_comm]

/-- Whoever is removed and has not been visited is not expected any more. -/
theorem Good.remove (h : Good slots loop) (hcalling : loop.calling = true) {observer : T}
    (hlast : slots[loop.last]? ≠ some (some observer)) :
    Good (slots.map (without observer)) (loop.remove observer) := by
  have hexpected : (loop.remove observer).expected = _ := expected_remove observer
  obtain ⟨removed, hremove⟩ := loop.remove_eq observer
  rw [hremove] at hexpected ⊢
  refine ⟨h.index_le, ?_, h.calling, ?_, ?_, h.start, ?_⟩
  · rw [List.length_map]
    exact h.last_le
  · intro hno
    cases hcalling.symm.trans hno
  · rw [hexpected, ← h.found, between_map_without]
    obtain ⟨-, -, hdisjoint⟩ := List.nodup_append.mp h.nodup_found
    split_ifs with hmem
    · congr 1
      refine List.filter_eq_self.mpr ?_
      intro x hx
      simpa using (hdisjoint observer hmem x hx).symm
    · rw [List.filter_append]
      congr 1
      refine (List.filter_eq_self.mpr ?_).symm
      intro x hx
      have hne : x ≠ observer := fun heq => hmem (heq ▸ hx)
      simpa using hne
  · rw [List.getElem?_map]
    intro hvacant
    obtain ⟨slot, hslot, hwithout⟩ := Option.map_eq_some_iff.mp hvacant
    unfold without at hwithout
    split_ifs at hwithout with heq
    · exact hlast (heq ▸ hslot)
    · exact h.sound (hwithout ▸ hslot)

theorem good_enter (hnodup : slots.reduceOption.Nodup) :
    Good slots
      { index := skip slots 0
        last := skip slots slots.length
        start := slots.reduceOption } := by
  have hend : slots[slots.length]? ≠ some none := by simp
  rw [skip_length]
  refine ⟨skip_le (Nat.zero_le _) (Nat.le_refl _) hend, Nat.le_refl _, ?_, ?_, ?_, hnodup, hend⟩
  · intro hno
    cases hno
  · intro _ hindex
    exact skip_spec hindex
  · show [] ++ between slots (skip slots 0) slots.length = _
    rw [between_skip, between_zero_length]
    simp [expected]

theorem Good.back (h : Good slots loop) (hcalling : loop.calling = true) :
    Good slots { loop with index := skip slots (loop.index + 1), calling := false } := by
  have hle : skip slots (loop.index + 1) ≤ loop.last :=
    skip_le (h.calling hcalling) h.last_le h.sound
  refine ⟨hle, h.last_le, ?_, ?_, ?_, h.start, h.sound⟩
  · intro hno
    cases hno
  · intro _ hindex
    exact skip_spec (Nat.lt_of_lt_of_le hindex h.last_le)
  · have hfound := h.found
    rw [next, if_pos hcalling, ← between_skip] at hfound
    exact hfound

theorem Good.visit (h : Good slots loop) (hcalling : loop.calling = false)
    (hindex : loop.index ≠ loop.last) {observer : T}
    (hslot : slots[loop.index]? = some (some observer)) :
    Good slots { loop with calling := true, visited := loop.visited ++ [observer] } := by
  have hlt : loop.index < loop.last := Nat.lt_of_le_of_ne h.index_le hindex
  refine ⟨h.index_le, h.last_le, fun _ => hlt, ?_, ?_, h.start, h.sound⟩
  · intro hno
    cases hno
  · have hfound := h.found
    rw [next, if_neg (by simp [hcalling]), between_cons hslot hlt] at hfound
    rw [List.append_cons] at hfound
    exact hfound

theorem Good.visited_prefix (h : Good slots loop) : loop.visited <+: loop.expected :=
  ⟨_, h.found⟩

theorem Good.visited_eq (h : Good slots loop) (hcalling : loop.calling = false)
    (hindex : loop.index = loop.last) : loop.visited = loop.expected := by
  rw [← h.found, next, if_neg (by simp [hcalling]), between_of_le _ (Nat.le_of_eq hindex.symm),
    List.append_nil]

end NotificationLoop

/-! ## All loops -/

namespace ObserverList

variable [DecidableEq T]

variable {l : ObserverList T} {s : State T} {loop : NotificationLoop T} {e : Event T}

theorem removeObserver_of_depth (hdepth : l.iterationDepth = 0) (observer : T) :
    l.removeObserver observer = { l with observers := l.observers.erase (some observer) } := by
  unfold removeObserver
  dsimp only
  rw [List.erase_eq_eraseIdx_of_idxOf rfl, if_neg (Nat.not_lt.mpr (Nat.le_of_eq hdepth))]
  split_ifs with hfound
  · rfl
  · rw [List.eraseIdx_of_length_le (Nat.le_of_eq (not_not.mp hfound).symm)]

/-- During a loop a slot is set to null, if the observer is there. -/
theorem removeObserver_of_loop (hnodup : l.observers.reduceOption.Nodup)
    (hdepth : 0 < l.iterationDepth) (observer : T) :
    ∃ count, l.removeObserver observer = { l with
      observers := l.observers.map (without observer)
      nullCount := count } ∧
      (count = l.nullCount + 1 ∨
        count = l.nullCount ∧ l.observers.map (without observer) = l.observers) := by
  rw [← set_idxOf_eq_map hnodup]
  unfold removeObserver
  dsimp only
  rw [if_pos hdepth]
  split_ifs with hfound
  · exact ⟨l.nullCount + 1, rfl, .inl rfl⟩
  · rw [List.set_eq_of_length_le (Nat.le_of_eq (not_not.mp hfound).symm)]
    exact ⟨l.nullCount, rfl, .inr ⟨rfl, rfl⟩⟩

theorem removeObserver_of_vacant (hdepth : 0 < l.iterationDepth) {i : Nat}
    (hi : l.observers[i]? = some none) (observer : T) :
    (l.removeObserver observer).iterationDepth = l.iterationDepth ∧
      (l.removeObserver observer).observers[i]? = some none := by
  unfold removeObserver
  dsimp only
  rw [if_pos hdepth]
  split_ifs with hfound
  · refine ⟨rfl, ?_⟩
    obtain ⟨hlt, -⟩ := List.getElem?_eq_some_iff.mp hi
    rw [List.getElem?_set]
    split_ifs with heq
    · rfl
    · exact absurd (heq ▸ hlt) ‹_›
    · exact hi
  · exact ⟨rfl, hi⟩

/-- A list whose loops are all going well. -/
structure Inv (s : State T) : Prop where
  depth : s.list.iterationDepth = s.loops.length
  nulls : none ∈ s.list.observers → 0 < s.list.nullCount
  nodup : s.list.observers.reduceOption.Nodup
  compacted : s.loops = [] → none ∉ s.list.observers
  bodies : ∀ loop ∈ s.loops.tail, loop.calling = true
  good : ∀ loop ∈ s.loops, loop.Good s.list.observers

theorem Inv.calling (h : Inv s) (hready : s.ready = true) :
    ∀ loop ∈ s.loops, loop.calling = true := by
  intro loop hloop
  have hbodies := h.bodies
  unfold State.ready at hready
  split at hready
  · rename_i hloops
    rw [hloops] at hloop
    cases hloop
  · rename_i top outer hloops
    rw [hloops] at hloop hbodies
    rcases List.mem_cons.mp hloop with rfl | houter
    · exact hready
    · exact hbodies loop houter

/-- Only an observer that is not there is added. -/
def Valid (s : State T) : Event T → Prop
  | .addObserver observer => s.list.hasObserver observer = false
  | _ => True

instance (s : State T) : ∀ e, Decidable (Valid s e)
  | .addObserver _ => inferInstanceAs (Decidable (_ = _))
  | .removeObserver _ => isTrue trivial
  | .enter => isTrue trivial
  | .proceed => isTrue trivial

instance (s : State T) : ∀ e, Decidable (Safe s e)
  | .addObserver _ => isTrue trivial
  | .removeObserver _ => inferInstanceAs (Decidable (_ → _))
  | .enter => isTrue trivial
  | .proceed => isTrue trivial

theorem Inv.add (h : Inv s) {observer : T} (hnew : s.list.hasObserver observer = false) :
    Inv { s with list.observers := s.list.observers ++ [some observer] } where
  depth := h.depth
  nulls hnull := h.nulls (by simpa using hnull)
  nodup := by
    have habsent : observer ∉ s.list.observers.reduceOption := by
      rw [List.reduceOption_mem_iff]
      simpa [hasObserver] using hnew
    rw [List.reduceOption_append]
    refine List.nodup_append.mpr ⟨h.nodup, List.nodup_singleton observer, ?_⟩
    intro x hx y hy
    obtain rfl := List.mem_singleton.mp hy
    exact fun heq => habsent (heq ▸ hx)
  compacted hloops hnull := h.compacted hloops (by simpa using hnull)
  bodies := h.bodies
  good loop hloop := (h.good loop hloop).append observer

theorem Inv.remove (h : Inv s) (hready : s.ready = true) {observer : T}
    (hsafe : Safe s (.removeObserver observer)) :
    Inv { list := s.list.removeObserver observer, loops := s.loops.map (·.remove observer) } := by
  cases hloops : s.loops with
  | nil =>
    have hdepth : s.list.iterationDepth = 0 := by rw [h.depth, hloops]; rfl
    have hsub := List.erase_sublist (a := some observer) (l := s.list.observers)
    have hnull : none ∉ s.list.observers := h.compacted hloops
    rw [removeObserver_of_depth hdepth]
    refine ⟨hdepth, ?_, ?_, ?_, ?_, ?_⟩
    · exact fun hno => absurd (hsub.subset hno) hnull
    · exact (hsub.filterMap id).nodup h.nodup
    · exact fun _ hno => hnull (hsub.subset hno)
    · simp
    · simp
  | cons top outer =>
    have hdepth : 0 < s.list.iterationDepth := by
      rw [h.depth, hloops]
      exact Nat.zero_lt_succ _
    obtain ⟨count, hremove, hcount⟩ := removeObserver_of_loop h.nodup hdepth observer
    rw [hremove, ← hloops]
    refine ⟨by simpa using h.depth, ?_, ?_, ?_, ?_, ?_⟩
    · intro hnull
      rcases hcount with rfl | ⟨rfl, heq⟩
      · exact Nat.zero_lt_succ _
      · exact h.nulls (heq ▸ hnull)
    · show (s.list.observers.map (without observer)).reduceOption.Nodup
      rw [reduceOption_map_without]
      exact h.nodup.filter _
    · simp [hloops]
    · intro loop hloop
      rw [← List.map_tail] at hloop
      obtain ⟨before, hbefore, rfl⟩ := List.mem_map.mp hloop
      obtain ⟨removed, hremove⟩ := before.remove_eq observer
      rw [hremove]
      exact h.bodies before hbefore
    · intro loop hloop
      obtain ⟨before, hbefore, rfl⟩ := List.mem_map.mp hloop
      exact (h.good before hbefore).remove (h.calling hready before hbefore)
        (hsafe hready before hbefore)

theorem Inv.enter (h : Inv s) (hready : s.ready = true) : Inv s.enter where
  depth := congrArg (· + 1) h.depth
  nulls := h.nulls
  nodup := h.nodup
  compacted hloops := by cases hloops
  bodies := h.calling hready
  good := List.forall_mem_cons.mpr ⟨NotificationLoop.good_enter h.nodup, h.good⟩

theorem Inv.replace (h : Inv s) {loop' : NotificationLoop T} {outer : List (NotificationLoop T)}
    (hloops : s.loops = loop :: outer) (hgood : loop'.Good s.list.observers) :
    Inv { s with loops := loop' :: outer } := by
  obtain ⟨hdepth, hnulls, hnodup, -, hbodies, hall⟩ := h
  rw [hloops] at hdepth hbodies hall
  refine ⟨hdepth, hnulls, hnodup, ?_, hbodies, ?_⟩
  · intro hno
    cases hno
  · exact List.forall_mem_cons.mpr ⟨hgood, (List.forall_mem_cons.mp hall).2⟩

theorem Inv.leave (h : Inv s) {outer : List (NotificationLoop T)}
    (hloops : s.loops = loop :: outer) : Inv { list := s.list.endIteration, loops := outer } := by
  obtain ⟨hdepth, hnulls, hnodup, -, hbodies, hall⟩ := h
  rw [hloops] at hdepth hbodies hall
  have hbefore : s.list.iterationDepth - 1 = outer.length := by
    rw [hdepth]
    rfl
  unfold endIteration
  dsimp only
  split_ifs with hcompact
  · -- the outermost loop
    have houter : outer = [] := List.eq_nil_of_length_eq_zero (hbefore ▸ hcompact.1)
    subst houter
    refine ⟨hbefore, ?_, ?_, ?_, by simp, by simp⟩
    · simp [compact]
    · exact (List.filter_sublist.filterMap id).nodup hnodup
    · simp [compact]
  · refine ⟨hbefore, hnulls, hnodup, ?_, ?_, (List.forall_mem_cons.mp hall).2⟩
    · intro houter hnull
      have hzero : outer.length = 0 := List.length_eq_zero_iff.mpr houter
      exact hcompact ⟨hbefore.trans hzero, hnulls hnull⟩
    · exact fun body hbody => hbodies body (List.mem_of_mem_tail hbody)

theorem Inv.step {s' : State T} (h : Inv s) (hvalid : Valid s e) (hsafe : Safe s e)
    (hstep : s.Step e s') : Inv s' := by
  cases hstep with
  | skip => exact h
  | add observer => exact h.add hvalid
  | remove observer hready => exact h.remove hready hsafe
  | enter hready => exact h.enter hready
  | back loop outer hloops hcalling =>
    exact h.replace hloops ((h.good loop (by simp [hloops])).back hcalling)
  | visit loop outer observer hloops hcalling hindex hslot =>
    exact h.replace hloops ((h.good loop (by simp [hloops])).visit hcalling hindex hslot)
  | leave loop outer hloops => exact h.leave hloops

/-- A list whose loops are going well does not panic and follows no null pointer. -/
theorem Inv.move (h : Inv s) (hvalid : Valid s e) : ∃ s', s.move e = some s' := by
  cases e with
  | addObserver observer =>
    have hnew : s.list.hasObserver observer = false := hvalid
    simp only [State.move, ObserverList.addObserver, hnew, Bool.false_eq_true, if_false]
    split_ifs <;> exact ⟨_, rfl⟩
  | removeObserver observer | enter =>
    simp only [State.move]
    split_ifs <;> exact ⟨_, rfl⟩
  | proceed =>
    simp only [State.move, State.proceed]
    cases hloops : s.loops with
    | nil => exact ⟨_, rfl⟩
    | cons loop outer =>
      dsimp only
      have hgood := h.good loop (by simp [hloops])
      split_ifs with hcalling hindex
      · exact ⟨_, rfl⟩
      · have hlt : loop.index < loop.last := Nat.lt_of_le_of_ne hgood.index_le hindex
        obtain ⟨observer, hslot⟩ := hgood.target (by simpa using hcalling) hlt
        rw [deref_eq_some_iff.mpr hslot]
        exact ⟨_, rfl⟩
      · exact ⟨_, rfl⟩

/-! ## The end of the loops -/

def stepsLeft (loop : NotificationLoop T) : Nat :=
  2 * (loop.last - loop.index) + if loop.calling then 0 else 1

theorem stepsLeft_step {s' : State T} (h : Inv s) (hloops : s.loops ≠ [])
    (hstep : s.Step .proceed s') : (s'.loops.map stepsLeft).sum < (s.loops.map stepsLeft).sum := by
  cases hstep with
  | skip _ hskip => exact absurd (hskip rfl) hloops
  | back loop outer hloops hcalling =>
    have hlt := (h.good loop (by simp [hloops])).calling hcalling
    have hnext := le_skip s.list.observers (loop.index + 1)
    simp only [hloops, List.map_cons, List.sum_cons, stepsLeft, skipNulls, hcalling]
    simp only [Bool.false_eq_true, if_false, if_true]
    omega
  | visit loop outer observer hloops hcalling | leave loop outer hloops hcalling =>
    simp [hloops, stepsLeft, hcalling]

def Terminates (s : Option (State T)) : Prop :=
  ∃ events, (system T).MeetsFrom (fun _ e => e = .proceed) s events ∧
    ∃ s', (system T).runFrom s events = some s' ∧ s'.loops = []

theorem Inv.terminates (h : Inv s) : Terminates (some s) := by
  refine (system T).exists_reaches (fun o => ∃ s, o = some s ∧ Inv s)
    (fun o => ∃ s, o = some s ∧ s.loops = []) (fun _ e => e = .proceed)
    (fun o => ((o.elim [] State.loops).map stepsLeft).sum) ?_ ⟨s, rfl, h⟩
  rintro _ ⟨s, rfl, hinv⟩ hgoal
  have hloops : s.loops ≠ [] := fun hno => hgoal ⟨s, rfl, hno⟩
  obtain ⟨s', hmove⟩ := hinv.move (e := .proceed) trivial
  have hstep := State.step_of_move hmove
  have hsystem : (system T).step (some s) .proceed = some s' := hmove
  refine ⟨.proceed, rfl, ⟨s', hsystem, hinv.step (e := .proceed) trivial trivial hstep⟩, ?_⟩
  rw [hsystem]
  exact stepsLeft_step hinv hloops hstep

/-! ## A loop that does not end -/

/-- A loop that has missed its end, or is going to. -/
def Lost (slots : List (Option T)) (loop : NotificationLoop T) : Prop :=
  loop.index ≠ loop.last ∧ slots[loop.last]? = some none

theorem lost_step {s' : State T} (hdepth : s.list.iterationDepth = s.loops.length)
    (hlost : ∃ loop ∈ s.loops, Lost s.list.observers loop) (hstep : s.Step e s') :
    s'.list.iterationDepth = s'.loops.length ∧ ∃ loop ∈ s'.loops, Lost s'.list.observers loop := by
  obtain ⟨loop, hloop, hindex, hslot⟩ := hlost
  cases hstep with
  | skip => exact ⟨hdepth, loop, hloop, hindex, hslot⟩
  | add observer =>
    refine ⟨hdepth, loop, hloop, hindex, ?_⟩
    obtain ⟨hlt, -⟩ := List.getElem?_eq_some_iff.mp hslot
    exact (List.getElem?_append_left hlt).trans hslot
  | remove observer =>
    have hpos : 0 < s.list.iterationDepth := hdepth ▸ List.length_pos_of_mem hloop
    obtain ⟨hsame, hvacant⟩ := removeObserver_of_vacant hpos hslot observer
    obtain ⟨removed, hremove⟩ := loop.remove_eq observer
    refine ⟨?_, loop.remove observer, List.mem_map_of_mem hloop, ?_⟩
    · rw [List.length_map, ← hdepth]
      exact hsame
    · rw [hremove]
      exact ⟨hindex, hvacant⟩
  | enter => exact ⟨congrArg (· + 1) hdepth, loop, List.mem_cons_of_mem _ hloop, hindex, hslot⟩
  | back top outer hloops =>
    rw [hloops] at hdepth hloop
    refine ⟨hdepth, ?_⟩
    rcases List.mem_cons.mp hloop with rfl | houter
    · exact ⟨_, List.mem_cons_self, skip_ne hslot _, hslot⟩
    · exact ⟨loop, List.mem_cons_of_mem _ houter, hindex, hslot⟩
  | visit top outer observer hloops =>
    rw [hloops] at hdepth hloop
    refine ⟨hdepth, ?_⟩
    rcases List.mem_cons.mp hloop with rfl | houter
    · exact ⟨_, List.mem_cons_self, hindex, hslot⟩
    · exact ⟨loop, List.mem_cons_of_mem _ houter, hindex, hslot⟩
  | leave top outer hloops hcalling hend =>
    rw [hloops] at hdepth hloop
    rcases List.mem_cons.mp hloop with rfl | houter
    · exact absurd hend hindex
    · -- there is a loop left, so that the slots stay where they are
      have hbefore : s.list.iterationDepth - 1 = outer.length := by
        rw [hdepth]
        rfl
      have hpos : 0 < outer.length := List.length_pos_of_mem houter
      have hlist : s.list.endIteration =
          { s.list with iterationDepth := s.list.iterationDepth - 1 } := by
        unfold endIteration
        exact if_neg (fun hno => absurd hno.1 (by dsimp only; omega))
      rw [hlist]
      exact ⟨hbefore, loop, houter, hindex, hslot⟩

/-- There is a loop that is lost, unless something worse has happened. -/
def Stray (o : Option (State T)) : Prop :=
  ∀ s ∈ o, s.list.iterationDepth = s.loops.length ∧ ∃ loop ∈ s.loops, Lost s.list.observers loop

theorem stray_step (o : Option (State T)) (e : Event T) (h : Stray o) :
    Stray ((system T).step o e) := by
  intro s' hs'
  obtain ⟨s, rfl, hmove⟩ := Option.bind_eq_some_iff.mp hs'
  obtain ⟨hdepth, hlost⟩ := h s rfl
  exact lost_step hdepth hlost (State.step_of_move hmove)

theorem Stray.not_terminates {o : Option (State T)} (h : Stray o) : ¬ Terminates o := by
  rintro ⟨events, -, s, hs, hloops⟩
  obtain ⟨-, loop, hloop, -⟩ := (system T).runFrom_invariant Stray stray_step h events s hs
  rw [hloops] at hloop
  cases hloop

theorem Inv.stray (h : Inv s) (hsafe : ¬ Safe s e) : Stray ((system T).step (some s) e) := by
  obtain ⟨observer, rfl, hready, loop, hloop, hslot⟩ := exists_of_not_safe hsafe
  have hstep : (system T).step (some s) (.removeObserver observer) =
      some { list := s.list.removeObserver observer, loops := s.loops.map (·.remove observer) } := by
    show (if s.ready then _ else _) = _
    rw [if_pos hready]
  have hdepth : 0 < s.list.iterationDepth := h.depth ▸ List.length_pos_of_mem hloop
  obtain ⟨count, hremove, -⟩ := removeObserver_of_loop h.nodup hdepth observer
  rw [hstep, hremove]
  intro s' hs'
  obtain rfl := Option.mem_some_iff.mp hs'
  refine ⟨by simpa using h.depth, loop.remove observer, List.mem_map_of_mem hloop, ?_⟩
  obtain ⟨removed, hloop'⟩ := loop.remove_eq observer
  rw [hloop']
  constructor
  · exact Nat.ne_of_lt ((h.good loop hloop).calling (h.calling hready loop hloop))
  · rw [List.getElem?_map, hslot]
    simp [without]

/-! ## Notification -/

/-- The loops have visited whom they should until now, each once and in order; when there are
none, there is no null slot; and if the bodies only return, they all end. -/
structure OnTrack (s : State T) : Prop where
  visited : ∀ loop ∈ s.loops, loop.visited <+: loop.expected ∧ loop.visited.Nodup
  compacted : s.loops = [] → none ∉ s.list.observers
  terminates : Terminates (some s)

/-- Every loop is on track, and those that have ended have visited everyone they should. -/
structure Conforms (events : List (Event T)) : Prop where
  onTrack : (system T).Always (fun o => ∃ s, o = some s ∧ OnTrack s) events
  ended : ∀ loop ∈ (system T).collect ended events,
    loop.visited = loop.expected ∧ loop.visited.Nodup

theorem Inv.onTrack (h : Inv s) : OnTrack s where
  visited loop hloop := by
    have hgood := h.good loop hloop
    exact ⟨hgood.visited_prefix, (List.nodup_append.mp hgood.nodup_found).1⟩
  compacted := h.compacted
  terminates := h.terminates

theorem inv_step {o : Option (State T)} (h : ∃ s, o = some s ∧ Inv s) (hvalid : ∀ s ∈ o, Valid s e)
    (hsafe : ∀ s ∈ o, Safe s e) : ∃ s, (system T).step o e = some s ∧ Inv s := by
  obtain ⟨s, rfl, hinv⟩ := h
  obtain ⟨s', hmove⟩ := hinv.move (hvalid s rfl)
  exact ⟨s', hmove, hinv.step (hvalid s rfl) (hsafe s rfl) (State.step_of_move hmove)⟩

theorem inv_init : ∃ s, (system T).init = some s ∧ Inv s :=
  ⟨{}, rfl, ⟨rfl, by simp, List.nodup_nil, by simp, by simp, by simp⟩⟩

theorem ended_of_safe {events : List (Event T)}
    (hvalid : (system T).Meets (fun o e => ∀ s ∈ o, Valid s e) events)
    (hsafe : (system T).Meets (fun o e => ∀ s ∈ o, Safe s e) events)
    (hloop : loop ∈ (system T).collect ended events) :
    loop.visited = loop.expected ∧ loop.visited.Nodup := by
  obtain ⟨pre, e, hpre, hmem⟩ := (Lts.System.mem_collect_iff ..).mp hloop
  have hbefore : pre <+: events := (List.prefix_append pre [e]).trans hpre
  obtain ⟨s, hs, hinv⟩ := (system T).invariant_of_meets (fun o => ∃ s, o = some s ∧ Inv s)
    (fun o e => (∀ s ∈ o, Valid s e) ∧ ∀ s ∈ o, Safe s e) inv_init
    (fun o e h hboth => inv_step h hboth.1 hboth.2)
    (fun pre' e' hpre' => ⟨hvalid pre' e' (hpre'.trans hbefore), hsafe pre' e' (hpre'.trans hbefore)⟩)
  rw [hs] at hmem
  obtain ⟨hopen, hcalling, hindex⟩ := mem_ended hmem
  have hgood := hinv.good loop hopen
  exact ⟨hgood.visited_eq hcalling hindex, (List.nodup_append.mp hgood.nodup_found).1⟩

/-- Whatever the observers do when they are called, a loop visits everyone who is there at its
start and is not removed before, once and in order; it follows no null pointer and ends; and
there is no null slot when all loops have ended. This is so if and only if nobody removes the
first observer that was added during a loop before the loop ends. -/
theorem notification_iff (events : List (Event T))
    (hvalid : (system T).Meets (fun o e => ∀ s ∈ o, Valid s e) events) :
    Conforms events ↔ (system T).Meets (fun o e => ∀ s ∈ o, Safe s e) events := by
  have hiff : (system T).Always (fun o => ∃ s, o = some s ∧ OnTrack s) events ↔
      (system T).Meets (fun o e => ∀ s ∈ o, Safe s e) events := by
    refine (system T).always_iff_meets_of (fun o => ∃ s, o = some s ∧ Inv s) _
      (fun o e => ∀ s ∈ o, Valid s e) _ inv_init ?_ (fun o e => inv_step) ?_ hvalid
    · rintro _ ⟨s, rfl, hinv⟩
      exact ⟨s, rfl, hinv.onTrack⟩
    · rintro _ e ⟨s, rfl, hinv⟩ - hsafe ⟨s', hs', htrack⟩
      refine (hinv.stray ?_).not_terminates (hs' ▸ htrack.terminates)
      exact fun hno => hsafe (fun _ hmem => Option.mem_some_iff.mp hmem ▸ hno)
  constructor
  · intro hconforms
    exact hiff.mp hconforms.onTrack
  · intro hsafe
    exact ⟨hiff.mpr hsafe, fun loop hloop => ended_of_safe hvalid hsafe hloop⟩

/-- The first observer removes the second one and adds two; the next removes the last of them. -/
def orderlyNotification : List (Event Nat) :=
  [.addObserver 1, .addObserver 2, .addObserver 3, .enter, .proceed, .removeObserver 2,
    .addObserver 4, .addObserver 5, .proceed, .proceed, .removeObserver 5, .proceed, .proceed]

theorem notification_orderly :
    ((system Nat).collect ended orderlyNotification).map (·.visited) = [[1, 3]] ∧
      Conforms orderlyNotification := by
  have hvalid : (system Nat).Meets (fun o e => ∀ s ∈ o, Valid s e) orderlyNotification := by
    rw [Lts.System.meets_iff_meetsFrom]
    decide
  have hsafe : (system Nat).Meets (fun o e => ∀ s ∈ o, Safe s e) orderlyNotification := by
    rw [Lts.System.meets_iff_meetsFrom]
    decide
  exact ⟨rfl, (notification_iff orderlyNotification hvalid).mpr hsafe⟩

/-- An observer adds another one and removes it again. -/
def hastyObserver : List (Event Nat) :=
  [.addObserver 1, .enter, .proceed, .addObserver 2, .removeObserver 2, .proceed]

theorem notification_out_of_range :
    (system Nat).Meets (fun o e => ∀ s ∈ o, Valid s e) (hastyObserver ++ [.proceed]) ∧
      (∃ s loop, (system Nat).run hastyObserver = some s ∧ s.loops = [loop] ∧
        loop.last < loop.index ∧ loop.index = s.list.observers.length) ∧
      (system Nat).run (hastyObserver ++ [.proceed]) = none ∧
      ¬ Conforms (hastyObserver ++ [.proceed]) := by
  refine ⟨?_, ⟨_, _, rfl, rfl, by decide, rfl⟩, rfl, ?_⟩
  · rw [Lts.System.meets_iff_meetsFrom]
    decide
  · intro hconforms
    obtain ⟨s, hs, -⟩ := hconforms.onTrack _ (List.prefix_refl _)
    cases hs

end ObserverList

end ScadaCore.Base
