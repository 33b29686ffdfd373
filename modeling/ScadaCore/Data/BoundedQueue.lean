import Mathlib.Data.List.DropRight
import ScadaCore.Lts.System

/-!
# Data.BoundedQueue — a bounded queue that marks its overflow once

A queue takes elements up to a capacity. The first element that finds it full
makes it append a mark, past the capacity; that element and all later ones that
find it full are dropped. The mark is appended once in the life of the queue.

The queue records what happened to every element offered (`log`) and what was
taken out (`delivered`). `Faithful` says that the two agree: what was taken out
and what is pending are the accepted elements and the mark, in order. In the log
a gap is what lies between two accepted elements, and `GapsReported` says that a
mark stands in every gap with a drop. `Queueing` is any system with such a queue in
its state, and `Batches` is about its readers: what they get, batch by batch, is what
went in.
-/

/-- What happened at the entrance of a queue. -/
inductive BoundedQueue.Entry (α : Type*) where
  | accepted (a : α)
  | dropped (a : α)
  | marked
deriving DecidableEq, Repr

namespace BoundedQueue.Entry

variable {α : Type*}

def isAccepted : Entry α → Bool
  | .accepted _ => true
  | .dropped _ | .marked => false

def element (mark : α) : Entry α → Option α
  | .accepted a => some a
  | .marked => some mark
  | .dropped _ => none

end BoundedQueue.Entry

structure BoundedQueue (α : Type*) where
  pending : List α := []
  overflowReported : Bool := false
  log : List (BoundedQueue.Entry α) := []
  delivered : List α := []
deriving Repr

namespace BoundedQueue

variable {α : Type*}

/-! ## Operations -/

def isFull (capacity : Nat) (q : BoundedQueue α) : Bool := decide (capacity ≤ q.pending.length)

def accept (q : BoundedQueue α) (a : α) : BoundedQueue α :=
  { q with pending := q.pending ++ [a], log := q.log ++ [.accepted a] }

/-- The element is dropped; the first time, the mark is appended. -/
def reject (mark : α) (q : BoundedQueue α) (a : α) : BoundedQueue α :=
  if q.overflowReported then
    { q with log := q.log ++ [.dropped a] }
  else
    { q with
      pending := q.pending ++ [mark]
      overflowReported := true
      log := q.log ++ [.dropped a, .marked] }

def enqueue (capacity : Nat) (mark : α) (q : BoundedQueue α) (a : α) : BoundedQueue α :=
  if q.isFull capacity then q.reject mark a else q.accept a

def enqueueAll (capacity : Nat) (mark : α) (q : BoundedQueue α) (as : List α) : BoundedQueue α :=
  as.foldl (enqueue capacity mark) q

def take (q : BoundedQueue α) (n : Nat) : BoundedQueue α :=
  { q with pending := q.pending.drop n, delivered := q.delivered ++ q.pending.take n }

def clear (q : BoundedQueue α) : BoundedQueue α := { q with pending := [] }

variable {capacity : Nat} {mark : α}

variable {q : BoundedQueue α} {log : List (Entry α)} {e : Entry α}

theorem isFull_iff : q.isFull capacity = true ↔ capacity ≤ q.pending.length :=
  decide_eq_true_iff

@[simp] theorem enqueueAll_nil (q : BoundedQueue α) : q.enqueueAll capacity mark [] = q := rfl

@[simp] theorem enqueueAll_cons (q : BoundedQueue α) (a : α) (as : List α) :
    q.enqueueAll capacity mark (a :: as) =
      (q.enqueue capacity mark a).enqueueAll capacity mark as := rfl

theorem enqueue_of_full (h : q.isFull capacity = true) (a : α) :
    q.enqueue capacity mark a = q.reject mark a := if_pos h

theorem enqueue_of_not_full (h : q.isFull capacity = false) (a : α) :
    q.enqueue capacity mark a = q.accept a := by
  rw [enqueue, h]
  rfl

theorem isFull_reject (h : q.isFull capacity = true) (a : α) :
    (q.reject mark a).isFull capacity = true := by
  rw [isFull_iff] at h ⊢
  unfold reject
  split
  · exact h
  · simp only [List.length_append]
    omega

theorem enqueueAll_of_full (h : q.isFull capacity = true) (as : List α) :
    q.enqueueAll capacity mark as = as.foldl (reject mark) q := by
  induction as generalizing q with
  | nil => rfl
  | cons a as ih =>
    rw [enqueueAll_cons, enqueue_of_full h, List.foldl_cons]
    exact ih (isFull_reject h a)

theorem pending_enqueue_eq_nil_iff (q : BoundedQueue α) (a : α) :
    (q.enqueue capacity mark a).pending = [] ↔
      q.pending = [] ∧ capacity = 0 ∧ q.overflowReported = true := by
  unfold enqueue
  cases hfull : q.isFull capacity with
  | false =>
    have hroom : ¬ capacity ≤ q.pending.length := by
      rw [← isFull_iff, hfull]
      exact Bool.false_ne_true
    simp only [accept, Bool.false_eq_true, if_false, List.append_eq_nil_iff]
    constructor
    · rintro ⟨-, hno⟩
      cases hno
    · rintro ⟨-, rfl, -⟩
      exact absurd (Nat.zero_le _) hroom
  | true =>
    rw [isFull_iff] at hfull
    cases hreported : q.overflowReported with
    | false => simp [reject, hreported]
    | true =>
      simp only [reject, hreported, if_true, and_true]
      refine ⟨fun h => ⟨h, ?_⟩, And.left⟩
      rw [h] at hfull
      exact Nat.le_zero.mp hfull

theorem pending_enqueueAll_eq_nil_iff (q : BoundedQueue α) (as : List α) :
    (q.enqueueAll capacity mark as).pending = [] ↔
      q.pending = [] ∧ (as = [] ∨ capacity = 0 ∧ q.overflowReported = true) := by
  induction as generalizing q with
  | nil => simp
  | cons a as ih =>
    rw [enqueueAll_cons]
    refine (ih (q.enqueue capacity mark a)).trans ?_
    rw [pending_enqueue_eq_nil_iff]
    constructor
    · rintro ⟨⟨hpending, hnever⟩, -⟩
      exact ⟨hpending, Or.inr hnever⟩
    · rintro ⟨hpending, hno | ⟨hzero, hreported⟩⟩
      · cases hno
      · have hkept : (q.enqueue capacity mark a).overflowReported = true := by
          have hfull : q.isFull capacity = true := isFull_iff.mpr (by omega)
          simp [enqueue_of_full hfull, reject, hreported]
        exact ⟨⟨hpending, hzero, hreported⟩, Or.inr ⟨hzero, hkept⟩⟩

/-! ## First in, first out -/

def stream (mark : α) (log : List (Entry α)) : List α := log.filterMap (Entry.element mark)

def Faithful (mark : α) (q : BoundedQueue α) : Prop :=
  q.delivered ++ q.pending = stream mark q.log

theorem Faithful.enqueue (h : q.Faithful mark) (capacity : Nat) (a : α) :
    (q.enqueue capacity mark a).Faithful mark := by
  unfold Faithful at h ⊢
  unfold BoundedQueue.enqueue
  split
  · unfold reject
    split
    · simp [stream, Entry.element, h]
    · simp [stream, Entry.element, List.filterMap_cons, ← List.append_assoc, h]
  · simp [accept, stream, Entry.element, ← List.append_assoc, h]

theorem Faithful.enqueueAll (h : q.Faithful mark) (capacity : Nat) (as : List α) :
    (q.enqueueAll capacity mark as).Faithful mark := by
  induction as generalizing q with
  | nil => exact h
  | cons a as ih => exact ih (h.enqueue capacity a)

theorem Faithful.take (h : q.Faithful mark) (n : Nat) : (q.take n).Faithful mark := by
  have hsplit : (q.take n).delivered ++ (q.take n).pending = q.delivered ++ q.pending := by
    simp [BoundedQueue.take]
  exact hsplit.trans h

/-! ## What goes in, and how much of it there can be -/

/-- What the elements offered put into the queue: themselves, or the mark. -/
def admitted (capacity : Nat) (mark : α) : BoundedQueue α → List α → List α
  | _, [] => []
  | q, a :: as =>
    (if q.isFull capacity then if q.overflowReported then [] else [mark] else [a]) ++
      admitted capacity mark (q.enqueue capacity mark a) as

theorem pending_enqueueAll (q : BoundedQueue α) (as : List α) :
    (q.enqueueAll capacity mark as).pending = q.pending ++ q.admitted capacity mark as := by
  induction as generalizing q with
  | nil => simp [admitted]
  | cons a as ih =>
    have hone : (q.enqueue capacity mark a).pending = q.pending ++
        if q.isFull capacity then if q.overflowReported then [] else [mark] else [a] := by
      unfold enqueue
      split
      · unfold reject
        split <;> simp
      · rfl
    rw [enqueueAll_cons, ih, hone, admitted, List.append_assoc]

theorem mem_admitted {as : List α} {a : α} (h : a ∈ q.admitted capacity mark as) :
    a ∈ as ∨ a = mark := by
  induction as generalizing q with
  | nil => cases h
  | cons b as ih =>
    rw [admitted, List.mem_append] at h
    rcases h with hhead | htail
    · split at hhead
      · split at hhead
        · cases hhead
        · exact Or.inr (List.mem_singleton.mp hhead)
      · exact Or.inl (List.mem_cons.mpr (Or.inl (List.mem_singleton.mp hhead)))
    · exact (ih htail).imp (List.mem_cons_of_mem b) id

/-- The mark is all that can be in the queue past its capacity. -/
def Room (capacity : Nat) (q : BoundedQueue α) : Prop :=
  q.pending.length ≤ capacity + q.overflowReported.toNat

theorem Room.length_le (h : q.Room capacity) : q.pending.length ≤ capacity + 1 :=
  Nat.le_trans h (Nat.add_le_add_left (Bool.toNat_le _) _)

theorem Room.enqueue (h : q.Room capacity) (a : α) : (q.enqueue capacity mark a).Room capacity := by
  unfold Room at h ⊢
  unfold BoundedQueue.enqueue
  split
  · unfold reject
    split
    · exact h
    · rename_i hfirst
      rw [Bool.not_eq_true] at hfirst
      rw [hfirst] at h
      simp only [List.length_append, List.length_singleton, Bool.toNat_true]
      exact Nat.add_le_add_right h 1
  · rename_i hroom
    rw [isFull_iff] at hroom
    simp only [accept, List.length_append, List.length_singleton]
    omega

theorem Room.enqueueAll (h : q.Room capacity) (as : List α) :
    (q.enqueueAll capacity mark as).Room capacity := by
  induction as generalizing q with
  | nil => exact h
  | cons a as ih => exact ih (h.enqueue a)

theorem Room.take (h : q.Room capacity) (n : Nat) : (q.take n).Room capacity := by
  unfold Room at h ⊢
  simp only [BoundedQueue.take, List.length_drop]
  omega

/-! ## Gaps -/

def sinceAccepted (log : List (Entry α)) : List (Entry α) := log.rtakeWhile (!·.isAccepted)

def untilAccepted (log : List (Entry α)) : List (Entry α) := log.takeWhile (!·.isAccepted)

/-- Every drop lies in a gap in which the overflow is marked. -/
def GapsReported (log : List (Entry α)) : Prop :=
  ∀ pre a post, log = pre ++ .dropped a :: post →
    .marked ∈ sinceAccepted pre ∨ .marked ∈ untilAccepted post

@[simp] theorem gapsReported_nil : GapsReported ([] : List (Entry α)) := by
  intro pre a post h
  simp at h

theorem marked_mem_untilAccepted_concat (he : e ≠ .marked) :
    .marked ∈ untilAccepted (log ++ [e]) ↔ .marked ∈ untilAccepted log := by
  induction log with
  | nil =>
    cases e with
    | marked => exact absurd rfl he
    | accepted a | dropped a => simp [untilAccepted, Entry.isAccepted]
  | cons x log ih =>
    unfold untilAccepted at ih ⊢
    cases x with
    | accepted a | marked => simp [Entry.isAccepted]
    | dropped a => simpa [Entry.isAccepted] using ih

theorem drop_split_concat {pre post : List (Entry α)} {a : α}
    (h : log ++ [e] = pre ++ .dropped a :: post) :
    (pre = log ∧ e = .dropped a ∧ post = []) ∨
      ∃ post', post = post' ++ [e] ∧ log = pre ++ .dropped a :: post' := by
  rcases List.eq_nil_or_concat post with rfl | ⟨post', x, rfl⟩
  · obtain ⟨hlog, he⟩ := List.append_inj' h rfl
    exact Or.inl ⟨hlog.symm, List.singleton_inj.mp he, rfl⟩
  · have h' : log ++ [e] = (pre ++ .dropped a :: post') ++ [x] := by simpa using h
    obtain ⟨hlog, he⟩ := List.append_inj' h' rfl
    exact Or.inr ⟨post', by rw [List.singleton_inj.mp he, List.concat_eq_append], hlog⟩

/-- An entry that is no mark leaves the gaps before it as they are; if it is a
drop, the mark must already stand in its gap. -/
theorem gapsReported_concat_iff (he : e ≠ .marked) :
    GapsReported (log ++ [e]) ↔
      GapsReported log ∧ (e.isAccepted = false → .marked ∈ sinceAccepted log) := by
  constructor
  · intro h
    refine ⟨?_, ?_⟩
    · intro pre a post hsplit
      have hreported := h pre a (post ++ [e]) (by rw [hsplit]; simp)
      rwa [marked_mem_untilAccepted_concat he] at hreported
    · intro hdropped
      cases e with
      | marked => exact absurd rfl he
      | accepted a => cases hdropped
      | dropped a =>
        rcases h log a [] rfl with hsince | huntil
        · exact hsince
        · cases huntil
  · rintro ⟨hlog, hlast⟩ pre a post hsplit
    rcases drop_split_concat hsplit with ⟨rfl, rfl, rfl⟩ | ⟨post', rfl, rfl⟩
    · exact Or.inl (hlast rfl)
    · rw [marked_mem_untilAccepted_concat he]
      exact hlog pre a post' rfl

theorem marked_mem_untilAccepted_append {log' : List (Entry α)} (h : .marked ∈ untilAccepted log) :
    .marked ∈ untilAccepted (log ++ log') := by
  induction log with
  | nil => cases h
  | cons x log ih =>
    unfold untilAccepted at h ih ⊢
    cases x with
    | accepted a => simp [Entry.isAccepted] at h
    | dropped a => simpa [Entry.isAccepted] using ih (by simpa [Entry.isAccepted] using h)
    | marked => simp [Entry.isAccepted]

theorem GapsReported.drop_marked (h : GapsReported log) (a : α) :
    GapsReported (log ++ [.dropped a, .marked]) := by
  intro pre b post hsplit
  have hsplit' : (log ++ [.dropped a]) ++ [.marked] = pre ++ .dropped b :: post := by
    simpa using hsplit
  rcases drop_split_concat hsplit' with ⟨-, hbad, -⟩ | ⟨post', rfl, hinner⟩
  · cases hbad
  · rcases drop_split_concat hinner with ⟨-, -, rfl⟩ | ⟨post'', rfl, rfl⟩
    · exact Or.inr List.mem_cons_self
    · rcases h pre b post'' rfl with hsince | huntil
      · exact Or.inl hsince
      · rw [List.append_assoc]
        exact Or.inr (marked_mem_untilAccepted_append huntil)

theorem not_gapsReported_of_accepted_dropped (log : List (Entry α)) (a b : α) :
    ¬ GapsReported (log ++ [.accepted a, .dropped b]) := by
  intro h
  rcases h (log ++ [.accepted a]) b [] (by simp) with hsince | huntil
  · simp [sinceAccepted, Entry.isAccepted] at hsince
  · cases huntil

/-! ## Reporting every drop -/

/-- If the element is dropped without a mark of its own, then nothing was
accepted since the mark. -/
def Reports (capacity : Nat) (q : BoundedQueue α) : Prop :=
  q.isFull capacity = true → q.overflowReported = true → .marked ∈ sinceAccepted q.log

theorem gapsReported_enqueue_iff (h : GapsReported q.log) (a : α) :
    GapsReported (q.enqueue capacity mark a).log ↔ q.Reports capacity := by
  cases hfull : q.isFull capacity with
  | false =>
    rw [enqueue_of_not_full hfull]
    refine iff_of_true ?_ ?_
    · exact (gapsReported_concat_iff (by simp)).mpr ⟨h, fun hdropped => by cases hdropped⟩
    · intro hyes
      rw [hfull] at hyes
      cases hyes
  | true =>
    rw [enqueue_of_full hfull]
    cases hreported : q.overflowReported with
    | true =>
      have hlog : (q.reject mark a).log = q.log ++ [.dropped a] := by simp [reject, hreported]
      rw [hlog, gapsReported_concat_iff (by simp)]
      simp [Reports, hfull, hreported, h, Entry.isAccepted]
    | false =>
      have hlog : (q.reject mark a).log = q.log ++ [.dropped a, .marked] := by
        simp [reject, hreported]
      rw [hlog]
      refine iff_of_true (h.drop_marked a) ?_
      intro _ hyes
      rw [hreported] at hyes
      cases hyes

theorem enqueueAll_of_reported (h : q.overflowReported = true) (capacity : Nat) (mark : α)
    (as : List α) :
    (q.enqueueAll capacity mark as).overflowReported = true ∧
      ∃ more, (q.enqueueAll capacity mark as).log = q.log ++ more ∧ .marked ∉ more := by
  induction as generalizing q with
  | nil => exact ⟨h, [], by simp, by simp⟩
  | cons a as ih =>
    have hone : (q.enqueue capacity mark a).overflowReported = true ∧
        ∃ e, (q.enqueue capacity mark a).log = q.log ++ [e] ∧ e ≠ .marked := by
      unfold enqueue
      split
      · exact ⟨by simp [reject, h], .dropped a, by simp [reject, h], by simp⟩
      · exact ⟨h, .accepted a, rfl, by simp⟩
    obtain ⟨hreported, e, hlog, he⟩ := hone
    obtain ⟨hreported', more, hmore, hunmarked⟩ := ih hreported
    refine ⟨hreported', e :: more, ?_, ?_⟩
    · rw [enqueueAll_cons, hmore, hlog]
      simp
    · simp [he.symm, hunmarked]

theorem GapsReported.of_append {more : List (Entry α)} (h : GapsReported (log ++ more))
    (hunmarked : .marked ∉ more) : GapsReported log := by
  induction more using List.reverseRecOn with
  | nil => simpa using h
  | append_singleton more e ih =>
    rw [List.mem_append, not_or, List.mem_singleton] at hunmarked
    rw [← List.append_assoc] at h
    exact ih ((gapsReported_concat_iff (Ne.symm hunmarked.2)).mp h).1 hunmarked.1

/-- Each element offered is accepted, or its drop is reported. -/
def ReportsAll (capacity : Nat) (mark : α) : BoundedQueue α → List α → Prop
  | _, [] => True
  | q, a :: as => q.Reports capacity ∧ ReportsAll capacity mark (q.enqueue capacity mark a) as

/-- **Reports, exactly.** After a number of elements all gaps are reported if and
only if each of them that was dropped found the mark in its gap. -/
theorem gapsReported_enqueueAll_iff (h : GapsReported q.log) (as : List α) :
    GapsReported (q.enqueueAll capacity mark as).log ↔ ReportsAll capacity mark q as := by
  induction as generalizing q with
  | nil => exact iff_of_true h trivial
  | cons a as ih =>
    rw [enqueueAll_cons, ReportsAll, ← gapsReported_enqueue_iff h a]
    constructor
    · intro hall
      by_cases hfirst : GapsReported (q.enqueue capacity mark a).log
      · exact ⟨hfirst, (ih hfirst).mp hall⟩
      · -- the drop went unreported, so the mark is behind it and does not come again
        exfalso
        rw [gapsReported_enqueue_iff h a, Reports, Classical.not_imp,
          Classical.not_imp] at hfirst
        obtain ⟨hfull, hreported, hno⟩ := hfirst
        have hkept : (q.enqueue capacity mark a).overflowReported = true := by
          simp [enqueue_of_full hfull, reject, hreported]
        obtain ⟨-, more, hlog, hunmarked⟩ := enqueueAll_of_reported hkept capacity mark as
        rw [hlog] at hall
        have hreports := (gapsReported_enqueue_iff h a).mp (hall.of_append hunmarked)
        exact hno (hreports hfull hreported)
    · rintro ⟨hfirst, hrest⟩
      exact (ih hfirst).mpr hrest

/-! ## Systems with a queue -/

/-- The system has a queue in its state. A step offers `arrivals` to it, or takes
something out, or throws all of it away and closes the system for good. -/
structure Queueing {σ ε : Type*} (S : Lts.System σ ε) (capacity : Nat) (mark : α) where
  queue : σ → BoundedQueue α
  arrivals : σ → ε → List α
  closed : σ → Bool
  queue_init : queue S.init = {}
  queue_step : ∀ s e,
    queue (S.step s e) = (queue s).enqueueAll capacity mark (arrivals s e) ∨
      arrivals s e = [] ∧ ((∃ n, queue (S.step s e) = (queue s).take n) ∨
        queue (S.step s e) = (queue s).clear ∧ closed (S.step s e) = true)
  closed_step : ∀ s e, closed s = true → closed (S.step s e) = true

namespace Queueing

variable {σ ε : Type*} {S : Lts.System σ ε} (Q : Queueing S capacity mark)

theorem log_step (s : σ) (e : ε) : (Q.queue (S.step s e)).log =
    ((Q.queue s).enqueueAll capacity mark (Q.arrivals s e)).log := by
  rcases Q.queue_step s e with heq | ⟨hnone, ⟨n, heq⟩ | ⟨heq, -⟩⟩
  · rw [heq]
  · rw [heq, hnone]
    rfl
  · rw [heq, hnone]
    rfl

/-- **First in, first out.** While the system is open, what was taken out and what
is pending is what went in, in order. -/
theorem always_faithful (es : List ε) :
    S.Always (fun s => Q.closed s = false → (Q.queue s).Faithful mark) es := by
  intro pre _
  refine S.invariant (fun s => Q.closed s = false → (Q.queue s).Faithful mark) ?_ ?_ pre
  · intro _
    rw [Q.queue_init]
    rfl
  · intro s e h hopen
    have hbefore : Q.closed s = false := by
      by_contra hclosed
      rw [Bool.not_eq_false] at hclosed
      rw [Q.closed_step s e hclosed] at hopen
      cases hopen
    rcases Q.queue_step s e with heq | ⟨-, ⟨n, heq⟩ | ⟨-, hclosed⟩⟩
    · rw [heq]
      exact (h hbefore).enqueueAll capacity _
    · rw [heq]
      exact (h hbefore).take n
    · rw [hclosed] at hopen
      cases hopen

theorem room_run (es : List ε) : (Q.queue (S.run es)).Room capacity := by
  refine S.invariant (fun s => (Q.queue s).Room capacity) ?_ ?_ es
  · rw [Q.queue_init]
    exact Nat.zero_le _
  · intro s e h
    rcases Q.queue_step s e with heq | ⟨-, ⟨n, heq⟩ | ⟨heq, -⟩⟩
    · rw [heq]
      exact h.enqueueAll _
    · rw [heq]
      exact h.take n
    · rw [heq]
      exact Nat.zero_le _

def admits (s : σ) (e : ε) : List α := (Q.queue s).admitted capacity mark (Q.arrivals s e)

/-- The system has readers that take batches out of the queue. A batch comes with
the count that was asked for; a reader that asks for nothing gets nothing, and
any other gets something within the limit for its count. -/
structure Batches where
  batches : σ → ε → List (Nat × List α)
  limit : Nat → Nat
  batches_step : ∀ s e,
    ((∀ entry ∈ batches s e, entry = (0, [])) ∧
      (Q.queue (S.step s e) = (Q.queue s).enqueueAll capacity mark (Q.arrivals s e) ∨
        Q.closed (S.step s e) = true)) ∨
    ∃ count n, batches s e = [(count, (Q.queue s).pending.take n)] ∧ Q.arrivals s e = [] ∧
      Q.queue (S.step s e) = (Q.queue s).take n ∧ (Q.queue s).pending.take n ≠ [] ∧
      ((Q.queue s).pending.take n).length ≤ limit count

variable {Q}

section

variable (B : Q.Batches)

/-- While the system is open, no step loses or makes up an element. -/
theorem Batches.conserved (s : σ) (e : ε) (hopen : Q.closed (S.step s e) = false) :
    (B.batches s e).flatMap Prod.snd ++ (Q.queue (S.step s e)).pending =
      (Q.queue s).pending ++ Q.admits s e := by
  rcases B.batches_step s e with ⟨hnothing, hqueue⟩ | ⟨count, n, hbatch, hnone, hqueue, -, -⟩
  · have hflat : (B.batches s e).flatMap Prod.snd = [] := by
      rw [List.flatMap_eq_nil_iff]
      intro entry hentry
      rw [hnothing entry hentry]
    rcases hqueue with heq | hclosed
    · rw [hflat, heq, pending_enqueueAll]
      rfl
    · rw [hclosed] at hopen
      cases hopen
  · have hadmits : Q.admits s e = [] := by rw [admits, hnone, admitted]
    rw [hbatch, hqueue, hadmits]
    simp [take]

theorem Batches.sized (s : σ) (e : ε) {entry : Nat × List α} (hentry : entry ∈ B.batches s e) :
    entry.2.length ≤ B.limit entry.1 ∧ (entry.2 = [] → entry.1 = 0) := by
  rcases B.batches_step s e with ⟨hnothing, -⟩ | ⟨count, n, hbatch, -, -, hsome, hlimit⟩
  · rw [hnothing entry hentry]
    exact ⟨Nat.zero_le _, fun _ => rfl⟩
  · rw [hbatch] at hentry
    rw [List.mem_singleton.mp hentry]
    exact ⟨hlimit, fun hnil => absurd hnil hsome⟩

/-- **First in, first out**, for what the readers get: while the system is open,
the batches so far and what is pending are what went in, in order. -/
theorem Batches.fifo {es : List ε} (hopen : Q.closed (S.run es) = false) :
    (S.collect B.batches es).flatMap Prod.snd ++ (Q.queue (S.run es)).pending =
      S.collect Q.admits es := by
  induction es using List.reverseRecOn with
  | nil =>
    rw [Lts.System.run_nil, Q.queue_init]
    rfl
  | append_singleton es e ih =>
    rw [Lts.System.run_concat] at hopen
    have hbefore : Q.closed (S.run es) = false := by
      by_contra hclosed
      rw [Bool.not_eq_false] at hclosed
      rw [Q.closed_step _ e hclosed] at hopen
      cases hopen
    calc (S.collect B.batches (es ++ [e])).flatMap Prod.snd ++
          (Q.queue (S.run (es ++ [e]))).pending
        = (S.collect B.batches es).flatMap Prod.snd ++
            ((B.batches (S.run es) e).flatMap Prod.snd ++
              (Q.queue (S.step (S.run es) e)).pending) := by simp
      _ = (S.collect B.batches es).flatMap Prod.snd ++
            ((Q.queue (S.run es)).pending ++ Q.admits (S.run es) e) := by
          rw [B.conserved _ e hopen]
      _ = S.collect Q.admits es ++ Q.admits (S.run es) e := by
          rw [← List.append_assoc, ih hbefore]
      _ = S.collect Q.admits (es ++ [e]) := by simp

/-- What a step hands out or keeps was pending, or is new. -/
theorem Batches.flow (s : σ) (e : ε) :
    ((B.batches s e).flatMap Prod.snd ++ (Q.queue (S.step s e)).pending).Sublist
      ((Q.queue s).pending ++ Q.admits s e) := by
  rcases B.batches_step s e with ⟨hnothing, -⟩ | ⟨count, n, hbatch, hnone, hqueue, -, -⟩
  · have hflat : (B.batches s e).flatMap Prod.snd = [] := by
      rw [List.flatMap_eq_nil_iff]
      intro entry hentry
      rw [hnothing entry hentry]
    rw [hflat, List.nil_append]
    rcases Q.queue_step s e with heq | ⟨-, ⟨n, heq⟩ | ⟨heq, -⟩⟩
    · rw [heq, pending_enqueueAll]
      exact List.Sublist.refl _
    · rw [heq]
      exact (List.drop_sublist n _).trans (List.sublist_append_left _ _)
    · rw [heq]
      exact List.nil_sublist _
  · rw [hbatch, hqueue]
    simp [take, admits, hnone, admitted]

/-- **Nothing is made up or overtaken**, in an open system or a closed one: what the
readers got is, in order, some of what went in. -/
theorem Batches.sublist (es : List ε) :
    ((S.collect B.batches es).flatMap Prod.snd ++ (Q.queue (S.run es)).pending).Sublist
      (S.collect Q.admits es) := by
  induction es using List.reverseRecOn with
  | nil =>
    rw [Lts.System.run_nil, Q.queue_init]
    exact List.Sublist.refl _
  | append_singleton es e ih =>
    have hstep := (B.flow (S.run es) e).append_left ((S.collect B.batches es).flatMap Prod.snd)
    have hbefore := ih.append_right (Q.admits (S.run es) e)
    rw [List.append_assoc] at hbefore
    simpa using hstep.trans hbefore

theorem Batches.sizes {es : List ε} {entry : Nat × List α}
    (hentry : entry ∈ S.collect B.batches es) :
    entry.2.length ≤ B.limit entry.1 ∧ (entry.2 = [] → entry.1 = 0) := by
  obtain ⟨pre, e, -, hmem⟩ := (S.mem_collect_iff B.batches).mp hentry
  exact B.sized _ e hmem

end

/-- **Gaps, exactly.** In a run all gaps are reported at every point if and only if
every step reports what it drops. -/
theorem always_gapsReported_iff (es : List ε) :
    S.Always (fun s => GapsReported (Q.queue s).log) es ↔
      S.Meets (fun s e => ReportsAll capacity mark (Q.queue s) (Q.arrivals s e)) es := by
  refine S.always_iff_meets (fun s => GapsReported (Q.queue s).log) _ _ ?_ (fun s h => h) ?_ ?_ es
  · rw [Q.queue_init]
    exact gapsReported_nil
  · intro s e h hreports
    rw [Q.log_step]
    exact (gapsReported_enqueueAll_iff h _).mpr hreports
  · intro s e h hsilent hafter
    rw [Q.log_step] at hafter
    exact hsilent ((gapsReported_enqueueAll_iff h _).mp hafter)

end Queueing

end BoundedQueue
