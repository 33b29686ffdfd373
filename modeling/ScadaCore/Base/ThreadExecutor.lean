import Mathlib.Data.List.Sort
import ScadaCore.Base.Time
import ScadaCore.Lts.System

/-!
# Base.ThreadExecutor — a worker thread, its posters and its shutdown

A `ThreadExecutor` runs tasks on a thread of its own. Tasks without a delay go to a queue;
tasks with a delay wait in a priority queue until they are due. The threads take turns in
small steps: the worker holds the mutex from its second test of `stopped_` on until it has a
task or waits, a poster holds it for all of `PostDelayedTask`, and whoever stops the executor
does without it.

The top of a `std::priority_queue` is the largest of its elements, and of two pending tasks
the one that is due later is the larger. So it is the last one that the worker looks at.
-/

namespace ScadaCore.Base

/-! ## Pending tasks -/

/-- `struct PendingTask`. There are fewer than 2^31 of them, so that the `int` of the sequence
number does not overflow. -/
structure PendingTask (Task : Type) where
  task : Task
  time : Int
  sequence : Int
deriving DecidableEq, Repr

namespace PendingTask

variable {Task : Type}

/-- `PendingTask::operator<`. -/
def less (a other : PendingTask Task) : Bool :=
  if a.time ≠ other.time then a.time < other.time else a.sequence - other.sequence < 0

/-- `priority_queue::emplace`. The queue is the list of its elements in the order in which
they become its top. -/
def emplace (queue : List (PendingTask Task)) (pending : PendingTask Task) :
    List (PendingTask Task) :=
  queue.orderedInsert (fun a b => a.less b = false) pending

/-- The loop of `GetTask` over the top of the queue: the tasks that it moves, and those that
stay. -/
def popDue (now : Int) : List (PendingTask Task) → List (PendingTask Task) × List (PendingTask Task)
  | [] => ([], [])
  | top :: rest =>
    if now ≥ top.time then (top :: (popDue now rest).1, (popDue now rest).2) else ([], top :: rest)

/-- The order in which pending tasks ought to be moved: by the time at which they are due, and
then as they were posted. -/
def Before (a b : PendingTask Task) : Prop :=
  a.time < b.time ∨ (a.time = b.time ∧ a.sequence < b.sequence)

instance (a b : PendingTask Task) : Decidable (a.Before b) := inferInstanceAs (Decidable (_ ∨ _))

theorem less_eq_false_iff (a b : PendingTask Task) : a.less b = false ↔ ¬ a.Before b := by
  unfold less Before
  split_ifs with htime
  · rw [decide_eq_false_iff_not]
    omega
  · rw [decide_eq_false_iff_not]
    omega

theorem Before.trans {a b c : PendingTask Task} (hab : a.Before b) (hbc : b.Before c) :
    a.Before c := by
  unfold Before at hab hbc ⊢
  omega

/-- What a priority queue of pending tasks is: each task comes after the ones behind it. -/
def Descending (queue : List (PendingTask Task)) : Prop := queue.Pairwise fun a b => b.Before a

theorem descending_emplace {queue : List (PendingTask Task)} {pending : PendingTask Task}
    (h : Descending queue) (hnew : ∀ p ∈ queue, p.sequence < pending.sequence) :
    Descending (emplace queue pending) := by
  unfold emplace
  induction queue with
  | nil => exact List.pairwise_singleton _ _
  | cons top rest ih =>
    obtain ⟨htop, hrest⟩ := List.pairwise_cons.mp h
    obtain ⟨hseq, hseqs⟩ := List.forall_mem_cons.mp hnew
    rw [List.orderedInsert_cons]
    split_ifs with hless
    · rw [less_eq_false_iff] at hless
      have hbefore : top.Before pending := by
        unfold Before at hless ⊢
        omega
      refine List.pairwise_cons.mpr ⟨List.forall_mem_cons.mpr ⟨hbefore, ?_⟩, h⟩
      intro p hp
      exact (htop p hp).trans hbefore
    · refine List.pairwise_cons.mpr ⟨?_, ih hrest hseqs⟩
      intro p hp
      rw [List.mem_orderedInsert] at hp
      rcases hp with rfl | hp
      · rw [less_eq_false_iff] at hless
        exact not_not.mp hless
      · exact htop p hp

/-- The loop ends at the top of the queue or at its end: if the last task is due then all are. -/
theorem popDue_cons (now : Int) {top : PendingTask Task} {rest : List (PendingTask Task)}
    (h : Descending (top :: rest)) :
    popDue now (top :: rest) =
      if now ≥ top.time then (top :: rest, []) else ([], top :: rest) := by
  induction rest generalizing top with
  | nil => rfl
  | cons next rest ih =>
    obtain ⟨htop, hrest⟩ := List.pairwise_cons.mp h
    have hnext : next.time ≤ top.time := by
      have hbefore := htop next List.mem_cons_self
      unfold Before at hbefore
      omega
    rw [popDue]
    split_ifs with hdue
    · rw [ih hrest, if_pos (by omega)]
    · rfl

theorem popDue_append (now : Int) (queue : List (PendingTask Task)) :
    (popDue now queue).1 ++ (popDue now queue).2 = queue := by
  induction queue with
  | nil => rfl
  | cons top rest ih =>
    rw [popDue]
    split_ifs
    · exact congrArg (top :: ·) ih
    · rfl

end PendingTask

namespace ThreadExecutor

/-- Where the worker is. -/
inductive Worker (Task : Type) where
  /-- about to test `stopped_` -/
  | outer
  /-- about to lock the mutex -/
  | locking
  /-- holds the mutex, about to test `stopped_` again -/
  | testing
  /-- holds the mutex, and has seen that `stopped_` is not set -/
  | examining
  /-- has released the mutex and waits, perhaps until a time -/
  | waiting (deadline : Option Int)
  /-- has been woken, about to lock the mutex again -/
  | woken
  | running (task : Task)
  /-- about to call `GetImmediateTask` -/
  | finishing
  /-- runs a task that was left -/
  | runningLast (task : Task)
  | exited
deriving DecidableEq, Repr

/-- `notify_one` and `notify_all`: there is only the worker to wait. -/
def Worker.notified {Task : Type} : Worker Task → Worker Task
  | .waiting _ => .woken
  | worker => worker

/-- Where the thread is that calls `Shutdown`. -/
inductive Stopper where
  | idle
  /-- has seen that `stopped_` is not set -/
  | storing
  | notifying
  | joining
  | returned
deriving DecidableEq, Repr

/-- `ThreadExecutor::State`, with the threads. -/
structure State (Task : Type) where
  taskQueue : List Task := []
  pendingTaskQueue : List (PendingTask Task) := []
  sequence : Int := 0
  stopped : Bool := false
  worker : Worker Task := .outer
  stopper : Stopper := .idle
deriving DecidableEq, Repr

inductive Event (Task : Type) where
  /-- a call of `PostDelayedTask` at the time `now` -/
  | post (delay : Int) (task : Task) (now : Int)
  /-- a step of the worker, which may read the clock -/
  | work (now : Int)
  /-- `wait_for` has waited long enough -/
  | timeout (now : Int)
  /-- a step of the thread that calls `Shutdown` -/
  | stop
deriving DecidableEq, Repr

namespace State

variable {Task : Type} (s : State Task)

def unlocked : Bool :=
  match s.worker with
  | .testing | .examining => false
  | _ => true

def joinable : Bool :=
  match s.worker with
  | .exited => true
  | _ => false

def notify : State Task := { s with worker := s.worker.notified }

def postDelayedTask (delay : Int) (task : Task) (now : Int) : State Task :=
  notify <|
    if delay = 0 then
      { s with taskQueue := s.taskQueue ++ [task] }
    else
      { s with
        pendingTaskQueue :=
          PendingTask.emplace s.pendingTaskQueue { task, time := now + delay, sequence := s.sequence }
        sequence := s.sequence + 1 }

/-- A turn of the loop of `GetTask` after the test of `stopped_`. It ends with a task, or the
mutex is released and the worker waits. The clock is read once. -/
def examine (now : Int) : State Task :=
  let (due, pending) := PendingTask.popDue now s.pendingTaskQueue
  match s.taskQueue ++ due.map PendingTask.task with
  | task :: rest =>
    { s with taskQueue := rest, pendingTaskQueue := pending, worker := .running task }
  | [] =>
    match pending with
    | [] => { s with taskQueue := [], pendingTaskQueue := [], worker := .waiting none }
    | top :: rest =>
      let delay := top.time - now
      { s with
        taskQueue := []
        pendingTaskQueue := top :: rest
        worker := .waiting (some (now + delay)) }

def getImmediateTask : State Task :=
  match s.taskQueue with
  | [] => { s with worker := .exited }
  | task :: rest => { s with taskQueue := rest, worker := .runningLast task }

/-- A step of the worker, if it does not have to wait: the thread of `Start`. -/
def work (now : Int) : Option (State Task) :=
  match s.worker with
  | .outer => some { s with worker := if s.stopped then .finishing else .locking }
  | .locking => some { s with worker := .testing }
  | .testing => some { s with worker := if s.stopped then .outer else .examining }
  | .examining => some (s.examine now)
  | .waiting _ => none
  | .woken => some { s with worker := .testing }
  | .running _ => some { s with worker := .outer }
  | .finishing => some s.getImmediateTask
  | .runningLast _ => some { s with worker := .finishing }
  | .exited => none

/-- A step of `Stop`, called from another thread. -/
def stop : Option (State Task) :=
  match s.stopper with
  | .idle => some { s with stopper := if s.stopped then .returned else .storing }
  | .storing => some { s with stopped := true, stopper := .notifying }
  | .notifying => some { s with stopper := .joining }.notify
  | .joining => if s.joinable then some { s with stopper := .returned } else none
  | .returned => none

def move : Event Task → Option (State Task)
  | .post delay task now => if s.unlocked then some (s.postDelayedTask delay task now) else none
  | .work now => s.work now
  | .timeout now =>
    match s.worker with
    | .waiting (some time) => if time ≤ now then some { s with worker := .woken } else none
    | _ => none
  | .stop => s.stop

end State

/-- The steps of the worker that change only where it is. -/
inductive Worker.Pass {Task : Type} (stopped : Bool) : Worker Task → Worker Task → Prop
  | enter (hstopped : stopped = false) : Pass stopped .outer .locking
  | leave (hstopped : stopped = true) : Pass stopped .outer .finishing
  | lock : Pass stopped .locking .testing
  | relock : Pass stopped .woken .testing
  | goOn (hstopped : stopped = false) : Pass stopped .testing .examining
  | giveUp (hstopped : stopped = true) : Pass stopped .testing .outer
  | run (task : Task) : Pass stopped (.running task) .outer
  | runLast (task : Task) : Pass stopped (.runningLast task) .finishing

namespace State

variable {Task : Type}

/-- The steps that there are. -/
inductive Step (s : State Task) : Event Task → State Task → Prop
  | post (delay : Int) (task : Task) (now : Int) (hmutex : s.unlocked = true) :
      Step s (.post delay task now) (s.postDelayedTask delay task now)
  | pass (now : Int) (place worker : Worker Task) (hworker : s.worker = place)
      (hpass : place.Pass s.stopped worker) : Step s (.work now) { s with worker }
  | examine (now : Int) (hworker : s.worker = .examining) : Step s (.work now) (s.examine now)
  | finish (now : Int) (hworker : s.worker = .finishing) : Step s (.work now) s.getImmediateTask
  | timeout (now time : Int) (hworker : s.worker = .waiting (some time)) :
      Step s (.timeout now) { s with worker := .woken }
  | call (hstopper : s.stopper = .idle) :
      Step s .stop { s with stopper := if s.stopped then .returned else .storing }
  | store (hstopper : s.stopper = .storing) :
      Step s .stop { s with stopped := true, stopper := .notifying }
  | notify (hstopper : s.stopper = .notifying) : Step s .stop { s with stopper := .joining }.notify
  | join (hstopper : s.stopper = .joining) (hworker : s.worker = .exited) :
      Step s .stop { s with stopper := .returned }

theorem Step.of_move {s s' : State Task} {e : Event Task} (h : s.move e = some s') :
    s.Step e s' := by
  cases e with
  | post delay task now =>
    simp only [move, Option.ite_none_right_eq_some, Option.some_inj] at h
    obtain ⟨hmutex, rfl⟩ := h
    exact .post delay task now hmutex
  | work now =>
    rcases s with ⟨taskQueue, pendingTaskQueue, sequence, stopped, worker, stopper⟩
    cases worker <;> cases h
    case outer.refl =>
      cases stopped with
      | true => exact .pass now _ _ rfl (.leave rfl)
      | false => exact .pass now _ _ rfl (.enter rfl)
    case testing.refl =>
      cases stopped with
      | true => exact .pass now _ _ rfl (.giveUp rfl)
      | false => exact .pass now _ _ rfl (.goOn rfl)
    case locking.refl => exact .pass now _ _ rfl .lock
    case woken.refl => exact .pass now _ _ rfl .relock
    case examining.refl => exact .examine now rfl
    case running.refl task => exact .pass now _ _ rfl (.run task)
    case finishing.refl => exact .finish now rfl
    case runningLast.refl task => exact .pass now _ _ rfl (.runLast task)
  | timeout now =>
    simp only [move] at h
    split at h
    · simp only [Option.ite_none_right_eq_some, Option.some_inj] at h
      obtain ⟨-, rfl⟩ := h
      exact .timeout now _ ‹_›
    · cases h
  | stop =>
    rcases s with ⟨taskQueue, pendingTaskQueue, sequence, stopped, worker, stopper⟩
    cases stopper
    case joining =>
      cases worker <;> cases h
      exact .join rfl rfl
    all_goals cases h
    case idle.refl => exact .call rfl
    case storing.refl => exact .store rfl
    case notifying.refl => exact .notify rfl

end State

variable {Task : Type}

def system (Task : Type) : Lts.System (State Task) (Event Task) where
  init := {}
  step s e := (s.move e).getD s

/-- What every step keeps, an event keeps: if it cannot happen, nothing changes. -/
theorem step_of_move {p : State Task → Prop} {s : State Task} {e : Event Task} (hs : p s)
    (h : ∀ s', s.Step e s' → p s') : p ((system Task).step s e) := by
  show p ((s.move e).getD s)
  cases hmove : s.move e with
  | none => exact hs
  | some s' => exact h s' (.of_move hmove)

/-! ## Delayed tasks -/

namespace State

/-- What an examination of the queues should do with the delayed tasks: none that is due stays
behind, they are moved in order, and the worker does not wait longer than until the next one
is due. -/
structure InDueOrder (s : State Task) (now : Int) : Prop where
  due : ∀ p ∈ (s.examine now).pendingTaskQueue, now < p.time
  moved : (PendingTask.popDue now s.pendingTaskQueue).1.Pairwise PendingTask.Before
  waits : ∀ time, (s.examine now).worker = .waiting (some time) →
    ∀ p ∈ (s.examine now).pendingTaskQueue, time ≤ p.time

/-- There is one delayed task at most, or none is due and, if the worker waits, they are all
due at the same time. -/
def Orderly (s : State Task) (now : Int) : Prop :=
  s.pendingTaskQueue.length ≤ 1 ∨
    (∀ p ∈ s.pendingTaskQueue, now < p.time) ∧
      (s.taskQueue ≠ [] ∨ ∀ p ∈ s.pendingTaskQueue, ∀ p' ∈ s.pendingTaskQueue, p.time = p'.time)

/-- What an examination comes to: a task, or a wait that changes nothing of the queues. -/
theorem examine_spec (s : State Task) (now : Int) :
    (∃ task rest,
      s.taskQueue ++ (PendingTask.popDue now s.pendingTaskQueue).1.map (·.task) = task :: rest ∧
      s.examine now = { s with
        taskQueue := rest
        pendingTaskQueue := (PendingTask.popDue now s.pendingTaskQueue).2
        worker := .running task }) ∨
    (s.taskQueue = [] ∧ (PendingTask.popDue now s.pendingTaskQueue).1 = [] ∧
      s.examine now =
        { s with worker := .waiting (s.pendingTaskQueue.head?.map (·.time)) }) := by
  have hall := PendingTask.popDue_append now s.pendingTaskQueue
  unfold examine
  cases hready : s.taskQueue ++ (PendingTask.popDue now s.pendingTaskQueue).1.map (·.task) with
  | cons task rest => exact .inl ⟨task, rest, rfl, by simp only [hready]⟩
  | nil =>
    obtain ⟨hqueue, hdue⟩ := List.append_eq_nil_iff.mp hready
    rw [List.map_eq_nil_iff] at hdue
    rw [hdue, List.nil_append] at hall
    refine .inr ⟨hqueue, hdue, ?_⟩
    simp only [hready, hall]
    rcases s with ⟨taskQueue, pendingTaskQueue, sequence, stopped, worker, stopper⟩
    subst hqueue
    cases pendingTaskQueue with
    | nil => rfl
    | cons top rest =>
      have htime : now + (top.time - now) = top.time := by omega
      simp only [List.head?_cons, Option.map_some, htime]

theorem examine_pendingTaskQueue (s : State Task) (now : Int) :
    (s.examine now).pendingTaskQueue = (PendingTask.popDue now s.pendingTaskQueue).2 := by
  have hall := PendingTask.popDue_append now s.pendingTaskQueue
  rcases s.examine_spec now with ⟨task, rest, -, heq⟩ | ⟨-, hdue, heq⟩
  · rw [heq]
  · rw [hdue, List.nil_append] at hall
    rw [heq, hall]

variable {s : State Task} {now : Int}

/-- The worker waits for the task on top of the queue. -/
theorem examine_worker_iff {time : Int} :
    (s.examine now).worker = .waiting (some time) ↔
      s.taskQueue = [] ∧ (PendingTask.popDue now s.pendingTaskQueue).1 = [] ∧
        ∃ top, s.pendingTaskQueue.head? = some top ∧ top.time = time := by
  rcases s.examine_spec now with ⟨task, rest, hready, heq⟩ | ⟨hqueue, hdue, heq⟩
  · rw [heq]
    refine iff_of_false (by simp) ?_
    rintro ⟨hqueue, hdue, -⟩
    simp [hqueue, hdue] at hready
  · simp [heq, hqueue, hdue]

theorem inDueOrder_of_due {top : PendingTask Task} {rest : List (PendingTask Task)}
    (hqueue : s.pendingTaskQueue = top :: rest) (h : PendingTask.Descending (top :: rest))
    (hdue : top.time ≤ now) : s.InDueOrder now ↔ rest = [] := by
  have hpop : PendingTask.popDue now s.pendingTaskQueue = (top :: rest, []) := by
    rw [hqueue, PendingTask.popDue_cons now h, if_pos hdue]
  constructor
  · intro horder
    have hmoved := horder.moved
    rw [hpop] at hmoved
    cases rest with
    | nil => rfl
    | cons next rest =>
      -- two tasks cannot be in both orders
      have hup := (List.pairwise_cons.mp hmoved).1 next List.mem_cons_self
      have hdown := (List.pairwise_cons.mp h).1 next List.mem_cons_self
      unfold PendingTask.Before at hup hdown
      omega
  · rintro rfl
    constructor <;> simp [examine_pendingTaskQueue, hpop]

theorem inDueOrder_of_not_due {top : PendingTask Task} {rest : List (PendingTask Task)}
    (hqueue : s.pendingTaskQueue = top :: rest) (h : PendingTask.Descending (top :: rest))
    (hdue : ¬ top.time ≤ now) :
    s.InDueOrder now ↔ (∀ p ∈ s.pendingTaskQueue, now < p.time) ∧
      (s.taskQueue = [] → ∀ p ∈ s.pendingTaskQueue, p.time = top.time) := by
  have hpop : PendingTask.popDue now s.pendingTaskQueue = ([], s.pendingTaskQueue) := by
    rw [hqueue, PendingTask.popDue_cons now h, if_neg hdue]
  have hle : ∀ p ∈ s.pendingTaskQueue, p.time ≤ top.time := by
    rw [hqueue]
    refine List.forall_mem_cons.mpr ⟨Int.le_refl _, ?_⟩
    intro p hp
    have hbefore := (List.pairwise_cons.mp h).1 p hp
    unfold PendingTask.Before at hbefore
    omega
  have hwaits : ∀ time, (s.examine now).worker = .waiting (some time) ↔
      s.taskQueue = [] ∧ top.time = time := by
    simp only [examine_worker_iff, hpop, true_and]
    simp [hqueue]
  constructor
  · rintro ⟨hnone, -, hwait⟩
    rw [examine_pendingTaskQueue, hpop] at hnone hwait
    refine ⟨hnone, ?_⟩
    intro htasks p hp
    exact Int.le_antisymm (hle p hp) (hwait _ ((hwaits _).mpr ⟨htasks, rfl⟩) p hp)
  · rintro ⟨hnone, hsame⟩
    constructor
    · simpa [examine_pendingTaskQueue, hpop] using hnone
    · simp [hpop]
    · intro time htime p hp
      obtain ⟨htasks, rfl⟩ := (hwaits time).mp htime
      rw [examine_pendingTaskQueue, hpop] at hp
      exact Int.le_of_eq (hsame htasks p hp).symm

theorem inDueOrder_iff (h : PendingTask.Descending s.pendingTaskQueue) (now : Int) :
    s.InDueOrder now ↔ s.Orderly now := by
  unfold Orderly
  cases hqueue : s.pendingTaskQueue with
  | nil =>
    refine iff_of_true ?_ (.inl (Nat.zero_le 1))
    constructor <;> simp [examine_pendingTaskQueue, hqueue, PendingTask.popDue]
  | cons top rest =>
    rw [hqueue] at h
    have hlength : (top :: rest).length ≤ 1 ↔ rest = [] := by simp
    rw [hlength]
    by_cases hdue : top.time ≤ now
    · rw [inDueOrder_of_due hqueue h hdue]
      constructor
      · exact .inl
      · rintro (hnil | ⟨hnone, -⟩)
        · exact hnil
        · have htop := hnone top List.mem_cons_self
          omega
    · rw [inDueOrder_of_not_due hqueue h hdue, hqueue]
      constructor
      · rintro ⟨hnone, hsame⟩
        refine .inr ⟨hnone, ?_⟩
        by_cases htasks : s.taskQueue = []
        · exact .inr fun p hp p' hp' => (hsame htasks p hp).trans (hsame htasks p' hp').symm
        · exact .inl htasks
      · rintro (rfl | ⟨hnone, htasks | hsame⟩)
        · simp
          omega
        · exact ⟨hnone, fun hno => absurd hno htasks⟩
        · exact ⟨hnone, fun _ p hp => hsame p hp top List.mem_cons_self⟩

/-! ## The priority queue over time -/

/-- The queue is in order, and the next task to be posted comes after all of it. -/
structure Sorted (s : State Task) : Prop where
  descending : PendingTask.Descending s.pendingTaskQueue
  sequence : ∀ p ∈ s.pendingTaskQueue, p.sequence < s.sequence

/-- Only posting and examining touch the queue. -/
theorem Sorted.of_sublist {s' : State Task} (h : Sorted s)
    (hqueue : s'.pendingTaskQueue.Sublist s.pendingTaskQueue) (hseq : s'.sequence = s.sequence) :
    Sorted s' where
  descending := h.descending.sublist hqueue
  sequence p hp := hseq ▸ h.sequence p (hqueue.subset hp)

theorem Sorted.postDelayedTask (h : Sorted s) (delay : Int) (task : Task) (now : Int) :
    Sorted (s.postDelayedTask delay task now) := by
  unfold State.postDelayedTask
  split_ifs
  · exact h.of_sublist (List.Sublist.refl _) rfl
  · refine ⟨PendingTask.descending_emplace h.descending h.sequence, ?_⟩
    intro p hp
    rcases (List.mem_orderedInsert ..).mp hp with rfl | hp
    · exact Int.lt_succ _
    · exact Int.lt_trans (h.sequence p hp) (Int.lt_succ _)

theorem Sorted.examine (h : Sorted s) (now : Int) : Sorted (s.examine now) := by
  refine h.of_sublist ?_ ?_
  · rw [examine_pendingTaskQueue]
    conv => rhs; rw [← PendingTask.popDue_append now s.pendingTaskQueue]
    exact List.sublist_append_right _ _
  · rcases s.examine_spec now with ⟨task, rest, -, heq⟩ | ⟨-, -, heq⟩ <;> rw [heq]

theorem Sorted.step {s' : State Task} {e : Event Task} (h : Sorted s) (hstep : s.Step e s') :
    Sorted s' := by
  cases hstep with
  | post delay task now => exact h.postDelayedTask delay task now
  | examine now => exact h.examine now
  | finish now hworker =>
    unfold getImmediateTask
    split <;> exact h.of_sublist (List.Sublist.refl _) rfl
  | _ => exact h.of_sublist (List.Sublist.refl _) rfl

end State

/-- **The order of delayed tasks.** Whenever the worker examines the queues, every delayed task
that is due is moved, they are moved in the order in which they are due, and the worker waits
no longer than until the next one is due, exactly if each time there is only one delayed task,
or none is due and, if the worker has to wait, they are all due at the same time. -/
theorem delayedTasks_order_iff (events : List (Event Task)) :
    (system Task).Meets (fun s e => ∀ now, e = .work now → s.worker = .examining → s.InDueOrder now)
      events ↔
    (system Task).Meets (fun s e => ∀ now, e = .work now → s.worker = .examining → s.Orderly now)
      events := by
  apply Lts.System.meets_congr _ State.Sorted
  · exact ⟨List.Pairwise.nil, by simp [system]⟩
  · intro s e h
    exact step_of_move h fun s' hstep => h.step hstep
  · intro s e h
    apply forall_congr'
    intro now
    rw [State.inDueOrder_iff h.descending]

/-- One task is due after 10 nanoseconds and another after 20: after 10 the worker looks at the
second and waits for it. -/
theorem delayedTasks_withheld :
    let S := system Nat
    let events : List (Event Nat) :=
      [.post 10 1 0, .post 20 2 0, .work 0, .work 0, .work 0]
    let s := S.run events
    s.worker = .examining ∧ ¬ s.InDueOrder 10 ∧
      (∃ p ∈ (s.examine 10).pendingTaskQueue, p.task = 1 ∧ p.time ≤ 10) ∧
      (s.examine 10).worker = .waiting (some 20) := by
  refine ⟨by decide, ?_, by decide, by decide⟩
  intro h
  exact absurd (h.due ⟨1, 10, 0⟩ (by decide)) (by decide)

end ThreadExecutor

end ScadaCore.Base
