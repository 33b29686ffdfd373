import ScadaCore.Base.ThreadExecutor

/-!
# Base.ThreadShutdown — stopping a worker thread

`Shutdown` sets `stopped_`, notifies the worker and joins it, all without the mutex. The worker
tests `stopped_` with the mutex held and then waits; a notification that comes in between finds
nobody who waits, and is lost. If there is a delayed task the worker wakes up all the same, and
sees that it has been stopped. If there is none it waits forever, and `Shutdown` with it.
-/

namespace ScadaCore.Base.ThreadExecutor

open Lts.System

variable {Task : Type}

/-! ## What is run -/

variable (s : State Task)

def posted : Event Task → List Task
  | .post delay task _ => if s.unlocked ∧ delay = 0 then [task] else []
  | _ => []

def moved : Event Task → List Task
  | .work now =>
    match s.worker with
    | .examining => (PendingTask.popDue now s.pendingTaskQueue).1.map PendingTask.task
    | _ => []
  | _ => []

def Worker.task : Worker Task → List Task
  | .running task => [task]
  | .runningLast task => [task]
  | _ => []

def ran : Event Task → List Task
  | .work _ => s.worker.task
  | _ => []

def held : List Task := s.worker.task ++ s.taskQueue

variable (worker : Worker Task)

theorem task_notified : worker.notified.task = worker.task := by
  cases worker <;> rfl

variable {s s' : State Task} {e : Event Task} {events : List (Event Task)}

theorem held_of_worker (h : s.worker.task = []) : held s = s.taskQueue := by
  rw [held, h, List.nil_append]

theorem held_postDelayedTask (s : State Task) (delay : Int) (task : Task) (now : Int) :
    held (s.postDelayedTask delay task now) = held s ++ if delay = 0 then [task] else [] := by
  unfold State.postDelayedTask held State.notify
  rw [task_notified]
  split_ifs <;> simp

theorem held_examine (hworker : s.worker = .examining) (now : Int) :
    held (s.examine now) =
      held s ++ (PendingTask.popDue now s.pendingTaskQueue).1.map PendingTask.task := by
  have hheld : held s = s.taskQueue := held_of_worker (by rw [hworker]; rfl)
  rw [hheld]
  rcases s.examine_spec now with ⟨task, rest, hready, heq⟩ | ⟨-, hdue, heq⟩
  · rw [heq, hready]
    rfl
  · rw [heq, hdue]
    exact (List.append_nil s.taskQueue).symm

/-- The queue is first in, first out: a step puts tasks behind and takes them from the front. -/
theorem held_step (hstep : s.Step e s') :
    held s ++ (posted s e ++ moved s e) = ran s e ++ held s' := by
  cases hstep with
  | post delay task now hmutex =>
    rw [held_postDelayedTask]
    simp [posted, moved, ran, hmutex]
  | pass now place worker hworker hpass =>
    cases hpass <;> simp [held, posted, moved, ran, Worker.task, hworker]
  | examine now hworker =>
    rw [held_examine hworker]
    simp [posted, moved, ran, Worker.task, hworker]
  | finish now hworker =>
    unfold State.getImmediateTask
    split <;> simp_all [held, posted, moved, ran, Worker.task]
  | timeout now time hworker => simp [held, posted, moved, ran, Worker.task, hworker]
  | notify => simp [held, posted, moved, ran, State.notify, task_notified]
  | call | store | join => simp [held, posted, moved, ran]

theorem silent_of_move (h : s.move e = none) : posted s e = [] ∧ moved s e = [] ∧ ran s e = [] := by
  cases e with
  | post delay task now =>
    have hmutex : s.unlocked = false := by
      simpa [State.move] using h
    simp [posted, moved, ran, hmutex]
  | work now =>
    rcases s with ⟨taskQueue, pendingTaskQueue, sequence, stopped, worker, stopper⟩
    cases worker with
    | waiting deadline | exited => exact ⟨rfl, rfl, rfl⟩
    | _ => cases h
  | timeout now | stop => exact ⟨rfl, rfl, rfl⟩

/-- What has come to the queue is what has been run, what is being run and what is left. -/
theorem collect_queued (events : List (Event Task)) :
    (system Task).collect (fun s e => posted s e ++ moved s e) events =
      (system Task).collect ran events ++ held ((system Task).run events) := by
  induction events using List.reverseRecOn with
  | nil => rfl
  | append_singleton events e ih =>
    rw [collect_concat, collect_concat, run_concat, ih,
      List.append_assoc, List.append_assoc]
    congr 1
    show _ = _ ++ held (((system Task).run events).move e |>.getD _)
    cases hmove : ((system Task).run events).move e with
    | none =>
      obtain ⟨hposted, hmoved, hran⟩ := silent_of_move hmove
      rw [hposted, hmoved, hran]
      exact List.append_nil _
    | some s' => exact held_step (.of_move hmove)

def accepted (s : State Task) : Event Task → List Task
  | .post _ task _ => if s.unlocked then [task] else []
  | _ => []

theorem accepted_step (hstep : s.Step e s') :
    (accepted s e ++ s.pendingTaskQueue.map (·.task)).Perm
      (posted s e ++ moved s e ++ s'.pendingTaskQueue.map (·.task)) := by
  cases hstep with
  | post delay task now hmutex =>
    unfold State.postDelayedTask State.notify
    split_ifs with hdelay
    · simp [accepted, posted, moved, hmutex, hdelay]
    · simpa [accepted, posted, moved, hmutex, hdelay, PendingTask.emplace] using
        ((List.perm_orderedInsert _ ⟨task, _, _⟩ s.pendingTaskQueue).map (·.task)).symm
  | pass now place worker hworker hpass => cases hpass <;> simp [accepted, posted, moved, hworker]
  | examine now hworker =>
    rw [State.examine_pendingTaskQueue]
    simp [accepted, posted, moved, hworker, ← List.map_append, PendingTask.popDue_append]
  | finish now hworker =>
    unfold State.getImmediateTask
    split <;> simp [accepted, posted, moved, hworker]
  | _ => simp [accepted, posted, moved, State.notify]

/-- **No task is lost or run twice.** Whatever the threads do, the tasks that have been posted
are those that have been run, the one that is run, those in the queue and the delayed ones. -/
theorem tasks_conserved (events : List (Event Task)) :
    let s := (system Task).run events
    ((system Task).collect accepted events).Perm ((system Task).collect ran events ++
      (s.worker.task ++ s.taskQueue) ++ s.pendingTaskQueue.map (·.task)) := by
  show List.Perm _ (_ ++ held _ ++ _)
  rw [← collect_queued]
  induction events using List.reverseRecOn with
  | nil => exact .nil
  | append_singleton events e ih =>
    rw [collect_concat, collect_concat, run_concat, List.append_assoc]
    refine (ih.append_right _).trans ?_
    rw [List.append_assoc]
    refine .append_left _ (List.perm_append_comm.trans ?_)
    show List.Perm _ (_ ++ (((system Task).run events).move e |>.getD _).pendingTaskQueue.map _)
    cases hmove : ((system Task).run events).move e with
    | none =>
      obtain ⟨hposted, hmoved, -⟩ := silent_of_move hmove
      have hnone : accepted ((system Task).run events) e = [] := by
        cases e <;> simp_all [State.move, accepted]
      rw [hposted, hmoved, hnone]
      rfl
    | some s' => exact accepted_step (.of_move hmove)

/-! ## The end of every run -/

/-- Nothing is posted once `stopped_` is set. -/
def InTime (s : State Task) (e : Event Task) : Prop :=
  ∀ delay task now, e = .post delay task now → s.stopped = false

instance (s : State Task) : ∀ e, Decidable (InTime s e)
  | .post delay task now =>
    decidable_of_iff (s.stopped = false) ⟨fun h _ _ _ _ => h, fun h => h delay task now rfl⟩
  | .work _ => isTrue (by simp [InTime])
  | .timeout _ => isTrue (by simp [InTime])
  | .stop => isTrue (by simp [InTime])

def Moves (s : State Task) (e : Event Task) : Prop :=
  (∀ delay task now, e ≠ .post delay task now) ∧ (s.move e).isSome = true

def Quiescent (s : State Task) : Prop := ∀ e, ¬ Moves s e

/-- How far the worker is from its end, apart from the tasks. -/
def Worker.rank : Worker Task → Nat
  | .exited => 0
  | .finishing => 1
  | .runningLast _ => 2
  | .outer => 2
  | .testing => 3
  | .running _ => 3
  | .locking => 4
  | .woken => 4
  | .waiting _ => 5
  | .examining => 6

def Stopper.rank : Stopper → Nat
  | .returned => 0
  | .joining => 1
  | .notifying => 2
  | .storing => 3
  | .idle => 4

/-- A bound on the steps that are left once `stopped_` is set. -/
def stepsLeft (s : State Task) : Nat :=
  2 * (s.taskQueue.length + s.pendingTaskQueue.length) + s.worker.rank + s.stopper.rank

theorem rank_notified : worker.notified.rank ≤ worker.rank := by
  cases worker with
  | waiting deadline => exact Nat.le_succ 4
  | _ => exact Nat.le_refl _

theorem stepsLeft_step (hstopped : s.stopped = true)
    (hpost : ∀ delay task now, e ≠ .post delay task now) (hstep : s.Step e s') :
    s'.stopped = true ∧ stepsLeft s' < stepsLeft s := by
  unfold stepsLeft
  cases hstep with
  | post delay task now => exact absurd rfl (hpost delay task now)
  | pass now place worker hworker hpass =>
    refine ⟨hstopped, ?_⟩
    cases hpass <;> simp_all [Worker.rank]
  | examine now hworker =>
    have hall := congrArg List.length (PendingTask.popDue_append now s.pendingTaskQueue)
    rw [List.length_append] at hall
    rcases s.examine_spec now with ⟨task, rest, hready, heq⟩ | ⟨-, -, heq⟩
    · have hlength := congrArg List.length hready
      rw [List.length_append, List.length_map, List.length_cons] at hlength
      rw [heq]
      refine ⟨hstopped, ?_⟩
      simp only [hworker, Worker.rank]
      omega
    · rw [heq]
      exact ⟨hstopped, by simp [hworker, Worker.rank]⟩
  | finish now hworker =>
    unfold State.getImmediateTask
    split
    · exact ⟨hstopped, by simp [hworker, Worker.rank]⟩
    · rename_i task rest hqueue
      refine ⟨hstopped, ?_⟩
      simp only [hworker, hqueue, Worker.rank, List.length_cons]
      omega
  | timeout now time hworker => exact ⟨hstopped, by simp [hworker, Worker.rank]⟩
  | call hstopper => exact ⟨hstopped, by simp [hstopper, hstopped, Stopper.rank]⟩
  | store hstopper => exact ⟨rfl, by simp [hstopper, Stopper.rank]⟩
  | notify hstopper =>
    have hrank := rank_notified s.worker
    refine ⟨hstopped, ?_⟩
    simp only [State.notify, hstopper, Stopper.rank]
    omega
  | join hstopper => exact ⟨hstopped, by simp [hstopper, Stopper.rank]⟩

theorem Moves.step (h : Moves s e) : s.Step e ((system Task).step s e) := by
  obtain ⟨s', hs'⟩ := Option.isSome_iff_exists.mp h.2
  show s.Step e ((s.move e).getD s)
  rw [hs']
  exact .of_move hs'

/-- Once `stopped_` is set, all threads come to an end. -/
theorem length_le_stepsLeft (hstopped : s.stopped = true)
    (hevents : (system Task).MeetsFrom Moves s events) : events.length ≤ stepsLeft s := by
  refine ((system Task).length_le_measure (fun s => s.stopped = true) Moves stepsLeft ?_ hstopped
    hevents).2
  intro s e hs hmoves
  exact stepsLeft_step hs hmoves.1 hmoves.step

/-! ## Where the threads can be -/

def Worker.ending : Worker Task → Bool
  | .finishing => true
  | .runningLast _ => true
  | .exited => true
  | _ => false

/-- Where the threads can be, if nothing is posted too late. -/
structure Inv (s : State Task) : Prop where
  stopping : s.stopped = true ↔
    s.stopper = .notifying ∨ s.stopper = .joining ∨ s.stopper = .returned
  ending : s.worker.ending = true → s.stopped = true
  exited : s.worker = .exited → s.taskQueue = []
  returned : s.stopper = .returned → s.worker = .exited

theorem ending_notified : worker.notified.ending = worker.ending := by
  cases worker <;> rfl

theorem notified_eq_exited_iff : worker.notified = .exited ↔ worker = .exited := by
  cases worker <;> simp [Worker.notified]

theorem Inv.not_stopped (h : Inv s) (hstopper : s.stopper = .idle) : s.stopped = false := by
  by_contra hstopped
  rcases h.stopping.mp (by simpa using hstopped) with hno | hno | hno
  · cases hstopper.symm.trans hno
  · cases hstopper.symm.trans hno
  · cases hstopper.symm.trans hno

theorem Inv.of_worker (h : Inv s) (hstopped : s'.stopped = s.stopped)
    (hstopper : s'.stopper = s.stopper) (hworker : s.worker ≠ .exited)
    (hending : s'.worker.ending = true → s.stopped = true)
    (hexited : s'.worker = .exited → s'.taskQueue = []) : Inv s' where
  stopping := by
    rw [hstopped, hstopper]
    exact h.stopping
  ending := hstopped ▸ hending
  exited := hexited
  returned hreturned := absurd (h.returned (hstopper ▸ hreturned)) hworker

theorem Inv.postDelayedTask (h : Inv s) (htime : s.stopped = false) (delay : Int) (task : Task)
    (now : Int) : Inv (s.postDelayedTask delay task now) := by
  have hending : ¬ s.worker.ending = true := by
    intro hending
    cases htime.symm.trans (h.ending hending)
  have hworker : s.worker ≠ .exited := by
    intro hexited
    exact hending (by rw [hexited]; rfl)
  have hworker' : s.worker.notified ≠ .exited := (notified_eq_exited_iff s.worker).not.mpr hworker
  unfold State.postDelayedTask
  split_ifs <;>
    exact h.of_worker rfl rfl hworker (fun hno => absurd (ending_notified _ ▸ hno) hending)
      (fun hno => absurd hno hworker')

theorem Inv.step (h : Inv s) (htime : InTime s e) (hstep : s.Step e s') : Inv s' := by
  cases hstep with
  | post delay task now => exact h.postDelayedTask (htime delay task now rfl) delay task now
  | pass now place worker hworker hpass =>
    have hending := h.ending
    rw [hworker] at hending
    refine h.of_worker rfl rfl (hworker ▸ ?_) ?_ ?_ <;> cases hpass <;> simp_all [Worker.ending]
  | examine now hworker =>
    rcases s.examine_spec now with ⟨task, rest, -, heq⟩ | ⟨-, -, heq⟩ <;> rw [heq] <;>
      exact h.of_worker rfl rfl (by simp [hworker]) (by simp [Worker.ending]) (by simp)
  | finish now hworker =>
    have hstopped : s.stopped = true := h.ending (by rw [hworker]; rfl)
    unfold State.getImmediateTask
    split
    · exact h.of_worker rfl rfl (by simp [hworker]) (fun _ => hstopped) (fun _ => ‹_›)
    · exact h.of_worker rfl rfl (by simp [hworker]) (fun _ => hstopped) (by simp)
  | timeout now time hworker =>
    exact h.of_worker rfl rfl (by simp [hworker]) (by simp [Worker.ending]) (by simp)
  | call hstopper =>
    have hstopped : s.stopped = false := h.not_stopped hstopper
    exact ⟨by simp [hstopped], h.ending, h.exited, by simp [hstopped]⟩
  | store hstopper => exact ⟨by simp, fun _ => rfl, h.exited, by simp⟩
  | notify hstopper =>
    have hstopped : s.stopped = true := h.stopping.mpr (.inl hstopper)
    refine ⟨by simp [State.notify, hstopped], fun _ => hstopped, ?_, by simp [State.notify]⟩
    exact fun hexited => h.exited ((notified_eq_exited_iff s.worker).mp hexited)
  | join hstopper hworker =>
    have hstopped : s.stopped = true := h.stopping.mpr (.inr (.inl hstopper))
    exact ⟨by simp [hstopped], h.ending, h.exited, fun _ => hworker⟩

theorem inv_init : Inv (system Task).init :=
  ⟨by simp [system], by simp [system, Worker.ending], by simp [system], by simp [system]⟩

theorem inv_run (htime : (system Task).Meets InTime events) : Inv ((system Task).run events) := by
  refine (system Task).invariant_of_meets Inv InTime inv_init ?_ htime
  intro s e h hintime
  exact step_of_move h fun s' hstep => h.step hintime hstep

theorem quiescent_of_blocked (hstop : s.stop = none) (hwork : ∀ now, s.work now = none)
    (htimeout : ∀ now, s.move (.timeout now) = none) : Quiescent s := by
  rintro e ⟨hpost, hmove⟩
  cases e with
  | post delay task now => exact hpost delay task now rfl
  | work now => simp [State.move, hwork] at hmove
  | timeout now => simp [htimeout] at hmove
  | stop => simp [State.move, hstop] at hmove

/-- If no thread can make a step, `Shutdown` has returned or waits for a worker that waits
forever. -/
theorem Quiescent.cases (h : Quiescent s) :
    s.stopper = .returned ∨ s.stopper = .joining ∧ s.worker = .waiting none := by
  have hblocked : ∀ e, (∀ delay task now, e ≠ .post delay task now) → s.move e = none := by
    intro e hpost
    by_contra hmove
    exact h e ⟨hpost, Option.isSome_iff_ne_none.mpr hmove⟩
  have hstop : s.stop = none := hblocked .stop (by simp)
  have hwork : s.work 0 = none := hblocked (.work 0) (by simp)
  have htimeout : ∀ now, s.move (.timeout now) = none := fun now => hblocked (.timeout now) (by simp)
  rcases s with ⟨taskQueue, pendingTaskQueue, sequence, stopped, worker, stopper⟩
  cases stopper with
  | returned => exact .inl rfl
  | joining =>
    refine .inr ⟨rfl, ?_⟩
    cases worker with
    | waiting deadline =>
      cases deadline with
      | none => rfl
      | some time =>
        have hno := htimeout time
        simp [State.move] at hno
    | exited => simp [State.stop, State.joinable] at hstop
    | _ => cases hwork
  | _ => cases hstop

/-! ## The lost notification -/

/-- The worker has tested `stopped_` and is about to wait, with nothing to wake it up. -/
def Unaware (s : State Task) : Prop :=
  s.worker = .examining ∧ s.taskQueue = [] ∧ s.pendingTaskQueue = []

instance [DecidableEq Task] (s : State Task) : Decidable (Unaware s) :=
  inferInstanceAs (Decidable (_ ∧ _))

/-- The notification of `Shutdown` does not come in between. -/
def Noticed (s : State Task) (e : Event Task) : Prop :=
  e = .stop → s.stopper = .notifying → ¬ Unaware s

instance [DecidableEq Task] (s : State Task) (e : Event Task) : Decidable (Noticed s e) :=
  inferInstanceAs (Decidable (_ → _ → ¬ _))

def Awake (s : State Task) : Prop :=
  s.stopper = .joining ∨ s.stopper = .returned → s.worker ≠ .waiting none ∧ ¬ Unaware s

theorem Awake.of_worker (hwaiting : s.worker ≠ .waiting none) (hexamining : s.worker ≠ .examining) :
    Awake s :=
  fun _ => ⟨hwaiting, fun hunaware => hexamining hunaware.1⟩

theorem notified_spec :
    (∀ deadline, worker.notified ≠ .waiting deadline) ∧
      (worker.notified = .examining → worker = .examining) := by
  cases worker <;> simp [Worker.notified]

theorem Awake.step (h : Awake s) (hinv : Inv s) (htime : InTime s e) (hnoticed : Noticed s e)
    (hstep : s.Step e s') : Awake s' := by
  have hstopped : s.stopper = .joining ∨ s.stopper = .returned → s.stopped = true := by
    intro hstopper
    exact hinv.stopping.mpr (.inr hstopper)
  cases hstep with
  | post delay task now =>
    intro hstopper
    have hsame : (s.postDelayedTask delay task now).stopper = s.stopper := by
      unfold State.postDelayedTask
      split_ifs <;> rfl
    rw [hsame] at hstopper
    cases (htime delay task now rfl).symm.trans (hstopped hstopper)
  | pass now place worker hworker hpass =>
    intro hstopper
    have htrue : s.stopped = true := hstopped hstopper
    refine Awake.of_worker ?_ ?_ hstopper <;> cases hpass <;> simp_all
  | examine now hworker =>
    rcases s.examine_spec now with ⟨task, rest, -, heq⟩ | ⟨hqueue, -, heq⟩
    · rw [heq]
      exact Awake.of_worker (by simp) (by simp)
    · rw [heq]
      intro hstopper
      refine Awake.of_worker ?_ (by simp) hstopper
      intro hwait
      -- it waits only if there is a delayed task, and then not forever
      cases hpending : s.pendingTaskQueue with
      | nil => exact (h hstopper).2 ⟨hworker, hqueue, hpending⟩
      | cons top rest => simp [hpending] at hwait
  | finish now hworker =>
    unfold State.getImmediateTask
    split <;> exact Awake.of_worker (by simp) (by simp)
  | timeout now time hworker => exact Awake.of_worker (by simp) (by simp)
  | call hstopper =>
    intro hno
    simp [hinv.not_stopped hstopper] at hno
  | store hstopper =>
    intro hno
    simp at hno
  | notify hstopper =>
    intro _
    obtain ⟨hwaiting, hexamining⟩ := notified_spec s.worker
    exact ⟨hwaiting none, fun hno => hnoticed rfl hstopper ⟨hexamining hno.1, hno.2⟩⟩
  | join hstopper hworker => exact fun _ => h (.inl hstopper)

/-- The notification was lost. -/
structure Hung (s : State Task) : Prop where
  stopped : s.stopped = true
  stopper : s.stopper = .joining
  worker : Unaware s ∨ s.worker = .waiting none

theorem Hung.step (h : Hung s) (htime : InTime s e) (hstep : s.Step e s') : Hung s' := by
  have hplace : s.worker = .examining ∨ s.worker = .waiting none := h.worker.imp_left (·.1)
  have hstopper := h.stopper
  cases hstep with
  | post delay task now => cases (htime delay task now rfl).symm.trans h.stopped
  | pass now place worker hworker hpass =>
    rcases hplace with hplace | hplace <;> cases hworker.symm.trans hplace <;> cases hpass
  | examine now hworker =>
    rcases h.worker with ⟨-, hqueue, hpending⟩ | hwaiting
    · have hnext : s.examine now = { s with worker := .waiting none } := by
        simp [State.examine, PendingTask.popDue, hqueue, hpending]
      rw [hnext]
      exact ⟨h.stopped, h.stopper, .inr rfl⟩
    · cases hworker.symm.trans hwaiting
  | call hno | store hno | notify hno => cases hno.symm.trans hstopper
  | finish _ hworker | timeout _ _ hworker | join _ hworker =>
    rcases hplace with hplace | hplace <;> cases hworker.symm.trans hplace

theorem awake_run (htime : (system Task).Meets InTime events)
    (hnoticed : (system Task).Meets Noticed events) : Awake ((system Task).run events) := by
  have hboth : (system Task).Meets (fun s e => InTime s e ∧ Noticed s e) events :=
    fun pre e hpre => ⟨htime pre e hpre, hnoticed pre e hpre⟩
  have hinit : Inv (system Task).init ∧ Awake (system Task).init :=
    ⟨inv_init, by simp [system, Awake]⟩
  refine ((system Task).invariant_of_meets (fun s => Inv s ∧ Awake s) _ hinit ?_ hboth).2
  rintro s e ⟨hinv, hawake⟩ ⟨hintime, hevent⟩
  refine step_of_move (p := fun s => Inv s ∧ Awake s) ⟨hinv, hawake⟩ ?_
  intro s' hstep
  exact ⟨hinv.step hintime hstep, hawake.step hinv hintime hevent hstep⟩

/-- After a lost notification `Shutdown` never returns. -/
theorem noticed_of_returned (htime : (system Task).Meets InTime events)
    (hreturned : ((system Task).run events).stopper = .returned) :
    (system Task).Meets Noticed events := by
  rintro pre e ⟨rest, rfl⟩ rfl hstopper hunaware
  have hinv : Inv ((system Task).run pre) :=
    inv_run <| meets_of_prefix _ htime ⟨.stop :: rest, by simp⟩
  have hstep : (system Task).run (pre ++ [.stop]) =
      { (system Task).run pre with stopper := .joining }.notify := by
    rw [run_concat]
    show (((system Task).run pre).move .stop).getD _ = _
    simp [State.move, State.stop, hstopper]
  have hhung : Hung ((system Task).run (pre ++ [.stop])) := by
    rw [hstep]
    have hstopped := hinv.stopping.mpr (.inl hstopper)
    obtain ⟨hworker, hqueue, hpending⟩ := hunaware
    exact ⟨hstopped, rfl, .inl ⟨by simp [State.notify, hworker, Worker.notified], hqueue, hpending⟩⟩
  rw [meets_iff_meetsFrom, meetsFrom_append] at htime
  rw [run_append] at hreturned
  have hend := (system Task).runFrom_invariant_of_meets Hung InTime
    (fun s e h hintime => step_of_move h fun s' hstep => h.step hintime hstep) hhung htime.2
  cases hend.stopper.symm.trans hreturned

/-! ## Shutdown -/

/-- `Shutdown` has returned, and what has come to the queue has been run once, in order. -/
def Completed (events : List (Event Task)) : Prop :=
  ((system Task).run events).stopper = .returned ∧
    (system Task).collect ran events =
      (system Task).collect (fun s e => posted s e ++ moved s e) events

/-- Once `stopped_` is set there are only so many steps left, whatever the order. When there are
no more, `Shutdown` has completed if and only if its notification did not come between the last
test of `stopped_` and a wait for nothing. -/
theorem shutdown_completes_iff (events : List (Event Task))
    (htime : (system Task).Meets InTime events) :
    (((system Task).run events).stopped = true →
      ∀ more, (system Task).MeetsFrom Moves ((system Task).run events) more →
        more.length ≤ stepsLeft ((system Task).run events)) ∧
    (Quiescent ((system Task).run events) →
      (Completed events ↔ (system Task).Meets Noticed events)) := by
  refine ⟨fun hstopped more hmore => length_le_stepsLeft hstopped hmore, ?_⟩
  intro hquiescent
  constructor
  · intro hcompleted
    exact noticed_of_returned htime hcompleted.1
  · intro hnoticed
    have hinv := inv_run htime
    have hreturned : ((system Task).run events).stopper = .returned := by
      rcases hquiescent.cases with hreturned | ⟨hjoining, hwaiting⟩
      · exact hreturned
      · exact absurd hwaiting (awake_run htime hnoticed (.inl hjoining)).1
    -- the worker is left with nothing
    have hexited := hinv.returned hreturned
    have hheld : held ((system Task).run events) = [] := by
      rw [held_of_worker (by rw [hexited]; rfl)]
      exact hinv.exited hexited
    refine ⟨hreturned, ?_⟩
    rw [collect_queued, hheld, List.append_nil]

/-- The task wakes the worker, which sees that it has been stopped and runs it at its end. -/
def orderlyShutdown : List (Event Nat) :=
  [.work 0, .work 0, .work 0, .work 0, .post 0 5 0, .stop, .stop, .work 0, .work 0, .stop, .work 0,
    .work 0, .work 0, .work 0, .stop]

theorem shutdown_completes_of_notification :
    (system Nat).collect ran orderlyShutdown = [5] ∧ Completed orderlyShutdown := by
  have htime : (system Nat).Meets InTime orderlyShutdown := by
    rw [meets_iff_meetsFrom]
    decide
  have hquiescent : Quiescent ((system Nat).run orderlyShutdown) :=
    quiescent_of_blocked rfl (fun _ => rfl) (fun _ => rfl)
  have hnoticed : (system Nat).Meets Noticed orderlyShutdown := by
    rw [meets_iff_meetsFrom]
    decide
  exact ⟨rfl, ((shutdown_completes_iff orderlyShutdown htime).2 hquiescent).mpr hnoticed⟩

/-- The notification comes when the worker has seen that `stopped_` is not set, and before it
waits. -/
def lostNotification : List (Event Nat) :=
  [.work 0, .work 0, .work 0, .stop, .stop, .stop, .work 0]

theorem shutdown_hangs :
    (system Nat).Meets InTime lostNotification ∧
    Quiescent ((system Nat).run lostNotification) ∧
    ((system Nat).run lostNotification).stopper = .joining ∧
    ((system Nat).run lostNotification).worker = .waiting none ∧
    ¬ Completed lostNotification := by
  refine ⟨?_, quiescent_of_blocked rfl (fun _ => rfl) (fun _ => rfl), rfl, rfl, ?_⟩
  · rw [meets_iff_meetsFrom]
    decide
  · intro hcompleted
    cases hcompleted.1

end ScadaCore.Base.ThreadExecutor
