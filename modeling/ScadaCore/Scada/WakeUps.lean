import ScadaCore.Scada.Delivery

/-!
# Scada.WakeUps — no reader of a subscription sleeps through a notification

A call of `ReadNext` that finds nothing publishes a timer in `read_waiter` and,
after it has released the mutex, waits on it. Whoever queues something or closes
the subscription cancels the timer that is published and forgets it. The wait is
lost if that happens before it has started.
-/

namespace ScadaCore.Scada

open MonitoredItem

namespace Delivery

variable {V E : Type} (options : SubscriptionOptions) (d : Delivery V E)

/-- A reader waits on the timer, and the wait has not been cancelled. -/
def Waits (timer : Nat) : Prop :=
  ∃ call ∈ d.readers, call.point = .waiting timer false

/-- A reader waits only while there is nothing to read and more may come. -/
def NoLostWakeup : Prop :=
  ∀ timer, d.Waits timer → d.queue.pending = [] ∧ d.isClosed = false

/-- The step leaves no reader waiting in vain. A wait starts while it has
something to wait for; when `Close` or a sweep comes, all who wait are
registered, and when a notification comes, there is also room for it. (A queue
without room that has reported its overflow takes nothing any more.) -/
def Heard : Event V E → Prop
  | .read reader =>
    ∀ call timer, d.readers[reader]? = some call → call.point = .startWait timer →
      d.queue.pending = [] ∧ d.isClosed = false
  | .control (.close _) => d.isClosed = false → ∀ timer, d.Waits timer → d.readWaiter = some timer
  | .sweep index =>
    d.arrivals (.sweep index) ≠ [] → ∀ timer, d.Waits timer →
      d.readWaiter = some timer ∨
        options.maxPendingNotifications = 0 ∧ d.queue.overflowReported = true
  | e =>
    d.arrivals e ≠ [] → ∀ timer, d.Waits timer →
      (d.readWaiter = some timer ∧ 0 < options.maxPendingNotifications) ∨
        options.maxPendingNotifications = 0 ∧ d.queue.overflowReported = true

def Active (call : ReadCall V E) : Prop := ∀ result, call.point ≠ .done result

/-- `ReadNext` is called again only after it has returned. -/
def OneReader : Event V E → Prop
  | .readNext _ => ∀ call ∈ d.readers, ¬ Active call
  | _ => True

/-- A wait starts while its timer is still published: nothing was queued, swept
or closed in between. -/
def StartsRegistered : Event V E → Prop
  | .read reader =>
    ∀ call timer, d.readers[reader]? = some call → call.point = .startWait timer →
      d.readWaiter = some timer
  | _ => True

/-! ## Who waits after a step -/

theorem waits_wake (timer : Nat) :
    d.wake.Waits timer ↔ d.Waits timer ∧ d.readWaiter ≠ some timer := by
  unfold Waits
  rw [readers_wake]
  cases hwaiter : d.readWaiter with
  | none => simp
  | some registered =>
    constructor
    · rintro ⟨call', hmem, hpoint⟩
      obtain ⟨call, hcall, rfl⟩ := List.mem_map.mp hmem
      -- the wait was there before, and on another timer
      unfold ReadCall.cancel at hpoint
      split at hpoint
      · rename_i t cancelled hbefore
        simp only [ReadPoint.waiting.injEq, Bool.or_eq_false_iff, beq_eq_false_iff_ne] at hpoint
        obtain ⟨rfl, rfl, hne⟩ := hpoint
        exact ⟨⟨call, hcall, hbefore⟩, fun heq => hne (Option.some.inj heq).symm⟩
      · rename_i hother
        exact absurd hpoint (hother timer false)
    · rintro ⟨⟨call, hcall, hpoint⟩, hne⟩
      refine ⟨call.cancel registered, List.mem_map_of_mem hcall, ?_⟩
      have hdiffer : (timer == registered) = false := by
        simpa using fun heq : timer = registered => hne (heq ▸ rfl)
      simp [ReadCall.cancel, hpoint, hdiffer]

theorem waits_enqueueLocked_all (ns : List (Notification V E)) (timer : Nat) :
    (ns.foldl (enqueueLocked options) d).Waits timer ↔
      d.Waits timer ∧ (ns = [] ∨ d.queue.isFull options.maxPendingNotifications = true ∨
        d.readWaiter ≠ some timer) := by
  induction ns generalizing d with
  | nil => simp
  | cons n ns ih =>
    rw [List.foldl_cons, ih]
    unfold enqueueLocked
    cases hfull : d.queue.isFull options.maxPendingNotifications with
    | true =>
      have hstill : (d.drop n).queue.isFull options.maxPendingNotifications = true :=
        BoundedQueue.isFull_reject hfull n
      simp only [if_true, hstill, true_or, or_true, and_true]
      rfl
    | false =>
      have happend : (d.append n).wake.Waits timer ↔
          d.Waits timer ∧ d.readWaiter ≠ some timer := waits_wake (d.append n) timer
      simp [happend]

theorem Waits.of_enqueueLocked_all {d : Delivery V E} {ns : List (Notification V E)} {timer : Nat}
    (h : (ns.foldl (enqueueLocked options) d).Waits timer) : d.Waits timer :=
  ((waits_enqueueLocked_all options d ns timer).mp h).1

theorem waits_congr {d d' : Delivery V E} (hreaders : d'.readers = d.readers) (timer : Nat) :
    d'.Waits timer ↔ d.Waits timer := by
  unfold Waits
  rw [hreaders]

theorem Waits.of_readNext {d : Delivery V E} {maxCount timer : Nat}
    (h : (d.readNext maxCount).Waits timer) : d.Waits timer := by
  obtain ⟨call, hmem, hpoint⟩ := h
  rcases List.mem_append.mp hmem with hold | hnew
  · exact ⟨call, hold, hpoint⟩
  · rw [List.mem_singleton.mp hnew] at hpoint
    dsimp only at hpoint
    split at hpoint <;> cases hpoint

theorem Waits.of_setPoint {d : Delivery V E} {reader timer : Nat} {call : ReadCall V E}
    {point : ReadPoint V E} (hpoint : point ≠ .waiting timer false)
    (h : (d.setPoint reader call point).Waits timer) : d.Waits timer := by
  obtain ⟨call', hmem, hwaits⟩ := h
  rcases List.mem_or_eq_of_mem_set hmem with hold | rfl
  · exact ⟨call', hold, hwaits⟩
  · exact absurd hwaits hpoint

/-- After something has been offered to the queue: those who waited and were not
woken wait in vain, unless the queue is still empty. -/
theorem noLostWakeup_iff_of_arrivals {d d' : Delivery V E} (ns : List (Notification V E))
    (asleep : Prop) (h : NoLostWakeup d) (hclosed : d'.isClosed = d.isClosed)
    (hqueue : d'.queue =
      d.queue.enqueueAll options.maxPendingNotifications .overflowMark ns)
    (hold : ∀ timer, d'.Waits timer → d.Waits timer)
    (hwaits : ns ≠ [] → ∀ timer, d.Waits timer →
      (d'.Waits timer ↔ asleep ∨ d.readWaiter ≠ some timer)) :
    NoLostWakeup d' ↔ (ns ≠ [] → ∀ timer, d.Waits timer →
      (d.readWaiter = some timer ∧ ¬ asleep) ∨
        options.maxPendingNotifications = 0 ∧ d.queue.overflowReported = true) := by
  have hpending : d'.queue.pending = [] ↔ d.queue.pending = [] ∧
      (ns = [] ∨ options.maxPendingNotifications = 0 ∧ d.queue.overflowReported = true) := by
    rw [hqueue]
    exact BoundedQueue.pending_enqueueAll_eq_nil_iff d.queue ns
  constructor
  · intro h' hne timer hbefore
    by_cases hafter : d'.Waits timer
    · -- still waiting, so nothing has got into the queue
      rcases (hpending.mp (h' timer hafter).1).2 with hnone | hnever
      · exact absurd hnone hne
      · exact Or.inr hnever
    · rw [hwaits hne timer hbefore, not_or, not_not] at hafter
      exact Or.inl ⟨hafter.2, hafter.1⟩
  · intro hheard timer hafter
    have hbefore := hold timer hafter
    obtain ⟨hempty, hopen⟩ := h timer hbefore
    refine ⟨hpending.mpr ⟨hempty, ?_⟩, hclosed.trans hopen⟩
    by_cases hne : ns = []
    · exact Or.inl hne
    · rcases hheard hne timer hbefore with ⟨hregistered, hawake⟩ | hnever
      · rcases (hwaits hne timer hbefore).mp hafter with hasleep | hother
        · exact absurd hasleep hawake
        · exact absurd hregistered hother
      · exact Or.inr hnever

/-! ## One step -/

section Step

variable {d}

section

variable (h : NoLostWakeup d)

include h

/-- Where a reader waits, the queue is full only if it has no room at all. -/
theorem isFull_iff_of_waits {timer : Nat} (hwaits : d.Waits timer) :
    d.queue.isFull options.maxPendingNotifications = true ↔
      options.maxPendingNotifications = 0 := by
  rw [BoundedQueue.isFull_iff, (h timer hwaits).1]
  exact Nat.le_zero

theorem noLostWakeup_enqueueLocked_all (d' : Delivery V E) (hqueue : d'.queue = d.queue)
    (hclosed : d'.isClosed = d.isClosed) (hreaders : d'.readers = d.readers)
    (hwaiter : d'.readWaiter = d.readWaiter) (ns : List (Notification V E)) :
    NoLostWakeup (ns.foldl (enqueueLocked options) d') ↔ (ns ≠ [] → ∀ timer, d.Waits timer →
      (d.readWaiter = some timer ∧ 0 < options.maxPendingNotifications) ∨
        options.maxPendingNotifications = 0 ∧ d.queue.overflowReported = true) := by
  rw [noLostWakeup_iff_of_arrivals options ns (options.maxPendingNotifications = 0) h]
  · simp only [Nat.pos_iff_ne_zero, ne_eq]
  · unfold isClosed at hclosed ⊢
    rw [(enqueueLocked_all_frame options d' ns).control, hclosed]
  · rw [queue_enqueueLocked_all, hqueue]
  · intro timer hafter
    exact (waits_congr hreaders timer).mp (hafter.of_enqueueLocked_all options)
  · intro hne timer hbefore
    rw [waits_enqueueLocked_all, hqueue, hwaiter, waits_congr hreaders,
      isFull_iff_of_waits options h hbefore]
    simp [hne, hbefore]

theorem noLostWakeup_push_iff (n : Notification V E) :
    NoLostWakeup (d.step options (.push n)) ↔ Heard options d (.push n) := by
  have hstep : d.step options (.push n) =
      (d.arrivals (.push n)).foldl (enqueueLocked options) d := by
    cases hclosed : d.isClosed with
    | true | false => simp [step, pushNotification, arrivals, hclosed]
  rw [hstep]
  exact noLostWakeup_enqueueLocked_all options h d rfl rfl rfl rfl _

theorem noLostWakeup_backendFailed_iff (handler : Nat) :
    NoLostWakeup (d.step options (.control (.backendFailed handler))) ↔
      Heard options d (.control (.backendFailed handler)) := by
  have harrivals : d.arrivals (.control (.backendFailed handler)) = d.outages handler := by
    unfold arrivals
    cases hclosed : d.isClosed with
    | true => simp [outages_of_closed hclosed]
    | false => rfl
  simp only [Heard, harrivals]
  have hclosed : (d.control.step (.backendFailed handler)).state.closed = d.control.state.closed :=
    d.control.closed_step fun status hno => by cases hno
  exact noLostWakeup_enqueueLocked_all options h
    { d with control := d.control.step (.backendFailed handler) } rfl hclosed rfl rfl _

theorem noLostWakeup_sweep_iff (index : Nat) :
    NoLostWakeup (d.step options (.sweep index)) ↔ Heard options d (.sweep index) := by
  unfold Heard
  cases hsweep : d.sweeps[index]? with
  | none =>
    have hstep : d.step options (.sweep index) = d := by simp [step, sweep, hsweep]
    simp [hstep, h, arrivals, hsweep]
  | some status =>
    cases hclosed : d.isClosed with
    | true =>
      have hstep : d.step options (.sweep index) =
          { d with sweeps := d.sweeps.eraseIdx index, swept := true } := by
        simp [step, sweep, hsweep, sweepBlocked, hclosed]
      rw [hstep]
      refine iff_of_true h ?_
      simp [arrivals, hclosed]
    | false =>
      obtain ⟨hqueue, hframe, hreaders, hwaiter⟩ :=
        sweepItems_spec options status d.control.state.items.entries d
      have hstep : d.step options (.sweep index) =
          { (d.sweepItems options status d.control.state.items.entries).wake with
            sweeps := d.sweeps.eraseIdx index, swept := true } := by
        simp [step, sweep, hsweep, sweepBlocked, hclosed]
      have hwaits : ∀ timer, (d.step options (.sweep index)).Waits timer ↔
          d.Waits timer ∧ d.readWaiter ≠ some timer := by
        intro timer
        rw [hstep, ← hwaiter, ← waits_congr hreaders]
        exact waits_wake _ timer
      have harrivals : d.arrivals (.sweep index) =
          d.control.state.items.entries.map (sweepStatus status) := by
        simp [arrivals, hclosed, hsweep]
      rw [noLostWakeup_iff_of_arrivals options (d.arrivals (.sweep index)) False h]
      · simp
      · rw [hstep]
        change ((Delivery.wake _).control.state.closed) = d.control.state.closed
        rw [(wake_frame _).1.control, hframe.control]
      · rw [hstep, harrivals, ← hqueue]
        exact queue_wake _
      · exact fun timer hafter => ((hwaits timer).mp hafter).1
      · intro _ timer hbefore
        simp [hwaits, hbefore]

theorem noLostWakeup_close_iff (status : Status) :
    NoLostWakeup (d.step options (.control (.close status))) ↔
      Heard options d (.control (.close status)) := by
  unfold Heard
  cases hclosed : d.isClosed with
  | true =>
    have hcontrol : d.control.close status = d.control := if_pos hclosed
    have hstep : d.step options (.control (.close status)) = d := by
      simp [step, runControl, hclosed, Multiplexing.step, hcontrol]
    simp [hstep, h]
  | false =>
    have hstep : d.step options (.control (.close status)) =
        { d with control := d.control.close status, queue := d.queue.clear }.wake := by
      simp [step, runControl, hclosed, Multiplexing.step, discard]
    have hcontrol : d.control.close status =
        { d.control with
          state := d.control.state.close status
          heap := d.control.heap.filter fun pump =>
            !d.control.state.pumps.values.contains pump } :=
      if_neg (Bool.eq_false_iff.mp hclosed)
    have hafter : (d.step options (.control (.close status))).isClosed = true := by
      unfold isClosed
      rw [hstep, (wake_frame _).1.control, hcontrol]
      rfl
    have hwaits : ∀ timer, (d.step options (.control (.close status))).Waits timer ↔
        d.Waits timer ∧ d.readWaiter ≠ some timer := by
      intro timer
      rw [hstep]
      exact waits_wake _ timer
    constructor
    · intro h' _ timer hbefore
      by_contra hother
      have hopen := (h' timer ((hwaits timer).mpr ⟨hbefore, hother⟩)).2
      rw [hafter] at hopen
      cases hopen
    · intro hheard timer hstill
      obtain ⟨hbefore, hother⟩ := (hwaits timer).mp hstill
      exact absurd (hheard rfl timer hbefore) hother

/-- A reader that checks, registers or releases its timer starts no wait. -/
theorem noLostWakeup_of_setPoint {d' : Delivery V E} {reader : Nat} {call : ReadCall V E}
    {point : ReadPoint V E} (hreaders : d'.readers = d.readers)
    (hpending : ∃ n, d'.queue.pending = d.queue.pending.drop n) (hclosed : d'.isClosed = d.isClosed)
    (hpoint : ∀ timer, point ≠ .waiting timer false) :
    NoLostWakeup (d'.setPoint reader call point) := by
  intro timer hafter
  obtain ⟨call', hmem, hwaits⟩ := hafter.of_setPoint (hpoint timer)
  obtain ⟨hempty, hopen⟩ := h timer ⟨call', hreaders ▸ hmem, hwaits⟩
  obtain ⟨n, hdrop⟩ := hpending
  rw [hempty, List.drop_nil] at hdrop
  exact ⟨hdrop, hclosed.trans hopen⟩

theorem noLostWakeup_read_iff (reader : Nat) :
    NoLostWakeup (d.step options (.read reader)) ↔ Heard options d (.read reader) := by
  have hnone : ∃ n, d.queue.pending = d.queue.pending.drop n := ⟨0, rfl⟩
  have heffect := read_effect options d reader
  have hstep : d.step options (.read reader) = d.read options reader := rfl
  rw [hstep]
  generalize d.read options reader = d' at heffect ⊢
  -- a step other than the start of a wait is heard
  have hquiet : ∀ call, d.readers[reader]? = some call →
      (∀ timer, call.point ≠ .startWait timer) → Heard options d (.read reader) := by
    intro call hcall hfrom call' timer hcall' hstart
    rw [hcall] at hcall'
    cases hcall'
    exact absurd hstart (hfrom timer)
  cases heffect with
  | stay hidle =>
    refine iff_of_true h ?_
    intro call timer hcall hstart
    exact absurd hstart (hidle call timer hcall)
  | move call point hcall hactive hfrom hto =>
    exact iff_of_true (noLostWakeup_of_setPoint h rfl hnone rfl hto) (hquiet call hcall hfrom)
  | deliver call count hcall hfrom =>
    exact iff_of_true (noLostWakeup_of_setPoint h rfl ⟨count, rfl⟩ rfl (by simp))
      (hquiet call hcall (by simp [hfrom]))
  | register call hcall hfrom hopen hempty | release call timer hcall hfrom =>
    exact iff_of_true (noLostWakeup_of_setPoint h rfl hnone rfl (by simp))
      (hquiet call hcall (by simp [hfrom]))
  | start call timer hcall hfrom =>
    have hbound : reader < d.readers.length := (List.getElem?_eq_some_iff.mp hcall).1
    constructor
    · intro h' call' timer' _ _
      exact h' timer ⟨{ call with point := .waiting timer false }, List.mem_set hbound _, rfl⟩
    · intro hheard timer' _
      exact hheard call timer hcall hfrom

/-- Every other step neither queues anything nor starts a wait. -/
theorem noLostWakeup_step_iff (e : Event V E) :
    NoLostWakeup (d.step options e) ↔ Heard options d e := by
  cases e with
  | control e =>
    cases e with
    | close status => exact noLostWakeup_close_iff options h status
    | backendFailed handler => exact noLostWakeup_backendFailed_iff options h handler
    | _ =>
      refine iff_of_true ?_ ?_
      · intro timer hwaits
        obtain ⟨hempty, hopen⟩ := h timer hwaits
        refine ⟨hempty, Eq.trans ?_ hopen⟩
        exact d.control.closed_step fun status hno => by cases hno
      · simp [Heard, arrivals]
  | push n => exact noLostWakeup_push_iff options h n
  | sweep index => exact noLostWakeup_sweep_iff options h index
  | read reader => exact noLostWakeup_read_iff options h reader
  | readNext maxCount =>
    refine iff_of_true ?_ (by simp [Heard, arrivals])
    exact fun timer hwaits => h timer hwaits.of_readNext
  | setBlocked status | setAllowed => exact iff_of_true h (by simp [Heard, arrivals])

end

end Step

/-! ## One reader at a time -/

/-- Whoever waits is registered, and there is one call at most. -/
structure Parked (d : Delivery V E) : Prop where
  registered : ∀ timer, d.Waits timer → d.readWaiter = some timer
  single : ∀ (i j : Nat) (call call' : ReadCall V E), d.readers[i]? = some call →
    d.readers[j]? = some call' → Active call → Active call' → i = j

/-- And a timer is published only while there is nothing to read. -/
structure Watched (d : Delivery V E) : Prop extends Parked d where
  quiet : ∀ timer, d.readWaiter = some timer → d.queue.pending = [] ∧ d.isClosed = false

section OneReader

variable {d d' : Delivery V E}

theorem Watched.noLostWakeup (h : Watched d) : NoLostWakeup d :=
  fun timer hwaits => h.quiet timer (h.registered timer hwaits)

theorem Parked.of_readers (h : Parked d) (hreaders : d'.readers = d.readers)
    (hwaiter : d'.readWaiter = d.readWaiter) : Parked d' := by
  refine ⟨?_, ?_⟩
  · intro timer hwaits
    exact hwaiter.trans (h.registered timer ((waits_congr hreaders timer).mp hwaits))
  · rw [hreaders]
    exact h.single

theorem active_cancel {call : ReadCall V E} {timer : Nat} (h : Active (call.cancel timer)) :
    Active call := by
  intro result hdone
  refine h result ?_
  simp [ReadCall.cancel, hdone]

theorem Parked.wake (h : Parked d) : Watched d.wake := by
  refine ⟨⟨?_, ?_⟩, ?_⟩
  · intro timer hwaits
    obtain ⟨hbefore, hother⟩ := (waits_wake d timer).mp hwaits
    exact absurd (h.registered timer hbefore) hother
  · rw [readers_wake]
    cases d.readWaiter with
    | none => exact h.single
    | some registered =>
      intro i j call call' hcall hcall' hactive hactive'
      simp only [List.getElem?_map, Option.map_eq_some_iff] at hcall hcall'
      obtain ⟨old, hold, rfl⟩ := hcall
      obtain ⟨old', hold', rfl⟩ := hcall'
      exact h.single i j old old' hold hold' (active_cancel hactive) (active_cancel hactive')
  · intro timer hno
    rw [readWaiter_wake] at hno
    cases hno

theorem Watched.enqueueLocked (h : Watched d) (hroom : 0 < options.maxPendingNotifications)
    (n : Notification V E) : Watched (d.enqueueLocked options n) := by
  unfold Delivery.enqueueLocked
  split
  · rename_i hfull
    refine ⟨h.toParked.of_readers rfl rfl, ?_⟩
    intro timer hregistered
    -- no timer is published while the queue is full
    have hempty := (h.quiet timer hregistered).1
    rw [BoundedQueue.isFull_iff, hempty, List.length_nil] at hfull
    omega
  · have happend : Parked (d.append n) := h.toParked.of_readers rfl rfl
    exact happend.wake

theorem Watched.enqueueLocked_all (h : Watched d) (hroom : 0 < options.maxPendingNotifications)
    (ns : List (Notification V E)) : Watched (ns.foldl (Delivery.enqueueLocked options) d) := by
  induction ns generalizing d with
  | nil => exact h
  | cons n ns ih => exact ih (h.enqueueLocked options hroom n)

theorem Watched.of_control (h : Watched d) (control : Multiplexing)
    (hclosed : control.state.closed = d.control.state.closed) :
    Watched { d with control } := by
  refine ⟨h.toParked.of_readers rfl rfl, ?_⟩
  intro timer hregistered
  obtain ⟨hempty, hopen⟩ := h.quiet timer hregistered
  exact ⟨hempty, hclosed.trans hopen⟩

theorem Watched.setPoint (h : Watched d) {reader : Nat} {call : ReadCall V E}
    {point : ReadPoint V E} (hcall : d.readers[reader]? = some call) (hactive : Active call)
    (hreaders : d'.readers = d.readers)
    (hkept : d'.readWaiter = d.readWaiter ∨ ∀ timer, ¬ d.Waits timer)
    (hpoint : ∀ timer, point = .waiting timer false → d'.readWaiter = some timer)
    (hquiet : ∀ timer, d'.readWaiter = some timer → d'.queue.pending = [] ∧ d'.isClosed = false) :
    Watched (d'.setPoint reader call point) := by
  refine ⟨⟨?_, ?_⟩, hquiet⟩
  · intro timer hwaits
    by_cases hstart : point = .waiting timer false
    · exact hpoint timer hstart
    · have hbefore := (waits_congr hreaders timer).mp (hwaits.of_setPoint hstart)
      rcases hkept with hkept | hnone
      · exact hkept.trans (h.registered timer hbefore)
      · exact absurd hbefore (hnone timer)
  · -- a call that is active now was active before
    have hbefore : ∀ (i : Nat) (c : ReadCall V E),
        (d'.setPoint reader call point).readers[i]? = some c → Active c →
        ∃ c', d.readers[i]? = some c' ∧ Active c' := by
      intro i c hc hc'
      by_cases hi : reader = i
      · subst hi
        exact ⟨call, hcall, hactive⟩
      · have hset : (d'.setPoint reader call point).readers[i]? = d.readers[i]? := by
          rw [← hreaders]
          exact List.getElem?_set_ne hi
        exact ⟨c, hset ▸ hc, hc'⟩
    intro i j c c' hc hc' hactive hactive'
    obtain ⟨old, hold, ha⟩ := hbefore i c hc hactive
    obtain ⟨old', hold', ha'⟩ := hbefore j c' hc' hactive'
    exact h.single i j old old' hold hold' ha ha'

/-- While a call is under way and does not wait, nobody waits. -/
theorem Parked.not_waits (h : Parked d) {reader : Nat} {call : ReadCall V E}
    (hcall : d.readers[reader]? = some call) (hactive : Active call)
    (hpoint : ∀ timer, call.point ≠ .waiting timer false) (timer : Nat) : ¬ d.Waits timer := by
  rintro ⟨call', hmem, hwaits⟩
  obtain ⟨i, hi⟩ := List.mem_iff_getElem?.mp hmem
  have hactive' : Active call' := by
    intro result hdone
    rw [hwaits] at hdone
    cases hdone
  have hsame := h.single i reader call' call hi hcall hactive' hactive
  subst hsame
  rw [hi] at hcall
  cases hcall
  exact hpoint timer hwaits

theorem watched_read (h : Watched d) (reader : Nat) (hstart : StartsRegistered d (.read reader)) :
    Watched (d.read options reader) := by
  have heffect := read_effect options d reader
  generalize d.read options reader = d' at heffect ⊢
  cases heffect with
  | stay hidle => exact h
  | move call point hcall hactive hfrom hto =>
    exact h.setPoint hcall hactive rfl (.inl rfl) (fun timer hno => absurd hno (hto timer)) h.quiet
  | deliver call count hcall hfrom =>
    refine h.setPoint hcall (by simp [Active, hfrom]) rfl (.inl rfl) (by simp) ?_
    intro timer hregistered
    obtain ⟨hempty, hopen⟩ := h.quiet timer hregistered
    exact ⟨by simp [BoundedQueue.take, hempty], hopen⟩
  | register call hcall hfrom hopen hempty =>
    have hactive : Active call := by simp [Active, hfrom]
    have hnone := h.toParked.not_waits hcall hactive (by simp [hfrom])
    exact h.setPoint hcall hactive rfl (.inr hnone) (by simp) fun timer _ => ⟨hempty, hopen⟩
  | start call timer hcall hfrom =>
    refine h.setPoint hcall (by simp [Active, hfrom]) rfl (.inl rfl) ?_ h.quiet
    intro timer' hpoint
    cases hpoint
    exact hstart call timer hcall hfrom
  | release call timer hcall hfrom =>
    have hactive : Active call := by simp [Active, hfrom]
    have hnone := h.toParked.not_waits hcall hactive (by simp [hfrom])
    refine h.setPoint hcall hactive rfl (.inr hnone) (by simp) ?_
    intro timer' hregistered
    dsimp only at hregistered
    split at hregistered
    · cases hregistered
    · exact h.quiet timer' hregistered

theorem Watched.sweepBlocked (h : Watched d) (status : StatusCode) :
    Watched (d.sweepBlocked options status) := by
  unfold Delivery.sweepBlocked
  split
  · exact h
  · obtain ⟨-, -, hreaders, hwaiter⟩ :=
      sweepItems_spec options status d.control.state.items.entries d
    exact (h.toParked.of_readers hreaders hwaiter).wake

/-- `Close` wakes the reader, and a failure of a backend queues for the items. -/
theorem watched_control (h : Watched d) (hroom : 0 < options.maxPendingNotifications)
    (e : Multiplexing.Event) : Watched (d.step options (.control e)) := by
  have hclosed : (∀ status, e ≠ .close status) →
      (d.control.step e).state.closed = d.control.state.closed := d.control.closed_step
  dsimp only [step, runControl]
  split
  · rename_i status
    split
    · rename_i hbefore
      have hsame : d.control.step (.close status) = d.control := if_pos hbefore
      rw [hsame]
      exact h
    · have hparked : Parked
          { d with control := d.control.step (.close status), queue := d.queue.clear } :=
        h.toParked.of_readers rfl rfl
      exact hparked.wake
  · exact (h.of_control _ (hclosed (by simp))).enqueueLocked_all options hroom _
  · rename_i hother _
    exact h.of_control _ (hclosed hother)

theorem watched_readNext (h : Watched d) {maxCount : Nat}
    (hone : ∀ call ∈ d.readers, ¬ Active call) : Watched (d.readNext maxCount) := by
  refine ⟨⟨?_, ?_⟩, h.quiet⟩
  · exact fun timer hwaits => h.registered timer hwaits.of_readNext
  · have hlast : ∀ (i : Nat) (c : ReadCall V E),
        (d.readNext maxCount).readers[i]? = some c → Active c → i = d.readers.length := by
      intro i c hc hactive
      rcases Nat.lt_trichotomy i d.readers.length with hlt | heq | hgt
      · rw [readNext, List.getElem?_append_left hlt] at hc
        exact absurd hactive (hone c (List.mem_of_getElem? hc))
      · exact heq
      · rw [readNext, List.getElem?_eq_none (by simp; omega)] at hc
        cases hc
    intro i j c c' hc hc' hactive hactive'
    rw [hlast i c hc hactive, hlast j c' hc' hactive']

theorem watched_step (h : Watched d) (hroom : 0 < options.maxPendingNotifications)
    {e : Event V E} (hone : OneReader d e) (hstart : StartsRegistered d e) :
    Watched (d.step options e) := by
  cases e with
  | control e => exact watched_control options h hroom e
  | push n =>
    dsimp only [step, pushNotification]
    split
    · exact h
    · exact h.enqueueLocked options hroom _
  | sweep index =>
    dsimp only [step, sweep]
    split
    · exact h
    · rename_i status _
      have hswept := h.sweepBlocked options status
      exact ⟨hswept.toParked.of_readers rfl rfl, hswept.quiet⟩
  | setBlocked status | setAllowed => exact ⟨h.toParked.of_readers rfl rfl, h.quiet⟩
  | readNext maxCount => exact watched_readNext h hone
  | read reader => exact watched_read options h reader hstart

end OneReader

/-! ## Runs -/

/-- **Wake-ups, exactly.** In a run no reader ever sleeps while there is something
to read, or the subscription is closed, if and only if every step is heard. If
there is room for a notification, one reader at a time, and every wait starts
while its timer is published, then whoever waits is registered, and so is resumed
by the next notification or by `Close`. -/
theorem always_noLostWakeup_iff (es : List (Event V E)) :
    ((system options).Always NoLostWakeup es ↔ (system options).Meets (Heard options) es) ∧
      (0 < options.maxPendingNotifications →
        (system options).Meets (fun d e => OneReader d e ∧ StartsRegistered d e) es →
        (system options).Always (fun d => NoLostWakeup d ∧
          ∀ timer, d.Waits timer → d.readWaiter = some timer) es) := by
  have hnobody : ∀ timer, ¬ ({} : Delivery V E).Waits timer := by
    rintro timer ⟨call, hmem, -⟩
    cases hmem
  constructor
  · refine (system options).always_iff_meets NoLostWakeup NoLostWakeup (Heard options)
      (fun timer hwaits => absurd hwaits (hnobody timer)) (fun d h => h) ?_ ?_ es
    · intro d e h hheard
      exact (noLostWakeup_step_iff options h e).mpr hheard
    · intro d e h hunheard h'
      exact hunheard ((noLostWakeup_step_iff options h e).mp h')
  · intro hroom hmeets
    have hinit : Watched (system (V := V) (E := E) options).init :=
      ⟨⟨fun timer hwaits => absurd hwaits (hnobody timer), fun i j c c' hno => by cases hno⟩,
        fun timer hno => by cases hno⟩
    have hwatched := (system options).always_of_meets Watched _ hinit
      (fun d e h hboth => watched_step options h hroom hboth.1 hboth.2) hmeets
    exact (system options).always_mono (fun d h => ⟨h.noLostWakeup, h.registered⟩) hwatched

/-- The reader has published its timer when a notification comes, and starts to
wait after that. -/
def raceRun : List (Event Bool Unit) :=
  [.readNext 1, .read 0, .read 0, .push (.dataChange 5 1 { value := some true }), .read 0]

theorem raceRun_sleeps : ¬ (system {}).Always NoLostWakeup raceRun := by
  intro halways
  have hlast : NoLostWakeup ((system {}).run raceRun) := halways raceRun (List.prefix_refl _)
  have hempty := (hlast 0 ⟨{ maxCount := 1, point := .waiting 0 false }, by
    exact List.mem_singleton.mpr rfl, rfl⟩).1
  have hpending : ((system {}).run raceRun).queue.pending.length = 1 := by decide +kernel
  rw [hempty] at hpending
  cases hpending

end Delivery

end ScadaCore.Scada
