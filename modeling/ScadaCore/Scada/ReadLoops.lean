import ScadaCore.Lts.Settling
import ScadaCore.Scada.Overflow

/-!
# Scada.ReadLoops — readers that run alone

`ReadNext` loops until it has something to return or has to wait, and the
`ReadLoop` of a `MonitoredItemSubscriptionPump` calls it again and again. While
no notification arrives, a reader has the executor for itself, so each loop has
to come to rest: `ReadNext` by returning or by waiting for a new notification,
the pump when its `ReadNext` waits. The bound on a batch decides about that, and
nobody checks it: with `max_batch_size = 0` nothing is ever taken out of a queue
that is not empty, and the pump asks for nothing and gets it.
-/

namespace ScadaCore.Scada

open MonitoredItem Lts

/-! ## The pump -/

/-- `MonitoredItemSubscription`, as a caller of `ReadNext` sees it: a call gets a
number, takes steps of its own, and returns or waits. -/
structure ReadInterface (σ V E : Type) where
  readNext : σ → Nat → σ
  nextCall : σ → Nat
  advance : Nat → σ → σ
  result : Nat → σ → Option (Except Status (List (Notification V E)))
  waits : Nat → σ → Bool
  pendingCount : σ → Nat

/-- Where `ReadLoop` is: at its first critical section, in `ReadNext`, at the
second critical section with what was returned, or at its end, with the status
that the error handler was called with. -/
inductive PumpPoint (V E : Type) where
  | head
  | reading (call : Nat)
  | returned (result : Except Status (List (Notification V E)))
  | finished (error : Option Status)

/-- `MonitoredItemSubscriptionPump::State` with its `ReadLoop` and the batches
that the handler was called with. -/
structure PumpLoop (σ V E : Type) where
  subscription : σ
  hasSubscription : Bool := true
  closed : Bool := false
  point : PumpPoint V E := .head
  handled : List (List (Notification V E)) := []

section Pump

variable {σ V E : Type} (R : ReadInterface σ V E) (options : SubscriptionOptions)

/-- The call has returned, or it waits for a new notification. -/
def ReadInterface.AtRest (call : Nat) (s : σ) : Prop :=
  R.waits call s = true ∨ (R.result call s).isSome = true

namespace PumpLoop

/-- The next step of `ReadLoop`. -/
def step (p : PumpLoop σ V E) : PumpLoop σ V E :=
  match p.point with
  | .head =>
    if p.closed || !p.hasSubscription then { p with point := .finished none }
    else
      { p with
        subscription := R.readNext p.subscription options.maxBatchSize
        point := .reading (R.nextCall p.subscription) }
  | .reading call =>
    match R.result call p.subscription with
    | none => { p with subscription := R.advance call p.subscription }
    | some result => { p with point := .returned result }
  | .returned result =>
    if p.closed then { p with point := .finished none }
    else
      match result with
      | .error status => { p with point := .finished (some status) }
      | .ok batch => { p with point := .head, handled := p.handled ++ [batch] }
  | .finished _ => p

/-- The loop has ended, or its `ReadNext` waits for a new notification. -/
def AtRest (p : PumpLoop σ V E) : Prop :=
  (∃ error, p.point = .finished error) ∨
    ∃ call, p.point = .reading call ∧ R.waits call p.subscription = true

end PumpLoop

/-- `ReadNext` comes to rest, and a batch that it returns has been taken out of
the queue. `active` are the calls that have not returned. -/
structure ReadInterface.Settling (active : Nat → σ → Prop) : Prop where
  idle : ∀ s call, (R.result call s).isSome = true → R.advance call s = s
  called : ∀ s maxCount, maxCount ≠ 0 → active (R.nextCall s) (R.readNext s maxCount) ∧
    R.pendingCount (R.readNext s maxCount) = R.pendingCount s
  settles : ∀ s call, active call s → Settles (R.advance call) (fun s' => R.AtRest call s' ∧
    ∀ batch, R.result call s' = some (.ok batch) → R.pendingCount s' < R.pendingCount s) s

variable {R} in
theorem ReadInterface.Settling.settles_of {active : Nat → σ → Prop} (hR : R.Settling active)
    {s : σ} {call : Nat} (h : (R.result call s).isSome = true ∨ active call s) :
    Settles (R.advance call) (R.AtRest call) s := by
  rcases h with hreturned | hactive
  · exact .now (Or.inr hreturned)
  · exact (hR.settles s call hactive).mono fun _ hrest => hrest.1

/-- A step of a call that does not wait: it gets closer to its rest by a measure,
or it returns. -/
def ReadInterface.Advances (active : Nat → σ → Prop) (stepsLeft : Nat → σ → Nat) (call : Nat)
    (s s' : σ) : Prop :=
  (active call s' ∧ stepsLeft call s' < stepsLeft call s ∧
      R.pendingCount s' = R.pendingCount s) ∨
    ∃ result, R.result call s' = some result ∧
      ∀ batch, result = .ok batch → R.pendingCount s' < R.pendingCount s

variable {R} in
theorem ReadInterface.settles_of_advances {active : Nat → σ → Prop} (stepsLeft : Nat → σ → Nat)
    (hnone : ∀ s call, active call s → R.result call s = none)
    (hstep : ∀ s call, active call s → R.waits call s = false →
      R.Advances active stepsLeft call s (R.advance call s))
    {s : σ} {call : Nat} (hs : active call s) :
    Settles (R.advance call) (fun s' => R.AtRest call s' ∧
      ∀ batch, R.result call s' = some (.ok batch) → R.pendingCount s' < R.pendingCount s) s := by
  -- until it returns, the call leaves the queue as it found it
  refine settles_of_measure (fun s' => active call s' ∧ R.pendingCount s' = R.pendingCount s)
    (stepsLeft call) ?_ ⟨hs, rfl⟩
  rintro s' ⟨hactive, hsame⟩
  cases hwaits : R.waits call s' with
  | true =>
    refine .inl ⟨Or.inl hwaits, ?_⟩
    intro batch hno
    rw [hnone s' call hactive] at hno
    cases hno
  | false =>
    rcases hstep s' call hactive hwaits with ⟨hactive', hless, hsame'⟩ | ⟨result, hresult, htaken⟩
    · exact .inr (.inr ⟨⟨hactive', hsame'.trans hsame⟩, hless⟩)
    · refine .inr (.inl ⟨Or.inr (by rw [hresult]; rfl), ?_⟩)
      intro batch hbatch
      rw [hresult] at hbatch
      rw [← hsame]
      exact htaken batch (Option.some.inj hbatch)

namespace PumpLoop

variable {R options} {active : Nat → σ → Prop}

variable {p : PumpLoop σ V E}

theorem settles_of_finished {error : Option Status} (h : p.point = .finished error) :
    Settles (step R options) (AtRest R) p :=
  .now (Or.inl ⟨error, h⟩)

theorem settles_of_returned {result : Except Status (List (Notification V E))}
    (h : p.point = .returned result)
    (hhead : ∀ p' : PumpLoop σ V E, p'.point = .head → p'.subscription = p.subscription →
      ∀ batch, result = .ok batch → Settles (step R options) (AtRest R) p') :
    Settles (step R options) (AtRest R) p := by
  refine .step ?_
  unfold step
  rw [h]
  dsimp only
  split
  · exact settles_of_finished rfl
  · split
    · exact settles_of_finished rfl
    · exact hhead _ rfl rfl _ rfl

/-- `ReadNext` comes to rest; a batch leaves less for the next round. -/
theorem settles_of_reading (hR : R.Settling active) {call : Nat} (h : p.point = .reading call)
    (hactive : active call p.subscription) (hhead : ∀ p' : PumpLoop σ V E, p'.point = .head →
      R.pendingCount p'.subscription < R.pendingCount p.subscription →
      Settles (step R options) (AtRest R) p') : Settles (step R options) (AtRest R) p := by
  refine Settles.lift (fun s => { p with subscription := s }) (hR.settles _ call hactive) ?_ ?_
  · -- as long as the call has not returned, its steps are those of the loop
    intro s
    cases hresult : R.result call s with
    | none =>
      right
      simp [step, h, hresult]
    | some result =>
      left
      exact hR.idle s call (by rw [hresult]; rfl)
  · rintro s ⟨hwaits | hreturned, hless⟩
    · exact .now (Or.inr ⟨call, h, hwaits⟩)
    · obtain ⟨result, hresult⟩ := Option.isSome_iff_exists.mp hreturned
      have hnext : step R options { p with subscription := s } =
          { p with subscription := s, point := .returned result } := by
        simp [step, h, hresult]
      refine .step ?_
      rw [hnext]
      refine settles_of_returned rfl ?_
      rintro p' hp' hsame batch rfl
      refine hhead p' hp' ?_
      rw [hsame]
      exact hless batch hresult

theorem settles_of_head (hR : R.Settling active) (hbatch : options.maxBatchSize ≠ 0)
    (h : p.point = .head) : Settles (step R options) (AtRest R) p := by
  -- each round takes something out of the queue, into which nothing comes meanwhile
  induction hn : R.pendingCount p.subscription using Nat.strong_induction_on generalizing p with
  | _ n ih =>
    obtain ⟨hactive, hcount⟩ := hR.called p.subscription options.maxBatchSize hbatch
    refine .step ?_
    unfold step
    rw [h]
    dsimp only
    split
    · exact settles_of_finished rfl
    · refine settles_of_reading hR rfl hactive ?_
      intro p' hp' hless
      dsimp only at hless
      rw [hcount, hn] at hless
      exact ih _ hless hp' rfl

/-- **The pump comes to rest** where a batch may be of some size: it goes through
its loop at most once for each notification that is pending, and once more. -/
theorem settles (hR : R.Settling active) (hbatch : options.maxBatchSize ≠ 0)
    (hp : ∀ call, p.point = .reading call → active call p.subscription) :
    Settles (step R options) (AtRest R) p := by
  cases hpoint : p.point with
  | head => exact settles_of_head hR hbatch hpoint
  | reading call =>
    exact settles_of_reading hR hpoint (hp call hpoint)
      fun p' hp' _ => settles_of_head hR hbatch hp'
  | returned result =>
    exact settles_of_returned hpoint fun p' hp' _ _ _ => settles_of_head hR hbatch hp'
  | finished error => exact settles_of_finished hpoint

variable (R) in
/-- The loop goes round with batches of nothing. -/
structure Spins (p : PumpLoop σ V E) : Prop where
  subscribed : p.hasSubscription = true
  isOpen : p.closed = false
  round : p.point = .head ∨ p.point = .returned (.ok []) ∨
    ∃ call, p.point = .reading call ∧ R.result call p.subscription = some (.ok [])

theorem Spins.step (h : p.Spins R) (hzero : options.maxBatchSize = 0)
    (hnothing : ∀ s, R.result (R.nextCall s) (R.readNext s 0) = some (.ok [])) :
    (p.step R options).Spins R := by
  obtain ⟨hsub, hopen, hround⟩ := h
  rcases hround with hhead | hback | ⟨call, hreading, hresult⟩
  · have hstep : p.step R options = { p with
        subscription := R.readNext p.subscription 0
        point := .reading (R.nextCall p.subscription) } := by
      simp [PumpLoop.step, hhead, hsub, hopen, hzero]
    rw [hstep]
    exact ⟨hsub, hopen, Or.inr (Or.inr ⟨_, rfl, hnothing _⟩)⟩
  · have hstep : p.step R options =
        { p with point := .head, handled := p.handled ++ [[]] } := by
      simp [PumpLoop.step, hback, hopen]
    rw [hstep]
    exact ⟨hsub, hopen, Or.inl rfl⟩
  · have hstep : p.step R options = { p with point := .returned (.ok []) } := by
      simp [PumpLoop.step, hreading, hresult]
    rw [hstep]
    exact ⟨hsub, hopen, Or.inr (Or.inl rfl)⟩

theorem not_settles (hzero : options.maxBatchSize = 0)
    (hnothing : ∀ s, R.result (R.nextCall s) (R.readNext s 0) = some (.ok []))
    (hreturned : ∀ call s, (R.result call s).isSome = true → R.waits call s = false)
    (hsubscription : p.hasSubscription = true) (hopen : p.closed = false) (h : p.point = .head) :
    ¬ Settles (step R options) (AtRest R) p := by
  refine not_settles_of_invariant (Spins R) (fun p hp => hp.step hzero hnothing) ?_
    ⟨hsubscription, hopen, Or.inl h⟩
  rintro p ⟨-, -, hround⟩ (⟨error, hfinished⟩ | ⟨call, hreading, hwaits⟩)
  · simp [hfinished] at hround
  · simp only [hreading, reduceCtorEq, PumpPoint.reading.injEq, exists_eq_left',
      false_or] at hround
    rw [hreturned call p.subscription (by rw [hround]; rfl)] at hwaits
    cases hwaits

end PumpLoop

end Pump

variable {V E : Type} (options : SubscriptionOptions)

theorem pending_eq_nil_of_no_batch (hbatch : options.maxBatchSize ≠ 0) {maxCount : Nat}
    (hcount : maxCount ≠ 0) {queue : BoundedQueue (Notification V E)}
    (hnone : ¬ batchCount options maxCount queue.pending.length ≠ 0) : queue.pending = [] := by
  unfold batchCount at hnone
  exact List.length_eq_zero_iff.mp (by omega)

theorem length_pending_take_batch {maxCount : Nat} {queue : BoundedQueue (Notification V E)}
    (hsome : batchCount options maxCount queue.pending.length ≠ 0) :
    (queue.take (batchCount options maxCount queue.pending.length)).pending.length <
      queue.pending.length := by
  have hle : batchCount options maxCount queue.pending.length ≤ queue.pending.length :=
    Nat.min_le_right _ _
  simp only [BoundedQueue.take, List.length_drop]
  omega

theorem batchCount_eq_zero (hzero : options.maxBatchSize = 0) (maxCount size : Nat) :
    batchCount options maxCount size = 0 := by
  unfold batchCount
  omega

section Calls

variable {C R : Type} {calls calls' : List C} {reader : Nat} {result : C → Option R}

theorem returned_or_reading {maxCount : C → Nat} (h : ∃ call, calls[reader]? = some call ∧
      (maxCount call = 0 → (result call).isSome = true)) :
    (calls[reader]?.bind result).isSome = true ∨
      ∃ call, calls[reader]? = some call ∧ maxCount call ≠ 0 ∧ result call = none := by
  obtain ⟨call, hcall, hcount⟩ := h
  cases hresult : result call with
  | some result => exact Or.inl (by simp [hcall, hresult])
  | none =>
    refine Or.inr ⟨call, hcall, ?_, hresult⟩
    intro hzero
    rw [hresult] at hcount
    cases hcount hzero

theorem result_of_set {call call' : C} (hcall : calls[reader]? = some call)
    (hcalls : calls' = calls.set reader call') : calls'[reader]?.bind result = result call' := by
  rw [hcalls, List.getElem?_set_self (List.getElem?_eq_some_iff.mp hcall).1]
  rfl

end Calls

/-! ## MultiplexingMonitoredItemSubscription -/

namespace ReadCall

def result (call : ReadCall V E) : Option (Except Status (List (Notification V E))) :=
  match call.point with
  | .done result => some result
  | _ => none

def waits (call : ReadCall V E) : Bool :=
  match call.point with
  | .waiting _ false => true
  | _ => false

end ReadCall

namespace Delivery

def reads : ReadInterface (Delivery V E) V E where
  readNext d maxCount := d.step options (.readNext maxCount)
  nextCall d := d.readers.length
  advance reader d := d.step options (.read reader)
  result reader d := (d.readers[reader]?).bind ReadCall.result
  waits reader d := (d.readers[reader]?).any ReadCall.waits
  pendingCount d := d.queue.pending.length

variable {d : Delivery V E} {reader : Nat}

theorem done_of_result (h : ((reads options).result reader d).isSome = true) :
    ∃ call result, d.readers[reader]? = some call ∧ call.point = .done result := by
  obtain ⟨result, hresult⟩ := Option.isSome_iff_exists.mp h
  obtain ⟨call, hcall, hdone⟩ := Option.bind_eq_some_iff.mp hresult
  cases hpoint : call.point with
  | done result' => exact ⟨call, result', hcall, hpoint⟩
  | _ => simp [ReadCall.result, hpoint] at hdone

/-- There is such a call of `ReadNext`; one that asks for nothing has returned. -/
def Called (d : Delivery V E) (reader : Nat) : Prop :=
  ∃ call, d.readers[reader]? = some call ∧ (call.maxCount = 0 → call.result.isSome = true)

def Reading (reader : Nat) (d : Delivery V E) : Prop :=
  ∃ call, d.readers[reader]? = some call ∧ call.maxCount ≠ 0 ∧ call.result = none

/-- The steps that a call at this point has before it, at most. -/
def stepsFrom (d : Delivery V E) : ReadPoint V E → Nat
  | .check => if d.isClosed || !d.queue.pending.isEmpty then 1 else 3
  | .register => 2
  | .startWait _ => 1
  | .waiting _ cancelled => if cancelled then 5 else 0
  | .release _ => 4
  | .done _ => 0

def stepsLeft (reader : Nat) (d : Delivery V E) : Nat :=
  ((d.readers[reader]?).map fun call => d.stepsFrom call.point).getD 0

section Advances

variable {options} {d d' : Delivery V E} {call : ReadCall V E}

theorem advances_of_point (hcall : d.readers[reader]? = some call) (hcount : call.maxCount ≠ 0)
    {point : ReadPoint V E} (hreaders : d'.readers = d.readers.set reader { call with point })
    (hactive : ReadCall.result { call with point } = none)
    (hless : d'.stepsFrom point < d.stepsFrom call.point)
    (hqueue : d'.queue = d.queue) :
    (reads options).Advances Reading stepsLeft reader d d' := by
  have hlt : reader < d.readers.length := (List.getElem?_eq_some_iff.mp hcall).1
  have hcall' : d'.readers[reader]? = some { call with point } := by
    rw [hreaders, List.getElem?_set_self hlt]
  refine Or.inl ⟨⟨_, hcall', hcount, hactive⟩, ?_, ?_⟩
  · simpa [stepsLeft, hcall, hcall'] using hless
  · show d'.queue.pending.length = d.queue.pending.length
    rw [hqueue]

theorem advances_of_result (hcall : d.readers[reader]? = some call)
    {result : Except Status (List (Notification V E))}
    (hreaders : d'.readers = d.readers.set reader { call with point := .done result })
    (htaken : ∀ batch, result = .ok batch →
      d'.queue.pending.length < d.queue.pending.length) :
    (reads options).Advances Reading stepsLeft reader d d' :=
  Or.inr ⟨result, result_of_set hcall hreaders, htaken⟩

theorem advances_readCheck (hbatch : options.maxBatchSize ≠ 0)
    (hcall : d.readers[reader]? = some call) (hcount : call.maxCount ≠ 0)
    (hfrom : call.point = .check) :
    (reads options).Advances Reading stepsLeft reader d (d.readCheck options reader call) := by
  dsimp only [readCheck]
  split
  · exact advances_of_result hcall rfl (by simp)
  · rename_i hopen
    rw [Bool.not_eq_true] at hopen
    split
    · rename_i hsome
      exact advances_of_result hcall rfl fun _ _ => length_pending_take_batch options hsome
    · rename_i hnone
      have hempty := pending_eq_nil_of_no_batch options hbatch hcount hnone
      split
      · exact advances_of_result hcall rfl (by simp)
      · refine advances_of_point hcall hcount rfl rfl ?_ rfl
        simp [stepsFrom, hfrom, hempty, hopen]

theorem advances_readRegister (hcall : d.readers[reader]? = some call)
    (hcount : call.maxCount ≠ 0) (hfrom : call.point = .register) :
    (reads options).Advances Reading stepsLeft reader d (d.readRegister reader call) := by
  unfold readRegister
  split
  · exact advances_of_result hcall rfl (by simp)
  · split
    · refine advances_of_point hcall hcount rfl rfl ?_ rfl
      simp [stepsFrom, hfrom]
    · -- something has come in, and a batch is there for the next check
      rename_i hsome
      rw [Bool.not_eq_true] at hsome
      refine advances_of_point hcall hcount rfl rfl ?_ rfl
      simp [stepsFrom, hfrom, setPoint, hsome]

end Advances

theorem settling (hbatch : options.maxBatchSize ≠ 0) :
    (reads (V := V) (E := E) options).Settling Reading := by
  refine ⟨?_, ?_, ?_⟩
  · intro d reader hresult
    obtain ⟨call, result, hcall, hpoint⟩ := done_of_result options hresult
    show d.read options reader = d
    simp [read, hcall, hpoint]
  · intro d maxCount hcount
    refine ⟨⟨{ maxCount }, ?_, hcount, rfl⟩, rfl⟩
    simp [reads, step, readNext, hcount]
  · intro d reader hactive
    refine ReadInterface.settles_of_advances stepsLeft ?_ ?_ hactive
    · rintro d reader ⟨call, hcall, -, hnone⟩
      simp [reads, hcall, hnone]
    · rintro d reader ⟨call, hcall, hcount, hnone⟩ hwaits
      have hwaits' : call.waits = false := by simpa [reads, hcall] using hwaits
      show (reads options).Advances Reading stepsLeft reader d (d.read options reader)
      unfold read
      rw [hcall]
      dsimp only
      cases hpoint : call.point with
      | check => exact advances_readCheck hbatch hcall hcount hpoint
      | register => exact advances_readRegister hcall hcount hpoint
      | startWait timer =>
        refine advances_of_point hcall hcount rfl rfl ?_ rfl
        simp [stepsFrom, hpoint]
      | waiting timer cancelled =>
        cases cancelled with
        | true =>
          refine advances_of_point hcall hcount rfl rfl ?_ rfl
          simp [stepsFrom, hpoint]
        | false => simp [ReadCall.waits, hpoint] at hwaits'
      | release timer =>
        -- back to the check, whatever it will find
        refine advances_of_point hcall hcount rfl rfl ?_ rfl
        simp only [stepsFrom, hpoint]
        split <;> omega
      | done result => simp [ReadCall.result, hpoint] at hnone

/-- Without a batch to take, a call that finds something pending finds it again. -/
structure Spins (reader : Nat) (d : Delivery V E) : Prop where
  isOpen : d.isClosed = false
  pending : d.queue.pending ≠ []
  unregistered : d.isRegistered = false
  round : ∃ call, d.readers[reader]? = some call ∧ (call.point = .check ∨ call.point = .register)

theorem Spins.read (h : d.Spins reader) (hzero : options.maxBatchSize = 0) :
    (d.read options reader).Spins reader := by
  obtain ⟨hopen, hpending, hwaiter, call, hcall, hpoint⟩ := h
  have hlt : reader < d.readers.length := (List.getElem?_eq_some_iff.mp hcall).1
  have hempty : d.queue.pending.isEmpty = false := by simpa using hpending
  rcases hpoint with hcheck | hregister
  · -- the batch is empty, but the queue is not
    have hread : d.read options reader = d.setPoint reader call .register := by
      simp [Delivery.read, hcall, hcheck, readCheck, hopen, batchCount_eq_zero options hzero,
        hwaiter]
    rw [hread]
    exact ⟨hopen, hpending, hwaiter, _, List.getElem?_set_self hlt, Or.inr rfl⟩
  · have hread : d.read options reader = d.setPoint reader call .check := by
      simp [Delivery.read, hcall, hregister, readRegister, hopen, hempty]
    rw [hread]
    exact ⟨hopen, hpending, hwaiter, _, List.getElem?_set_self hlt, Or.inl rfl⟩

theorem Spins.not_settles (h : d.Spins reader) (hzero : options.maxBatchSize = 0) :
    ¬ Settles ((reads options).advance reader) ((reads options).AtRest reader) d := by
  refine not_settles_of_invariant (Spins reader) (fun d hd => hd.read options hzero) ?_ h
  rintro d ⟨-, -, -, call, hcall, hpoint⟩ hrest
  rcases hpoint with hpoint | hpoint <;>
    simp [ReadInterface.AtRest, reads, hcall, ReadCall.waits, ReadCall.result, hpoint] at hrest

end Delivery

/-! ## ItemFactorySubscription -/

namespace FactoryCall

def result (call : FactoryCall V E) : Option (Except Status (List (Notification V E))) :=
  match call.point with
  | .done result => some result
  | _ => none

def isParked (call : FactoryCall V E) : Bool :=
  match call.point with
  | .parked => true
  | _ => false

end FactoryCall

namespace ItemFactory

def isParked (d : ItemFactory V E) (reader : Nat) : Bool :=
  (d.calls[reader]?).any FactoryCall.isParked

/-- A parked call goes on by itself if its wake-up is posted. -/
def reads : ReadInterface (ItemFactory V E) V E where
  readNext d maxCount := d.step options (.readNext maxCount)
  nextCall d := d.calls.length
  advance reader d :=
    if d.isParked reader && d.posted.contains reader then
      d.step options (.resume (d.posted.idxOf reader))
    else
      d.step options (.read reader)
  result reader d := (d.calls[reader]?).bind FactoryCall.result
  waits reader d := d.isParked reader && !d.posted.contains reader
  pendingCount d := d.queue.pending.length

variable {d : ItemFactory V E} {reader : Nat}

theorem done_of_result (h : ((reads options).result reader d).isSome = true) :
    ∃ call result, d.calls[reader]? = some call ∧ call.point = .done result := by
  obtain ⟨result, hresult⟩ := Option.isSome_iff_exists.mp h
  obtain ⟨call, hcall, hdone⟩ := Option.bind_eq_some_iff.mp hresult
  cases hpoint : call.point with
  | done result' => exact ⟨call, result', hcall, hpoint⟩
  | _ => simp [FactoryCall.result, hpoint] at hdone

theorem advance_eq_read {call : FactoryCall V E} (hcall : d.calls[reader]? = some call)
    (hpoint : call.point ≠ .parked) :
    (reads options).advance reader d = d.read options reader := by
  have hparked : call.isParked = false := by
    unfold FactoryCall.isParked
    split
    · exact absurd ‹_› hpoint
    · rfl
  simp [reads, isParked, hcall, hparked, step]

theorem advance_eq_resume {call : FactoryCall V E} (hcall : d.calls[reader]? = some call)
    (hparked : call.point = .parked) (hposted : reader ∈ d.posted) :
    (reads options).advance reader d = d.resume (d.posted.idxOf reader) := by
  have hyes : (d.isParked reader && d.posted.contains reader) = true := by
    simp [isParked, FactoryCall.isParked, hcall, hparked, hposted]
  simp only [reads, hyes, if_true]
  rfl

def Called (d : ItemFactory V E) (reader : Nat) : Prop :=
  ∃ call, d.calls[reader]? = some call ∧ (call.maxCount = 0 → call.result.isSome = true)

def Reading (reader : Nat) (d : ItemFactory V E) : Prop :=
  ∃ call, d.calls[reader]? = some call ∧ call.maxCount ≠ 0 ∧ call.result = none

/-- The steps that a call at this point has before it, at most, up to the next
wake-up. -/
def stepsFrom (d : ItemFactory V E) : FactoryPoint V E → Nat
  | .check => if d.closed || !d.queue.pending.isEmpty then 1 else 2
  | .park => if d.closed || !d.queue.pending.isEmpty then 8 else 1
  | .parked => 0
  | .clear => 3
  | .done _ => 0

/-- A wake-up that is posted stands for one more round. -/
def roundsLeft (reader : Nat) (d : ItemFactory V E) : Nat :=
  7 * d.posted.length + ((d.calls[reader]?).map fun call => d.stepsFrom call.point).getD 0

section Advances

variable {options} {d d' : ItemFactory V E} {call : FactoryCall V E}

theorem advances_of_point (hcall : d.calls[reader]? = some call) (hcount : call.maxCount ≠ 0)
    {point : FactoryPoint V E} (hcalls : d'.calls = d.calls.set reader { call with point })
    (hactive : FactoryCall.result { call with point } = none)
    (hless : 7 * d'.posted.length + d'.stepsFrom point <
      7 * d.posted.length + d.stepsFrom call.point)
    (hqueue : d'.queue = d.queue) :
    (reads options).Advances Reading roundsLeft reader d d' := by
  have hlt : reader < d.calls.length := (List.getElem?_eq_some_iff.mp hcall).1
  have hcall' : d'.calls[reader]? = some { call with point } := by
    rw [hcalls, List.getElem?_set_self hlt]
  refine Or.inl ⟨⟨_, hcall', hcount, hactive⟩, ?_, ?_⟩
  · simpa [roundsLeft, hcall, hcall'] using hless
  · show d'.queue.pending.length = d.queue.pending.length
    rw [hqueue]

theorem advances_of_result (hcall : d.calls[reader]? = some call)
    {result : Except Status (List (Notification V E))}
    (hcalls : d'.calls = d.calls.set reader { call with point := .done result })
    (htaken : ∀ batch, result = .ok batch →
      d'.queue.pending.length < d.queue.pending.length) :
    (reads options).Advances Reading roundsLeft reader d d' :=
  Or.inr ⟨result, result_of_set hcall hcalls, htaken⟩

theorem advances_readCheck (hbatch : options.maxBatchSize ≠ 0)
    (hcall : d.calls[reader]? = some call) (hcount : call.maxCount ≠ 0)
    (hfrom : call.point = .check) :
    (reads options).Advances Reading roundsLeft reader d (d.readCheck options reader call) := by
  dsimp only [readCheck]
  split
  · exact advances_of_result hcall rfl (by simp)
  · rename_i hopen
    rw [Bool.not_eq_true] at hopen
    split
    · rename_i hsome
      exact advances_of_result hcall rfl fun _ _ => length_pending_take_batch options hsome
    · rename_i hnone
      have hempty := pending_eq_nil_of_no_batch options hbatch hcount hnone
      split
      · exact advances_of_result hcall rfl (by simp)
      · refine advances_of_point hcall hcount rfl rfl ?_ rfl
        simp [stepsFrom, hfrom, hempty, hopen, setPoint]

theorem advances_readPark (hcall : d.calls[reader]? = some call) (hcount : call.maxCount ≠ 0)
    (hfrom : call.point = .park) :
    (reads options).Advances Reading roundsLeft reader d (d.readPark reader call) := by
  unfold readPark
  split
  · -- the wake-up is posted at once, for a check that will find something
    rename_i hready
    refine advances_of_point hcall hcount rfl rfl ?_ rfl
    simp only [stepsFrom, hfrom, hready, setPoint, List.length_append, List.length_singleton,
      if_true]
    omega
  · rename_i hidle
    refine advances_of_point hcall hcount rfl rfl ?_ rfl
    simp [stepsFrom, hfrom, setPoint, hidle]

theorem advances_resume (hcall : d.calls[reader]? = some call) (hcount : call.maxCount ≠ 0)
    (hfrom : call.point = .parked) (hposted : reader ∈ d.posted) :
    (reads options).Advances Reading roundsLeft reader d (d.resume (d.posted.idxOf reader)) := by
  have hlt : d.posted.idxOf reader < d.posted.length := List.idxOf_lt_length_of_mem hposted
  have htask : d.posted[d.posted.idxOf reader]? = some reader := List.getElem?_idxOf hposted
  unfold resume
  rw [htask]
  dsimp only
  rw [hcall]
  dsimp only
  refine advances_of_point hcall hcount rfl rfl ?_ rfl
  simp only [stepsFrom, hfrom, setPoint, List.length_eraseIdx_of_lt hlt]
  omega

end Advances

theorem settling (hbatch : options.maxBatchSize ≠ 0) :
    (reads (V := V) (E := E) options).Settling Reading := by
  refine ⟨?_, ?_, ?_⟩
  · intro d reader hresult
    obtain ⟨call, result, hcall, hpoint⟩ := done_of_result options hresult
    rw [advance_eq_read options hcall (by simp [hpoint])]
    simp [read, hcall, hpoint]
  · intro d maxCount hcount
    refine ⟨⟨{ maxCount }, ?_, hcount, rfl⟩, rfl⟩
    simp [reads, step, readNext, hcount]
  · intro d reader hactive
    refine ReadInterface.settles_of_advances roundsLeft ?_ ?_ hactive
    · rintro d reader ⟨call, hcall, -, hnone⟩
      simp [reads, hcall, hnone]
    · rintro d reader ⟨call, hcall, hcount, hnone⟩ hwaits
      cases hpoint : call.point with
      | parked =>
        have hposted : reader ∈ d.posted := by
          simpa [reads, isParked, FactoryCall.isParked, hcall, hpoint] using hwaits
        rw [advance_eq_resume options hcall hpoint hposted]
        exact advances_resume hcall hcount hpoint hposted
      | done result => simp [FactoryCall.result, hpoint] at hnone
      | check =>
        rw [advance_eq_read options hcall (by simp [hpoint])]
        simpa [read, hcall, hpoint] using advances_readCheck hbatch hcall hcount hpoint
      | park =>
        rw [advance_eq_read options hcall (by simp [hpoint])]
        simpa [read, hcall, hpoint] using advances_readPark hcall hcount hpoint
      | clear =>
        have hclear : d.read options reader = d.readClear reader call := by
          simp [read, hcall, hpoint]
        have hcheck : (d.readClear reader call).stepsFrom .check ≤ 2 := by
          show (if _ then 1 else 2) ≤ 2
          split <;> omega
        rw [advance_eq_read options hcall (by simp [hpoint]), hclear]
        refine advances_of_point hcall hcount rfl rfl ?_ rfl
        refine Nat.add_lt_add_left ?_ _
        rw [hpoint]
        exact Nat.lt_succ_of_le hcheck

/-- Without a batch to take, a call that finds something pending is woken up at
once and finds it again. -/
structure Spins (reader : Nat) (d : ItemFactory V E) : Prop where
  isOpen : d.closed = false
  pending : d.queue.pending ≠ []
  unregistered : d.readWaiter = none
  round : ∃ call, d.calls[reader]? = some call ∧ (call.point = .check ∨ call.point = .park ∨
    (call.point = .parked ∧ reader ∈ d.posted) ∨ call.point = .clear)

theorem Spins.advance (h : d.Spins reader) (hzero : options.maxBatchSize = 0) :
    Spins reader ((reads options).advance reader d) := by
  obtain ⟨hopen, hpending, hwaiter, call, hcall, hpoint⟩ := h
  have hlt : reader < d.calls.length := (List.getElem?_eq_some_iff.mp hcall).1
  -- the round: check, park with the wake-up posted at once, resume, clear the waiter
  rcases hpoint with hcheck | hpark | ⟨hparked, hposted⟩ | hclear
  · have hread : d.read options reader = d.setPoint reader call .park := by
      simp [read, hcall, hcheck, readCheck, hopen, batchCount_eq_zero options hzero, hwaiter]
    rw [advance_eq_read options hcall (by simp [hcheck]), hread]
    exact ⟨hopen, hpending, hwaiter, _, List.getElem?_set_self hlt, Or.inr (Or.inl rfl)⟩
  · have hread : d.read options reader =
        { d with posted := d.posted ++ [reader] }.setPoint reader call .parked := by
      simp [read, hcall, hpark, readPark, hpending]
    rw [advance_eq_read options hcall (by simp [hpark]), hread]
    exact ⟨hopen, hpending, hwaiter, _, List.getElem?_set_self hlt,
      Or.inr (Or.inr (Or.inl ⟨rfl, List.mem_append_right _ (List.mem_singleton_self _)⟩))⟩
  · have htask : d.posted[d.posted.idxOf reader]? = some reader := List.getElem?_idxOf hposted
    have hresume : d.resume (d.posted.idxOf reader) =
        { d with posted := d.posted.eraseIdx (d.posted.idxOf reader) }.setPoint reader call
          .clear := by
      simp only [resume, htask, hcall]
    rw [advance_eq_resume options hcall hparked hposted, hresume]
    exact ⟨hopen, hpending, hwaiter, _, List.getElem?_set_self hlt,
      Or.inr (Or.inr (Or.inr rfl))⟩
  · have hread : d.read options reader = d.readClear reader call := by
      simp [read, hcall, hclear]
    rw [advance_eq_read options hcall (by simp [hclear]), hread]
    exact ⟨hopen, hpending, rfl, _, List.getElem?_set_self hlt, Or.inl rfl⟩

theorem Spins.not_settles (h : d.Spins reader) (hzero : options.maxBatchSize = 0) :
    ¬ Settles ((reads options).advance reader) ((reads options).AtRest reader) d := by
  refine not_settles_of_invariant (Spins reader) (fun d hd => hd.advance options hzero) ?_ h
  rintro d ⟨-, -, -, call, hcall, hpoint⟩ hrest
  rcases hpoint with hpoint | hpoint | ⟨hpoint, hposted⟩ | hpoint <;>
    simp_all [ReadInterface.AtRest, reads, isParked, FactoryCall.isParked, FactoryCall.result]

end ItemFactory

/-! ## Both -/

/-- A call of either subscription that has something pending before it and no
batch to take. -/
def Delivery.blockedCall : Delivery V E where
  queue := { pending := [.overflowMark] }
  readers := [{ maxCount := 1 }]

def ItemFactory.blockedCall : ItemFactory V E where
  queue := { pending := [.overflowMark] }
  calls := [{ maxCount := 1 }]

theorem Delivery.blockedCall_spins : (blockedCall : Delivery V E).Spins 0 :=
  ⟨rfl, by simp [blockedCall], rfl, _, rfl, Or.inl rfl⟩

theorem ItemFactory.blockedCall_spins : (blockedCall : ItemFactory V E).Spins 0 :=
  ⟨rfl, by simp [blockedCall], rfl, _, rfl, Or.inl rfl⟩

theorem Delivery.reads_nothing (d : Delivery V E) :
    (reads options).result ((reads options).nextCall d) ((reads options).readNext d 0) =
      some (.ok []) := by
  simp [reads, step, readNext, ReadCall.result]

theorem ItemFactory.reads_nothing (d : ItemFactory V E) :
    (reads options).result ((reads options).nextCall d) ((reads options).readNext d 0) =
      some (.ok []) := by
  simp [reads, step, readNext, FactoryCall.result]

theorem Delivery.not_waits_of_result (reader : Nat) (d : Delivery V E)
    (h : ((reads options).result reader d).isSome = true) :
    (reads options).waits reader d = false := by
  obtain ⟨call, result, hcall, hpoint⟩ := done_of_result options h
  simp [reads, hcall, ReadCall.waits, hpoint]

theorem ItemFactory.not_waits_of_result (reader : Nat) (d : ItemFactory V E)
    (h : ((reads options).result reader d).isSome = true) :
    (reads options).waits reader d = false := by
  obtain ⟨call, result, hcall, hpoint⟩ := done_of_result options h
  simp [reads, isParked, hcall, FactoryCall.isParked, hpoint]

/-- **Readers never spin**, exactly. From every state, every call of `ReadNext` on
either subscription returns or waits for a new notification after finitely many
steps of its own, and so does every pump over such a subscription, if and only if
`max_batch_size` is not 0. -/
theorem readers_settle_iff :
    ((∀ (d : Delivery V E) (reader : Nat), d.Called reader →
        Settles ((Delivery.reads options).advance reader)
          ((Delivery.reads options).AtRest reader) d) ↔ options.maxBatchSize ≠ 0) ∧
    ((∀ (d : ItemFactory V E) (reader : Nat), d.Called reader →
        Settles ((ItemFactory.reads options).advance reader)
          ((ItemFactory.reads options).AtRest reader) d) ↔ options.maxBatchSize ≠ 0) ∧
    ((∀ p : PumpLoop (Delivery V E) V E,
        (∀ reader, p.point = .reading reader → Delivery.Reading reader p.subscription) →
          Settles (PumpLoop.step (Delivery.reads options) options)
            (PumpLoop.AtRest (Delivery.reads options)) p) ↔ options.maxBatchSize ≠ 0) ∧
    ((∀ p : PumpLoop (ItemFactory V E) V E,
        (∀ reader, p.point = .reading reader → ItemFactory.Reading reader p.subscription) →
          Settles (PumpLoop.step (ItemFactory.reads options) options)
            (PumpLoop.AtRest (ItemFactory.reads options)) p) ↔ options.maxBatchSize ≠ 0) := by
  refine ⟨⟨?_, ?_⟩, ⟨?_, ?_⟩, ⟨?_, ?_⟩, ?_, ?_⟩
  · intro hall hzero
    exact Delivery.blockedCall_spins.not_settles options hzero
      (hall _ 0 ⟨_, rfl, fun hno => by cases hno⟩)
  · intro hbatch d reader hcalled
    exact (Delivery.settling options hbatch).settles_of (returned_or_reading hcalled)
  · intro hall hzero
    exact ItemFactory.blockedCall_spins.not_settles options hzero
      (hall _ 0 ⟨_, rfl, fun hno => by cases hno⟩)
  · intro hbatch d reader hcalled
    exact (ItemFactory.settling options hbatch).settles_of (returned_or_reading hcalled)
  · intro hall hzero
    exact PumpLoop.not_settles hzero (Delivery.reads_nothing options)
      (Delivery.not_waits_of_result options) rfl rfl rfl
      (hall { subscription := {} } (fun _ hno => by cases hno))
  · exact fun hbatch p hp => PumpLoop.settles (Delivery.settling options hbatch) hbatch hp
  · intro hall hzero
    exact PumpLoop.not_settles hzero (ItemFactory.reads_nothing options)
      (ItemFactory.not_waits_of_result options) rfl rfl rfl
      (hall { subscription := {} } (fun _ hno => by cases hno))
  · exact fun hbatch p hp => PumpLoop.settles (ItemFactory.settling options hbatch) hbatch hp

def noBatch : SubscriptionOptions := { maxBatchSize := 0 }

def Delivery.readPending : List (Delivery.Event Bool Unit) :=
  [.push (.dataChange 5 1 { value := some true }), .readNext 10]

def ItemFactory.readPending : List (ItemFactory.Event Bool Unit) :=
  [.addItem {}, .create 0 true, .deliver 0 (.value { value := some true }), .readNext 10]

/-- In either run the call never returns and never waits, and neither does the
loop of a pump that has just been started on the subscription. -/
theorem noBatch_spins :
    (¬ Settles ((Delivery.reads noBatch).advance 0) ((Delivery.reads noBatch).AtRest 0)
        ((Delivery.system noBatch).run Delivery.readPending)) ∧
      (¬ Settles ((ItemFactory.reads noBatch).advance 0) ((ItemFactory.reads noBatch).AtRest 0)
        ((ItemFactory.system noBatch).run ItemFactory.readPending)) ∧
      (¬ Settles (PumpLoop.step (Delivery.reads noBatch) noBatch)
        (PumpLoop.AtRest (Delivery.reads noBatch))
        { subscription := (Delivery.system (V := Bool) (E := Unit) noBatch).run [] }) ∧
      ¬ Settles (PumpLoop.step (ItemFactory.reads noBatch) noBatch)
        (PumpLoop.AtRest (ItemFactory.reads noBatch))
        { subscription := (ItemFactory.system (V := Bool) (E := Unit) noBatch).run [] } := by
  refine ⟨?_, ?_, ?_, ?_⟩
  · refine Delivery.Spins.not_settles noBatch ⟨rfl, ?_, rfl, _, rfl, Or.inl rfl⟩ rfl
    exact List.cons_ne_nil _ _
  · refine ItemFactory.Spins.not_settles noBatch ⟨rfl, ?_, rfl, _, rfl, Or.inl rfl⟩ rfl
    exact List.cons_ne_nil _ _
  · exact PumpLoop.not_settles rfl (Delivery.reads_nothing noBatch)
      (Delivery.not_waits_of_result noBatch) rfl rfl rfl
  · exact PumpLoop.not_settles rfl (ItemFactory.reads_nothing noBatch)
      (ItemFactory.not_waits_of_result noBatch) rfl rfl rfl

end ScadaCore.Scada
