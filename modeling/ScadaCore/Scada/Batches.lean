import ScadaCore.Scada.Overflow

/-!
# Scada.Batches — what the calls of ReadNext return

`ReadNext` hands out what is pending in batches. For both subscriptions the
batches returned so far, in the order in which they were returned, are the front
part of what went into the queue: no notification is lost, repeated or overtaken
while several calls wait, are resumed and take their share. A batch is what a
call has at its end when it did not have it before, read off the states of the
call and not off the queue.
-/

namespace ScadaCore.Scada

open MonitoredItem

variable {V E : Type} (options : SubscriptionOptions)

theorem batch_sized {options : SubscriptionOptions} {maxCount : Nat}
    {pending : List (Notification V E)}
    (hcount : batchCount options maxCount pending.length ≠ 0) :
    pending.take (batchCount options maxCount pending.length) ≠ [] ∧
      (pending.take (batchCount options maxCount pending.length)).length ≤
        min maxCount options.maxBatchSize := by
  have hlength : (pending.take (batchCount options maxCount pending.length)).length =
      batchCount options maxCount pending.length := by
    rw [List.length_take]
    exact Nat.min_eq_left (Nat.min_le_right _ _)
  constructor
  · intro hnil
    rw [hnil] at hlength
    exact hcount hlength.symm
  · rw [hlength]
    exact Nat.min_le_left _ _

section Calls

variable {C B : Type} {batch? : C → Option B} {calls : List C} {reader : Nat} {call : C}

theorem not_returned_of_set (hnone : batch? call = none) :
    (if (calls[reader]?.bind batch?).isSome then []
      else ((calls.set reader call)[reader]?.bind batch?).toList) = [] := by
  rw [List.getElem?_set_self']
  cases calls[reader]? <;> simp [hnone]

theorem returned_of_set {before : C} {batch : B} (hcall : calls[reader]? = some before)
    (hnone : batch? before = none) (hbatch : batch? call = some batch) :
    (if (calls[reader]?.bind batch?).isSome then []
      else ((calls.set reader call)[reader]?.bind batch?).toList) = [batch] := by
  rw [List.getElem?_set_self (List.getElem?_eq_some_iff.mp hcall).1]
  simp [hcall, hnone, hbatch]

end Calls

/-! ## MultiplexingMonitoredItemSubscription -/

def ReadCall.batch? (call : ReadCall V E) : Option (Nat × List (Notification V E)) :=
  match call.point with
  | .done (.ok batch) => some (call.maxCount, batch)
  | _ => none

namespace Delivery

/-- The batches returned in a step: by a new call, or by the call that takes its
step, if it had not returned before. -/
def batches (d : Delivery V E) (e : Event V E) : List (Nat × List (Notification V E)) :=
  match e with
  | .readNext _ => ((d.step options e).readers[d.readers.length]?.bind ReadCall.batch?).toList
  | .read reader =>
    if (d.readers[reader]?.bind ReadCall.batch?).isSome then []
    else ((d.step options e).readers[reader]?.bind ReadCall.batch?).toList
  | _ => []

theorem batches_readNext (d : Delivery V E) (maxCount : Nat) :
    d.batches options (.readNext maxCount) = if maxCount = 0 then [(0, [])] else [] := by
  simp only [batches, step, readNext]
  rw [List.getElem?_append_right (Nat.le_refl _), Nat.sub_self]
  split
  · rename_i hzero
    simp [ReadCall.batch?, hzero]
  · simp [ReadCall.batch?]

/-- What the readers of the subscription take out of its queue is what they return. -/
def queueBatches : (queueing (V := V) (E := E) options).Batches where
  batches := batches options
  limit maxCount := min maxCount options.maxBatchSize
  batches_step := by
    intro d e
    cases e with
    | read reader =>
      have hnone : d.arrivals (.read reader) = [] := by simp [arrivals]
      have heffect := read_effect options d reader
      simp only [queueing, system, batches, step, hnone]
      generalize d.read options reader = d' at heffect ⊢
      cases heffect with
      | stay =>
        refine Or.inl ⟨?_, Or.inl rfl⟩
        cases d.readers[reader]?.bind ReadCall.batch? <;> simp
      | move call point hcall hactive hfrom hto hbatch =>
        have hnone : ReadCall.batch? { call with point } = none := by
          unfold ReadCall.batch?
          split
          · rename_i batch heq
            exact absurd heq (hbatch batch)
          · rfl
        exact Or.inl ⟨by simp [setPoint, not_returned_of_set hnone], Or.inl rfl⟩
      | register | start | release =>
        refine Or.inl ⟨?_, Or.inl rfl⟩
        simp only [setPoint]
        rw [not_returned_of_set rfl]
        simp
      | deliver call count hcall hfrom hcount hsome =>
        subst hcount
        refine Or.inr ⟨call.maxCount, _, ?_, trivial, rfl, batch_sized hsome⟩
        exact returned_of_set hcall (by simp [ReadCall.batch?, hfrom]) rfl
    | readNext maxCount =>
      refine Or.inl ⟨?_, ?_⟩
      · show ∀ entry ∈ d.batches options (.readNext maxCount), entry = (0, [])
        rw [batches_readNext]
        split <;> simp
      · exact (queue_step_of_ne_read options d (by simp)).imp_right (·.2.2)
    | _ =>
      refine Or.inl ⟨by simp [batches], ?_⟩
      exact (queue_step_of_ne_read options d (by simp)).imp_right (·.2.2)

end Delivery

/-! ## ItemFactorySubscription -/

def FactoryCall.batch? (call : FactoryCall V E) : Option (Nat × List (Notification V E)) :=
  match call.point with
  | .done (.ok batch) => some (call.maxCount, batch)
  | _ => none

namespace ItemFactory

def batches (d : ItemFactory V E) (e : Event V E) : List (Nat × List (Notification V E)) :=
  match e with
  | .readNext _ => ((d.step options e).calls[d.calls.length]?.bind FactoryCall.batch?).toList
  | .read reader =>
    if (d.calls[reader]?.bind FactoryCall.batch?).isSome then []
    else ((d.step options e).calls[reader]?.bind FactoryCall.batch?).toList
  | _ => []

theorem batches_readNext (d : ItemFactory V E) (maxCount : Nat) :
    d.batches options (.readNext maxCount) = if maxCount = 0 then [(0, [])] else [] := by
  simp only [batches, step, readNext]
  rw [List.getElem?_append_right (Nat.le_refl _), Nat.sub_self]
  split
  · rename_i hzero
    simp [FactoryCall.batch?, hzero]
  · simp [FactoryCall.batch?]

def queueBatches : (queueing (V := V) (E := E) options).Batches where
  batches := batches options
  limit maxCount := min maxCount options.maxBatchSize
  batches_step := by
    intro d e
    cases e with
    | read reader =>
      have hnone : d.arrivals (.read reader) = [] := by simp [arrivals]
      have heffect := read_effect options d reader
      simp only [queueing, system, batches, step, hnone]
      rw [show (d.read options reader).calls = (d.read options reader).desk.calls from rfl,
        show (d.read options reader).queue = (d.read options reader).desk.queue from rfl]
      generalize (d.read options reader).desk = k at heffect ⊢
      cases heffect with
      | quiet =>
        refine Or.inl ⟨?_, Or.inl rfl⟩
        simp only [desk]
        cases d.calls[reader]?.bind FactoryCall.batch? <;> simp
      | finish | goPark | post | store | clear =>
        refine Or.inl ⟨?_, Or.inl rfl⟩
        simp only [Desk.setPoint, desk]
        rw [not_returned_of_set rfl]
        simp
      | take reader call count hcall hfrom hcount hsome =>
        subst hcount
        refine Or.inr ⟨call.maxCount, _, ?_, trivial, rfl, batch_sized hsome⟩
        exact returned_of_set hcall (by simp [FactoryCall.batch?, hfrom]) rfl
    | readNext maxCount =>
      refine Or.inl ⟨?_, ?_⟩
      · show ∀ entry ∈ d.batches options (.readNext maxCount), entry = (0, [])
        rw [batches_readNext]
        split <;> simp
      · exact (queue_step_of_ne_read options d (by simp)).imp_right (·.2.2)
    | _ =>
      refine Or.inl ⟨by simp [batches], ?_⟩
      exact (queue_step_of_ne_read options d (by simp)).imp_right (·.2.2)

end ItemFactory

/-! ## Both -/

/-- **Queue semantics of ReadNext.** For both subscriptions and every run: while
the subscription is open, the batches returned so far and what is pending are the
notifications that were accepted, with the report of an overflow at its place, in
the order of their arrival; no batch has more than `max_count` or
`max_batch_size` entries, and only one for `max_count = 0` has none; and there is
never more than one entry pending past `max_pending_notifications`. -/
theorem readNext_in_order (es : List (Delivery.Event V E)) (fs : List (ItemFactory.Event V E)) :
    ((((Delivery.system options).run es).isClosed = false →
        ((Delivery.system options).collect (Delivery.batches options) es).flatMap Prod.snd ++
            ((Delivery.system options).run es).queue.pending =
          (Delivery.system options).collect (fun d e => d.queue.admitted
            options.maxPendingNotifications .overflowMark (d.arrivals e)) es) ∧
      (∀ maxCount batch,
        (maxCount, batch) ∈ (Delivery.system options).collect (Delivery.batches options) es →
          (batch = [] → maxCount = 0) ∧ batch.length ≤ min maxCount options.maxBatchSize) ∧
      ((Delivery.system options).run es).queue.pending.length ≤
        options.maxPendingNotifications + 1) ∧
    ((((ItemFactory.system options).run fs).closed = false →
        ((ItemFactory.system options).collect (ItemFactory.batches options) fs).flatMap Prod.snd ++
            ((ItemFactory.system options).run fs).queue.pending =
          (ItemFactory.system options).collect (fun d e => d.queue.admitted
            options.maxPendingNotifications .overflowMark (d.arrivals e)) fs) ∧
      (∀ maxCount batch,
        (maxCount, batch) ∈ (ItemFactory.system options).collect (ItemFactory.batches options) fs →
          (batch = [] → maxCount = 0) ∧ batch.length ≤ min maxCount options.maxBatchSize) ∧
      ((ItemFactory.system options).run fs).queue.pending.length ≤
        options.maxPendingNotifications + 1) := by
  refine ⟨⟨?_, ?_, ?_⟩, ?_, ?_, ?_⟩
  · exact (Delivery.queueBatches options).fifo
  · intro maxCount batch hmem
    exact ((Delivery.queueBatches options).sizes hmem).symm
  · exact ((Delivery.queueing options).room_run es).length_le
  · exact (ItemFactory.queueBatches options).fifo
  · intro maxCount batch hmem
    exact ((ItemFactory.queueBatches options).sizes hmem).symm
  · exact ((ItemFactory.queueing options).room_run fs).length_le

end ScadaCore.Scada
