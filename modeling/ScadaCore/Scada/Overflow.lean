import ScadaCore.Scada.Delivery
import ScadaCore.Scada.ItemFactory

/-!
# Scada.Overflow — what a reader learns of notifications that were dropped

Both subscriptions keep what the reader has not taken yet in a `BoundedQueue`,
and both remember for good that they have reported an overflow. Each is a system
with a queue in the sense of the library: `Delivery.queueing` and
`ItemFactory.queueing` say which step offers what. So the reader of either gets
what was accepted, with the report in its place, and a gap in it is reported if
and only if nothing has been accepted since the one report.
-/

namespace ScadaCore.Scada

open MonitoredItem

variable {V E : Type} (options : SubscriptionOptions)

def Delivery.queueing :
    BoundedQueue.Queueing (Delivery.system (V := V) (E := E) options)
      options.maxPendingNotifications (.overflowMark : Notification V E) where
  queue d := d.queue
  arrivals := arrivals
  closed := isClosed
  queue_init := rfl
  queue_step := queue_step options
  closed_step := isClosed_step options

def ItemFactory.queueing :
    BoundedQueue.Queueing (ItemFactory.system (V := V) (E := E) options)
      options.maxPendingNotifications (.overflowMark : Notification V E) where
  queue d := d.queue
  arrivals := arrivals
  closed := closed
  queue_init := rfl
  queue_step := queue_step options
  closed_step := closed_step options

/-- **Overflows, exactly.** For both subscriptions: while it is open, what its
readers were given and what is pending are the notifications accepted, with the
report of an overflow at the place where it was made. In a run every drop has a
report between the last notification accepted before it and the first one accepted
after it, if and only if every notification that is dropped without a report of
its own finds nothing accepted since the report. -/
theorem overflow_reported_iff (es : List (Delivery.Event V E)) (fs : List (ItemFactory.Event V E)) :
    ((Delivery.system options).Always
        (fun d => d.isClosed = false → d.queue.Faithful .overflowMark) es ∧
      ((Delivery.system options).Always (fun d => BoundedQueue.GapsReported d.queue.log) es ↔
        (Delivery.system options).Meets (fun d e => BoundedQueue.ReportsAll
          options.maxPendingNotifications .overflowMark d.queue (d.arrivals e)) es)) ∧
    ((ItemFactory.system options).Always
        (fun d => d.closed = false → d.queue.Faithful .overflowMark) fs ∧
      ((ItemFactory.system options).Always (fun d => BoundedQueue.GapsReported d.queue.log) fs ↔
        (ItemFactory.system options).Meets (fun d e => BoundedQueue.ReportsAll
          options.maxPendingNotifications .overflowMark d.queue (d.arrivals e)) fs)) :=
  ⟨⟨(Delivery.queueing options).always_faithful es,
      (Delivery.queueing options).always_gapsReported_iff es⟩,
    (ItemFactory.queueing options).always_faithful fs,
      (ItemFactory.queueing options).always_gapsReported_iff fs⟩

def roomForOne : SubscriptionOptions := { maxPendingNotifications := 1 }

/-- The queue overflows, the reader takes all there is, and the queue overflows
again. -/
def Delivery.overflowsTwice : List (Delivery.Event Bool Unit) :=
  let sample := .push (.dataChange 5 1 { value := some true })
  [sample, sample, .readNext 10, .read 0, sample, sample]

def ItemFactory.overflowsTwice : List (ItemFactory.Event Bool Unit) :=
  let sample := .deliver 0 (.value { value := some true })
  [.addItem {}, .create 0 true, sample, sample, .readNext 10, .read 0, sample, sample]

/-- In either run the log ends with a notification that was accepted after the
report and one that was dropped: the second gap is not reported. -/
theorem second_gap_unreported :
    ¬ (Delivery.system roomForOne).Always (fun d => BoundedQueue.GapsReported d.queue.log)
        Delivery.overflowsTwice ∧
      ¬ (ItemFactory.system roomForOne).Always (fun d => BoundedQueue.GapsReported d.queue.log)
        ItemFactory.overflowsTwice := by
  constructor
  · intro halways
    let n : Notification Bool Unit := .dataChange 1 0 { value := some true }
    exact BoundedQueue.not_gapsReported_of_accepted_dropped [.accepted n, .dropped n, .marked] n n
      (halways _ (List.prefix_refl _))
  · intro halways
    let n : Notification Bool Unit := .dataChange 1 0 { value := some true }
    exact BoundedQueue.not_gapsReported_of_accepted_dropped [.accepted n, .dropped n, .marked] n n
      (halways _ (List.prefix_refl _))

end ScadaCore.Scada
