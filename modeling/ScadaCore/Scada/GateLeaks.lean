import ScadaCore.Scada.Delivery

/-!
# Scada.GateLeaks — what is queued while the serving gate is blocked

Once a subscription has been swept, its client has been told that the gate is
blocked, and nothing Good should follow until delivery is allowed again. Three of
the four places that queue something are safe by themselves: a sweep queues the
status of its `SetBlocked`, a failure of a backend never queues a Good one, and
`PushNotification` replaces the status while the gate is blocked. The fourth is
`PushNotification` while the gate is open. `SetBlocked` does not make sure that the
sweeps run while the gate is blocked: it calls the sweepers after it has released the
lock of the gate, and `SetAllowed` can be faster.
-/

namespace ScadaCore.Scada

open MonitoredItem

namespace Status

theorem not_good_ofCode {c : StatusCode} (h : c.isBad = true) : (ofCode c).good = false := by
  have hcode : c.getSeverity = 2 := eq_of_beq h
  have hstatus : (ofCode c).severity.toNat = 2 := by
    rw [severity_ofCode, hcode]
    rfl
  apply Bool.eq_false_iff.mpr
  intro hgood
  rw [show (ofCode c).severity = 0 from eq_of_beq hgood] at hstatus
  cases hstatus

end Status

namespace MonitoredItem.Notification

variable {V E : Type}

theorem not_isGood_withStatus {status : StatusCode} (h : status.isBad = true)
    (n : Notification V E) : (n.withStatus status).isGood = false := by
  cases n with
  | dataChange itemId clientHandle value =>
    exact Bool.eq_false_iff.mpr (StatusCode.not_isGood_of_isBad h)
  | event itemId clientHandle status' payload
  | itemStatus itemId clientHandle status' => exact Status.not_good_ofCode h
  | overflow status' => rfl

end MonitoredItem.Notification

namespace Delivery

variable {V E : Type} (options : SubscriptionOptions)

/-- Nothing Good has been appended between a sweep and the next `SetAllowed`. -/
def NoLeak (d : Delivery V E) : Prop := ∀ n ∈ d.appended, n.isGood = false

def Event.blockedWith : Event V E → Option StatusCode
  | .setBlocked status => some status
  | _ => none

def Event.isSweep : Event V E → Bool
  | .sweep _ => true
  | _ => false

/-- `SetBlocked` is called with Bad codes. -/
abbrev BadCodes (_ : Delivery V E) (e : Event V E) : Prop :=
  ∀ status ∈ e.blockedWith, status.isBad = true

/-- What is pushed after a sweep while the gate is open is not Good. -/
def NoLiveSample (d : Delivery V E) : Event V E → Prop
  | .push notification =>
    d.swept = true → d.gate.allowed = true → d.isClosed = false →
      d.queue.isFull options.maxPendingNotifications = false → notification.isGood = false
  | _ => True

/-- No sweep runs after `SetAllowed` has opened the gate again. -/
abbrev SweepsWhileBlocked (d : Delivery V E) (e : Event V E) : Prop :=
  e.isSweep = true → d.gate.allowed = false

/-! ## The gate -/

/-- The gate and the calls of its sweepers stay as they are. -/
structure SameGate (d d' : Delivery V E) : Prop where
  gate : d'.gate = d.gate
  sweeps : d'.sweeps = d.sweeps
  swept : d'.swept = d.swept

variable {d : Delivery V E} {e : Event V E}

theorem Frame.sameGate {d' : Delivery V E} (h : Frame d d') : SameGate d d' :=
  ⟨h.gate, h.sweeps, h.swept⟩

theorem runControl_sameGate (d : Delivery V E) (e : Multiplexing.Event) :
    SameGate d (d.runControl options e) := by
  unfold runControl
  dsimp only
  split
  · split
    · exact ⟨rfl, rfl, rfl⟩
    · -- `Close` only empties the queue and wakes the reader
      exact ⟨(wake_frame _).1.gate, (wake_frame _).1.sweeps, (wake_frame _).1.swept⟩
  · rename_i handler
    have hall := (enqueueLocked_all_frame options
      { d with control := d.control.step (.backendFailed handler) } (d.outages handler)).sameGate
    exact ⟨hall.gate, hall.sweeps, hall.swept⟩
  · exact ⟨rfl, rfl, rfl⟩

theorem pushNotification_frame (d : Delivery V E) (n : Notification V E) :
    Frame d (d.pushNotification options n) := by
  unfold pushNotification
  split
  · exact .refl d
  · exact enqueueLocked_frame options d _

theorem sweepBlocked_frame (d : Delivery V E) (status : StatusCode) :
    Frame d (d.sweepBlocked options status) := by
  unfold sweepBlocked
  split
  · exact .refl d
  · exact (sweepItems_spec options status _ d).2.1.trans (wake_frame _).1

/-- The status of the gate is Bad, and so are those of the sweeps to come. -/
structure GateBad (d : Delivery V E) : Prop where
  status : d.gate.blockedStatus.isBad = true
  sweeps : ∀ status ∈ d.sweeps, status.isBad = true

theorem GateBad.of_sameGate {d' : Delivery V E} (h : GateBad d) (hsame : SameGate d d') :
    GateBad d' :=
  ⟨hsame.gate ▸ h.status, hsame.sweeps ▸ h.sweeps⟩

theorem gateBad_init : GateBad ({} : Delivery V E) := by
  refine ⟨?_, fun status hno => by cases hno⟩
  change StatusCode.bad.isBad = true
  decide

theorem gateBad_step (h : GateBad d) (hbad : BadCodes d e) : GateBad (d.step options e) := by
  cases e with
  | control e => exact h.of_sameGate (runControl_sameGate options d e)
  | push n => exact h.of_sameGate (pushNotification_frame options d n).sameGate
  | setBlocked status =>
    refine ⟨hbad status rfl, ?_⟩
    intro status' hmem
    rcases List.mem_append.mp hmem with hold | hnew
    · exact h.sweeps status' hold
    · rw [List.mem_singleton.mp hnew]
      exact hbad status rfl
  | sweep index =>
    dsimp only [step, sweep]
    split
    · exact h
    · refine ⟨?_, fun status hmem => h.sweeps status (List.mem_of_mem_eraseIdx hmem)⟩
      change (d.sweepBlocked options _).gate.blockedStatus.isBad = true
      rw [(sweepBlocked_frame options d _).gate]
      exact h.status
  | setAllowed | readNext maxCount => exact ⟨h.status, h.sweeps⟩
  | read reader => exact h.of_sameGate (read_spec options d reader).2.1.sameGate

/-! ## What is appended -/

theorem appended_enqueueLocked (d : Delivery V E) (n : Notification V E) :
    (d.enqueueLocked options n).appended =
      if d.queue.isFull options.maxPendingNotifications = false ∧ d.swept = true then
        d.appended ++ [n]
      else d.appended := by
  unfold enqueueLocked
  cases hfull : d.queue.isFull options.maxPendingNotifications with
  | true => rfl
  | false =>
    rw [if_neg Bool.false_ne_true, (wake_frame _).2.2]
    simp [append]

theorem NoLeak.enqueueLocked (h : NoLeak d) {n : Notification V E}
    (hn : d.queue.isFull options.maxPendingNotifications = false → d.swept = true →
      n.isGood = false) : NoLeak (d.enqueueLocked options n) := by
  unfold NoLeak
  rw [appended_enqueueLocked]
  split
  · rename_i hboth
    intro n' hmem
    rcases List.mem_append.mp hmem with hold | hnew
    · exact h n' hold
    · rw [List.mem_singleton.mp hnew]
      exact hn hboth.1 hboth.2
  · exact h

theorem NoLeak.enqueueLocked_all (h : NoLeak d) {ns : List (Notification V E)}
    (hns : ∀ n ∈ ns, n.isGood = false) : NoLeak (ns.foldl (Delivery.enqueueLocked options) d) := by
  induction ns generalizing d with
  | nil => exact h
  | cons n ns ih =>
    have hfirst : NoLeak (d.enqueueLocked options n) :=
      h.enqueueLocked options fun _ _ => hns n List.mem_cons_self
    exact ih hfirst fun n' hmem => hns n' (List.mem_cons_of_mem n hmem)

theorem NoLeak.sweepItems {status : StatusCode} (hbad : status.isBad = true)
    (entries : List ((_ : Nat) × Item)) (h : NoLeak d) :
    NoLeak (d.sweepItems options status entries) := by
  induction entries generalizing d with
  | nil => exact h
  | cons entry rest ih =>
    unfold Delivery.sweepItems
    split
    · unfold NoLeak
      rw [(queue_drop_all d _).2.2.2.2]
      exact h
    · refine ih ?_
      intro n hmem
      dsimp only [append] at hmem
      split at hmem
      · rcases List.mem_append.mp hmem with hold | hnew
        · exact h n hold
        · rw [List.mem_singleton.mp hnew]
          exact Status.not_good_ofCode hbad
      · exact h n hmem

theorem NoLeak.wake (h : NoLeak d) : NoLeak d.wake := by
  unfold NoLeak
  rw [(wake_frame d).2.2]
  exact h

theorem not_isGood_outages {handler : Nat} : ∀ n ∈ d.outages handler, n.isGood = false := by
  intro n hmem
  unfold outages at hmem
  split at hmem
  · cases hmem
  · rename_i pump status hposted
    split at hmem
    · obtain ⟨entry, -, hentry⟩ := List.mem_filterMap.mp hmem
      unfold outage at hentry
      split at hentry
      · cases hentry
        change Status.good (if status.good then _ else status) = false
        split
        · decide
        · exact Bool.eq_false_iff.mpr ‹_›
      · cases hentry
    · cases hmem

theorem isGood_remap (d : Delivery V E) (n : Notification V E) : (d.remap n).isGood = n.isGood := by
  cases n <;> rfl

theorem isGood_prepared (h : GateBad d) (n : Notification V E) :
    (d.prepared n).isGood = (d.gate.allowed && n.isGood) := by
  unfold prepared
  cases hallowed : d.gate.allowed with
  | true => simp [isGood_remap]
  | false => simp [Notification.not_isGood_withStatus h.status]

theorem noLeak_step (hgate : GateBad d) (h : NoLeak d) (hlive : NoLiveSample options d e) :
    NoLeak (d.step options e) := by
  cases e with
  | control e =>
    dsimp only [step, runControl]
    split
    · split
      · exact h
      · exact NoLeak.wake h
    · rename_i handler
      have hcontrol : NoLeak { d with control := d.control.step (.backendFailed handler) } := h
      exact hcontrol.enqueueLocked_all options not_isGood_outages
    · exact h
  | push n =>
    dsimp only [step, pushNotification]
    split
    · exact h
    · rename_i hopen
      refine h.enqueueLocked options ?_
      intro hroom hswept
      rw [isGood_prepared hgate]
      cases hallowed : d.gate.allowed with
      | true => exact hlive hswept hallowed (Bool.eq_false_iff.mpr hopen) hroom
      | false => rfl
  | sweep index =>
    dsimp only [step, sweep]
    split
    · exact h
    · rename_i status hsweep
      have hbad : status.isBad = true := hgate.sweeps status (List.mem_of_getElem? hsweep)
      change NoLeak (d.sweepBlocked options status)
      unfold sweepBlocked
      split
      · exact h
      · exact (h.sweepItems options hbad _).wake
  | setBlocked status => exact h
  | setAllowed => exact h
  | readNext maxCount => exact h
  | read reader =>
    have happended : (d.step options (.read reader)).appended = d.appended :=
      (read_spec options d reader).2.2
    unfold NoLeak
    rw [happended]
    exact h

theorem leak_step (hgate : GateBad d) (hlive : ¬ NoLiveSample options d e) :
    ¬ NoLeak (d.step options e) := by
  intro h
  cases e with
  | push n =>
    refine hlive ?_
    intro hswept hallowed hopen hroom
    have hmem : d.prepared n ∈ (d.step options (.push n)).appended := by
      simp [step, pushNotification, hopen, appended_enqueueLocked, hroom, hswept]
    have hprepared := h _ hmem
    rwa [isGood_prepared hgate, hallowed, Bool.true_and] at hprepared
  | _ => exact hlive trivial

theorem blocked_of_swept_step (h : d.swept = true → d.gate.allowed = false)
    (hsweeps : SweepsWhileBlocked d e) :
    (d.step options e).swept = true → (d.step options e).gate.allowed = false := by
  cases e with
  | control e =>
    have hsame := runControl_sameGate options d e
    change (d.runControl options e).swept = true → (d.runControl options e).gate.allowed = false
    rwa [hsame.swept, hsame.gate]
  | push n =>
    have hframe := pushNotification_frame options d n
    change (d.pushNotification options n).swept = true →
      (d.pushNotification options n).gate.allowed = false
    rwa [hframe.swept, hframe.gate]
  | setBlocked status => exact fun _ => rfl
  | sweep index =>
    intro _
    dsimp only [step, sweep]
    split
    · exact hsweeps rfl
    · change (d.sweepBlocked options _).gate.allowed = false
      rw [(sweepBlocked_frame options d _).gate]
      exact hsweeps rfl
  | setAllowed =>
    intro hswept
    cases hswept
  | readNext maxCount => exact h
  | read reader =>
    have hframe := (read_spec options d reader).2.1
    change (d.read options reader).swept = true → (d.read options reader).gate.allowed = false
    rwa [hframe.swept, hframe.gate]

/-! ## Runs -/

theorem noLiveSample_of_sweepsWhileBlocked {es : List (Event V E)}
    (h : (system options).Meets SweepsWhileBlocked es) :
    (system options).Meets (NoLiveSample options) es := by
  intro pre e hpre
  have hblocked : ((system options).run pre).swept = true →
      ((system options).run pre).gate.allowed = false := by
    refine (system options).invariant_of_meets
      (fun d => d.swept = true → d.gate.allowed = false) SweepsWhileBlocked
      (fun hswept => by cases hswept) (fun d e hd => blocked_of_swept_step options hd) ?_
    exact Lts.System.meets_of_prefix (system options) h
      ((List.prefix_append pre [e]).trans hpre)
  cases e with
  | push n =>
    intro hswept hallowed
    rw [hblocked hswept] at hallowed
    cases hallowed
  | _ => trivial

/-- **Leaks, exactly.** `SetBlocked` being called with Bad codes only, nothing
Good is appended between a sweep and the next `SetAllowed` if and only if nothing
Good is pushed then while the gate is open; and the gate is never open then if no
sweep is overtaken by `SetAllowed`. -/
theorem always_noLeak_iff {es : List (Event V E)} (hbad : (system options).Meets BadCodes es) :
    ((system options).Always NoLeak es ↔ (system options).Meets (NoLiveSample options) es) ∧
      ((system options).Meets SweepsWhileBlocked es → (system options).Always NoLeak es) := by
  have hexact : (system options).Always NoLeak es ↔
      (system options).Meets (NoLiveSample options) es := by
    refine (system options).always_iff_meets_of (fun d => GateBad d ∧ NoLeak d) NoLeak BadCodes
      (NoLiveSample options) ⟨gateBad_init, fun n hno => by cases hno⟩ (fun d h => h.2) ?_ ?_ hbad
    · intro d e h hcode hlive
      exact ⟨gateBad_step options h.1 hcode, noLeak_step options h.1 h.2 hlive⟩
    · intro d e h _ hlive
      exact leak_step options h.1 hlive
  exact ⟨hexact, fun h => hexact.mpr (noLiveSample_of_sweepsWhileBlocked options h)⟩

/-- An item is added, and a backend serves it. -/
def itemAdded : List (Event Bool Unit) :=
  (.addItem { clientHandle := 7 } ::
    Multiplexing.runs 0 ([{}, Multiplexing.routedTo [1], {}] ++ Multiplexing.bindNew 100 5)).map
      .control

/-- The gate is blocked, the subscription is swept, and the backend goes on with
its live samples. -/
def blockedRun : List (Event Bool Unit) :=
  itemAdded ++
    [.setBlocked StatusCode.bad, .sweep 0, .push (.dataChange 5 1 { value := some true })]

theorem noLeak_blockedRun :
    (system {}).Meets BadCodes blockedRun ∧ (system {}).Meets SweepsWhileBlocked blockedRun ∧
      (system {}).Always NoLeak blockedRun := by
  have hbad : (system {}).Meets BadCodes blockedRun := by
    rw [Lts.System.meets_iff_meetsFrom]
    decide +kernel
  have hblocked : (system {}).Meets SweepsWhileBlocked blockedRun := by
    rw [Lts.System.meets_iff_meetsFrom]
    decide +kernel
  exact ⟨hbad, hblocked, (always_noLeak_iff {} hbad).2 hblocked⟩

/-- `SetAllowed` overtakes the sweep of a `SetBlocked`, and the backend delivers
a live sample. -/
def overtakenRun : List (Event Bool Unit) :=
  itemAdded ++
    [.setBlocked StatusCode.bad, .setAllowed, .sweep 0,
     .push (.dataChange 5 1 { value := some true })]

theorem overtakenRun_leaks :
    (system {}).Meets BadCodes overtakenRun ∧ ¬ (system {}).Always NoLeak overtakenRun := by
  constructor
  · rw [Lts.System.meets_iff_meetsFrom]
    decide +kernel
  · intro halways
    have hlast : NoLeak ((system {}).run overtakenRun) :=
      halways overtakenRun (List.prefix_refl _)
    have hleak : true ∈ ((system {}).run overtakenRun).appended.map Notification.isGood := by
      decide +kernel
    obtain ⟨n, hmem, hgood⟩ := List.mem_map.mp hleak
    rw [hlast n hmem] at hgood
    cases hgood

end Delivery

end ScadaCore.Scada
