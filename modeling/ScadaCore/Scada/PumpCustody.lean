import ScadaCore.Lts.Custody
import ScadaCore.Scada.PublishedPumps

/-!
# Scada.PumpCustody — the life of a pump

A pump is made by `EnsurePump`, which takes a number for it, starts it without the
lock and publishes it, or closes it again if another one was faster. It is
published until its backend fails, until it carries nothing and refuses an item,
or until the subscription is closed. In these steps the subscription is a custody
of pumps in the sense of the library: `custody` is what it comes to, and
`custody_step` says that the subscription takes no other steps. So whoever has got
a pump from `EnsurePump` can rely on it that the pump is the published one, or
closed for good.
-/

namespace ScadaCore.Scada

open Function

def BindPoint.reserved : BindPoint → Option Nat
  | .startPump pumpId => some pumpId
  | .publishPump pumpId _ => some pumpId
  | _ => none

def BindRoutes.made (call : BindRoutes) : Option PumpPtr :=
  match call.point with
  | .publishPump pumpId address => some (call.newPump pumpId address)
  | _ => none

theorem BindRoutes.made_of_publishPump {call : BindRoutes} {pumpId : Nat} {address : Nat}
    (h : call.point = .publishPump pumpId address) :
    call.made = some (call.newPump pumpId address) := by
  rw [BindRoutes.made, h]

/-- Between the start of a pump and its publication the call has it, and only then. -/
theorem BindRoutes.made_eq_none {call : BindRoutes} {point : BindPoint} (h : call.point = point)
    (hne : ∀ pumpId address, point ≠ .publishPump pumpId address) : call.made = none := by
  unfold BindRoutes.made
  split
  · rename_i pumpId address heq
    exact absurd (h ▸ heq) (hne pumpId address)
  · rfl

def pumpNaming : Lts.Naming PumpPtr Pump Nat := ⟨PumpPtr.pump, Pump.id, Pump.service⟩

namespace Multiplexing

open Lts (Custody)

variable (m : Multiplexing)

def callAt (task : Nat) : Option BindRoutes := m.tasks[task]?.bind Task.call

def custodyWith (calls : Nat → Option BindRoutes) : Custody Nat Nat PumpPtr where
  next := m.state.nextPumpId
  reserved task := (calls task).bind (·.point.reserved)
  made task := (calls task).bind BindRoutes.made
  live := {ptr | ptr ∈ m.heap}
  published service := m.state.pumps.lookup service

def custody : Custody Nat Nat PumpPtr := m.custodyWith m.callAt

/-! ## The steps -/

theorem bind_update {f : Nat → Option BindRoutes} {β : Type} (g : BindRoutes → Option β)
    (task : Nat) (call : Option BindRoutes) :
    (fun i => (update f task call i).bind g) =
      update (fun i => (f i).bind g) task (call.bind g) :=
  comp_update (fun c : Option BindRoutes => c.bind g) f task call

theorem live_filter_ne (heap : List PumpPtr) (ptr : PumpPtr) :
    {p | p ∈ heap.filter (· != ptr)} = ({p | p ∈ heap} \ {ptr} : Set PumpPtr) := by
  ext p
  simp

theorem lookup_insert_eq_update (pumps : Table Nat PumpPtr) (service : Nat) (ptr : PumpPtr) :
    (fun k => (pumps.insert service ptr).lookup k) =
      update (fun k => pumps.lookup k) service (some ptr) := by
  funext k
  by_cases hk : k = service
  · subst hk
    rw [AList.lookup_insert, update_self]
  · rw [AList.lookup_insert_ne hk, update_of_ne hk]

theorem lookup_erase_eq_update (pumps : Table Nat PumpPtr) (service : Nat) :
    (fun k => (pumps.erase service).lookup k) =
      update (fun k => pumps.lookup k) service none := by
  funext k
  by_cases hk : k = service
  · subst hk
    rw [AList.lookup_erase, update_self]
  · rw [AList.lookup_erase_ne hk, update_of_ne hk]

theorem update_none_of_none {β : Type} {f : Nat → Option β} {i : Nat} (h : f i = none) :
    update f i none = f :=
  update_eq_self_iff.mpr h.symm

section Moves

variable {m m' : Multiplexing} {calls : Nat → Option BindRoutes} {task : Nat} {call : BindRoutes}
  {choice : Choice} {outcome : BindRoutes.Outcome}

theorem custody_quiet {call' : Option BindRoutes} (hmade : (calls task).bind BindRoutes.made = none)
    (hreserved' : call'.bind (·.point.reserved) = none) (hmade' : call'.bind BindRoutes.made = none)
    (hheap : m'.heap = m.heap) (hnext : m'.state.nextPumpId = m.state.nextPumpId)
    (hpumps : m'.state.pumps = m.state.pumps) :
    Custody.Step pumpNaming (m.custodyWith calls)
      (m'.custodyWith (update calls task call')) := by
  refine (Custody.Step.giveUp task hmade).congr (Custody.ext hnext ?_ ?_ ?_ ?_)
  · exact (bind_update _ task call').trans (by rw [hreserved']; rfl)
  · refine (bind_update _ task call').trans ?_
    rw [hmade']
    exact update_none_of_none hmade
  · simp only [custodyWith, hheap]
  · simp only [custodyWith, hpumps]

theorem reserved_of_movesOn (hmoves : MovesOn call outcome) :
    outcome.getLeft?.bind (·.point.reserved) = none ∧
      outcome.getLeft?.bind BindRoutes.made = none := by
  cases outcome with
  | inl call' => simp [BindRoutes.made, (call_of_movesOn hmoves).2, BindPoint.reserved]
  | inr bound => exact ⟨rfl, rfl⟩

theorem custody_movesOn (hmade : (calls task).bind BindRoutes.made = none)
    (hmoves : MovesOn call outcome) (hheap : m'.heap = m.heap)
    (hnext : m'.state.nextPumpId = m.state.nextPumpId) (hpumps : m'.state.pumps = m.state.pumps) :
    Custody.Step pumpNaming (m.custodyWith calls)
      (m'.custodyWith (update calls task outcome.getLeft?)) := by
  obtain ⟨hreserved', hmade'⟩ := reserved_of_movesOn hmoves
  exact custody_quiet hmade hreserved' hmade' hheap hnext hpumps

theorem custody_discard {call' : Option BindRoutes} {ptr : PumpPtr}
    (hmade : (calls task).bind BindRoutes.made = some ptr)
    (hreserved' : call'.bind (·.point.reserved) = none)
    (hmade' : call'.bind BindRoutes.made = none) :
    Custody.Step pumpNaming (m.custodyWith calls)
      ((m.destroy ptr).custodyWith (update calls task call')) := by
  refine (Custody.Step.discard task ptr hmade).congr (Custody.ext rfl ?_ ?_ ?_ rfl)
  · exact (bind_update _ task call').trans (by rw [hreserved']; rfl)
  · exact (bind_update _ task call').trans (by rw [hmade']; rfl)
  · exact live_filter_ne m.heap ptr

theorem custody_of_bindMove (hcall : calls task = some call)
    (hmove : BindMove m call choice m' outcome) :
    Custody.Step pumpNaming (m.custodyWith calls)
      (m'.custodyWith (update calls task outcome.getLeft?)) := by
  have hmade : (calls task).bind BindRoutes.made = call.made := by rw [hcall]; rfl
  have hreserved : (calls task).bind (·.point.reserved) = call.point.reserved := by
    rw [hcall]
    rfl
  have hnothing : ∀ {point : BindPoint}, call.point = point →
      (∀ pumpId address, point ≠ .publishPump pumpId address) →
        (calls task).bind BindRoutes.made = none :=
    fun hpoint hne => hmade.trans (BindRoutes.made_eq_none hpoint hne)
  have hstarted : ∀ {pumpId address}, call.point = .publishPump pumpId address →
      (calls task).bind BindRoutes.made = some (call.newPump pumpId address) :=
    fun hpoint => hmade.trans (BindRoutes.made_of_publishPump hpoint)
  cases hmove with
  | skip _ hpoint hmoves =>
    have hnone : (calls task).bind BindRoutes.made = none := by
      rcases hpoint with h | h | ⟨pumpId, h⟩ | ⟨pump, h, -⟩ <;> exact hnothing h (by simp)
    exact custody_movesOn hnone hmoves rfl rfl rfl
  | search item hpoint
  | find pump hpoint => exact custody_quiet (hnothing hpoint (by simp)) rfl rfl rfl rfl rfl
  | number hpoint =>
    have hnone := hnothing hpoint (by simp)
    refine (Custody.Step.reserve task hnone).congr (Custody.ext rfl ?_ ?_ rfl rfl)
    · exact bind_update _ task _
    · exact (bind_update _ task _).trans (update_none_of_none hnone)
  | retry pumpId hpoint =>
    have hsame : update calls task (some call) = calls := by
      rw [← hcall]
      exact update_eq_self task calls
    show Custody.Step _ _ (m.custodyWith (update calls task (some call)))
    rw [hsame]
    exact .stutter
  | make pumpId address hpoint =>
    have hnone := hnothing hpoint (by simp)
    have hnumber : (calls task).bind (·.point.reserved) = some pumpId := by
      rw [hreserved, hpoint]
      rfl
    refine (Custody.Step.make task (call.newPump pumpId address) hnumber hnone).congr
      (Custody.ext rfl ?_ ?_ ?_ rfl)
    · refine (bind_update _ task _).trans ?_
      exact update_eq_self_iff.mpr hnumber.symm
    · exact bind_update _ task _
    · ext ptr
      exact List.mem_cons
  | discard pumpId address hpoint =>
    obtain ⟨hreserved', hmade'⟩ := reserved_of_movesOn (movesOn_giveUp : MovesOn call call.giveUp)
    exact custody_discard (hstarted hpoint) hreserved' hmade'
  | yield pumpId address published hpoint =>
    -- another call was faster, and its pump is taken instead
    exact custody_discard (hstarted hpoint) rfl rfl
  | publish pumpId address hpoint hopen hnone =>
    refine (Custody.Step.publish task (call.newPump pumpId address) (hstarted hpoint)
      hnone).congr (Custody.ext rfl ?_ ?_ rfl ?_)
    · exact bind_update _ task _
    · exact bind_update _ task _
    · exact lookup_insert_eq_update m.state.pumps call.route.service _
  | record pump childId item hpoint
  | removeOrphan pump published childId hpoint
  | forgetOrphan pump childId hpoint =>
    exact custody_movesOn (hnothing hpoint (by simp)) movesOn_next rfl rfl rfl
  | orphan pump childId hpoint =>
    exact custody_quiet (hnothing hpoint (by simp)) rfl rfl rfl rfl rfl
  | dropPump pump published hpoint hidle hpublished =>
    have hnone := hnothing hpoint (by simp)
    have hfree : (calls task).bind (·.point.reserved) = none := by
      rw [hreserved, hpoint]
      rfl
    obtain ⟨hreserved', hmade'⟩ := reserved_of_movesOn (movesOn_giveUp : MovesOn call call.giveUp)
    refine (Custody.Step.withdraw call.route.service published hpublished).congr
      (Custody.ext rfl ?_ ?_ ?_ ?_)
    · refine (bind_update _ task _).trans ?_
      rw [hreserved']
      exact update_none_of_none hfree
    · refine (bind_update _ task _).trans ?_
      rw [hmade']
      exact update_none_of_none hnone
    · exact live_filter_ne m.heap published
    · exact lookup_erase_eq_update m.state.pumps call.route.service

theorem custody_of_taskMove {t t' : Task} (hcall : calls task = t.call)
    (hmove : TaskMove m choice t m' t') :
    Custody.Step pumpNaming (m.custodyWith calls)
      (m'.custodyWith (update calls task t'.call)) := by
  have hquiet : t.call = none → t'.call.bind (·.point.reserved) = none →
      t'.call.bind BindRoutes.made = none → m'.heap = m.heap →
      m'.state.nextPumpId = m.state.nextPumpId → m'.state.pumps = m.state.pumps →
      Custody.Step pumpNaming (m.custodyWith calls)
        (m'.custodyWith (update calls task t'.call)) := by
    intro hnone
    rw [hnone] at hcall
    exact custody_quiet (by rw [hcall]; rfl)
  have hstart : ∀ {itemId consultedAt : Nat} {routes : List MonitoredItemRoute},
      (BindRoutes.start itemId routes consultedAt).getLeft?.bind (·.point.reserved) = none ∧
        (BindRoutes.start itemId routes consultedAt).getLeft?.bind BindRoutes.made = none := by
    intro itemId consultedAt routes
    cases routes <;> exact ⟨rfl, rfl⟩
  cases hmove with
  | goOn _ _ hplain hplain' | pace _ _ rebindTimer rebindRunning hplain hplain' =>
    refine hquiet (Task.call_of_plain hplain) ?_ ?_ rfl rfl rfl <;>
      rw [Task.call_of_plain hplain'] <;> rfl
  | create request routes consultedAt =>
    refine hquiet rfl ?_ ?_ rfl rfl rfl
    · rw [call_addItemBound]
      exact hstart.1
    · rw [call_addItemBound]
      exact hstart.2
  | route itemId rest =>
    refine hquiet rfl ?_ ?_ rfl rfl rfl
    · rw [call_rebindBound]
      exact hstart.1
    · rw [call_rebindBound]
      exact hstart.2
  | addItemBind request call _ outcome hbind =>
    rw [call_addItemBound]
    exact custody_of_bindMove hcall hbind
  | rebindBind call rest _ outcome hbind =>
    rw [call_rebindBound]
    exact custody_of_bindMove hcall hbind
  | _ => exact hquiet rfl rfl rfl rfl rfl rfl

end Moves

/-! ## The subscription -/

theorem callAt_step (e : Event) :
    (∃ task choice t, e = .run task choice ∧ m.tasks[task]? = some t ∧
        (m.step e).callAt = update m.callAt task (m.stepTask choice t).2.call) ∨
      (∀ task choice, e = .run task choice → m.tasks[task]? = none) ∧
        (m.step e).callAt = m.callAt := by
  rcases m.tasks_step e with ⟨task, choice, t, rfl, ht, htasks⟩ | ⟨hno, new, hnew, htasks⟩
  · refine Or.inl ⟨task, choice, t, rfl, ht, ?_⟩
    funext i
    unfold callAt
    rw [htasks]
    by_cases hi : i = task
    · subst hi
      rw [List.getElem?_set_self (List.getElem?_eq_some_iff.mp ht).1, update_self]
      rfl
    · rw [List.getElem?_set_ne (Ne.symm hi), update_of_ne hi]
  · refine Or.inr ⟨hno, ?_⟩
    funext i
    unfold callAt
    rw [htasks]
    by_cases hi : i < m.tasks.length
    · rw [List.getElem?_append_left hi]
    · -- a coroutine that has just been started is in no call
      rw [List.getElem?_append_right (Nat.le_of_not_lt hi),
        List.getElem?_eq_none (Nat.le_of_not_lt hi)]
      cases ht : new[i - m.tasks.length]? with
      | none => rfl
      | some t => exact Task.call_of_plain (plain_of_starting (hnew t (List.mem_of_getElem? ht)))

/-- **Refinement**: a step of the subscription is a step of the custody. -/
theorem custody_step (e : Event) : Custody.Step pumpNaming m.custody (m.step e).custody := by
  rcases m.callAt_step e with ⟨task, choice, t, rfl, ht, hcalls⟩ | ⟨hno, hcalls⟩
  · have hcall : m.callAt task = t.call := by
      unfold callAt
      rw [ht]
      rfl
    have hmove := custody_of_taskMove hcall (stepTask_move m choice t)
    have heq : (m.step (.run task choice)).custody =
        (m.stepTask choice t).1.custodyWith
          (update m.callAt task (m.stepTask choice t).2.call) := by
      rw [custody, hcalls]
      simp only [step, run, ht]
      rfl
    exact hmove.congr heq
  · unfold custody
    rw [hcalls]
    have hmove := m.step_move e
    generalize m.step e = m' at hmove
    cases hmove with
    | run task choice t ht => exact absurd (ht.symm.trans (hno task choice rfl)) (by simp)
    | fail handler pump status _ hposted haccepted hdropped =>
      subst hdropped
      have hsome : (m.state.pumps.lookup pump.service).isSome = true := by
        unfold State.acceptsFailure at haccepted
        simp only [Bool.and_eq_true] at haccepted
        exact haccepted.1.2
      obtain ⟨published, hpublished⟩ := Option.isSome_iff_exists.mp hsome
      -- `OnBackendFailed` takes the pump out of the table and closes it
      refine (Custody.Step.withdraw pump.service published hpublished).congr
        (Custody.ext rfl rfl rfl ?_ ?_)
      · ext ptr
        show ptr ∈ m.heap.filter (m.state.pumps.lookup pump.service != some ·) ↔
          ptr ∈ m.heap ∧ ptr ≠ published
        rw [List.mem_filter, hpublished, bne_iff_ne, ne_eq, Option.some.injEq, eq_comm]
      · exact lookup_erase_eq_update m.state.pumps pump.service
    | close status =>
      refine Custody.Step.withdrawAll.congr (Custody.ext rfl rfl rfl ?_ ?_)
      · ext ptr
        simp [custodyWith, Table.mem_values_iff]
      · funext service
        show (∅ : Table Nat PumpPtr).lookup service = none
        exact AList.lookup_empty service
    | _ => exact .stutter

/-! ## Pumps in hand -/

def IsOpen (pump : Pump) : Prop := ∃ ptr ∈ m.heap, ptr.pump = pump

/-- A pump that was published once: it still is, or it is closed for good. -/
abbrev KnownPump (ptr : PumpPtr) : Prop := m.custody.Known pumpNaming ptr

/-- The pumps that `BindRoutes` has got from `EnsurePump`, and those that have returned
a child, have been published once. -/
structure CustodyInv (m : Multiplexing) : Prop where
  custody : m.custody.Inv pumpNaming
  pumps : PumpsKept m.books
  aimed : ∀ t ∈ m.tasks, ∀ call, t.call = some call → Aimed call
  hands : ∀ t ∈ m.tasks, ∀ call, t.call = some call → ∀ ptr, call.point.pump = some ptr →
    m.KnownPump ptr
  returned : ∀ entry ∈ m.returned, ∃ ptr, ptr.pump = entry.1 ∧ m.KnownPump ptr

theorem custodyInv_init : CustodyInv {} := by
  have hempty : ({} : Multiplexing).custody = Custody.empty 1 := by
    refine Custody.ext rfl rfl rfl ?_ rfl
    ext ptr
    exact List.mem_nil_iff ptr
  refine ⟨?_, Table.all_empty, by simp, by simp, by simp⟩
  rw [hempty]
  exact .empty 1

theorem KnownPump.of_lookup {m : Multiplexing} {ptr : PumpPtr}
    (h : m.state.pumps.lookup ptr.pump.service = some ptr) : m.KnownPump ptr :=
  Or.inl h

/-- A pump that is open and was published once is the published one. -/
theorem KnownPump.published {m : Multiplexing} {ptr : PumpPtr} (h : m.KnownPump ptr)
    (hopen : m.IsOpen ptr.pump) : m.state.pumps.lookup ptr.pump.service = some ptr := by
  obtain ⟨ptr', hlive, hsame⟩ := hopen
  exact Custody.Known.published_of_live h hlive hsame

namespace CustodyInv

variable {m} (h : CustodyInv m) (e : Event)

include h

theorem known_of_lookup {service : Nat} {ptr : PumpPtr}
    (hlookup : m.state.pumps.lookup service = some ptr) : m.KnownPump ptr := by
  refine .of_lookup ?_
  rw [(h.pumps service ptr hlookup).1]
  exact hlookup

theorem known_step {ptr : PumpPtr} (hknown : m.KnownPump ptr) : (m.step e).KnownPump ptr :=
  Custody.Known.step h.custody hknown (m.custody_step e)

theorem open_before {ptr : PumpPtr} (hknown : m.KnownPump ptr)
    (hopen : (m.step e).IsOpen ptr.pump) : m.IsOpen ptr.pump := by
  obtain ⟨ptr', hlive, hsame⟩ := hopen
  exact Custody.Known.live_before (N := pumpNaming) h.custody hknown (m.custody_step e) hlive hsame

theorem hands_step :
    ∀ t ∈ (m.step e).tasks, ∀ call, t.call = some call → ∀ ptr, call.point.pump = some ptr →
      (m.step e).KnownPump ptr := by
  intro t' ht' call' hcall' ptr hptr
  rcases holds_step ⟨t', ht', call', hcall', rfl, hptr⟩ with
    ⟨t, ht, call, hcall, -, hold⟩ | hbefore | hafter
  · exact h.known_step e (h.hands t ht call hcall ptr hold)
  · exact h.known_step e (h.known_of_lookup hbefore)
  · refine .of_lookup ?_
    rw [(h.pumps.effect (m.step_effect e) _ ptr hafter).1]
    exact hafter

theorem returned_step :
    ∀ entry ∈ (m.step e).returned, ∃ ptr, ptr.pump = entry.1 ∧ (m.step e).KnownPump ptr := by
  have hold : ∀ entry ∈ m.returned, ∃ ptr, ptr.pump = entry.1 ∧ (m.step e).KnownPump ptr := by
    intro entry hentry
    obtain ⟨ptr, hptr, hknown⟩ := h.returned entry hentry
    exact ⟨ptr, hptr, h.known_step e hknown⟩
  have hnew : ∀ {task call ptr}, m.Calls task call → call.point = .addItems ptr →
      (m.step e).KnownPump ptr := by
    rintro task call ptr ⟨t, ht, hcall⟩ hpoint
    exact h.known_step e (h.hands t (List.mem_of_getElem? ht) call hcall ptr (by rw [hpoint]; rfl))
  have heffect := m.step_effect e
  intro entry hentry
  change entry ∈ (m.step e).books.returned at hentry
  generalize (m.step e).books = books at heffect hentry
  cases heffect with
  | bind task choice call pump childId item hcall hpoint
  | orphan task choice call pump childId hcall hpoint =>
    rcases List.mem_cons.mp hentry with rfl | htail
    · exact ⟨pump, rfl, hnew hcall hpoint⟩
    · exact hold entry htail
  | _ => exact hold entry hentry

theorem step : CustodyInv (m.step e) :=
  ⟨h.custody.step (m.custody_step e), h.pumps.effect (m.step_effect e), aimed_step h.pumps h.aimed,
    h.hands_step e, h.returned_step e⟩

end CustodyInv

theorem custodyInv_run (es : List Event) : CustodyInv (system.run es) :=
  system.invariant CustodyInv custodyInv_init (fun _ e h => h.step e) es

theorem known_of_published {pre es : List Event} (hpre : pre <+: es) {service : Nat} {ptr : PumpPtr}
    (hpublished : (system.run pre).state.pumps.lookup service = some ptr) :
    (system.run es).KnownPump ptr := by
  obtain ⟨more, rfl⟩ := hpre
  rw [Lts.System.run_append]
  have hboth : CustodyInv (system.runFrom (system.run pre) more) ∧
      (system.runFrom (system.run pre) more).KnownPump ptr := by
    refine system.runFrom_invariant (fun m => CustodyInv m ∧ m.KnownPump ptr) ?_ ?_ more
    · exact fun m e hm => ⟨hm.1.step e, hm.1.known_step e hm.2⟩
    · exact ⟨custodyInv_run pre, (custodyInv_run pre).known_of_lookup hpublished⟩
  exact hboth.2

/-- **The life of a pump.** In any order of steps, a pump that is alive is published for its
backend or with the one coroutine that makes it; once published, it is so until it is closed. -/
theorem pumps_owned (es : List Event) :
    let m := system.run es
    ∀ ptr ∈ m.heap, (m.state.pumps.lookup ptr.pump.service = some ptr ∨
        ∃! task, (m.callAt task).bind BindRoutes.made = some ptr) ∧
      ∀ pre service, pre <+: es → (system.run pre).state.pumps.lookup service = some ptr →
        m.state.pumps.lookup service = some ptr := by
  intro m ptr hlive
  have h := (custodyInv_run es).custody
  constructor
  · rcases h.placed ptr hlive with hpublished | ⟨task, hmade⟩
    · exact .inl hpublished
    · refine .inr ⟨task, hmade, fun task' hmade' => ?_⟩
      exact h.alone task' task _ (h.made_reserved task' ptr hmade') (h.made_reserved task ptr hmade)
  · intro pre service hpre hpublished
    rw [← ((custodyInv_run pre).pumps service ptr hpublished).1]
    exact (known_of_published hpre hpublished).published ⟨ptr, hlive, rfl⟩

end Multiplexing

end ScadaCore.Scada
