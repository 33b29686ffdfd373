import ScadaCore.Scada.MultiplexingEffects

/-!
# Scada.PublishedPumps — children live on the published pump

A child of an item belongs to the pump that returned its id. `OnBackendFailed`
unbinds the items of a backend when its pump is dropped, so that no item stays
bound to a pump that is gone. `BindRoutes` however records a child some time
after it picked the pump, and looks only at the item by then.
-/

namespace ScadaCore.Scada

namespace Multiplexing

namespace Books

def Published (b : Books) (service : Nat) (pump : Pump) : Prop :=
  ∃ ptr, b.pumps.lookup service = some ptr ∧ ptr.pump = pump

def ReportedDead (b : Books) (pump : Pump) : Prop :=
  pump ∈ b.failed ∧ ∀ status, (pump, status) ∉ b.posted

end Books

/-- The handler of the pump's failure is still queued, and will be accepted. -/
def FailureQueued (m : Multiplexing) (pump : Pump) : Prop :=
  (∃ status, (pump, status) ∈ m.posted) ∧
    m.state.acceptsFailure pump.service pump.id = true

/-- While the subscription is open, every child of every item is on the
published pump of its backend, or that pump's failure is about to be handled;
and it is on no pump that has been reported dead. -/
def OnPublishedPumps (m : Multiplexing) : Prop :=
  m.state.closed = false → ∀ itemId item, m.state.items.lookup itemId = some item →
    ∀ child ∈ item.children,
      (m.books.Published child.service child.pump ∨ m.FailureQueued child.pump) ∧
        ¬ m.books.ReportedDead child.pump

/-- When a backend has added an item, the pump that was asked is still the
published one, and not reported dead. -/
def RecordsInTime (m : Multiplexing) : Event → Prop
  | .run task choice => ∀ call pump childId item, m.Calls task call →
      call.point = .addItems pump → choice.answer = some childId → m.state.closed = false →
      m.state.items.lookup call.item = some item →
      m.books.Published call.route.service pump.pump ∧ ¬ m.books.ReportedDead pump.pump
  | _ => True

/-! ## The invariant -/

/-- The pump a call works with is one of the backend of its route. -/
def Aimed (call : BindRoutes) : Prop :=
  ∀ ptr, call.point.pump = some ptr → ptr.pump.service = call.route.service

/-- A published pump is one of its backend, and `pump_ids` has its id. -/
def PumpsKept (b : Books) : Prop :=
  b.pumps.All fun service ptr => ptr.pump.service = service ∧ b.pumpIds service = ptr.pump.id

def ChildKept (b : Books) (child : Child) : Prop :=
  b.Published child.service child.pump ∧ ¬ b.ReportedDead child.pump

structure PumpInv (m : Multiplexing) : Prop where
  pumps : PumpsKept m.books
  children : m.state.closed = false →
    m.books.items.All fun _ item => ∀ child ∈ item.children, ChildKept m.books child
  aimed : ∀ t ∈ m.tasks, ∀ call, t.call = some call → Aimed call

variable {b : Books} {m : Multiplexing} {e : Event}

theorem PumpsKept.service_eq (h : PumpsKept b) {service : Nat} {pump : Pump}
    (hpub : b.Published service pump) : pump.service = service := by
  rcases hpub with ⟨ptr, hptr, rfl⟩
  exact (h service ptr hptr).1

theorem PumpsKept.accepts_iff (h : PumpsKept m.books) (hopen : m.state.closed = false)
    (pump : Pump) :
    m.state.acceptsFailure pump.service pump.id = true ↔
      m.books.Published pump.service pump := by
  unfold State.acceptsFailure
  rw [hopen]
  constructor
  · intro haccepts
    simp only [Bool.not_false, Bool.true_and, Bool.and_eq_true, beq_iff_eq] at haccepts
    rcases Option.isSome_iff_exists.mp haccepts.1 with ⟨ptr, hptr⟩
    have hkept := h pump.service ptr hptr
    exact ⟨ptr, hptr, Pump.ext (hkept.2.symm.trans haccepts.2) hkept.1⟩
  · rintro ⟨ptr, hptr, rfl⟩
    have hid : m.state.pumpIds ptr.pump.service = ptr.pump.id := (h _ ptr hptr).2
    have hlookup : m.state.pumps.lookup ptr.pump.service = some ptr := hptr
    simp [hlookup, hid]

/-! ### The books -/

theorem PumpsKept.effect (h : PumpsKept m.books) (heffect : Effect m e b) : PumpsKept b := by
  cases heffect with
  | publish _ service pumpId address hnone =>
    -- the other backends keep their ids
    refine Table.All.insert ?_ ⟨rfl, Function.update_self ..⟩
    refine h.imp ?_
    intro service' ptr hptr hkept
    have hne : service' ≠ service := by
      rintro rfl
      have hsome : m.state.pumps.lookup service' = some ptr := hptr
      rw [hnone] at hsome
      cases hsome
    exact ⟨hkept.1, (Function.update_of_ne hne ..).trans hkept.2⟩
  | drop _ service => exact h.erase service
  | fail handler pump => exact h.erase pump.service
  | close => exact Table.all_empty
  | _ => exact h

theorem ChildKept.congr {b' : Books} {child : Child} (h : ChildKept b child)
    (hpumps : b'.pumps.lookup child.service = b.pumps.lookup child.service)
    (hdead : b'.ReportedDead child.pump → b.ReportedDead child.pump) : ChildKept b' child := by
  rcases h with ⟨⟨ptr, hptr, heq⟩, halive⟩
  exact ⟨⟨ptr, hpumps.trans hptr, heq⟩, fun hno => halive (hdead hno)⟩

theorem reportedDead_eraseIdx {b' : Books} {handler : Nat} {pump pump' : Pump} {status : Status}
    (hposted : b.posted[handler]? = some (pump, status)) (hne : pump' ≠ pump)
    (hfailed : b'.failed = b.failed) (hb : b'.posted = b.posted.eraseIdx handler)
    (hdead : b'.ReportedDead pump') : b.ReportedDead pump' := by
  rcases hdead with ⟨hmem, hgone⟩
  rw [hfailed] at hmem
  refine ⟨hmem, ?_⟩
  intro status' hqueued
  apply hgone status'
  rw [hb, List.mem_eraseIdx_iff_getElem?]
  rcases List.mem_iff_getElem?.mp hqueued with ⟨i, hi⟩
  have hidx : i ≠ handler := by
    rintro rfl
    rw [hi] at hposted
    cases hposted
    exact hne rfl
  exact ⟨i, hidx, hi⟩

theorem not_boundTo_of_idle {state : State} {service : Nat}
    (hidle : state.carriesItemsLocked service = false) {itemId : Nat} {item : Item}
    (hitem : state.items.lookup itemId = some item) {child : Child} (hchild : child ∈ item.children) :
    child.service ≠ service := by
  rintro rfl
  have hbound : item.boundTo child.service = true :=
    List.any_eq_true.mpr ⟨child, hchild, beq_self_eq_true _⟩
  have hcarries : state.carriesItemsLocked child.service = true :=
    List.any_eq_true.mpr ⟨item, Table.mem_values_iff.mpr ⟨itemId, hitem⟩, hbound⟩
  rw [hidle] at hcarries
  cases hcarries

theorem children_effect (hpumps : PumpsKept m.books) (hopen : m.state.closed = false)
    (h : m.books.items.All fun _ item => ∀ child ∈ item.children, ChildKept m.books child)
    (hsafe : m.RecordsInTime e) (heffect : Effect m e b) :
    b.items.All fun _ item => ∀ child ∈ item.children, ChildKept b child := by
  cases heffect with
  | quiet => exact h
  | create _ clientHandle valueId =>
    refine Table.All.insert h ?_
    intro child hchild
    cases hchild
  | erase _ itemId => exact Table.All.erase h itemId
  | publish _ service pumpId address hnone =>
    -- the backend had no pump, hence no children
    refine h.imp ?_
    intro itemId item _ hkept child hchild
    have hne : child.service ≠ service := by
      rintro rfl
      rcases (hkept child hchild).1 with ⟨ptr, hptr, -⟩
      have hsome : m.state.pumps.lookup child.service = some ptr := hptr
      rw [hnone] at hsome
      cases hsome
    exact (hkept child hchild).congr (AList.lookup_insert_ne hne) id
  | drop _ service hidle =>
    refine h.imp ?_
    intro itemId item hitem hkept child hchild
    have hne : child.service ≠ service := not_boundTo_of_idle hidle hitem hchild
    exact (hkept child hchild).congr (AList.lookup_erase_ne hne) id
  | bind task choice call pump childId item hcall hpoint hanswer _ hitem =>
    refine Table.All.insert h ?_
    intro child hchild
    rcases List.mem_append.mp hchild with hold | hnew
    · exact h call.item item hitem child hold
    · rw [List.mem_singleton.mp hnew]
      exact hsafe call pump childId item hcall hpoint hanswer hopen hitem
  | write task choice itemId allBound consultedAt rest item htask hitem =>
    exact Table.All.insert h (h itemId item hitem)
  | readFails pump status hfirst =>
    -- the handler of the pump is queued
    refine h.imp ?_
    intro itemId item _ hkept child hchild
    refine (hkept child hchild).congr rfl ?_
    rintro ⟨hfailed, hgone⟩
    rcases List.mem_cons.mp hfailed with hsame | hold
    · exfalso
      apply hgone status
      rw [hsame]
      exact List.mem_append_right _ (List.mem_singleton_self _)
    · exact ⟨hold, fun status' hqueued => hgone status' (List.mem_append_left _ hqueued)⟩
  | ignore handler pump status hposted hignored =>
    -- the handler would have been accepted if an item were still on the pump
    refine h.imp ?_
    intro itemId item _ hkept child hchild
    have hpub := (hkept child hchild).1
    have hpump : child.pump ≠ pump := by
      rintro rfl
      have hservice := hpumps.service_eq hpub
      rw [← hservice, ← hpumps.accepts_iff hopen, hignored] at hpub
      cases hpub
    exact (hkept child hchild).congr rfl (reportedDead_eraseIdx hposted hpump rfl rfl)
  | fail handler pump status hposted haccepted =>
    refine Table.All.mapValues h ?_
    intro itemId item _ hkept child hchild
    rcases mem_children_loseBackend hchild with ⟨hold, hne⟩
    have hpump : child.pump ≠ pump := by
      intro heq
      exact hne ((hpumps.service_eq (hkept child hold).1).symm.trans (heq ▸ rfl))
    exact (hkept child hold).congr (AList.lookup_erase_ne hne)
      (reportedDead_eraseIdx hposted hpump rfl rfl)
  | close => exact Table.all_empty
  | rehash items hperm => exact Table.All.perm h hperm
  | _ => exact h

/-! ### The coroutines -/

theorem aimed_step (hpumps : PumpsKept m.books)
    (h : ∀ t ∈ m.tasks, ∀ call, t.call = some call → Aimed call) :
    ∀ t ∈ (m.step e).tasks, ∀ call, t.call = some call → Aimed call := by
  intro t' ht' call' hcall' ptr hptr
  rcases holds_step ⟨t', ht', call', hcall', rfl, hptr⟩ with
    ⟨t, ht, call, hcall, hservice, hold⟩ | hbefore | hafter
  · rw [← hservice]
    exact h t ht call hcall ptr hold
  · exact (hpumps _ ptr hbefore).1
  · exact (hpumps.effect (m.step_effect e) _ ptr hafter).1

/-! ## Runs -/

theorem pumpInv_step (h : PumpInv m) (hsafe : m.RecordsInTime e) : PumpInv (m.step e) := by
  have heffect := m.step_effect e
  refine ⟨h.pumps.effect heffect, ?_, aimed_step h.pumps h.aimed⟩
  intro hopen
  have hbefore : m.state.closed = false := heffect.open_before hopen
  exact children_effect h.pumps hbefore (h.children hbefore) hsafe heffect

theorem PumpInv.onPublishedPumps (h : PumpInv m) : m.OnPublishedPumps := by
  intro hopen itemId item hitem child hchild
  rcases h.children hopen itemId item hitem child hchild with ⟨hpub, halive⟩
  exact ⟨Or.inl hpub, halive⟩

theorem not_onPublishedPumps_of_late (h : PumpInv m) (hlate : ¬ m.RecordsInTime e) :
    ¬ (m.step e).OnPublishedPumps := by
  cases e with
  | run task choice =>
    unfold RecordsInTime at hlate
    push Not at hlate
    rcases hlate with ⟨call, pump, childId, item, hcall, hpoint, hanswer, hopen, hitem, hgone⟩
    have hbooks : (m.step (.run task choice)).books = { m.books with
        items := m.state.items.insert call.item
          (addChild item { service := call.route.service, childId, pump := pump.pump })
        returned := (pump.pump, childId, call.item) :: m.returned } :=
      books_run_of_added hcall hpoint hanswer hopen hitem
    intro hall
    have hopen' : (m.step (.run task choice)).state.closed = false :=
      (congrArg Books.closed hbooks).trans hopen
    have hitem' : (m.step (.run task choice)).state.items.lookup call.item = some
        (addChild item { service := call.route.service, childId, pump := pump.pump }) := by
      rw [show (m.step (.run task choice)).state.items = _ from congrArg Books.items hbooks]
      exact AList.lookup_insert _
    rcases hall hopen' call.item _ hitem' _
      (List.mem_append_right _ (List.mem_singleton_self _)) with ⟨hplace, halive⟩
    rw [hbooks] at hplace halive
    have hnot : ¬ m.books.Published call.route.service pump.pump := fun hpub =>
      halive (hgone hpub)
    rcases hplace with hpub | ⟨-, haccepts⟩
    · exact hnot hpub
    · -- a failure that is accepted is one of the published pump
      have hsame : (m.step (.run task choice)).state.acceptsFailure pump.pump.service
          pump.pump.id = m.state.acceptsFailure pump.pump.service pump.pump.id := by
        unfold State.acceptsFailure
        rw [show (m.step (.run task choice)).state.pumps = _ from congrArg Books.pumps hbooks,
          show (m.step (.run task choice)).state.pumpIds = _ from congrArg Books.pumpIds hbooks,
          hopen', hopen]
        rfl
      rw [hsame, h.pumps.accepts_iff hopen] at haccepts
      rcases hcall with ⟨t, ht, hcall⟩
      have haimed := h.aimed t (List.mem_of_getElem? ht) call hcall pump (by rw [hpoint]; rfl)
      exact hnot (haimed ▸ haccepts)
  | _ => exact absurd trivial hlate

theorem pumpInv_init : PumpInv {} := by
  refine ⟨Table.all_empty, fun _ => Table.all_empty, ?_⟩
  intro t ht
  cases ht

/-- **Children live on the published pump** throughout a run if and only if every
child is recorded while the pump that returned it is still published and not
reported dead. -/
theorem always_onPublishedPumps_iff (es : List Event) :
    system.Always OnPublishedPumps es ↔ system.Meets RecordsInTime es := by
  apply system.always_iff_meets PumpInv
  · exact pumpInv_init
  · exact fun m h => h.onPublishedPumps
  · exact fun m e h hsafe => pumpInv_step h hsafe
  · exact fun m e h hlate => not_onPublishedPumps_of_late h hlate

/-- Two items are added on backend 1. Its subscription refuses the second one
while it is still adding the first. -/
def refusedNeighbourRun : List Event :=
  [.addItem {}, .addItem {}] ++
    runs 0 [{}, routedTo [1], {}, {}, {}, { started := some 100 }, {}] ++
    runs 1 [{}, routedTo [1], {}, {}, {}, { answer := none }, {}] ++ runs 0 [{ answer := some 1 }]

/-- The refusal drops the pump, as it carries nothing yet, and the first item is
then bound to it for good. -/
theorem not_always_onPublishedPumps_refusedNeighbourRun :
    ¬ system.Always OnPublishedPumps refusedNeighbourRun := by
  intro halways
  have hlast := halways refusedNeighbourRun (List.prefix_refl _)
  have hopen : (system.run refusedNeighbourRun).state.closed = false := by decide +kernel
  have hitem : (system.run refusedNeighbourRun).state.items.lookup 1 = some
      { children := [{ service := 1, childId := 1, pump := { id := 1, service := 1 } }] } := by
    decide +kernel
  have hpumps : (system.run refusedNeighbourRun).state.pumps.lookup 1 = none := by decide +kernel
  have hposted : (system.run refusedNeighbourRun).posted.isEmpty = true := by decide +kernel
  rcases (hlast hopen 1 _ hitem _ List.mem_cons_self).1 with ⟨ptr, hptr, -⟩ | ⟨⟨status, hmem⟩, -⟩
  · have hsome : (system.run refusedNeighbourRun).state.pumps.lookup 1 = some ptr := hptr
    rw [hpumps] at hsome
    cases hsome
  · rw [List.isEmpty_iff.mp hposted] at hmem
    cases hmem

end Multiplexing

end ScadaCore.Scada
