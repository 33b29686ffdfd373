import ScadaCore.Scada.Multiplexing

/-!
# Scada.MultiplexingMoves — the moves of the coroutines

`stepBind` and `stepTask` compute the next critical section of a coroutine. Here
is what each of them can come to, as a relation: `BindMove` for a call of
`BindRoutes` and `TaskMove` for a coroutine, with the guards under which a move is
made and the whole state after it. Results about the subscription split on the
moves and do not unfold the functions again.
-/

namespace ScadaCore.Scada

namespace Task

def call : Task → Option BindRoutes
  | .addItemBind _ call => some call
  | .rebindBind call _ => some call
  | _ => none

/-- The coroutine is neither binding routes nor removing children. -/
def plain : Task → Bool
  | .addItemBind _ _ => false
  | .rebindBind _ _ => false
  | .removeChildren _ _ => false
  | _ => true

theorem call_of_plain {t : Task} (h : t.plain = true) : t.call = none := by
  cases t with
  | addItemBind request call => cases h
  | rebindBind call rest => cases h
  | _ => rfl

def itemIds : Task → List Nat
  | .addItemBind _ call => [call.item]
  | .addItemFinish _ itemId => [itemId]
  | .rebindVisit rest => rest
  | .rebindRoute itemId rest => itemId :: rest
  | .rebindBind call rest => call.item :: rest
  | .rebindWrite itemId _ _ rest => itemId :: rest
  | _ => []

end Task

namespace Multiplexing

/-! ## BindRoutes -/

/-- A call of `BindRoutes` is done with its route: it ends, or goes on to the next
one. -/
def MovesOn (call : BindRoutes) (outcome : BindRoutes.Outcome) : Prop :=
  outcome = .inr false ∨ ∃ allBound, outcome = BindRoutes.next { call with allBound }

/-- The moves of a call of `BindRoutes`. -/
inductive BindMove (m : Multiplexing) (call : BindRoutes) (choice : Choice) :
    Multiplexing → BindRoutes.Outcome → Prop where
  /-- Nothing is done for the route, or nothing more. -/
  | skip (outcome : BindRoutes.Outcome)
      (hpoint : call.point = .head ∨ call.point = .ensurePump ∨
        (∃ pumpId, call.point = .startPump pumpId) ∨
        ∃ pump, call.point = .addItems pump ∧ choice.answer = none)
      (hmoves : MovesOn call outcome) : BindMove m call choice m outcome
  | search (item : Item) (hpoint : call.point = .head) (hopen : m.state.closed = false)
      (hitem : m.state.items.lookup call.item = some item)
      (hfree : item.boundTo call.route.service = false) :
      BindMove m call choice m (call.goTo .ensurePump)
  | find (pump : PumpPtr) (hpoint : call.point = .ensurePump) (hopen : m.state.closed = false)
      (hpump : m.state.pumps.lookup call.route.service = some pump) :
      BindMove m call choice m (call.goTo (.addItems pump))
  | number (hpoint : call.point = .ensurePump) (hopen : m.state.closed = false)
      (hnone : m.state.pumps.lookup call.route.service = none) :
      BindMove m call choice
        { m with state := { m.state with nextPumpId := m.state.nextPumpId + 1 } }
        (call.goTo (.startPump m.state.nextPumpId))
  | retry (pumpId : Nat) (hpoint : call.point = .startPump pumpId) :
      BindMove m call choice m (.inl call)
  | make (pumpId address : Nat) (hpoint : call.point = .startPump pumpId)
      (hfresh : address ∉ m.heap.map PumpPtr.address) :
      BindMove m call choice { m with heap := call.newPump pumpId address :: m.heap }
        (call.goTo (.publishPump pumpId address))
  | discard (pumpId address : Nat) (hpoint : call.point = .publishPump pumpId address)
      (hclosed : m.state.closed = true) :
      BindMove m call choice (m.destroy (call.newPump pumpId address)) call.giveUp
  | yield (pumpId address : Nat) (published : PumpPtr)
      (hpoint : call.point = .publishPump pumpId address) (hopen : m.state.closed = false)
      (hpublished : m.state.pumps.lookup call.route.service = some published) :
      BindMove m call choice (m.destroy (call.newPump pumpId address))
        (call.goTo (.addItems published))
  | publish (pumpId address : Nat) (hpoint : call.point = .publishPump pumpId address)
      (hopen : m.state.closed = false)
      (hnone : m.state.pumps.lookup call.route.service = none) :
      BindMove m call choice (m.publish call.route.service (call.newPump pumpId address))
        (call.goTo (.addItems (call.newPump pumpId address)))
  | record (pump : PumpPtr) (childId : Nat) (item : Item) (hpoint : call.point = .addItems pump)
      (hanswer : choice.answer = some childId) (hopen : m.state.closed = false)
      (hitem : m.state.items.lookup call.item = some item) :
      BindMove m call choice
        ((m.noteReturned pump.pump childId call.item).setItem call.item
          (addChild item { service := call.route.service, childId, pump := pump.pump }))
        call.next
  | orphan (pump : PumpPtr) (childId : Nat) (hpoint : call.point = .addItems pump)
      (hanswer : choice.answer = some childId) :
      BindMove m call choice (m.noteReturned pump.pump childId call.item)
        (BindRoutes.goTo { call with allBound := false } (.removeOrphan pump childId))
  | dropPump (pump published : PumpPtr) (hpoint : call.point = .addItems pump)
      (hidle : m.state.carriesItemsLocked call.route.service = false)
      (hpublished : m.state.pumps.lookup call.route.service = some published) :
      BindMove m call choice (m.unpublish call.route.service published) call.giveUp
  | removeOrphan (pump published : PumpPtr) (childId : Nat)
      (hpoint : call.point = .removeOrphan pump childId)
      (hpublished : m.state.pumps.lookup call.route.service = some published)
      (haddress : published.address = pump.address) :
      BindMove m call choice
        { m with removals := m.removals ++
          [{ itemId := call.item, childId, issuedTo := published.pump,
             returnedBy := pump.pump }] }
        call.next
  | forgetOrphan (pump : PumpPtr) (childId : Nat)
      (hpoint : call.point = .removeOrphan pump childId)
      (hgone : ∀ published, m.state.pumps.lookup call.route.service = some published →
        published.address ≠ pump.address) :
      BindMove m call choice m call.next

section BindMove

variable {m : Multiplexing} {call : BindRoutes} {choice : Choice}

theorem movesOn_next : MovesOn call call.next := Or.inr ⟨call.allBound, rfl⟩

theorem movesOn_giveUp : MovesOn call call.giveUp := Or.inr ⟨false, rfl⟩

theorem call_of_movesOn {call' : BindRoutes} (h : MovesOn call (.inl call')) :
    call'.item = call.item ∧ call'.point = .head := by
  rcases h with hno | ⟨allBound, heq⟩
  · cases hno
  · unfold BindRoutes.next at heq
    split at heq
    · cases heq
    · cases heq
      exact ⟨rfl, rfl⟩

/-- The moves of a call that stays with its route. -/
inductive RouteMove (m : Multiplexing) (call : BindRoutes) :
    Multiplexing → BindRoutes → Prop where
  | search (item : Item) (hpoint : call.point = .head)
      (hitem : m.state.items.lookup call.item = some item)
      (hfree : item.boundTo call.route.service = false) :
      RouteMove m call m { call with point := .ensurePump }
  | find (pump : PumpPtr) (hpoint : call.point = .ensurePump)
      (hpump : m.state.pumps.lookup call.route.service = some pump) :
      RouteMove m call m { call with point := .addItems pump }
  | number (hpoint : call.point = .ensurePump) :
      RouteMove m call { m with state := { m.state with nextPumpId := m.state.nextPumpId + 1 } }
        { call with point := .startPump m.state.nextPumpId }
  | retry (pumpId : Nat) (hpoint : call.point = .startPump pumpId) : RouteMove m call m call
  | make (pumpId address : Nat) (hpoint : call.point = .startPump pumpId) :
      RouteMove m call { m with heap := call.newPump pumpId address :: m.heap }
        { call with point := .publishPump pumpId address }
  | yield (pumpId address : Nat) (published : PumpPtr)
      (hpoint : call.point = .publishPump pumpId address)
      (hpublished : m.state.pumps.lookup call.route.service = some published) :
      RouteMove m call (m.destroy (call.newPump pumpId address))
        { call with point := .addItems published }
  | publish (pumpId address : Nat) (hpoint : call.point = .publishPump pumpId address) :
      RouteMove m call (m.publish call.route.service (call.newPump pumpId address))
        { call with point := .addItems (call.newPump pumpId address) }
  | orphan (pump : PumpPtr) (childId : Nat) (hpoint : call.point = .addItems pump) :
      RouteMove m call (m.noteReturned pump.pump childId call.item)
        { call with allBound := false, point := .removeOrphan pump childId }

/-- A call that does not return goes on to the next route, or stays with this one. -/
theorem routeMove_of_bindMove {m' : Multiplexing} {call' : BindRoutes}
    (hmove : BindMove m call choice m' (.inl call')) :
    MovesOn call (.inl call') ∨ RouteMove m call m' call' := by
  -- `cases` needs a variable for the outcome, as `next` and `giveUp` do not reduce
  generalize hout : (.inl call' : BindRoutes.Outcome) = outcome at hmove
  cases hmove with
  | skip _ _ hmoves => exact Or.inl hmoves
  | discard | dropPump => exact Or.inl movesOn_giveUp
  | record | removeOrphan | forgetOrphan => exact Or.inl movesOn_next
  | search item hpoint _ hitem hfree =>
    cases hout
    exact Or.inr (.search item hpoint hitem hfree)
  | find pump hpoint _ hpump =>
    cases hout
    exact Or.inr (.find pump hpoint hpump)
  | number hpoint =>
    cases hout
    exact Or.inr (.number hpoint)
  | retry pumpId hpoint =>
    cases hout
    exact Or.inr (.retry pumpId hpoint)
  | make pumpId address hpoint =>
    cases hout
    exact Or.inr (.make pumpId address hpoint)
  | yield pumpId address published hpoint _ hpublished =>
    cases hout
    exact Or.inr (.yield pumpId address published hpoint hpublished)
  | publish pumpId address hpoint =>
    cases hout
    exact Or.inr (.publish pumpId address hpoint)
  | orphan pump childId hpoint =>
    cases hout
    exact Or.inr (.orphan pump childId hpoint)

theorem record_move {pump : PumpPtr} (hpoint : call.point = .addItems pump) :
    BindMove m call choice (m.record call pump choice.answer).1
      (m.record call pump choice.answer).2 := by
  unfold record
  split
  · rename_i childId hanswer
    split
    · rename_i item hopen hitem
      exact .record pump childId item hpoint hanswer hopen hitem
    · exact .orphan pump childId hpoint hanswer
  · rename_i hanswer
    have hskip : BindMove m call choice m call.giveUp :=
      .skip _ (Or.inr (Or.inr (Or.inr ⟨pump, hpoint, hanswer⟩))) movesOn_giveUp
    split
    · rename_i hidle
      simp only [Bool.and_eq_true, Bool.not_eq_true'] at hidle
      split
      · rename_i published hpublished
        split
        · exact .dropPump pump published hpoint hidle.2 hpublished
        · exact hskip
      · exact hskip
    · exact hskip

theorem stepBind_move (m : Multiplexing) (call : BindRoutes) (choice : Choice) :
    BindMove m call choice (m.stepBind call choice).1 (m.stepBind call choice).2 := by
  unfold stepBind
  cases hpoint : call.point with
  | head =>
    dsimp only
    split
    · rename_i item hopen hitem
      split
      · exact .skip _ (Or.inl hpoint) movesOn_next
      · exact .search item hpoint hopen hitem (Bool.eq_false_iff.mpr ‹_›)
    · exact .skip _ (Or.inl hpoint) (Or.inl rfl)
  | ensurePump =>
    dsimp only
    split
    · exact .skip _ (Or.inr (Or.inl hpoint)) movesOn_giveUp
    · rename_i hopen
      rw [Bool.not_eq_true] at hopen
      split
      · exact .find _ hpoint hopen ‹_›
      · exact .number hpoint hopen ‹_›
  | startPump pumpId =>
    dsimp only
    split
    · exact .skip _ (Or.inr (Or.inr (Or.inl ⟨pumpId, hpoint⟩))) movesOn_giveUp
    · split
      · -- an address in use cannot be the answer of an allocation
        exact .retry pumpId hpoint
      · exact .make pumpId _ hpoint ‹_›
  | publishPump pumpId address =>
    dsimp only
    split
    · exact .discard pumpId address hpoint ‹_›
    · rename_i hopen
      rw [Bool.not_eq_true] at hopen
      split
      · exact .yield pumpId address _ hpoint hopen ‹_›
      · exact .publish pumpId address hpoint hopen ‹_›
  | addItems pump => exact record_move hpoint
  | removeOrphan pump childId =>
    dsimp only
    split
    · rename_i published hpublished
      split
      · exact .removeOrphan pump published childId hpoint hpublished ‹_›
      · -- the pump was replaced while its answer was awaited
        rename_i haddress
        refine .forgetOrphan pump childId hpoint ?_
        intro published' hpublished'
        rw [hpublished] at hpublished'
        cases hpublished'
        exact haddress
    · rename_i hnone
      refine .forgetOrphan pump childId hpoint ?_
      intro published hpublished
      rw [hnone] at hpublished
      cases hpublished

end BindMove

/-! ## The coroutines -/

/-- The moves of a coroutine. -/
inductive TaskMove (m : Multiplexing) (choice : Choice) : Task → Multiplexing → Task → Prop where
  | goOn (t t' : Task) (ht : t.plain = true) (ht' : t'.plain = true)
      (hids : ∀ itemId ∈ t'.itemIds,
        itemId ∈ t.itemIds ∨ (m.state.items.lookup itemId).isSome = true) :
      TaskMove m choice t m t'
  /-- `RebindLoop` goes on to wait, or ends for lack of work. -/
  | pace (t t' : Task) (rebindTimer rebindRunning : Bool) (ht : t.plain = true)
      (ht' : t'.plain = true) (hids : t'.itemIds = []) (hopen : m.state.closed = false) :
      TaskMove m choice t { m with state := { m.state with rebindTimer, rebindRunning } } t'
  | create (request : MonitoredItemCreateRequest) (routes : List MonitoredItemRoute)
      (consultedAt : Nat) (hopen : m.state.closed = false) :
      TaskMove m choice (.addItemCreate request routes consultedAt)
        { m with state := { m.state with
          nextItemId := (m.state.nextItemId + 1) % 2 ^ 32
          items := m.state.items.insert m.state.nextItemId
            { clientHandle := request.clientHandle, valueId := request.itemToMonitor } } }
        (addItemBound request m.state.nextItemId
          (BindRoutes.start m.state.nextItemId routes consultedAt))
  | route (itemId : Nat) (rest : List Nat) :
      TaskMove m choice (.rebindRoute itemId rest) m
        (rebindBound itemId m.failures rest (BindRoutes.start itemId choice.routes m.failures))
  | discard (request : MonitoredItemCreateRequest) (itemId : Nat) (item : Item)
      (hitem : m.state.items.lookup itemId = some item) (hempty : item.children = []) :
      TaskMove m choice (.addItemFinish request itemId) (m.eraseItem itemId)
        (refused request (noServiceStatus request.itemToMonitor))
  | remove (itemId : Nat) (item : Item) (hitem : m.state.items.lookup itemId = some item) :
      TaskMove m choice (.removeItem itemId) (m.eraseItem itemId)
        (.removeChildren itemId item.children)
  | removed (itemId : Nat) :
      TaskMove m choice (.removeChildren itemId []) m (.removed StatusCode.good)
  | skipChild (itemId : Nat) (child : Child) (rest : List Child)
      (hnone : m.state.pumps.lookup child.service = none) :
      TaskMove m choice (.removeChildren itemId (child :: rest)) m (.removeChildren itemId rest)
  | removeChild (itemId : Nat) (child : Child) (rest : List Child) (pump : PumpPtr)
      (hpump : m.state.pumps.lookup child.service = some pump) :
      TaskMove m choice (.removeChildren itemId (child :: rest))
        { m with removals := m.removals ++
          [{ itemId, childId := child.childId, issuedTo := pump.pump,
             returnedBy := child.pump }] }
        (.removeChildren itemId rest)
  | write (itemId : Nat) (allBound : Bool) (consultedAt : Nat) (rest : List Nat) (item : Item)
      (hitem : m.state.items.lookup itemId = some item) :
      TaskMove m choice (.rebindWrite itemId allBound consultedAt rest)
        (m.setItem itemId (rebound item allBound consultedAt)) (.rebindVisit rest)
  | addItemBind (request : MonitoredItemCreateRequest) (call : BindRoutes) (m' : Multiplexing)
      (outcome : BindRoutes.Outcome) (hbind : BindMove m call choice m' outcome) :
      TaskMove m choice (.addItemBind request call) m' (addItemBound request call.item outcome)
  | rebindBind (call : BindRoutes) (rest : List Nat) (m' : Multiplexing)
      (outcome : BindRoutes.Outcome) (hbind : BindMove m call choice m' outcome) :
      TaskMove m choice (.rebindBind call rest) m'
        (rebindBound call.item call.consultedAt rest outcome)

section TaskMove

variable {m : Multiplexing} {choice : Choice}

theorem mem_pendingItems {state : State} {itemId : Nat} (h : itemId ∈ pendingItems state) :
    (state.items.lookup itemId).isSome = true := by
  obtain ⟨entry, hentry, rfl⟩ := List.mem_map.mp h
  rw [AList.lookup_isSome]
  exact List.mem_keys_of_mem (List.mem_of_mem_filter hentry)

theorem stepTask_move (m : Multiplexing) (choice : Choice) (t : Task) :
    TaskMove m choice t (m.stepTask choice t).1 (m.stepTask choice t).2 := by
  cases t with
  | addItem request | addItemRoute request =>
    dsimp only [stepTask]
    split <;> exact .goOn _ _ rfl rfl (by simp [refused, Task.itemIds])
  | addItemCreate request routes consultedAt =>
    dsimp only [stepTask, stepAddItemCreate]
    split
    · exact .goOn _ _ rfl rfl (by simp [refused, Task.itemIds])
    · exact .create request routes consultedAt (Bool.eq_false_iff.mpr ‹_›)
  | addItemBind request call =>
    exact .addItemBind request call _ _ (stepBind_move m call choice)
  | addItemFinish request itemId =>
    dsimp only [stepTask, stepAddItemFinish]
    split
    · exact .goOn _ _ rfl rfl (by simp [refused, Task.itemIds])
    · rename_i item hitem
      split
      · rename_i hempty
        exact .discard request itemId item hitem (List.isEmpty_iff.mp hempty)
      · exact .goOn _ _ rfl rfl (by simp [Task.itemIds])
  | removeItem itemId =>
    dsimp only [stepTask, stepRemoveItem]
    split
    · exact .goOn _ _ rfl rfl (by simp [Task.itemIds])
    · exact .remove itemId _ ‹_›
  | removeChildren itemId children =>
    cases children with
    | nil => exact .removed itemId
    | cons child rest =>
      dsimp only [stepTask, stepRemoveChildren]
      split
      · exact .skipChild itemId child rest ‹_›
      · exact .removeChild itemId child rest _ ‹_›
  | rebindWait =>
    dsimp only [stepTask]
    split
    · exact .goOn _ _ rfl rfl (by simp [Task.itemIds])
    · exact .pace _ _ true m.state.rebindRunning rfl rfl rfl (Bool.eq_false_iff.mpr ‹_›)
  | rebindCollect =>
    dsimp only [stepTask, stepRebindCollect]
    split
    · exact .goOn _ _ rfl rfl (by simp [Task.itemIds])
    · split
      · exact .pace _ _ false false rfl rfl rfl (Bool.eq_false_iff.mpr ‹_›)
      · refine .goOn _ _ rfl rfl ?_
        exact fun itemId hmem => Or.inr (mem_pendingItems hmem)
  | rebindVisit rest =>
    cases rest with
    | nil => exact .goOn _ _ rfl rfl (by simp [stepTask, stepRebindVisit, Task.itemIds])
    | cons itemId rest =>
      dsimp only [stepTask, stepRebindVisit]
      split
      · exact .goOn _ _ rfl rfl (by simp [Task.itemIds])
      · split
        · exact .goOn _ _ rfl rfl (fun _ hmem => Or.inl hmem)
        · exact .goOn _ _ rfl rfl fun _ hmem => Or.inl (List.mem_cons_of_mem _ hmem)
  | rebindRoute itemId rest => exact .route itemId rest
  | rebindBind call rest => exact .rebindBind call rest _ _ (stepBind_move m call choice)
  | rebindWrite itemId allBound consultedAt rest =>
    dsimp only [stepTask, stepRebindWrite]
    split
    · exact .goOn _ _ rfl rfl fun _ hmem => Or.inl (List.mem_cons_of_mem _ hmem)
    · exact .write itemId allBound consultedAt rest _ ‹_›
  | _ => exact .goOn _ _ rfl rfl (by simp [stepTask, Task.itemIds])

end TaskMove

end Multiplexing

end ScadaCore.Scada
