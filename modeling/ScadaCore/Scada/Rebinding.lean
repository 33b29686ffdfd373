import ScadaCore.Scada.MultiplexingEffects

/-!
# Scada.Rebinding — no backend failure is forgotten

An item that loses a backend is to be routed again: it keeps `needs_rebind`
until a pass of `RebindLoop` has bound it on every route. The pass clears the
flag by a write after it has waited for the backends, and that write does not
look at what happened to the item in the meantime.
-/

namespace ScadaCore.Scada

namespace Multiplexing

def binds : Task → Option Nat
  | .addItemBind _ call => some call.item
  | .rebindBind call _ => some call.item
  | .rebindWrite itemId _ _ _ => some itemId
  | _ => none

/-- Every failure that took a child off an existing item is still to be dealt
with, or being dealt with, or a pass that asked the router after it bound all
the routes it got. -/
def NoLostRebind (m : Multiplexing) : Prop :=
  ∀ itemId item, m.state.items.lookup itemId = some item → ∀ failure ∈ item.losses,
    item.needsRebind = true ∨ (∃ t ∈ m.tasks, binds t = some itemId) ∨ failure < item.coveredAt

/-- The item whose flag a pass of `RebindLoop` is about to clear, and when the
pass asked the router. -/
def clears : Task → Option (Nat × Nat)
  | .rebindWrite itemId true consultedAt _ => some (itemId, consultedAt)
  | _ => none

/-- A pass that bound every route writes only if its router was asked after the
last failure that hit the item. -/
abbrev WritesInTime (m : Multiplexing) : Event → Prop :=
  Event.OnRun fun task _ =>
    ∀ write ∈ (m.tasks[task]?).bind clears, ∀ item ∈ m.state.items.lookup write.1,
      ∀ failure ∈ item.losses, failure < write.2

/-- The flag is set, or all failures are covered. -/
def Remembers (item : Item) : Prop :=
  ∀ failure ∈ item.losses, item.needsRebind = true ∨ failure < item.coveredAt

theorem remembers_loseBackend {item : Item} (h : Remembers item) (service failure : Nat) :
    Remembers (State.loseBackend service failure item) := by
  unfold State.loseBackend
  split
  · intro failure' _
    exact Or.inl rfl
  · exact h

theorem remembers_rebound {item : Item} {allBound : Bool} {consultedAt : Nat}
    (htime : allBound = true → ∀ failure ∈ item.losses, failure < consultedAt) :
    Remembers (rebound item allBound consultedAt) := by
  intro failure hfailure
  cases allBound with
  | false => exact Or.inl rfl
  | true =>
    right
    have hlt : failure < consultedAt := htime rfl failure hfailure
    exact Nat.lt_of_lt_of_le hlt (Nat.le_max_right _ _)

def RebindInv (b : Books) : Prop := b.items.All fun _ item => Remembers item

theorem rebindInv_effect {m : Multiplexing} {e : Event} {b : Books} (h : RebindInv m.books)
    (hsafe : m.WritesInTime e) (heffect : Effect m e b) : RebindInv b := by
  cases heffect with
  | quiet => exact h
  | create _ clientHandle valueId =>
    -- a new item has not lost anything
    apply h.insert
    intro failure hfailure
    cases hfailure
  | erase _ itemId => exact h.erase itemId
  | publish => exact h
  | drop => exact h
  | bind task choice call pump childId item _ _ _ _ hitem =>
    -- a new child changes neither the flag nor the losses
    exact h.insert (h call.item item hitem)
  | orphan => exact h
  | removeOrphan => exact h
  | removeChild => exact h
  | write task choice itemId allBound consultedAt rest item htask hitem =>
    apply h.insert
    apply remembers_rebound
    intro hall
    subst hall
    have hclears : (m.tasks[task]?).bind clears = some (itemId, consultedAt) := by
      rw [htask]
      rfl
    exact hsafe _ hclears item hitem
  | readFails => exact h
  | ignore => exact h
  | fail handler pump status _ _ =>
    exact h.mapValues fun _ _ _ hitem => remembers_loseBackend hitem _ _
  | close => exact Table.all_empty
  | rehash items hperm => exact h.perm hperm

/-- **No failure is forgotten** in a run in which no pass of `RebindLoop` clears
the flag over a failure later than its routing. -/
theorem noLostRebind_of_writesInTime {es : List Event}
    (hsafe : system.Meets WritesInTime es) : system.Always NoLostRebind es := by
  have hinv : system.Always (fun m => RebindInv m.books) es := by
    refine system.always_of_meets _ _ Table.all_empty ?_ hsafe
    intro m e h hm
    exact rebindInv_effect h hm (m.step_effect e)
  refine system.always_mono ?_ hinv
  intro m h itemId item hlookup failure hfailure
  rcases h itemId item hlookup failure hfailure with hflag | hcovered
  · exact Or.inl hflag
  · exact Or.inr (Or.inr hcovered)

/-- `AddItem` on the backends 2 and 1. -/
def fanOut : List Event :=
  .addItem {} :: runs 0 [{}, routedTo [2, 1], {}] ++ runs 0 (bindNew 100 1) ++
    runs 0 (bindNew 101 1) ++ runs 0 [{}]

/-- `RebindLoop` finds the item bound to backend 2 and waits for backend 1 to
add it. -/
def rebindUntilAdd : List Event :=
  runs 1 [{}, {}, {}, routedTo [2, 1], {}, {}, {}, { started := some 101 }, {}]

/-- Backend 1 adds the item, and `RebindLoop` writes what it found. -/
def rebindFromAdd : List Event := runs 1 [{ answer := some 1 }, {}]

/-- Backend 1 fails and comes back. -/
def reboundRun : List Event := fanOut ++ pumpFails 2 1 ++ rebindUntilAdd ++ rebindFromAdd

theorem noLostRebind_of_writesInTime_reboundRun :
    system.Meets WritesInTime reboundRun ∧ system.Always NoLostRebind reboundRun := by
  have hsafe : system.Meets WritesInTime reboundRun := by
    rw [Lts.System.meets_iff_meetsFrom]
    decide +kernel
  exact ⟨hsafe, noLostRebind_of_writesInTime hsafe⟩

/-- Backend 2 fails as well, while backend 1 is adding the item again. -/
def lostRebindRun : List Event :=
  fanOut ++ pumpFails 2 1 ++ rebindUntilAdd ++ pumpFails 1 2 ++ rebindFromAdd

/-- The item has lost backend 2, and nothing will ever route it again. -/
theorem not_always_noLostRebind_lostRebindRun : ¬ system.Always NoLostRebind lostRebindRun := by
  intro halways
  have hlast := halways lostRebindRun (List.prefix_refl _)
  have hitem : (system.run lostRebindRun).state.items.lookup 1 = some
      { children := [{ service := 1, childId := 1, pump := { id := 3, service := 1 } }]
        losses := [1, 0], coveredAt := 1 } := by
    decide +kernel
  have hidle : ∀ t ∈ (system.run lostRebindRun).tasks, binds t ≠ some 1 := by decide +kernel
  rcases hlast 1 _ hitem 1 List.mem_cons_self with hflag | ⟨t, ht, hbinds⟩ | hcovered
  · cases hflag
  · exact hidle t ht hbinds
  · exact absurd hcovered (Nat.lt_irrefl 1)

end Multiplexing

end ScadaCore.Scada
