import Mathlib.Data.List.Nodup
import Mathlib.Data.List.ReduceOption

/-!
# Data.Slots — a vector whose slots may be vacated

Whoever walks through a vector by its indices does not want them to move. So an element is
taken out by vacating its slot, and the walk skips the slots that are vacant. `skip` is where
it comes to next, and `between` what it still finds before a given slot.
-/

namespace Slots

variable {α : Type*}

/-! ## Skipping -/

def skip : List (Option α) → Nat → Nat
  | [], i => i
  | none :: rest, 0 => skip rest 0 + 1
  | some _ :: _, 0 => 0
  | _ :: rest, i + 1 => skip rest i + 1

theorem le_skip (slots : List (Option α)) (i : Nat) : i ≤ skip slots i := by
  fun_induction skip slots i <;> omega

variable {slots : List (Option α)}

theorem skip_spec {i : Nat} (h : skip slots i < slots.length) :
    ∃ x, slots[skip slots i]? = some (some x) := by
  fun_induction skip slots i with
  | case1 i => exact absurd h (Nat.not_lt_zero i)
  | case2 rest ih | case4 slot rest i ih =>
    rw [List.getElem?_cons_succ]
    exact ih (Nat.lt_of_succ_lt_succ h)
  | case3 x rest => exact ⟨x, rfl⟩

theorem skip_ne {j : Nat} (hj : slots[j]? = some none) (i : Nat) : skip slots i ≠ j := by
  rintro rfl
  obtain ⟨hlt, -⟩ := List.getElem?_eq_some_iff.mp hj
  obtain ⟨x, hx⟩ := skip_spec hlt
  rw [hx] at hj
  cases hj

theorem skip_le {i j : Nat} (hij : i ≤ j) (hlength : j ≤ slots.length)
    (hj : slots[j]? ≠ some none) : skip slots i ≤ j := by
  fun_induction skip slots i generalizing j with
  | case1 i => exact hij
  | case2 rest ih =>
    cases j with
    | zero => exact absurd rfl hj
    | succ j => exact Nat.succ_le_succ (ih (Nat.zero_le j) (Nat.le_of_succ_le_succ hlength) hj)
  | case3 x rest => exact Nat.zero_le j
  | case4 slot rest i ih =>
    cases j with
    | zero => omega
    | succ j =>
      exact Nat.succ_le_succ
        (ih (Nat.le_of_succ_le_succ hij) (Nat.le_of_succ_le_succ hlength) hj)

theorem skip_length (slots : List (Option α)) : skip slots slots.length = slots.length := by
  have hend : slots[slots.length]? ≠ some none := by simp
  exact Nat.le_antisymm (skip_le (Nat.le_refl _) (Nat.le_refl _) hend) (le_skip slots _)

/-! ## What is still to be found -/

def between (slots : List (Option α)) (i j : Nat) : List α := ((slots.take j).drop i).reduceOption

theorem between_zero_length (slots : List (Option α)) :
    between slots 0 slots.length = slots.reduceOption := by
  rw [between, List.take_length, List.drop_zero]

theorem between_of_le (slots : List (Option α)) {i j : Nat} (h : j ≤ i) : between slots i j = [] := by
  have hlength : (slots.take j).length ≤ i := Nat.le_trans (List.length_take_le j slots) h
  rw [between, List.drop_eq_nil_of_le hlength]
  rfl

theorem between_append (slots more : List (Option α)) {i j : Nat} (h : j ≤ slots.length) :
    between (slots ++ more) i j = between slots i j := by
  rw [between, List.take_append_of_le_length h]
  rfl

theorem between_cons {i j : Nat} {x : α} (hi : slots[i]? = some (some x)) (hij : i < j) :
    between slots i j = x :: between slots (i + 1) j := by
  have htake : (slots.take j)[i]? = some (some x) := by
    rw [List.getElem?_take_of_lt hij, hi]
  obtain ⟨hlt, heq⟩ := List.getElem?_eq_some_iff.mp htake
  rw [between, List.drop_eq_getElem_cons hlt, heq]
  exact List.reduceOption_cons_of_some x _

theorem between_skip (slots : List (Option α)) (i j : Nat) :
    between slots (skip slots i) j = between slots i j := by
  fun_induction skip slots i generalizing j with
  | case1 i => rfl
  | case2 rest ih =>
    cases j with
    | zero => rfl
    | succ j => exact ih j
  | case3 x rest => rfl
  | case4 slot rest i ih =>
    cases j with
    | zero => rw [between_of_le _ (Nat.zero_le _), between_of_le _ (Nat.zero_le _)]
    | succ j => exact ih j

/-! ## Vacating a slot -/

section Vacate

variable [DecidableEq α]

def without (x : α) (slot : Option α) : Option α := if slot = some x then none else slot

/-- Where the elements differ, to vacate the first slot with `x` is to vacate every one. -/
theorem set_idxOf_eq_map {slots : List (Option α)} (h : slots.reduceOption.Nodup) (x : α) :
    slots.set (slots.idxOf (some x)) none = slots.map (without x) := by
  induction slots with
  | nil => rfl
  | cons slot rest ih =>
    by_cases hslot : slot = some x
    · subst hslot
      rw [List.reduceOption_cons_of_some, List.nodup_cons, List.reduceOption_mem_iff] at h
      have hrest : rest.map (without x) = rest := by
        refine (List.map_congr_left ?_).trans (List.map_id rest)
        intro slot hmem
        refine if_neg ?_
        rintro rfl
        exact h.1 hmem
      simp [without, hrest]
    · have hnodup : rest.reduceOption.Nodup := by
        cases slot with
        | none => exact h
        | some y => exact (List.nodup_cons.mp h).2
      rw [List.idxOf_cons_ne _ hslot, List.set_cons_succ, ih hnodup, List.map_cons, without,
        if_neg hslot]

theorem reduceOption_map_without (slots : List (Option α)) (x : α) :
    (slots.map (without x)).reduceOption = slots.reduceOption.filter (· ≠ x) := by
  induction slots with
  | nil => rfl
  | cons slot rest ih =>
    cases slot with
    | none => exact ih
    | some y =>
      rw [List.map_cons, List.reduceOption_cons_of_some, List.filter_cons, ← ih]
      by_cases hxy : y = x
      · simp [without, hxy]
      · simp [without, hxy]

theorem between_map_without (slots : List (Option α)) (x : α) (i j : Nat) :
    between (slots.map (without x)) i j = (between slots i j).filter (· ≠ x) := by
  rw [between, ← List.map_take, ← List.map_drop]
  exact reduceOption_map_without _ x

end Vacate

end Slots
