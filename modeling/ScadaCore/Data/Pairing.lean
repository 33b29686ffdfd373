import Mathlib.Logic.Function.Basic

/-!
# Data.Pairing — partial maps that point back at each other

Two collections of objects that hold optional pointers to each other, `f` from
one side and `g` from the other. `PointsBack f g` is one half of their being
inverse to each other; the other half is `PointsBack g f`. Clearing a pointer
on both sides keeps either half, and so does setting one on both sides, as long
as the side the half starts from is the only one pointing there.
-/

/-- Whatever `f` points at points back by `g`. -/
def PointsBack {A B : Type} (f : A → Option B) (g : B → Option A) : Prop :=
  ∀ a b, f a = some b → g b = some a

namespace PointsBack

open Function

variable {A B : Type} [DecidableEq A] {f : A → Option B} {g : B → Option A}

/-- Clearing `a` alone: nothing is promised of what points at it. -/
theorem clear_left (h : PointsBack f g) (a : A) : PointsBack (update f a none) g := by
  intro a' b' hf
  by_cases ha : a' = a
  · subst ha
    simp at hf
  · rw [update_of_ne ha] at hf
    exact h a' b' hf

variable [DecidableEq B]

/-- Clearing `a` and `b` where `b` points at `a`. -/
theorem clear (h : PointsBack f g) {a : A} {b : B} (hb : g b = some a) :
    PointsBack (update f a none) (update g b none) := by
  intro a' b' hf
  by_cases ha : a' = a
  · subst ha
    simp at hf
  · rw [update_of_ne ha] at hf
    have hg := h a' b' hf
    have hne : b' ≠ b := by
      rintro rfl
      exact ha (Option.some.inj (hg.symm.trans hb))
    rw [update_of_ne hne]
    exact hg

/-- Setting `a` and `b` at each other where `b` points nowhere. -/
theorem link (h : PointsBack f g) (a : A) {b : B} (hb : g b = none) :
    PointsBack (update f a (some b)) (update g b (some a)) := by
  intro a' b' hf
  by_cases ha : a' = a
  · subst ha
    rw [update_self] at hf
    rw [← Option.some.inj hf, update_self]
  · rw [update_of_ne ha] at hf
    have hg := h a' b' hf
    have hne : b' ≠ b := by
      rintro rfl
      exact absurd (hg.symm.trans hb) (by simp)
    rw [update_of_ne hne]
    exact hg

end PointsBack
