import Mathlib.Data.Set.Function

/-!
# Data.Patch — renaming what a partial map knows

`patch f` renames what `f` knows and leaves everything else as it is. Even if `f`
is injective, `patch f` is so only if no name that is left is also given out;
the same condition decides whether the partial inverse of `f` undoes it.
-/

namespace Patch

variable {α : Type*} {f g : α → Option α} {s : Set α}

def patch (f : α → Option α) (a : α) : α := (f a).getD a

theorem patch_of_some {a b : α} (h : f a = some b) : patch f a = b := by
  rw [patch, h, Option.getD_some]

theorem patch_of_none {a : α} (h : f a = none) : patch f a = a := by
  rw [patch, h, Option.getD_none]

/-- No name that is left is given out. -/
def Clear (f : α → Option α) (s : Set α) : Prop :=
  ∀ a ∈ s, f a = none → ∀ b ∈ s, f b ≠ some a

theorem injOn_patch_iff (hf : ∀ a ∈ s, ∀ b ∈ s, ∀ c, f a = some c → f b = some c → a = b) :
    Set.InjOn (patch f) s ↔ Clear f s := by
  constructor
  · intro hinj a ha hnone b hb hsome
    have heq : patch f a = patch f b := by rw [patch_of_none hnone, patch_of_some hsome]
    have hab : a = b := hinj ha hb heq
    rw [← hab, hnone] at hsome
    cases hsome
  · intro hclear a ha b hb heq
    cases hfa : f a with
    | none =>
      cases hfb : f b with
      | none => rwa [patch_of_none hfa, patch_of_none hfb] at heq
      | some c =>
        rw [patch_of_none hfa, patch_of_some hfb] at heq
        exact absurd (heq ▸ hfb) (hclear a ha hfa b hb)
    | some c =>
      rw [patch_of_some hfa] at heq
      cases hfb : f b with
      | none =>
        rw [patch_of_none hfb] at heq
        exact absurd (heq ▸ hfa) (hclear b hb hfb a ha)
      | some c' =>
        rw [patch_of_some hfb] at heq
        exact hf a ha b hb c hfa (heq ▸ hfb)

theorem leftInverse_patch_iff (hg : ∀ b a, g b = some a ↔ a ∈ s ∧ f a = some b) :
    (∀ a ∈ s, patch g (patch f a) = a) ↔ Clear f s := by
  constructor
  · intro hinv a ha hnone b hb hsome
    have hback : patch g a = b := patch_of_some ((hg a b).mpr ⟨hb, hsome⟩)
    have heq := hinv a ha
    rw [patch_of_none hnone, hback] at heq
    rw [heq, hnone] at hsome
    cases hsome
  · intro hclear a ha
    cases hfa : f a with
    | some b => rw [patch_of_some hfa, patch_of_some ((hg b a).mpr ⟨ha, hfa⟩)]
    | none =>
      rw [patch_of_none hfa]
      cases hga : g a with
      | none => exact patch_of_none hga
      | some b =>
        obtain ⟨hb, hfb⟩ := (hg a b).mp hga
        exact absurd hfb (hclear a ha hfa b hb)

end Patch
