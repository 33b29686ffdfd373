import Mathlib.Data.Nat.Init
import Mathlib.Logic.Function.Iterate

/-!
# Lts.Settling — a party that runs alone comes to rest

Where a system has several parties, the steps of one of them while the others do
nothing are the iterates of a function. The party `Settles` if it comes to rest
after finitely many of them.
-/

namespace Lts

variable {σ τ : Type*}

/-- After some number of steps the party is at rest. -/
def Settles (f : σ → σ) (rest : σ → Prop) (s : σ) : Prop := ∃ n, rest (f^[n] s)

variable {f : σ → σ} {rest : σ → Prop} {s : σ}

theorem Settles.now (h : rest s) : Settles f rest s := ⟨0, h⟩

theorem Settles.step (h : Settles f rest (f s)) : Settles f rest s := by
  obtain ⟨n, hn⟩ := h
  exact ⟨n + 1, by rwa [Function.iterate_succ_apply]⟩

theorem Settles.mono {rest' : σ → Prop} (h : Settles f rest s) (himp : ∀ s, rest s → rest' s) :
    Settles f rest' s := by
  obtain ⟨n, hn⟩ := h
  exact ⟨n, himp _ hn⟩

theorem settles_of_measure (inv : σ → Prop) (measure : σ → Nat)
    (hstep : ∀ s, inv s → rest s ∨ rest (f s) ∨ inv (f s) ∧ measure (f s) < measure s)
    (hs : inv s) : Settles f rest s := by
  induction hn : measure s using Nat.strong_induction_on generalizing s with
  | _ n ih =>
    rcases hstep s hs with hrest | hrest | ⟨hinv, hlt⟩
    · exact .now hrest
    · exact .step (.now hrest)
    · exact .step (ih _ (hn ▸ hlt) hinv rfl)

theorem not_settles_of_invariant (inv : σ → Prop) (hinv : ∀ s, inv s → inv (f s))
    (hbusy : ∀ s, inv s → ¬ rest s) (hs : inv s) : ¬ Settles f rest s := by
  rintro ⟨n, hn⟩
  exact hbusy _ (Function.Iterate.rec inv hs hinv n) hn

/-- A party `g` that does what `f` does, as long as `f` does anything, and settles
where `f` has come to rest. -/
theorem Settles.lift {g : τ → τ} {goal : τ → Prop} (embed : σ → τ) (h : Settles f rest s)
    (hlift : ∀ s, f s = s ∨ g (embed s) = embed (f s))
    (hrest : ∀ s, rest s → Settles g goal (embed s)) : Settles g goal (embed s) := by
  obtain ⟨n, hn⟩ := h
  induction n generalizing s with
  | zero => exact hrest s hn
  | succ n ih =>
    rcases hlift s with hidle | hstep
    · rw [Function.iterate_fixed hidle] at hn
      exact hrest s hn
    · refine .step ?_
      rw [hstep]
      exact ih hn

end Lts
