import Mathlib.Data.Set.Insert
import Mathlib.Logic.Function.Basic

/-!
# Lts.Custody — things that are made by one, used by many and given up

Workers make things: a worker reserves a number, makes the thing while nobody else
knows of it, and publishes it under its key, unless it finds the key taken and
discards it again. What is published can be withdrawn, which ends its life, and
all of it can be withdrawn at once.

Others come to know a thing while it is published and keep the handle, although
it may be withdrawn at any time. `Known` is what they can rely on: the handle is
the one that is published under the key, or the thing is gone and never comes
back. Addresses are no help, as they are used again; what is behind it is that a
number is reserved once, by one worker at a time (`Inv`).
-/

namespace Lts

open Function

/-- How handles name things. -/
structure Naming (H T K : Type*) where
  thing : H → T
  number : T → Nat
  key : T → K

/-- Who has what: the numbers reserved and the things made by the workers, the things
that are alive, and those that are published. -/
@[ext]
structure Custody (W K H : Type*) where
  next : Nat
  reserved : W → Option Nat
  made : W → Option H
  live : Set H
  published : K → Option H

namespace Custody

variable {W T K H : Type*} (N : Naming H T K)

def empty (next : Nat) : Custody W K H where
  next := next
  reserved _ := none
  made _ := none
  live := ∅
  published _ := none

/-- The steps of workers and of those who withdraw things. -/
inductive Step [DecidableEq W] [DecidableEq K] (s : Custody W K H) : Custody W K H → Prop where
  | stutter : Step s s
  | giveUp (w : W) (hmade : s.made w = none) :
      Step s { s with reserved := Function.update s.reserved w none }
  | reserve (w : W) (hmade : s.made w = none) :
      Step s { s with
        next := s.next + 1
        reserved := Function.update s.reserved w (some s.next) }
  | make (w : W) (h : H) (hreserved : s.reserved w = some (N.number (N.thing h)))
      (hmade : s.made w = none) :
      Step s { s with made := Function.update s.made w (some h), live := insert h s.live }
  | discard (w : W) (h : H) (hmade : s.made w = some h) :
      Step s { s with
        reserved := Function.update s.reserved w none
        made := Function.update s.made w none
        live := s.live \ {h} }
  | publish (w : W) (h : H) (hmade : s.made w = some h)
      (hnone : s.published (N.key (N.thing h)) = none) :
      Step s { s with
        reserved := Function.update s.reserved w none
        made := Function.update s.made w none
        published := Function.update s.published (N.key (N.thing h)) (some h) }
  | withdraw (k : K) (h : H) (hpublished : s.published k = some h) :
      Step s { s with published := Function.update s.published k none, live := s.live \ {h} }
  | withdrawAll :
      Step s { s with
        published := fun _ => none
        live := {h ∈ s.live | ∀ k, s.published k ≠ some h} }

/-- Numbers are reserved once, and what is alive is published or still with the
worker that made it. -/
structure Inv (s : Custody W K H) : Prop where
  reserved_lt : ∀ w n, s.reserved w = some n → n < s.next
  alone : ∀ w w' n, s.reserved w = some n → s.reserved w' = some n → w = w'
  made_reserved : ∀ w h, s.made w = some h → s.reserved w = some (N.number (N.thing h))
  published_key : ∀ k h, s.published k = some h → N.key (N.thing h) = k
  published_lt : ∀ k h, s.published k = some h → N.number (N.thing h) < s.next
  published_free : ∀ k h w, s.published k = some h → s.reserved w ≠ some (N.number (N.thing h))
  placed : ∀ h ∈ s.live, s.published (N.key (N.thing h)) = some h ∨ ∃ w, s.made w = some h

variable {N} {s s' : Custody W K H}

theorem Inv.empty (next : Nat) : Inv N (Custody.empty next : Custody W K H) := by
  constructor <;> simp [Custody.empty]

theorem update_none_eq_some {ι β : Type*} [DecidableEq ι] {f : ι → Option β} {i i' : ι} {b : β}
    (h : update f i none i' = some b) : i' ≠ i ∧ f i' = some b := by
  by_cases heq : i' = i
  · subst heq
    rw [update_self] at h
    cases h
  · exact ⟨heq, by rwa [update_of_ne heq] at h⟩

theorem update_some_eq_some {ι β : Type*} [DecidableEq ι] {f : ι → Option β} {i i' : ι} {b b' : β}
    (h : update f i (some b) i' = some b') :
    (i' = i ∧ b' = b) ∨ (i' ≠ i ∧ f i' = some b') := by
  by_cases heq : i' = i
  · subst heq
    rw [update_self] at h
    exact Or.inl ⟨rfl, (Option.some.inj h).symm⟩
  · exact Or.inr ⟨heq, by rwa [update_of_ne heq] at h⟩

variable {w : W} {x : H}

theorem ne_of_made {w' : W} (hmade : s.made w = none) (hx : s.made w' = some x) : w' ≠ w := by
  rintro rfl
  rw [hmade] at hx
  cases hx

section

variable (h : Inv N s)

include h

section

variable [DecidableEq W]

/-- A number that a worker gives up is free. -/
theorem Inv.giveUp (hmade : s.made w = none) :
    Inv N { s with reserved := update s.reserved w none } where
  reserved_lt w' n hn := h.reserved_lt w' n (update_none_eq_some hn).2
  alone w' w'' n hn hn' := h.alone w' w'' n (update_none_eq_some hn).2 (update_none_eq_some hn').2
  made_reserved w' x hx :=
    (update_of_ne (ne_of_made hmade hx) ..).trans (h.made_reserved w' x hx)
  published_key := h.published_key
  published_lt := h.published_lt
  published_free k x w' hx hn := h.published_free k x w' hx (update_none_eq_some hn).2
  placed := h.placed

theorem Inv.reserve (hmade : s.made w = none) :
    Inv N { s with
      next := s.next + 1
      reserved := update s.reserved w (some s.next) } where
  reserved_lt w' n hn := by
    rcases update_some_eq_some hn with ⟨-, rfl⟩ | ⟨-, hold⟩
    · exact Nat.lt_succ_self _
    · exact Nat.lt_succ_of_lt (h.reserved_lt w' n hold)
  alone w' w'' n hn hn' := by
    -- the new number is above all that are reserved
    rcases update_some_eq_some hn with ⟨rfl, rfl⟩ | ⟨-, hold⟩
    · rcases update_some_eq_some hn' with ⟨rfl, -⟩ | ⟨-, hold'⟩
      · rfl
      · exact absurd (h.reserved_lt w'' _ hold') (Nat.lt_irrefl _)
    · rcases update_some_eq_some hn' with ⟨rfl, rfl⟩ | ⟨-, hold'⟩
      · exact absurd (h.reserved_lt w' _ hold) (Nat.lt_irrefl _)
      · exact h.alone w' w'' n hold hold'
  made_reserved w' x hx :=
    (update_of_ne (ne_of_made hmade hx) ..).trans (h.made_reserved w' x hx)
  published_key := h.published_key
  published_lt k x hx := Nat.lt_succ_of_lt (h.published_lt k x hx)
  published_free k x w' hx hn := by
    rcases update_some_eq_some hn with ⟨-, heq⟩ | ⟨-, hold⟩
    · exact absurd (heq ▸ h.published_lt k x hx) (Nat.lt_irrefl _)
    · exact h.published_free k x w' hx hold
  placed := h.placed

theorem Inv.make (hreserved : s.reserved w = some (N.number (N.thing x)))
    (hmade : s.made w = none) :
    Inv N { s with made := update s.made w (some x), live := insert x s.live } where
  reserved_lt := h.reserved_lt
  alone := h.alone
  made_reserved w' x' hx' := by
    rcases update_some_eq_some hx' with ⟨rfl, rfl⟩ | ⟨-, hold⟩
    · exact hreserved
    · exact h.made_reserved w' x' hold
  published_key := h.published_key
  published_lt := h.published_lt
  published_free := h.published_free
  placed x' hx' := by
    rcases hx' with rfl | hold
    · exact Or.inr ⟨w, update_self ..⟩
    · rcases h.placed x' hold with hpub | ⟨w', hw'⟩
      · exact Or.inl hpub
      · exact Or.inr ⟨w', (update_of_ne (ne_of_made hmade hw') ..).trans hw'⟩

theorem Inv.discard (hmade : s.made w = some x) :
    Inv N { s with
      reserved := update s.reserved w none
      made := update s.made w none
      live := s.live \ {x} } where
  reserved_lt w' n hn := h.reserved_lt w' n (update_none_eq_some hn).2
  alone w' w'' n hn hn' := h.alone w' w'' n (update_none_eq_some hn).2 (update_none_eq_some hn').2
  made_reserved w' x' hx' := by
    obtain ⟨hne, hold⟩ := update_none_eq_some hx'
    exact (update_of_ne hne ..).trans (h.made_reserved w' x' hold)
  published_key := h.published_key
  published_lt := h.published_lt
  published_free k x' w' hx' hn := h.published_free k x' w' hx' (update_none_eq_some hn).2
  placed x' hx' := by
    rcases h.placed x' hx'.1 with hpub | ⟨w', hw'⟩
    · exact Or.inl hpub
    · have hne : w' ≠ w := by
        rintro rfl
        rw [hmade] at hw'
        exact hx'.2 (Option.some.inj hw').symm
      exact Or.inr ⟨w', (update_of_ne hne ..).trans hw'⟩

theorem Inv.publish [DecidableEq K] (hmade : s.made w = some x)
    (hnone : s.published (N.key (N.thing x)) = none) :
    Inv N { s with
      reserved := update s.reserved w none
      made := update s.made w none
      published := update s.published (N.key (N.thing x)) (some x) } where
  reserved_lt w' n hn := h.reserved_lt w' n (update_none_eq_some hn).2
  alone w' w'' n hn hn' := h.alone w' w'' n (update_none_eq_some hn).2 (update_none_eq_some hn').2
  made_reserved w' x' hx' := by
    obtain ⟨hne, hold⟩ := update_none_eq_some hx'
    exact (update_of_ne hne ..).trans (h.made_reserved w' x' hold)
  published_key k x' hx' := by
    rcases update_some_eq_some hx' with ⟨rfl, rfl⟩ | ⟨-, hold⟩
    · rfl
    · exact h.published_key k x' hold
  published_lt k x' hx' := by
    rcases update_some_eq_some hx' with ⟨-, rfl⟩ | ⟨-, hold⟩
    · exact h.reserved_lt w _ (h.made_reserved w x' hmade)
    · exact h.published_lt k x' hold
  published_free k x' w' hx' hn := by
    obtain ⟨hne, hreserved⟩ := update_none_eq_some hn
    rcases update_some_eq_some hx' with ⟨-, rfl⟩ | ⟨-, hold⟩
    · -- its number was reserved by the worker that made it, and by nobody else
      exact hne (h.alone w' w _ hreserved (h.made_reserved w x' hmade))
    · exact h.published_free k x' w' hold hreserved
  placed x' hx' := by
    rcases h.placed x' hx' with hpub | ⟨w', hw'⟩
    · have hne : N.key (N.thing x') ≠ N.key (N.thing x) := by
        intro heq
        rw [heq, hnone] at hpub
        cases hpub
      exact Or.inl ((update_of_ne hne ..).trans hpub)
    · by_cases heq : w' = w
      · subst heq
        rw [hmade] at hw'
        cases hw'
        exact Or.inl (update_self ..)
      · exact Or.inr ⟨w', (update_of_ne heq ..).trans hw'⟩

end

theorem Inv.withdraw [DecidableEq K] {k : K} (hpublished : s.published k = some x) :
    Inv N { s with published := update s.published k none, live := s.live \ {x} } where
  reserved_lt := h.reserved_lt
  alone := h.alone
  made_reserved := h.made_reserved
  published_key k' x' hx' := h.published_key k' x' (update_none_eq_some hx').2
  published_lt k' x' hx' := h.published_lt k' x' (update_none_eq_some hx').2
  published_free k' x' w hx' := h.published_free k' x' w (update_none_eq_some hx').2
  placed x' hx' := by
    rcases h.placed x' hx'.1 with hpub | hmade
    · have hne : N.key (N.thing x') ≠ k := by
        rintro rfl
        rw [hpublished] at hpub
        exact hx'.2 (Option.some.inj hpub).symm
      exact Or.inl ((update_of_ne hne ..).trans hpub)
    · exact Or.inr hmade

theorem Inv.withdrawAll :
    Inv N { s with
      published := fun _ => none
      live := {x ∈ s.live | ∀ k, s.published k ≠ some x} } where
  reserved_lt := h.reserved_lt
  alone := h.alone
  made_reserved := h.made_reserved
  published_key _ _ hno := by cases hno
  published_lt _ _ hno := by cases hno
  published_free _ _ _ hno := by cases hno
  placed x hx := by
    rcases h.placed x hx.1 with hpub | hmade
    · exact absurd hpub (hx.2 _)
    · exact Or.inr hmade

theorem Inv.step [DecidableEq W] [DecidableEq K] (hstep : Step N s s') : Inv N s' := by
  cases hstep with
  | stutter => exact h
  | giveUp w hmade => exact h.giveUp hmade
  | reserve w hmade => exact h.reserve hmade
  | make w x hreserved hmade => exact h.make hreserved hmade
  | discard w x hmade => exact h.discard hmade
  | publish w x hmade hnone => exact h.publish hmade hnone
  | withdraw k x hpublished => exact h.withdraw hpublished
  | withdrawAll => exact h.withdrawAll

end

/-! ## What one can know of a thing -/

variable (N) in
/-- The thing has come to its end, and nobody can make it again. -/
structure Gone (s : Custody W K H) (t : T) : Prop where
  lt : N.number t < s.next
  free : ∀ w, s.reserved w ≠ some (N.number t)
  dead : ∀ x ∈ s.live, N.thing x ≠ t

variable (N) in
/-- A handle that was published once: it still is, or the thing is gone. -/
def Known (s : Custody W K H) (x : H) : Prop :=
  s.published (N.key (N.thing x)) = some x ∨ Gone N s (N.thing x)

theorem Inv.eq_of_live (h : Inv N s) {x' : H}
    (hpublished : s.published (N.key (N.thing x)) = some x) (hlive : x' ∈ s.live)
    (hsame : N.thing x' = N.thing x) : x' = x := by
  rcases h.placed x' hlive with hpub | ⟨w, hmade⟩
  · rw [hsame, hpublished] at hpub
    exact (Option.some.inj hpub).symm
  · -- a second handle would be with a worker that has reserved the same number
    have hreserved := h.made_reserved w x' hmade
    rw [hsame] at hreserved
    exact absurd hreserved (h.published_free _ x w hpublished)

theorem Known.published_of_live {x' : H} (hknown : Known N s x) (hlive : x' ∈ s.live)
    (hsame : N.thing x' = N.thing x) : s.published (N.key (N.thing x)) = some x := by
  rcases hknown with hpublished | hgone
  · exact hpublished
  · exact absurd hsame (hgone.dead x' hlive)

variable [DecidableEq W] [DecidableEq K]

theorem Step.congr {t : Custody W K H} (h : Step N s s') (heq : t = s') : Step N s t := heq ▸ h

theorem Gone.step {t : T} (h : Gone N s t) (hstep : Step N s s') : Gone N s' t := by
  cases hstep with
  | stutter => exact h
  | giveUp w
  | publish w x => exact ⟨h.lt, fun w' hn => h.free w' (update_none_eq_some hn).2, h.dead⟩
  | reserve w =>
    refine ⟨Nat.lt_succ_of_lt h.lt, ?_, h.dead⟩
    intro w' hn
    rcases update_some_eq_some hn with ⟨-, heq⟩ | ⟨-, hold⟩
    · exact absurd (heq ▸ h.lt) (Nat.lt_irrefl _)
    · exact h.free w' hold
  | make w x hreserved =>
    refine ⟨h.lt, h.free, ?_⟩
    rintro x' (rfl | hold)
    · rintro rfl
      exact h.free w hreserved
    · exact h.dead x' hold
  | discard w x =>
    exact ⟨h.lt, fun w' hn => h.free w' (update_none_eq_some hn).2, fun x' hx' => h.dead x' hx'.1⟩
  | withdraw k x | withdrawAll => exact ⟨h.lt, h.free, fun x' hx' => h.dead x' hx'.1⟩

/-- **Known for good**: a handle that was published once stays what it is, or its thing
is gone. -/
theorem Known.step (h : Inv N s) (hknown : Known N s x) (hstep : Step N s s') : Known N s' x := by
  rcases hknown with hpublished | hgone
  swap
  · exact Or.inr (hgone.step hstep)
  cases hstep with
  | publish w x' hmade hnone =>
    left
    have hne : N.key (N.thing x) ≠ N.key (N.thing x') := by
      intro heq
      rw [heq, hnone] at hpublished
      cases hpublished
    exact (update_of_ne hne ..).trans hpublished
  | withdraw k x' hwithdrawn =>
    by_cases heq : N.key (N.thing x) = k
    · -- it is the one withdrawn
      subst heq
      rw [hpublished] at hwithdrawn
      cases hwithdrawn
      refine Or.inr ⟨h.published_lt _ x hpublished, ?_, ?_⟩
      · exact fun w => h.published_free _ x w hpublished
      · exact fun x' hx' hsame => hx'.2 (h.eq_of_live hpublished hx'.1 hsame)
    · exact Or.inl ((update_of_ne heq ..).trans hpublished)
  | withdrawAll =>
    refine Or.inr ⟨h.published_lt _ x hpublished, ?_, ?_⟩
    · exact fun w => h.published_free _ x w hpublished
    · intro x' hx' hsame
      rw [h.eq_of_live hpublished hx'.1 hsame] at hx'
      exact hx'.2 _ hpublished
  | _ => exact Or.inl hpublished

theorem Known.live_before {x' : H} (h : Inv N s) (hknown : Known N s x) (hstep : Step N s s')
    (hlive : x' ∈ s'.live) (hsame : N.thing x' = N.thing x) :
    ∃ x'' ∈ s.live, N.thing x'' = N.thing x := by
  cases hstep with
  | make w y hreserved =>
    -- whoever makes a thing has its number reserved
    rcases hlive with rfl | hold
    · rw [hsame] at hreserved
      rcases hknown with hpublished | hgone
      · exact absurd hreserved (h.published_free _ x w hpublished)
      · exact absurd hreserved (hgone.free w)
    · exact ⟨x', hold, hsame⟩
  | discard | withdraw | withdrawAll => exact ⟨x', hlive.1, hsame⟩
  | _ => exact ⟨x', hlive, hsame⟩

end Custody

end Lts
