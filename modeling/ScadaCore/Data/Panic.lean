import Mathlib.Data.List.Basic

/-!
# Data.Panic — computations that may panic

A computation that an assertion can stop is an `Option`: `none` is the panic.
`check` is the assertion. Of the two loop rules `foldlM_invariant` shows that a
loop does not panic, and `foldlM_preserves` is about one that did not.
-/

def check (condition : Bool) : Option Unit := if condition then some () else none

@[simp] theorem check_bind {α : Type} (condition : Bool) (f : Unit → Option α) :
    (check condition >>= f) = if condition then f () else none := by
  cases condition <;> rfl

theorem isSome_bind {α β : Type} {a : Option α} {f : α → Option β} (ha : a.isSome)
    (hf : ∀ x, (f x).isSome) : (a >>= f).isSome := by
  obtain ⟨x, rfl⟩ := Option.isSome_iff_exists.mp ha
  exact hf x

@[simp] theorem isSome_bind_some {α β : Type} (a : Option α) (f : α → β) :
    (a.bind fun x => some (f x)).isSome = a.isSome := by
  cases a <;> rfl

/-- The loop rule: `inv todo b` says that the elements `todo` are still to be
visited from `b`, and implies that visiting the first one does not panic. -/
theorem foldlM_invariant {α β : Type} {f : β → α → Option β} (inv : List α → β → Prop)
    (hstep : ∀ a todo b, inv (a :: todo) b → ∃ b', f b a = some b' ∧ inv todo b')
    {todo : List α} {b : β} (h : inv todo b) :
    ∃ b', todo.foldlM f b = some b' ∧ inv [] b' := by
  induction todo generalizing b with
  | nil => exact ⟨b, rfl, h⟩
  | cons a todo ih =>
    obtain ⟨b₁, hvisit, hinv⟩ := hstep a todo b h
    obtain ⟨b₂, hrest, hdone⟩ := ih hinv
    refine ⟨b₂, ?_, hdone⟩
    rw [List.foldlM_cons, hvisit]
    exact hrest

/-- What every step keeps that does not panic, a loop that does not panic
keeps. -/
theorem foldlM_preserves {α β : Type} {f : β → α → Option β} (p : β → Prop)
    (hstep : ∀ a b b', p b → f b a = some b' → p b') {l : List α} {b b' : β} (hb : p b)
    (hloop : l.foldlM f b = some b') : p b' := by
  induction l generalizing b with
  | nil =>
    cases hloop
    exact hb
  | cons a l ih =>
    rw [List.foldlM_cons] at hloop
    obtain ⟨b₁, hvisit, hrest⟩ := Option.bind_eq_some_iff.mp hloop
    exact ih (hstep a b b₁ hb hvisit) hrest

/-! ## Lists, element by element -/

theorem mapM_bind_mapM {α β γ : Type} (f : α → Option β) (g : β → Option γ) (l : List α) :
    (l.mapM f).bind (List.mapM g) = l.mapM fun a => (f a).bind g := by
  induction l with
  | nil => rfl
  | cons a l ih =>
    simp only [List.mapM_cons, ← ih]
    cases f a with
    | none => rfl
    | some b =>
      cases l.mapM f with
      | none => cases hb : g b <;> simp [hb]
      | some bs => simp [List.mapM_cons]

theorem mapM_eq_self_iff {α : Type} {f : α → Option α} {l : List α} :
    l.mapM f = some l ↔ ∀ a ∈ l, f a = some a := by
  induction l with
  | nil => simp
  | cons a l ih =>
    simp only [List.mapM_cons, List.forall_mem_cons, ← ih]
    cases f a <;> cases l.mapM f <;> simp

theorem mapM_isSome_iff {α β : Type} {f : α → Option β} {l : List α} :
    (l.mapM f).isSome ↔ ∀ a ∈ l, (f a).isSome := by
  induction l with
  | nil => simp
  | cons a l ih =>
    simp only [List.mapM_cons, List.forall_mem_cons, ← ih]
    cases f a <;> cases l.mapM f <;> simp

theorem mapM_isSome_of_mapM {α β γ : Type} {f : α → Option β} {g : β → Option γ} {l : List α}
    {l' : List β} (h : l.mapM f = some l') (hstep : ∀ a b, f a = some b → (g b).isSome) :
    (l'.mapM g).isSome := by
  have hboth : l'.mapM g = l.mapM fun a => (f a).bind g := by
    rw [← mapM_bind_mapM, h, Option.bind_some]
  rw [hboth, mapM_isSome_iff]
  intro a ha
  have hfirst : (l.mapM f).isSome := by rw [h]; rfl
  obtain ⟨b, hb⟩ := Option.isSome_iff_exists.mp (mapM_isSome_iff.mp hfirst a ha)
  rw [hb, Option.bind_some]
  exact hstep a b hb

theorem ne_nil_of_mapM {α β : Type} {f : α → Option β} {a : α} {l : List α} {l' : List β}
    (h : (a :: l).mapM f = some l') : l' ≠ [] := by
  simp only [List.mapM_cons, Option.bind_eq_bind, Option.bind_eq_some_iff] at h
  obtain ⟨b, -, bs, -, h⟩ := h
  cases h
  exact List.cons_ne_nil b bs
