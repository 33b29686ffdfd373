import Mathlib.Data.List.Basic

/-!
# Data.Traversal — the elements of a structure

A `Traversal` says where a structure holds elements of certain sorts, an element
of the sort `k` being of the type `I k`. `mapAll` applies a map to all of them, and
`elems` lists them. The law says that nothing is missing from the list: the
structure stays as it is exactly if each of its elements does.
-/

theorem List.map_eq_self_iff {α : Type*} {f : α → α} {as : List α} :
    as.map f = as ↔ ∀ a ∈ as, f a = a := by
  induction as with
  | nil => simp
  | cons a as ih => simp [ih]

structure Traversal {κ : Type*} (I : κ → Type*) (α : Type*) where
  mapAll : (∀ k, I k → I k) → α → α
  elems : α → List (Sigma I)
  mapAll_eq_self_iff : ∀ (f : ∀ k, I k → I k) (a : α),
    mapAll f a = a ↔ ∀ e ∈ elems a, f e.1 e.2 = e.2 := by
      intro f a
      cases a <;> simp

namespace Traversal

variable {κ : Type*} {I : κ → Type*} {α : Type*}

def elem (k : κ) : Traversal I (I k) where
  mapAll f a := f k a
  elems a := [⟨k, a⟩]
  mapAll_eq_self_iff f a := by simp

def nothing (α : Type*) : Traversal I α where
  mapAll _ a := a
  elems _ := []
  mapAll_eq_self_iff f a := by simp

def snd (γ : Type*) (t : Traversal I α) : Traversal I (γ × α) where
  mapAll f a := (a.1, t.mapAll f a.2)
  elems a := t.elems a.2
  mapAll_eq_self_iff f a := by
    rw [Prod.ext_iff]
    simpa using t.mapAll_eq_self_iff f a.2

def list (t : Traversal I α) : Traversal I (List α) where
  mapAll f := List.map (t.mapAll f)
  elems := List.flatMap t.elems
  mapAll_eq_self_iff f as := by
    rw [List.map_eq_self_iff]
    simp only [t.mapAll_eq_self_iff, List.mem_flatMap]
    constructor
    · rintro h e ⟨a, ha, he⟩
      exact h a ha e he
    · intro h a ha e he
      exact h e ⟨a, ha, he⟩

theorem map_eq_list_mapAll_iff {t : Traversal I α} {f : ∀ k, I k → I k} {g : α → α}
    {missed : α → List (Sigma I)}
    (h : ∀ a, g a = t.mapAll f a ↔ ∀ e ∈ missed a, f e.1 e.2 = e.2) (as : List α) :
    as.map g = t.list.mapAll f as ↔ ∀ e ∈ as.flatMap missed, f e.1 e.2 = e.2 := by
  simp only [list, List.map_inj_left, h, List.mem_flatMap]
  constructor
  · rintro hall e ⟨a, ha, he⟩
    exact hall a ha e he
  · intro hall a ha e he
    exact hall e ⟨a, ha, he⟩

def option (t : Traversal I α) : Traversal I (Option α) where
  mapAll f := Option.map (t.mapAll f)
  elems a := a.toList.flatMap t.elems
  mapAll_eq_self_iff f a := by
    cases a with
    | none => simp
    | some a => simpa using t.mapAll_eq_self_iff f a

def except (ε : Type*) (t : Traversal I α) : Traversal I (Except ε α) where
  mapAll f := Except.map (t.mapAll f)
  elems a := a.toOption.toList.flatMap t.elems
  mapAll_eq_self_iff f a := by
    cases a with
    | error e => simp [Except.map, Except.toOption]
    | ok a => simpa [Except.map, Except.toOption] using t.mapAll_eq_self_iff f a

end Traversal
