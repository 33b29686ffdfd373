import Mathlib.Data.List.Infix

/-!
# Lts.System — event systems and their runs

A small library of event systems. The environment picks an event, the system
takes the one step that event causes, and an event that is not enabled leaves
the state unchanged. All the nondeterminism (answers of other parties, order
of completions, interleaving of tasks) is carried by the events, so a run is
just the list of events it consumed.

* `Always p es`: `p` holds in every state the run `es` goes through;
* `Meets c es`: every step of `es` is taken from a state and with an event
  that satisfy `c`;
* `collect f es`: what the steps of `es` put out, where a step puts out `f`;
* `invariant`, `always_of_meets`, `always_iff_meets`: the induction rules. The
  last one characterises exactly the runs on which `p` holds throughout, and
  `always_iff_meets_of` does so under assumptions on the environment;
* `runFrom_until`: something that waits for an event and then has ended for good;
* `meets_congr`: conditions that agree on an invariant are met by the same runs;
* `exists_reaches`, `length_le_measure`: progress towards a goal, and termination,
  by a measure.
-/

namespace Lts

/-- An event system over states `σ` and events `ε`. -/
structure System (σ : Type*) (ε : Type*) where
  init : σ
  step : σ → ε → σ

namespace System

variable {σ ε : Type*} (S : System σ ε)

def runFrom (s : σ) (es : List ε) : σ := es.foldl S.step s

def run (es : List ε) : σ := S.runFrom S.init es

@[simp] theorem runFrom_nil (s : σ) : S.runFrom s [] = s := rfl

@[simp] theorem runFrom_cons (s : σ) (e : ε) (es : List ε) :
    S.runFrom s (e :: es) = S.runFrom (S.step s e) es := rfl

theorem runFrom_append (s : σ) (es es' : List ε) :
    S.runFrom s (es ++ es') = S.runFrom (S.runFrom s es) es' :=
  List.foldl_append

@[simp] theorem run_nil : S.run [] = S.init := rfl

theorem run_append (es es' : List ε) : S.run (es ++ es') = S.runFrom (S.run es) es' :=
  S.runFrom_append S.init es es'

@[simp] theorem run_concat (es : List ε) (e : ε) : S.run (es ++ [e]) = S.step (S.run es) e := by
  rw [run_append, runFrom_cons, runFrom_nil]

/-- `p` holds in every state the run goes through. -/
def Always (p : σ → Prop) (es : List ε) : Prop :=
  ∀ pre, pre <+: es → p (S.run pre)

/-- Every step of the run satisfies `c`, a condition on the state before the
step and the event. -/
def Meets (c : σ → ε → Prop) (es : List ε) : Prop :=
  ∀ pre e, pre ++ [e] <+: es → c (S.run pre) e

variable {es : List ε} {s : σ}

theorem meets_of_prefix {c : σ → ε → Prop} {es' : List ε} (h : S.Meets c es') (hpre : es <+: es') :
    S.Meets c es :=
  fun pre e hp => h pre e (hp.trans hpre)

/-- `Meets` from any state, by recursion on the events; this form is checked one
event at a time. -/
def MeetsFrom (c : σ → ε → Prop) (s : σ) : List ε → Prop
  | [] => True
  | e :: es => c s e ∧ MeetsFrom c (S.step s e) es

instance decidableMeetsFrom (c : σ → ε → Prop) [∀ s e, Decidable (c s e)] :
    ∀ (s : σ) (es : List ε), Decidable (S.MeetsFrom c s es)
  | _, [] => inferInstanceAs (Decidable True)
  | s, e :: es =>
    have := decidableMeetsFrom c (S.step s e) es
    inferInstanceAs (Decidable (c s e ∧ S.MeetsFrom c (S.step s e) es))

theorem meetsFrom_iff (c : σ → ε → Prop) (s : σ) (es : List ε) :
    S.MeetsFrom c s es ↔ ∀ pre e, pre ++ [e] <+: es → c (S.runFrom s pre) e := by
  induction es generalizing s with
  | nil => simp [MeetsFrom]
  | cons e es ih =>
    rw [MeetsFrom, ih]
    constructor
    · rintro ⟨hhead, htail⟩ pre e' hpre
      cases pre with
      | nil =>
        obtain ⟨rfl, -⟩ := List.cons_prefix_cons.mp hpre
        exact hhead
      | cons e₀ pre =>
        obtain ⟨rfl, hrest⟩ := List.cons_prefix_cons.mp hpre
        exact htail pre e' hrest
    · intro hall
      refine ⟨hall [] e (List.prefix_append [e] es), ?_⟩
      intro pre e' hpre
      exact hall (e :: pre) e' (List.cons_prefix_cons.mpr ⟨rfl, hpre⟩)

theorem meets_iff_meetsFrom (c : σ → ε → Prop) (es : List ε) :
    S.Meets c es ↔ S.MeetsFrom c S.init es :=
  (S.meetsFrom_iff c S.init es).symm

theorem meetsFrom_append (c : σ → ε → Prop) (s : σ) (es es' : List ε) :
    S.MeetsFrom c s (es ++ es') ↔ S.MeetsFrom c s es ∧ S.MeetsFrom c (S.runFrom s es) es' := by
  induction es generalizing s with
  | nil => simp [MeetsFrom]
  | cons e es ih => simp [MeetsFrom, ih, and_assoc]

/-! ## What a run puts out -/

section Collect

variable {β : Type*} (f : σ → ε → List β)

/-- What the steps of a run put out, in order. -/
def collectFrom (s : σ) : List ε → List β
  | [] => []
  | e :: es => f s e ++ collectFrom (S.step s e) es

def collect (es : List ε) : List β := S.collectFrom f S.init es

@[simp] theorem collect_nil : S.collect f [] = [] := rfl

theorem collectFrom_append (s : σ) (es es' : List ε) :
    S.collectFrom f s (es ++ es') =
      S.collectFrom f s es ++ S.collectFrom f (S.runFrom s es) es' := by
  induction es generalizing s with
  | nil => rfl
  | cons e es ih => simp [collectFrom, ih]

@[simp] theorem collect_concat (es : List ε) (e : ε) :
    S.collect f (es ++ [e]) = S.collect f es ++ f (S.run es) e := by
  simp [collect, collectFrom_append, collectFrom, run]

theorem map_collect {γ : Type*} (g : β → γ) (es : List ε) :
    (S.collect f es).map g = S.collect (fun s e => (f s e).map g) es := by
  induction es using List.reverseRecOn with
  | nil => rfl
  | append_singleton es e ih => rw [collect_concat, collect_concat, List.map_append, ih]

theorem mem_collect_iff {es : List ε} {x : β} :
    x ∈ S.collect f es ↔ ∃ pre e, pre ++ [e] <+: es ∧ x ∈ f (S.run pre) e := by
  induction es using List.reverseRecOn with
  | nil => simp
  | append_singleton es e ih =>
    rw [collect_concat, List.mem_append, ih]
    constructor
    · rintro (⟨pre, e', hpre, hx⟩ | hx)
      · exact ⟨pre, e', hpre.trans (List.prefix_append es [e]), hx⟩
      · exact ⟨es, e, List.prefix_refl _, hx⟩
    · rintro ⟨pre, e', hpre, hx⟩
      rcases List.prefix_concat_iff.mp hpre with heq | hshort
      · obtain ⟨rfl, rfl⟩ := List.append_inj' heq rfl |>.imp id List.singleton_inj.mp
        exact Or.inr hx
      · exact Or.inl ⟨pre, e', hshort, hx⟩

theorem collect_append (es es' : List ε) :
    S.collect f (es ++ es') = S.collect f es ++ S.collectFrom f (S.run es) es' :=
  S.collectFrom_append f S.init es es'

theorem collect_prefix {es es' : List ε} (h : es <+: es') : S.collect f es <+: S.collect f es' := by
  obtain ⟨more, rfl⟩ := h
  rw [collect_append]
  exact List.prefix_append _ _

/-- The rule for one participant of a run, whose own moves are among the events.
`stage todo out s` says that in the state `s` it has the moves `todo` to make and
will put out `out` with them: a move of its own takes the first off, and the events
of the others, under the condition `c`, change nothing of that. -/
theorem collectFrom_interleaved {μ : Type*} (own : ε → Option μ)
    (stage : List μ → List β → σ → Prop) (c : σ → ε → Prop)
    (hown : ∀ s e m todo out, own e = some m → c s e → stage (m :: todo) out s →
      ∃ rest, out = f s e ++ rest ∧ stage todo rest (S.step s e))
    (hother : ∀ s e todo out, own e = none → c s e → stage todo out s →
      f s e = [] ∧ stage todo out (S.step s e))
    {s : σ} {es : List ε} {out : List β} (hes : S.MeetsFrom c s es)
    (hs : stage (es.filterMap own) out s) :
    ∃ rest, out = S.collectFrom f s es ++ rest ∧ stage [] rest (S.runFrom s es) := by
  induction es generalizing s out with
  | nil => exact ⟨out, rfl, hs⟩
  | cons e es ih =>
    obtain ⟨hc, hes⟩ := hes
    cases hm : own e with
    | none =>
      rw [List.filterMap_cons_none hm] at hs
      obtain ⟨hsilent, hnext⟩ := hother s e _ out hm hc hs
      obtain ⟨rest, hout, hend⟩ := ih hes hnext
      refine ⟨rest, ?_, hend⟩
      rw [collectFrom, hsilent, List.nil_append]
      exact hout
    | some m =>
      rw [List.filterMap_cons_some hm] at hs
      obtain ⟨out', rfl, hnext⟩ := hown s e m _ out hm hc hs
      obtain ⟨rest, rfl, hend⟩ := ih hes hnext
      exact ⟨rest, (List.append_assoc ..).symm, hend⟩

end Collect

/-! ## Induction rules -/

section

variable (inv : σ → Prop)

theorem runFrom_invariant (hstep : ∀ s e, inv s → inv (S.step s e)) (hs : inv s) (es : List ε) :
    inv (S.runFrom s es) := by
  induction es generalizing s with
  | nil => exact hs
  | cons e es ih => exact ih (hstep s e hs)

/-- Inductive invariance: what holds initially and is kept by every step holds
after every run. -/
theorem invariant (hinit : inv S.init) (hstep : ∀ s e, inv s → inv (S.step s e)) (es : List ε) :
    inv (S.run es) :=
  S.runFrom_invariant inv hstep hinit es

/-- The same from any state, for what is kept by the steps that satisfy `c`. -/
theorem runFrom_invariant_of_meets (c : σ → ε → Prop)
    (hstep : ∀ s e, inv s → c s e → inv (S.step s e)) (hs : inv s) (hes : S.MeetsFrom c s es) :
    inv (S.runFrom s es) := by
  induction es generalizing s with
  | nil => exact hs
  | cons e es ih => exact ih (hstep s e hs hes.1) hes.2

/-- Conditional invariance: what holds initially and is kept by the steps that
satisfy `c` holds after every run whose steps all do. -/
theorem invariant_of_meets (c : σ → ε → Prop) (hinit : inv S.init)
    (hstep : ∀ s e, inv s → c s e → inv (S.step s e)) (hes : S.Meets c es) : inv (S.run es) := by
  induction es using List.reverseRecOn with
  | nil => exact hinit
  | append_singleton es e ih =>
    rw [run_concat]
    have hpre : S.Meets c es := S.meets_of_prefix hes (List.prefix_append es [e])
    exact hstep _ _ (ih hpre) (hes es e (List.prefix_refl _))

theorem always_of_meets (c : σ → ε → Prop) (hinit : inv S.init)
    (hstep : ∀ s e, inv s → c s e → inv (S.step s e)) (hes : S.Meets c es) : S.Always inv es :=
  fun _ hp => S.invariant_of_meets inv c hinit hstep (S.meets_of_prefix hes hp)

/-- Two conditions that agree on the states of an invariant are met by the same
runs. The invariant is kept as long as they are met, and all of this is asked only
of the steps that satisfy `g`. -/
theorem meets_congr_of {g c c' : σ → ε → Prop} (hinit : inv S.init)
    (hstep : ∀ s e, inv s → g s e → c' s e → inv (S.step s e))
    (h : ∀ s e, inv s → g s e → (c s e ↔ c' s e)) (hg : S.Meets g es) :
    S.Meets c es ↔ S.Meets c' es := by
  rw [meets_iff_meetsFrom] at hg ⊢
  rw [meets_iff_meetsFrom]
  generalize S.init = s at hinit hg ⊢
  induction es generalizing s with
  | nil => exact Iff.rfl
  | cons e es ih =>
    rw [MeetsFrom, MeetsFrom, h s e hinit hg.1]
    exact and_congr_right fun hc => ih _ (hstep s e hinit hg.1 hc) hg.2

theorem meets_congr {c c' : σ → ε → Prop} (hinit : inv S.init)
    (hstep : ∀ s e, inv s → inv (S.step s e)) (h : ∀ s e, inv s → (c s e ↔ c' s e)) (es : List ε) :
    S.Meets c es ↔ S.Meets c' es :=
  S.meets_congr_of (g := fun _ _ => True) inv hinit (fun s e hs _ _ => hstep s e hs)
    (fun s e hs _ => h s e hs) fun _ _ _ => trivial

end

/-- What waits for one of the events that `fires` and then has ended for good: as
long as it waits none of them has come. -/
theorem runFrom_until (inv waits ended : σ → Prop) (fires : ε → Prop)
    (hinv : ∀ s e, inv s → inv (S.step s e))
    (hwaits : ∀ s e, inv s → waits s → waits (S.step s e) ∧ ¬ fires e ∨ ended (S.step s e))
    (hended : ∀ s e, inv s → ended s → ended (S.step s e)) (hs : inv s) (hw : waits s)
    (es : List ε) : (waits (S.runFrom s es) ∧ ∀ e ∈ es, ¬ fires e) ∨ ended (S.runFrom s es) := by
  induction es generalizing s with
  | nil => exact Or.inl ⟨hw, by simp⟩
  | cons e es ih =>
    rcases hwaits s e hs hw with ⟨hnext, hno⟩ | hnext
    · rcases ih (hinv s e hs) hnext with ⟨hlast, hnone⟩ | hlast
      · exact Or.inl ⟨hlast, List.forall_mem_cons.mpr ⟨hno, hnone⟩⟩
      · exact Or.inr hlast
    · right
      have hkept : inv (S.runFrom (S.step s e) es) ∧ ended (S.runFrom (S.step s e) es) :=
        S.runFrom_invariant (fun s => inv s ∧ ended s)
          (fun s e h => ⟨hinv s e h.1, hended s e h.1 h.2⟩) ⟨hinv s e hs, hnext⟩ es
      exact hkept.2

/-- What holds throughout a run holds at its start and after each step. -/
theorem always_iff (p : σ → Prop) :
    S.Always p es ↔ p S.init ∧ S.Meets (fun s e => p (S.step s e)) es := by
  constructor
  · intro halways
    refine ⟨halways [] List.nil_prefix, ?_⟩
    intro pre e hpre
    rw [← run_concat]
    exact halways _ hpre
  · rintro ⟨hinit, hmeets⟩ pre hpre
    induction pre using List.reverseRecOn with
    | nil => exact hinit
    | append_singleton pre e =>
      rw [run_concat]
      exact hmeets pre e hpre

theorem always_mono {p q : σ → Prop} (h : ∀ s, p s → q s) (hp : S.Always p es) : S.Always q es :=
  fun pre hpre => h _ (hp pre hpre)

/-- Progress: where every state short of the goal has a step that satisfies `c`,
keeps `inv` and brings a measure down, some continuation of such steps reaches
the goal. -/
theorem exists_reaches (inv goal : σ → Prop) (c : σ → ε → Prop) (measure : σ → Nat)
    (hstep : ∀ s, inv s → ¬ goal s →
      ∃ e, c s e ∧ inv (S.step s e) ∧ measure (S.step s e) < measure s) (hs : inv s) :
    ∃ es, S.MeetsFrom c s es ∧ goal (S.runFrom s es) := by
  induction hn : measure s using Nat.strong_induction_on generalizing s with
  | _ n ih =>
    by_cases hgoal : goal s
    · exact ⟨[], trivial, hgoal⟩
    · obtain ⟨e, hc, hinv, hlt⟩ := hstep s hs hgoal
      obtain ⟨es, hmeets, hes⟩ := ih _ (hn ▸ hlt) hinv rfl
      exact ⟨e :: es, ⟨hc, hmeets⟩, hes⟩

/-- Termination: where the steps that satisfy `c` keep `inv` and bring a measure
down, there are no more of them than the measure says. -/
theorem length_le_measure (inv : σ → Prop) (c : σ → ε → Prop) (measure : σ → Nat)
    (hstep : ∀ s e, inv s → c s e → inv (S.step s e) ∧ measure (S.step s e) < measure s)
    (hs : inv s) (hes : S.MeetsFrom c s es) : inv (S.runFrom s es) ∧ es.length ≤ measure s := by
  induction es generalizing s with
  | nil => exact ⟨hs, Nat.zero_le _⟩
  | cons e es ih =>
    obtain ⟨hinv, hlt⟩ := hstep s e hs hes.1
    obtain ⟨hend, hlen⟩ := ih hinv hes.2
    refine ⟨hend, ?_⟩
    rw [List.length_cons]
    omega

/-- **Exact condition, under assumptions on the environment.** If an invariant
`inv` contains `p`, is kept by the steps that satisfy `c`, and from an `inv`
state a step that violates `c` breaks `p`, then `p` holds throughout a run if
and only if every step satisfies `c`. All of this is asked only of the steps
that the environment may take, which are those that satisfy `g`. -/
theorem always_iff_meets_of (inv p : σ → Prop) (g c : σ → ε → Prop) (hinit : inv S.init)
    (hp : ∀ s, inv s → p s) (hstep : ∀ s e, inv s → g s e → c s e → inv (S.step s e))
    (hbreak : ∀ s e, inv s → g s e → ¬ c s e → ¬ p (S.step s e)) (hg : S.Meets g es) :
    S.Always p es ↔ S.Meets c es := by
  rw [always_iff, and_iff_right (hp _ hinit)]
  refine S.meets_congr_of inv hinit hstep ?_ hg
  intro s e hs hge
  constructor
  · intro hafter
    by_contra hc
    exact hbreak s e hs hge hc hafter
  · intro hc
    exact hp _ (hstep s e hs hge hc)

/-- **Exact condition**, in any environment. -/
theorem always_iff_meets (inv p : σ → Prop) (c : σ → ε → Prop) (hinit : inv S.init)
    (hp : ∀ s, inv s → p s)
    (hstep : ∀ s e, inv s → c s e → inv (S.step s e))
    (hbreak : ∀ s e, inv s → ¬ c s e → ¬ p (S.step s e)) (es : List ε) :
    S.Always p es ↔ S.Meets c es :=
  S.always_iff_meets_of inv p (fun _ _ => True) c hinit hp (fun s e hs _ => hstep s e hs)
    (fun s e hs _ => hbreak s e hs) (fun _ _ _ => trivial)

end System

end Lts
