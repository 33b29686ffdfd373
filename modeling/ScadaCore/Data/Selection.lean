import Mathlib.Data.List.Induction
import Mathlib.Data.List.Nodup

/-!
# Data.Selection — what several wishes select from a list

`select` goes through wishes in order and takes for each all the items that match
it, so an item is taken once for every wish that it matches. The result has no item
twice, and selecting from it again changes nothing, exactly if no item matches two
wishes.
-/

namespace Selection

variable {α β : Type*} (meets : α → β → Bool)

def select (items : List α) (wishes : List β) : List α :=
  wishes.flatMap fun wish => items.filter (meets · wish)

def wanted (wishes : List β) (item : α) : Nat := wishes.countP (meets item)

def Disjoint (items : List α) (wishes : List β) : Prop :=
  ∀ item ∈ items, wanted meets wishes item ≤ 1

variable {meets} {items : List α} {wishes : List β} {item : α}

theorem mem_select_iff : item ∈ select meets items wishes ↔
    item ∈ items ∧ 1 ≤ wanted meets wishes item := by
  unfold select wanted
  rw [List.mem_flatMap, Nat.one_le_iff_ne_zero, ← Nat.pos_iff_ne_zero, List.countP_pos_iff]
  constructor
  · rintro ⟨wish, hwish, hmem⟩
    rcases List.mem_filter.mp hmem with ⟨hitem, hmeets⟩
    exact ⟨hitem, wish, hwish, hmeets⟩
  · rintro ⟨hitem, wish, hwish, hmeets⟩
    exact ⟨wish, hwish, List.mem_filter.mpr ⟨hitem, hmeets⟩⟩

theorem count_select [DecidableEq α] (items : List α) (wishes : List β) (item : α) :
    (select meets items wishes).count item = wanted meets wishes item * items.count item := by
  induction wishes with
  | nil => simp [select, wanted]
  | cons wish wishes ih =>
    have hcons : select meets items (wish :: wishes) =
        items.filter (meets · wish) ++ select meets items wishes := List.flatMap_cons
    rw [hcons, List.count_append, ih, wanted, wanted, List.countP_cons]
    by_cases hmeets : meets item wish = true
    · rw [List.count_filter (p := (meets · wish)) hmeets, if_pos hmeets, Nat.add_mul,
        Nat.one_mul, Nat.add_comm]
    · have hnot : item ∉ items.filter (meets · wish) := by
        intro hmem
        exact hmeets (List.mem_filter.mp hmem).2
      rw [List.count_eq_zero_of_not_mem hnot, if_neg hmeets, Nat.zero_add, Nat.add_zero]

theorem nodup_select_iff [DecidableEq α] (hitems : items.Nodup) :
    (select meets items wishes).Nodup ↔ Disjoint meets items wishes := by
  rw [List.nodup_iff_count_le_one]
  constructor
  · intro h item hitem
    have hcount := h item
    rw [count_select, List.count_eq_one_of_mem hitems hitem, Nat.mul_one] at hcount
    exact hcount
  · intro h item
    rw [count_select]
    by_cases hitem : item ∈ items
    · rw [List.count_eq_one_of_mem hitems hitem, Nat.mul_one]
      exact h item hitem
    · rw [List.count_eq_zero_of_not_mem hitem]
      omega

/-- What a wish takes from a selection is what it takes from the items, if no item
is wanted by another one. -/
theorem filter_select {wish : β} (h : Disjoint meets items wishes) (hwish : wish ∈ wishes) :
    (select meets items wishes).filter (meets · wish) = items.filter (meets · wish) := by
  rcases List.append_of_mem hwish with ⟨before, after, rfl⟩
  have hwanted : ∀ item, meets item wish = true → wanted meets (before ++ wish :: after) item =
      wanted meets before item + (wanted meets after item + 1) := by
    intro item hmeets
    rw [wanted, List.countP_append, List.countP_cons, if_pos hmeets]
    rfl
  -- what another wish has taken does not match this one
  have hnone : ∀ others, (∀ item, wanted meets others item ≤
      wanted meets before item + wanted meets after item) →
      (select meets items others).filter (meets · wish) = [] := by
    intro others hothers
    rw [List.filter_eq_nil_iff]
    intro item hmem hmeets
    rcases mem_select_iff.mp hmem with ⟨hitem, hone⟩
    have htwice := h item hitem
    rw [hwanted item hmeets] at htwice
    have hother := hothers item
    omega
  have hsplit : select meets items (before ++ wish :: after) =
      select meets items before ++ (items.filter (meets · wish) ++ select meets items after) := by
    simp [select]
  rw [hsplit, List.filter_append, List.filter_append,
    hnone before (fun item => Nat.le_add_right _ _), hnone after (fun item => Nat.le_add_left _ _),
    List.filter_filter, List.nil_append, List.append_nil]
  simp

theorem select_select_iff [DecidableEq α] :
    select meets (select meets items wishes) wishes = select meets items wishes ↔
      Disjoint meets items wishes := by
  constructor
  · -- an item that is wanted twice is taken again for each time it was taken
    intro heq item hitem
    have hcount := congrArg (List.count item) heq
    rw [count_select, count_select] at hcount
    have hpos : 0 < items.count item := List.count_pos_iff.mpr hitem
    by_contra hmany
    have htaken : 0 < wanted meets wishes item * items.count item :=
      Nat.mul_pos (by omega) hpos
    have hone := Nat.eq_of_mul_eq_mul_right htaken (hcount.trans (Nat.one_mul _).symm)
    omega
  · intro h
    apply List.flatMap_congr
    intro wish hwish
    exact filter_select h hwish

/-! ## One item -/

def IsFirst (p : α → Prop) (items : List α) (item : α) : Prop :=
  ∃ before after, items = before ++ item :: after ∧ p item ∧ ∀ other ∈ before, ¬ p other

variable {p : α → Prop}

theorem IsFirst.mem (h : IsFirst p items item) : item ∈ items := by
  rcases h with ⟨before, after, rfl, -, -⟩
  exact List.mem_append_right _ List.mem_cons_self

theorem isFirst_of_find? {q : α → Bool} (h : items.find? q = some item)
    (hq : ∀ other ∈ items, q other = true ↔ p other) : IsFirst p items item := by
  rcases List.find?_eq_some_iff_append.mp h with ⟨hitem, before, after, rfl, hbefore⟩
  refine ⟨before, after, rfl, (hq item (by simp)).mp hitem, ?_⟩
  intro other hother hp
  have hnot := hbefore other hother
  rw [(hq other (by simp [hother])).mpr hp] at hnot
  cases hnot

open Classical in
theorem IsFirst.find? (h : IsFirst p items item) : items.find? (p ·) = some item := by
  rcases h with ⟨before, after, rfl, hitem, hbefore⟩
  rw [List.find?_eq_some_iff_append]
  refine ⟨decide_eq_true hitem, before, after, rfl, ?_⟩
  intro other hother
  rw [decide_eq_false (hbefore other hother)]
  rfl

theorem IsFirst.unique {item' : α} (h : IsFirst p items item) (h' : IsFirst p items item') :
    item = item' :=
  Option.some.inj (h.find?.symm.trans h'.find?)

/-! ## The last item that sets something -/

section LastSet

variable {σ υ γ : Type*} (sets : υ → Bool) (read : υ → γ)

/-- What the last item that sets it says, or else what there was before. -/
def lastSet (before : γ) (items : List υ) : γ :=
  ((items.filter sets).getLast?.map read).getD before

theorem lastSet_singleton (before : γ) (item : υ) :
    lastSet sets read before [item] = if sets item then read item else before := by
  cases h : sets item <;> simp [lastSet, h]

theorem lastSet_concat (before : γ) (items : List υ) (item : υ) :
    lastSet sets read before (items ++ [item]) =
      if sets item then read item else lastSet sets read before items := by
  unfold lastSet
  rw [List.filter_append]
  by_cases h : sets item = true
  · simp [h]
  · simp [h]

theorem lastSet_filter (before : γ) {items : List υ} {p : υ → Bool}
    (hp : ∀ item ∈ items, sets item = true → p item = true) :
    lastSet sets read before (items.filter p) = lastSet sets read before items := by
  unfold lastSet
  rw [List.filter_filter]
  congr 3
  apply List.filter_congr
  intro item hmem
  cases hsets : sets item with
  | false => rfl
  | true => rw [hp item hmem hsets, Bool.and_self]

theorem lastSet_eq_of_forall (before : γ) {items : List υ} {value : γ}
    (h : ∀ item ∈ items, sets item = true → read item = value) :
    lastSet sets read before items = if items.any sets then value else before := by
  unfold lastSet
  cases hlast : (items.filter sets).getLast? with
  | none =>
    have hnone : ∀ item ∈ items, sets item = false := by
      rw [List.getLast?_eq_none_iff, List.filter_eq_nil_iff] at hlast
      exact fun item hmem => Bool.of_not_eq_true (hlast item hmem)
    rw [List.any_eq_false.mpr fun item hmem => by simp [hnone item hmem]]
    rfl
  | some item =>
    obtain ⟨hmem, hsets⟩ := List.mem_filter.mp (List.mem_of_getLast? hlast)
    rw [List.any_eq_true.mpr ⟨item, hmem, hsets⟩]
    exact h item hmem hsets

/-- A fold in which each item sets what it says and leaves the rest. -/
theorem foldl_eq_lastSet (step : σ → υ → σ) (view : σ → γ)
    (hstep : ∀ s item, view (step s item) = if sets item then read item else view s)
    (s : σ) (items : List υ) :
    view (items.foldl step s) = lastSet sets read (view s) items := by
  induction items using List.reverseRecOn with
  | nil => rfl
  | append_singleton items item ih => rw [List.foldl_concat, hstep, lastSet_concat, ih]

end LastSet

end Selection
