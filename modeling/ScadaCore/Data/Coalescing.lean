import Mathlib.Data.List.Induction
import Mathlib.Data.List.Nodup

/-!
# Data.Coalescing — lists with one entry for each key

`add` merges an item into the entry that has its key, or appends it if there is none, and
`coalesce` adds one item after another. There is one entry for each key of the items, and it
is the merge of the items of that key, in order (`lookup_coalesce`).
-/

namespace Coalescing

variable {α κ : Type*} [DecidableEq κ] (key : α → κ) (merge : α → α → α)

def add (entries : List α) (item : α) : List α :=
  match entries with
  | [] => [item]
  | entry :: rest =>
    if key entry = key item then merge entry item :: rest else entry :: add rest item

variable (items : List α)

def coalesce : List α := items.foldl (add key merge) []

def lookup (k : κ) (entries : List α) : Option α := entries.find? (key · = k)

def mergeAll : List α → Option α
  | [] => none
  | first :: rest => some (rest.foldl merge first)

@[simp] theorem coalesce_concat (item : α) :
    coalesce key merge (items ++ [item]) = add key merge (coalesce key merge items) item :=
  List.foldl_concat ..

theorem mergeAll_concat (item : α) :
    mergeAll merge (items ++ [item]) =
      some ((mergeAll merge items).elim item (merge · item)) := by
  cases items with
  | nil => rfl
  | cons first rest => simp [mergeAll]

theorem mergeAll_eq_none_iff : mergeAll merge items = none ↔ items = [] := by
  cases items <;> simp [mergeAll]

variable {key merge} {entries items : List α} {k : κ}

theorem coalesce_induction (p : α → Prop) (hitem : ∀ item ∈ items, p item)
    (hmerge : ∀ entry, p entry → ∀ item ∈ items, key entry = key item → p (merge entry item)) :
    ∀ entry ∈ coalesce key merge items, p entry := by
  have hadd : ∀ item ∈ items, ∀ entries : List α, (∀ entry ∈ entries, p entry) →
      ∀ entry ∈ add key merge entries item, p entry := by
    intro item hmem entries
    induction entries with
    | nil =>
      intro _ entry hentry
      rw [add, List.mem_singleton] at hentry
      rw [hentry]
      exact hitem item hmem
    | cons first rest ih =>
      intro hall
      obtain ⟨hfirst, hrest⟩ := List.forall_mem_cons.mp hall
      rw [add]
      split_ifs with heq
      · exact List.forall_mem_cons.mpr ⟨hmerge first hfirst item hmem heq, hrest⟩
      · exact List.forall_mem_cons.mpr ⟨hfirst, ih hrest⟩
  exact List.foldlRecOn items (add key merge) (by simp) fun entries h item hmem =>
    hadd item hmem entries h

theorem filter_eq_lookup (h : (entries.map key).Nodup) (k : κ) :
    entries.filter (key · = k) = (lookup key k entries).toList := by
  unfold lookup
  induction entries with
  | nil => rfl
  | cons entry rest ih =>
    rw [List.map_cons, List.nodup_cons] at h
    by_cases heq : key entry = k
    · have hrest : rest.filter (key · = k) = [] := by
        rw [List.filter_eq_nil_iff]
        intro other hmem hother
        apply h.1
        rw [heq, ← of_decide_eq_true hother]
        exact List.mem_map_of_mem hmem
      simp [heq, hrest]
    · simp only [List.filter_cons, List.find?_cons, heq, decide_false]
      exact ih h.2

section Keys

variable (hkey : ∀ entry item, key (merge entry item) = key entry)
include hkey

theorem keys_add (entries : List α) (item : α) :
    (add key merge entries item).map key =
      if key item ∈ entries.map key then entries.map key else entries.map key ++ [key item] := by
  induction entries with
  | nil => simp [add]
  | cons entry rest ih =>
    rw [add, List.map_cons]
    by_cases heq : key entry = key item
    · rw [if_pos heq, if_pos (heq ▸ List.mem_cons_self), List.map_cons, hkey]
    · have hmem : key item ∈ key entry :: rest.map key ↔ key item ∈ rest.map key := by
        rw [List.mem_cons]
        exact or_iff_right (Ne.symm heq)
      rw [if_neg heq, List.map_cons, ih]
      simp only [hmem]
      split_ifs
      · rfl
      · rfl

theorem nodup_coalesce (items : List α) : ((coalesce key merge items).map key).Nodup := by
  induction items using List.reverseRecOn with
  | nil => exact List.nodup_nil
  | append_singleton items item ih =>
    rw [coalesce_concat, keys_add hkey]
    split_ifs with hmem
    · exact ih
    · rw [← List.concat_eq_append]
      exact List.Nodup.concat hmem ih

theorem mem_keys_coalesce : k ∈ (coalesce key merge items).map key ↔ k ∈ items.map key := by
  induction items using List.reverseRecOn with
  | nil => rfl
  | append_singleton items item ih =>
    rw [coalesce_concat, keys_add hkey, List.map_append, List.mem_append, ← ih,
      List.map_singleton]
    split_ifs with hmem
    · constructor
      · exact .inl
      · rintro (h | h)
        · exact h
        · rw [List.mem_singleton.mp h]
          exact hmem
    · exact List.mem_append

theorem lookup_add (k : κ) (entries : List α) (item : α) :
    lookup key k (add key merge entries item) =
      if key item = k then some ((lookup key k entries).elim item (merge · item))
      else lookup key k entries := by
  unfold lookup
  induction entries with
  | nil =>
    rw [add]
    by_cases heq : key item = k <;> simp [heq]
  | cons entry rest ih =>
    rw [add]
    by_cases hentry : key entry = k
    · -- the entry of the key is at the front
      by_cases hitem : key item = k
      · simp [hentry, hitem, hkey]
      · have hne : k ≠ key item := Ne.symm hitem
        simp [hentry, hitem, hne]
    · by_cases heq : key entry = key item
      · have hitem : key item ≠ k := fun h => hentry (heq.trans h)
        simp [heq, hitem, hkey]
      · simp only [heq, if_false, List.find?_cons, hentry, decide_false]
        exact ih

theorem lookup_coalesce (k : κ) (items : List α) :
    lookup key k (coalesce key merge items) = mergeAll merge (items.filter (key · = k)) := by
  induction items using List.reverseRecOn with
  | nil => rfl
  | append_singleton items item ih =>
    rw [coalesce_concat, lookup_add hkey, List.filter_append, ih]
    by_cases heq : key item = k
    · rw [if_pos heq, List.filter_singleton, decide_eq_true heq, cond_true, mergeAll_concat]
    · rw [if_neg heq, List.filter_singleton, decide_eq_false heq, cond_false, List.append_nil]

end Keys

end Coalescing
