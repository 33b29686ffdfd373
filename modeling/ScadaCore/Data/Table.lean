import Mathlib.Data.List.AList
import Mathlib.Data.List.Induction
import Mathlib.Data.List.Perm.Basic

/-!
# Data.Table — finite maps and the values they hold

`Table K V` is Mathlib's association list with a constant value type: a map
whose keys are distinct by construction. The lemmas below say how the values
held move when an entry comes or goes, up to the order of the entries, and how
a property of all entries, `All`, is kept. `emplace` is the insertion that does
not replace.
-/

/-- A finite map from `K` to `V`. -/
abbrev Table (K V : Type) := AList (fun _ : K => V)

namespace Table

open AList

variable {K V : Type}

def values (t : Table K V) : List V := t.entries.map Sigma.snd

@[simp] theorem values_empty : values (∅ : Table K V) = [] := rfl

def mapValues (f : V → V) (t : Table K V) : Table K V :=
  ⟨t.entries.map fun e => ⟨e.1, f e.2⟩, by
    have hkeys : (t.entries.map fun e => (⟨e.1, f e.2⟩ : (_ : K) × V)).keys = t.entries.keys := by
      simp [List.keys, Function.comp_def]
    rw [List.NodupKeys, hkeys]
    exact t.nodupKeys⟩

variable [DecidableEq K]

variable {t : Table K V} {k : K}

theorem mem_values_iff {v : V} : v ∈ values t ↔ ∃ k, t.lookup k = some v := by
  constructor
  · intro hv
    rcases List.mem_map.mp hv with ⟨e, he, rfl⟩
    exact ⟨e.1, mem_lookup_iff.mpr he⟩
  · rintro ⟨k, hk⟩
    exact List.mem_map.mpr ⟨⟨k, v⟩, mem_lookup_iff.mp hk, rfl⟩

@[simp] theorem lookup_mapValues (f : V → V) (t : Table K V) (k : K) :
    (mapValues f t).lookup k = (t.lookup k).map f := by
  apply Option.ext
  intro v
  rw [Option.map_eq_some_iff]
  constructor
  · intro hv
    have hmem := mem_lookup_iff.mp (Option.mem_def.mpr hv)
    rcases List.mem_map.mp hmem with ⟨e, he, heq⟩
    cases heq
    exact ⟨e.2, mem_lookup_iff.mpr he, rfl⟩
  · rintro ⟨v₀, hv₀, rfl⟩
    apply mem_lookup_iff.mpr
    exact List.mem_map.mpr ⟨⟨k, v₀⟩, mem_lookup_iff.mp hv₀, rfl⟩

theorem values_insert_of_notMem (h : k ∉ t) (v : V) : values (t.insert k v) = v :: values t := by
  rw [values, entries_insert_of_notMem h]
  rfl

theorem values_perm_of_lookup {v : V} (h : t.lookup k = some v) :
    (values t).Perm (v :: values (t.erase k)) := by
  have hmem : k ∈ t.entries.keys := lookup_isSome.mp (by simp [h])
  obtain ⟨v', l₁, l₂, hnot, hsplit, herase⟩ := List.exists_of_kerase hmem
  have hv : v' = v := by
    have hin : (⟨k, v'⟩ : Sigma fun _ : K => V) ∈ t.entries := by simp [hsplit]
    have hlookup : v' ∈ t.lookup k := mem_lookup_iff.mpr hin
    rw [h] at hlookup
    exact (Option.some.inj hlookup).symm
  have hvalues : values t = l₁.map Sigma.snd ++ v :: l₂.map Sigma.snd := by
    simp [values, hsplit, hv]
  have hrest : values (t.erase k) = l₁.map Sigma.snd ++ l₂.map Sigma.snd := by
    show (t.entries.kerase k).map Sigma.snd = _
    rw [herase, List.map_append]
  rw [hvalues, hrest]
  exact List.perm_middle

theorem erase_of_lookup_eq_none (h : t.lookup k = none) : t.erase k = t :=
  ext (List.kerase_of_notMem_keys (lookup_eq_none.mp h))

theorem erase_insert_of_lookup_eq_none (h : t.lookup k = none) (v : V) :
    erase k (t.insert k v) = t := by
  apply ext
  show (t.insert k v).entries.kerase k = t.entries
  rw [entries_insert_of_notMem (lookup_eq_none.mp h)]
  exact List.kerase_cons_eq rfl

theorem lookup_erase_cases {v : V} (h : t.lookup k = some v) (k' : K) :
    (t.erase k').lookup k = some v ∨ (t.erase k').lookup k = none := by
  by_cases hk : k = k'
  · rw [hk]
    exact Or.inr (lookup_erase _ t)
  · exact Or.inl ((lookup_erase_ne hk).trans h)

/-! ## Properties of all entries -/

def All (t : Table K V) (p : K → V → Prop) : Prop := ∀ k v, t.lookup k = some v → p k v

variable {p q : K → V → Prop}

theorem all_empty : All (∅ : Table K V) p := by
  intro k v hv
  rw [lookup_empty] at hv
  cases hv

theorem All.imp (h : t.All p) (himp : ∀ k v, t.lookup k = some v → p k v → q k v) : t.All q :=
  fun k v hv => himp k v hv (h k v hv)

theorem All.insert (h : t.All p) {v : V} (hv : p k v) : All (insert k v t) p := by
  intro k' v' hlookup
  by_cases hk : k' = k
  · subst hk
    rw [lookup_insert] at hlookup
    cases hlookup
    exact hv
  · rw [lookup_insert_ne hk] at hlookup
    exact h k' v' hlookup

theorem All.erase (h : t.All p) (k : K) : All (erase k t) p := by
  intro k' v' hlookup
  by_cases hk : k' = k
  · subst hk
    rw [lookup_erase] at hlookup
    cases hlookup
  · rw [lookup_erase_ne hk] at hlookup
    exact h k' v' hlookup

theorem All.mapValues (h : t.All p) {f : V → V}
    (hf : ∀ k v, t.lookup k = some v → p k v → q k (f v)) :
    All (mapValues f t) q := by
  intro k v hlookup
  rw [lookup_mapValues] at hlookup
  rcases Option.map_eq_some_iff.mp hlookup with ⟨v₀, hv₀, heq⟩
  rw [← heq]
  exact hf k v₀ hv₀ (h k v₀ hv₀)

theorem All.perm (h : t.All p) {t' : Table K V} (hperm : t'.entries.Perm t.entries) : t'.All p := by
  intro k v hlookup
  rw [perm_lookup hperm] at hlookup
  exact h k v hlookup

/-! ## Insertion that does not replace -/

/-- The entry comes in if its key is new. -/
def emplace (t : Table K V) (entry : K × V) : Table K V :=
  if entry.1 ∈ t then t else t.insert entry.1 entry.2

/-- The first entry of each key. -/
def emplaceAll (entries : List (K × V)) : Table K V := entries.foldl emplace ∅

theorem emplaceAll_concat (entries : List (K × V)) (entry : K × V) :
    emplaceAll (entries ++ [entry]) = (emplaceAll entries).emplace entry :=
  List.foldl_append

theorem lookup_emplace_self (t : Table K V) (entry : K × V) :
    (t.emplace entry).lookup entry.1 = some ((t.lookup entry.1).getD entry.2) := by
  by_cases hmem : entry.1 ∈ t
  · obtain ⟨v, hv⟩ := Option.isSome_iff_exists.mp (lookup_isSome.mpr hmem)
    simp [emplace, hmem, hv]
  · have hnone : t.lookup entry.1 = none := lookup_eq_none.mpr hmem
    simp [emplace, hmem, hnone]

theorem lookup_emplace_ne (t : Table K V) {entry : K × V} (h : k ≠ entry.1) :
    (t.emplace entry).lookup k = t.lookup k := by
  by_cases hmem : entry.1 ∈ t
  · simp [emplace, hmem]
  · simp [emplace, hmem, lookup_insert_ne h]

/-- If no key comes with two values, the table holds the entries. -/
theorem lookup_emplaceAll_iff {entries : List (K × V)}
    (h : ∀ k v v', (k, v) ∈ entries → (k, v') ∈ entries → v = v') {v : V} :
    (emplaceAll entries).lookup k = some v ↔ (k, v) ∈ entries := by
  induction entries using List.reverseRecOn generalizing v with
  | nil => simp [emplaceAll]
  | append_singleton entries entry ih =>
    have hbefore : ∀ k v v', (k, v) ∈ entries → (k, v') ∈ entries → v = v' :=
      fun k v v' hv hv' =>
        h k v v' (List.mem_append_left _ hv) (List.mem_append_left _ hv')
    rw [emplaceAll_concat]
    by_cases hkey : k = entry.1
    · subst hkey
      rw [lookup_emplace_self, Option.some.injEq]
      -- the value that is there is that of the new entry
      have hvalue : ((emplaceAll entries).lookup entry.1).getD entry.2 = entry.2 := by
        cases hold : (emplaceAll entries).lookup entry.1 with
        | none => rfl
        | some old =>
          have hmem : (entry.1, old) ∈ entries := (ih hbefore).mp hold
          exact h entry.1 old entry.2 (List.mem_append_left _ hmem) (by simp)
      rw [hvalue]
      constructor
      · rintro rfl
        simp
      · intro hmem
        exact h entry.1 entry.2 v (by simp) hmem
    · have hne : (k, v) ≠ entry := fun heq => hkey (congrArg Prod.fst heq)
      rw [lookup_emplace_ne _ hkey, ih hbefore]
      simp [hne]

end Table
