import ScadaCore.Data.Table

/-!
# Data.Ledger — a table and the record of what was put in and taken out

Entries are put into a table under keys and taken out by key. `Open log k v` says
of the record alone that `v` was put under `k` and that `k` has not been taken
since. `Books` ties the two together: the table holds exactly what is open, as long
as nothing is put under a key that the table has.
-/

namespace Ledger

/-- One line of the record. -/
inductive Entry (K V : Type) where
  | put (k : K) (v : V)
  | take (k : K)

variable {K V : Type}

def Open (log : List (Entry K V)) (k : K) (v : V) : Prop :=
  ∃ before after, log = before ++ .put k v :: after ∧ .take k ∉ after

theorem not_open_nil (k : K) (v : V) : ¬ Open [] k v := by
  rintro ⟨before, after, hlog, -⟩
  simp at hlog

variable {log : List (Entry K V)} {entry : Entry K V} {table : Table K V}

theorem line_of_concat {before after : List (Entry K V)} {last : Entry K V}
    (h : log ++ [last] = before ++ entry :: after) :
    entry = last ∧ after = [] ∨
      ∃ rest, after = rest ++ [last] ∧ log = before ++ entry :: rest := by
  rcases List.eq_nil_or_concat after with rfl | ⟨rest, end', rfl⟩
  · obtain ⟨-, hlast⟩ := List.append_inj' h rfl
    cases hlast
    exact Or.inl ⟨rfl, rfl⟩
  · rw [List.concat_eq_append, ← List.cons_append, ← List.append_assoc] at h
    obtain ⟨hlog, hlast⟩ := List.append_inj' h rfl
    cases hlast
    exact Or.inr ⟨rest, List.concat_eq_append, hlog⟩

theorem open_concat_put_iff {k k' : K} {v v' : V} :
    Open (log ++ [.put k v]) k' v' ↔ k' = k ∧ v' = v ∨ Open log k' v' := by
  constructor
  · rintro ⟨before, after, hlog, huntaken⟩
    rcases line_of_concat hlog with ⟨hlast, -⟩ | ⟨rest, rfl, hbefore⟩
    · cases hlast
      exact Or.inl ⟨rfl, rfl⟩
    · refine Or.inr ⟨before, rest, hbefore, fun htaken => huntaken ?_⟩
      simp [htaken]
  · rintro (⟨rfl, rfl⟩ | ⟨before, after, rfl, huntaken⟩)
    · exact ⟨log, [], rfl, by simp⟩
    · refine ⟨before, after ++ [.put k v], by simp, ?_⟩
      simpa using huntaken

theorem open_concat_take_iff {k k' : K} {v' : V} :
    Open (log ++ [.take k]) k' v' ↔ k' ≠ k ∧ Open log k' v' := by
  constructor
  · rintro ⟨before, after, hlog, huntaken⟩
    rcases line_of_concat hlog with ⟨hlast, -⟩ | ⟨rest, rfl, hbefore⟩
    · cases hlast
    · simp only [List.mem_append, List.mem_singleton, Entry.take.injEq, not_or] at huntaken
      exact ⟨huntaken.2, before, rest, hbefore, huntaken.1⟩
  · rintro ⟨hne, before, after, rfl, huntaken⟩
    refine ⟨before, after ++ [.take k], by simp, ?_⟩
    simp [huntaken, hne]

variable [DecidableEq K]

/-- What an entry does to the table: what is there is not replaced. -/
def Entry.post (table : Table K V) : Entry K V → Table K V
  | .put k v => table.emplace (k, v)
  | .take k => table.erase k

/-- The entry does not put anything under a key that the table has. -/
def Entry.Fresh (table : Table K V) : Entry K V → Prop
  | .put k _ => k ∉ table
  | .take _ => True

/-- The table after at most one entry. -/
def posted (table : Table K V) : Option (Entry K V) → Table K V
  | none => table
  | some entry => entry.post table

theorem Entry.lookup_post {k : K} {v : V} (h : (entry.post table).lookup k = some v) :
    table.lookup k = some v ∨ entry = .put k v := by
  cases entry with
  | put k' v' =>
    by_cases hkey : k = k'
    · subst hkey
      rw [Entry.post, table.lookup_emplace_self (k, v')] at h
      cases hold : table.lookup k with
      | none =>
        rw [hold] at h
        cases h
        exact Or.inr rfl
      | some old =>
        rw [hold] at h
        exact Or.inl h
    · rw [Entry.post, table.lookup_emplace_ne hkey] at h
      exact Or.inl h
  | take k' =>
    by_cases hkey : k = k'
    · subst hkey
      rw [Entry.post, AList.lookup_erase] at h
      cases h
    · rw [Entry.post, AList.lookup_erase_ne hkey] at h
      exact Or.inl h

theorem lookup_posted {entry : Option (Entry K V)} {k : K} {v : V}
    (h : (posted table entry).lookup k = some v) :
    table.lookup k = some v ∨ entry = some (.put k v) := by
  cases entry with
  | none => exact Or.inl h
  | some entry => exact (Entry.lookup_post h).imp id (congrArg some)

/-- The table holds what the record says is open. -/
def Books (table : Table K V) (log : List (Entry K V)) : Prop :=
  ∀ k v, table.lookup k = some v ↔ Open log k v

theorem books_empty : Books (∅ : Table K V) [] := by
  intro k v
  rw [AList.lookup_empty]
  exact iff_of_false (by simp) (not_open_nil k v)

theorem Books.post (h : Books table log) (hfresh : entry.Fresh table) :
    Books (entry.post table) (log ++ [entry]) := by
  intro k v
  cases entry with
  | put k' v' =>
    have hnone : table.lookup k' = none := AList.lookup_eq_none.mpr hfresh
    rw [open_concat_put_iff, ← h k v, Entry.post]
    by_cases hkey : k = k'
    · subst hkey
      rw [table.lookup_emplace_self (k, v'), hnone]
      simp [eq_comm]
    · rw [table.lookup_emplace_ne hkey]
      simp [hkey]
  | take k' =>
    rw [open_concat_take_iff, ← h k v, Entry.post]
    by_cases hkey : k = k'
    · subst hkey
      rw [AList.lookup_erase]
      simp
    · rw [AList.lookup_erase_ne hkey]
      simp [hkey]

theorem Books.posted (h : Books table log) {entry : Option (Entry K V)}
    (hfresh : ∀ k v, entry = some (.put k v) → k ∉ table) :
    Books (posted table entry) (log ++ entry.toList) := by
  cases entry with
  | none =>
    rw [Option.toList_none, List.append_nil]
    exact h
  | some entry =>
    refine h.post ?_
    cases entry with
    | put k v => exact hfresh k v rfl
    | take k => trivial

theorem Books.mem_keys_iff (h : Books table log) (k : K) : k ∈ table.keys ↔ ∃ v, Open log k v := by
  rw [← AList.mem_keys, ← AList.lookup_isSome, Option.isSome_iff_exists]
  simp only [h k]

end Ledger
