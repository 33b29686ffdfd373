import ScadaCore.Lts.System
import Mathlib.Data.List.Induction
import Mathlib.Data.List.Nodup

/-!
# Base.MruCache — the most recently used come first

An `MRUCache` keeps its elements in a list, the most recently used first, and finds them by an
index of iterators. An iterator is told by the address of its node, which stays the same while
the node is moved. The cache does what an `Lru` does, which is a list of keys and values and
nothing else: `mruCache_refines`.
-/

namespace ScadaCore.Base

open Function

variable {K V : Type}

/-! ## The cache -/

/-- A node of `PayloadList`. -/
structure Payload (K V : Type) where
  address : Nat
  first : K
  second : V

/-- `MRUCacheBase`, without `max_size_`. `allocated` counts the nodes made so far. -/
structure MRUCache (K V : Type) where
  ordering : List (Payload K V) := []
  index : K → Option Nat := fun _ => none
  allocated : Nat := 0

inductive MRUCache.Event (K V : Type) where
  | put (key : K) (value : V)
  | get (key : K)
  | peek (key : K)
  /-- `Erase` of the element that was found for the key. -/
  | erase (key : K)

def Payload.entry (p : Payload K V) : K × V := (p.first, p.second)

variable [DecidableEq K] (maxSize : Nat)

namespace MRUCache

variable (c : MRUCache K V)

/-- The element that `Get` and `Peek` return an iterator to. -/
def find (key : K) : Option (Payload K V) :=
  (c.index key).bind fun iterator => c.ordering.find? (·.address = iterator)

def erase (key : K) (pos : Payload K V) : MRUCache K V :=
  { c with
    ordering := c.ordering.filter (·.address ≠ pos.address)
    index := update c.index key none }

/-- The loop of `Put`. -/
def evict (maxSize : Nat) (c : MRUCache K V) : MRUCache K V :=
  match _hlast : c.ordering.getLast? with
  | some last => if maxSize < c.ordering.length then evict maxSize (c.erase last.first last) else c
  | none => c
termination_by c.ordering.length
decreasing_by
  exact List.length_filter_lt_length_iff_exists.mpr ⟨last, List.mem_of_getLast? _hlast, by simp⟩

def emplaceFront (key : K) (value : V) : MRUCache K V :=
  { c with
    ordering := { address := c.allocated, first := key, second := value } :: c.ordering
    index := if (c.index key).isSome then c.index else update c.index key (some c.allocated)
    allocated := c.allocated + 1 }

def put (c : MRUCache K V) (key : K) (value : V) : MRUCache K V :=
  (((c.find key).elim c (c.erase key)).emplaceFront key value).evict maxSize

def get (key : K) : MRUCache K V :=
  (c.find key).elim c fun pos =>
    { c with ordering := pos :: c.ordering.filter (·.address ≠ pos.address) }

def step (c : MRUCache K V) : Event K V → MRUCache K V
  | .put key value => c.put maxSize key value
  | .get key => c.get key
  | .peek _ => c
  | .erase key => (c.find key).elim c fun pos => c.erase pos.first pos

def system : Lts.System (MRUCache K V) (Event K V) := ⟨{}, step maxSize⟩

end MRUCache

/-! ## What it is to do -/

namespace Lru

def step (l : List (K × V)) : MRUCache.Event K V → List (K × V)
  | .put key value => ((key, value) :: l.filter (·.1 ≠ key)).take maxSize
  | .get key => (l.find? (·.1 = key)).toList ++ l.filter (·.1 ≠ key)
  | .peek _ => l
  | .erase key => l.filter (·.1 ≠ key)

def system : Lts.System (List (K × V)) (MRUCache.Event K V) := ⟨[], step maxSize⟩

theorem length_step_le {maxSize : Nat} {l : List (K × V)} (h : l.length ≤ maxSize)
    (e : MRUCache.Event K V) : (step maxSize l e).length ≤ maxSize := by
  cases e with
  | put key value => exact List.length_take_le _ _
  | get key =>
    refine Nat.le_trans ?_ h
    rw [step]
    cases hfind : l.find? (·.1 = key) with
    | none => exact List.length_filter_le _ _
    | some entry =>
      have hmem := List.mem_of_find?_eq_some hfind
      refine List.length_filter_lt_length_iff_exists.mpr ⟨entry, hmem, ?_⟩
      simpa using List.find?_some hfind
  | peek key => exact h
  | erase key => exact (List.length_filter_le _ _).trans h

end Lru

/-! ## The list and the index -/

namespace MRUCache

/-- The elements are at addresses of their own, which the index has for their keys. -/
structure Inv (c : MRUCache K V) : Prop where
  nodup : (c.ordering.map Payload.address).Nodup
  indexed : ∀ p ∈ c.ordering, c.index p.first = some p.address
  found : ∀ key iterator, c.index key = some iterator →
    ∃ p ∈ c.ordering, p.first = key ∧ p.address = iterator
  allocated : ∀ p ∈ c.ordering, p.address < c.allocated

/-- The cache holds what the list has. -/
structure Holds (c : MRUCache K V) (l : List (K × V)) : Prop extends Inv c where
  entries : c.ordering.map Payload.entry = l

variable {c : MRUCache K V} {l : List (K × V)} {p q : Payload K V} {key : K}

omit [DecidableEq K] in
theorem Inv.address_eq_iff (h : c.Inv) (hp : p ∈ c.ordering) (hq : q ∈ c.ordering) :
    p.address = q.address ↔ p.first = q.first := by
  have hinj := List.inj_on_of_nodup_map h.nodup hp hq
  have hp' := h.indexed p hp
  have hq' := h.indexed q hq
  grind

theorem Inv.find_eq (h : c.Inv) (key : K) : c.find key = c.ordering.find? (·.first = key) := by
  cases hindex : c.index key with
  | none => grind [find, h.indexed]
  | some iterator =>
    obtain ⟨p, hp, rfl, rfl⟩ := h.found key iterator hindex
    rw [find, hindex, Option.bind_some, ← List.head?_filter, ← List.head?_filter]
    refine congrArg List.head? (List.filter_congr fun q hq => ?_)
    rw [decide_eq_decide, h.address_eq_iff hq hp]

theorem Holds.find_eq (h : c.Holds l) (key : K) :
    (c.find key).map Payload.entry = l.find? (·.1 = key) := by
  rw [h.toInv.find_eq, ← h.entries, List.find?_map]
  rfl

theorem Holds.of_find (h : c.Holds l) (hfind : c.find key = some p) :
    p ∈ c.ordering ∧ p.first = key := by
  rw [h.toInv.find_eq] at hfind
  grind

theorem Holds.erase (h : c.Holds l) (hp : p ∈ c.ordering) :
    (c.erase p.first p).Holds (l.filter (·.1 ≠ p.first)) := by
  have hsame := fun q (hq : q ∈ c.ordering) => h.toInv.address_eq_iff hq hp
  obtain ⟨⟨hnodup, hindexed, hfound, hallocated⟩, rfl⟩ := h
  refine ⟨⟨hnodup.sublist (List.filter_sublist.map _), ?_, ?_, ?_⟩, ?_⟩ <;>
    simp only [MRUCache.erase, update_apply]
  · grind
  · grind
  · grind
  · rw [List.filter_map]
    refine congrArg _ (List.filter_congr fun q hq => ?_)
    exact decide_eq_decide.mpr (not_congr (hsame q hq))

theorem Holds.cons (h : c.Holds l) {allocated : Nat} (hkey : ∀ e ∈ l, e.1 ≠ p.first)
    (hnew : ∀ q ∈ c.ordering, q.address ≠ p.address)
    (hallocated : ∀ q ∈ p :: c.ordering, q.address < allocated) :
    Holds { c with
      ordering := p :: c.ordering
      index := update c.index p.first (some p.address)
      allocated } (p.entry :: l) := by
  obtain ⟨⟨hnodup, hindexed, hfound, -⟩, rfl⟩ := h
  have hkeys : ∀ q ∈ c.ordering, q.first ≠ p.first :=
    fun q hq => hkey q.entry (List.mem_map_of_mem hq)
  refine ⟨⟨?_, ?_, ?_, hallocated⟩, rfl⟩ <;> simp only [update_apply]
  · grind
  · grind
  · grind

theorem Holds.emplaceFront (h : c.Holds l) (hkey : ∀ e ∈ l, e.1 ≠ key) (value : V) :
    (c.emplaceFront key value).Holds ((key, value) :: l) := by
  have hallocated := h.allocated
  have hnone : ¬ (c.index key).isSome = true := by
    intro hsome
    obtain ⟨iterator, hindex⟩ := Option.isSome_iff_exists.mp hsome
    obtain ⟨q, hq, hfirst, -⟩ := h.found key iterator hindex
    exact hkey q.entry (h.entries ▸ List.mem_map_of_mem hq) hfirst
  rw [MRUCache.emplaceFront, if_neg hnone]
  exact h.cons hkey (by grind) (by grind)

theorem Holds.remove (h : c.Holds l) (key : K) :
    ((c.find key).elim c (c.erase key)).Holds (l.filter (·.1 ≠ key)) := by
  have hfind := h.toInv.find_eq key
  cases hpos : c.find key with
  | none =>
    rw [List.filter_eq_self.mpr]
    · exact h
    · grind [h.entries, Payload.entry]
  | some p =>
    obtain ⟨hp, rfl⟩ := h.of_find hpos
    exact h.erase hp

theorem Holds.evict (h : c.Holds l) (maxSize : Nat) : (c.evict maxSize).Holds (l.take maxSize) := by
  fun_induction MRUCache.evict maxSize c generalizing l with
  | case1 c last hlast hlt ih =>
    obtain ⟨front, hfront⟩ := List.getLast?_eq_some_iff.mp hlast
    have hrest : (c.erase last.first last).ordering = front := by
      have hnodup := h.nodup
      rw [hfront, List.map_append, List.nodup_append] at hnodup
      rw [MRUCache.erase, hfront, List.filter_append, List.filter_eq_self.mpr]
      · simp
      · intro p hp
        simpa using hnodup.2.2 _ (List.mem_map_of_mem hp) _ List.mem_cons_self
    have hsize : maxSize ≤ (front.map Payload.entry).length := by grind
    rw [← h.entries, hfront, List.map_append, List.take_append_of_le_length hsize]
    exact ih ⟨(h.erase (List.mem_of_getLast? hlast)).toInv, congrArg _ hrest⟩
  | case2 c last hlast hle =>
    rw [List.take_of_length_le]
    · exact h
    · simpa [← h.entries] using hle
  | case3 c hnil =>
    obtain rfl : l = [] := by simpa [List.getLast?_eq_none_iff.mp hnil] using h.entries.symm
    simpa using h

theorem Holds.step (h : c.Holds l) (maxSize : Nat) (e : Event K V) :
    (c.step maxSize e).Holds (Lru.step maxSize l e) := by
  have hfree : ∀ key, ∀ e ∈ l.filter (·.1 ≠ key), e.1 ≠ key := by simp
  have hremove := h.remove
  have hfind := h.find_eq
  cases e with
  | put key value => exact ((hremove key).emplaceFront (hfree key) value).evict maxSize
  | get key =>
    specialize hremove key
    simp only [MRUCache.step, MRUCache.get, Lru.step, ← hfind]
    cases hpos : c.find key with
    | none =>
      rw [hpos] at hremove
      exact hremove
    | some p =>
      rw [hpos] at hremove
      obtain ⟨hp, rfl⟩ := h.of_find hpos
      have hfront := hremove.cons (hfree p.first) (by simp [MRUCache.erase])
        (fun q hq => h.allocated q (by grind [MRUCache.erase]))
      -- the index has not changed
      simp only [Option.elim_some, MRUCache.erase, update_idem, ← h.indexed p hp,
        update_eq_self] at hfront
      exact hfront
  | peek key => exact h
  | erase key =>
    specialize hremove key
    rw [MRUCache.step]
    cases hpos : c.find key with
    | none =>
      rw [hpos] at hremove
      exact hremove
    | some p =>
      rw [hpos] at hremove
      obtain ⟨-, rfl⟩ := h.of_find hpos
      exact hremove

omit [DecidableEq K] in
theorem Holds.keys_nodup (h : c.Holds l) : (l.map Prod.fst).Nodup := by
  rw [← h.entries, List.map_map]
  refine h.nodup.of_map.map_on fun p hp q hq heq => ?_
  exact List.inj_on_of_nodup_map h.nodup hp hq ((h.address_eq_iff hp hq).mpr heq)

end MRUCache

/-- **A cache is the list of its keys** in the order of their last use, with as many of them as
it may have. It finds what the list has, and its index points from each key to its element. -/
theorem mruCache_refines (maxSize : Nat) (es : List (MRUCache.Event K V)) :
    let c := (MRUCache.system maxSize).run es
    let l := (Lru.system maxSize).run es
    c.ordering.map Payload.entry = l ∧ (l.map Prod.fst).Nodup ∧ l.length ≤ maxSize ∧
      (∀ key, (c.find key).map Payload.entry = l.find? (·.1 = key)) ∧
      ∀ key iterator, c.index key = some iterator ↔
        ∃ p ∈ c.ordering, p.first = key ∧ p.address = iterator := by
  have hrun : ((MRUCache.system maxSize).run es).Holds ((Lru.system maxSize).run es) ∧
      ((Lru.system maxSize).run es).length ≤ maxSize := by
    induction es using List.reverseRecOn with
    | nil => exact ⟨⟨⟨List.nodup_nil, by simp [MRUCache.system], by simp [MRUCache.system],
        by simp [MRUCache.system]⟩, rfl⟩, Nat.zero_le _⟩
    | append_singleton es e ih =>
      rw [Lts.System.run_concat, Lts.System.run_concat]
      exact ⟨ih.1.step maxSize e, Lru.length_step_le ih.2 e⟩
  obtain ⟨hholds, hlength⟩ := hrun
  refine ⟨hholds.entries, hholds.keys_nodup, hlength, hholds.find_eq, fun key iterator => ?_⟩
  exact ⟨hholds.found key iterator, fun ⟨p, hp, hkey, heq⟩ => hkey ▸ heq ▸ hholds.indexed p hp⟩

end ScadaCore.Base
