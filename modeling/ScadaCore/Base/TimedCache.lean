import ScadaCore.Lts.System
import Mathlib.Data.List.Induction

/-!
# Base.TimedCache — a cache of what is in use

At a tick of a `TimedCache`, `IsTimedCacheExpired` says of every entry whether it is still in use.
One that is not is erased by a tick that comes `cache_duration_` after the one that first found it
so. The clock is read at the start of a tick, and once more where `expiration_time` is set; zero
stands there for an entry in use. What happens to a key is told by itself (`entry_concat`).
-/

namespace ScadaCore.Base

structure CacheEntry (V : Type) where
  value : V
  expirationTime : Int := 0

/-- What `OnTimer` reads: the clock, before the loop and at an entry, and `IsTimedCacheExpired`. -/
structure Tick (K : Type) where
  time : Int
  now : K → Int
  expired : K → Bool

namespace TimedCache

inductive Event (K V : Type) where
  | add (key : K) (value : V)
  | find (key : K)
  | tick (tick : Tick K)

/-- The clock is positive and does not go back. -/
structure Timely {K V : Type} (es : List (Event K V)) : Prop where
  reading : ∀ tick, .tick tick ∈ es → ∀ key, 0 < tick.time ∧ tick.time ≤ tick.now key
  later : es.Pairwise fun e e' => ∀ tick tick', e = .tick tick → e' = .tick tick' →
    ∀ key, tick.now key ≤ tick'.time

variable {K V : Type} (cacheDuration : Int)

/-- The loop of `OnTimer` at an entry; `none` if it is erased. -/
def visit (tick : Tick K) (key : K) (entry : CacheEntry V) : Option (CacheEntry V) :=
  if tick.expired key then
    if entry.expirationTime = 0 then some { entry with expirationTime := tick.now key }
    else if tick.time - entry.expirationTime ≥ cacheDuration then none
    else some entry
  else some { entry with expirationTime := 0 }

variable [Ord K]

def onTimer (tick : Tick K) (map : Std.TreeMap K (CacheEntry V)) : Std.TreeMap K (CacheEntry V) :=
  map.filterMap (visit cacheDuration tick)

def step (map : Std.TreeMap K (CacheEntry V)) : Event K V → Std.TreeMap K (CacheEntry V)
  -- `Check` ends the program if the key is there.
  | .add key value => map.insertIfNew key { value }
  | .find _ => map
  | .tick tick => onTimer cacheDuration tick map

def system : Lts.System (Std.TreeMap K (CacheEntry V)) (Event K V) := ⟨∅, step cacheDuration⟩

def entry (key : K) (es : List (Event K V)) : Option (CacheEntry V) :=
  ((system cacheDuration).run es)[key]?

/-- The key has an entry throughout some events, and every tick among them finds it expired. -/
structure Unused (key : K) (pre es : List (Event K V)) : Prop where
  kept : ∀ mid, mid <+: es → entry cacheDuration key (pre ++ mid) ≠ none
  expired : ∀ tick, .tick tick ∈ es → tick.expired key

/-! ## What is not in use -/

variable {d : Int} {key : K} {pre mid es : List (Event K V)} {e : Event K V} {now : CacheEntry V}

theorem Unused.concat (h : Unused d key pre mid) (hkept : entry d key (pre ++ (mid ++ [e])) ≠ none)
    (hexpired : ∀ tick, e = .tick tick → tick.expired key) : Unused d key pre (mid ++ [e]) := by
  refine ⟨fun mid' hmid => ?_, by grind [Unused]⟩
  rcases List.prefix_concat_iff.mp hmid with rfl | hmid
  · exact hkept
  · exact h.kept mid' hmid

variable [Std.TransOrd K] [Std.LawfulEqOrd K]

theorem entry_concat (d : Int) (key : K) (es : List (Event K V)) (e : Event K V) :
    (∃ tick, e = .tick tick ∧ entry d key (es ++ [e]) = (entry d key es).bind (visit d tick key)) ∨
      (∀ tick, e ≠ .tick tick) ∧ (entry d key (es ++ [e]) = entry d key es ∨
        entry d key es = none ∧ ∃ value, entry d key (es ++ [e]) = some { value }) := by
  simp only [entry, Lts.System.run_concat]
  cases e with
  | add key' value =>
    refine .inr ⟨by simp, ?_⟩
    simp only [system, step, Std.TreeMap.getElem?_insertIfNew]
    split_ifs with hnew
    · obtain rfl : key' = key := Std.compare_eq_iff_eq.mp hnew.1
      exact .inr ⟨Std.TreeMap.getElem?_eq_none hnew.2, value, rfl⟩
    · exact .inl rfl
  | find _ => exact .inr ⟨by simp, .inl rfl⟩
  | tick tick => exact .inl ⟨tick, rfl, Std.TreeMap.getElem?_filterMap'⟩

/-- `expiration_time` is the reading of the clock at the tick since which the entry is unused. -/
theorem unused_since (h : entry d key es = some now) (hset : now.expirationTime ≠ 0) :
    ∃ pre first mid, es = pre ++ .tick first :: mid ∧ first.now key = now.expirationTime ∧
      Unused d key pre (.tick first :: mid) := by
  induction es using List.reverseRecOn with
  | nil => simp [entry, system] at h
  | append_singleton es e ih =>
    have hkept := Option.ne_none_iff_exists'.mpr ⟨now, h⟩
    have hexpired : ∀ tick, e = .tick tick → tick.expired key := by
      grind [entry_concat d key es e, visit, Option.bind_eq_some_iff]
    by_cases hentry : entry d key es = some now
    · obtain ⟨pre, first, mid, rfl, hnow, hunused⟩ := ih hentry
      exact ⟨pre, first, mid ++ [e], by simp, hnow, hunused.concat (by simpa using hkept) hexpired⟩
    · obtain ⟨tick, rfl, hnow, hthere⟩ : ∃ tick, e = .tick tick ∧
          tick.now key = now.expirationTime ∧ entry d key es ≠ none := by
        grind [entry_concat d key es e, visit, Option.bind_eq_some_iff]
      have hstart : Unused d key es [] := ⟨by simpa using hthere, by simp⟩
      exact ⟨es, tick, [], rfl, hnow, hstart.concat hkept hexpired⟩

/-- Once it is set, `expiration_time` stays as long as the entry is unused. -/
theorem Unused.entry_append (h : Unused d key pre mid) (hentry : entry d key pre = some now)
    (hset : now.expirationTime ≠ 0) : entry d key (pre ++ mid) = some now := by
  induction mid using List.reverseRecOn with
  | nil => rwa [List.append_nil]
  | append_singleton mid e ih =>
    have hkept := h.kept (mid ++ [e]) (List.prefix_refl _)
    have hmid : Unused d key pre mid :=
      ⟨fun mid' hmid => h.kept mid' (hmid.trans (List.prefix_append mid [e])),
        fun tick htick => h.expired tick (List.mem_append_left [e] htick)⟩
    have hexpired := h.expired
    rw [← List.append_assoc] at hkept ⊢
    grind [entry_concat d key (pre ++ mid) e, visit]

theorem Unused.erased {first last : Tick K} (h : Unused d key pre (.tick first :: mid))
    (htimely : Timely (pre ++ .tick first :: mid)) (hexpired : last.expired key)
    (hlate : first.now key + d ≤ last.time) :
    entry d key (pre ++ .tick first :: mid ++ [.tick last]) = none := by
  have hfirst := htimely.reading first (by simp) key
  have hfound := h.expired first (by simp)
  obtain ⟨now, hentry⟩ := Option.ne_none_iff_exists'.mp (h.kept [.tick first] (by simp))
  have hset : now.expirationTime ≠ 0 := by
    grind [entry_concat d key pre (.tick first), visit, Option.bind_eq_some_iff]
  -- The clock was read at the first tick or at one before it.
  have hread : now.expirationTime ≤ first.now key := by
    obtain ⟨pre', start, mid', heq, hnow, -⟩ := unused_since hentry hset
    have hmem : .tick start ∈ pre ++ [.tick first] := heq ▸ by simp
    have hlater := (List.pairwise_append.mp htimely.later).2.2 (.tick start)
    have hbefore := fun hpre => hlater hpre (.tick first) (by simp) start first rfl rfl key
    grind
  have hrest : Unused d key (pre ++ [.tick first]) mid :=
    ⟨fun mid' hmid => by simpa using h.kept (.tick first :: mid') (by simpa using hmid),
      fun tick htick => h.expired tick (by simp [htick])⟩
  have hlast := hrest.entry_append hentry hset
  rw [List.append_assoc, List.singleton_append] at hlast
  grind [entry_concat d key (pre ++ .tick first :: mid) (.tick last), visit]

/-- **What is in use stays.** An event erases an entry only if it is a tick that finds it expired,
as have all since one that was `cache_duration_` before it. It does erase what has been found
expired since a tick whose readings were that long ago. What a tick does to an entry depends on
the entry alone. -/
theorem timedCache_keepsUsed (cacheDuration : Int) (key : K) {es : List (Event K V)}
    {e : Event K V} (htimely : Timely (es ++ [e])) :
    (entry cacheDuration key es ≠ none → entry cacheDuration key (es ++ [e]) = none →
      ∃ last, e = .tick last ∧ last.expired key ∧
        ∃ pre first mid, es = pre ++ .tick first :: mid ∧
          first.time + cacheDuration ≤ last.time ∧
          Unused cacheDuration key pre (.tick first :: mid)) ∧
    (∀ last, e = .tick last → last.expired key → ∀ pre first mid,
      es = pre ++ .tick first :: mid → Unused cacheDuration key pre (.tick first :: mid) →
      first.now key + cacheDuration ≤ last.time → entry cacheDuration key (es ++ [e]) = none) ∧
    ∀ (map map' : Std.TreeMap K (CacheEntry V)) (tick tick' : Tick K),
      map[key]? = map'[key]? → tick.time = tick'.time →
      tick.now key = tick'.now key → tick.expired key = tick'.expired key →
      (onTimer cacheDuration tick map)[key]? = (onTimer cacheDuration tick' map')[key]? := by
  refine ⟨?_, ?_, ?_⟩
  · intro hthere hgone
    obtain ⟨now, hentry⟩ := Option.ne_none_iff_exists'.mp hthere
    obtain ⟨last, rfl, hexpired, hset, hlate⟩ : ∃ last, e = .tick last ∧ last.expired key ∧
        now.expirationTime ≠ 0 ∧ last.time - now.expirationTime ≥ cacheDuration := by
      grind [entry_concat cacheDuration key es e, visit]
    obtain ⟨pre, first, mid, rfl, hnow, hunused⟩ := unused_since hentry hset
    have hfirst := htimely.reading first (by simp) key
    exact ⟨last, rfl, hexpired, pre, first, mid, rfl, by omega, hunused⟩
  · rintro last rfl hexpired pre first mid rfl hunused hlate
    have hbefore : Timely (pre ++ .tick first :: mid) :=
      ⟨fun tick htick => htimely.reading tick (List.mem_append_left _ htick),
        htimely.later.sublist (List.sublist_append_left _ _)⟩
    exact hunused.erased hbefore hexpired hlate
  · intro map map' tick tick' hmap htime hnow hexpired
    simp only [onTimer, Std.TreeMap.getElem?_filterMap', hmap]
    congr 1
    funext now
    simp only [visit, htime, hnow, hexpired]

theorem timedCache_keepsUsed_late :
    entry 10 0 [.add 0 (), .tick ⟨1, fun _ => 2, fun _ => true⟩,
      .tick ⟨12, fun _ => 13, fun _ => true⟩] = none := by
  have hadd : entry 10 0 [.add 0 ()] ≠ none := by decide
  have hnone : Unused 10 0 [.add 0 ()] [] := ⟨by simpa using hadd, by simp⟩
  exact (timedCache_keepsUsed 10 0 ⟨by simp, by simp⟩).2.1 _ rfl rfl _ _ [] rfl
    (hnone.concat (by decide +kernel) (by simp)) (by decide)

end TimedCache

end ScadaCore.Base
