import ScadaCore.Data.Table
import ScadaCore.Lts.System
import Mathlib.Data.List.Range

/-!
# Base.AsyncCache — one fetch for all who wait for a key

Every call of an `AsyncCache` works on `entries_[key]`. So the model has the calls as functions
of one `Entry`, with what they answer and which completions they call (`Outcome`), and the cache
is a table of entries. A miss callback runs as the last thing in `Wait`: the calls that it makes
are the events that follow. Completions are posted, so nothing happens in between.
-/

namespace ScadaCore.Base

namespace AsyncCache

/-- `Entry`. A completion stands in `waiters` with the number of its `Wait`; `waits` counts
them. -/
structure Entry (V : Type) where
  value : Option V := none
  inProgress : Bool := false
  waiters : List Nat := []
  waits : Nat := 0

/-- What a call does: the entry after it, the completions called, and what `TryStart` returns. -/
structure Outcome (V : Type) where
  entry : Entry V
  served : List (Nat × V) := []
  claimed : Bool := false

inductive Call (V : Type) where
  | wait
  | tryStart
  | tryStartPrefetch
  | complete (value : V)

namespace Entry

variable {V : Type} (entry : Entry V)

/-- `Wait`, up to its miss callback. -/
def wait : Outcome V :=
  let number := entry.waits
  match entry.value with
  | some value => { entry := { entry with waits := number + 1 }, served := [(number, value)] }
  | none => { entry := { entry with waiters := entry.waiters ++ [number], waits := number + 1 } }

def tryStart : Outcome V :=
  if entry.value.isSome || entry.inProgress || entry.waiters.isEmpty then { entry }
  else { entry := { entry with inProgress := true }, claimed := true }

def tryStartPrefetch : Outcome V :=
  if entry.value.isSome || entry.inProgress then { entry }
  else { entry := { entry with inProgress := true }, claimed := true }

def complete (value : V) : Outcome V :=
  { entry := { entry with inProgress := false, value := some value, waiters := [] }
    served := entry.waiters.map (·, value) }

def call : Call V → Outcome V
  | .wait => entry.wait
  | .tryStart => entry.tryStart
  | .tryStartPrefetch => entry.tryStartPrefetch
  | .complete value => entry.complete value

def isPending : Bool :=
  !entry.value.isSome && !entry.inProgress && !entry.waiters.isEmpty

theorem free_of_claimed {entry : Entry V} {call : Call V} (h : (entry.call call).claimed = true) :
    entry.value = none ∧ entry.inProgress = false := by
  cases call with
  | wait => cases hvalue : entry.value <;> simp [Entry.call, wait, hvalue] at h
  | tryStart =>
    rw [Entry.call, tryStart] at h
    split at h <;> simp_all
  | tryStartPrefetch =>
    rw [Entry.call, tryStartPrefetch] at h
    split at h <;> simp_all
  | complete value => cases h

theorem value_of_served {entry : Entry V} {call : Call V} {number : Nat} {value : V}
    (h : (number, value) ∈ (entry.call call).served) :
    (entry.call call).entry.value = some value := by
  cases call with
  | wait => cases hvalue : entry.value <;> simp_all [Entry.call, wait]
  | tryStart =>
    rw [Entry.call, tryStart] at h
    split at h <;> cases h
  | tryStartPrefetch =>
    rw [Entry.call, tryStartPrefetch] at h
    split at h <;> cases h
  | complete value =>
    obtain ⟨waiter, -, heq⟩ := List.mem_map.mp h
    cases heq
    rfl

def system : Lts.System (Entry V) (Call V) := ⟨{}, fun entry call => (entry.call call).entry⟩

end Entry

/-! ## One key -/

section Calls

variable {V : Type}

def Call.value? : Call V → Option V
  | .complete value => some value
  | _ => none

def Call.isWait : Call V → Bool
  | .wait => true
  | _ => false

variable (calls : List (Call V))

def values : List V := calls.filterMap Call.value?

def waits : Nat := calls.countP Call.isWait

def outcomes : List (Outcome V) :=
  Entry.system.collect (fun entry call => [entry.call call]) calls

def claimed : Bool := (outcomes calls).any Outcome.claimed

def completions : List (Nat × V) := (outcomes calls).flatMap Outcome.served

variable (call : Call V)

theorem values_concat : values (calls ++ [call]) = values calls ++ call.value?.toList := by
  cases call <;> simp [values, Call.value?]

theorem waits_concat : waits (calls ++ [call]) = waits calls + call.isWait.toNat := by
  cases call <;> simp [waits, Call.isWait]

theorem claimed_concat :
    claimed (calls ++ [call]) = (claimed calls || ((Entry.system.run calls).call call).claimed) := by
  simp [claimed, outcomes]

theorem completions_concat : completions (calls ++ [call]) =
    completions calls ++ ((Entry.system.run calls).call call).served := by
  simp [completions, outcomes]

theorem run_eq :
    Entry.system.run calls =
        { value := (values calls).getLast?
          inProgress := (values calls).isEmpty && claimed calls
          waiters := if (values calls).isEmpty then List.range (waits calls) else []
          waits := waits calls } ∧
      (completions calls).map Prod.fst =
        if (values calls).isEmpty then [] else List.range (waits calls) := by
  induction calls using List.reverseRecOn with
  | nil => exact ⟨rfl, rfl⟩
  | append_singleton calls call ih =>
    obtain ⟨hentry, hserved⟩ := ih
    rw [Lts.System.run_concat, values_concat, waits_concat, claimed_concat, completions_concat,
      List.map_append, hserved, hentry]
    rcases List.eq_nil_or_concat (values calls) with hnone | ⟨earlier, value, hsome⟩
    · -- nothing has been completed yet
      rw [hnone]
      cases call with
      | wait => simp [Entry.system, Entry.call, Entry.wait, Call.value?, Call.isWait, List.range_succ]
      | tryStart =>
        cases hclaim : claimed calls <;> cases hwaits : waits calls <;>
          simp [Entry.system, Entry.call, Entry.tryStart, Call.value?, Call.isWait]
      | tryStartPrefetch =>
        cases hclaim : claimed calls <;>
          simp [Entry.system, Entry.call, Entry.tryStartPrefetch, Call.value?, Call.isWait]
      | complete value =>
        simp [Entry.system, Entry.call, Entry.complete, Call.value?, Call.isWait, Function.comp_def]
    · rw [hsome]
      cases call <;>
        simp [Entry.system, Entry.call, Entry.wait, Entry.tryStart, Entry.tryStartPrefetch,
          Entry.complete, Call.value?, Call.isWait, List.range_succ]

variable {calls call}

theorem claimed_call (h : ((Entry.system.run calls).call call).claimed = true) :
    values calls = [] ∧ claimed calls = false := by
  obtain ⟨hnone, hfree⟩ := Entry.free_of_claimed h
  rw [(run_eq calls).1] at hnone hfree
  simp_all

theorem served_call {number : Nat} {value : V}
    (h : (number, value) ∈ ((Entry.system.run calls).call call).served) :
    (values (calls ++ [call])).getLast? = some value := by
  have hvalue := Entry.value_of_served h
  have hrun := (run_eq (calls ++ [call])).1
  rw [Lts.System.run_concat] at hrun
  exact (congrArg Entry.value hrun).symm.trans hvalue

theorem isPending_run : (Entry.system.run calls).isPending = true ↔
    0 < waits calls ∧ values calls = [] ∧ claimed calls = false := by
  rw [(run_eq calls).1, Entry.isPending]
  cases hvalues : values calls <;> cases claimed calls <;> simp [Nat.pos_iff_ne_zero]

theorem run_ne_empty (h : 0 < waits calls ∨ claimed calls = true) : Entry.system.run calls ≠ {} := by
  rw [(run_eq calls).1]
  rcases h with hwaits | hclaimed
  · simp [hwaits.ne']
  · cases hvalues : values calls <;> simp [hclaimed]

end Calls

end AsyncCache

/-! ## The cache -/

open AsyncCache

/-- `AsyncCache`. It is `aborted` when `Complete` has not found an entry. -/
structure AsyncCache (K V : Type) where
  entries : Table K (Entry V) := ∅
  aborted : Bool := false

namespace AsyncCache

variable {K V : Type} [DecidableEq K]

structure Event (K V : Type) where
  key : K
  call : Call V

variable (c : AsyncCache K V)

/-- `entries_[key]`. -/
def entry (key : K) : Entry V := (c.entries.lookup key).getD {}

def call (e : Event K V) : Option (Outcome V) :=
  match e.call, c.entries.lookup e.key with
  | .complete _, none => none
  | call, _ => some ((c.entry e.key).call call)

def step (e : Event K V) : AsyncCache K V :=
  match c.call e with
  | none => { c with aborted := true }
  | some outcome => { c with entries := c.entries.insert e.key outcome.entry }

def system : Lts.System (AsyncCache K V) (Event K V) := ⟨{}, step⟩

def pendingKeys : List K :=
  (c.entries.entries.filter (·.2.isPending)).map Sigma.fst

def callsFor (key : K) (es : List (Event K V)) : List (Call V) :=
  es.filterMap fun e => if e.key = key then some e.call else none

/-- `Complete` is called only for a key that has been waited for or claimed. -/
def CompletesKnown (es : List (Event K V)) : Prop :=
  ∀ pre key value, pre ++ [⟨key, .complete value⟩] <+: es →
    0 < waits (callsFor key pre) ∨ claimed (callsFor key pre) = true

theorem CompletesKnown.of_prefix {es pre : List (Event K V)} (h : CompletesKnown es)
    (hpre : pre <+: es) : CompletesKnown pre :=
  fun earlier key value hearlier => h earlier key value (hearlier.trans hpre)

theorem callsFor_concat (key : K) (es : List (Event K V)) (e : Event K V) :
    callsFor key (es ++ [e]) = callsFor key es ++ if e.key = key then [e.call] else [] := by
  rw [callsFor, List.filterMap_append]
  by_cases hkey : e.key = key <;> simp [callsFor, hkey]

theorem call_eq {c : AsyncCache K V} {e : Event K V}
    (h : ∀ value, e.call = .complete value → c.entry e.key ≠ {}) :
    c.call e = some ((c.entry e.key).call e.call) := by
  unfold call
  split
  · rename_i value hcall hnone
    exact absurd (by rw [entry, hnone]; rfl) (h value hcall)
  · rfl

theorem call_run {es : List (Event K V)} {e : Event K V} (h : CompletesKnown (es ++ [e]))
    (hentry : ∀ key, (system.run es).entry key = Entry.system.run (callsFor key es)) :
    (system.run es).call e = some ((Entry.system.run (callsFor e.key es)).call e.call) := by
  rw [← hentry]
  refine call_eq fun value hvalue => ?_
  rw [hentry]
  obtain ⟨key, call⟩ := e
  subst hvalue
  exact run_ne_empty (h es key value (List.prefix_refl _))

theorem entry_run {es : List (Event K V)} (h : CompletesKnown es) :
    (system.run es).aborted = false ∧
      ∀ key, (system.run es).entry key = Entry.system.run (callsFor key es) := by
  induction es using List.reverseRecOn with
  | nil => exact ⟨rfl, fun _ => rfl⟩
  | append_singleton es e ih =>
    obtain ⟨hrunning, hentry⟩ := ih (h.of_prefix (List.prefix_append es [e]))
    rw [Lts.System.run_concat]
    change (step _ e).aborted = false ∧ ∀ key, (step _ e).entry key = _
    rw [step, call_run h hentry]
    refine ⟨hrunning, fun key => ?_⟩
    rw [callsFor_concat]
    by_cases hkey : e.key = key
    · subst hkey
      rw [if_pos rfl, Lts.System.run_concat, entry, AList.lookup_insert]
      rfl
    · rw [if_neg hkey, List.append_nil, entry, AList.lookup_insert_ne (Ne.symm hkey)]
      exact hentry key

theorem mem_pendingKeys {c : AsyncCache K V} {key : K} :
    key ∈ c.pendingKeys ↔ (c.entry key).isPending = true := by
  simp only [pendingKeys, List.mem_map, List.mem_filter, entry]
  constructor
  · rintro ⟨⟨key, entry⟩, ⟨hmem, hpending⟩, rfl⟩
    rw [Option.mem_def.mp (AList.mem_lookup_iff.mpr hmem)]
    exact hpending
  · intro hpending
    cases hlookup : c.entries.lookup key with
    | none =>
      rw [hlookup] at hpending
      cases hpending
    | some entry =>
      rw [hlookup] at hpending
      exact ⟨⟨key, entry⟩, ⟨AList.mem_lookup_iff.mp hlookup, hpending⟩, rfl⟩

/-- **Single flight.** No `Check` fails, and a call does what it does after the calls for its own
key alone. For every key a claim succeeds only if none has before it and nothing was completed;
the `Wait`s complete each once, if something is completed at all, and with the value completed
last; and the key is pending if it was waited for, nothing was completed and nothing claimed. -/
theorem asyncCache_singleFlight (es : List (Event K V)) (h : CompletesKnown es) :
    ((system.run es).aborted = false ∧ ∀ pre e, pre ++ [e] <+: es →
      (system.run pre).call e = some ((Entry.system.run (callsFor e.key pre)).call e.call)) ∧
    (∀ key pre call, pre ++ [call] <+: callsFor key es →
      (((Entry.system.run pre).call call).claimed = true →
        values pre = [] ∧ claimed pre = false) ∧
      ∀ number value, (number, value) ∈ ((Entry.system.run pre).call call).served →
        (values (pre ++ [call])).getLast? = some value) ∧
    (∀ key, (completions (callsFor key es)).map Prod.fst =
      if (values (callsFor key es)).isEmpty then [] else List.range (waits (callsFor key es))) ∧
    (system.run es).pendingKeys.Nodup ∧
    ∀ key, key ∈ (system.run es).pendingKeys ↔ 0 < waits (callsFor key es) ∧
      values (callsFor key es) = [] ∧ claimed (callsFor key es) = false := by
  obtain ⟨hrunning, hentry⟩ := entry_run h
  refine ⟨⟨hrunning, fun pre e hpre => ?_⟩,
    fun key pre call _ => ⟨claimed_call, fun _ _ => served_call⟩, fun key => (run_eq _).2, ?_,
    fun key => ?_⟩
  · have hknown := h.of_prefix hpre
    exact call_run hknown (entry_run (hknown.of_prefix (List.prefix_append pre [e]))).2
  · exact (system.run es).entries.nodupKeys.sublist List.filter_sublist
  · rw [mem_pendingKeys, hentry, isPending_run]

/-- Somebody waits, and the fetch completes. -/
theorem asyncCache_singleFlight_waited :
    let es : List (Event Nat Bool) := [⟨1, .wait⟩, ⟨1, .complete true⟩]
    (system.run es).aborted = false ∧ (completions (callsFor 1 es)).map Prod.fst = [0] ∧
      1 ∉ (system.run es).pendingKeys := by
  intro es
  have hknown : CompletesKnown es := by
    intro pre key value hpre
    have hlen := hpre.length_le
    match pre with
    | [] => simp [es] at hpre
    | [e] =>
      obtain ⟨rfl, hlast⟩ := List.cons_prefix_cons.mp hpre
      cases List.cons_prefix_cons.mp hlast |>.1
      exact Or.inl (by decide)
    | _ :: _ :: _ => simp [es] at hlen
  obtain ⟨hrunning, -, hcompleted, -, hpending⟩ := asyncCache_singleFlight es hknown
  refine ⟨hrunning.1, hcompleted 1, fun hmem => ?_⟩
  obtain ⟨-, hvalues, -⟩ := (hpending 1).mp hmem
  cases hvalues

end AsyncCache

end ScadaCore.Base
