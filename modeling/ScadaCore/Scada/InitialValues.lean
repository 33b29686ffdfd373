import Mathlib.Data.Option.Basic
import ScadaCore.Data.Panic
import ScadaCore.Scada.Services

/-!
# Scada.InitialValues — reading values through a subscription

`ReadInitialValuesAsync` reads attributes by subscribing to them. It has one slot
for each, which is completed by the first thing that is heard of the item: that
it could not be added, a value, a status, or an error of the subscription. The
call returns when no slot is left.

A slot is written once, and the counter is the number of slots to be written.
The second is a field of `Slots`, so that no step can get them out of line.
-/

namespace ScadaCore.Scada.InitialValues

open MonitoredItem

variable {V E : Type}

/-- `MakeReadError`; there is none for a status that is not Bad. -/
def makeReadError (statusCode : StatusCode) (now : Time) : Option (DataValue V) := do
  check statusCode.isBad
  DataValue.ofStatus statusCode now

theorem makeReadError_of_isBad {statusCode : StatusCode} (h : statusCode.isBad) (now : Time) :
    makeReadError (V := V) statusCode now = some { serverTimestamp := now, statusCode } := by
  simp [makeReadError, DataValue.ofStatus, h, StatusCode.not_isGood_of_isBad h]

/-! ## The slots -/

/-- The local variables `results`, `completed` and `remaining`, and how often the
clock has been read. -/
structure Slots (V : Type) where
  results : List (DataValue V)
  completed : List Bool
  remaining : Nat
  clockReads : Nat := 0
  sameSize : completed.length = results.length
  counted : remaining = completed.count false

/-- `--remaining` of a `size_t`. -/
def decrement (remaining : Nat) : Nat := if remaining = 0 then 2 ^ 64 - 1 else remaining - 1

variable (clock : Nat → Time) (s : Slots V) (count : Nat)

namespace Slots

def start : Slots V where
  results := List.replicate count {}
  completed := List.replicate count false
  remaining := count
  sameSize := by simp
  counted := by simp

/-- The test at the start of `CompleteWithStatus` and `CompleteWithValue`. -/
def Closed (index : Nat) : Prop :=
  index ≥ s.results.length ∨ s.completed[index]? = some true

instance (s : Slots V) (index : Nat) : Decidable (s.Closed index) :=
  inferInstanceAs (Decidable (_ ∨ _))

theorem completed_of_not_closed {s : Slots V} {index : Nat} (h : ¬ s.Closed index) :
    ∃ hlt : index < s.completed.length, s.completed[index] = false := by
  rw [Closed, not_or, not_le] at h
  have hlt : index < s.completed.length := s.sameSize ▸ h.1
  have hopen : s.completed[index] ≠ true := fun hclosed =>
    h.2 (List.getElem?_eq_some_iff.mpr ⟨hlt, hclosed⟩)
  exact ⟨hlt, by simpa using hopen⟩

theorem count_set_true {completed : List Bool} {index : Nat} (hlt : index < completed.length)
    (hopen : completed[index] = false) :
    decrement (completed.count false) = (completed.set index true).count false := by
  have hmem : false ∈ completed := hopen ▸ List.getElem_mem hlt
  have hpos : completed.count false ≠ 0 := (List.count_pos_iff.mpr hmem).ne'
  rw [decrement, if_neg hpos, List.count_set hlt]
  simp [hopen]

/-- What both functions do with a slot that is open. -/
def fill (index : Nat) (value : DataValue V) (h : ¬ s.Closed index) : Slots V where
  results := s.results.set index value
  completed := s.completed.set index true
  remaining := decrement s.remaining
  clockReads := s.clockReads
  sameSize := by simp [s.sameSize]
  counted := by
    obtain ⟨hlt, hopen⟩ := completed_of_not_closed h
    rw [s.counted, count_set_true hlt hopen]

def completeWithStatus (index : Nat) (statusCode : StatusCode) : Option (Slots V) :=
  if h : s.Closed index then
    some s
  else do
    let error ← makeReadError statusCode (clock s.clockReads)
    return { s.fill index error h with clockReads := s.clockReads + 1 }

def completeWithValue (index : Nat) (value : DataValue V) : Slots V :=
  if h : s.Closed index then s else s.fill index value h

/-- The loops over all slots, after an overflow and after an error. -/
def completeAll (statusCode : StatusCode) : Option (Slots V) :=
  (List.range s.results.length).foldlM (fun s index => s.completeWithStatus clock index statusCode)
    s

end Slots

/-! ## The coroutine -/

/-- What the call sends to `AddItems`. A position that is too large for a client
handle gets the largest one. -/
def createRequests (params : MonitoringParameters) (readValueIds : List ReadValueId) :
    List CreateRequest :=
  readValueIds.mapIdx fun i readValueId =>
    { itemToMonitor := readValueId
      parameters := params
      clientHandle := if i > 2 ^ 32 - 1 then UInt32.ofNat (2 ^ 32 - 1) else UInt32.ofNat i }

/-- One round of the loop over the results of `AddItems`. -/
def onAddResult (state : Slots V × List Bool) (result : CreateResult) :
    Option (Slots V × List Bool) :=
  let (slots, addResultSeen) := state
  let index := result.clientHandle.toNat
  if index ≥ slots.results.length then
    some state
  else do
    let addResultSeen := addResultSeen.set index true
    if result.status.bad then
      return (← slots.completeWithStatus clock index result.status.code, addResultSeen)
    else
      return (slots, addResultSeen)

/-- One round of the loop that follows it. -/
def onUnseen (addResultSeen : List Bool) (slots : Slots V) (index : Nat) : Option (Slots V) :=
  if addResultSeen[index]? = some false then
    slots.completeWithStatus clock index .bad
  else
    some slots

/-- The loop over a batch, and whether there was an overflow in it. -/
def onBatch (clock : Nat → Time) (slots : Slots V) :
    List (Notification V E) → Option (Slots V × Bool)
  | [] => some (slots, false)
  | .dataChange _ clientHandle value :: rest =>
    onBatch clock (slots.completeWithValue clientHandle.toNat value) rest
  | .itemStatus _ clientHandle status :: rest => do
    onBatch clock (← slots.completeWithStatus clock clientHandle.toNat status.code) rest
  | .overflow status :: _ => do
    return (← slots.completeAll clock status.code, true)
  | .event .. :: rest => onBatch clock slots rest

/-- Where the call is when the subscription has given the answers that it has. -/
inductive Outcome (V E : Type) where
  /-- It has returned the results and left these answers unread. -/
  | returned (results : List (DataValue V))
      (unread : List (StatusOr (List (Notification V E))))
  /-- It is suspended in `ReadNext(remaining)`. -/
  | waiting (slots : Slots V)

/-- `while (remaining != 0)`, over the answers of `ReadNext`. -/
def readLoop (clock : Nat → Time) (slots : Slots V) :
    List (StatusOr (List (Notification V E))) → Option (Outcome V E)
  | [] =>
    if slots.remaining = 0 then some (.returned slots.results []) else some (.waiting slots)
  | answer :: answers =>
    if slots.remaining = 0 then
      some (.returned slots.results (answer :: answers))
    else
      match answer with
      | .error status => do
        return .returned (← slots.completeAll clock status.val.code).results answers
      | .ok notifications => do
        let (slots, overflowed) ← onBatch clock slots notifications
        if overflowed then
          return .returned slots.results answers
        else
          readLoop clock slots answers

/-- The service that is read from: its answers to the calls that are made once. -/
structure Service where
  createSubscription : SubscriptionOptions → StatusOr Unit
  addItems : List CreateRequest → List CreateResult

def readInitialValues (service : Service) (params : MonitoringParameters)
    (readValueIds : List ReadValueId) (answers : List (StatusOr (List (Notification V E)))) :
    Option (Outcome V E) := do
  let slots := Slots.start readValueIds.length
  if readValueIds.isEmpty then
    return .returned slots.results answers
  match service.createSubscription { maxBatchSize := readValueIds.length } with
  | .error status =>
    let error ← makeReadError status.val.code (clock 0)
    return .returned (List.replicate readValueIds.length error) answers
  | .ok () =>
    let addResults := service.addItems (createRequests params readValueIds)
    let (slots, addResultSeen) ←
      addResults.foldlM (onAddResult clock) (slots, List.replicate readValueIds.length false)
    let slots ← (List.range addResultSeen.length).foldlM (onUnseen clock addResultSeen) slots
    readLoop clock slots answers

/-! ## What is heard of an item -/

/-- Something that completes a slot. -/
inductive Source (V : Type) where
  | status (statusCode : StatusCode)
  | value (value : DataValue V)

/-- A slot that was completed by a status has the time of its completion. -/
def Source.Gives (result : DataValue V) : Source V → Prop
  | .status code => ∃ reading, result = { serverTimestamp := clock reading, statusCode := code }
  | .value sent => result = sent

variable (index : Nat) (addResults : List CreateResult)

def failedAdds : List (Source V) :=
  addResults.filterMap fun result =>
    if result.clientHandle.toNat = index ∧ result.status.bad then
      some (.status result.status.code)
    else
      none

def missingAdd : List (Source V) :=
  if addResults.any (·.clientHandle.toNat = index) then [] else [.status .bad]

/-- An event completes nothing, and an overflow concerns every item. -/
def notificationSource : Notification V E → Option (Source V)
  | .dataChange _ clientHandle value =>
    if clientHandle.toNat = index then some (.value value) else none
  | .itemStatus _ clientHandle status =>
    if clientHandle.toNat = index then some (.status status.code) else none
  | .overflow status => some (.status status.code)
  | .event .. => none

def answerSources : StatusOr (List (Notification V E)) → List (Source V)
  | .ok notifications => notifications.filterMap (notificationSource index)
  | .error status => [.status status.val.code]

def sources (answers : List (StatusOr (List (Notification V E)))) : List (Source V) :=
  failedAdds index addResults ++ missingAdd index addResults ++
    answers.flatMap (answerSources index)

variable (heard : Nat → List (Source V))

namespace Slots

def held (index : Nat) : Option (DataValue V) :=
  if s.completed[index]? = some true then s.results[index]? else none

/-- Every slot holds the first of what has been heard of its item. -/
def Holds : Prop :=
  ∀ index, index < s.results.length →
    Option.Rel (Source.Gives clock) (s.held index) (heard index).head?

theorem held_fill {s : Slots V} {index : Nat} (value : DataValue V) (h : ¬ s.Closed index)
    (other : Nat) :
    (s.fill index value h).held other = if other = index then some value else s.held other := by
  obtain ⟨hlt, -⟩ := completed_of_not_closed h
  have hlt' : index < s.results.length := s.sameSize ▸ hlt
  unfold held fill
  by_cases heq : other = index
  · subst heq
    simp [hlt, hlt']
  · simp [heq, List.getElem?_set_ne (Ne.symm heq)]

theorem held_isSome_iff {s : Slots V} {index : Nat} (hlt : index < s.results.length) :
    (s.held index).isSome ↔ s.Closed index := by
  unfold held Closed
  split
  · rename_i hdone
    simp [hdone, hlt]
  · rename_i hopen
    simp [hopen, Nat.not_le.mpr hlt]

def hear (index : Nat) (more : List (Source V)) : Nat → List (Source V) :=
  fun other => if other = index then heard other ++ more else heard other

namespace Holds

variable {clock} {s} {heard heard' : Nat → List (Source V)}

theorem congr (h : s.Holds clock heard)
    (heq : ∀ index, index < s.results.length → (heard index).head? = (heard' index).head?) :
    s.Holds clock heard' := by
  intro index hlt
  rw [← heq index hlt]
  exact h index hlt

theorem closed_iff (h : s.Holds clock heard) {index : Nat} (hlt : index < s.results.length) :
    s.Closed index ↔ heard index ≠ [] := by
  rw [← held_isSome_iff hlt]
  have hrel := h index hlt
  generalize s.held index = held at hrel ⊢
  cases heq : heard index with
  | nil | cons source rest =>
    rw [heq] at hrel
    cases hrel
    simp

/-- What is heard of an item whose slot is closed, or that there is not, changes
nothing. -/
theorem closed (h : s.Holds clock heard) {index : Nat} (hclosed : s.Closed index)
    (more : List (Source V)) : s.Holds clock (hear heard index more) := by
  refine h.congr fun other hlt => ?_
  unfold hear
  split
  · rename_i heq
    subst heq
    have hheard := (h.closed_iff hlt).mp hclosed
    rw [List.head?_append_of_ne_nil _ hheard]
  · rfl

theorem fill (h : s.Holds clock heard) {index : Nat} (hopen : ¬ s.Closed index)
    {value : DataValue V} {source : Source V} (hgives : source.Gives clock value) :
    (s.fill index value hopen).Holds clock (hear heard index [source]) := by
  intro other hlt
  have hlt' : other < s.results.length := by simpa [Slots.fill] using hlt
  rw [held_fill, hear]
  split
  · rename_i heq
    subst heq
    have hnothing : heard other = [] := by
      by_contra hheard
      exact hopen ((h.closed_iff hlt').mpr hheard)
    rw [hnothing]
    exact .some hgives
  · exact h other hlt'

theorem completed_eq (h : s.Holds clock heard) :
    s.completed = (List.range s.results.length).map fun index => !(heard index).isEmpty := by
  apply List.ext_getElem?
  intro index
  by_cases hlt : index < s.results.length
  · have hlt' : index < s.completed.length := s.sameSize ▸ hlt
    have hclosed := h.closed_iff hlt
    rw [Closed, or_iff_right (Nat.not_le.mpr hlt)] at hclosed
    rw [List.getElem?_map, List.getElem?_range hlt, Option.map_some]
    cases hheard : heard index with
    | nil =>
      rw [hheard] at hclosed
      have hopen : s.completed[index] ≠ true := fun hdone =>
        hclosed.mp (List.getElem?_eq_some_iff.mpr ⟨hlt', hdone⟩) rfl
      exact List.getElem?_eq_some_iff.mpr ⟨hlt', by simpa using hopen⟩
    | cons source rest =>
      rw [hheard] at hclosed
      exact hclosed.mpr (List.cons_ne_nil _ _)
  · have hge := Nat.le_of_not_lt hlt
    rw [List.getElem?_eq_none (s.sameSize ▸ hge), List.getElem?_eq_none (by simpa using hge)]

theorem remaining_eq (h : s.Holds clock heard) :
    s.remaining = (List.range s.results.length).countP fun index => (heard index).isEmpty := by
  rw [s.counted, h.completed_eq, List.count_eq_countP, List.countP_map]
  congr 1
  funext index
  simp

theorem remaining_eq_zero_iff (h : s.Holds clock heard) :
    s.remaining = 0 ↔ ∀ index, index < s.results.length → heard index ≠ [] := by
  rw [h.remaining_eq, List.countP_eq_zero]
  simp

/-- When no slot is left, the results are what the slots hold. -/
theorem results (h : s.Holds clock heard) (hdone : s.remaining = 0) {index : Nat}
    (hlt : index < s.results.length) :
    Option.Rel (Source.Gives clock) s.results[index]? (heard index).head? := by
  have hclosed := (h.closed_iff hlt).mpr (h.remaining_eq_zero_iff.mp hdone index hlt)
  have hheld : s.held index = s.results[index]? :=
    if_pos (hclosed.resolve_left (Nat.not_le.mpr hlt))
  rw [← hheld]
  exact h index hlt

end Holds

section Complete

variable {clock} {s} {heard}

theorem completeWithStatus_spec (h : s.Holds clock heard) (index : Nat) {statusCode : StatusCode}
    (hbad : statusCode.isBad) :
    ∃ s', s.completeWithStatus clock index statusCode = some s' ∧
      s'.results.length = s.results.length ∧
      s'.Holds clock (hear heard index [.status statusCode]) := by
  unfold completeWithStatus
  split
  · rename_i hclosed
    exact ⟨s, rfl, rfl, h.closed hclosed _⟩
  · rename_i hopen
    rw [makeReadError_of_isBad hbad]
    refine ⟨_, rfl, by simp [fill], ?_⟩
    exact h.fill hopen ⟨s.clockReads, rfl⟩

theorem completeWithValue_spec (h : s.Holds clock heard) (index : Nat) (value : DataValue V) :
    (s.completeWithValue index value).results.length = s.results.length ∧
      (s.completeWithValue index value).Holds clock (hear heard index [.value value]) := by
  unfold completeWithValue
  split
  · rename_i hclosed
    exact ⟨rfl, h.closed hclosed _⟩
  · rename_i hopen
    exact ⟨by simp [fill], h.fill hopen rfl⟩

/-- A loop over all slots, of which each round lets one item hear `more`. -/
theorem foldlM_range_spec {f : Slots V → Nat → Option (Slots V)} {more : Nat → List (Source V)}
    (hround : ∀ s heard index, s.Holds clock heard → ∃ s', f s index = some s' ∧
      s'.results.length = s.results.length ∧ s'.Holds clock (hear heard index (more index)))
    (h : s.Holds clock heard) :
    ∃ s', (List.range s.results.length).foldlM f s = some s' ∧
      s'.results.length = s.results.length ∧
      s'.Holds clock (fun index => heard index ++ more index) := by
  -- the items before the one the loop is at have heard of it
  let inv (todo : List Nat) (s' : Slots V) : Prop :=
    s'.results.length = s.results.length ∧
      ∃ done, List.range s.results.length = done ++ todo ∧
        s'.Holds clock fun index =>
          if index ∈ done then heard index ++ more index else heard index
  have hinit : inv (List.range s.results.length) s := by
    refine ⟨rfl, [], rfl, h.congr fun index _ => ?_⟩
    simp
  have hstep : ∀ index todo s', inv (index :: todo) s' →
      ∃ s'', f s' index = some s'' ∧ inv todo s'' := by
    rintro index todo s' ⟨hlength, done, hdone, hholds⟩
    obtain ⟨s'', hf, hlength', hholds'⟩ := hround s' _ index hholds
    refine ⟨s'', hf, hlength'.trans hlength, done ++ [index], by simp [hdone], ?_⟩
    have hfresh : index ∉ done := by
      have hnodup : (done ++ index :: todo).Nodup := hdone ▸ List.nodup_range
      exact fun hmem => (List.disjoint_of_nodup_append hnodup) hmem (List.mem_cons_self ..)
    refine hholds'.congr fun other _ => ?_
    unfold hear
    by_cases heq : other = index
    · simp [heq, hfresh]
    · simp [heq]
  obtain ⟨s', hloop, hlength, done, hdone, hholds⟩ := foldlM_invariant inv hstep hinit
  refine ⟨s', hloop, hlength, hholds.congr fun index hlt => ?_⟩
  have hmem : index ∈ done := by
    rw [List.append_nil] at hdone
    rw [← hdone]
    exact List.mem_range.mpr (hlength ▸ hlt)
  rw [if_pos hmem]

theorem completeAll_spec (h : s.Holds clock heard) {statusCode : StatusCode}
    (hbad : statusCode.isBad) :
    ∃ s', s.completeAll clock statusCode = some s' ∧
      s'.results.length = s.results.length ∧
      s'.Holds clock (fun index => heard index ++ [.status statusCode]) :=
  foldlM_range_spec (fun _ _ index hs => completeWithStatus_spec hs index hbad) h

end Complete

theorem start_holds : (start count : Slots V).Holds clock fun _ => [] := by
  intro index hlt
  have hopen : (start count : Slots V).held index = none := by
    have hlt' : index < count := by simpa [start] using hlt
    simp [held, start, hlt']
  rw [hopen]
  exact .none

end Slots

/-! ## The items are added -/

theorem failedAdds_concat (result : CreateResult) :
    (failedAdds index (addResults ++ [result]) : List (Source V)) =
      failedAdds index addResults ++
        if result.clientHandle.toNat = index ∧ result.status.bad then
          [.status result.status.code]
        else
          [] := by
  unfold failedAdds
  rw [List.filterMap_append]
  congr 1
  split <;> simp [*]

theorem addResults_spec (addResults : List CreateResult) :
    ∃ slots seen, addResults.foldlM (onAddResult clock)
        ((Slots.start count : Slots V), List.replicate count false) = some (slots, seen) ∧
      slots.results.length = count ∧ seen.length = count ∧
      slots.Holds clock (failedAdds · addResults) ∧
      ∀ index, index < count →
        seen[index]? = some (addResults.any (·.clientHandle.toNat = index)) := by
  -- the results before the one the loop is at are heard, and marked as seen
  let inv (todo : List CreateResult) (state : Slots V × List Bool) : Prop :=
    state.1.results.length = count ∧ state.2.length = count ∧
      ∃ done, addResults = done ++ todo ∧ state.1.Holds clock (failedAdds · done) ∧
        ∀ index, index < count →
          state.2[index]? = some (done.any (·.clientHandle.toNat = index))
  have hinit : inv addResults (Slots.start count, List.replicate count false) := by
    refine ⟨by simp [Slots.start], by simp, [], rfl, Slots.start_holds clock count, ?_⟩
    intro index hlt
    simp [hlt]
  have hstep : ∀ result todo state, inv (result :: todo) state →
      ∃ state', onAddResult clock state result = some state' ∧ inv todo state' := by
    rintro result todo ⟨slots, seen⟩ ⟨hslots, hseen, done, hdone, hholds, hany⟩
    simp only at hslots hseen hholds hany
    simp only [onAddResult]
    by_cases hrange : result.clientHandle.toNat ≥ slots.results.length
    · -- a handle that was not given out
      have hother : ∀ index, index < count → result.clientHandle.toNat ≠ index := by omega
      rw [if_pos hrange]
      refine ⟨_, rfl, hslots, hseen, done ++ [result], by simp [hdone], ?_, ?_⟩
      · refine hholds.congr fun index hlt => ?_
        simp [failedAdds_concat, hother index (hslots ▸ hlt)]
      · intro index hlt
        simp [hany index hlt, hother index hlt]
    · rw [if_neg hrange]
      have hseen' : ∀ index, index < count →
          (seen.set result.clientHandle.toNat true)[index]? =
            some ((done ++ [result]).any (·.clientHandle.toNat = index)) := by
        intro index hlt
        by_cases heq : result.clientHandle.toNat = index
        · simp [heq, hseen, hlt]
        · simp [heq, hany index hlt]
      by_cases hbad : result.status.bad
      · obtain ⟨slots', hcomplete, hslots', hholds'⟩ :=
          Slots.completeWithStatus_spec hholds result.clientHandle.toNat
            (result.status.bad_eq_code_isBad ▸ hbad)
        refine ⟨(slots', _), by simp [hbad, hcomplete], hslots'.trans hslots, by simpa using hseen,
          done ++ [result], by simp [hdone], ?_, hseen'⟩
        refine hholds'.congr fun index _ => ?_
        by_cases heq : index = result.clientHandle.toNat
        · simp [failedAdds_concat, Slots.hear, heq, hbad]
        · simp [failedAdds_concat, Slots.hear, heq, Ne.symm heq]
      · refine ⟨(slots, _), by simp [hbad], hslots, by simpa using hseen,
          done ++ [result], by simp [hdone], ?_, hseen'⟩
        refine hholds.congr fun index _ => ?_
        simp [failedAdds_concat, hbad]
  obtain ⟨⟨slots, seen⟩, hloop, hslots, hseen, done, hdone, hholds, hany⟩ :=
    foldlM_invariant inv hstep hinit
  rw [List.append_nil] at hdone
  subst hdone
  exact ⟨slots, seen, hloop, hslots, hseen, hholds, hany⟩

theorem unseen_spec {clock : Nat → Time} {slots : Slots V} {seen : List Bool}
    {addResults : List CreateResult} {heard : Nat → List (Source V)}
    (hsize : seen.length = slots.results.length)
    (hseen : ∀ index, index < slots.results.length →
      seen[index]? = some (addResults.any (·.clientHandle.toNat = index)))
    (h : slots.Holds clock heard) :
    ∃ slots', (List.range seen.length).foldlM (onUnseen clock seen) slots = some slots' ∧
      slots'.results.length = slots.results.length ∧
      slots'.Holds clock (fun index => heard index ++ missingAdd index addResults) := by
  let more (index : Nat) : List (Source V) :=
    if seen[index]? = some false then [.status .bad] else []
  have hround : ∀ (s : Slots V) (heard : Nat → List (Source V)) (index : Nat),
      s.Holds clock heard → ∃ s', onUnseen clock seen s index = some s' ∧
        s'.results.length = s.results.length ∧
        s'.Holds clock (Slots.hear heard index (more index)) := by
    intro s heard index hs
    simp only [onUnseen, more]
    split
    · exact Slots.completeWithStatus_spec hs index (by decide)
    · refine ⟨s, rfl, rfl, hs.congr fun other _ => ?_⟩
      simp [Slots.hear]
  rw [hsize]
  obtain ⟨slots', hloop, hlength, hholds⟩ := Slots.foldlM_range_spec hround h
  refine ⟨slots', hloop, hlength, hholds.congr fun index hlt => ?_⟩
  simp only [more, hseen index (hlength ▸ hlt), missingAdd]
  cases addResults.any (·.clientHandle.toNat = index) <;> simp

/-! ## The notifications are read -/

def Notification.StatusBad : Notification V E → Prop
  | .itemStatus _ _ status => status.bad
  | .overflow status => status.bad
  | _ => True

/-- A notification for one item is heard before the rest of its batch. -/
theorem hear_notification {index : Nat} {source : Source V} {notification : Notification V E}
    (hsource : ∀ other, notificationSource other notification =
      if index = other then some source else none)
    (heard : Nat → List (Source V)) (rest : List (Notification V E)) (other : Nat) :
    Slots.hear heard index [source] other ++ rest.filterMap (notificationSource other) =
      heard other ++ (notification :: rest).filterMap (notificationSource other) := by
  rw [List.filterMap_cons, hsource, Slots.hear]
  by_cases heq : other = index
  · simp [heq]
  · simp [heq, Ne.symm heq]

theorem filterMap_cons_ne_nil {index : Nat} {notification : Notification V E}
    {rest : List (Notification V E)} (h : rest.filterMap (notificationSource index) ≠ []) :
    (notification :: rest).filterMap (notificationSource index) ≠ [] := by
  rw [List.filterMap_cons]
  split
  · exact h
  · exact List.cons_ne_nil _ _

/-- The batch has been heard of. After an overflow, the rest of the batch is not
looked at and every slot is completed. -/
theorem onBatch_spec {clock : Nat → Time} {slots : Slots V} {heard : Nat → List (Source V)}
    (h : slots.Holds clock heard) {notifications : List (Notification V E)}
    (hbad : ∀ notification ∈ notifications, Notification.StatusBad notification) :
    ∃ slots' overflowed, onBatch clock slots notifications = some (slots', overflowed) ∧
      slots'.results.length = slots.results.length ∧
      slots'.Holds clock (fun index =>
        heard index ++ notifications.filterMap (notificationSource index)) ∧
      (overflowed = true → ∀ index, notifications.filterMap (notificationSource index) ≠ []) := by
  induction notifications generalizing slots heard with
  | nil => exact ⟨slots, false, rfl, rfl, h.congr (by simp), by simp⟩
  | cons notification rest ih =>
    have hrest : ∀ later ∈ rest, Notification.StatusBad later :=
      fun later hmem => hbad later (List.mem_cons_of_mem _ hmem)
    have hfirst := hbad notification (List.mem_cons_self ..)
    cases notification with
    | dataChange itemId clientHandle value =>
      obtain ⟨hlength, hholds⟩ :=
        Slots.completeWithValue_spec h clientHandle.toNat value
      obtain ⟨slots', overflowed, hbatch, hlength', hholds', hover⟩ := ih hholds hrest
      refine ⟨slots', overflowed, hbatch, hlength'.trans hlength, hholds'.congr ?_, ?_⟩
      · intro index _
        exact congrArg List.head? (hear_notification (fun _ => rfl) heard rest index)
      · exact fun hoverflowed index => filterMap_cons_ne_nil (hover hoverflowed index)
    | itemStatus itemId clientHandle status =>
      have hcode : status.code.isBad := status.bad_eq_code_isBad ▸ hfirst
      obtain ⟨slots₁, hcomplete, hlength, hholds⟩ :=
        Slots.completeWithStatus_spec h clientHandle.toNat hcode
      obtain ⟨slots', overflowed, hbatch, hlength', hholds', hover⟩ := ih hholds hrest
      refine ⟨slots', overflowed, ?_, hlength'.trans hlength, hholds'.congr ?_, ?_⟩
      · simp [onBatch, hcomplete, hbatch]
      · intro index _
        exact congrArg List.head? (hear_notification (fun _ => rfl) heard rest index)
      · exact fun hoverflowed index => filterMap_cons_ne_nil (hover hoverflowed index)
    | overflow status =>
      -- the rest of the batch is not heard, but nobody is left to hear it
      have hcode : status.code.isBad := status.bad_eq_code_isBad ▸ hfirst
      obtain ⟨slots', hcomplete, hlength, hholds⟩ := Slots.completeAll_spec h hcode
      refine ⟨slots', true, by simp [onBatch, hcomplete], hlength, hholds.congr ?_, ?_⟩
      · intro index _
        simp [notificationSource]
      · intro _ index
        simp [notificationSource]
    | event itemId clientHandle status payload =>
      obtain ⟨slots', overflowed, hbatch, hlength, hholds, hover⟩ := ih h hrest
      refine ⟨slots', overflowed, hbatch, hlength, hholds.congr ?_, ?_⟩
      · intro index _
        rw [List.filterMap_cons_none rfl]
      · exact fun hoverflowed index => filterMap_cons_ne_nil (hover hoverflowed index)

/-- What has become of `count` slots after the answers, of whose items `heard` had
been heard before. A call that waits has read all the answers and has a slot left;
one that has returned has read them up to the one that completed its last slot. -/
def Outcome.Fills (answers : List (StatusOr (List (Notification V E)))) : Outcome V E → Prop
  | .waiting slots =>
    slots.results.length = count ∧ slots.remaining ≠ 0 ∧
      slots.Holds clock fun index => heard index ++ answers.flatMap (answerSources index)
  | .returned results unread =>
    results.length = count ∧ ∃ used, answers = used ++ unread ∧
      (∀ index, index < count → Option.Rel (Source.Gives clock) results[index]?
        (heard index ++ used.flatMap (answerSources index)).head?) ∧
      ∀ pre, pre <+: used → pre ≠ used →
        ∃ index, index < count ∧ heard index ++ pre.flatMap (answerSources index) = []

section ReadLoop

variable {clock} {slots : Slots V} {heard}
  {answers : List (StatusOr (List (Notification V E)))}

section

variable (h : slots.Holds clock heard)

include h

theorem exists_unheard (hleft : slots.remaining ≠ 0) :
    ∃ index, index < slots.results.length ∧ heard index = [] := by
  rw [ne_eq, h.remaining_eq_zero_iff] at hleft
  push Not at hleft
  exact hleft

theorem fills_of_done (hdone : slots.remaining = 0) :
    (Outcome.returned slots.results answers).Fills clock slots.results.length heard answers := by
  refine ⟨rfl, [], rfl, ?_, ?_⟩
  · intro index hlt
    simpa using h.results hdone hlt
  · intro pre hpre hne
    exact absurd (List.prefix_nil.mp hpre) hne

/-- What is left after the first answer is left after all of them. -/
theorem fills_cons (hleft : slots.remaining ≠ 0) {answer : StatusOr (List (Notification V E))}
    {outcome : Outcome V E}
    (hrest : outcome.Fills clock slots.results.length
      (fun index => heard index ++ answerSources index answer) answers) :
    outcome.Fills clock slots.results.length heard (answer :: answers) := by
  cases outcome with
  | waiting slots' =>
    obtain ⟨hlength, hremaining, hholds⟩ := hrest
    refine ⟨hlength, hremaining, hholds.congr fun index _ => ?_⟩
    simp
  | returned results unread =>
    obtain ⟨hlength, used, rfl, hresults, hfirst⟩ := hrest
    refine ⟨hlength, answer :: used, rfl, ?_, ?_⟩
    · intro index hlt
      simpa using hresults index hlt
    · intro pre hpre hne
      rcases List.prefix_cons_iff.mp hpre with rfl | ⟨tail, rfl, htail⟩
      · obtain ⟨index, hlt, hunheard⟩ := exists_unheard h hleft
        exact ⟨index, hlt, by simp [hunheard]⟩
      · have hne' : tail ≠ used := fun heq => hne (heq ▸ rfl)
        obtain ⟨index, hlt, hunheard⟩ := hfirst tail htail hne'
        refine ⟨index, hlt, ?_⟩
        simpa using hunheard

/-- The call returns at an answer after which no slot is left. -/
theorem fills_of_last {slots' : Slots V} (hleft : slots.remaining ≠ 0)
    {answer : StatusOr (List (Notification V E))}
    (hlength : slots'.results.length = slots.results.length)
    (hholds : slots'.Holds clock fun index => heard index ++ answerSources index answer)
    (hall : ∀ index, answerSources index answer ≠ []) :
    (Outcome.returned slots'.results answers).Fills clock slots.results.length heard
      (answer :: answers) := by
  have hdone : slots'.remaining = 0 :=
    hholds.remaining_eq_zero_iff.mpr fun index _ =>
      List.append_ne_nil_of_right_ne_nil _ (hall index)
  exact fills_cons h hleft (hlength ▸ fills_of_done hholds hdone)

theorem readLoop_spec
    (hbad : ∀ notifications, .ok notifications ∈ answers →
      ∀ notification ∈ notifications, Notification.StatusBad notification) :
    ∃ outcome, readLoop clock slots answers = some outcome ∧
      outcome.Fills clock slots.results.length heard answers := by
  induction answers generalizing slots heard with
  | nil =>
    unfold readLoop
    split
    · rename_i hdone
      exact ⟨_, rfl, fills_of_done h hdone⟩
    · rename_i hleft
      exact ⟨_, rfl, rfl, hleft, h.congr (by simp)⟩
  | cons answer answers ih =>
    unfold readLoop
    split
    · rename_i hdone
      exact ⟨_, rfl, fills_of_done h hdone⟩
    · rename_i hleft
      cases answer with
      | error status =>
        have hcode : status.val.code.isBad := status.val.bad_eq_code_isBad ▸ status.property
        obtain ⟨slots', hcomplete, hlength, hholds⟩ := Slots.completeAll_spec h hcode
        refine ⟨.returned slots'.results answers, by simp [hcomplete], ?_⟩
        exact fills_of_last h hleft hlength hholds fun _ => List.cons_ne_nil _ _
      | ok notifications =>
        obtain ⟨slots', overflowed, hbatch, hlength, hholds, hover⟩ :=
          onBatch_spec h (hbad notifications (List.mem_cons_self ..))
        cases overflowed with
        | true =>
          refine ⟨.returned slots'.results answers, by simp [hbatch], ?_⟩
          exact fills_of_last h hleft hlength hholds (hover rfl)
        | false =>
          obtain ⟨outcome, hloop, hfills⟩ := ih hholds fun notifications' hmem =>
            hbad notifications' (List.mem_cons_of_mem _ hmem)
          rw [hlength] at hfills
          exact ⟨outcome, by simp [hbatch, hloop], fills_cons h hleft hfills⟩

end

end ReadLoop

/-! ## The call -/

theorem createRequests_clientHandle (params : MonitoringParameters)
    {readValueIds : List ReadValueId} (hsize : readValueIds.length < 2 ^ 32) {index : Nat}
    (hlt : index < readValueIds.length) :
    ∃ request, (createRequests params readValueIds)[index]? = some request ∧
      readValueIds[index]? = some request.itemToMonitor ∧
      request.clientHandle.toNat = index := by
  have hsmall : ¬ index > 2 ^ 32 - 1 := by omega
  have hrequest : (createRequests params readValueIds)[index]? =
      some { itemToMonitor := readValueIds[index], parameters := params,
             clientHandle := UInt32.ofNat index } := by
    rw [createRequests, List.getElem?_mapIdx, List.getElem?_eq_getElem hlt, Option.map_some,
      if_neg hsmall]
  refine ⟨_, hrequest, List.getElem?_eq_getElem hlt, ?_⟩
  exact UInt32.toNat_ofNat_of_lt' (hlt.trans hsize)

theorem added_spec (addResults : List CreateResult) :
    ∃ slots seen slots', addResults.foldlM (onAddResult clock)
        ((Slots.start count : Slots V), List.replicate count false) = some (slots, seen) ∧
      (List.range seen.length).foldlM (onUnseen clock seen) slots = some slots' ∧
      slots'.results.length = count ∧
      slots'.Holds clock (fun index =>
        failedAdds index addResults ++ missingAdd index addResults) := by
  obtain ⟨slots, seen, hadds, hslots, hseen, hholds, hany⟩ :=
    addResults_spec (V := V) clock count addResults
  obtain ⟨slots', hunseen, hslots', hholds'⟩ :=
    unseen_spec (hseen.trans hslots.symm) (hslots ▸ hany) hholds
  exact ⟨slots, seen, slots', hadds, hunseen, hslots'.trans hslots, hholds'⟩

/-- **Every slot is filled once, by the first that is heard of its item.** Whatever
`AddItems` and `ReadNext` answer, the call goes through without a panic. As long as
it waits, the slots hold the first of what has been heard of their items, and the
counter is the number of items that nothing has been heard of. It returns with one
value for each item, at the first answer after which something has been heard of
all of them. -/
theorem readInitialValues_fills (clock : Nat → Time) (service : Service)
    (params : MonitoringParameters) {readValueIds : List ReadValueId} (hne : readValueIds ≠ [])
    (hsize : readValueIds.length < 2 ^ 32)
    (hcreated : service.createSubscription { maxBatchSize := readValueIds.length } = .ok ())
    {answers : List (StatusOr (List (Notification V E)))}
    (hbad : ∀ notifications, .ok notifications ∈ answers →
      ∀ notification ∈ notifications, Notification.StatusBad notification) :
    let requests := createRequests params readValueIds
    let addResults := service.addItems requests
    (∀ index, index < readValueIds.length → ∃ request, requests[index]? = some request ∧
      readValueIds[index]? = some request.itemToMonitor ∧ request.clientHandle.toNat = index) ∧
    ((∃ slots, readInitialValues clock service params readValueIds answers =
          some (.waiting slots) ∧
        slots.results.length = readValueIds.length ∧ slots.remaining ≠ 0 ∧
        slots.remaining = (List.range readValueIds.length).countP
          (fun index => (sources (V := V) index addResults answers).isEmpty) ∧
        ∀ index, index < readValueIds.length → Option.Rel (Source.Gives clock)
          (slots.held index) (sources index addResults answers).head?) ∨
      ∃ results used unread, readInitialValues clock service params readValueIds answers =
          some (.returned results unread) ∧
        answers = used ++ unread ∧ results.length = readValueIds.length ∧
        (∀ index, index < readValueIds.length → Option.Rel (Source.Gives clock)
          results[index]? (sources index addResults used).head?) ∧
        ∀ pre, pre <+: used → pre ≠ used →
          ∃ index, index < readValueIds.length ∧ sources (V := V) index addResults pre = []) := by
  intro requests addResults
  refine ⟨fun index hlt => createRequests_clientHandle params hsize hlt, ?_⟩
  obtain ⟨slots, seen, slots', hadds, hunseen, hlength, hholds⟩ :=
    added_spec (V := V) clock readValueIds.length addResults
  obtain ⟨outcome, hloop, hfills⟩ := readLoop_spec hholds hbad
  have hcall : readInitialValues clock service params readValueIds answers = some outcome := by
    have hempty : readValueIds.isEmpty = false := by simpa using hne
    simp only [readInitialValues, hempty, hcreated]
    simp only [addResults, requests] at hadds
    simp [hadds, hunseen, hloop]
  rw [hlength] at hfills
  cases outcome with
  | waiting slots'' =>
    obtain ⟨hlength', hleft, hholds'⟩ := hfills
    refine Or.inl ⟨slots'', hcall, hlength', hleft, ?_, ?_⟩
    · rw [hholds'.remaining_eq, hlength']
      rfl
    · exact fun index hlt => hholds' index (hlength' ▸ hlt)
  | returned results unread =>
    obtain ⟨hlength', used, hused, hresults, hfirst⟩ := hfills
    exact Or.inr ⟨results, used, unread, hcall, hused, hlength', hresults, hfirst⟩

/-- Two items, of which the second could not be added: the call returns with the
first value of the other one. -/
theorem readInitialValues_fills_two :
    let service : Service :=
      { createSubscription := fun _ => .ok ()
        addItems := fun _ =>
          [{ clientHandle := 1, status := StatusCode.badWrongNodeId },
           { itemId := 4, clientHandle := 0, status := StatusCode.good }] }
    let answers : List (StatusOr (List (Notification Nat Unit))) :=
      [.ok [.dataChange 4 0 { value := some 5 }, .dataChange 4 0 { value := some 6 }]]
    ∃ results unread, readInitialValues (fun _ => 0) service {} [{}, {}] answers =
        some (.returned results unread) ∧ results.length = 2 := by
  intro service answers
  have hbad : ∀ notifications, .ok notifications ∈ answers →
      ∀ notification ∈ notifications, Notification.StatusBad notification := by
    intro notifications hmem notification hnotification
    simp only [answers, List.mem_singleton, Except.ok.injEq] at hmem
    subst hmem
    simp only [List.mem_cons, List.not_mem_nil, or_false] at hnotification
    rcases hnotification with rfl | rfl <;> trivial
  obtain ⟨-, ⟨slots, -, -, hleft, hcount, -⟩ | ⟨results, -, unread, hcall, -, hlength, -⟩⟩ :=
    readInitialValues_fills (fun _ => 0) service {} (List.cons_ne_nil {} [{}]) (by decide) rfl hbad
  · exact absurd hcount hleft
  · exact ⟨results, unread, hcall, hlength⟩

end ScadaCore.Scada.InitialValues
