import ScadaCore.Data.Coalescing
import ScadaCore.Data.Selection
import ScadaCore.Remote.Hops

/-!
# Remote.ViewEventQueue — coalescing the changes of the address space

Until they can be sent, changes of the model and of the semantics of nodes wait in a queue.
It has one entry for the model changes of a node and one for its semantic changes: a later
change is merged into the entry of its node, by adding its verbs, and a deletion takes the
place of all of them. So the queue is a `Coalescing` list, by what changed and the node.

What is sent can be encoded. But a merge forgets the order of its events: a node that is
deleted and then added again is reported as deleted.
-/

namespace ScadaCore.Remote

open Scada Coalescing

/-- `ViewEventQueue::Event`. -/
inductive ViewEvent where
  | modelChange (event : ModelChangeEvent)
  | semanticChange (event : SemanticChangeEvent)
deriving DecidableEq, Repr

namespace ViewEventQueue

def mergeModelChange (modelChange event : ModelChangeEvent) : ModelChangeEvent :=
  let verb := modelChange.verb ||| event.verb
  { modelChange with
    typeDefinitionId :=
      if modelChange.typeDefinitionId.isNull then event.typeDefinitionId
      else modelChange.typeDefinitionId
    verb :=
      if verb &&& ModelChangeEvent.nodeDeleted != 0 then ModelChangeEvent.nodeDeleted else verb }

def addModelChange (queue : List ViewEvent) (event : ModelChangeEvent) : List ViewEvent :=
  match queue with
  | [] => [.modelChange event]
  | .modelChange modelChange :: rest =>
    if modelChange.nodeId = event.nodeId then
      .modelChange (mergeModelChange modelChange event) :: rest
    else .modelChange modelChange :: addModelChange rest event
  | queuedEvent :: rest => queuedEvent :: addModelChange rest event

def addNodeSemanticChange (queue : List ViewEvent) (event : SemanticChangeEvent) : List ViewEvent :=
  match queue with
  | [] => [.semanticChange event]
  | .semanticChange semanticChangeEvent :: rest =>
    if semanticChangeEvent = event then .semanticChange semanticChangeEvent :: rest
    else .semanticChange semanticChangeEvent :: addNodeSemanticChange rest event
  | queuedEvent :: rest => queuedEvent :: addNodeSemanticChange rest event

def getEvents (queue : List ViewEvent) : List ViewEvent × List ViewEvent := (queue, [])

def add (queue : List ViewEvent) : ViewEvent → List ViewEvent
  | .modelChange event => addModelChange queue event
  | .semanticChange event => addNodeSemanticChange queue event

variable (events : List ViewEvent)

def addAll : List ViewEvent := events.foldl add []

/-! ## A coalescing list -/

/-- What changed. -/
inductive Aspect where
  | model | semantics
deriving DecidableEq, Repr

def key : ViewEvent → Aspect × NodeId
  | .modelChange event => (.model, event.nodeId)
  | .semanticChange event => (.semantics, event.nodeId)

def merge : ViewEvent → ViewEvent → ViewEvent
  | .modelChange queued, .modelChange event => .modelChange (mergeModelChange queued event)
  | queued, _ => queued

theorem key_merge (queued event : ViewEvent) : key (merge queued event) = key queued := by
  cases queued <;> cases event <;> rfl

theorem add_eq (queue : List ViewEvent) (event : ViewEvent) :
    add queue event = Coalescing.add key merge queue event := by
  induction queue with
  | nil => cases event <;> rfl
  | cons queued rest ih =>
    cases event with
    | modelChange event =>
      have hrest : addModelChange rest event = _ := ih
      cases queued <;> simp [add, addModelChange, Coalescing.add, key, merge, hrest]
    | semanticChange event =>
      have hrest : addNodeSemanticChange rest event = _ := ih
      -- the node is all that there is to a semantic change
      rcases event with ⟨eventId⟩
      rcases queued with queued | ⟨⟨queuedId⟩⟩ <;>
        simp [add, addNodeSemanticChange, Coalescing.add, key, merge, hrest]

theorem addAll_eq : addAll events = coalesce key merge events := by
  unfold addAll coalesce
  congr 1
  funext queue event
  exact add_eq queue event

/-! ## Merging the changes of a node -/

section Merge

open ModelChangeEvent

variable (queued event : ModelChangeEvent)

theorem has_twoPow {i : Nat} (hi : i < 8) (event : ModelChangeEvent) :
    event.has (BitVec.twoPow 8 i) = event.verb.getLsbD i := by
  have hne : BitVec.twoPow 8 i ≠ 0 := by
    intro h
    have hbit : (BitVec.twoPow 8 i).getLsbD i = true := by simp [hi]
    rw [h] at hbit
    cases hbit.symm.trans BitVec.getLsbD_zero
  unfold has
  rw [BitVec.and_twoPow]
  cases event.verb.getLsbD i with
  | false => rfl
  | true => exact bne_iff_ne.mpr hne

theorem has_nodeAdded (event : ModelChangeEvent) : event.has nodeAdded = event.verb.getLsbD 0 :=
  has_twoPow (show 0 < 8 by decide) event

theorem has_nodeDeleted (event : ModelChangeEvent) : event.has nodeDeleted = event.verb.getLsbD 1 :=
  has_twoPow (show 1 < 8 by decide) event

theorem verb_mergeModelChange : (mergeModelChange queued event).verb =
    if queued.has nodeDeleted || event.has nodeDeleted then nodeDeleted
    else queued.verb ||| event.verb := by
  have hor := has_nodeDeleted { queued with verb := queued.verb ||| event.verb }
  rw [BitVec.getLsbD_or, ← has_nodeDeleted queued, ← has_nodeDeleted event] at hor
  rw [← hor]
  rfl

theorem mergeModelChange_has_nodeDeleted : (mergeModelChange queued event).has nodeDeleted =
    (queued.has nodeDeleted || event.has nodeDeleted) := by
  rw [has_nodeDeleted (mergeModelChange queued event), verb_mergeModelChange]
  split_ifs with hdeleted
  · exact hdeleted.symm
  · rw [BitVec.getLsbD_or, ← has_nodeDeleted queued, ← has_nodeDeleted event]

theorem mergeModelChange_has_nodeAdded : (mergeModelChange queued event).has nodeAdded =
    (!(queued.has nodeDeleted || event.has nodeDeleted) &&
      (queued.has nodeAdded || event.has nodeAdded)) := by
  rw [has_nodeAdded (mergeModelChange queued event), verb_mergeModelChange]
  split_ifs with hdeleted
  · rw [hdeleted]
    rfl
  · rw [BitVec.getLsbD_or, ← has_nodeAdded queued, ← has_nodeAdded event,
      Bool.of_not_eq_true hdeleted]
    rfl

theorem getLsbD_verb_mergeModelChange {i : Nat}
    (h : (mergeModelChange queued event).verb.getLsbD i = true) :
    queued.verb.getLsbD i = true ∨ event.verb.getLsbD i = true := by
  rw [verb_mergeModelChange] at h
  split_ifs at h with hdeleted
  · -- the only bit of the verb of a deletion is its own
    have hone : i = 1 := by
      rw [show nodeDeleted = BitVec.twoPow 8 1 from rfl, BitVec.getLsbD_twoPow] at h
      simpa [eq_comm] using h
    rw [has_nodeDeleted, has_nodeDeleted, Bool.or_eq_true, ← hone] at hdeleted
    exact hdeleted
  · rwa [BitVec.getLsbD_or, Bool.or_eq_true] at h

theorem isValid_mergeModelChange (hqueued : queued.isValid = true) (hevent : event.isValid = true) :
    (mergeModelChange queued event).isValid = true := by
  rcases (isValid_iff queued).mp hqueued with ⟨hnode, hverb, hadded, -⟩
  rcases (isValid_iff event).mp hevent with ⟨-, -, hadded', -⟩
  rw [isValid_iff, mergeModelChange_has_nodeAdded, mergeModelChange_has_nodeDeleted,
    verb_mergeModelChange]
  refine ⟨hnode, ?_, ?_, fun hdeleted => if_pos hdeleted⟩
  · split_ifs
    · decide
    · intro hzero
      exact hverb (BitVec.or_eq_zero_iff.mp hzero).1
  · intro h
    show (if queued.typeDefinitionId.isNull then event.typeDefinitionId
      else queued.typeDefinitionId).isNull = false
    rw [Bool.and_eq_true, Bool.or_eq_true] at h
    split_ifs with hnull
    · rcases h.2 with hold | hnew
      · rw [hadded hold] at hnull
        cases hnull
      · exact hadded' hnew
    · exact Bool.of_not_eq_true hnull

end Merge

/-! ## What is queued -/

def Reported (nodeId : NodeId) (i : Nat) : Prop :=
  ∃ event, .modelChange event ∈ events ∧ event.nodeId = nodeId ∧ event.verb.getLsbD i = true

/-- What an entry of the queue has that the events made. -/
def Sendable : ViewEvent → Prop
  | .modelChange event =>
    event.isValid = true ∧ ∀ i, event.verb.getLsbD i = true → Reported events event.nodeId i
  | .semanticChange _ => True

variable {events} {event : ViewEvent}

theorem sendable_addAll (hvalid : ∀ event, .modelChange event ∈ events → event.isValid = true) :
    ∀ entry ∈ addAll events, Sendable events entry := by
  rw [addAll_eq]
  apply coalesce_induction
  · intro entry hmem
    cases entry with
    | modelChange event => exact ⟨hvalid event hmem, fun i hi => ⟨event, hmem, rfl, hi⟩⟩
    | semanticChange event => trivial
  · intro entry hentry event hmem hkey
    cases entry with
    | semanticChange queued => cases event <;> trivial
    | modelChange queued =>
      cases event with
      | semanticChange event => exact hentry
      | modelChange event =>
        have hnode : queued.nodeId = event.nodeId := congrArg Prod.snd hkey
        refine ⟨isValid_mergeModelChange queued event hentry.1 (hvalid event hmem), ?_⟩
        intro i hi
        rcases getLsbD_verb_mergeModelChange queued event hi with hi | hi
        · exact hentry.2 i hi
        · exact ⟨event, hmem, hnode.symm, hi⟩

/-- **What waits can be sent.** Whatever changes have been added, there is at most one model
change and one semantic change of each node, each model change is valid and can be encoded,
its verbs have all been reported for its node, and what has been reported is there. Fetching
the events leaves an empty queue. -/
theorem viewEventQueue_sendable (events : List ViewEvent)
    (hvalid : ∀ event, .modelChange event ∈ events → event.isValid = true) :
    ((addAll events).map key).Nodup ∧
    (∀ event, .modelChange event ∈ addAll events →
      event.isValid = true ∧ event.convert.isSome = true ∧
      ∀ i, event.verb.getLsbD i = true → Reported events event.nodeId i) ∧
    (∀ event ∈ events, ∃ entry ∈ addAll events, key entry = key event) ∧
    getEvents (addAll events) = (addAll events, []) := by
  refine ⟨?_, ?_, ?_, rfl⟩
  · rw [addAll_eq]
    exact nodup_coalesce key_merge events
  · intro event hmem
    rcases sendable_addAll hvalid _ hmem with ⟨hevent, hreported⟩
    exact ⟨hevent, (ModelChangeEvent.convert_isSome_iff event).mpr hevent, hreported⟩
  · intro event hmem
    have hkey : key event ∈ (addAll events).map key := by
      rw [addAll_eq, mem_keys_coalesce key_merge]
      exact List.mem_map_of_mem hmem
    exact List.mem_map.mp hkey

theorem viewEventQueue_sendable_readded :
    let id : NodeId := { identifier := .numeric 7 }
    let deleted : ModelChangeEvent := { nodeId := id, verb := ModelChangeEvent.nodeDeleted }
    let added : ModelChangeEvent :=
      { nodeId := id, typeDefinitionId := id, verb := ModelChangeEvent.nodeAdded }
    let events : List ViewEvent :=
      [.modelChange deleted, .semanticChange { nodeId := id }, .modelChange added]
    ((addAll events).map key).Nodup ∧ (addAll events).length = 2 := by
  refine ⟨(viewEventQueue_sendable _ ?_).1, by decide⟩
  intro event hmem
  simp only [List.mem_cons, ViewEvent.modelChange.injEq, reduceCtorEq, List.not_mem_nil,
    or_false, false_or] at hmem
  rcases hmem with rfl | rfl <;> decide

/-! ## Replaying the changes -/

def adds : ViewEvent → Bool
  | .modelChange event => event.has ModelChangeEvent.nodeAdded
  | .semanticChange _ => false

def deletes : ViewEvent → Bool
  | .modelChange event => event.has ModelChangeEvent.nodeDeleted
  | .semanticChange _ => false

/-- Which nodes exist. -/
abbrev Existence := NodeId → Bool

variable (present : Existence)

/-- A consumer takes note of the nodes that are added and deleted. -/
def observe (event : ViewEvent) : Existence :=
  if adds event then Function.update present (key event).2 true
  else if deletes event then Function.update present (key event).2 false
  else present

def replay (events : List ViewEvent) : Existence :=
  events.foldl observe present

/-- Nodes are added only where they are absent, and deleted only where they are present. -/
def Consistent (present : Existence) : List ViewEvent → Prop
  | [] => True
  | event :: events =>
    (adds event = true → present (key event).2 = false) ∧
    (deletes event = true → present (key event).2 = true) ∧
    Consistent (observe present event) events

instance decidableConsistent : (present : Existence) → (events : List ViewEvent) →
    Decidable (Consistent present events)
  | _, [] => .isTrue trivial
  | present, event :: events =>
    have := decidableConsistent (observe present event) events
    inferInstanceAs (Decidable (_ ∧ _ ∧ _))

def tells (nodeId : NodeId) (event : ViewEvent) : Bool :=
  (adds event || deletes event) && (key event).2 = nodeId

theorem replay_apply (events : List ViewEvent) (nodeId : NodeId) :
    replay present events nodeId =
      Selection.lastSet (tells nodeId) adds (present nodeId) events := by
  apply Selection.foldl_eq_lastSet _ _ observe (· nodeId)
  intro present event
  unfold observe tells
  by_cases hnode : (key event).2 = nodeId
  · cases hadds : adds event <;> cases deletes event <;> simp [hnode]
  · have hne : nodeId ≠ (key event).2 := Ne.symm hnode
    cases hadds : adds event <;> cases deletes event <;> simp [hnode, hne]

def modelChanges (nodeId : NodeId) (events : List ViewEvent) : List ViewEvent :=
  events.filter (key · = (.model, nodeId))

theorem key_of_tells {nodeId : NodeId} (h : tells nodeId event = true) :
    key event = (.model, nodeId) := by
  rw [tells, Bool.and_eq_true, decide_eq_true_eq] at h
  cases event with
  | modelChange event => exact congrArg (Prod.mk Aspect.model) h.2
  | semanticChange event => cases h.1

theorem tells_of_key {nodeId : NodeId} (h : key event = (.model, nodeId)) :
    tells nodeId event = (adds event || deletes event) := by
  rw [tells, h, decide_eq_true rfl, Bool.and_true]

theorem replay_modelChanges (events : List ViewEvent) (nodeId : NodeId) :
    replay present (modelChanges nodeId events) nodeId = replay present events nodeId := by
  rw [replay_apply, replay_apply]
  apply Selection.lastSet_filter
  intro event _ h
  exact decide_eq_true (key_of_tells h)

/-- A valid event that deletes a node does not add it. -/
def Clear (event : ViewEvent) : Prop := deletes event = true → adds event = false

theorem clear_of_isValid {event : ModelChangeEvent} (h : event.isValid = true) :
    Clear (.modelChange event) := by
  intro hdeletes
  show event.has ModelChangeEvent.nodeAdded = false
  rw [has_nodeAdded, ((ModelChangeEvent.isValid_iff event).mp h).2.2.2 hdeletes]
  rfl

theorem merge_spec {queued : ViewEvent} (hkey : key queued = key event) :
    deletes (merge queued event) = (deletes queued || deletes event) ∧
      adds (merge queued event) =
        (!(deletes queued || deletes event) && (adds queued || adds event)) := by
  cases queued with
  | modelChange queued =>
    cases event with
    | modelChange event =>
      exact ⟨mergeModelChange_has_nodeDeleted queued event,
        mergeModelChange_has_nodeAdded queued event⟩
    | semanticChange event => cases congrArg Prod.fst hkey
  | semanticChange queued =>
    cases event with
    | modelChange event => cases congrArg Prod.fst hkey
    | semanticChange event => exact ⟨rfl, rfl⟩

/-- The entry of a node deletes it if one of its events does; otherwise it adds it if one of
them does. -/
theorem mergeAll_spec {k : Aspect × NodeId} (hkey : ∀ event ∈ events, key event = k)
    (hclear : ∀ event ∈ events, Clear event) {entry : ViewEvent}
    (h : mergeAll merge events = some entry) :
    key entry = k ∧ deletes entry = events.any deletes ∧
      adds entry = (!events.any deletes && events.any adds) := by
  induction events using List.reverseRecOn generalizing entry with
  | nil => cases h
  | append_singleton events event ih =>
    obtain ⟨hkeys, hlast⟩ := List.forall_mem_append.mp hkey
    obtain ⟨hclears, hclear'⟩ := List.forall_mem_append.mp hclear
    have hlast : key event = k := hlast event (List.mem_singleton_self event)
    have hclear' : Clear event := hclear' event (List.mem_singleton_self event)
    rw [mergeAll_concat, Option.some_inj] at h
    rw [List.any_append, List.any_append, List.any_cons, List.any_nil, List.any_cons,
      List.any_nil, Bool.or_false, Bool.or_false]
    cases hbefore : mergeAll merge events with
    | none =>
      have hnil : events = [] := (mergeAll_eq_none_iff merge events).mp hbefore
      rw [hbefore] at h
      subst hnil h
      refine ⟨hlast, rfl, ?_⟩
      cases hdeletes : deletes event with
      | false => rfl
      | true => exact hclear' hdeletes
    | some queued =>
      rw [hbefore] at h
      obtain ⟨hqueued, hdeletes, hadds⟩ := ih hkeys hclears hbefore
      obtain ⟨hmergeDeletes, hmergeAdds⟩ := merge_spec (hqueued.trans hlast.symm)
      subst h
      refine ⟨(key_merge queued event).trans hqueued, ?_, ?_⟩
      · exact hmergeDeletes.trans (by rw [hdeletes])
      · refine hmergeAdds.trans ?_
        rw [hdeletes, hadds]
        cases events.any deletes <;> simp

def Deleted (events : List ViewEvent) (nodeId : NodeId) : Prop :=
  ∃ event, .modelChange event ∈ events ∧ event.nodeId = nodeId ∧
    event.has ModelChangeEvent.nodeDeleted = true

theorem any_deletes_iff (events : List ViewEvent) (nodeId : NodeId) :
    (modelChanges nodeId events).any deletes = true ↔ Deleted events nodeId := by
  rw [List.any_eq_true]
  constructor
  · rintro ⟨event, hmem, hdeletes⟩
    rw [modelChanges, List.mem_filter, decide_eq_true_eq] at hmem
    cases event with
    | modelChange event => exact ⟨event, hmem.1, congrArg Prod.snd hmem.2, hdeletes⟩
    | semanticChange event => cases hdeletes
  · rintro ⟨event, hmem, rfl, hdeletes⟩
    refine ⟨.modelChange event, ?_, hdeletes⟩
    rw [modelChanges, List.mem_filter, decide_eq_true_eq]
    exact ⟨hmem, rfl⟩

/-- What a replay of the queue says about a node. -/
theorem replay_addAll (hvalid : ∀ event, .modelChange event ∈ events → event.isValid = true)
    (nodeId : NodeId) :
    replay present (addAll events) nodeId =
      if (modelChanges nodeId events).any deletes then false
      else replay present events nodeId := by
  have hkey : ∀ event ∈ modelChanges nodeId events, key event = (.model, nodeId) := by
    intro event hmem
    exact of_decide_eq_true (List.mem_filter.mp hmem).2
  have hclear : ∀ event ∈ modelChanges nodeId events, Clear event := by
    intro event hmem
    cases event with
    | modelChange event => exact clear_of_isValid (hvalid event (List.mem_filter.mp hmem).1)
    | semanticChange event => exact fun h => by cases h
  have hentry : modelChanges nodeId (addAll events) =
      (mergeAll merge (modelChanges nodeId events)).toList := by
    rw [modelChanges, addAll_eq, filter_eq_lookup (nodup_coalesce key_merge _),
      lookup_coalesce key_merge, modelChanges]
  rw [← replay_modelChanges, ← replay_modelChanges present events, hentry, replay_apply,
    replay_apply]
  cases hmerge : mergeAll merge (modelChanges nodeId events) with
  | none =>
    rw [(mergeAll_eq_none_iff merge _).mp hmerge]
    rfl
  | some entry =>
    obtain ⟨hentryKey, hdeletes, hadds⟩ := mergeAll_spec hkey hclear hmerge
    rw [Option.toList_some, Selection.lastSet_singleton, tells_of_key hentryKey, hdeletes, hadds]
    cases hany : (modelChanges nodeId events).any deletes with
    | true => rfl
    | false =>
      -- without a deletion, all that is told of the node is that it has been added
      have htells : ∀ event ∈ modelChanges nodeId events, tells nodeId event = adds event := by
        intro event hmem
        rw [tells_of_key (hkey event hmem),
          Bool.of_not_eq_true (List.any_eq_false.mp hany event hmem), Bool.or_false]
      have hsame : (modelChanges nodeId events).any (tells nodeId) =
          (modelChanges nodeId events).any adds := by
        rw [Bool.eq_iff_iff, List.any_eq_true, List.any_eq_true]
        exact exists_congr fun event => and_congr_right fun hmem => by rw [htells event hmem]
      have htrue : ∀ event ∈ modelChanges nodeId events, tells nodeId event = true →
          adds event = true := fun event hmem h => htells event hmem ▸ h
      rw [Selection.lastSet_eq_of_forall _ _ _ htrue, hsame]
      cases (modelChanges nodeId events).any adds <;> rfl

/-- **Coalescing and existence.** A consumer of the queue ends with the same nodes as a
consumer of the events exactly if every node that an event deletes is absent in the end: no
node is deleted and then added again. -/
theorem coalescing_existence_iff (present : Existence) (events : List ViewEvent)
    (hvalid : ∀ event, .modelChange event ∈ events → event.isValid = true) :
    replay present (getEvents (addAll events)).1 = replay present events ↔
      ∀ nodeId, Deleted events nodeId → replay present events nodeId = false := by
  show replay present (addAll events) = _ ↔ _
  rw [funext_iff]
  apply forall_congr'
  intro nodeId
  rw [replay_addAll present hvalid, ← any_deletes_iff]
  cases (modelChanges nodeId events).any deletes with
  | true => exact ⟨fun h _ => h.symm, fun h => (h rfl).symm⟩
  | false => simp

def readded : List ViewEvent :=
  [.modelChange { nodeId := { identifier := .numeric 7 }, verb := ModelChangeEvent.nodeDeleted },
   .modelChange
    { nodeId := { identifier := .numeric 7 }
      typeDefinitionId := { identifier := .numeric 1 }
      verb := ModelChangeEvent.nodeAdded }]

theorem coalescing_existence_of_deleted :
    let present : Existence := fun _ => true
    let events := readded.take 1
    Consistent present events ∧
      replay present (getEvents (addAll events)).1 = replay present events := by
  refine ⟨by decide, (coalescing_existence_iff _ _ ?_).mpr ?_⟩
  · intro event hmem
    cases List.mem_singleton.mp hmem
    decide
  · rintro nodeId ⟨event, hmem, rfl, -⟩
    cases List.mem_singleton.mp hmem
    rfl

/-- It is there, and the queue says that it is not. -/
theorem coalescing_existence_readded :
    let present : Existence := fun _ => true
    let id : NodeId := { identifier := .numeric 7 }
    Consistent present readded ∧
    (∀ event, .modelChange event ∈ readded → event.isValid = true) ∧
    replay present readded id = true ∧
    replay present (getEvents (addAll readded)).1 id = false := by
  refine ⟨by decide, ?_, by decide, by decide⟩
  intro event hmem
  simp only [readded, List.mem_cons, ViewEvent.modelChange.injEq, List.not_mem_nil,
    or_false] at hmem
  rcases hmem with rfl | rfl <;> decide

end ViewEventQueue

end ScadaCore.Remote
