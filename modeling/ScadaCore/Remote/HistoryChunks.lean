import ScadaCore.Data.Ledger
import ScadaCore.Lts.System
import ScadaCore.Remote.HistoryRequests

/-!
# Remote.HistoryChunks — a history that is read chunk by chunk

`node::read_value_history` asks `HistoryProxy` for chunk after chunk, each time with
the continuation point of the last one. `HistoryStub` remembers under each point it
hands out the parameters of the read that it continues, goes on with those when the
point comes back, and when it is destroyed releases the points that did not.

A session is any interleaving of such reads with one another, and with other calls
of `HistoryReadRaw`. `Session.step` is one step of it; the answers of the backend
come with the events. The points that are handed out and come back make up a ledger,
which the stub's table agrees with (`books_of_run`).
-/

namespace ScadaCore

open Scada Remote Lts.System

/-! ## The reader -/

namespace Scada.Node

/-- `node::read_value_history` between two rounds of its loop. -/
structure ReadValueHistory where
  nodeId : NodeId
  nextDetails : HistoryReadRawDetails
  values : List (DataValue Value) := []

/-- `node::read_value_history` up to its loop. -/
def readValueHistory (nodeId : NodeId) (details : HistoryReadRawDetails) :
    Option ReadValueHistory := do
  check details.nodeId.isNull
  check details.continuationPoint.isEmpty
  return { nodeId, nextDetails := details }

namespace ReadValueHistory

/-- The parameters that `node::read_value_history_chunk` calls the service with. -/
def sanitizedDetails (loop : ReadValueHistory) : HistoryReadRawDetails :=
  { loop.nextDetails with nodeId := loop.nodeId }

/-- A round of the loop, from the chunk on: the loop goes on, or the call returns. -/
def onChunk (loop : ReadValueHistory) (result : StatusOr HistoryReadRawResult) :
    ReadValueHistory ⊕ StatusOr (List (DataValue Value)) :=
  match result with
  | .error status => .inr (.error status)
  | .ok chunk =>
    let values := loop.values ++ chunk.values
    if chunk.continuationPoint = [] then
      .inr (.ok values)
    else
      .inl { loop with
        nextDetails := { loop.nextDetails with continuationPoint := chunk.continuationPoint }
        values }

end ReadValueHistory

end Scada.Node

namespace Remote.HistoryChunks

/-! ## Sessions -/

/-- How far a `HistoryReadRaw` is. -/
inductive Stage where
  /-- The request is on its way. -/
  | sent (request : Wire.HistoryReadRaw)
  /-- The coroutine of the stub has been spawned, -/
  | spawned (details : HistoryReadRawDetails)
  /-- it has called the service, -/
  | called (details : HistoryReadRawDetails)
  /-- and it has sent the response. -/
  | answered (response : Wire.HistoryReadRawResponse)

/-- A read of the session. -/
inductive Read where
  /-- A call of the proxy is being served, for the loop of `node::read_value_history`
  or for someone else. -/
  | chunk (loop : Option Node.ReadValueHistory) (stage : Stage)
  /-- `node::read_value_history` has returned. -/
  | returned (result : StatusOr (List (DataValue Value)))
  /-- The call of someone else has returned. -/
  | finished

/-- What happens to a read next. -/
inductive Move where
  | receive
  | call
  | answer (result : StatusOr HistoryReadRawResult)
  | deliver

/-- The caller gets the result of the proxy, and asks for the next chunk or is
done. -/
def proceed (loop : Option Node.ReadValueHistory) (result : StatusOr HistoryReadRawResult) :
    Option Read :=
  match loop with
  | none => some .finished
  | some loop =>
    match loop.onChunk result with
    | .inl loop => do
      let request ← HistoryProxy.historyReadRaw loop.sanitizedDetails
      return .chunk (some loop) (.sent request)
    | .inr result => some (.returned result)

/-- A move of a read. The stub is there as long as it has not been destroyed. A move
that is not due does nothing. -/
def Read.step (stub : Option ContinuationPoints) (read : Read) (move : Move) :
    Option (Option ContinuationPoints × Read) :=
  match read, move with
  | .chunk loop (.sent request), .receive =>
    match stub with
    -- the session has gone, and nobody receives the request
    | none => some (none, read)
    | some points => do
      let (points, details) ← HistoryStub.onHistoryReadRaw points request
      return (some points, .chunk loop (.spawned details))
  | .chunk loop (.spawned details), .call => some (stub, .chunk loop (.called details))
  | .chunk loop (.called details), .answer result =>
    match stub with
    | none => some (none, read)
    | some points => do
      let (points, response) ← HistoryStub.onHistoryReadRawAsync points details result
      return (some points, .chunk loop (.answered response))
  | .chunk loop (.answered response), .deliver => do
    let result ← HistoryProxy.onHistoryReadRawResponse response
    let read ← proceed loop result
    return (stub, read)
  | _, _ => some (stub, read)

/-- A coroutine of the stub is at work on the read, and holds the stub. -/
def Read.inStub : Read → Bool
  | .chunk _ (.spawned _) | .chunk _ (.called _) => true
  | _ => false

structure Session where
  stub : Option ContinuationPoints := some ∅
  reads : List Read := []

inductive Event where
  | readValueHistory (nodeId : NodeId) (details : HistoryReadRawDetails)
  | historyReadRaw (details : HistoryReadRawDetails)
  | move (read : Nat) (move : Move)
  /-- The session lets go of the stub. -/
  | destroy

variable (s : Session)

namespace Session

def send (loop : Option Node.ReadValueHistory) (details : HistoryReadRawDetails) :
    Option Session := do
  let request ← HistoryProxy.historyReadRaw details
  return { s with reads := s.reads ++ [.chunk loop (.sent request)] }

def step : Event → Option Session
  | .readValueHistory nodeId details => do
    let loop ← Node.readValueHistory nodeId details
    s.send (some loop) loop.sanitizedDetails
  | .historyReadRaw details => s.send none details
  | .move i move =>
    match s.reads[i]? with
    | some read => do
      let (stub, read) ← read.step s.stub move
      return { stub, reads := s.reads.set i read }
    | none => some s
  -- each coroutine of the stub holds a reference to it
  | .destroy => some (if s.reads.any Read.inStub then s else { s with stub := none })

end Session

/-- Once one of its processes has panicked, a session does nothing more. -/
def system : Lts.System (Option Session) Event := ⟨some {}, fun s e => s.bind (·.step e)⟩

/-! ## What a run shows -/

def Read.call : Read → Move → Option HistoryReadRawDetails
  | .chunk _ (.spawned details), .call => some details
  | _, _ => none

def calls (read : Nat) : Option Session → Event → List HistoryReadRawDetails
  | some s, .move i move => if i = read then ((s.reads[i]?).bind (·.call move)).toList else []
  | _, _ => []

/-- The calls of the backend from `~HistoryStub`. -/
def releases : Option Session → Event → List HistoryReadRawDetails
  | some s, .destroy =>
    if s.reads.any Read.inStub then [] else (s.stub.map HistoryStub.destroy).getD []
  | _, _ => []

/-- The point that a request presents, or that the stub returns for the call with
`details`. -/
def Read.entry : Read → Move → Option (Ledger.Entry ByteString HistoryReadRawDetails)
  | .chunk _ (.sent request), .receive =>
    if request.continuationPoint = [] then none else some (.take request.continuationPoint)
  | .chunk _ (.called details), .answer (.ok result) =>
    if result.continuationPoint = [] then none else some (.put result.continuationPoint details)
  | _, _ => none

@[inherit_doc Read.entry]
def Session.entry : Event → Option (Ledger.Entry ByteString HistoryReadRawDetails)
  | .move i move => (s.reads[i]?).bind (·.entry move)
  | _ => none

def ledger (s : Option Session) (e : Event) :
    List (Ledger.Entry ByteString HistoryReadRawDetails) :=
  (s.bind (·.entry e)).toList

/-- The point that `node::read_value_history` is about to present. -/
def Read.pending : Read → Option ByteString
  | .chunk (some _) (.sent request) => some request.continuationPoint
  | .chunk (some _) (.answered response) => some response.continuationPoint
  | _ => none

/-- The points that the stub keeps or that are on their way back to it. -/
def Session.outstanding : List ByteString :=
  (s.stub.map AList.keys).getD [] ++ s.reads.filterMap Read.pending

/-- A point that is returned is not outstanding. -/
def Session.Distinct :
    Option (Ledger.Entry ByteString HistoryReadRawDetails) → Prop
  | some (.put point _) => point ∉ s.outstanding
  | _ => True

instance (s : Session) :
    (entry : Option (Ledger.Entry ByteString HistoryReadRawDetails)) → Decidable (s.Distinct entry)
  | some (.put point _) => inferInstanceAs (Decidable (point ∉ s.outstanding))
  | some (.take _) => isTrue trivial
  | none => isTrue trivial

/-- The backend does not return a point that is outstanding. -/
def Distinct : Option Session → Event → Prop
  | some s, e => s.Distinct (s.entry e)
  | none, _ => True

instance : (s : Option Session) → (e : Event) → Decidable (Distinct s e)
  | some s, e => inferInstanceAs (Decidable (s.Distinct (s.entry e)))
  | none, _ => isTrue trivial

/-! ## The points -/

variable {points points' : ContinuationPoints} {request : Wire.HistoryReadRaw}
    {details : HistoryReadRawDetails} {s s' session : Session} {e : Event} {es : List Event}

theorem points_of_onHistoryReadRaw
    (h : HistoryStub.onHistoryReadRaw points request = some (points', details)) :
    points' =
      if request.continuationPoint = [] then points
      else points.erase request.continuationPoint := by
  unfold HistoryStub.onHistoryReadRaw at h
  split
  · rename_i hfirst
    simp only [hfirst, if_true, Option.map_eq_some_iff, Prod.mk.injEq] at h
    obtain ⟨_, -, rfl, -⟩ := h
    rfl
  · rename_i hnext
    simp only [hnext, if_false] at h
    cases hfound : points.lookup request.continuationPoint with
    | some found =>
      simp only [hfound] at h
      cases h
      rfl
    | none =>
      simp only [hfound, Option.map_eq_some_iff, Prod.mk.injEq] at h
      obtain ⟨_, -, rfl, -⟩ := h
      exact (Table.erase_of_lookup_eq_none hfound).symm

theorem points_of_onHistoryReadRawAsync {result : StatusOr HistoryReadRawResult}
    {response : Wire.HistoryReadRawResponse} (loop : Option Node.ReadValueHistory)
    (h : HistoryStub.onHistoryReadRawAsync points details result = some (points', response)) :
    points' =
      Ledger.posted points ((Read.chunk loop (.called details)).entry (.answer result)) := by
  obtain ⟨_, -, heq⟩ := Option.map_eq_some_iff.mp h
  obtain ⟨rfl, -⟩ := Prod.mk.inj heq
  cases result with
  | error status => rfl
  | ok result =>
    simp only [Read.entry, HistoryStub.keepPoint]
    split <;> rfl

/-- What a move does to the stub is one entry of the ledger. -/
theorem Read.stub_of_step {stub stub' : Option ContinuationPoints} {read read' : Read}
    {move : Move} (h : read.step stub move = some (stub', read')) :
    stub' = stub.map (Ledger.posted · (read.entry move)) := by
  unfold Read.step at h
  split at h
  · cases stub with
    | none =>
      cases h
      rfl
    | some points =>
      obtain ⟨⟨points', details⟩, hreceive, heq⟩ := Option.bind_eq_some_iff.mp h
      cases heq
      rw [points_of_onHistoryReadRaw hreceive]
      simp only [Read.entry, Option.map_some]
      split <;> rfl
  · cases h
    cases stub <;> rfl
  · cases stub with
    | none =>
      cases h
      rfl
    | some points =>
      obtain ⟨⟨points', response⟩, hanswer, heq⟩ := Option.bind_eq_some_iff.mp h
      cases heq
      rw [points_of_onHistoryReadRawAsync _ hanswer]
      rfl
  · obtain ⟨result, -, h⟩ := Option.bind_eq_some_iff.mp h
    obtain ⟨next, -, h⟩ := Option.bind_eq_some_iff.mp h
    cases h
    cases stub <;> rfl
  · rename_i hreceive _ hanswer _
    cases h
    have hentry : read.entry move = none := by
      unfold Read.entry
      split
      · exact (hreceive _ _ rfl rfl).elim
      · exact (hanswer _ _ _ rfl rfl).elim
      · rfl
    rw [hentry]
    cases stub <;> rfl

/-- What a step of the session can do. -/
inductive Session.Change (s : Session) : Event → Session → Prop where
  | readValueHistory {nodeId : NodeId} {details : HistoryReadRawDetails} (read : Read) :
      Change s (.readValueHistory nodeId details) { s with reads := s.reads ++ [read] }
  | historyReadRaw {details : HistoryReadRawDetails} (read : Read) :
      Change s (.historyReadRaw details) { s with reads := s.reads ++ [read] }
  | idle {i : Nat} {move : Move} (hread : s.reads[i]? = none) : Change s (.move i move) s
  | moved {i : Nat} {move : Move} {read read' : Read} {stub' : Option ContinuationPoints}
      (hread : s.reads[i]? = some read) (hmove : read.step s.stub move = some (stub', read')) :
      Change s (.move i move) { stub := stub', reads := s.reads.set i read' }
  | held (hheld : s.reads.any Read.inStub = true) : Change s .destroy s
  | destroyed (hidle : s.reads.any Read.inStub = false) : Change s .destroy { s with stub := none }

theorem Session.change_of_step (h : s.step e = some s') : s.Change e s' := by
  cases e with
  | readValueHistory nodeId details =>
    obtain ⟨loop, -, h⟩ := Option.bind_eq_some_iff.mp h
    obtain ⟨request, -, h⟩ := Option.bind_eq_some_iff.mp h
    cases h
    exact .readValueHistory _
  | historyReadRaw details =>
    obtain ⟨request, -, h⟩ := Option.bind_eq_some_iff.mp h
    cases h
    exact .historyReadRaw _
  | move i move =>
    simp only [Session.step] at h
    split at h
    · rename_i read hread
      obtain ⟨⟨stub, next⟩, hmove, h⟩ := Option.bind_eq_some_iff.mp h
      cases h
      exact .moved hread hmove
    · rename_i hnone
      cases h
      exact .idle hnone
  | destroy =>
    rw [Session.step, Option.some.injEq] at h
    subst h
    split
    · rename_i hheld
      exact .held hheld
    · rename_i hidle
      exact .destroyed (by simpa using hidle)

theorem Session.stub_of_step (h : s.step e = some s') (he : e ≠ .destroy) :
    s'.stub = s.stub.map (Ledger.posted · (s.entry e)) := by
  have hnothing : s.stub = s.stub.map (Ledger.posted · none) := by cases s.stub <;> rfl
  cases Session.change_of_step h with
  | readValueHistory read => exact hnothing
  | historyReadRaw read => exact hnothing
  | idle hread =>
    rw [Session.entry, hread]
    exact hnothing
  | moved hread hmove =>
    rw [Session.entry, hread]
    exact Read.stub_of_step hmove
  | held hheld => exact absurd rfl he
  | destroyed hidle => exact absurd rfl he

theorem Session.stub_before (h : s.step e = some s') (halive : s'.stub = some points') :
    ∃ points, s.stub = some points ∧ points' = Ledger.posted points (s.entry e) := by
  by_cases he : e = .destroy
  · subst he
    cases Session.change_of_step h with
    | held hheld => exact ⟨points', halive, rfl⟩
    | destroyed hidle => cases halive
  · rw [Session.stub_of_step h he] at halive
    obtain ⟨points, hpoints, hposted⟩ := Option.map_eq_some_iff.mp halive
    exact ⟨points, hpoints, hposted.symm⟩

theorem step_of_run_concat (h : system.run (es ++ [e]) = some s') :
    ∃ s, system.run es = some s ∧ s.step e = some s' := by
  rw [run_concat] at h
  exact Option.bind_eq_some_iff.mp h

theorem not_mem_points_of_distinct (h : Distinct (some s) e) {point : ByteString}
    (hput : s.entry e = some (.put point details)) (hpoints : s.stub = some points) :
    point ∉ points := by
  have hnew : s.Distinct (s.entry e) := h
  rw [hput] at hnew
  intro hmem
  refine hnew (List.mem_append_left _ ?_)
  rw [hpoints]
  exact AList.mem_keys.mp hmem

/-- The stub's table agrees with the ledger of the run. -/
theorem books_of_run (hes : system.Meets Distinct es) (hs : system.run es = some s)
    (hpoints : s.stub = some points) : Ledger.Books points (system.collect ledger es) := by
  induction es using List.reverseRecOn generalizing s points with
  | nil =>
    cases hs
    cases hpoints
    exact Ledger.books_empty
  | append_singleton es e ih =>
    obtain ⟨s₀, hs₀, hstep⟩ := step_of_run_concat hs
    obtain ⟨points₀, hpoints₀, rfl⟩ := Session.stub_before hstep hpoints
    have hbooks := ih (system.meets_of_prefix hes (List.prefix_append es [e])) hs₀ hpoints₀
    have hdistinct : Distinct (system.run es) e := hes es e (List.prefix_refl _)
    rw [hs₀] at hdistinct
    rw [collect_concat, hs₀]
    refine hbooks.posted fun point details hput hmem => ?_
    refine not_mem_points_of_distinct hdistinct hput hpoints₀ hmem

/-! ## What continues a read -/

/-- A request that presents a point which has been returned and not presented since
makes the backend continue the call that the point was returned for, whatever else
the request says. -/
def FollowsUp (es : List Event) : Prop :=
  ∀ (session : Session) (points : ContinuationPoints) (read : Nat)
    (loop : Option Node.ReadValueHistory) (request : Wire.HistoryReadRaw)
    (details : HistoryReadRawDetails),
    system.run es = some session → session.stub = some points →
    session.reads[read]? = some (.chunk loop (.sent request)) →
    request.continuationPoint ≠ [] →
    Ledger.Open (system.collect ledger es) request.continuationPoint details →
    system.collectFrom (calls read) (some session) [.move read .receive, .move read .call] =
      [{ details with
          releaseContinuationPoint := request.releaseContinuationPoint
          continuationPoint := request.continuationPoint }]

theorem onHistoryReadRaw_of_found (hpoint : request.continuationPoint ≠ [])
    (hfound : points.lookup request.continuationPoint = some details) :
    HistoryStub.onHistoryReadRaw points request =
      some (points.erase request.continuationPoint,
        { details with
          releaseContinuationPoint := request.releaseContinuationPoint
          continuationPoint := request.continuationPoint }) := by
  simp [HistoryStub.onHistoryReadRaw, hpoint, hfound]

theorem calls_of_receive {read : Nat} {loop : Option Node.ReadValueHistory}
    (hstub : session.stub = some points)
    (hread : session.reads[read]? = some (.chunk loop (.sent request)))
    (hreceive : HistoryStub.onHistoryReadRaw points request = some (points', details)) :
    system.collectFrom (calls read) (some session) [.move read .receive, .move read .call] =
      [details] := by
  have hlt : read < session.reads.length := (List.getElem?_eq_some_iff.mp hread).1
  have hstep : session.step (.move read .receive) =
      some ⟨some points', session.reads.set read (.chunk loop (.spawned details))⟩ := by
    simp [Session.step, hread, Read.step, hstub, hreceive]
  simp [collectFrom, calls, Read.call, system, hstep, hlt]

theorem followsUp_of_distinct (hes : system.Meets Distinct es) : FollowsUp es := by
  intro session points read loop request details hsession hstub hread hpoint hopen
  have hfound := ((books_of_run hes hsession hstub) _ details).mpr hopen
  exact calls_of_receive hstub hread (onHistoryReadRaw_of_found hpoint hfound)

/-! ## What is released -/

/-- If the stub is destroyed, each point that has been returned and not presented
since is released by one call, and nothing else is released, then or later. -/
def ReleasesOnce (es : List Event) : Prop :=
  ∀ (session : Session) (points : ContinuationPoints),
    system.run es = some session → session.stub = some points →
    session.reads.any Read.inStub = false →
    ∀ rest : List Event,
      let released := system.collect releases (es ++ .destroy :: rest)
      (released.map (·.continuationPoint)).Nodup ∧
        (∀ point, point ∈ released.map (·.continuationPoint) ↔
          ∃ details, Ledger.Open (system.collect ledger es) point details) ∧
        ∀ call ∈ released, call.releaseContinuationPoint = true

theorem points_destroy (points : ContinuationPoints) :
    (HistoryStub.destroy points).map (·.continuationPoint) = points.keys := by
  simp [HistoryStub.destroy, AList.keys, List.keys, Function.comp_def]

theorem releases_eq_nil_of_destroyed (h : s.stub = none) (e : Event) :
    releases (some s) e = [] := by
  cases e <;> simp [releases, h]

theorem collectFrom_releases_of_destroyed {s : Option Session}
    (h : ∀ session, s = some session → session.stub = none) (es : List Event) :
    system.collectFrom releases s es = [] := by
  induction es generalizing s with
  | nil => rfl
  | cons e es ih =>
    have hsilent : releases s e = [] := by
      cases s with
      | none => rfl
      | some session => exact releases_eq_nil_of_destroyed (h session rfl) e
    rw [collectFrom, hsilent, List.nil_append]
    refine ih fun session' hsession' => ?_
    obtain ⟨session, hsession, hstep⟩ := Option.bind_eq_some_iff.mp hsession'
    cases hstub : session'.stub with
    | none => rfl
    | some points' =>
      obtain ⟨points, hpoints, -⟩ := Session.stub_before hstep hstub
      rw [h session hsession] at hpoints
      cases hpoints

theorem collect_releases_of_alive (hsession : system.run es = some session)
    (hpoints : session.stub = some points) : system.collect releases es = [] := by
  induction es using List.reverseRecOn generalizing session points with
  | nil => rfl
  | append_singleton es e ih =>
    obtain ⟨s₀, hs₀, hstep⟩ := step_of_run_concat hsession
    obtain ⟨points₀, hpoints₀, -⟩ := Session.stub_before hstep hpoints
    rw [collect_concat, ih hs₀ hpoints₀, hs₀, List.nil_append]
    cases e with
    | destroy =>
      -- a coroutine holds the stub, which would not be there otherwise
      cases Session.change_of_step hstep with
      | held hheld => simp [releases, hheld]
      | destroyed hidle => cases hpoints
    | _ => rfl

theorem collect_releases_destroy (hsession : system.run es = some session)
    (hpoints : session.stub = some points) (hidle : session.reads.any Read.inStub = false)
    (rest : List Event) :
    system.collect releases (es ++ .destroy :: rest) = HistoryStub.destroy points := by
  have hnow : releases (some session) .destroy = HistoryStub.destroy points := by
    simp [releases, hidle, hpoints]
  have hlater : system.collectFrom releases (system.step (some session) .destroy) rest = [] := by
    refine collectFrom_releases_of_destroyed ?_ rest
    intro session' hsession'
    simp only [system, Option.bind_some, Session.step, hidle] at hsession'
    cases hsession'
    rfl
  rw [collect_append, collect_releases_of_alive hsession hpoints, hsession,
    collectFrom, hnow, hlater, List.nil_append, List.append_nil]

theorem releasesOnce_of_distinct (hes : system.Meets Distinct es) : ReleasesOnce es := by
  intro session points hsession hpoints hidle rest released
  have hreleased : released = HistoryStub.destroy points :=
    collect_releases_destroy hsession hpoints hidle rest
  rw [hreleased, points_destroy]
  refine ⟨points.keys_nodup, (books_of_run hes hsession hpoints).mem_keys_iff, ?_⟩
  intro call hcall
  obtain ⟨entry, -, rfl⟩ := List.mem_map.mp hcall
  rfl

end Remote.HistoryChunks

end ScadaCore
