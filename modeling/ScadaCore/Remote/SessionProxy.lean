import ScadaCore.Data.Table
import ScadaCore.Lts.System
import Mathlib

/-!
# Remote.SessionProxy — completion of the requests of a client session

`SessionProxy` keeps the handlers of the requests it has sent, by request id.
A response takes its handler out and runs it; the loss of the session moves all
of them out and runs them with `Bad_Disconnected`. A handler is arbitrary code
that may call `Request` again before it returns, so the functions that run
handlers are modelled one handler at a time: what is left of their loops is a
frame on an explicit stack, and whatever a handler does happens while the frame
is there.

Handlers are numbered in the order of registration, and `invoked` logs the ones
that were run. Under the condition `Safe` every handler ever registered is, at
all times, in exactly one place: logged, registered, or in a failing loop.
-/

namespace ScadaCore.Remote

/-- The rest of a loop that runs handlers. -/
inductive Frame where
  /-- `OnMessageReceived`: the responses still to be looked at, and whether the
  message also says that the session was deleted. -/
  | responses (ids : List Nat) (sessionDeleted : Bool)
  /-- `OnSessionDeleted`: the handlers still to be failed, and whether the
  caller resets the transport afterwards. -/
  | failing (handlers : List Nat) (resetTransport : Bool)
deriving DecidableEq, Repr

namespace Frame

def isFailing : Frame → Bool
  | .responses _ _ => false
  | .failing _ _ => true

def handlers : Frame → List Nat
  | .responses _ _ => []
  | .failing handlers _ => handlers

def turns : Frame → Nat
  | .responses ids _ => 2 * ids.length + 2
  | .failing handlers _ => handlers.length + 1

end Frame

/-- `class SessionProxy`, as far as the completion of requests goes. -/
structure SessionProxy where
  transport : Bool := false
  sessionCreated : Bool := false
  nextRequestId : Nat := 1
  requests : Table Nat Nat := ∅
  stack : List Frame := []
  /-- How many handlers were registered, and how many of them before the
  current transport was opened. -/
  registered : Nat := 0
  registeredBefore : Nat := 0
  invoked : List Nat := []

namespace SessionProxy

/-- `std::numeric_limits<int>::max()`. -/
def maxRequestId : Nat := 2 ^ 31 - 1

def nextId (requestId : Nat) : Nat := if requestId = maxRequestId then 1 else requestId + 1

variable (s : SessionProxy)

def request (hasHandler : Bool) : SessionProxy :=
  let s' := { s with nextRequestId := nextId s.nextRequestId }
  if hasHandler then
    { s' with
      requests := s.requests.insert s.nextRequestId s.registered
      registered := s.registered + 1 }
  else
    s'

/-- `OnSessionDeleted` up to the first handler: the requests are moved out. -/
def onSessionDeleted (resetTransport : Bool) : SessionProxy :=
  { s with
    requests := ∅
    stack := .failing (Table.values s.requests) resetTransport :: s.stack }

/-- `OnSessionError`: the transport is gone before the handlers run. -/
def onSessionError : SessionProxy :=
  { s with transport := false }.onSessionDeleted false

/-- One turn of the innermost loop. `index` picks the next handler to fail: the
order in which the map is gone through is unspecified. -/
def resume (index : Nat) : SessionProxy :=
  match s.stack with
  | [] => s
  | .responses [] sessionDeleted :: stack =>
    if sessionDeleted then { s with stack }.onSessionError else { s with stack }
  | .responses (id :: ids) sessionDeleted :: stack =>
    let s' := { s with stack := .responses ids sessionDeleted :: stack }
    match s.requests.lookup id with
    | none => s'
    | some handler =>
      { s' with requests := s.requests.erase id, invoked := s.invoked ++ [handler] }
  | .failing [] resetTransport :: stack =>
    { s with stack, sessionCreated := false, transport := s.transport && !resetTransport }
  | .failing handlers resetTransport :: stack =>
    match handlers[index]? with
    | none => s
    | some handler =>
      { s with
        stack := .failing (handlers.eraseIdx index) resetTransport :: stack
        invoked := s.invoked ++ [handler] }

/-- What can happen to a session proxy. -/
inductive Event where
  /-- `Connect` has created a transport. -/
  | opened
  /-- `OnSessionCreated`. -/
  | created
  /-- `ReconnectAsync` resets the transport, whatever is registered. -/
  | reset
  /-- Anybody, a running handler included, calls `Request`. -/
  | request (hasHandler : Bool)
  /-- The read loop hands over a message. -/
  | message (ids : List Nat) (sessionDeleted : Bool)
  /-- `OnSessionError`, from the read loop or from a failed `Send`. -/
  | sessionError
  /-- `DisconnectAsync` after a good answer. -/
  | disconnected
  /-- The running handler returns and the innermost loop goes on. -/
  | resume (index : Nat)

/-- The read loop, the connect loop and `DisconnectAsync` are coroutines: they
go on only when no other function is on the stack. -/
def step : Event → SessionProxy
  | .opened =>
    if s.stack.isEmpty then { s with transport := true, registeredBefore := s.registered } else s
  | .created => if s.stack.isEmpty && s.transport then { s with sessionCreated := true } else s
  | .reset => if s.stack.isEmpty then { s with transport := false } else s
  | .request hasHandler => s.request hasHandler
  | .message ids sessionDeleted =>
    if s.stack.isEmpty && s.transport then
      { s with stack := [.responses ids sessionDeleted] }
    else
      s
  | .sessionError => s.onSessionError
  | .disconnected => if s.stack.isEmpty then s.onSessionDeleted true else s
  | .resume index => s.resume index

def system : Lts.System SessionProxy Event := ⟨{}, step⟩

/-! ## What has to hold -/

/-- The handlers that belong to a connection that has ended: those registered
before the current transport was opened, and all of them without a transport. -/
def overdue : Nat := if s.transport then s.registeredBefore else s.registered

/-- No handler runs twice; and when no function is on the stack, every handler
of a connection that has ended has run, and none is left without a transport. -/
def ExactlyOnce : Prop :=
  s.invoked.Nodup ∧
    (s.stack = [] →
      (∀ handler < s.overdue, handler ∈ s.invoked) ∧ (s.transport = false → s.requests = ∅))

/-- The condition on a step: a request with a handler is made only on a live
transport, not from within `OnSessionDeleted`, and under an id that is not
pending; and a transport is replaced or reset only when it is gone already or
nothing is pending on it. -/
def Safe : Event → Prop
  | .opened | .reset => s.transport = false ∨ s.requests = ∅
  | .request true =>
    s.transport = true ∧ s.stack.all (!·.isFailing) = true ∧ s.nextRequestId ∉ s.requests
  | _ => True

/-! ## The invariant -/

def failingHandlers : List Nat := s.stack.flatMap Frame.handlers

structure Inv (s : SessionProxy) : Prop where
  /-- Every handler is in exactly one place. -/
  conserved : (s.invoked ++ Table.values s.requests ++ s.failingHandlers).Perm
    (List.range s.registered)
  /-- Nothing is registered without a transport or during a failing loop. -/
  drained : s.transport = false ∨ s.stack.any Frame.isFailing = true → s.requests = ∅
  old_invoked : ∀ handler < s.registeredBefore, handler ∈ s.invoked

theorem inv_init : Inv {} := by
  refine ⟨?_, fun _ => rfl, ?_⟩
  · exact .refl _
  · intro handler hlt
    exact absurd hlt (Nat.not_lt_zero _)

variable {s}

theorem Inv.invoked_of_idle (h : s.Inv) (hstack : s.stack = []) (hrequests : s.requests = ∅) :
    ∀ handler < s.registered, handler ∈ s.invoked := by
  intro handler hlt
  have hmem : handler ∈ s.invoked ++ Table.values s.requests ++ s.failingHandlers :=
    h.conserved.mem_iff.mpr (List.mem_range.mpr hlt)
  simpa [hrequests, failingHandlers, hstack] using hmem

theorem Inv.exactlyOnce (h : s.Inv) : s.ExactlyOnce := by
  have hnodup : (s.invoked ++ Table.values s.requests ++ s.failingHandlers).Nodup :=
    h.conserved.nodup_iff.mpr List.nodup_range
  refine ⟨?_, ?_⟩
  · rw [List.append_assoc] at hnodup
    exact hnodup.of_append_left
  · intro hstack
    refine ⟨?_, fun hclosed => h.drained (Or.inl hclosed)⟩
    intro handler hlt
    by_cases htransport : s.transport = true
    · rw [overdue, if_pos htransport] at hlt
      exact h.old_invoked handler hlt
    · rw [overdue, if_neg htransport] at hlt
      have hclosed : s.transport = false := by simpa using htransport
      exact h.invoked_of_idle hstack (h.drained (Or.inl hclosed)) handler hlt

/-! ### One step -/

theorem inv_request (h : s.Inv) {hasHandler : Bool} (hsafe : s.Safe (.request hasHandler)) :
    (s.request hasHandler).Inv := by
  cases hasHandler with
  | false => exact ⟨h.conserved, h.drained, h.old_invoked⟩
  | true =>
    obtain ⟨htransport, hnot, hfresh⟩ := hsafe
    refine ⟨?_, ?_, h.old_invoked⟩
    · -- the new handler joins the registered ones
      have hvalues : Table.values (s.requests.insert s.nextRequestId s.registered) =
          s.registered :: Table.values s.requests := Table.values_insert_of_notMem hfresh _
      simp only [request, if_true, failingHandlers, hvalues, List.range_succ]
      have hmid : (s.invoked ++ s.registered :: Table.values s.requests ++
          s.stack.flatMap Frame.handlers).Perm
          (s.registered :: (s.invoked ++ Table.values s.requests ++
            s.stack.flatMap Frame.handlers)) := by
        rw [List.append_assoc, List.append_assoc, List.cons_append]
        exact List.perm_middle
      exact hmid.trans ((h.conserved.cons _).trans (List.perm_append_singleton _ _).symm)
    · intro hbad
      exfalso
      rcases hbad with hclosed | hfailing
      · exact absurd (htransport.symm.trans hclosed) (by decide)
      · obtain ⟨frame, hmem, hframe⟩ := List.any_eq_true.mp hfailing
        have hno := List.all_eq_true.mp hnot frame hmem
        simp [hframe] at hno

theorem inv_onSessionDeleted (h : s.Inv) (resetTransport : Bool) :
    (s.onSessionDeleted resetTransport).Inv := by
  refine ⟨?_, fun _ => rfl, h.old_invoked⟩
  have hconserved := h.conserved
  simpa [onSessionDeleted, failingHandlers, Frame.handlers] using hconserved

theorem inv_closeTransport (h : s.Inv) :
    Inv ({ s with transport := false }.onSessionDeleted false) := by
  have hdeleted := inv_onSessionDeleted h false
  exact ⟨hdeleted.conserved, fun _ => rfl, hdeleted.old_invoked⟩

theorem inv_restack (h : s.Inv) {stack : List Frame}
    (hhandlers : stack.flatMap Frame.handlers = s.failingHandlers)
    (hfailing : stack.any Frame.isFailing = true → s.stack.any Frame.isFailing = true) :
    Inv { s with stack } := by
  refine ⟨?_, ?_, h.old_invoked⟩
  · show (s.invoked ++ Table.values s.requests ++ stack.flatMap Frame.handlers).Perm _
    rw [hhandlers]
    exact h.conserved
  · intro hbad
    exact h.drained (hbad.imp_right hfailing)

theorem inv_pop (h : s.Inv) {frame : Frame} {stack : List Frame} (hstack : s.stack = frame :: stack)
    (hempty : frame.handlers = []) : Inv { s with stack } := by
  apply inv_restack h
  · simp [failingHandlers, hstack, hempty]
  · intro hfailing
    simp only [hstack, List.any_cons]
    simp [hfailing]

theorem inv_resume (h : s.Inv) (index : Nat) : (s.resume index).Inv := by
  rcases hstack : s.stack with _ | ⟨frame, stack⟩
  · simpa [resume, hstack] using h
  · cases frame with
    | responses ids sessionDeleted =>
      cases ids with
      | nil =>
        have hpop := inv_pop h hstack rfl
        cases sessionDeleted with
        | false => simpa [resume, hstack] using hpop
        | true => simpa [resume, hstack, onSessionError] using inv_closeTransport hpop
      | cons id ids =>
        cases hlookup : s.requests.lookup id with
        | none =>
          -- an unknown or repeated id changes nothing but the loop
          simp only [resume, hstack, hlookup]
          apply inv_restack h
          · simp [failingHandlers, hstack, Frame.handlers]
          · simp [hstack, Frame.isFailing]
        | some handler =>
          simp only [resume, hstack, hlookup]
          have htake := Table.values_perm_of_lookup hlookup
          refine ⟨?_, ?_, ?_⟩
          · -- the handler moves from the requests to the log
            have hconserved := h.conserved
            simp only [failingHandlers, hstack, List.flatMap_cons, Frame.handlers,
              List.nil_append] at hconserved ⊢
            refine List.Perm.trans (.append_right _ ?_) hconserved
            rw [List.append_assoc]
            exact .append_left _ htake.symm
          · intro hbad
            have hnone : s.requests = ∅ := by
              apply h.drained
              simpa [hstack, Frame.isFailing] using hbad
            rw [hnone] at hlookup
            cases hlookup
          · intro handler' hlt
            exact List.mem_append_left _ (h.old_invoked handler' hlt)
    | failing handlers resetTransport =>
      cases handlers with
      | nil =>
        have hnone : s.requests = ∅ :=
          h.drained (Or.inr (by simp [hstack, Frame.isFailing]))
        have hpop := inv_pop h hstack rfl
        simp only [resume, hstack]
        exact ⟨hpop.conserved, fun _ => hnone, hpop.old_invoked⟩
      | cons first rest =>
        cases hget : (first :: rest)[index]? with
        | none => simpa [resume, hstack, hget] using h
        | some handler =>
          simp only [resume, hstack, hget]
          obtain ⟨hlt, hentry⟩ := List.getElem?_eq_some_iff.mp hget
          have htake : (handler :: (first :: rest).eraseIdx index).Perm (first :: rest) := by
            rw [← hentry]
            exact List.getElem_cons_eraseIdx_perm hlt
          refine ⟨?_, ?_, ?_⟩
          · -- the handler moves from the loop to the log
            have hconserved := h.conserved
            simp only [failingHandlers, hstack, List.flatMap_cons, Frame.handlers]
              at hconserved ⊢
            refine List.Perm.trans ?_ hconserved
            rw [← List.append_assoc, ← List.append_assoc]
            refine .append_right _ ?_
            refine List.Perm.trans ?_ (htake.append_left _)
            rw [List.append_assoc, List.append_assoc]
            simp only [List.singleton_append, List.append_assoc]
            exact .append_left _ List.perm_middle.symm
          · intro _
            exact h.drained (Or.inr (by simp [hstack, Frame.isFailing]))
          · intro handler' hlt'
            exact List.mem_append_left _ (h.old_invoked handler' hlt')

theorem inv_step (h : s.Inv) {e : Event} (hsafe : s.Safe e) : (s.step e).Inv := by
  cases e with
  | opened =>
    by_cases hidle : s.stack.isEmpty = true
    · simp only [step, hidle, if_true]
      have hstack : s.stack = [] := List.isEmpty_iff.mp hidle
      have hnone : s.requests = ∅ := hsafe.elim (fun hc => h.drained (Or.inl hc)) id
      exact ⟨h.conserved, fun _ => hnone, h.invoked_of_idle hstack hnone⟩
    · simpa [step, hidle] using h
  | created =>
    simp only [step]
    split
    · exact ⟨h.conserved, h.drained, h.old_invoked⟩
    · exact h
  | reset =>
    simp only [step]
    split
    · have hnone : s.requests = ∅ := hsafe.elim (fun hc => h.drained (Or.inl hc)) id
      exact ⟨h.conserved, fun _ => hnone, h.old_invoked⟩
    · exact h
  | request hasHandler => exact inv_request h hsafe
  | message ids sessionDeleted =>
    by_cases hidle : (s.stack.isEmpty && s.transport) = true
    · simp only [step, hidle, if_true]
      obtain ⟨hempty, htransport⟩ := Bool.and_eq_true_iff.mp hidle
      have hstack : s.stack = [] := List.isEmpty_iff.mp hempty
      apply inv_restack h
      · simp [failingHandlers, hstack, Frame.handlers]
      · simp [hstack, Frame.isFailing]
    · simpa [step, hidle] using h
  | sessionError => exact inv_closeTransport h
  | disconnected =>
    simp only [step]
    split
    · exact inv_onSessionDeleted h true
    · exact h
  | resume index => exact inv_resume h index

/-! ## The loops end -/

/-- A bound on the turns left. A message counts one more than its responses
need: it may end the session, which starts another loop. -/
def turns (s : SessionProxy) : Nat :=
  (s.stack.map Frame.turns).sum + (Table.values s.requests).length

theorem turns_resume_lt (hstack : s.stack ≠ []) : (s.resume 0).turns < s.turns := by
  obtain ⟨frame, stack, heq⟩ := List.exists_cons_of_ne_nil hstack
  cases frame with
  | responses ids sessionDeleted =>
    cases ids with
    | nil =>
      cases sessionDeleted with
      | false => simp [resume, heq, turns, Frame.turns]
      | true =>
        simp [resume, heq, turns, onSessionError, onSessionDeleted, Frame.turns]
        omega
    | cons id ids =>
      cases hlookup : s.requests.lookup id with
      | none => simp [resume, heq, hlookup, turns, Frame.turns]
      | some handler =>
        have hlen := (Table.values_perm_of_lookup hlookup).length_eq
        simp only [List.length_cons] at hlen
        simp [resume, heq, hlookup, turns, Frame.turns]
        omega
  | failing handlers resetTransport =>
    cases handlers <;> simp [resume, heq, turns, Frame.turns]

theorem exists_idle (s : SessionProxy) :
    ∃ n, (system.runFrom s (List.replicate n (.resume 0))).stack = [] := by
  induction hn : s.turns using Nat.strong_induction_on generalizing s with
  | _ n ih =>
    by_cases hstack : s.stack = []
    · exact ⟨0, hstack⟩
    · obtain ⟨m, hm⟩ := ih _ (hn ▸ turns_resume_lt hstack) (s.resume 0) rfl
      exact ⟨m + 1, hm⟩

/-! ## Every run -/

/-- **Exactly-once completion.** In a run in which requests are made only on a
live transport, outside `OnSessionDeleted` and under a fresh id, and in which
no transport with pending requests is replaced, every handler runs exactly
once, no later than the end of the connection it was registered in: no handler
runs twice, every function on the stack comes to its end, and whenever none is
left, all handlers of ended connections have run. -/
theorem handlers_complete_exactly_once {es : List Event} (hsafe : system.Meets Safe es) :
    system.Always
      (fun s => s.ExactlyOnce ∧
        ∃ n, (system.runFrom s (List.replicate n (.resume 0))).stack = []) es := by
  have hinv : system.Always Inv es :=
    system.always_of_meets Inv Safe inv_init (fun _ _ h hs => inv_step h hs) hsafe
  intro pre hpre
  exact ⟨(hinv pre hpre).exactlyOnce, exists_idle _⟩

/-- A request answered on a live transport, and another one failed by the loss
of the session. -/
def completedRun : List Event :=
  [.opened, .created, .request true, .message [1, 1] false, .resume 0, .resume 0, .resume 0,
    .request true, .sessionError, .resume 0, .resume 0]

theorem handlers_complete_exactly_once_completedRun :
    system.Always
      (fun s => s.ExactlyOnce ∧
        ∃ n, (system.runFrom s (List.replicate n (.resume 0))).stack = []) completedRun := by
  refine handlers_complete_exactly_once ((system.meets_iff_meetsFrom _ _).mpr ?_)
  simp only [completedRun, Lts.System.MeetsFrom, Safe, and_true, true_and]
  decide

/-- The first handler, failed by the loss of the session, makes another request:
the transport is gone already, and that request is never completed. -/
def reentrantRun : List Event :=
  [.opened, .created, .request true, .sessionError, .resume 0, .request true, .resume 0]

theorem not_always_exactlyOnce_reentrantRun : ¬ system.Always ExactlyOnce reentrantRun := by
  intro halways
  obtain ⟨-, hidle⟩ := halways reentrantRun (List.prefix_refl _)
  have hnone := (hidle rfl).2 rfl
  exact absurd (congrArg AList.entries hnone) (by decide)

end SessionProxy

end ScadaCore.Remote
