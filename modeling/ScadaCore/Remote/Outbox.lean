import ScadaCore.Lts.System
import ScadaCore.Remote.Protocol

/-!
# Remote.Outbox — what a session sends while no connection is attached

`SessionStub::Send` hands a message to the connection of the session. While there
is none, it keeps one message into which the later ones are merged, and
`SetConnection` hands that over to the next connection.
-/

namespace ScadaCore.Remote

structure Message (V : Type) where
  notifications : List (Notification V) := []
  requests : List Request := []
  responses : List Response := []

/-- `MergeFrom`: each repeated field is appended. -/
def Message.mergeFrom {V : Type} (target source : Message V) : Message V :=
  { notifications := target.notifications ++ source.notifications
    requests := target.requests ++ source.requests
    responses := target.responses ++ source.responses }

/-- The members of `SessionStub` that `Send` and `SetConnection` use, over
connections `C`, and the calls of `Connection::Send` so far. -/
structure Outbox (C V : Type) where
  connection : Option C := none
  sendMessage : Option (Message V) := none
  handed : List (C × Message V) := []

namespace Outbox

variable {C V : Type} (s : Outbox C V)

def setConnection (connection : Option C) : Outbox C V :=
  match connection, s.sendMessage with
  | some c, some message =>
    { connection, sendMessage := none, handed := s.handed ++ [(c, message)] }
  | _, _ => { s with connection }

def send (message : Message V) : Outbox C V :=
  match s.connection with
  | some c => { s with handed := s.handed ++ [(c, message)] }
  | none =>
    match s.sendMessage with
    | some kept => { s with sendMessage := some (kept.mergeFrom message) }
    -- `Swap` with a fresh message
    | none => { s with sendMessage := some message }

inductive Event (C V : Type) where
  | send (message : Message V)
  | setConnection (connection : Option C)

def system (C V : Type) : Lts.System (Outbox C V) (Event C V) where
  init := {}
  step s
    | .send message => s.send message
    | .setConnection connection => s.setConnection connection

def sent (events : List (Event C V)) : List (Message V) :=
  events.filterMap fun
    | .send message => some message
    | .setConnection _ => none

/-! ## The account -/

/-- A message is kept only while no connection is attached. -/
def KeptWhileDetached : Prop :=
  s.connection.isSome → s.sendMessage = none

theorem keptWhileDetached_step (e : Event C V) (h : s.KeptWhileDetached) :
    ((system C V).step s e).KeptWhileDetached := by
  rcases s with ⟨_ | c, kept, handed⟩
  · -- detached: only a connection that takes the message over comes
    rcases e with message | (_ | c') <;> rcases kept with _ | kept <;>
      simp [system, send, setConnection, KeptWhileDetached]
  · have hkept : kept = none := h rfl
    rw [hkept]
    rcases e with message | (_ | c') <;> simp [system, send, setConnection, KeptWhileDetached]

theorem keptWhileDetached_run (events : List (Event C V)) :
    ((system C V).run events).KeptWhileDetached :=
  (system C V).invariant KeptWhileDetached (fun hno => by cases hno) keptWhileDetached_step
    events

section Entries

variable {α : Type} (entries : Message V → List α)

def account : List α :=
  s.handed.flatMap (fun call => entries call.2) ++ (s.sendMessage.map entries).getD []

theorem account_setConnection (connection : Option C) :
    (s.setConnection connection).account entries = s.account entries := by
  rcases s with ⟨current, kept, handed⟩
  rcases connection with _ | c <;> rcases kept with _ | kept <;> simp [setConnection, account]

section

variable (hmerge : ∀ a b : Message V, entries (a.mergeFrom b) = entries a ++ entries b)

include hmerge

theorem account_send {s : Outbox C V} (h : s.KeptWhileDetached) (message : Message V) :
    (s.send message).account entries = s.account entries ++ entries message := by
  rcases s with ⟨_ | c, kept, handed⟩
  · rcases kept with _ | kept
    · simp [send, account]
    · simp [send, account, hmerge]
  · have hkept : kept = none := h rfl
    rw [hkept]
    simp [send, account]

/-- What was handed over and what is kept is what was sent, in order. -/
theorem handed_append_kept (events : List (Event C V)) :
    ((system C V).run events).account entries = (sent events).flatMap entries := by
  induction events using List.reverseRecOn with
  | nil => rfl
  | append_singleton events e ih =>
    rw [Lts.System.run_concat, sent, List.filterMap_append, List.flatMap_append, ← sent, ← ih]
    cases e with
    | send message =>
      rw [show (system C V).step _ (.send message) = send _ message from rfl,
        account_send entries hmerge (keptWhileDetached_run events)]
      simp
    | setConnection connection =>
      rw [show (system C V).step _ (.setConnection connection) =
        setConnection _ connection from rfl, account_setConnection]
      simp

/-- When a connection has been attached nothing is kept, so all of it has been
handed over. -/
theorem handed_of_attached (before : List (Event C V)) (c : C) :
    ((system C V).run (before ++ [.setConnection (some c)])).handed.flatMap
        (fun call => entries call.2) =
      (sent before).flatMap entries := by
  have haccount := handed_append_kept entries hmerge (before ++ [.setConnection (some c)])
  have hattached :
      ((system C V).run (before ++ [.setConnection (some c)])).connection.isSome := by
    rw [Lts.System.run_concat]
    change (setConnection _ (some c)).connection.isSome
    unfold setConnection
    split
    · rfl
    · rfl
  rw [account, keptWhileDetached_run _ hattached] at haccount
  simpa [sent] using haccount

end

end Entries

/-- Up to and including each call of `SetConnection` with a connection, the last
one included, the responses handed to connections are those that were passed to
`Send` before, in order and each once, and so are the notifications. And nothing is
kept while a connection is attached. -/
theorem handed_eq_sent (events : List (Event C V)) :
    (∀ before c after, events = before ++ .setConnection (some c) :: after →
      let attached := (system C V).run (before ++ [.setConnection (some c)])
      attached.handed.flatMap (fun call => call.2.responses) =
          (sent before).flatMap Message.responses ∧
        attached.handed.flatMap (fun call => call.2.notifications) =
          (sent before).flatMap Message.notifications) ∧
      (((system C V).run events).connection.isSome →
        ((system C V).run events).sendMessage = none) := by
  constructor
  · intro before c after _
    exact ⟨handed_of_attached Message.responses (fun _ _ => rfl) before c,
      handed_of_attached Message.notifications (fun _ _ => rfl) before c⟩
  · exact keptWhileDetached_run events

/-- Two responses that were sent while detached are handed over in order. -/
theorem handed_eq_sent_reattached :
    let response (requestId : Nat) : Response :=
      { requestId, status := Scada.StatusCode.good }
    let events : List (Event Nat Unit) :=
      [.setConnection none, .send { responses := [response 1] },
        .send { responses := [response 2] }, .setConnection (some 7)]
    (((system Nat Unit).run events).handed.flatMap fun call => call.2.responses) =
        [response 1, response 2] ∧
      ((system Nat Unit).run events).sendMessage = none := by
  intro response events
  rcases handed_eq_sent events with ⟨hhanded, hkept⟩
  constructor
  · exact (hhanded [.setConnection none, .send { responses := [response 1] },
      .send { responses := [response 2] }] 7 [] rfl).1
  · exact hkept rfl

end Outbox

end ScadaCore.Remote
