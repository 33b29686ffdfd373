import ScadaCore.Data.Pairing
import ScadaCore.Remote.Answers

/-!
# Remote.SessionManager — connections, sessions and the pointers between them

`RemoteSessionManager`, its `ServerConnection`s and its `SessionStub`s. A
connection holds a raw pointer to the session it serves and a session one to
the connection it is attached to. The manager maps a user to the session of
that user, and a session lives as long as the map, or a service call that has
captured it, refers to it; when the last reference goes, `~SessionStub` runs.

Connections and sessions are numbered in the order of creation, and a number is
never used again. An authentication in flight is an entry of `logons`, a
service call that keeps its session alive an entry of `inFlight`. A write may
fail before `Send` returns, which closes the connection on the spot: `broken`
says for which connections it does. Reading a session that is gone does
nothing here; the source would read freed memory.
-/

namespace ScadaCore.Remote

open Scada

/-- `class ServerConnection`, as far as its session goes. -/
structure ServerConnection where
  session : Option Nat := none
  closed : Bool := false
deriving DecidableEq, Repr

def Output.isDispatch : Output → Bool
  | .respond _ => false
  | .spawn _ | .monitor _ => true

/-- What the authenticator says about an accepted user. -/
structure AuthenticationResult where
  userId : NodeId
  multiSessions : Bool := false
deriving DecidableEq, Repr

/-- `IsCompatibleProtocol`, whose parameters are signed. -/
def isCompatibleProtocol (major minor : Int32) : Bool :=
  major == protocolVersionMajor && decide (minor ≤ protocolVersionMinor)

def CreateSession.isCompatible (request : CreateSession) : Bool :=
  isCompatibleProtocol request.versionMajor.toInt32 request.versionMinor.toInt32

/-- `class RemoteSessionManager` with everything it keeps alive. -/
structure SessionManager where
  services : Services := {}
  connections : Nat → Option ServerConnection := fun _ => none
  sessions : Nat → Option (SessionStub Nat) := fun _ => none
  sessionMap : NodeId → Option Nat := fun _ => none
  inFlight : List (Nat × Task) := []
  logons : List (Nat × CreateSession) := []
  nextConnection : Nat := 0
  nextSession : Nat := 0
  /-- The service calls and monitored items started so far, with the session
  they were started for. -/
  dispatched : List (Nat × Output) := []

namespace SessionManager

/-! ## The two pointers -/

variable (m : SessionManager) (c : Nat)

/-- `session_` of a connection. -/
def served : Option Nat := (m.connections c).bind (·.session)

variable (s : Nat)

/-- `connection_` of a session. -/
def attachedTo : Option Nat :=
  (m.sessions s).bind (·.connection)

def isOpen : Bool := (m.connections c).any (!·.closed)

def modifyConnection (f : ServerConnection → ServerConnection) : SessionManager :=
  { m with connections := Function.update m.connections c ((m.connections c).map f) }

def setSession (session : Option Nat) : SessionManager :=
  m.modifyConnection c ({ · with session })

def setConnection (connection : Option Nat) : SessionManager :=
  { m with sessions := Function.update m.sessions s ((m.sessions s).map ({ · with connection })) }

/-- Both pointers between a connection and its session are cleared, as `Close`,
`OnDeleteSessionAsync` and `~ServerConnection` do. -/
def detach : SessionManager :=
  match m.served c with
  | none => m
  | some s => (m.setSession c none).setConnection s none

/-! ## Lifetime of sessions -/

/-- `~SessionStub`: the connection the session is attached to forgets its
session, whichever that is. -/
def destroy : SessionManager :=
  { m with
    connections :=
      match m.attachedTo s with
      | none => m.connections
      | some c => (m.setSession c none).connections
    sessions := Function.update m.sessions s none }

def isBusy : Bool := m.inFlight.any (·.1 == s)

def isMapped : Bool :=
  (m.sessions s).any fun stub => m.sessionMap stub.userId == some s

def releaseSession : SessionManager :=
  if m.isBusy s || m.isMapped s then m else m.destroy s

/-- `DeleteSession`: erases the session only if the map still holds it. -/
def deleteSession : SessionManager :=
  match m.sessions s with
  | none => m
  | some stub =>
    if m.sessionMap stub.userId = some s then
      { m with sessionMap := Function.update m.sessionMap stub.userId none }.releaseSession s
    else
      m

def close : SessionManager :=
  if m.isOpen c then
    let m' := (m.modifyConnection c ({ · with closed := true })).detach c
    match m.served c with
    | none => m'
    | some s => m'.deleteSession s
  else
    m

/-- `Send`: a write that fails at once closes the connection. -/
def send (broken : Nat → Bool) : SessionManager :=
  if broken c then m.close c else m

/-! ## Logging on and off -/

/-- The session is notified, where a connection can carry the notification, and
deleted. -/
def logOff (broken : Nat → Bool) : SessionManager :=
  (match m.attachedTo s with
   | none => m
   | some c => m.send c broken).deleteSession s

variable (userId : NodeId)

/-- `CheckExistingSession`: whether the logon may go on. Only a session that is
attached to a connection stands in its way. -/
def checkExistingSession (deleteExisting : Bool) (broken : Nat → Bool) : SessionManager × Bool :=
  match m.sessionMap userId with
  | none => (m, true)
  | some s =>
    if (m.attachedTo s).isSome && !deleteExisting then (m, false) else (m.logOff s broken, true)

def insertSession : SessionManager :=
  { m with
    sessions := Function.update m.sessions m.nextSession (some { userId, services := m.services })
    sessionMap := Function.update m.sessionMap userId (some m.nextSession)
    nextSession := m.nextSession + 1 }

/-- `CreateNewSession`. Assigning the new session to the user drops the
reference to a session the map held before. -/
def createNewSession : SessionManager × Nat :=
  (match m.sessionMap userId with
   | none => m.insertSession userId
   | some old => (m.insertSession userId).releaseSession old, m.nextSession)

/-- The last lines of `OnCreateSessionAsync`: the connection serves the session,
or none, from now on. -/
def assignSession : Option Nat → SessionManager
  | none => m.setSession c none
  | some s => (m.setSession c (some s)).setConnection s (some c)

/-- `OnCreateSessionAsync` from the answer of the create-session handler on. A
connection that was closed in the meantime gives the session back; otherwise
the response is sent and the session, or none, becomes the one it serves. -/
def bindSession (result : Option Nat) (broken : Nat → Bool) : SessionManager :=
  match m.connections c with
  | none => m
  | some connection =>
    if connection.closed then
      match result with
      | none => m
      | some s => m.deleteSession s
    else
      (m.send c broken).assignSession c result

/-- `CreateSessionAsync` after authentication: the session created, if any. -/
def createSession (deleteExisting : Bool)
    (result : Option AuthenticationResult) (broken : Nat → Bool) :
    SessionManager × Option Nat :=
  match result with
  | none => (m, none)
  | some auth =>
    let checked :=
      if auth.multiSessions then (m, true)
      else m.checkExistingSession auth.userId deleteExisting broken
    if checked.2 then
      let created := checked.1.createNewSession auth.userId
      (created.1, some created.2)
    else
      (checked.1, none)

def onDeleteSession : SessionManager :=
  match m.served c with
  | none => m
  | some s => (m.detach c).deleteSession s

def closeUserSessions (broken : Nat → Bool) : SessionManager :=
  match m.sessionMap userId with
  | none => m
  | some s => m.logOff s broken

/-! ## Requests -/

/-- `ProcessRequest` of a session, with the answer of the monitored-item
service to a create request. A request that ends the program is left out
of the run. -/
def processRequest (request : Request × Bool) : SessionManager :=
  match m.sessions s with
  | none => m
  | some stub =>
    match stub.processRequest request.1 request.2 with
    | none => m
    | some (stub', outputs) =>
      { m with
        sessions := Function.update m.sessions s (some stub')
        inFlight := m.inFlight ++
          ((outputs.filterMap Output.task?).filter (·.call.holdsSession)).map (s, ·)
        dispatched := m.dispatched ++ (outputs.filter Output.isDispatch).map (s, ·) }

/-- The part of `OnTransportMessageReceived` that hands a message to the
session; the logon and logoff requests in it are events of their own. -/
def onMessage (requests : List (Request × Bool)) : SessionManager :=
  if m.isOpen c then
    match m.served c with
    | none => m
    | some s => requests.foldl (fun m request => m.processRequest s request) m
  else
    m

/-! ## The event system -/

inductive Event where
  /-- A transport is accepted. -/
  | accept
  /-- The coroutine of a create-session request starts. -/
  | createSession (c : Nat) (request : CreateSession) (broken : Nat → Bool)
  /-- The authenticator answers a logon; without a result it refuses. -/
  | authenticated (index : Nat) (result : Option AuthenticationResult) (broken : Nat → Bool)
  /-- The coroutine of a delete-session request runs. -/
  | deleteSession (c : Nat)
  /-- A message arrives. -/
  | message (c : Nat) (requests : List (Request × Bool))
  /-- A service call that holds its session finishes. -/
  | serviceDone (index : Nat)
  /-- The peer goes away, the connection idles out, or a write fails. -/
  | close (c : Nat)
  /-- The last reference to a closed connection goes. -/
  | release (c : Nat)
  /-- A user was deleted. -/
  | closeUserSessions (userId : NodeId) (broken : Nat → Bool)

def step : Event → SessionManager
  | .accept =>
    { m with
      connections := Function.update m.connections m.nextConnection (some {})
      nextConnection := m.nextConnection + 1 }
  | .createSession c request broken =>
    if (m.connections c).isNone then m
    else if request.isCompatible then
      { m with logons := m.logons ++ [(c, request)] }
    else
      m.bindSession c none broken
  | .authenticated index result broken =>
    match m.logons[index]? with
    | none => m
    | some (c, request) =>
      let (m', session) :=
        { m with logons := m.logons.eraseIdx index }.createSession request.deleteExisting result
          broken
      m'.bindSession c session broken
  | .deleteSession c => m.onDeleteSession c
  | .message c requests => m.onMessage c requests
  | .serviceDone index =>
    match m.inFlight[index]? with
    | none => m
    | some (s, _) => { m with inFlight := m.inFlight.eraseIdx index }.releaseSession s
  | .close c => m.close c
  | .release c =>
    if m.isOpen c || m.logons.any (·.1 == c) then m
    else
      { m.detach c with connections := Function.update (m.detach c).connections c none }
  | .closeUserSessions userId broken => m.closeUserSessions userId broken

def system : Lts.System SessionManager Event := ⟨{}, step⟩

end SessionManager

end ScadaCore.Remote
