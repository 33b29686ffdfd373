import ScadaCore.Remote.Pointers

/-!
# Remote.SessionSignals — what the observers of the session manager hear

`RemoteSessionManager` tells its observers of every session it opens and of every
session it deletes. The signals of an operation are given next to the operation:
`CreateNewSession` emits the one, `DeleteSession` the other, and every other
operation what the operations it consists of emit.

A user has one entry in the map. A logon of a user that may have many sessions
does not ask for the session in it and assigns the new one over it: that session
is lost to the map without a signal, and as it was the last reference, the
session is destroyed and its connection left without one.
-/

namespace ScadaCore.Remote

open Scada SessionManager

/-- The signals of the manager, with the user and the number of the session. -/
inductive Signal where
  | opened (userId : NodeId) (session : Nat)
  | closed (userId : NodeId) (session : Nat)
deriving DecidableEq, Repr

namespace Signal

def isOpenedBy (userId : NodeId) : Signal → Bool
  | .opened user _ => user == userId
  | .closed _ _ => false

def isClosedBy (userId : NodeId) : Signal → Bool
  | .opened _ _ => false
  | .closed user _ => user == userId

end Signal

namespace SessionManager

/-! ## The signals of each operation -/

variable (m : SessionManager)

/-- `DeleteSession`: a signal if the map still holds the session. -/
def deleteSessionSignals (s : Nat) : List Signal :=
  match m.sessions s with
  | none => []
  | some stub => if m.sessionMap stub.userId = some s then [.closed stub.userId s] else []

def closeSignals (c : Nat) : List Signal :=
  if m.isOpen c then
    match m.served c with
    | none => []
    | some s =>
      ((m.modifyConnection c ({ · with closed := true })).detach c).deleteSessionSignals s
  else
    []

def sendSignals (c : Nat) (broken : Nat → Bool) : List Signal :=
  if broken c then m.closeSignals c else []

def logOffSignals (s : Nat) (broken : Nat → Bool) : List Signal :=
  match m.attachedTo s with
  | none => m.deleteSessionSignals s
  | some c => m.sendSignals c broken ++ (m.send c broken).deleteSessionSignals s

def closeUserSessionsSignals (userId : NodeId) (broken : Nat → Bool) : List Signal :=
  match m.sessionMap userId with
  | none => []
  | some s => m.logOffSignals s broken

def checkExistingSessionSignals (userId : NodeId)
    (deleteExisting : Bool) (broken : Nat → Bool) : List Signal :=
  match m.sessionMap userId with
  | none => []
  | some s =>
    if (m.attachedTo s).isSome && !deleteExisting then [] else m.logOffSignals s broken

def createNewSessionSignals (userId : NodeId) : List Signal :=
  [.opened userId m.nextSession]

def createSessionSignals (deleteExisting : Bool)
    (result : Option AuthenticationResult) (broken : Nat → Bool) : List Signal :=
  match result with
  | none => []
  | some auth =>
    let checked :=
      if auth.multiSessions then (m, true)
      else m.checkExistingSession auth.userId deleteExisting broken
    (if auth.multiSessions then []
      else m.checkExistingSessionSignals auth.userId deleteExisting broken) ++
      if checked.2 then checked.1.createNewSessionSignals auth.userId else []

/-- `OnCreateSessionAsync` from the answer of the create-session handler on. -/
def bindSessionSignals (c : Nat) (result : Option Nat) (broken : Nat → Bool) : List Signal :=
  match m.connections c with
  | none => []
  | some connection =>
    if connection.closed then
      match result with
      | none => []
      | some s => m.deleteSessionSignals s
    else
      m.sendSignals c broken

def onDeleteSessionSignals (c : Nat) : List Signal :=
  match m.served c with
  | none => []
  | some s => (m.detach c).deleteSessionSignals s

def stepSignals : Event → List Signal
  | .createSession c request broken =>
    if (m.connections c).isNone then []
    else if request.isCompatible then []
    else m.bindSessionSignals c none broken
  | .authenticated index result broken =>
    match m.logons[index]? with
    | none => []
    | some (c, request) =>
      let m' := { m with logons := m.logons.eraseIdx index }
      let created := m'.createSession request.deleteExisting result broken
      m'.createSessionSignals request.deleteExisting result broken ++
        created.1.bindSessionSignals c created.2 broken
  | .deleteSession c => m.onDeleteSessionSignals c
  | .close c => m.closeSignals c
  | .closeUserSessions userId broken => m.closeUserSessionsSignals userId broken
  | .accept | .message _ _ | .serviceDone _ | .release _ => []

def held (userId : NodeId) : Nat :=
  if (m.sessionMap userId).isSome then 1 else 0

end SessionManager

/-! ## The manager with an observer -/

/-- The manager and all it has signalled so far. -/
structure Observed where
  manager : SessionManager := {}
  signals : List Signal := []

variable (o : Observed)

namespace Observed

def opened (userId : NodeId) : Nat := o.signals.countP (·.isOpenedBy userId)

def closed (userId : NodeId) : Nat := o.signals.countP (·.isClosedBy userId)

def step (e : SessionManager.Event) : Observed :=
  { manager := o.manager.step e, signals := o.signals ++ o.manager.stepSignals e }

def system : Lts.System Observed (SessionManager.Event) := ⟨{}, step⟩

/-- For every user the signals add up to the sessions held. -/
def Balanced : Prop :=
  ∀ userId, (o.opened userId : Int) - o.closed userId = o.manager.held userId

end Observed

namespace SessionManager

/-! ## Operations that balance -/

def Accounts (m : SessionManager) (signals : List Signal) (m' : SessionManager) : Prop :=
  ∀ userId, signals.countP (·.isOpenedBy userId) + m.held userId =
    signals.countP (·.isClosedBy userId) + m'.held userId

namespace Accounts

variable {m m' m'' : SessionManager}

theorem of_sameMap (h : m'.sessionMap = m.sessionMap) : Accounts m [] m' := by
  intro userId
  rw [held, held, h]
  rfl

theorem trans {signals signals' : List Signal} (h : Accounts m signals m')
    (h' : Accounts m' signals' m'') : Accounts m (signals ++ signals') m'' := by
  intro userId
  have hfirst := h userId
  have hsecond := h' userId
  simp only [List.countP_append]
  omega

theorem congr {signals : List Signal} {n n' : SessionManager} (h : Accounts m signals m')
    (hbefore : n.sessionMap = m.sessionMap) (hafter : n'.sessionMap = m'.sessionMap) :
    Accounts n signals n' := by
  intro userId
  rw [held, held, hbefore, hafter]
  exact h userId

end Accounts

section

variable (m : SessionManager)

theorem accounts_deleteSession (s : Nat) :
    Accounts m (m.deleteSessionSignals s) (m.deleteSession s) := by
  unfold deleteSessionSignals deleteSession
  cases hs : m.sessions s with
  | none => exact .of_sameMap rfl
  | some stub =>
    by_cases hmap : m.sessionMap stub.userId = some s
    · simp only [hmap, if_true]
      intro userId
      by_cases hu : userId = stub.userId
      · subst hu
        simp [held, sessionMap_releaseSession, hmap, Signal.isOpenedBy, Signal.isClosedBy]
      · simp [held, sessionMap_releaseSession, Signal.isOpenedBy, Signal.isClosedBy, hu,
          Ne.symm hu]
    · simp only [hmap, if_false]
      exact .of_sameMap rfl

theorem accounts_close (c : Nat) : Accounts m (m.closeSignals c) (m.close c) := by
  unfold closeSignals close
  split
  · have hmap := (detach_books (m.modifyConnection c ({ · with closed := true })) c).1
    cases m.served c with
    | none => exact .of_sameMap hmap
    | some s => exact (accounts_deleteSession _ s).congr hmap.symm rfl
  · exact .of_sameMap rfl

theorem accounts_send (c : Nat) (broken : Nat → Bool) :
    Accounts m (m.sendSignals c broken) (m.send c broken) := by
  unfold sendSignals send
  split
  · exact accounts_close m c
  · exact .of_sameMap rfl

theorem accounts_logOff (s : Nat) (broken : Nat → Bool) :
    Accounts m (m.logOffSignals s broken) (m.logOff s broken) := by
  unfold logOffSignals logOff
  cases m.attachedTo s with
  | none => exact accounts_deleteSession m s
  | some c => exact (accounts_send m c broken).trans (accounts_deleteSession _ s)

theorem accounts_closeUserSessions (userId : NodeId) (broken : Nat → Bool) :
    Accounts m (m.closeUserSessionsSignals userId broken) (m.closeUserSessions userId broken) := by
  unfold closeUserSessionsSignals closeUserSessions
  cases m.sessionMap userId with
  | none => exact .of_sameMap rfl
  | some s => exact accounts_logOff m s broken

theorem accounts_bindSession (c : Nat) (result : Option Nat) (broken : Nat → Bool) :
    Accounts m (m.bindSessionSignals c result broken) (m.bindSession c result broken) := by
  unfold bindSessionSignals bindSession
  cases m.connections c with
  | none => exact .of_sameMap rfl
  | some connection =>
    by_cases hclosed : connection.closed = true
    · simp only [hclosed, if_true]
      cases result with
      | none => exact .of_sameMap rfl
      | some s => exact accounts_deleteSession m s
    · simp only [hclosed, Bool.false_eq_true, if_false]
      refine (accounts_send m c broken).congr rfl ?_
      cases result <;> rfl

theorem accounts_onDeleteSession (c : Nat) :
    Accounts m (m.onDeleteSessionSignals c) (m.onDeleteSession c) := by
  unfold onDeleteSessionSignals onDeleteSession
  cases m.served c with
  | none => exact .of_sameMap rfl
  | some s => exact (accounts_deleteSession _ s).congr (detach_books m c).1.symm rfl

/-! ## Logons -/

theorem sessionMap_createNewSession (userId : NodeId) :
    (m.createNewSession userId).1.sessionMap =
      Function.update m.sessionMap userId (some m.nextSession) := by
  unfold createNewSession
  cases m.sessionMap userId with
  | none => rfl
  | some old => exact sessionMap_releaseSession _ old

end

variable {m : SessionManager}

theorem accounts_createNewSession {userId : NodeId} (hnone : m.sessionMap userId = none) :
    Accounts m (m.createNewSessionSignals userId) (m.createNewSession userId).1 := by
  intro userId'
  rw [held, held, sessionMap_createNewSession]
  by_cases hu : userId' = userId
  · subst hu
    simp [createNewSessionSignals, Signal.isOpenedBy, Signal.isClosedBy, hnone]
  · simp [createNewSessionSignals, Signal.isOpenedBy, Signal.isClosedBy, hu, Ne.symm hu]

theorem stepSignals_authenticated {index c : Nat}
    {request : CreateSession} (hlogon : m.logons[index]? = some (c, request))
    (result : Option AuthenticationResult) (broken : Nat → Bool) :
    m.stepSignals (.authenticated index result broken) =
      (m.takeLogon index).createSessionSignals request.deleteExisting result broken ++
        ((m.takeLogon index).createSession request.deleteExisting result
          broken).1.bindSessionSignals c
          ((m.takeLogon index).createSession request.deleteExisting result broken).2 broken := by
  simp only [stepSignals, hlogon]
  rfl

/-- The answer of the authenticator makes a logon assign a session over another. -/
def Overwrites (m : SessionManager) (result : Option AuthenticationResult) : Prop :=
  ∃ auth, result = some auth ∧ auth.multiSessions = true ∧ (m.sessionMap auth.userId).isSome

theorem accounts_createSession (hb : m.Base) (deleteExisting : Bool)
    {result : Option AuthenticationResult} (hkept : ¬ m.Overwrites result) (broken : Nat → Bool) :
    Accounts m (m.createSessionSignals deleteExisting result broken)
      (m.createSession deleteExisting result broken).1 := by
  unfold createSessionSignals createSession
  cases result with
  | none => exact .of_sameMap rfl
  | some auth =>
    cases hmulti : auth.multiSessions with
    | true =>
      have hnone : m.sessionMap auth.userId = none := by
        by_contra hsome
        exact hkept ⟨auth, rfl, hmulti, Option.isSome_iff_ne_none.mpr hsome⟩
      simpa [hmulti] using accounts_createNewSession hnone
    | false =>
      -- the check has logged the session of the user off before the new one is created
      unfold checkExistingSessionSignals checkExistingSession
      cases hmap : m.sessionMap auth.userId with
      | none => simpa [hmulti, hmap] using accounts_createNewSession hmap
      | some s =>
        by_cases hrefused : ((m.attachedTo s).isSome && !deleteExisting) = true
        · simp only [hmulti, hmap, hrefused, Bool.false_eq_true, if_false, if_true,
            List.append_nil]
          exact .of_sameMap rfl
        · simp only [hmulti, hmap, hrefused, Bool.false_eq_true, if_false, if_true]
          exact (accounts_logOff m s broken).trans
            (accounts_createNewSession (hb.sessionMap_logOff hmap broken))

/-- Assigning a session over another, the manager signals one session more than
it holds. -/
theorem excess_createSession {auth : AuthenticationResult} (hmulti : auth.multiSessions = true)
    (hheld : (m.sessionMap auth.userId).isSome) (deleteExisting : Bool) (broken : Nat → Bool) :
    (m.createSessionSignals deleteExisting (some auth) broken).countP
        (·.isOpenedBy auth.userId) + m.held auth.userId =
      (m.createSessionSignals deleteExisting (some auth) broken).countP
        (·.isClosedBy auth.userId) +
        (m.createSession deleteExisting (some auth) broken).1.held auth.userId + 1 := by
  have hcreated : (m.createSession deleteExisting (some auth) broken).1 =
      (m.createNewSession auth.userId).1 := by
    simp [createSession, hmulti]
  have hsignals : m.createSessionSignals deleteExisting (some auth) broken =
      [.opened auth.userId m.nextSession] := by
    simp [createSessionSignals, hmulti, createNewSessionSignals]
  rw [hcreated, hsignals, held, held, sessionMap_createNewSession]
  simp [hheld, Signal.isOpenedBy, Signal.isClosedBy]

end SessionManager

/-! ## Bookkeeping over runs -/

namespace Observed

/-- No logon of a user with many sessions is completed while the map holds a
session of the user. -/
def NoOverwrite : SessionManager.Event → Prop
  | .authenticated index result _ =>
    (o.manager.logons[index]?).isSome → ¬ o.manager.Overwrites result
  | _ => True

theorem Balanced.append {o : Observed} (h : o.Balanced) {signals : List Signal}
    {m : SessionManager} (haccounts : Accounts o.manager signals m) :
    Balanced { manager := m, signals := o.signals ++ signals } := by
  intro userId
  have hbefore := h userId
  have hstep := haccounts userId
  simp only [opened, closed, List.countP_append] at hbefore ⊢
  push_cast
  omega

/-- The step lemma: but for a logon over another session every step balances. -/
theorem accounts_step {m : SessionManager} (hb : m.Base) (e : SessionManager.Event)
    (hkept : NoOverwrite { manager := m } e) :
    Accounts m (m.stepSignals e) (m.step e) := by
  cases e with
  | accept => exact .of_sameMap rfl
  | createSession c request broken =>
    simp only [stepSignals, SessionManager.step]
    split
    · exact .of_sameMap rfl
    · split
      · exact .of_sameMap rfl
      · exact accounts_bindSession m c none broken
  | authenticated index result broken =>
    cases hlogon : m.logons[index]? with
    | none =>
      simp only [stepSignals, SessionManager.step, hlogon]
      exact .of_sameMap rfl
    | some logon =>
      rw [stepSignals_authenticated hlogon, step_authenticated hlogon]
      have hcreate := accounts_createSession (hb.takeLogon index)
        logon.2.deleteExisting (hkept (by rw [hlogon]; rfl)) broken
      exact (hcreate.trans (accounts_bindSession _ logon.1 _ broken)).congr
        rfl rfl
  | deleteSession c => exact accounts_onDeleteSession m c
  | message c requests =>
    exact .of_sameMap (onMessage_samePointers m c requests).sessionMap
  | serviceDone index =>
    simp only [stepSignals, SessionManager.step]
    split
    · exact .of_sameMap rfl
    · exact .of_sameMap (sessionMap_releaseSession _ _)
  | close c => exact accounts_close m c
  | release c =>
    simp only [stepSignals, SessionManager.step]
    split
    · exact .of_sameMap rfl
    · exact .of_sameMap (detach_books m c).1
  | closeUserSessions userId broken =>
    exact accounts_closeUserSessions m userId broken

/-- A logon over another session leaves the signals one session ahead. -/
theorem not_balanced_of_overwrite {o : Observed} (h : o.Balanced) {index : Nat}
    {logon : Nat × CreateSession} (hlogon : o.manager.logons[index]? = some logon)
    {auth : AuthenticationResult} (hmulti : auth.multiSessions = true)
    (hheld : (o.manager.sessionMap auth.userId).isSome) (broken : Nat → Bool) :
    ¬ (o.step (.authenticated index (some auth) broken)).Balanced := by
  intro hafter
  have hbefore := h auth.userId
  have hbalance := hafter auth.userId
  have hcreate := excess_createSession (m := o.manager.takeLogon index) hmulti
    hheld logon.2.deleteExisting broken
  have hbind := accounts_bindSession
    ((o.manager.takeLogon index).createSession logon.2.deleteExisting (some auth) broken).1
    logon.1
    ((o.manager.takeLogon index).createSession logon.2.deleteExisting (some auth) broken).2
    broken auth.userId
  have hsame : (o.manager.takeLogon index).held auth.userId = o.manager.held auth.userId := rfl
  simp only [step, opened, closed, stepSignals_authenticated hlogon,
    step_authenticated hlogon, List.countP_append] at hbefore hbalance
  push_cast at hbalance
  omega

theorem always_balanced_iff (es : List (SessionManager.Event)) :
    system.Always Balanced es ↔ system.Meets NoOverwrite es := by
  have hinit : Balanced (system).init := fun userId => rfl
  refine system.always_iff_meets (fun o => o.manager.Base ∧ o.Balanced) Balanced NoOverwrite
    ⟨base_run [], hinit⟩ (fun o h => h.2) ?_ ?_ es
  · rintro o e ⟨hb, h⟩ hkept
    refine ⟨hb.step e, h.append (accounts_step hb e ?_)⟩
    cases e <;> exact hkept
  · rintro o e ⟨hb, h⟩ hoverwrites
    cases e with
    | authenticated index result broken =>
      simp only [NoOverwrite, not_forall, not_not] at hoverwrites
      obtain ⟨hlogon, auth, rfl, hmulti, hheld⟩ := hoverwrites
      obtain ⟨logon, hlogon⟩ := Option.isSome_iff_exists.mp hlogon
      exact not_balanced_of_overwrite h hlogon hmulti hheld broken
    | _ => exact absurd trivial hoverwrites

end Observed

/-! ## Sessions on other connections -/

namespace SessionManager

/-- Session `s` is on connection `c'` before and after, and the connection
serves what it served. -/
structure Kept (m m' : SessionManager) (s c' : Nat) : Prop where
  owner : m'.owner s = m.owner s
  attached : m'.attachedTo s = some c'
  served : m'.served c' = m.served c'
  isOpen : m'.isOpen c' = m.isOpen c'

/-- A logon on connection `c` leaves every session of the user on another open
connection as it is. -/
def KeepsOthers (m : SessionManager) (c : Nat) (userId : NodeId) (m' : SessionManager) : Prop :=
  ∀ s c', c' ≠ c → m.isOpen c' = true → m.owner s = some userId → m.attachedTo s = some c' →
    Kept m m' s c'

/-- The session of the user in the map is not one that the logon destroys on
another connection: it is kept alive by a service call, or it is not on an open
connection, or on the one that logs on. -/
def NotDisplaced (m : SessionManager) (c : Nat) (userId : NodeId) : Prop :=
  ∀ old c', m.sessionMap userId = some old → m.isBusy old = false →
    m.attachedTo old = some c' → m.isOpen c' = true → c' = c

variable {m : SessionManager} {c : Nat}

theorem Kept.trans {m' m'' : SessionManager} {s c' : Nat} (h : Kept m m' s c')
    (h' : Kept m' m'' s c') : Kept m m'' s c' :=
  ⟨h'.owner.trans h.owner, h'.attached, h'.served.trans h.served, h'.isOpen.trans h.isOpen⟩

theorem bindSession_frame {s new : Nat} (hs : s ≠ new) (hserved : m.served c ≠ some s)
    (broken : Nat → Bool) :
    (m.bindSession c (some new) broken).attachedTo s = m.attachedTo s ∧
      (m.bindSession c (some new) broken).owner s = m.owner s := by
  rcases m.bindSession_cases c (some new) broken with ⟨-, heq⟩ | ⟨-, heq | ⟨s', hs', heq⟩⟩
  · have hsend := send_frame m hserved broken
    rw [heq, ← hsend.1, ← hsend.2]
    simp [assignSession, setSession, modifyConnection, attachedTo,
      owner, setConnection, hs]
  · rw [heq]
    exact ⟨rfl, rfl⟩
  · -- the connection is gone: the new session is deleted again
    cases hs'
    rw [heq]
    exact deleteSession_frame m hs

theorem bindSession_frame_connection {new c' : Nat} (hc : c' ≠ c) (hfree : m.attachedTo new = none)
    (broken : Nat → Bool) :
    (m.bindSession c (some new) broken).served c' = m.served c' ∧
      (m.bindSession c (some new) broken).isOpen c' = m.isOpen c' := by
  rcases m.bindSession_cases c (some new) broken with ⟨-, heq⟩ | ⟨-, heq | ⟨s', hs', heq⟩⟩
  · have hsend := send_frame_connection m hc broken
    rw [heq, ← hsend.1, ← hsend.2]
    simp [assignSession, setSession, modifyConnection, served,
      isOpen, setConnection, hc]
  · rw [heq]
    exact ⟨rfl, rfl⟩
  · cases hs'
    rw [heq]
    exact ⟨congrFun (served_deleteSession_of_free hfree) c',
      congrFun (isOpen_deleteSession m new) c'⟩

theorem kept_insertSession (hb : m.Base) {s c' : Nat} (hattached : m.attachedTo s = some c')
    (userId : NodeId) : Kept m (m.insertSession userId) s c' := by
  have hne : s ≠ m.nextSession := by
    rintro rfl
    rw [attachedTo_eq_none_of_owner (hb.session_fresh _ (Nat.le_refl _))] at hattached
    cases hattached
  refine ⟨?_, ?_, rfl, rfl⟩
  · rw [owner_insertSession, Function.update_of_ne hne]
  · rw [attachedTo_insertSession hb]
    exact hattached

/-- Creating a session keeps what is on another connection, if it displaces no
session there. -/
theorem NotDisplaced.kept_createNewSession {userId : NodeId} (h : m.NotDisplaced c userId)
    (hb : m.Base) {s c' : Nat} (hne : c' ≠ c) (hopen : m.isOpen c' = true)
    (hattached : m.attachedTo s = some c') : Kept m (m.createNewSession userId).1 s c' := by
  have hinsert := kept_insertSession hb hattached userId
  cases hmap : m.sessionMap userId with
  | none => simpa only [createNewSession, hmap] using hinsert
  | some old =>
    rw [createNewSession_of_held hb hmap]
    cases hbusy : m.isBusy old with
    | true => simpa using hinsert
    | false =>
      have helsewhere : m.attachedTo old ≠ some c' :=
        fun hold => hne (h old c' hmap hbusy hold hopen)
      have hs : s ≠ old := by
        rintro rfl
        exact helsewhere hattached
      simp only [Bool.false_eq_true, if_false]
      refine hinsert.trans ⟨by simp [hs], by simp [hs, hinsert.attached], ?_, by simp⟩
      -- only the connection of the destroyed session forgets what it served
      have hold : (m.insertSession userId).attachedTo old = m.attachedTo old :=
        congrFun (attachedTo_insertSession hb userId) old
      cases hc₀ : m.attachedTo old with
      | none => rw [served_destroy_of_detached _ old (hold.trans hc₀)]
      | some c₀ =>
        have hcc : c' ≠ c₀ := by
          rintro rfl
          exact helsewhere hc₀
        rw [served_destroy_of_attached _ old (hold.trans hc₀), Function.update_of_ne hcc]

/-- A logon of a user with many sessions creates and binds a session. -/
theorem step_authenticated_multi {index : Nat} {request : CreateSession}
    (hlogon : m.logons[index]? = some (c, request)) {auth : AuthenticationResult}
    (hmulti : auth.multiSessions = true) (broken : Nat → Bool) :
    m.step (.authenticated index (some auth) broken) =
      ((m.takeLogon index).createNewSession auth.userId).1.bindSession c
        (some (m.takeLogon index).nextSession) broken := by
  rw [step_authenticated hlogon]
  simp [createSession, hmulti, createNewSession]

/-- **Other sessions of the user, exactly.** A logon of a user with many sessions
keeps what the user has on other connections if and only if it displaces no
session there. -/
theorem keepsOthers_authenticated_iff (hb : m.Base) {index : Nat} {request : CreateSession}
    (hlogon : m.logons[index]? = some (c, request)) {auth : AuthenticationResult}
    (hmulti : auth.multiSessions = true) (broken : Nat → Bool) :
    KeepsOthers m c auth.userId (m.step (.authenticated index (some auth) broken)) ↔
      m.NotDisplaced c auth.userId := by
  rw [step_authenticated_multi hlogon hmulti]
  -- all but the logons is as before
  have hbase := hb.takeLogon index
  have hbnew := hbase.createNewSession auth.userId
  obtain ⟨hnew, hfree⟩ := createNewSession_spec hbase auth.userId
  constructor
  · intro hkeeps old c' hmap hbusy hattached hopen
    by_contra hne
    -- the session in the map is destroyed, and does not come back
    have howner := (hkeeps old c' hne hopen (hb.mapped _ old hmap) hattached).owner
    have hgone : ((m.takeLogon index).createNewSession auth.userId).1.owner old = none := by
      have hbusy' : (m.takeLogon index).isBusy old = false := hbusy
      rw [createNewSession_of_held hbase hmap, hbusy']
      simp
    have hs : old ≠ (m.takeLogon index).nextSession := by
      rintro rfl
      rw [hnew] at hgone
      cases hgone
    have hserved : ((m.takeLogon index).createNewSession auth.userId).1.served c ≠ some old := by
      intro hserved
      have hback := hbnew.back c old hserved
      rw [attachedTo_eq_none_of_owner hgone] at hback
      cases hback
    rw [(bindSession_frame hs hserved broken).2, hgone, hb.mapped _ old hmap] at howner
    cases howner
  · intro hnot s c' hne hopen howner hattached
    have hnot' : (m.takeLogon index).NotDisplaced c auth.userId := hnot
    have hkept := hnot'.kept_createNewSession hbase hne hopen hattached
    have hs : s ≠ (m.takeLogon index).nextSession := by
      rintro rfl
      rw [hkept.attached] at hfree
      cases hfree
    have hserved : ((m.takeLogon index).createNewSession auth.userId).1.served c ≠ some s := by
      intro hserved
      have hback := hbnew.back c s hserved
      rw [hkept.attached] at hback
      exact hne (Option.some.inj hback)
    obtain ⟨hattached', howner'⟩ := bindSession_frame hs hserved broken
    obtain ⟨hserved', hopen'⟩ := bindSession_frame_connection hne hfree broken
    exact ⟨howner'.trans hkept.owner, hattached'.trans hkept.attached,
      hserved'.trans hkept.served, hopen'.trans hkept.isOpen⟩

end SessionManager

/-! ## The two halves together -/

namespace Observed

/-- The step is not a logon of a user with many sessions that destroys or
detaches a session of the user on another open connection. -/
def LogonKeeps : SessionManager.Event → Prop
  | .authenticated index (some auth) broken =>
    ∀ c request, o.manager.logons[index]? = some (c, request) → auth.multiSessions = true →
      o.manager.KeepsOthers c auth.userId
        (o.manager.step (.authenticated index (some auth) broken))
  | _ => True

/-- The step is not a logon of a user with many sessions whose session in the map
is on another open connection, with no service call to keep it alive. -/
def NoDisplacement : SessionManager.Event → Prop
  | .authenticated index (some auth) _ =>
    ∀ c request, o.manager.logons[index]? = some (c, request) → auth.multiSessions = true →
      o.manager.NotDisplaced c auth.userId
  | _ => True

theorem meets_logonKeeps_iff (es : List (SessionManager.Event)) :
    system.Meets LogonKeeps es ↔ system.Meets NoDisplacement es := by
  refine system.meets_congr (fun o => o.manager.Base) (base_run [])
    (fun o e hb => hb.step e) ?_ es
  intro o e hb
  cases e with
  | authenticated index result broken =>
    cases result with
    | none => exact Iff.rfl
    | some auth =>
      constructor
      · intro hkeeps c request hlogon hmulti
        exact (keepsOthers_authenticated_iff hb hlogon hmulti broken).mp
          (hkeeps c request hlogon hmulti)
      · intro hnot c request hlogon hmulti
        exact (keepsOthers_authenticated_iff hb hlogon hmulti broken).mpr
          (hnot c request hlogon hmulti)
  | _ => exact Iff.rfl

/-- **Bookkeeping of sessions.** In a run the signals add up, at every point and
for every user, to the sessions in the map if and only if no logon of a user
with many sessions finds a session of the user in the map; and no such logon
destroys or detaches a session of the user on another open connection if and only
if none finds one there that only the map keeps alive. -/
theorem bookkeeping_iff (es : List (SessionManager.Event)) :
    (system.Always Balanced es ↔ system.Meets NoOverwrite es) ∧
      (system.Meets LogonKeeps es ↔ system.Meets NoDisplacement es) :=
  ⟨always_balanced_iff es, meets_logonKeeps_iff es⟩

/-- One user, with many sessions allowed, logs on from two clients. -/
def twoClientsRun : List (SessionManager.Event) :=
  [.accept, .accept,
    .createSession 0 { versionMajor := 20 } fun _ => false,
    .authenticated 0 (some { userId := {}, multiSessions := true }) fun _ => false,
    .createSession 1 { versionMajor := 20 } fun _ => false,
    .authenticated 0 (some { userId := {}, multiSessions := true }) fun _ => false]

/-- Two sessions were opened, none closed and one is held; and the first client
is left without a session. -/
theorem twoClientsRun_unbalanced :
    ¬ system.Always Balanced twoClientsRun ∧ ¬ system.Meets LogonKeeps twoClientsRun := by
  constructor
  · intro halways
    have hbalance := halways twoClientsRun (List.prefix_refl _) {}
    revert hbalance
    decide
  · intro hmeets
    have hkeeps := hmeets (twoClientsRun.take 5) _ (List.prefix_refl twoClientsRun) 1
      { versionMajor := 20 } rfl rfl 0 0 (by decide) rfl rfl rfl
    have howner := hkeeps.owner
    revert howner
    decide

end Observed

end ScadaCore.Remote
