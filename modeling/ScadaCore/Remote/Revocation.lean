import ScadaCore.Remote.Pointers

/-!
# Remote.Revocation — what a logged-off session can still do

The server logs a session off by a forced logoff or because its user was
deleted. Either way it only drops the manager's reference to the session; the
connection of the session stays open, and stays bound to the session as long as
a service call in flight keeps the session alive. Nothing ever binds an old
session to a connection again.
-/

namespace ScadaCore.Remote

open Scada Function

namespace SessionManager

/-- Connection `c` is open and hands what arrives on it to session `s`. -/
def Reaches (m : SessionManager) (c s : Nat) : Prop :=
  m.isOpen c = true ∧ m.served c = some s

def dispatchedFor (m : SessionManager) (s : Nat) : List Output :=
  (m.dispatched.filter (·.1 == s)).map (·.2)

/-- Whatever happens next, nothing more is dispatched under session `s`. -/
def Revoked (m : SessionManager) (s : Nat) : Prop :=
  ∀ es, (system.runFrom m es).dispatchedFor s = m.dispatchedFor s

/-! ## Connections only ever turn to new sessions -/

/-- From `m` to `m'` a connection comes to reach only sessions numbered `n` or
above, and nothing is dispatched. -/
structure Narrows (n : Nat) (m m' : SessionManager) : Prop where
  reaches : ∀ c s, m'.Reaches c s → m.Reaches c s ∨ n ≤ s
  nextSession : m.nextSession ≤ m'.nextSession
  dispatched : m'.dispatched = m.dispatched

namespace Narrows

variable {n : Nat} {m m' m'' : SessionManager}

theorem refl (n : Nat) (m : SessionManager) : Narrows n m m :=
  ⟨fun _ _ h => Or.inl h, Nat.le_refl _, rfl⟩

theorem trans (h : Narrows n m m') (h' : Narrows n m' m'') : Narrows n m m'' := by
  refine ⟨?_, h.nextSession.trans h'.nextSession, h'.dispatched.trans h.dispatched⟩
  intro c s hreach
  rcases h'.reaches c s hreach with hmid | hnew
  · exact h.reaches c s hmid
  · exact Or.inr hnew

theorem of_views (hopen : ∀ c, m'.isOpen c = true → m.isOpen c = true)
    (hserved : ∀ c s, m'.served c = some s → m.served c = some s)
    (hnext : m'.nextSession = m.nextSession) (hdispatched : m'.dispatched = m.dispatched) :
    Narrows n m m' :=
  ⟨fun c s h => Or.inl ⟨hopen c h.1, hserved c s h.2⟩, hnext.ge, hdispatched⟩

end Narrows

section Operations

variable (n : Nat) (m : SessionManager)

theorem served_of_update_none {f : Nat → Option Nat} {c c' s : Nat}
    (h : update f c none c' = some s) : f c' = some s := by
  by_cases hc : c' = c
  · subst hc
    simp at h
  · rwa [update_of_ne hc] at h

theorem narrows_destroy (s : Nat) : Narrows n m (m.destroy s) := by
  refine .of_views (fun c h => by rwa [isOpen_destroy] at h) ?_ rfl rfl
  intro c s' h
  cases hs : m.attachedTo s with
  | none => rwa [served_destroy_of_detached m s hs] at h
  | some c₀ =>
    rw [served_destroy_of_attached m s hs] at h
    exact served_of_update_none h

theorem narrows_detach (c : Nat) : Narrows n m (m.detach c) := by
  have hbooks := detach_books m c
  refine .of_views (fun c' h => by rwa [isOpen_detach] at h) ?_ hbooks.2.1 ?_
  · intro c' s h
    rw [served_detach] at h
    exact served_of_update_none h
  · unfold detach
    split <;> rfl

variable {m} in
theorem Moves.narrows {m' : SessionManager} (h : Moves m m') : Narrows n m m' := by
  induction h with
  | refl => exact .refl n m
  | @tail m₁ _ _ hmove ih =>
    refine ih.trans ?_
    cases hmove with
    | unmap userId => exact .of_views (fun _ h => h) (fun _ _ h => h) rfl rfl
    | destroy s hmapped => exact narrows_destroy n m₁ s
    | shut c =>
      have hflag : Narrows n m₁ (m₁.modifyConnection c ({ · with closed := true })) := by
        refine .of_views ?_ (fun c' s h => by rwa [served_close_flag] at h) rfl rfl
        intro c' h
        rw [isOpen_close_flag] at h
        by_cases hc : c' = c
        · subst hc
          simp at h
        · rwa [update_of_ne hc] at h
      exact hflag.trans (narrows_detach n _ c)

theorem narrows_createNewSession (userId : NodeId) : Narrows n m (m.createNewSession userId).1 := by
  have hinsert : Narrows n m (m.insertSession userId) :=
    ⟨fun _ _ h => Or.inl h, Nat.le_succ _, rfl⟩
  unfold createNewSession
  cases m.sessionMap userId with
  | none => exact hinsert
  | some old => exact hinsert.trans ((releaseSession_moves _ old).narrows n)

/-- A logon returns a session that did not exist before. -/
theorem narrows_createSession (hn : n ≤ m.nextSession) (deleteExisting : Bool)
    (result : Option AuthenticationResult) (broken : Nat → Bool) :
    Narrows n m (m.createSession deleteExisting result broken).1 ∧
      ∀ s, (m.createSession deleteExisting result broken).2 = some s → n ≤ s := by
  cases result with
  | none => exact ⟨.refl n m, fun s hs => by cases hs⟩
  | some auth =>
    cases haccepts : m.accepts deleteExisting auth with
    | false =>
      rw [createSession_of_refused haccepts]
      exact ⟨.refl n m, fun s hs => by cases hs⟩
    | true =>
      have hdisplace := (displace_moves m auth broken).narrows n
      rw [createSession_of_accepted haccepts]
      refine ⟨hdisplace.trans (narrows_createNewSession n _ auth.userId), ?_⟩
      intro s hs
      cases hs
      exact hn.trans hdisplace.nextSession

theorem narrows_assignSession (c : Nat) {result : Option Nat}
    (hresult : ∀ s, result = some s → n ≤ s) : Narrows n m (m.assignSession c result) := by
  refine ⟨?_, by cases result <;> rfl, by cases result <;> rfl⟩
  rintro c' s ⟨hopen, hserved⟩
  rw [isOpen_assignSession] at hopen
  rcases served_of_assignSession hserved with ⟨-, hnew⟩ | ⟨-, hold⟩
  · -- the connection that the logon came on reaches the new session
    exact Or.inr (hresult s hnew)
  · exact Or.inl ⟨hopen, hold⟩

theorem narrows_bindSession (c : Nat) {result : Option Nat}
    (hresult : ∀ s, result = some s → n ≤ s) (broken : Nat → Bool) :
    Narrows n m (m.bindSession c result broken) := by
  rcases m.bindSession_cases c result broken with ⟨-, heq⟩ | ⟨-, heq | ⟨s, -, heq⟩⟩
  · rw [heq]
    exact ((send_moves m c broken).narrows n).trans (narrows_assignSession n _ c hresult)
  · rw [heq]
    exact .refl n m
  · rw [heq]
    exact (deleteSession_moves m s).narrows n

end Operations

/-! ## Dispatching -/

variable {m : SessionManager} {s : Nat} {userId : NodeId} {e : Event}

theorem dispatchedFor_processRequest {stub stub' : SessionStub Nat}
    (hs : m.sessions s = some stub) (request : Request × Bool) {outputs : List Output}
    (hprocess : stub.processRequest request.1 request.2 = some (stub', outputs)) :
    (m.processRequest s request).dispatchedFor s =
      m.dispatchedFor s ++ outputs.filter Output.isDispatch := by
  simp [dispatchedFor, processRequest, hs, hprocess, List.filter_map, comp_def]

theorem dispatchedFor_processRequest_of_ne (m : SessionManager) {s' : Nat} (hne : s' ≠ s)
    (request : Request × Bool) :
    (m.processRequest s' request).dispatchedFor s = m.dispatchedFor s := by
  unfold processRequest
  cases m.sessions s' with
  | none => rfl
  | some stub =>
    cases hprocess : stub.processRequest request.1 request.2 <;>
      simp [dispatchedFor, hprocess, List.filter_map, comp_def, hne]

theorem dispatchedFor_processRequests_of_ne (m : SessionManager) {s' : Nat} (hne : s' ≠ s)
    (requests : List (Request × Bool)) :
    (requests.foldl (fun m request => m.processRequest s' request) m).dispatchedFor s =
      m.dispatchedFor s := by
  induction requests generalizing m with
  | nil => rfl
  | cons request requests ih =>
    exact (ih _).trans (dispatchedFor_processRequest_of_ne m hne request)

theorem dispatchedFor_onMessage {c : Nat} (hcut : ¬ m.Reaches c s)
    (requests : List (Request × Bool)) :
    (m.onMessage c requests).dispatchedFor s = m.dispatchedFor s := by
  unfold onMessage
  by_cases hopen : m.isOpen c = true
  · rw [if_pos hopen]
    cases hserved : m.served c with
    | none => rfl
    | some s' =>
      have hne : s' ≠ s := by
        rintro rfl
        exact hcut ⟨hopen, hserved⟩
      exact dispatchedFor_processRequests_of_ne m hne requests
  · rw [if_neg hopen]

def monitorRequest (stub : SessionStub Nat) : Request :=
  { createSubscription := true
    createMonitoredItem :=
      some { subscriptionId := stub.nextSubscriptionId, readValueId := {} } }

theorem monitor_mem_processRequest (stub : SessionStub Nat) :
    ∃ stub' outputs, stub.processRequest (monitorRequest stub) true = some (stub', outputs) ∧
      Output.monitor {} ∈ outputs := by
  simp [SessionStub.processRequest, SessionStub.processSubscriptions, monitorRequest,
    SessionStub.onCreateSubscription, SessionStub.onCreateMonitoredItem,
    SubscriptionStub.onCreateMonitoredItem, AttributeId.isNamed, SessionStub.onWrite,
    SessionStub.onCall, SessionStub.spawnIf, SessionStub.nodeManagementStub,
    SessionStub.historyStub, SessionStub.onHistoryReadRaw, SessionStub.onHistoryReadEvents]

/-! ## Revocation is a matter of reachability -/

/-- The session exists, or did, and no open connection reaches it. -/
def Unreachable (m : SessionManager) (s : Nat) : Prop :=
  s < m.nextSession ∧ ∀ c, ¬ m.Reaches c s

theorem Unreachable.of_narrows {m' : SessionManager} (h : m.Unreachable s)
    (hnarrows : Narrows m.nextSession m m') :
    m'.Unreachable s ∧ m'.dispatchedFor s = m.dispatchedFor s := by
  refine ⟨⟨Nat.lt_of_lt_of_le h.1 hnarrows.nextSession, ?_⟩, ?_⟩
  · intro c hreach
    rcases hnarrows.reaches c s hreach with hold | hnew
    · exact h.2 c hold
    · exact absurd h.1 (Nat.not_lt.mpr hnew)
  · rw [dispatchedFor, dispatchedFor, hnarrows.dispatched]

theorem narrows_step (m : SessionManager) (e : Event)
    (hmessage : ∀ c requests, e ≠ .message c requests) :
    Narrows m.nextSession m (m.step e) := by
  cases e with
  | accept =>
    refine ⟨?_, Nat.le_refl _, rfl⟩
    rintro c s ⟨hopen, hserved⟩
    by_cases hc : c = m.nextConnection
    · simp [served, step, hc] at hserved
    · left
      simpa [Reaches, isOpen, served, step, hc] using And.intro hopen hserved
  | createSession c request broken =>
    simp only [step]
    split
    · exact .refl _ m
    · split
      · exact .of_views (fun _ h => h) (fun _ _ h => h) rfl rfl
      · exact narrows_bindSession _ m c (fun s hs => by cases hs) broken
  | authenticated index result broken =>
    simp only [step]
    split
    · exact .refl _ m
    · rename_i c request _
      have herased : Narrows m.nextSession m (m.takeLogon index) :=
        .of_views (fun _ h => h) (fun _ _ h => h) rfl rfl
      obtain ⟨hcreate, hfresh⟩ := narrows_createSession m.nextSession (m.takeLogon index)
        (Nat.le_refl _) request.deleteExisting result broken
      exact (herased.trans hcreate).trans (narrows_bindSession _ _ c hfresh broken)
  | deleteSession c =>
    simp only [step, onDeleteSession]
    split
    · exact .refl _ m
    · exact (narrows_detach _ m c).trans ((deleteSession_moves _ _).narrows _)
  | message c requests => exact absurd rfl (hmessage c requests)
  | serviceDone index =>
    simp only [step]
    split
    · exact .refl _ m
    · have herased : Narrows m.nextSession m
          { m with inFlight := m.inFlight.eraseIdx index } :=
        .of_views (fun _ h => h) (fun _ _ h => h) rfl rfl
      exact herased.trans ((releaseSession_moves _ _).narrows _)
  | close c => exact (close_moves m c).narrows _
  | release c =>
    simp only [step]
    split
    · exact .refl _ m
    · refine (narrows_detach _ m c).trans (.of_views ?_ ?_ rfl rfl)
      · intro c' hopen
        by_cases hc : c' = c
        · simp [isOpen, hc] at hopen
        · simpa [isOpen, hc] using hopen
      · intro c' s hserved
        by_cases hc : c' = c
        · simp [served, hc] at hserved
        · simpa [served, hc] using hserved
  | closeUserSessions userId broken => exact (closeUserSessions_moves m broken userId).narrows _

theorem Unreachable.step (h : m.Unreachable s) (e : Event) :
    (m.step e).Unreachable s ∧ (m.step e).dispatchedFor s = m.dispatchedFor s := by
  by_cases hmessage : ∀ c requests, e ≠ .message c requests
  · exact h.of_narrows (narrows_step m e hmessage)
  · push Not at hmessage
    obtain ⟨c, requests, rfl⟩ := hmessage
    have hsame := onMessage_samePointers m c requests
    refine ⟨⟨?_, ?_⟩, dispatchedFor_onMessage (h.2 c) requests⟩
    · exact hsame.nextSession.symm ▸ h.1
    · intro c' hreach
      refine h.2 c' ⟨?_, ?_⟩
      · rw [← hsame.isOpen]
        exact hreach.1
      · rw [← hsame.served]
        exact hreach.2

theorem revoked_iff (hb : m.Base) (hs : s < m.nextSession) :
    m.Revoked s ↔ ∀ c, ¬ m.Reaches c s := by
  constructor
  · rintro hrevoked c ⟨hopen, hserved⟩
    -- the connection takes a message that opens a monitored item
    have hattached : m.attachedTo s = some c := hb.back c s hserved
    obtain ⟨stub, hstub, -⟩ := Option.bind_eq_some_iff.mp hattached
    obtain ⟨stub', outputs, hprocess, hmonitor⟩ := monitor_mem_processRequest stub
    have hsame := hrevoked [.message c [(monitorRequest stub, true)]]
    have hstep : (m.onMessage c [(monitorRequest stub, true)]).dispatchedFor s =
        m.dispatchedFor s ++ outputs.filter Output.isDispatch := by
      rw [← dispatchedFor_processRequest hstub (monitorRequest stub, true) hprocess]
      simp [onMessage, hopen, hserved]
    have hnil := List.append_right_eq_self.mp (hstep.symm.trans hsame)
    exact List.filter_eq_nil_iff.mp hnil _ hmonitor rfl
  · intro hcut es
    have hinv := system.runFrom_invariant
      (fun m' : SessionManager => m'.Unreachable s ∧ m'.dispatchedFor s = m.dispatchedFor s)
      (fun m' e h => ⟨(h.1.step e).1, (h.1.step e).2.trans h.2⟩) ⟨⟨hs, hcut⟩, rfl⟩ es
    exact hinv.2

/-! ## The step that logs a session off -/

/-- The step logs session `s` off: its user was deleted, or another logon of
the user forces it off (`CheckExistingSession` with `delete_existing`, for a
session that is attached to a connection). -/
def LogsOff (m : SessionManager) : Event → Nat → Prop
  | .closeUserSessions userId _, s => m.sessionMap userId = some s
  | .authenticated index (some auth) _, s =>
    ∃ c request, m.logons[index]? = some (c, request) ∧ request.deleteExisting = true ∧
      auth.multiSessions = false ∧ m.sessionMap auth.userId = some s ∧
      (m.attachedTo s).isSome = true
  | _, _ => False

/-- The step itself cuts connection `c` off: the notification cannot be written
to it, or it is the connection on which the other logon came, which is then
bound to the new session. -/
def CutsOff (m : SessionManager) : Event → Nat → Prop
  | .closeUserSessions _ broken, c => broken c = true
  | .authenticated index _ broken, c =>
    broken c = true ∨ ∃ request, m.logons[index]? = some (c, request)
  | _, _ => False

theorem owner_deleteSession (hb : m.Base) (hmap : m.sessionMap userId = some s)
    (hidle : m.isBusy s = false) : (m.deleteSession s).owner s = none := by
  obtain ⟨stub, hstub, huser⟩ := Option.map_eq_some_iff.mp (hb.mapped userId s hmap)
  subst huser
  have hfree : (isBusy { m with sessionMap := update m.sessionMap stub.userId none } s ||
      isMapped { m with sessionMap := update m.sessionMap stub.userId none } s) =
      false := by
    have hbusy : isBusy { m with sessionMap := update m.sessionMap stub.userId none } s =
        false := hidle
    simp [hbusy, isMapped, hstub]
  simp [deleteSession, hstub, hmap, releaseSession, hfree]

theorem deleteSession_of_busy (hbusy : m.isBusy s = true) :
    (m.deleteSession s).served = m.served ∧ (m.deleteSession s).isOpen = m.isOpen := by
  refine ⟨?_, isOpen_deleteSession m s⟩
  unfold deleteSession
  split
  · rfl
  · rename_i stub _
    have hstill : isBusy { m with sessionMap := update m.sessionMap stub.userId none } s =
        true := hbusy
    split
    · simp only [releaseSession, hstill, Bool.true_or, if_true]
      rfl
    · rfl

theorem reaches_logOff_iff (hb : m.Base) (hmap : m.sessionMap userId = some s) (broken : Nat → Bool)
    (c : Nat) :
    (m.logOff s broken).Reaches c s ↔
      m.Reaches c s ∧ m.isBusy s = true ∧ broken c = false := by
  constructor
  · intro hreach
    have hold : m.Reaches c s := by
      rcases ((logOff_moves m s broken).narrows m.nextSession).reaches c s hreach with hold | hnew
      · exact hold
      · exact absurd (hb.session_lt hmap) (Nat.not_lt.mpr hnew)
    have hattached : m.attachedTo s = some c := hb.back c s hold.2
    have hlogOff : m.logOff s broken = (m.send c broken).deleteSession s := by
      simp [logOff, hattached]
    have hunbroken : broken c = false := by
      by_contra hne
      have hbroken : broken c = true := by simpa using hne
      have hopen := hreach.1
      rw [hlogOff, isOpen_deleteSession] at hopen
      simp [send, hbroken, isOpen_close] at hopen
    refine ⟨hold, ?_, hunbroken⟩
    by_contra hidle
    have hsend : m.send c broken = m := by simp [send, hunbroken]
    have hgone := owner_deleteSession hb hmap (by simpa using hidle)
    have hback := (hb.moves (logOff_moves m s broken)).back c s hreach.2
    rw [hlogOff, hsend, attachedTo_eq_none_of_owner hgone] at hback
    cases hback
  · rintro ⟨hold, hbusy, hunbroken⟩
    have hattached : m.attachedTo s = some c := hb.back c s hold.2
    have hlogOff : m.logOff s broken = m.deleteSession s := by
      simp [logOff, hattached, send, hunbroken]
    obtain ⟨hserved, hopen⟩ := deleteSession_of_busy hbusy
    rw [hlogOff, Reaches, hserved, hopen]
    exact hold

/-- Binding a new session takes away from the other ones no connection but the
one that is bound. -/
theorem reaches_bindSession_iff {new : Nat} (hne : new ≠ s) (hfree : m.attachedTo new = none)
    (c c' : Nat) (broken : Nat → Bool) :
    (m.bindSession c (some new) broken).Reaches c' s ↔ m.Reaches c' s ∧ c' ≠ c := by
  rcases m.bindSession_cases c (some new) broken with ⟨hopen, heq⟩ | ⟨hclosed, heq⟩
  · have hhas : (m.send c broken).hasConnection c = true := by
      rw [(send_moves m c broken).hasConnection]
      exact hasConnection_of_isOpen hopen
    rw [heq, Reaches, isOpen_assignSession, served_assignSession hhas]
    by_cases hcc : c' = c
    · subst hcc
      simp [hne]
    · have hsend := send_frame_connection m hcc broken
      rw [update_of_ne hcc, hsend.1, hsend.2]
      simp [Reaches, hcc]
  · -- the connection has been closed: it reaches nothing, and stays bound to nothing
    have hsame : (m.bindSession c (some new) broken).Reaches c' s ↔ m.Reaches c' s := by
      rcases heq with heq | ⟨s', hs', heq⟩
      · rw [heq]
      · cases hs'
        rw [heq, Reaches, isOpen_deleteSession, served_deleteSession_of_free hfree, Reaches]
    rw [hsame]
    refine ⟨fun h => ⟨h, ?_⟩, fun h => h.1⟩
    rintro rfl
    rw [Reaches, hclosed] at h
    cases h.1

/-- **The logoff.** A connection reaches the session after the step that logs
it off if and only if it did before, a service call of the session is in
flight, and the step does not cut the connection off. -/
theorem reaches_step_iff (hb : m.Base) (hlogsOff : m.LogsOff e s) (c : Nat) :
    (m.step e).Reaches c s ↔ m.Reaches c s ∧ m.isBusy s = true ∧ ¬ m.CutsOff e c := by
  cases e with
  | closeUserSessions userId broken =>
    have hmap : m.sessionMap userId = some s := hlogsOff
    have hstep : m.step (.closeUserSessions userId broken) = m.logOff s broken := by
      simp [step, closeUserSessions, hmap]
    rw [hstep, reaches_logOff_iff hb hmap]
    simp [CutsOff]
  | authenticated index result broken =>
    cases result with
    | none => exact hlogsOff.elim
    | some auth =>
      obtain ⟨c₀, request, hlogon, hdelete, hmulti, hmap, -⟩ := hlogsOff
      -- the logon leaves the list, logs the session off, and makes a new one
      let m₀ : SessionManager := m.takeLogon index
      have hb₀ : m₀.Base := hb.takeLogon index
      have hmap₀ : m₀.sessionMap auth.userId = some s := hmap
      have haccepts : m₀.accepts request.deleteExisting auth = true := by
        simp [accepts, hmap₀, hdelete]
      have hdisplace : m₀.displace auth broken = m₀.logOff s broken := by
        simp [displace, hmulti, closeUserSessions, hmap₀]
      have hb₁ : (m₀.logOff s broken).Base := hb₀.moves (logOff_moves m₀ s broken)
      have hcreated : (m₀.logOff s broken).createNewSession auth.userId =
          ((m₀.logOff s broken).insertSession auth.userId,
            (m₀.logOff s broken).nextSession) := by
        simp [createNewSession, hb₀.sessionMap_logOff hmap₀ broken]
      have hstep : m.step (.authenticated index (some auth) broken) =
          ((m₀.logOff s broken).insertSession auth.userId).bindSession c₀
            (some (m₀.logOff s broken).nextSession) broken := by
        rw [step_authenticated hlogon, createSession_of_accepted haccepts, hdisplace, hcreated]
      have hlt : s < (m₀.logOff s broken).nextSession :=
        Nat.lt_of_lt_of_le (hb₀.session_lt hmap₀)
          ((logOff_moves m₀ s broken).narrows m₀.nextSession).nextSession
      have hfree : ((m₀.logOff s broken).insertSession auth.userId).attachedTo
          (m₀.logOff s broken).nextSession = none := by
        rw [attachedTo_insertSession hb₁]
        exact attachedTo_eq_none_of_owner (hb₁.session_fresh _ (Nat.le_refl _))
      have hlogOff := reaches_logOff_iff hb₀ hmap₀ broken c
      rw [hstep, reaches_bindSession_iff (Nat.ne_of_gt hlt) hfree]
      show (m₀.logOff s broken).Reaches c s ∧ c ≠ c₀ ↔ _
      rw [hlogOff]
      simp only [CutsOff, hlogon, Option.some.injEq, Prod.mk.injEq, exists_eq_right',
        not_or, Bool.not_eq_true]
      show (m.Reaches c s ∧ m.isBusy s = true ∧ broken c = false) ∧ c ≠ c₀ ↔ _
      constructor
      · rintro ⟨⟨hold, hbusy, hunbroken⟩, hother⟩
        exact ⟨hold, hbusy, hunbroken, fun heq => hother heq.symm⟩
      · rintro ⟨hold, hbusy, hunbroken, hother⟩
        exact ⟨⟨hold, hbusy, hunbroken⟩, fun heq => hother heq.symm⟩
  | _ => exact hlogsOff.elim

/-! ## Every run -/

/-- Every session that the server logs off in the run is revoked from that step
on. -/
def LogoffsRevoke (es : List Event) : Prop :=
  ∀ pre e s, pre ++ [e] <+: es → (system.run pre).LogsOff e s →
    (system.run (pre ++ [e])).Revoked s

/-- The condition on a step that logs a session off: no service call of the
session is in flight, or the step cuts off every connection that reaches it. -/
def RevokesAtOnce (m : SessionManager) (e : Event) : Prop :=
  ∀ s, m.LogsOff e s → m.isBusy s = false ∨ ∀ c, m.Reaches c s → m.CutsOff e c

theorem LogsOff.session_lt (hb : m.Base) (h : m.LogsOff e s) : s < m.nextSession := by
  cases e with
  | closeUserSessions userId broken => exact hb.session_lt h
  | authenticated index result broken =>
    cases result with
    | none => exact h.elim
    | some auth =>
      obtain ⟨-, -, -, -, -, hmap, -⟩ := h
      exact hb.session_lt hmap
  | _ => exact h.elim

theorem nextSession_le_step (m : SessionManager) (e : Event) :
    m.nextSession ≤ (m.step e).nextSession := by
  by_cases hmessage : ∀ c requests, e ≠ .message c requests
  · exact (narrows_step m e hmessage).nextSession
  · push Not at hmessage
    obtain ⟨c, requests, rfl⟩ := hmessage
    exact (onMessage_samePointers m c requests).nextSession.ge

theorem revoked_step_iff (hb : m.Base) (h : m.LogsOff e s) :
    (m.step e).Revoked s ↔ m.isBusy s = false ∨ ∀ c, m.Reaches c s → m.CutsOff e c := by
  have hlt : s < (m.step e).nextSession :=
    Nat.lt_of_lt_of_le (h.session_lt hb) (nextSession_le_step m e)
  rw [revoked_iff (hb.step e) hlt]
  simp only [reaches_step_iff hb h]
  constructor
  · intro hcut
    by_cases hbusy : m.isBusy s = true
    · right
      intro c hreach
      by_contra hkept
      exact hcut c ⟨hreach, hbusy, hkept⟩
    · left
      simpa using hbusy
  · rintro (hidle | hall) c ⟨hreach, hbusy, hkept⟩
    · rw [hidle] at hbusy
      cases hbusy
    · exact hkept (hall c hreach)

/-- **Revocation.** In a run every session that the server logs off is revoked
from that step on, if and only if at every logoff no service call of the session
is in flight or the step itself cuts off the connection that reaches it. -/
theorem logoffsRevoke_iff (es : List Event) : LogoffsRevoke es ↔ system.Meets RevokesAtOnce es := by
  constructor
  · intro hrevoke pre e hpre s hlogsOff
    have hrevoked := hrevoke pre e s hpre hlogsOff
    rw [Lts.System.run_concat] at hrevoked
    exact (revoked_step_iff (base_run pre) hlogsOff).mp hrevoked
  · intro hmeets pre e s hpre hlogsOff
    rw [Lts.System.run_concat]
    exact (revoked_step_iff (base_run pre) hlogsOff).mpr (hmeets pre e hpre s hlogsOff)

/-- A client logs on and starts a read; before it is done the user is
deleted. -/
def deletedUserRun : List Event :=
  [.accept, .createSession 0 { versionMajor := 20 } fun _ => false,
    .authenticated 0 (some { userId := {} }) fun _ => false,
    .message 0 [({ requestId := 1, read := some [] }, false)],
    .closeUserSessions {} fun _ => false]

/-- The next read on the old connection is dispatched under the session that
was logged off. -/
theorem not_logoffsRevoke_deletedUserRun : ¬ LogoffsRevoke deletedUserRun := by
  intro hrevoke
  have hrevoked := hrevoke (deletedUserRun.take 4) (.closeUserSessions {} fun _ => false) 0
    (List.prefix_refl _) rfl
  have hsame := congrArg List.length
    (hrevoked [.message 0 [({ requestId := 2, read := some [] }, false)]])
  revert hsame
  decide

end SessionManager

end ScadaCore.Remote
