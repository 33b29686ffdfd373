import ScadaCore.Remote.SessionManager
import Mathlib.Logic.Relation

/-!
# Remote.Pointers — what each operation does to the two pointers

The operations of the session manager seen through `served`, `attachedTo` and
`isOpen`, and the invariant that holds in every reachable state: a connection
serves only sessions that are alive and attached to it. (The converse does not
hold in general, see `Remote.Symmetry`.)
-/

namespace ScadaCore.Remote

open Scada Function

namespace SessionManager

def owner (m : SessionManager) (s : Nat) : Option NodeId := (m.sessions s).map (·.userId)

def hasConnection (m : SessionManager) (c : Nat) : Bool := (m.connections c).isSome

/-! ## Views of the elementary operations -/

section Views

/-- What is read off a table that changes in one place. -/
theorem view_update {α β : Type*} (f : α → β) (g : Nat → α) {i : Nat} {a : α} {b : β} (h : f a = b) :
    (fun j => f (update g i a j)) = update (fun j => f (g j)) i b := by
  subst h
  exact comp_update f g i a

theorem view_update_same {α β : Type*} (f : α → β) (g : Nat → α) {i : Nat} {a : α}
    (h : f a = f (g i)) : (fun j => f (update g i a j)) = fun j => f (g j) :=
  (view_update f g h).trans (update_eq_self i _)

variable (m : SessionManager) (c s : Nat)

@[simp] theorem served_setSession_none : (m.setSession c none).served = update m.served c none :=
  view_update (·.bind (·.session)) m.connections (by simp [Option.bind_map])

theorem served_setSession_some (session : Nat) (hc : (m.connections c).isSome) :
    (m.setSession c (some session)).served = update m.served c (some session) := by
  obtain ⟨connection, hconnection⟩ := Option.isSome_iff_exists.mp hc
  refine view_update (·.bind (·.session)) m.connections ?_
  simp [hconnection]

@[simp] theorem attachedTo_setSession (session : Option Nat) :
    (m.setSession c session).attachedTo = m.attachedTo := rfl

@[simp] theorem isOpen_setSession (session : Option Nat) :
    (m.setSession c session).isOpen = m.isOpen :=
  view_update_same (·.any (!·.closed)) m.connections (by cases m.connections c <;> rfl)

@[simp] theorem attachedTo_setConnection_none :
    (m.setConnection s none).attachedTo = update m.attachedTo s none :=
  view_update (·.bind (·.connection)) m.sessions (by simp [Option.bind_map])

theorem attachedTo_setConnection_some (connection : Nat) (hs : (m.sessions s).isSome) :
    (m.setConnection s (some connection)).attachedTo =
      update m.attachedTo s (some connection) := by
  obtain ⟨stub, hstub⟩ := Option.isSome_iff_exists.mp hs
  refine view_update (·.bind (·.connection)) m.sessions ?_
  simp [hstub]

variable (connection : Option Nat)

@[simp] theorem served_setConnection : (m.setConnection s connection).served = m.served := rfl

@[simp] theorem isOpen_setConnection : (m.setConnection s connection).isOpen = m.isOpen := rfl

@[simp] theorem served_close_flag :
    (m.modifyConnection c ({ · with closed := true })).served = m.served :=
  view_update_same (·.bind (·.session)) m.connections (by simp [Option.bind_map])

variable (f : ServerConnection → ServerConnection)

@[simp] theorem attachedTo_modifyConnection :
    (m.modifyConnection c f).attachedTo = m.attachedTo := rfl

@[simp] theorem isOpen_close_flag :
    (m.modifyConnection c ({ · with closed := true })).isOpen =
      update m.isOpen c false :=
  view_update (·.any (!·.closed)) m.connections (by cases m.connections c <;> rfl)

@[simp] theorem isOpen_detach : (m.detach c).isOpen = m.isOpen := by
  unfold detach
  split <;> simp

@[simp] theorem served_detach : (m.detach c).served = update m.served c none := by
  unfold detach
  cases h : m.served c with
  | none => exact (update_eq_self_iff.mpr h.symm).symm
  | some s => simp

theorem attachedTo_detach {s : Nat} (h : m.served c = some s) :
    (m.detach c).attachedTo = update m.attachedTo s none := by
  simp [detach, h]

theorem detach_of_served_none (h : m.served c = none) : m.detach c = m := by
  simp [detach, h]

@[simp] theorem attachedTo_destroy : (m.destroy s).attachedTo = update m.attachedTo s none :=
  view_update (·.bind (·.connection)) m.sessions rfl

theorem served_destroy_of_attached {c : Nat} (h : m.attachedTo s = some c) :
    (m.destroy s).served = update m.served c none := by
  have hserved : (m.destroy s).served = (m.setSession c none).served := by
    funext c'
    simp [served, destroy, h]
  rw [hserved, served_setSession_none]

theorem served_destroy_of_detached (h : m.attachedTo s = none) :
    (m.destroy s).served = m.served := by
  funext c'
  simp [served, destroy, h]

@[simp] theorem isOpen_destroy : (m.destroy s).isOpen = m.isOpen := by
  funext c'
  cases h : m.attachedTo s with
  | none => simp [isOpen, destroy, h]
  | some c =>
    have hopen := congrFun (isOpen_setSession m c none) c'
    simpa [isOpen, destroy, h] using hopen

@[simp] theorem owner_modifyConnection : (m.modifyConnection c f).owner = m.owner := rfl

@[simp] theorem owner_setConnection : (m.setConnection s connection).owner = m.owner :=
  view_update_same (·.map (·.userId)) m.sessions (by simp [comp_def])

@[simp] theorem owner_detach : (m.detach c).owner = m.owner := by
  unfold detach
  split
  · rfl
  · simp [setSession]

@[simp] theorem owner_destroy : (m.destroy s).owner = update m.owner s none :=
  view_update (·.map (·.userId)) m.sessions rfl

@[simp] theorem hasConnection_modifyConnection :
    (m.modifyConnection c f).hasConnection = m.hasConnection :=
  view_update_same Option.isSome m.connections (by simp)

@[simp] theorem hasConnection_setConnection :
    (m.setConnection s connection).hasConnection = m.hasConnection := rfl

@[simp] theorem hasConnection_detach : (m.detach c).hasConnection = m.hasConnection := by
  unfold detach
  split
  · rfl
  · simp [setSession]

@[simp] theorem hasConnection_destroy : (m.destroy s).hasConnection = m.hasConnection := by
  funext c'
  cases h : m.attachedTo s with
  | none => simp [hasConnection, destroy, h]
  | some c =>
    have hsame := congrFun
      (hasConnection_modifyConnection m c ({ · with session := none })) c'
    simpa [hasConnection, destroy, h, setSession] using hsame

theorem isMapped_iff :
    m.isMapped s = true ↔ ∃ userId, m.owner s = some userId ∧ m.sessionMap userId = some s := by
  cases h : m.sessions s <;> simp [isMapped, owner, h]

end Views

/-! ## The invariant of every run -/

/-- Sessions and connections are what the bookkeeping says, and a connection
serves only a session that is alive and attached to it. -/
structure Base (m : SessionManager) : Prop where
  back : PointsBack m.served m.attachedTo
  mapped : ∀ userId s, m.sessionMap userId = some s → m.owner s = some userId
  session_fresh : ∀ s, m.nextSession ≤ s → m.owner s = none
  connection_fresh : ∀ c, m.nextConnection ≤ c → m.hasConnection c = false
  logon_alive : ∀ logon ∈ m.logons, m.hasConnection logon.1 = true

variable {m m' : SessionManager} {s : Nat} {userId : NodeId}

theorem attachedTo_eq_none_of_owner (h : m.owner s = none) : m.attachedTo s = none := by
  have hnone : m.sessions s = none := by simpa [owner] using h
  simp [attachedTo, hnone]

theorem served_eq_none_of_hasConnection {c : Nat} (h : m.hasConnection c = false) :
    m.served c = none := by
  have hnone : m.connections c = none := by simpa [hasConnection] using h
  simp [served, hnone]

theorem Base.session_lt (hb : m.Base) (hmap : m.sessionMap userId = some s) :
    s < m.nextSession := by
  by_contra hle
  have hfresh := hb.session_fresh s (Nat.not_lt.mp hle)
  rw [hb.mapped userId s hmap] at hfresh
  cases hfresh

theorem Base.destroy (h : m.Base) (hmap : ∀ userId, m.sessionMap userId ≠ some s) :
    (m.destroy s).Base := by
  refine ⟨?_, ?_, ?_, ?_, ?_⟩
  · rw [attachedTo_destroy]
    cases hs : m.attachedTo s with
    | none =>
      rw [served_destroy_of_detached m s hs, update_eq_self_iff.mpr hs.symm]
      exact h.back
    | some c =>
      rw [served_destroy_of_attached m s hs]
      exact h.back.clear hs
  · intro userId s' hs'
    have hne : s' ≠ s := by
      rintro rfl
      exact hmap userId hs'
    rw [owner_destroy, update_of_ne hne]
    exact h.mapped userId s' hs'
  · intro s' hle
    rw [owner_destroy]
    by_cases hs : s' = s
    · rw [hs, update_self]
    · rw [update_of_ne hs]
      exact h.session_fresh s' hle
  · intro c hle
    rw [hasConnection_destroy]
    exact h.connection_fresh c hle
  · intro logon hmem
    rw [hasConnection_destroy]
    exact h.logon_alive logon hmem

theorem Base.not_mapped (h : m.Base) (hmapped : m.isMapped s = false) (userId : NodeId) :
    m.sessionMap userId ≠ some s := by
  intro hmap
  have hyes : m.isMapped s = true := (isMapped_iff m s).mpr ⟨userId, h.mapped userId s hmap, hmap⟩
  rw [hyes] at hmapped
  cases hmapped

theorem Base.unmap (h : m.Base) (userId : NodeId) :
    Base { m with sessionMap := update m.sessionMap userId none } := by
  refine ⟨h.back, ?_, h.session_fresh, h.connection_fresh, h.logon_alive⟩
  intro userId' s hs
  by_cases hu : userId' = userId
  · subst hu
    simp at hs
  · simp only [update_of_ne hu] at hs
    exact h.mapped userId' s hs

/-- What does not touch the bookkeeping keeps the invariant if it keeps the
pointers. -/
theorem Base.of_back (h : m.Base) (hback : PointsBack m'.served m'.attachedTo)
    (howner : m'.owner = m.owner) (hconnection : m'.hasConnection = m.hasConnection)
    (hmap : m'.sessionMap = m.sessionMap) (hsession : m'.nextSession = m.nextSession)
    (hnext : m'.nextConnection = m.nextConnection) (hlogons : m'.logons = m.logons) : m'.Base := by
  refine ⟨hback, ?_, ?_, ?_, ?_⟩
  · rw [hmap, howner]
    exact h.mapped
  · rw [hsession, howner]
    exact h.session_fresh
  · rw [hnext, hconnection]
    exact h.connection_fresh
  · rw [hlogons, hconnection]
    exact h.logon_alive

theorem detach_books (m : SessionManager) (c : Nat) :
    (m.detach c).sessionMap = m.sessionMap ∧ (m.detach c).nextSession = m.nextSession ∧
      (m.detach c).nextConnection = m.nextConnection ∧ (m.detach c).logons = m.logons ∧
      (m.detach c).inFlight = m.inFlight := by
  unfold detach
  split <;> exact ⟨rfl, rfl, rfl, rfl, rfl⟩

theorem Base.detach (h : m.Base) (c : Nat) : (m.detach c).Base := by
  obtain ⟨hmap, hsession, hnext, hlogons, -⟩ := detach_books m c
  refine h.of_back ?_ (owner_detach m c) (hasConnection_detach m c) hmap hsession hnext hlogons
  cases hc : m.served c with
  | none =>
    rw [detach_of_served_none m c hc]
    exact h.back
  | some s =>
    rw [served_detach, attachedTo_detach m c hc]
    exact h.back.clear (h.back c s hc)

theorem Base.closeFlag (h : m.Base) (c : Nat) :
    (m.modifyConnection c ({ · with closed := true })).Base := by
  refine h.of_back ?_ rfl (hasConnection_modifyConnection m c _) rfl rfl rfl rfl
  rw [served_close_flag]
  exact h.back

/-! ### Moves -/

/-- What the operations that end sessions and close connections are made of. -/
inductive Move : SessionManager → SessionManager → Prop where
  | unmap (m : SessionManager) (userId : NodeId) :
      Move m { m with sessionMap := Function.update m.sessionMap userId none }
  | destroy (m : SessionManager) (s : Nat) (hmapped : m.isMapped s = false) :
      Move m (m.destroy s)
  | shut (m : SessionManager) (c : Nat) :
      Move m ((m.modifyConnection c ({ · with closed := true })).detach c)

def Moves : SessionManager → SessionManager → Prop := Relation.ReflTransGen Move

section Moves

variable (m : SessionManager) (c s : Nat) (broken : Nat → Bool)

theorem releaseSession_moves : Moves m (m.releaseSession s) := by
  unfold releaseSession
  split
  · exact .refl
  · rename_i href
    rw [Bool.or_eq_true, not_or] at href
    exact .single (.destroy m s (Bool.eq_false_iff.mpr href.2))

theorem deleteSession_moves : Moves m (m.deleteSession s) := by
  unfold deleteSession
  split
  · exact .refl
  · split
    · exact .head (.unmap m _) (releaseSession_moves _ s)
    · exact .refl

theorem close_moves : Moves m (m.close c) := by
  unfold close
  split
  · split
    · exact .single (.shut m c)
    · exact .head (.shut m c) (deleteSession_moves _ _)
  · exact .refl

theorem send_moves : Moves m (m.send c broken) := by
  unfold send
  split
  · exact close_moves m c
  · exact .refl

theorem logOff_moves : Moves m (m.logOff s broken) := by
  unfold logOff
  split
  · exact deleteSession_moves m s
  · exact (send_moves m _ broken).trans (deleteSession_moves _ s)

theorem closeUserSessions_moves (userId : NodeId) :
    Moves m (m.closeUserSessions userId broken) := by
  unfold closeUserSessions
  split
  · exact .refl
  · exact logOff_moves m _ broken

end Moves

theorem Base.moves (h : m.Base) (hmoves : Moves m m') : m'.Base := by
  induction hmoves with
  | refl => exact h
  | tail _ hmove ih =>
    cases hmove with
    | unmap userId => exact ih.unmap userId
    | destroy s hmapped => exact ih.destroy (ih.not_mapped hmapped)
    | shut c => exact (ih.closeFlag c).detach c

theorem Moves.hasConnection (h : Moves m m') : m'.hasConnection = m.hasConnection := by
  induction h with
  | refl => rfl
  | tail _ hmove ih =>
    rw [← ih]
    cases hmove with
    | unmap userId => rfl
    | destroy s hmapped => exact hasConnection_destroy _ s
    | shut c => rw [hasConnection_detach, hasConnection_modifyConnection]

theorem Moves.sessionMap (h : Moves m m') (hmap : m'.sessionMap userId = some s) :
    m.sessionMap userId = some s := by
  induction h with
  | refl => exact hmap
  | tail _ hmove ih =>
    refine ih ?_
    cases hmove with
    | unmap user =>
      by_cases hu : userId = user
      · subst hu
        simp at hmap
      · simpa only [update_of_ne hu] using hmap
    | destroy s hmapped => exact hmap
    | shut c =>
      rw [(detach_books _ c).1] at hmap
      exact hmap

/-! ### Frames -/

section

variable (m : SessionManager)

theorem releaseSession_frame {s' : Nat} (hne : s' ≠ s) :
    (m.releaseSession s).attachedTo s' = m.attachedTo s' ∧
      (m.releaseSession s).owner s' = m.owner s' := by
  unfold releaseSession
  split
  · exact ⟨rfl, rfl⟩
  · simp [hne]

theorem deleteSession_frame {s' : Nat} (hne : s' ≠ s) :
    (m.deleteSession s).attachedTo s' = m.attachedTo s' ∧
      (m.deleteSession s).owner s' = m.owner s' := by
  unfold deleteSession
  split
  · exact ⟨rfl, rfl⟩
  · split
    · exact releaseSession_frame _ hne
    · exact ⟨rfl, rfl⟩

/-- Closing a connection touches no other session than the one it serves. -/
theorem close_frame {c : Nat} (hne : m.served c ≠ some s) :
    (m.close c).attachedTo s = m.attachedTo s ∧ (m.close c).owner s = m.owner s := by
  unfold close
  split
  · cases hc : m.served c with
    | none =>
      have hsame := detach_of_served_none (m.modifyConnection c ({ · with closed := true })) c
        (by rw [served_close_flag]; exact hc)
      simp only [hsame]
      exact ⟨rfl, rfl⟩
    | some s' =>
      have hss : s ≠ s' := by
        rintro rfl
        exact hne hc
      have hdetach := attachedTo_detach (m.modifyConnection c ({ · with closed := true })) c
        (s := s') (by rw [served_close_flag]; exact hc)
      obtain ⟨hattached, howner⟩ := deleteSession_frame
        ((m.modifyConnection c ({ · with closed := true })).detach c) hss
      refine ⟨hattached.trans ?_, howner.trans ?_⟩
      · rw [hdetach, update_of_ne hss, attachedTo_modifyConnection]
      · rw [owner_detach, owner_modifyConnection]
  · exact ⟨rfl, rfl⟩

@[simp] theorem isOpen_releaseSession (s : Nat) : (m.releaseSession s).isOpen = m.isOpen := by
  unfold releaseSession
  split <;> simp

@[simp] theorem isOpen_deleteSession (s : Nat) : (m.deleteSession s).isOpen = m.isOpen := by
  unfold deleteSession
  split
  · rfl
  · split
    · exact isOpen_releaseSession _ s
    · rfl

end

/-- A session that no connection serves can be deleted without a trace in the
pointers. -/
theorem served_deleteSession_of_free (hfree : m.attachedTo s = none) :
    (m.deleteSession s).served = m.served := by
  unfold deleteSession
  split
  · rfl
  · split
    · unfold releaseSession
      split
      · rfl
      · exact served_destroy_of_detached _ s hfree
    · rfl

theorem served_close (c c' : Nat) :
    (m.close c).served c' = if c' = c ∧ m.isOpen c = true then none else m.served c' := by
  unfold close
  by_cases hopen : m.isOpen c = true
  · have hdetached : ((m.modifyConnection c ({ · with closed := true })).detach c).served =
        update m.served c none := by
      rw [served_detach, served_close_flag]
    simp only [hopen, if_true, and_true]
    cases hs : m.served c with
    | none =>
      simp only
      rw [hdetached, update_apply]
    | some s =>
      have hfree : ((m.modifyConnection c ({ · with closed := true })).detach c).attachedTo s =
          none := by
        rw [attachedTo_detach (s := s) _ c (by rw [served_close_flag]; exact hs),
          update_self]
      simp only
      rw [served_deleteSession_of_free hfree, hdetached, update_apply]
  · simp [hopen]

theorem isOpen_close (m : SessionManager) (c c' : Nat) :
    (m.close c).isOpen c' = if c' = c then false else m.isOpen c' := by
  unfold close
  by_cases hopen : m.isOpen c = true
  · simp only [hopen, if_true]
    split <;> simp [update_apply]
  · by_cases hc : c' = c
    · simp [hc, hopen]
    · simp [hc, hopen]

/-! ### Logging on and off -/

theorem owner_insertSession (m : SessionManager) (userId : NodeId) :
    (m.insertSession userId).owner = update m.owner m.nextSession (some userId) :=
  view_update (·.map (·.userId)) m.sessions rfl

section

variable (h : m.Base) (userId : NodeId)

include h

theorem attachedTo_insertSession : (m.insertSession userId).attachedTo = m.attachedTo := by
  have hfresh : m.attachedTo m.nextSession = none :=
    attachedTo_eq_none_of_owner (h.session_fresh _ (Nat.le_refl _))
  refine view_update_same (·.bind (·.connection)) m.sessions ?_
  exact hfresh.symm

theorem Base.insertSession : (m.insertSession userId).Base := by
  refine ⟨?_, ?_, ?_, h.connection_fresh, h.logon_alive⟩
  · rw [attachedTo_insertSession h]
    exact h.back
  · intro userId' s hs
    rw [owner_insertSession]
    by_cases hu : userId' = userId
    · subst hu
      simp only [SessionManager.insertSession, update_self, Option.some.injEq] at hs
      rw [← hs, update_self]
    · simp only [SessionManager.insertSession, update_of_ne hu] at hs
      rw [update_of_ne (h.session_lt hs).ne]
      exact h.mapped userId' s hs
  · intro s hle
    have hlt : m.nextSession < s := hle
    rw [owner_insertSession, update_of_ne (Nat.ne_of_gt hlt)]
    exact h.session_fresh s (Nat.le_of_lt hlt)

theorem Base.createNewSession : (m.createNewSession userId).1.Base := by
  unfold SessionManager.createNewSession
  cases m.sessionMap userId with
  | none => exact h.insertSession userId
  | some old => exact (h.insertSession userId).moves (releaseSession_moves _ old)

/-- What a logon returns is a session that is alive and not attached. -/
theorem createNewSession_spec :
    (m.createNewSession userId).1.owner m.nextSession = some userId ∧
      (m.createNewSession userId).1.attachedTo m.nextSession = none := by
  have howner : (m.insertSession userId).owner m.nextSession = some userId := by
    rw [owner_insertSession, update_self]
  have hattached : (m.insertSession userId).attachedTo m.nextSession = none := by
    rw [attachedTo_insertSession h]
    exact attachedTo_eq_none_of_owner (h.session_fresh _ (Nat.le_refl _))
  unfold createNewSession
  cases hmap : m.sessionMap userId with
  | none => exact ⟨howner, hattached⟩
  | some old =>
    obtain ⟨hattached', howner'⟩ :=
      releaseSession_frame (m.insertSession userId) (h.session_lt hmap).ne'
    exact ⟨howner'.trans howner, hattached'.trans hattached⟩

end

/-- The session that the map held is destroyed unless a service call keeps it. -/
theorem createNewSession_of_held (h : m.Base) {old : Nat} (hmap : m.sessionMap userId = some old) :
    (m.createNewSession userId).1 =
      if m.isBusy old then m.insertSession userId else (m.insertSession userId).destroy old := by
  have hne := (h.session_lt hmap).ne
  have hunmapped : (m.insertSession userId).isMapped old = false := by
    rw [Bool.eq_false_iff, ne_eq, isMapped_iff]
    rintro ⟨user, huser, hin⟩
    rw [owner_insertSession, update_of_ne hne, h.mapped userId old hmap] at huser
    cases huser
    simp only [insertSession, update_self, Option.some.injEq] at hin
    exact hne hin.symm
  simp only [createNewSession, hmap, releaseSession, hunmapped, Bool.or_false]
  rfl

/-- A logon is accepted: the user is authenticated and may have many sessions,
or no session of the user is in the way. -/
def accepts (m : SessionManager) (deleteExisting : Bool) (auth : AuthenticationResult) : Bool :=
  auth.multiSessions ||
    match m.sessionMap auth.userId with
    | none => true
    | some s => (m.attachedTo s).isNone || deleteExisting

/-- An accepted logon of a user with a single session logs the existing one
off. -/
def displace (m : SessionManager) (auth : AuthenticationResult) (broken : Nat → Bool) :
    SessionManager :=
  if auth.multiSessions then m else m.closeUserSessions auth.userId broken

theorem createSession_of_refused {deleteExisting : Bool} {auth : AuthenticationResult}
    (hrefused : m.accepts deleteExisting auth = false) (broken : Nat → Bool) :
    m.createSession deleteExisting (some auth) broken = (m, none) := by
  unfold accepts at hrefused
  cases hmulti : auth.multiSessions with
  | true => simp [hmulti] at hrefused
  | false =>
    cases hmap : m.sessionMap auth.userId with
    | none => simp [hmulti, hmap] at hrefused
    | some s =>
      have hkept : ((m.attachedTo s).isSome && !deleteExisting) = true := by
        simpa [hmulti, hmap, Option.isSome_iff_ne_none] using hrefused
      simp [createSession, checkExistingSession, hmulti, hmap,
        hkept]

theorem createSession_of_accepted {deleteExisting : Bool} {auth : AuthenticationResult}
    (haccepted : m.accepts deleteExisting auth = true) (broken : Nat → Bool) :
    m.createSession deleteExisting (some auth) broken =
      (((m.displace auth broken).createNewSession auth.userId).1,
        some (m.displace auth broken).nextSession) := by
  unfold accepts at haccepted
  cases hmulti : auth.multiSessions with
  | true =>
    simp [createSession, displace, hmulti, createNewSession]
  | false =>
    cases hmap : m.sessionMap auth.userId with
    | none =>
      simp [createSession, checkExistingSession, displace,
        closeUserSessions, hmulti, hmap, createNewSession]
    | some s =>
      have hkept : ((m.attachedTo s).isSome && !deleteExisting) = false := by
        cases hs : m.attachedTo s <;> simp_all
      simp [createSession, checkExistingSession, displace,
        closeUserSessions, hmulti, hmap, hkept, createNewSession]

theorem displace_moves (m : SessionManager) (auth : AuthenticationResult)
    (broken : Nat → Bool) : Moves m (m.displace auth broken) := by
  unfold displace
  split
  · exact .refl
  · exact closeUserSessions_moves m broken auth.userId

/-- A logon keeps the invariant, and a session it returns is alive and not
attached. -/
theorem createSession_spec (h : m.Base) (deleteExisting : Bool)
    (result : Option AuthenticationResult) (broken : Nat → Bool) :
    (m.createSession deleteExisting result broken).1.Base ∧
      ∀ s, (m.createSession deleteExisting result broken).2 = some s →
        ((m.createSession deleteExisting result broken).1.owner s).isSome ∧
          (m.createSession deleteExisting result broken).1.attachedTo s = none := by
  cases result with
  | none => exact ⟨h, fun s hs => by cases hs⟩
  | some auth =>
    cases haccepts : m.accepts deleteExisting auth with
    | false =>
      rw [createSession_of_refused haccepts]
      exact ⟨h, fun s hs => by cases hs⟩
    | true =>
      rw [createSession_of_accepted haccepts]
      have hdisplaced := h.moves (displace_moves m auth broken)
      refine ⟨hdisplaced.createNewSession auth.userId, ?_⟩
      intro s hs
      obtain ⟨howner, hattached⟩ := createNewSession_spec hdisplaced auth.userId
      cases hs
      exact ⟨Option.isSome_iff_exists.mpr ⟨_, howner⟩, hattached⟩

/-! What a logon with the result `result` writes. -/

theorem served_assignSession {c : Nat} (hc : m.hasConnection c = true) (result : Option Nat) :
    (m.assignSession c result).served = update m.served c result := by
  cases result with
  | none => exact served_setSession_none m c
  | some s => exact served_setSession_some m c s hc

theorem isOpen_assignSession (m : SessionManager) (c : Nat) (result : Option Nat) :
    (m.assignSession c result).isOpen = m.isOpen := by
  cases result with
  | none => exact isOpen_setSession m c none
  | some s => exact isOpen_setSession m c (some s)

theorem attachedTo_assignSession {s : Nat} (c : Nat) (halive : (m.owner s).isSome) :
    (m.assignSession c (some s)).attachedTo = update m.attachedTo s (some c) := by
  have halive' : ((m.setSession c (some s)).sessions s).isSome := by
    simpa [owner, setSession, modifyConnection] using halive
  exact attachedTo_setConnection_some _ s c halive'

theorem served_of_assignSession {c c' : Nat} {result : Option Nat}
    (h : (m.assignSession c result).served c' = some s) :
    c' = c ∧ result = some s ∨ c' ≠ c ∧ m.served c' = some s := by
  by_cases hc : c' = c
  · subst hc
    refine Or.inl ⟨rfl, ?_⟩
    cases hhas : m.hasConnection c' with
    | true =>
      rw [served_assignSession hhas, update_self] at h
      exact h
    | false =>
      have hnone : (m.assignSession c' result).hasConnection c' = false := by
        cases result <;> simpa [assignSession, setSession] using hhas
      rw [served_eq_none_of_hasConnection hnone] at h
      cases h
  · refine Or.inr ⟨hc, ?_⟩
    cases result <;>
      simpa [served, assignSession, setConnection, setSession, modifyConnection, hc] using h

theorem Base.assignSession (h : m.Base) {c : Nat} (hc : m.hasConnection c = true)
    {result : Option Nat}
    (hresult : ∀ s, result = some s → (m.owner s).isSome ∧ m.attachedTo s = none) :
    (m.assignSession c result).Base := by
  cases result with
  | none =>
    refine h.of_back ?_ rfl (hasConnection_modifyConnection m c _) rfl rfl rfl rfl
    rw [served_assignSession hc]
    exact h.back.clear_left c
  | some s =>
    obtain ⟨halive, hfree⟩ := hresult s rfl
    refine h.of_back ?_ (owner_setConnection _ s _) (hasConnection_modifyConnection m c _) rfl rfl
      rfl rfl
    rw [served_assignSession hc, attachedTo_assignSession c halive]
    exact h.back.link c hfree

theorem send_frame (m : SessionManager) {c : Nat} (hne : m.served c ≠ some s)
    (broken : Nat → Bool) :
    (m.send c broken).attachedTo s = m.attachedTo s ∧ (m.send c broken).owner s = m.owner s := by
  unfold send
  split
  · exact close_frame m hne
  · exact ⟨rfl, rfl⟩

theorem send_frame_connection (m : SessionManager) {c c' : Nat} (hne : c' ≠ c)
    (broken : Nat → Bool) :
    (m.send c broken).served c' = m.served c' ∧ (m.send c broken).isOpen c' = m.isOpen c' := by
  unfold send
  split
  · simp [served_close, isOpen_close, hne]
  · exact ⟨rfl, rfl⟩

/-- A session that can be bound can be bound after the response has been sent. -/
theorem Base.free_send (h : m.Base) {result : Option Nat}
    (hresult : ∀ s, result = some s → (m.owner s).isSome ∧ m.attachedTo s = none) (c : Nat)
    (broken : Nat → Bool) :
    ∀ s, result = some s →
      ((m.send c broken).owner s).isSome ∧ (m.send c broken).attachedTo s = none := by
  intro s hs
  obtain ⟨halive, hfree⟩ := hresult s hs
  have hne : m.served c ≠ some s := by
    intro hserved
    rw [h.back c s hserved] at hfree
    cases hfree
  obtain ⟨hattached, howner⟩ := send_frame m hne broken
  exact ⟨howner ▸ halive, hattached.trans hfree⟩

theorem hasConnection_of_isOpen {c : Nat} (h : m.isOpen c = true) : m.hasConnection c = true := by
  cases hc : m.connections c with
  | none => simp [isOpen, hc] at h
  | some connection => simp [hasConnection, hc]

/-- A closed connection gives the session back, an open one is bound to it. -/
theorem bindSession_cases (m : SessionManager) (c : Nat) (result : Option Nat)
    (broken : Nat → Bool) :
    m.isOpen c = true ∧ m.bindSession c result broken =
        (m.send c broken).assignSession c result ∨
      m.isOpen c = false ∧ (m.bindSession c result broken = m ∨
        ∃ s, result = some s ∧ m.bindSession c result broken = m.deleteSession s) := by
  unfold bindSession
  cases hc : m.connections c with
  | none => exact Or.inr ⟨by simp [isOpen, hc], Or.inl rfl⟩
  | some connection =>
    cases hclosed : connection.closed with
    | true =>
      refine Or.inr ⟨by simp [isOpen, hc, hclosed], ?_⟩
      cases result with
      | none => exact Or.inl (by simp [hclosed])
      | some s => exact Or.inr ⟨s, rfl, by simp [hclosed]⟩
    | false => exact Or.inl ⟨by simp [isOpen, hc, hclosed], by simp [hclosed]⟩

theorem Base.bindSession (h : m.Base) (c : Nat) {result : Option Nat}
    (hresult : ∀ s, result = some s → (m.owner s).isSome ∧ m.attachedTo s = none)
    (broken : Nat → Bool) : (m.bindSession c result broken).Base := by
  rcases m.bindSession_cases c result broken with ⟨hopen, heq⟩ | ⟨-, heq | ⟨s, -, heq⟩⟩
  · have hsend := send_moves m c broken
    have hhas : (m.send c broken).hasConnection c = true := by
      rw [hsend.hasConnection]
      exact hasConnection_of_isOpen hopen
    rw [heq]
    exact (h.moves hsend).assignSession hhas (h.free_send hresult c broken)
  · rwa [heq]
  · rw [heq]
    exact h.moves (deleteSession_moves m s)

/-! ### The map after a logoff -/

theorem sessionMap_releaseSession (m : SessionManager) (s : Nat) :
    (m.releaseSession s).sessionMap = m.sessionMap := by
  unfold releaseSession
  split <;> rfl

theorem Base.sessionMap_deleteSession_ne (h : m.Base) (s : Nat) (userId : NodeId) :
    (m.deleteSession s).sessionMap userId ≠ some s := by
  intro hmap
  have hbefore := (deleteSession_moves m s).sessionMap hmap
  have howner := h.mapped userId s hbefore
  obtain ⟨stub, hstub, huser⟩ := Option.map_eq_some_iff.mp howner
  subst huser
  simp only [deleteSession, hstub, hbefore, if_true,
    sessionMap_releaseSession, update_self] at hmap
  cases hmap

theorem Base.sessionMap_logOff (h : m.Base) (hmap : m.sessionMap userId = some s)
    (broken : Nat → Bool) : (m.logOff s broken).sessionMap userId = none := by
  by_contra hne
  obtain ⟨s', hs'⟩ := Option.ne_none_iff_exists'.mp hne
  have hold := (logOff_moves m s broken).sessionMap hs'
  obtain rfl : s = s' := Option.some.inj (hmap.symm.trans hold)
  unfold logOff at hs'
  split at hs'
  · exact h.sessionMap_deleteSession_ne s userId hs'
  · exact (h.moves (send_moves m _ broken)).sessionMap_deleteSession_ne s userId hs'

/-! ### Requests -/

/-- Processing requests moves no pointer and no bookkeeping. -/
structure SamePointers (m m' : SessionManager) : Prop where
  connections : m'.connections = m.connections
  attachedTo : m'.attachedTo = m.attachedTo
  owner : m'.owner = m.owner
  sessionMap : m'.sessionMap = m.sessionMap
  nextSession : m'.nextSession = m.nextSession
  nextConnection : m'.nextConnection = m.nextConnection
  logons : m'.logons = m.logons

theorem processRequest_samePointers (m : SessionManager) (s : Nat) (request : Request × Bool) :
    SamePointers m (m.processRequest s request) := by
  unfold processRequest
  cases hs : m.sessions s with
  | none => exact ⟨rfl, rfl, rfl, rfl, rfl, rfl, rfl⟩
  | some stub =>
    cases hprocess : stub.processRequest request.1 request.2 with
    | none =>
      simp only [hprocess]
      exact ⟨rfl, rfl, rfl, rfl, rfl, rfl, rfl⟩
    | some result =>
      have hsame := SessionStub.processRequest_same hprocess
      simp only [hprocess]
      refine ⟨rfl, ?_, ?_, rfl, rfl, rfl, rfl⟩
      · refine view_update_same (·.bind (·.connection)) m.sessions ?_
        simp [hs, hsame.connection]
      · refine view_update_same (·.map (·.userId)) m.sessions ?_
        simp [hs, hsame.userId]

theorem SamePointers.trans {m'' : SessionManager} (h : SamePointers m m')
    (h' : SamePointers m' m'') : SamePointers m m'' :=
  ⟨h'.connections.trans h.connections, h'.attachedTo.trans h.attachedTo, h'.owner.trans h.owner,
    h'.sessionMap.trans h.sessionMap, h'.nextSession.trans h.nextSession,
    h'.nextConnection.trans h.nextConnection, h'.logons.trans h.logons⟩

theorem SamePointers.refl (m : SessionManager) : SamePointers m m :=
  ⟨rfl, rfl, rfl, rfl, rfl, rfl, rfl⟩

theorem processRequests_samePointers (m : SessionManager) (s : Nat)
    (requests : List (Request × Bool)) :
    SamePointers m (requests.foldl (fun m request => m.processRequest s request) m) := by
  induction requests generalizing m with
  | nil => exact .refl m
  | cons request requests ih => exact (processRequest_samePointers m s request).trans (ih _)

theorem onMessage_samePointers (m : SessionManager) (c : Nat)
    (requests : List (Request × Bool)) : SamePointers m (m.onMessage c requests) := by
  unfold onMessage
  split
  · split
    · exact .refl m
    · exact processRequests_samePointers m _ requests
  · exact .refl m

theorem SamePointers.served (h : SamePointers m m') : m'.served = m.served := by
  funext c
  simp [SessionManager.served, h.connections]

theorem SamePointers.isOpen (h : SamePointers m m') : m'.isOpen = m.isOpen := by
  funext c
  simp [SessionManager.isOpen, h.connections]

theorem SamePointers.hasConnection (h : SamePointers m m') :
    m'.hasConnection = m.hasConnection := by
  funext c
  simp [SessionManager.hasConnection, h.connections]

theorem Base.of_samePointers (h : m.Base) (hsame : SamePointers m m') : m'.Base := by
  refine h.of_back ?_ hsame.owner hsame.hasConnection hsame.sessionMap hsame.nextSession
    hsame.nextConnection hsame.logons
  rw [hsame.served, hsame.attachedTo]
  exact h.back

/-! ### Every step, every run -/

theorem Base.accept (h : m.Base) : (m.step .accept).Base := by
  have hnew : m.hasConnection m.nextConnection = false := h.connection_fresh _ (Nat.le_refl _)
  have hserved : (m.step .accept).served = m.served := by
    funext c
    by_cases hc : c = m.nextConnection
    · rw [hc, served_eq_none_of_hasConnection hnew]
      simp [served, step]
    · simp [served, step, hc]
  refine ⟨?_, h.mapped, h.session_fresh, ?_, ?_⟩
  · rw [hserved]
    exact h.back
  · intro c hle
    have hlt : m.nextConnection < c := hle
    have hold := h.connection_fresh c (Nat.le_of_lt hlt)
    simpa [hasConnection, step, Nat.ne_of_gt hlt] using hold
  · intro logon hmem
    have hold := h.logon_alive logon hmem
    by_cases hc : logon.1 = m.nextConnection
    · simp [hasConnection, step, hc]
    · simpa [hasConnection, step, hc] using hold

theorem Base.of_logons (h : m.Base) {logons : List (Nat × CreateSession)}
    (hsub : ∀ logon ∈ logons, m.hasConnection logon.1 = true) : Base { m with logons } :=
  ⟨h.back, h.mapped, h.session_fresh, h.connection_fresh, hsub⟩

def takeLogon (m : SessionManager) (index : Nat) : SessionManager :=
  { m with logons := m.logons.eraseIdx index }

theorem Base.takeLogon (h : m.Base) (index : Nat) : (m.takeLogon index).Base :=
  h.of_logons fun logon hmem => h.logon_alive logon (List.mem_of_mem_eraseIdx hmem)

theorem step_authenticated {index c : Nat} {request : CreateSession}
    (hlogon : m.logons[index]? = some (c, request)) (result : Option AuthenticationResult)
    (broken : Nat → Bool) :
    m.step (.authenticated index result broken) =
      ((m.takeLogon index).createSession request.deleteExisting result broken).1.bindSession c
        ((m.takeLogon index).createSession request.deleteExisting result broken).2 broken := by
  simp only [step, hlogon]
  rfl

theorem Base.release (h : m.Base) (c : Nat) : (m.step (.release c)).Base := by
  simp only [step]
  split
  · exact h
  · rename_i hkeep
    have hdetach := h.detach c
    obtain ⟨-, -, -, hlogons, -⟩ := detach_books m c
    refine ⟨?_, hdetach.mapped, hdetach.session_fresh, ?_, ?_⟩
    · intro c' s hs
      have hne : c' ≠ c := by
        rintro rfl
        simp [served] at hs
      have hold : (m.detach c).served c' = some s := by simpa [served, hne] using hs
      exact hdetach.back c' s hold
    · intro c' hle
      by_cases hc : c' = c
      · simp [hasConnection, hc]
      · have hold := hdetach.connection_fresh c' hle
        simpa [hasConnection, hc] using hold
    · intro logon hmem
      have hne : logon.1 ≠ c := by
        rintro hc
        rw [hlogons] at hmem
        apply hkeep
        have hany : m.logons.any (·.1 == c) = true :=
          List.any_eq_true.mpr ⟨logon, hmem, beq_iff_eq.mpr hc⟩
        rw [hany, Bool.or_true]
      have hold := hdetach.logon_alive logon hmem
      simpa [hasConnection, hne] using hold

theorem Base.step (h : m.Base) (e : Event) : (m.step e).Base := by
  cases e with
  | accept => exact h.accept
  | createSession c request broken =>
    simp only [SessionManager.step]
    split
    · exact h
    · rename_i hsome
      split
      · refine h.of_logons fun logon hmem => ?_
        rcases List.mem_append.mp hmem with hold | hnew
        · exact h.logon_alive logon hold
        · obtain rfl := List.mem_singleton.mp hnew
          simpa [hasConnection, Option.isSome_iff_ne_none] using hsome
      · exact h.bindSession c (fun s hs => by cases hs) broken
  | authenticated index result broken =>
    simp only [SessionManager.step]
    split
    · exact h
    · rename_i c request _
      obtain ⟨hbase, hsession⟩ :=
        createSession_spec (h.takeLogon index) request.deleteExisting result broken
      exact hbase.bindSession c hsession broken
  | deleteSession c =>
    simp only [SessionManager.step, onDeleteSession]
    split
    · exact h
    · exact (h.detach c).moves (deleteSession_moves _ _)
  | message c requests => exact h.of_samePointers (onMessage_samePointers m c requests)
  | serviceDone index =>
    simp only [SessionManager.step]
    split
    · exact h
    · have herased : Base { m with inFlight := m.inFlight.eraseIdx index } :=
        ⟨h.back, h.mapped, h.session_fresh, h.connection_fresh, h.logon_alive⟩
      exact herased.moves (releaseSession_moves _ _)
  | close c => exact h.moves (close_moves m c)
  | release c => exact h.release c
  | closeUserSessions userId broken => exact h.moves (closeUserSessions_moves m broken userId)

theorem base_run (es : List Event) : (system.run es).Base := by
  refine system.invariant Base ?_ (fun m e h => h.step e) es
  refine ⟨?_, ?_, fun _ _ => rfl, fun _ _ => rfl, ?_⟩
  · intro c s hs
    cases hs
  · intro userId s hs
    cases hs
  · intro logon hmem
    cases hmem

/-- **Sessions are exclusive.** In any order of events, a session that is served is alive and
served by one connection, and a session that is held for a user is theirs. -/
theorem sessions_exclusive (es : List Event) (s : Nat) :
    let m := system.run es
    (∀ c c', m.served c = some s → m.served c' = some s → c = c') ∧
    (∀ c, m.served c = some s → m.owner s ≠ none) ∧
    ∀ userId, m.sessionMap userId = some s → m.owner s = some userId := by
  have hbase := base_run es
  refine ⟨?_, ?_, fun userId => hbase.mapped userId s⟩
  · intro c c' hc hc'
    exact Option.some.inj ((hbase.back c s hc).symm.trans (hbase.back c' s hc'))
  · intro c hc hdead
    cases (attachedTo_eq_none_of_owner hdead).symm.trans (hbase.back c s hc)

end SessionManager

end ScadaCore.Remote
