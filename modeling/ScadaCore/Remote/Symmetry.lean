import ScadaCore.Remote.Pointers

/-!
# Remote.Symmetry — when the two pointers agree

A session is attached to a connection if and only if the connection is open and
serves it. Every operation keeps this except one: `OnCreateSessionAsync`
overwrites the session of the connection with the outcome of the logon, without
a word to the session that was there.
-/

namespace ScadaCore.Remote

open Scada Function

namespace SessionManager

def Symmetric (m : SessionManager) : Prop :=
  ∀ s c, m.attachedTo s = some c ↔ m.isOpen c = true ∧ m.served c = some s

variable {m : SessionManager}

theorem Symmetric.forth (h : m.Symmetric) : PointsBack m.attachedTo m.served :=
  fun s c hs => ((h s c).mp hs).2

theorem Symmetric.closed (h : m.Symmetric) (hb : m.Base) {c : Nat} (hc : m.isOpen c = false) :
    m.served c = none := by
  by_contra hne
  obtain ⟨s, hs⟩ := Option.ne_none_iff_exists'.mp hne
  have hopen := ((h s c).mp (hb.back c s hs)).1
  rw [hc] at hopen
  cases hopen

theorem symmetric_of (hback : PointsBack m.served m.attachedTo)
    (hforth : PointsBack m.attachedTo m.served)
    (hclosed : ∀ c, m.isOpen c = false → m.served c = none) : m.Symmetric := by
  intro s c
  constructor
  · intro hs
    have hserved := hforth s c hs
    refine ⟨?_, hserved⟩
    by_contra hopen
    rw [hclosed c (by simpa using hopen)] at hserved
    cases hserved
  · rintro ⟨-, hserved⟩
    exact hback c s hserved

/-! ## Operations that keep symmetry -/

section

variable (h : m.Symmetric) (hb : m.Base)

include h hb

/-- Seen through symmetric pointers, destroying a session frees the connection
that serves it. -/
theorem served_destroy (s c : Nat) :
    (m.destroy s).served c = if m.served c = some s then none else m.served c := by
  cases hs : m.attachedTo s with
  | none =>
    rw [served_destroy_of_detached m s hs]
    by_cases hc : m.served c = some s
    · rw [hb.back c s hc] at hs
      cases hs
    · rw [if_neg hc]
  | some c₀ =>
    rw [served_destroy_of_attached m s hs]
    by_cases hcc : c = c₀
    · subst hcc
      rw [update_self, if_pos (h.forth s c hs)]
    · have hne : m.served c ≠ some s := by
        intro hc
        exact hcc (Option.some.inj ((hb.back c s hc).symm.trans hs))
      rw [update_of_ne hcc, if_neg hne]

theorem Symmetric.destroy (s : Nat) : (m.destroy s).Symmetric := by
  intro s' c
  rw [attachedTo_destroy, isOpen_destroy, served_destroy h hb]
  by_cases hs : s' = s
  · subst hs
    rw [update_self]
    constructor
    · intro hc
      cases hc
    · rintro ⟨-, hserved⟩
      split at hserved
      · cases hserved
      · contradiction
  · rw [update_of_ne hs, h s' c]
    by_cases hc : m.served c = some s
    · have hne : m.served c ≠ some s' := by
        rw [hc]
        exact fun heq => hs (Option.some.inj heq).symm
      simp [hc, Ne.symm hs]
    · rw [if_neg hc]

theorem symmetric_detach {m' : SessionManager} (c : Nat) (hserved : m'.served = m.served)
    (hattached : m'.attachedTo = m.attachedTo) (hopen : ∀ c', c' ≠ c → m'.isOpen c' = m.isOpen c') :
    (m'.detach c).Symmetric := by
  have hclosed : ∀ c', (m'.detach c).isOpen c' = false → (m'.detach c).served c' = none := by
    intro c' hc'
    rw [isOpen_detach] at hc'
    rw [served_detach, hserved]
    by_cases hcc : c' = c
    · rw [hcc, update_self]
    · rw [update_of_ne hcc]
      exact h.closed hb ((hopen c' hcc).symm.trans hc')
  cases hs : m.served c with
  | none =>
    have hnone : m'.served c = none := by rw [hserved]; exact hs
    have hsame := detach_of_served_none m' c hnone
    refine symmetric_of ?_ ?_ hclosed
    · rw [hsame, hserved, hattached]
      exact hb.back
    · rw [hsame, hserved, hattached]
      exact h.forth
  | some s =>
    have hsome : m'.served c = some s := by rw [hserved]; exact hs
    have hdetach := attachedTo_detach m' c hsome
    refine symmetric_of ?_ ?_ hclosed
    · rw [served_detach, hdetach, hserved, hattached]
      exact hb.back.clear (hb.back c s hs)
    · rw [served_detach, hdetach, hserved, hattached]
      exact h.forth.clear hs

theorem Symmetric.moves {m' : SessionManager} (hmoves : Moves m m') : m'.Symmetric := by
  induction hmoves with
  | refl => exact h
  | tail hmoves hmove ih =>
    have hbase := hb.moves hmoves
    cases hmove with
    | unmap userId => exact ih
    | destroy s hmapped => exact ih.destroy hbase s
    | shut c =>
      refine symmetric_detach ih hbase c (served_close_flag _ c) rfl ?_
      intro c' hne
      rw [isOpen_close_flag, update_of_ne hne]

theorem Symmetric.insertSession (userId : NodeId) : (m.insertSession userId).Symmetric := by
  intro s c
  rw [attachedTo_insertSession hb]
  exact h s c

theorem Symmetric.createNewSession (userId : NodeId) : (m.createNewSession userId).1.Symmetric := by
  unfold SessionManager.createNewSession
  cases m.sessionMap userId with
  | none => exact h.insertSession hb userId
  | some old =>
    exact (h.insertSession hb userId).moves (hb.insertSession userId) (releaseSession_moves _ old)

theorem Symmetric.accept : (m.step .accept).Symmetric := by
  have hnew : m.hasConnection m.nextConnection = false := hb.connection_fresh _ (Nat.le_refl _)
  have hnone : m.served m.nextConnection = none := served_eq_none_of_hasConnection hnew
  intro s c
  by_cases hc : c = m.nextConnection
  · subst hc
    constructor
    · intro hs
      have hserved := h.forth s _ hs
      rw [hnone] at hserved
      cases hserved
    · rintro ⟨-, hserved⟩
      simp [served, step] at hserved
  · have hold := h s c
    simpa [attachedTo, isOpen, served, step, hc] using hold

theorem Symmetric.release (c : Nat) : (m.step (.release c)).Symmetric := by
  have hdetach : (m.detach c).Symmetric := symmetric_detach h hb c rfl rfl fun _ _ => rfl
  have hdetached : (m.detach c).served c = none := by rw [served_detach, update_self]
  simp only [step]
  split
  · exact h
  · intro s c'
    by_cases hc : c' = c
    · subst hc
      constructor
      · intro hs
        have hserved := hdetach.forth s c' hs
        rw [hdetached] at hserved
        cases hserved
      · rintro ⟨-, hserved⟩
        simp [served] at hserved
    · have hold := hdetach s c'
      simpa [attachedTo, isOpen, served, hc] using hold

end

theorem Symmetric.of_samePointers {m' : SessionManager} (h : m.Symmetric)
    (hsame : SamePointers m m') : m'.Symmetric := by
  intro s c
  rw [hsame.attachedTo, hsame.isOpen, hsame.served]
  exact h s c

/-! ## Binding -/

theorem served_close_self (h : m.Symmetric) (hb : m.Base) (c : Nat) :
    (m.close c).served c = none ∧ (m.close c).isOpen c = false := by
  have hclosed : (m.close c).isOpen c = false := by
    unfold close
    split
    · split <;> simp
    · rename_i hopen
      simpa using hopen
  have hmoves := close_moves m c
  exact ⟨(h.moves hb hmoves).closed (hb.moves hmoves) hclosed, hclosed⟩

theorem assignSession_symmetric_iff (h : m.Symmetric) (hb : m.Base) {c : Nat}
    (hc : m.hasConnection c = true) {result : Option Nat}
    (hresult : ∀ s, result = some s → (m.owner s).isSome ∧ m.attachedTo s = none) :
    (m.assignSession c result).Symmetric ↔
      m.served c = none ∧ (result = none ∨ m.isOpen c = true) := by
  have hserved := served_assignSession hc result
  have hopen := isOpen_assignSession m c result
  have hattached : ∀ s, result = some s →
      (m.assignSession c result).attachedTo = update m.attachedTo s (some c) := by
    rintro s rfl
    exact attachedTo_assignSession c (hresult s rfl).1
  constructor
  · intro hsym
    constructor
    · -- a session that was served before is still attached, but not served any more
      by_contra hne
      obtain ⟨s₀, hs₀⟩ := Option.ne_none_iff_exists'.mp hne
      have hold : m.attachedTo s₀ = some c := hb.back c s₀ hs₀
      have hkept : (m.assignSession c result).attachedTo s₀ = some c := by
        cases result with
        | none => exact hold
        | some s =>
          have hss : s₀ ≠ s := by
            rintro rfl
            rw [(hresult s₀ rfl).2] at hold
            cases hold
          rw [hattached s rfl, update_of_ne hss]
          exact hold
      have hnow := hsym.forth s₀ c hkept
      rw [hserved, update_self] at hnow
      rw [(hresult s₀ hnow).2] at hold
      cases hold
    · cases result with
      | none => exact Or.inl rfl
      | some s =>
        have hs : (m.assignSession c (some s)).attachedTo s = some c := by
          rw [hattached s rfl, update_self]
        have hyes := ((hsym s c).mp hs).1
        rw [hopen] at hyes
        exact Or.inr hyes
  · rintro ⟨hnone, hlive⟩
    refine symmetric_of ?_ ?_ ?_
    · cases result with
      | none =>
        rw [hserved]
        exact hb.back.clear_left c
      | some s =>
        rw [hserved, hattached s rfl]
        exact hb.back.link c (hresult s rfl).2
    · cases result with
      | none =>
        rw [hserved, update_eq_self_iff.mpr hnone.symm]
        exact h.forth
      | some s =>
        rw [hserved, hattached s rfl]
        exact h.forth.link s hnone
    · intro c' hc'
      rw [hopen] at hc'
      rw [hserved]
      by_cases hcc : c' = c
      · subst hcc
        rw [update_self]
        rcases hlive with hrefused | hyes
        · exact hrefused
        · rw [hc'] at hyes
          cases hyes
      · rw [update_of_ne hcc]
        exact h.closed hb hc'

/-- Where the logon may overwrite the session of the connection. -/
def BindOk (m : SessionManager) (c : Nat) (result : Option Nat) (broken : Nat → Bool) : Prop :=
  m.isOpen c = false ∨ if broken c then result = none else m.served c = none

section

variable (h : m.Symmetric) (hb : m.Base)

include h hb

/-- **Binding keeps symmetry** exactly where the connection serves no session
and its response gets out; a write that fails at once is harmless only for a
refused logon. -/
theorem bindSession_symmetric_iff (c : Nat) {result : Option Nat}
    (hresult : ∀ s, result = some s → (m.owner s).isSome ∧ m.attachedTo s = none)
    (broken : Nat → Bool) :
    (m.bindSession c result broken).Symmetric ↔ m.BindOk c result broken := by
  unfold BindOk
  rcases m.bindSession_cases c result broken with ⟨hopen, heq⟩ | ⟨hclosed, heq⟩
  · have hsend := send_moves m c broken
    have hhas : (m.send c broken).hasConnection c = true := by
      rw [hsend.hasConnection]
      exact hasConnection_of_isOpen hopen
    rw [heq, assignSession_symmetric_iff (h.moves hb hsend) (hb.moves hsend) hhas
      (hb.free_send hresult c broken)]
    simp only [hopen, Bool.true_eq_false, false_or]
    by_cases hbroken : broken c = true
    · obtain ⟨hserved, hclosed⟩ := served_close_self h hb c
      simp [send, hbroken, hserved, hclosed]
    · simp [send, hbroken, hopen]
  · -- the connection was closed during authentication
    refine ⟨fun _ => Or.inl hclosed, fun _ => ?_⟩
    rcases heq with heq | ⟨s, -, heq⟩
    · rwa [heq]
    · rw [heq]
      exact h.moves hb (deleteSession_moves m s)

/-! ## What an accepted logon displaces -/

theorem served_releaseSession (s c : Nat) :
    (m.releaseSession s).served c =
      if m.served c = some s ∧ m.isBusy s = false ∧ m.isMapped s = false then none
      else m.served c := by
  unfold releaseSession
  by_cases href : (m.isBusy s || m.isMapped s) = true
  · rw [if_pos href, if_neg]
    rintro ⟨-, hbusy, hmapped⟩
    simp [hbusy, hmapped] at href
  · have hfree : m.isBusy s = false ∧ m.isMapped s = false := by simpa using href
    rw [if_neg href, served_destroy h hb]
    simp [hfree]

theorem served_deleteSession {s : Nat} {userId : NodeId} (hmap : m.sessionMap userId = some s)
    (c : Nat) :
    (m.deleteSession s).served c =
      if m.served c = some s ∧ m.isBusy s = false then none else m.served c := by
  obtain ⟨stub, hstub, huser⟩ := Option.map_eq_some_iff.mp (hb.mapped userId s hmap)
  subst huser
  have hunmapped : Symmetric
      { m with sessionMap := update m.sessionMap stub.userId none } := h
  have hnot : isMapped { m with sessionMap := update m.sessionMap stub.userId none } s =
      false := by
    simp [isMapped, hstub]
  simp only [deleteSession, hstub, hmap, if_true]
  rw [served_releaseSession hunmapped (hb.unmap stub.userId)]
  simp only [hnot, and_true]
  rfl

/-- A logoff frees the connection of the session when no service call keeps the
session alive, and closes it when the notification cannot be written. -/
theorem logOff_views {s : Nat} {userId : NodeId} (hmap : m.sessionMap userId = some s)
    (broken : Nat → Bool) (c : Nat) :
    (m.logOff s broken).isOpen c =
        (if m.served c = some s ∧ broken c = true then false else m.isOpen c) ∧
      (m.logOff s broken).served c =
        if m.served c = some s ∧ (m.isBusy s = false ∨ broken c = true) then none
        else m.served c := by
  unfold logOff
  cases hs : m.attachedTo s with
  | none =>
    have hne : m.served c ≠ some s := by
      intro hc
      rw [hb.back c s hc] at hs
      cases hs
    simp [hne, served_deleteSession_of_free hs]
  | some c' =>
    have hserves : ∀ c, m.served c = some s ↔ c = c' := by
      intro c
      constructor
      · intro hc
        exact Option.some.inj ((hb.back c s hc).symm.trans hs)
      · rintro rfl
        exact h.forth s c hs
    by_cases hbroken : broken c' = true
    · have hfree : (m.close c').attachedTo s = none := by
        by_contra hne
        obtain ⟨c₁, hc₁⟩ := Option.ne_none_iff_exists'.mp hne
        have hserved := (h.moves hb (close_moves m c')).forth s c₁ hc₁
        rw [served_close] at hserved
        split at hserved
        · cases hserved
        · rename_i hnot
          have hcc : c₁ = c' := (hserves c₁).mp hserved
          exact hnot ⟨hcc, ((h s c').mp hs).1⟩
      have hopen : m.isOpen c' = true := ((h s c').mp hs).1
      simp only [send, hbroken, if_true, isOpen_deleteSession,
        served_deleteSession_of_free hfree, served_close, isOpen_close, hserves, hopen, and_true]
      by_cases hc : c = c'
      · simp [hc, hbroken]
      · simp [hc]
    · have hsend : m.send c' broken = m := if_neg hbroken
      simp only [hsend, isOpen_deleteSession]
      rw [served_deleteSession h hb hmap]
      by_cases hc : c = c'
      · subst hc
        simp [hbroken]
      · have hne : m.served c ≠ some s := fun hserved => hc ((hserves c).mp hserved)
        simp [hne]

end

/-- An accepted logon on connection `c` does no harm: the connection is closed;
or the session it serves is the one being displaced, and is gone (or the failed
notification closed the connection) before the new one is bound; or it serves
none. -/
def AcceptedSafe (m : SessionManager) (c : Nat) (auth : AuthenticationResult)
    (broken : Nat → Bool) : Prop :=
  m.isOpen c = false ∨
  (broken c = true ∧ auth.multiSessions = false ∧
    ∃ s, m.sessionMap auth.userId = some s ∧ m.served c = some s) ∨
  (broken c = false ∧
    (m.served c = none ∨
      ∃ s, m.sessionMap auth.userId = some s ∧ m.served c = some s ∧ m.isBusy s = false))

theorem bindOk_accepted_iff (h : m.Symmetric) (hb : m.Base) (auth : AuthenticationResult)
    (broken : Nat → Bool) (c session : Nat) :
    ((m.displace auth broken).createNewSession auth.userId).1.BindOk c (some session) broken ↔
      m.AcceptedSafe c auth broken := by
  unfold displace BindOk AcceptedSafe
  cases hmulti : auth.multiSessions with
  | true =>
    cases hmap : m.sessionMap auth.userId with
    | none =>
      have hviews : (m.createNewSession auth.userId).1 = m.insertSession auth.userId := by
        simp [createNewSession, hmap]
      simp only [if_true, hviews]
      show m.isOpen c = false ∨ (if broken c = true then _ else m.served c = none) ↔ _
      cases broken c <;> simp
    | some old =>
      rw [if_pos rfl, createNewSession_of_held hb hmap]
      cases hbusy : m.isBusy old with
      | true =>
        show m.isOpen c = false ∨ (if broken c = true then _ else m.served c = none) ↔ _
        cases broken c <;> simp [hbusy]
      | false =>
        have hserved : ((m.insertSession auth.userId).destroy old).served c =
            if m.served c = some old then none else m.served c :=
          served_destroy (h.insertSession hb auth.userId) (hb.insertSession auth.userId) old c
        simp only [Bool.false_eq_true, if_false, isOpen_destroy, hserved]
        show m.isOpen c = false ∨ (if broken c = true then _ else _) ↔ _
        cases broken c <;> by_cases hc : m.served c = some old <;> simp [hc, hbusy]
  | false =>
    cases hmap : m.sessionMap auth.userId with
    | none =>
      have hviews : ((m.closeUserSessions auth.userId broken).createNewSession
          auth.userId).1 = m.insertSession auth.userId := by
        simp [closeUserSessions, createNewSession, hmap]
      simp only [Bool.false_eq_true, if_false, hviews]
      show m.isOpen c = false ∨ (if broken c = true then _ else m.served c = none) ↔ _
      cases broken c <;> simp
    | some s =>
      have hgone := hb.sessionMap_logOff hmap broken
      have hviews : ((m.closeUserSessions auth.userId broken).createNewSession
          auth.userId).1 = (m.logOff s broken).insertSession auth.userId := by
        simp [closeUserSessions, createNewSession, hmap, hgone]
      obtain ⟨hopen, hserved⟩ := logOff_views h hb hmap broken c
      simp only [Bool.false_eq_true, if_false, hviews]
      show (m.logOff s broken).isOpen c = false ∨
        (if broken c = true then _ else (m.logOff s broken).served c = none) ↔ _
      rw [hopen, hserved]
      cases hbroken : broken c <;> cases hbusy : m.isBusy s <;>
        by_cases hc : m.served c = some s <;> simp [hc, hbusy]

/-! ## Every run -/

/-- A refused logon on connection `c` does no harm: the connection is closed,
closes as the refusal cannot be written, or serves no session. -/
def RefusedSafe (m : SessionManager) (c : Nat) (broken : Nat → Bool) : Prop :=
  m.isOpen c = false ∨ broken c = true ∨ m.served c = none

theorem bindOk_refused_iff (m : SessionManager) (c : Nat) (broken : Nat → Bool) :
    m.BindOk c none broken ↔ m.RefusedSafe c broken := by
  unfold BindOk RefusedSafe
  cases broken c <;> simp

/-- The authenticator's answer to a logon on connection `c` does no harm. -/
def AnswerSafe (m : SessionManager) (c : Nat) (deleteExisting : Bool) (broken : Nat → Bool) :
    Option AuthenticationResult → Prop
  | none => m.RefusedSafe c broken
  | some auth =>
    if m.accepts deleteExisting auth then m.AcceptedSafe c auth broken
    else m.RefusedSafe c broken

/-- The condition on a step: a logon is completed only on a connection where it
does no harm. A request with an unsupported protocol version is refused as soon
as it starts, the others when the authenticator has answered. -/
def LogonSafe (m : SessionManager) : Event → Prop
  | .createSession c request broken => request.isCompatible = true ∨ m.RefusedSafe c broken
  | .authenticated index result broken =>
    ∀ c request, m.logons[index]? = some (c, request) →
      m.AnswerSafe c request.deleteExisting broken result
  | _ => True

theorem answered_symmetric_iff (h : m.Symmetric) (hb : m.Base) (c : Nat) (deleteExisting : Bool)
    (result : Option AuthenticationResult) (broken : Nat → Bool) :
    ((m.createSession deleteExisting result broken).1.bindSession c
        (m.createSession deleteExisting result broken).2 broken).Symmetric ↔
      m.AnswerSafe c deleteExisting broken result := by
  have hrefused : (m.bindSession c none broken).Symmetric ↔ m.RefusedSafe c broken :=
    (bindSession_symmetric_iff h hb c (fun s hs => by cases hs) broken).trans
      (bindOk_refused_iff m c broken)
  cases result with
  | none => exact hrefused
  | some auth =>
    cases haccepts : m.accepts deleteExisting auth with
    | false =>
      rw [createSession_of_refused haccepts broken]
      simpa only [AnswerSafe, haccepts, Bool.false_eq_true, if_false] using hrefused
    | true =>
      obtain ⟨hbase, hfresh⟩ := createSession_spec hb deleteExisting (some auth) broken
      rw [createSession_of_accepted haccepts broken] at hbase hfresh ⊢
      have hdisplace := displace_moves m auth broken
      have hcreated := (h.moves hb hdisplace).createNewSession (hb.moves hdisplace) auth.userId
      simp only [AnswerSafe, haccepts, if_true]
      exact (bindSession_symmetric_iff hcreated hbase c hfresh broken).trans
        (bindOk_accepted_iff h hb auth broken c _)

theorem authenticated_symmetric_iff (h : m.Symmetric) (hb : m.Base) (index : Nat)
    (result : Option AuthenticationResult) (broken : Nat → Bool) :
    (m.step (.authenticated index result broken)).Symmetric ↔
      m.LogonSafe (.authenticated index result broken) := by
  simp only [LogonSafe]
  cases hlogon : m.logons[index]? with
  | none => simpa [step, hlogon] using h
  | some logon =>
    obtain ⟨c, request⟩ := logon
    rw [step_authenticated hlogon]
    have hanswered := answered_symmetric_iff (m := m.takeLogon index) h (hb.takeLogon index) c
      request.deleteExisting result broken
    -- Taking the logon off the list changes no pointer.
    have hsafe : (m.takeLogon index).AnswerSafe c request.deleteExisting broken result =
        m.AnswerSafe c request.deleteExisting broken result := by
      cases result <;> rfl
    rw [hsafe] at hanswered
    refine hanswered.trans ⟨?_, fun hall => hall c request rfl⟩
    rintro hc c' request' heq
    cases heq
    exact hc

theorem step_symmetric_iff (h : m.Symmetric) (hb : m.Base) (e : Event) :
    (m.step e).Symmetric ↔ m.LogonSafe e := by
  cases e with
  | accept => exact iff_of_true (h.accept hb) trivial
  | createSession c request broken =>
    simp only [step, LogonSafe]
    by_cases hcompatible : request.isCompatible = true
    · simp only [hcompatible, if_true, true_or, iff_true]
      split <;> exact h
    · have hbind : (m.bindSession c none broken).Symmetric ↔ m.BindOk c none broken :=
        bindSession_symmetric_iff h hb c (fun s hs => by cases hs) broken
      simp only [hcompatible, Bool.false_eq_true, if_false, false_or]
      split
      · rename_i hnone
        have hclosed : m.isOpen c = false := by
          have hgone : m.connections c = none := by simpa using hnone
          simp [isOpen, hgone]
        exact iff_of_true h (Or.inl hclosed)
      · exact hbind.trans (bindOk_refused_iff m c broken)
  | authenticated index result broken => exact authenticated_symmetric_iff h hb index result broken
  | deleteSession c =>
    refine iff_of_true ?_ trivial
    have hdetach : (m.detach c).Symmetric := symmetric_detach h hb c rfl rfl fun _ _ => rfl
    simp only [step, onDeleteSession]
    split
    · exact h
    · exact hdetach.moves (hb.detach c) (deleteSession_moves _ _)
  | message c requests =>
    exact iff_of_true (h.of_samePointers (onMessage_samePointers m c requests)) trivial
  | serviceDone index =>
    refine iff_of_true ?_ trivial
    simp only [step]
    split
    · exact h
    · have herased : Base { m with inFlight := m.inFlight.eraseIdx index } :=
        ⟨hb.back, hb.mapped, hb.session_fresh, hb.connection_fresh, hb.logon_alive⟩
      have hsym : Symmetric { m with inFlight := m.inFlight.eraseIdx index } := h
      exact hsym.moves herased (releaseSession_moves _ _)
  | close c => exact iff_of_true (h.moves hb (close_moves m c)) trivial
  | release c => exact iff_of_true (h.release hb c) trivial
  | closeUserSessions userId broken =>
    exact iff_of_true (h.moves hb (closeUserSessions_moves m broken userId)) trivial

/-- **Pointer symmetry.** Throughout a run a session is attached to a connection
exactly if the connection is open and serves it, if and only if every logon of
the run is completed on a connection that is closed, or serves no session at
that point (other than one which the logon itself has just destroyed), and whose
response is not lost on the spot with a session to bind. -/
theorem always_symmetric_iff_logonSafe (es : List Event) :
    system.Always Symmetric es ↔ system.Meets LogonSafe es := by
  have hinit : Symmetric (system).init := by
    intro s c
    constructor
    · intro hs
      cases hs
    · rintro ⟨hopen, -⟩
      cases hopen
  refine system.always_iff_meets (fun m => m.Base ∧ m.Symmetric) Symmetric LogonSafe
    ⟨base_run [], hinit⟩ (fun m h => h.2) ?_ ?_ es
  · rintro m e ⟨hb, h⟩ hsafe
    exact ⟨hb.step e, (step_symmetric_iff h hb e).mpr hsafe⟩
  · rintro m e ⟨hb, h⟩ hunsafe hsym
    exact hunsafe ((step_symmetric_iff h hb e).mp hsym)

/-- A client logs on and sends another create-session request, with a version
the server does not speak: the refusal unbinds the connection, but the session
stays attached to it. -/
def refusedLogonRun : List Event :=
  [.accept, .createSession 0 { versionMajor := 20 } fun _ => false,
    .authenticated 0 (some { userId := {} }) fun _ => false,
    .createSession 0 { versionMajor := 19 } fun _ => false]

theorem not_always_symmetric_refusedLogonRun : ¬ system.Always Symmetric refusedLogonRun := by
  intro halways
  have hsym := halways refusedLogonRun (List.prefix_refl _)
  obtain ⟨-, hserved⟩ := (hsym 0 0).mp rfl
  cases hserved

end SessionManager

end ScadaCore.Remote
