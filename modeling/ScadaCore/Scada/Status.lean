import Mathlib.Data.BitVec

/-!
# Scada.Status — status codes and statuses

`scada::StatusCode` is an unsigned 32-bit enumeration whose severity sits above
bit 14; `scada::Status` keeps the code in its upper half-word, so its severity
is the top two bits. A code that reached the process from a peer may hold any
32-bit value, which is why both are bit vectors and not enumerations.
-/

namespace ScadaCore.Scada

/-- `enum class StatusCode : unsigned`. -/
structure StatusCode where
  raw : BitVec 32
deriving DecidableEq, Repr

namespace StatusCode

/-- `Bad | n`, the shape of every `Bad_...` constant. -/
def badSub (n : Nat) : StatusCode := ⟨(2#32 <<< 14) ||| BitVec.ofNat 32 n⟩

def good : StatusCode := ⟨0⟩
def bad : StatusCode := badSub 0
def badObjectIsBusy : StatusCode := badSub 4
def badWrongNodeId : StatusCode := badSub 5
def badDisconnected : StatusCode := badSub 7
def badCantDeleteOwnUser : StatusCode := badSub 13
def badWrongSubscriptionId : StatusCode := badSub 19
def badWrongAttributeId : StatusCode := badSub 32
def badMonitoredItemIdInvalid : StatusCode := badSub 37

variable (c : StatusCode)

/-- `GetSeverity`: everything above the 14 bits of the sub-code. -/
def getSeverity : BitVec 32 := c.raw >>> 14

def getSubCode : BitVec 32 := c.raw &&& 0x3fff

def isGood : Bool := c.getSeverity == 0
def isUncertain : Bool := c.getSeverity == 1
def isBad : Bool := c.getSeverity == 2

theorem not_isGood_of_isBad {c : StatusCode} (h : c.isBad) : ¬ c.isGood := by
  have hbad : c.getSeverity = 2 := eq_of_beq h
  intro hgood
  have hzero : c.getSeverity = 0 := eq_of_beq hgood
  rw [hbad] at hzero
  cases hzero

end StatusCode

/-- `class Status`: the code in the upper half-word, limit bits below. -/
structure Status where
  fullCode : BitVec 32
deriving DecidableEq, Repr

namespace Status

variable (c : StatusCode)

def ofCode : Status := ⟨c.raw <<< 16⟩

variable (s : Status)

def severity : BitVec 32 := s.fullCode >>> 30
def good : Bool := s.severity == 0
def uncertain : Bool := s.severity == 1
/-- `operator!`; `operator bool` is its negation, so an uncertain status
converts to `true`. -/
def bad : Bool := s.severity == 2
def code : StatusCode := ⟨s.fullCode >>> 16⟩

instance : Coe StatusCode Status := ⟨ofCode⟩

/-- A status and its own code agree on badness: the half-word shift loses
nothing of the severity. -/
theorem bad_eq_code_isBad : s.bad = s.code.isBad := by
  have h : s.fullCode >>> 30 = s.fullCode >>> 16 >>> 14 := by
    rw [← BitVec.shiftRight_add]
  unfold bad StatusCode.isBad severity StatusCode.getSeverity code
  rw [h]

theorem not_code_isGood_of_bad {s : Status} (h : s.bad) : ¬ s.code.isGood :=
  StatusCode.not_isGood_of_isBad (s.bad_eq_code_isBad ▸ h)

/-- A code that travels keeps the badness of the status it was taken from. -/
theorem bad_ofCode_code : (ofCode s.code).bad = s.bad := by
  have h : s.fullCode >>> 16 <<< 16 >>> 30 = s.fullCode >>> 30 := by
    ext i hi
    simp only [BitVec.getElem_ushiftRight, BitVec.getLsbD_shiftLeft, BitVec.getLsbD_ushiftRight]
    by_cases hlt : 30 + i < 32
    · have hge : 16 ≤ 30 + i := by omega
      simp [hlt, hge, show 16 + (30 + i - 16) = 30 + i by omega]
    · simp [hlt, BitVec.getLsbD_of_ge _ _ (Nat.le_of_not_lt hlt)]
  unfold bad severity ofCode code
  rw [h]

/-! ## A code against the status made of it -/

theorem severity_ofCode : (ofCode c).severity.toNat = c.getSeverity.toNat % 4 := by
  have hraw : c.raw.toNat < 4294967296 := c.raw.isLt
  simp only [severity, ofCode, StatusCode.getSeverity, BitVec.toNat_ushiftRight,
    BitVec.toNat_shiftLeft, Nat.shiftRight_eq_div_pow, Nat.shiftLeft_eq]
  omega

theorem code_ofCode : (ofCode c).code = c ↔ c.raw.toNat < 2 ^ 16 := by
  have hcode : (ofCode c).code.raw.toNat = c.raw.toNat % 2 ^ 16 := by
    simp only [code, ofCode, BitVec.toNat_ushiftRight, BitVec.toNat_shiftLeft,
      Nat.shiftRight_eq_div_pow, Nat.shiftLeft_eq]
    omega
  rw [StatusCode.mk.injEq, ← BitVec.toNat_inj, hcode]
  omega

theorem severity_beq (a : BitVec 32) (n : Nat) (hn : n < 3) :
    (a == BitVec.ofNat 32 n) = decide (a.toNat = n) := by
  rw [Bool.eq_iff_iff, beq_iff_eq, decide_eq_true_iff, ← BitVec.toNat_inj, BitVec.toNat_ofNat,
    Nat.mod_eq_of_lt (by omega)]

/-- The tests of a code and of the status made of it agree unless bits above the
half-word are set. The reserved severity, which neither side tests, hides them. -/
theorem tests_agree_iff :
    (c.isBad = (ofCode c).bad ∧ c.isUncertain = (ofCode c).uncertain ∧
      c.isGood = (ofCode c).good) ↔
      c.raw.toNat < 2 ^ 16 ∨ c.getSeverity.toNat % 4 = 3 := by
  have hseverity : c.getSeverity.toNat = c.raw.toNat / 2 ^ 14 := by
    rw [StatusCode.getSeverity, BitVec.toNat_ushiftRight, Nat.shiftRight_eq_div_pow]
  simp only [StatusCode.isBad, StatusCode.isUncertain, StatusCode.isGood, bad, uncertain, good]
  rw [show (2 : BitVec 32) = BitVec.ofNat 32 2 from rfl,
    show (1 : BitVec 32) = BitVec.ofNat 32 1 from rfl,
    show (0 : BitVec 32) = BitVec.ofNat 32 0 from rfl]
  simp only [severity_beq _ _ (by decide : 2 < 3), severity_beq _ _ (by decide : 1 < 3),
    severity_beq _ _ (by decide : 0 < 3), severity_ofCode, decide_eq_decide]
  omega

/-- A code says the same of itself as the status made of it, and is the code of
that status. -/
structure Consistent (c : StatusCode) : Prop where
  bad : c.isBad = (ofCode c).bad
  uncertain : c.isUncertain = (ofCode c).uncertain
  good : c.isGood = (ofCode c).good
  code : (ofCode c).code = c

theorem consistent_iff : Consistent c ↔ c.raw.toNat < 2 ^ 16 := by
  constructor
  · intro h
    exact (code_ofCode c).mp h.code
  · intro hraw
    rcases (tests_agree_iff c).mpr (.inl hraw) with ⟨hbad, huncertain, hgood⟩
    exact ⟨hbad, huncertain, hgood, (code_ofCode c).mpr hraw⟩

/-- The error of a `StatusOr`; its constructor checks that the status is Bad. -/
abbrev Error := {status : Status // status.bad}

/-- The error of a backend that has gone. -/
def disconnected : Error := ⟨StatusCode.badDisconnected, by decide⟩

end Status

abbrev StatusOr (T : Type) := Except Status.Error T

def StatusOr.status {T : Type} : StatusOr T → Status
  | .ok _ => StatusCode.good
  | .error error => error.1

def StatusOr.valueOr {T : Type} : StatusOr (List T) → List T
  | .ok values => values
  | .error _ => []

end ScadaCore.Scada
