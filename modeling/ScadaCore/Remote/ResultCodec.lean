import ScadaCore.Remote.EventCodec
import ScadaCore.Remote.RequestCodec

/-!
# Remote.ResultCodec — results on the wire and the classes of their status codes

The `Convert` overloads that read the results of the browse, translate and
add-nodes services. Their status code is one 32-bit number that is cast, as in a
data value, while a response has its status as severity and sub-code, which
`MakeStatusCode` puts together.

`GetSeverity` shifts the code down by 14 and compares all that is left, `Status`
moves the code up by a half-word first. So the two agree on the codes of 16 bits,
which a message of severity and sub-code always gives and a number need not be.
-/

namespace ScadaCore.Remote.Wire

structure ReferenceDescription where
  referenceTypeId : NodeId := {}
  forward : Bool := false
  nodeId : NodeId := {}
deriving DecidableEq, Repr

structure BrowseResult where
  statusCode : BitVec 32 := 0
  references : List ReferenceDescription := []
deriving DecidableEq, Repr

structure BrowsePathTarget where
  targetId : NodeId := {}
  remainingPathIndex : UInt32 := 0
deriving DecidableEq, Repr

structure BrowsePathResult where
  statusCode : BitVec 32 := 0
  target : List BrowsePathTarget := []
deriving DecidableEq, Repr

structure AddNodeResult where
  statusCode : BitVec 32 := 0
  addedNodeId : Option NodeId := none
deriving DecidableEq, Repr

def ReferenceDescription.convert (source : ReferenceDescription) : Scada.ReferenceDescription :=
  { referenceTypeId := source.referenceTypeId.convert
    forward := source.forward
    nodeId := source.nodeId.convert }

def BrowseResult.convert (source : BrowseResult) : Scada.BrowseResult :=
  { statusCode := ⟨source.statusCode⟩
    references := source.references.map ReferenceDescription.convert }

def BrowsePathTarget.convert (source : BrowsePathTarget) : Scada.BrowsePathTarget :=
  { targetId := { nodeId := source.targetId.convert }
    remainingPathIndex := source.remainingPathIndex.toNat }

def BrowsePathResult.convert (source : BrowsePathResult) : Scada.BrowsePathResult :=
  { statusCode := ⟨source.statusCode⟩
    targets := source.target.map BrowsePathTarget.convert }

def AddNodeResult.convert (source : AddNodeResult) : Scada.AddNodesResult :=
  { statusCode := ⟨source.statusCode⟩
    addedNodeId := NodeId.ofField source.addedNodeId }

open Scada.Status (Consistent consistent_iff)

/-! ## A code sent as a number -/

/-- The status code of a data value is the number that was sent, whatever the
value and the times hold. -/
theorem DataValue.statusCode_of_convert {wire : DataValue}
    {d : Scada.DataValue Scada.Value} (h : wire.convert = some d) :
    d.statusCode = ⟨wire.statusCode⟩ := by
  unfold DataValue.convert at h
  rcases Option.bind_eq_some_iff.mp h with ⟨serverTimestamp, _, h⟩
  rcases Option.bind_eq_some_iff.mp h with ⟨sourceTimestamp, _, h⟩
  rcases Option.bind_eq_some_iff.mp h with ⟨value, _, h⟩
  rw [← Option.some.inj h]

/-! ## A code sent as severity and sub-code -/

def StatusCode.Declared (source : StatusCode) : Prop :=
  source.severity = 0 ∨ source.severity = 1 ∨ source.severity = 2

instance (source : StatusCode) : Decidable source.Declared :=
  inferInstanceAs (Decidable (_ ∨ _ ∨ _))

/-- The two bits that the encoder masks out of a sub-code and the decoder lets
through. -/
def StatusCode.spill (source : StatusCode) : BitVec 32 := source.subCode >>> 14 &&& 3

theorem StatusCode.spill_cases (source : StatusCode) :
    source.spill = 0 ∨ source.spill = 1 ∨ source.spill = 2 ∨ source.spill = 3 := by
  have hlt : source.spill.toNat < 4 := by
    unfold StatusCode.spill
    rw [BitVec.toNat_and]
    exact Nat.and_lt_two_pow _ (by decide : (3#32).toNat < 2 ^ 2)
  change source.spill = 0#32 ∨ source.spill = 1#32 ∨ source.spill = 2#32 ∨ source.spill = 3#32
  simp only [← BitVec.toNat_inj, BitVec.toNat_ofNat]
  omega

section

variable (source : StatusCode) (h : source.Declared)

include h

theorem StatusCode.getSeverity_convert :
    source.convert.getSeverity = source.severity ||| source.spill := by
  unfold Scada.StatusCode.getSeverity StatusCode.convert StatusCode.spill
  rw [BitVec.ushiftRight_or_distrib, BitVec.ushiftRight_and_distrib]
  have hmask : (0xffff : BitVec 32) >>> 14 = 3 := by decide
  have hseverity : source.severity <<< 14 >>> 14 = source.severity := by
    rcases h with h | h | h <;> rw [h] <;> decide
  rw [hmask, hseverity]

/-- Declared severities and 16 bits of a sub-code make a code of 16 bits. -/
theorem StatusCode.consistent_convert : Consistent source.convert := by
  rw [consistent_iff]
  have hseverity : source.convert.getSeverity.toNat < 4 := by
    rw [source.getSeverity_convert h]
    rcases h with h | h | h <;> rcases source.spill_cases with hs | hs | hs | hs <;>
      rw [h, hs] <;> decide
  rw [Scada.StatusCode.getSeverity, BitVec.toNat_ushiftRight, Nat.shiftRight_eq_div_pow]
    at hseverity
  omega

theorem StatusCode.getSeverity_convert_eq_iff :
    source.convert.getSeverity = source.severity ↔
      source.spill = 0 ∨ source.spill = source.severity := by
  rw [source.getSeverity_convert h]
  rcases h with h | h | h <;> rcases source.spill_cases with hs | hs | hs | hs <;>
    rw [h, hs] <;> decide

end

/-! ## Every code that is received -/

/-- A code that came as a number is classified alike by `StatusCode` and `Status`
if and only if it has 16 bits. One that came as severity and sub-code always is,
and it has the severity that was sent if and only if bits 14 and 15 of the
sub-code are clear or repeat it. -/
theorem statusCodes_classified_iff (value : DataValue) (browse : BrowseResult)
    (path : BrowsePathResult) (added : AddNodeResult) (status : StatusCode) :
    (∀ d, value.convert = some d →
      (Consistent d.statusCode ↔ value.statusCode.toNat < 2 ^ 16)) ∧
    (Consistent browse.convert.statusCode ↔ browse.statusCode.toNat < 2 ^ 16) ∧
    (Consistent path.convert.statusCode ↔ path.statusCode.toNat < 2 ^ 16) ∧
    (Consistent added.convert.statusCode ↔ added.statusCode.toNat < 2 ^ 16) ∧
    (status.Declared →
      Consistent status.convert ∧ (status.convert.getSeverity = status.severity ↔
        status.spill = 0 ∨ status.spill = status.severity)) := by
  refine ⟨?_, consistent_iff _, consistent_iff _, consistent_iff _, ?_⟩
  · intro d h
    rw [DataValue.statusCode_of_convert h]
    exact consistent_iff _
  · intro h
    exact ⟨status.consistent_convert h, status.getSeverity_convert_eq_iff h⟩

/-- A number of one bit more is a Good status whose code is not `IsGood`, in every
result; and Good with a sub-code of `0x4000` is read as Uncertain. -/
theorem statusCodes_misclassified :
    let wide : Scada.StatusCode := ⟨0x10000⟩
    let uncertain : StatusCode := { severity := 0, subCode := 0x4000 }
    ({ statusCode := 0x10000 } : DataValue).convert = some { value := none, statusCode := wide } ∧
    ({ statusCode := 0x10000 } : BrowseResult).convert.statusCode = wide ∧
    ({ statusCode := 0x10000 } : BrowsePathResult).convert.statusCode = wide ∧
    ({ statusCode := 0x10000 } : AddNodeResult).convert.statusCode = wide ∧
    (Scada.Status.ofCode wide).good = true ∧ wide.isGood = false ∧
    (Scada.Status.ofCode wide).code = .good ∧ ¬ Consistent wide ∧
    uncertain.Declared ∧ uncertain.convert.isUncertain = true ∧
    uncertain.convert.getSeverity ≠ uncertain.severity := by
  have hwide : ¬ Consistent ⟨0x10000⟩ := by
    rw [consistent_iff]
    decide
  exact ⟨rfl, rfl, rfl, rfl, by decide, by decide, by decide, hwide, by decide, by decide,
    by decide⟩

end ScadaCore.Remote.Wire
