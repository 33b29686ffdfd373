import ScadaCore.Data.MachineInt
import ScadaCore.Scada.EventFields

/-!
# Scada.VariantGetters — a variant read as another type

The overloads of `Variant::get` write to a target and say whether the variant could be
read as a value of its type; `get_or` and `ChangeType` are made of them. An integer is
read as a signed 64-bit one first and then cast to the type of the target, and it is
taken to fit if the cast back gives the same.
-/

namespace ScadaCore.Scada

open Variant MachineInt

/-! ## The integer types -/

/-- `Int8` to `UInt64`. -/
inductive IntType where
  | int8 | uint8 | int16 | uint16 | int32 | uint32 | int64 | uint64
deriving DecidableEq, Repr

namespace IntType

def format : IntType → MachineInt
  | .int8 => ⟨8, true⟩
  | .uint8 => ⟨8, false⟩
  | .int16 => ⟨16, true⟩
  | .uint16 => ⟨16, false⟩
  | .int32 => ⟨32, true⟩
  | .uint32 => ⟨32, false⟩
  | .int64 => ⟨64, true⟩
  | .uint64 => ⟨64, false⟩

def Carrier : IntType → Type
  | .int8 => Int8
  | .uint8 => UInt8
  | .int16 => Int16
  | .uint16 => UInt16
  | .int32 => Int32
  | .uint32 => UInt32
  | .int64 => Int64
  | .uint64 => UInt64

def toInt : (t : IntType) → t.Carrier → Int
  | .int8, value => Int8.toInt value
  | .uint8, value => UInt8.toNat value
  | .int16, value => Int16.toInt value
  | .uint16, value => UInt16.toNat value
  | .int32, value => Int32.toInt value
  | .uint32, value => UInt32.toNat value
  | .int64, value => Int64.toInt value
  | .uint64, value => UInt64.toNat value

/-- `static_cast<T>` of an `Int64`. -/
def narrow : (t : IntType) → Int64 → t.Carrier
  | .int8 => Int64.toInt8
  | .uint8 => fun wide => wide.toUInt64.toUInt8
  | .int16 => Int64.toInt16
  | .uint16 => fun wide => wide.toUInt64.toUInt16
  | .int32 => Int64.toInt32
  | .uint32 => fun wide => wide.toUInt64.toUInt32
  | .int64 => id
  | .uint64 => Int64.toUInt64

/-- `static_cast<Int64>` of a value. -/
def widen : (t : IntType) → t.Carrier → Int64
  | .int8 => Int8.toInt64
  | .uint8 => fun value => (UInt8.toUInt64 value).toInt64
  | .int16 => Int16.toInt64
  | .uint16 => fun value => (UInt16.toUInt64 value).toInt64
  | .int32 => Int32.toInt64
  | .uint32 => fun value => (UInt32.toUInt64 value).toInt64
  | .int64 => id
  | .uint64 => UInt64.toInt64

def scalar : (t : IntType) → t.Carrier → Scalar
  | .int8 => .int8
  | .uint8 => .uint8
  | .int16 => .int16
  | .uint16 => .uint16
  | .int32 => .int32
  | .uint32 => .uint32
  | .int64 => .int64
  | .uint64 => .uint64

def type : IntType → VariantType
  | .int8 => .int8
  | .uint8 => .uint8
  | .int16 => .int16
  | .uint16 => .uint16
  | .int32 => .int32
  | .uint32 => .uint32
  | .int64 => .int64
  | .uint64 => .uint64

/-- Some value of the type stands for the integer. -/
def Represents (t : IntType) (m : Int) : Prop := ∃ value, t.toInt value = m

end IntType

/-! ## The getters -/

variable (conv : Conversions)

namespace Variant

def type : Variant → VariantType
  | none => .empty
  | some (.scalar scalar) => scalar.type
  | some (.array elements) => elements.type

def isScalar : Variant → Bool
  | some (.array _) => false
  | _ => true

def getInt8 : Conversions → Variant → Int8 → Bool × Int8 :=
  getInt Int64.toInt8 Int8.toInt64

def getInt16 : Conversions → Variant → Int16 → Bool × Int16 :=
  getInt Int64.toInt16 Int16.toInt64

def getUInt16 : Conversions → Variant → UInt16 → Bool × UInt16 :=
  getInt (fun wide => wide.toUInt64.toUInt16) (fun value => value.toUInt64.toInt64)

def getDouble : Variant → Option Double
  | some (.scalar (.bool value)) => some ⟨(if value then 1.0 else 0.0 : Float).toBits⟩
  | some (.scalar (.double value)) => some value
  | v => (v.getInt64 conv).map fun value => ⟨value.toFloat.toBits⟩

def getQualifiedName : Variant → Option QualifiedName
  | some (.scalar (.qualifiedName value)) => some value
  | _ => none

end Variant

/-- A getter that writes to its target only if it has something to write: what it
returns, and what the target holds. -/
def assigned {T : Type} (found : Option T) (target : T) : Bool × T :=
  match found with
  | some value => (true, value)
  | none => (false, target)

/-- The overloads of `Variant::get` for the integers. -/
def getInteger (v : Variant) : (t : IntType) → t.Carrier → Bool × t.Carrier
  | .int8 => getInt8 conv v
  | .uint8 => getUInt8 conv v
  | .int16 => getInt16 conv v
  | .uint16 => getUInt16 conv v
  | .int32 => getInt32 conv v
  | .uint32 => getUInt32 conv v
  | .int64 => assigned (getInt64 conv v)
  | .uint64 => getUInt64 conv v

/-- The types that `Variant::get` has an overload for, which are also the types that
`ChangeType` supports. -/
inductive Target where
  | bool
  | integer (t : IntType)
  | double
  | string
  | qualifiedName
  | localizedText
  | nodeId
deriving DecidableEq, Repr

namespace Target

def Carrier : Target → Type
  | .bool => Bool
  | .integer t => t.Carrier
  | .double => Double
  | .string => String
  | .qualifiedName => QualifiedName
  | .localizedText => LocalizedText
  | .nodeId => NodeId

def type : Target → VariantType
  | .bool => .bool
  | .integer t => t.type
  | .double => .double
  | .string => .string
  | .qualifiedName => .qualifiedName
  | .localizedText => .localizedText
  | .nodeId => .nodeId

def scalar : (target : Target) → target.Carrier → Scalar
  | .bool => .bool
  | .integer t => t.scalar
  | .double => .double
  | .string => .string
  | .qualifiedName => .qualifiedName
  | .localizedText => .localizedText
  | .nodeId => .nodeId

end Target

namespace Variant

def get (v : Variant) :
    (target : Target) → target.Carrier → Bool × target.Carrier
  | .bool => assigned (v.getBool conv)
  | .integer t => getInteger conv v t
  | .double => assigned (v.getDouble conv)
  | .string => assigned (v.getString conv)
  | .qualifiedName => assigned v.getQualifiedName
  | .localizedText => assigned (v.getLocalizedText conv)
  | .nodeId => assigned v.getNodeId

def getOr (v : Variant) (target : Target) (orValue : target.Carrier) : target.Carrier :=
  (v.get conv target orValue).2

/-- `Variant::ChangeTypeTo`; `unset` is what a variable holds that nothing was assigned
to. -/
def changeTypeTo (unset : (target : Target) → target.Carrier)
    (target : Target) (v : Variant) : Bool × Variant :=
  match v.get conv target (unset target) with
  | (false, _) => (false, v)
  | (true, value) => (true, some (.scalar (target.scalar value)))

/-- `Variant::ChangeType`; `none` is a failed check. -/
def changeType (unset : (target : Target) → target.Carrier)
    (newType : VariantType) (v : Variant) : Option (Bool × Variant) :=
  if newType = .empty then none
  else if !v.isScalar then some (false, v)
  else if v.type = newType then some (true, v)
  else
    match newType with
    | .bool => some (v.changeTypeTo conv unset .bool)
    | .int8 => some (v.changeTypeTo conv unset (.integer .int8))
    | .uint8 => some (v.changeTypeTo conv unset (.integer .uint8))
    | .int16 => some (v.changeTypeTo conv unset (.integer .int16))
    | .uint16 => some (v.changeTypeTo conv unset (.integer .uint16))
    | .int32 => some (v.changeTypeTo conv unset (.integer .int32))
    | .uint32 => some (v.changeTypeTo conv unset (.integer .uint32))
    | .int64 => some (v.changeTypeTo conv unset (.integer .int64))
    | .uint64 => some (v.changeTypeTo conv unset (.integer .uint64))
    | .double => some (v.changeTypeTo conv unset .double)
    | .string => some (v.changeTypeTo conv unset .string)
    | .qualifiedName => some (v.changeTypeTo conv unset .qualifiedName)
    | .localizedText => some (v.changeTypeTo conv unset .localizedText)
    | .nodeId => some (v.changeTypeTo conv unset .nodeId)
    | _ => none

end Variant

/-! ## Casting there and back -/

namespace IntType

variable {t : IntType} {wide : Int64} {m : Int}

theorem toInt_eq_bmod (wide : Int64) : wide.toInt = (wide.toUInt64.toNat : Int).bmod (2 ^ 64) :=
  BitVec.toInt_eq_toNat_bmod wide.toBitVec

theorem toInt_toInt64 (value : UInt64) : value.toInt64.toInt = (value.toNat : Int).bmod (2 ^ 64) :=
  BitVec.toInt_eq_toNat_bmod value.toBitVec

theorem toNat_toUInt64 (wide : Int64) : (wide.toUInt64.toNat : Int) = wide.toInt % 2 ^ 64 := by
  have hlt := wide.toUInt64.toNat_lt
  rw [toInt_eq_bmod, Int.bmod_def]
  omega

theorem cast_unsigned_eq {width : Nat} (hwidth : width ≤ 64) (wide : Int64) :
    cast ⟨width, false⟩ wide.toInt =
      ((wide.toUInt64.toNat % 2 ^ width : Nat) : Int) := by
  have hlow : wide.toInt % 2 ^ 64 % 2 ^ width = wide.toInt % 2 ^ width :=
    Int.emod_emod_of_dvd _ (pow_dvd_pow 2 hwidth)
  rw [cast_unsigned, ← hlow, ← toNat_toUInt64]
  simp

theorem toInt_narrow (t : IntType) (wide : Int64) :
    t.toInt (t.narrow wide) = t.format.cast wide.toInt := by
  cases t with
  | int8 => exact (Int64.toInt_toInt8 wide).trans (cast_signed 7 _).symm
  | int16 => exact (Int64.toInt_toInt16 wide).trans (cast_signed 15 _).symm
  | int32 => exact (Int64.toInt_toInt32 wide).trans (cast_signed 31 _).symm
  | int64 =>
    refine (cast_of_holds ?_).symm
    exact ⟨wide.le_toInt, wide.toInt_lt⟩
  | uint8 =>
    rw [format, cast_unsigned_eq (by decide), ← UInt64.toNat_toUInt8]
    rfl
  | uint16 =>
    rw [format, cast_unsigned_eq (by decide), ← UInt64.toNat_toUInt16]
    rfl
  | uint32 =>
    rw [format, cast_unsigned_eq (by decide), ← UInt64.toNat_toUInt32]
    rfl
  | uint64 => exact (toNat_toUInt64 wide).trans (cast_unsigned 64 _).symm

theorem holds_toInt (t : IntType) (value : t.Carrier) : t.format.Holds (t.toInt value) := by
  cases t with
  | int8 => exact ⟨Int8.le_toInt value, Int8.toInt_lt value⟩
  | int16 => exact ⟨Int16.le_toInt value, Int16.toInt_lt value⟩
  | int32 => exact ⟨Int32.le_toInt value, Int32.toInt_lt value⟩
  | int64 => exact ⟨Int64.le_toInt value, Int64.toInt_lt value⟩
  | uint8 => exact holds_natCast (UInt8.toNat_lt value)
  | uint16 => exact holds_natCast (UInt16.toNat_lt value)
  | uint32 => exact holds_natCast (UInt32.toNat_lt value)
  | uint64 => exact holds_natCast (UInt64.toNat_lt value)

theorem within_int64 (h : t ≠ .uint64) : t.format.Within int64.format := by
  cases t <;> first | decide | exact absurd rfl h

theorem toInt_widen (t : IntType) (value : t.Carrier) :
    (t.widen value).toInt = int64.format.cast (t.toInt value) := by
  -- the unsigned types are widened through `UInt64`, and the signed ones keep their value
  have hunsigned (wide : UInt64) : wide.toInt64.toInt = int64.format.cast wide.toNat :=
    (toInt_toInt64 wide).trans (cast_signed 63 _).symm
  have hsigned (ht : t ≠ .uint64) : t.toInt value = int64.format.cast (t.toInt value) :=
    (cast_of_holds ((within_int64 ht).holds (t.holds_toInt value))).symm
  cases t with
  | int8 => exact (Int8.toInt_toInt64 value).trans (hsigned (by decide))
  | int16 => exact (Int16.toInt_toInt64 value).trans (hsigned (by decide))
  | int32 => exact (Int32.toInt_toInt64 value).trans (hsigned (by decide))
  | int64 => exact hsigned (by decide)
  | uint8 => exact hunsigned (UInt8.toUInt64 value)
  | uint16 => exact hunsigned (UInt16.toUInt64 value)
  | uint32 => exact hunsigned (UInt32.toUInt64 value)
  | uint64 => exact hunsigned value

/-- **The test whether an integer fits.** It always passes for `UInt64`. -/
theorem widen_narrow_iff : t.widen (t.narrow wide) = wide ↔
    t = .uint64 ∨ t.format.Holds wide.toInt := by
  rw [← Int64.toInt_inj, toInt_widen, toInt_narrow]
  by_cases ht : t = .uint64
  · subst ht
    refine iff_of_true ?_ (.inl rfl)
    exact cast_cast_of_width rfl (int64.holds_toInt wide)
  · rw [cast_cast_of_within (within_int64 ht)]
    simp [ht]

theorem represents_iff : t.Represents m ↔ t.format.Holds m := by
  constructor
  · rintro ⟨value, rfl⟩
    exact t.holds_toInt value
  · intro h
    -- the value of the 64-bit integer with the same bits
    refine ⟨t.narrow (Int64.ofInt m), ?_⟩
    have hbits : (Int64.ofInt m).toInt = int64.format.cast m :=
      Int64.toInt_ofInt.trans (cast_signed 63 m).symm
    rw [toInt_narrow, hbits]
    by_cases ht : t = .uint64
    · subst ht
      exact cast_cast_of_width rfl h
    · rw [cast_of_holds ((within_int64 ht).holds h), cast_of_holds h]

end IntType

/-! ## Reading an integer -/

/-- The integer that a scalar stands for, if it is a boolean or an integer. -/
def Scalar.integer : Scalar → Option Int
  | .bool value => some (if value then 1 else 0)
  | .int8 value => some (IntType.int8.toInt value)
  | .uint8 value => some (IntType.uint8.toInt value)
  | .int16 value => some (IntType.int16.toInt value)
  | .uint16 value => some (IntType.uint16.toInt value)
  | .int32 value => some (IntType.int32.toInt value)
  | .uint32 value => some (IntType.uint32.toInt value)
  | .int64 value => some (IntType.int64.toInt value)
  | .uint64 value => some (IntType.uint64.toInt value)
  | _ => none

variable {conv} {v : Variant} {t : IntType} {m : Int}

/-- All integers are read in the same way; `Int64` passes the test of `get_int` too. -/
theorem getInteger_eq_getInt (conv : Conversions) (v : Variant) (t : IntType) (x : t.Carrier) :
    getInteger conv v t x = getInt t.narrow t.widen conv v x := by
  cases t with
  | int64 =>
    rw [getInteger, getInt]
    cases v.getInt64 conv with
    | none => rfl
    | some wide => exact Prod.ext (beq_self_eq_true wide).symm rfl
  | _ => rfl

/-- What a getter returns for a variant that has a 64-bit integer. -/
theorem getInteger_of_getInt64 {wide : Int64} (h : v.getInt64 conv = some wide) (x : t.Carrier) :
    ((getInteger conv v t x).1 = true ↔ t = .uint64 ∨ t.format.Holds wide.toInt) ∧
      (getInteger conv v t x).2 = t.narrow wide := by
  rw [getInteger_eq_getInt, getInt, h]
  constructor
  · rw [beq_iff_eq]
    exact IntType.widen_narrow_iff
  · rfl

theorem Scalar.cases_of_integer {scalar : Scalar} (h : scalar.integer = some m) :
    (∃ value, scalar = .bool value ∧ m = if value then 1 else 0) ∨
      ∃ (t : IntType) (value : t.Carrier), scalar = t.scalar value ∧ m = t.toInt value := by
  cases scalar with
  | bool value => exact .inl ⟨value, rfl, (Option.some.inj h).symm⟩
  | int8 value => exact .inr ⟨.int8, value, rfl, (Option.some.inj h).symm⟩
  | uint8 value => exact .inr ⟨.uint8, value, rfl, (Option.some.inj h).symm⟩
  | int16 value => exact .inr ⟨.int16, value, rfl, (Option.some.inj h).symm⟩
  | uint16 value => exact .inr ⟨.uint16, value, rfl, (Option.some.inj h).symm⟩
  | int32 value => exact .inr ⟨.int32, value, rfl, (Option.some.inj h).symm⟩
  | uint32 value => exact .inr ⟨.uint32, value, rfl, (Option.some.inj h).symm⟩
  | int64 value => exact .inr ⟨.int64, value, rfl, (Option.some.inj h).symm⟩
  | uint64 value => exact .inr ⟨.uint64, value, rfl, (Option.some.inj h).symm⟩
  | _ => cases h

theorem getInt64_scalar (conv : Conversions) (t : IntType) (value : t.Carrier) :
    getInt64 conv (some (.scalar (t.scalar value))) = some (t.widen value) := by
  cases t <;> rfl

theorem getInt64_of_integer (conv : Conversions) {scalar : Scalar}
    (h : scalar.integer = some m) :
    ∃ wide, getInt64 conv (some (.scalar scalar)) = some wide ∧
      wide.toInt = IntType.int64.format.cast m := by
  rcases Scalar.cases_of_integer h with ⟨value, rfl, rfl⟩ | ⟨t, value, rfl, rfl⟩
  · refine ⟨_, rfl, ?_⟩
    cases value <;> decide
  · exact ⟨_, getInt64_scalar conv t value, t.toInt_widen value⟩

theorem holds_of_integer {scalar : Scalar} (h : scalar.integer = some m) :
    IntType.int64.format.Holds m ∨ IntType.uint64.format.Holds m := by
  rcases Scalar.cases_of_integer h with ⟨value, rfl, rfl⟩ | ⟨t, value, rfl, rfl⟩
  · cases value <;> decide
  · by_cases ht : t = .uint64
    · subst ht
      exact .inr (IntType.uint64.holds_toInt value)
    · exact .inl ((IntType.within_int64 ht).holds (t.holds_toInt value))

/-- The integers that are taken for others: a negative one for an unsigned 64-bit one,
and an unsigned one that no `Int64` holds for the negative one with the same bits. -/
def Misread (t : IntType) (m : Int) : Prop :=
  m < 0 ∧ t = .uint64 ∨ 2 ^ 63 ≤ m ∧ t.Represents (m - 2 ^ 64)

theorem holds_int64_iff : IntType.int64.format.Holds m ↔ -2 ^ 63 ≤ m ∧ m < 2 ^ 63 := Iff.rfl

theorem holds_uint64_iff : IntType.uint64.format.Holds m ↔ 0 ≤ m ∧ m < 2 ^ 64 := Iff.rfl

theorem cast_int64_of_uint64 (hm : IntType.uint64.format.Holds m)
    (hnot : ¬ IntType.int64.format.Holds m) : IntType.int64.format.cast m = m - 2 ^ 64 := by
  rw [holds_uint64_iff] at hm
  rw [holds_int64_iff] at hnot
  refine (cast_sub_size IntType.int64.format m).symm.trans
    (cast_of_holds (holds_int64_iff.mpr ?_))
  change -2 ^ 63 ≤ m - 2 ^ 64 ∧ m - 2 ^ 64 < 2 ^ 63
  omega

/-- A `UInt64` takes every integer, and keeps those that it holds. -/
theorem misread_uint64_iff (hm : IntType.int64.format.Holds m ∨ IntType.uint64.format.Holds m) :
    Misread .uint64 m ↔ ¬ IntType.uint64.format.Holds m := by
  simp only [Misread, IntType.represents_iff, holds_uint64_iff, holds_int64_iff, and_true] at hm ⊢
  omega

/-- A type other than `UInt64` holds no integer that an `Int64` does not. -/
theorem misread_iff_of_ne (ht : t ≠ .uint64)
    (hm : IntType.int64.format.Holds m ∨ IntType.uint64.format.Holds m) :
    Misread t m ↔
      ¬ IntType.int64.format.Holds m ∧ t.format.Holds (IntType.int64.format.cast m) := by
  by_cases hint : IntType.int64.format.Holds m
  · have hlt := (holds_int64_iff.mp hint).2
    simp only [Misread, ht, and_false, false_or, hint, not_true, false_and, iff_false, not_and]
    omega
  · have huint := hm.resolve_left hint
    rw [cast_int64_of_uint64 huint hint]
    have hbig : 2 ^ 63 ≤ m := by
      rw [holds_int64_iff] at hint
      rw [holds_uint64_iff] at huint
      omega
    simp only [Misread, ht, and_false, false_or, hbig, hint, not_false_iff, true_and,
      IntType.represents_iff]

/-- **Reading an integer, exactly.** It is read as what it is, if it is none of those
that are taken for others. -/
theorem getInteger_exact_iff (conv : Conversions) (scalar : Scalar) (m : Int)
    (hm : scalar.integer = some m) (t : IntType) (x : t.Carrier) :
    (((getInteger conv (some (.scalar scalar)) t x).1 = true ↔ t.Represents m) ∧
      ((getInteger conv (some (.scalar scalar)) t x).1 = true →
        t.toInt (getInteger conv (some (.scalar scalar)) t x).2 = m)) ↔
      ¬ Misread t m := by
  rcases getInt64_of_integer conv hm with ⟨wide, hget, hwide⟩
  rcases getInteger_of_getInt64 (t := t) hget x with ⟨hreturned, hstored⟩
  rw [hstored, hreturned, IntType.toInt_narrow, hwide, IntType.represents_iff]
  have hheld := holds_of_integer hm
  by_cases ht : t = .uint64
  · subst ht
    rw [misread_uint64_iff hheld, not_not]
    constructor
    · rintro ⟨hiff, -⟩
      exact hiff.mp (.inl rfl)
    · intro h
      refine ⟨iff_of_true (.inl rfl) h, fun _ => ?_⟩
      exact cast_cast_of_width rfl h
  · rw [misread_iff_of_ne ht hheld]
    simp only [ht, false_or]
    by_cases hint : IntType.int64.format.Holds m
    · rw [cast_of_holds hint]
      simp only [hint, not_true, false_and, not_false_iff, iff_true]
      exact ⟨trivial, cast_of_holds⟩
    · -- no narrower type holds what an `Int64` does not
      have hnot : ¬ t.format.Holds m := fun h => hint ((IntType.within_int64 ht).holds h)
      simp only [hint, hnot, not_false_iff, true_and, iff_false]
      constructor
      · exact And.left
      · intro h
        exact ⟨h, fun h' => absurd h' h⟩

theorem getInteger_exact_iff_uint8 :
    ((getInteger .trivial (some (.scalar (.int32 300))) .uint8 (0 : UInt8)).1 = true ↔
      IntType.uint8.Represents 300) ∧
    ((getInteger .trivial (some (.scalar (.int32 300))) .uint8 (0 : UInt8)).1 = true →
      IntType.uint8.toInt (getInteger .trivial (some (.scalar (.int32 300))) .uint8 (0 : UInt8)).2 =
        300) :=
  (getInteger_exact_iff .trivial (.int32 300) 300 rfl .uint8 (0 : UInt8)).mpr (by simp [Misread])

/-- The largest `UInt64` is read as the `Int8` that is -1, and -1 as the largest
`UInt64`. -/
theorem getInteger_not_exact :
    getInteger .trivial (some (.scalar (.uint64 18446744073709551615))) .int8 (0 : Int8) =
      (true, (-1 : Int8)) ∧
    getInteger .trivial (some (.scalar (.int8 (-1)))) .uint64 (0 : UInt64) =
      (true, (18446744073709551615 : UInt64)) :=
  ⟨rfl, rfl⟩

/-! ## A getter that fails -/

theorem assigned_failed {T : Type} {found : Option T} {x : T} (h : (assigned found x).1 = false) :
    (assigned found x).2 = x := by
  cases found with
  | none => rfl
  | some value => cases h

theorem getInteger_failed_iff (conv : Conversions) (v : Variant) (t : IntType) (x : t.Carrier) :
    ((getInteger conv v t x).1 = false → (getInteger conv v t x).2 = x) ↔
      ¬ ∃ wide, v.getInt64 conv = some wide ∧ t ≠ .uint64 ∧ ¬ t.format.Holds wide.toInt ∧
        x ≠ t.narrow wide := by
  cases hwide : v.getInt64 conv with
  | none =>
    rw [getInteger_eq_getInt, getInt, hwide]
    simp
  | some wide =>
    rcases getInteger_of_getInt64 (t := t) hwide x with ⟨hreturned, hstored⟩
    rw [← Bool.not_eq_true, hreturned, hstored]
    simp only [Option.some.injEq, exists_eq_left', not_or, not_and, not_not]
    constructor
    · intro h ht hnot
      exact (h ⟨ht, hnot⟩).symm
    · rintro h ⟨ht, hnot⟩
      exact (h ht hnot).symm

/-- The target is an integer of a type that the variant does not fit, and is not what the
cast makes of the variant. -/
def Overwrites (conv : Conversions) (v : Variant) : (target : Target) → target.Carrier → Prop
  | .integer t, x => ∃ wide, v.getInt64 conv = some wide ∧ t ≠ .uint64 ∧
      ¬ t.format.Holds wide.toInt ∧ x ≠ t.narrow wide
  | _, _ => False

/-- A getter that fails leaves its target alone, unless it has overwritten it. -/
theorem get_failed_iff (conv : Conversions) (v : Variant) (target : Target)
    (x : target.Carrier) :
    ((v.get conv target x).1 = false → (v.get conv target x).2 = x) ↔
      ¬ Overwrites conv v target x := by
  cases target with
  | integer t => exact getInteger_failed_iff conv v t x
  | _ => exact iff_of_true assigned_failed id

/-- Changing the type has not touched the variant when it fails. -/
theorem changeTypeTo_spec (conv : Conversions) (unset : (target : Target) → target.Carrier)
    (target : Target) (v : Variant) :
    ((v.changeTypeTo conv unset target).1 = false → (v.changeTypeTo conv unset target).2 = v) ∧
    ((v.changeTypeTo conv unset target).1 = true →
      isScalar (v.changeTypeTo conv unset target).2 = true ∧
        type (v.changeTypeTo conv unset target).2 = target.type) := by
  have htype (value : target.Carrier) : (target.scalar value).type = target.type := by
    rcases target with _ | t | _ | _ | _ | _ | _
    case integer => cases t <;> rfl
    all_goals rfl
  unfold changeTypeTo
  rcases v.get conv target (unset target) with ⟨returned, value⟩
  cases returned with
  | false => simp
  | true => simp [isScalar, type, htype value]

theorem changeType_of_target (conv : Conversions) (unset : (target : Target) → target.Carrier)
    (target : Target) (v : Variant) :
    v.changeType conv unset target.type =
      if !v.isScalar then some (false, v)
      else if v.type = target.type then some (true, v)
      else some (v.changeTypeTo conv unset target) := by
  rcases target with _ | t | _ | _ | _ | _ | _
  case integer => cases t <;> rfl
  all_goals rfl

/-- **A conversion that fails.** A getter that fails leaves its target alone, and
`get_or` returns the default then, unless the target is an integer that was overwritten.
`ChangeType` leaves the variant alone when it fails, and else makes it a scalar of the
type. -/
theorem failed_get_keeps_iff (conv : Conversions) (unset : (target : Target) → target.Carrier)
    (v : Variant) (target : Target) (x : target.Carrier) :
    (((v.get conv target x).1 = false →
        (v.get conv target x).2 = x ∧ v.getOr conv target x = x) ↔
      ¬ Overwrites conv v target x) ∧
    ∃ returned v', v.changeType conv unset target.type = some (returned, v') ∧
      (returned = false → v' = v) ∧
      (returned = true → v'.isScalar = true ∧ v'.type = target.type) := by
  constructor
  · rw [getOr, and_self, get_failed_iff]
  · rw [changeType_of_target]
    split_ifs with harray hsame
    · exact ⟨_, _, rfl, by simp, by simp⟩
    · refine ⟨_, _, rfl, by simp, fun _ => ⟨?_, hsame⟩⟩
      simpa using harray
    · exact ⟨_, _, rfl, changeTypeTo_spec conv unset target v⟩

/-- The `Int32` 300 does not fit a `UInt8`, which is 44 afterwards. -/
theorem failed_get_overwrites :
    Variant.get .trivial (some (.scalar (.int32 300))) (.integer .uint8) (7 : UInt8) =
      (false, (44 : UInt8)) ∧
    Variant.getOr .trivial (some (.scalar (.int32 300))) (.integer .uint8) (7 : UInt8) =
      (44 : UInt8) :=
  ⟨rfl, rfl⟩

end ScadaCore.Scada
