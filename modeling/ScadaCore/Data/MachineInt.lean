import Mathlib.Algebra.Group.Nat.Defs
import Mathlib.Algebra.Ring.Int.Defs

/-!
# Data.MachineInt — integers of a fixed width

A fixed-width integer type holds an interval of the integers whose length is a power
of two. A cast to it takes an integer to the one in the interval that differs by a
multiple of that power, so a cast is the identity on the interval and nowhere else.
-/

/-- A width in bits, and whether there are negative values. -/
structure MachineInt where
  width : Nat
  signed : Bool
deriving DecidableEq, Repr

namespace MachineInt

variable (type : MachineInt)

def size : Int := 2 ^ type.width

def lowest : Int := if type.signed then -(2 ^ (type.width - 1)) else 0

def Holds (m : Int) : Prop :=
  type.lowest ≤ m ∧ m < type.lowest + type.size

instance (type : MachineInt) (m : Int) : Decidable (type.Holds m) :=
  inferInstanceAs (Decidable (_ ∧ _))

def cast (m : Int) : Int := (m - type.lowest) % type.size + type.lowest

variable {type other : MachineInt} {m n : Int}

theorem size_pos (type : MachineInt) : 0 < type.size := Int.pow_pos (by decide)

theorem holds_natCast {width n : Nat} (h : n < 2 ^ width) : Holds ⟨width, false⟩ n := by
  have hlt : (n : Int) < 2 ^ width := by exact_mod_cast h
  simp only [Holds, lowest, size]
  constructor
  · exact Int.natCast_nonneg n
  · simpa using hlt

theorem holds_cast (type : MachineInt) (m : Int) : type.Holds (type.cast m) := by
  have hnonneg := Int.emod_nonneg (m - type.lowest) (Int.ne_of_gt type.size_pos)
  have hlt := Int.emod_lt_of_pos (m - type.lowest) type.size_pos
  unfold Holds cast
  omega

theorem cast_of_holds (h : type.Holds m) : type.cast m = m := by
  unfold cast
  rw [Int.emod_eq_of_lt]
  · omega
  · have := h.1
    omega
  · have := h.2
    omega

theorem cast_le (h : type.lowest ≤ m) : type.cast m ≤ m := by
  have hsplit := Int.mul_ediv_add_emod (m - type.lowest) type.size
  have hquotient : 0 ≤ (m - type.lowest) / type.size :=
    Int.ediv_nonneg (by omega) (Int.le_of_lt type.size_pos)
  have hnonneg := Int.mul_nonneg (Int.le_of_lt type.size_pos) hquotient
  unfold cast
  omega

theorem cast_eq_self_iff : type.cast m = m ↔ type.Holds m := by
  constructor
  · intro h
    rw [← h]
    exact type.holds_cast m
  · exact cast_of_holds

theorem cast_unsigned (width : Nat) (m : Int) : cast ⟨width, false⟩ m = m % 2 ^ width := by
  simp [cast, lowest, size]

theorem cast_signed (width : Nat) (m : Int) :
    cast ⟨width + 1, true⟩ m = m.bmod (2 ^ (width + 1)) := by
  have hpos : (0 : Int) < 2 ^ width := Int.pow_pos (by decide)
  have hdouble : (2 : Int) ^ (width + 1) = 2 * 2 ^ width := by
    rw [Int.pow_succ]
    omega
  have hnonneg := Int.emod_nonneg m (b := 2 * 2 ^ width) (by omega)
  have hlt := Int.emod_lt_of_pos m (b := 2 * 2 ^ width) (by omega)
  simp only [cast, lowest, size, if_true, Nat.add_sub_cancel, Int.bmod_def, Int.natCast_pow,
    Int.cast_ofNat_Int, hdouble, Int.sub_neg]
  rw [← Int.emod_add_emod]
  by_cases hlow : m % (2 * 2 ^ width) < 2 ^ width
  · rw [if_pos (by omega), Int.emod_eq_of_lt (by omega) (by omega)]
    omega
  · rw [if_neg (by omega), ← Int.sub_emod_right, Int.emod_eq_of_lt (by omega) (by omega)]
    omega

theorem cast_sub_size (type : MachineInt) (m : Int) : type.cast (m - type.size) = type.cast m := by
  unfold cast
  rw [show m - type.size - type.lowest = m - type.lowest - type.size by omega,
    Int.sub_emod_right]

def Within (other type : MachineInt) : Prop :=
  type.lowest ≤ other.lowest ∧ other.lowest + other.size ≤ type.lowest + type.size

instance (other type : MachineInt) : Decidable (Within other type) :=
  inferInstanceAs (Decidable (_ ∧ _))

theorem Within.holds (hwithin : other.Within type) (h : other.Holds m) : type.Holds m :=
  ⟨Int.le_trans hwithin.1 h.1, Int.lt_of_lt_of_le h.2 hwithin.2⟩

theorem cast_cast_of_within (hwithin : other.Within type) :
    type.cast (other.cast m) = m ↔ other.Holds m := by
  rw [cast_of_holds (hwithin.holds (other.holds_cast m)), cast_eq_self_iff]

theorem cast_cast_of_width (hwidth : other.width = type.width) (h : type.Holds m) :
    type.cast (other.cast m) = m := by
  have hsize : other.size = type.size := by rw [size, size, hwidth]
  have hcongr : type.cast (other.cast m) = type.cast m := by
    unfold cast
    rw [hsize, show (m - other.lowest) % type.size + other.lowest - type.lowest =
      (m - other.lowest) % type.size + (other.lowest - type.lowest) by omega,
      Int.emod_add_emod, show m - other.lowest + (other.lowest - type.lowest) =
      m - type.lowest by omega]
  rw [hcongr, cast_of_holds h]

end MachineInt
