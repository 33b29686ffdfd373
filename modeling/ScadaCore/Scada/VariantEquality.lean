import ScadaCore.Scada.VariantGetters

/-!
# Scada.VariantEquality — the equality of variants

`Variant::operator==` compares doubles up to the machine epsilon, and takes this way
for every variant whose `type` is `DOUBLE`. An array of doubles has that type too, and
cannot be read as a double: it is not equal to anything. Extension objects are never
equal, so that neither are the variants that hold some.
-/

namespace ScadaCore.Scada

/-! ## The comparison -/

def ExtensionObject.beq (_ _ : ExtensionObject) : Bool := false

def epsilon : Float := Float.ofBits 0x3cb0000000000000

/-- Two doubles that differ by less than the machine epsilon. -/
def Double.near (a b : Double) : Bool :=
  (Float.ofBits a.bits - Float.ofBits b.bits).abs < epsilon

/-- Two alternatives of `Variant::Data`. -/
def Scalar.beq (a b : Scalar) : Bool :=
  match a, b with
  | .extensionObject x, .extensionObject y => x.beq y
  | _, _ => a == b

/-- Two vectors are equal if they have the same length and their elements are equal in
turn. -/
def Elements.beq (a b : Elements) : Bool :=
  match a, b with
  | .extensionObject xs, .extensionObject ys =>
    xs.length == ys.length && (xs.zip ys).all fun pair => pair.1.beq pair.2
  | _, _ => a == b

def Variant.dataBeq : Variant → Variant → Bool
  | none, none => true
  | some (.scalar a), some (.scalar b) => a.beq b
  | some (.array a), some (.array b) => a.beq b
  | _, _ => false

def Variant.beq (conv : Conversions) (v other : Variant) : Bool :=
  if v.type = .double ∨ other.type = .double then
    match v.getDouble conv, other.getDouble conv with
    | some a, some b => a.near b
    | _, _ => false
  else v.dataBeq other

/-- The equality of variants that hold something, for the values of `DataValue`. -/
def Value.beq (conv : Conversions) (a b : Value) : Bool := Variant.beq conv (some a) (some b)

/-! ## Variants that are equal -/

def Variant.IsScalarDouble (v : Variant) : Prop := ∃ value, v = some (.scalar (.double value))

/-- The variants that are not equal to themselves. -/
inductive Variant.Unequal : Variant → Prop
  | doubles (values : List Double) : Unequal (some (.array (.double values)))
  | extensionObject (value : ExtensionObject) :
      Unequal (some (.scalar (.extensionObject value)))
  | extensionObjects (first : ExtensionObject) (others : List ExtensionObject) :
      Unequal (some (.array (.extensionObject (first :: others))))

variable {conv : Conversions} {u v w : Variant}

theorem Scalar.eq_of_beq {a b : Scalar} (h : a.beq b = true) : a = b := by
  unfold Scalar.beq at h
  split at h
  · cases h
  · exact LawfulBEq.eq_of_beq h

theorem Elements.eq_of_beq {a b : Elements} (h : a.beq b = true) : a = b := by
  unfold Elements.beq at h
  split at h
  · rename_i xs ys
    rcases xs with _ | ⟨x, xs⟩
    · rcases ys with _ | ⟨y, ys⟩
      · rfl
      · simp at h
    · rcases ys with _ | ⟨y, ys⟩
      · simp at h
      · simp [ExtensionObject.beq] at h
  · exact LawfulBEq.eq_of_beq h

theorem Variant.eq_of_dataBeq (h : v.dataBeq u = true) : v = u := by
  unfold Variant.dataBeq at h
  split at h
  · rfl
  · rw [Scalar.eq_of_beq h]
  · rw [Elements.eq_of_beq h]
  · cases h

/-- A variant of the type of the doubles that is no double cannot be read as one. -/
theorem Variant.getDouble_of_type (hv : ¬ v.IsScalarDouble) (htype : v.type = .double) :
    v.getDouble conv = none := by
  rcases v with _ | scalar | elements
  · cases htype
  · cases scalar with
    | double value => exact absurd ⟨value, rfl⟩ hv
    | _ => cases htype
  · rfl

theorem Variant.beq_of_type (hu : ¬ u.IsScalarDouble) (hv : ¬ v.IsScalarDouble)
    (htype : u.type = .double ∨ v.type = .double) : u.beq conv v = false := by
  rw [Variant.beq, if_pos htype]
  rcases htype with hdouble | hdouble
  · rw [getDouble_of_type hu hdouble]
  · rw [getDouble_of_type hv hdouble]
    cases u.getDouble conv <;> rfl

theorem Variant.eq_of_beq (hu : ¬ u.IsScalarDouble) (hv : ¬ v.IsScalarDouble)
    (h : u.beq conv v = true) : u = v := by
  by_cases htype : u.type = .double ∨ v.type = .double
  · rw [beq_of_type hu hv htype] at h
    cases h
  · rw [Variant.beq, if_neg htype] at h
    exact eq_of_dataBeq h

/-! ## A variant and its copy -/

theorem Scalar.beq_self {scalar : Scalar} (h : ∀ value, scalar ≠ .extensionObject value) :
    scalar.beq scalar = true := by
  unfold Scalar.beq
  split
  · exact absurd rfl (h _)
  · exact beq_self_eq_true scalar

theorem Elements.beq_self {elements : Elements}
    (h : ∀ first others, elements ≠ .extensionObject (first :: others)) :
    elements.beq elements = true := by
  cases elements with
  | extensionObject values =>
    rcases values with _ | ⟨first, others⟩
    · rfl
    · exact absurd rfl (h first others)
  | _ => exact beq_self_eq_true (α := Elements) _

theorem Variant.beq_self (hv : ¬ v.IsScalarDouble) (h : ¬ v.Unequal) : v.beq conv v = true := by
  have htype : ¬ (v.type = .double ∨ v.type = .double) := by
    rw [or_self]
    intro hdouble
    rcases v with _ | scalar | elements
    · cases hdouble
    · cases scalar with
      | double value => exact hv ⟨value, rfl⟩
      | _ => cases hdouble
    · cases elements with
      | double values => exact h (.doubles values)
      | _ => cases hdouble
  rw [Variant.beq, if_neg htype]
  rcases v with _ | scalar | elements
  · rfl
  · apply Scalar.beq_self
    rintro value rfl
    exact h (.extensionObject value)
  · apply Elements.beq_self
    rintro first others rfl
    exact h (.extensionObjects first others)

theorem Variant.beq_self_of_unequal (h : v.Unequal) : v.beq conv v = false := by
  cases h with
  | doubles values => rfl
  | extensionObject value => rfl
  | extensionObjects first others =>
    simp [Variant.beq, Variant.type, Elements.type, dataBeq, Elements.beq, ExtensionObject.beq]

theorem Variant.beq_self_iff (conv : Conversions) (hv : ¬ v.IsScalarDouble) :
    v.beq conv v = true ↔ ¬ v.Unequal := by
  constructor
  · intro h hunequal
    rw [beq_self_of_unequal hunequal] at h
    cases h
  · exact beq_self hv

/-! ## Data values -/

/-- `DataValue::operator==`. -/
def DataValue.equal (conv : Conversions) (a b : DataValue Value) : Bool :=
  @DataValue.beq Value ⟨Value.beq conv⟩ a b

theorem DataValue.beq_self {V : Type} [BEq V] (a : DataValue V) :
    a.beq a = (a.value == a.value) := by
  simp [DataValue.beq]

theorem DataValue.equal_self (conv : Conversions) (a : DataValue Value) :
    DataValue.equal conv a a = Variant.beq conv a.value a.value := by
  refine (@DataValue.beq_self Value ⟨Value.beq conv⟩ a).trans ?_
  cases a.value with
  | none => rfl
  | some value => rfl

/-- **The equality of variants.** Apart from the scalar doubles, it is an equivalence on
those that are equal to themselves, and these are all but the arrays of doubles and what
holds extension objects. -/
theorem variant_equality_iff (conv : Conversions) (u v w : Variant) (hu : ¬ u.IsScalarDouble)
    (hv : ¬ v.IsScalarDouble) :
    (v.beq conv v = true ∧
      (u.beq conv v = true → v.beq conv u = true) ∧
      (u.beq conv v = true → v.beq conv w = true → u.beq conv w = true) ∧
      ∀ a : DataValue Value, a.value = v → DataValue.equal conv a a = true) ↔
    ¬ v.Unequal := by
  rw [← Variant.beq_self_iff conv hv]
  constructor
  · exact And.left
  · intro hself
    refine ⟨hself, ?_, ?_, ?_⟩
    · intro huv
      rw [Variant.eq_of_beq hu hv huv]
      exact hself
    · intro huv hvw
      rw [Variant.eq_of_beq hu hv huv]
      exact hvw
    · rintro a rfl
      rw [DataValue.equal_self]
      exact hself

theorem variant_equality_iff_string :
    let v : Variant := some (.scalar (.string "on"))
    v.beq .trivial v = true ∧ ¬ v.Unequal := by
  have hv : ¬ Variant.IsScalarDouble (some (.scalar (.string "on"))) := by
    rintro ⟨_, h⟩
    cases h
  have hequal : ¬ Variant.Unequal (some (.scalar (.string "on"))) := by
    intro h
    cases h
  exact ⟨((variant_equality_iff .trivial _ _ none hv hv).mpr hequal).1, hequal⟩

/-- The array of the double 1, and a data value that holds it. -/
theorem variant_unequal_to_itself :
    let v : Variant := some (.array (.double [⟨0x3ff0000000000000⟩]))
    ¬ v.IsScalarDouble ∧ v.beq .trivial v = false ∧
      DataValue.equal .trivial { value := v } { value := v } = false := by
  refine ⟨?_, rfl, rfl⟩
  rintro ⟨_, h⟩
  cases h

end ScadaCore.Scada
