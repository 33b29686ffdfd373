import ScadaCore.Data.Selection
import ScadaCore.Scada.Locale
import ScadaCore.Scada.Services
import ScadaCore.Scada.VariantEquality

/-!
# Scada.NodeAttributes — attributes that are fetched, set, updated and compared

`NodeAttributes` holds five attributes of a node. `Update` takes over those that another
one sets, so that after several updates an attribute should be that of the last one to set
it: `accumulated` says so for all five. But `Update` and `operator==` leave out the inverse
name: an update never changes it, and attributes that differ only there are equal.
-/

namespace ScadaCore.Scada

def QualifiedName.isEmpty (name : QualifiedName) : Bool :=
  name.namespaceIndex == 0 && name.name.isEmpty

/-- `Variant::get_if<LocalizedText>`, which reads no text of another type. -/
def Variant.getIfLocalizedText : Variant → Option LocalizedText
  | some (.scalar (.localizedText text)) => some text
  | _ => none

namespace NodeAttributes

variable (a : NodeAttributes)

def isEmpty : Bool :=
  a.browseName.isEmpty && a.displayName.isEmpty && a.inverseName.isEmpty &&
    a.dataType.isNull && !a.value.isSome

def get : AttributeId → Option Variant
  | .browseName => some (some (.scalar (.qualifiedName a.browseName)))
  | .displayName => some (some (.scalar (.localizedText a.displayName)))
  | .inverseName => some (some (.scalar (.localizedText a.inverseName)))
  | .dataType => some (some (.scalar (.nodeId a.dataType)))
  | .value => some (a.value.getD none)
  | _ => none

/-- A case of `Set`: the value has to have the type of the attribute. -/
def assign {T : Type} (a : NodeAttributes) (typedValue : Option T) (put : T → NodeAttributes) :
    StatusCode × NodeAttributes :=
  match typedValue with
  | some typed => (.good, put typed)
  | none => (.bad, a)

def set (attributeId : AttributeId) (value : Variant) : StatusCode × NodeAttributes :=
  match attributeId with
  | .browseName => a.assign value.getQualifiedName fun name => { a with browseName := name }
  | .displayName => a.assign value.getIfLocalizedText fun text => { a with displayName := text }
  | .inverseName => a.assign value.getIfLocalizedText fun text => { a with inverseName := text }
  | .dataType => a.assign value.getNodeId fun id => { a with dataType := id }
  | .value => (.good, { a with value := some value })
  | _ => (.badWrongAttributeId, a)

def update (a updated : NodeAttributes) : NodeAttributes :=
  { a with
    browseName := if !updated.browseName.isEmpty then updated.browseName else a.browseName
    displayName := if !updated.displayName.isEmpty then updated.displayName else a.displayName
    dataType := if !updated.dataType.isNull then updated.dataType else a.dataType
    value := if updated.value.isSome then updated.value else a.value }

variable (conv : Conversions)

/-- `std::optional<Variant>::operator==`. -/
def valueBeq : Option Variant → Option Variant → Bool
  | some v, some w => v.beq conv w
  | none, none => true
  | _, _ => false

def beq (a b : NodeAttributes) : Bool :=
  a.browseName == b.browseName && a.displayName == b.displayName &&
    a.dataType == b.dataType && valueBeq conv a.value b.value

/-! ## Fetching what has been set -/

/-- What `Set` takes: a value of the type of the attribute, for `Value` any one. -/
def accepts : AttributeId → Variant → Bool
  | .browseName, some (.scalar (.qualifiedName _)) => true
  | .displayName, some (.scalar (.localizedText _)) => true
  | .inverseName, some (.scalar (.localizedText _)) => true
  | .dataType, some (.scalar (.nodeId _)) => true
  | .value, _ => true
  | _, _ => false

section

variable (attributeId other : AttributeId) (value : Variant)

theorem set_cases :
    (accepts attributeId value = true ∧ (a.set attributeId value).1 = .good ∧
      ∀ other, (a.set attributeId value).2.get other =
        if attributeId == other then some value else a.get other) ∨
    (accepts attributeId value = false ∧ (a.set attributeId value).1 ≠ .good ∧
      (a.set attributeId value).2 = a) := by
  cases attributeId with
  | browseName | displayName | inverseName | dataType =>
    simp only [set, Variant.getQualifiedName, Variant.getIfLocalizedText, Variant.getNodeId]
    split
    · exact .inl ⟨rfl, rfl, fun other => by cases other <;> rfl⟩
    · refine .inr ⟨?_, (by decide : StatusCode.bad ≠ .good), rfl⟩
      unfold accepts
      grind
  | value => exact .inl ⟨rfl, rfl, fun other => by cases other <;> rfl⟩
  | _ => exact .inr ⟨rfl, (by decide : StatusCode.badWrongAttributeId ≠ .good), rfl⟩

theorem set_good_iff : (a.set attributeId value).1 = .good ↔ accepts attributeId value = true := by
  rcases set_cases a attributeId value with ⟨haccepts, hgood, -⟩ | ⟨haccepts, hgood, -⟩
  · exact iff_of_true hgood haccepts
  · exact iff_of_false hgood (by simp [haccepts])

theorem set_of_not_accepts (h : accepts attributeId value = false) :
    (a.set attributeId value).2 = a := by
  rcases set_cases a attributeId value with ⟨haccepts, -⟩ | ⟨-, -, hsame⟩
  · rw [haccepts] at h
    cases h
  · exact hsame

theorem get_set : (a.set attributeId value).2.get other =
    if accepts attributeId value && attributeId == other then some value else a.get other := by
  rcases set_cases a attributeId value with ⟨haccepts, -, hget⟩ | ⟨haccepts, -, hsame⟩
  · rw [haccepts, hget, Bool.true_and]
  · rw [haccepts, hsame, Bool.false_and, if_neg Bool.false_ne_true]

end

/-- **Setting and getting.** `Set` takes a value exactly if it has the type of the attribute,
and otherwise changes nothing. After any calls of `Set`, `Get` returns the value that was
taken last for the attribute, or what it returned before. -/
theorem sets_get (a : NodeAttributes) (sets : List (AttributeId × Variant))
    (attributeId : AttributeId) :
    (∀ attributeId value,
      ((a.set attributeId value).1 = .good ↔ accepts attributeId value = true) ∧
      (accepts attributeId value = false → (a.set attributeId value).2 = a)) ∧
    (sets.foldl (fun a s => (a.set s.1 s.2).2) a).get attributeId =
      Selection.lastSet (fun s => accepts s.1 s.2 && s.1 == attributeId)
        (fun s => some s.2) (a.get attributeId) sets := by
  constructor
  · exact fun attributeId value => ⟨set_good_iff a attributeId value, set_of_not_accepts a _ _⟩
  · exact Selection.foldl_eq_lastSet _ _ (fun a s => (a.set s.1 s.2).2) (·.get attributeId)
      (fun a s => get_set a s.1 attributeId s.2) a sets

/-! ## Updates -/

variable (updates : List NodeAttributes)

def updateAll : NodeAttributes :=
  updates.foldl update a

/-- The inverse name that the updates set last. -/
def lastInverseName : LocalizedText :=
  Selection.lastSet (!·.inverseName.isEmpty) (·.inverseName) a.inverseName updates

/-- What updates are for: every attribute is that of the last one to set it. -/
def accumulated : NodeAttributes where
  browseName := Selection.lastSet (!·.browseName.isEmpty) (·.browseName) a.browseName updates
  displayName := Selection.lastSet (!·.displayName.isEmpty) (·.displayName) a.displayName updates
  inverseName := a.lastInverseName updates
  dataType := Selection.lastSet (!·.dataType.isNull) (·.dataType) a.dataType updates
  value := Selection.lastSet (·.value.isSome) (·.value) a.value updates

theorem updateAll_inverseName : (a.updateAll updates).inverseName = a.inverseName := by
  induction updates generalizing a with
  | nil => rfl
  | cons updated updates ih => exact ih (a.update updated)

theorem updateAll_eq :
    a.updateAll updates = { a.accumulated updates with inverseName := a.inverseName } := by
  have hbrowse : (a.updateAll updates).browseName = (a.accumulated updates).browseName :=
    Selection.foldl_eq_lastSet _ _ update (·.browseName) (fun _ _ => rfl) a updates
  have hdisplay : (a.updateAll updates).displayName = (a.accumulated updates).displayName :=
    Selection.foldl_eq_lastSet _ _ update (·.displayName) (fun _ _ => rfl) a updates
  have htype : (a.updateAll updates).dataType = (a.accumulated updates).dataType :=
    Selection.foldl_eq_lastSet _ _ update (·.dataType) (fun _ _ => rfl) a updates
  have hvalue : (a.updateAll updates).value = (a.accumulated updates).value :=
    Selection.foldl_eq_lastSet _ _ update (·.value) (fun _ _ => rfl) a updates
  dsimp only
  rw [← hbrowse, ← hdisplay, ← htype, ← hvalue, ← updateAll_inverseName a updates]

theorem updateAll_eq_accumulated_iff :
    a.updateAll updates = a.accumulated updates ↔ a.lastInverseName updates = a.inverseName := by
  constructor
  · intro h
    rw [← updateAll_inverseName a updates, h]
    rfl
  · intro h
    rw [updateAll_eq, ← h]
    rfl

/-! ## Comparisons -/

/-- All five attributes agree. -/
def Agree (a b : NodeAttributes) : Prop :=
  a.browseName = b.browseName ∧ a.displayName = b.displayName ∧ a.inverseName = b.inverseName ∧
    a.dataType = b.dataType ∧ valueBeq conv a.value b.value = true

theorem beq_iff (a b : NodeAttributes) :
    a.beq conv b = true ↔ a.browseName = b.browseName ∧ a.displayName = b.displayName ∧
      a.dataType = b.dataType ∧ valueBeq conv a.value b.value = true := by
  simp only [beq, Bool.and_eq_true, beq_iff_eq, and_assoc]

theorem agree_iff (a b : NodeAttributes) :
    a.Agree conv b ↔ a.beq conv b = true ∧ a.inverseName = b.inverseName := by
  rw [Agree, beq_iff]
  constructor
  · rintro ⟨hbrowse, hdisplay, hinverse, htype, hvalue⟩
    exact ⟨⟨hbrowse, hdisplay, htype, hvalue⟩, hinverse⟩
  · rintro ⟨⟨hbrowse, hdisplay, htype, hvalue⟩, hinverse⟩
    exact ⟨hbrowse, hdisplay, hinverse, htype, hvalue⟩

/-- **Attributes of a node.** After any updates every attribute is that of the last update
to set it, and is fetched as such, exactly if the inverse name that was set last is the one
that there was. Being equal is to agree on all five attributes exactly if attributes that
agree on the other four have the same inverse name. -/
theorem nodeAttributes_iff (conv : Conversions) (a b : NodeAttributes)
    (updates : List NodeAttributes) :
    ((a.updateAll updates = a.accumulated updates ∧
      ∀ attributeId, (a.updateAll updates).get attributeId =
        (a.accumulated updates).get attributeId) ↔
      a.lastInverseName updates = a.inverseName) ∧
    ((a.beq conv b = true ↔ a.Agree conv b) ↔
      (a.browseName = b.browseName → a.displayName = b.displayName →
        a.dataType = b.dataType → valueBeq conv a.value b.value = true →
        a.inverseName = b.inverseName)) := by
  constructor
  · rw [← updateAll_eq_accumulated_iff]
    constructor
    · exact And.left
    · intro h
      exact ⟨h, fun _ => by rw [h]⟩
  · rw [agree_iff]
    constructor
    · intro h hbrowse hdisplay htype hvalue
      exact (h.mp ((beq_iff conv a b).mpr ⟨hbrowse, hdisplay, htype, hvalue⟩)).2
    · intro h
      refine ⟨fun hbeq => ⟨hbeq, ?_⟩, And.left⟩
      obtain ⟨hbrowse, hdisplay, htype, hvalue⟩ := (beq_iff conv a b).mp hbeq
      exact h hbrowse hdisplay htype hvalue

/-- An inverse name that is set and does not arrive, and that nobody notices. -/
theorem inverseName_lost :
    let a : NodeAttributes := {}
    let b : NodeAttributes := { inverseName := { locale := "en", text := "part of".toList } }
    a.updateAll [b] = a ∧ a.updateAll [b] ≠ a.accumulated [b] ∧
    (a.updateAll [b]).get .inverseName ≠ b.get .inverseName ∧
    a.beq .trivial b = true ∧ ¬ a.Agree .trivial b := by
  refine ⟨by decide, by decide, by decide, rfl, ?_⟩
  rintro ⟨-, -, hinverse, -⟩
  exact absurd hinverse (by decide)

end NodeAttributes

end ScadaCore.Scada
