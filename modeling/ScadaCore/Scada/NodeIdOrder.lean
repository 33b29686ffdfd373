import ScadaCore.Scada.Types

/-!
# Scada.NodeIdOrder — the order, the equality and the hash of node ids

A node id does not hold its string or opaque identifier: it shares it with its copies.
Comparing two identifiers starts with the pointers, and reads what they point to only
where they differ. Two numeric node ids are compared without all this.

Here a `StoredNodeId` holds addresses, and `load` reads the node id behind them from the
storage.
-/

namespace ScadaCore.Scada

open Std

/-! ## Storage -/

/-- What the identifiers that are shared point to, by address. -/
structure Storage where
  strings : Nat → String
  byteStrings : Nat → List UInt8

/-- The member `identifier_`, with an address for a `SharedValue`. -/
inductive StoredIdentifier where
  | numeric (id : UInt32)
  | string (address : Nat)
  | opaqueId (address : Nat)
deriving DecidableEq, Repr

/-- The members of a `NodeId`. -/
structure StoredNodeId where
  identifier : StoredIdentifier
  namespaceIndex : UInt16
deriving DecidableEq, Repr

def StoredIdentifier.load (storage : Storage) : StoredIdentifier → Identifier
  | .numeric id => .numeric id
  | .string address => .string (storage.strings address)
  | .opaqueId address => .opaqueId (storage.byteStrings address)

def StoredNodeId.load (storage : Storage) (n : StoredNodeId) : NodeId :=
  { identifier := n.identifier.load storage, namespaceIndex := n.namespaceIndex }

/-! ## Comparing values -/

/-- `std::string` is compared by its bytes, as unsigned numbers. -/
def compareString (a b : String) : Ordering :=
  List.compareLex compare a.toByteArray.data.toList b.toByteArray.data.toList

variable (signedChar : Bool)

/-- `char` has a sign on some machines. -/
def compareChar (a b : UInt8) : Ordering :=
  if signedChar then compare a.toInt8 b.toInt8 else compare a b

/-- `ByteString` is a `std::vector<char>`. -/
def compareByteString (a b : List UInt8) : Ordering :=
  List.compareLex (compareChar signedChar) a b

namespace SharedValue

variable {T : Type}

def beq [DecidableEq T] (get : Nat → T) (a b : Nat) : Bool := a == b || get a == get b

def compare (cmp : T → T → Ordering) (get : Nat → T) (a b : Nat) : Ordering :=
  if a = b then .eq else cmp (get a) (get b)

theorem beq_eq_true_iff [DecidableEq T] (get : Nat → T) (a b : Nat) :
    beq get a b = true ↔ get a = get b := by
  rw [beq, Bool.or_eq_true, beq_iff_eq, beq_iff_eq]
  constructor
  · rintro (rfl | h)
    · rfl
    · exact h
  · exact .inr

theorem compare_eq (cmp : T → T → Ordering) [ReflCmp cmp] (get : Nat → T) (a b : Nat) :
    compare cmp get a b = cmp (get a) (get b) := by
  unfold compare
  split_ifs with h
  · rw [h]
    exact ReflCmp.compare_self.symm
  · rfl

end SharedValue

/-! ## Comparing node ids -/

/-- `identifier_.index()`. -/
def StoredIdentifier.index : StoredIdentifier → Nat
  | .numeric _ => 0
  | .string _ => 1
  | .opaqueId _ => 2

/-- `std::variant::operator==`: the same alternative, and equal values. -/
def StoredIdentifier.beq (storage : Storage) : StoredIdentifier → StoredIdentifier → Bool
  | .numeric a, .numeric b => a == b
  | .string a, .string b => SharedValue.beq storage.strings a b
  | .opaqueId a, .opaqueId b => SharedValue.beq storage.byteStrings a b
  | _, _ => false

/-- `std::variant::operator<=>`: by the value, or by the alternative if it is not the
same. -/
def StoredIdentifier.compare (storage : Storage) :
    StoredIdentifier → StoredIdentifier → Ordering
  | .numeric a, .numeric b => Ord.compare a b
  | .string a, .string b => SharedValue.compare compareString storage.strings a b
  | .opaqueId a, .opaqueId b =>
    SharedValue.compare (compareByteString signedChar) storage.byteStrings a b
  | a, b => Ord.compare a.index b.index

def StoredNodeId.beq (storage : Storage) (n other : StoredNodeId) : Bool :=
  match n.identifier with
  | .numeric a =>
    match other.identifier with
    | .numeric b => a == b && n.namespaceIndex == other.namespaceIndex
    | _ => false
  | _ =>
    n.identifier.beq storage other.identifier && n.namespaceIndex == other.namespaceIndex

def StoredNodeId.compare (storage : Storage) (n other : StoredNodeId) : Ordering :=
  match n.identifier, other.identifier with
  | .numeric a, .numeric b =>
    (Ord.compare a b).then (Ord.compare n.namespaceIndex other.namespaceIndex)
  | _, _ =>
    (n.identifier.compare signedChar storage other.identifier).then
      (Ord.compare n.namespaceIndex other.namespaceIndex)

/-- `boost::hash_combine` with what a node id is hashed from. -/
structure Hasher where
  combineNamespaceIndex : UInt64 → UInt16 → UInt64
  combineType : UInt64 → Nat → UInt64
  combineNumericId : UInt64 → UInt32 → UInt64
  combineString : UInt64 → String → UInt64
  combineByteString : UInt64 → List UInt8 → UInt64

def StoredNodeId.hash (hasher : Hasher) (storage : Storage) (n : StoredNodeId) : UInt64 :=
  let seed := hasher.combineNamespaceIndex 0 n.namespaceIndex
  let seed := hasher.combineType seed n.identifier.index
  match n.identifier with
  | .numeric id => hasher.combineNumericId seed id
  | .string address => hasher.combineString seed (storage.strings address)
  | .opaqueId address => hasher.combineByteString seed (storage.byteStrings address)

/-! ## The lexicographic order -/

/-- The kinds of identifiers, in the order of `NodeIdType`. -/
def Identifier.kind : Identifier → Nat
  | .numeric _ => 0
  | .string _ => 1
  | .opaqueId _ => 2

/-- Two identifiers of one kind, by their values. -/
def Identifier.compareValue : Identifier → Identifier → Ordering
  | .numeric a, .numeric b => compare a b
  | .string a, .string b => compareString a b
  | .opaqueId a, .opaqueId b => compareByteString signedChar a b
  | _, _ => .eq

/-- By the kind of the identifier, then the identifier, then the namespace. -/
def NodeId.lexicographic (a b : NodeId) : Ordering :=
  (compare a.identifier.kind b.identifier.kind).then
    ((a.identifier.compareValue signedChar b.identifier).then
      (compare a.namespaceIndex b.namespaceIndex))

theorem transCmp_comap {α β : Type} (cmp : β → β → Ordering) [TransCmp cmp] (f : α → β) :
    TransCmp fun a b => cmp (f a) (f b) where
  eq_swap := OrientedCmp.eq_swap
  isLE_trans := TransCmp.isLE_trans

instance : (signedChar : Bool) → TransCmp (compareChar signedChar)
  | true => transCmp_comap compare UInt8.toInt8
  | false => inferInstanceAs (TransCmp (compare : UInt8 → UInt8 → Ordering))

instance : (signedChar : Bool) → LawfulEqCmp (compareChar signedChar)
  | true => ⟨fun h => congrArg Int8.toUInt8 (LawfulEqOrd.eq_of_compare h)⟩
  | false => inferInstanceAs (LawfulEqCmp (compare : UInt8 → UInt8 → Ordering))

instance (signedChar : Bool) : TransCmp (compareByteString signedChar) :=
  inferInstanceAs (TransCmp (List.compareLex (compareChar signedChar)))

instance (signedChar : Bool) : LawfulEqCmp (compareByteString signedChar) :=
  inferInstanceAs (LawfulEqCmp (List.compareLex (compareChar signedChar)))

instance : TransCmp compareString :=
  transCmp_comap (List.compareLex compare) fun s : String => s.toByteArray.data.toList

instance : LawfulEqCmp compareString where
  eq_of_compare {a b} h := by
    have hbytes : a.toByteArray.data.toList = b.toByteArray.data.toList :=
      LawfulEqCmp.eq_of_compare (show List.compareLex compare _ _ = .eq from h)
    exact String.toByteArray_inj.mp (ByteArray.ext (Array.toList_inj.mp hbytes))

/-- What an identifier of one kind has, and the others have not. -/
def Identifier.number : Identifier → UInt32
  | .numeric id => id
  | _ => 0

@[inherit_doc Identifier.number]
def Identifier.text : Identifier → String
  | .string id => id
  | _ => ""

@[inherit_doc Identifier.number]
def Identifier.bytes : Identifier → List UInt8
  | .opaqueId id => id
  | _ => []

/-- Identifiers of one kind can be compared part by part, for what they do not have is
equal. -/
theorem lexicographic_eq :
    NodeId.lexicographic signedChar =
      compareLex (fun a b => compare a.identifier.kind b.identifier.kind)
        (compareLex (fun a b => compare a.identifier.number b.identifier.number)
          (compareLex (fun a b => compareString a.identifier.text b.identifier.text)
            (compareLex
              (fun a b => compareByteString signedChar a.identifier.bytes b.identifier.bytes)
              (fun a b => compare a.namespaceIndex b.namespaceIndex)))) := by
  funext a b
  rcases a with ⟨identifier, namespaceIndex⟩
  rcases b with ⟨identifier', namespaceIndex'⟩
  cases identifier <;> cases identifier' <;> rfl

instance (signedChar : Bool) : TransCmp (NodeId.lexicographic signedChar) := by
  have hkind := transCmp_comap compare fun n : NodeId => n.identifier.kind
  have hnumber := transCmp_comap compare fun n : NodeId => n.identifier.number
  have htext := transCmp_comap compareString fun n : NodeId => n.identifier.text
  have hbytes := transCmp_comap (compareByteString signedChar) fun n : NodeId => n.identifier.bytes
  have hnamespace := transCmp_comap compare fun n : NodeId => n.namespaceIndex
  rw [lexicographic_eq]
  infer_instance

theorem Identifier.eq_of_compareValue {signedChar : Bool} {a b : Identifier}
    (hkind : a.kind = b.kind) (h : a.compareValue signedChar b = .eq) : a = b := by
  cases a with
  | numeric id =>
    cases b with
    | numeric id' => rw [LawfulEqOrd.eq_of_compare h]
    | _ => cases hkind
  | string id =>
    cases b with
    | string id' =>
      have hid : id = id' := LawfulEqCmp.eq_of_compare (show compareString _ _ = .eq from h)
      rw [hid]
    | _ => cases hkind
  | opaqueId id =>
    cases b with
    | opaqueId id' =>
      have hid : id = id' :=
        LawfulEqCmp.eq_of_compare (show compareByteString signedChar _ _ = .eq from h)
      rw [hid]
    | _ => cases hkind

instance (signedChar : Bool) : LawfulEqCmp (NodeId.lexicographic signedChar) where
  eq_of_compare {a b} h := by
    simp only [NodeId.lexicographic, Ordering.then_eq_eq] at h
    rcases h with ⟨hkind, hvalue, hnamespace⟩
    rcases a with ⟨identifier, namespaceIndex⟩
    rcases b with ⟨identifier', namespaceIndex'⟩
    rw [NodeId.mk.injEq]
    constructor
    · exact Identifier.eq_of_compareValue (LawfulEqOrd.eq_of_compare hkind) hvalue
    · exact LawfulEqOrd.eq_of_compare hnamespace

/-! ## What is compared -/

variable {signedChar} {storage : Storage}

theorem StoredNodeId.compare_eq (a b : StoredNodeId) :
    a.compare signedChar storage b =
      NodeId.lexicographic signedChar (a.load storage) (b.load storage) := by
  rcases a with ⟨identifier, namespaceIndex⟩
  rcases b with ⟨identifier', namespaceIndex'⟩
  cases identifier with
  | numeric id => cases identifier' <;> rfl
  | string address =>
    cases identifier' with
    | string address' =>
      have hshared := SharedValue.compare_eq compareString storage.strings address address'
      exact congrArg (Ordering.then · _) hshared
    | _ => rfl
  | opaqueId address =>
    cases identifier' with
    | opaqueId address' =>
      have hshared := SharedValue.compare_eq (compareByteString signedChar)
        storage.byteStrings address address'
      exact congrArg (Ordering.then · _) hshared
    | _ => rfl

theorem StoredIdentifier.beq_iff (a b : StoredIdentifier) :
    a.beq storage b = true ↔ a.load storage = b.load storage := by
  cases a <;> cases b <;>
    simp [StoredIdentifier.beq, StoredIdentifier.load, SharedValue.beq_eq_true_iff]

theorem StoredNodeId.beq_iff (a b : StoredNodeId) :
    a.beq storage b = true ↔ a.load storage = b.load storage := by
  -- the shortcut for numeric node ids comes to the same
  have hbeq : a.beq storage b =
      (a.identifier.beq storage b.identifier && a.namespaceIndex == b.namespaceIndex) := by
    rcases a with ⟨identifier, namespaceIndex⟩
    rcases b with ⟨identifier', namespaceIndex'⟩
    cases identifier <;> cases identifier' <;> rfl
  rw [hbeq, Bool.and_eq_true, StoredIdentifier.beq_iff, beq_iff_eq, StoredNodeId.load,
    StoredNodeId.load, NodeId.mk.injEq]

theorem StoredNodeId.hash_congr (hasher : Hasher) {storage storage' : Storage}
    {n n' : StoredNodeId} (h : n.load storage = n'.load storage') :
    n.hash hasher storage = n'.hash hasher storage' := by
  rcases n with ⟨identifier, namespaceIndex⟩
  rcases n' with ⟨identifier', namespaceIndex'⟩
  simp only [StoredNodeId.load, NodeId.mk.injEq] at h
  rcases h with ⟨hidentifier, rfl⟩
  cases identifier <;> cases identifier' <;>
    simp_all [StoredIdentifier.load, StoredNodeId.hash, StoredIdentifier.index]

/-- **The order of node ids.** It is the lexicographic order of what the node ids are, and
a strict total order that agrees with the equality; the equality agrees with the hash.
Nothing of this depends on what is stored where. -/
theorem storedNodeId_order (signedChar : Bool) (hasher : Hasher) (storage : Storage)
    (a b c : StoredNodeId) :
    a.compare signedChar storage b =
      NodeId.lexicographic signedChar (a.load storage) (b.load storage) ∧
    (a.compare signedChar storage b = .eq ↔ a.beq storage b = true) ∧
    a.compare signedChar storage b = (b.compare signedChar storage a).swap ∧
    (a.compare signedChar storage b = .lt → b.compare signedChar storage c = .lt →
      a.compare signedChar storage c = .lt) ∧
    (a.beq storage b = true ↔ a.load storage = b.load storage) ∧
    (a.beq storage b = true → a.hash hasher storage = b.hash hasher storage) ∧
    ∀ (storage' : Storage) (a' b' : StoredNodeId), a'.load storage' = a.load storage →
      b'.load storage' = b.load storage →
      a'.compare signedChar storage' b' = a.compare signedChar storage b ∧
      a'.beq storage' b' = a.beq storage b ∧
      a'.hash hasher storage' = a.hash hasher storage := by
  simp only [StoredNodeId.compare_eq]
  refine ⟨trivial, ?_, OrientedCmp.eq_swap, TransCmp.lt_trans, StoredNodeId.beq_iff a b, ?_, ?_⟩
  · rw [StoredNodeId.beq_iff]
    exact LawfulEqCmp.compare_eq_iff_eq
  · intro h
    exact StoredNodeId.hash_congr hasher ((StoredNodeId.beq_iff a b).mp h)
  · intro storage' a' b' ha hb
    refine ⟨by rw [ha, hb], ?_, StoredNodeId.hash_congr hasher ha⟩
    rw [Bool.eq_iff_iff, StoredNodeId.beq_iff, StoredNodeId.beq_iff, ha, hb]

end ScadaCore.Scada
