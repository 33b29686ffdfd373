import ScadaCore.Scada.Variant
import ScadaCore.Data.Traversal
import Mathlib.Logic.Function.Basic

/-!
# Remote.VariantCodec — variants on the wire

The `Convert` overloads of `protocol_utils.cpp` for node ids, extension objects
and variants, in both directions. A `protocol::` message is a record in the
namespace `Wire`; a field that was never set has its default, as in proto3. Each
overload is called `convert`, on the type it converts from. `none` is a call
that has no result: `base::NotReached`, or a time whose encoding overflows.

Every type has its `OnWire`, the values that come back as they went.
-/

namespace ScadaCore.Remote.Wire

structure NodeId where
  namespaceIndex : UInt32 := 0
  numericId : UInt32 := 0
  stringId : String := ""
  opaqueId : List UInt8 := []
deriving DecidableEq, Repr

structure RolePermission where
  roleId : NodeId := {}
  permissions : BitVec 32 := 0
deriving DecidableEq, Repr

/-- `protocol::ExtensionObject`. The rule, the user and the range have the same
fields on the wire as in the process. -/
structure ExtensionObject where
  typeId : NodeId := {}
  rolePermission : Option RolePermission := none
  identityMappingRule : Option Scada.IdentityMappingRule := none
  userManagementUser : Option Scada.UserManagementDataType := none
  range : Option Scada.Range := none
deriving DecidableEq, Repr

/-- `protocol::Variant`; the fields that neither direction touches are left
out. -/
structure Variant where
  dataType : UInt32 := 0
  rank : UInt32 := 0
  boolValue : Bool := false
  intValue : Int64 := 0
  doubleValue : Scada.Double := {}
  stringValueUtf8 : String := ""
  nodeIdValue : NodeId := {}
  byteStringValue : List UInt8 := []
  timeValueTime : Int64 := 0
  extensionObjectValue : ExtensionObject := {}
  boolArray : List Bool := []
  intArray : List Int64 := []
  doubleArray : List Scada.Double := []
  stringArrayUtf8 : List String := []
  extensionObjectArray : List ExtensionObject := []
deriving DecidableEq, Repr

end ScadaCore.Remote.Wire

namespace ScadaCore

open Remote

/-! ## Node ids -/

def Scada.NodeId.convert (source : NodeId) : Wire.NodeId :=
  let target : Wire.NodeId := { namespaceIndex := source.namespaceIndex.toUInt32 }
  match source.identifier with
  | .numeric id => { target with numericId := id }
  | .string id => { target with stringId := id }
  | .opaqueId id => { target with opaqueId := id }

/-- `Convert(const protocol::NodeId&, scada::NodeId&)`: the kind of the
identifier is told by which field is not empty. -/
def Remote.Wire.NodeId.convert (source : NodeId) : Scada.NodeId :=
  let namespaceIndex := source.namespaceIndex.toUInt16
  if source.stringId ≠ "" then
    { identifier := .string source.stringId, namespaceIndex }
  else if source.opaqueId ≠ [] then
    { identifier := .opaqueId source.opaqueId, namespaceIndex }
  else
    { identifier := .numeric source.numericId, namespaceIndex }

/-- An empty string or opaque identifier cannot be told from a numeric one. -/
def Scada.NodeId.OnWire (n : NodeId) : Prop :=
  n.identifier ≠ .string "" ∧ n.identifier ≠ .opaqueId []

theorem Scada.NodeId.convert_onWire (n : NodeId) : n.convert.convert = n ↔ n.OnWire := by
  rcases n with ⟨identifier, namespaceIndex⟩
  cases identifier with
  | numeric id => simp [NodeId.convert, Wire.NodeId.convert, NodeId.OnWire]
  | string id =>
    by_cases hempty : id = ""
    · simp [NodeId.convert, Wire.NodeId.convert, NodeId.OnWire, hempty]
    · simp [NodeId.convert, Wire.NodeId.convert, NodeId.OnWire, hempty]
  | opaqueId id =>
    by_cases hempty : id = []
    · simp [NodeId.convert, Wire.NodeId.convert, NodeId.OnWire, hempty]
    · simp [NodeId.convert, Wire.NodeId.convert, NodeId.OnWire, hempty]

def Remote.Wire.NodeId.identifier (source : NodeId) : Scada.Identifier :=
  if source.stringId ≠ "" then .string source.stringId
  else if source.opaqueId ≠ [] then .opaqueId source.opaqueId
  else .numeric source.numericId

theorem Remote.Wire.NodeId.convert_eq (source : NodeId) :
    source.convert =
      { identifier := source.identifier, namespaceIndex := source.namespaceIndex.toUInt16 } := by
  unfold Remote.Wire.NodeId.convert Remote.Wire.NodeId.identifier
  split
  · rfl
  · split <;> rfl

/-- Two messages with the same identifier collapse to one node id exactly if
their namespaces agree in the lower 16 bits. -/
theorem Remote.Wire.NodeId.convert_eq_iff {a b : NodeId}
    (hsame : a.identifier = b.identifier) :
    a.convert = b.convert ↔
      a.namespaceIndex.toNat % 65536 = b.namespaceIndex.toNat % 65536 := by
  rw [a.convert_eq, b.convert_eq, Scada.NodeId.mk.injEq, ← UInt16.toNat_inj,
    UInt32.toNat_toUInt16, UInt32.toNat_toUInt16]
  exact and_iff_right hsame

/-- **The codec of node ids, exactly.** A node id comes back as it went if and
only if its identifier is not an empty string or an empty opaque one. And
decoding tells the namespaces of two messages with the same identifier apart if
and only if they do not differ by a multiple of 65536 only. -/
theorem Remote.Wire.NodeId.codec_faithful_iff (n : Scada.NodeId) (a b : NodeId)
    (hsame : a.identifier = b.identifier) :
    (n.convert.convert = n ↔ n.OnWire) ∧
      ((a.convert = b.convert → a.namespaceIndex = b.namespaceIndex) ↔
        a.namespaceIndex = b.namespaceIndex ∨
          a.namespaceIndex.toNat % 65536 ≠ b.namespaceIndex.toNat % 65536) := by
  refine ⟨n.convert_onWire, ?_⟩
  rw [convert_eq_iff hsame, imp_iff_not_or, or_comm]

theorem Remote.Wire.NodeId.codec_faithful_numeric :
    (NodeId.mk 1 7 "" []).identifier = (NodeId.mk 2 7 "" []).identifier ∧
      (({ identifier := .numeric 7 } : Scada.NodeId).convert.convert = { identifier := .numeric 7 } ↔
        Scada.NodeId.OnWire { identifier := .numeric 7 }) ∧
      (((NodeId.mk 1 7 "" []).convert = (NodeId.mk 2 7 "" []).convert →
          (1 : UInt32) = 2) ↔
        (1 : UInt32) = 2 ∨ (1 : UInt32).toNat % 65536 ≠ (2 : UInt32).toNat % 65536) := by
  have hsame : (NodeId.mk 1 7 "" []).identifier = (NodeId.mk 2 7 "" []).identifier := rfl
  exact ⟨hsame, Remote.Wire.NodeId.codec_faithful_iff { identifier := .numeric 7 } _ _ hsame⟩

/-- An empty string identifier comes back as the null node id, and namespaces 1
and 65537 are one. -/
theorem Remote.Wire.NodeId.codec_collapses :
    ({ identifier := .string "" } : Scada.NodeId).convert.convert ≠ { identifier := .string "" } ∧
      (NodeId.mk 1 7 "" []).identifier = (NodeId.mk 65537 7 "" []).identifier ∧
      (NodeId.mk 1 7 "" []).convert = (NodeId.mk 65537 7 "" []).convert := by
  decide

/-! ## Extension objects -/

/-- `Convert(const scada::ExtensionObject&, protocol::ExtensionObject&)`: of the
type id only the node id is carried, and a payload the protocol does not know
is left out. -/
def Scada.ExtensionObject.convert (source : ExtensionObject) : Wire.ExtensionObject :=
  let target : Wire.ExtensionObject := { typeId := source.dataTypeId.nodeId.convert }
  match source.value with
  | .rolePermission role =>
    { target with
      rolePermission := some { roleId := role.roleId.convert, permissions := role.permissions } }
  | .identityMappingRule rule => { target with identityMappingRule := some rule }
  | .userManagement user => { target with userManagementUser := some user }
  | .range range => { target with range := some range }
  | .none | .other _ => target

/-- The payload of a `protocol::ExtensionObject`: the first field that is
present. -/
def Remote.Wire.ExtensionObject.payload (source : ExtensionObject) : Scada.Structure :=
  match source.rolePermission with
  | some role =>
    .rolePermission { roleId := role.roleId.convert, permissions := role.permissions }
  | none =>
    match source.identityMappingRule with
    | some rule => .identityMappingRule rule
    | none =>
      match source.userManagementUser with
      | some user => .userManagement user
      | none =>
        match source.range with
        | some range => .range range
        | none => .none

def Remote.Wire.ExtensionObject.convert (source : ExtensionObject) : Scada.ExtensionObject :=
  { dataTypeId := { nodeId := source.typeId.convert }, value := source.payload }

def Scada.Structure.OnWire : Structure → Prop
  | .rolePermission role => role.roleId.OnWire
  | .other _ => False
  | _ => True

def Scada.ExtensionObject.OnWire (o : ExtensionObject) : Prop :=
  (o.dataTypeId.nodeId.OnWire ∧ o.dataTypeId.namespaceUri = "" ∧ o.dataTypeId.serverIndex = 0) ∧
    o.value.OnWire

theorem Scada.ExtensionObject.convert_onWire (o : ExtensionObject) :
    o.convert.convert = o ↔ o.OnWire := by
  rcases o with ⟨⟨nodeId, namespaceUri, serverIndex⟩, value⟩
  have htype : ∀ o : Wire.ExtensionObject, o.typeId = nodeId.convert →
      ((⟨⟨o.typeId.convert, "", 0⟩, o.payload⟩ : ExtensionObject) =
          ⟨⟨nodeId, namespaceUri, serverIndex⟩, value⟩ ↔
        (nodeId.OnWire ∧ namespaceUri = "" ∧ serverIndex = 0) ∧ o.payload = value) := by
    intro o ho
    rw [ho, ExtensionObject.mk.injEq, ExpandedNodeId.mk.injEq, nodeId.convert_onWire]
    constructor
    · rintro ⟨⟨hnode, huri, hserver⟩, hvalue⟩
      exact ⟨⟨hnode, huri.symm, hserver.symm⟩, hvalue⟩
    · rintro ⟨⟨hnode, huri, hserver⟩, hvalue⟩
      exact ⟨⟨hnode, huri.symm, hserver.symm⟩, hvalue⟩
  rw [Wire.ExtensionObject.convert, htype _ (by cases value <;> rfl), ExtensionObject.OnWire]
  -- what is left is the payload, one alternative at a time
  apply and_congr_right
  intro _
  cases value with
  | rolePermission role =>
    show Structure.rolePermission _ = _ ↔ role.roleId.OnWire
    rw [Structure.rolePermission.injEq, RolePermissionType.mk.injEq,
      role.roleId.convert_onWire]
    exact and_iff_left rfl
  | none
  | identityMappingRule rule
  | userManagement user
  | range range => exact iff_of_true rfl trivial
  | other contents => exact iff_of_false (fun hno => by cases hno) id

/-! ## Variants -/

def Scada.VariantType.code : VariantType → UInt32
  | .empty => 0
  | .bool => 1
  | .int8 => 2
  | .uint8 => 3
  | .int16 => 4
  | .uint16 => 5
  | .int32 => 6
  | .uint32 => 7
  | .int64 => 8
  | .uint64 => 9
  | .double => 10
  | .byteString => 11
  | .string => 12
  | .qualifiedName => 13
  | .localizedText => 14
  | .nodeId => 15
  | .expandedNodeId => 16
  | .extensionObject => 17
  | .dateTime => 18

/-- The cast of a `data_type` off the wire; `none` where no enumerator has the
value. -/
def Scada.VariantType.ofCode (dataType : UInt32) : Option VariantType :=
  [.empty, .bool, .int8, .uint8, .int16, .uint16, .int32, .uint32, .int64, .uint64, .double,
    .byteString, .string, .qualifiedName, .localizedText, .nodeId, .expandedNodeId,
    .extensionObject, .dateTime][dataType.toNat]?

@[simp] theorem Scada.VariantType.ofCode_code (type : VariantType) :
    VariantType.ofCode type.code = some type := by
  cases type <;> rfl

/-- The `switch` over scalars of `Convert(const scada::Variant&,
protocol::Variant&)`. A name is sent without its namespace index and a text
without its locale; an expanded node id reaches `base::NotReached`. -/
def Scada.Scalar.convert (source : Scalar) : Option Wire.Variant :=
  let target : Wire.Variant := { dataType := source.type.code }
  match source with
  | .bool value => some { target with boolValue := value }
  | .int8 value => some { target with intValue := value.toInt64 }
  | .uint8 value => some { target with intValue := value.toUInt64.toInt64 }
  | .int16 value => some { target with intValue := value.toInt64 }
  | .uint16 value => some { target with intValue := value.toUInt64.toInt64 }
  | .int32 value => some { target with intValue := value.toInt64 }
  | .uint32 value => some { target with intValue := value.toUInt64.toInt64 }
  | .int64 value => some { target with intValue := value }
  | .uint64 value => some { target with intValue := value.toInt64 }
  | .double value => some { target with doubleValue := value }
  | .byteString value => some { target with byteStringValue := value }
  | .string value => some { target with stringValueUtf8 := value }
  | .qualifiedName value => some { target with stringValueUtf8 := value.name }
  | .localizedText value => some { target with stringValueUtf8 := utf8OfUtf16 value.text }
  | .nodeId value => some { target with nodeIdValue := value.convert }
  | .expandedNodeId _ => none
  | .extensionObject value => some { target with extensionObjectValue := value.convert }
  | .dateTime value =>
    (encodeWireMicroseconds value).map fun time => { target with timeValueTime := time }

/-- The `switch` over arrays; the element types it does not list reach
`base::NotReached`. -/
def Scada.Elements.convert (source : Elements) : Option Wire.Variant :=
  let target : Wire.Variant := { dataType := source.type.code, rank := 1 }
  match source with
  | .bool values => some { target with boolArray := values }
  | .int8 values => some { target with intArray := values.map Int8.toInt64 }
  | .uint8 values => some { target with intArray := values.map fun v => v.toUInt64.toInt64 }
  | .int16 values => some { target with intArray := values.map Int16.toInt64 }
  | .uint16 values => some { target with intArray := values.map fun v => v.toUInt64.toInt64 }
  | .int32 values => some { target with intArray := values.map Int32.toInt64 }
  | .uint32 values => some { target with intArray := values.map fun v => v.toUInt64.toInt64 }
  | .int64 values => some { target with intArray := values }
  | .uint64 values => some { target with intArray := values.map UInt64.toInt64 }
  | .double values => some { target with doubleArray := values }
  | .string values => some { target with stringArrayUtf8 := values }
  | .localizedText values =>
    some { target with stringArrayUtf8 := values.map fun v => utf8OfUtf16 v.text }
  | .extensionObject values =>
    some { target with extensionObjectArray := values.map ExtensionObject.convert }
  | .empty _ | .byteString _ | .qualifiedName _ | .nodeId _ | .expandedNodeId _ => none

/-- `Convert(const scada::Variant&, protocol::Variant&)`: a null variant sets
nothing. -/
def Scada.Variant.convert : Variant → Option Wire.Variant
  | none => some {}
  | some value =>
    if value.isNull then
      some {}
    else
      match value with
      | .scalar scalar => scalar.convert
      | .array elements => elements.convert

/-- The `switch` over scalars of `Convert(const protocol::Variant&,
scada::Variant&)`; a type it does not list is degraded to the null variant. -/
def Remote.Wire.Variant.scalar (source : Variant) : Option Scada.Variant :=
  let result (scalar : Scada.Scalar) : Option Scada.Variant := some (some (.scalar scalar))
  match Scada.VariantType.ofCode source.dataType with
  | some .bool => result (.bool source.boolValue)
  | some .int8 => result (.int8 source.intValue.toInt8)
  | some .uint8 => result (.uint8 source.intValue.toUInt64.toUInt8)
  | some .int16 => result (.int16 source.intValue.toInt16)
  | some .uint16 => result (.uint16 source.intValue.toUInt64.toUInt16)
  | some .int32 => result (.int32 source.intValue.toInt32)
  | some .uint32 => result (.uint32 source.intValue.toUInt64.toUInt32)
  | some .int64 => result (.int64 source.intValue)
  | some .uint64 => result (.uint64 source.intValue.toUInt64)
  | some .double => result (.double source.doubleValue)
  | some .string => result (.string source.stringValueUtf8)
  | some .qualifiedName => result (.qualifiedName { name := source.stringValueUtf8 })
  | some .localizedText =>
    result (.localizedText { text := Scada.utf16OfUtf8 source.stringValueUtf8 })
  | some .byteString => result (.byteString source.byteStringValue)
  | some .nodeId => result (.nodeId source.nodeIdValue.convert)
  | some .dateTime =>
    (Scada.decodeWireTime source.timeValueTime).map fun time => some (.scalar (.dateTime time))
  | some .extensionObject => result (.extensionObject source.extensionObjectValue.convert)
  | some .empty | some .expandedNodeId | none => some none

def Remote.Wire.Variant.array (source : Variant) : Scada.Variant :=
  let result (elements : Scada.Elements) : Scada.Variant := some (.array elements)
  match Scada.VariantType.ofCode source.dataType with
  | some .bool => result (.bool source.boolArray)
  | some .int8 => result (.int8 (source.intArray.map Int64.toInt8))
  | some .uint8 => result (.uint8 (source.intArray.map fun v => v.toUInt64.toUInt8))
  | some .int16 => result (.int16 (source.intArray.map Int64.toInt16))
  | some .uint16 => result (.uint16 (source.intArray.map fun v => v.toUInt64.toUInt16))
  | some .int32 => result (.int32 (source.intArray.map Int64.toInt32))
  | some .uint32 => result (.uint32 (source.intArray.map fun v => v.toUInt64.toUInt32))
  | some .int64 => result (.int64 source.intArray)
  | some .uint64 => result (.uint64 (source.intArray.map Int64.toUInt64))
  | some .double => result (.double source.doubleArray)
  | some .string => result (.string source.stringArrayUtf8)
  | some .localizedText =>
    result (.localizedText (source.stringArrayUtf8.map fun v => { text := Scada.utf16OfUtf8 v }))
  | some .extensionObject =>
    result (.extensionObject (source.extensionObjectArray.map ExtensionObject.convert))
  | _ => none

def Remote.Wire.Variant.convert (source : Variant) : Option Scada.Variant :=
  if source.rank = 0 then
    source.scalar
  else if source.rank = 1 then
    some source.array
  else
    some none

/-! ## What survives -/

def Scada.Scalar.OnWire : Scalar → Prop
  | .qualifiedName name => name.namespaceIndex = 0
  | .localizedText text => text.locale = ""
  | .nodeId id => id.OnWire
  | .expandedNodeId _ => False
  | .extensionObject object => object.OnWire
  | .dateTime time => time.OnWire
  | _ => True

def Scada.Elements.OnWire : Elements → Prop
  | .localizedText texts => ∀ text ∈ texts, text.locale = ""
  | .extensionObject objects => ∀ object ∈ objects, object.OnWire
  | .empty _ | .byteString _ | .qualifiedName _ | .nodeId _ | .expandedNodeId _ => False
  | _ => True

def Scada.Variant.OnWire : Variant → Prop
  | none => True
  | some (.scalar scalar) => scalar.OnWire
  | some (.array elements) => elements.OnWire

/-- The variant is encoded without a panic, and what is decoded is the variant:
the same type, rank and contents. -/
def Scada.Variant.Survives (v : Variant) : Prop :=
  ∃ wire, v.convert = some wire ∧ wire.convert = some v

attribute [local simp] Scada.Variant.Survives Scada.Variant.convert Scada.Value.isNull
  Wire.Variant.convert

theorem Scada.QualifiedName.ofName_eq_iff (q : QualifiedName) :
    ({ name := q.name } : QualifiedName) = q ↔ q.namespaceIndex = 0 := by
  rcases q with ⟨name, namespaceIndex⟩
  simp [eq_comm]

theorem Scada.LocalizedText.ofText_eq_iff (t : LocalizedText) :
    ({ text := t.text } : LocalizedText) = t ↔ t.locale = "" := by
  rcases t with ⟨locale, text⟩
  simp [eq_comm]

theorem Scada.Scalar.scalar_survives_iff (s : Scalar) :
    Variant.Survives (some (.scalar s)) ↔ s.OnWire := by
  cases s with
  | qualifiedName q =>
    simp [Scalar.convert, Wire.Variant.scalar, Scalar.type, Scalar.OnWire, q.ofName_eq_iff]
  | localizedText t =>
    simp [Scalar.convert, Wire.Variant.scalar, Scalar.type, Scalar.OnWire, t.ofText_eq_iff]
  | nodeId n =>
    simp [Scalar.convert, Wire.Variant.scalar, Scalar.type, Scalar.OnWire, n.convert_onWire]
  | extensionObject o =>
    simp [Scalar.convert, Wire.Variant.scalar, Scalar.type, Scalar.OnWire, o.convert_onWire]
  | dateTime time =>
    simp [Scalar.convert, Wire.Variant.scalar, Scalar.type, Scalar.OnWire, onWire_iff]
  | _ =>
    -- what is carried in a field of its own, or in 64 bits that hold it
    simp [Scalar.convert, Wire.Variant.scalar, Scalar.type, Scalar.OnWire]

theorem Scada.Elements.array_survives_iff (es : Elements) :
    Variant.Survives (some (.array es)) ↔ es.OnWire := by
  cases es with
  | empty count =>
    -- the message is the empty one, which decodes to the variant that holds nothing
    simp [Elements.type, Elements.OnWire, Wire.Variant.scalar, VariantType.ofCode]
  | localizedText texts =>
    simp [Elements.convert, Wire.Variant.array, Elements.type,
      Elements.OnWire, Function.comp_def, List.map_eq_self_iff,
      LocalizedText.ofText_eq_iff]
  | extensionObject objects =>
    simp [Elements.convert, Wire.Variant.array, Elements.type,
      Elements.OnWire, List.map_eq_self_iff, ExtensionObject.convert_onWire]
  | _ =>
    simp [Elements.convert, Wire.Variant.array, Elements.type, Elements.OnWire, Function.comp_def]

theorem Scada.Variant.none_survives : Variant.Survives none := by
  simp [Wire.Variant.scalar, VariantType.ofCode]

theorem Scada.Value.carried_iff (value : Value) :
    Variant.Survives (some value) ↔ Variant.OnWire (some value) := by
  cases value with
  | scalar scalar => exact scalar.scalar_survives_iff
  | array elements => exact elements.array_survives_iff

/-- A variant survives the wire exactly if every value in it is one the wire
carries. -/
theorem Scada.Variant.survives_iff (v : Variant) : v.Survives ↔ v.OnWire := by
  cases v with
  | none => exact iff_of_true none_survives trivial
  | some value => exact value.carried_iff

/-- An expanded node id, the attribute value of a reference to another server,
is not encoded at all. -/
theorem Scada.Variant.expandedNodeId_not_survives :
    ¬ Variant.Survives (some (.scalar (.expandedNodeId {}))) := by
  rintro ⟨wire, hwire, -⟩
  cases hwire

/-! ## What is encoded -/

def Scada.Scalar.Encodable : Scalar → Prop
  | .expandedNodeId _ => False
  | .dateTime time => time.Encodable
  | _ => True

def Scada.Elements.Encodable : Elements → Prop
  | .byteString _ | .qualifiedName _ | .nodeId _ | .expandedNodeId _ => False
  | _ => True

def Scada.Variant.Encodable : Variant → Prop
  | none => True
  | some (.scalar scalar) => scalar.Encodable
  | some (.array elements) => elements.Encodable

theorem Scada.Variant.convert_isSome_iff (v : Variant) : v.convert.isSome ↔ v.Encodable := by
  rcases v with _ | scalar | elements
  · exact iff_of_true rfl trivial
  · cases scalar with
    | dateTime time =>
      simp [Scalar.convert, Variant.Encodable, Scalar.Encodable, encodeWireMicroseconds_isSome_iff]
    | _ => simp [Scalar.convert, Variant.Encodable, Scalar.Encodable]
  · cases elements with
    | empty count =>
      simp [Elements.type, Variant.Encodable, Elements.Encodable]
    | _ =>
      simp [Elements.convert, Elements.type, Variant.Encodable, Elements.Encodable]

/-- What has been decoded can be encoded again: where a type has no encoding, the
null variant is decoded. -/
theorem Remote.Wire.Variant.encodable_of_convert {wire : Variant} {v : Scada.Variant}
    (h : wire.convert = some v) : v.Encodable := by
  unfold Variant.convert at h
  split at h
  · unfold Variant.scalar at h
    cases htype : Scada.VariantType.ofCode wire.dataType with
    | none =>
      simp only [htype, Option.some.injEq] at h
      subst h
      trivial
    | some type =>
      simp only [htype] at h
      cases type with
      | dateTime =>
        obtain ⟨time, htime, rfl⟩ := Option.map_eq_some_iff.mp h
        exact Scada.encodable_of_decode htime
      | _ =>
        cases h
        trivial
  · split at h
    · cases h
      unfold Variant.array
      split <;> trivial
    · cases h
      trivial

end ScadaCore
