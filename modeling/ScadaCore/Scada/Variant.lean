import ScadaCore.Scada.Authorization

/-!
# Scada.Variant — names, texts, structured values and variants

The value types of the address space, as `scada/variant.h` lists them. Text is
valid text: a UTF-8 string is a `String`, a UTF-16 string the list of the
characters it spells, so that `UtfConvert` is the change between the two.
-/

namespace ScadaCore.Scada

structure QualifiedName where
  name : String := ""
  namespaceIndex : UInt16 := 0
deriving DecidableEq, Repr

structure LocalizedText where
  locale : String := ""
  text : List Char := []
deriving DecidableEq, Repr

/-- `UtfConvert<char16_t>` and `UtfConvert<char>`. -/
def utf16OfUtf8 (utf8 : String) : List Char := utf8.toList
def utf8OfUtf16 (utf16 : List Char) : String := String.ofList utf16

@[simp] theorem utf16OfUtf8_utf8OfUtf16 (utf16 : List Char) :
    utf16OfUtf8 (utf8OfUtf16 utf16) = utf16 := String.toList_ofList

structure ExpandedNodeId where
  nodeId : NodeId := {}
  namespaceUri : String := ""
  serverIndex : UInt32 := 0
deriving DecidableEq, Repr

/-- A `double`, by the bits of its representation. -/
structure Double where
  bits : UInt64 := 0
deriving DecidableEq, Repr

abbrev ByteString := List UInt8

/-! ## Structured values -/

/-- `struct IdentityMappingRule`; the criteria type is a 32-bit enumeration that
may hold any value off the wire. -/
structure IdentityMappingRule where
  criteriaType : Int32 := 1
  criteria : String := ""
deriving DecidableEq, Repr

structure UserManagementDataType where
  userName : String := ""
  userConfiguration : BitVec 32 := 0
  description : String := ""
deriving DecidableEq, Repr

structure Range where
  low : Double := {}
  high : Double := {}
deriving DecidableEq, Repr

/-- What the `std::any` of an extension object holds; `other` are the types the
protocol does not know, told apart by a number. -/
inductive Structure where
  | none
  | rolePermission (role : RolePermissionType)
  | identityMappingRule (rule : IdentityMappingRule)
  | userManagement (user : UserManagementDataType)
  | range (range : Range)
  | other (contents : Nat)
deriving DecidableEq, Repr

structure ExtensionObject where
  dataTypeId : ExpandedNodeId := {}
  value : Structure := .none
deriving DecidableEq, Repr

/-! ## Variants -/

/-- `enum Variant::Type`. -/
inductive VariantType where
  | empty | bool | int8 | uint8 | int16 | uint16 | int32 | uint32 | int64 | uint64
  | double | byteString | string | qualifiedName | localizedText | nodeId
  | expandedNodeId | extensionObject | dateTime
deriving DecidableEq, Repr

/-- The scalar alternatives of `Variant::Data`, the empty one apart. -/
inductive Scalar where
  | bool (value : Bool)
  | int8 (value : Int8)
  | uint8 (value : UInt8)
  | int16 (value : Int16)
  | uint16 (value : UInt16)
  | int32 (value : Int32)
  | uint32 (value : UInt32)
  | int64 (value : Int64)
  | uint64 (value : UInt64)
  | double (value : Double)
  | byteString (value : ByteString)
  | string (value : String)
  | qualifiedName (value : QualifiedName)
  | localizedText (value : LocalizedText)
  | nodeId (value : NodeId)
  | expandedNodeId (value : ExpandedNodeId)
  | extensionObject (value : ExtensionObject)
  | dateTime (value : Time)
deriving DecidableEq, Repr

/-- The array alternatives. `std::vector<std::monostate>` has a length only, and
there is no array of times. -/
inductive Elements where
  | empty (count : Nat)
  | bool (values : List Bool)
  | int8 (values : List Int8)
  | uint8 (values : List UInt8)
  | int16 (values : List Int16)
  | uint16 (values : List UInt16)
  | int32 (values : List Int32)
  | uint32 (values : List UInt32)
  | int64 (values : List Int64)
  | uint64 (values : List UInt64)
  | double (values : List Double)
  | byteString (values : List ByteString)
  | string (values : List String)
  | qualifiedName (values : List QualifiedName)
  | localizedText (values : List LocalizedText)
  | nodeId (values : List NodeId)
  | expandedNodeId (values : List ExpandedNodeId)
  | extensionObject (values : List ExtensionObject)
deriving DecidableEq, Repr

/-- What a variant holds if it holds something. -/
inductive Value where
  | scalar (scalar : Scalar)
  | array (elements : Elements)
deriving DecidableEq, Repr

/-- `class Variant`; `none` is the variant that holds `std::monostate`. -/
abbrev Variant := Option Value

def Scalar.type : Scalar → VariantType
  | .bool _ => .bool
  | .int8 _ => .int8
  | .uint8 _ => .uint8
  | .int16 _ => .int16
  | .uint16 _ => .uint16
  | .int32 _ => .int32
  | .uint32 _ => .uint32
  | .int64 _ => .int64
  | .uint64 _ => .uint64
  | .double _ => .double
  | .byteString _ => .byteString
  | .string _ => .string
  | .qualifiedName _ => .qualifiedName
  | .localizedText _ => .localizedText
  | .nodeId _ => .nodeId
  | .expandedNodeId _ => .expandedNodeId
  | .extensionObject _ => .extensionObject
  | .dateTime _ => .dateTime

def Elements.type : Elements → VariantType
  | .empty _ => .empty
  | .bool _ => .bool
  | .int8 _ => .int8
  | .uint8 _ => .uint8
  | .int16 _ => .int16
  | .uint16 _ => .uint16
  | .int32 _ => .int32
  | .uint32 _ => .uint32
  | .int64 _ => .int64
  | .uint64 _ => .uint64
  | .double _ => .double
  | .byteString _ => .byteString
  | .string _ => .string
  | .qualifiedName _ => .qualifiedName
  | .localizedText _ => .localizedText
  | .nodeId _ => .nodeId
  | .expandedNodeId _ => .expandedNodeId
  | .extensionObject _ => .extensionObject

/-- `Variant::is_null`: the type is `EMPTY`, which an array of nothing has too. -/
def Value.isNull : Value → Bool
  | .scalar _ => false
  | .array elements => elements.type == .empty

@[inherit_doc Value.isNull]
def Variant.isNull (v : Variant) : Bool := v.all Value.isNull

end ScadaCore.Scada
