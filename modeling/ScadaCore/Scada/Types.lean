import ScadaCore.Scada.Status
import ScadaCore.Base.Time

/-!
# Scada.Types — node ids, value ids and data values

The data the services exchange, as far as the modelled functions look at it.
The value of a variable is a type parameter `V` with a boolean equality:
`Variant` equality need not be reflexive (a NaN), and nothing here may assume
that it is.
-/

namespace ScadaCore.Scada

/-- The identifier of a node id: numeric, string or opaque. -/
inductive Identifier where
  | numeric (id : UInt32)
  | string (id : String)
  | opaqueId (id : List UInt8)
deriving DecidableEq, Repr

/-- `class NodeId`; `NumericId` is 32 and `NamespaceIndex` 16 bits wide. -/
structure NodeId where
  identifier : Identifier := .numeric 0
  namespaceIndex : UInt16 := 0
deriving DecidableEq, Repr

/-- `NodeId::is_null`: namespace 0 and the numeric identifier 0. -/
def NodeId.isNull (n : NodeId) : Bool :=
  n.namespaceIndex == 0 && n.identifier == .numeric 0

/-- `enum class AttributeId`; `unknown` is a value cast from the wire that is
none of the declared ones. -/
inductive AttributeId where
  | nodeId | nodeClass | browseName | displayName | description
  | writeMask | userWriteMask | isAbstract | symmetric | inverseName
  | containsNoLoops | eventNotifier | value | dataType | valueRank
  | arrayDimensions | accessLevel | userAccessLevel | minimumSamplingInterval
  | historizing | executable | userExecutable | dataTypeDefinition
  | rolePermissions | userRolePermissions
  | unknown (raw : Nat)
deriving DecidableEq, Repr

/-- The table of names in `ToString(scada::AttributeId)`, which has 26 entries, has
one for the id. -/
def AttributeId.isNamed : AttributeId → Bool
  | .unknown raw => decide (raw < 26)
  | _ => true

structure ReadValueId where
  nodeId : NodeId := {}
  attributeId : AttributeId := .value
deriving DecidableEq, Repr

/-! ## Data values -/

/-- `class Qualifier`: the raw flag bits. -/
structure Qualifier where
  raw : BitVec 32 := 0
deriving DecidableEq, Repr

namespace Qualifier

def flagFailed : BitVec 32 := 0x40
def flagOffline : BitVec 32 := 0x20

def failed (q : Qualifier) : Bool := q.raw &&& flagFailed != 0

/-- The qualifier that has just this flag. -/
def offline : Qualifier := ⟨flagOffline⟩

def update (q : Qualifier) (remove add : BitVec 32) : Qualifier :=
  ⟨(q.raw &&& ~~~remove) ||| add⟩

end Qualifier

/-- `class DataValue`; an absent value is an empty variant. -/
structure DataValue (V : Type) where
  value : Option V := none
  qualifier : Qualifier := {}
  sourceTimestamp : Time := nullTime
  serverTimestamp : Time := nullTime
  statusCode : StatusCode := .good
deriving Repr

namespace DataValue

variable {V : Type}

/-- The constructor of a value that is only a status; `none` is its failed
`base::Check(!IsGood(status_code))`. -/
def ofStatus (statusCode : StatusCode) (serverTimestamp : Time) : Option (DataValue V) :=
  if statusCode.isGood then none else some { serverTimestamp, statusCode }

def isNull (a : DataValue V) : Bool := a.value.isNone && a.qualifier.raw == 0

def beq [BEq V] (a b : DataValue V) : Bool :=
  a.sourceTimestamp == b.sourceTimestamp && a.serverTimestamp == b.serverTimestamp &&
    a.value == b.value && a.qualifier == b.qualifier && a.statusCode == b.statusCode

instance [BEq V] : BEq (DataValue V) := ⟨beq⟩

/-- `IsUpdate`: the new value is not older than the current one. -/
def isUpdate (current new : DataValue V) : Bool :=
  current.sourceTimestamp == nullTime ||
    decide (current.sourceTimestamp < new.sourceTimestamp) ||
    (current.sourceTimestamp == new.sourceTimestamp &&
      decide (current.serverTimestamp ≤ new.serverTimestamp))

end DataValue

end ScadaCore.Scada
