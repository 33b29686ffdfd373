import ScadaCore.Remote.VariantCodec
import ScadaCore.Scada.Services

/-!
# Remote.RequestCodec — request items on the wire

The `Convert` overloads for the items of the write, translate, add-references,
delete-references and delete-nodes requests and for event filters. An attribute
id and a node class are cast to the enumeration of the protocol and back, which
is open, so a message carries the value itself.

As for variants, every type has its `OnWire`, the items that come back as they
went. What is lost is never an error: a write flag other than `SELECT`, the
namespace index of a browse name, and the namespace URI and server index of a
target are just not sent.
-/

namespace ScadaCore.Remote.Wire

structure Write where
  nodeId : NodeId := {}
  value : Variant := {}
  attributeId : Scada.AttributeId := .unknown 0
  select : Bool := false
deriving DecidableEq, Repr

structure RelativePathElement where
  referenceTypeId : NodeId := {}
  inverse : Bool := false
  includeSubtypes : Bool := false
  targetName : String := ""
deriving DecidableEq, Repr

structure BrowsePath where
  nodeId : NodeId := {}
  relativePathElement : List RelativePathElement := []
deriving DecidableEq, Repr

structure ExpandedNodeId where
  nodeId : NodeId := {}
deriving DecidableEq, Repr

structure AddReference where
  sourceNodeId : NodeId := {}
  referenceTypeId : NodeId := {}
  forward : Bool := false
  targetServerUri : String := ""
  targetNodeId : ExpandedNodeId := {}
  targetNodeClass : Scada.NodeClass := .unspecified
deriving DecidableEq, Repr

structure DeleteReference where
  sourceNodeId : NodeId := {}
  referenceTypeId : NodeId := {}
  forward : Bool := false
  targetNodeId : ExpandedNodeId := {}
  deleteBidirectional : Bool := false
deriving DecidableEq, Repr

structure DeleteNode where
  nodeId : NodeId := {}
  deleteTargetReferences : Bool := false
deriving DecidableEq, Repr

structure EventFilter where
  acked : Bool := false
  unacked : Bool := false
  ofType : List NodeId := []
  childOf : List NodeId := []
deriving DecidableEq, Repr

end ScadaCore.Remote.Wire

namespace ScadaCore

open Remote

/-! ## Writes -/

/-- `WriteFlags::SELECT`. -/
def Scada.WriteValue.selectFlag : BitVec 32 := 1

/-- `WriteFlags::PARAM`. -/
def Scada.WriteValue.paramFlag : BitVec 32 := 2

def Scada.WriteValue.convert (source : WriteValue) : Option Wire.Write := do
  let value ← source.value.convert
  return {
    nodeId := source.nodeId.convert
    attributeId := source.attributeId
    value
    select := source.flags &&& selectFlag != 0 }

def Remote.Wire.Write.convert (source : Write) : Option Scada.WriteValue := do
  let value ← source.value.convert
  return {
    nodeId := source.nodeId.convert
    attributeId := source.attributeId
    value
    flags := if source.select then Scada.WriteValue.selectFlag else 0 }

/-- The item is encoded, and what is decoded is the item. -/
def Scada.WriteValue.Survives (w : WriteValue) : Prop :=
  ∃ wire, w.convert = some wire ∧ wire.convert = some w

/-- The only flag that is sent is `SELECT`. -/
structure Scada.WriteValue.OnWire (w : WriteValue) : Prop where
  nodeId : w.nodeId.OnWire
  value : w.value.OnWire
  flags : w.flags = 0 ∨ w.flags = selectFlag

theorem Scada.WriteValue.flags_kept_iff (flags : BitVec 32) :
    (if flags &&& selectFlag != 0 then selectFlag else 0) = flags ↔
      flags = 0 ∨ flags = selectFlag := by
  constructor
  · intro hkept
    split at hkept
    · exact Or.inr hkept.symm
    · exact Or.inl hkept.symm
  · rintro (rfl | rfl) <;> decide

theorem Scada.WriteValue.survives_write_iff (w : WriteValue) : w.Survives ↔ w.OnWire := by
  have hvalue : w.value.Survives ↔ w.value.OnWire := by
    cases w.value with
    | none => exact iff_of_true Variant.none_survives trivial
    | some value => exact value.carried_iff
  constructor
  · rintro ⟨wire, hwire, hback⟩
    obtain ⟨wireValue, hsent, hwire⟩ := Option.bind_eq_some_iff.mp hwire
    cases hwire
    obtain ⟨value, hreceived, hback⟩ := Option.bind_eq_some_iff.mp hback
    have heq := Option.some.inj hback
    have hsame : value = w.value := congrArg WriteValue.value heq
    exact ⟨w.nodeId.convert_onWire.mp (congrArg WriteValue.nodeId heq),
      hvalue.mp ⟨wireValue, hsent, hsame ▸ hreceived⟩,
      (flags_kept_iff w.flags).mp (congrArg WriteValue.flags heq)⟩
  · rintro ⟨hnode, honwire, hflags⟩
    obtain ⟨wireValue, hsent, hreceived⟩ := hvalue.mpr honwire
    refine ⟨_, Option.bind_eq_some_iff.mpr ⟨wireValue, hsent, rfl⟩,
      Option.bind_eq_some_iff.mpr ⟨w.value, hreceived, ?_⟩⟩
    simp only [w.nodeId.convert_onWire.mpr hnode, (flags_kept_iff w.flags).mpr hflags]
    rfl

/-! ## Browse paths -/

/-- `Convert(const scada::RelativePathElement&, protocol::RelativePathElement&)`: of
the browse name only the name is sent. -/
def Scada.RelativePathElement.convert (source : RelativePathElement) : Wire.RelativePathElement :=
  { referenceTypeId := source.referenceTypeId.convert
    inverse := source.inverse
    includeSubtypes := source.includeSubtypes
    targetName := source.targetName.name }

def Remote.Wire.RelativePathElement.convert (source : RelativePathElement) :
    Scada.RelativePathElement :=
  { referenceTypeId := source.referenceTypeId.convert
    inverse := source.inverse
    includeSubtypes := source.includeSubtypes
    targetName := { name := source.targetName } }

def Scada.BrowsePath.convert (source : BrowsePath) : Wire.BrowsePath :=
  { nodeId := source.nodeId.convert
    relativePathElement := source.relativePath.map RelativePathElement.convert }

def Remote.Wire.BrowsePath.convert (source : BrowsePath) : Scada.BrowsePath :=
  { nodeId := source.nodeId.convert
    relativePath := source.relativePathElement.map RelativePathElement.convert }

/-- Only browse names in namespace 0 come back. -/
def Scada.RelativePathElement.OnWire (e : RelativePathElement) : Prop :=
  e.referenceTypeId.OnWire ∧ e.targetName.namespaceIndex = 0

def Scada.BrowsePath.OnWire (p : BrowsePath) : Prop :=
  p.nodeId.OnWire ∧ ∀ element ∈ p.relativePath, element.OnWire

theorem Scada.RelativePathElement.convert_onWire (e : RelativePathElement) :
    e.convert.convert = e ↔ e.OnWire := by
  rcases e with ⟨referenceTypeId, inverse, includeSubtypes, targetName⟩
  simp [RelativePathElement.convert, Wire.RelativePathElement.convert,
    RelativePathElement.OnWire, referenceTypeId.convert_onWire, targetName.ofName_eq_iff]

theorem Scada.BrowsePath.convert_onWire (p : BrowsePath) : p.convert.convert = p ↔ p.OnWire := by
  rcases p with ⟨nodeId, relativePath⟩
  simp [BrowsePath.convert, Wire.BrowsePath.convert, BrowsePath.OnWire,
    nodeId.convert_onWire, List.map_eq_self_iff, RelativePathElement.convert_onWire]

/-! ## References -/

def Scada.ExpandedNodeId.convert (source : ExpandedNodeId) : Wire.ExpandedNodeId :=
  { nodeId := source.nodeId.convert }

def Remote.Wire.ExpandedNodeId.convert (source : ExpandedNodeId) : Scada.ExpandedNodeId :=
  { nodeId := source.nodeId.convert }

/-- Only targets in a local namespace of this server come back. -/
def Scada.ExpandedNodeId.OnWire (n : ExpandedNodeId) : Prop :=
  n.nodeId.OnWire ∧ n.namespaceUri = "" ∧ n.serverIndex = 0

theorem Scada.ExpandedNodeId.convert_onWire (n : ExpandedNodeId) :
    n.convert.convert = n ↔ n.OnWire := by
  rcases n with ⟨nodeId, namespaceUri, serverIndex⟩
  simp [ExpandedNodeId.convert, Wire.ExpandedNodeId.convert, ExpandedNodeId.OnWire,
    nodeId.convert_onWire, @eq_comm _ "", @eq_comm _ (0 : UInt32)]

def Scada.AddReferencesItem.convert (source : AddReferencesItem) : Wire.AddReference :=
  { sourceNodeId := source.sourceNodeId.convert
    referenceTypeId := source.referenceTypeId.convert
    forward := source.forward
    targetNodeId := source.targetNodeId.convert
    targetServerUri := source.targetServerUri
    targetNodeClass := source.targetNodeClass }

def Remote.Wire.AddReference.convert (source : AddReference) : Scada.AddReferencesItem :=
  { sourceNodeId := source.sourceNodeId.convert
    referenceTypeId := source.referenceTypeId.convert
    forward := source.forward
    targetNodeId := source.targetNodeId.convert
    targetServerUri := source.targetServerUri
    targetNodeClass := source.targetNodeClass }

def Scada.DeleteReferencesItem.convert (source : DeleteReferencesItem) : Wire.DeleteReference :=
  { sourceNodeId := source.sourceNodeId.convert
    referenceTypeId := source.referenceTypeId.convert
    forward := source.forward
    targetNodeId := source.targetNodeId.convert
    deleteBidirectional := source.deleteBidirectional }

def Remote.Wire.DeleteReference.convert (source : DeleteReference) : Scada.DeleteReferencesItem :=
  { sourceNodeId := source.sourceNodeId.convert
    referenceTypeId := source.referenceTypeId.convert
    forward := source.forward
    targetNodeId := source.targetNodeId.convert
    deleteBidirectional := source.deleteBidirectional }

def Scada.AddReferencesItem.OnWire (i : AddReferencesItem) : Prop :=
  i.sourceNodeId.OnWire ∧ i.referenceTypeId.OnWire ∧ i.targetNodeId.OnWire

def Scada.DeleteReferencesItem.OnWire (i : DeleteReferencesItem) : Prop :=
  i.sourceNodeId.OnWire ∧ i.referenceTypeId.OnWire ∧ i.targetNodeId.OnWire

theorem Scada.AddReferencesItem.convert_onWire (i : AddReferencesItem) :
    i.convert.convert = i ↔ i.OnWire := by
  rcases i with ⟨sourceNodeId, referenceTypeId, forward, uri, targetNodeId, nodeClass⟩
  simp [AddReferencesItem.convert, Wire.AddReference.convert,
    AddReferencesItem.OnWire, sourceNodeId.convert_onWire, referenceTypeId.convert_onWire,
    targetNodeId.convert_onWire]

theorem Scada.DeleteReferencesItem.convert_onWire (i : DeleteReferencesItem) :
    i.convert.convert = i ↔ i.OnWire := by
  rcases i with ⟨sourceNodeId, referenceTypeId, forward, targetNodeId, bidirectional⟩
  simp [DeleteReferencesItem.convert, Wire.DeleteReference.convert,
    DeleteReferencesItem.OnWire, sourceNodeId.convert_onWire,
    referenceTypeId.convert_onWire, targetNodeId.convert_onWire]

/-! ## Nodes and filters -/

def Scada.DeleteNodesItem.convert (source : DeleteNodesItem) : Wire.DeleteNode :=
  { nodeId := source.nodeId.convert
    deleteTargetReferences := source.deleteTargetReferences }

def Remote.Wire.DeleteNode.convert (source : DeleteNode) : Scada.DeleteNodesItem :=
  { nodeId := source.nodeId.convert
    deleteTargetReferences := source.deleteTargetReferences }

def Scada.DeleteNodesItem.OnWire (i : DeleteNodesItem) : Prop := i.nodeId.OnWire

theorem Scada.DeleteNodesItem.convert_onWire (i : DeleteNodesItem) :
    i.convert.convert = i ↔ i.OnWire := by
  rcases i with ⟨nodeId, deleteTargetReferences⟩
  simp [DeleteNodesItem.convert, Wire.DeleteNode.convert, DeleteNodesItem.OnWire,
    nodeId.convert_onWire]

def Scada.EventFilter.acked : BitVec 32 := 1#32 <<< 0

def Scada.EventFilter.unacked : BitVec 32 := 1#32 <<< 1

def Scada.EventFilter.convert (source : EventFilter) : Wire.EventFilter :=
  { acked := source.types &&& acked != 0
    unacked := source.types &&& unacked != 0
    ofType := source.ofType.map NodeId.convert
    childOf := source.childOf.map NodeId.convert }

def Remote.Wire.EventFilter.convert (source : EventFilter) : Scada.EventFilter :=
  { types := (if source.acked then Scada.EventFilter.acked else 0) |||
      if source.unacked then Scada.EventFilter.unacked else 0
    ofType := source.ofType.map NodeId.convert
    childOf := source.childOf.map NodeId.convert }

/-- The types are within `ACKED | UNACKED`. -/
structure Scada.EventFilter.OnWire (f : EventFilter) : Prop where
  types : f.types &&& (acked ||| unacked) = f.types
  ofType : ∀ id ∈ f.ofType, id.OnWire
  childOf : ∀ id ∈ f.childOf, id.OnWire

/-- Testing a bit and setting it is cutting it out. -/
theorem Scada.EventFilter.set_tested_bit (types : BitVec 32) (k : Nat) :
    (if types &&& 1#32 <<< k != 0 then 1#32 <<< k else 0) = types &&& 1#32 <<< k := by
  have hbit : types &&& 1#32 <<< k = if types.getLsbD k then 1#32 <<< k else 0 :=
    BitVec.and_twoPow types k
  rw [hbit]
  cases types.getLsbD k with
  | false => rfl
  | true =>
    -- a mask that is shifted out leaves nothing to set
    simp only [↓reduceIte]
    split
    · rfl
    · rename_i hzero
      exact (by simpa using hzero : 1#32 <<< k = 0).symm

theorem Scada.EventFilter.convert_onWire (f : EventFilter) : f.convert.convert = f ↔ f.OnWire := by
  have htypes : f.convert.convert.types = f.types &&& (acked ||| unacked) := by
    refine (congrArg₂ (· ||| ·) (set_tested_bit f.types 0) (set_tested_bit f.types 1)).trans ?_
    exact BitVec.and_or_distrib_left.symm
  have hids : ∀ ids : List NodeId,
      (ids.map NodeId.convert).map Wire.NodeId.convert = ids ↔ ∀ id ∈ ids, id.OnWire := by
    intro ids
    simp [List.map_eq_self_iff, NodeId.convert_onWire]
  constructor
  · intro hback
    refine ⟨htypes.symm.trans (congrArg EventFilter.types hback), ?_, ?_⟩
    · exact (hids f.ofType).mp (congrArg EventFilter.ofType hback)
    · exact (hids f.childOf).mp (congrArg EventFilter.childOf hback)
  · rintro ⟨hwithin, hofType, hchildOf⟩
    rcases f with ⟨types, ofType, childOf⟩
    exact EventFilter.mk.injEq .. ▸
      ⟨htypes.trans hwithin, (hids ofType).mpr hofType, (hids childOf).mpr hchildOf⟩

/-! ## All request items -/

/-- **Request items on the wire, exactly.** For each kind of item, the item that
is decoded is the one that was encoded if and only if the ids and values in it
survive and nothing else is asked of it than a message holds: no write flag but
`SELECT`, browse names in namespace 0, targets without a namespace URI and
server index. -/
theorem Remote.Wire.request_items_survive_iff (write : Scada.WriteValue)
    (path : Scada.BrowsePath) (add : Scada.AddReferencesItem)
    (delete : Scada.DeleteReferencesItem) (node : Scada.DeleteNodesItem)
    (filter : Scada.EventFilter) :
    (write.Survives ↔ write.OnWire) ∧
      (path.convert.convert = path ↔ path.OnWire) ∧
      (add.convert.convert = add ↔ add.OnWire) ∧
      (delete.convert.convert = delete ↔ delete.OnWire) ∧
      (node.convert.convert = node ↔ node.OnWire) ∧
      (filter.convert.convert = filter ↔ filter.OnWire) :=
  ⟨write.survives_write_iff, path.convert_onWire, add.convert_onWire, delete.convert_onWire,
    node.convert_onWire, filter.convert_onWire⟩

/-- A write with the `PARAM` flag, a browse name in namespace 2, and a target on
server 1 under a namespace URI. -/
theorem Remote.Wire.request_items_lose :
    ¬ ({ nodeId := { identifier := .numeric 7 }
         value := some (.scalar (.int32 1))
         flags := Scada.WriteValue.paramFlag } : Scada.WriteValue).Survives ∧
      (let path : Scada.BrowsePath :=
        { nodeId := { identifier := .numeric 7 }
          relativePath :=
            [{ referenceTypeId := { identifier := .numeric 35 }
               targetName := { name := "Pump", namespaceIndex := 2 } }] }
       path.convert.convert ≠ path) ∧
      let add : Scada.AddReferencesItem :=
        { sourceNodeId := { identifier := .numeric 7 }
          referenceTypeId := { identifier := .numeric 35 }
          targetNodeId :=
            { nodeId := { identifier := .numeric 9 }, namespaceUri := "urn:a", serverIndex := 1 } }
      add.convert.convert ≠ add := by
  refine ⟨?_, by decide, by decide⟩
  intro hsurvives
  have hflags := ((Scada.WriteValue.survives_write_iff _).mp hsurvives).flags
  revert hflags
  decide

end ScadaCore
