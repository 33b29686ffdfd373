import ScadaCore.Scada.Variant
import ScadaCore.Data.Table
import ScadaCore.Data.Patch

/-!
# Scada.NamespaceRemapper — the namespace indexes of two servers

A namespace index means a position in the `NamespaceArray` of the server that
issued it. `NamespaceRemapper` renames the indexes of a downstream server to
those of the proxy and back. It is a `Patch`: an index that it does not know, or
whose slot has no URI, keeps its number, whatever that number means on the other
side. Each overload of `ToProxy` and `ToDownstream` has that name on the type it
translates.
-/

namespace ScadaCore.Scada

open Patch

/-! ## The table of the proxy -/

structure ProxyNamespaceTable where
  uris : List String := ["http://opcfoundation.org/UA/"]
deriving DecidableEq, Repr

namespace ProxyNamespaceTable

variable (table : ProxyNamespaceTable) (uri : String)

/-- The index of a URI that the table has; a position is cast to 16 bits. -/
def indexOf : UInt16 :=
  UInt16.ofNat (table.uris.idxOf uri)

def find : Option UInt16 :=
  if uri ∈ table.uris then some (table.indexOf uri) else none

def getOrAdd : UInt16 × ProxyNamespaceTable :=
  match table.find uri with
  | some existing => (existing, table)
  | none =>
    let table : ProxyNamespaceTable := { uris := table.uris ++ [uri] }
    (UInt16.ofNat (table.uris.length - 1), table)

theorem uris_getOrAdd :
    (table.getOrAdd uri).2.uris =
      if uri ∈ table.uris then table.uris else table.uris ++ [uri] := by
  by_cases hmem : uri ∈ table.uris
  · simp [getOrAdd, find, hmem]
  · simp [getOrAdd, find, hmem]

theorem getOrAdd_spec :
    table.uris <+: (table.getOrAdd uri).2.uris ∧ uri ∈ (table.getOrAdd uri).2.uris ∧
      (table.getOrAdd uri).1 = (table.getOrAdd uri).2.indexOf uri := by
  by_cases hmem : uri ∈ table.uris
  · have hfind : table.find uri = some (table.indexOf uri) := by simp [find, hmem]
    simp [getOrAdd, hfind, hmem]
  · have hfind : table.find uri = none := by simp [find, hmem]
    simp [getOrAdd, hfind, indexOf, List.idxOf_append_of_notMem hmem]

theorem indexOf_of_prefix {table table' : ProxyNamespaceTable} (h : table.uris <+: table'.uris)
    {uri : String} (hmem : uri ∈ table.uris) : table'.indexOf uri = table.indexOf uri := by
  obtain ⟨more, hmore⟩ := h
  rw [indexOf, indexOf, ← hmore, List.idxOf_append_of_mem hmem]

end ProxyNamespaceTable

/-! ## The remapper -/

/-- `class NamespaceRemapper`: `to_proxy_` and `to_downstream_`. -/
structure NamespaceRemapper where
  proxyIndexes : List UInt16 := []
  downstreamIndexes : Table UInt16 UInt16 := ∅

/-- What a `Remap` is called with: it dispatches by the type of the identifier. -/
structure Remap where
  nodeId : NodeId → NodeId
  expandedNodeId : ExpandedNodeId → ExpandedNodeId
  qualifiedName : QualifiedName → QualifiedName

variable (pairs : List (UInt16 × UInt16))

namespace NamespaceRemapper

/-- One round of the loop of `Build`. -/
def buildSlot (state : NamespaceRemapper × ProxyNamespaceTable) (slot : String × Nat) :
    NamespaceRemapper × ProxyNamespaceTable :=
  let (remapper, proxyTable) := state
  let (uri, downstreamIndex) := slot
  if uri = "" then
    -- the slot identifies no namespace: its number is left, and there is no way back
    ({ remapper with proxyIndexes := remapper.proxyIndexes ++ [UInt16.ofNat downstreamIndex] },
      proxyTable)
  else
    let (proxyIndex, proxyTable) := proxyTable.getOrAdd uri
    ({ proxyIndexes := remapper.proxyIndexes ++ [proxyIndex]
       downstreamIndexes :=
         remapper.downstreamIndexes.emplace (proxyIndex, UInt16.ofNat downstreamIndex) },
      proxyTable)

/-- `Build`, with the table it leaves. -/
def build (downstreamUris : List String) (proxyTable : ProxyNamespaceTable) :
    NamespaceRemapper × ProxyNamespaceTable :=
  downstreamUris.zipIdx.foldl buildSlot ({}, proxyTable)

/-- `BuildFromPairs`, of pairs of a downstream and a proxy index. -/
def buildFromPairs : NamespaceRemapper :=
  let maxDownstream := pairs.foldl (fun acc pair => max acc pair.1) 0
  let identity := (List.range (maxDownstream.toNat + 1)).map UInt16.ofNat
  { proxyIndexes := pairs.foldl (fun indexes pair => indexes.set pair.1.toNat pair.2) identity
    downstreamIndexes := Table.emplaceAll (pairs.map Prod.swap) }

def buildByUri (localUris remoteUris : List String) : NamespaceRemapper :=
  buildFromPairs <| remoteUris.zipIdx.filterMap fun (uri, remote) =>
    if uri = "" then
      none
    else if uri ∈ localUris then
      some (UInt16.ofNat remote, UInt16.ofNat (localUris.idxOf uri))
    else
      -- a namespace that the client does not know
      none

variable (r : NamespaceRemapper)

def ownsProxyNamespace (proxyIndex : UInt16) : Bool :=
  (r.downstreamIndexes.lookup proxyIndex).isSome

def mapToProxy (downstreamIndex : UInt16) : UInt16 :=
  r.proxyIndexes[downstreamIndex.toNat]?.getD downstreamIndex

def mapToDownstream (proxyIndex : UInt16) : UInt16 :=
  (r.downstreamIndexes.lookup proxyIndex).getD proxyIndex

end NamespaceRemapper

/-! ## Identifiers -/

section identifiers

variable (r : NamespaceRemapper)

def NodeId.toProxy (n : NodeId) : NodeId :=
  { n with namespaceIndex := r.mapToProxy n.namespaceIndex }

def NodeId.toDownstream (n : NodeId) : NodeId :=
  { n with namespaceIndex := r.mapToDownstream n.namespaceIndex }

def QualifiedName.toProxy (q : QualifiedName) : QualifiedName :=
  { name := q.name, namespaceIndex := r.mapToProxy q.namespaceIndex }

def QualifiedName.toDownstream (q : QualifiedName) : QualifiedName :=
  { name := q.name, namespaceIndex := r.mapToDownstream q.namespaceIndex }

/-- A URI names the namespace on every server, so that the index is left. -/
def ExpandedNodeId.toProxy (n : ExpandedNodeId) : ExpandedNodeId :=
  if n.namespaceUri ≠ "" then n else { n with nodeId := n.nodeId.toProxy r }

@[inherit_doc ExpandedNodeId.toProxy]
def ExpandedNodeId.toDownstream (n : ExpandedNodeId) : ExpandedNodeId :=
  if n.namespaceUri ≠ "" then n else { n with nodeId := n.nodeId.toDownstream r }

/-- The callables that `RemapVariant` is used with. -/
def NamespaceRemapper.toProxy : Remap where
  nodeId n := n.toProxy r
  expandedNodeId n := n.toProxy r
  qualifiedName q := q.toProxy r

@[inherit_doc NamespaceRemapper.toProxy]
def NamespaceRemapper.toDownstream : Remap where
  nodeId n := n.toDownstream r
  expandedNodeId n := n.toDownstream r
  qualifiedName q := q.toDownstream r

/-- `RemapVariant`: identifiers, one or a list of them; other values are left. -/
def Variant.remap (value : Variant) (remap : Remap) : Variant :=
  match value with
  | some (.scalar (.nodeId id)) => some (.scalar (.nodeId (remap.nodeId id)))
  | some (.scalar (.expandedNodeId id)) =>
    some (.scalar (.expandedNodeId (remap.expandedNodeId id)))
  | some (.scalar (.qualifiedName name)) =>
    some (.scalar (.qualifiedName (remap.qualifiedName name)))
  | some (.array (.nodeId ids)) => some (.array (.nodeId (ids.map remap.nodeId)))
  | some (.array (.expandedNodeId ids)) =>
    some (.array (.expandedNodeId (ids.map remap.expandedNodeId)))
  | some (.array (.qualifiedName names)) =>
    some (.array (.qualifiedName (names.map remap.qualifiedName)))
  | _ => value

end identifiers

/-! ## `Build` -/

/-- No URI stands in two slots of the array; empty slots do not count. -/
def DistinctUris (uris : List String) : Prop :=
  uris.Pairwise fun uri uri' => uri ≠ "" → uri ≠ uri'

instance (uris : List String) : Decidable (DistinctUris uris) :=
  inferInstanceAs (Decidable (uris.Pairwise _))

theorem DistinctUris.eq_of_getElem? {uris : List String} (h : DistinctUris uris) {i j : Nat}
    {uri : String} (hi : uris[i]? = some uri) (hj : uris[j]? = some uri) (hne : uri ≠ "") :
    i = j := by
  obtain ⟨hilt, rfl⟩ := List.getElem?_eq_some_iff.mp hi
  obtain ⟨hjlt, hjeq⟩ := List.getElem?_eq_some_iff.mp hj
  have hpair := List.pairwise_iff_getElem.mp h
  rcases Nat.lt_trichotomy i j with hlt | heq | hgt
  · exact absurd hjeq.symm (hpair i j hilt hjlt hlt hne)
  · exact heq
  · exact absurd hjeq (hpair j i hjlt hilt hgt (hjeq ▸ hne))

/-- The array and the indexes it gives have 16 bits. -/
def Fits (uris : List String) : Prop := uris.length ≤ UInt16.size

instance (uris : List String) : Decidable (Fits uris) :=
  inferInstanceAs (Decidable (_ ≤ _))

namespace NamespaceRemapper

/-- The proxy index of a slot. -/
def slotIndex (table : ProxyNamespaceTable) (slot : String × Nat) : UInt16 :=
  if slot.1 = "" then UInt16.ofNat slot.2 else table.indexOf slot.1

/-- The entries of `to_downstream_`, for the slots with a URI. -/
def slotEntry (table : ProxyNamespaceTable) (slot : String × Nat) : Option (UInt16 × UInt16) :=
  if slot.1 = "" then none else some (table.indexOf slot.1, UInt16.ofNat slot.2)

/-- What `Build` has done after any number of rounds. -/
structure Built (uris : List String) (table : ProxyNamespaceTable)
    (state : NamespaceRemapper × ProxyNamespaceTable) : Prop where
  grows : table.uris <+: state.2.uris
  merged : ∀ uri ∈ uris, uri ≠ "" → uri ∈ state.2.uris
  proxy : state.1.proxyIndexes = uris.zipIdx.map (slotIndex state.2)
  downstream : state.1.downstreamIndexes =
    Table.emplaceAll (uris.zipIdx.filterMap (slotEntry state.2))

variable {table : ProxyNamespaceTable} {uris localUris remoteUris : List String} {i p : UInt16}
    {uri : String}

theorem slot_of_prefix {table' : ProxyNamespaceTable} (h : table.uris <+: table'.uris)
    {slot : String × Nat} (hmem : slot.1 ≠ "" → slot.1 ∈ table.uris) :
    slotIndex table' slot = slotIndex table slot ∧ slotEntry table' slot = slotEntry table slot := by
  by_cases hempty : slot.1 = ""
  · simp [slotIndex, slotEntry, hempty]
  · simp [slotIndex, slotEntry, hempty, ProxyNamespaceTable.indexOf_of_prefix h (hmem hempty)]

section rounds

variable {uris : List String} {table : ProxyNamespaceTable}
  {state : NamespaceRemapper × ProxyNamespaceTable}

theorem Built.emptySlot (h : Built uris table state) :
    Built (uris ++ [""]) table (buildSlot state ("", uris.length)) := by
  refine ⟨h.grows, ?_, ?_, ?_⟩
  · intro uri huri hne
    exact h.merged uri (by simpa [hne] using huri) hne
  · simpa [buildSlot, List.zipIdx_append, slotIndex] using h.proxy
  · simpa [buildSlot, List.zipIdx_append, slotEntry] using h.downstream

theorem Built.uriSlot (h : Built uris table state) {uri : String} (hne : uri ≠ "") :
    Built (uris ++ [uri]) table (buildSlot state (uri, uris.length)) := by
  rcases state with ⟨remapper, merged⟩
  obtain ⟨hgrows, hmem, hindex⟩ := merged.getOrAdd_spec uri
  have hsame : ∀ slot ∈ uris.zipIdx,
      slotIndex (merged.getOrAdd uri).2 slot = slotIndex merged slot ∧
        slotEntry (merged.getOrAdd uri).2 slot = slotEntry merged slot := by
    intro slot hslot
    exact slot_of_prefix hgrows (h.merged slot.1 (List.fst_mem_of_mem_zipIdx hslot))
  refine ⟨?_, ?_, ?_, ?_⟩
  · simpa [buildSlot, hne] using h.grows.trans hgrows
  · intro uri' huri' hne'
    simp only [buildSlot, hne, if_false]
    rcases List.mem_append.mp huri' with hold | hnew
    · exact hgrows.subset (h.merged uri' hold hne')
    · rw [List.mem_singleton.mp hnew]
      exact hmem
  · -- the rounds before have written what the new table says, too
    have hbefore : uris.zipIdx.map (slotIndex (merged.getOrAdd uri).2) =
        remapper.proxyIndexes := by
      rw [h.proxy]
      exact List.map_congr_left fun slot hslot => (hsame slot hslot).1
    simp [buildSlot, hne, List.zipIdx_append, hbefore, hindex, slotIndex]
  · have hbefore : uris.zipIdx.filterMap (slotEntry (merged.getOrAdd uri).2) =
        uris.zipIdx.filterMap (slotEntry merged) :=
      List.filterMap_congr fun slot hslot => (hsame slot hslot).2
    have hentry : slotEntry (merged.getOrAdd uri).2 (uri, uris.length) =
        some ((merged.getOrAdd uri).1, UInt16.ofNat uris.length) := by
      simp [slotEntry, hne, hindex]
    simp [buildSlot, hne, List.zipIdx_append, List.filterMap_append, hbefore, hentry,
      Table.emplaceAll_concat, ← h.downstream]

end rounds

theorem build_concat (uris : List String) (uri : String) (table : ProxyNamespaceTable) :
    build (uris ++ [uri]) table = buildSlot (build uris table) (uri, uris.length) := by
  simp [build, List.zipIdx_append]

theorem built_build (uris : List String) (table : ProxyNamespaceTable) :
    Built uris table (build uris table) := by
  -- the loop goes from the front, so the last slot is its last round
  induction uris using List.reverseRecOn with
  | nil => exact ⟨List.prefix_refl _, by simp, rfl, rfl⟩
  | append_singleton uris uri ih =>
    rw [build_concat]
    by_cases hempty : uri = ""
    · rw [hempty]
      exact ih.emptySlot
    · exact ih.uriSlot hempty

def newUris (table : ProxyNamespaceTable) (uris : List String) : List String :=
  uris.filter fun uri => uri ≠ "" ∧ uri ∉ table.uris

/-- The new URIs stand behind the table, in the order of the array. -/
theorem uris_build (hdistinct : DistinctUris uris) :
    (build uris table).2.uris = table.uris ++ newUris table uris := by
  induction uris using List.reverseRecOn with
  | nil => simp [build, newUris]
  | append_singleton uris uri ih =>
    obtain ⟨hbefore, -, hlast⟩ := List.pairwise_append.mp hdistinct
    have ih := ih hbefore
    rw [build_concat]
    generalize build uris table = state at ih ⊢
    rcases state with ⟨remapper, merged⟩
    dsimp only at ih
    by_cases hempty : uri = ""
    · simp [buildSlot, hempty, ih, newUris]
    · have hnotMem : uri ∉ uris := by
        intro hmem
        exact hlast uri hmem uri (List.mem_singleton.mpr rfl) hempty rfl
      have hround : (buildSlot (remapper, merged) (uri, uris.length)).2 =
          (merged.getOrAdd uri).2 := by simp [buildSlot, hempty]
      rw [hround, ProxyNamespaceTable.uris_getOrAdd, ih, newUris, newUris, List.filter_append]
      by_cases hold : uri ∈ table.uris
      · simp [hold]
      · simp [hold, hempty, hnotMem]

/-- The proxy index of a URI of the array: its position, in the table or behind it, cast
to 16 bits. -/
def mergedIndex (table : ProxyNamespaceTable) (uris : List String) (uri : String) : UInt16 :=
  if uri ∈ table.uris then UInt16.ofNat (table.uris.idxOf uri)
  else UInt16.ofNat (table.uris.length + (newUris table uris).idxOf uri)

theorem indexOf_build (hdistinct : DistinctUris uris) (uri : String) :
    (build uris table).2.indexOf uri = mergedIndex table uris uri := by
  rw [ProxyNamespaceTable.indexOf, uris_build hdistinct, mergedIndex]
  by_cases hmem : uri ∈ table.uris
  · rw [if_pos hmem, List.idxOf_append_of_mem hmem]
  · rw [if_neg hmem, List.idxOf_append_of_notMem hmem]

/-! ## Remappers as patches -/

/-- The proxy index that a slot has by its URI. -/
def proxyIndexOf (table : ProxyNamespaceTable) (uris : List String) (i : UInt16) : Option UInt16 :=
  uris[i.toNat]?.bind fun uri => if uri = "" then none else table.find uri

def indexes (uris : List String) : Set UInt16 := {i | i.toNat < uris.length}

instance (uris : List String) (i : UInt16) : Decidable (i ∈ indexes uris) :=
  inferInstanceAs (Decidable (i.toNat < uris.length))

/-- In an array that fits, every position is the number of an index. -/
theorem toNat_ofNat_of_getElem? (hfits : Fits uris) {k : Nat} (h : uris[k]? = some uri) :
    (UInt16.ofNat k).toNat = k := by
  obtain ⟨hk, -⟩ := List.getElem?_eq_some_iff.mp h
  exact UInt16.toNat_ofNat_of_lt' (Nat.lt_of_lt_of_le hk hfits)

/-- The remapper renames the indexes of the array by their URIs. -/
structure Renames (r : NamespaceRemapper) (table : ProxyNamespaceTable) (uris : List String) :
    Prop where
  proxy : ∀ i ∈ indexes uris, r.mapToProxy i = patch (proxyIndexOf table uris) i
  downstream : ∀ p i, r.downstreamIndexes.lookup p = some i ↔
    proxyIndexOf table uris i = some p

theorem proxyIndexOf_eq_some :
    proxyIndexOf table uris i = some p ↔
      ∃ uri, uris[i.toNat]? = some uri ∧ uri ≠ "" ∧ uri ∈ table.uris ∧ table.indexOf uri = p := by
  constructor
  · intro h
    obtain ⟨uri, huri, hfind⟩ := Option.bind_eq_some_iff.mp h
    by_cases hempty : uri = ""
    · simp [hempty] at hfind
    · by_cases hmem : uri ∈ table.uris
      · refine ⟨uri, huri, hempty, hmem, ?_⟩
        simpa [hempty, ProxyNamespaceTable.find, hmem] using hfind
      · simp [hempty, ProxyNamespaceTable.find, hmem] at hfind
  · rintro ⟨uri, huri, hempty, hmem, rfl⟩
    simp [proxyIndexOf, huri, hempty, ProxyNamespaceTable.find, hmem]

theorem mem_indexes_of_proxyIndexOf (h : proxyIndexOf table uris i = some p) :
    i ∈ indexes uris := by
  obtain ⟨uri, huri, -⟩ := proxyIndexOf_eq_some.mp h
  exact (List.getElem?_eq_some_iff.mp huri).1

/-- The positions with a URI, each cast to an index. -/
theorem exists_slot_iff (hfits : Fits uris) :
    (∃ uri k, uris[k]? = some uri ∧ uri ≠ "" ∧ uri ∈ table.uris ∧ table.indexOf uri = p ∧
      UInt16.ofNat k = i) ↔ proxyIndexOf table uris i = some p := by
  rw [proxyIndexOf_eq_some]
  constructor
  · rintro ⟨uri, k, huri, hne, hmem, hp, rfl⟩
    exact ⟨uri, by rwa [toNat_ofNat_of_getElem? hfits huri], hne, hmem, hp⟩
  · rintro ⟨uri, huri, hne, hmem, hp⟩
    exact ⟨uri, i.toNat, huri, hne, hmem, hp, UInt16.ofNat_toNat⟩

theorem indexOf_inj (hfits : Fits table.uris) {uri' : String} (h : uri ∈ table.uris)
    (h' : uri' ∈ table.uris) (heq : table.indexOf uri = table.indexOf uri') : uri = uri' := by
  have hlt := List.idxOf_lt_length_iff.mpr h
  have hlt' := List.idxOf_lt_length_iff.mpr h'
  have hpos : table.uris.idxOf uri = table.uris.idxOf uri' := by
    have hnat := congrArg UInt16.toNat heq
    unfold Fits at hfits
    rwa [ProxyNamespaceTable.indexOf, ProxyNamespaceTable.indexOf,
      UInt16.toNat_ofNat_of_lt' (by omega), UInt16.toNat_ofNat_of_lt' (by omega)] at hnat
  exact List.idxOf_inj h |>.mp hpos

theorem proxyIndexOf_inj (hdistinct : DistinctUris uris) (hfits : Fits table.uris) {j : UInt16}
    (hi : proxyIndexOf table uris i = some p) (hj : proxyIndexOf table uris j = some p) :
    i = j := by
  obtain ⟨uri, huri, hne, hmem, hp⟩ := proxyIndexOf_eq_some.mp hi
  obtain ⟨uri', huri', -, hmem', hp'⟩ := proxyIndexOf_eq_some.mp hj
  have heq : uri = uri' := indexOf_inj hfits hmem hmem' (hp.trans hp'.symm)
  subst heq
  exact UInt16.toNat_inj.mp (hdistinct.eq_of_getElem? huri huri' hne)

/-- The entries of the slots are the renaming, with its sides exchanged. -/
theorem mem_slotEntry_iff (hfits : Fits uris)
    (hmerged : ∀ uri ∈ uris, uri ≠ "" → uri ∈ table.uris) :
    (p, i) ∈ uris.zipIdx.filterMap (slotEntry table) ↔ proxyIndexOf table uris i = some p := by
  rw [List.mem_filterMap, ← exists_slot_iff hfits]
  constructor
  · rintro ⟨⟨uri, k⟩, hslot, hsome⟩
    have huri : uris[k]? = some uri := List.mem_zipIdx_iff_getElem?.mp hslot
    by_cases hempty : uri = ""
    · simp [slotEntry, hempty] at hsome
    · obtain ⟨hp, hi⟩ : table.indexOf uri = p ∧ UInt16.ofNat k = i := by
        simpa [slotEntry, hempty] using hsome
      exact ⟨uri, k, huri, hempty, hmerged uri (List.mem_of_getElem? huri) hempty, hp, hi⟩
  · rintro ⟨uri, k, huri, hempty, -, rfl, rfl⟩
    refine ⟨(uri, k), List.mem_zipIdx_iff_getElem?.mpr huri, ?_⟩
    simp [slotEntry, hempty]

theorem mapToProxy_build (table : ProxyNamespaceTable) (huri : uris[i.toNat]? = some uri) :
    (build uris table).1.mapToProxy i = slotIndex (build uris table).2 (uri, i.toNat) := by
  simp [mapToProxy, (built_build uris table).proxy, List.getElem?_zipIdx, huri]

/-- `Build` renames by the table it leaves, if the URIs have distinct indexes there. -/
theorem build_renames (hfits : Fits uris)
    (hinj : ∀ i j p, proxyIndexOf (build uris table).2 uris i = some p →
      proxyIndexOf (build uris table).2 uris j = some p → i = j) :
    (build uris table).1.Renames (build uris table).2 uris := by
  have hslot := fun i uri => @mapToProxy_build uris i uri table
  obtain ⟨-, hmerged, -, hdownstream⟩ := built_build uris table
  generalize build uris table = state at *
  rcases state with ⟨r, merged⟩
  dsimp only at hinj hmerged hslot hdownstream ⊢
  constructor
  · intro i hi
    obtain ⟨uri, huri⟩ : ∃ uri, uris[i.toNat]? = some uri :=
      ⟨_, List.getElem?_eq_getElem hi⟩
    rw [hslot i uri huri]
    by_cases hempty : uri = ""
    · have hnone : proxyIndexOf merged uris i = none := by simp [proxyIndexOf, huri, hempty]
      rw [patch_of_none hnone]
      simp [slotIndex, hempty]
    · have hmem : uri ∈ merged.uris := hmerged uri (List.mem_of_getElem? huri) hempty
      rw [patch_of_some (proxyIndexOf_eq_some.mpr ⟨uri, huri, hempty, hmem, rfl⟩)]
      simp [slotIndex, hempty]
  · intro p i
    rw [hdownstream, Table.lookup_emplaceAll_iff, mem_slotEntry_iff hfits hmerged]
    -- `emplace` keeps the first entry of a key; here no key has two
    intro p i j hi hj
    rw [mem_slotEntry_iff hfits hmerged] at hi hj
    exact hinj i j p hi hj

/-! ## Faithful renaming -/

section renames

variable {r : NamespaceRemapper}

theorem Renames.distinct_iff (h : r.Renames table uris) (hdistinct : DistinctUris uris)
    (hfits : Fits table.uris) :
    (∀ i ∈ indexes uris, ∀ j ∈ indexes uris, i ≠ j → r.mapToProxy i ≠ r.mapToProxy j) ↔
      Clear (proxyIndexOf table uris) (indexes uris) := by
  rw [← injOn_patch_iff fun i _ j _ p hi hj => proxyIndexOf_inj hdistinct hfits hi hj]
  constructor
  · intro hall i hi j hj heq
    by_contra hne
    apply hall i hi j hj hne
    rw [h.proxy i hi, h.proxy j hj, heq]
  · intro hinj i hi j hj hne heq
    apply hne
    rw [h.proxy i hi, h.proxy j hj] at heq
    exact hinj hi hj heq

theorem Renames.mapToDownstream_mapToProxy_iff (h : r.Renames table uris) :
    (∀ i ∈ indexes uris, r.mapToDownstream (r.mapToProxy i) = i) ↔
      Clear (proxyIndexOf table uris) (indexes uris) := by
  have hback : ∀ p i, r.downstreamIndexes.lookup p = some i ↔
      i ∈ indexes uris ∧ proxyIndexOf table uris i = some p := by
    intro p i
    rw [h.downstream]
    exact ⟨fun hsome => ⟨mem_indexes_of_proxyIndexOf hsome, hsome⟩, And.right⟩
  rw [← leftInverse_patch_iff hback]
  refine forall₂_congr fun i hi => ?_
  rw [h.proxy i hi]
  rfl

end renames

/-- Distinct namespaces of the array have distinct proxy indexes, and every
identifier in one of them comes back as it went. -/
structure Faithful (r : NamespaceRemapper) (uris : List String) : Prop where
  distinct : ∀ i ∈ indexes uris, ∀ j ∈ indexes uris, i ≠ j → r.mapToProxy i ≠ r.mapToProxy j
  nodeId : ∀ n : NodeId, n.namespaceIndex ∈ indexes uris →
    (n.toProxy r).toDownstream r = n
  expandedNodeId : ∀ n : ExpandedNodeId, n.nodeId.namespaceIndex ∈ indexes uris →
    n.namespaceUri = "" → (n.toProxy r).toDownstream r = n
  qualifiedName : ∀ q : QualifiedName, q.namespaceIndex ∈ indexes uris →
    (q.toProxy r).toDownstream r = q

theorem faithful_iff (r : NamespaceRemapper) (uris : List String) :
    r.Faithful uris ↔ ∀ i ∈ indexes uris, r.mapToDownstream (r.mapToProxy i) = i := by
  constructor
  · intro h i hi
    exact congrArg NodeId.namespaceIndex (h.nodeId { namespaceIndex := i } hi)
  · intro h
    refine ⟨?_, ?_, ?_, ?_⟩
    · intro i hi j hj hne heq
      apply hne
      rw [← h i hi, ← h j hj, heq]
    · intro n hn
      simp [NodeId.toProxy, NodeId.toDownstream, h _ hn]
    · rintro ⟨n, namespaceUri, serverIndex⟩ hn rfl
      simp [ExpandedNodeId.toProxy, ExpandedNodeId.toDownstream, NodeId.toProxy,
        NodeId.toDownstream, h _ hn]
    · intro q hq
      simp [QualifiedName.toProxy, QualifiedName.toDownstream, h _ hq]

section build

variable (hdistinct : DistinctUris uris) (hfits : Fits uris)

include hdistinct hfits

theorem exists_mapToProxy_build (table : ProxyNamespaceTable) (hmem : uri ∈ uris)
    (hne : uri ≠ "") :
    ∃ i ∈ indexes uris, uris[i.toNat]? = some uri ∧
      (build uris table).1.mapToProxy i = mergedIndex table uris uri := by
  obtain ⟨k, hk⟩ := List.getElem?_of_mem hmem
  have hi : uris[(UInt16.ofNat k).toNat]? = some uri := by
    rwa [toNat_ofNat_of_getElem? hfits hk]
  refine ⟨UInt16.ofNat k, (List.getElem?_eq_some_iff.mp hi).1, hi, ?_⟩
  rw [mapToProxy_build table hi, slotIndex, if_neg hne, indexOf_build hdistinct]

/-- URIs with distinct indexes, none of them the number of an empty slot. -/
theorem faithful_build (hinj : ∀ uri ∈ uris, ∀ uri' ∈ uris, uri ≠ "" → uri' ≠ "" →
      mergedIndex table uris uri = mergedIndex table uris uri' → uri = uri')
    (hslots : ∀ i ∈ indexes uris, uris[i.toNat]? = some "" →
      ∀ uri ∈ uris, uri ≠ "" → mergedIndex table uris uri ≠ i) :
    (build uris table).1.Faithful uris := by
  have hrenames : (build uris table).1.Renames (build uris table).2 uris := by
    refine build_renames hfits fun i j p hi hj => ?_
    obtain ⟨uri, huri, hne, -, hp⟩ := proxyIndexOf_eq_some.mp hi
    obtain ⟨uri', huri', hne', -, hp'⟩ := proxyIndexOf_eq_some.mp hj
    rw [indexOf_build hdistinct] at hp hp'
    have heq : uri = uri' := hinj uri (List.mem_of_getElem? huri) uri'
      (List.mem_of_getElem? huri') hne hne' (hp.trans hp'.symm)
    subst heq
    exact UInt16.toNat_inj.mp (hdistinct.eq_of_getElem? huri huri' hne)
  rw [faithful_iff, hrenames.mapToDownstream_mapToProxy_iff]
  intro i hi hnone j _ hsome
  obtain ⟨uri, huri, hne, -, heq⟩ := proxyIndexOf_eq_some.mp hsome
  obtain ⟨slot, hslot⟩ : ∃ slot, uris[i.toNat]? = some slot := ⟨_, List.getElem?_eq_getElem hi⟩
  -- a slot that is left has no URI, as the table has all of them
  have hempty : slot = "" := by
    by_contra hslotne
    have hin := (built_build uris table).merged slot (List.mem_of_getElem? hslot) hslotne
    rw [proxyIndexOf_eq_some.mpr ⟨slot, hslot, hslotne, hin, rfl⟩] at hnone
    cases hnone
  rw [indexOf_build hdistinct] at heq
  exact hslots i hi (hempty ▸ hslot) uri (List.mem_of_getElem? huri) hne heq

/-- The remapper that `Build` makes is faithful exactly if the URIs of the array have
distinct indexes in the table with the new ones behind it, and no empty slot of the array
has the number of one of them. -/
theorem build_faithful_iff (table : ProxyNamespaceTable) :
    (build uris table).1.Faithful uris ↔
      (∀ uri ∈ uris, ∀ uri' ∈ uris, uri ≠ "" → uri' ≠ "" →
        mergedIndex table uris uri = mergedIndex table uris uri' → uri = uri') ∧
      (∀ i ∈ indexes uris, uris[i.toNat]? = some "" →
        ∀ uri ∈ uris, uri ≠ "" → mergedIndex table uris uri ≠ i) := by
  constructor
  · intro h
    constructor
    · intro uri hmem uri' hmem' hne hne' heq
      obtain ⟨i, hi, huri, hproxy⟩ := exists_mapToProxy_build hdistinct hfits table hmem hne
      obtain ⟨j, hj, huri', hproxy'⟩ := exists_mapToProxy_build hdistinct hfits table hmem' hne'
      by_contra hother
      refine h.distinct i hi j hj ?_ (by rw [hproxy, hproxy', heq])
      rintro rfl
      exact hother (Option.some.inj (huri.symm.trans huri'))
    · -- the slot of the URI is renamed to the number of the empty one
      intro i hi hempty uri hmem hne heq
      obtain ⟨j, hj, huri, hproxy⟩ := exists_mapToProxy_build hdistinct hfits table hmem hne
      have hleft : (build uris table).1.mapToProxy i = i := by
        rw [mapToProxy_build table hempty, slotIndex, if_pos rfl, UInt16.ofNat_toNat]
      refine h.distinct i hi j hj ?_ (by rw [hleft, hproxy, heq])
      rintro rfl
      exact hne (Option.some.inj (huri.symm.trans hempty))
  · rintro ⟨hinj, hslots⟩
    exact faithful_build hdistinct hfits hinj hslots

end build

/-- An empty slot past all the indexes of the table does no harm. -/
theorem build_faithful_lastSlotEmpty :
    (build ["http://opcfoundation.org/UA/", "urn:plant", ""] {}).1.Faithful
      ["http://opcfoundation.org/UA/", "urn:plant", ""] := by
  refine (build_faithful_iff (by decide) (by decide) {}).mpr ⟨by decide, ?_⟩
  rintro i - hempty uri hmem hne rfl
  revert uri
  decide

/-- The empty slot 1 keeps its number, which is also the number that the table
gives to the URI in slot 2. -/
theorem build_not_faithful_firstSlotEmpty :
    ¬ (build ["http://opcfoundation.org/UA/", "", "urn:plant"] {}).1.Faithful
      ["http://opcfoundation.org/UA/", "", "urn:plant"] := by
  intro h
  exact h.distinct 1 (by decide) 2 (by decide) (by decide) (by decide)

/-! ## `BuildByUri` -/

theorem toNat_max (a b : UInt16) : (max a b).toNat = max a.toNat b.toNat := by
  change (if a ≤ b then b else a).toNat = _
  simp only [UInt16.le_iff_toNat_le]
  split <;> omega

theorem toNat_le_foldl_max {d : UInt16} (hmem : (d, p) ∈ pairs) :
    d.toNat ≤ (pairs.foldl (fun acc (pair : UInt16 × UInt16) => max acc pair.1) 0).toNat := by
  induction pairs using List.reverseRecOn with
  | nil => cases hmem
  | append_singleton pairs last ih =>
    rw [List.foldl_concat, toNat_max]
    rcases List.mem_append.mp hmem with hmem | hmem
    · exact (ih hmem).trans (Nat.le_max_left _ _)
    · rw [← List.mem_singleton.mp hmem]
      exact Nat.le_max_right _ _

/-- What the writes of `BuildFromPairs` leave at an index that has at most one
value. -/
theorem getElem?_foldl_set (indexes : List UInt16) {d : UInt16}
    (hvalue : ∀ q, (d, q) ∈ pairs → q = p) :
    (pairs.foldl (fun indexes (pair : UInt16 × UInt16) => indexes.set pair.1.toNat pair.2)
        indexes)[d.toNat]? =
      if (d, p) ∈ pairs then indexes[d.toNat]?.map fun _ => p else indexes[d.toNat]? := by
  induction pairs using List.reverseRecOn with
  | nil => simp
  | append_singleton pairs last ih =>
    rcases last with ⟨e, q⟩
    have ih := ih fun q hq => hvalue q (List.mem_append_left _ hq)
    rw [List.foldl_concat]
    by_cases he : e = d
    · subst he
      obtain rfl : q = p := hvalue q (by simp)
      have hmem : (e, q) ∈ pairs ++ [(e, q)] := by simp
      rw [List.getElem?_set_self', ih, if_pos hmem]
      split <;> cases indexes[e.toNat]? <;> rfl
    · rw [List.getElem?_set_ne (by rwa [ne_eq, UInt16.toNat_inj]), ih]
      simp [Ne.symm he]

/-- Pairs that are the graph of a partial map make its patch. -/
theorem mapToProxy_buildFromPairs {pairs : List (UInt16 × UInt16)} {f : UInt16 → Option UInt16}
    (hf : ∀ d p, (d, p) ∈ pairs ↔ f d = some p) (d : UInt16) :
    (buildFromPairs pairs).mapToProxy d = patch f d := by
  simp only [mapToProxy, buildFromPairs]
  cases hfd : f d with
  | none =>
    -- nothing is written at `d`: the identity is left, or there is no slot at all
    have hnone : ∀ q, (d, q) ∉ pairs := by
      intro q hq
      rw [hf, hfd] at hq
      cases hq
    rw [getElem?_foldl_set pairs _ (p := d) (fun q hq => absurd hq (hnone q)),
      if_neg (hnone d), patch_of_none hfd, List.getElem?_map]
    by_cases hd : d.toNat < (pairs.foldl (fun acc (pair : UInt16 × UInt16) =>
        max acc pair.1) 0).toNat + 1
    · simp [List.getElem?_range hd]
    · rw [List.getElem?_eq_none (by simpa using hd)]
      rfl
  | some p =>
    have hmem : (d, p) ∈ pairs := (hf d p).mpr hfd
    have hvalue : ∀ q, (d, q) ∈ pairs → q = p := by
      intro q hq
      rw [hf, hfd] at hq
      exact (Option.some.inj hq).symm
    rw [getElem?_foldl_set pairs _ hvalue, if_pos hmem, patch_of_some hfd, List.getElem?_map,
      List.getElem?_range (Nat.lt_succ_of_le (toNat_le_foldl_max pairs hmem))]
    rfl

/-- `BuildByUri` renames by the array of the client. -/
theorem buildByUri_renames (hdistinct : DistinctUris remoteUris) (hlocal : Fits localUris)
    (hremote : Fits remoteUris) :
    (buildByUri localUris remoteUris).Renames ⟨localUris⟩ remoteUris := by
  rw [buildByUri]
  generalize hpairs : List.filterMap _ remoteUris.zipIdx = pairs
  have hentry : ∀ i p, (i, p) ∈ pairs ↔ proxyIndexOf ⟨localUris⟩ remoteUris i = some p := by
    intro i p
    rw [← hpairs, List.mem_filterMap, ← exists_slot_iff hremote]
    constructor
    · rintro ⟨⟨uri, k⟩, hslot, hsome⟩
      have huri : remoteUris[k]? = some uri := List.mem_zipIdx_iff_getElem?.mp hslot
      by_cases hempty : uri = ""
      · simp [hempty] at hsome
      · by_cases hmem : uri ∈ localUris
        · obtain ⟨hi, hp⟩ : UInt16.ofNat k = i ∧ UInt16.ofNat (localUris.idxOf uri) = p := by
            simpa [hempty, hmem] using hsome
          exact ⟨uri, k, huri, hempty, hmem, hp, hi⟩
        · simp [hempty, hmem] at hsome
    · rintro ⟨uri, k, huri, hempty, hmem, rfl, rfl⟩
      refine ⟨(uri, k), List.mem_zipIdx_iff_getElem?.mpr huri, ?_⟩
      dsimp only
      rw [if_neg hempty, if_pos hmem]
      rfl
  constructor
  · intro i _
    exact mapToProxy_buildFromPairs hentry i
  · intro p i
    have hswap : ∀ p i, (p, i) ∈ pairs.map Prod.swap ↔ (i, p) ∈ pairs := by
      intro p i
      simp
    simp only [buildFromPairs]
    rw [Table.lookup_emplaceAll_iff, hswap, hentry]
    intro p i j hi hj
    rw [hswap, hentry] at hi hj
    exact proxyIndexOf_inj hdistinct hlocal hi hj

/-- The index stands for a URI that the other array has too. -/
def Matched (uris others : List String) (i : UInt16) : Prop :=
  ∃ uri, uris[i.toNat]? = some uri ∧ uri ≠ "" ∧ uri ∈ others

/-- `m` is a namespace of the server with another URI than `l` has at the
client. -/
def Foreign (localUris remoteUris : List String) (l m : UInt16) : Prop :=
  ∃ uri, remoteUris[m.toNat]? = some uri ∧ uri ≠ "" ∧ localUris[l.toNat]? ≠ some uri

theorem proxyIndexOf_eq_none : proxyIndexOf table uris i = none ↔ ¬ Matched uris table.uris i := by
  rw [Option.eq_none_iff_forall_ne_some]
  constructor
  · rintro h ⟨uri, huri, hne, hmem⟩
    exact h _ (proxyIndexOf_eq_some.mpr ⟨uri, huri, hne, hmem, rfl⟩)
  · intro h p hp
    obtain ⟨uri, huri, hne, hmem, -⟩ := proxyIndexOf_eq_some.mp hp
    exact h ⟨uri, huri, hne, hmem⟩

section

variable (hdistinct : DistinctUris localUris)

include hdistinct

theorem indexOf_eq_iff (hfits : Fits localUris) (hmem : uri ∈ localUris) (hne : uri ≠ "")
    (l : UInt16) :
    (ProxyNamespaceTable.mk localUris).indexOf uri = l ↔ localUris[l.toNat]? = some uri := by
  have hfirst : localUris[localUris.idxOf uri]? = some uri := List.getElem?_idxOf hmem
  have hcast := toNat_ofNat_of_getElem? hfits hfirst
  constructor
  · rintro rfl
    rw [ProxyNamespaceTable.indexOf, hcast]
    exact hfirst
  · intro hl
    apply UInt16.toNat_inj.mp
    rw [ProxyNamespaceTable.indexOf, hcast]
    exact hdistinct.eq_of_getElem? hfirst hl hne

/-- The URIs that both arrays have are exchanged with each other. -/
theorem proxyIndexOf_eq_some_iff (hfits : Fits localUris) {l : UInt16} :
    proxyIndexOf ⟨localUris⟩ remoteUris i = some l ↔
      ∃ uri, remoteUris[i.toNat]? = some uri ∧ uri ≠ "" ∧ localUris[l.toNat]? = some uri := by
  rw [proxyIndexOf_eq_some]
  constructor
  · rintro ⟨uri, huri, hne, hmem, hindex⟩
    exact ⟨uri, huri, hne, (indexOf_eq_iff hdistinct hfits hmem hne l).mp hindex⟩
  · rintro ⟨uri, huri, hne, hl⟩
    have hmem := List.mem_of_getElem? hl
    exact ⟨uri, huri, hne, hmem, (indexOf_eq_iff hdistinct hfits hmem hne l).mpr hl⟩

theorem exists_proxyIndexOf_iff (hlocal : Fits localUris) (hremote : Fits remoteUris) {l : UInt16} :
    (∃ i, proxyIndexOf ⟨localUris⟩ remoteUris i = some l) ↔ Matched localUris remoteUris l := by
  simp only [proxyIndexOf_eq_some_iff hdistinct hlocal]
  constructor
  · rintro ⟨i, uri, huri, hne, hl⟩
    exact ⟨uri, hl, hne, List.mem_of_getElem? huri⟩
  · rintro ⟨uri, hl, hne, hmem⟩
    obtain ⟨k, hk⟩ := List.getElem?_of_mem hmem
    exact ⟨UInt16.ofNat k, uri, by rwa [toNat_ofNat_of_getElem? hremote hk], hne, hl⟩

/-- An index of the client goes to a foreign namespace exactly if the server does
not have its URI but has one at that number. -/
theorem foreign_mapToDownstream_iff (hdistinct' : DistinctUris remoteUris) (hlocal : Fits localUris)
    (hremote : Fits remoteUris) (l : UInt16) :
    Foreign localUris remoteUris l ((buildByUri localUris remoteUris).mapToDownstream l) ↔
      ¬ Matched localUris remoteUris l ∧
        ∃ uri, remoteUris[l.toNat]? = some uri ∧ uri ≠ "" := by
  have hrenames := buildByUri_renames hdistinct' hlocal hremote
  by_cases hmatched : Matched localUris remoteUris l
  · -- a match is found by its URI
    obtain ⟨i, hi⟩ := (exists_proxyIndexOf_iff hdistinct hlocal hremote).mpr hmatched
    obtain ⟨uri, huri, -, hl⟩ := (proxyIndexOf_eq_some_iff hdistinct hlocal).mp hi
    have hmap : (buildByUri localUris remoteUris).mapToDownstream l = i := by
      rw [mapToDownstream, (hrenames.downstream l i).mpr hi, Option.getD_some]
    simp [hmap, Foreign, huri, hl, hmatched]
  · -- without one the number itself is sent to the server
    have hnone : (buildByUri localUris remoteUris).downstreamIndexes.lookup l = none := by
      rw [Option.eq_none_iff_forall_ne_some]
      intro i hi
      exact hmatched ((exists_proxyIndexOf_iff hdistinct hlocal hremote).mp
        ⟨i, (hrenames.downstream l i).mp hi⟩)
    have hmap : (buildByUri localUris remoteUris).mapToDownstream l = l := by
      rw [mapToDownstream, hnone, Option.getD_none]
    rw [hmap]
    constructor
    · rintro ⟨uri, huri, hne, -⟩
      exact ⟨hmatched, uri, huri, hne⟩
    · rintro ⟨-, uri, huri, hne⟩
      refine ⟨uri, huri, hne, ?_⟩
      intro hl
      exact hmatched ⟨uri, hl, hne, List.mem_of_getElem? huri⟩

end

/-- The remapper of a client. Two namespaces of the server have one local index
exactly if an index without a match on the server's side has one on the client's.
A request goes to a foreign namespace exactly if an index without a match on the
client's side is a namespace of the server. -/
theorem buildByUri_iff (localUris remoteUris : List String)
    (hdistinct : DistinctUris localUris) (hdistinct' : DistinctUris remoteUris)
    (hlocal : Fits localUris) (hremote : Fits remoteUris) :
    ((∀ i ∈ indexes remoteUris, ∀ j ∈ indexes remoteUris, i ≠ j →
        (buildByUri localUris remoteUris).mapToProxy i ≠
          (buildByUri localUris remoteUris).mapToProxy j) ↔
      ∀ i ∈ indexes remoteUris, ¬ Matched remoteUris localUris i →
        ¬ Matched localUris remoteUris i) ∧
    ((∀ l ∈ indexes localUris,
        ¬ Foreign localUris remoteUris l ((buildByUri localUris remoteUris).mapToDownstream l)) ↔
      ∀ l ∈ indexes localUris, ¬ Matched localUris remoteUris l →
        ∀ uri, remoteUris[l.toNat]? = some uri → uri = "") := by
  constructor
  · rw [(buildByUri_renames hdistinct' hlocal hremote).distinct_iff hdistinct' hlocal]
    refine forall₂_congr fun i hi => ?_
    rw [proxyIndexOf_eq_none, ← exists_proxyIndexOf_iff hdistinct hlocal hremote]
    refine imp_congr_right fun _ => ?_
    constructor
    · rintro hclear ⟨j, hj⟩
      exact hclear j (mem_indexes_of_proxyIndexOf hj) hj
    · intro hnone j _ hj
      exact hnone ⟨j, hj⟩
  · refine forall₂_congr fun l _ => ?_
    rw [foreign_mapToDownstream_iff hdistinct hdistinct' hlocal hremote]
    simp

/-- Two servers with the same namespaces, in another order. -/
theorem buildByUri_permuted :
    (∀ i ∈ indexes ["urn:a", "urn:b"], ∀ j ∈ indexes ["urn:a", "urn:b"], i ≠ j →
      (buildByUri ["urn:b", "urn:a"] ["urn:a", "urn:b"]).mapToProxy i ≠
        (buildByUri ["urn:b", "urn:a"] ["urn:a", "urn:b"]).mapToProxy j) ∧
    (∀ l ∈ indexes ["urn:b", "urn:a"], ¬ Foreign ["urn:b", "urn:a"] ["urn:a", "urn:b"] l
      ((buildByUri ["urn:b", "urn:a"] ["urn:a", "urn:b"]).mapToDownstream l)) := by
  have hiff := buildByUri_iff ["urn:b", "urn:a"] ["urn:a", "urn:b"]
    (by decide) (by decide) (by decide) (by decide)
  have hswap : ∀ a b : String, a ≠ "" → b ≠ "" → ∀ i ∈ indexes [a, b],
      Matched [a, b] [b, a] i := by
    intro a b ha hb i hi
    obtain h | h : i.toNat = 0 ∨ i.toNat = 1 := by
      have : i.toNat < 2 := hi
      omega
    · exact ⟨a, by simp [h], ha, by simp⟩
    · exact ⟨b, by simp [h], hb, by simp⟩
  refine ⟨hiff.1.mpr ?_, hiff.2.mpr ?_⟩
  · intro i hi hunmatched
    exact absurd (hswap _ _ (by decide) (by decide) i hi) hunmatched
  · intro l hl hunmatched
    exact absurd (hswap _ _ (by decide) (by decide) l hl) hunmatched

/-- The server does not have the third namespace of the client and has one that
the client does not know. Its `urn:x` and `urn:a` then have one local index, and
requests for `urn:b` go to `urn:a`. -/
theorem buildByUri_redirects :
    (¬ ∀ i ∈ indexes ["urn:ua", "urn:x", "urn:a"], ∀ j ∈ indexes ["urn:ua", "urn:x", "urn:a"],
      i ≠ j →
        (buildByUri ["urn:ua", "urn:a", "urn:b"] ["urn:ua", "urn:x", "urn:a"]).mapToProxy i ≠
          (buildByUri ["urn:ua", "urn:a", "urn:b"] ["urn:ua", "urn:x", "urn:a"]).mapToProxy j) ∧
    Foreign ["urn:ua", "urn:a", "urn:b"] ["urn:ua", "urn:x", "urn:a"] 2
      ((buildByUri ["urn:ua", "urn:a", "urn:b"] ["urn:ua", "urn:x", "urn:a"]).mapToDownstream 2) := by
  refine ⟨fun h => h 1 (by decide) 2 (by decide) (by decide) (by decide), ?_⟩
  exact ⟨"urn:a", by decide, by decide, by decide⟩

end NamespaceRemapper

end ScadaCore.Scada
