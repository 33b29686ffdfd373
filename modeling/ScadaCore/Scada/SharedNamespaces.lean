import ScadaCore.Lts.System
import ScadaCore.Scada.NamespaceRemapper

/-!
# Scada.SharedNamespaces — the remappers of several servers over one table

An aggregating server calls `Build` once for every downstream server, each time
with the same `ProxyNamespaceTable`. The table only grows, so a remapper that was
built stays as correct as it was, and two remappers give one proxy index to two
namespaces exactly if these have the same URI.

Identifiers in a namespace of the array come back as they went, alone and in
variants. An index that is not in the array of the server keeps its number, as the
remapper is meant to leave what it does not know, and if that number is the proxy index
of one of the server's URIs, `ToDownstream` takes it for that namespace.
-/

namespace ScadaCore.Scada

open Patch NamespaceRemapper

/-! ## Variants -/

/-- The variant holds one of the types that `RemapVariant` translates. -/
def Variant.HoldsIds : Variant → Prop
  | some (.scalar (.nodeId _)) | some (.scalar (.expandedNodeId _))
  | some (.scalar (.qualifiedName _)) | some (.array (.nodeId _))
  | some (.array (.expandedNodeId _)) | some (.array (.qualifiedName _)) => True
  | _ => False

theorem Variant.remap_of_not_holdsIds {v : Variant} (h : ¬ v.HoldsIds) (remap : Remap) :
    v.remap remap = v := by
  rcases v with _ | ⟨scalar | elements⟩
  · rfl
  · cases scalar <;> first | rfl | exact absurd trivial h
  · cases elements <;> first | rfl | exact absurd trivial h

/-- The identifier is in one of these namespaces, unless a URI says where it is. -/
def ExpandedNodeId.InNamespaces (s : Set UInt16) (n : ExpandedNodeId) : Prop :=
  n.namespaceUri = "" → n.nodeId.namespaceIndex ∈ s

/-- All identifiers that the variant holds are in these namespaces. -/
def Variant.InNamespaces (s : Set UInt16) : Variant → Prop
  | some (.scalar (.nodeId n)) => n.namespaceIndex ∈ s
  | some (.scalar (.expandedNodeId n)) => n.InNamespaces s
  | some (.scalar (.qualifiedName q)) => q.namespaceIndex ∈ s
  | some (.array (.nodeId ns)) => ∀ n ∈ ns, n.namespaceIndex ∈ s
  | some (.array (.expandedNodeId ns)) => ∀ n ∈ ns, n.InNamespaces s
  | some (.array (.qualifiedName qs)) => ∀ q ∈ qs, q.namespaceIndex ∈ s
  | _ => True

theorem map_map_eq_self {α : Type} {f g : α → α} {xs : List α} (h : ∀ x ∈ xs, g (f x) = x) :
    (xs.map f).map g = xs := by
  rw [List.map_map]
  exact (List.map_congr_left h).trans (List.map_id' xs)

/-- Two remaps that undo each other on identifiers do so on every variant. -/
theorem Variant.remap_remap {f g : Remap} {s : Set UInt16}
    (hnode : ∀ n, n.namespaceIndex ∈ s → g.nodeId (f.nodeId n) = n)
    (hexpanded : ∀ n, n.InNamespaces s → g.expandedNodeId (f.expandedNodeId n) = n)
    (hname : ∀ q, q.namespaceIndex ∈ s → g.qualifiedName (f.qualifiedName q) = q) {v : Variant}
    (hin : v.InNamespaces s) : (v.remap f).remap g = v := by
  by_cases hids : v.HoldsIds
  · rcases v with _ | ⟨scalar | elements⟩
    · exact hids.elim
    · cases scalar with
      | nodeId n => simp only [Variant.remap, hnode n hin]
      | expandedNodeId n => simp only [Variant.remap, hexpanded n hin]
      | qualifiedName q => simp only [Variant.remap, hname q hin]
      | _ => exact hids.elim
    · cases elements with
      | nodeId ns =>
        simp only [Variant.remap, map_map_eq_self fun n hn => hnode n (hin n hn)]
      | expandedNodeId ns =>
        simp only [Variant.remap, map_map_eq_self fun n hn => hexpanded n (hin n hn)]
      | qualifiedName qs =>
        simp only [Variant.remap, map_map_eq_self fun q hq => hname q (hin q hq)]
      | _ => exact hids.elim
  · rw [Variant.remap_of_not_holdsIds hids, Variant.remap_of_not_holdsIds hids]

/-- An identifier in one of these namespaces, and every value that holds such
identifiers, comes back as it went. -/
structure NamespaceRemapper.RoundTripsOn (r : NamespaceRemapper) (s : Set UInt16) : Prop where
  nodeId : ∀ n : NodeId, n.namespaceIndex ∈ s → (n.toProxy r).toDownstream r = n
  expandedNodeId : ∀ n : ExpandedNodeId, n.namespaceUri = "" → n.nodeId.namespaceIndex ∈ s →
    (n.toProxy r).toDownstream r = n
  qualifiedName : ∀ q : QualifiedName, q.namespaceIndex ∈ s → (q.toProxy r).toDownstream r = q
  variant : ∀ v : Variant, v.InNamespaces s → (v.remap r.toProxy).remap r.toDownstream = v

/-- Every identifier, and every value that holds identifiers, comes back as it went. -/
def NamespaceRemapper.RoundTrips (r : NamespaceRemapper) : Prop := r.RoundTripsOn Set.univ

namespace NamespaceRemapper

variable {r : NamespaceRemapper} {table table' : ProxyNamespaceTable} {uris : List String}

theorem roundTripsOn_iff (r : NamespaceRemapper) (s : Set UInt16) :
    r.RoundTripsOn s ↔ ∀ i ∈ s, r.mapToDownstream (r.mapToProxy i) = i := by
  constructor
  · intro h i hi
    exact congrArg NodeId.namespaceIndex (h.nodeId { namespaceIndex := i } hi)
  · intro h
    have hnode : ∀ n : NodeId, n.namespaceIndex ∈ s → (n.toProxy r).toDownstream r = n := by
      intro n hn
      simp [NodeId.toProxy, NodeId.toDownstream, h _ hn]
    have hexpanded : ∀ n : ExpandedNodeId, n.InNamespaces s →
        (n.toProxy r).toDownstream r = n := by
      rintro ⟨node, namespaceUri, serverIndex⟩ hn
      by_cases huri : namespaceUri = ""
      · simp [ExpandedNodeId.toProxy, ExpandedNodeId.toDownstream, huri, hnode node (hn huri)]
      · simp [ExpandedNodeId.toProxy, ExpandedNodeId.toDownstream, huri]
    have hname : ∀ q : QualifiedName, q.namespaceIndex ∈ s →
        (q.toProxy r).toDownstream r = q := by
      intro q hq
      simp [QualifiedName.toProxy, QualifiedName.toDownstream, h _ hq]
    exact ⟨hnode, fun n _ hn => hexpanded n fun _ => hn, hname,
      fun v => Variant.remap_remap hnode hexpanded hname⟩

/-! ## One remapper while the table grows -/

/-- The remapper was built for the array and the table, or for a table that has
grown to this one. -/
structure Serves (r : NamespaceRemapper) (table : ProxyNamespaceTable) (uris : List String) :
    Prop where
  nodup : uris.Nodup
  nonempty : "" ∉ uris
  merged : ∀ uri ∈ uris, uri ∈ table.uris
  renames : r.Renames table uris
  outside : ∀ i, i ∉ indexes uris → r.mapToProxy i = i

theorem distinctUris_of_nodup (h : uris.Nodup) : DistinctUris uris := by
  apply List.Pairwise.imp _ h
  intro uri uri' hne _
  exact hne

/-- An array whose URIs are in a table is not longer than the table. -/
theorem length_le_of_merged (hnodup : uris.Nodup) (hmerged : ∀ uri ∈ uris, uri ∈ table.uris) :
    uris.length ≤ table.uris.length :=
  (hnodup.subperm hmerged).length_le

theorem serves_build (hnodup : uris.Nodup) (hnonempty : "" ∉ uris)
    (htable : Fits (build uris table).2.uris) :
    (build uris table).1.Serves (build uris table).2 uris := by
  have hbuilt := built_build uris table
  have hmerged : ∀ uri ∈ uris, uri ∈ (build uris table).2.uris := by
    intro uri huri
    apply hbuilt.merged uri huri
    rintro rfl
    exact hnonempty huri
  have hfits : Fits uris := (length_le_of_merged hnodup hmerged).trans htable
  refine ⟨hnodup, hnonempty, hmerged, ?_, ?_⟩
  · refine build_renames hfits fun i j p hi hj => ?_
    exact proxyIndexOf_inj (distinctUris_of_nodup hnodup) htable hi hj
  · -- the vector has one entry for every slot and no more
    intro i hi
    have hlength : (build uris table).1.proxyIndexes.length = uris.length := by
      rw [hbuilt.proxy, List.length_map, List.length_zipIdx]
    rw [mapToProxy, List.getElem?_eq_none (by rw [hlength]; exact Nat.le_of_not_lt hi)]
    rfl

theorem proxyIndexOf_of_prefix (h : table.uris <+: table'.uris)
    (hmerged : ∀ uri ∈ uris, uri ∈ table.uris) (i : UInt16) :
    proxyIndexOf table' uris i = proxyIndexOf table uris i := by
  unfold proxyIndexOf
  cases huri : uris[i.toNat]? with
  | none => rfl
  | some uri =>
    have hmem := hmerged uri (List.mem_of_getElem? huri)
    simp [ProxyNamespaceTable.find, hmem, h.subset hmem,
      ProxyNamespaceTable.indexOf_of_prefix h hmem]

section

variable (hserves : r.Serves table uris)

include hserves

theorem Serves.of_prefix (h : table.uris <+: table'.uris) : r.Serves table' uris := by
  have hsame := proxyIndexOf_of_prefix h hserves.merged
  refine ⟨hserves.nodup, hserves.nonempty, ?_, ?_, hserves.outside⟩
  · intro uri huri
    exact h.subset (hserves.merged uri huri)
  · constructor
    · intro i hi
      rw [hserves.renames.proxy i hi, patch, patch, hsame]
    · intro p i
      rw [hserves.renames.downstream, hsame]

/-! ## What a remapper does -/

theorem Serves.proxyIndexOf_eq {i : UInt16} {uri : String} (huri : uris[i.toNat]? = some uri) :
    proxyIndexOf table uris i = some (table.indexOf uri) := by
  have hmem := List.mem_of_getElem? huri
  refine proxyIndexOf_eq_some.mpr ⟨uri, huri, ?_, hserves.merged uri hmem, rfl⟩
  rintro rfl
  exact hserves.nonempty hmem

theorem Serves.mapToProxy_eq {i : UInt16} {uri : String} (huri : uris[i.toNat]? = some uri) :
    r.mapToProxy i = table.indexOf uri := by
  have hi : i ∈ indexes uris := (List.getElem?_eq_some_iff.mp huri).1
  rw [hserves.renames.proxy i hi, patch_of_some (hserves.proxyIndexOf_eq huri)]

theorem Serves.mapToDownstream_mapToProxy {i : UInt16} (hi : i ∈ indexes uris) :
    r.mapToDownstream (r.mapToProxy i) = i := by
  have huri : uris[i.toNat]? = some uris[i.toNat] := List.getElem?_eq_getElem hi
  have hback := (hserves.renames.downstream _ i).mpr (hserves.proxyIndexOf_eq huri)
  rw [hserves.mapToProxy_eq huri, mapToDownstream, hback, Option.getD_some]

theorem Serves.exists_proxyIndexOf_iff (hfits : Fits table.uris) {p : UInt16} :
    (∃ i, proxyIndexOf table uris i = some p) ↔ ∃ uri ∈ uris, table.indexOf uri = p := by
  constructor
  · rintro ⟨i, hi⟩
    rcases proxyIndexOf_eq_some.mp hi with ⟨uri, huri, -, -, hp⟩
    exact ⟨uri, List.mem_of_getElem? huri, hp⟩
  · rintro ⟨uri, hmem, rfl⟩
    rcases List.getElem?_of_mem hmem with ⟨k, hk⟩
    have harray : Fits uris := (length_le_of_merged hserves.nodup hserves.merged).trans hfits
    refine ⟨UInt16.ofNat k, hserves.proxyIndexOf_eq ?_⟩
    rw [toNat_ofNat_of_getElem? harray hk]
    exact hk

theorem Serves.ownsProxyNamespace_iff (hfits : Fits table.uris) (p : UInt16) :
    r.ownsProxyNamespace p ↔ ∃ uri ∈ uris, table.find uri = some p := by
  have howns : r.ownsProxyNamespace p ↔ ∃ i, proxyIndexOf table uris i = some p := by
    rw [ownsProxyNamespace, Option.isSome_iff_exists]
    exact exists_congr fun i => hserves.renames.downstream p i
  rw [howns, hserves.exists_proxyIndexOf_iff hfits]
  apply exists_congr
  intro uri
  apply and_congr_right
  intro hmem
  rw [ProxyNamespaceTable.find, if_pos (hserves.merged uri hmem), Option.some.injEq]

/-- Every identifier comes back exactly if the URIs of the array have the numbers of
its slots: a number that is left is then never given out. -/
theorem Serves.roundTrips_iff (hfits : Fits table.uris) :
    r.RoundTrips ↔ ∀ uri ∈ uris, (table.indexOf uri).toNat < uris.length := by
  have hpatch : ∀ i, r.mapToProxy i = patch (proxyIndexOf table uris) i := by
    intro i
    by_cases hi : i ∈ indexes uris
    · exact hserves.renames.proxy i hi
    · rw [hserves.outside i hi, patch_of_none]
      apply Option.eq_none_iff_forall_ne_some.mpr
      intro p hp
      exact hi (mem_indexes_of_proxyIndexOf hp)
  have hback : ∀ p i, r.downstreamIndexes.lookup p = some i ↔
      i ∈ Set.univ ∧ proxyIndexOf table uris i = some p := by
    intro p i
    rw [hserves.renames.downstream, and_iff_right (Set.mem_univ i)]
  have hclear : (∀ i ∈ Set.univ, r.mapToDownstream (r.mapToProxy i) = i) ↔
      Clear (proxyIndexOf table uris) Set.univ := by
    rw [← leftInverse_patch_iff hback]
    refine forall₂_congr fun i _ => ?_
    rw [hpatch]
    rfl
  rw [RoundTrips, roundTripsOn_iff, hclear]
  constructor
  · intro h uri hmem
    rcases (hserves.exists_proxyIndexOf_iff hfits).mpr ⟨uri, hmem, rfl⟩ with ⟨j, hj⟩
    -- the number is not left, so it is one of the array
    by_contra hlarge
    apply h (table.indexOf uri) (Set.mem_univ _) _ j (Set.mem_univ _) hj
    apply Option.eq_none_iff_forall_ne_some.mpr
    intro p hp
    exact hlarge (mem_indexes_of_proxyIndexOf hp)
  · intro h i _ hnone j _ hj
    rcases (hserves.exists_proxyIndexOf_iff hfits).mp ⟨j, hj⟩ with ⟨uri, hmem, rfl⟩
    have hi := h uri hmem
    rw [hserves.proxyIndexOf_eq (List.getElem?_eq_getElem hi)] at hnone
    cases hnone

end

end NamespaceRemapper

/-! ## The shared table -/

/-- The table and the remappers that were built on it, each with the array of its
server. -/
structure SharedTable where
  table : ProxyNamespaceTable
  remappers : List (List String × NamespaceRemapper) := []

/-- Calls of `Build` on one table, whatever it holds at first. An event is the
array of the server. -/
def sharedTable (table : ProxyNamespaceTable) : Lts.System SharedTable (List String) where
  init := { table }
  step s uris :=
    { table := (build uris s.table).2
      remappers := s.remappers ++ [(uris, (build uris s.table).1)] }

namespace SharedTable

variable (table : ProxyNamespaceTable)

theorem run_grows (before after : List (List String)) :
    ((sharedTable table).run before).table.uris <+:
        ((sharedTable table).run (before ++ after)).table.uris ∧
      ((sharedTable table).run before).remappers <+:
        ((sharedTable table).run (before ++ after)).remappers := by
  rw [Lts.System.run_append]
  apply (sharedTable table).runFrom_invariant fun s =>
    ((sharedTable table).run before).table.uris <+: s.table.uris ∧
      ((sharedTable table).run before).remappers <+: s.remappers
  · rintro s uris ⟨huris, hremappers⟩
    constructor
    · exact huris.trans (built_build uris s.table).grows
    · exact hremappers.trans (List.prefix_append _ _)
  · exact ⟨List.prefix_refl _, List.prefix_refl _⟩

theorem serves_run {arrays : List (List String)}
    (harrays : ∀ uris ∈ arrays, uris.Nodup ∧ "" ∉ uris)
    (hfits : Fits ((sharedTable table).run arrays).table.uris) :
    ∀ a ∈ ((sharedTable table).run arrays).remappers,
      a.2.Serves ((sharedTable table).run arrays).table a.1 := by
  induction arrays using List.reverseRecOn with
  | nil =>
    intro a ha
    cases ha
  | append_singleton arrays uris ih =>
    have hgrows := (run_grows table arrays [uris]).1
    have hbefore : Fits ((sharedTable table).run arrays).table.uris :=
      hgrows.length_le.trans hfits
    rw [Lts.System.run_concat] at hfits hgrows ⊢
    intro a ha
    rcases List.mem_append.mp ha with hold | hnew
    · -- one that was there before, over the table that has grown
      have hserves := ih (fun uris huris => harrays uris (List.mem_append_left _ huris)) hbefore
        a hold
      exact hserves.of_prefix hgrows
    · rw [List.mem_singleton.mp hnew]
      rcases harrays uris (by simp) with ⟨hnodup, hnonempty⟩
      exact serves_build hnodup hnonempty hfits

end SharedTable

/-- **Several servers over one table.** The table only grows. Two namespaces of two
servers have one proxy index exactly if they have one URI, and each index of an
array stands for its URI in the table as it is now and leads back. A remapper owns
the proxy indexes of the URIs of its server. It brings all identifiers in the namespaces
of its server back, and the variants that hold them, and translates no variant of another
type. Identifiers in whatever namespace come back if and only if the URIs of its server
have the numbers of the slots of the array. -/
theorem shared_namespaces_iff (table : ProxyNamespaceTable) (arrays : List (List String))
    (harrays : ∀ uris ∈ arrays, uris.Nodup ∧ "" ∉ uris)
    (hsize : ((sharedTable table).run arrays).table.uris.length < 65536) :
    let s := (sharedTable table).run arrays
    (∀ before after, arrays = before ++ after →
      ((sharedTable table).run before).table.uris <+: s.table.uris ∧
        ((sharedTable table).run before).remappers <+: s.remappers) ∧
    (∀ a ∈ s.remappers, ∀ b ∈ s.remappers, ∀ i ∈ indexes a.1, ∀ j ∈ indexes b.1,
      (a.2.mapToProxy i = b.2.mapToProxy j ↔ a.1[i.toNat]? = b.1[j.toNat]?)) ∧
    ∀ a ∈ s.remappers,
      (∀ i uri, a.1[i.toNat]? = some uri → s.table.find uri = some (a.2.mapToProxy i) ∧
        s.table.uris[(a.2.mapToProxy i).toNat]? = some uri ∧
        a.2.mapToDownstream (a.2.mapToProxy i) = i) ∧
      (∀ p, a.2.ownsProxyNamespace p ↔ ∃ uri ∈ a.1, s.table.find uri = some p) ∧
      a.2.RoundTripsOn (indexes a.1) ∧
      (∀ v : Variant, ¬ v.HoldsIds → v.remap a.2.toProxy = v ∧ v.remap a.2.toDownstream = v) ∧
      (a.2.RoundTrips ↔ ∀ uri ∈ a.1, (s.table.indexOf uri).toNat < a.1.length) := by
  intro s
  have hfits : Fits s.table.uris := Nat.le_of_lt hsize
  have hserves := SharedTable.serves_run table harrays hfits
  refine ⟨?_, ?_, ?_⟩
  · rintro before after rfl
    exact SharedTable.run_grows table before after
  · intro a ha b hb i hi j hj
    have huri : a.1[i.toNat]? = some a.1[i.toNat] := List.getElem?_eq_getElem hi
    have huri' : b.1[j.toNat]? = some b.1[j.toNat] := List.getElem?_eq_getElem hj
    rw [(hserves a ha).mapToProxy_eq huri, (hserves b hb).mapToProxy_eq huri', huri, huri',
      Option.some.injEq]
    constructor
    · exact indexOf_inj hfits ((hserves a ha).merged _ (List.mem_of_getElem? huri))
        ((hserves b hb).merged _ (List.mem_of_getElem? huri'))
    · intro heq
      rw [heq]
  · intro a ha
    refine ⟨?_, (hserves a ha).ownsProxyNamespace_iff hfits, ?_, ?_,
      (hserves a ha).roundTrips_iff hfits⟩
    · intro i uri huri
      have hmem := (hserves a ha).merged uri (List.mem_of_getElem? huri)
      have hfirst : s.table.uris[s.table.uris.idxOf uri]? = some uri := List.getElem?_idxOf hmem
      rw [(hserves a ha).mapToProxy_eq huri]
      refine ⟨?_, ?_, ?_⟩
      · rw [ProxyNamespaceTable.find, if_pos hmem]
      · rw [ProxyNamespaceTable.indexOf, toNat_ofNat_of_getElem? hfits hfirst]
        exact hfirst
      · rw [← (hserves a ha).mapToProxy_eq huri]
        exact (hserves a ha).mapToDownstream_mapToProxy (List.getElem?_eq_some_iff.mp huri).1
    · rw [roundTripsOn_iff]
      intro i hi
      exact (hserves a ha).mapToDownstream_mapToProxy hi
    · intro v hids
      exact ⟨Variant.remap_of_not_holdsIds hids _, Variant.remap_of_not_holdsIds hids _⟩

/-- The first server of a fresh table: its array is the beginning of the table. -/
theorem shared_namespaces_firstServer :
    (build ["http://opcfoundation.org/UA/", "urn:a"] {}).1.RoundTrips := by
  have hrun := shared_namespaces_iff {} [["http://opcfoundation.org/UA/", "urn:a"]] (by decide)
    (by decide)
  rcases hrun with ⟨-, -, hremappers⟩
  rcases hremappers _ (List.mem_singleton.mpr rfl) with ⟨-, -, -, -, hroundTrips⟩
  exact hroundTrips.mpr (by decide)

/-- Of two servers with a namespace of their own, the second has its URI at proxy
index 2. Its identifier of namespace 2, which is not in its array, is left by
`ToProxy` and comes back in namespace 1. -/
theorem shared_namespaces_not_roundTrips :
    let arrays := [["http://opcfoundation.org/UA/", "urn:a"],
      ["http://opcfoundation.org/UA/", "urn:b"]]
    let n : NodeId := { identifier := .numeric 7, namespaceIndex := 2 }
    (∀ uris ∈ arrays, uris.Nodup ∧ "" ∉ uris) ∧
      ((sharedTable {}).run arrays).table.uris.length < 65536 ∧
      ((sharedTable {}).run arrays).remappers.map (fun a => (n.toProxy a.2).toDownstream a.2) =
        [n, { n with namespaceIndex := 1 }] := by
  decide

end ScadaCore.Scada
