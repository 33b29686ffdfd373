import ScadaCore.Scada.Authorization

/-!
# Scada.RolePermissions — the built-in role maps

The permission of every well-known role, the three maps of role permissions that
are built from them, and the two ways to evaluate a map for a session: through
the access rights that are stored of its roles, `permissionsForUserFrom`, and
through the roles themselves, `permissionsForRoles`.
-/

namespace ScadaCore.Scada

/-! ## Permission bits -/

namespace Permission

def browse : Permission := 1#32 <<< 0
def readRolePermissions : Permission := 1#32 <<< 1
def writeAttribute : Permission := 1#32 <<< 2
def writeRolePermissions : Permission := 1#32 <<< 3
def writeHistorizing : Permission := 1#32 <<< 4
def read : Permission := 1#32 <<< 5
def write : Permission := 1#32 <<< 6
def readHistory : Permission := 1#32 <<< 7
def insertHistory : Permission := 1#32 <<< 8
def modifyHistory : Permission := 1#32 <<< 9
def deleteHistory : Permission := 1#32 <<< 10
def receiveEvents : Permission := 1#32 <<< 11
def call : Permission := 1#32 <<< 12
def addReference : Permission := 1#32 <<< 13
def removeReference : Permission := 1#32 <<< 14
def deleteNode : Permission := 1#32 <<< 15
def addNode : Permission := 1#32 <<< 16

def readOnly : Permission := browse ||| read ||| receiveEvents

def admin : Permission :=
  readOnly ||| readHistory ||| readRolePermissions ||| write ||| writeAttribute ||| call |||
    addNode ||| deleteNode ||| addReference ||| removeReference ||| insertHistory |||
      modifyHistory ||| deleteHistory ||| writeHistorizing ||| writeRolePermissions

end Permission

/-! ## Permissions of a caller -/

def defaultPermissionsForRole : WellKnownRole → Permission
  | .anonymous => .readOnly
  | .authenticatedUser | .observer =>
    .readOnly ||| .readHistory ||| .readRolePermissions
  | .operator =>
    .readOnly ||| .readHistory ||| .readRolePermissions ||| .write ||| .call
  | .engineer | .supervisor | .configureAdmin | .securityAdmin => .admin

def permissionsForUser (accessRights : BitVec 32) (isAnonymous : Bool) : Permission :=
  (rolesForUser accessRights isAnonymous).foldl
    (fun permissions role => permissions ||| defaultPermissionsForRole role) 0

variable (rolePermissions : List RolePermissionType)

def userRolePermissionsFrom (accessRights : BitVec 32) (isAnonymous : Bool) :
    List RolePermissionType :=
  let callerRoleIds := (rolesForUser accessRights isAnonymous).map wellKnownRoleId
  rolePermissions.filter fun entry => decide (entry.roleId ∈ callerRoleIds)

def permissionsForUserFrom (accessRights : BitVec 32) (isAnonymous : Bool) : Permission :=
  (userRolePermissionsFrom rolePermissions accessRights isAnonymous).foldl
    (fun permissions entry => permissions ||| entry.permissions) 0

/-! ## The built-in maps -/

def rolePermissionsFor (roles : List WellKnownRole) : List RolePermissionType :=
  roles.map fun role =>
    { roleId := wellKnownRoleId role, permissions := defaultPermissionsForRole role }

def allRoles : List WellKnownRole :=
  [.anonymous, .authenticatedUser, .observer, .operator, .engineer, .supervisor,
    .configureAdmin, .securityAdmin]

def defaultRolePermissions : List RolePermissionType := rolePermissionsFor allRoles

/-- `ProcessRolePermissions`: only Operator writes live data and calls methods. -/
def processRolePermissions : List RolePermissionType :=
  defaultRolePermissions.map fun entry =>
    if entry.roleId ≠ wellKnownRoleId .operator then
      { entry with permissions := entry.permissions &&& ~~~(.write ||| .call) }
    else
      entry

/-- `ConfigurationRolePermissions`: Operator does not write configuration. -/
def configurationRolePermissions : List RolePermissionType :=
  defaultRolePermissions.map fun entry =>
    if entry.roleId = wellKnownRoleId .operator then
      { entry with permissions := entry.permissions &&& ~~~Permission.write }
    else
      entry

/-! ## The evaluators agree -/

/-- Filtering the entries first and collecting them afterwards is one loop. -/
theorem permissionsForUserFrom_eq (accessRights : BitVec 32) (isAnonymous : Bool) :
    permissionsForUserFrom rolePermissions accessRights isAnonymous =
      permissionsForRoles rolePermissions (callerRoleIds accessRights isAnonymous []) := by
  rw [permissionsForUserFrom, userRolePermissionsFrom, permissionsForRoles, callerRoleIds,
    List.append_nil, List.foldl_filter]
  simp only [decide_eq_true_eq]
  rfl

/-- On the published defaults both evaluators collect the defaults of the roles
of the session. -/
theorem permissionsForUserFrom_default (accessRights : BitVec 32) (isAnonymous : Bool) :
    permissionsForUserFrom defaultRolePermissions accessRights isAnonymous =
      permissionsForUser accessRights isAnonymous := by
  -- the roles depend on two bits of the rights only
  unfold permissionsForUserFrom userRolePermissionsFrom permissionsForUser rolesForUser
  cases isAnonymous with
  | true => rfl
  | false =>
    cases hasAccessRight accessRights .control <;>
      cases hasAccessRight accessRights .configure <;> decide

/-! ## Maps on which nothing is lost -/

/-- The map gives a caller that holds the roles `roleIds` all that the entry
gives. -/
def Covers (roleIds : List NodeId) (entry : RolePermissionType) : Prop :=
  (permissionsForRoles rolePermissions roleIds).contains entry.permissions = true

instance (rolePermissions : List RolePermissionType) (roleIds : List NodeId)
    (entry : RolePermissionType) : Decidable (Covers rolePermissions roleIds entry) :=
  inferInstanceAs (Decidable (_ = _))

section Covers

variable {rolePermissions} {roleIds roleIds' : List NodeId}
  {entry : RolePermissionType}

theorem covers_iff : Covers rolePermissions roleIds entry ↔
    ∀ k, entry.permissions.getLsbD k = true →
      (permissionsForRoles rolePermissions roleIds).getLsbD k = true :=
  Permission.contains_iff _ _

theorem covers_of_mem (hmem : entry ∈ rolePermissions) (hrole : entry.roleId ∈ roleIds) :
    Covers rolePermissions roleIds entry :=
  covers_iff.mpr fun k hk => (getLsbD_permissionsForRoles _ _ k).mpr ⟨entry, hmem, hrole, hk⟩

theorem Covers.mono (h : Covers rolePermissions roleIds entry) (hsub : roleIds ⊆ roleIds') :
    Covers rolePermissions roleIds' entry := by
  rw [covers_iff] at h ⊢
  intro k hk
  obtain ⟨granting, hmem, hrole, hbit⟩ := (getLsbD_permissionsForRoles _ _ k).mp (h k hk)
  exact (getLsbD_permissionsForRoles _ _ k).mpr ⟨granting, hmem, hsub hrole, hbit⟩

/-- Two lists of roles have the same permissions as soon as each covers the
entries of the other. -/
theorem permissionsForRoles_eq_of_covers
    (h : ∀ entry ∈ rolePermissions, entry.roleId ∈ roleIds →
      Covers rolePermissions roleIds' entry)
    (h' : ∀ entry ∈ rolePermissions, entry.roleId ∈ roleIds' →
      Covers rolePermissions roleIds entry) :
    permissionsForRoles rolePermissions roleIds = permissionsForRoles rolePermissions roleIds' := by
  apply BitVec.eq_of_getLsbD_eq
  intro k _
  rw [Bool.eq_iff_iff]
  constructor
  · intro hk
    obtain ⟨entry, hmem, hrole, hbit⟩ := (getLsbD_permissionsForRoles _ _ k).mp hk
    exact covers_iff.mp (h entry hmem hrole) k hbit
  · intro hk
    obtain ⟨entry, hmem, hrole, hbit⟩ := (getLsbD_permissionsForRoles _ _ k).mp hk
    exact covers_iff.mp (h' entry hmem hrole) k hbit

end Covers

/-- The map does not tell the roles of a session from what is stored of them. -/
structure BitmaskSafe (rolePermissions : List RolePermissionType) : Prop where
  /-- A role that no right stands for adds nothing to the roles every session has. -/
  custom : ∀ entry ∈ rolePermissions, entry.roleId ∉ AccessRight.control.roleIds →
    entry.roleId ∉ AccessRight.configure.roleIds →
      Covers rolePermissions (grantedRoleIds []) entry
  /-- No administrative role adds anything to another. -/
  uniform : ∀ entry ∈ rolePermissions, entry.roleId ∈ AccessRight.configure.roleIds →
    ∀ roleId ∈ AccessRight.configure.roleIds,
      Covers rolePermissions (grantedRoleIds [roleId]) entry

instance (rolePermissions : List RolePermissionType) : Decidable (BitmaskSafe rolePermissions) :=
  decidable_of_iff (_ ∧ _) ⟨fun h => ⟨h.1, h.2⟩, fun h => ⟨h.custom, h.uniform⟩⟩

theorem mem_callerRoleIds_stored (roleIds : List NodeId) (roleId : NodeId) :
    roleId ∈ callerRoleIds (accessRightsForRoles roleIds) false [] ↔
      roleId ∈ grantedRoleIds [] ∨
        ∃ right : AccessRight, (∃ granted ∈ roleIds, granted ∈ right.roleIds) ∧
          roleId ∈ right.roleIds := by
  simp only [mem_callerRoleIds, hasAccessRight_accessRightsForRoles]

theorem grantedRoleIds_subset {roleIds roleIds' : List NodeId} (h : roleIds ⊆ roleIds') :
    grantedRoleIds roleIds ⊆ grantedRoleIds roleIds' :=
  List.append_subset.mpr
    ⟨fun _ hmem => List.mem_append_left _ (h hmem), List.subset_append_right _ _⟩

/-- On a safe map the stored rights give what the roles give. -/
theorem BitmaskSafe.lossless {rolePermissions : List RolePermissionType}
    (h : BitmaskSafe rolePermissions) (roleIds : List NodeId) :
    permissionsForUserFrom rolePermissions (accessRightsForRoles roleIds) false =
      permissionsForRoles rolePermissions (grantedRoleIds roleIds) := by
  rw [permissionsForUserFrom_eq]
  apply permissionsForRoles_eq_of_covers
  · intro entry hmem hrole
    rcases (mem_callerRoleIds_stored roleIds _).mp hrole with
      hbase | ⟨right, ⟨granted, hgranted, hright⟩, hentry⟩
    · exact covers_of_mem hmem (grantedRoleIds_subset (List.nil_subset _) hbase)
    · cases right with
      | configure =>
        -- the entry may be of another administrative role than the granted one
        apply (h.uniform entry hmem hentry granted hright).mono
        exact grantedRoleIds_subset (List.cons_subset.mpr ⟨hgranted, List.nil_subset _⟩)
      | control =>
        rw [AccessRight.roleIds, List.mem_singleton] at hentry hright
        apply covers_of_mem hmem
        rw [hentry, ← hright]
        exact List.mem_append_left _ hgranted
  · intro entry hmem hrole
    have hbase : grantedRoleIds [] ⊆ callerRoleIds (accessRightsForRoles roleIds) false [] :=
      fun _ hid => (mem_callerRoleIds_stored roleIds _).mpr (Or.inl hid)
    rcases List.mem_append.mp hrole with hgranted | hevery
    · -- a granted role comes back from the rights unless none stands for it
      by_cases hright : ∃ right : AccessRight, entry.roleId ∈ right.roleIds
      · obtain ⟨right, hright⟩ := hright
        apply covers_of_mem hmem
        exact (mem_callerRoleIds_stored roleIds _).mpr
          (Or.inr ⟨right, ⟨_, hgranted, hright⟩, hright⟩)
      · have hnone : ∀ right : AccessRight, entry.roleId ∉ right.roleIds :=
          fun right hc => hright ⟨right, hc⟩
        exact (h.custom entry hmem (hnone .control) (hnone .configure)).mono hbase
    · exact covers_of_mem hmem (hbase hevery)

/-- **Lossless storage, exactly.** On a map of role permissions the stored
rights give every session what its roles give if and only if the map is safe. -/
theorem lossless_iff (rolePermissions : List RolePermissionType) :
    (∀ roleIds, permissionsForUserFrom rolePermissions (accessRightsForRoles roleIds) false =
      permissionsForRoles rolePermissions (grantedRoleIds roleIds)) ↔
    BitmaskSafe rolePermissions := by
  refine ⟨?_, BitmaskSafe.lossless⟩
  intro hlossless
  simp only [permissionsForUserFrom_eq] at hlossless
  refine ⟨?_, ?_⟩
  · -- a session with the role of the entry only
    intro entry hmem hcontrol hconfigure
    have hcovered : Covers rolePermissions (grantedRoleIds [entry.roleId]) entry :=
      covers_of_mem hmem (List.mem_append_left _ List.mem_cons_self)
    rw [Covers, ← hlossless] at hcovered
    refine Covers.mono hcovered ?_
    intro roleId hrole
    rcases (mem_callerRoleIds_stored _ _).mp hrole with hbase | ⟨right, ⟨granted, hg, hright⟩, -⟩
    · exact hbase
    · rw [List.mem_singleton.mp hg] at hright
      cases right with
      | configure => exact absurd hright hconfigure
      | control => exact absurd hright hcontrol
  · -- a session with the other administrative role only
    intro entry hmem hentry roleId hrole
    rw [Covers, ← hlossless]
    apply covers_of_mem hmem
    exact (mem_callerRoleIds_stored _ _).mpr
      (Or.inr ⟨.configure, ⟨roleId, List.mem_cons_self, hrole⟩, hentry⟩)

/-! ## The built-in maps lose nothing -/

theorem bitmaskSafe_default : BitmaskSafe defaultRolePermissions := by decide

theorem bitmaskSafe_process : BitmaskSafe processRolePermissions := by decide

theorem bitmaskSafe_configuration : BitmaskSafe configurationRolePermissions := by decide

/-- **The bitmask is lossless on the built-in maps.** Whatever roles a session
was granted, its stored rights give it on each built-in map what the roles give,
which on the published defaults is the union of the defaults of its roles; and
on every map, the two ways to evaluate stored rights agree. (A granted Anonymous
does no harm: it has nothing over Observer.) -/
theorem builtin_lossless (roleIds : List NodeId) :
    (∀ rolePermissions ∈
        [defaultRolePermissions, processRolePermissions, configurationRolePermissions],
      permissionsForUserFrom rolePermissions (accessRightsForRoles roleIds) false =
        permissionsForRoles rolePermissions (grantedRoleIds roleIds)) ∧
    permissionsForUserFrom defaultRolePermissions (accessRightsForRoles roleIds) false =
      permissionsForUser (accessRightsForRoles roleIds) false ∧
    permissionsForRoles defaultRolePermissions (grantedRoleIds roleIds) =
      permissionsForUser (accessRightsForRoles roleIds) false ∧
    ∀ (rolePermissions : List RolePermissionType) (accessRights : BitVec 32) (isAnonymous : Bool),
      permissionsForUserFrom rolePermissions accessRights isAnonymous =
        permissionsForRoles rolePermissions (callerRoleIds accessRights isAnonymous []) := by
  refine ⟨?_, permissionsForUserFrom_default _ _, ?_, permissionsForUserFrom_eq⟩
  · intro rolePermissions hmap
    simp only [List.mem_cons, List.not_mem_nil, or_false] at hmap
    rcases hmap with rfl | rfl | rfl
    · exact bitmaskSafe_default.lossless roleIds
    · exact bitmaskSafe_process.lossless roleIds
    · exact bitmaskSafe_configuration.lossless roleIds
  · rw [← bitmaskSafe_default.lossless, permissionsForUserFrom_default]

end ScadaCore.Scada
