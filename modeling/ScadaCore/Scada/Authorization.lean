import ScadaCore.Scada.Types

/-!
# Scada.Authorization — roles, access rights and permissions

A session is granted a set of Role node ids. What is stored of them is the
access-rights bitmask, `accessRightsForRoles`, from which the well-known roles
are derived again, `rolesForUser`. The permissions of a caller on a node are the
union over the entries of the roles it holds, `permissionsForRoles`.

The way through the bitmask turns any one of the four administrative roles into
all four.
-/

namespace ScadaCore.Scada

/-! ## Roles and permissions -/

/-- `enum class WellKnownRole`. -/
inductive WellKnownRole where
  | anonymous | authenticatedUser | observer | operator
  | engineer | supervisor | configureAdmin | securityAdmin
deriving DecidableEq, Repr

/-- `enum class Permission : std::uint32_t`, a mask of `PermissionType` bits. -/
abbrev Permission := BitVec 32

/-- `Contains`: every bit of `required` is set in `granted`. -/
def Permission.contains (granted required : Permission) : Bool :=
  granted &&& required == required

structure RolePermissionType where
  roleId : NodeId := {}
  permissions : Permission := 0
deriving DecidableEq, Repr

/-- `WellKnownRoleId`: the numeric ids of the standard role objects. -/
def wellKnownRoleId : WellKnownRole → NodeId
  | .anonymous => { identifier := .numeric 15644 }
  | .authenticatedUser => { identifier := .numeric 15656 }
  | .observer => { identifier := .numeric 15668 }
  | .operator => { identifier := .numeric 15680 }
  | .engineer => { identifier := .numeric 16036 }
  | .supervisor => { identifier := .numeric 15692 }
  | .configureAdmin => { identifier := .numeric 15716 }
  | .securityAdmin => { identifier := .numeric 15704 }

/-! ## Access rights -/

/-- `enum class AccessRight`. -/
inductive AccessRight where
  | configure | control
deriving DecidableEq, Repr

def AccessRight.index : AccessRight → Nat
  | .configure => 0
  | .control => 1

def accessRightBit (right : AccessRight) : BitVec 32 := 1#32 <<< right.index

variable (accessRights : BitVec 32)

def hasAccessRight (right : AccessRight) : Bool :=
  accessRights &&& accessRightBit right != 0

def rolesForUser (isAnonymous : Bool) : List WellKnownRole :=
  if isAnonymous then
    [.anonymous]
  else
    [.authenticatedUser, .observer] ++
      (if hasAccessRight accessRights .control then [.operator] else []) ++
      if hasAccessRight accessRights .configure then
        [.engineer, .supervisor, .configureAdmin, .securityAdmin]
      else
        []

/-- The body of the loop of `AccessRightsForRoles`. -/
def addRoleRights (roleId : NodeId) : BitVec 32 :=
  if roleId = wellKnownRoleId .operator then
    accessRights ||| accessRightBit .control
  else if roleId = wellKnownRoleId .engineer ∨ roleId = wellKnownRoleId .supervisor ∨
      roleId = wellKnownRoleId .configureAdmin ∨ roleId = wellKnownRoleId .securityAdmin then
    accessRights ||| accessRightBit .configure
  else
    accessRights

def accessRightsForRoles (roleIds : List NodeId) : BitVec 32 :=
  roleIds.foldl addRoleRights 0

def callerRoleIds (isAnonymous : Bool) (grantedRoleIds : List NodeId) : List NodeId :=
  (rolesForUser accessRights isAnonymous).map wellKnownRoleId ++ grantedRoleIds

/-- The body of the loop of `PermissionsForRoles`. -/
def addEntry (callerRoleIds : List NodeId) (permissions : Permission)
    (entry : RolePermissionType) : Permission :=
  if entry.roleId ∈ callerRoleIds then permissions ||| entry.permissions else permissions

variable (rolePermissions : List RolePermissionType)

def permissionsForRoles (callerRoleIds : List NodeId) : Permission :=
  rolePermissions.foldl (addEntry callerRoleIds) 0

/-! ## What the functions compute -/

theorem getLsbD_permissionsForRoles (roleIds : List NodeId) (k : Nat) :
    (permissionsForRoles rolePermissions roleIds).getLsbD k = true ↔
      ∃ entry ∈ rolePermissions, entry.roleId ∈ roleIds ∧ entry.permissions.getLsbD k = true := by
  -- the loop adds to what it has collected so far
  have hloop : ∀ (entries : List RolePermissionType) (collected : Permission),
      (entries.foldl (addEntry roleIds) collected).getLsbD k = true ↔
        collected.getLsbD k = true ∨
          ∃ entry ∈ entries, entry.roleId ∈ roleIds ∧ entry.permissions.getLsbD k = true := by
    intro entries
    induction entries with
    | nil => simp
    | cons entry entries ih =>
      intro collected
      rw [List.foldl_cons, ih, List.exists_mem_cons_iff]
      by_cases hheld : entry.roleId ∈ roleIds
      · simp [addEntry, hheld, or_assoc]
      · simp [addEntry, hheld]
  rw [permissionsForRoles, hloop]
  simp

theorem Permission.contains_iff (granted required : Permission) :
    granted.contains required = true ↔
      ∀ k, required.getLsbD k = true → granted.getLsbD k = true := by
  rw [Permission.contains, beq_iff_eq]
  constructor
  · intro heq k hk
    rw [← heq, BitVec.getLsbD_and] at hk
    exact (Bool.and_eq_true_iff.mp hk).1
  · intro hall
    apply BitVec.eq_of_getLsbD_eq
    intro k _
    rw [BitVec.getLsbD_and]
    cases hk : required.getLsbD k with
    | false => simp
    | true => simp [hall k hk]

/-- The roles that imply the Configure right, which implies them. -/
def administrativeRoles : List WellKnownRole :=
  [.engineer, .supervisor, .configureAdmin, .securityAdmin]

def AccessRight.roleIds : AccessRight → List NodeId
  | .configure => administrativeRoles.map wellKnownRoleId
  | .control => [wellKnownRoleId .operator]

theorem hasAccessRight_or (added right : AccessRight) :
    hasAccessRight (accessRights ||| accessRightBit added) right =
      (hasAccessRight accessRights right || decide (added = right)) := by
  have hsplit : (accessRights ||| accessRightBit added) &&& accessRightBit right =
      accessRights &&& accessRightBit right ||| accessRightBit added &&& accessRightBit right :=
    BitVec.and_or_distrib_right
  by_cases hsame : added = right
  · subst hsame
    rw [hasAccessRight, hsplit]
    cases added <;> simp [accessRightBit, AccessRight.index]
  · have hother : accessRightBit added &&& accessRightBit right = 0 := by
      cases added <;> cases right <;> first | rfl | exact absurd rfl hsame
    simp [hasAccessRight, hsplit, hother, hsame]

theorem hasAccessRight_addRoleRights (roleId : NodeId)
    (right : AccessRight) :
    hasAccessRight (addRoleRights accessRights roleId) right =
      (hasAccessRight accessRights right || decide (roleId ∈ right.roleIds)) := by
  unfold addRoleRights
  split
  · -- Operator
    rename_i hoperator
    subst hoperator
    rw [hasAccessRight_or]
    cases right <;> simp [AccessRight.roleIds, administrativeRoles, wellKnownRoleId]
  · rename_i hoperator
    split
    · -- one of the administrative roles
      rename_i hadmin
      rw [hasAccessRight_or]
      cases right with
      | configure =>
        have hmem : roleId ∈ AccessRight.configure.roleIds := by
          simpa [AccessRight.roleIds, administrativeRoles] using hadmin
        simp [hmem]
      | control => simp [AccessRight.roleIds, hoperator]
    · -- a custom role, or one that every session has
      rename_i hadmin
      cases right with
      | configure =>
        have hmem : roleId ∉ AccessRight.configure.roleIds := by
          simpa [AccessRight.roleIds, administrativeRoles] using hadmin
        simp [hmem]
      | control => simp [AccessRight.roleIds, hoperator]

theorem hasAccessRight_accessRightsForRoles (roleIds : List NodeId) (right : AccessRight) :
    hasAccessRight (accessRightsForRoles roleIds) right = true ↔
      ∃ roleId ∈ roleIds, roleId ∈ right.roleIds := by
  have hloop : ∀ (ids : List NodeId) (collected : BitVec 32),
      hasAccessRight (ids.foldl addRoleRights collected) right = true ↔
        hasAccessRight collected right = true ∨ ∃ roleId ∈ ids, roleId ∈ right.roleIds := by
    intro ids
    induction ids with
    | nil => simp
    | cons roleId ids ih =>
      intro collected
      rw [List.foldl_cons, ih, hasAccessRight_addRoleRights, List.exists_mem_cons_iff]
      simp [or_assoc]
  rw [accessRightsForRoles, hloop]
  simp [hasAccessRight]

/-! ## The way through the bitmask -/

/-- What the granted roles amount to: with them every authenticated caller is
AuthenticatedUser and Observer. -/
def grantedRoleIds (roleIds : List NodeId) : List NodeId :=
  roleIds ++ [wellKnownRoleId .authenticatedUser, wellKnownRoleId .observer]

def impliedRoleIds (right : AccessRight) : List NodeId :=
  if hasAccessRight accessRights right then right.roleIds else []

theorem mem_impliedRoleIds {accessRights : BitVec 32} {right : AccessRight} {roleId : NodeId} :
    roleId ∈ impliedRoleIds accessRights right ↔
      hasAccessRight accessRights right = true ∧ roleId ∈ right.roleIds := by
  unfold impliedRoleIds
  split <;> simp [*]

theorem callerRoleIds_eq (roleIds : List NodeId) :
    callerRoleIds accessRights false roleIds =
      [wellKnownRoleId .authenticatedUser, wellKnownRoleId .observer] ++
        impliedRoleIds accessRights .control ++ impliedRoleIds accessRights .configure ++
          roleIds := by
  unfold callerRoleIds rolesForUser impliedRoleIds
  cases hasAccessRight accessRights .control <;>
    cases hasAccessRight accessRights .configure <;> rfl

theorem mem_callerRoleIds (roleIds : List NodeId) (roleId : NodeId) :
    roleId ∈ callerRoleIds accessRights false roleIds ↔
      roleId ∈ grantedRoleIds roleIds ∨
        ∃ right, hasAccessRight accessRights right = true ∧ roleId ∈ right.roleIds := by
  rw [callerRoleIds_eq, grantedRoleIds]
  simp only [List.mem_append]
  constructor
  · rintro (((hbase | hcontrol) | hconfigure) | hgranted)
    · exact Or.inl (Or.inr hbase)
    · exact Or.inr ⟨.control, mem_impliedRoleIds.mp hcontrol⟩
    · exact Or.inr ⟨.configure, mem_impliedRoleIds.mp hconfigure⟩
    · exact Or.inl (Or.inl hgranted)
  · rintro ((hgranted | hbase) | ⟨right, hright⟩)
    · exact Or.inr hgranted
    · exact Or.inl (Or.inl (Or.inl hbase))
    · have himplied := mem_impliedRoleIds.mpr hright
      cases right with
      | configure => exact Or.inl (Or.inr himplied)
      | control => exact Or.inl (Or.inl (Or.inr himplied))

/-- Once the rights come from the granted roles, what is added is all of the
administrative roles as soon as one of them was granted. -/
theorem mem_callerRoleIds_granted (roleIds : List NodeId) (roleId : NodeId) :
    roleId ∈ callerRoleIds (accessRightsForRoles roleIds) false roleIds ↔
      roleId ∈ grantedRoleIds roleIds ∨
        roleId ∈ AccessRight.configure.roleIds ∧
          ∃ granted ∈ roleIds, granted ∈ AccessRight.configure.roleIds := by
  rw [mem_callerRoleIds]
  constructor
  · rintro (hgranted | ⟨right, hright, hmem⟩)
    · exact Or.inl hgranted
    · rw [hasAccessRight_accessRightsForRoles] at hright
      cases right with
      | configure => exact Or.inr ⟨hmem, hright⟩
      | control =>
        -- Operator is one role only: it comes back where it was granted
        left
        rcases hright with ⟨granted, hgranted, hoperator⟩
        rw [AccessRight.roleIds, List.mem_singleton] at hmem hoperator
        rw [hmem, ← hoperator]
        exact List.mem_append_left _ hgranted
  · rintro (hgranted | ⟨hmem, hadmin⟩)
    · exact Or.inl hgranted
    · right
      exact ⟨.configure, (hasAccessRight_accessRightsForRoles roleIds .configure).mpr hadmin, hmem⟩

/-- On the node `rolePermissions` nothing is gained from an administrative role
that was not granted. -/
def NoGain (roleIds : List NodeId) : Prop :=
  (∃ granted ∈ roleIds, granted ∈ AccessRight.configure.roleIds) →
    ∀ entry ∈ rolePermissions, entry.roleId ∈ AccessRight.configure.roleIds →
      (permissionsForRoles rolePermissions (grantedRoleIds roleIds)).contains
        entry.permissions = true

instance (rolePermissions : List RolePermissionType) (roleIds : List NodeId) :
    Decidable (NoGain rolePermissions roleIds) :=
  inferInstanceAs (Decidable (_ → _))

/-- **Escalation, exactly.** A session's permissions on a node are those of its
granted roles if and only if the node gives no administrative role more than
the granted roles have, or none was granted. -/
theorem effective_eq_granted_iff (rolePermissions : List RolePermissionType)
    (roleIds : List NodeId) :
    permissionsForRoles rolePermissions
        (callerRoleIds (accessRightsForRoles roleIds) false roleIds) =
      permissionsForRoles rolePermissions (grantedRoleIds roleIds) ↔
    NoGain rolePermissions roleIds := by
  constructor
  · -- the bitmask brings the role of the entry back
    intro heq hadmin entry hentry hrole
    rw [Permission.contains_iff, ← heq]
    intro k hk
    rw [getLsbD_permissionsForRoles]
    exact ⟨entry, hentry, (mem_callerRoleIds_granted roleIds _).mpr (Or.inr ⟨hrole, hadmin⟩), hk⟩
  · intro hnogain
    apply BitVec.eq_of_getLsbD_eq
    intro k _
    rw [Bool.eq_iff_iff]
    constructor
    · intro heffective
      rcases (getLsbD_permissionsForRoles _ _ k).mp heffective with ⟨entry, hentry, hrole, hk⟩
      rcases (mem_callerRoleIds_granted roleIds _).mp hrole with hgranted | ⟨hmem, hadmin⟩
      · exact (getLsbD_permissionsForRoles _ _ k).mpr ⟨entry, hentry, hgranted, hk⟩
      · -- the entry of an administrative role, granted or not
        exact (Permission.contains_iff _ _).mp (hnogain hadmin entry hentry hmem) k hk
    · intro hgranted
      rcases (getLsbD_permissionsForRoles _ _ k).mp hgranted with ⟨entry, hentry, hrole, hk⟩
      rw [getLsbD_permissionsForRoles]
      exact ⟨entry, hentry, (mem_callerRoleIds_granted roleIds _).mpr (Or.inl hrole), hk⟩

/-- An Engineer on a node that lets only SecurityAdmin write (`kWrite`). -/
theorem engineer_gains_securityAdmin_entry :
    permissionsForRoles [{ roleId := wellKnownRoleId .securityAdmin, permissions := 0x40 }]
        (callerRoleIds (accessRightsForRoles [wellKnownRoleId .engineer]) false
          [wellKnownRoleId .engineer]) ≠
      permissionsForRoles [{ roleId := wellKnownRoleId .securityAdmin, permissions := 0x40 }]
        (grantedRoleIds [wellKnownRoleId .engineer]) := by
  decide

end ScadaCore.Scada
