import BidSystem.Identity.Session
import BidSystem.ReadCommitted.Relation
import Mathlib.Data.Finset.Lattice.Basic
import Mathlib.Tactic.SplitIfs

/-!
# The identity tables

The rows of the `identity` schema, as `infrastructure/models.py` and the
migrations declare them, and the domain objects that the repository builds from
them.  Foreign keys are not modelled: users, memberships, roles and permissions
are never deleted, so no statement of the repository can violate one.
-/

namespace BidSystem.Identity

open ReadCommitted

/-- `AccountStatus`. -/
inductive AccountStatus where
  | active
  | disabled
deriving DecidableEq, Repr

/-- `MembershipStatus`. -/
inductive MembershipStatus where
  | active
  | disabled
deriving DecidableEq, Repr

/-- The columns of `identity.identity_account`. -/
structure IdentityAccountModel where
  userId : String
  loginIdentifier : String
  passwordHash : String
  status : AccountStatus
  passwordVersion : ℤ
deriving DecidableEq, Repr

/-- The columns of `identity.tenant_membership`. -/
structure TenantMembershipModel where
  membershipId : String
  userId : String
  tenantId : String
  status : MembershipStatus
deriving DecidableEq, Repr

/-- The columns of `identity.role`. -/
structure RoleModel where
  roleId : String
  tenantId : String
  roleCode : String
deriving DecidableEq, Repr

/-- The columns of `identity.role_permission`. -/
structure RolePermissionModel where
  roleId : String
  permissionCode : String
deriving DecidableEq, Repr

/-- The columns of `identity.membership_role`. -/
structure MembershipRoleModel where
  membershipId : String
  roleId : String
deriving DecidableEq, Repr

/-- A row of the schema. -/
inductive IdentityRow where
  | identityAccount (model : IdentityAccountModel)
  | tenantMembership (model : TenantMembershipModel)
  /-- `permission` has its code as the only column. -/
  | permission (permissionCode : String)
  | role (model : RoleModel)
  | rolePermission (model : RolePermissionModel)
  | membershipRole (model : MembershipRoleModel)
  | refreshSession (model : RefreshSessionModel)
deriving DecidableEq, Repr

/-! ## Tables -/

/-- `identity.identity_account`. -/
def identityAccounts : Relation IdentityRow IdentityAccountModel where
  read | .identityAccount model => some model | _ => none
  make := .identityAccount
  read_make _ := rfl
  make_of_read stored row read := by cases stored <;> cases read; rfl

/-- `identity.tenant_membership`. -/
def tenantMemberships : Relation IdentityRow TenantMembershipModel where
  read | .tenantMembership model => some model | _ => none
  make := .tenantMembership
  read_make _ := rfl
  make_of_read stored row read := by cases stored <;> cases read; rfl

/-- `identity.permission`. -/
def permissions : Relation IdentityRow String where
  read | .permission permissionCode => some permissionCode | _ => none
  make := .permission
  read_make _ := rfl
  make_of_read stored row read := by cases stored <;> cases read; rfl

/-- `identity.role`. -/
def roles : Relation IdentityRow RoleModel where
  read | .role model => some model | _ => none
  make := .role
  read_make _ := rfl
  make_of_read stored row read := by cases stored <;> cases read; rfl

/-- `identity.role_permission`. -/
def rolePermissions : Relation IdentityRow RolePermissionModel where
  read | .rolePermission model => some model | _ => none
  make := .rolePermission
  read_make _ := rfl
  make_of_read stored row read := by cases stored <;> cases read; rfl

/-- `identity.membership_role`. -/
def membershipRoles : Relation IdentityRow MembershipRoleModel where
  read | .membershipRole model => some model | _ => none
  make := .membershipRole
  read_make _ := rfl
  make_of_read stored row read := by cases stored <;> cases read; rfl

/-- `identity.refresh_session`. -/
def refreshSessions : Relation IdentityRow RefreshSessionModel where
  read | .refreshSession model => some model | _ => none
  make := .refreshSession
  read_make _ := rfl
  make_of_read stored row read := by cases stored <;> cases read; rfl

/-- The unique constraint that `new` violates because of `old`, by its name in
the migrations. -/
def identityConflict : Prog.Conflict IdentityRow String
  | .identityAccount old, .identityAccount new =>
      if old.userId = new.userId then some "pk_identity_account"
      else if old.loginIdentifier = new.loginIdentifier then
        some "uq_identity_account_login_identifier"
      else none
  | .tenantMembership old, .tenantMembership new =>
      if old.membershipId = new.membershipId then some "pk_tenant_membership"
      else if old.userId = new.userId ∧ old.tenantId = new.tenantId then
        some "uq_tenant_membership_user_tenant"
      else none
  | .permission old, .permission new => if old = new then some "pk_permission" else none
  | .role old, .role new =>
      if old.roleId = new.roleId then some "pk_role"
      else if old.tenantId = new.tenantId ∧ old.roleCode = new.roleCode then
        some "uq_role_tenant_role_code"
      else none
  | .rolePermission old, .rolePermission new => if old = new then some "pk_role_permission" else none
  | .membershipRole old, .membershipRole new => if old = new then some "pk_membership_role" else none
  | .refreshSession old, .refreshSession new =>
      if old.sessionId = new.sessionId then some "pk_refresh_session"
      else if old.tokenDigest = new.tokenDigest then some "uq_refresh_session_token_digest"
      else none
  | _, _ => none

/-- The constraints of `refresh_session`: session ids and digests are unique. -/
theorem identityConflict_refreshSession_eq_none {old new : RefreshSessionModel} :
    identityConflict (refreshSessions.make old) (refreshSessions.make new) = none ↔
      old.sessionId ≠ new.sessionId ∧ old.tokenDigest ≠ new.tokenDigest := by
  simp only [identityConflict, refreshSessions]
  split_ifs with id digest
  · simp [id]
  · simp [digest]
  · simp [id, digest]

/-- A session can be inserted exactly when its id and its digest are new. -/
theorem violated_refreshSession_eq_none {database : List IdentityRow} {new : RefreshSessionModel} :
    Prog.violated identityConflict database (refreshSessions.make new) = none ↔
      ∀ old ∈ refreshSessions.rows database,
        old.sessionId ≠ new.sessionId ∧ old.tokenDigest ≠ new.tokenDigest := by
  unfold Prog.violated
  rw [List.findSome?_eq_none_iff]
  constructor
  · intro allowed old member
    exact identityConflict_refreshSession_eq_none.mp
      (allowed _ (refreshSessions.mem_rows.mp member))
  · intro fresh stored member
    cases stored with
    | refreshSession old =>
        exact identityConflict_refreshSession_eq_none.mpr
          (fresh old (refreshSessions.mem_rows.mpr member))
    | _ => rfl

/-! ## Domain objects -/

/-- `LocalAccount`: its constructor refuses blank identifiers and versions below one. -/
structure LocalAccount extends IdentityAccountModel where
  identifiers : [userId, loginIdentifier, passwordHash].any blank = false
  version_pos : 1 ≤ passwordVersion
deriving DecidableEq, Repr

namespace LocalAccount

/-- The constructor with its `__post_init__` checks. -/
def ofModel (model : IdentityAccountModel) : Except PyError LocalAccount :=
  if identifiers : [model.userId, model.loginIdentifier, model.passwordHash].any blank = false then
    if version : 1 ≤ model.passwordVersion then
      .ok { toIdentityAccountModel := model, identifiers := identifiers, version_pos := version }
    else .error (.valueError "Password version must be positive")
  else .error (.valueError "Local account identifiers and password hash must not be blank")

/-- `LocalAccount.can_authenticate`. -/
def canAuthenticate (account : LocalAccount) : Bool := account.status == .active

/-- `LocalAccount.replace_password`. -/
def replacePassword (account : LocalAccount) (passwordHash : String) :
    Except PyError LocalAccount :=
  ofModel { account.toIdentityAccountModel with
    passwordHash := passwordHash
    passwordVersion := account.passwordVersion + 1 }

theorem toModel_of_ofModel {model : IdentityAccountModel} {account : LocalAccount}
    (built : ofModel model = .ok account) : account.toIdentityAccountModel = model := by
  unfold ofModel at built
  split at built
  · split at built
    · cases built
      rfl
    · cases built
  · cases built

/-- The constructor accepts the fields of an account. -/
theorem ofModel_toModel (account : LocalAccount) :
    ofModel account.toIdentityAccountModel = .ok account := by
  rw [ofModel, dif_pos account.identifiers, dif_pos account.version_pos]

end LocalAccount

/-- `TenantMembership`: a membership with its role and permission codes. -/
structure TenantMembership extends TenantMembershipModel where
  roles : Finset String
  permissions : Finset String
  identifiers : [membershipId, userId, tenantId].any blank = false
  codes : ∀ code ∈ roles ∪ permissions, blank code = false
deriving DecidableEq

namespace TenantMembership

/-- The constructor with its `__post_init__` checks. -/
def ofModel (model : TenantMembershipModel) (roles permissions : Finset String) :
    Except PyError TenantMembership :=
  if identifiers : [model.membershipId, model.userId, model.tenantId].any blank = false then
    if codes : ∀ code ∈ roles ∪ permissions, blank code = false then
      .ok { toTenantMembershipModel := model, roles := roles, permissions := permissions
            identifiers := identifiers, codes := codes }
    else .error (.valueError "Role and permission codes must not be blank")
  else .error (.valueError "Tenant membership identifiers must not be blank")

/-- `TenantMembership.active`. -/
def active (membership : TenantMembership) : Bool := membership.status == .active

theorem toModel_of_ofModel {model : TenantMembershipModel} {roles permissions : Finset String}
    {membership : TenantMembership} (built : ofModel model roles permissions = .ok membership) :
    membership.toTenantMembershipModel = model := by
  unfold ofModel at built
  split at built
  · split at built
    · cases built
      rfl
    · cases built
  · cases built

end TenantMembership

end BidSystem.Identity
