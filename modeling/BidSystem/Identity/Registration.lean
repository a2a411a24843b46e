import BidSystem.Identity.Access
import BidSystem.ReadCommitted.Writes
import BidSystem.Security.Authorization
import Mathlib.Data.Finset.Image

/-!
# Registration and the bootstrap of a manager

The two transactions that create accounts: `RegisterLocalAccountHandler`, for a
manager of the tenant, and `BootstrapManagerHandler`, for a tenant that has no
manager.  Both end in `_create_account`, which keeps the new membership in memory
with its permissions, and stores it without them: `get_membership` computes them
from the tables that a migration has seeded.
-/

namespace BidSystem.Identity

open ReadCommitted Security

/-! ## Roles and permissions -/

/-- `PermissionCode`. -/
inductive PermissionCode where
  | accountsCreate
  | contentUpload
  | contentModify
deriving DecidableEq, Repr

/-- `PermissionCode.value`. -/
def PermissionCode.value : PermissionCode → String
  | accountsCreate => "accounts.create"
  | contentUpload => "content.upload"
  | contentModify => "content.modify"

/-- `permissions_for_role`. -/
def permissionsForRole : IdentityRole → Finset PermissionCode
  | .manager => {.accountsCreate, .contentUpload, .contentModify}
  | .employee => ∅

theorem mem_permissionsForRole {role : IdentityRole} {permission : PermissionCode} :
    permission ∈ permissionsForRole role ↔ role = .manager := by
  cases role <;> cases permission <;> decide

theorem PermissionCode.value_injective : Function.Injective PermissionCode.value := by
  intro first second same
  cases first <;> cases second <;> first | rfl | exact absurd same (by decide)

/-! ## Credentials -/

/-- What the code takes from Python's Unicode tables, any functions: `str.casefold`,
and `str.isalpha` and `str.isdigit` of one character. -/
structure UnicodeData where
  casefold : String → String
  isalpha : Char → Bool
  isdigit : Char → Bool

/-- `[a-z0-9]`. -/
def usernameStart (character : Char) : Bool :=
  ('a' ≤ character && character ≤ 'z') || ('0' ≤ character && character ≤ '9')

/-- `USERNAME_PATTERN.fullmatch`. -/
def isUsername (username : String) : Bool :=
  match username.toList with
  | [] => false
  | first :: others =>
      usernameStart first && others.all fun character => usernameStart character || character == '_'

/-- `RegistrationCredentials`. -/
structure RegistrationCredentials where
  username : String
  password : String
deriving DecidableEq, Repr

/-- `RegistrationCredentials.create`. -/
def RegistrationCredentials.create (unicode : UnicodeData) (username password : String) :
    Except PyError RegistrationCredentials :=
  let normalizedUsername := unicode.casefold (strip username)
  if ¬ (3 ≤ normalizedUsername.length ∧ normalizedUsername.length ≤ 32) then
    .error (.valueError "Username length is outside the supported boundary")
  else if !isUsername normalizedUsername then
    .error (.valueError "Username contains unsupported characters")
  else if ¬ (8 ≤ password.length ∧ password.length ≤ 128) then
    .error (.valueError "Password length is outside the supported boundary")
  else if password.utf8ByteSize > 1024 then
    .error (.valueError "Password byte length is outside the supported boundary")
  else if !password.toList.any unicode.isalpha then
    .error (.valueError "Password must contain a letter")
  else if !password.toList.any unicode.isdigit then
    .error (.valueError "Password must contain a digit")
  else if unicode.casefold password == normalizedUsername then
    .error (.valueError "Password must differ from username")
  else .ok ⟨normalizedUsername, password⟩

/-- `LocalAccount.register`. -/
def LocalAccount.register (unicode : UnicodeData) (userId loginIdentifier passwordHash : String) :
    Except PyError LocalAccount :=
  LocalAccount.ofModel {
    userId := userId
    loginIdentifier := unicode.casefold (strip loginIdentifier)
    passwordHash := passwordHash
    status := .active
    passwordVersion := 1 }

/-- `TenantMembership.create`. -/
def TenantMembership.create (membershipId userId tenantId : String)
    (roles permissions : Finset String) : Except PyError TenantMembership :=
  TenantMembership.ofModel {
    membershipId := membershipId
    userId := userId
    tenantId := tenantId
    status := .active } roles permissions

/-- The membership that `_create_account` builds in memory. -/
def newMembership (membershipId userId tenantId : String) (role : IdentityRole) :
    Except PyError TenantMembership :=
  TenantMembership.create membershipId userId tenantId {role.value}
    ((permissionsForRole role).image PermissionCode.value)

/-! ## The repository -/

/-- `RegistrationRecord`. -/
structure RegistrationRecord where
  account : LocalAccount
  membership : TenantMembership
  role : IdentityRole

/-- Add a row and flush it: a violation of uniqueness becomes a `BusinessConflictError`. -/
def addRow {α : Type} (table : Relation IdentityRow α) (model : α) : IdentityProg Unit := do
  match ← Prog.insertInto table model with
  | some _ => .raise .businessConflictError
  | none => return ()

/-- `add_registration`. -/
def addRegistration (record : RegistrationRecord) : IdentityProg Unit := do
  let found ← Prog.selectFrom roles fun role =>
    role.tenantId == record.membership.tenantId && role.roleCode == record.role.value
  match ← scalarOneOrNone (found.map RoleModel.roleId) with
  | none => .raise (.runtimeError "Required identity role has not been migrated")
  | some roleId => do
      addRow identityAccounts record.account.toIdentityAccountModel
      addRow tenantMemberships record.membership.toTenantMembershipModel
      addRow membershipRoles { membershipId := record.membership.membershipId, roleId := roleId }

/-- The join of `membership_role` and `tenant_membership` in
`manager_exists_for_update`. -/
def membershipsWithRole (roleId tenantId : String) (database : List IdentityRow) : List String :=
  (membershipRoles.rows database).flatMap fun link =>
    ((tenantMemberships.rows database).filter fun membership =>
      membership.membershipId == link.membershipId && link.roleId == roleId &&
        membership.tenantId == tenantId).map fun _ => link.membershipId

/-- `manager_exists_for_update`. -/
def managerExistsForUpdate (tenantId : String) : IdentityProg Bool := do
  let found ← Prog.lockFrom roles fun role =>
    role.tenantId == tenantId && role.roleCode == IdentityRole.manager.value
  match ← scalarOneOrNone found with
  | none => .raise (.runtimeError "Required manager role has not been migrated")
  | some role => do
      let result ← Prog.selectRows fun _ => true
      let membership ← scalarOneOrNone ((membershipsWithRole role.roleId tenantId result).take 1)
      return membership.isSome

/-! ## The handlers -/

/-- `RegisteredAccount`. -/
structure RegisteredAccount where
  userId : String
  username : String
  role : IdentityRole
deriving DecidableEq, Repr

/-- What the handlers are given: Python's Unicode tables and the `PasswordEncoder`
port, any function. -/
structure RegistrationServices extends UnicodeData where
  hash : String → String

/-- `_create_account`. -/
def createAccount (services : RegistrationServices) (username password : String)
    (role : IdentityRole) (tenantId userId membershipId : String) :
    IdentityProg RegisteredAccount := do
  let credentials ← Prog.ofExcept
    (RegistrationCredentials.create services.toUnicodeData username password)
  let account ← Prog.ofExcept (LocalAccount.register services.toUnicodeData userId
    credentials.username (services.hash credentials.password))
  let membership ← Prog.ofExcept (newMembership membershipId userId tenantId role)
  addRegistration { account := account, membership := membership, role := role }
  return { userId := userId, username := credentials.username, role := role }

/-- `RegisterLocalAccountCommand`. -/
structure RegisterLocalAccountCommand where
  username : String
  password : String
  role : IdentityRole
  tenantId : String
  userId : String
  membershipId : String
  actorUserId : String
deriving DecidableEq, Repr

/-- The check of the actor in `RegisterLocalAccountHandler.handle`. -/
def requireManager (actorUserId tenantId : String) : IdentityProg Unit := do
  match ← getMembership actorUserId tenantId with
  | none => .raise .permissionDeniedError
  | some membership =>
      if !membership.active || IdentityRole.manager.value ∉ membership.roles then
        .raise .permissionDeniedError
      else return ()

/-- `RegisterLocalAccountHandler.handle`. -/
def registerLocalAccount (services : RegistrationServices)
    (command : RegisterLocalAccountCommand) : IdentityProg RegisteredAccount := do
  requireManager command.actorUserId command.tenantId
  createAccount services command.username command.password command.role command.tenantId
    command.userId command.membershipId

/-- `BootstrapManagerCommand`. -/
structure BootstrapManagerCommand where
  username : String
  password : String
  tenantId : String
  userId : String
  membershipId : String
deriving DecidableEq, Repr

/-- `BootstrapManagerResult`. -/
structure BootstrapManagerResult where
  created : Bool
deriving DecidableEq, Repr

/-- `BootstrapManagerHandler.handle`. -/
def bootstrapManager (services : RegistrationServices) (command : BootstrapManagerCommand) :
    IdentityProg BootstrapManagerResult := do
  if ← managerExistsForUpdate command.tenantId then return ⟨false⟩
  else do
    let _ ← createAccount services command.username command.password .manager command.tenantId
      command.userId command.membershipId
    return ⟨true⟩

/-! ## The gates of a principal -/

/-- The principal of a resolved identity, as `resolve_current_principal` builds it. -/
def principalOf (identity : ResolvedIdentity) : AuthenticatedPrincipal where
  userId := identity.userId
  tenantId := identity.tenantId
  sessionId := identity.sessionId
  roles := identity.roles
  permissions := identity.permissions
  active := true

/-- The permission check of the routes, inside of the principal's own tenant. -/
def requirePermission (principal : AuthenticatedPrincipal) (permission : PermissionCode) :
    Except PyError Unit :=
  PermissionEvaluator.require
    (PermissionEvaluator.evaluate principal {permission.value} principal.tenantId)

theorem requirePermission_iff {identity : ResolvedIdentity} {permission : PermissionCode} :
    requirePermission (principalOf identity) permission = .ok () ↔
      permission.value ∈ identity.permissions := by
  rw [requirePermission, PermissionEvaluator.require_evaluate_iff]
  simp [principalOf]

/-! ## The seed -/

/-- `MANAGER_ROLE_ID` and `EMPLOYEE_ROLE_ID`. -/
def IdentityRole.seededId : IdentityRole → String
  | manager => "default-manager"
  | employee => "default-employee"

/-- `DEFAULT_TENANT_ID`. -/
def defaultTenantId : String := "default"

/-- The rows that the migration `20260723_0004` inserts. -/
def seed : List IdentityRow :=
  ([.accountsCreate, .contentUpload, .contentModify] : List PermissionCode).map
      (fun permission => permissions.make permission.value) ++
    ([.manager, .employee] : List IdentityRole).map (fun role => roles.make {
      roleId := role.seededId
      tenantId := defaultTenantId
      roleCode := role.value }) ++
    ([.accountsCreate, .contentUpload, .contentModify] : List PermissionCode).map
      (fun permission => rolePermissions.make {
        roleId := IdentityRole.manager.seededId
        permissionCode := permission.value })

/-! ## The effect of a registration -/

/-- Rows of other tables are no obstacle to an insert. -/
theorem violated_eq_none_iff {α : Type} {table : Relation IdentityRow α}
    (foreign : ∀ stored new, table.read stored = none →
      identityConflict stored (table.make new) = none) {database : List IdentityRow} {new : α} :
    Prog.violated identityConflict database (table.make new) = none ↔
      ∀ old ∈ table.rows database, identityConflict (table.make old) (table.make new) = none := by
  unfold Prog.violated
  rw [List.findSome?_eq_none_iff]
  constructor
  · intro allowed old member
    exact allowed _ (table.mem_rows.mp member)
  · intro fresh stored member
    cases read : table.read stored with
    | none => exact foreign stored new read
    | some old =>
        obtain rfl := table.make_of_read stored old read
        exact fresh old (table.mem_rows.mpr member)

theorem identityAccounts_foreign (stored : IdentityRow) (new : IdentityAccountModel)
    (read : identityAccounts.read stored = none) :
    identityConflict stored (identityAccounts.make new) = none := by
  cases stored <;> first | rfl | cases read

theorem tenantMemberships_foreign (stored : IdentityRow) (new : TenantMembershipModel)
    (read : tenantMemberships.read stored = none) :
    identityConflict stored (tenantMemberships.make new) = none := by
  cases stored <;> first | rfl | cases read

theorem membershipRoles_foreign (stored : IdentityRow) (new : MembershipRoleModel)
    (read : membershipRoles.read stored = none) :
    identityConflict stored (membershipRoles.make new) = none := by
  cases stored <;> first | rfl | cases read

/-- The constraints of `tenant_membership`. -/
theorem identityConflict_tenantMembership_eq_none {old new : TenantMembershipModel} :
    identityConflict (tenantMemberships.make old) (tenantMemberships.make new) = none ↔
      old.membershipId ≠ new.membershipId ∧
        ¬ (old.userId = new.userId ∧ old.tenantId = new.tenantId) := by
  simp only [identityConflict, tenantMemberships]
  split_ifs with id user
  · simp [id]
  · simp [user]
  · exact iff_of_true rfl ⟨id, user⟩

/-- Adding a row: a conflict has another row of its table. -/
theorem exec_addRow {α : Type} {table : Relation IdentityRow α}
    (foreign : ∀ stored new, table.read stored = none →
      identityConflict stored (table.make new) = none) (model : α)
    (database : List IdentityRow) :
    (table.rows database ≠ [] ∧ (addRow table model).exec identityConflict database =
        (.error .businessConflictError, database)) ∨
      (∀ old ∈ table.rows database, identityConflict (table.make old) (table.make model) = none) ∧
        (addRow table model).exec identityConflict database =
          (.ok (), database ++ [table.make model]) := by
  rw [addRow, Prog.exec_insertInto_bind]
  cases violation : Prog.violated identityConflict database (table.make model) with
  | none => exact .inr ⟨(violated_eq_none_iff foreign).mp violation, rfl⟩
  | some constraint =>
      refine .inl ⟨fun nothing => ?_, rfl⟩
      have free : Prog.violated identityConflict database (table.make model) = none := by
        rw [violated_eq_none_iff foreign, nothing]
        exact List.forall_mem_nil _
      cases violation.symm.trans free

/-- Tables that a registration writes. -/
def Occupied (database : List IdentityRow) : Prop :=
  identityAccounts.rows database ≠ [] ∨ tenantMemberships.rows database ≠ [] ∨
    membershipRoles.rows database ≠ []

/-- The rows of a new account. -/
def accountRows (account : LocalAccount) (membership : TenantMembership) (roleId : String) :
    List IdentityRow :=
  [identityAccounts.make account.toIdentityAccountModel,
    tenantMemberships.make membership.toTenantMembershipModel,
    membershipRoles.make ⟨membership.membershipId, roleId⟩]

/-- What `add_registration` does: a conflict has another registration before it. -/
theorem addRegistration_effect (record : RegistrationRecord) (database : List IdentityRow) :
    (∃ error later, (addRegistration record).exec identityConflict database =
        (.error error, later) ∧ (error = .businessConflictError → Occupied database)) ∨
      ∃ roleId, ⟨roleId, record.membership.tenantId, record.role.value⟩ ∈ roles.rows database ∧
        (∀ old ∈ tenantMemberships.rows database,
          old.membershipId ≠ record.membership.membershipId ∧
            ¬ (old.userId = record.membership.userId ∧
              old.tenantId = record.membership.tenantId)) ∧
        (addRegistration record).exec identityConflict database =
          (.ok (), database ++ accountRows record.account record.membership roleId) := by
  rw [addRegistration, Prog.exec_selectFrom_bind]
  rcases found : (roles.rows database).filter (fun role =>
    role.tenantId == record.membership.tenantId && role.roleCode == record.role.value) with
    _ | ⟨stored, _ | ⟨second, others⟩⟩
  · rw [found]
    exact .inl ⟨_, _, rfl, fun same => by cases same⟩
  · have member : stored ∈ [stored] := List.mem_singleton_self stored
    rw [← found, List.mem_filter, Bool.and_eq_true, beq_iff_eq, beq_iff_eq] at member
    obtain ⟨member, tenant, code⟩ := member
    rw [found, List.map_cons, List.map_nil, scalarOneOrNone, Prog.bind_done]
    dsimp only
    rw [Prog.exec_bind]
    rcases exec_addRow identityAccounts_foreign record.account.toIdentityAccountModel database with
      ⟨occupied, refused⟩ | ⟨-, added⟩
    · rw [refused]
      exact .inl ⟨_, _, rfl, fun _ => .inl occupied⟩
    · rw [added]
      dsimp only
      have sameMemberships : ∀ model, tenantMemberships.rows
          (database ++ [identityAccounts.make model]) = tenantMemberships.rows database :=
        fun model => by
          rw [Relation.rows_append, Relation.rows_singleton_of_disjoint fun _ => rfl,
            List.append_nil]
      rw [Prog.exec_bind]
      rcases exec_addRow tenantMemberships_foreign record.membership.toTenantMembershipModel _ with
        ⟨occupied, refused⟩ | ⟨fresh, added⟩
      · rw [refused]
        rw [sameMemberships] at occupied
        exact .inl ⟨_, _, rfl, fun _ => .inr (.inl occupied)⟩
      · rw [added]
        rw [sameMemberships] at fresh
        dsimp only
        rcases exec_addRow membershipRoles_foreign
            ⟨record.membership.membershipId, stored.roleId⟩ _ with
          ⟨occupied, refused⟩ | ⟨-, added⟩
        · rw [refused]
          refine .inl ⟨_, _, rfl, fun _ => .inr (.inr ?_)⟩
          rwa [Relation.rows_append, Relation.rows_append,
            Relation.rows_singleton_of_disjoint fun _ => rfl,
            Relation.rows_singleton_of_disjoint fun _ => rfl, List.append_nil,
            List.append_nil] at occupied
        · rw [added]
          refine .inr ⟨stored.roleId, ?_, fun old isOld =>
            identityConflict_tenantMembership_eq_none.mp (fresh old isOld), ?_⟩
          · rwa [← tenant, ← code]
          · simp [accountRows]
  · rw [found]
    exact .inl ⟨_, _, rfl, fun same => by cases same⟩

/-- What `_create_account` returns and leaves behind. -/
inductive CreateEffect (role : IdentityRole) (tenantId userId membershipId : String)
    (database : List IdentityRow) : Except PyError RegisteredAccount × List IdentityRow → Prop
  | created {username roleId : String} {account : LocalAccount} {membership : TenantMembership}
      (built : newMembership membershipId userId tenantId role = .ok membership)
      (found : ⟨roleId, tenantId, role.value⟩ ∈ roles.rows database)
      (fresh : ∀ old ∈ tenantMemberships.rows database, old.membershipId ≠ membershipId ∧
        ¬ (old.userId = userId ∧ old.tenantId = tenantId)) :
      CreateEffect role tenantId userId membershipId database
        (.ok ⟨userId, username, role⟩, database ++ accountRows account membership roleId)
  /-- A conflict has another registration before it. -/
  | failed (error : PyError) (later : List IdentityRow)
      (conflict : error = .businessConflictError → Occupied database) :
      CreateEffect role tenantId userId membershipId database (.error error, later)

theorem create_credentials_error {unicode : UnicodeData} {username password : String}
    {error : PyError}
    (failed : RegistrationCredentials.create unicode username password = .error error) :
    error ≠ .businessConflictError := by
  unfold RegistrationCredentials.create at failed
  dsimp only at failed
  split_ifs at failed <;> cases failed <;> intro same <;> cases same

theorem register_account_error {unicode : UnicodeData} {userId login hash : String}
    {error : PyError} (failed : LocalAccount.register unicode userId login hash = .error error) :
    error ≠ .businessConflictError := by
  unfold LocalAccount.register LocalAccount.ofModel at failed
  split_ifs at failed <;> cases failed <;> intro same <;> cases same

theorem newMembership_error {membershipId userId tenantId : String} {role : IdentityRole}
    {error : PyError} (failed : newMembership membershipId userId tenantId role = .error error) :
    error ≠ .businessConflictError := by
  unfold newMembership TenantMembership.create TenantMembership.ofModel at failed
  split_ifs at failed <;> cases failed <;> intro same <;> cases same

theorem toModel_of_newMembership {membershipId userId tenantId : String} {role : IdentityRole}
    {membership : TenantMembership}
    (built : newMembership membershipId userId tenantId role = .ok membership) :
    membership.toTenantMembershipModel = ⟨membershipId, userId, tenantId, .active⟩ :=
  TenantMembership.toModel_of_ofModel built

/-- **The effect of `_create_account`.** -/
theorem createAccount_effect (services : RegistrationServices) (username password : String)
    (role : IdentityRole) (tenantId userId membershipId : String)
    (database : List IdentityRow) :
    CreateEffect role tenantId userId membershipId database
      ((createAccount services username password role tenantId userId membershipId).exec
        identityConflict database) := by
  unfold createAccount
  cases created : RegistrationCredentials.create services.toUnicodeData username password with
  | error error =>
      exact .failed error database fun same => absurd same (create_credentials_error created)
  | ok credentials =>
      rw [Prog.bind_ofExcept_ok]
      cases registered : LocalAccount.register services.toUnicodeData userId credentials.username
          (services.hash credentials.password) with
      | error error =>
          exact .failed error database fun same => absurd same (register_account_error registered)
      | ok account =>
          rw [Prog.bind_ofExcept_ok]
          cases built : newMembership membershipId userId tenantId role with
          | error error =>
              exact .failed error database fun same => absurd same (newMembership_error built)
          | ok membership =>
              have sameModel := toModel_of_newMembership built
              rw [Prog.bind_ofExcept_ok, Prog.exec_bind]
              rcases addRegistration_effect ⟨account, membership, role⟩ database with
                ⟨error, later, failed, conflict⟩ | ⟨roleId, found, fresh, added⟩
              · rw [failed]
                exact .failed error later conflict
              · rw [added]
                rw [sameModel] at found fresh
                exact .created built found fresh

section Handlers

variable {database : List IdentityRow}

theorem requireManager_readOnly (actorUserId tenantId : String) :
    (requireManager actorUserId tenantId).ReadOnly := by
  unfold requireManager
  refine (getMembership_readOnly _ _).bind fun membership => ?_
  cases membership with
  | none => exact .raise _
  | some membership =>
      dsimp only
      split
      · exact .raise _
      · exact .done _

/-- `manager_exists_for_update` changes nothing. -/
theorem exec_managerExistsForUpdate_snd (tenantId : String) (database : List IdentityRow) :
    ((managerExistsForUpdate tenantId).exec identityConflict database).2 = database := by
  rw [managerExistsForUpdate, Prog.exec_lockFrom_bind]
  refine Prog.ReadOnly.exec_snd identityConflict ?_ database
  refine (scalarOneOrNone_readOnly _).bind fun found => ?_
  cases found with
  | none => exact .raise _
  | some role => exact .select fun _ => (scalarOneOrNone_readOnly _).bind fun _ => .done _

/-- What a bootstrap returns: no manager was there, or nothing was done. -/
theorem of_bootstrapManager {services : RegistrationServices} {command : BootstrapManagerCommand}
    {result : BootstrapManagerResult} {later : List IdentityRow}
    (ran : (bootstrapManager services command).exec identityConflict database =
      (.ok result, later)) :
    (result = ⟨false⟩ ∧ later = database) ∨
      result = ⟨true⟩ ∧ ∃ account, (createAccount services command.username command.password
        .manager command.tenantId command.userId command.membershipId).exec identityConflict
          database = (.ok account, later) := by
  have unchanged := exec_managerExistsForUpdate_snd command.tenantId database
  rw [bootstrapManager, Prog.exec_bind] at ran
  rcases checked : (managerExistsForUpdate command.tenantId).exec identityConflict database with
    ⟨error | exists', database'⟩
  · rw [checked] at ran
    cases ran
  · rw [checked] at ran unchanged
    obtain rfl : database' = database := unchanged
    cases exists' with
    | true =>
        cases ran
        exact .inl ⟨rfl, rfl⟩
    | false =>
        dsimp only at ran
        rw [if_neg Bool.false_ne_true, Prog.exec_return] at ran
        rcases created : (createAccount services command.username command.password .manager
            command.tenantId command.userId command.membershipId).exec identityConflict
              database' with ⟨error | account, later'⟩
        · rw [created] at ran
          cases ran
        · rw [created] at ran
          cases ran
          exact .inr ⟨rfl, account, rfl⟩

end Handlers

end BidSystem.Identity
