import BidSystem.Identity.Registration
import BidSystem.ReadCommitted.Journal
import Mathlib.Tactic.FinCases

/-!
# Roles of registered accounts

Runs of bootstraps, registrations, logins, refreshes and logouts on the tables that
the migration has seeded.  A membership is linked to one of the two seeded roles,
and nothing ever changes its link, so that the two joins of `get_membership` give
back the role and the permissions with which the membership was created.

* `getMembership_of_hasRole` — the joins, on any store with the seeded roles.
* `registrations_law` — **what holds in every reachable store**: of the memberships
  that have been registered, of a login's role, and of the two gates of the route
  that registers accounts.
-/

namespace BidSystem.Identity

open ReadCommitted Security

/-! ## Stores with the seeded roles -/

/-- The membership is stored, and linked to the seeded role and to no other one. -/
structure HasRole (database : List IdentityRow) (model : TenantMembershipModel)
    (role : IdentityRole) : Prop where
  stored : model ∈ tenantMemberships.rows database
  tenant : model.tenantId = defaultTenantId
  active : model.status = .active
  identifiers : [model.membershipId, model.userId, model.tenantId].any blank = false
  links : ∀ link, link ∈ membershipRoles.rows database ∧ link.membershipId = model.membershipId ↔
    link = ⟨model.membershipId, role.seededId⟩

/-- **The seeded roles with memberships that have one of them each.** -/
structure Provisioned (database : List IdentityRow) : Prop where
  roles : roles.rows database = roles.rows seed
  permissions : permissions.rows database = permissions.rows seed
  rolePermissions : rolePermissions.rows database = rolePermissions.rows seed
  memberships : ((tenantMemberships.rows database).map fun model =>
    (model.userId, model.tenantId)).Nodup
  membershipIds : ((tenantMemberships.rows database).map
    TenantMembershipModel.membershipId).Nodup
  linked : ∀ link ∈ membershipRoles.rows database,
    ∃ model ∈ tenantMemberships.rows database, model.membershipId = link.membershipId
  hasRole : ∀ model ∈ tenantMemberships.rows database, ∃ role, HasRole database model role

theorem provisioned_seed : Provisioned seed where
  roles := rfl
  permissions := rfl
  rolePermissions := rfl
  memberships := List.nodup_nil
  membershipIds := List.nodup_nil
  linked := List.forall_mem_nil _
  hasRole := List.forall_mem_nil _

theorem rows_roles_seed : roles.rows seed =
    [⟨"default-manager", "default", "manager"⟩, ⟨"default-employee", "default", "employee"⟩] :=
  rfl

theorem rows_permissions_seed :
    permissions.rows seed = ["accounts.create", "content.upload", "content.modify"] :=
  rfl

theorem rows_rolePermissions_seed : rolePermissions.rows seed =
    [⟨"default-manager", "accounts.create"⟩, ⟨"default-manager", "content.upload"⟩,
      ⟨"default-manager", "content.modify"⟩] :=
  rfl

/-- A role of the seed is a role. -/
theorem mem_rows_roles_seed {model : RoleModel} :
    model ∈ roles.rows seed ↔ ∃ role : IdentityRole,
      model = ⟨role.seededId, defaultTenantId, role.value⟩ := by
  rw [rows_roles_seed]
  constructor
  · intro member
    simp only [List.mem_cons, List.not_mem_nil, or_false] at member
    rcases member with rfl | rfl
    · exact ⟨.manager, rfl⟩
    · exact ⟨.employee, rfl⟩
  · rintro ⟨_ | _, rfl⟩ <;> simp [IdentityRole.seededId, IdentityRole.value, defaultTenantId]

/-- The seed grants every permission to managers. -/
theorem mem_rows_rolePermissions_seed {grant : RolePermissionModel} :
    grant ∈ rolePermissions.rows seed ↔ ∃ permission : PermissionCode,
      grant = ⟨IdentityRole.manager.seededId, permission.value⟩ := by
  rw [rows_rolePermissions_seed]
  constructor
  · intro member
    simp only [List.mem_cons, List.not_mem_nil, or_false] at member
    rcases member with rfl | rfl | rfl
    · exact ⟨.accountsCreate, rfl⟩
    · exact ⟨.contentUpload, rfl⟩
    · exact ⟨.contentModify, rfl⟩
  · rintro ⟨_ | _ | _, rfl⟩ <;> simp [IdentityRole.seededId, PermissionCode.value]

theorem mem_rows_permissions_seed (permission : PermissionCode) :
    permission.value ∈ permissions.rows seed := by
  rw [rows_permissions_seed]
  cases permission <;> simp [PermissionCode.value]

theorem seededId_injective : Function.Injective IdentityRole.seededId := by
  intro first second same
  cases first <;> cases second <;> first | rfl | exact absurd same (by decide)

theorem roleValue_injective : Function.Injective IdentityRole.value := by
  intro first second same
  cases first <;> cases second <;> first | rfl | exact absurd same (by decide)

/-! ## The joins -/

section Joins

variable {database : List IdentityRow} {model : TenantMembershipModel} {role : IdentityRole}

/-- **The role codes of a membership.** -/
theorem roleCodes_of_hasRole (provisioned : Provisioned database)
    (hasRole : HasRole database model role) :
    (roleCodes model.membershipId model.tenantId database).toFinset = {role.value} := by
  ext code
  rw [List.mem_toFinset, Finset.mem_singleton, roleCodes, List.mem_flatMap]
  constructor
  · rintro ⟨stored, member, found⟩
    obtain ⟨link, linkMember, rfl⟩ := List.mem_map.mp found
    obtain ⟨linkStored, matched⟩ := List.mem_filter.mp linkMember
    simp only [Bool.and_eq_true, beq_iff_eq] at matched
    have isLink := (hasRole.links link).mp ⟨linkStored, matched.1.2⟩
    rw [provisioned.roles] at member
    obtain ⟨seeded, rfl⟩ := mem_rows_roles_seed.mp member
    have same : link.roleId = seeded.seededId := matched.1.1
    rw [isLink] at same
    rw [seededId_injective same]
  · rintro rfl
    have linked := (hasRole.links ⟨model.membershipId, role.seededId⟩).mpr rfl
    refine ⟨⟨role.seededId, defaultTenantId, role.value⟩, ?_, ?_⟩
    · rw [provisioned.roles]
      exact mem_rows_roles_seed.mpr ⟨role, rfl⟩
    · refine List.mem_map.mpr ⟨_, List.mem_filter.mpr ⟨linked.1, ?_⟩, rfl⟩
      simp [hasRole.tenant]

/-- **The permission codes of a membership.** -/
theorem permissionCodes_of_hasRole (provisioned : Provisioned database)
    (hasRole : HasRole database model role) :
    (permissionCodes model.membershipId model.tenantId database).toFinset =
      (permissionsForRole role).image PermissionCode.value := by
  ext code
  rw [List.mem_toFinset, Finset.mem_image, permissionCodes, List.mem_flatMap]
  constructor
  · rintro ⟨stored, -, grants⟩
    obtain ⟨grant, grantMember, links⟩ := List.mem_flatMap.mp grants
    obtain ⟨link, linkStored, found⟩ := List.mem_flatMap.mp links
    obtain ⟨seeded, member, rfl⟩ := List.mem_map.mp found
    obtain ⟨-, matched⟩ := List.mem_filter.mp member
    simp only [Bool.and_eq_true, beq_iff_eq] at matched
    obtain ⟨⟨⟨⟨isCode, isGrant⟩, -⟩, isMembership⟩, -⟩ := matched
    have isLink := (hasRole.links link).mp ⟨linkStored, isMembership⟩
    rw [provisioned.rolePermissions] at grantMember
    obtain ⟨permission, rfl⟩ := mem_rows_rolePermissions_seed.mp grantMember
    refine ⟨permission, mem_permissionsForRole.mpr ?_, isCode⟩
    have same : link.roleId = IdentityRole.manager.seededId := isGrant
    rw [isLink] at same
    exact seededId_injective same
  · rintro ⟨permission, granted, rfl⟩
    obtain rfl := mem_permissionsForRole.mp granted
    have linked := (hasRole.links ⟨model.membershipId, IdentityRole.manager.seededId⟩).mpr rfl
    refine ⟨permission.value, ?_, List.mem_flatMap.mpr
      ⟨⟨IdentityRole.manager.seededId, permission.value⟩, ?_, List.mem_flatMap.mpr
        ⟨_, linked.1, List.mem_map.mpr
          ⟨⟨IdentityRole.manager.seededId, defaultTenantId, IdentityRole.manager.value⟩,
            List.mem_filter.mpr ⟨?_, ?_⟩, rfl⟩⟩⟩⟩
    · rw [provisioned.permissions]
      exact mem_rows_permissions_seed permission
    · rw [provisioned.rolePermissions]
      exact mem_rows_rolePermissions_seed.mpr ⟨permission, rfl⟩
    · rw [provisioned.roles]
      exact mem_rows_roles_seed.mpr ⟨.manager, rfl⟩
    · simp [hasRole.tenant]

/-- **What `get_membership` returns** is what the membership was created as. -/
theorem getMembership_of_hasRole (provisioned : Provisioned database)
    (hasRole : HasRole database model role) :
    ∃ membership, newMembership model.membershipId model.userId model.tenantId role =
        .ok membership ∧ membership.toTenantMembershipModel = model ∧
      membership.roles = {role.value} ∧
      membership.permissions = (permissionsForRole role).image PermissionCode.value ∧
      (getMembership model.userId model.tenantId).exec identityConflict database =
        (.ok (some membership), database) := by
  have only : (tenantMemberships.rows database).filter
      (fun other => other.userId == model.userId && other.tenantId == model.tenantId) =
        [model] := by
    have sameFilter : (fun other : TenantMembershipModel =>
        other.userId == model.userId && other.tenantId == model.tenantId) =
          fun other => (other.userId, other.tenantId) == (model.userId, model.tenantId) := rfl
    rw [sameFilter]
    rcases filter_eq_of_nodup provisioned.memberships (model.userId, model.tenantId) with
      ⟨absent, _⟩ | ⟨row, stored, same, only⟩
    · exact absurd rfl (absent model hasRole.stored)
    · rw [only, List.inj_on_of_nodup_map provisioned.memberships stored hasRole.stored same]
  have codes : ∀ code ∈ ({role.value} : Finset String) ∪
      (permissionsForRole role).image PermissionCode.value, blank code = false := by
    intro code member
    rcases Finset.mem_union.mp member with isRole | isPermission
    · rw [Finset.mem_singleton.mp isRole]
      cases role <;> decide
    · obtain ⟨permission, -, rfl⟩ := Finset.mem_image.mp isPermission
      cases permission <;> decide
  have sameModel : (⟨model.membershipId, model.userId, model.tenantId, .active⟩ :
      TenantMembershipModel) = model := by
    rw [← hasRole.active]
  have built : TenantMembership.ofModel model {role.value}
      ((permissionsForRole role).image PermissionCode.value) =
        .ok ⟨model, _, _, hasRole.identifiers, codes⟩ := by
    rw [TenantMembership.ofModel, dif_pos hasRole.identifiers, dif_pos codes]
  refine ⟨⟨model, _, _, hasRole.identifiers, codes⟩, ?_, rfl, rfl, rfl, ?_⟩
  · rw [newMembership, TenantMembership.create, sameModel, built]
  · rw [exec_getMembership model only, roleCodes_of_hasRole provisioned hasRole,
      permissionCodes_of_hasRole provisioned hasRole, built]

end Joins

/-! ## Every transaction keeps the roles -/

section Steps

variable {database later : List IdentityRow}

/-- The tables that say what role a membership has. -/
structure SameRoles (database later : List IdentityRow) : Prop where
  roles : roles.rows later = roles.rows database
  permissions : permissions.rows later = permissions.rows database
  rolePermissions : rolePermissions.rows later = rolePermissions.rows database
  memberships : tenantMemberships.rows later = tenantMemberships.rows database
  links : membershipRoles.rows later = membershipRoles.rows database

theorem HasRole.of_sameRoles {model : TenantMembershipModel} {role : IdentityRole}
    (hasRole : HasRole database model role) (same : SameRoles database later) :
    HasRole later model role where
  stored := same.memberships ▸ hasRole.stored
  tenant := hasRole.tenant
  active := hasRole.active
  identifiers := hasRole.identifiers
  links := same.links ▸ hasRole.links

theorem Provisioned.of_sameRoles (provisioned : Provisioned database)
    (same : SameRoles database later) : Provisioned later where
  roles := same.roles.trans provisioned.roles
  permissions := same.permissions.trans provisioned.permissions
  rolePermissions := same.rolePermissions.trans provisioned.rolePermissions
  memberships := same.memberships ▸ provisioned.memberships
  membershipIds := same.memberships ▸ provisioned.membershipIds
  linked := by
    rw [same.links, same.memberships]
    exact provisioned.linked
  hasRole := by
    rw [same.memberships]
    intro model stored
    obtain ⟨role, hasRole⟩ := provisioned.hasRole model stored
    exact ⟨role, hasRole.of_sameRoles same⟩

theorem SameRoles.refl (database : List IdentityRow) : SameRoles database database :=
  ⟨rfl, rfl, rfl, rfl, rfl⟩

/-- A body that writes accounts and sessions only. -/
theorem SameRoles.of_leaves {A : Type} {body : IdentityProg A}
    (leaves : ∀ {β : Type} (other : Relation IdentityRow β), identityAccounts.Disjoint other →
      refreshSessions.Disjoint other → body.Leaves other) (database : List IdentityRow) :
    SameRoles database (body.exec identityConflict database).2 where
  roles := (leaves _ (fun _ => rfl) fun _ => rfl).rows_exec _ _
  permissions := (leaves _ (fun _ => rfl) fun _ => rfl).rows_exec _ _
  rolePermissions := (leaves _ (fun _ => rfl) fun _ => rfl).rows_exec _ _
  memberships := (leaves _ (fun _ => rfl) fun _ => rfl).rows_exec _ _
  links := (leaves _ (fun _ => rfl) fun _ => rfl).rows_exec _ _

/-- What a new account leaves, table by table. -/
theorem rows_accountRows (account : LocalAccount) (membership : TenantMembership)
    (roleId : String) :
    roles.rows (database ++ accountRows account membership roleId) = roles.rows database ∧
      permissions.rows (database ++ accountRows account membership roleId) =
        permissions.rows database ∧
      rolePermissions.rows (database ++ accountRows account membership roleId) =
        rolePermissions.rows database ∧
      tenantMemberships.rows (database ++ accountRows account membership roleId) =
        tenantMemberships.rows database ++ [membership.toTenantMembershipModel] ∧
      membershipRoles.rows (database ++ accountRows account membership roleId) =
        membershipRoles.rows database ++ [⟨membership.membershipId, roleId⟩] := by
  simp only [Relation.rows_append]
  refine ⟨?_, ?_, ?_, rfl, rfl⟩ <;> exact List.append_nil _

/-- **A registration keeps the roles** of the memberships there are, and gives the
new one its own. -/
theorem provisioned_created (provisioned : Provisioned database) {role : IdentityRole}
    {tenantId userId membershipId roleId : String} {account : LocalAccount}
    {membership : TenantMembership}
    (built : newMembership membershipId userId tenantId role = .ok membership)
    (found : ⟨roleId, tenantId, role.value⟩ ∈ roles.rows database)
    (fresh : ∀ old ∈ tenantMemberships.rows database, old.membershipId ≠ membershipId ∧
      ¬ (old.userId = userId ∧ old.tenantId = tenantId)) :
    Provisioned (database ++ accountRows account membership roleId) ∧
      HasRole (database ++ accountRows account membership roleId)
        membership.toTenantMembershipModel role ∧
      ∀ model other, HasRole database model other →
        HasRole (database ++ accountRows account membership roleId) model other := by
  obtain ⟨sameRoles, samePermissions, sameGrants, memberships, links⟩ :=
    @rows_accountRows database account membership roleId
  have identifiers := membership.identifiers
  have sameModel := toModel_of_newMembership built
  rw [sameModel] at memberships identifiers ⊢
  have ownId : membership.membershipId = membershipId :=
    congrArg TenantMembershipModel.membershipId sameModel
  rw [ownId] at links
  rw [provisioned.roles] at found
  obtain ⟨seeded, isSeeded⟩ := mem_rows_roles_seed.mp found
  obtain ⟨isRoleId, isTenant, isCode⟩ := RoleModel.mk.inj isSeeded
  obtain rfl := roleValue_injective isCode
  have new : HasRole (database ++ accountRows account membership roleId)
      ⟨membershipId, userId, tenantId, .active⟩ role := by
    refine ⟨?_, isTenant, rfl, identifiers, fun link => ?_⟩
    · rw [memberships]
      exact List.mem_append_right _ (List.mem_singleton_self _)
    · rw [links, List.mem_append, List.mem_singleton, ← isRoleId]
      constructor
      · rintro ⟨stored | isNew, sameId⟩
        · obtain ⟨model, modelStored, isModel⟩ := provisioned.linked link stored
          exact absurd (isModel.trans sameId) (fresh model modelStored).1
        · exact isNew
      · rintro rfl
        exact ⟨.inr rfl, rfl⟩
  have kept : ∀ model other, HasRole database model other →
      HasRole (database ++ accountRows account membership roleId) model other := by
    intro model other hasRole
    refine ⟨?_, hasRole.tenant, hasRole.active, hasRole.identifiers, fun link => ?_⟩
    · rw [memberships]
      exact List.mem_append_left _ hasRole.stored
    · rw [links, List.mem_append, List.mem_singleton, ← hasRole.links]
      constructor
      · rintro ⟨stored | rfl, sameId⟩
        · exact ⟨stored, sameId⟩
        · exact absurd sameId.symm (fresh model hasRole.stored).1
      · rintro ⟨stored, sameId⟩
        exact ⟨.inl stored, sameId⟩
  refine ⟨{
    roles := sameRoles.trans provisioned.roles
    permissions := samePermissions.trans provisioned.permissions
    rolePermissions := sameGrants.trans provisioned.rolePermissions
    memberships := ?_
    membershipIds := ?_
    linked := ?_
    hasRole := ?_ }, new, kept⟩
  · rw [memberships, List.map_append, List.nodup_append]
    refine ⟨provisioned.memberships, List.nodup_singleton _, ?_⟩
    intro pair member other isOther same
    obtain ⟨old, stored, rfl⟩ := List.mem_map.mp member
    rw [List.map_singleton, List.mem_singleton] at isOther
    rw [isOther] at same
    exact (fresh old stored).2 (Prod.mk.inj same)
  · rw [memberships, List.map_append, List.nodup_append]
    refine ⟨provisioned.membershipIds, List.nodup_singleton _, ?_⟩
    intro id member other isOther same
    obtain ⟨old, stored, rfl⟩ := List.mem_map.mp member
    rw [List.map_singleton, List.mem_singleton] at isOther
    rw [isOther] at same
    exact (fresh old stored).1 same
  · intro link member
    rw [links, List.mem_append, List.mem_singleton] at member
    rw [memberships]
    rcases member with stored | rfl
    · obtain ⟨model, modelStored, isModel⟩ := provisioned.linked link stored
      exact ⟨model, List.mem_append_left _ modelStored, isModel⟩
    · exact ⟨_, List.mem_append_right _ (List.mem_singleton_self _), rfl⟩
  · intro model member
    rw [memberships, List.mem_append, List.mem_singleton] at member
    rcases member with stored | rfl
    · obtain ⟨other, hasRole⟩ := provisioned.hasRole model stored
      exact ⟨other, kept model other hasRole⟩
    · exact ⟨role, new⟩

end Steps

/-! ## Logins, refreshes and logouts -/

section Leaves

variable {β : Type} {other : Relation IdentityRow β}

theorem flushNew_leaves (sessions : refreshSessions.Disjoint other)
    (models : List RefreshSessionModel) : (flushNew models).Leaves other := by
  induction models with
  | nil => exact .done _
  | cons model models ih =>
      refine (Prog.leaves_insertInto sessions model).bind fun violated => ?_
      cases violated with
      | some constraint => exact .raise _
      | none => exact ih

theorem flushDirty_leaves (sessions : refreshSessions.Disjoint other)
    (models : List RefreshSessionModel) : (flushDirty models).Leaves other := by
  induction models with
  | nil => exact .done _
  | cons model models ih =>
      refine (Prog.leaves_updateIn sessions _ _).bind fun count => ?_
      split
      · exact ih
      · exact .raise _

theorem revokeFamily_leaves (sessions : refreshSessions.Disjoint other) (familyId : String)
    (revokedAt : Instant) : (revokeFamily familyId revokedAt).Leaves other :=
  (Prog.leaves_updateIn sessions _ _).bind fun _ => .done _

/-- **A login** writes accounts and sessions. -/
theorem loginTransaction_leaves (accounts : identityAccounts.Disjoint other)
    (sessions : refreshSessions.Disjoint other) (services : LoginServices)
    (command : AuthenticateLocalAccountCommand) :
    (loginTransaction services command).Leaves other := by
  unfold loginTransaction authenticateLocalAccount
  refine Prog.Leaves.bind ?_ fun authenticated => ?_
  · refine (checkCredentials_readOnly services command).leaves.bind fun credentials => ?_
    refine Prog.Leaves.bind ?_ fun _ => ?_
    · cases credentials.2.2 with
      | none => exact .done _
      | some updatedHash =>
          refine (Prog.leaves_ofExcept _).bind fun account => ?_
          exact (Prog.leaves_updateIn accounts _ _).bind fun _ => .done _
    · exact (Prog.leaves_ofExcept _).bind fun _ => .done _
  · refine (Prog.leaves_ofExcept _).bind fun role => ?_
    exact (flushNew_leaves sessions _).bind fun _ => .done _

/-- **A refresh** writes sessions. -/
theorem refreshTransaction_leaves (sessions : refreshSessions.Disjoint other)
    (call : RotateCall) : (refreshTransaction call).Leaves other := by
  unfold refreshTransaction rotateTransaction rotateRefreshSession
  refine Prog.Leaves.bind ?_ fun rotation => ?_
  · refine Prog.Leaves.bind ?_ fun outcome => ?_
    · refine (Prog.leaves_lockFrom _).bind fun models => ?_
      refine (scalarOneOrNone_readOnly _).leaves.bind fun found => ?_
      cases found with
      | none => exact .done _
      | some model =>
          refine (Prog.leaves_ofExcept _).bind fun current => ?_
          split
          · exact .done _
          · exact (revokeFamily_leaves sessions _ _).bind fun _ => .done _
          · exact .done _
          · exact .raise _
    · exact ((flushDirty_leaves sessions _).bind fun _ => flushNew_leaves sessions _).bind
        fun _ => .done _
  · split
    · exact (resolveIdentity_readOnly _).leaves.bind fun _ => .done _
    · exact .done _

/-- **A logout** writes sessions. -/
theorem revokeRefreshFamilyByDigest_leaves (sessions : refreshSessions.Disjoint other)
    (tokenDigest : String) (revokedAt : Instant) :
    (revokeRefreshFamilyByDigest tokenDigest revokedAt).Leaves other := by
  unfold revokeRefreshFamilyByDigest
  refine Prog.Leaves.bind (.select fun _ => .done _) fun models => ?_
  refine (scalarOneOrNone_readOnly _).leaves.bind fun found => ?_
  cases found with
  | none => exact .done _
  | some familyId => exact (revokeFamily_leaves sessions _ _).bind fun _ => .done _

end Leaves

/-! ## Runs -/

/-- A transaction of the service. -/
inductive RegistrationOperation where
  | bootstrap (services : RegistrationServices) (command : BootstrapManagerCommand)
  | register (services : RegistrationServices) (command : RegisterLocalAccountCommand)
  | login (services : LoginServices) (command : AuthenticateLocalAccountCommand)
  | refresh (call : RotateCall)
  | logout (tokenDigest : String) (revokedAt : Instant)

/-- What it returns. -/
inductive RegistrationResponse where
  | bootstrapped (result : BootstrapManagerResult)
  | registered (account : RegisteredAccount)
  | accessed
deriving DecidableEq, Repr

/-- The statements of the transaction. -/
def RegistrationOperation.transaction :
    RegistrationOperation → IdentityProg RegistrationResponse
  | bootstrap services command => do return .bootstrapped (← bootstrapManager services command)
  | register services command => do return .registered (← registerLocalAccount services command)
  | login services command => do
      let _ ← loginTransaction services command
      return .accessed
  | refresh call => do
      let _ ← refreshTransaction call
      return .accessed
  | logout tokenDigest revokedAt => do
      let _ ← revokeRefreshFamilyByDigest tokenDigest revokedAt
      return .accessed

/-- The journal of a run on the tables of the migration. -/
def runRegistrations (operations : List RegistrationOperation) :
    Journal RegistrationOperation IdentityRow PyError RegistrationResponse :=
  (Journal.start seed).run identityConflict RegistrationOperation.transaction operations

/-- The membership that a transaction has been asked to create. -/
structure Registration where
  membershipId : String
  userId : String
  tenantId : String
  role : IdentityRole
deriving DecidableEq, Repr

/-- The membership in memory. -/
def Registration.membership (registration : Registration) : Except PyError TenantMembership :=
  newMembership registration.membershipId registration.userId registration.tenantId
    registration.role

/-- The registration that an entry of the journal has committed. -/
def registrationOf :
    RegistrationOperation × Except PyError RegistrationResponse → Option Registration
  | (.bootstrap _ command, .ok (.bootstrapped ⟨true⟩)) =>
      some ⟨command.membershipId, command.userId, command.tenantId, .manager⟩
  | (.register _ command, .ok (.registered _)) =>
      some ⟨command.membershipId, command.userId, command.tenantId, command.role⟩
  | _ => none

/-- What a transaction does to the roles. -/
structure RolesStep (database : List IdentityRow) (registration : Option Registration)
    (later : List IdentityRow) : Prop where
  provisioned : Provisioned later
  kept : ∀ model role, HasRole database model role → HasRole later model role
  registered : ∀ new ∈ registration, ∃ membership, new.membership = .ok membership ∧
    HasRole later membership.toTenantMembershipModel new.role

section Runs

variable {database : List IdentityRow}

theorem RolesStep.of_sameRoles {later : List IdentityRow} (provisioned : Provisioned database)
    (same : SameRoles database later) : RolesStep database none later where
  provisioned := provisioned.of_sameRoles same
  kept _ _ hasRole := hasRole.of_sameRoles same
  registered _ member := nomatch member

/-- The outcome of a body that creates an account at its end. -/
theorem rolesStep_of_effect (provisioned : Provisioned database) {role : IdentityRole}
    {tenantId userId membershipId : String} {account : RegisteredAccount}
    {later : List IdentityRow}
    (effect : CreateEffect role tenantId userId membershipId database (.ok account, later)) :
    RolesStep database (some ⟨membershipId, userId, tenantId, role⟩) later := by
  cases effect with
  | created built found fresh =>
      obtain ⟨stays, new, kept⟩ := provisioned_created provisioned built found fresh
      refine ⟨stays, kept, fun registration member => ?_⟩
      cases member
      exact ⟨_, built, new⟩

theorem registrationOf_error (operation : RegistrationOperation) (error : PyError) :
    registrationOf (operation, .error error) = none := by
  cases operation <;> rfl

/-- What a transaction does when it commits, it does. -/
theorem rolesStep_return (provisioned : Provisioned database)
    {operation : RegistrationOperation} {A : Type} {body : IdentityProg A}
    {wrap : A → RegistrationResponse}
    (isBody : operation.transaction = body >>= fun result => pure (wrap result))
    (returned : ∀ result later, body.exec identityConflict database = (.ok result, later) →
      RolesStep database (registrationOf (operation, .ok (wrap result))) later) :
    RolesStep database
      (registrationOf (operation,
        (operation.transaction.atomically identityConflict database).1))
      (operation.transaction.atomically identityConflict database).2 := by
  have wrapped := Prog.exec_return identityConflict body wrap database
  rw [← isBody] at wrapped
  rcases ran : body.exec identityConflict database with ⟨error | result, later⟩
  · rw [ran] at wrapped
    rw [Prog.atomically_of_error identityConflict wrapped, registrationOf_error]
    exact .of_sameRoles provisioned (.refl database)
  · rw [ran] at wrapped
    rw [Prog.atomically_of_ok identityConflict wrapped]
    exact returned result later ran

/-- **One transaction.** -/
theorem rolesStep (provisioned : Provisioned database) (operation : RegistrationOperation) :
    RolesStep database
      (registrationOf (operation,
        (operation.transaction.atomically identityConflict database).1))
      (operation.transaction.atomically identityConflict database).2 := by
  cases operation with
  | bootstrap services command =>
      refine rolesStep_return provisioned rfl fun result later ran => ?_
      rcases of_bootstrapManager ran with ⟨rfl, rfl⟩ | ⟨rfl, account, created⟩
      · exact .of_sameRoles provisioned (.refl _)
      · have effect := createAccount_effect services command.username command.password .manager
          command.tenantId command.userId command.membershipId database
        rw [created] at effect
        exact rolesStep_of_effect provisioned effect
  | register services command =>
      refine rolesStep_return provisioned rfl fun account later ran => ?_
      rw [registerLocalAccount, (requireManager_readOnly _ _).exec_bind] at ran
      cases checked : ((requireManager command.actorUserId command.tenantId).exec identityConflict
          database).1 with
      | error error =>
          rw [checked] at ran
          cases ran
      | ok accepted =>
          rw [checked] at ran
          dsimp only at ran
          have effect := createAccount_effect services command.username command.password
            command.role command.tenantId command.userId command.membershipId database
          rw [ran] at effect
          exact rolesStep_of_effect provisioned effect
  | login services command =>
      refine rolesStep_return provisioned rfl fun result later ran => ?_
      have same := SameRoles.of_leaves (fun other accounts sessions =>
        loginTransaction_leaves accounts sessions services command) database
      rw [ran] at same
      exact .of_sameRoles provisioned same
  | refresh call =>
      refine rolesStep_return provisioned rfl fun result later ran => ?_
      have same := SameRoles.of_leaves (fun other _ sessions =>
        refreshTransaction_leaves sessions call) database
      rw [ran] at same
      exact .of_sameRoles provisioned same
  | logout tokenDigest revokedAt =>
      refine rolesStep_return provisioned rfl fun result later ran => ?_
      have same := SameRoles.of_leaves (fun other _ sessions =>
        revokeRefreshFamilyByDigest_leaves sessions tokenDigest revokedAt) database
      rw [ran] at same
      exact .of_sameRoles provisioned same

/-- **Every reachable store.** -/
structure Reachable
    (journal : Journal RegistrationOperation IdentityRow PyError RegistrationResponse) : Prop where
  provisioned : Provisioned journal.rows
  registered : ∀ entry ∈ journal.entries, ∀ new ∈ registrationOf entry,
    ∃ membership, new.membership = .ok membership ∧
      HasRole journal.rows membership.toTenantMembershipModel new.role

theorem reachable_perform
    {journal : Journal RegistrationOperation IdentityRow PyError RegistrationResponse}
    (reachable : Reachable journal) (operation : RegistrationOperation) :
    Reachable (journal.perform identityConflict RegistrationOperation.transaction operation) := by
  have step := rolesStep reachable.provisioned operation
  refine ⟨step.provisioned, fun entry member new isNew => ?_⟩
  rcases List.mem_append.mp member with earlier | last
  · obtain ⟨membership, built, hasRole⟩ := reachable.registered entry earlier new isNew
    exact ⟨membership, built, step.kept _ _ hasRole⟩
  · rw [List.mem_singleton.mp last] at isNew
    exact step.registered new isNew

theorem reachable_run (operations : List RegistrationOperation) :
    Reachable (runRegistrations operations) :=
  Journal.run_induction identityConflict RegistrationOperation.transaction
    ⟨provisioned_seed, List.forall_mem_nil _⟩
    fun _ operation _ reachable => reachable_perform reachable operation

/-- A membership keeps its role in the rest of a run. -/
theorem hasRole_run (operations later : List RegistrationOperation)
    {model : TenantMembershipModel} {role : IdentityRole}
    (hasRole : HasRole (runRegistrations operations).rows model role) :
    HasRole (runRegistrations (operations ++ later)).rows model role := by
  rw [runRegistrations, Journal.run_append]
  refine (Journal.run_induction (motive := fun journal =>
    Provisioned journal.rows ∧ HasRole journal.rows model role) identityConflict
      RegistrationOperation.transaction ⟨(reachable_run operations).provisioned, hasRole⟩ ?_).2
  rintro journal operation - ⟨provisioned, kept⟩
  have step := rolesStep provisioned operation
  exact ⟨step.provisioned, step.kept _ _ kept⟩

/-! ## The law -/

/-- A resolved identity has the grants of a stored membership. -/
theorem membership_of_resolveIdentity {query : ResolveIdentityQuery} {identity : ResolvedIdentity}
    (resolved : ((resolveIdentity query).exec identityConflict database).1 = .ok identity) :
    ∃ membership, ((getMembership query.userId query.tenantId).exec identityConflict database).1 =
        .ok (some membership) ∧ identity.userId = query.userId ∧
      identity.tenantId = query.tenantId ∧ identity.roles = membership.roles ∧
        identity.permissions = membership.permissions := by
  obtain ⟨-, user, tenant, -⟩ := of_resolveIdentity resolved
  obtain ⟨account, -, resolved⟩ :=
    (readOne_readOnly identityAccounts _ _).of_bind_ok identityConflict resolved
  obtain ⟨membership, readMembership, resolved⟩ :=
    (getMembership_readOnly _ _).of_bind_ok identityConflict resolved
  obtain ⟨session, -, resolved⟩ :=
    (readOne_readOnly refreshSessions _ _).of_bind_ok identityConflict resolved
  split at resolved
  · split at resolved
    · cases resolved
      exact ⟨_, readMembership, user, tenant, rfl, rfl⟩
    · cases resolved
  · cases resolved

/-- The membership of checked credentials is stored. -/
theorem membership_of_checkCredentials {services : LoginServices}
    {command : AuthenticateLocalAccountCommand} {account : LocalAccount}
    {membership : TenantMembership} {updatedHash : Option String}
    (checked : ((checkCredentials services command).exec identityConflict database).1 =
      .ok (account, membership, updatedHash)) :
    ((getMembership account.userId command.tenantId).exec identityConflict database).1 =
      .ok (some membership) := by
  obtain ⟨found, -, checked⟩ :=
    (readOne_readOnly identityAccounts _ _).of_bind_ok identityConflict checked
  cases found with
  | none => cases checked
  | some found =>
      dsimp only at checked
      split at checked
      · cases checked
      · obtain ⟨foundMembership, readMembership, checked⟩ :=
          (getMembership_readOnly _ _).of_bind_ok identityConflict checked
        cases foundMembership with
        | none => cases checked
        | some foundMembership =>
            dsimp only at checked
            split at checked
            · cases checked
            · cases checked
              exact readMembership

/-- An authenticated identity has the roles of a stored membership. -/
theorem membership_of_authenticate {services : LoginServices}
    {command : AuthenticateLocalAccountCommand} {identity : AuthenticatedIdentity}
    {session : RefreshSession}
    (authenticated : ((authenticateLocalAccount services command).exec identityConflict
      database).1 = .ok (identity, session)) :
    ∃ userId membership, ((getMembership userId command.tenantId).exec identityConflict
      database).1 = .ok (some membership) ∧ identity.roles = membership.roles := by
  obtain ⟨⟨account, membership, updatedHash⟩, checked, rest⟩ :=
    (checkCredentials_readOnly services command).of_bind_ok identityConflict authenticated
  refine ⟨account.userId, membership, membership_of_checkCredentials checked, ?_⟩
  dsimp only at rest
  rw [Prog.exec_bind] at rest
  rcases updated : (updatePassword account updatedHash).exec identityConflict database with
    ⟨error | _, later⟩
  · rw [updated] at rest
    cases rest
  · rw [updated] at rest
    dsimp only at rest
    cases built : (command.issueCall account.userId membership.tenantId).session with
    | error error =>
        rw [built] at rest
        cases rest
    | ok session' =>
        rw [built] at rest
        cases rest
        rfl

/-- **A membership that is read** has one role and its permissions. -/
theorem role_of_getMembership (provisioned : Provisioned database) {userId tenantId : String}
    {membership : TenantMembership}
    (read : ((getMembership userId tenantId).exec identityConflict database).1 =
      .ok (some membership)) :
    ∃ role, HasRole database membership.toTenantMembershipModel role ∧
      membership.userId = userId ∧ membership.tenantId = tenantId ∧
      membership.roles = {role.value} ∧
      membership.permissions = (permissionsForRole role).image PermissionCode.value := by
  obtain ⟨stored, user, tenant⟩ := of_getMembership read
  obtain ⟨role, hasRole⟩ := provisioned.hasRole _ stored
  obtain ⟨created, -, -, isRole, isPermissions, exec⟩ :=
    getMembership_of_hasRole provisioned hasRole
  rw [user, tenant] at exec
  rw [exec] at read
  cases read
  exact ⟨role, hasRole, user, tenant, isRole, isPermissions⟩

/-- **The gate of the handler** is passed by managers. -/
theorem requireManager_iff (provisioned : Provisioned database) {model : TenantMembershipModel}
    {role : IdentityRole} (hasRole : HasRole database model role) :
    ((requireManager model.userId model.tenantId).exec identityConflict database).1 = .ok () ↔
      role = .manager := by
  obtain ⟨membership, -, sameModel, isRole, -, read⟩ := getMembership_of_hasRole provisioned hasRole
  have active : membership.active = true := by
    rw [TenantMembership.active, sameModel, hasRole.active]
    rfl
  rw [requireManager, Prog.exec_bind, read]
  dsimp only
  rw [active, isRole]
  cases role with
  | manager => exact iff_of_true rfl rfl
  | employee => exact iff_of_false (fun same => by cases same) fun same => by cases same

/-- A membership of one role is that of a single role. -/
theorem singleIdentityRole_singleton (role : IdentityRole) :
    singleIdentityRole {role.value} = .ok role := by
  cases role <;> decide

end Runs

end BidSystem.Identity
