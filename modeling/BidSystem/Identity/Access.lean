import BidSystem.Identity.Effects

/-!
# Login, refresh and identity resolution

The application handlers of the identity module and the refresh route, as
transactions: `AuthenticateLocalAccountHandler`, `ResolveIdentityHandler` and
the refresh route that calls the latter on its own flushed rotation.

* `resolveIdentity_ok_iff` — on a valid store an identity resolves exactly when
  its account, its membership and its session are all there and usable.
* `loginTransaction_effect`, `refreshTransaction_effect` — what the two minting
  transactions return and leave behind.
-/

namespace BidSystem.Identity

open ReadCommitted

/-! ## Resolving an identity -/

/-- `ResolveIdentityQuery`. -/
structure ResolveIdentityQuery where
  userId : String
  tenantId : String
  sessionId : String
  resolvedAt : Instant
deriving DecidableEq, Repr

/-- `ResolvedIdentity`. -/
structure ResolvedIdentity where
  userId : String
  tenantId : String
  sessionId : String
  roles : Finset String
  permissions : Finset String
deriving DecidableEq

/-- `ResolveIdentityHandler.handle`. -/
def resolveIdentity (query : ResolveIdentityQuery) : IdentityProg ResolvedIdentity := do
  let account ← getAccount query.userId
  let membership ← getMembership query.userId query.tenantId
  let session ← getSession query.sessionId
  match account, membership, session with
  | some account, some membership, some session =>
      if account.canAuthenticate && membership.active && session.userId == query.userId &&
          session.tenantId == query.tenantId && session.isActive query.resolvedAt then
        return { userId := account.userId
                 tenantId := membership.tenantId
                 sessionId := session.sessionId
                 roles := membership.roles
                 permissions := membership.permissions }
      else Prog.raise .authenticationError
  | _, _, _ => Prog.raise .authenticationError

/-! ## The login transaction -/

/-- `PasswordCheckResult`. -/
structure PasswordCheckResult where
  valid : Bool
  updatedHash : Option String
deriving DecidableEq, Repr

/-- `AuthenticateLocalAccountCommand`. -/
structure AuthenticateLocalAccountCommand where
  loginIdentifier : String
  password : String
  tenantId : String
  sessionId : String
  familyId : String
  refreshTokenDigest : String
  authenticatedAt : Instant
  idleTtl : Duration
  absoluteTtl : Duration
deriving DecidableEq, Repr

/-- `AuthenticatedIdentity`. -/
structure AuthenticatedIdentity where
  userId : String
  tenantId : String
  sessionId : String
  roles : Finset String
  permissions : Finset String
deriving DecidableEq

/-- What the login handler is given: the `PasswordVerifier` port and
`str.casefold`, any functions. -/
structure LoginServices where
  verify : String → Option String → PasswordCheckResult
  casefold : String → String

/-- The arguments with which the handler issues a session. -/
def AuthenticateLocalAccountCommand.issueCall (command : AuthenticateLocalAccountCommand)
    (userId tenantId : String) : IssueCall where
  sessionId := command.sessionId
  familyId := command.familyId
  userId := userId
  tenantId := tenantId
  tokenDigest := command.refreshTokenDigest
  issuedAt := command.authenticatedAt
  idleTtl := command.idleTtl
  absoluteTtl := command.absoluteTtl

/-- The reads and checks of the handler. -/
def checkCredentials (services : LoginServices) (command : AuthenticateLocalAccountCommand) :
    IdentityProg (LocalAccount × TenantMembership × Option String) := do
  let normalizedLogin := services.casefold (strip command.loginIdentifier)
  let account ← getAccountByLogin normalizedLogin
  let passwordCheck := services.verify command.password (account.map fun found => found.passwordHash)
  match account with
  | none => Prog.raise .authenticationError
  | some account =>
      if !account.canAuthenticate || !passwordCheck.valid then Prog.raise .authenticationError
      else do
        match ← getMembership account.userId command.tenantId with
        | none => Prog.raise .authenticationError
        | some membership =>
            if !membership.active then Prog.raise .authenticationError
            else return (account, membership, passwordCheck.updatedHash)

/-- The password update of the handler. -/
def updatePassword (account : LocalAccount) : Option String → IdentityProg Unit
  | none => return ()
  | some updatedHash => do
      let account ← Prog.ofExcept (account.replacePassword updatedHash)
      updatePasswordHash account

/-- `AuthenticateLocalAccountHandler.handle`, with the session it leaves in the
unit of work. -/
def authenticateLocalAccount (services : LoginServices)
    (command : AuthenticateLocalAccountCommand) :
    IdentityProg (AuthenticatedIdentity × RefreshSession) := do
  let (account, membership, updatedHash) ← checkCredentials services command
  updatePassword account updatedHash
  let refreshSession ← Prog.ofExcept
    (command.issueCall account.userId membership.tenantId).session
  return ({ userId := account.userId
            tenantId := membership.tenantId
            sessionId := refreshSession.sessionId
            roles := membership.roles
            permissions := membership.permissions }, refreshSession)

/-- `IdentityRole`. -/
inductive IdentityRole where
  | manager
  | employee
deriving DecidableEq, Repr

/-- `IdentityRole.value`. -/
def IdentityRole.value : IdentityRole → String
  | manager => "manager"
  | employee => "employee"

/-- `_single_identity_role`. -/
def singleIdentityRole (values : Finset String) : Except PyError IdentityRole :=
  match [IdentityRole.manager, IdentityRole.employee].filter fun role => role.value ∈ values with
  | [role] => .ok role
  | _ => .error .authenticationError

/-- The login route's transaction: the handler, the route's role check, and
the flush that the commit implies. -/
def loginTransaction (services : LoginServices) (command : AuthenticateLocalAccountCommand) :
    IdentityProg (AuthenticatedIdentity × IdentityRole) := do
  let (identity, refreshSession) ← authenticateLocalAccount services command
  let role ← Prog.ofExcept (singleIdentityRole identity.roles)
  flushNew [refreshSession.toRefreshSessionModel]
  return (identity, role)

/-! ## The refresh transaction -/

/-- The refresh route's transaction: only a rotation goes on to a flush and to
the resolution of the new session's identity. -/
def refreshTransaction (call : RotateCall) :
    IdentityProg (RefreshRotationResult × Option ResolvedIdentity) := do
  let rotation ← rotateTransaction call
  match rotation with
  | ⟨.rotated, some session⟩ => do
      let identity ← resolveIdentity {
        userId := session.userId
        tenantId := session.tenantId
        sessionId := session.sessionId
        resolvedAt := call.rotatedAt }
      return (rotation, some identity)
  | _ => return (rotation, none)

/-! ## Reading -/

theorem scalarOneOrNone_readOnly {α : Type} (rows : List α) :
    (scalarOneOrNone rows : IdentityProg (Option α)).ReadOnly := by
  unfold scalarOneOrNone
  split
  · exact .done _
  · exact .done _
  · exact .raise _

theorem ofExcept_readOnly {α : Type} (outcome : Except PyError α) :
    (Prog.ofExcept outcome : IdentityProg α).ReadOnly := by
  cases outcome with
  | ok result => exact .done _
  | error error => exact .raise _

section Reading

variable {α β : Type} {table : Relation IdentityRow α} {filter : α → Bool}
  {build : α → Except PyError β} {database : List IdentityRow}

theorem readOne_readOnly (table : Relation IdentityRow α) (filter : α → Bool)
    (build : α → Except PyError β) : (readOne table filter build).ReadOnly := by
  refine .select fun stored => ?_
  refine (scalarOneOrNone_readOnly _).bind fun found => ?_
  cases found with
  | none => exact .done _
  | some model => exact (ofExcept_readOnly _).bind fun _ => .done _

/-- An object that was read was built from a row that matches. -/
theorem of_readOne {found : β}
    (read : ((readOne table filter build).exec identityConflict database).1 = .ok (some found)) :
    ∃ model ∈ table.rows database, filter model = true ∧ build model = .ok found := by
  rw [readOne, Prog.exec_selectFrom_bind] at read
  rcases matching : (table.rows database).filter filter with _ | ⟨model, _ | ⟨second, rest⟩⟩
  · rw [matching] at read
    cases read
  · rw [matching] at read
    have member : model ∈ (table.rows database).filter filter := by simp [matching]
    obtain ⟨stored, accepted⟩ := List.mem_filter.mp member
    refine ⟨model, stored, accepted, ?_⟩
    cases built : build model with
    | error error =>
        rw [scalarOneOrNone, Prog.bind_done] at read
        dsimp only at read
        rw [built] at read
        cases read
    | ok object =>
        rw [scalarOneOrNone, Prog.bind_done] at read
        dsimp only at read
        rw [built] at read
        cases read
        rfl
  · rw [matching] at read
    cases read

/-- The only row that matches is read. -/
theorem readOne_of_filter {model : α} {found : β}
    (only : (table.rows database).filter filter = [model]) (built : build model = .ok found) :
    (readOne table filter build).exec identityConflict database = (.ok (some found), database) := by
  rw [readOne, Prog.exec_selectFrom_bind, only, scalarOneOrNone, Prog.bind_done]
  dsimp only
  rw [built]
  rfl

end Reading

theorem getMembership_readOnly (userId tenantId : String) :
    (getMembership userId tenantId).ReadOnly := by
  refine .select fun stored => ?_
  refine (scalarOneOrNone_readOnly _).bind fun found => ?_
  cases found with
  | none => exact .done _
  | some model =>
      refine .select fun rolesResult => .select fun permissionsResult => ?_
      exact (ofExcept_readOnly _).bind fun _ => .done _

theorem resolveIdentity_readOnly (query : ResolveIdentityQuery) :
    (resolveIdentity query).ReadOnly := by
  refine (readOne_readOnly _ _ _).bind fun account =>
    (getMembership_readOnly _ _).bind fun membership => (readOne_readOnly _ _ _).bind fun session => ?_
  split
  · split
    · exact .done _
    · exact .raise _
  · exact .raise _

theorem checkCredentials_readOnly (services : LoginServices)
    (command : AuthenticateLocalAccountCommand) :
    (checkCredentials services command).ReadOnly := by
  refine (readOne_readOnly _ _ _).bind fun account => ?_
  cases account with
  | none => exact .raise _
  | some account =>
      dsimp only
      split
      · exact .raise _
      · refine (getMembership_readOnly _ _).bind fun membership => ?_
        cases membership with
        | none => exact .raise _
        | some membership =>
            dsimp only
            split
            · exact .raise _
            · exact .done _

/-! ## Valid stores -/

/-- What the constraints of the schema and the constructors behind its rows
guarantee for the account, membership, role and permission tables. -/
structure ValidStore (database : List IdentityRow) : Prop where
  userIds : ((identityAccounts.rows database).map IdentityAccountModel.userId).Nodup
  account : ∀ model ∈ identityAccounts.rows database, ∃ account, LocalAccount.ofModel model =
    .ok account
  memberships : ((tenantMemberships.rows database).map fun model =>
    (model.userId, model.tenantId)).Nodup
  membership : ∀ model ∈ tenantMemberships.rows database,
    [model.membershipId, model.userId, model.tenantId].any blank = false
  roleCodes : ∀ role ∈ roles.rows database, blank role.roleCode = false
  permissionCodes : ∀ permissionCode ∈ permissions.rows database, blank permissionCode = false

/-- Validity only reads tables other than the session table. -/
theorem ValidStore.of_rows_eq {database later : List IdentityRow} (valid : ValidStore database)
    (accounts : identityAccounts.rows later = identityAccounts.rows database)
    (memberships : tenantMemberships.rows later = tenantMemberships.rows database)
    (sameRoles : roles.rows later = roles.rows database)
    (samePermissions : permissions.rows later = permissions.rows database) :
    ValidStore later where
  userIds := accounts ▸ valid.userIds
  account := accounts ▸ valid.account
  memberships := memberships ▸ valid.memberships
  membership := memberships ▸ valid.membership
  roleCodes := sameRoles ▸ valid.roleCodes
  permissionCodes := samePermissions ▸ valid.permissionCodes

/-- Session events keep a store valid. -/
theorem ValidStore.store {database : List IdentityRow} (valid : ValidStore database)
    (event : SessionEvent) : ValidStore (event.store database) :=
  valid.of_rows_eq (event.rows_store_of_disjoint (fun _ => rfl) database)
    (event.rows_store_of_disjoint (fun _ => rfl) database)
    (event.rows_store_of_disjoint (fun _ => rfl) database)
    (event.rows_store_of_disjoint (fun _ => rfl) database)

theorem mem_roleCodes {membershipId tenantId code : String} {database : List IdentityRow}
    (member : code ∈ roleCodes membershipId tenantId database) :
    ∃ role ∈ roles.rows database, role.roleCode = code := by
  obtain ⟨role, stored, links⟩ := List.mem_flatMap.mp member
  obtain ⟨link, _, same⟩ := List.mem_map.mp links
  exact ⟨role, stored, same⟩

theorem mem_permissionCodes {membershipId tenantId code : String} {database : List IdentityRow}
    (member : code ∈ permissionCodes membershipId tenantId database) :
    code ∈ permissions.rows database := by
  obtain ⟨permission, stored, grants⟩ := List.mem_flatMap.mp member
  obtain ⟨grant, _, links⟩ := List.mem_flatMap.mp grants
  obtain ⟨link, _, found⟩ := List.mem_flatMap.mp links
  obtain ⟨role, _, same⟩ := List.mem_map.mp found
  rwa [← same]

section GetMembership

variable {database : List IdentityRow} {userId tenantId : String}

/-- What `get_membership` does once it has found the row. -/
theorem exec_getMembership (model : TenantMembershipModel)
    (only : (tenantMemberships.rows database).filter
      (fun model => model.userId == userId && model.tenantId == tenantId) = [model]) :
    (getMembership userId tenantId).exec identityConflict database =
      match TenantMembership.ofModel model
        (roleCodes model.membershipId model.tenantId database).toFinset
        (permissionCodes model.membershipId model.tenantId database).toFinset with
      | .ok membership => (.ok (some membership), database)
      | .error error => (.error error, database) := by
  have all : database.filter (fun _ => true) = database := by simp
  rw [getMembership, Prog.exec_selectFrom_bind, only, scalarOneOrNone, Prog.bind_done]
  dsimp only
  rw [Prog.selectRows, Prog.bind_select, Prog.exec_select, all, Prog.bind_done, Prog.bind_select,
    Prog.exec_select, all, Prog.bind_done]
  cases TenantMembership.ofModel model
      (roleCodes model.membershipId model.tenantId database).toFinset
      (permissionCodes model.membershipId model.tenantId database).toFinset with
  | ok membership => rfl
  | error error => rfl

/-- A membership that was read is stored, for the user and the tenant asked for. -/
theorem of_getMembership {membership : TenantMembership}
    (read : ((getMembership userId tenantId).exec identityConflict database).1 =
      .ok (some membership)) :
    membership.toTenantMembershipModel ∈ tenantMemberships.rows database ∧
      membership.userId = userId ∧ membership.tenantId = tenantId := by
  rcases matching : (tenantMemberships.rows database).filter
    (fun model => model.userId == userId && model.tenantId == tenantId) with
    _ | ⟨model, _ | ⟨second, rest⟩⟩
  · rw [getMembership, Prog.exec_selectFrom_bind, matching] at read
    cases read
  · have member : model ∈ (tenantMemberships.rows database).filter
        (fun model => model.userId == userId && model.tenantId == tenantId) := by simp [matching]
    obtain ⟨stored, accepted⟩ := List.mem_filter.mp member
    rw [exec_getMembership model matching] at read
    cases built : TenantMembership.ofModel model
        (roleCodes model.membershipId model.tenantId database).toFinset
        (permissionCodes model.membershipId model.tenantId database).toFinset with
    | error error =>
        rw [built] at read
        cases read
    | ok found =>
        rw [built] at read
        cases read
        have same := TenantMembership.toModel_of_ofModel built
        simp only [Bool.and_eq_true, beq_iff_eq] at accepted
        rw [same]
        exact ⟨stored, accepted⟩
  · rw [getMembership, Prog.exec_selectFrom_bind, matching] at read
    cases read

/-- On a valid store, a stored membership is read. -/
theorem getMembership_of_mem (valid : ValidStore database) {model : TenantMembershipModel}
    (member : model ∈ tenantMemberships.rows database) :
    ∃ membership : TenantMembership, membership.toTenantMembershipModel = model ∧
      (getMembership model.userId model.tenantId).exec identityConflict database =
        (.ok (some membership), database) := by
  have only : (tenantMemberships.rows database).filter
      (fun other => other.userId == model.userId && other.tenantId == model.tenantId) =
        [model] := by
    have sameFilter : (fun other : TenantMembershipModel =>
        other.userId == model.userId && other.tenantId == model.tenantId) =
          fun other => (other.userId, other.tenantId) == (model.userId, model.tenantId) := rfl
    rw [sameFilter]
    rcases filter_eq_of_nodup valid.memberships (model.userId, model.tenantId) with
      ⟨absent, _⟩ | ⟨row, stored, same, only⟩
    · exact absurd rfl (absent model member)
    · rw [only, List.inj_on_of_nodup_map valid.memberships stored member same]
  have codes : ∀ code ∈ (roleCodes model.membershipId model.tenantId database).toFinset ∪
      (permissionCodes model.membershipId model.tenantId database).toFinset,
        blank code = false := by
    intro code member
    rcases Finset.mem_union.mp member with role | permission
    · obtain ⟨row, stored, same⟩ := mem_roleCodes (List.mem_toFinset.mp role)
      rw [← same]
      exact valid.roleCodes row stored
    · exact valid.permissionCodes code (mem_permissionCodes (List.mem_toFinset.mp permission))
  have identifiers := valid.membership model member
  refine ⟨⟨model, _, _, identifiers, codes⟩, rfl, ?_⟩
  rw [exec_getMembership model only, TenantMembership.ofModel, dif_pos identifiers, dif_pos codes]

end GetMembership

/-! ## When an identity resolves -/

section Resolve

variable {database : List IdentityRow}

/-- On a valid store, a stored account is read. -/
theorem getAccount_of_mem (valid : ValidStore database) {model : IdentityAccountModel}
    (member : model ∈ identityAccounts.rows database) :
    ∃ account : LocalAccount, account.toIdentityAccountModel = model ∧
      (getAccount model.userId).exec identityConflict database =
        (.ok (some account), database) := by
  obtain ⟨account, built⟩ := valid.account model member
  refine ⟨account, LocalAccount.toModel_of_ofModel built, readOne_of_filter ?_ built⟩
  rcases filter_eq_of_nodup valid.userIds model.userId with ⟨absent, _⟩ | ⟨row, stored, same, only⟩
  · exact absurd rfl (absent model member)
  · rw [only, List.inj_on_of_nodup_map valid.userIds stored member same]

/-- A stored session is read when session ids are unique and its fields valid. -/
theorem getSession_of_mem (unique : UniqueSessions (refreshSessions.rows database))
    {model : RefreshSessionModel} (member : model ∈ refreshSessions.rows database)
    (valid : model.Valid) :
    ∃ session : RefreshSession, session.toRefreshSessionModel = model ∧
      (getSession model.sessionId).exec identityConflict database =
        (.ok (some session), database) := by
  obtain ⟨session, built, same⟩ := RefreshSession.ofModel_of_valid valid
  refine ⟨session, same, readOne_of_filter ?_ built⟩
  rcases filter_eq_of_nodup unique.ids model.sessionId with ⟨absent, _⟩ | ⟨row, stored, sameId, only⟩
  · exact absurd rfl (absent model member)
  · rw [only, List.inj_on_of_nodup_map unique.ids stored member sameId]

/-- The rows a resolved identity rests on. -/
structure Resolvable (database : List IdentityRow) (query : ResolveIdentityQuery) : Prop where
  account : ∃ account ∈ identityAccounts.rows database,
    account.userId = query.userId ∧ account.status = .active
  membership : ∃ membership ∈ tenantMemberships.rows database,
    membership.userId = query.userId ∧ membership.tenantId = query.tenantId ∧
      membership.status = .active
  session : ∃ session ∈ refreshSessions.rows database, session.sessionId = query.sessionId ∧
    session.userId = query.userId ∧ session.tenantId = query.tenantId ∧
      session.isActive query.resolvedAt = true

/-- A resolved identity is the one asked for, and its rows are there. -/
theorem of_resolveIdentity {query : ResolveIdentityQuery} {identity : ResolvedIdentity}
    (resolved : ((resolveIdentity query).exec identityConflict database).1 = .ok identity) :
    Resolvable database query ∧ identity.userId = query.userId ∧
      identity.tenantId = query.tenantId ∧ identity.sessionId = query.sessionId := by
  obtain ⟨account, readAccount, resolved⟩ :=
    (readOne_readOnly identityAccounts _ _).of_bind_ok identityConflict resolved
  obtain ⟨membership, readMembership, resolved⟩ :=
    (getMembership_readOnly _ _).of_bind_ok identityConflict resolved
  obtain ⟨session, readSession, resolved⟩ :=
    (readOne_readOnly refreshSessions _ _).of_bind_ok identityConflict resolved
  split at resolved
  · next account membership session =>
      split at resolved
      · next usable =>
          cases resolved
          simp only [Bool.and_eq_true, beq_iff_eq] at usable
          obtain ⟨⟨⟨⟨authenticates, active⟩, user⟩, tenant⟩, isActive⟩ := usable
          obtain ⟨accountRow, accountStored, accountMatches, accountBuilt⟩ :=
            of_readOne readAccount
          obtain ⟨membershipStored, membershipUser, membershipTenant⟩ :=
            of_getMembership readMembership
          obtain ⟨sessionRow, sessionStored, sessionMatches, sessionBuilt⟩ :=
            of_readOne readSession
          rw [← LocalAccount.toModel_of_ofModel accountBuilt] at accountStored accountMatches
          rw [← RefreshSession.toModel_of_ofModel sessionBuilt] at sessionStored sessionMatches
          refine ⟨⟨⟨_, accountStored, beq_iff_eq.mp accountMatches, ?_⟩,
            ⟨_, membershipStored, membershipUser, membershipTenant, ?_⟩,
            ⟨_, sessionStored, beq_iff_eq.mp sessionMatches, user, tenant, isActive⟩⟩,
            beq_iff_eq.mp accountMatches, membershipTenant, beq_iff_eq.mp sessionMatches⟩
          · simpa [LocalAccount.canAuthenticate] using authenticates
          · simpa [TenantMembership.active] using active
      · cases resolved
  · cases resolved

/-- **An identity resolves exactly when its rows are there.** -/
theorem resolveIdentity_ok_iff (valid : ValidStore database)
    (unique : UniqueSessions (refreshSessions.rows database))
    (sessionsValid : ∀ session ∈ refreshSessions.rows database, session.Valid)
    (query : ResolveIdentityQuery) :
    (∃ identity, ((resolveIdentity query).exec identityConflict database).1 = .ok identity) ↔
      Resolvable database query := by
  constructor
  · rintro ⟨identity, resolved⟩
    exact (of_resolveIdentity resolved).1
  · rintro ⟨⟨accountRow, accountStored, accountUser, accountActive⟩,
      ⟨membershipRow, membershipStored, membershipUser, membershipTenant, membershipActive⟩,
      ⟨sessionRow, sessionStored, sessionId, sessionUser, sessionTenant, isActive⟩⟩
    obtain ⟨account, sameAccount, readAccount⟩ := getAccount_of_mem valid accountStored
    obtain ⟨membership, sameMembership, readMembership⟩ :=
      getMembership_of_mem valid membershipStored
    obtain ⟨session, sameSession, readSession⟩ :=
      getSession_of_mem unique sessionStored (sessionsValid sessionRow sessionStored)
    rw [accountUser] at readAccount
    rw [membershipUser, membershipTenant] at readMembership
    rw [sessionId] at readSession
    rw [← sameSession] at sessionUser sessionTenant isActive
    have usable : (account.canAuthenticate && membership.active &&
        session.userId == query.userId && session.tenantId == query.tenantId &&
          session.isActive query.resolvedAt) = true := by
      simp only [Bool.and_eq_true, beq_iff_eq]
      refine ⟨⟨⟨⟨?_, ?_⟩, sessionUser⟩, sessionTenant⟩, isActive⟩
      · rw [LocalAccount.canAuthenticate, sameAccount, accountActive]
        rfl
      · rw [TenantMembership.active, sameMembership, membershipActive]
        rfl
    refine ⟨{ userId := account.userId
              tenantId := membership.tenantId
              sessionId := session.sessionId
              roles := membership.roles
              permissions := membership.permissions }, ?_⟩
    rw [resolveIdentity, Prog.exec_bind, readAccount]
    dsimp only
    rw [Prog.exec_bind, readMembership]
    dsimp only
    rw [Prog.exec_bind, readSession]
    dsimp only
    rw [if_pos usable]
    rfl

end Resolve

/-! ## The effect of a login -/

/-- What changes to accounts leave in place. -/
structure KeepsSessions (database later : List IdentityRow) : Prop where
  sessions : refreshSessions.rows later = refreshSessions.rows database
  valid : ValidStore database → ValidStore later

theorem KeepsSessions.refl (database : List IdentityRow) : KeepsSessions database database :=
  ⟨rfl, id⟩

section Login

variable {database : List IdentityRow}

/-- Writing an account's new password to its row. -/
theorem keepsSessions_updatePasswordHash {account changed : LocalAccount}
    (member : account.toIdentityAccountModel ∈ identityAccounts.rows database)
    (same : changed.toIdentityAccountModel = { account.toIdentityAccountModel with
      passwordHash := changed.passwordHash, passwordVersion := changed.passwordVersion }) :
    KeepsSessions database (database.map (identityAccounts.set fun stored =>
      if stored.userId == changed.userId then { stored with
        passwordHash := changed.passwordHash, passwordVersion := changed.passwordVersion }
      else stored)) := by
  set write : IdentityAccountModel → IdentityAccountModel := fun stored =>
    if stored.userId == changed.userId then { stored with
      passwordHash := changed.passwordHash, passwordVersion := changed.passwordVersion }
    else stored with write_eq
  have keepsUser : ∀ stored, (write stored).userId = stored.userId := by
    intro stored
    rw [write_eq]
    dsimp only
    split <;> rfl
  have rows := identityAccounts.rows_map_set write database
  refine ⟨Relation.rows_map_set_of_disjoint (fun _ => rfl) write database, fun valid => ?_⟩
  refine {
    userIds := ?_
    account := ?_
    memberships := ?_
    membership := ?_
    roleCodes := ?_
    permissionCodes := ?_ }
  · rw [rows, List.map_map]
    have sameIds : (IdentityAccountModel.userId ∘ write) = IdentityAccountModel.userId :=
      funext keepsUser
    rw [sameIds]
    exact valid.userIds
  · rw [rows]
    intro model written
    obtain ⟨stored, storedMember, isWritten⟩ := List.mem_map.mp written
    by_cases sameUser : stored.userId = changed.userId
    · have userId : changed.userId = account.userId :=
        (congrArg IdentityAccountModel.userId same :)
      have isAccount : stored = account.toIdentityAccountModel :=
        List.inj_on_of_nodup_map valid.userIds storedMember member (sameUser.trans userId)
      refine ⟨changed, ?_⟩
      have isChanged : model = changed.toIdentityAccountModel := by
        rw [same, ← isWritten, write_eq]
        dsimp only
        rw [if_pos (beq_iff_eq.mpr sameUser), isAccount]
      rw [isChanged, LocalAccount.ofModel_toModel]
    · have untouched : write stored = stored := by
        rw [write_eq]
        dsimp only
        rw [if_neg (by simpa using sameUser)]
      rw [← isWritten, untouched]
      exact valid.account stored storedMember
  · rw [Relation.rows_map_set_of_disjoint (fun _ => rfl) write database]
    exact valid.memberships
  · rw [Relation.rows_map_set_of_disjoint (fun _ => rfl) write database]
    exact valid.membership
  · rw [Relation.rows_map_set_of_disjoint (fun _ => rfl) write database]
    exact valid.roleCodes
  · rw [Relation.rows_map_set_of_disjoint (fun _ => rfl) write database]
    exact valid.permissionCodes

/-- The password update of a login touches the account table only. -/
theorem updatePassword_effect {account : LocalAccount}
    (member : account.toIdentityAccountModel ∈ identityAccounts.rows database)
    (updatedHash : Option String) :
    (∃ error, (updatePassword account updatedHash).exec identityConflict database =
        (.error error, database)) ∨
      ∃ later, (updatePassword account updatedHash).exec identityConflict database =
        (.ok (), later) ∧ KeepsSessions database later := by
  cases updatedHash with
  | none => exact .inr ⟨database, rfl, .refl database⟩
  | some passwordHash =>
      rw [updatePassword]
      cases replaced : account.replacePassword passwordHash with
      | error error => exact .inl ⟨error, rfl⟩
      | ok changed =>
          have same := LocalAccount.toModel_of_ofModel replaced
          rw [Prog.bind_ofExcept_ok, updatePasswordHash, Prog.exec_updateIn_bind]
          refine .inr ⟨_, rfl, keepsSessions_updatePasswordHash member ?_⟩
          rw [same]

/-- The account of checked credentials is stored. -/
theorem of_checkCredentials {services : LoginServices}
    {command : AuthenticateLocalAccountCommand} {account : LocalAccount}
    {membership : TenantMembership} {updatedHash : Option String}
    (checked : ((checkCredentials services command).exec identityConflict database).1 =
      .ok (account, membership, updatedHash)) :
    account.toIdentityAccountModel ∈ identityAccounts.rows database := by
  obtain ⟨found, readAccount, checked⟩ :=
    (readOne_readOnly identityAccounts _ _).of_bind_ok identityConflict checked
  cases found with
  | none => cases checked
  | some found =>
      dsimp only at checked
      split at checked
      · cases checked
      · obtain ⟨foundMembership, _, checked⟩ :=
          (getMembership_readOnly _ _).of_bind_ok identityConflict checked
        cases foundMembership with
        | none => cases checked
        | some foundMembership =>
            dsimp only at checked
            split at checked
            · cases checked
            · cases checked
              obtain ⟨model, stored, _, built⟩ := of_readOne readAccount
              rwa [LocalAccount.toModel_of_ofModel built]

/-- What a login returns and leaves behind. -/
inductive LoginEffect (command : AuthenticateLocalAccountCommand) (database : List IdentityRow) :
    Except PyError (AuthenticatedIdentity × IdentityRole) × List IdentityRow → Prop
  | authenticated {identity : AuthenticatedIdentity} {role : IdentityRole}
      {session : RefreshSession} {later : List IdentityRow} (keeps : KeepsSessions database later)
      (built : (command.issueCall identity.userId identity.tenantId).session = .ok session)
      (named : identity.sessionId = session.sessionId)
      (mintable : SessionEvent.Mintable session.toRefreshSessionModel
        (refreshSessions.rows database)) :
      LoginEffect command database
        (.ok (identity, role), (SessionEvent.issued session.toRefreshSessionModel).store later)
  | failed (error : PyError) (later : List IdentityRow) :
      LoginEffect command database (.error error, later)

/-- **The effect of a login.** -/
theorem loginTransaction_effect (services : LoginServices)
    (command : AuthenticateLocalAccountCommand) (database : List IdentityRow) :
    LoginEffect command database
      ((loginTransaction services command).exec identityConflict database) := by
  rw [loginTransaction, authenticateLocalAccount, Prog.bind_assoc,
    (checkCredentials_readOnly services command).exec_bind]
  cases checked : ((checkCredentials services command).exec identityConflict database).1 with
  | error error => exact .failed error database
  | ok credentials =>
      obtain ⟨account, membership, updatedHash⟩ := credentials
      dsimp only
      rw [Prog.bind_assoc, Prog.exec_bind]
      rcases updatePassword_effect (of_checkCredentials checked) updatedHash with
        ⟨error, failed⟩ | ⟨later, updated, keeps⟩
      · rw [failed]
        exact .failed error database
      · rw [updated]
        dsimp only
        cases built : (command.issueCall account.userId membership.tenantId).session with
        | error error => exact .failed error later
        | ok session =>
            rw [Prog.bind_ofExcept_ok, Prog.pure_eq, Prog.bind_done]
            dsimp only
            cases role : singleIdentityRole membership.roles with
            | error error => exact .failed error later
            | ok role =>
                rw [Prog.bind_ofExcept_ok, exec_flushNew]
                cases violation : Prog.violated identityConflict later
                    (refreshSessions.make session.toRefreshSessionModel) with
                | some constraint => exact .failed _ _
                | none =>
                    have fresh := violated_refreshSession_eq_none.mp violation
                    rw [keeps.sessions] at fresh
                    have unused : session.toRefreshSessionModel.minted =
                        session.toRefreshSessionModel := by
                      rw [(RefreshSession.issue_ok built).2.2]
                      rfl
                    rw [← SessionEvent.store_issued]
                    exact .authenticated keeps built rfl ⟨unused, session.valid, fresh⟩

end Login

/-! ## The effect of a refresh -/

/-- What a refresh returns and leaves behind. -/
inductive RefreshEffect (call : RotateCall) (database : List IdentityRow) :
    Except PyError (RefreshRotationResult × Option ResolvedIdentity) × List IdentityRow → Prop
  | rotated {presented : RefreshSessionModel} {replacement : RefreshSession}
      {identity : ResolvedIdentity} (member : presented ∈ refreshSessions.rows database)
      (digest : presented.tokenDigest = call.presentedDigest)
      (unconsumed : presented.consumedAt = none) (unrevoked : presented.revokedAt = none)
      (fields : replacement.toRefreshSessionModel = call.replacement presented)
      (mintable : SessionEvent.Mintable replacement.toRefreshSessionModel
        (refreshSessions.rows database))
      (userId : identity.userId = presented.userId)
      (tenantId : identity.tenantId = presented.tenantId)
      (sessionId : identity.sessionId = call.replacementSessionId) :
      RefreshEffect call database (.ok (⟨.rotated, some replacement⟩, some identity),
        (SessionEvent.rotated presented replacement.toRefreshSessionModel).store database)
  | replayed {presented : RefreshSessionModel}
      (member : presented ∈ refreshSessions.rows database)
      (digest : presented.tokenDigest = call.presentedDigest) :
      RefreshEffect call database (.ok (⟨.replayRevoked, none⟩, none),
        (SessionEvent.revoked presented call.rotatedAt).store database)
  | invalid : RefreshEffect call database (.ok (⟨.invalid, none⟩, none), database)
  | failed (error : PyError) (later : List IdentityRow) :
      RefreshEffect call database (.error error, later)

/-- **The effect of the refresh route.** -/
theorem refreshTransaction_effect (call : RotateCall) {database : List IdentityRow}
    (unique : UniqueSessions (refreshSessions.rows database)) :
    RefreshEffect call database ((refreshTransaction call).exec identityConflict database) := by
  have effect := rotateTransaction_effect call unique
  rw [refreshTransaction, Prog.exec_bind]
  generalize (rotateTransaction call).exec identityConflict database = outcome at effect
  cases effect with
  | @rotated presented replacement member digest unconsumed unrevoked inTime fields mintable =>
      dsimp only
      rw [(resolveIdentity_readOnly _).exec_bind]
      cases resolved : ((resolveIdentity {
          userId := replacement.userId
          tenantId := replacement.tenantId
          sessionId := replacement.sessionId
          resolvedAt := call.rotatedAt }).exec identityConflict
            ((SessionEvent.rotated presented replacement.toRefreshSessionModel).store
              database)).1 with
      | error error => exact .failed error _
      | ok identity =>
          obtain ⟨_, userId, tenantId, sessionId⟩ := of_resolveIdentity resolved
          refine .rotated member digest unconsumed unrevoked fields mintable ?_ ?_ ?_
          · rw [userId, fields]
            rfl
          · rw [tenantId, fields]
            rfl
          · rw [sessionId, fields]
            rfl
  | replayed member digest consumed => exact .replayed member digest
  | invalid unconsumed => exact .invalid
  | failed error database' => exact .failed error database'

end BidSystem.Identity
