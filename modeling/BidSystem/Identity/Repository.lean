import BidSystem.Identity.Store
import BidSystem.Shared.Sqlalchemy
import Mathlib.Data.Finset.Dedup

/-!
# The identity repository

`SqlAlchemyIdentityReader` statement by statement, as programs over the
identity tables.  The session factory switches autoflush off, so what the ORM
has changed or added (`UnitOfWork`) reaches the database only at a flush: the
`UPDATE`s of a mapper first, then its `INSERT`s.
-/

namespace BidSystem.Identity

open ReadCommitted

/-- A transaction body on the identity tables. -/
abbrev IdentityProg := Prog IdentityRow String PyError

/-! ## The unit of work -/

/-- ORM changes to refresh sessions that have not been flushed. -/
structure UnitOfWork where
  /-- Loaded sessions with a new `consumed_at`. -/
  dirty : List RefreshSessionModel
  new : List RefreshSessionModel

/-- Flush changed sessions by primary key; each must still be there. -/
def flushDirty : List RefreshSessionModel → IdentityProg Unit
  | [] => .done ()
  | model :: models => do
      let count ← Prog.updateIn refreshSessions (fun stored => stored.sessionId == model.sessionId)
        fun stored => { stored with consumedAt := model.consumedAt }
      if count = 1 then flushDirty models else .raise .staleDataError

/-- Flush new sessions. -/
def flushNew : List RefreshSessionModel → IdentityProg Unit
  | [] => .done ()
  | model :: models => do
      match ← Prog.insertInto refreshSessions model with
      | some constraint => .raise (.integrityError constraint)
      | none => flushNew models

/-- `AsyncSession.flush`. -/
def flush (work : UnitOfWork) : IdentityProg Unit := do
  flushDirty work.dirty
  flushNew work.new

/-! ## Reading -/

/-- Read the only row that matches, if any, as a domain object. -/
def readOne {α β : Type} (table : Relation IdentityRow α) (filter : α → Bool)
    (build : α → Except PyError β) : IdentityProg (Option β) := do
  let models ← Prog.selectFrom table filter
  match ← scalarOneOrNone models with
  | none => return none
  | some model => return some (← Prog.ofExcept (build model))

/-- `get_account`. -/
def getAccount (userId : String) : IdentityProg (Option LocalAccount) :=
  readOne identityAccounts (fun model => model.userId == userId) LocalAccount.ofModel

/-- `get_account_by_login`. -/
def getAccountByLogin (loginIdentifier : String) : IdentityProg (Option LocalAccount) :=
  readOne identityAccounts (fun model => model.loginIdentifier == loginIdentifier)
    LocalAccount.ofModel

/-- The join of `role` and `membership_role` in `get_membership`. -/
def roleCodes (membershipId tenantId : String) (database : List IdentityRow) : List String :=
  (roles.rows database).flatMap fun role =>
    ((membershipRoles.rows database).filter fun link =>
      link.roleId == role.roleId && link.membershipId == membershipId &&
        role.tenantId == tenantId).map fun _ => role.roleCode

/-- The join of `permission`, `role_permission`, `membership_role` and `role`
in `get_membership`. -/
def permissionCodes (membershipId tenantId : String) (database : List IdentityRow) : List String :=
  (permissions.rows database).flatMap fun permission =>
    (rolePermissions.rows database).flatMap fun grant =>
      (membershipRoles.rows database).flatMap fun link =>
        ((roles.rows database).filter fun role =>
          grant.permissionCode == permission && link.roleId == grant.roleId &&
            role.roleId == link.roleId && link.membershipId == membershipId &&
              role.tenantId == tenantId).map fun _ => permission

/-- `get_membership`: three statements, the last two of them joins. -/
def getMembership (userId tenantId : String) : IdentityProg (Option TenantMembership) := do
  let models ← Prog.selectFrom tenantMemberships fun model =>
    model.userId == userId && model.tenantId == tenantId
  match ← scalarOneOrNone models with
  | none => return none
  | some model => do
      let rolesResult ← Prog.selectRows fun _ => true
      let permissionsResult ← Prog.selectRows fun _ => true
      return some (← Prog.ofExcept (TenantMembership.ofModel model
        (roleCodes model.membershipId model.tenantId rolesResult).toFinset
        (permissionCodes model.membershipId model.tenantId permissionsResult).toFinset))

/-- `get_session`. -/
def getSession (sessionId : String) : IdentityProg (Option RefreshSession) :=
  readOne refreshSessions (fun model => model.sessionId == sessionId) RefreshSession.ofModel

/-! ## Writing -/

/-- `update_password_hash`. -/
def updatePasswordHash (account : LocalAccount) : IdentityProg Unit := do
  let _ ← Prog.updateIn identityAccounts (fun stored => stored.userId == account.userId)
    fun stored => { stored with
      passwordHash := account.passwordHash
      passwordVersion := account.passwordVersion }
  return ()

/-- The `WHERE` clause of a family revocation. -/
def unrevokedIn (familyId : String) (stored : RefreshSessionModel) : Bool :=
  stored.familyId == familyId && stored.revokedAt.isNone

/-- The `SET` clause of a family revocation. -/
def revokedBy (revokedAt : Instant) (stored : RefreshSessionModel) : RefreshSessionModel :=
  { stored with revokedAt := some revokedAt }

/-- The `UPDATE` that revokes a family. -/
def revokeFamily (familyId : String) (revokedAt : Instant) : IdentityProg Unit := do
  let _ ← Prog.updateIn refreshSessions (unrevokedIn familyId) (revokedBy revokedAt)
  return ()

/-- `RefreshRotationStatus`. -/
inductive RefreshRotationStatus where
  | rotated
  | invalid
  | replayRevoked
deriving DecidableEq, Repr

/-- `RefreshRotationResult`. -/
structure RefreshRotationResult where
  status : RefreshRotationStatus
  session : Option RefreshSession
deriving DecidableEq, Repr

/-- The arguments of `rotate_refresh_session`. -/
structure RotateCall where
  presentedDigest : String
  replacementSessionId : String
  replacementDigest : String
  rotatedAt : Instant
  idleTtl : Duration
deriving DecidableEq, Repr

/-- What `rotate_refresh_session` does with the row it has locked. -/
def rotateLocked (call : RotateCall) (model : RefreshSessionModel) :
    IdentityProg (RefreshRotationResult × UnitOfWork) := do
  let current ← Prog.ofExcept (RefreshSession.ofModel model)
  match current.rotate call.presentedDigest call.replacementSessionId call.replacementDigest
    call.rotatedAt call.idleTtl with
  | .ok (consumed, replacement) =>
      return (⟨.rotated, some replacement⟩,
        { dirty := [{ model with consumedAt := consumed.consumedAt }]
          new := [replacement.toRefreshSessionModel] })
  | .error (.refreshTokenReplay _) => do
      revokeFamily current.familyId call.rotatedAt
      return (⟨.replayRevoked, none⟩, { dirty := [], new := [] })
  | .error .invalidRefreshSession => return (⟨.invalid, none⟩, { dirty := [], new := [] })
  | .error error => .raise error

/-- `rotate_refresh_session`, up to the changes it leaves in the unit of work. -/
def rotateRefreshSession (call : RotateCall) :
    IdentityProg (RefreshRotationResult × UnitOfWork) := do
  let models ← Prog.lockFrom refreshSessions fun model =>
    model.tokenDigest == call.presentedDigest
  match ← scalarOneOrNone models with
  | none => return (⟨.invalid, none⟩, { dirty := [], new := [] })
  | some model => rotateLocked call model

/-- A `rotate_refresh_session` call with the flush that its commit implies. -/
def rotateTransaction (call : RotateCall) : IdentityProg RefreshRotationResult := do
  let (rotation, work) ← rotateRefreshSession call
  flush work
  return rotation

/-- `revoke_refresh_family_by_digest`. -/
def revokeRefreshFamilyByDigest (tokenDigest : String) (revokedAt : Instant) :
    IdentityProg Bool := do
  let models ← Prog.selectFrom refreshSessions fun model => model.tokenDigest == tokenDigest
  match ← scalarOneOrNone (models.map RefreshSessionModel.familyId) with
  | none => return false
  | some familyId => do
      revokeFamily familyId revokedAt
      return true

/-- The arguments of `RefreshSession.issue`. -/
structure IssueCall where
  sessionId : String
  familyId : String
  userId : String
  tenantId : String
  tokenDigest : String
  issuedAt : Instant
  idleTtl : Duration
  absoluteTtl : Duration
deriving DecidableEq, Repr

/-- `RefreshSession.issue` on these arguments. -/
def IssueCall.session (call : IssueCall) : Except PyError RefreshSession :=
  RefreshSession.issue call.sessionId call.familyId call.userId call.tenantId call.tokenDigest
    call.issuedAt call.idleTtl call.absoluteTtl

/-- A login's session: `RefreshSession.issue` and `add_refresh_session` with the
flush that its commit implies. -/
def issueTransaction (call : IssueCall) : IdentityProg RefreshSession := do
  let session ← Prog.ofExcept call.session
  flush { dirty := [], new := [session.toRefreshSessionModel] }
  return session

end BidSystem.Identity
