import BidSystem.Identity.Access
import BidSystem.ReadCommitted.Journal

/-!
# Access by history

Runs of logins, refreshes, logouts and administrative changes.  Whether an
access token's identity resolves in the final store is compared with what the
journal says of it: the token was minted in some family, its session was not
rotated, no replay was detected and no logout performed in the family, and its
deadline has not passed.
-/

namespace BidSystem.Identity

open ReadCommitted

/-- A transaction of the running service.  An administrative change is any
program on the tables that does not concern sessions. -/
inductive AccessOperation where
  | login (command : AuthenticateLocalAccountCommand)
  | refresh (call : RotateCall)
  | logout (tokenDigest : String) (revokedAt : Instant)
  | administer (change : IdentityProg Unit)

/-- What it returns. -/
inductive AccessResponse where
  | authenticated (identity : AuthenticatedIdentity) (role : IdentityRole)
  | refreshed (rotation : RefreshRotationResult) (identity : Option ResolvedIdentity)
  | loggedOut (found : Bool)
  | administered
deriving DecidableEq

/-- The refresh route. -/
def refreshRoute (call : RotateCall) : IdentityProg AccessResponse := do
  let (rotation, identity) ← refreshTransaction call
  return .refreshed rotation identity

/-- The logout route. -/
def logoutRoute (tokenDigest : String) (revokedAt : Instant) : IdentityProg AccessResponse := do
  return .loggedOut (← revokeRefreshFamilyByDigest tokenDigest revokedAt)

namespace AccessOperation

/-- The statements of the transaction. -/
def transaction (services : LoginServices) : AccessOperation → IdentityProg AccessResponse
  | login command => do
      let (identity, role) ← loginTransaction services command
      return .authenticated identity role
  | refresh call => refreshRoute call
  | logout tokenDigest revokedAt => logoutRoute tokenDigest revokedAt
  | administer change => do
      change
      return .administered

/-- The family a login names. -/
def loginFamily : AccessOperation → Option String
  | login command => some command.familyId
  | _ => none

end AccessOperation

/-- A transaction with the outcome it reported. -/
abbrev AccessEntry := AccessOperation × Except PyError AccessResponse

/-- The journal of a run. -/
def runAccess (services : LoginServices) (database : List IdentityRow)
    (operations : List AccessOperation) :
    Journal AccessOperation IdentityRow PyError AccessResponse :=
  (Journal.start database).run identityConflict (AccessOperation.transaction services) operations

/-! ## Reading a journal -/

/-- An access token's identity, with the facts of its minting. -/
structure AccessGrant where
  userId : String
  tenantId : String
  sessionId : String
  familyId : String
  tokenDigest : String
  mintedAt : Instant
  idleTtl : Duration
deriving DecidableEq, Repr

namespace AccessEntry

/-- The identity minted by a successful login or refresh. -/
def grant : AccessEntry → Option AccessGrant
  | (.login command, .ok (.authenticated identity _)) => some {
      userId := identity.userId
      tenantId := identity.tenantId
      sessionId := identity.sessionId
      familyId := command.familyId
      tokenDigest := command.refreshTokenDigest
      mintedAt := command.authenticatedAt
      idleTtl := command.idleTtl }
  | (.refresh call, .ok (.refreshed ⟨.rotated, some session⟩ (some identity))) => some {
      userId := identity.userId
      tenantId := identity.tenantId
      sessionId := identity.sessionId
      familyId := session.familyId
      tokenDigest := call.replacementDigest
      mintedAt := call.rotatedAt
      idleTtl := call.idleTtl }
  | _ => none

/-- A successful rotation of the presented token. -/
def rotates (tokenDigest : String) : AccessEntry → Bool
  | (.refresh call, .ok (.refreshed ⟨.rotated, _⟩ _)) => call.presentedDigest == tokenDigest
  | _ => false

/-- A detected replay of the presented token, or a logout with it. -/
def ends (tokenDigest : String) : AccessEntry → Bool
  | (.refresh call, .ok (.refreshed ⟨.replayRevoked, _⟩ _)) => call.presentedDigest == tokenDigest
  | (.logout presented _, .ok (.loggedOut true)) => presented == tokenDigest
  | _ => false

/-- The absolute deadline that a successful login sets for its family. -/
def deadline (familyId : String) : AccessEntry → Option Instant
  | (.login command, .ok (.authenticated _ _)) =>
      if command.familyId = familyId then some (command.authenticatedAt + command.absoluteTtl)
      else none
  | _ => none

end AccessEntry

/-- **What the history demands of a grant** for it to resolve at a time. -/
structure Granted (entries : List AccessEntry) (database : List IdentityRow)
    (grant : AccessGrant) (resolvedAt : Instant) : Prop where
  unrotated : ∀ entry ∈ entries, entry.rotates grant.tokenDigest = false
  /-- No replay and no logout with any token of the family. -/
  unended : ∀ other ∈ entries.filterMap AccessEntry.grant, other.familyId = grant.familyId →
    ∀ entry ∈ entries, entry.ends other.tokenDigest = false
  inTime : ∃ deadline ∈ entries.filterMap (AccessEntry.deadline grant.familyId),
    resolvedAt < min (grant.mintedAt + grant.idleTtl) deadline
  account : ∃ account ∈ identityAccounts.rows database,
    account.userId = grant.userId ∧ account.status = .active
  membership : ∃ membership ∈ tenantMemberships.rows database,
    membership.userId = grant.userId ∧ membership.tenantId = grant.tenantId ∧
      membership.status = .active

/-! ## Entries report events -/

/-- The session behind a grant, as it was created. -/
structure AccessGrant.Describes (grant : AccessGrant) (session : RefreshSessionModel) :
    Prop where
  userId : grant.userId = session.userId
  tenantId : grant.tenantId = session.tenantId
  sessionId : grant.sessionId = session.sessionId
  familyId : grant.familyId = session.familyId
  tokenDigest : grant.tokenDigest = session.tokenDigest
  idle : session.idleExpiresAt = min (grant.mintedAt + grant.idleTtl) session.absoluteExpiresAt

/-- What an entry says about the event behind it. -/
inductive AccessReports : AccessEntry → SessionEvent → Prop
  | login {command : AuthenticateLocalAccountCommand} {identity : AuthenticatedIdentity}
      {role : IdentityRole} {session : RefreshSession}
      (built : (command.issueCall identity.userId identity.tenantId).session = .ok session)
      (named : identity.sessionId = session.sessionId) :
      AccessReports (.login command, .ok (.authenticated identity role))
        (.issued session.toRefreshSessionModel)
  | rotated {call : RotateCall} {presented : RefreshSessionModel} {replacement : RefreshSession}
      {identity : ResolvedIdentity} (digest : presented.tokenDigest = call.presentedDigest)
      (fields : replacement.toRefreshSessionModel = call.replacement presented)
      (userId : identity.userId = presented.userId)
      (tenantId : identity.tenantId = presented.tenantId)
      (sessionId : identity.sessionId = call.replacementSessionId) :
      AccessReports (.refresh call, .ok (.refreshed ⟨.rotated, some replacement⟩ (some identity)))
        (.rotated presented replacement.toRefreshSessionModel)
  | replayed {call : RotateCall} {presented : RefreshSessionModel}
      (digest : presented.tokenDigest = call.presentedDigest) :
      AccessReports (.refresh call, .ok (.refreshed ⟨.replayRevoked, none⟩ none))
        (.revoked presented call.rotatedAt)
  | invalid {call : RotateCall} :
      AccessReports (.refresh call, .ok (.refreshed ⟨.invalid, none⟩ none)) .unchanged
  | loggedOut {tokenDigest : String} {revokedAt : Instant} {presented : RefreshSessionModel}
      (digest : presented.tokenDigest = tokenDigest) :
      AccessReports (.logout tokenDigest revokedAt, .ok (.loggedOut true))
        (.revoked presented revokedAt)
  | unknown {tokenDigest : String} {revokedAt : Instant} :
      AccessReports (.logout tokenDigest revokedAt, .ok (.loggedOut false)) .unchanged
  | administered {change : IdentityProg Unit} :
      AccessReports (.administer change, .ok .administered) .unchanged
  | failed {operation : AccessOperation} {error : PyError} :
      AccessReports (operation, .error error) .unchanged

namespace AccessReports

variable {entry : AccessEntry} {event : SessionEvent}

/-- A grant describes the session created. -/
theorem exists_created (reports : AccessReports entry event) {grant : AccessGrant}
    (minted : entry.grant = some grant) :
    ∃ session, event.minted = some session ∧ grant.Describes session := by
  cases reports with
  | @login command identity role session built named =>
      cases minted
      have fields := (RefreshSession.issue_ok built).2.2
      refine ⟨session.toRefreshSessionModel, rfl, ?_⟩
      constructor
      · rw [fields]; rfl
      · rw [fields]; rfl
      · exact named
      · rw [fields]; rfl
      · rw [fields]; rfl
      · rw [fields]; rfl
  | @rotated call presented replacement identity digest fields userId tenantId sessionId =>
      cases minted
      refine ⟨replacement.toRefreshSessionModel, rfl, ?_⟩
      constructor
      · rw [fields]; exact userId
      · rw [fields]; exact tenantId
      · rw [fields]; exact sessionId
      · rfl
      · rw [fields]; rfl
      · rw [fields]; rfl
  | replayed => cases minted
  | invalid => cases minted
  | loggedOut => cases minted
  | unknown => cases minted
  | administered => cases minted
  | @failed operation error => cases operation <;> cases minted

/-- Every session was created with a grant that describes it. -/
theorem exists_grant (reports : AccessReports entry event) {session : RefreshSessionModel}
    (created : event.minted = some session) :
    ∃ grant, entry.grant = some grant ∧ grant.Describes session := by
  have granted : ∃ grant, entry.grant = some grant := by
    cases reports with
    | login => exact ⟨_, rfl⟩
    | rotated => exact ⟨_, rfl⟩
    | replayed => cases created
    | invalid => cases created
    | loggedOut => cases created
    | unknown => cases created
    | administered => cases created
    | failed => cases created
  obtain ⟨grant, minted⟩ := granted
  obtain ⟨session', created', describes⟩ := reports.exists_created minted
  rw [created] at created'
  cases created'
  exact ⟨grant, minted, describes⟩

/-- The entry that rotates a token reports the rotation of its session. -/
theorem rotates_iff (reports : AccessReports entry event) (tokenDigest : String) :
    entry.rotates tokenDigest = true ↔
      ∃ presented replacement, event = .rotated presented replacement ∧
        presented.tokenDigest = tokenDigest := by
  cases reports with
  | @rotated call presented replacement identity digest fields userId tenantId sessionId =>
      simp [AccessEntry.rotates, digest]
  | @failed operation error => cases operation <;> simp [AccessEntry.rotates]
  | _ => simp [AccessEntry.rotates]

/-- The entry that ends a family reports its revocation. -/
theorem ends_iff (reports : AccessReports entry event) (tokenDigest : String) :
    entry.ends tokenDigest = true ↔
      ∃ presented revokedAt, event = .revoked presented revokedAt ∧
        presented.tokenDigest = tokenDigest := by
  cases reports with
  | @replayed call presented digest => simp [AccessEntry.ends, digest]
  | @loggedOut tokenDigest' revokedAt presented digest => simp [AccessEntry.ends, digest]
  | @failed operation error => cases operation <;> simp [AccessEntry.ends]
  | _ => simp [AccessEntry.ends]

/-- A login's deadline is the absolute expiry of the session it issued. -/
theorem deadline_iff (reports : AccessReports entry event) (familyId : String)
    (deadline : Instant) :
    entry.deadline familyId = some deadline ↔
      ∃ first, event = .issued first ∧ first.familyId = familyId ∧
        first.absoluteExpiresAt = deadline := by
  cases reports with
  | @login command identity role session built named =>
      have fields := (RefreshSession.issue_ok built).2.2
      have family : session.familyId = command.familyId := by rw [fields]; rfl
      have absolute : session.absoluteExpiresAt =
          command.authenticatedAt + command.absoluteTtl := by rw [fields]; rfl
      simp [AccessEntry.deadline, family, absolute]
  | @failed operation error => cases operation <;> simp [AccessEntry.deadline]
  | _ => simp [AccessEntry.deadline]

end AccessReports

/-- An administrative change leaves sessions alone and keeps the store valid. -/
def Administrative (change : IdentityProg Unit) : Prop :=
  ∀ database, KeepsSessions database (change.atomically identityConflict database).2

/-- What a transaction did to the stored sessions and to the rest of the store. -/
structure Performs (event : SessionEvent) (database later : List IdentityRow) : Prop where
  allowed : event.Allowed (refreshSessions.rows database)
  sessions : refreshSessions.rows later = event.apply (refreshSessions.rows database)
  valid : ValidStore database → ValidStore later

theorem Performs.unchanged {database later : List IdentityRow}
    (keeps : KeepsSessions database later) : Performs .unchanged database later where
  allowed := .unchanged
  sessions := by rw [keeps.sessions, SessionEvent.apply_unchanged]
  valid := keeps.valid

theorem Performs.store {event : SessionEvent} {database : List IdentityRow}
    (allowed : event.Allowed (refreshSessions.rows database)) :
    Performs event database (event.store database) where
  allowed := allowed
  sessions := event.rows_store database
  valid valid := valid.store event

/-- **Every transaction reports an event and performs it.** -/
theorem AccessOperation.performs (services : LoginServices) {database : List IdentityRow}
    (unique : UniqueSessions (refreshSessions.rows database)) (operation : AccessOperation)
    (administrative : ∀ change, operation = .administer change → Administrative change)
    (newFamily : ∀ familyId, operation.loginFamily = some familyId →
      ∀ old ∈ refreshSessions.rows database, old.familyId ≠ familyId) :
    ∃ event : SessionEvent,
      AccessReports
        (operation, ((operation.transaction services).atomically identityConflict database).1)
        event ∧
      Performs event database
        ((operation.transaction services).atomically identityConflict database).2 := by
  have failed : ∀ error later,
      (operation.transaction services).exec identityConflict database = (.error error, later) →
      ∃ event : SessionEvent,
        AccessReports
          (operation, ((operation.transaction services).atomically identityConflict database).1)
          event ∧
        Performs event database
          ((operation.transaction services).atomically identityConflict database).2 := by
    intro error later ran
    rw [Prog.atomically_of_error _ ran]
    exact ⟨.unchanged, .failed, .unchanged (.refl database)⟩
  cases operation with
  | login command =>
      have ran := Prog.exec_return identityConflict (loginTransaction services command)
        (fun outcome => AccessResponse.authenticated outcome.1 outcome.2) database
      have effect := loginTransaction_effect services command database
      generalize (loginTransaction services command).exec identityConflict database =
        outcome at ran effect
      cases effect with
      | @authenticated identity role session later keeps built named mintable =>
          unfold AccessOperation.transaction
          rw [Prog.atomically_of_ok _ ran]
          refine ⟨.issued session.toRefreshSessionModel, .login built named,
            .issued mintable ?_, ?_, fun valid => (keeps.valid valid).store _⟩
          · have sameFamily : session.familyId = command.familyId := by
              rw [(RefreshSession.issue_ok built).2.2]
              rfl
            rw [sameFamily]
            exact newFamily command.familyId rfl
          · rw [SessionEvent.rows_store, keeps.sessions]
      | failed error later => exact failed error later ran
  | refresh call =>
      have ran : (refreshRoute call).exec identityConflict database = _ :=
        Prog.exec_return identityConflict (refreshTransaction call)
          (fun outcome => AccessResponse.refreshed outcome.1 outcome.2) database
      have effect := refreshTransaction_effect call unique
      generalize (refreshTransaction call).exec identityConflict database = outcome at ran effect
      cases effect with
      | @rotated presented replacement identity member digest unconsumed unrevoked fields
          mintable userId tenantId sessionId =>
          unfold AccessOperation.transaction
          rw [Prog.atomically_of_ok _ ran]
          refine ⟨.rotated presented replacement.toRefreshSessionModel,
            .rotated digest fields userId tenantId sessionId,
            .store (.rotated member unconsumed unrevoked mintable ?_)⟩
          rw [fields]
          exact ⟨rfl, rfl, rfl, rfl⟩
      | @replayed presented member digest =>
          unfold AccessOperation.transaction
          rw [Prog.atomically_of_ok _ ran]
          exact ⟨.revoked presented call.rotatedAt, .replayed digest, .store (.revoked member)⟩
      | invalid =>
          unfold AccessOperation.transaction
          rw [Prog.atomically_of_ok _ ran]
          exact ⟨.unchanged, .invalid, .unchanged (.refl database)⟩
      | failed error later => exact failed error later ran
  | logout tokenDigest revokedAt =>
      have ran : (logoutRoute tokenDigest revokedAt).exec identityConflict database = _ :=
        Prog.exec_return identityConflict (revokeRefreshFamilyByDigest tokenDigest revokedAt)
          AccessResponse.loggedOut database
      have effect := revokeRefreshFamilyByDigest_effect unique tokenDigest revokedAt
      generalize (revokeRefreshFamilyByDigest tokenDigest revokedAt).exec identityConflict database =
        outcome at ran effect
      cases effect with
      | @revoked presented member digest =>
          unfold AccessOperation.transaction
          rw [Prog.atomically_of_ok _ ran]
          exact ⟨.revoked presented revokedAt, .loggedOut digest, .store (.revoked member)⟩
      | unknown absent =>
          unfold AccessOperation.transaction
          rw [Prog.atomically_of_ok _ ran]
          exact ⟨.unchanged, .unknown, .unchanged (.refl database)⟩
  | administer change =>
      have keeps := administrative change rfl database
      have ran := Prog.exec_return identityConflict change (fun _ => AccessResponse.administered) database
      rcases outcome : change.exec identityConflict database with ⟨error | done, later⟩
      · rw [outcome] at ran
        exact failed error later ran
      · rw [outcome] at ran
        unfold AccessOperation.transaction
        rw [Prog.atomically_of_ok _ ran]
        rw [Prog.atomically_of_ok _ outcome] at keeps
        exact ⟨.unchanged, .administered, .unchanged keeps⟩

/-! ## Runs -/

/-- What a run of access transactions starts from and is made of. -/
structure AccessRun (database : List IdentityRow) (operations : List AccessOperation) : Prop where
  empty : refreshSessions.rows database = []
  valid : ValidStore database
  /-- Every login names a family of its own. -/
  freshFamilies : (operations.filterMap AccessOperation.loginFamily).Nodup
  administrative : ∀ change, .administer change ∈ operations → Administrative change

/-- **Every run is a history of the session table over a valid store.** -/
theorem runAccess_history (services : LoginServices) {database : List IdentityRow}
    {operations : List AccessOperation} (run : AccessRun database operations) :
    ∃ events, List.Forall₂ AccessReports (runAccess services database operations).entries events ∧
      SessionHistory events (refreshSessions.rows (runAccess services database operations).rows) ∧
      ValidStore (runAccess services database operations).rows := by
  induction operations using List.reverseRecOn with
  | nil =>
      refine ⟨[], .nil, ?_, run.valid⟩
      rw [runAccess, Journal.run_nil, Journal.start, run.empty]
      exact .nil
  | append_singleton operations operation ih =>
      have fresh := run.freshFamilies
      rw [List.filterMap_append, List.nodup_append'] at fresh
      obtain ⟨events, reports, history, valid⟩ := ih {
        empty := run.empty
        valid := run.valid
        freshFamilies := fresh.1
        administrative := fun change member =>
          run.administrative change (List.mem_append_left _ member) }
      have newFamily : ∀ familyId, operation.loginFamily = some familyId →
          ∀ old ∈ refreshSessions.rows (runAccess services database operations).rows,
            old.familyId ≠ familyId := by
        intro familyId names old member same
        obtain ⟨first, issued, sameFirst⟩ := history.login old member
        obtain ⟨entry, entryMember, reported⟩ := Journal.exists_reporting reports issued
        cases reported with
        | @login command identity role session built named =>
            have performed : .login command ∈ operations := by
              have inEntries := List.mem_map_of_mem (f := Prod.fst) entryMember
              rwa [runAccess, Journal.start_run_entries] at inEntries
            refine fresh.2.2 (List.mem_filterMap.mpr ⟨_, performed, rfl⟩) ?_
            have sameFamily : command.familyId = familyId := by
              have fields := (RefreshSession.issue_ok built).2.2
              rw [← same, sameFirst.familyId, fields]
              rfl
            rw [sameFamily]
            exact List.mem_filterMap.mpr ⟨operation, by simp, names⟩
      obtain ⟨event, reported, performs⟩ := operation.performs services history.unique
        (fun change isAdminister => run.administrative change (by simp [isAdminister])) newFamily
      have concat : runAccess services database (operations ++ [operation]) =
          (runAccess services database operations).perform identityConflict
            (AccessOperation.transaction services) operation :=
        Journal.run_append identityConflict (AccessOperation.transaction services) _ operations
          [operation]
      refine ⟨events ++ [event], ?_, ?_, ?_⟩
      · rw [concat]
        exact List.rel_append reports (.cons reported .nil)
      · rw [concat, Journal.perform]
        dsimp only
        rw [performs.sessions]
        exact history.step performs.allowed
      · rw [concat]
        exact performs.valid valid

/-! ## Granted is resolved -/

section Granted

variable {entries : List AccessEntry} {events : List SessionEvent}
  {sessions : List RefreshSessionModel}

/-- The stored session behind a grant. -/
theorem exists_stored (reports : List.Forall₂ AccessReports entries events)
    (history : SessionHistory events sessions) {grant : AccessGrant}
    (granted : grant ∈ entries.filterMap AccessEntry.grant) :
    ∃ session ∈ sessions, grant.Describes session := by
  obtain ⟨entry, member, minted⟩ := List.mem_filterMap.mp granted
  obtain ⟨event, eventMember, reported⟩ := Journal.exists_reported reports member
  obtain ⟨created, isCreated, describes⟩ := reported.exists_created minted
  have inCreated : created ∈ sessions.map RefreshSessionModel.minted := by
    rw [history.created]
    exact List.mem_filterMap.mpr ⟨event, eventMember, isCreated⟩
  obtain ⟨session, stored, rfl⟩ := List.mem_map.mp inCreated
  exact ⟨session, stored, ⟨describes.userId, describes.tenantId, describes.sessionId,
    describes.familyId, describes.tokenDigest, describes.idle⟩⟩

/-- Every stored session was granted. -/
theorem exists_grant (reports : List.Forall₂ AccessReports entries events)
    (history : SessionHistory events sessions) {session : RefreshSessionModel}
    (stored : session ∈ sessions) :
    ∃ grant ∈ entries.filterMap AccessEntry.grant, grant.Describes session := by
  have inCreated : session.minted ∈ events.filterMap SessionEvent.minted := by
    rw [← history.created]
    exact List.mem_map_of_mem stored
  obtain ⟨event, eventMember, isCreated⟩ := List.mem_filterMap.mp inCreated
  obtain ⟨entry, member, reported⟩ := Journal.exists_reporting reports eventMember
  obtain ⟨grant, minted, describes⟩ := reported.exists_grant isCreated
  exact ⟨grant, List.mem_filterMap.mpr ⟨entry, member, minted⟩,
    ⟨describes.userId, describes.tenantId, describes.sessionId, describes.familyId,
      describes.tokenDigest, describes.idle⟩⟩

/-- A session is unconsumed exactly when no entry rotated its token. -/
theorem unconsumed_iff (reports : List.Forall₂ AccessReports entries events)
    (history : SessionHistory events sessions) {session : RefreshSessionModel}
    (stored : session ∈ sessions) :
    session.consumedAt = none ↔
      ∀ entry ∈ entries, entry.rotates session.tokenDigest = false := by
  rw [← Option.isNone_iff_eq_none, ← Option.not_isSome, Bool.not_eq_true',
    history.consumed session stored, List.any_eq_false]
  constructor
  · intro none entry member
    by_contra rotates
    obtain ⟨event, eventMember, reported⟩ := Journal.exists_reported reports member
    obtain ⟨presented, replacement, rfl, digest⟩ :=
      (reported.rotates_iff session.tokenDigest).mp (by simpa using rotates)
    obtain ⟨other, otherStored, same⟩ := history.presented _ eventMember presented rfl
    have sameSession : other = session := history.eq_of_tokenDigest otherStored stored
      ((congrArg RefreshSessionModel.tokenDigest same :).trans digest)
    have sameId : presented.sessionId = session.sessionId := by
      rw [← sameSession]
      exact (congrArg RefreshSessionModel.sessionId same.symm :)
    exact none _ eventMember (by simp [SessionEvent.consumes, sameId])
  · intro none event eventMember consumes
    obtain ⟨entry, member, reported⟩ := Journal.exists_reporting reports eventMember
    cases event with
    | rotated presented replacement =>
        obtain ⟨other, otherStored, same⟩ := history.presented _ eventMember presented rfl
        have sameId : presented.sessionId = session.sessionId := by
          simpa [SessionEvent.consumes] using consumes
        have sameSession : other = session := history.eq_of_sessionId otherStored stored
          ((congrArg RefreshSessionModel.sessionId same :).trans sameId)
        have digest : presented.tokenDigest = session.tokenDigest := by
          rw [← sameSession]
          exact (congrArg RefreshSessionModel.tokenDigest same.symm :)
        have rotates := (reported.rotates_iff session.tokenDigest).mpr
          ⟨presented, replacement, rfl, digest⟩
        rw [none entry member] at rotates
        cases rotates
    | issued => cases consumes
    | revoked => cases consumes
    | unchanged => cases consumes

/-- A session is unrevoked exactly when no entry ended its family. -/
theorem unrevoked_iff (reports : List.Forall₂ AccessReports entries events)
    (history : SessionHistory events sessions) {session : RefreshSessionModel}
    (stored : session ∈ sessions) :
    session.revokedAt = none ↔
      ∀ other ∈ entries.filterMap AccessEntry.grant, other.familyId = session.familyId →
        ∀ entry ∈ entries, entry.ends other.tokenDigest = false := by
  rw [← Option.isNone_iff_eq_none, ← Option.not_isSome, Bool.not_eq_true',
    history.revoked session stored, List.any_eq_false]
  constructor
  · intro none other granted sameFamily entry member
    by_contra ends
    obtain ⟨event, eventMember, reported⟩ := Journal.exists_reported reports member
    obtain ⟨presented, revokedAt, rfl, digest⟩ :=
      (reported.ends_iff other.tokenDigest).mp (by simpa using ends)
    obtain ⟨ended, endedStored, same⟩ := history.presented _ eventMember presented rfl
    obtain ⟨otherSession, otherStored, describes⟩ := exists_stored reports history granted
    have sameSession : ended = otherSession := history.eq_of_tokenDigest endedStored otherStored
      (((congrArg RefreshSessionModel.tokenDigest same :).trans digest).trans
        describes.tokenDigest)
    have family : presented.familyId = session.familyId := by
      rw [← sameFamily, describes.familyId, ← sameSession]
      exact (congrArg RefreshSessionModel.familyId same.symm :)
    exact none _ eventMember (by simp [SessionEvent.revokes, family])
  · intro none event eventMember revokes
    obtain ⟨entry, member, reported⟩ := Journal.exists_reporting reports eventMember
    cases event with
    | revoked presented revokedAt =>
        obtain ⟨ended, endedStored, same⟩ := history.presented _ eventMember presented rfl
        obtain ⟨other, granted, describes⟩ := exists_grant reports history endedStored
        have family : presented.familyId = session.familyId := by
          simpa [SessionEvent.revokes] using revokes
        have sameFamily : other.familyId = session.familyId :=
          (describes.familyId.trans (congrArg RefreshSessionModel.familyId same :)).trans family
        have digest : presented.tokenDigest = other.tokenDigest := by
          rw [describes.tokenDigest]
          exact (congrArg RefreshSessionModel.tokenDigest same.symm :)
        have ends := (reported.ends_iff other.tokenDigest).mpr
          ⟨presented, revokedAt, rfl, digest⟩
        rw [none other granted sameFamily entry member] at ends
        cases ends
    | issued => cases revokes
    | rotated => cases revokes
    | unchanged => cases revokes

/-- The deadlines of a family are the absolute expiry of its sessions. -/
theorem mem_deadline_iff (reports : List.Forall₂ AccessReports entries events)
    (history : SessionHistory events sessions) {session : RefreshSessionModel}
    (stored : session ∈ sessions) (deadline : Instant) :
    deadline ∈ entries.filterMap (AccessEntry.deadline session.familyId) ↔
      deadline = session.absoluteExpiresAt := by
  constructor
  · intro member
    obtain ⟨entry, entryMember, set⟩ := List.mem_filterMap.mp member
    obtain ⟨event, eventMember, reported⟩ := Journal.exists_reported reports entryMember
    obtain ⟨first, rfl, family, absolute⟩ := (reported.deadline_iff _ _).mp set
    have inCreated : first ∈ sessions.map RefreshSessionModel.minted := by
      rw [history.created]
      exact List.mem_filterMap.mpr ⟨_, eventMember, rfl⟩
    obtain ⟨other, otherStored, same⟩ := List.mem_map.mp inCreated
    have otherFamily : other.familyId = session.familyId :=
      (congrArg RefreshSessionModel.familyId same :).trans family
    rw [← (history.sameFamily otherStored stored otherFamily).absoluteExpiresAt, ← absolute]
    exact (congrArg RefreshSessionModel.absoluteExpiresAt same.symm :)
  · rintro rfl
    obtain ⟨first, issued, same⟩ := history.login session stored
    obtain ⟨entry, entryMember, reported⟩ := Journal.exists_reporting reports issued
    exact List.mem_filterMap.mpr ⟨entry, entryMember, (reported.deadline_iff _ _).mpr
      ⟨first, rfl, same.familyId.symm, same.absoluteExpiresAt.symm⟩⟩

/-- The query an access token gives rise to. -/
def AccessGrant.query (grant : AccessGrant) (resolvedAt : Instant) : ResolveIdentityQuery where
  userId := grant.userId
  tenantId := grant.tenantId
  sessionId := grant.sessionId
  resolvedAt := resolvedAt

/-- The history of a grant and the rows of the store say the same. -/
theorem resolvable_iff_granted {database : List IdentityRow}
    (reports : List.Forall₂ AccessReports entries events)
    (history : SessionHistory events (refreshSessions.rows database)) {grant : AccessGrant}
    (granted : grant ∈ entries.filterMap AccessEntry.grant) (resolvedAt : Instant) :
    Resolvable database (grant.query resolvedAt) ↔ Granted entries database grant resolvedAt := by
  obtain ⟨session, stored, describes⟩ := exists_stored reports history granted
  have consumption := unconsumed_iff reports history stored
  have revocation := unrevoked_iff reports history stored
  rw [← describes.tokenDigest] at consumption
  rw [← describes.familyId] at revocation
  have isActive_iff : session.isActive resolvedAt = true ↔
      session.consumedAt = none ∧ session.revokedAt = none ∧
        resolvedAt < min (grant.mintedAt + grant.idleTtl) session.absoluteExpiresAt := by
    simp only [RefreshSessionModel.isActive, describes.idle, Bool.and_eq_true,
      Option.isNone_iff_eq_none, decide_eq_true_eq, lt_min_iff]
    tauto
  have deadlines := mem_deadline_iff reports history stored
  rw [← describes.familyId] at deadlines
  constructor
  · rintro ⟨account, membership, ⟨found, foundStored, sameId, _, _, isActive⟩⟩
    have same : found = session := history.eq_of_sessionId foundStored stored
      (sameId.trans describes.sessionId)
    rw [same] at isActive
    obtain ⟨unconsumed, unrevoked, inTime⟩ := isActive_iff.mp isActive
    exact ⟨consumption.mp unconsumed, revocation.mp unrevoked,
      ⟨_, (deadlines _).mpr rfl, inTime⟩, account, membership⟩
  · rintro ⟨unrotated, unended, ⟨deadline, isDeadline, inTime⟩, account, membership⟩
    rw [(deadlines deadline).mp isDeadline] at inTime
    exact ⟨account, membership, ⟨session, stored, describes.sessionId.symm,
      describes.userId.symm, describes.tenantId.symm, isActive_iff.mpr
        ⟨consumption.mpr unrotated, revocation.mpr unended, inTime⟩⟩⟩

end Granted

/-- Whether `ResolveIdentityHandler` accepts the token's identity at a time. -/
def Resolves (database : List IdentityRow) (grant : AccessGrant) (resolvedAt : Instant) : Prop :=
  ∃ identity, ((resolveIdentity (grant.query resolvedAt)).atomically identityConflict
    database).1 = .ok identity

/-- **Access is what the history grants.**  An identity minted in a run resolves
in the final store exactly when the journal says so; no family has two sessions
that resolve, and none resolves from the family's absolute deadline on. -/
theorem resolves_iff_granted (services : LoginServices) (database : List IdentityRow)
    (operations : List AccessOperation) (run : AccessRun database operations)
    (grant : AccessGrant)
    (granted : grant ∈ (runAccess services database operations).entries.filterMap
      AccessEntry.grant) (resolvedAt : Instant) :
    (Resolves (runAccess services database operations).rows grant resolvedAt ↔
      Granted (runAccess services database operations).entries
        (runAccess services database operations).rows grant resolvedAt) ∧
    (∀ other ∈ (runAccess services database operations).entries.filterMap AccessEntry.grant,
      other.familyId = grant.familyId → ∀ otherAt,
        Resolves (runAccess services database operations).rows grant resolvedAt →
        Resolves (runAccess services database operations).rows other otherAt →
          other.sessionId = grant.sessionId) ∧
    ∀ deadline ∈ (runAccess services database operations).entries.filterMap
        (AccessEntry.deadline grant.familyId),
      deadline ≤ resolvedAt →
        ¬ Resolves (runAccess services database operations).rows grant resolvedAt := by
  obtain ⟨events, reports, history, valid⟩ := runAccess_history services run
  have resolves_iff : ∀ other : AccessGrant, ∀ otherAt,
      Resolves (runAccess services database operations).rows other otherAt ↔
        Resolvable (runAccess services database operations).rows (other.query otherAt) := by
    intro other otherAt
    unfold Resolves
    simp only [Prog.atomically_fst]
    exact resolveIdentity_ok_iff valid history.unique history.valid _
  refine ⟨?_, ?_, ?_⟩
  · rw [resolves_iff]
    exact resolvable_iff_granted reports history granted resolvedAt
  · intro other otherGranted sameFamily otherAt resolves otherResolves
    obtain ⟨session, stored, sameId, _, _, isActive⟩ :=
      ((resolves_iff grant resolvedAt).mp resolves).session
    obtain ⟨otherSession, otherStored, otherSameId, _, _, otherIsActive⟩ :=
      ((resolves_iff other otherAt).mp otherResolves).session
    obtain ⟨described, describedStored, describes⟩ := exists_stored reports history granted
    obtain ⟨otherDescribed, otherDescribedStored, otherDescribes⟩ :=
      exists_stored reports history otherGranted
    have same : session = described := history.eq_of_sessionId stored describedStored
      (sameId.trans describes.sessionId)
    have otherSame : otherSession = otherDescribed :=
      history.eq_of_sessionId otherStored otherDescribedStored
        (otherSameId.trans otherDescribes.sessionId)
    rw [same] at isActive stored
    rw [otherSame] at otherIsActive otherStored
    simp only [RefreshSessionModel.isActive, Bool.and_eq_true, Option.isNone_iff_eq_none]
      at isActive otherIsActive
    have sameSession := history.single otherDescribed otherStored described stored
      (otherDescribes.familyId.symm.trans (sameFamily.trans describes.familyId))
      otherIsActive.1.1.1 isActive.1.1.1
    rw [otherDescribes.sessionId, describes.sessionId, sameSession]
  · intro deadline isDeadline late resolves
    rw [resolves_iff, resolvable_iff_granted reports history granted] at resolves
    obtain ⟨session, stored, describes⟩ := exists_stored reports history granted
    obtain ⟨other, otherIsDeadline, inTime⟩ := resolves.inTime
    rw [describes.familyId, mem_deadline_iff reports history stored] at isDeadline otherIsDeadline
    rw [otherIsDeadline, ← isDeadline] at inTime
    exact absurd (lt_of_lt_of_le inTime (min_le_right _ _)) (not_lt.mpr late)

/-! ### A run -/

/-- A store with one manager. -/
def managerStore : List IdentityRow :=
  [.identityAccount ⟨"u", "alice", "hash", .active, 1⟩,
    .tenantMembership ⟨"m", "u", "t", .active⟩,
    .role ⟨"r", "t", "manager"⟩,
    .membershipRole ⟨"m", "r"⟩]

/-- The manager logs in and refreshes once. -/
def managerRun : List AccessOperation :=
  [.login ⟨"alice", "secret", "t", "s0", "family", "d0", 0, 10 * second, 100 * second⟩,
    .refresh ⟨"d0", "s1", "d1", 5 * second, 10 * second⟩]

/-- Every password is right, and names are taken as they are. -/
def managerServices : LoginServices where
  verify _ _ := ⟨true, none⟩
  casefold name := name

/-- The token minted by the refresh. -/
def refreshedGrant : AccessGrant :=
  ⟨"u", "t", "s1", "family", "d1", 5 * second, 10 * second⟩

theorem managerRun_accessRun : AccessRun managerStore managerRun where
  empty := rfl
  valid := {
    userIds := by decide
    account := fun model member => by
      rw [List.mem_singleton.mp (show model ∈ [_] from member)]
      exact ⟨⟨⟨"u", "alice", "hash", .active, 1⟩, by decide, by decide⟩, by decide⟩
    memberships := by decide
    membership := by decide
    roleCodes := by decide
    permissionCodes := by decide }
  freshFamilies := by decide
  administrative := by simp [managerRun]

theorem resolves_iff_granted_managerRun :
    Resolves (runAccess managerServices managerStore managerRun).rows refreshedGrant
        (12 * second) ↔
      Granted (runAccess managerServices managerStore managerRun).entries
        (runAccess managerServices managerStore managerRun).rows refreshedGrant (12 * second) :=
  (resolves_iff_granted managerServices managerStore managerRun managerRun_accessRun
    refreshedGrant (by decide) (12 * second)).1

end BidSystem.Identity
