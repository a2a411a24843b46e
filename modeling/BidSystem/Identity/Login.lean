import BidSystem.Identity.Access
import BidSystem.Interaction.Action

/-!
# A login by itself

`AuthenticateLocalAccountHandler.handle` with the password hasher it exercises, as an action
on the database, the unit of work and the number of calls of the hasher.

What pwdlib's `PasswordHash` answers is any `PasswordHash`, and `str.casefold` any function.

* `verify_eq` — the verifier exercises the hasher once, with or without an account.
* `Authenticates` — the four conditions of a login.
* `handle_effect` — a login that meets them adds one session, and any other one is refused
  alike and changes nothing.
-/

namespace BidSystem.Identity

open Interaction ReadCommitted

/-! ## The password hasher -/

/-- pwdlib's `PasswordHash`; `verify_and_update` raises `UnknownHashError` for `none`. -/
structure PasswordHash where
  hash : String → String
  verifyAndUpdate : String → String → Option (Bool × Option String)

/-- What a login reads and changes. -/
structure LoginWorld where
  database : List IdentityRow
  /-- The sessions added to the unit of work. -/
  added : List RefreshSession
  /-- How often the `PasswordHash` was called. -/
  hasherCalls : ℕ

/-- Code of a login. -/
abbrev LoginAction := Action LoginWorld PyError

/-- Statements of the repository. -/
def onDatabase {A : Type} (body : IdentityProg A) : LoginAction A := fun world =>
  let ran := body.exec identityConflict world.database
  (ran.1, { world with database := ran.2 })

/-- A call of the `PasswordHash`. -/
def exercise {A : Type} (answer : A) : LoginAction A := fun world =>
  (.ok answer, { world with hasherCalls := world.hasherCalls + 1 })

/-- `MAX_PASSWORD_LENGTH_BYTES`. -/
def maxPasswordLengthBytes : ℕ := 1024

/-- `_validate_password`. -/
def validatePassword (password : String) : Except PyError Unit :=
  let passwordLength := password.utf8ByteSize
  if passwordLength = 0 ∨ maxPasswordLengthBytes < passwordLength then
    .error (.valueError "Password length is outside the supported boundary")
  else .ok ()

/-- `PasswordHasher.hash_password`. -/
def hashPassword (hasher : PasswordHash) (password : String) : LoginAction String := do
  .ofExcept (validatePassword password)
  exercise (hasher.hash password)

/-- `PasswordHasher.verify_and_update`. -/
def verifyAndUpdate (hasher : PasswordHash) (password encodedHash : String) :
    LoginAction PasswordCheckResult := do
  .ofExcept (validatePassword password)
  match ← exercise (hasher.verifyAndUpdate password encodedHash) with
  | none => return { valid := false, updatedHash := none }
  | some (valid, updatedHash) => return { valid, updatedHash }

/-- `Argon2PasswordVerifier.verify`. -/
def verify (hasher : PasswordHash) (password : String) :
    Option String → LoginAction PasswordCheckResult
  | none => do
      let _ ← hashPassword hasher password
      return { valid := false, updatedHash := none }
  | some encodedHash => verifyAndUpdate hasher password encodedHash

/-- What the verifier answers. -/
def PasswordHash.check (hasher : PasswordHash) (password encodedHash : String) :
    PasswordCheckResult :=
  match hasher.verifyAndUpdate password encodedHash with
  | none => { valid := false, updatedHash := none }
  | some (valid, updatedHash) => { valid, updatedHash }

/-- A world in which the hasher was exercised once more. -/
def LoginWorld.exercised (world : LoginWorld) : LoginWorld :=
  { world with hasherCalls := world.hasherCalls + 1 }

/-- **The verifier exercises the hasher once**, with or without an account. -/
theorem verify_eq (hasher : PasswordHash) {password : String}
    (bounded : validatePassword password = .ok ()) (encodedHash : Option String)
    (world : LoginWorld) :
    verify hasher password encodedHash world =
      (.ok ((encodedHash.map (hasher.check password)).getD { valid := false, updatedHash := none }),
        world.exercised) := by
  rcases encodedHash with _ | encodedHash
  · show ((hashPassword hasher password >>= _) world) = _
    unfold hashPassword
    rw [bounded]
    rfl
  · show verifyAndUpdate hasher password encodedHash world = _
    unfold verifyAndUpdate
    rw [bounded]
    show (match hasher.verifyAndUpdate password encodedHash with
      | none => _
      | some (valid, updatedHash) => _ : LoginAction PasswordCheckResult) world.exercised = _
    rw [Option.map_some, Option.getD_some, PasswordHash.check]
    rcases hasher.verifyAndUpdate password encodedHash with _ | ⟨valid, updatedHash⟩ <;> rfl

/-! ## The handler -/

/-- `add_refresh_session`. -/
def addRefreshSession (session : RefreshSession) : LoginAction Unit := fun world =>
  (.ok (), { world with added := world.added ++ [session] })

/-- `AuthenticateLocalAccountHandler.handle`. -/
def handle (hasher : PasswordHash) (casefold : String → String)
    (command : AuthenticateLocalAccountCommand) : LoginAction AuthenticatedIdentity := do
  let normalizedLogin := casefold (strip command.loginIdentifier)
  let account ← onDatabase (getAccountByLogin normalizedLogin)
  let passwordCheck ← verify hasher command.password (account.map fun found => found.passwordHash)
  match account with
  | none => .raise .authenticationError
  | some account =>
      if !account.canAuthenticate || !passwordCheck.valid then .raise .authenticationError
      else do
        match ← onDatabase (getMembership account.userId command.tenantId) with
        | none => .raise .authenticationError
        | some membership =>
            if !membership.active then .raise .authenticationError
            else do
              onDatabase (updatePassword account passwordCheck.updatedHash)
              let refreshSession ←
                .ofExcept (command.issueCall account.userId membership.tenantId).session
              addRefreshSession refreshSession
              return { userId := account.userId
                       tenantId := membership.tenantId
                       sessionId := refreshSession.sessionId
                       roles := membership.roles
                       permissions := membership.permissions }

/-! ## What a login rests on -/

section

variable (hasher : PasswordHash) (casefold : String → String)
  (command : AuthenticateLocalAccountCommand) (database : List IdentityRow)

/-- The account is the one of the login identifier, active, and its password accepted. -/
def Accepts (account : IdentityAccountModel) : Prop :=
  account ∈ identityAccounts.rows database ∧
    account.loginIdentifier = casefold (strip command.loginIdentifier) ∧
    account.status = .active ∧ (hasher.check command.password account.passwordHash).valid = true

/-- The membership is the account's in the tenant, and active. -/
def Belongs (account : IdentityAccountModel) (membership : TenantMembershipModel) : Prop :=
  membership ∈ tenantMemberships.rows database ∧ membership.userId = account.userId ∧
    membership.tenantId = command.tenantId ∧ membership.status = .active

/-- **The four conditions of a login.** -/
def Authenticates : Prop := ∃ account, Accepts hasher casefold command database account ∧
  ∃ membership, Belongs command database account membership

/-- The fields that the handler is given for a session are those of one. -/
structure AuthenticateLocalAccountCommand.Issuable : Prop where
  identifiers : [command.sessionId, command.familyId, command.refreshTokenDigest].any blank = false
  idleTtl : 0 < command.idleTtl
  absoluteTtl : 0 < command.absoluteTtl

/-- What the schema and the constructors behind it guarantee of the tables of a login. -/
structure LoginStore : Prop where
  valid : ValidStore database
  logins : ((identityAccounts.rows database).map IdentityAccountModel.loginIdentifier).Nodup

/-- A hasher that upgrades a hash gives a new one. -/
def PasswordHash.Rehashes : Prop := ∀ password encodedHash updatedHash,
  (hasher.check password encodedHash).updatedHash = some updatedHash → blank updatedHash = false

/-- The database after the password of an account was hashed again, if it was. -/
def rehashed (account : IdentityAccountModel) : Option String → List IdentityRow
  | none => database
  | some updatedHash => database.map (identityAccounts.set fun stored =>
      if stored = account then { stored with
        passwordHash := updatedHash, passwordVersion := stored.passwordVersion + 1 }
      else stored)

end

section

variable {hasher : PasswordHash} {casefold : String → String}
  {command : AuthenticateLocalAccountCommand} {database : List IdentityRow}

/-- Reading by a column without repetitions finds the row with the value, or there is none. -/
theorem readOne_cases {α β γ : Type} [BEq γ] [LawfulBEq γ] {table : Relation IdentityRow α}
    {column : α → γ} {build : α → Except PyError β}
    (nodup : ((table.rows database).map column).Nodup)
    (builds : ∀ model ∈ table.rows database, ∃ found, build model = .ok found) (value : γ) :
    (∀ model ∈ table.rows database, column model ≠ value) ∧
        (readOne table (fun model => column model == value) build).exec identityConflict
          database = (.ok none, database) ∨
      ∃ model found, model ∈ table.rows database ∧ column model = value ∧
        build model = .ok found ∧
        (readOne table (fun model => column model == value) build).exec identityConflict
          database = (.ok (some found), database) := by
  rcases filter_eq_of_nodup nodup value with ⟨absent, none⟩ | ⟨model, stored, same, only⟩
  · refine .inl ⟨absent, ?_⟩
    rw [readOne, Prog.exec_selectFrom_bind, none]
    rfl
  · obtain ⟨found, built⟩ := builds model stored
    exact .inr ⟨model, found, stored, same, built, readOne_of_filter only built⟩

/-- An account is read by its login identifier, or there is none. -/
theorem getAccountByLogin_cases (store : LoginStore database) (loginIdentifier : String) :
    (∀ model ∈ identityAccounts.rows database, model.loginIdentifier ≠ loginIdentifier) ∧
        (getAccountByLogin loginIdentifier).exec identityConflict database =
          (.ok none, database) ∨
      ∃ account : LocalAccount, account.toIdentityAccountModel ∈ identityAccounts.rows database ∧
        account.loginIdentifier = loginIdentifier ∧
        (getAccountByLogin loginIdentifier).exec identityConflict database =
          (.ok (some account), database) := by
  rcases readOne_cases store.logins store.valid.account loginIdentifier with
    absent | ⟨model, account, stored, same, built, read⟩
  · exact .inl absent
  · have fields := LocalAccount.toModel_of_ofModel built
    exact .inr ⟨account, by rw [fields]; exact stored, by rw [fields]; exact same, read⟩

/-- A membership is read by its user and its tenant, or there is none. -/
theorem getMembership_cases (valid : ValidStore database) (userId tenantId : String) :
    (∀ model ∈ tenantMemberships.rows database,
        ¬(model.userId = userId ∧ model.tenantId = tenantId)) ∧
        (getMembership userId tenantId).exec identityConflict database = (.ok none, database) ∨
      ∃ membership : TenantMembership,
        membership.toTenantMembershipModel ∈ tenantMemberships.rows database ∧
        membership.userId = userId ∧ membership.tenantId = tenantId ∧
        (getMembership userId tenantId).exec identityConflict database =
          (.ok (some membership), database) := by
  by_cases found : ∃ model ∈ tenantMemberships.rows database,
      model.userId = userId ∧ model.tenantId = tenantId
  · obtain ⟨model, stored, rfl, rfl⟩ := found
    obtain ⟨membership, rfl, read⟩ := getMembership_of_mem valid stored
    exact .inr ⟨membership, stored, rfl, rfl, read⟩
  · have absent : ∀ model ∈ tenantMemberships.rows database,
        ¬(model.userId = userId ∧ model.tenantId = tenantId) :=
      fun model stored same => found ⟨model, stored, same⟩
    have none : (tenantMemberships.rows database).filter
        (fun model => model.userId == userId && model.tenantId == tenantId) = [] :=
      List.filter_eq_nil_iff.2 fun model stored => by simpa using absent model stored
    refine .inl ⟨absent, ?_⟩
    rw [getMembership, Prog.exec_selectFrom_bind, none]
    rfl

/-- The password update of a login hashes the account's password again. -/
theorem exec_updatePassword (valid : ValidStore database) {account : LocalAccount}
    (stored : account.toIdentityAccountModel ∈ identityAccounts.rows database)
    {updatedHash : Option String} (usable : ∀ hash ∈ updatedHash, blank hash = false) :
    (updatePassword account updatedHash).exec identityConflict database =
      (.ok (), rehashed database account.toIdentityAccountModel updatedHash) := by
  rcases updatedHash with _ | updatedHash
  · rfl
  have identifiers : [account.userId, account.loginIdentifier, updatedHash].any blank = false := by
    have given := account.identifiers
    simp only [List.any_cons, List.any_nil, Bool.or_false, Bool.or_eq_false_iff] at given ⊢
    exact ⟨given.1, given.2.1, usable updatedHash rfl⟩
  have version : (1 : ℤ) ≤ account.passwordVersion + 1 := by
    have positive := account.version_pos
    omega
  rw [updatePassword, LocalAccount.replacePassword, LocalAccount.ofModel, dif_pos identifiers,
    dif_pos version, Prog.bind_ofExcept_ok, updatePasswordHash, Prog.exec_updateIn_bind]
  show ((Except.ok (), _) : Except PyError Unit × List IdentityRow) = (Except.ok (), _)
  congr 1
  refine List.map_congr_left fun row member => ?_
  -- The rows of one user are one row.
  rcases read : identityAccounts.read row with _ | model
  · simp only [Relation.set, read]
  · have here : model ∈ identityAccounts.rows database :=
      List.mem_filterMap.2 ⟨row, member, read⟩
    simp only [Relation.set, read]
    by_cases same : model = account.toIdentityAccountModel
    · rw [if_pos same, if_pos (by rw [same]; exact beq_self_eq_true _), same]
    · rw [if_neg same, if_neg ?_]
      intro sameUser
      exact same (List.inj_on_of_nodup_map valid.userIds here stored (beq_iff_eq.1 sameUser))

/-- A session can be issued for a user and a tenant. -/
theorem session_of_issuable (issuable : command.Issuable) {userId tenantId : String}
    (user : blank userId = false) (tenant : blank tenantId = false) :
    ∃ session, (command.issueCall userId tenantId).session = .ok session := by
  have positive : ∀ {value : Duration}, 0 < value →
      RefreshSession.validatePositiveTtl value = .ok () := by
    intro value above
    rw [RefreshSession.validatePositiveTtl, if_neg (not_le.2 above)]
  have identifiers := issuable.identifiers
  simp only [List.any_cons, List.any_nil, Bool.or_false, Bool.or_eq_false_iff] at identifiers
  unfold IssueCall.session RefreshSession.issue AuthenticateLocalAccountCommand.issueCall
  dsimp only
  rw [positive issuable.idleTtl, positive issuable.absoluteTtl]
  have valid : RefreshSessionModel.Valid {
      sessionId := command.sessionId
      familyId := command.familyId
      userId := userId
      tenantId := tenantId
      tokenDigest := command.refreshTokenDigest
      issuedAt := command.authenticatedAt
      idleExpiresAt := min (command.authenticatedAt + command.idleTtl)
        (command.authenticatedAt + command.absoluteTtl)
      absoluteExpiresAt := command.authenticatedAt + command.absoluteTtl
      consumedAt := none
      revokedAt := none } :=
    ⟨by simp [identifiers, user, tenant], min_le_right _ _⟩
  obtain ⟨session, built, -⟩ := RefreshSession.ofModel_of_valid valid
  exact ⟨session, built⟩

/-- What a login returns and leaves behind. -/
inductive HandleEffect (hasher : PasswordHash) (casefold : String → String)
    (command : AuthenticateLocalAccountCommand) (world : LoginWorld) :
    Except PyError AuthenticatedIdentity × LoginWorld → Prop
  | refused (unmet : ¬Authenticates hasher casefold command world.database) :
      HandleEffect hasher casefold command world (.error .authenticationError, world.exercised)
  | authenticated {account : LocalAccount} {membership : TenantMembership}
      {session : RefreshSession}
      (accepts : Accepts hasher casefold command world.database account.toIdentityAccountModel)
      (belongs : Belongs command world.database account.toIdentityAccountModel
        membership.toTenantMembershipModel)
      (issued : (command.issueCall account.userId membership.tenantId).session = .ok session) :
      HandleEffect hasher casefold command world
        (.ok { userId := account.userId
               tenantId := membership.tenantId
               sessionId := session.sessionId
               roles := membership.roles
               permissions := membership.permissions },
          { database := rehashed world.database account.toIdentityAccountModel
              (hasher.check command.password account.passwordHash).updatedHash
            added := world.added ++ [session]
            hasherCalls := world.hasherCalls + 1 })

/-- An account whose password is accepted is the only one of its login identifier. -/
theorem Accepts.unique (store : LoginStore database) {account other : IdentityAccountModel}
    (stored : account ∈ identityAccounts.rows database)
    (same : account.loginIdentifier = casefold (strip command.loginIdentifier))
    (accepts : Accepts hasher casefold command database other) : other = account :=
  List.inj_on_of_nodup_map store.logins accepts.1 stored (accepts.2.1.trans same.symm)

theorem onDatabase_of_exec {A : Type} {body : IdentityProg A} {world : LoginWorld}
    {outcome : Except PyError A} {later : List IdentityRow}
    (ran : body.exec identityConflict world.database = (outcome, later)) :
    onDatabase body world = (outcome, { world with database := later }) := by
  rw [onDatabase, ran]

/-- What the handler does for an account in a tenant. -/
theorem grant_eq (world : LoginWorld) (store : LoginStore world.database)
    (rehashes : hasher.Rehashes) (issuable : command.Issuable) {account : LocalAccount}
    (stored : account.toIdentityAccountModel ∈ identityAccounts.rows world.database)
    (membership : TenantMembership) :
    let updatedHash := (hasher.check command.password account.passwordHash).updatedHash
    ∃ session, (command.issueCall account.userId membership.tenantId).session = .ok session ∧
      (do
        onDatabase (updatePassword account updatedHash)
        let refreshSession ← .ofExcept (command.issueCall account.userId membership.tenantId).session
        addRefreshSession refreshSession
        return { userId := account.userId
                 tenantId := membership.tenantId
                 sessionId := refreshSession.sessionId
                 roles := membership.roles
                 permissions := membership.permissions } : LoginAction AuthenticatedIdentity) world =
        (.ok { userId := account.userId
               tenantId := membership.tenantId
               sessionId := session.sessionId
               roles := membership.roles
               permissions := membership.permissions },
          { world with
            database := rehashed world.database account.toIdentityAccountModel updatedHash
            added := world.added ++ [session] }) := by
  intro updatedHash
  have nonblank := account.identifiers
  have nonblank' := membership.identifiers
  simp only [List.any_cons, List.any_nil, Bool.or_false, Bool.or_eq_false_iff] at nonblank nonblank'
  obtain ⟨session, issued⟩ := session_of_issuable issuable nonblank.1 nonblank'.2.2
  have updated := onDatabase_of_exec (exec_updatePassword store.valid stored
    fun hash given => rehashes command.password account.passwordHash hash given)
  refine ⟨session, issued, ?_⟩
  rw [Action.bind_of_ok updated, issued]
  rfl

/-- **A login that meets the four conditions adds one session, and any other one is refused
alike.** -/
theorem handle_effect {world : LoginWorld} (store : LoginStore world.database)
    (rehashes : hasher.Rehashes) (bounded : validatePassword command.password = .ok ())
    (issuable : command.Issuable) :
    HandleEffect hasher casefold command world (handle hasher casefold command world) := by
  unfold handle
  rcases getAccountByLogin_cases store (casefold (strip command.loginIdentifier)) with
    ⟨absent, read⟩ | ⟨account, stored, same, read⟩
  · -- Without an account the hasher works all the same.
    rw [Action.bind_of_ok (onDatabase_of_exec read),
      Action.bind_of_ok (verify_eq hasher bounded _ world)]
    refine .refused ?_
    rintro ⟨other, accepts, -⟩
    exact absent other accepts.1 accepts.2.1
  rw [Action.bind_of_ok (onDatabase_of_exec read),
    Action.bind_of_ok (verify_eq hasher bounded _ world)]
  dsimp only
  rw [Option.map_some, Option.map_some, Option.getD_some]
  by_cases accepted : account.status = .active ∧
      (hasher.check command.password account.passwordHash).valid = true
  case neg =>
    rw [if_pos (by
      rw [LocalAccount.canAuthenticate]
      by_contra refused
      exact accepted (by simpa using refused))]
    refine .refused ?_
    rintro ⟨other, accepts, -⟩
    rw [Accepts.unique store stored same accepts] at accepts
    exact accepted accepts.2.2
  have accepts : Accepts hasher casefold command world.database account.toIdentityAccountModel :=
    ⟨stored, same, accepted⟩
  rw [if_neg (by simp [LocalAccount.canAuthenticate, accepted.1, accepted.2])]
  rcases getMembership_cases store.valid account.userId command.tenantId with
    ⟨absent, read'⟩ | ⟨membership, member, user, tenant, read'⟩
  · have asked : onDatabase (getMembership account.userId command.tenantId) world.exercised =
        (.ok none, world.exercised) := onDatabase_of_exec read'
    rw [Action.bind_of_ok asked]
    refine .refused ?_
    rintro ⟨other, accepts', belonging, belongs⟩
    rw [Accepts.unique store stored same accepts'] at belongs
    exact absent belonging belongs.1 ⟨belongs.2.1, belongs.2.2.1⟩
  have asked : onDatabase (getMembership account.userId command.tenantId) world.exercised =
      (.ok (some membership), world.exercised) := onDatabase_of_exec read'
  rw [Action.bind_of_ok asked]
  dsimp only
  by_cases active : membership.status = .active
  case neg =>
    rw [if_pos (by simpa [TenantMembership.active] using active)]
    refine .refused ?_
    rintro ⟨other, accepts', belonging, belongs⟩
    rw [Accepts.unique store stored same accepts'] at belongs
    have isMembership := List.inj_on_of_nodup_map store.valid.memberships belongs.1 member
      (by rw [belongs.2.1, belongs.2.2.1, user, tenant])
    rw [isMembership] at belongs
    exact active belongs.2.2.2
  rw [if_neg (by simp [TenantMembership.active, active])]
  obtain ⟨session, issued, granted⟩ :=
    grant_eq world.exercised store rehashes issuable stored membership
  rw [granted]
  exact .authenticated accepts ⟨member, user, tenant, active⟩ issued

/-- The ports of the login transaction, with the verifier's answers. -/
def PasswordHash.services (hasher : PasswordHash) (casefold : String → String) : LoginServices where
  verify password encodedHash :=
    (encodedHash.map (hasher.check password)).getD { valid := false, updatedHash := none }
  casefold := casefold

/-- An action is a transaction body, up to what it counts and adds. -/
def Follows {A B : Type} (project : B → A) (action : LoginAction A) (body : IdentityProg B) :
    Prop :=
  ∀ world, (action world).1 = (body.exec identityConflict world.database).1.map project ∧
    (action world).2.database = (body.exec identityConflict world.database).2

namespace Follows

variable {A B C : Type} {project : B → A}

theorem raise (error : PyError) : Follows project (.raise error) (Prog.raise error) :=
  fun _ => ⟨rfl, rfl⟩

theorem onDatabase_bind {body : IdentityProg C} {next : C → LoginAction A}
    {next' : C → IdentityProg B} (rest : ∀ result, Follows project (next result) (next' result)) :
    Follows project (onDatabase body >>= next) (body >>= next') := by
  intro world
  rw [Prog.exec_bind]
  rcases ran : body.exec identityConflict world.database with ⟨error | result, later⟩
  · rw [Action.bind_of_error (onDatabase_of_exec ran)]
    exact ⟨rfl, rfl⟩
  · rw [Action.bind_of_ok (onDatabase_of_exec ran)]
    exact rest result _

/-- A step that leaves the database alone. -/
theorem quiet_bind {action : LoginAction C} {next : C → LoginAction A} {body : IdentityProg B}
    {result : C} (quiet : ∀ world, (action world).1 = .ok result ∧
      (action world).2.database = world.database) (rest : Follows project (next result) body) :
    Follows project (action >>= next) body := by
  intro world
  rcases ran : action world with ⟨outcome, later⟩
  obtain ⟨returned, same⟩ := quiet world
  rw [ran] at returned same
  rw [Action.bind_of_ok (by rw [ran, ← returned]), ← show later.database = world.database from same]
  exact rest later

end Follows

/-- **The handler is the one of the login transaction**, which counts no calls. -/
theorem follows_authenticateLocalAccount (bounded : validatePassword command.password = .ok ()) :
    Follows Prod.fst (handle hasher casefold command)
      (authenticateLocalAccount (hasher.services casefold) command) := by
  unfold handle authenticateLocalAccount checkCredentials
  rw [Prog.bind_assoc]
  refine Follows.onDatabase_bind fun account => ?_
  refine Follows.quiet_bind (fun world => by rw [verify_eq hasher bounded]; exact ⟨rfl, rfl⟩) ?_
  rcases account with _ | account
  · exact .raise _
  dsimp only
  rw [Option.map_some, Option.map_some, Option.getD_some]
  have same : (hasher.services casefold).verify command.password (some account.passwordHash) =
      hasher.check command.password account.passwordHash := rfl
  rw [same]
  by_cases refused : (!account.canAuthenticate ||
      !(hasher.check command.password account.passwordHash).valid) = true
  · rw [if_pos refused, if_pos refused]
    exact .raise _
  rw [if_neg refused, if_neg refused, Prog.bind_assoc]
  refine Follows.onDatabase_bind fun membership => ?_
  rcases membership with _ | membership
  · exact .raise _
  dsimp only
  by_cases inactive : (!membership.active) = true
  · rw [if_pos inactive, if_pos inactive]
    exact .raise _
  rw [if_neg inactive, if_neg inactive]
  refine Follows.onDatabase_bind fun _ => ?_
  rcases (command.issueCall account.userId membership.tenantId).session with error | session
  · exact .raise _
  · exact fun world => ⟨rfl, rfl⟩

theorem validatePassword_of_bounded {password : String} (nonempty : 1 ≤ password.utf8ByteSize)
    (short : password.utf8ByteSize ≤ maxPasswordLengthBytes) :
    validatePassword password = .ok () := by
  unfold validatePassword
  dsimp only
  rw [if_neg (by omega)]

end

/-! ### A login -/

/-- A store with one account in one tenant. -/
def annStore : LoginWorld where
  database := [.identityAccount ⟨"u", "ann", "old", .active, 1⟩,
    .tenantMembership ⟨"m", "u", "t", .active⟩]
  added := []
  hasherCalls := 0

/-- Ann logs in. -/
def annLogin : AuthenticateLocalAccountCommand :=
  ⟨" Ann ", "secret", "t", "s", "f", "d", 0, 10 * second, 100 * second⟩

/-- A hasher that accepts one password and upgrades its hash. -/
def annHasher : PasswordHash where
  hash password := "new:" ++ password
  verifyAndUpdate password _ :=
    if password = "secret" then some (true, some "new:secret") else some (false, none)

theorem loginStore_annStore : LoginStore annStore.database where
  valid := {
    userIds := by decide
    account := fun model member => by
      rw [List.mem_singleton.1 (show model ∈ [_] from member)]
      exact ⟨⟨⟨"u", "ann", "old", .active, 1⟩, by decide, by decide⟩, by decide⟩
    memberships := by decide
    membership := by decide
    roleCodes := by decide
    permissionCodes := by decide }
  logins := by decide

theorem rehashes_annHasher : annHasher.Rehashes := by
  intro password encodedHash updatedHash upgraded
  simp only [PasswordHash.check, annHasher] at upgraded
  by_cases right : password = "secret"
  · simp only [if_pos right, Option.some.injEq] at upgraded
    rw [← upgraded]
    decide
  · simp only [if_neg right] at upgraded
    cases upgraded

end BidSystem.Identity
