import BidSystem.Identity.Login

/-!
# A refresh by itself

What the refresh transaction can raise.  On the tables that the schema and the constructors
allow, with a presented digest that can be compared and a replacement that is new, only
`ResolveIdentityHandler` refuses, and with `AuthenticationError`.

* `rotateTransaction_returns` — the rotation always has a result.
* `refreshTransaction_error` — what the transaction raises is `AuthenticationError`.
-/

namespace BidSystem.Identity

open ReadCommitted

/-- What the schema and the constructors behind it guarantee of the tables of a refresh. -/
structure RefreshStore (database : List IdentityRow) : Prop where
  valid : ValidStore database
  unique : UniqueSessions (refreshSessions.rows database)
  sessions : ∀ session ∈ refreshSessions.rows database, session.Valid

/-- The presented digest can be compared, and the replacement is a new session. -/
structure RotateCall.Replaceable (call : RotateCall) (database : List IdentityRow) : Prop where
  idleTtl : 0 < call.idleTtl
  comparable : isAscii call.presentedDigest = true
  replacement : [call.replacementSessionId, call.replacementDigest].any blank = false
  fresh : ∀ session ∈ refreshSessions.rows database,
    session.sessionId ≠ call.replacementSessionId ∧
      session.tokenDigest ≠ call.replacementDigest

section

variable {database : List IdentityRow}

/-! ## The rotation -/

/-- A rotation refuses or fails only as a session does. -/
theorem rotate_error {current : RefreshSession} {call : RotateCall}
    (replaceable : call.Replaceable database) (same : current.tokenDigest = call.presentedDigest)
    {error : PyError}
    (raised : current.rotate call.presentedDigest call.replacementSessionId call.replacementDigest
      call.rotatedAt call.idleTtl = .error error) :
    error = .invalidRefreshSession ∨ ∃ familyId, error = .refreshTokenReplay familyId := by
  have positive : RefreshSession.validatePositiveTtl call.idleTtl = .ok () := by
    rw [RefreshSession.validatePositiveTtl, if_neg (not_le.2 replaceable.idleTtl)]
  have equal : compareDigest current.tokenDigest call.presentedDigest = .ok true := by
    rw [same, compareDigest_self, if_pos replaceable.comparable]
  -- The replacement takes its other fields from a session that has been built.
  have valid : RefreshSessionModel.Valid (call.replacement current.toRefreshSessionModel) := by
    refine ⟨?_, min_le_right _ _⟩
    have identifiers := current.identifiers
    have replacement := replaceable.replacement
    simp only [RotateCall.replacement, List.any_cons, List.any_nil, Bool.or_false,
      Bool.or_eq_false_iff] at identifiers replacement ⊢
    exact ⟨replacement.1, identifiers.2.1, identifiers.2.2.1, identifiers.2.2.2.1, replacement.2⟩
  obtain ⟨session, built, -⟩ := RefreshSession.ofModel_of_valid valid
  unfold RefreshSession.rotate at raised
  rw [positive, equal] at raised
  by_cases consumed : current.consumedAt.isSome = true
  · refine .inr ⟨current.familyId, ?_⟩
    simpa [bind, Except.bind, throw, throwThe, MonadExceptOf.throw, consumed, eq_comm] using raised
  by_cases unusable : (current.revokedAt.isSome || current.idleExpiresAt ≤ call.rotatedAt ||
      current.absoluteExpiresAt ≤ call.rotatedAt) = true
  · refine .inl ?_
    simpa [bind, Except.bind, throw, throwThe, MonadExceptOf.throw, consumed, unusable, eq_comm]
      using raised
  · unfold RotateCall.replacement at built
    simp [bind, Except.bind, pure, Except.pure, consumed, unusable, built] at raised

/-- **A rotation of a replaceable session returns**, whatever it answers. -/
theorem rotateTransaction_returns {call : RotateCall} (store : RefreshStore database)
    (replaceable : call.Replaceable database) :
    ∃ rotation, ((rotateTransaction call).exec identityConflict database).1 = .ok rotation := by
  unfold rotateTransaction rotateRefreshSession
  rw [Prog.bind_assoc, Prog.exec_lockFrom_bind]
  rcases filter_eq_of_nodup store.unique.digests call.presentedDigest with
    ⟨absent, none⟩ | ⟨model, member, digest, only⟩
  · rw [none]
    exact ⟨_, rfl⟩
  rw [only]
  show ∃ rotation, ((rotateLocked call model >>= fun outcome =>
    flush outcome.2 >>= fun _ => pure outcome.1).exec identityConflict database).1 = .ok rotation
  obtain ⟨current, built, rfl⟩ := RefreshSession.ofModel_of_valid (store.sessions model member)
  unfold rotateLocked
  rw [built, Prog.bind_ofExcept_ok]
  have outcome := RefreshSession.rotate_outcome current call.presentedDigest
    call.replacementSessionId call.replacementDigest call.rotatedAt call.idleTtl
  rcases rotation : current.rotate call.presentedDigest call.replacementSessionId
    call.replacementDigest call.rotatedAt call.idleTtl with error | ⟨consumed, replacement⟩
  · rcases rotate_error replaceable digest rotation with rfl | ⟨familyId, rfl⟩
    · exact ⟨_, rfl⟩
    · dsimp only
      rw [Prog.bind_assoc, exec_revokeFamily]
      exact ⟨_, rfl⟩
  rw [rotation] at outcome
  rcases outcome with ⟨_, -, -, -, -, -, fields⟩
  have issuedAt : replacement.issuedAt = call.rotatedAt :=
    congrArg RefreshSessionModel.issuedAt fields
  have isNew : Prog.violated identityConflict database
      (refreshSessions.make replacement.toRefreshSessionModel) = none := by
    rw [violated_refreshSession_eq_none, fields]
    exact replaceable.fresh
  have consumedAt : (current.consume call.rotatedAt).consumedAt = some replacement.issuedAt := by
    rw [issuedAt]
    rfl
  dsimp only
  rw [consumedAt, Prog.pure_eq, Prog.bind_done, exec_flush_rotation store.unique member, isNew]
  exact ⟨_, rfl⟩

/-- A rotation keeps what the tables guarantee. -/
theorem RefreshStore.rotated (store : RefreshStore database)
    {presented replacement : RefreshSessionModel}
    (mintable : SessionEvent.Mintable replacement (refreshSessions.rows database)) :
    RefreshStore ((SessionEvent.rotated presented replacement).store database) where
  valid := store.valid.store _
  unique := by
    rw [SessionEvent.rows_store]
    refine store.unique.apply fun session minted => ?_
    cases minted
    exact mintable.fresh
  sessions := by
    rw [SessionEvent.rows_store]
    intro session member
    rcases SessionEvent.mem_apply.1 member with ⟨earlier, stored, rfl⟩ | minted
    · rw [RefreshSessionModel.Valid.of_minted (SessionEvent.minted_touch _ earlier)]
      exact store.sessions earlier stored
    · cases minted
      exact mintable.valid

/-! ## The identity -/

/-- Reading by a column without repetitions returns. -/
theorem readOne_returns {α β γ : Type} [BEq γ] [LawfulBEq γ] {table : Relation IdentityRow α}
    {column : α → γ} {build : α → Except PyError β}
    (nodup : ((table.rows database).map column).Nodup)
    (builds : ∀ model ∈ table.rows database, ∃ found, build model = .ok found) (value : γ) :
    ∃ found, (readOne table (fun model => column model == value) build).exec identityConflict
      database = (.ok found, database) := by
  rcases readOne_cases nodup builds value with ⟨-, read⟩ | ⟨_, found, -, -, -, read⟩
  · exact ⟨none, read⟩
  · exact ⟨some found, read⟩

/-- **`ResolveIdentityHandler` refuses only with `AuthenticationError`.** -/
theorem resolveIdentity_error (store : RefreshStore database) (query : ResolveIdentityQuery)
    {error : PyError}
    (raised : ((resolveIdentity query).exec identityConflict database).1 = .error error) :
    error = .authenticationError := by
  obtain ⟨account, readAccount⟩ : ∃ account,
      (getAccount query.userId).exec identityConflict database = (.ok account, database) :=
    readOne_returns store.valid.userIds store.valid.account query.userId
  obtain ⟨membership, readMembership⟩ : ∃ membership,
      (getMembership query.userId query.tenantId).exec identityConflict database =
        (.ok membership, database) := by
    rcases getMembership_cases store.valid query.userId query.tenantId with
      ⟨-, read⟩ | ⟨membership, -, -, -, read⟩
    · exact ⟨_, read⟩
    · exact ⟨_, read⟩
  obtain ⟨session, readSession⟩ : ∃ session,
      (getSession query.sessionId).exec identityConflict database = (.ok session, database) := by
    refine readOne_returns store.unique.ids (fun model stored => ?_) query.sessionId
    obtain ⟨session, built, -⟩ := RefreshSession.ofModel_of_valid (store.sessions model stored)
    exact ⟨session, built⟩
  rw [resolveIdentity, Prog.exec_bind, readAccount] at raised
  dsimp only at raised
  rw [Prog.exec_bind, readMembership] at raised
  dsimp only at raised
  rw [Prog.exec_bind, readSession] at raised
  dsimp only at raised
  split at raised
  · split_ifs at raised
    · cases raised
    · exact (Except.error.inj raised).symm
  · exact (Except.error.inj raised).symm

/-! ## The transaction -/

/-- **What a refresh raises is `AuthenticationError`.** -/
theorem refreshTransaction_error {call : RotateCall} (store : RefreshStore database)
    (replaceable : call.Replaceable database) {error : PyError}
    (raised : ((refreshTransaction call).exec identityConflict database).1 = .error error) :
    error = .authenticationError := by
  have effect := rotateTransaction_effect call store.unique
  obtain ⟨rotation, returned⟩ := rotateTransaction_returns store replaceable
  rw [refreshTransaction] at raised
  rcases Prog.of_exec_bind_error identityConflict raised with failed | ⟨result, later, ran, raised⟩
  · rw [returned] at failed
    cases failed
  rw [ran] at effect
  cases effect with
  | rotated member digest unconsumed unrevoked inTime fields mintable =>
      rcases Prog.of_exec_bind_error identityConflict raised with refused | ⟨identity, _, _, ended⟩
      · exact resolveIdentity_error (store.rotated mintable) _ refused
      · cases ended
  | replayed member digest consumed => cases raised
  | invalid unconsumed => cases raised

end

end BidSystem.Identity
