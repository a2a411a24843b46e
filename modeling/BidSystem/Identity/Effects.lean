import BidSystem.Identity.SessionTable

/-!
# The effect of each identity transaction

One lemma for each operation of the repository, run alone on a database with
unique session ids and digests: what it returns and which `SessionEvent` it
leaves behind.  Later modules use these lemmas and never unfold the programs.
-/

namespace BidSystem.Identity

open ReadCommitted

/-- The unique constraints of `refresh_session` hold. -/
structure UniqueSessions (sessions : List RefreshSessionModel) : Prop where
  ids : (sessions.map RefreshSessionModel.sessionId).Nodup
  digests : (sessions.map RefreshSessionModel.tokenDigest).Nodup

theorem SessionHistory.unique {events : List SessionEvent} {sessions : List RefreshSessionModel}
    (history : SessionHistory events sessions) : UniqueSessions sessions :=
  ⟨history.ids, history.digests⟩

/-- An event whose session is new keeps the constraints. -/
theorem UniqueSessions.apply {event : SessionEvent} {sessions : List RefreshSessionModel}
    (unique : UniqueSessions sessions)
    (fresh : ∀ session, event.minted = some session → ∀ old ∈ sessions,
      old.sessionId ≠ session.sessionId ∧ old.tokenDigest ≠ session.tokenDigest) :
    UniqueSessions (event.apply sessions) :=
  ⟨SessionHistory.nodup_apply _ event.sessionId_touch unique.ids
      fun session created old member => (fresh session created old member).1,
    SessionHistory.nodup_apply _ event.tokenDigest_touch unique.digests
      fun session created old member => (fresh session created old member).2⟩

/-! ## Flushing and revoking -/

section Statements

variable {A : Type} (database : List IdentityRow)

/-- Flushing one new session. -/
theorem exec_flushNew (session : RefreshSessionModel) (next : Unit → IdentityProg A) :
    (flushNew [session] >>= next).exec identityConflict database =
      match Prog.violated identityConflict database (refreshSessions.make session) with
      | some constraint => (.error (.integrityError constraint), database)
      | none =>
          (next ()).exec identityConflict (database ++ [refreshSessions.make session]) := by
  rw [flushNew, Prog.bind_assoc, Prog.exec_insertInto_bind]
  cases Prog.violated identityConflict database (refreshSessions.make session) with
  | none => rfl
  | some constraint => rfl

/-- The `UPDATE` of a family revocation. -/
theorem exec_revokeFamily (presented : RefreshSessionModel) (revokedAt : Instant)
    (next : Unit → IdentityProg A) :
    (revokeFamily presented.familyId revokedAt >>= next).exec identityConflict database =
      (next ()).exec identityConflict ((SessionEvent.revoked presented revokedAt).store database) := by
  rw [revokeFamily, Prog.bind_assoc, Prog.exec_updateIn_bind]
  have stored : database.map (refreshSessions.set fun row =>
      if unrevokedIn presented.familyId row then revokedBy revokedAt row else row) =
        (SessionEvent.revoked presented revokedAt).store database := by
    rw [SessionEvent.store, SessionEvent.minted, Option.toList_none, List.map_nil,
      List.append_nil]
    rfl
  rw [stored]
  rfl

/-- Flushing the consumed session of a rotation, which is there. -/
theorem exec_flushDirty {database : List IdentityRow}
    (unique : UniqueSessions (refreshSessions.rows database))
    {presented replacement : RefreshSessionModel}
    (member : presented ∈ refreshSessions.rows database) (next : Unit → IdentityProg A) :
    (flushDirty [{ presented with consumedAt := some replacement.issuedAt }] >>= next).exec
        identityConflict database =
      (next ()).exec identityConflict (database.map
        (refreshSessions.set (SessionEvent.rotated presented replacement).touch)) := by
  have found : (refreshSessions.rows database).countP
      (fun stored => stored.sessionId == presented.sessionId) = 1 := by
    rw [List.countP_eq_length_filter]
    rcases filter_eq_of_nodup unique.ids presented.sessionId with ⟨absent, _⟩ | ⟨row, _, _, only⟩
    · exact absurd rfl (absent presented member)
    · rw [only]
      rfl
  rw [flushDirty, Prog.bind_assoc, Prog.exec_updateIn_bind, found, if_pos rfl, flushDirty]
  rfl

/-- Consuming a session does not change which sessions can be inserted. -/
theorem violated_map_touch (database : List IdentityRow) (event : SessionEvent)
    (session : RefreshSessionModel) :
    Prog.violated identityConflict (database.map (refreshSessions.set event.touch))
        (refreshSessions.make session) =
      Prog.violated identityConflict database (refreshSessions.make session) := by
  unfold Prog.violated
  rw [List.findSome?_map]
  congr 1
  funext stored
  cases stored with
  | refreshSession old => simp [identityConflict, refreshSessions, Relation.set]
  | _ => rfl

/-- Flushing a rotation: only the replacement's constraints can fail. -/
theorem exec_flush_rotation {database : List IdentityRow}
    (unique : UniqueSessions (refreshSessions.rows database))
    {presented replacement : RefreshSessionModel}
    (member : presented ∈ refreshSessions.rows database) (next : Unit → IdentityProg A) :
    (flush { dirty := [{ presented with consumedAt := some replacement.issuedAt }]
             new := [replacement] } >>= next).exec identityConflict database =
      match Prog.violated identityConflict database (refreshSessions.make replacement) with
      | some constraint => (.error (.integrityError constraint),
          database.map (refreshSessions.set (SessionEvent.rotated presented replacement).touch))
      | none => (next ()).exec identityConflict
          ((SessionEvent.rotated presented replacement).store database) := by
  rw [flush, Prog.bind_assoc, exec_flushDirty unique member, exec_flushNew, violated_map_touch]
  rfl

end Statements

/-! ## Rotation -/

/-- The fields of a replacement session. -/
def RotateCall.replacement (call : RotateCall) (presented : RefreshSessionModel) :
    RefreshSessionModel where
  sessionId := call.replacementSessionId
  familyId := presented.familyId
  userId := presented.userId
  tenantId := presented.tenantId
  tokenDigest := call.replacementDigest
  issuedAt := call.rotatedAt
  idleExpiresAt := min (call.rotatedAt + call.idleTtl) presented.absoluteExpiresAt
  absoluteExpiresAt := presented.absoluteExpiresAt
  consumedAt := none
  revokedAt := none

/-- What a rotation returns and leaves behind. -/
inductive RotateEffect (call : RotateCall) (database : List IdentityRow) :
    Except PyError RefreshRotationResult × List IdentityRow → Prop
  | rotated {presented : RefreshSessionModel} {replacement : RefreshSession}
      (member : presented ∈ refreshSessions.rows database)
      (digest : presented.tokenDigest = call.presentedDigest)
      (unconsumed : presented.consumedAt = none) (unrevoked : presented.revokedAt = none)
      (inTime : call.rotatedAt < presented.idleExpiresAt)
      (fields : replacement.toRefreshSessionModel = call.replacement presented)
      (mintable : SessionEvent.Mintable replacement.toRefreshSessionModel
        (refreshSessions.rows database)) :
      RotateEffect call database (.ok ⟨.rotated, some replacement⟩,
        (SessionEvent.rotated presented replacement.toRefreshSessionModel).store database)
  | replayed {presented : RefreshSessionModel}
      (member : presented ∈ refreshSessions.rows database)
      (digest : presented.tokenDigest = call.presentedDigest)
      (consumed : presented.consumedAt.isSome = true) :
      RotateEffect call database (.ok ⟨.replayRevoked, none⟩,
        (SessionEvent.revoked presented call.rotatedAt).store database)
  | invalid (unconsumed : ∀ session ∈ refreshSessions.rows database,
        session.tokenDigest = call.presentedDigest → session.consumedAt = none) :
      RotateEffect call database (.ok ⟨.invalid, none⟩, database)
  | failed (error : PyError) (database' : List IdentityRow) :
      RotateEffect call database (.error error, database')

section Rotate

variable {database : List IdentityRow} {call : RotateCall}

/-- The effect of a rotation whose `SELECT ... FOR UPDATE` found a session. -/
theorem rotateLocked_effect (unique : UniqueSessions (refreshSessions.rows database))
    {model : RefreshSessionModel} (member : model ∈ refreshSessions.rows database)
    (digest : model.tokenDigest = call.presentedDigest) :
    RotateEffect call database ((rotateLocked call model >>= fun outcome =>
      flush outcome.2 >>= fun _ => pure outcome.1).exec identityConflict database) := by
  unfold rotateLocked
  cases built : RefreshSession.ofModel model with
  | error error => exact .failed error database
  | ok current =>
      have sameModel := RefreshSession.toModel_of_ofModel built
      rw [Prog.bind_ofExcept_ok]
      have outcome := RefreshSession.rotate_outcome current call.presentedDigest
        call.replacementSessionId call.replacementDigest call.rotatedAt call.idleTtl
      generalize current.rotate call.presentedDigest call.replacementSessionId
        call.replacementDigest call.rotatedAt call.idleTtl = rotation at outcome
      cases outcome with
      | rotated replacement positive unconsumed unrevoked idle absolute fields =>
          rw [sameModel] at unconsumed unrevoked idle fields
          have consumedAt : (current.consume call.rotatedAt).consumedAt =
              some replacement.issuedAt := by
            rw [congrArg RefreshSessionModel.issuedAt fields]
            rfl
          dsimp only
          rw [consumedAt, Prog.pure_eq, Prog.bind_done, exec_flush_rotation unique member]
          cases violation : Prog.violated identityConflict database
              (refreshSessions.make replacement.toRefreshSessionModel) with
          | some constraint => exact .failed _ _
          | none =>
              refine .rotated member digest unconsumed unrevoked idle fields ?_
              refine ⟨?_, replacement.valid,
                violated_refreshSession_eq_none.mp violation⟩
              rw [fields]
              rfl
      | replay consumed =>
          rw [sameModel] at consumed
          dsimp only
          rw [sameModel, Prog.bind_assoc, exec_revokeFamily]
          exact .replayed member digest consumed
      | invalid refused =>
          refine .invalid fun session sessionMember sameDigest => ?_
          have same : session = model :=
            List.inj_on_of_nodup_map unique.digests sessionMember member
              (sameDigest.trans digest.symm)
          rw [sameModel] at refused
          rw [same]
          exact refused.resolve_left fun other => other digest
      | failed error other notReplay =>
          cases error with
          | invalidRefreshSession => exact absurd rfl other
          | refreshTokenReplay familyId => exact absurd rfl (notReplay familyId)
          | _ => exact .failed _ _

/-- **The effect of `rotate_refresh_session` as a transaction of its own.** -/
theorem rotateTransaction_effect (call : RotateCall)
    (unique : UniqueSessions (refreshSessions.rows database)) :
    RotateEffect call database ((rotateTransaction call).exec identityConflict database) := by
  unfold rotateTransaction rotateRefreshSession
  rw [Prog.bind_assoc, Prog.exec_lockFrom_bind]
  rcases filter_eq_of_nodup unique.digests call.presentedDigest with
    ⟨absent, none⟩ | ⟨model, member, digest, only⟩
  · rw [none]
    exact .invalid fun session sessionMember same => absurd same (absent session sessionMember)
  · rw [only]
    exact rotateLocked_effect unique member digest

end Rotate

/-! ## Revocation and login -/

/-- What a logout returns and leaves behind. -/
inductive RevokeEffect (tokenDigest : String) (revokedAt : Instant)
    (database : List IdentityRow) : Except PyError Bool × List IdentityRow → Prop
  | revoked {presented : RefreshSessionModel}
      (member : presented ∈ refreshSessions.rows database)
      (digest : presented.tokenDigest = tokenDigest) :
      RevokeEffect tokenDigest revokedAt database
        (.ok true, (SessionEvent.revoked presented revokedAt).store database)
  | unknown (absent : ∀ session ∈ refreshSessions.rows database,
      session.tokenDigest ≠ tokenDigest) :
      RevokeEffect tokenDigest revokedAt database (.ok false, database)

/-- **The effect of `revoke_refresh_family_by_digest`.** -/
theorem revokeRefreshFamilyByDigest_effect {database : List IdentityRow}
    (unique : UniqueSessions (refreshSessions.rows database)) (tokenDigest : String)
    (revokedAt : Instant) :
    RevokeEffect tokenDigest revokedAt database
      ((revokeRefreshFamilyByDigest tokenDigest revokedAt).exec identityConflict database) := by
  unfold revokeRefreshFamilyByDigest
  rw [Prog.exec_selectFrom_bind]
  rcases filter_eq_of_nodup unique.digests tokenDigest with
    ⟨absent, none⟩ | ⟨presented, member, digest, only⟩
  · rw [none]
    exact .unknown absent
  · rw [only]
    show RevokeEffect tokenDigest revokedAt database
      ((revokeFamily presented.familyId revokedAt >>= fun _ => pure true).exec identityConflict
        database)
    rw [exec_revokeFamily]
    exact .revoked member digest

/-- What issuing a session returns and leaves behind. -/
inductive IssueEffect (call : IssueCall) (database : List IdentityRow) :
    Except PyError RefreshSession × List IdentityRow → Prop
  | issued {session : RefreshSession} (built : call.session = .ok session)
      (mintable : SessionEvent.Mintable session.toRefreshSessionModel
        (refreshSessions.rows database)) :
      IssueEffect call database
        (.ok session, (SessionEvent.issued session.toRefreshSessionModel).store database)
  | failed (error : PyError) : IssueEffect call database (.error error, database)

/-- The effect of a login's session. -/
theorem issueTransaction_effect (call : IssueCall) (database : List IdentityRow) :
    IssueEffect call database ((issueTransaction call).exec identityConflict database) := by
  unfold issueTransaction
  cases built : call.session with
  | error error => exact .failed error
  | ok session =>
      rw [Prog.bind_ofExcept_ok]
      show IssueEffect call database ((flushNew [session.toRefreshSessionModel] >>= fun _ =>
        pure session).exec identityConflict database)
      rw [exec_flushNew]
      cases violation : Prog.violated identityConflict database
          (refreshSessions.make session.toRefreshSessionModel) with
      | some constraint => exact .failed _
      | none =>
          have unused : session.toRefreshSessionModel.minted = session.toRefreshSessionModel := by
            rw [(RefreshSession.issue_ok built).2.2]
            rfl
          rw [← SessionEvent.store_issued]
          exact .issued built ⟨unused, session.valid, violated_refreshSession_eq_none.mp violation⟩

end BidSystem.Identity
