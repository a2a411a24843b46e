import BidSystem.Identity.Effects
import BidSystem.ReadCommitted.Journal

/-!
# Runs of session transactions

Logins, rotations and revocations executed one after the other, with any
presented digest and any clock.  Each entry of the journal reports one
`SessionEvent` (`Reports`), so the whole run is a history of the session table
and every family obeys the laws of `SessionHistory`.
-/

namespace BidSystem.Identity

open ReadCommitted

/-- A transaction on refresh sessions. -/
inductive SessionOperation where
  | login (call : IssueCall)
  | rotate (call : RotateCall)
  | revoke (tokenDigest : String) (revokedAt : Instant)
deriving DecidableEq, Repr

/-- What it returns. -/
inductive SessionResponse where
  | issued (session : RefreshSession)
  | rotation (result : RefreshRotationResult)
  | revocation (found : Bool)
deriving DecidableEq, Repr

namespace SessionOperation

/-- The statements of the transaction. -/
def transaction : SessionOperation → IdentityProg SessionResponse
  | login call => do return .issued (← issueTransaction call)
  | rotate call => do return .rotation (← rotateTransaction call)
  | revoke tokenDigest revokedAt => do
      return .revocation (← revokeRefreshFamilyByDigest tokenDigest revokedAt)

/-- The family a login names. -/
def loginFamily : SessionOperation → Option String
  | login call => some call.familyId
  | rotate _ | revoke _ _ => none

end SessionOperation

/-- A transaction with the outcome it reported. -/
abbrev SessionEntry := SessionOperation × Except PyError SessionResponse

/-- A successful rotation in the family. -/
def SessionEntry.rotatedIn (familyId : String) : SessionEntry → Bool
  | (.rotate _, .ok (.rotation ⟨.rotated, some replacement⟩)) => replacement.familyId == familyId
  | _ => false

/-- The journal of a run. -/
def runSessions (database : List IdentityRow) (operations : List SessionOperation) :
    Journal SessionOperation IdentityRow PyError SessionResponse :=
  (Journal.start database).run identityConflict SessionOperation.transaction operations

/-- The session table at the end of a run. -/
def sessionsAfter (database : List IdentityRow) (operations : List SessionOperation) :
    List RefreshSessionModel :=
  refreshSessions.rows (runSessions database operations).rows

/-! ## Entries report events -/

/-- What an entry says about the event behind it. -/
inductive Reports : SessionEntry → SessionEvent → Prop
  | login {call : IssueCall} {session : RefreshSession} (built : call.session = .ok session) :
      Reports (.login call, .ok (.issued session)) (.issued session.toRefreshSessionModel)
  | rotated {call : RotateCall} {presented : RefreshSessionModel} {replacement : RefreshSession} :
      Reports (.rotate call, .ok (.rotation ⟨.rotated, some replacement⟩))
        (.rotated presented replacement.toRefreshSessionModel)
  | replayed {call : RotateCall} {presented : RefreshSessionModel} :
      Reports (.rotate call, .ok (.rotation ⟨.replayRevoked, none⟩))
        (.revoked presented call.rotatedAt)
  | invalid {call : RotateCall} :
      Reports (.rotate call, .ok (.rotation ⟨.invalid, none⟩)) .unchanged
  | revoked {tokenDigest : String} {revokedAt : Instant} {presented : RefreshSessionModel} :
      Reports (.revoke tokenDigest revokedAt, .ok (.revocation true))
        (.revoked presented revokedAt)
  | unknown {tokenDigest : String} {revokedAt : Instant} :
      Reports (.revoke tokenDigest revokedAt, .ok (.revocation false)) .unchanged
  | failed {operation : SessionOperation} {error : PyError} :
      Reports (operation, .error error) .unchanged

namespace Reports

theorem rotates_eq {entry : SessionEntry} {event : SessionEvent} (reports : Reports entry event)
    (familyId : String) : entry.rotatedIn familyId = event.rotates familyId := by
  cases reports with
  | @failed operation error => cases operation <;> rfl
  | _ => rfl

/-- The successful rotations of a journal are the rotations of its history. -/
theorem countP_rotates {entries : List SessionEntry} {events : List SessionEvent}
    (reports : List.Forall₂ Reports entries events) (familyId : String) :
    entries.countP (SessionEntry.rotatedIn familyId) =
      events.countP (SessionEvent.rotates familyId) := by
  induction reports with
  | nil => rfl
  | cons first _ ih =>
      rw [List.countP_cons, List.countP_cons, ih, first.rotates_eq familyId]

/-- The login behind an issued session. -/
theorem exists_login {entries : List SessionEntry} {events : List SessionEvent}
    (reports : List.Forall₂ Reports entries events) {first : RefreshSessionModel}
    (issued : .issued first ∈ events) :
    ∃ call : IssueCall, ∃ session : RefreshSession, .login call ∈ entries.map Prod.fst ∧
      call.session = .ok session ∧ session.toRefreshSessionModel = first := by
  obtain ⟨entry, member, reported⟩ := Journal.exists_reporting reports issued
  cases reported with
  | @login call session built =>
      exact ⟨call, session, List.mem_map_of_mem member, built, rfl⟩

end Reports

/-- **Every transaction reports an allowed event.** -/
theorem SessionOperation.reports {database : List IdentityRow}
    (unique : UniqueSessions (refreshSessions.rows database)) (operation : SessionOperation)
    (newFamily : ∀ familyId, operation.loginFamily = some familyId →
      ∀ old ∈ refreshSessions.rows database, old.familyId ≠ familyId) :
    ∃ event : SessionEvent,
      Reports (operation, (operation.transaction.atomically identityConflict database).1) event ∧
      event.Allowed (refreshSessions.rows database) ∧
      (operation.transaction.atomically identityConflict database).2 = event.store database := by
  have failed : ∀ error database',
      operation.transaction.exec identityConflict database = (.error error, database') →
      ∃ event : SessionEvent,
        Reports (operation, (operation.transaction.atomically identityConflict database).1) event ∧
        event.Allowed (refreshSessions.rows database) ∧
        (operation.transaction.atomically identityConflict database).2 = event.store database := by
    intro error database' ran
    rw [Prog.atomically_of_error _ ran]
    exact ⟨.unchanged, .failed, .unchanged, (SessionEvent.store_unchanged database).symm⟩
  cases operation with
  | login call =>
      have ran := Prog.exec_return identityConflict (issueTransaction call) SessionResponse.issued database
      have effect := issueTransaction_effect call database
      generalize (issueTransaction call).exec identityConflict database = outcome at ran effect
      cases effect with
      | @issued session built mintable =>
          unfold SessionOperation.transaction
          rw [Prog.atomically_of_ok _ ran]
          refine ⟨.issued session.toRefreshSessionModel, .login built, .issued mintable ?_, rfl⟩
          have named : session.familyId = call.familyId := by
            rw [(RefreshSession.issue_ok built).2.2]
          rw [named]
          exact newFamily call.familyId rfl
      | failed error => exact failed error database ran
  | rotate call =>
      have ran := Prog.exec_return identityConflict (rotateTransaction call) SessionResponse.rotation database
      have effect := rotateTransaction_effect call unique
      generalize (rotateTransaction call).exec identityConflict database = outcome at ran effect
      cases effect with
      | @rotated presented replacement member digest unconsumed unrevoked inTime fields mintable =>
          unfold SessionOperation.transaction
          rw [Prog.atomically_of_ok _ ran]
          refine ⟨.rotated presented replacement.toRefreshSessionModel, .rotated,
            .rotated member unconsumed unrevoked mintable ?_, rfl⟩
          rw [fields]
          exact ⟨rfl, rfl, rfl, rfl⟩
      | @replayed presented member digest consumed =>
          unfold SessionOperation.transaction
          rw [Prog.atomically_of_ok _ ran]
          exact ⟨.revoked presented call.rotatedAt, .replayed, .revoked member, rfl⟩
      | invalid unconsumed =>
          unfold SessionOperation.transaction
          rw [Prog.atomically_of_ok _ ran]
          exact ⟨.unchanged, .invalid, .unchanged, (SessionEvent.store_unchanged database).symm⟩
      | failed error database' => exact failed error database' ran
  | revoke tokenDigest revokedAt =>
      have ran := Prog.exec_return identityConflict (revokeRefreshFamilyByDigest tokenDigest revokedAt)
        SessionResponse.revocation database
      have effect := revokeRefreshFamilyByDigest_effect unique tokenDigest revokedAt
      generalize (revokeRefreshFamilyByDigest tokenDigest revokedAt).exec identityConflict database =
        outcome at ran effect
      cases effect with
      | @revoked presented member digest =>
          unfold SessionOperation.transaction
          rw [Prog.atomically_of_ok _ ran]
          exact ⟨.revoked presented revokedAt, .revoked, .revoked member, rfl⟩
      | unknown absent =>
          unfold SessionOperation.transaction
          rw [Prog.atomically_of_ok _ ran]
          exact ⟨.unchanged, .unknown, .unchanged, (SessionEvent.store_unchanged database).symm⟩

/-! ## Runs are histories -/

section Runs

variable {database : List IdentityRow}

theorem runSessions_concat (database : List IdentityRow) (operations : List SessionOperation)
    (operation : SessionOperation) :
    runSessions database (operations ++ [operation]) =
      (runSessions database operations).perform identityConflict SessionOperation.transaction
        operation :=
  Journal.run_append identityConflict SessionOperation.transaction _ operations [operation]

/-- A login finds its family unused when no earlier login named it. -/
theorem newFamily_of_fresh {operations : List SessionOperation} {operation : SessionOperation}
    (fresh : ((operations ++ [operation]).filterMap SessionOperation.loginFamily).Nodup)
    {events : List SessionEvent}
    (reports : List.Forall₂ Reports (runSessions database operations).entries events)
    (history : SessionHistory events (sessionsAfter database operations)) (familyId : String)
    (names : operation.loginFamily = some familyId) :
    ∀ old ∈ sessionsAfter database operations, old.familyId ≠ familyId := by
  intro old member same
  obtain ⟨first, issued, sameFirst⟩ := history.login old member
  obtain ⟨call, session, called, built, sameSession⟩ := Reports.exists_login reports issued
  have performed : .login call ∈ operations := by
    rwa [runSessions, Journal.start_run_entries] at called
  have named : call.familyId = familyId := by
    have fields := (RefreshSession.issue_ok built).2.2
    rw [sameSession] at fields
    rw [← same, sameFirst.familyId, fields]
  rw [List.filterMap_append, List.nodup_append'] at fresh
  refine fresh.2.2 (List.mem_filterMap.mpr ⟨_, performed, rfl⟩) ?_
  rw [named]
  exact List.mem_filterMap.mpr ⟨operation, by simp, names⟩

/-- **Every run is a history of the session table.** -/
theorem runSessions_history (empty : refreshSessions.rows database = [])
    (operations : List SessionOperation)
    (fresh : (operations.filterMap SessionOperation.loginFamily).Nodup) :
    ∃ events, List.Forall₂ Reports (runSessions database operations).entries events ∧
      SessionHistory events (sessionsAfter database operations) := by
  induction operations using List.reverseRecOn with
  | nil =>
      refine ⟨[], .nil, ?_⟩
      rw [sessionsAfter, runSessions, Journal.run_nil, Journal.start, empty]
      exact .nil
  | append_singleton operations operation ih =>
      have earlier : (operations.filterMap SessionOperation.loginFamily).Nodup := by
        rw [List.filterMap_append] at fresh
        exact fresh.of_append_left
      obtain ⟨events, reports, history⟩ := ih earlier
      obtain ⟨event, reported, allowed, stored⟩ := operation.reports history.unique
        (newFamily_of_fresh fresh reports history)
      refine ⟨events ++ [event], ?_, ?_⟩
      · rw [runSessions_concat]
        exact List.rel_append reports (.cons reported .nil)
      · rw [sessionsAfter, runSessions_concat, Journal.perform]
        dsimp only
        rw [stored, SessionEvent.rows_store]
        exact history.step allowed

/-- What a run leaves in place, later transactions keep. -/
theorem sessionsAfter_extends (empty : refreshSessions.rows database = [])
    (operations later : List SessionOperation)
    (fresh : ((operations ++ later).filterMap SessionOperation.loginFamily).Nodup) :
    SessionHistory.Extends (sessionsAfter database operations)
      (sessionsAfter database (operations ++ later)) := by
  induction later using List.reverseRecOn with
  | nil =>
      rw [List.append_nil]
      exact .refl _
  | append_singleton later operation ih =>
      rw [← List.append_assoc] at fresh ⊢
      have earlier : ((operations ++ later).filterMap SessionOperation.loginFamily).Nodup := by
        rw [List.filterMap_append] at fresh
        exact fresh.of_append_left
      obtain ⟨events, reports, history⟩ := runSessions_history empty (operations ++ later) earlier
      obtain ⟨event, reported, allowed, stored⟩ := operation.reports history.unique
        (newFamily_of_fresh fresh reports history)
      refine (ih earlier).trans ?_
      rw [sessionsAfter, sessionsAfter, runSessions_concat, Journal.perform]
      dsimp only
      rw [stored, SessionEvent.rows_store]
      exact history.extends_apply allowed

/-! ## The laws of a family -/

/-- What holds of one family after a run of `operations` that left `entries`
and the session table `sessions`. -/
structure FamilyLaws (operations : List SessionOperation) (entries : List SessionEntry)
    (sessions : List RefreshSessionModel) (familyId : String) : Prop where
  oneUnconsumed :
    (family familyId sessions).countP (fun session => session.consumedAt.isNone) ≤ 1
  length : family familyId sessions ≠ [] →
    (family familyId sessions).length = 1 + entries.countP (SessionEntry.rotatedIn familyId)
  /-- All sessions carry the user, the tenant and the absolute expiry of one login. -/
  login : family familyId sessions ≠ [] → ∃ call : IssueCall, .login call ∈ operations ∧
    call.familyId = familyId ∧ ∀ session ∈ family familyId sessions,
      session.userId = call.userId ∧ session.tenantId = call.tenantId ∧
        session.absoluteExpiresAt = call.issuedAt + call.absoluteTtl
  idle_le_absolute : ∀ session ∈ family familyId sessions,
    session.idleExpiresAt ≤ session.absoluteExpiresAt
  allOrNone : (∀ session ∈ family familyId sessions, session.revokedAt = none) ∨
    ∀ session ∈ family familyId sessions, session.revokedAt.isSome = true

/-- A history whose events the entries report obeys the laws of every family. -/
theorem familyLaws_of_history {operations : List SessionOperation} {entries : List SessionEntry}
    {events : List SessionEvent} {sessions : List RefreshSessionModel}
    (performed : entries.map Prod.fst = operations) (reports : List.Forall₂ Reports entries events)
    (history : SessionHistory events sessions) (familyId : String) :
    FamilyLaws operations entries sessions familyId where
  oneUnconsumed := history.countP_unconsumed_le_one familyId
  length used := by
    obtain ⟨session, member⟩ := List.exists_mem_of_ne_nil _ used
    obtain ⟨stored, named⟩ := mem_family.mp member
    rw [Reports.countP_rotates reports, ← named]
    exact history.length_family_of_mem stored
  login used := by
    obtain ⟨session, member⟩ := List.exists_mem_of_ne_nil _ used
    obtain ⟨stored, named⟩ := mem_family.mp member
    obtain ⟨first, issued, same⟩ := history.login session stored
    obtain ⟨call, built, called, isBuilt, sameFirst⟩ := Reports.exists_login reports issued
    have fields := (RefreshSession.issue_ok isBuilt).2.2
    rw [sameFirst] at fields
    refine ⟨call, performed ▸ called, ?_, fun other otherMember => ?_⟩
    · rw [← named, same.familyId, fields]
    · obtain ⟨otherStored, otherNamed⟩ := mem_family.mp otherMember
      have common := (history.sameFamily otherStored stored (otherNamed.trans named.symm)).trans same
      rw [common.userId, common.tenantId, common.absoluteExpiresAt, fields]
      exact ⟨rfl, rfl, rfl⟩
  idle_le_absolute session member := (history.valid session (mem_family.mp member).1).idle_le_absolute
  allOrNone := by
    by_cases revoked : events.any (SessionEvent.revokes familyId) = true
    · refine .inr fun session member => ?_
      obtain ⟨stored, named⟩ := mem_family.mp member
      rw [history.revoked session stored, named, revoked]
    · refine .inl fun session member => ?_
      obtain ⟨stored, named⟩ := mem_family.mp member
      have isSome := history.revoked session stored
      rw [named] at isSome
      simpa [revoked] using isSome

/-- **Every family obeys its laws in every reachable table**, and later
transactions neither extend a revoked family nor take a consumption or a
revocation back. -/
theorem family_laws (database : List IdentityRow) (empty : refreshSessions.rows database = [])
    (operations later : List SessionOperation)
    (fresh : ((operations ++ later).filterMap SessionOperation.loginFamily).Nodup)
    (familyId : String) :
    FamilyLaws operations (runSessions database operations).entries
        (sessionsAfter database operations) familyId ∧
      SessionHistory.Extends (sessionsAfter database operations)
        (sessionsAfter database (operations ++ later)) := by
  have earlier : (operations.filterMap SessionOperation.loginFamily).Nodup := by
    rw [List.filterMap_append] at fresh
    exact fresh.of_append_left
  obtain ⟨events, reports, history⟩ := runSessions_history empty operations earlier
  have performed : (runSessions database operations).entries.map Prod.fst = operations :=
    Journal.start_run_entries identityConflict SessionOperation.transaction database operations
  exact ⟨familyLaws_of_history performed reports history familyId,
    sessionsAfter_extends empty operations later fresh⟩

/-- A login, a rotation of its session and a replay of the consumed one. -/
def replayedFamily : List SessionOperation :=
  [.login ⟨"s0", "family", "user", "tenant", "d0", 0, 10 * second, 100 * second⟩,
    .rotate ⟨"d0", "s1", "d1", 5 * second, 10 * second⟩,
    .rotate ⟨"d0", "s2", "d2", 6 * second, 10 * second⟩]

theorem family_laws_replayedFamily :
    (family "family" (sessionsAfter [] replayedFamily)).length = 2 ∧
      FamilyLaws replayedFamily (runSessions [] replayedFamily).entries
        (sessionsAfter [] replayedFamily) "family" :=
  ⟨by decide, (family_laws [] rfl replayedFamily
    [.revoke "d1" (7 * second)] (by decide) "family").1⟩

end Runs

end BidSystem.Identity
