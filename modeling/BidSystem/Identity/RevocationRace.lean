import BidSystem.Identity.AccessRuns
import BidSystem.Identity.RotationRace
import BidSystem.ReadCommitted.Law

/-!
# A rotation racing a family revocation

The refresh route rotates a token of a family while another transaction revokes
the family: a refresh that detects the replay of a consumed token, or a logout.
The rotation locks one row and inserts another.  The revocation is a set
`UPDATE` on the family that locks nothing beforehand, so the guard discipline
does not apply, and indeed a replacement that is inserted while the `UPDATE` is
under way escapes it.

This module has the two transactions and what is left of each of them after its
first statement: the rotating one either goes on to rotate or can at most
revoke (`rotateNext_cases`); the revoking one either never reports a revocation
or has the family's `UPDATE` as its last statement (`Revoker.next_cases`).
`Identity.RevocationRun` follows them through an interleaving.
-/

namespace BidSystem.Identity

open ReadCommitted

/-- The system of identity transactions that answer like the routes. -/
abbrev RouteSys := Sys IdentityRow String PyError AccessResponse

/-- A replay of a consumed token, or a logout. -/
inductive Revoker where
  | replay (call : RotateCall)
  | logout (tokenDigest : String) (revokedAt : Instant)
deriving DecidableEq, Repr

namespace Revoker

/-- The digest it presents. -/
def digest : Revoker → String
  | replay call => call.presentedDigest
  | logout tokenDigest _ => tokenDigest

/-- Its route. -/
def body : Revoker → IdentityProg AccessResponse
  | replay call => refreshRoute call
  | logout tokenDigest revokedAt => logoutRoute tokenDigest revokedAt

/-- The `WHERE` clause of its first statement. -/
def filter (revoker : Revoker) : IdentityRow → Bool :=
  refreshSessions.on fun model => model.tokenDigest == revoker.digest

end Revoker

/-- The answer of a detected replay or of a logout that found its family. -/
def AccessResponse.revoked : AccessResponse → Bool
  | .refreshed ⟨.replayRevoked, _⟩ _ => true
  | .loggedOut true => true
  | _ => false

/-- The answer of a successful rotation. -/
def AccessResponse.rotated : AccessResponse → Bool
  | .refreshed ⟨.rotated, _⟩ _ => true
  | _ => false

/-! ## What is left after the first statement -/

/-- The refresh route after the statements of the rotation. -/
def refreshTail (call : RotateCall) (rotation : RefreshRotationResult) :
    IdentityProg AccessResponse := do
  let (rotation, identity) ← (match rotation with
    | ⟨.rotated, some session⟩ => do
        let identity ← resolveIdentity {
          userId := session.userId
          tenantId := session.tenantId
          sessionId := session.sessionId
          resolvedAt := call.rotatedAt }
        return (rotation, some identity)
    | _ => return (rotation, none) :
      IdentityProg (RefreshRotationResult × Option ResolvedIdentity))
  return .refreshed rotation identity

/-- The refresh route after its `SELECT ... FOR UPDATE`. -/
def refreshNext (call : RotateCall) (stored : List IdentityRow) : IdentityProg AccessResponse :=
  rotateAfterLock call (refreshSessions.rows stored) >>= refreshTail call

theorem refreshRoute_eq (call : RotateCall) :
    refreshRoute call =
      .lockRows (refreshSessions.on fun model => model.tokenDigest == call.presentedDigest)
        (refreshNext call) := by
  rw [refreshRoute, refreshTransaction, rotateTransaction_eq, Prog.bind_lockRows,
    Prog.bind_lockRows]
  congr 1
  funext stored
  rw [Prog.bind_assoc]
  rfl

/-- The logout route after its `SELECT`. -/
def logoutNext (revokedAt : Instant) (stored : List IdentityRow) : IdentityProg AccessResponse := do
  match ← scalarOneOrNone ((refreshSessions.rows stored).map RefreshSessionModel.familyId) with
  | none => return .loggedOut false
  | some familyId => do
      revokeFamily familyId revokedAt
      return .loggedOut true

theorem logoutRoute_eq (tokenDigest : String) (revokedAt : Instant) :
    logoutRoute tokenDigest revokedAt =
      .select (refreshSessions.on fun model => model.tokenDigest == tokenDigest)
        (logoutNext revokedAt) := by
  rw [logoutRoute, revokeRefreshFamilyByDigest, Prog.selectFrom, Prog.bind_select,
    Prog.bind_select]
  congr 1
  funext stored
  rw [Prog.bind_done, Prog.bind_assoc, logoutNext]
  congr 1
  funext found
  cases found <;> rfl

/-- A body that only revokes: every row it writes is a revoked form of the row
it has found. -/
def revokingLaw : Law IdentityRow AccessResponse where
  updates filter assign := ∀ row, filter row = true → ∃ session session',
    row = refreshSessions.make session ∧ assign row = refreshSessions.make session' ∧
      session'.minted = session.minted ∧ session'.revokedAt.isSome = true
  inserts _ := False
  returns _ := True

/-- A body that rotates: it keeps what it updates unrevoked, inserts a session
of the family with another digest than `digest`, and answers that it rotated. -/
def rotatingLaw (digest familyId : String) : Law IdentityRow AccessResponse where
  updates filter assign := ∀ row, filter row = true → ∃ session session',
    row = refreshSessions.make session ∧ assign row = refreshSessions.make session' ∧
      session'.minted = session.minted ∧ session'.revokedAt = session.revokedAt
  inserts row := ∃ session, row = refreshSessions.make session ∧
    session.familyId = familyId ∧ session.tokenDigest ≠ digest
  returns response := response.rotated = true

/-- A body that never reports a revocation. -/
def silentLaw : Law IdentityRow AccessResponse where
  updates _ _ := True
  inserts _ := True
  returns response := response.revoked = false

/-- The `UPDATE` of a revocation only revokes. -/
theorem revokingLaw_updates (familyId : String) (revokedAt : Instant) :
    revokingLaw.updates (refreshSessions.on (unrevokedIn familyId))
      (refreshSessions.set (revokedBy revokedAt)) := by
  intro row accepted
  obtain ⟨session, rfl, _⟩ := refreshSessions.on_iff.mp accepted
  exact ⟨session, revokedBy revokedAt session, rfl, refreshSessions.set_make _ session, rfl, rfl⟩

/-- After a rotation the route only reads and answers that it rotated. -/
theorem refreshTail_obeys (call : RotateCall) (session : RefreshSession)
    (law : Law IdentityRow AccessResponse)
    (returns : ∀ response : AccessResponse, response.rotated = true → law.returns response) :
    (refreshTail call ⟨.rotated, some session⟩).Obeys law := by
  unfold refreshTail
  dsimp only
  rw [Prog.bind_assoc]
  exact (resolveIdentity_readOnly _).obeys fun identity => returns _ rfl

/-- What remains of a refresh after its `SELECT ... FOR UPDATE`. -/
inductive RefreshNext (call : RotateCall) (stored : List IdentityRow)
    (body : IdentityProg AccessResponse) : Prop
  /-- It ends at once, without a rotation or a revocation. -/
  | refused (obeys : ∀ law : Law IdentityRow AccessResponse,
      (∀ response : AccessResponse, response.rotated = false → response.revoked = false →
        law.returns response) → body.Obeys law)
  | rotates (session : RefreshSessionModel) (found : refreshSessions.make session ∈ stored)
      (unrevoked : session.revokedAt = none) (replacement : RefreshSession)
      (sameFamily : replacement.familyId = session.familyId)
      (digest : replacement.tokenDigest = call.replacementDigest)
      (statements : body = (flushDirty [{ session with
          consumedAt := some replacement.issuedAt }] >>= fun _ =>
        flushNew [replacement.toRefreshSessionModel] >>= fun _ =>
          refreshTail call ⟨.rotated, some replacement⟩))
  | revokes (session : RefreshSessionModel) (found : refreshSessions.make session ∈ stored)
      (statements : body = .update (refreshSessions.on (unrevokedIn session.familyId))
        (refreshSessions.set (revokedBy call.rotatedAt))
        fun _ => .done (.refreshed ⟨.replayRevoked, none⟩ none))

theorem mem_of_rows_eq {stored : List IdentityRow} {session : RefreshSessionModel}
    (only : refreshSessions.rows stored = [session]) : refreshSessions.make session ∈ stored := by
  rw [← refreshSessions.mem_rows, only]
  exact List.mem_singleton_self session

/-- **A refresh refuses, rotates the locked session or revokes its family.** -/
theorem refreshNext_cases (call : RotateCall) (stored : List IdentityRow) :
    RefreshNext call stored (refreshNext call stored) := by
  have ends : ∀ response : AccessResponse, response.rotated = false → response.revoked = false →
      ∀ law : Law IdentityRow AccessResponse, (∀ response : AccessResponse,
        response.rotated = false → response.revoked = false → law.returns response) →
          (.done response : IdentityProg AccessResponse).Obeys law :=
    fun response notRotated notRevoked law returns => returns response notRotated notRevoked
  rcases only : refreshSessions.rows stored with _ | ⟨session, _ | ⟨second, rest⟩⟩
  · rw [refreshNext, only]
    exact .refused (ends (.refreshed ⟨.invalid, none⟩ none) rfl rfl)
  · rw [refreshNext, only]
    show RefreshNext call stored ((rotateLocked call session >>= fun outcome =>
      flush outcome.2 >>= fun _ => pure outcome.1) >>= refreshTail call)
    unfold rotateLocked
    cases built : RefreshSession.ofModel session with
    | error error => exact .refused fun _ _ => trivial
    | ok current =>
        have sameModel := RefreshSession.toModel_of_ofModel built
        rw [Prog.bind_ofExcept_ok]
        have outcome := RefreshSession.rotate_outcome current call.presentedDigest
          call.replacementSessionId call.replacementDigest call.rotatedAt call.idleTtl
        generalize current.rotate call.presentedDigest call.replacementSessionId
          call.replacementDigest call.rotatedAt call.idleTtl = rotation at outcome
        cases outcome with
        | rotated replacement positive unconsumed unrevoked idle absolute fields =>
            rw [sameModel] at unrevoked fields
            have consumedAt : (current.consume call.rotatedAt).consumedAt =
                some replacement.issuedAt := by
              rw [congrArg RefreshSessionModel.issuedAt fields]
              rfl
            refine .rotates session (mem_of_rows_eq only) unrevoked replacement ?_ ?_ ?_
            · rw [fields]
            · rw [fields]
            · dsimp only
              rw [consumedAt, Prog.pure_eq, Prog.bind_done, flush, Prog.bind_assoc,
                Prog.bind_assoc]
              rfl
        | replay consumed =>
            refine .revokes session (mem_of_rows_eq only) ?_
            dsimp only
            rw [sameModel]
            rfl
        | invalid refused => exact .refused (ends (.refreshed ⟨.invalid, none⟩ none) rfl rfl)
        | failed error other notReplay =>
            cases error with
            | invalidRefreshSession => exact absurd rfl other
            | refreshTokenReplay familyId => exact absurd rfl (notReplay familyId)
            | _ => exact .refused fun _ _ => trivial
  · rw [refreshNext, only]
    exact .refused fun _ _ => trivial

/-- The statements that a rotation flushes obey a law that allows each of them. -/
theorem flush_obeys {law : Law IdentityRow AccessResponse} {dirty : RefreshSessionModel}
    {new : RefreshSessionModel} {tail : IdentityProg AccessResponse}
    (updates : law.updates (refreshSessions.on fun stored => stored.sessionId == dirty.sessionId)
      (refreshSessions.set fun stored => { stored with consumedAt := dirty.consumedAt }))
    (inserts : law.inserts (refreshSessions.make new)) (rest : tail.Obeys law) :
    (flushDirty [dirty] >>= fun _ => flushNew [new] >>= fun _ => tail).Obeys law := by
  refine ⟨updates, fun count => ?_⟩
  show ((if count = 1 then flushDirty [] else Prog.raise .staleDataError) >>= fun _ =>
    flushNew [new] >>= fun _ => tail).Obeys law
  split
  · refine ⟨inserts, fun violated => ?_⟩
    cases violated with
    | none => exact rest
    | some constraint => exact trivial
  · exact trivial

/-- **What is left of the rotating transaction after its lock**: it rotates the
session it has found, or it can at most revoke. -/
theorem rotateNext_cases (call : RotateCall) {digest : String}
    (fresh : call.replacementDigest ≠ digest) (stored : List IdentityRow) :
    (refreshNext call stored).Obeys revokingLaw ∨
      ∃ session, refreshSessions.make session ∈ stored ∧ session.revokedAt = none ∧
        (refreshNext call stored).Obeys (rotatingLaw digest session.familyId) := by
  cases refreshNext_cases call stored with
  | refused obeys => exact .inl (obeys _ fun _ _ _ => trivial)
  | rotates session found unrevoked replacement sameFamily isFresh statements =>
      refine .inr ⟨session, found, unrevoked, ?_⟩
      rw [statements, ← sameFamily]
      refine flush_obeys (fun row accepted => ?_) ⟨_, rfl, rfl, by rwa [isFresh]⟩
        (refreshTail_obeys call replacement _ fun _ rotated => rotated)
      obtain ⟨stored, rfl, _⟩ := refreshSessions.on_iff.mp accepted
      exact ⟨stored, _, rfl, refreshSessions.set_make _ stored, rfl, rfl⟩
  | revokes session found statements =>
      rw [statements]
      exact .inl ⟨revokingLaw_updates _ _, fun _ => trivial⟩

namespace Revoker

/-- What is left of the revoking transaction after its first statement. -/
def next : Revoker → List IdentityRow → IdentityProg AccessResponse
  | replay call => refreshNext call
  | logout _ revokedAt => logoutNext revokedAt

/-- The first statement is a `SELECT` by digest, with or without `FOR UPDATE`. -/
theorem body_cases (revoker : Revoker) :
    revoker.body = .lockRows revoker.filter revoker.next ∨
      revoker.body = .select revoker.filter revoker.next := by
  cases revoker with
  | replay call => exact .inl (refreshRoute_eq call)
  | logout tokenDigest revokedAt => exact .inr (logoutRoute_eq tokenDigest revokedAt)

/-- **What is left of the revoking transaction**: it never reports a revocation,
or the `UPDATE` of the family it has found is its last statement. -/
theorem next_cases (revoker : Revoker) (stored : List IdentityRow) :
    (revoker.next stored).Obeys silentLaw ∨
      ∃ session revokedAt response, refreshSessions.make session ∈ stored ∧
        revoker.next stored = .update (refreshSessions.on (unrevokedIn session.familyId))
          (refreshSessions.set (revokedBy revokedAt)) fun _ => .done response := by
  cases revoker with
  | replay call =>
      cases refreshNext_cases call stored with
      | refused obeys => exact .inl (obeys _ fun _ _ notRevoked => notRevoked)
      | rotates session found unrevoked replacement sameFamily digest statements =>
          have notRevoked : ∀ response : AccessResponse, response.rotated = true →
              silentLaw.returns response := by
            intro response rotated
            show response.revoked = false
            unfold AccessResponse.rotated at rotated
            split at rotated
            · rfl
            · cases rotated
          refine .inl ?_
          show (refreshNext call stored).Obeys silentLaw
          rw [statements]
          exact flush_obeys trivial trivial
            (refreshTail_obeys call replacement silentLaw notRevoked)
      | revokes session found statements =>
          exact .inr ⟨session, call.rotatedAt, _, found, statements⟩
  | logout tokenDigest revokedAt =>
      show (logoutNext revokedAt stored).Obeys silentLaw ∨ ∃ session revokedAt' response,
        refreshSessions.make session ∈ stored ∧ logoutNext revokedAt stored = _
      rcases only : refreshSessions.rows stored with _ | ⟨session, _ | ⟨second, rest⟩⟩
      · rw [logoutNext, only]
        exact .inl rfl
      · refine .inr ⟨session, revokedAt, .loggedOut true, mem_of_rows_eq only, ?_⟩
        rw [logoutNext, only]
        rfl
      · rw [logoutNext, only]
        exact .inl trivial

end Revoker

end BidSystem.Identity
