import BidSystem.Shared.Python
import Mathlib.Order.Basic
import Mathlib.Algebra.Order.Ring.Int

/-!
# Refresh sessions

The session rules of `modules/identity/domain/session.py`: a refresh credential
is issued once, rotated at most once, and revoked with its whole family.

* `RefreshSessionModel` — the stored fields.
* `RefreshSession` — the frozen domain object; what its constructor checks is
  part of the type.
* `RefreshSession.issue`, `rotate`, `isActive` — the session rules.
-/

namespace BidSystem.Identity

/-- The columns of `identity.refresh_session`. -/
structure RefreshSessionModel where
  sessionId : String
  familyId : String
  userId : String
  tenantId : String
  tokenDigest : String
  issuedAt : Instant
  idleExpiresAt : Instant
  absoluteExpiresAt : Instant
  consumedAt : Option Instant
  revokedAt : Option Instant
deriving DecidableEq, Repr

/-- `RefreshSession`: one single-use refresh credential in a revocable session family. -/
structure RefreshSession extends RefreshSessionModel where
  identifiers : [sessionId, familyId, userId, tenantId, tokenDigest].any blank = false
  idle_le_absolute : idleExpiresAt ≤ absoluteExpiresAt
deriving DecidableEq, Repr

/-- Stored fields that the constructor accepts. -/
structure RefreshSessionModel.Valid (model : RefreshSessionModel) : Prop where
  identifiers : [model.sessionId, model.familyId, model.userId, model.tenantId,
    model.tokenDigest].any blank = false
  idle_le_absolute : model.idleExpiresAt ≤ model.absoluteExpiresAt

namespace RefreshSession

/-- The constructor with its `__post_init__` checks. -/
def ofModel (model : RefreshSessionModel) : Except PyError RefreshSession :=
  if identifiers : [model.sessionId, model.familyId, model.userId, model.tenantId,
      model.tokenDigest].any blank = false then
    if idle : model.idleExpiresAt ≤ model.absoluteExpiresAt then
      .ok { toRefreshSessionModel := model, identifiers := identifiers, idle_le_absolute := idle }
    else .error (.valueError "Idle expiry must not exceed absolute expiry")
  else .error (.valueError "Refresh-session identifiers must not be blank")

/-- `_validate_positive_ttl`. -/
def validatePositiveTtl (value : Duration) : Except PyError Unit :=
  if value ≤ 0 then .error (.valueError "Refresh-session TTL must be positive") else .ok ()

/-- `RefreshSession.issue`. -/
def issue (sessionId familyId userId tenantId tokenDigest : String) (issuedAt : Instant)
    (idleTtl absoluteTtl : Duration) : Except PyError RefreshSession := do
  validatePositiveTtl idleTtl
  validatePositiveTtl absoluteTtl
  let absoluteExpiresAt := issuedAt + absoluteTtl
  ofModel {
    sessionId := sessionId
    familyId := familyId
    userId := userId
    tenantId := tenantId
    tokenDigest := tokenDigest
    issuedAt := issuedAt
    idleExpiresAt := min (issuedAt + idleTtl) absoluteExpiresAt
    absoluteExpiresAt := absoluteExpiresAt
    consumedAt := none
    revokedAt := none }

/-- The session consumed by a rotation. -/
def consume (current : RefreshSession) (rotatedAt : Instant) : RefreshSession :=
  { current with consumedAt := some rotatedAt }

/-- `RefreshSession.rotate`: consume this credential and create its sole valid
replacement.  A reused credential and any other refusal are different errors. -/
def rotate (current : RefreshSession) (presentedDigest replacementSessionId
    replacementTokenDigest : String) (rotatedAt : Instant) (idleTtl : Duration) :
    Except PyError (RefreshSession × RefreshSession) := do
  validatePositiveTtl idleTtl
  let digestMatches ← compareDigest current.tokenDigest presentedDigest
  if !digestMatches then throw .invalidRefreshSession
  if current.consumedAt.isSome then throw (.refreshTokenReplay current.familyId)
  if current.revokedAt.isSome || current.idleExpiresAt ≤ rotatedAt ||
      current.absoluteExpiresAt ≤ rotatedAt then
    throw .invalidRefreshSession
  let replacement ← ofModel {
    sessionId := replacementSessionId
    familyId := current.familyId
    userId := current.userId
    tenantId := current.tenantId
    tokenDigest := replacementTokenDigest
    issuedAt := rotatedAt
    idleExpiresAt := min (rotatedAt + idleTtl) current.absoluteExpiresAt
    absoluteExpiresAt := current.absoluteExpiresAt
    consumedAt := none
    revokedAt := none }
  return (current.consume rotatedAt, replacement)

end RefreshSession

/-- `RefreshSession.is_active`: whether this session may back an access-token principal now. -/
def RefreshSessionModel.isActive (session : RefreshSessionModel) (checkedAt : Instant) : Bool :=
  session.consumedAt.isNone && session.revokedAt.isNone &&
    checkedAt < session.idleExpiresAt && checkedAt < session.absoluteExpiresAt

/-! ## What the rules guarantee -/

namespace RefreshSession

/-- The constructor keeps every field. -/
theorem toModel_of_ofModel {model : RefreshSessionModel} {session : RefreshSession}
    (built : ofModel model = .ok session) : session.toRefreshSessionModel = model := by
  unfold ofModel at built
  split at built
  · split at built
    · cases built
      rfl
    · cases built
  · cases built

theorem valid (session : RefreshSession) : session.toRefreshSessionModel.Valid :=
  ⟨session.identifiers, session.idle_le_absolute⟩

/-- The constructor accepts valid fields. -/
theorem ofModel_of_valid {model : RefreshSessionModel} (valid : model.Valid) :
    ∃ session, ofModel model = .ok session ∧ session.toRefreshSessionModel = model := by
  refine ⟨⟨model, valid.identifiers, valid.idle_le_absolute⟩, ?_, rfl⟩
  rw [ofModel, dif_pos valid.identifiers, dif_pos valid.idle_le_absolute]

theorem validatePositiveTtl_ok {value : Duration} {checked : Unit}
    (valid : validatePositiveTtl value = .ok checked) : 0 < value := by
  unfold validatePositiveTtl at valid
  split at valid
  · cases valid
  · next positive => exact not_le.mp positive

/-- Whoever is issued a session gets exactly the fields of the request. -/
theorem issue_ok {sessionId familyId userId tenantId tokenDigest : String} {issuedAt : Instant}
    {idleTtl absoluteTtl : Duration} {session : RefreshSession}
    (issued : issue sessionId familyId userId tenantId tokenDigest issuedAt idleTtl absoluteTtl =
      .ok session) :
    0 < idleTtl ∧ 0 < absoluteTtl ∧
      session.toRefreshSessionModel = {
        sessionId := sessionId
        familyId := familyId
        userId := userId
        tenantId := tenantId
        tokenDigest := tokenDigest
        issuedAt := issuedAt
        idleExpiresAt := min (issuedAt + idleTtl) (issuedAt + absoluteTtl)
        absoluteExpiresAt := issuedAt + absoluteTtl
        consumedAt := none
        revokedAt := none } := by
  unfold issue at issued
  cases idle : validatePositiveTtl idleTtl with
  | error error =>
      rw [idle] at issued
      cases issued
  | ok =>
      cases absolute : validatePositiveTtl absoluteTtl with
      | error error =>
          rw [idle, absolute] at issued
          cases issued
      | ok =>
          rw [idle, absolute] at issued
          exact ⟨validatePositiveTtl_ok idle, validatePositiveTtl_ok absolute,
            toModel_of_ofModel issued⟩

/-- The ways a rotation can go. -/
inductive RotateOutcome (current : RefreshSession) (presentedDigest replacementSessionId
    replacementTokenDigest : String) (rotatedAt : Instant) (idleTtl : Duration) :
    Except PyError (RefreshSession × RefreshSession) → Prop
  | rotated (replacement : RefreshSession) (positive : 0 < idleTtl)
      (unconsumed : current.consumedAt = none) (unrevoked : current.revokedAt = none)
      (idle : rotatedAt < current.idleExpiresAt) (absolute : rotatedAt < current.absoluteExpiresAt)
      (fields : replacement.toRefreshSessionModel = {
        sessionId := replacementSessionId
        familyId := current.familyId
        userId := current.userId
        tenantId := current.tenantId
        tokenDigest := replacementTokenDigest
        issuedAt := rotatedAt
        idleExpiresAt := min (rotatedAt + idleTtl) current.absoluteExpiresAt
        absoluteExpiresAt := current.absoluteExpiresAt
        consumedAt := none
        revokedAt := none }) :
      RotateOutcome current presentedDigest replacementSessionId replacementTokenDigest rotatedAt
        idleTtl (.ok (current.consume rotatedAt, replacement))
  | replay (consumed : current.consumedAt.isSome = true) :
      RotateOutcome current presentedDigest replacementSessionId replacementTokenDigest rotatedAt
        idleTtl (.error (.refreshTokenReplay current.familyId))
  | invalid (refused : current.tokenDigest ≠ presentedDigest ∨ current.consumedAt = none) :
      RotateOutcome current presentedDigest replacementSessionId replacementTokenDigest rotatedAt
        idleTtl (.error .invalidRefreshSession)
  | failed (error : PyError) (other : error ≠ .invalidRefreshSession)
      (notReplay : ∀ familyId, error ≠ .refreshTokenReplay familyId) :
      RotateOutcome current presentedDigest replacementSessionId replacementTokenDigest rotatedAt
        idleTtl (.error error)

/-- Errors of the constructor and of the argument checks are not session refusals. -/
theorem ofModel_error {model : RefreshSessionModel} {error : PyError}
    (failed : ofModel model = .error error) :
    error ≠ .invalidRefreshSession ∧ ∀ familyId, error ≠ .refreshTokenReplay familyId := by
  unfold ofModel at failed
  split at failed
  · split at failed
    · cases failed
    · cases failed
      exact ⟨nofun, nofun⟩
  · cases failed
    exact ⟨nofun, nofun⟩

/-- **Every rotation goes one of these ways.**  A successful one needs an
unconsumed, unrevoked and unexpired session. -/
theorem rotate_outcome (current : RefreshSession) (presentedDigest replacementSessionId
    replacementTokenDigest : String) (rotatedAt : Instant) (idleTtl : Duration) :
    RotateOutcome current presentedDigest replacementSessionId replacementTokenDigest rotatedAt
      idleTtl (current.rotate presentedDigest replacementSessionId replacementTokenDigest
        rotatedAt idleTtl) := by
  unfold rotate
  simp only [bind, Except.bind, throw, throwThe, MonadExceptOf.throw, pure, Except.pure]
  cases ttl : validatePositiveTtl idleTtl with
  | error error =>
      unfold validatePositiveTtl at ttl
      split at ttl
      · cases ttl
        exact .failed _ nofun nofun
      · cases ttl
  | ok =>
      cases digest : compareDigest current.tokenDigest presentedDigest with
      | error error =>
          unfold compareDigest at digest
          split at digest
          · cases digest
          · cases digest
            exact .failed _ nofun nofun
      | ok digestMatches =>
          simp only
          split
          · next mismatch =>
              refine .invalid (.inl fun same => ?_)
              rw [same, compareDigest_self] at digest
              split at digest
              · cases digest
                cases mismatch
              · cases digest
          · split
            · next consumed => exact .replay consumed
            · next unconsumed =>
                have unconsumed' : current.consumedAt = none := by simpa using unconsumed
                split
                · exact .invalid (.inr unconsumed')
                · next usable =>
                    simp only [Bool.or_eq_true, decide_eq_true_eq, not_or, not_le] at usable
                    obtain ⟨⟨unrevoked, idle⟩, absolute⟩ := usable
                    split
                    · next error failed =>
                        obtain ⟨other, notReplay⟩ := ofModel_error failed
                        exact .failed error other notReplay
                    · next replacement built =>
                        exact .rotated replacement (validatePositiveTtl_ok ttl) unconsumed'
                          (by simpa using unrevoked) idle absolute (toModel_of_ofModel built)

end RefreshSession

end BidSystem.Identity
