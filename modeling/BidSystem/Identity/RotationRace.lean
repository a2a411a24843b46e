import BidSystem.Identity.Effects
import BidSystem.ReadCommitted.Serial

/-!
# Racing rotations of one token

Any number of `rotate_refresh_session` transactions present the same token.
They all enter through the row of that token, which `SELECT ... FOR UPDATE`
locks, so the row is the guard of a partition that holds the whole database,
and the race is a guarded workload: each transaction acts as one atomic step at
its commit.  What remains is a statement about sequences of atomic rotations of
one session.
-/

namespace BidSystem.Identity

open ReadCommitted

/-! ## The statements after the lock -/

/-- The rest of a rotation once its `SELECT ... FOR UPDATE` has returned. -/
def rotateAfterLock (call : RotateCall) (models : List RefreshSessionModel) :
    IdentityProg RefreshRotationResult := do
  let (rotation, work) ← (do
    match ← scalarOneOrNone models with
    | none => return (⟨.invalid, none⟩, { dirty := [], new := [] })
    | some model => rotateLocked call model)
  flush work
  return rotation

theorem rotateTransaction_eq (call : RotateCall) :
    rotateTransaction call =
      .lockRows (refreshSessions.on fun model => model.tokenDigest == call.presentedDigest)
        fun stored => rotateAfterLock call (refreshSessions.rows stored) := rfl

/-- Racing transactions: the committed rows at the start and one call for each
transaction, all with the same presented token and fresh replacements. -/
structure RotationRace where
  database : List IdentityRow
  unique : UniqueSessions (refreshSessions.rows database)
  digest : String
  calls : TxId → RotateCall
  presented : ∀ tx, (calls tx).presentedDigest = digest
  fresh : ∀ tx, (calls tx).replacementDigest ≠ digest

namespace RotationRace

variable (race : RotationRace)

/-- The race as a workload with a single partition, guarded by the presented row. -/
def workload : Workload IdentityRow String PyError RefreshRotationResult Unit where
  conflict := identityConflict
  part _ := ()
  guard := refreshSessions.on fun session => session.tokenDigest == race.digest
  rows := race.database
  bodies tx := rotateTransaction (race.calls tx)
  key _ := ()
  writes _ row := ∃ session : RefreshSessionModel,
    row = refreshSessions.make session ∧ session.tokenDigest ≠ race.digest

/-! ## The discipline -/

variable {race}

theorem guard_make (tx : TxId) (session : RefreshSessionModel) :
    (race.workload.territory tx).guard (refreshSessions.make session) =
      (session.tokenDigest == race.digest) :=
  refreshSessions.on_make (fun session => session.tokenDigest == race.digest) session

/-- Updates that change neither id nor digest of a session stay inside. -/
theorem confined_update {tx : TxId} {filter : RefreshSessionModel → Bool}
    {assign : RefreshSessionModel → RefreshSessionModel}
    (kept : ∀ session, (assign session).sessionId = session.sessionId ∧
      (assign session).tokenDigest = session.tokenDigest) :
    (Prog.updateIn refreshSessions filter assign : IdentityProg ℕ).Confined
      (race.workload.territory tx) := by
  refine Prog.confined_updateIn fun session _ => ⟨rfl, rfl, ?_, ?_⟩
  · rw [guard_make, guard_make, (kept session).2]
  · funext new
    cases new with
    | refreshSession new =>
        show identityConflict (refreshSessions.make (assign session)) (refreshSessions.make new) =
          identityConflict (refreshSessions.make session) (refreshSessions.make new)
        simp [identityConflict, refreshSessions, (kept session).1, (kept session).2]
    | _ => rfl

theorem confined_insert {tx : TxId} {session : RefreshSessionModel}
    (fresh : session.tokenDigest ≠ race.digest) :
    (Prog.insertInto refreshSessions session : IdentityProg (Option String)).Confined
      (race.workload.territory tx) := by
  refine Prog.confined_insertInto rfl ?_ ⟨session, rfl, fresh⟩
  rw [guard_make]
  simpa using fresh

theorem confined_flushDirty {tx : TxId} (models : List RefreshSessionModel) :
    (flushDirty models).Confined (race.workload.territory tx) := by
  induction models with
  | nil => exact trivial
  | cons model models ih =>
      rw [flushDirty]
      refine Prog.Confined.bind ?_ fun count => ?_
      · exact confined_update fun _ => ⟨rfl, rfl⟩
      · split
        · exact ih
        · exact trivial

theorem confined_flushNew {tx : TxId} {models : List RefreshSessionModel}
    (fresh : ∀ model ∈ models, model.tokenDigest ≠ race.digest) :
    (flushNew models).Confined (race.workload.territory tx) := by
  induction models with
  | nil => exact trivial
  | cons model models ih =>
      refine (confined_insert (fresh model List.mem_cons_self)).bind fun violated => ?_
      cases violated with
      | some constraint => exact trivial
      | none => exact ih fun later member => fresh later (List.mem_cons_of_mem _ member)

theorem confined_revokeFamily {tx : TxId} (familyId : String) (revokedAt : Instant) :
    (revokeFamily familyId revokedAt).Confined (race.workload.territory tx) := by
  rw [revokeFamily]
  refine Prog.Confined.bind ?_ fun _ => trivial
  exact confined_update fun _ => ⟨rfl, rfl⟩

/-- What follows the lock stays inside. -/
theorem confined_rotateLocked {tx : TxId} (model : RefreshSessionModel) :
    (rotateLocked (race.calls tx) model >>= fun outcome =>
      flush outcome.2 >>= fun _ => pure outcome.1).Confined (race.workload.territory tx) := by
  unfold rotateLocked
  rw [Prog.bind_assoc]
  refine (Prog.confined_ofExcept _).bind fun current => ?_
  have outcome := RefreshSession.rotate_outcome current (race.calls tx).presentedDigest
    (race.calls tx).replacementSessionId (race.calls tx).replacementDigest
    (race.calls tx).rotatedAt (race.calls tx).idleTtl
  generalize current.rotate (race.calls tx).presentedDigest (race.calls tx).replacementSessionId
    (race.calls tx).replacementDigest (race.calls tx).rotatedAt (race.calls tx).idleTtl =
      rotation at outcome
  cases outcome with
  | rotated replacement positive unconsumed unrevoked idle absolute fields =>
      have digest : replacement.tokenDigest ≠ race.digest := by
        rw [fields]
        exact race.fresh tx
      exact ((confined_flushDirty _).bind fun _ =>
        confined_flushNew (by simpa using digest)).bind fun _ => trivial
  | replay consumed =>
      dsimp only
      rw [Prog.bind_assoc]
      exact (confined_revokeFamily _ _).bind fun _ => trivial
  | invalid refused => exact trivial
  | failed error other notReplay =>
      cases error with
      | invalidRefreshSession => exact absurd rfl other
      | refreshTokenReplay familyId => exact absurd rfl (notReplay familyId)
      | _ => exact trivial

/-- Rows with one digest are one row. -/
theorem guard_unique {i j : ℕ} {a b : IdentityRow} (at_i : race.database[i]? = some a)
    (at_j : race.database[j]? = some b) (guardA : race.workload.guard a = true)
    (guardB : race.workload.guard b = true) : i = j := by
  obtain ⟨session, rfl, digest⟩ := refreshSessions.on_iff.mp guardA
  obtain ⟨other, rfl, otherDigest⟩ := refreshSessions.on_iff.mp guardB
  exact refreshSessions.index_unique race.unique.digests at_i at_j
    ((beq_iff_eq.mp digest).trans (beq_iff_eq.mp otherDigest).symm)

/-- **The race is a guarded workload.** -/
theorem guarded (race : RotationRace) : race.workload.Guarded where
  entry tx := by
    refine .inl ⟨_, _, {
      body := rotateTransaction_eq (race.calls tx)
      filter_iff := fun row => ?_
      away := .done _
      confined := fun row accepted => ?_ }⟩
    · rw [race.presented tx]
      exact (and_iff_left rfl).symm
    · obtain ⟨session, rfl, _⟩ := refreshSessions.on_iff.mp accepted
      rw [Relation.rows_singleton_make]
      exact confined_rotateLocked session
  oneGuard _ _ _ _ at_i at_j guardA guardB _ := guard_unique at_i at_j guardA guardB
  writes_part _ _ _ := rfl
  conflict_part _ _ _ _ _ _ := rfl

/-! ## The race as a sequence of atomic rotations -/

/-- The committed sessions of a system. -/
def committedSessions {A : Type} (s : Sys IdentityRow String PyError A) :
    List RefreshSessionModel :=
  refreshSessions.rows (Table.committedRows s.table)

theorem committedIn_eq (key : Unit) (table : Table IdentityRow) :
    race.workload.committedIn key table = Table.committedRows table := by
  rw [Workload.committedIn, List.filter_eq_self]
  intro row _
  exact decide_eq_true rfl

/-- What a move of a racing transaction can be. -/
inductive MoveEffect (race : RotationRace)
    (s s' : Sys IdentityRow String PyError RefreshRotationResult) (tx : TxId) : Prop
  /-- Nothing committed, or a refusal because the token does not exist. -/
  | quiet (sessions : committedSessions s' = committedSessions s)
      (status : ∀ result, s'.status tx = .committed result → result = ⟨.invalid, none⟩ ∧
        ∀ old ∈ refreshSessions.rows race.database, old.tokenDigest ≠ race.digest)
  /-- The commit of an atomic rotation. -/
  | committed (result : RefreshRotationResult) (status : s'.status tx = .committed result)
      (effect : RotateEffect (race.calls tx) (Table.committedRows s.table)
        (.ok result, Table.committedRows s'.table))

/-- A rotation is idle only when nobody has the token. -/
theorem idle_cases {tx : TxId} {body : IdentityProg RefreshRotationResult}
    (idle : race.workload.Idle tx body) :
    ∃ filter next, race.workload.Locks tx filter next ∧ race.workload.Unguarded tx ∧
      body = next [] := by
  cases idle with
  | away locks unguarded => exact ⟨_, _, locks, unguarded, rfl⟩
  | refused terminal =>
      have isLock : race.workload.bodies tx = .lockRows _ _ := rotateTransaction_eq (race.calls tx)
      rw [isLock] at terminal
      cases terminal

/-- **Every move is silent or one atomic rotation.** -/
theorem moveEffect {s s' : Sys IdentityRow String PyError RefreshRotationResult} {tx : TxId}
    (unique : UniqueSessions (committedSessions s)) (moves : race.workload.Moves s s' tx) :
    MoveEffect race s s' tx := by
  have same : ∀ rows : (∀ key, race.workload.committedIn key s'.table =
      race.workload.committedIn key s.table), committedSessions s' = committedSessions s := by
    intro rows
    have all := rows ()
    rw [committedIn_eq, committedIn_eq] at all
    rw [committedSessions, committedSessions, all]
  cases moves.outcome with
  | quiet rows still =>
      refine .quiet (same rows) fun result status => ?_
      rw [status] at still
      cases still
  | crashed rows status =>
      refine .quiet (same rows) fun result committed => ?_
      rw [status] at committed
      cases committed
  | idle idle outside rows ended =>
      obtain ⟨filter, next, locks, unguarded, rfl⟩ := idle_cases idle
      refine .quiet (same rows) fun result status => ?_
      have body : (.lockRows _ _ : IdentityProg RefreshRotationResult) = .lockRows filter next :=
        (rotateTransaction_eq (race.calls tx)).symm.trans locks.body
      injection body with _ nextEq
      refine ⟨?_, fun old member digest => ?_⟩
      · rcases ended with ⟨result', returned, status'⟩ | ⟨error, _, status'⟩
        · rw [status] at status'
          cases status'
          rw [← nextEq] at returned
          cases returned
          rfl
        · rw [status] at status'
          cases status'
      · refine unguarded (refreshSessions.make old) (refreshSessions.mem_rows.mp member) ?_ rfl
        exact (refreshSessions.on_make (fun session => session.tokenDigest == race.digest)
          old).trans (by simpa using digest)
  | committed result inside status serial others =>
      refine .committed result status ?_
      rw [Workload.serial, committedIn_eq, committedIn_eq] at serial
      have effect := rotateTransaction_effect (race.calls tx) unique
      exact serial ▸ effect
  | raised error inside status serial rows =>
      refine .quiet (same rows) fun result committed => ?_
      rw [status] at committed
      cases committed

/-- What holds throughout the race. -/
structure Progress (race : RotationRace)
    (s : Sys IdentityRow String PyError RefreshRotationResult) : Prop where
  unique : UniqueSessions (committedSessions s)
  /-- The presented token is that of an initial session. -/
  origin : ∀ session ∈ committedSessions s, session.tokenDigest = race.digest →
    ∃ old ∈ refreshSessions.rows race.database, old.tokenDigest = race.digest
  /-- A rotation consumed the presented session and stored its replacement. -/
  rotated : ∀ tx result, s.status tx = .committed result → result.status = .rotated →
    ∃ replacement, result.session = some replacement ∧
      (∃ presented ∈ committedSessions s, presented.tokenDigest = race.digest ∧
        presented.consumedAt.isSome = true ∧ presented.familyId = replacement.familyId) ∧
      ∃ stored ∈ committedSessions s, stored.minted = replacement.toRefreshSessionModel
  single : ∀ tx tx' result result', s.status tx = .committed result →
    s.status tx' = .committed result' → result.status = .rotated → result'.status = .rotated →
      tx = tx'
  /-- A replay revoked the family of the presented session. -/
  replayed : ∀ tx result, s.status tx = .committed result → result.status = .replayRevoked →
    result = ⟨.replayRevoked, none⟩ ∧
      ∃ presented ∈ committedSessions s, presented.tokenDigest = race.digest ∧
        ∀ session ∈ committedSessions s, session.familyId = presented.familyId →
          session.revokedAt.isSome = true

theorem progress_start (race : RotationRace) : Progress race race.workload.start := by
  have sessions : committedSessions race.workload.start = refreshSessions.rows race.database :=
    congrArg refreshSessions.rows (Table.committedRows_settled race.database)
  constructor
  · rw [sessions]
    exact race.unique
  · rw [sessions]
    exact fun session member digest => ⟨session, member, digest⟩
  · intro tx result status
    cases status
  · intro tx tx' result result' status
    cases status
  · intro tx result status
    cases status

section Step

variable {s s' : Sys IdentityRow String PyError RefreshRotationResult} {tx : TxId}

/-- The presented session is one session. -/
theorem Progress.presented_unique (progress : Progress race s)
    {session other : RefreshSessionModel} (member : session ∈ committedSessions s)
    (otherMember : other ∈ committedSessions s) (digest : session.tokenDigest = race.digest)
    (otherDigest : other.tokenDigest = race.digest) : session = other :=
  List.inj_on_of_nodup_map progress.unique.digests member otherMember
    (digest.trans otherDigest.symm)

/-- A move that commits nothing new keeps what holds. -/
theorem Progress.of_quiet (progress : Progress race s) (moves : race.workload.Moves s s' tx)
    (sessions : committedSessions s' = committedSessions s)
    (refused : ∀ result, s'.status tx = .committed result → result = ⟨.invalid, none⟩) :
    Progress race s' := by
  have earlier : ∀ tx' result, s'.status tx' = .committed result → result.status ≠ .invalid →
      s.status tx' = .committed result := by
    intro tx' result status valid
    by_cases isTx : tx' = tx
    · rw [isTx] at status
      rw [refused result status] at valid
      exact absurd rfl valid
    · rwa [moves.others tx' isTx] at status
  constructor
  · rw [sessions]
    exact progress.unique
  · rw [sessions]
    exact progress.origin
  · rw [sessions]
    exact fun tx' result status isRotated => progress.rotated tx' result
      (earlier tx' result status (by simp [isRotated])) isRotated
  · exact fun tx' tx'' result result' status status' isRotated isRotated' =>
      progress.single tx' tx'' result result' (earlier tx' result status (by simp [isRotated]))
        (earlier tx'' result' status' (by simp [isRotated'])) isRotated isRotated'
  · rw [sessions]
    exact fun tx' result status isReplayed => progress.replayed tx' result
      (earlier tx' result status (by simp [isReplayed])) isReplayed

/-- The sessions after an event that a commit performed. -/
theorem committedSessions_of_store {event : SessionEvent}
    (store : Table.committedRows s'.table = event.store (Table.committedRows s.table)) :
    committedSessions s' = event.apply (committedSessions s) := by
  rw [committedSessions, store, event.rows_store]
  rfl

/-- A rotation is the first one, and no replay came before it. -/
theorem Progress.of_rotated (progress : Progress race s) (moves : race.workload.Moves s s' tx)
    {presented : RefreshSessionModel} {replacement : RefreshSession}
    (status : s'.status tx = .committed ⟨.rotated, some replacement⟩)
    (member : presented ∈ committedSessions s)
    (digest : presented.tokenDigest = (race.calls tx).presentedDigest)
    (unconsumed : presented.consumedAt = none) (unrevoked : presented.revokedAt = none)
    (fields : replacement.toRefreshSessionModel = (race.calls tx).replacement presented)
    (mintable : SessionEvent.Mintable replacement.toRefreshSessionModel (committedSessions s))
    (sessions : committedSessions s' =
      (SessionEvent.rotated presented replacement.toRefreshSessionModel).apply
        (committedSessions s)) :
    Progress race s' := by
  rw [race.presented tx] at digest
  have onlyRotated : ∀ tx' result, s'.status tx' = .committed result →
      result.status = .rotated → tx' = tx := by
    intro tx' result status' isRotated
    by_contra isOther
    rw [moves.others tx' isOther] at status'
    obtain ⟨_, _, ⟨other, otherMember, otherDigest, consumed, _⟩, _⟩ :=
      progress.rotated tx' result status' isRotated
    rw [progress.presented_unique otherMember member otherDigest digest, unconsumed] at consumed
    cases consumed
  constructor
  · rw [sessions]
    refine progress.unique.apply fun session created => ?_
    cases created
    exact mintable.fresh
  · rw [sessions]
    intro session sessionMember sameDigest
    rcases SessionEvent.mem_apply.mp sessionMember with ⟨earlier, earlierMember, rfl⟩ | created
    · rw [SessionEvent.tokenDigest_touch] at sameDigest
      exact progress.origin earlier earlierMember sameDigest
    · cases created
      rw [fields] at sameDigest
      exact absurd sameDigest (race.fresh tx)
  · intro tx' result status' isRotated
    have isTx := onlyRotated tx' result status' isRotated
    subst isTx
    rw [status] at status'
    cases status'
    refine ⟨replacement, rfl,
      ⟨(SessionEvent.rotated presented replacement.toRefreshSessionModel).touch presented,
        ?_, ?_, ?_, ?_⟩, replacement.toRefreshSessionModel, ?_, ?_⟩
    · rw [sessions]
      exact SessionEvent.mem_apply.mpr (.inl ⟨presented, member, rfl⟩)
    · rw [SessionEvent.tokenDigest_touch, digest]
    · rw [SessionEvent.consumedAt_touch]
      simp [SessionEvent.consumes]
    · rw [SessionEvent.familyId_touch, fields]
      rfl
    · rw [sessions]
      exact SessionEvent.mem_apply.mpr (.inr rfl)
    · exact mintable.unused
  · intro tx' tx'' result result' status' status'' isRotated isRotated'
    rw [onlyRotated tx' result status' isRotated, onlyRotated tx'' result' status'' isRotated']
  · intro tx' result status' isReplayed
    by_cases isTx : tx' = tx
    · subst isTx
      rw [status] at status'
      cases status'
      cases isReplayed
    · rw [moves.others tx' isTx] at status'
      obtain ⟨_, other, otherMember, otherDigest, revoked⟩ :=
        progress.replayed tx' result status' isReplayed
      have same := progress.presented_unique otherMember member otherDigest digest
      have isRevoked := revoked presented member (by rw [same])
      rw [unrevoked] at isRevoked
      cases isRevoked

/-- A replay revokes the family and takes nothing back. -/
theorem Progress.of_replayed (progress : Progress race s) (moves : race.workload.Moves s s' tx)
    {presented : RefreshSessionModel}
    (status : s'.status tx = .committed ⟨.replayRevoked, none⟩)
    (member : presented ∈ committedSessions s)
    (digest : presented.tokenDigest = (race.calls tx).presentedDigest)
    (sessions : committedSessions s' =
      (SessionEvent.revoked presented (race.calls tx).rotatedAt).apply (committedSessions s)) :
    Progress race s' := by
  rw [race.presented tx] at digest
  set event := SessionEvent.revoked presented (race.calls tx).rotatedAt with event_eq
  have stays : ∀ session ∈ committedSessions s, event.touch session ∈ committedSessions s' := by
    intro session sessionMember
    rw [sessions]
    exact SessionEvent.mem_apply.mpr (.inl ⟨session, sessionMember, rfl⟩)
  have came : ∀ session' ∈ committedSessions s', ∃ session ∈ committedSessions s,
      event.touch session = session' := by
    intro session' sessionMember
    rw [sessions] at sessionMember
    rcases SessionEvent.mem_apply.mp sessionMember with found | created
    · exact found
    · cases created
  constructor
  · rw [sessions]
    refine progress.unique.apply fun session created => ?_
    cases created
  · intro session' sessionMember sameDigest
    obtain ⟨session, earlierMember, rfl⟩ := came session' sessionMember
    rw [SessionEvent.tokenDigest_touch] at sameDigest
    exact progress.origin session earlierMember sameDigest
  · intro tx' result status' isRotated
    have isOther : tx' ≠ tx := by
      rintro rfl
      rw [status] at status'
      cases status'
      cases isRotated
    rw [moves.others tx' isOther] at status'
    obtain ⟨replacement, returned, ⟨other, otherMember, otherDigest, consumed, family⟩, stored,
      storedMember, minted⟩ := progress.rotated tx' result status' isRotated
    refine ⟨replacement, returned, ⟨_, stays other otherMember, ?_, ?_, ?_⟩, _,
      stays stored storedMember, ?_⟩
    · rw [SessionEvent.tokenDigest_touch, otherDigest]
    · rw [SessionEvent.consumedAt_touch, consumed, Bool.true_or]
    · rw [SessionEvent.familyId_touch, family]
    · rw [SessionEvent.minted_touch, minted]
  · intro tx' tx'' result result' status' status'' isRotated isRotated'
    have earlier : ∀ other result'', s'.status other = .committed result'' →
        result''.status = .rotated → s.status other = .committed result'' := by
      intro other result'' status''' isRotated''
      have isOther : other ≠ tx := by
        rintro rfl
        rw [status] at status'''
        cases status'''
        cases isRotated''
      rwa [moves.others other isOther] at status'''
    exact progress.single tx' tx'' result result' (earlier tx' result status' isRotated)
      (earlier tx'' result' status'' isRotated') isRotated isRotated'
  · intro tx' result status' isReplayed
    have revoked : ∀ session' ∈ committedSessions s',
        session'.familyId = (event.touch presented).familyId →
          session'.revokedAt.isSome = true := by
      intro session' sessionMember family
      obtain ⟨session, earlierMember, rfl⟩ := came session' sessionMember
      rw [SessionEvent.familyId_touch, SessionEvent.familyId_touch] at family
      rw [SessionEvent.revokedAt_touch, event_eq]
      simp [SessionEvent.revokes, family]
    have noSession : result = ⟨.replayRevoked, none⟩ := by
      by_cases isTx : tx' = tx
      · subst isTx
        rw [status] at status'
        cases status'
        rfl
      · rw [moves.others tx' isTx] at status'
        exact (progress.replayed tx' result status' isReplayed).1
    refine ⟨noSession, _, stays presented member, ?_, revoked⟩
    rw [SessionEvent.tokenDigest_touch, digest]

/-- **Every move keeps what holds throughout the race.** -/
theorem Progress.step (progress : Progress race s) (moves : race.workload.Moves s s' tx) :
    Progress race s' := by
  cases moveEffect progress.unique moves with
  | quiet sessions status =>
      exact progress.of_quiet moves sessions fun result committed => (status result committed).1
  | committed result status effect =>
      generalize store : Table.committedRows s'.table = rows at effect
      cases effect with
      | rotated member digest unconsumed unrevoked inTime fields mintable =>
          exact progress.of_rotated moves status member digest unconsumed unrevoked fields mintable
            (committedSessions_of_store store)
      | replayed member digest consumed =>
          exact progress.of_replayed moves status member digest (committedSessions_of_store store)
      | invalid unconsumed =>
          refine progress.of_quiet moves ?_ fun result' committed => ?_
          · rw [committedSessions, store]
            rfl
          · rw [status] at committed
            cases committed
            rfl

end Step

/-! ## Single use -/

/-- After a rotation, only replays commit. -/
theorem replay_after_rotation {s s' : Sys IdentityRow String PyError RefreshRotationResult}
    {tx winner : TxId} {result won : RefreshRotationResult} (progress : Progress race s)
    (moves : race.workload.Moves s s' tx) (status : s.status winner = .committed won)
    (isRotated : won.status = .rotated) (committed : s'.status tx = .committed result) :
    result = ⟨.replayRevoked, none⟩ := by
  obtain ⟨replacement, _, ⟨used, usedMember, usedDigest, consumed, _⟩, _⟩ :=
    progress.rotated winner won status isRotated
  cases moveEffect progress.unique moves with
  | quiet sessions refused =>
      obtain ⟨old, oldMember, oldDigest⟩ := progress.origin used usedMember usedDigest
      exact absurd oldDigest ((refused result committed).2 old oldMember)
  | committed result' status' effect =>
      rw [committed] at status'
      cases status'
      generalize Table.committedRows s'.table = rows at effect
      cases effect with
      | rotated member digest unconsumed unrevoked inTime fields mintable =>
          rw [race.presented tx] at digest
          rw [progress.presented_unique usedMember member usedDigest digest, unconsumed] at consumed
          cases consumed
      | replayed member digest _ => rfl
      | invalid unconsumed =>
          rw [unconsumed used usedMember (usedDigest.trans (race.presented tx).symm)] at consumed
          cases consumed

/-- **A token is used once.**  In every interleaving at most one transaction
commits a rotation.  Whoever is still open once it has committed, and so can
only lock the row later, can commit nothing but a detected replay; then the
whole family, the replacement included, is revoked. -/
theorem single_use (race : RotationRace) (front back : List Label)
    (s₁ s₂ : Sys IdentityRow String PyError RefreshRotationResult)
    (ran₁ : race.workload.start.run identityConflict front = some s₁)
    (ran₂ : s₁.run identityConflict back = some s₂) :
    (∀ tx tx' result result', s₁.status tx = .committed result →
      s₁.status tx' = .committed result' → result.status = .rotated →
        result'.status = .rotated → tx = tx') ∧
    ∀ winner won tx result, s₁.status winner = .committed won → won.status = .rotated →
      (s₁.status tx).isOpen = true → s₂.status tx = .committed result →
        result = ⟨.replayRevoked, none⟩ ∧
        ∃ replacement, won.session = some replacement ∧
          (∃ stored ∈ committedSessions s₂, stored.minted = replacement.toRefreshSessionModel) ∧
          ∀ session ∈ committedSessions s₂, session.familyId = replacement.familyId →
            session.revokedAt.isSome = true := by
  obtain ⟨inv₁, progress₁⟩ := (Workload.Guarded.inv_start race.guarded).run_induction race.guarded
    (fun _ progress moves => progress.step moves) (progress_start race) ran₁
  refine ⟨progress₁.single, fun winner won tx result status isRotated isOpen committed => ?_⟩
  have start : s₁.status winner = .committed won ∧ Progress race s₁ ∧
      ∀ result, s₁.status tx = .committed result → result = ⟨.replayRevoked, none⟩ := by
    refine ⟨status, progress₁, fun result' committed' => ?_⟩
    rw [committed'] at isOpen
    cases isOpen
  obtain ⟨inv₂, status₂, progress₂, onlyReplay⟩ := inv₁.run_induction race.guarded
    (P := fun s => s.status winner = .committed won ∧ Progress race s ∧
      ∀ result, s.status tx = .committed result → result = ⟨.replayRevoked, none⟩)
    (fun {s s' mover} _ holds moves => by
      obtain ⟨statusNow, progress, onlyReplay⟩ := holds
      have notWinner : winner ≠ mover := by
        rintro rfl
        have wasOpen := moves.wasOpen
        rw [statusNow] at wasOpen
        cases wasOpen
      refine ⟨(moves.others winner notWinner).trans statusNow, progress.step moves,
        fun result' committed' => ?_⟩
      by_cases isMover : tx = mover
      · rw [isMover] at committed'
        exact replay_after_rotation progress moves statusNow isRotated committed'
      · rw [moves.others tx isMover] at committed'
        exact onlyReplay result' committed') start ran₂
  have isReplay := onlyReplay result committed
  obtain ⟨replacement, returned, ⟨used, usedMember, usedDigest, _, usedFamily⟩, stored⟩ :=
    progress₂.rotated winner won status₂ isRotated
  obtain ⟨_, presented, member, digest, revoked⟩ :=
    progress₂.replayed tx result committed (by rw [isReplay])
  refine ⟨isReplay, replacement, returned, stored, fun session sessionMember family => ?_⟩
  refine revoked session sessionMember ?_
  rw [progress₂.presented_unique member usedMember digest usedDigest, usedFamily, family]

/-- One stored session, presented by everybody. -/
def tokenRace : RotationRace where
  database := [.refreshSession
    ⟨"s0", "family", "user", "tenant", "d0", 0, 10 * second, 100 * second, none, none⟩]
  unique := ⟨by decide, by decide⟩
  digest := "d0"
  calls tx := if tx = 0 then ⟨"d0", "s1", "d1", 5 * second, 10 * second⟩
    else ⟨"d0", "s2", "d2", 6 * second, 10 * second⟩
  presented tx := by split <;> rfl
  fresh tx := by split <;> decide

/-- Transaction 1 waits for the row while transaction 0 rotates it. -/
def rotationFirst : List Label :=
  [(0, .advance), (1, .advance), (0, .visit 0), (0, .advance), (0, .advance), (0, .visit 0),
    (0, .advance), (0, .advance), (0, .advance)]

/-- Transaction 1 gets the row and revokes the family. -/
def replayAfterwards : List Label :=
  [(1, .visit 0), (1, .advance), (1, .advance), (1, .visit 1), (1, .visit 0), (1, .advance),
    (1, .advance)]

/-- The system when transaction 0 has committed. -/
def afterRotation : Sys IdentityRow String PyError RefreshRotationResult :=
  (tokenRace.workload.start.run identityConflict rotationFirst).get (by decide)

/-- The system when transaction 1 has committed, too. -/
def afterReplay : Sys IdentityRow String PyError RefreshRotationResult :=
  (afterRotation.run identityConflict replayAfterwards).get (by decide)

theorem single_use_tokenRace :
    (committedSessions afterReplay).length = 2 ∧
      ∀ session ∈ committedSessions afterReplay, session.familyId = "family" →
        session.revokedAt.isSome = true := by
  obtain ⟨won, committed, family, isRotated⟩ : ∃ won, (afterRotation.status 0).result = some won ∧
      won.session.map (fun session => session.familyId) = some "family" ∧
        won.status = .rotated :=
    ⟨_, (Option.some_get (by decide)).symm, by decide, by decide⟩
  obtain ⟨_, replacement, isReplacement, _, revoked⟩ :=
    (single_use tokenRace rotationFirst replayAfterwards afterRotation afterReplay
      (Option.some_get _).symm (Option.some_get _).symm).2 0 won 1 ⟨.replayRevoked, none⟩
        (Status.result_eq_some.mp committed) isRotated (by decide)
        (Status.result_eq_some.mp (by decide))
  have named : replacement.familyId = "family" := by
    rw [isReplacement] at family
    exact Option.some.inj family
  rw [named] at revoked
  exact ⟨by decide, revoked⟩

end RotationRace

end BidSystem.Identity
