import BidSystem.Identity.RevocationRace

/-!
# Interleavings of a rotation and a family revocation

The two transactions of `Identity.RevocationRace` in one system.  The invariant
has one clause for each of them (`Rotator`, `Revoking`).  What matters is the
coverage of the revoking `UPDATE`: every committed unrevoked session of the
family is still to be visited or has been written (`Covered`).  A commit of the
rotation is the only step that can break it, since it brings in a session that
the snapshot of the `UPDATE` has missed, and it does so only while the `UPDATE`
is under way: before, the snapshot will contain the session, and afterwards the
revoking transaction holds the very row that the rotation needs.
-/

namespace BidSystem.Identity

open ReadCommitted

/-- A rotation (transaction 0) and a revocation of a family (transaction 1). -/
structure RevocationRace where
  database : List IdentityRow
  unique : UniqueSessions (refreshSessions.rows database)
  rotation : RotateCall
  revoker : Revoker
  familyId : String
  /-- The revoking transaction presents a token of the family. -/
  presented : ∃ session ∈ refreshSessions.rows database,
    session.tokenDigest = revoker.digest ∧ session.familyId = familyId
  fresh : rotation.replacementDigest ≠ revoker.digest

namespace RevocationRace

variable (race : RevocationRace)

/-- Both transactions are about to start, and there is no other. -/
def start : RouteSys where
  table := Table.settled race.database
  status
    | 0 => .running (refreshRoute race.rotation)
    | 1 => .running race.revoker.body
    | _ => .aborted none

/-- A rotation about to commit. -/
def rotationReturned : Status IdentityRow String PyError AccessResponse → Bool
  | .running (.done response) => response.rotated
  | _ => false

/-- A set `UPDATE` between its snapshot and its end. -/
def updating : Status IdentityRow String PyError AccessResponse → Bool
  | .scanning scan => scan.assign.isSome
  | _ => false

/-- The step is not the commit of a rotation during the revoking `UPDATE`. -/
def Undisturbed (s : RouteSys) (label : Label) : Prop :=
  ¬(label = (0, .advance) ∧ rotationReturned (s.status 0) = true ∧ updating (s.status 1) = true)

instance (s : RouteSys) (label : Label) : Decidable (Undisturbed s label) :=
  inferInstanceAs (Decidable (¬_))

/-! ## The invariant -/

/-- The uncommitted versions of `tx` are revoked forms of the committed ones. -/
def Revised (tx : TxId) (table : Table IdentityRow) : Prop :=
  ∀ (i : ℕ) (slot : Slot IdentityRow) (row : IdentityRow), table[i]? = some slot →
    slot.uncommitted tx = some row → ∃ old session, slot.committed = some (refreshSessions.make old) ∧
      row = refreshSessions.make session ∧ session.minted = old.minted ∧
        session.revokedAt.isSome = true

/-- The uncommitted versions of the rotating transaction: forms of committed
sessions revoked no sooner than they, and the replacement. -/
def Rotated (familyId : String) (table : Table IdentityRow) : Prop :=
  ∀ (i : ℕ) (slot : Slot IdentityRow) (row : IdentityRow), table[i]? = some slot →
    slot.uncommitted 0 = some row → ∃ session, row = refreshSessions.make session ∧
      ((∃ old, slot.committed = some (refreshSessions.make old) ∧ session.minted = old.minted ∧
          session.revokedAt = old.revokedAt) ∨
        slot.committed = none ∧ session.familyId = familyId ∧
          session.tokenDigest ≠ race.revoker.digest)

/-- A transaction without uncommitted versions. -/
def Clean (tx : TxId) (table : Table IdentityRow) : Prop :=
  ∀ (i : ℕ) (slot : Slot IdentityRow), table[i]? = some slot → slot.uncommitted tx = none

/-- The rotating transaction holds the row. -/
def Held (table : Table IdentityRow) (row : IdentityRow) : Prop :=
  ∃ (i : ℕ) (slot : Slot IdentityRow), table[i]? = some slot ∧ slot.owner = some 0 ∧
    slot.committed = some row

/-- Every committed unrevoked session of the family is still to be visited, or
written by the revoking transaction. -/
def Covered (todo : List ℕ) (table : Table IdentityRow) : Prop :=
  ∀ (i : ℕ) (slot : Slot IdentityRow) (session : RefreshSessionModel), table[i]? = some slot →
    slot.committed = some (refreshSessions.make session) → session.familyId = race.familyId →
      session.revokedAt = none → i ∈ todo ∨ ∃ row, slot.uncommitted 1 = some row

/-- Committed sessions with the digest that the revoking transaction presents
are of the family. -/
def Digests (table : Table IdentityRow) : Prop :=
  ∀ (i : ℕ) (slot : Slot IdentityRow) (session : RefreshSessionModel), table[i]? = some slot →
    slot.committed = some (refreshSessions.make session) →
      session.tokenDigest = race.revoker.digest → session.familyId = race.familyId

/-- Where the rotating transaction stands. -/
inductive Rotator (s : RouteSys) : Prop
  /-- Before or in its `SELECT ... FOR UPDATE`. -/
  | waiting (status : s.status 0 = .running (refreshRoute race.rotation) ∨
      ∃ todo found, s.status 0 = .scanning
        { todo := todo, found := found
          filter := refreshSessions.on fun model =>
            model.tokenDigest == race.rotation.presentedDigest
          assign := none, resume := refreshNext race.rotation } ∧
        ∀ row ∈ found, Held s.table row)
      (clean : Clean 0 s.table)
  | revoking (obeys : (s.status 0).Obeys revokingLaw) (revised : Revised 0 s.table)
  | rotating (session : RefreshSessionModel) (held : Held s.table (refreshSessions.make session))
      (unrevoked : session.revokedAt = none)
      (obeys : (s.status 0).Obeys (rotatingLaw race.revoker.digest session.familyId))
      (rotated : race.Rotated session.familyId s.table)
  | closed (closed : (s.status 0).isOpen = false)

/-- Where the revoking transaction stands. -/
inductive Revoking (s : RouteSys) : Prop
  /-- Before the family's `UPDATE`. -/
  | before (status : s.status 1 = .running race.revoker.body ∨
      ∃ todo found, s.status 1 = .scanning
        { todo := todo, found := found, filter := race.revoker.filter
          assign := none, resume := race.revoker.next } ∧
        ∀ session, refreshSessions.make session ∈ found → session.familyId = race.familyId)
      (clean : Clean 1 s.table)
  | ready (revokedAt : Instant) (response : AccessResponse)
      (status : s.status 1 = .running (.update (refreshSessions.on (unrevokedIn race.familyId))
        (refreshSessions.set (revokedBy revokedAt)) fun _ => .done response))
      (clean : Clean 1 s.table)
  | updating (revokedAt : Instant) (response : AccessResponse) (todo : List ℕ)
      (found : List IdentityRow)
      (status : s.status 1 = .scanning
        { todo := todo, found := found, filter := refreshSessions.on (unrevokedIn race.familyId)
          assign := some (refreshSessions.set (revokedBy revokedAt))
          resume := fun _ => .done response })
      (revised : Revised 1 s.table) (covered : race.Covered todo s.table)
  | updated (response : AccessResponse) (status : s.status 1 = .running (.done response))
      (revised : Revised 1 s.table) (covered : race.Covered [] s.table)
  | closed (response : AccessResponse) (status : s.status 1 = .committed response)
      (clean : Clean 1 s.table) (covered : race.Covered [] s.table)

/-- The clauses of the invariant. -/
structure Racing (s : RouteSys) : Prop where
  digests : race.Digests s.table
  rotator : race.Rotator s
  revoking : race.Revoking s
  alone : ∀ tx, tx ≠ 0 → tx ≠ 1 → (s.status tx).isOpen = false

/-- The invariant: once the revoking transaction can no longer report a
revocation, nothing is left to be shown. -/
def Inv (s : RouteSys) : Prop := (s.status 1).Obeys silentLaw ∨ race.Racing s

variable {race}

/-! ## What a step of one transaction leaves to the other -/

section Frame

variable {law : Law IdentityRow AccessResponse} {tx other : TxId}
  {status status' : Status IdentityRow String PyError AccessResponse} {action : Action}
  {table table' : Table IdentityRow}

theorem Revised.frame (revised : Revised other table) (different : tx ≠ other)
    (moved : Table.Moved law tx status action status' table table') : Revised other table' :=
  fun i slot row at_i written =>
    revised i slot row (moved.uncommitted_before different at_i written) written

theorem Rotated.frame {familyId : String} (rotated : race.Rotated familyId table)
    (different : tx ≠ 0) (moved : Table.Moved law tx status action status' table table') :
    race.Rotated familyId table' :=
  fun i slot row at_i written =>
    rotated i slot row (moved.uncommitted_before different at_i written) written

theorem Clean.frame (clean : Clean other table) (different : tx ≠ other)
    (moved : Table.Moved law tx status action status' table table') : Clean other table' := by
  intro i slot at_i
  cases written : slot.uncommitted other with
  | none => rfl
  | some row =>
      have before := clean i slot (moved.uncommitted_before different at_i written)
      rw [before] at written
      cases written

theorem Held.frame {row : IdentityRow} (held : Held table row) (different : tx ≠ 0)
    (moved : Table.Moved law tx status action status' table table') : Held table' row := by
  obtain ⟨i, slot, at_i, owned, committed⟩ := held
  exact ⟨i, slot, moved.keeps_owned different at_i owned, owned, committed⟩

/-- A step of the rotating transaction breaks the coverage only by committing an
unrevoked session of the family over none. -/
theorem Covered.frame {todo : List ℕ} (covered : race.Covered todo table)
    (moved : Table.Moved law 0 status action status' table table')
    (harmless : ∀ (i : ℕ) (slot : Slot IdentityRow) (session : RefreshSessionModel)
      (response : AccessResponse), table[i]? = some slot →
        slot.uncommitted 0 = some (refreshSessions.make session) →
          status = .running (.done response) → action = .advance → law.returns response →
            session.familyId = race.familyId → session.revokedAt = none →
              ∃ old, slot.committed = some (refreshSessions.make old) ∧
                old.familyId = race.familyId ∧ old.revokedAt = none) :
    race.Covered todo table' := by
  intro i slot' session at_i committed family unrevoked
  obtain ⟨slot, at_slot, before | ⟨written, response, returned, commits, lawful⟩⟩ :=
    moved.committed_before at_i committed
  · rcases covered i slot session at_slot before family unrevoked with pending | ⟨row, taken⟩
    · exact .inl pending
    · have stays := moved.keeps_owned (by decide) at_slot (Slot.owner_of_uncommitted taken)
      rw [at_i] at stays
      cases stays
      exact .inr ⟨row, taken⟩
  · obtain ⟨old, oldCommitted, oldFamily, oldUnrevoked⟩ :=
      harmless i slot session response at_slot written returned commits lawful family unrevoked
    rcases covered i slot old at_slot oldCommitted oldFamily oldUnrevoked with
      pending | ⟨row, taken⟩
    · exact .inl pending
    · have mine := Slot.owner_of_uncommitted written
      have yours := Slot.owner_of_uncommitted taken
      rw [mine] at yours
      cases yours

/-- Sessions with the presented digest stay in the family. -/
theorem Digests.frame (digests : race.Digests table)
    (moved : Table.Moved law tx status action status' table table')
    (harmless : ∀ (i : ℕ) (slot : Slot IdentityRow) (session : RefreshSessionModel),
      table[i]? = some slot → slot.uncommitted tx = some (refreshSessions.make session) →
        (∃ old, slot.committed = some (refreshSessions.make old) ∧ session.minted = old.minted) ∨
          session.tokenDigest ≠ race.revoker.digest) : race.Digests table' := by
  intro i slot' session at_i committed digest
  obtain ⟨slot, at_slot, before | ⟨written, _⟩⟩ := moved.committed_before at_i committed
  · exact digests i slot session at_slot before digest
  · rcases harmless i slot session at_slot written with ⟨old, oldCommitted, same⟩ | fresh
    · have family : session.familyId = old.familyId :=
        (congrArg RefreshSessionModel.familyId same :)
      have oldDigest : old.tokenDigest = race.revoker.digest :=
        (congrArg RefreshSessionModel.tokenDigest same.symm :).trans digest
      rw [family]
      exact digests i slot old at_slot oldCommitted oldDigest
    · exact absurd digest fresh

theorem make_injective {session other : RefreshSessionModel}
    (same : refreshSessions.make session = refreshSessions.make other) : session = other := by
  have read := congrArg refreshSessions.read same
  rw [refreshSessions.read_make, refreshSessions.read_make] at read
  exact Option.some.inj read

/-- What a revoking transaction writes are revoked forms of what it found. -/
theorem Revised.step (revised : Revised tx table)
    (moved : Table.Moved revokingLaw tx status action status' table table') :
    Revised tx table' := by
  intro i slot' row at_i written
  rcases moved.uncommitted_cases at_i written with
    ⟨slot, at_slot, same, before⟩ |
    ⟨slot, version, filter, assign, at_slot, same, visible, accepted, lawful, rfl⟩ |
    ⟨_, lawful⟩
  · rw [← same]
    exact revised i slot row at_slot before
  · obtain ⟨found, session, rfl, assigned, minted, revoked⟩ := lawful version accepted
    rw [Slot.visible_eq_or] at visible
    cases before : slot.uncommitted tx with
    | none =>
        rw [before, Option.none_or, same] at visible
        exact ⟨found, session, visible, assigned, minted, revoked⟩
    | some own =>
        rw [before, Option.some_or] at visible
        obtain ⟨old, revisedSession, committed, isMade, oldMinted, _⟩ :=
          revised i slot own at_slot before
        rw [Option.some.inj visible] at isMade
        have isFound := make_injective isMade
        refine ⟨old, session, by rw [← same, committed], assigned, ?_, revoked⟩
        rw [minted, isFound, oldMinted]
  · exact lawful.elim

/-- What the rotating transaction writes, and what it inserts. -/
theorem Rotated.step {familyId : String} (rotated : race.Rotated familyId table)
    (moved : Table.Moved (rotatingLaw race.revoker.digest familyId) 0 status action status' table
      table') : race.Rotated familyId table' := by
  intro i slot' row at_i written
  rcases moved.uncommitted_cases at_i written with
    ⟨slot, at_slot, same, before⟩ |
    ⟨slot, version, filter, assign, at_slot, same, visible, accepted, lawful, rfl⟩ |
    ⟨none, session, isMade, family, fresh⟩
  · rw [← same]
    exact rotated i slot row at_slot before
  · obtain ⟨found, session, rfl, assigned, minted, revoked⟩ := lawful version accepted
    rw [Slot.visible_eq_or] at visible
    refine ⟨session, assigned, ?_⟩
    cases before : slot.uncommitted 0 with
    | none =>
        rw [before, Option.none_or, same] at visible
        exact .inl ⟨found, visible, minted, revoked⟩
    | some own =>
        rw [before, Option.some_or] at visible
        obtain ⟨own', isMade, origin⟩ := rotated i slot own at_slot before
        rw [Option.some.inj visible] at isMade
        have isFound := make_injective isMade
        rw [isFound] at minted revoked
        rw [← same]
        rcases origin with ⟨old, committed, oldMinted, oldRevoked⟩ | ⟨none, family, fresh⟩
        · exact .inl ⟨old, committed, minted.trans oldMinted, revoked.trans oldRevoked⟩
        · refine .inr ⟨none, ?_, ?_⟩
          · rw [← family]
            exact (congrArg RefreshSessionModel.familyId minted :)
          · have sameDigest : session.tokenDigest = own'.tokenDigest :=
              (congrArg RefreshSessionModel.tokenDigest minted :)
            rw [sameDigest]
            exact fresh
  · exact ⟨session, isMade, .inr ⟨none, family, fresh⟩⟩

end Frame

/-! ## Steps of the rotating transaction -/

section Rotating

variable {tx : TxId} {table : Table IdentityRow} {i : ℕ} {slot : Slot IdentityRow}

theorem Clean.revised (clean : Clean tx table) : Revised tx table := by
  intro i slot row at_i written
  rw [clean i slot at_i] at written
  cases written

theorem Clean.rotated (clean : Clean 0 table) (familyId : String) :
    race.Rotated familyId table := by
  intro i slot row at_i written
  rw [clean i slot at_i] at written
  cases written

/-- A lock is no version. -/
theorem Clean.lock (clean : Clean tx table) (at_i : table[i]? = some slot)
    (free : slot.available tx = true) : Clean tx (table.set i (slot.lock tx)) := by
  intro j slot' at_j
  by_cases here : i = j
  · subst here
    rw [List.getElem?_set_self (List.getElem?_eq_some_iff.mp at_i).1] at at_j
    cases at_j
    rw [Slot.uncommitted_lock free]
    exact clean i slot at_i
  · rw [List.getElem?_set_ne here] at at_j
    exact clean j slot' at_j

/-- The rows it holds stay held while it is open. -/
theorem Held.step {law : Law IdentityRow AccessResponse}
    {status status' : Status IdentityRow String PyError AccessResponse} {action : Action}
    {table' : Table IdentityRow} {row : IdentityRow} (held : Held table row)
    (moved : Table.Moved law 0 status action status' table table')
    (isOpen : status'.isOpen = true) : Held table' row := by
  obtain ⟨i, slot, at_i, owned, committed⟩ := held
  obtain ⟨slot', at_i', owned', same⟩ := moved.keeps_held isOpen at_i owned
  exact ⟨i, slot', at_i', owned', same.trans committed⟩

/-- A locked row is held. -/
theorem held_lock {version : IdentityRow} (clean : Clean 0 table) (at_i : table[i]? = some slot)
    (visible : slot.visible 0 = some version) : Held (table.set i (slot.lock 0)) version := by
  refine ⟨i, slot.lock 0, List.getElem?_set_self (List.getElem?_eq_some_iff.mp at_i).1, rfl, ?_⟩
  rw [Slot.committed_lock, ← Slot.visible_of_clean (clean i slot at_i), visible]

variable {s : RouteSys} {table' : Table IdentityRow} {action : Action}
  {status' : Status IdentityRow String PyError AccessResponse}

/-- The state after a step of `tx`. -/
def after (s : RouteSys) (tx : TxId) (table' : Table IdentityRow)
    (status' : Status IdentityRow String PyError AccessResponse) : RouteSys where
  table := table'
  status := Function.update s.status tx status'

@[simp] theorem after_table : (after s tx table' status').table = table' := rfl

@[simp] theorem after_status_self : (after s tx table' status').status tx = status' :=
  Function.update_self ..

theorem after_status_of_ne {other : TxId} (different : other ≠ tx) :
    (after s tx table' status').status other = s.status other :=
  Function.update_of_ne different ..

/-- A transaction that has ended is closed. -/
theorem Rotator.of_closed (closed : status'.isOpen = false) :
    race.Rotator (after s 0 table' status') := by
  refine .closed ?_
  rw [after_status_self]
  exact closed

/-- The rotating transaction moves on from its `SELECT ... FOR UPDATE`. -/
theorem Rotator.step_waiting (waiting : s.status 0 = .running (refreshRoute race.rotation) ∨
      ∃ todo found, s.status 0 = .scanning
        { todo := todo, found := found
          filter := refreshSessions.on fun model =>
            model.tokenDigest == race.rotation.presentedDigest
          assign := none, resume := refreshNext race.rotation } ∧
        ∀ row ∈ found, Held s.table row)
    (clean : Clean 0 s.table)
    (moved : Status.step identityConflict 0 s.table (s.status 0) action = some (table', status')) :
    race.Rotator (after s 0 table' status') := by
  have lawful := ((s.status 0).obeys_anything.step moved).1
  rcases waiting with status | ⟨todo, found, status, held⟩
  · rw [status, refreshRoute_eq] at moved
    cases action with
    | advance =>
        cases moved
        exact .waiting (.inr ⟨_, _, after_status_self, nofun⟩) clean
    | visit position => cases moved
    | crash =>
        cases moved
        exact .of_closed rfl
  · rw [status] at moved
    cases Scan.steps moved with
    | passed pending at_i rejected =>
        exact .waiting (.inr ⟨_, _, after_status_self, held⟩) clean
    | @touched i slot version pending at_i free visible accepted =>
        refine .waiting (.inr ⟨_, _, after_status_self, fun row member => ?_⟩)
          (clean.lock at_i free)
        rcases List.mem_append.mp member with before | isLast
        · exact (held row before).step lawful rfl
        · rw [List.mem_singleton.mp isLast]
          exact held_lock clean at_i visible
    | ended finished =>
        rcases rotateNext_cases race.rotation race.fresh found with
          obeys | ⟨session, isFound, unrevoked, obeys⟩
        · refine .revoking ?_ clean.revised
          rw [after_status_self]
          exact obeys
        · refine .rotating session (held _ isFound) unrevoked ?_ (clean.rotated _)
          rw [after_status_self]
          exact obeys
    | crashed => exact .of_closed rfl

/-- **The rotating transaction follows its course.** -/
theorem Rotator.step (rotator : race.Rotator s)
    (moved : Status.step identityConflict 0 s.table (s.status 0) action = some (table', status')) :
    race.Rotator (after s 0 table' status') := by
  cases rotator with
  | waiting waiting clean => exact .step_waiting waiting clean moved
  | revoking obeys revised =>
      obtain ⟨lawful, obeys'⟩ := obeys.step moved
      refine .revoking ?_ (revised.step lawful)
      rw [after_status_self]
      exact obeys'
  | rotating session held unrevoked obeys rotated =>
      obtain ⟨lawful, obeys'⟩ := obeys.step moved
      cases isOpen : status'.isOpen with
      | false => exact .of_closed isOpen
      | true =>
          refine .rotating session (held.step lawful isOpen) unrevoked ?_ (rotated.step lawful)
          rw [after_status_self]
          exact obeys'
  | closed closed =>
      have stepped : s.step identityConflict (0, action) = some (after s 0 table' status') :=
        Sys.step_eq_some_iff.mpr ⟨_, _, moved, rfl⟩
      have wasOpen := Sys.isOpen_of_step stepped
      rw [closed] at wasOpen
      cases wasOpen

/-- What the rotating transaction has not committed yet: revoked forms, or forms
revoked no sooner than the committed ones, or replacements with another digest
in the family of a row that it holds. -/
theorem Rotator.uncommitted (rotator : race.Rotator s) (isOpen : (s.status 0).isOpen = true)
    {session : RefreshSessionModel} (at_i : s.table[i]? = some slot)
    (written : slot.uncommitted 0 = some (refreshSessions.make session)) :
    (∃ old, slot.committed = some (refreshSessions.make old) ∧ session.minted = old.minted ∧
        (session.revokedAt.isSome = true ∨ session.revokedAt = old.revokedAt)) ∨
      session.tokenDigest ≠ race.revoker.digest ∧
        ∃ locked, Held s.table (refreshSessions.make locked) ∧ locked.revokedAt = none ∧
          session.familyId = locked.familyId := by
  cases rotator with
  | waiting _ clean =>
      rw [clean i slot at_i] at written
      cases written
  | revoking _ revised =>
      obtain ⟨old, session', committed, isMade, minted, revoked⟩ :=
        revised i slot _ at_i written
      rw [← make_injective isMade] at minted revoked
      exact .inl ⟨old, committed, minted, .inl revoked⟩
  | rotating locked held unrevoked _ rotated =>
      obtain ⟨session', isMade, origin⟩ := rotated i slot _ at_i written
      rw [← make_injective isMade] at origin
      rcases origin with ⟨old, committed, minted, revoked⟩ | ⟨_, family, digest⟩
      · exact .inl ⟨old, committed, minted, .inr revoked⟩
      · exact .inr ⟨digest, locked, held, unrevoked, family⟩
  | closed closed =>
      rw [closed] at isOpen
      cases isOpen

/-- A transaction that commits a rotation is in its rotating course. -/
theorem Rotator.returns (rotator : race.Rotator s) {response : AccessResponse}
    (status : s.status 0 = .running (.done response)) :
    response.rotated = true ∨ Revised 0 s.table := by
  cases rotator with
  | waiting waiting clean => exact .inr clean.revised
  | revoking _ revised => exact .inr revised
  | rotating _ _ _ obeys _ =>
      rw [status] at obeys
      exact .inl obeys
  | closed closed =>
      rw [status] at closed
      cases closed

/-- **The coverage of the `UPDATE` survives** a step of the rotating transaction
that does not disturb it. -/
theorem Covered.of_rotator {todo : List ℕ} (covered : race.Covered todo s.table)
    (rotator : race.Rotator s) (undisturbed : Undisturbed s (0, action))
    (busy : todo = [] ∨ updating (s.status 1) = true)
    (moved : Status.step identityConflict 0 s.table (s.status 0) action = some (table', status')) :
    race.Covered todo table' := by
  refine covered.frame ((s.status 0).obeys_anything.step moved).1
    fun i slot session response at_i written status commits _ family unrevoked => ?_
  have isOpen : (s.status 0).isOpen = true := by rw [status]; rfl
  rcases rotator.uncommitted isOpen at_i written with
    ⟨old, committed, minted, revoked | same⟩ | ⟨_, locked, held, lockedUnrevoked, sameFamily⟩
  · rw [unrevoked] at revoked
    cases revoked
  · refine ⟨old, committed, ?_, same.symm.trans unrevoked⟩
    rw [← family]
    exact (congrArg RefreshSessionModel.familyId minted.symm :)
  · -- A replacement in the family: the `UPDATE` cannot be under way, and once it
    -- has ended the revoking transaction holds the row that the rotation holds.
    obtain ⟨j, slot', at_j, owned, committed⟩ := held
    have finished : todo = [] := by
      rcases busy with finished | scanning
      · exact finished
      · rcases rotator.returns status with rotated | revised
        · refine absurd ⟨by rw [commits], ?_, scanning⟩ undisturbed
          rw [status]
          exact rotated
        · obtain ⟨_, session', _, isMade, _, revoked⟩ := revised i slot _ at_i written
          rw [← make_injective isMade, unrevoked] at revoked
          cases revoked
    rcases covered j slot' locked at_j committed (sameFamily.symm.trans family) lockedUnrevoked with
      pending | ⟨row, taken⟩
    · rw [finished] at pending
      cases pending
    · rw [Slot.owner_of_uncommitted taken] at owned
      cases owned

/-- The revoking transaction is where it was. -/
theorem Revoking.of_rotator (revoking : race.Revoking s) (rotator : race.Rotator s)
    (undisturbed : Undisturbed s (0, action))
    (moved : Status.step identityConflict 0 s.table (s.status 0) action = some (table', status')) :
    race.Revoking (after s 0 table' status') := by
  have lawful := ((s.status 0).obeys_anything.step moved).1
  have other : (after s 0 table' status').status 1 = s.status 1 := after_status_of_ne (by decide)
  cases revoking with
  | before status clean =>
      refine .before ?_ (clean.frame (by decide) lawful)
      rwa [other]
  | ready revokedAt response status clean =>
      exact .ready revokedAt response (other.trans status) (clean.frame (by decide) lawful)
  | updating revokedAt response todo found status revised covered =>
      refine .updating revokedAt response todo found (other.trans status)
        (revised.frame (by decide) lawful) (covered.of_rotator rotator undisturbed ?_ moved)
      exact .inr (by rw [status]; rfl)
  | updated response status revised covered =>
      exact .updated response (other.trans status) (revised.frame (by decide) lawful)
        (covered.of_rotator rotator undisturbed (.inl rfl) moved)
  | closed response status clean covered =>
      exact .closed response (other.trans status) (clean.frame (by decide) lawful)
        (covered.of_rotator rotator undisturbed (.inl rfl) moved)

/-- **The race goes on after a step of the rotating transaction.** -/
theorem Racing.step_rotator (racing : race.Racing s) (undisturbed : Undisturbed s (0, action))
    (moved : Status.step identityConflict 0 s.table (s.status 0) action = some (table', status'))
    (isOpen : (s.status 0).isOpen = true) : race.Racing (after s 0 table' status') where
  digests := by
    refine racing.digests.frame ((s.status 0).obeys_anything.step moved).1
      fun i slot session at_i written => ?_
    rcases racing.rotator.uncommitted isOpen at_i written with
      ⟨old, committed, minted, _⟩ | ⟨digest, _⟩
    · exact .inl ⟨old, committed, minted⟩
    · exact .inr digest
  rotator := racing.rotator.step moved
  revoking := racing.revoking.of_rotator racing.rotator undisturbed moved
  alone tx notZero notOne := by
    rw [after_status_of_ne notZero]
    exact racing.alone tx notZero notOne

end Rotating

/-! ## Steps of the revoking transaction -/

section Revoked

variable {s : RouteSys} {table table' : Table IdentityRow} {action : Action}
  {status' : Status IdentityRow String PyError AccessResponse}

/-- The rotating transaction is where it was. -/
theorem Rotator.of_revoking (rotator : race.Rotator s)
    (moved : Status.step identityConflict 1 s.table (s.status 1) action = some (table', status')) :
    race.Rotator (after s 1 table' status') := by
  have lawful := ((s.status 1).obeys_anything.step moved).1
  have other : (after s 1 table' status').status 0 = s.status 0 := after_status_of_ne (by decide)
  cases rotator with
  | waiting waiting clean =>
      refine .waiting ?_ (clean.frame (by decide) lawful)
      rw [other]
      rcases waiting with status | ⟨todo, found, status, held⟩
      · exact .inl status
      · exact .inr ⟨todo, found, status, fun row member => (held row member).frame (by decide) lawful⟩
  | revoking obeys revised =>
      refine .revoking ?_ (revised.frame (by decide) lawful)
      rwa [other]
  | rotating session held unrevoked obeys rotated =>
      refine .rotating session (held.frame (by decide) lawful) unrevoked ?_
        (rotated.frame (by decide) lawful)
      rwa [other]
  | closed closed =>
      refine .closed ?_
      rwa [other]

/-- What the revoking transaction has not committed yet. -/
theorem Revoking.revised (revoking : race.Revoking s) : Revised 1 s.table := by
  cases revoking with
  | before _ clean => exact clean.revised
  | ready _ _ _ clean => exact clean.revised
  | updating _ _ _ _ _ revised _ => exact revised
  | updated _ _ revised _ => exact revised
  | closed _ _ clean _ => exact clean.revised

/-- The snapshot of the `UPDATE` covers the family. -/
theorem covered_candidates (clean : Clean 1 table) :
    race.Covered (Table.candidates 1 (refreshSessions.on (unrevokedIn race.familyId)) table)
      table := by
  intro i slot session at_i committed family unrevoked
  refine .inl (Table.mem_candidates.mpr ⟨slot, refreshSessions.make session, at_i, ?_, ?_⟩)
  · rw [Slot.visible_of_clean (clean i slot at_i), committed]
  · rw [Relation.on_make, unrevokedIn, family, unrevoked]
    simp

/-- Sessions that the first statement returns are of the family. -/
theorem family_of_filter {version : IdentityRow} {i : ℕ} {slot : Slot IdentityRow}
    (digests : race.Digests table) (clean : Clean 1 table) (at_i : table[i]? = some slot)
    (visible : slot.visible 1 = some version) (accepted : race.revoker.filter version = true)
    {session : RefreshSessionModel} (isMade : refreshSessions.make session = version) :
    session.familyId = race.familyId := by
  subst isMade
  rw [Slot.visible_of_clean (clean i slot at_i)] at visible
  rw [Revoker.filter, Relation.on_make] at accepted
  exact digests i slot session at_i visible (by simpa using accepted)

/-- Going on after the first statement. -/
theorem Inv.of_next (clean : Clean 1 s.table) {found : List IdentityRow}
    (family : ∀ session, refreshSessions.make session ∈ found → session.familyId = race.familyId)
    (racing : race.Revoking (after s 1 s.table (.running (race.revoker.next found))) →
      race.Racing (after s 1 s.table (.running (race.revoker.next found)))) :
    race.Inv (after s 1 s.table (.running (race.revoker.next found))) := by
  rcases race.revoker.next_cases found with silent | ⟨session, revokedAt, response, isFound, last⟩
  · refine .inl ?_
    rw [after_status_self]
    exact silent
  · refine .inr (racing (.ready revokedAt response ?_ clean))
    rw [after_status_self, last, family session isFound]

/-- The `UPDATE` has gone past a row that is no unrevoked session of the family. -/
theorem Covered.pass {todo : List ℕ} {i : ℕ} {slot : Slot IdentityRow}
    (covered : race.Covered todo table) (at_i : table[i]? = some slot)
    (rejected : ∀ version, slot.visible 1 = some version →
      refreshSessions.on (unrevokedIn race.familyId) version = false) :
    race.Covered (todo.erase i) table := by
  intro j slot' session at_j committed family unrevoked
  rcases covered j slot' session at_j committed family unrevoked with waits | written
  · by_cases here : j = i
    · subst here
      rw [at_i] at at_j
      cases at_j
      cases own : slot.uncommitted 1 with
      | some row => exact .inr ⟨row, rfl⟩
      | none =>
          have refused := rejected (refreshSessions.make session)
            ((Slot.visible_of_clean own).trans committed)
          rw [Relation.on_make, unrevokedIn, family, unrevoked] at refused
          simp at refused
    · exact .inl ((List.mem_erase_of_ne here).mpr waits)
  · exact .inr written

/-- The `UPDATE` has written a row. -/
theorem Covered.write {todo : List ℕ} {i : ℕ} {slot : Slot IdentityRow}
    (covered : race.Covered todo table) (at_i : table[i]? = some slot) (row : IdentityRow) :
    race.Covered (todo.erase i) (table.set i (slot.write 1 row)) := by
  intro j slot' session at_j committed family unrevoked
  by_cases here : i = j
  · subst here
    rw [List.getElem?_set_self (List.getElem?_eq_some_iff.mp at_i).1] at at_j
    cases at_j
    exact .inr ⟨row, Slot.uncommitted_write⟩
  · rw [List.getElem?_set_ne here] at at_j
    rcases covered j slot' session at_j committed family unrevoked with waits | written
    · exact .inl ((List.mem_erase_of_ne (Ne.symm here)).mpr waits)
    · exact .inr written

/-- A rollback of the revoking transaction: it reports nothing. -/
theorem Inv.of_crash : race.Inv (after s 1 table' (.aborted none)) := by
  refine .inl ?_
  rw [after_status_self]
  exact trivial

/-- The revoking transaction before the family's `UPDATE`. -/
theorem Inv.step_before (digests : race.Digests s.table)
    (status : s.status 1 = .running race.revoker.body ∨
      ∃ todo found, s.status 1 = .scanning
        { todo := todo, found := found, filter := race.revoker.filter
          assign := none, resume := race.revoker.next } ∧
        ∀ session, refreshSessions.make session ∈ found → session.familyId = race.familyId)
    (clean : Clean 1 s.table)
    (racing : race.Revoking (after s 1 table' status') → race.Racing (after s 1 table' status'))
    (moved : Status.step identityConflict 1 s.table (s.status 1) action = some (table', status')) :
    race.Inv (after s 1 table' status') := by
  rcases status with status | ⟨todo, found, status, family⟩
  · rw [status] at moved
    rcases race.revoker.body_cases with locks | selects
    · rw [locks] at moved
      cases action with
      | advance =>
          cases moved
          exact .inr (racing (.before (.inr ⟨_, _, after_status_self, nofun⟩) clean))
      | visit position => cases moved
      | crash =>
          cases moved
          exact .of_crash
    · rw [selects] at moved
      cases action with
      | advance =>
          cases moved
          refine .of_next clean (fun session isFound => ?_) racing
          obtain ⟨isVisible, accepted⟩ := List.mem_filter.mp isFound
          obtain ⟨slot, member, visible⟩ := Table.mem_visibleRows.mp isVisible
          obtain ⟨i, at_i⟩ := List.mem_iff_getElem?.mp member
          exact family_of_filter digests clean at_i visible accepted rfl
      | visit position => cases moved
      | crash =>
          cases moved
          exact .of_crash
  · rw [status] at moved
    cases Scan.steps moved with
    | passed pending at_i rejected =>
        exact .inr (racing (.before (.inr ⟨_, _, after_status_self, family⟩) clean))
    | touched pending at_i free visible accepted =>
        refine .inr (racing (.before (.inr ⟨_, _, after_status_self, fun session isFound => ?_⟩)
          (clean.lock at_i free)))
        rcases List.mem_append.mp isFound with before | isLast
        · exact family session before
        · exact family_of_filter digests clean at_i visible accepted (List.mem_singleton.mp isLast)
    | ended finished => exact .of_next clean family racing
    | crashed => exact .of_crash

/-- The family's `UPDATE` visits a row. -/
theorem Inv.step_updating {revokedAt : Instant} {response : AccessResponse} {todo : List ℕ}
    {found : List IdentityRow}
    (status : s.status 1 = .scanning
      { todo := todo, found := found, filter := refreshSessions.on (unrevokedIn race.familyId)
        assign := some (refreshSessions.set (revokedBy revokedAt))
        resume := fun _ => .done response })
    (revised : Revised 1 s.table) (covered : race.Covered todo s.table)
    (racing : race.Revoking (after s 1 table' status') → race.Racing (after s 1 table' status'))
    (moved : Status.step identityConflict 1 s.table (s.status 1) action = some (table', status')) :
    race.Inv (after s 1 table' status') := by
  have obeys : (s.status 1).Obeys revokingLaw := by
    rw [status]
    refine ⟨fun assign same => ?_, fun _ => trivial⟩
    cases same
    exact revokingLaw_updates _ _
  have revised' := revised.step (obeys.step moved).1
  rw [status] at moved
  cases Scan.steps moved with
  | passed pending at_i rejected =>
      exact .inr (racing (.updating revokedAt response _ _ after_status_self revised'
        (covered.pass at_i rejected)))
  | touched pending at_i free visible accepted =>
      exact .inr (racing (.updating revokedAt response _ _ after_status_self revised'
        (covered.write at_i _)))
  | ended finished =>
      have finished' : todo = [] := finished
      rw [finished'] at covered
      exact .inr (racing (.updated response after_status_self revised covered))
  | crashed => exact .of_crash

/-- The commit of the revocation. -/
theorem Inv.step_updated {response : AccessResponse}
    (status : s.status 1 = .running (.done response)) (revised : Revised 1 s.table)
    (covered : race.Covered [] s.table)
    (racing : race.Revoking (after s 1 table' status') → race.Racing (after s 1 table' status'))
    (moved : Status.step identityConflict 1 s.table (s.status 1) action = some (table', status')) :
    race.Inv (after s 1 table' status') := by
  rw [status] at moved
  cases action with
  | visit position => cases moved
  | crash =>
      cases moved
      exact .of_crash
  | advance =>
      cases moved
      refine .inr (racing (.closed response after_status_self ?_ ?_))
      · intro i slot' at_i
        rw [after_table, List.getElem?_map] at at_i
        obtain ⟨slot, at_slot, rfl⟩ := Option.map_eq_some_iff.mp at_i
        refine Slot.uncommitted_of_owner_ne ?_
        rw [Slot.owner_publish]
        split
        · exact nofun
        · assumption
      · intro i slot' session at_i committed family unrevoked
        rw [after_table, List.getElem?_map] at at_i
        obtain ⟨slot, at_slot, rfl⟩ := Option.map_eq_some_iff.mp at_i
        rw [Slot.committed_publish, Slot.visible_eq_or] at committed
        cases own : slot.uncommitted 1 with
        | some row =>
            obtain ⟨_, session', _, isMade, _, revoked⟩ := revised i slot row at_slot own
            rw [own, Option.some_or, isMade] at committed
            rw [make_injective (Option.some.inj committed), unrevoked] at revoked
            cases revoked
        | none =>
            rw [own, Option.none_or] at committed
            rcases covered i slot session at_slot committed family unrevoked with
              waits | ⟨row, written⟩
            · cases waits
            · rw [own] at written
              cases written

/-- **The race goes on after a step of the revoking transaction**, or it will
report no revocation. -/
theorem Racing.step_revoking (racing : race.Racing s)
    (moved : Status.step identityConflict 1 s.table (s.status 1) action = some (table', status'))
    (isOpen : (s.status 1).isOpen = true) : race.Inv (after s 1 table' status') := by
  have goesOn : race.Revoking (after s 1 table' status') →
      race.Racing (after s 1 table' status') := by
    refine fun revoking => ⟨?_, racing.rotator.of_revoking moved, revoking, fun tx notZero notOne => ?_⟩
    · refine racing.digests.frame ((s.status 1).obeys_anything.step moved).1
        fun i slot session at_i written => ?_
      obtain ⟨old, session', committed, isMade, minted, _⟩ :=
        racing.revoking.revised i slot _ at_i written
      rw [← make_injective isMade] at minted
      exact .inl ⟨old, committed, minted⟩
    · rw [after_status_of_ne notOne]
      exact racing.alone tx notZero notOne
  cases racing.revoking with
  | before status clean => exact .step_before racing.digests status clean goesOn moved
  | ready revokedAt response status clean =>
      rw [status] at moved
      cases action with
      | advance =>
          cases moved
          exact .inr (goesOn (.updating revokedAt response _ _ after_status_self clean.revised
            (covered_candidates clean)))
      | visit position => cases moved
      | crash =>
          cases moved
          exact .of_crash
  | updating revokedAt response todo found status revised covered =>
      exact .step_updating status revised covered goesOn moved
  | updated response status revised covered => exact .step_updated status revised covered goesOn moved
  | closed response status clean covered =>
      rw [status] at isOpen
      cases isOpen

/-- **Every undisturbed step keeps the invariant.** -/
theorem Inv.step {s' : RouteSys} {label : Label} (inv : race.Inv s)
    (undisturbed : Undisturbed s label)
    (stepped : s.step identityConflict label = some s') : race.Inv s' := by
  have isOpen := Sys.isOpen_of_step stepped
  obtain ⟨tx, action⟩ := label
  obtain ⟨table', status', moved, rfl⟩ := Sys.step_eq_some_iff.mp stepped
  rcases inv with silent | racing
  · refine .inl ?_
    by_cases moves : tx = 1
    · subst moves
      show Status.Obeys silentLaw ((after s 1 table' status').status 1)
      rw [after_status_self]
      exact (silent.step moved).2
    · show Status.Obeys silentLaw ((after s tx table' status').status 1)
      rw [after_status_of_ne (Ne.symm moves)]
      exact silent
  · by_cases rotates : tx = 0
    · subst rotates
      exact .inr (racing.step_rotator undisturbed moved isOpen)
    · by_cases revokes : tx = 1
      · subst revokes
        exact racing.step_revoking moved isOpen
      · have ended := racing.alone tx rotates revokes
        rw [ended] at isOpen
        cases isOpen

end Revoked

/-! ## The outcome -/

theorem clean_start (tx : TxId) : Clean tx race.start.table := by
  intro i slot at_i
  obtain ⟨row, _, rfl⟩ := List.mem_map.mp (List.mem_of_getElem? at_i)
  rfl

theorem inv_start : race.Inv race.start := by
  refine .inr ⟨?_, .waiting (.inl rfl) (clean_start 0), .before (.inl rfl) (clean_start 1), ?_⟩
  · intro i slot session at_i committed digest
    obtain ⟨row, member, rfl⟩ := List.mem_map.mp (List.mem_of_getElem? at_i)
    rw [Slot.committed_settled] at committed
    cases committed
    obtain ⟨presented, presentedMember, presentedDigest, family⟩ := race.presented
    have same : session = presented :=
      List.inj_on_of_nodup_map race.unique.digests (refreshSessions.mem_rows.mpr member)
        presentedMember (digest.trans presentedDigest.symm)
    rw [same, family]
  · intro tx notZero notOne
    match tx, notZero, notOne with
    | 0, notZero, _ => exact absurd rfl notZero
    | 1, _, notOne => exact absurd rfl notOne
    | _ + 2, _, _ => rfl

/-- The sessions of the family in the committed state. -/
def familySessions (race : RevocationRace) (s : RouteSys) : List RefreshSessionModel :=
  (refreshSessions.rows (Table.committedRows s.table)).filter fun session =>
    session.familyId == race.familyId

/-- **A reported revocation leaves no active session**, if the rotation does not
commit during the family's `UPDATE`. -/
theorem revoked_of_undisturbed (race : RevocationRace) (labels : List Label) (s : RouteSys)
    (response : AccessResponse)
    (ran : Sys.RunsWithin identityConflict Undisturbed race.start labels s)
    (committed : s.status 1 = .committed response) (reported : response.revoked = true) :
    ∀ session ∈ race.familySessions s, ∀ checkedAt, session.isActive checkedAt = false := by
  intro session member checkedAt
  have inv : race.Inv s := ran.induction (fun inv undisturbed stepped =>
    inv.step undisturbed stepped) inv_start
  rcases inv with silent | racing
  · rw [committed] at silent
    have notReported : response.revoked = false := silent
    rw [notReported] at reported
    cases reported
  · obtain ⟨isStored, family⟩ := List.mem_filter.mp member
    obtain ⟨slot, slotMember, isCommitted⟩ :=
      Table.mem_committedRows.mp (refreshSessions.mem_rows.mp isStored)
    obtain ⟨i, at_i⟩ := List.mem_iff_getElem?.mp slotMember
    cases racing.revoking with
    | closed response' status clean covered =>
        cases revokedAt : session.revokedAt with
        | some instant =>
            rw [RefreshSessionModel.isActive, revokedAt]
            simp
        | none =>
            rcases covered i slot session at_i isCommitted (by simpa using family) revokedAt with
              waits | ⟨row, written⟩
            · cases waits
            · rw [clean i slot at_i] at written
              cases written
    | before status =>
        rcases status with status | ⟨todo, found, status, _⟩
        · rw [committed] at status
          cases status
        · rw [committed] at status
          cases status
    | ready revokedAt response' status clean =>
        rw [committed] at status
        cases status
    | updating revokedAt response' todo found status revised covered =>
        rw [committed] at status
        cases status
    | updated response' status revised covered =>
        rw [committed] at status
        cases status

/-- A family whose first token is presented again while its live one is rotated. -/
def replayRace : RevocationRace where
  database := managerStore ++ [
    .refreshSession ⟨"s0", "family", "u", "t", "d0", 0, 10 * second, 100 * second,
      some (5 * second), none⟩,
    .refreshSession ⟨"s1", "family", "u", "t", "d1", 5 * second, 15 * second, 100 * second,
      none, none⟩]
  unique := ⟨by decide, by decide⟩
  rotation := ⟨"d1", "s2", "d2", 8 * second, 10 * second⟩
  revoker := .replay ⟨"d0", "s3", "d3", 8 * second, 10 * second⟩
  familyId := "family"
  presented := by decide
  fresh := by decide

/-- The rotation up to its commit: it locks and consumes the live session,
inserts the replacement and resolves the identity. -/
def rotationSteps : List Label :=
  [(0, .advance), (0, .visit 5), (0, .advance), (0, .advance), (0, .visit 5), (0, .advance),
    (0, .advance), (0, .advance), (0, .advance), (0, .advance), (0, .advance), (0, .advance)]

/-- The replay is detected. -/
def detectionSteps : List Label := [(1, .advance), (1, .visit 4), (1, .advance)]

/-- The rotation commits before the snapshot of the family's `UPDATE`. -/
def commitBefore : List Label :=
  rotationSteps ++ detectionSteps ++
    [(0, .advance), (1, .advance), (1, .visit 4), (1, .visit 5), (1, .visit 6), (1, .advance),
      (1, .advance)]

/-- The rotation commits while the family's `UPDATE` waits for the row it holds. -/
def commitDuring : List Label :=
  rotationSteps ++ detectionSteps ++
    [(1, .advance), (1, .visit 4), (0, .advance), (1, .visit 5), (1, .advance), (1, .advance)]

/-- The system when the revocation has followed the rotation. -/
def revokedAfter : RouteSys :=
  (replayRace.start.runWithin identityConflict Undisturbed commitBefore).get (by decide)

theorem revoked_of_undisturbed_replayRace :
    (replayRace.familySessions revokedAfter).length = 3 ∧
      ∀ session ∈ replayRace.familySessions revokedAfter, ∀ checkedAt,
        session.isActive checkedAt = false := by
  obtain ⟨response, committed, reported⟩ : ∃ response,
      (revokedAfter.status 1).result = some response ∧ response.revoked = true :=
    ⟨_, (Option.some_get (by decide)).symm, by decide⟩
  exact ⟨by decide, revoked_of_undisturbed replayRace commitBefore revokedAfter response
    (.of_runWithin (Option.some_get _).symm) (Status.result_eq_some.mp committed) reported⟩

/-- **A replacement can escape**: both transactions have committed, the replay
has been reported, and the replacement is active. -/
theorem replacement_escapes :
    ∃ s rotation response,
      replayRace.start.run identityConflict commitDuring = some s ∧
        s.status 0 = .committed rotation ∧ rotation.rotated = true ∧
        s.status 1 = .committed response ∧ response.revoked = true ∧
        ∃ session ∈ replayRace.familySessions s, session.isActive (9 * second) = true := by
  refine ⟨(replayRace.start.run identityConflict commitDuring).get (by decide),
    ((((replayRace.start.run identityConflict commitDuring).get (by decide)).status
      0).result).get (by decide),
    ((((replayRace.start.run identityConflict commitDuring).get (by decide)).status
      1).result).get (by decide), (Option.some_get _).symm,
    Status.result_eq_some.mp (Option.some_get _).symm, by decide,
    Status.result_eq_some.mp (Option.some_get _).symm, by decide, by decide⟩

end RevocationRace

end BidSystem.Identity
