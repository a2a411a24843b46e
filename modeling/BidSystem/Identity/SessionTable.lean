import BidSystem.Identity.Repository

/-!
# Histories of the session table

What the identity transactions do to `refresh_session`, without their
statements.  A transaction has one of four effects (`SessionEvent`): it issues
the first session of a family, rotates a session, revokes a family or leaves
the table alone.  No effect changes more of a stored session than the two
columns `consumed_at` and `revoked_at`, so the table is at all times the list
of the sessions created so far, in order, with these two columns filled in.

* `SessionEvent.Allowed` — when an event may happen.
* `SessionHistory events sessions` — the invariant: which session was created,
  consumed and revoked is what the events say.
* `SessionHistory.step` — allowed events preserve it.
* `SessionHistory.Extends` — what later events leave in place.
-/

namespace BidSystem.Identity

open ReadCommitted

namespace RefreshSessionModel

/-- The session as it was created. -/
def minted (session : RefreshSessionModel) : RefreshSessionModel :=
  { session with consumedAt := none, revokedAt := none }

/-- What all sessions of a family have in common. -/
structure SameFamily (session other : RefreshSessionModel) : Prop where
  familyId : session.familyId = other.familyId
  userId : session.userId = other.userId
  tenantId : session.tenantId = other.tenantId
  absoluteExpiresAt : session.absoluteExpiresAt = other.absoluteExpiresAt

theorem SameFamily.refl (session : RefreshSessionModel) : session.SameFamily session :=
  ⟨rfl, rfl, rfl, rfl⟩

theorem SameFamily.symm {session other : RefreshSessionModel} (same : session.SameFamily other) :
    other.SameFamily session :=
  ⟨same.familyId.symm, same.userId.symm, same.tenantId.symm, same.absoluteExpiresAt.symm⟩

theorem SameFamily.trans {session other third : RefreshSessionModel}
    (front : session.SameFamily other) (back : other.SameFamily third) : session.SameFamily third :=
  ⟨front.familyId.trans back.familyId, front.userId.trans back.userId,
    front.tenantId.trans back.tenantId, front.absoluteExpiresAt.trans back.absoluteExpiresAt⟩

theorem SameFamily.of_minted {session other : RefreshSessionModel}
    (same : session.minted = other.minted) : session.SameFamily other :=
  ⟨(congrArg RefreshSessionModel.familyId same :), (congrArg RefreshSessionModel.userId same :),
    (congrArg RefreshSessionModel.tenantId same :),
    (congrArg RefreshSessionModel.absoluteExpiresAt same :)⟩

/-- Validity concerns only the fields that never change. -/
theorem Valid.of_minted {session other : RefreshSessionModel}
    (same : session.minted = other.minted) : session.Valid ↔ other.Valid := by
  have onMinted : ∀ model : RefreshSessionModel, model.minted.Valid ↔ model.Valid := fun model =>
    ⟨fun valid => ⟨valid.identifiers, valid.idle_le_absolute⟩,
      fun valid => ⟨valid.identifiers, valid.idle_le_absolute⟩⟩
  rw [← onMinted session, same, onMinted other]

end RefreshSessionModel

/-- The sessions of one family. -/
def family (familyId : String) (sessions : List RefreshSessionModel) : List RefreshSessionModel :=
  sessions.filter fun session => session.familyId == familyId

theorem mem_family {familyId : String} {sessions : List RefreshSessionModel}
    {session : RefreshSessionModel} :
    session ∈ family familyId sessions ↔ session ∈ sessions ∧ session.familyId = familyId := by
  simp [family]

/-- What one transaction does to the session table.  A rotation and a
revocation name the stored session that was presented. -/
inductive SessionEvent where
  | issued (session : RefreshSessionModel)
  | rotated (presented replacement : RefreshSessionModel)
  | revoked (presented : RefreshSessionModel) (revokedAt : Instant)
  | unchanged
deriving DecidableEq, Repr

namespace SessionEvent

/-- The session created. -/
def minted : SessionEvent → Option RefreshSessionModel
  | issued session => some session
  | rotated _ replacement => some replacement
  | revoked _ _ | unchanged => none

/-- The stored session presented. -/
def presented : SessionEvent → Option RefreshSessionModel
  | rotated presented _ | revoked presented _ => some presented
  | issued _ | unchanged => none

def issues (familyId : String) : SessionEvent → Bool
  | issued session => session.familyId == familyId
  | _ => false

def rotates (familyId : String) : SessionEvent → Bool
  | rotated _ replacement => replacement.familyId == familyId
  | _ => false

def consumes (sessionId : String) : SessionEvent → Bool
  | rotated presented _ => presented.sessionId == sessionId
  | _ => false

def revokes (familyId : String) : SessionEvent → Bool
  | revoked presented _ => presented.familyId == familyId
  | _ => false

/-- What the event does to a session that is already stored. -/
def touch : SessionEvent → RefreshSessionModel → RefreshSessionModel
  | rotated presented replacement, session =>
      if session.sessionId == presented.sessionId then
        { session with consumedAt := some replacement.issuedAt }
      else session
  | revoked presented revokedAt, session =>
      if unrevokedIn presented.familyId session then revokedBy revokedAt session else session
  | issued _, session | unchanged, session => session

/-- The session table after the event. -/
def apply (event : SessionEvent) (sessions : List RefreshSessionModel) :
    List RefreshSessionModel :=
  sessions.map event.touch ++ event.minted.toList

/-- The identity tables after the event. -/
def store (event : SessionEvent) (database : List IdentityRow) : List IdentityRow :=
  database.map (refreshSessions.set event.touch) ++ event.minted.toList.map refreshSessions.make

theorem rows_store (event : SessionEvent) (database : List IdentityRow) :
    refreshSessions.rows (event.store database) = event.apply (refreshSessions.rows database) := by
  unfold store apply
  rw [Relation.rows_append, Relation.rows_map_set]
  cases event.minted with
  | none => rfl
  | some session => rfl

/-- Session events leave the other tables alone. -/
theorem rows_store_of_disjoint {α : Type} {other : Relation IdentityRow α}
    (disjoint : refreshSessions.Disjoint other) (event : SessionEvent)
    (database : List IdentityRow) :
    other.rows (event.store database) = other.rows database := by
  unfold store
  rw [Relation.rows_append, Relation.rows_map_set_of_disjoint disjoint]
  cases event.minted with
  | none => simp
  | some session =>
      have nothing := Relation.rows_singleton_of_disjoint disjoint session
      simpa using nothing

/-- Issuing a session inserts its row. -/
theorem store_issued (session : RefreshSessionModel) (database : List IdentityRow) :
    (issued session).store database = database ++ [refreshSessions.make session] := by
  have same : refreshSessions.set (issued session).touch = id := by
    funext stored
    cases stored <;> rfl
  rw [store, same, List.map_id]
  rfl

@[simp] theorem store_unchanged (database : List IdentityRow) :
    unchanged.store database = database := by
  have same : refreshSessions.set unchanged.touch = id := by
    funext stored
    cases stored <;> rfl
  simp [store, same, minted]

theorem apply_unchanged (sessions : List RefreshSessionModel) :
    unchanged.apply sessions = sessions := by
  have same : touch unchanged = id := rfl
  rw [apply, same, List.map_id]
  exact List.append_nil sessions

/-! ## What an event leaves of a session -/

/-- Only `consumed_at` and `revoked_at` of a stored session ever change. -/
@[simp] theorem minted_touch (event : SessionEvent) (session : RefreshSessionModel) :
    (event.touch session).minted = session.minted := by
  unfold touch
  split
  · split <;> rfl
  · split <;> rfl
  · rfl
  · rfl

@[simp] theorem sessionId_touch (event : SessionEvent) (session : RefreshSessionModel) :
    (event.touch session).sessionId = session.sessionId :=
  (congrArg RefreshSessionModel.sessionId (event.minted_touch session) :)

@[simp] theorem tokenDigest_touch (event : SessionEvent) (session : RefreshSessionModel) :
    (event.touch session).tokenDigest = session.tokenDigest :=
  (congrArg RefreshSessionModel.tokenDigest (event.minted_touch session) :)

@[simp] theorem familyId_touch (event : SessionEvent) (session : RefreshSessionModel) :
    (event.touch session).familyId = session.familyId :=
  (congrArg RefreshSessionModel.familyId (event.minted_touch session) :)

/-- An event consumes exactly the session it rotates. -/
theorem consumedAt_touch (event : SessionEvent) (session : RefreshSessionModel) :
    (event.touch session).consumedAt.isSome =
      (session.consumedAt.isSome || event.consumes session.sessionId) := by
  cases event with
  | rotated presented replacement =>
      by_cases same : session.sessionId = presented.sessionId
      · simp [touch, consumes, same]
      · simp [touch, consumes, same, Ne.symm same]
  | revoked presented revokedAt =>
      simp only [touch, consumes, Bool.or_false]
      split <;> rfl
  | issued session => simp [touch, consumes]
  | unchanged => simp [touch, consumes]

/-- An event revokes exactly the family it names. -/
theorem revokedAt_touch (event : SessionEvent) (session : RefreshSessionModel) :
    (event.touch session).revokedAt.isSome =
      (session.revokedAt.isSome || event.revokes session.familyId) := by
  cases event with
  | rotated presented replacement =>
      simp only [touch, revokes, Bool.or_false]
      split <;> rfl
  | revoked presented revokedAt =>
      by_cases same : session.familyId = presented.familyId
      · cases revoked : session.revokedAt with
        | none => simp [touch, revokes, unrevokedIn, revokedBy, same, revoked]
        | some earlier => simp [touch, revokes, unrevokedIn, same, revoked]
      · simp [touch, revokes, unrevokedIn, same, Ne.symm same]
  | issued session => simp [touch, revokes]
  | unchanged => simp [touch, revokes]

/-- A revoked session keeps its revocation time. -/
theorem revokedAt_touch_of_revoked (event : SessionEvent) {session : RefreshSessionModel}
    (revoked : session.revokedAt.isSome = true) :
    (event.touch session).revokedAt = session.revokedAt := by
  unfold touch
  split
  · split <;> rfl
  · next presented revokedAt =>
      have rejected : unrevokedIn presented.familyId session = false := by
        simp [unrevokedIn, revoked]
      simp [rejected]
  · rfl
  · rfl

theorem mem_apply {event : SessionEvent} {sessions : List RefreshSessionModel}
    {session : RefreshSessionModel} :
    session ∈ event.apply sessions ↔
      (∃ earlier ∈ sessions, event.touch earlier = session) ∨ event.minted = some session := by
  simp [apply]

/-! ## When an event may happen -/

/-- A session that may be added to the table. -/
structure Mintable (session : RefreshSessionModel) (sessions : List RefreshSessionModel) :
    Prop where
  unused : session.minted = session
  valid : session.Valid
  fresh : ∀ old ∈ sessions,
    old.sessionId ≠ session.sessionId ∧ old.tokenDigest ≠ session.tokenDigest

/-- The guard of an event on the stored sessions. -/
inductive Allowed (sessions : List RefreshSessionModel) : SessionEvent → Prop
  | issued {session : RefreshSessionModel} (mintable : Mintable session sessions)
      (newFamily : ∀ old ∈ sessions, old.familyId ≠ session.familyId) :
      Allowed sessions (.issued session)
  | rotated {presented replacement : RefreshSessionModel} (member : presented ∈ sessions)
      (unconsumed : presented.consumedAt = none) (unrevoked : presented.revokedAt = none)
      (mintable : Mintable replacement sessions) (same : replacement.SameFamily presented) :
      Allowed sessions (.rotated presented replacement)
  | revoked {presented : RefreshSessionModel} {revokedAt : Instant}
      (member : presented ∈ sessions) : Allowed sessions (.revoked presented revokedAt)
  | unchanged : Allowed sessions .unchanged

theorem Allowed.mintable {sessions : List RefreshSessionModel} {event : SessionEvent}
    (allowed : event.Allowed sessions) {session : RefreshSessionModel}
    (created : event.minted = some session) : Mintable session sessions := by
  cases allowed with
  | issued mintable newFamily =>
      cases created
      exact mintable
  | rotated member unconsumed unrevoked mintable same =>
      cases created
      exact mintable
  | revoked member => cases created
  | unchanged => cases created

theorem Allowed.presented_mem {sessions : List RefreshSessionModel} {event : SessionEvent}
    (allowed : event.Allowed sessions) {presented : RefreshSessionModel}
    (names : event.presented = some presented) : presented ∈ sessions := by
  cases allowed with
  | issued mintable newFamily => cases names
  | rotated member unconsumed unrevoked mintable same =>
      cases names
      exact member
  | revoked member =>
      cases names
      exact member
  | unchanged => cases names

end SessionEvent

open SessionEvent

/-! ## The invariant of a history -/

/-- **The session table told by its history.** -/
structure SessionHistory (events : List SessionEvent) (sessions : List RefreshSessionModel) :
    Prop where
  /-- The stored sessions are those created, in order. -/
  created : sessions.map RefreshSessionModel.minted = events.filterMap SessionEvent.minted
  ids : (sessions.map RefreshSessionModel.sessionId).Nodup
  digests : (sessions.map RefreshSessionModel.tokenDigest).Nodup
  valid : ∀ session ∈ sessions, session.Valid
  /-- Every event presented a session that is stored. -/
  presented : ∀ event ∈ events, ∀ presented, event.presented = some presented →
    ∃ session ∈ sessions, session.minted = presented.minted
  /-- Every session belongs to the family of a login. -/
  login : ∀ session ∈ sessions, ∃ first, .issued first ∈ events ∧ session.SameFamily first
  oneLogin : ∀ familyId, events.countP (issues familyId) ≤ 1
  consumed : ∀ session ∈ sessions,
    session.consumedAt.isSome = events.any (consumes session.sessionId)
  /-- Revocation concerns whole families. -/
  revoked : ∀ session ∈ sessions,
    session.revokedAt.isSome = events.any (revokes session.familyId)
  /-- Every family has an unconsumed session. -/
  tail : ∀ session ∈ sessions, ∃ live ∈ sessions,
    live.familyId = session.familyId ∧ live.consumedAt = none
  /-- No family has two of them. -/
  single : ∀ session ∈ sessions, ∀ other ∈ sessions, session.familyId = other.familyId →
    session.consumedAt = none → other.consumedAt = none → session.sessionId = other.sessionId

namespace SessionHistory

/-- No session, no history. -/
theorem nil : SessionHistory [] [] where
  created := rfl
  ids := List.nodup_nil
  digests := List.nodup_nil
  valid := by simp
  presented := by simp
  login := by simp
  oneLogin := by simp
  consumed := by simp
  revoked := by simp
  tail := by simp
  single := by simp

section Step

variable {events : List SessionEvent} {sessions : List RefreshSessionModel} {event : SessionEvent}

/-- Sessions with one id are one session. -/
theorem eq_of_sessionId (history : SessionHistory events sessions)
    {session other : RefreshSessionModel} (member : session ∈ sessions)
    (otherMember : other ∈ sessions) (same : session.sessionId = other.sessionId) :
    session = other :=
  List.inj_on_of_nodup_map history.ids member otherMember same

theorem eq_of_tokenDigest (history : SessionHistory events sessions)
    {session other : RefreshSessionModel} (member : session ∈ sessions)
    (otherMember : other ∈ sessions) (same : session.tokenDigest = other.tokenDigest) :
    session = other :=
  List.inj_on_of_nodup_map history.digests member otherMember same

/-- An event creates at most one session, and its columns are new. -/
theorem nodup_apply {β : Type} (column : RefreshSessionModel → β)
    (kept : ∀ session, column (event.touch session) = column session)
    (nodup : (sessions.map column).Nodup)
    (fresh : ∀ session, event.minted = some session → ∀ old ∈ sessions,
      column old ≠ column session) :
    ((event.apply sessions).map column).Nodup := by
  have touched : (sessions.map event.touch).map column = sessions.map column := by
    rw [List.map_map]
    exact List.map_congr_left fun session _ => kept session
  unfold apply
  rw [List.map_append, touched]
  cases created : event.minted with
  | none => simpa using nodup
  | some session =>
      have absent : column session ∉ sessions.map column := by
        intro member
        obtain ⟨old, oldMember, same⟩ := List.mem_map.mp member
        exact fresh session created old oldMember same
      simp only [Option.toList_some, List.map_cons, List.map_nil]
      exact nodup.append (List.nodup_singleton _) (by simpa using absent)

theorem created_step (history : SessionHistory events sessions)
    (allowed : event.Allowed sessions) :
    (event.apply sessions).map RefreshSessionModel.minted =
      (events ++ [event]).filterMap SessionEvent.minted := by
  have touched : (sessions.map event.touch).map RefreshSessionModel.minted =
      sessions.map RefreshSessionModel.minted := by
    rw [List.map_map]
    exact List.map_congr_left fun session _ => minted_touch event session
  unfold apply
  rw [List.map_append, touched, history.created, List.filterMap_append]
  cases created : event.minted with
  | none => simp [created]
  | some session => simp [created, (allowed.mintable created).unused]

theorem valid_step (history : SessionHistory events sessions)
    (allowed : event.Allowed sessions) : ∀ session ∈ event.apply sessions, session.Valid := by
  intro session member
  rcases mem_apply.mp member with ⟨earlier, earlierMember, rfl⟩ | created
  · exact (RefreshSessionModel.Valid.of_minted (event.minted_touch earlier)).mpr
      (history.valid earlier earlierMember)
  · exact (allowed.mintable created).valid

theorem presented_step (history : SessionHistory events sessions)
    (allowed : event.Allowed sessions) :
    ∀ event' ∈ events ++ [event], ∀ presented, event'.presented = some presented →
      ∃ session ∈ event.apply sessions, session.minted = presented.minted := by
  intro event' member presented names
  have stored : ∃ session ∈ sessions, session.minted = presented.minted := by
    rcases List.mem_append.mp member with past | now
    · exact history.presented event' past presented names
    · rw [List.mem_singleton.mp now] at names
      exact ⟨presented, allowed.presented_mem names, rfl⟩
  obtain ⟨session, sessionMember, same⟩ := stored
  refine ⟨event.touch session, mem_apply.mpr (.inl ⟨session, sessionMember, rfl⟩), ?_⟩
  rw [minted_touch, same]

theorem login_step (history : SessionHistory events sessions)
    (allowed : event.Allowed sessions) :
    ∀ session ∈ event.apply sessions,
      ∃ first, .issued first ∈ events ++ [event] ∧ session.SameFamily first := by
  intro session member
  rcases mem_apply.mp member with ⟨earlier, earlierMember, rfl⟩ | created
  · obtain ⟨first, issued, same⟩ := history.login earlier earlierMember
    exact ⟨first, List.mem_append_left _ issued,
      (RefreshSessionModel.SameFamily.of_minted (event.minted_touch earlier)).trans same⟩
  · cases allowed with
    | issued mintable newFamily =>
        cases created
        exact ⟨session, by simp, .refl session⟩
    | rotated presentedMember unconsumed unrevoked mintable same =>
        cases created
        obtain ⟨first, issued, sameFirst⟩ := history.login _ presentedMember
        exact ⟨first, List.mem_append_left _ issued, same.trans sameFirst⟩
    | revoked presentedMember => cases created
    | unchanged => cases created

/-- A family that was logged into has a stored session. -/
theorem mem_of_issues (history : SessionHistory events sessions) {familyId : String}
    (some : 0 < events.countP (issues familyId)) :
    ∃ session ∈ sessions, session.familyId = familyId := by
  obtain ⟨event', member, issued⟩ := List.countP_pos_iff.mp some
  cases event' with
  | issued first =>
      have created : first ∈ sessions.map RefreshSessionModel.minted := by
        rw [history.created]
        exact List.mem_filterMap.mpr ⟨_, member, rfl⟩
      obtain ⟨session, sessionMember, same⟩ := List.mem_map.mp created
      refine ⟨session, sessionMember, ?_⟩
      have sameFamily : session.familyId = first.familyId :=
        (congrArg RefreshSessionModel.familyId same :)
      rw [sameFamily]
      simpa [issues] using issued
  | rotated => cases issued
  | revoked => cases issued
  | unchanged => cases issued

theorem oneLogin_step (history : SessionHistory events sessions)
    (allowed : event.Allowed sessions) (familyId : String) :
    (events ++ [event]).countP (issues familyId) ≤ 1 := by
  rw [List.countP_append, List.countP_singleton]
  have before := history.oneLogin familyId
  split
  · next issued =>
      cases allowed with
      | @issued session mintable newFamily =>
          have none : ¬ 0 < events.countP (issues familyId) := by
            intro some
            obtain ⟨old, member, same⟩ := history.mem_of_issues some
            have other := newFamily old member
            simp only [issues, beq_iff_eq] at issued
            exact other (same.trans issued.symm)
          omega
      | rotated => cases issued
      | revoked => cases issued
      | unchanged => cases issued
  · omega

/-- A new session has not been presented before. -/
theorem any_consumes_of_fresh (history : SessionHistory events sessions) {sessionId : String}
    (fresh : ∀ old ∈ sessions, old.sessionId ≠ sessionId) :
    events.any (consumes sessionId) = false := by
  rw [List.any_eq_false]
  intro event' member consumed
  cases event' with
  | rotated presented replacement =>
      obtain ⟨session, sessionMember, same⟩ := history.presented _ member presented rfl
      have sameId : session.sessionId = presented.sessionId :=
        (congrArg RefreshSessionModel.sessionId same :)
      simp only [consumes, beq_iff_eq] at consumed
      exact fresh session sessionMember (sameId.trans consumed)
  | issued => cases consumed
  | revoked => cases consumed
  | unchanged => cases consumed

/-- A new family has not been revoked before. -/
theorem any_revokes_of_fresh (history : SessionHistory events sessions) {familyId : String}
    (fresh : ∀ old ∈ sessions, old.familyId ≠ familyId) :
    events.any (revokes familyId) = false := by
  rw [List.any_eq_false]
  intro event' member revoked
  cases event' with
  | revoked presented revokedAt =>
      obtain ⟨session, sessionMember, same⟩ := history.presented _ member presented rfl
      have sameFamily : session.familyId = presented.familyId :=
        (congrArg RefreshSessionModel.familyId same :)
      simp only [revokes, beq_iff_eq] at revoked
      exact fresh session sessionMember (sameFamily.trans revoked)
  | issued => cases revoked
  | rotated => cases revoked
  | unchanged => cases revoked

theorem consumed_step (history : SessionHistory events sessions)
    (allowed : event.Allowed sessions) :
    ∀ session ∈ event.apply sessions,
      session.consumedAt.isSome = (events ++ [event]).any (consumes session.sessionId) := by
  intro session member
  rw [List.any_append, List.any_cons, List.any_nil, Bool.or_false]
  rcases mem_apply.mp member with ⟨earlier, earlierMember, rfl⟩ | created
  · rw [consumedAt_touch, sessionId_touch, history.consumed earlier earlierMember]
  · have mintable := allowed.mintable created
    have unconsumed : session.consumedAt = none := by rw [← mintable.unused]; rfl
    have now : event.consumes session.sessionId = false := by
      cases allowed with
      | rotated presentedMember _ _ _ _ =>
          cases created
          simpa [consumes] using (mintable.fresh _ presentedMember).1
      | _ => rfl
    rw [unconsumed, history.any_consumes_of_fresh fun old oldMember =>
      (mintable.fresh old oldMember).1, now]
    rfl

theorem revoked_step (history : SessionHistory events sessions)
    (allowed : event.Allowed sessions) :
    ∀ session ∈ event.apply sessions,
      session.revokedAt.isSome = (events ++ [event]).any (revokes session.familyId) := by
  intro session member
  rw [List.any_append, List.any_cons, List.any_nil, Bool.or_false]
  rcases mem_apply.mp member with ⟨earlier, earlierMember, rfl⟩ | created
  · rw [revokedAt_touch, familyId_touch, history.revoked earlier earlierMember]
  · have unrevoked : session.revokedAt = none := by
      rw [← (allowed.mintable created).unused]; rfl
    cases allowed with
    | issued mintable newFamily =>
        cases created
        rw [unrevoked, history.any_revokes_of_fresh newFamily]
        rfl
    | rotated presentedMember unconsumed presentedUnrevoked mintable same =>
        cases created
        rw [same.familyId, ← history.revoked _ presentedMember, presentedUnrevoked, unrevoked]
        rfl
    | revoked presentedMember => cases created
    | unchanged => cases created

/-- A touched session that is still unconsumed was unconsumed, and not the
session being rotated. -/
theorem unconsumed_of_touch {session : RefreshSessionModel}
    (unconsumed : (event.touch session).consumedAt = none) :
    session.consumedAt = none ∧ event.consumes session.sessionId = false := by
  have isSome := event.consumedAt_touch session
  rw [unconsumed] at isSome
  simpa using isSome.symm

theorem touch_unconsumed {session : RefreshSessionModel} (unconsumed : session.consumedAt = none)
    (notNow : event.consumes session.sessionId = false) :
    (event.touch session).consumedAt = none := by
  have isSome := event.consumedAt_touch session
  rw [unconsumed, notNow] at isSome
  simpa using isSome

theorem tail_step (history : SessionHistory events sessions)
    (allowed : event.Allowed sessions) :
    ∀ session ∈ event.apply sessions, ∃ live ∈ event.apply sessions,
      live.familyId = session.familyId ∧ live.consumedAt = none := by
  intro session member
  rcases mem_apply.mp member with ⟨earlier, earlierMember, rfl⟩ | created
  · obtain ⟨live, liveMember, sameFamily, unconsumed⟩ := history.tail earlier earlierMember
    rw [familyId_touch]
    by_cases now : event.consumes live.sessionId = true
    · -- The tail is being rotated: its replacement is the new tail.
      cases allowed with
      | @rotated presented replacement presentedMember _ _ mintable same =>
          have isPresented : live = presented :=
            history.eq_of_sessionId liveMember presentedMember
              (by simpa [consumes] using (beq_iff_eq.mp now).symm)
          refine ⟨replacement, mem_apply.mpr (.inr rfl), ?_, ?_⟩
          · rw [same.familyId, ← isPresented, sameFamily]
          · rw [← mintable.unused]
            rfl
      | issued => cases now
      | revoked => cases now
      | unchanged => cases now
    · refine ⟨event.touch live, mem_apply.mpr (.inl ⟨live, liveMember, rfl⟩), ?_, ?_⟩
      · rw [familyId_touch, sameFamily]
      · exact touch_unconsumed unconsumed (by simpa using now)
  · refine ⟨session, member, rfl, ?_⟩
    rw [← (allowed.mintable created).unused]
    rfl

/-- The session a rotation creates is the only unconsumed one of its family. -/
theorem not_unconsumed_of_created (history : SessionHistory events sessions)
    (allowed : event.Allowed sessions) {created earlier : RefreshSessionModel}
    (isCreated : event.minted = some created) (member : earlier ∈ sessions)
    (sameFamily : earlier.familyId = created.familyId) :
    (event.touch earlier).consumedAt ≠ none := by
  intro stillUnconsumed
  obtain ⟨unconsumed, notNow⟩ := unconsumed_of_touch stillUnconsumed
  cases allowed with
  | issued mintable newFamily =>
      cases isCreated
      exact newFamily earlier member sameFamily
  | @rotated presented replacement presentedMember presentedUnconsumed _ _ same =>
      cases isCreated
      have sameId := history.single earlier member presented presentedMember
        (sameFamily.trans same.familyId) unconsumed presentedUnconsumed
      simp [consumes, sameId] at notNow
  | revoked => cases isCreated
  | unchanged => cases isCreated

theorem single_step (history : SessionHistory events sessions)
    (allowed : event.Allowed sessions) :
    ∀ session ∈ event.apply sessions, ∀ other ∈ event.apply sessions,
      session.familyId = other.familyId → session.consumedAt = none → other.consumedAt = none →
        session.sessionId = other.sessionId := by
  intro session member other otherMember sameFamily unconsumed otherUnconsumed
  rcases mem_apply.mp member with ⟨earlier, earlierMember, rfl⟩ | created
  · rcases mem_apply.mp otherMember with ⟨earlier', earlierMember', rfl⟩ | created'
    · rw [sessionId_touch, sessionId_touch]
      rw [familyId_touch, familyId_touch] at sameFamily
      exact history.single earlier earlierMember earlier' earlierMember' sameFamily
        (unconsumed_of_touch unconsumed).1 (unconsumed_of_touch otherUnconsumed).1
    · rw [familyId_touch] at sameFamily
      exact absurd unconsumed
        (history.not_unconsumed_of_created allowed created' earlierMember sameFamily)
  · rcases mem_apply.mp otherMember with ⟨earlier', earlierMember', rfl⟩ | created'
    · rw [familyId_touch] at sameFamily
      exact absurd otherUnconsumed
        (history.not_unconsumed_of_created allowed created earlierMember' sameFamily.symm)
    · rw [Option.some.inj (created.symm.trans created')]

/-- **Every allowed event preserves the invariant.** -/
theorem step (history : SessionHistory events sessions) (allowed : event.Allowed sessions) :
    SessionHistory (events ++ [event]) (event.apply sessions) where
  created := history.created_step allowed
  ids := nodup_apply _ (sessionId_touch event) history.ids
    fun _ created old member => ((allowed.mintable created).fresh old member).1
  digests := nodup_apply _ (tokenDigest_touch event) history.digests
    fun _ created old member => ((allowed.mintable created).fresh old member).2
  valid := history.valid_step allowed
  presented := history.presented_step allowed
  login := history.login_step allowed
  oneLogin := history.oneLogin_step allowed
  consumed := history.consumed_step allowed
  revoked := history.revoked_step allowed
  tail := history.tail_step allowed
  single := history.single_step allowed

end Step

/-! ## What the invariant says of one family -/

section Family

variable {events : List SessionEvent} {sessions : List RefreshSessionModel}

/-- A family has as many sessions as it had logins and rotations. -/
theorem length_family (history : SessionHistory events sessions) (familyId : String) :
    (family familyId sessions).length =
      events.countP (issues familyId) + events.countP (rotates familyId) := by
  have stored : (family familyId sessions).length =
      (sessions.map RefreshSessionModel.minted).countP fun session =>
        session.familyId == familyId := by
    rw [List.countP_map, family, List.countP_eq_length_filter]
    rfl
  rw [stored, history.created, List.countP_filterMap]
  clear stored history
  induction events with
  | nil => rfl
  | cons event events ih =>
      rw [List.countP_cons, List.countP_cons, List.countP_cons, ih]
      cases event with
      | issued session => simp [SessionEvent.minted, issues, rotates]; omega
      | rotated presented replacement => simp [SessionEvent.minted, issues, rotates]; omega
      | revoked presented revokedAt => simp [SessionEvent.minted, issues, rotates]
      | unchanged => simp [SessionEvent.minted, issues, rotates]

/-- **A family in use has one session more than it had rotations.** -/
theorem length_family_of_mem (history : SessionHistory events sessions)
    {session : RefreshSessionModel} (member : session ∈ sessions) :
    (family session.familyId sessions).length = 1 + events.countP (rotates session.familyId) := by
  obtain ⟨first, issued, same⟩ := history.login session member
  have some : 0 < events.countP (issues session.familyId) :=
    List.countP_pos_iff.mpr ⟨_, issued, by simp [issues, same.familyId]⟩
  have one := history.oneLogin session.familyId
  rw [history.length_family]
  omega

/-- Two sessions of one family agree on user, tenant and absolute expiry. -/
theorem sameFamily (history : SessionHistory events sessions)
    {session other : RefreshSessionModel} (member : session ∈ sessions)
    (otherMember : other ∈ sessions) (same : session.familyId = other.familyId) :
    session.SameFamily other := by
  obtain ⟨first, issued, sameFirst⟩ := history.login session member
  obtain ⟨first', issued', sameFirst'⟩ := history.login other otherMember
  have one := history.oneLogin session.familyId
  rw [List.countP_eq_length_filter] at one
  have firstMember : .issued first ∈ events.filter (issues session.familyId) :=
    List.mem_filter.mpr ⟨issued, by simp [issues, sameFirst.familyId]⟩
  have firstMember' : .issued first' ∈ events.filter (issues session.familyId) :=
    List.mem_filter.mpr ⟨issued', by simp [issues, same, sameFirst'.familyId]⟩
  have equal : SessionEvent.issued first = .issued first' := by
    rcases only : events.filter (issues session.familyId) with _ | ⟨event, _ | ⟨event', rest⟩⟩
    · rw [only] at firstMember
      cases firstMember
    · rw [only, List.mem_singleton] at firstMember firstMember'
      rw [firstMember, firstMember']
    · rw [only] at one
      simp at one
  cases equal
  exact sameFirst.trans sameFirst'.symm

/-- A family is revoked as a whole or not at all. -/
theorem revoked_iff (history : SessionHistory events sessions)
    {session other : RefreshSessionModel} (member : session ∈ sessions)
    (otherMember : other ∈ sessions) (same : session.familyId = other.familyId) :
    session.revokedAt.isSome = other.revokedAt.isSome := by
  rw [history.revoked session member, history.revoked other otherMember, same]

/-- A list without repetitions whose members are all equal. -/
theorem length_le_one {α : Type} {items : List α} (nodup : items.Nodup)
    (equal : ∀ item ∈ items, ∀ other ∈ items, item = other) : items.length ≤ 1 := by
  rcases items with _ | ⟨first, _ | ⟨second, rest⟩⟩
  · exact Nat.zero_le 1
  · exact le_rfl
  · have same := equal first (by simp) second (by simp)
    rw [same, List.nodup_cons] at nodup
    exact absurd List.mem_cons_self nodup.1

/-- A family never has two unconsumed sessions. -/
theorem countP_unconsumed_le_one (history : SessionHistory events sessions) (familyId : String) :
    (family familyId sessions).countP (fun session => session.consumedAt.isNone) ≤ 1 := by
  rw [List.countP_eq_length_filter]
  have nodup : ((family familyId sessions).filter fun session =>
      session.consumedAt.isNone).Nodup :=
    ((List.Nodup.of_map _ history.ids).filter _).filter _
  have single : ∀ session ∈ (family familyId sessions).filter fun session =>
        session.consumedAt.isNone,
      ∀ other ∈ (family familyId sessions).filter fun session => session.consumedAt.isNone,
        session = other := by
    intro session member other otherMember
    simp only [List.mem_filter, mem_family, Option.isNone_iff_eq_none] at member otherMember
    obtain ⟨⟨stored, inFamily⟩, unconsumed⟩ := member
    obtain ⟨⟨otherStored, otherInFamily⟩, otherUnconsumed⟩ := otherMember
    exact history.eq_of_sessionId stored otherStored
      (history.single session stored other otherStored (inFamily.trans otherInFamily.symm)
        unconsumed otherUnconsumed)
  exact length_le_one nodup single

end Family

/-! ## What later events leave in place -/

/-- The session table only grows, and keeps what it says of a session. -/
structure Extends (sessions later : List RefreshSessionModel) : Prop where
  kept : ∀ session ∈ sessions, ∃ session' ∈ later, session'.minted = session.minted ∧
    (session.consumedAt.isSome = true → session'.consumedAt = session.consumedAt) ∧
    (session.revokedAt.isSome = true → session'.revokedAt = session.revokedAt)
  /-- A revoked family is complete. -/
  closed : ∀ session ∈ sessions, session.revokedAt.isSome = true →
    (family session.familyId later).map RefreshSessionModel.minted =
      (family session.familyId sessions).map RefreshSessionModel.minted

theorem Extends.refl (sessions : List RefreshSessionModel) : Extends sessions sessions where
  kept session member := ⟨session, member, rfl, fun _ => rfl, fun _ => rfl⟩
  closed _ _ _ := rfl

theorem Extends.trans {sessions later last : List RefreshSessionModel}
    (front : Extends sessions later) (back : Extends later last) : Extends sessions last where
  kept session member := by
    obtain ⟨session', member', same, consumed, revoked⟩ := front.kept session member
    obtain ⟨session'', member'', same', consumed', revoked'⟩ := back.kept session' member'
    refine ⟨session'', member'', same'.trans same, fun isSome => ?_, fun isSome => ?_⟩
    · rw [consumed' (by rw [consumed isSome]; exact isSome), consumed isSome]
    · rw [revoked' (by rw [revoked isSome]; exact isSome), revoked isSome]
  closed session member isSome := by
    obtain ⟨session', member', same, _, revoked⟩ := front.kept session member
    have sameFamily : session'.familyId = session.familyId :=
      (congrArg RefreshSessionModel.familyId same :)
    have complete := back.closed session' member' (by rw [revoked isSome]; exact isSome)
    rw [sameFamily] at complete
    rw [complete, front.closed session member isSome]

/-- An allowed event consumes no session a second time. -/
theorem touch_consumed {events : List SessionEvent} {sessions : List RefreshSessionModel}
    {event : SessionEvent} (history : SessionHistory events sessions)
    (allowed : event.Allowed sessions) {session : RefreshSessionModel} (member : session ∈ sessions)
    (consumed : session.consumedAt.isSome = true) :
    (event.touch session).consumedAt = session.consumedAt := by
  cases allowed with
  | @rotated presented replacement presentedMember unconsumed _ _ _ =>
      have other : session.sessionId ≠ presented.sessionId := by
        intro same
        rw [history.eq_of_sessionId member presentedMember same, unconsumed] at consumed
        cases consumed
      simp [touch, other]
  | @revoked presented revokedAt presentedMember =>
      unfold touch
      dsimp only
      split <;> rfl
  | issued => rfl
  | unchanged => rfl

/-- **An allowed event extends the table.** -/
theorem extends_apply {events : List SessionEvent} {sessions : List RefreshSessionModel}
    {event : SessionEvent} (history : SessionHistory events sessions)
    (allowed : event.Allowed sessions) : Extends sessions (event.apply sessions) where
  kept session member :=
    ⟨event.touch session, mem_apply.mpr (.inl ⟨session, member, rfl⟩), minted_touch event session,
      history.touch_consumed allowed member, revokedAt_touch_of_revoked event⟩
  closed session member revoked := by
    have outside : ∀ created, event.minted = some created →
        created.familyId ≠ session.familyId := by
      intro created isCreated same
      cases allowed with
      | issued mintable newFamily =>
          cases isCreated
          exact newFamily session member same.symm
      | @rotated presented replacement presentedMember _ unrevoked _ sameFamily =>
          cases isCreated
          have both := history.revoked_iff member presentedMember
            (same.symm.trans sameFamily.familyId)
          rw [revoked, unrevoked] at both
          cases both
      | revoked presentedMember => cases isCreated
      | unchanged => cases isCreated
    have touched : (family session.familyId (sessions.map event.touch)).map
        RefreshSessionModel.minted =
          (family session.familyId sessions).map RefreshSessionModel.minted := by
      unfold family
      rw [List.filter_map, List.map_map]
      have sameFilter : (fun session' => session'.familyId == session.familyId) ∘ event.touch =
          fun session' => session'.familyId == session.familyId := by
        funext session'
        rw [Function.comp_apply, familyId_touch]
      rw [sameFilter]
      exact List.map_congr_left fun session' _ => minted_touch event session'
    have nothing : family session.familyId event.minted.toList = [] := by
      cases isCreated : event.minted with
      | none => rfl
      | some created => simp [family, outside created isCreated]
    rw [apply]
    unfold family at nothing touched ⊢
    rw [List.filter_append, nothing, List.append_nil, touched]

end SessionHistory

end BidSystem.Identity
