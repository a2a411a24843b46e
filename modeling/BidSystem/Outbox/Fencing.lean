import BidSystem.Outbox.Contract

/-!
# Lease fencing

Who may publish or fail an event is decided by the token of its last claim, and
by nothing else: not by the clocks of the dispatchers, not by the lease having
expired, not by what other dispatchers try in between.

The trace of a run says which tokens an event was handed out with, and whether
the last claim is still open.  `Run.openClaim_of_holds` ties the stored token to
it; the rest is the check that `mark_published` and `apply_failure` make.
-/

namespace BidSystem.Outbox

/-- The tokens an event was handed out with, in order. -/
def tokens (eventId : String) (trace : List Entry) : List String :=
  trace.filterMap (handsOut eventId)

/-- The open claim of an event after an entry. -/
def openAfter (eventId : String) (current : Option String) (entry : Entry) : Option String :=
  match handsOut eventId entry with
  | some claimToken => some claimToken
  | none => if resolves eventId entry then none else current

/-- The token of the last claim, unless that claim has been resolved. -/
def openClaim (eventId : String) (trace : List Entry) : Option String :=
  trace.foldl (openAfter eventId) none

theorem openClaim_concat (eventId : String) (trace : List Entry) (entry : Entry) :
    openClaim eventId (trace ++ [entry]) = openAfter eventId (openClaim eventId trace) entry :=
  List.foldl_append

/-- The open claim is the last one. -/
theorem getLast?_of_openClaim {eventId claimToken : String} :
    ∀ {trace : List Entry}, openClaim eventId trace = some claimToken →
      (tokens eventId trace).getLast? = some claimToken := by
  intro trace
  induction trace using List.reverseRecOn with
  | nil => exact nofun
  | append_singleton trace entry before =>
      intro isOpen
      rw [openClaim_concat, openAfter] at isOpen
      rw [tokens, List.filterMap_append, List.filterMap_cons, List.filterMap_nil]
      cases handed : handsOut eventId entry with
      | some uuid4 =>
          rw [handed] at isOpen
          cases isOpen
          exact List.getLast?_concat
      | none =>
          rw [handed] at isOpen
          dsimp only at isOpen
          split_ifs at isOpen
          rw [List.append_nil]
          exact before isOpen

/-- The calls of a dispatcher with this token are refused and change nothing. -/
def Refused (table : Table) (eventId claimToken : String) : Prop :=
  ∀ now, table.perform (.markPublished eventId claimToken now) =
      (.error (.valueError "Only a claimed event can be marked as published"), table) ∧
    ∀ error policy stored,
      table.perform (.applyFailure eventId claimToken now error policy stored) =
        (.error (.valueError "Only a claimed event can fail publication"), table)

/-- A dispatcher that does not hold the claim is refused. -/
theorem refused_of_not_holds {table : Table} {event : OutboxEvent} (member : event ∈ table.rows)
    {claimToken : String} (notHolding : event.holds claimToken = false) :
    Refused table event.eventId claimToken := by
  have unchanged : ∀ call : Call, call.effect event = event →
      (∀ row, row.eventId ≠ event.eventId → call.effect row = row) →
      table.affected call = table := by
    intro call here elsewhere
    refine Table.eq_of_rows ((List.map_congr_left fun row isRow => ?_).trans (List.map_id _))
    by_cases same : row.eventId = event.eventId
    · rw [Table.eq_of_eventId isRow member same]
      exact here
    · exact elsewhere row same
  intro now
  constructor
  · have refused : event.markPublished claimToken now =
        (.error (.valueError "Only a claimed event can be marked as published"), event) := by
      rcases event.markPublished_cases claimToken now with ⟨-, refused⟩ | ⟨holding, -⟩
      · exact refused
      · rw [notHolding] at holding
        cases holding
    rw [Table.perform, Table.find?_eq_some member]
    refine Prod.ext ?_ (unchanged _ ?_ fun row other => ?_)
    · exact congrArg (fun result : Except PyError Unit × OutboxEvent =>
        result.1.map fun _ => ([] : List OutboxEvent)) refused
    · rw [Call.effect, if_pos rfl, refused]
    · rw [Call.effect, if_neg other]
  · intro error policy stored
    have refused : event.applyFailure claimToken now error policy =
        (.error (.valueError "Only a claimed event can fail publication"), event) := by
      rcases event.applyFailure_cases claimToken now error policy with
        ⟨-, refused⟩ | ⟨holding, -⟩ | ⟨holding, -⟩ | ⟨holding, -⟩
      · exact refused
      all_goals
        rw [notHolding] at holding
        cases holding
    rw [Table.perform, Table.find?_eq_some member]
    refine Prod.ext ?_ (unchanged _ ?_ fun row other => ?_)
    · exact congrArg (fun result : Except PyError Unit × OutboxEvent =>
        result.1.map fun _ => ([] : List OutboxEvent)) refused
    · rw [Call.effect, if_pos rfl, refused]
      dsimp only
      exact ite_self _
    · rw [Call.effect, if_neg other]

namespace Moves

variable {event changed : OutboxEvent} {entry : Entry}

/-- A successful `apply_failure` puts the event back or gives it up. -/
theorem status_of_failed {claimToken error : String} {now : Instant} {policy : RetryPolicy}
    (applied : (event.applyFailure claimToken now error policy).1 = .ok ()) :
    (event.applyFailure claimToken now error policy).2.status = .deadLetter ∨
      ((event.applyFailure claimToken now error policy).2.status = .pending ∧
        event.attemptCount < policy.maxAttempts) := by
  rcases event.applyFailure_cases claimToken now error policy with
    ⟨-, same⟩ | ⟨-, -, same⟩ | ⟨-, fewer, _, same⟩ | ⟨-, -, same⟩
  · rw [same] at applied
    cases applied
  · rw [same]
    exact .inl rfl
  · rw [same]
    exact .inr ⟨rfl, fewer⟩
  · rw [same] at applied
    cases applied

/-- A successful `mark_published` publishes the event. -/
theorem status_of_published {claimToken : String} {now : Instant}
    (holding : event.holds claimToken = true) :
    (event.markPublished claimToken now).2.status = .published := by
  rcases event.markPublished_cases claimToken now with ⟨notHolding, -⟩ | ⟨-, -, same⟩
  · rw [holding] at notHolding
    cases notHolding
  · rw [same]

/-- Whoever holds the claim got it last. -/
theorem openAfter_of_holds (moves : Moves event entry changed) {current : Option String}
    (before : ∀ claimToken, event.holds claimToken = true → current = some claimToken)
    {claimToken : String} (holding : changed.holds claimToken = true) :
    openAfter event.eventId current entry = some claimToken := by
  have status := (OutboxEvent.holds_iff.mp holding).1
  cases moves with
  | keeps notHanded unresolved =>
      rw [openAfter, notHanded, unresolved]
      exact before claimToken holding
  | claimed _ _ _ handed =>
      rw [openAfter, handed]
      exact (OutboxEvent.holds_iff.mp holding).2
  | published held =>
      rw [status_of_published held] at status
      cases status
  | failed _ _ applied =>
      rcases status_of_failed applied with dead | ⟨pending, -⟩
      · rw [dead] at status
        cases status
      · rw [pending] at status
        cases status
  | interrupted =>
      cases (OutboxEvent.holds_iff.mp holding).2

/-- Only an eligible event is handed out. -/
theorem eligible_of_handsOut (moves : Moves event entry changed) {limit : ℤ} {now : Instant}
    {leaseDuration : Duration} {locked : List String} {batch : List (String × String)}
    (called : entry.1 = .claimBatch limit now leaseDuration locked batch) {uuid4 : String}
    (handed : handsOut event.eventId entry = some uuid4) : event.eligible now = true := by
  cases moves with
  | keeps notHanded =>
      rw [handed] at notHanded
      cases notHanded
  | claimed calledAt isEligible =>
      cases called.symm.trans calledAt
      exact isEligible
  | published _ notHanded =>
      rw [handed] at notHanded
      cases notHanded
  | failed _ calledFailure =>
      rw [calledFailure] at called
      cases called
  | interrupted _ _ notHanded =>
      rw [handed] at notHanded
      cases notHanded

end Moves

namespace Run

variable {trace : List Entry} {table : Table}

/-- **The stored token is that of the open claim.** -/
theorem openClaim_of_holds (ran : Run .empty trace table) :
    ∀ event ∈ table.rows, ∀ claimToken, event.holds claimToken = true →
      openClaim event.eventId trace = some claimToken := by
  refine ran.row_induction (motive := fun trace event => ∀ claimToken,
    event.holds claimToken = true → openClaim event.eventId trace = some claimToken) ?_ ?_
  · intro trace event now uuid4 arguments created _ claimToken holding
    have noToken := (OutboxEvent.of_create created).2.2.2.1
    rw [(OutboxEvent.holds_iff.mp holding).2] at noToken
    cases noToken
  · intro trace event changed entry before moves claimToken holding
    rw [moves.eventId_eq, openClaim_concat]
    exact moves.openAfter_of_holds before holding

/-- An event is published at most once, and before that it is not published. -/
theorem countP_publishes (ran : Run .empty trace table) :
    ∀ event ∈ table.rows, trace.countP (publishes event.eventId) ≤ 1 ∧
      (event.status ≠ .published → trace.countP (publishes event.eventId) = 0) := by
  refine ran.row_induction (motive := fun trace event =>
    trace.countP (publishes event.eventId) ≤ 1 ∧
      (event.status ≠ .published → trace.countP (publishes event.eventId) = 0)) ?_ ?_
  · intro trace event now uuid4 arguments _ untouched
    have none : trace.countP (publishes event.eventId) = 0 := by
      refine List.countP_eq_zero.mpr fun entry isEntry published => ?_
      have unresolved := (untouched entry isEntry).2
      rw [resolves_of_publishes published] at unresolved
      cases unresolved
    rw [none]
    exact ⟨Nat.zero_le _, fun _ => rfl⟩
  · intro trace event changed entry ⟨once, notYet⟩ moves
    rw [moves.eventId_eq, List.countP_append, List.countP_singleton]
    have silent (unresolved : resolves event.eventId entry = false) :
        publishes event.eventId entry = false :=
      Bool.eq_false_iff.mpr fun published => by
        rw [resolves_of_publishes published] at unresolved
        cases unresolved
    have ofHolds {claimToken : String} (holding : event.holds claimToken = true) :
        trace.countP (publishes event.eventId) = 0 :=
      notYet (by rw [(OutboxEvent.holds_iff.mp holding).1]; decide)
    cases moves with
    | keeps _ unresolved =>
        rw [silent unresolved]
        exact ⟨once, notYet⟩
    | claimed _ isEligible _ _ unresolved =>
        have zero : trace.countP (publishes event.eventId) = 0 := by
          refine notYet ?_
          rcases OutboxEvent.status_of_eligible isEligible with status | status <;>
            rw [status] <;> decide
        rw [silent unresolved, zero]
        exact ⟨Nat.zero_le _, fun _ => rfl⟩
    | published holding =>
        rw [ofHolds holding, Nat.zero_add]
        refine ⟨by split_ifs <;> decide, fun unpublished => ?_⟩
        exact absurd (Moves.status_of_published holding) unpublished
    | failed holding called =>
        rw [ofHolds holding, called]
        exact ⟨Nat.zero_le _, fun _ => rfl⟩
    | interrupted holding _ _ unresolved =>
        rw [silent unresolved, ofHolds holding]
        exact ⟨Nat.zero_le _, fun _ => rfl⟩

end Run

/-- **Lease fencing**, in every state that calls of `create`, `claim_batch`,
`mark_published` and `apply_failure` can reach: only the last claim of an event
resolves it, and only while it is open; an event is published at most once; who
has been taken over is refused; and no event is returned before its lease ends. -/
theorem lease_fencing {trace : List Entry} {table : Table} (ran : Run .empty trace table) :
    (∀ event ∈ table.rows, ∀ claimToken,
      ((tokens event.eventId trace).getLast? ≠ some claimToken ∨
        openClaim event.eventId trace = none) → Refused table event.eventId claimToken) ∧
    (∀ eventId, trace.countP (publishes eventId) ≤ 1) ∧
    (∀ event ∈ table.rows, (tokens event.eventId trace).Nodup →
      ∀ claimToken ∈ (tokens event.eventId trace).dropLast,
        Refused table event.eventId claimToken) ∧
    (∀ event ∈ table.rows, event.status = .processing →
      ∀ claimedUntil ∈ event.claimedUntil, ∀ now < claimedUntil,
        ∀ limit leaseDuration locked batch,
          (Call.claimBatch limit now leaseDuration locked batch).Possible table →
            returned event.eventId (.claimBatch limit now leaseDuration locked batch,
              (table.perform (.claimBatch limit now leaseDuration locked batch)).1) = false) := by
  have stale : ∀ event ∈ table.rows, ∀ claimToken,
      ((tokens event.eventId trace).getLast? ≠ some claimToken ∨
        openClaim event.eventId trace = none) → Refused table event.eventId claimToken := by
    intro event member claimToken notLast
    refine refused_of_not_holds member (Bool.eq_false_iff.mpr fun holding => ?_)
    have isOpen := ran.openClaim_of_holds event member claimToken holding
    rcases notLast with another | resolved
    · exact another (getLast?_of_openClaim isOpen)
    · rw [isOpen] at resolved
      cases resolved
  refine ⟨stale, fun eventId => ?_, ?_, ?_⟩
  · by_cases isId : eventId ∈ table.ids
    · obtain ⟨event, member, rfl⟩ := List.mem_map.mp isId
      exact (ran.countP_publishes event member).1
    · refine (List.countP_eq_zero.mpr fun entry isEntry published => ?_).trans_le (Nat.zero_le _)
      have unresolved := (ran.untouched isId entry isEntry).2
      rw [resolves_of_publishes published] at unresolved
      cases unresolved
  · intro event member distinct claimToken isEarlier
    refine stale event member claimToken (.inl fun isLast => ?_)
    obtain ⟨claims, same⟩ := List.getLast?_eq_some_iff.mp isLast
    rw [same, List.dropLast_concat] at isEarlier
    rw [same, List.nodup_append] at distinct
    exact distinct.2.2 claimToken isEarlier claimToken (List.mem_singleton.mpr rfl) rfl
  · intro event member processing claimedUntil isLease now early limit leaseDuration locked batch
      possible
    have notEligible : event.eligible now = false := by
      refine Bool.eq_false_iff.mpr fun isEligible => ?_
      rcases OutboxEvent.eligible_iff.mp isEligible with ⟨pending, -⟩ | ⟨-, other, isOther, expired⟩
      · rw [processing] at pending
        cases pending
      · rw [Option.mem_def.mp isLease] at isOther
        cases isOther
        exact absurd expired (not_le.mpr early)
    rw [Call.returned_eq, Option.isSome_eq_false_iff, Option.isNone_iff_eq_none]
    cases handed : handsOut event.eventId (.claimBatch limit now leaseDuration locked batch,
        (table.perform (.claimBatch limit now leaseDuration locked batch)).1) with
    | none => rfl
    | some uuid4 =>
        rw [(Call.moves possible member).eligible_of_handsOut rfl handed] at notEligible
        cases notEligible

theorem lease_fencing_claimed :
    Refused (.single (factPublishedRow.claim 0 second "token-1")) "event-1" "token-2" :=
  (lease_fencing run_factPublished_claimed).1 _ (List.mem_singleton.mpr rfl) "token-2"
    (.inl (by decide))

end BidSystem.Outbox
