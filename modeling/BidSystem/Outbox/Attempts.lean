import BidSystem.Outbox.Fencing

/-!
# The number of attempts

`apply_failure` gives up an event that has had all its attempts.  `claim_batch`
does not look at the number: a claim whose lease has expired is taken over, no
matter how often that has happened before.  So what is bounded is the number of
attempts that end, and each takeover comes on top.
-/

namespace BidSystem.Outbox

/-- Every `apply_failure` uses the policy. -/
def Uses (policy : RetryPolicy) (trace : List Entry) : Prop :=
  ∀ entry ∈ trace, ∀ eventId claimToken now error other stored,
    entry.1 = .applyFailure eventId claimToken now error other stored → other = policy

/-- The takeovers after an entry: none when the event had no open claim. -/
def takeoversAfter (eventId : String) (current : Option String × ℕ) (entry : Entry) :
    Option String × ℕ :=
  (openAfter eventId current.1 entry,
    match handsOut eventId entry with
    | some _ => if current.1.isSome then current.2 + 1 else 0
    | none => current.2)

/-- How often `claim_batch` has taken the event over from an open claim since it
was last pending. -/
def takeovers (eventId : String) (trace : List Entry) : ℕ :=
  (trace.foldl (takeoversAfter eventId) (none, 0)).2

theorem foldl_takeoversAfter (eventId : String) (trace : List Entry) :
    trace.foldl (takeoversAfter eventId) (none, 0) =
      (openClaim eventId trace, takeovers eventId trace) := by
  refine Prod.ext ?_ rfl
  induction trace using List.reverseRecOn with
  | nil => rfl
  | append_singleton trace entry before =>
      rw [List.foldl_append, openClaim_concat]
      exact congrArg (openAfter eventId · entry) before

theorem takeovers_concat (eventId : String) (trace : List Entry) (entry : Entry) :
    takeovers eventId (trace ++ [entry]) =
      match handsOut eventId entry with
      | some _ => if (openClaim eventId trace).isSome then takeovers eventId trace + 1 else 0
      | none => takeovers eventId trace := by
  rw [takeovers, List.foldl_append, foldl_takeoversAfter]
  rfl

/-- What bounds the attempts of an event. -/
structure Bounded (policy : RetryPolicy) (trace : List Entry) (event : OutboxEvent) : Prop where
  isOpen : event.status = .processing → (openClaim event.eventId trace).isSome = true
  pending : event.status = .pending → event.attemptCount < policy.maxAttempts
  attempts : event.attemptCount ≤ policy.maxAttempts + takeovers event.eventId trace

/-- **What a call does to the attempts.** -/
theorem Moves.bounded {policy : RetryPolicy} {trace : List Entry} {event changed : OutboxEvent}
    {entry : Entry} (moves : Moves event entry changed) (bounded : Bounded policy trace event)
    (uses : Uses policy [entry]) : Bounded policy (trace ++ [entry]) changed := by
  have sameId := moves.eventId_eq
  have count := moves.attemptCount_eq
  have attempts := bounded.attempts
  have unchanged (notHanded : handsOut event.eventId entry = none) :
      changed.attemptCount ≤ policy.maxAttempts + takeovers changed.eventId (trace ++ [entry]) := by
    rw [sameId, count, takeovers_concat, notHanded]
    exact attempts
  cases moves with
  | keeps notHanded unresolved =>
      refine ⟨fun processing => ?_, bounded.pending, unchanged notHanded⟩
      rw [openClaim_concat, openAfter, notHanded, unresolved]
      exact bounded.isOpen processing
  | claimed _ isEligible _ handed =>
      refine ⟨fun _ => ?_, fun pending => ?_, ?_⟩
      · rw [sameId, openClaim_concat, openAfter, handed]
        rfl
      · cases pending
      · rw [sameId, count, takeovers_concat, handed]
        rcases OutboxEvent.status_of_eligible isEligible with pending | processing
        · rw [Option.isSome_some, if_pos rfl]
          push_cast
          exact le_add_of_le_of_nonneg (bounded.pending pending) (by positivity)
        · dsimp only
          rw [Option.isSome_some, if_pos rfl, if_pos (bounded.isOpen processing)]
          push_cast
          omega
  | published holding notHanded =>
      refine ⟨fun processing => ?_, fun pending => ?_, unchanged notHanded⟩
      · rw [status_of_published holding] at processing
        cases processing
      · rw [status_of_published holding] at pending
        cases pending
  | failed holding called applied =>
      have notHanded : handsOut event.eventId entry = none := by
        rw [called]
        rfl
      have same := uses entry (List.mem_singleton.mpr rfl) _ _ _ _ _ _ (congrArg Prod.fst called)
      cases same
      refine ⟨fun processing => ?_, fun pending => ?_, unchanged notHanded⟩
      · rcases status_of_failed applied with dead | ⟨pending, -⟩
        · rw [dead] at processing
          cases processing
        · rw [pending] at processing
          cases processing
      · rcases status_of_failed applied with dead | ⟨-, fewer⟩
        · rw [dead] at pending
          cases pending
        · rw [count, notHanded]
          exact fewer
  | interrupted holding _ notHanded unresolved =>
      have processing := (OutboxEvent.holds_iff.mp holding).1
      refine ⟨fun _ => ?_, fun pending => ?_, unchanged notHanded⟩
      · rw [sameId, openClaim_concat, openAfter, notHanded, unresolved]
        exact bounded.isOpen processing
      · cases processing.symm.trans pending

/-- **Attempts are bounded up to takeovers**: in every run with one policy, an
event is handed out at most `max_attempts` times, and once more for each time
that it was taken over from an unresolved claim since it was last pending. -/
theorem attemptCount_le {policy : RetryPolicy} {trace : List Entry} {table : Table}
    (ran : Run .empty trace table) (uses : Uses policy trace) :
    ∀ event ∈ table.rows,
      event.attemptCount ≤ policy.maxAttempts + takeovers event.eventId trace := by
  intro event member
  refine (ran.row_induction (motive := fun trace event => Uses policy trace →
    Bounded policy trace event) ?_ ?_ event member uses).attempts
  · intro trace event now uuid4 arguments created untouched _
    obtain ⟨-, pending, zero, -⟩ := OutboxEvent.of_create created
    have positive := policy.maxAttemptsAtLeastOne
    refine ⟨fun processing => ?_, fun _ => ?_, ?_⟩
    · cases pending.symm.trans processing
    · rw [zero]
      exact positive
    · rw [zero]
      omega
  · intro trace event changed entry before moves uses
    refine moves.bounded (before fun other isOther => uses other (List.mem_append_left _ isOther)) ?_
    intro other isLast
    cases List.mem_singleton.mp isLast
    exact uses entry (List.mem_append_right _ (List.mem_singleton.mpr rfl))

/-- One attempt. -/
def oneAttempt : RetryPolicy where
  maxAttempts := 1
  baseDelaySeconds := 1
  maxDelaySeconds := 1
  maxAttemptsAtLeastOne := le_refl _
  baseDelayPositive := by decide
  maxDelayNotBelowBase := le_refl _

theorem attemptCount_le_claimed :
    ((factPublishedRow.claim 0 second "token-1").attemptCount : ℤ) ≤ oneAttempt.maxAttempts + 0 :=
  attemptCount_le run_factPublished_claimed (by simp [Uses]) _ (List.mem_singleton.mpr rfl)

/-- A dispatcher that has crashed is taken over, and the only attempt is followed by another. -/
theorem attempts_unbounded :
    ¬ ∀ (policy : RetryPolicy) (trace : List Entry) (table : Table),
      Run .empty trace table → Uses policy trace →
        ∀ event ∈ table.rows, event.attemptCount ≤ policy.maxAttempts := by
  intro bounded
  have ran := run_factPublished_claimed.append
    (@Run.claims (factPublishedRow.claim 0 second "token-1") second (by decide) second (by decide)
      "token-2")
  have wrong := bounded oneAttempt _ _ ran (by simp [Uses]) _ (List.mem_singleton.mpr rfl)
  exact absurd wrong (by decide)

end BidSystem.Outbox
