import BidSystem.Outbox.Runs

/-!
# The contract of an outbox event

Over all runs: an event is sound, its attempts are the calls of `claim_batch`
that returned it, published and dead events stay as they are, and every other
event is returned once its time has come and the limit is large enough.

An event whose retry cannot be represented can be stored without a claim but
still processing, and `claim_batch` never returns it again.  The contract is
therefore one for runs in which `apply_failure` does not overflow.
-/

namespace BidSystem.Outbox

/-- The entry is a call of `claim_batch` that returned the event. -/
def returned (eventId : String) : Entry → Bool
  | (.claimBatch .., .ok events) => events.any fun event => event.eventId == eventId
  | _ => false

/-- What `claim_batch` returns has been claimed. -/
theorem Call.claimToken_of_perform {table : Table} {limit : ℤ} {now : Instant}
    {leaseDuration : Duration} {locked : List String} {batch : List (String × String)}
    {events : List OutboxEvent}
    (ok : (table.perform (.claimBatch limit now leaseDuration locked batch)).1 = .ok events) :
    ∀ event ∈ events, event.claimToken.isSome = true := by
  rw [Table.perform] at ok
  split_ifs at ok
  cases ok
  intro event member
  obtain ⟨entry, -, claimed⟩ := List.mem_filterMap.mp member
  obtain ⟨row, -, rfl⟩ := Option.map_eq_some_iff.mp claimed
  rfl

/-- Whatever is returned is handed out with a token. -/
theorem Call.returned_eq (call : Call) (table : Table) (eventId : String) :
    returned eventId (call, (table.perform call).1) =
      (handsOut eventId (call, (table.perform call).1)).isSome := by
  cases call with
  | create now uuid4 arguments => unfold returned handsOut; rfl
  | markPublished named claimToken now => unfold returned handsOut; rfl
  | applyFailure named claimToken now error policy stored => unfold returned handsOut; rfl
  | claimBatch limit now leaseDuration locked batch =>
      cases outcome : (table.perform (.claimBatch limit now leaseDuration locked batch)).1 with
      | error raised => rfl
      | ok events =>
          have tokens := Call.claimToken_of_perform outcome
          unfold returned handsOut
          dsimp only
          rw [← List.isSome_find?]
          cases found : events.find? fun event => event.eventId == eventId with
          | none => rfl
          | some event => exact (tokens event (List.mem_of_find?_eq_some found)).symm

namespace Moves

variable {event changed : OutboxEvent} {entry : Entry}

/-- A row keeps its primary key. -/
theorem eventId_eq (moves : Moves event entry changed) : changed.eventId = event.eventId := by
  cases moves with
  | keeps => rfl
  | claimed => rfl
  | published => exact event.eventId_markPublished _ _
  | failed => exact event.eventId_applyFailure _ _ _ _
  | interrupted => rfl

/-- A row stays sound, unless a retry cannot be represented. -/
theorem sound (moves : Moves event entry changed) (sound : event.Sound)
    (representable : entry.2 ≠ .error .overflowError) : changed.Sound := by
  cases moves with
  | keeps => exact sound
  | claimed _ isEligible positive => exact sound.claim isEligible positive _
  | published => exact sound.markPublished _ _
  | failed _ _ returned =>
      refine sound.applyFailure _ _ _ _ ?_
      rw [returned]
      exact nofun
  | interrupted _ raised => exact absurd raised representable

/-- An attempt is counted exactly when the event is handed out. -/
theorem attemptCount_eq (moves : Moves event entry changed) :
    changed.attemptCount =
      event.attemptCount + if (handsOut event.eventId entry).isSome then 1 else 0 := by
  cases moves with
  | keeps notHanded =>
      rw [notHanded]
      rfl
  | claimed _ _ _ handed =>
      rw [handed]
      rfl
  | published _ notHanded =>
      rw [notHanded]
      rcases event.markPublished_cases _ _ with ⟨-, same⟩ | ⟨-, -, same⟩ <;> rw [same] <;> rfl
  | failed _ called =>
      rw [called]
      rcases event.applyFailure_cases _ _ _ _ with
        ⟨-, same⟩ | ⟨-, -, same⟩ | ⟨-, -, _, same⟩ | ⟨-, -, same⟩ <;> rw [same] <;> rfl
  | interrupted _ _ notHanded =>
      rw [notHanded]
      rfl

/-- A row that is not eligible and not processing stays as it is. -/
theorem eq_of_terminal (moves : Moves event entry changed)
    (terminal : event.status = .published ∨ event.status = .deadLetter) : changed = event := by
  have notHeld : ∀ claimToken, event.holds claimToken = true → False := by
    intro claimToken holding
    rw [(OutboxEvent.holds_iff.mp holding).1] at terminal
    rcases terminal with wrong | wrong <;> cases wrong
  cases moves with
  | keeps => rfl
  | claimed _ isEligible =>
      rcases OutboxEvent.status_of_eligible isEligible with status | status <;>
        rw [status] at terminal <;> rcases terminal with wrong | wrong <;> cases wrong
  | published holding => exact (notHeld _ holding).elim
  | failed holding => exact (notHeld _ holding).elim
  | interrupted holding => exact (notHeld _ holding).elim

end Moves

/-- An event that is not finished becomes eligible and stays so. -/
theorem OutboxEvent.Sound.exists_eligible {event : OutboxEvent} (sound : event.Sound)
    (unfinished : event.status = .pending ∨ event.status = .processing) :
    ∃ due : Instant, ∀ now, due ≤ now → event.eligible now = true := by
  rcases unfinished with pending | processing
  · exact ⟨event.availableAt, fun now late => eligible_iff.mpr (.inl ⟨pending, late⟩)⟩
  · obtain ⟨claimedUntil, isLease⟩ := Option.isSome_iff_exists.mp (sound.lease.mp processing)
    exact ⟨claimedUntil, fun now late =>
      eligible_iff.mpr (.inr ⟨processing, claimedUntil, isLease, late⟩)⟩

namespace Table

variable {table : Table}

/-- The database has an answer to every call of `claim_batch`. -/
theorem exists_possible (table : Table) (limit : ℤ) (now : Instant) (leaseDuration : Duration)
    (locked : List String) :
    ∃ batch, (Call.claimBatch limit now leaseDuration locked batch).Possible table := by
  obtain ⟨selected, selects⟩ := table.exists_selects locked limit now
  refine ⟨selected.map fun event => (event.eventId, event.eventId), fun _ _ => ⟨selected, selects, ?_⟩⟩
  rw [List.map_map]
  rfl

/-- **A limit that is large enough** leaves no eligible event behind. -/
theorem handsOut_of_eligible {event : OutboxEvent} (member : event ∈ table.rows) {now : Instant}
    (isEligible : event.eligible now = true) {limit : ℤ} (enough : table.rows.length ≤ limit)
    {leaseDuration : Duration} (positive : 0 < leaseDuration) {batch : List (String × String)}
    (possible : (Call.claimBatch limit now leaseDuration [] batch).Possible table) :
    returned event.eventId (.claimBatch limit now leaseDuration [] batch,
      (table.perform (.claimBatch limit now leaseDuration [] batch)).1) = true := by
  have isRow : 0 < table.rows.length := List.length_pos_of_mem member
  have atLeastOne : 1 ≤ limit := by omega
  obtain ⟨selected, selects, answered⟩ := possible atLeastOne positive
  have isSelected : event ∈ selected := by
    refine Selection.FirstRows.of_length_le selects ?_ (mem_selectable.mpr ⟨member, nofun, isEligible⟩)
    have fewer : (table.selectable [] now).length ≤ table.rows.length := List.length_filter_le _ _
    omega
  have present := Call.batch_mem ⟨selected, selects, answered⟩
  have named : event.eventId ∈ batch.map Prod.fst :=
    answered ▸ List.mem_map_of_mem isSelected
  obtain ⟨entry, isBatch, same⟩ := List.mem_map.mp named
  rw [perform, if_neg (by omega), if_neg (not_le.mpr positive)]
  refine List.any_eq_true.mpr ⟨event.claim now leaseDuration entry.2, ?_, beq_self_eq_true _⟩
  refine List.mem_filterMap.mpr ⟨entry, isBatch, ?_⟩
  rw [same, find?_eq_some member]
  rfl

end Table

namespace Run

variable {trace : List Entry} {table : Table}

/-- Every entry of a trace is a call with its outcome. -/
theorem returned_eq {start : Table} (ran : Run start trace table) (eventId : String) :
    ∀ entry ∈ trace, returned eventId entry = (handsOut eventId entry).isSome := by
  induction ran with
  | start => exact fun _ => nofun
  | call _ _ before =>
      intro entry isEntry
      rcases List.mem_append.mp isEntry with earlier | last
      · exact before entry earlier
      · cases List.mem_singleton.mp last
        exact Call.returned_eq _ _ _

/-- **Every event is sound**, unless a retry could not be represented. -/
theorem sound (ran : Run .empty trace table)
    (representable : ∀ entry ∈ trace, entry.2 ≠ .error .overflowError) :
    ∀ event ∈ table.rows, event.Sound := by
  intro event member
  refine ran.row_induction (motive := fun trace event =>
    (∀ entry ∈ trace, entry.2 ≠ .error .overflowError) → event.Sound) ?_ ?_ event member
    representable
  · exact fun created _ _ => (OutboxEvent.of_create created).1
  · intro trace event changed entry sound moves representable
    exact moves.sound (sound fun entry isEntry => representable entry (List.mem_append_left _ isEntry))
      (representable entry (List.mem_append_right _ (List.mem_singleton.mpr rfl)))

/-- **Attempts are counted**: they are the calls of `claim_batch` that returned the event. -/
theorem attemptCount_eq (ran : Run .empty trace table) :
    ∀ event ∈ table.rows, event.attemptCount = trace.countP (returned event.eventId) := by
  intro event member
  rw [List.countP_congr fun entry isEntry => by rw [ran.returned_eq event.eventId entry isEntry]]
  refine ran.row_induction (motive := fun trace event =>
    event.attemptCount = trace.countP fun entry => (handsOut event.eventId entry).isSome) ?_ ?_
    event member
  · intro trace event now uuid4 arguments created untouched
    rw [(OutboxEvent.of_create created).2.2.1, eq_comm, List.countP_eq_zero]
    intro entry isEntry
    rw [(untouched entry isEntry).1]
    exact Bool.false_ne_true
  · intro trace event changed entry counted moves
    rw [moves.eventId_eq, moves.attemptCount_eq, counted, List.countP_append, List.countP_singleton]

end Run

/-- **The contract of an outbox event**, in every state that calls of
`create`, `claim_batch`, `mark_published` and `apply_failure` can reach: -/
theorem event_contract {trace : List Entry} {table : Table} (ran : Run .empty trace table)
    (representable : ∀ entry ∈ trace, entry.2 ≠ .error .overflowError) :
    ∀ event ∈ table.rows,
      event.Sound ∧ event.attemptCount = trace.countP (returned event.eventId) ∧
        (event.status = .published ∨ event.status = .deadLetter →
          ∀ more later, Run table more later → event ∈ later.rows) ∧
        (event.status = .pending ∨ event.status = .processing →
          ∃ due : Instant, ∀ now, due ≤ now → ∀ limit : ℤ, table.rows.length ≤ limit →
            ∀ leaseDuration : Duration, 0 < leaseDuration →
              (∃ batch, (Call.claimBatch limit now leaseDuration [] batch).Possible table) ∧
              ∀ batch, (Call.claimBatch limit now leaseDuration [] batch).Possible table →
                returned event.eventId (.claimBatch limit now leaseDuration [] batch,
                  (table.perform (.claimBatch limit now leaseDuration [] batch)).1) = true) := by
  intro event member
  have sound := ran.sound representable event member
  refine ⟨sound, ran.attemptCount_eq event member, ?_, ?_⟩
  · intro terminal more later further
    exact further.row_stable (fun terminal moves => moves.eq_of_terminal terminal) member terminal
  · intro unfinished
    obtain ⟨due, eligible⟩ := sound.exists_eligible unfinished
    refine ⟨due, fun now late limit enough leaseDuration positive =>
      ⟨table.exists_possible limit now leaseDuration [], fun batch possible => ?_⟩⟩
    exact Table.handsOut_of_eligible member (eligible now late) enough positive possible

/-! ## One event -/

/-- A new event, at the epoch. -/
def factPublished : NewEvent where
  eventType := "product_fact.published.v1"
  aggregateType := "product_fact"
  aggregateId := "fact-1"
  aggregateVersion := some 2
  payload := [("fact_id", .string "fact-1")]
  eventMetadata := [("trace_id", .string "trace-1")]
  occurredAt := some 0
  eventId := some "event-1"

/-- The row that is stored for it. -/
def factPublishedRow : OutboxEvent where
  eventId := "event-1"
  eventType := "product_fact.published.v1"
  aggregateType := "product_fact"
  aggregateId := "fact-1"
  aggregateVersion := some 2
  payload := [("fact_id", .string "fact-1")]
  eventMetadata := [("trace_id", .string "trace-1")]
  status := .pending
  attemptCount := 0
  availableAt := 0
  claimedAt := none
  claimedUntil := none
  claimToken := none
  publishedAt := none
  lastError := none
  createdAt := 0

theorem create_factPublished :
    OutboxEvent.create 0 "event-1" factPublished = .ok factPublishedRow := by
  have text (name value : String) (bound : ℕ) (notBlank : blank value = false)
      (short : value.length ≤ bound) : validateRequiredText name value bound = .ok () := by
    rw [validateRequiredText, notBlank, if_neg Bool.false_ne_true, if_neg (not_lt.mpr short)]
  unfold OutboxEvent.create
  rw [text _ _ _ (by decide) (by decide),
    text _ _ _ (by decide) (by decide),
    text _ _ _ (by decide) (by decide)]
  rfl

/-- The event claimed for one second. -/
theorem run_factPublished_claimed :
    Run .empty
      [(.create 0 "event-1" factPublished, .ok [factPublishedRow]),
        (.claimBatch 1 0 second [] [("event-1", "token-1")],
          .ok [factPublishedRow.claim 0 second "token-1"])]
      (.single (factPublishedRow.claim 0 second "token-1")) :=
  (Run.creates create_factPublished).append
    (@Run.claims factPublishedRow 0 (by decide) second (by decide) "token-1")

theorem event_contract_claimed : (factPublishedRow.claim 0 second "token-1").attemptCount = 1 :=
  (event_contract run_factPublished_claimed (by simp) _ (List.mem_singleton.mpr rfl)).2.1

end BidSystem.Outbox
