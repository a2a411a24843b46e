import BidSystem.Outbox.Table

/-!
# Runs of the outbox

A run is a sequence of calls, each atomic on the stored rows.  Its trace has the
calls with what they returned or raised; who holds a claim, and how often an
event was handed out, is read off the trace and not off the table.

* `Moves` — the six things that one call can do to one row.
* `Run.row_induction` — what a new row has, and every move keeps, all rows of a
  run have.
-/

namespace BidSystem.Outbox

/-- A call with what it returned or raised. -/
abbrev Entry := Call × Outcome

/-- The token with which the entry hands out an event. -/
def handsOut (eventId : String) : Entry → Option String
  | (.claimBatch .., .ok events) =>
      (events.find? fun event => event.eventId == eventId).bind OutboxEvent.claimToken
  | _ => none

/-- The entry publishes an event. -/
def publishes (eventId : String) : Entry → Bool
  | (.markPublished named _ _, .ok _) => named == eventId
  | _ => false

/-- The entry resolves the claim of an event. -/
def resolves (eventId : String) : Entry → Bool
  | (.markPublished named _ _, .ok _) => named == eventId
  | (.applyFailure named _ _ _ _ _, .ok _) => named == eventId
  | _ => false

/-- Publishing an event resolves its claim. -/
theorem resolves_of_publishes {eventId : String} {entry : Entry}
    (published : publishes eventId entry = true) : resolves eventId entry = true := by
  unfold publishes at published
  split at published
  · exact published
  · cases published

/-- What one call can do to one row. -/
inductive Moves (event : OutboxEvent) (entry : Entry) : OutboxEvent → Prop
  /-- Nothing. -/
  | keeps (notHanded : handsOut event.eventId entry = none)
      (unresolved : resolves event.eventId entry = false) : Moves event entry event
  /-- `claim_batch` returns it. -/
  | claimed {limit : ℤ} {now : Instant} {leaseDuration : Duration} {locked : List String}
      {batch : List (String × String)} {uuid4 : String}
      (called : entry.1 = .claimBatch limit now leaseDuration locked batch)
      (isEligible : event.eligible now = true) (positive : 0 < leaseDuration)
      (handed : handsOut event.eventId entry = some uuid4)
      (unresolved : resolves event.eventId entry = false) :
      Moves event entry (event.claim now leaseDuration uuid4)
  /-- `mark_published` publishes it. -/
  | published {claimToken : String} {now : Instant} (holding : event.holds claimToken = true)
      (notHanded : handsOut event.eventId entry = none)
      (resolved : resolves event.eventId entry = true) :
      Moves event entry (event.markPublished claimToken now).2
  /-- `apply_failure` gives it up or puts it back. -/
  | failed {claimToken : String} {now : Instant} {error : String} {policy : RetryPolicy}
      {stored : Bool} (holding : event.holds claimToken = true)
      (called : entry = (.applyFailure event.eventId claimToken now error policy stored, .ok []))
      (returned : (event.applyFailure claimToken now error policy).1 = .ok ()) :
      Moves event entry (event.applyFailure claimToken now error policy).2
  /-- `apply_failure` cannot represent the time of the retry. -/
  | interrupted {claimToken error : String} (holding : event.holds claimToken = true)
      (raised : entry.2 = .error .overflowError)
      (notHanded : handsOut event.eventId entry = none)
      (unresolved : resolves event.eventId entry = false) :
      Moves event entry (event.released error)

namespace Table

/-- The batch hands out the tokens it says. -/
theorem handed_of_batch (table : Table) (now : Instant) (leaseDuration : Duration)
    (eventId : String) :
    ∀ batch : List (String × String), (∀ entry ∈ batch, entry.1 ∈ table.ids) →
      ((batch.filterMap fun entry =>
          (table.find? entry.1).map (·.claim now leaseDuration entry.2)).find?
        fun event => event.eventId == eventId).bind OutboxEvent.claimToken = batch.lookup eventId
  | [], _ => rfl
  | (named, uuid4) :: rest, present => by
      obtain ⟨event, member, rfl⟩ := List.mem_map.mp (present _ List.mem_cons_self)
      have others := handed_of_batch table now leaseDuration eventId rest fun entry isRest =>
        present entry (List.mem_cons_of_mem _ isRest)
      rw [List.filterMap_cons, find?_eq_some member, List.lookup_cons]
      dsimp only [Option.map_some]
      rw [List.find?_cons]
      by_cases same : event.eventId = eventId
      · have here : ((event.claim now leaseDuration uuid4).eventId == eventId) = true :=
          beq_iff_eq.mpr same
        rw [here, same, beq_self_eq_true]
        rfl
      · have there : ((event.claim now leaseDuration uuid4).eventId == eventId) = false :=
          beq_eq_false_iff_ne.mpr same
        rw [there, beq_eq_false_iff_ne.mpr fun swapped => same swapped.symm]
        exact others

end Table

/-- A batch has events of the table. -/
theorem Call.batch_mem {table : Table} {locked : List String} {limit : ℤ} {now : Instant}
    {batch : List (String × String)}
    (answered : ∃ selected, table.Selects locked limit now selected ∧
      batch.map Prod.fst = selected.map OutboxEvent.eventId) :
    ∀ entry ∈ batch, entry.1 ∈ table.ids := by
  obtain ⟨selected, selects, same⟩ := answered
  intro entry isBatch
  have named : entry.1 ∈ selected.map OutboxEvent.eventId := same ▸ List.mem_map_of_mem isBatch
  obtain ⟨row, isSelected, same⟩ := List.mem_map.mp named
  exact same ▸ List.mem_map_of_mem (selects.mem isSelected).1

/-- **What a call does to a row.** -/
theorem Call.moves {call : Call} {table : Table} (possible : call.Possible table)
    {event : OutboxEvent} (member : event ∈ table.rows) :
    Moves event (call, (table.perform call).1) (call.effect event) := by
  cases call with
  | create now uuid4 arguments =>
      exact .keeps (by unfold handsOut; rfl) (by unfold resolves; rfl)
  | claimBatch limit now leaseDuration locked batch =>
      rw [Call.effect, Table.perform]
      by_cases tooFew : limit < 1
      · rw [if_pos tooFew, if_pos (show limit < 1 ∨ leaseDuration ≤ 0 from .inl tooFew)]
        exact .keeps rfl rfl
      rw [if_neg tooFew]
      by_cases expired : leaseDuration ≤ 0
      · rw [if_pos expired, if_pos (show limit < 1 ∨ leaseDuration ≤ 0 from .inr expired)]
        exact .keeps rfl rfl
      rw [if_neg (not_or.mpr ⟨tooFew, expired⟩), if_neg expired]
      obtain ⟨selected, selects, answered⟩ := possible (not_lt.mp tooFew) (not_le.mp expired)
      have present := Call.batch_mem ⟨selected, selects, answered⟩
      have handed := table.handed_of_batch now leaseDuration event.eventId batch present
      cases found : batch.lookup event.eventId with
      | none => exact .keeps (handed.trans found) rfl
      | some uuid4 =>
          have named : event.eventId ∈ selected.map OutboxEvent.eventId := by
            rw [← answered]
            obtain ⟨first, last, isBatch, -⟩ := List.lookup_eq_some_iff.mp found
            rw [isBatch]
            simp
          obtain ⟨row, isSelected, same⟩ := List.mem_map.mp named
          obtain ⟨isRow, -, isEligible⟩ := selects.mem isSelected
          rw [Table.eq_of_eventId isRow member same] at isEligible
          exact .claimed rfl isEligible (not_le.mp expired) (handed.trans found) rfl
  | markPublished eventId claimToken now =>
      obtain ⟨row, isRow, named⟩ := List.mem_map.mp possible
      rw [Call.effect, Table.perform]
      by_cases same : event.eventId = eventId
      · cases Table.eq_of_eventId isRow member (named.trans same.symm)
        cases same
        rw [if_pos rfl, Table.find?_eq_some member]
        dsimp only
        rcases event.markPublished_cases claimToken now with ⟨-, refused⟩ | ⟨holding, returned, -⟩
        · rw [refused]
          exact .keeps rfl rfl
        · rw [returned]
          exact .published holding rfl (beq_self_eq_true _)
      · rw [if_neg same]
        have elsewhere : (eventId == event.eventId) = false :=
          beq_eq_false_iff_ne.mpr fun swapped => same swapped.symm
        refine .keeps rfl ?_
        unfold resolves
        split <;> simp_all
  | applyFailure eventId claimToken now error policy stored =>
      obtain ⟨row, isRow, named⟩ := List.mem_map.mp possible
      rw [Call.effect, Table.perform]
      by_cases same : event.eventId = eventId
      · cases Table.eq_of_eventId isRow member (named.trans same.symm)
        cases same
        rw [if_pos rfl, Table.find?_eq_some member]
        dsimp only
        have outcomes := event.applyFailure_cases claimToken now error policy
        rcases applied : event.applyFailure claimToken now error policy with ⟨raised | _, row⟩
        · rw [applied] at outcomes
          rcases outcomes with ⟨-, refused⟩ | ⟨-, -, refused⟩ | ⟨-, -, _, refused⟩ |
            ⟨holding, -, refused⟩
          · cases refused
            dsimp only
            rw [ite_self]
            exact .keeps rfl rfl
          · cases refused
          · cases refused
          · cases refused
            cases stored
            · exact .keeps rfl rfl
            · exact .interrupted holding rfl rfl rfl
        · have holding : event.holds claimToken = true := by
            rcases outcomes with ⟨-, refused⟩ | ⟨holding, -⟩ | ⟨holding, -⟩ | ⟨-, -, refused⟩
            · rw [applied] at refused
              cases refused
            · exact holding
            · exact holding
            · rw [applied] at refused
              cases refused
          have failed := @Moves.failed event _ _ _ _ _ stored holding rfl (congrArg Prod.fst applied)
          rw [applied] at failed
          exact failed
      · rw [if_neg same]
        have elsewhere : (eventId == event.eventId) = false :=
          beq_eq_false_iff_ne.mpr fun swapped => same swapped.symm
        refine .keeps rfl ?_
        unfold resolves
        split <;> simp_all

/-- A call has nothing to say about an event that does not exist. -/
theorem Call.elsewhere {call : Call} {table : Table} (possible : call.Possible table)
    {eventId : String} (absent : eventId ∉ table.ids) :
    handsOut eventId (call, (table.perform call).1) = none ∧
      resolves eventId (call, (table.perform call).1) = false := by
  cases call with
  | create now uuid4 arguments => exact ⟨by unfold handsOut; rfl, by unfold resolves; rfl⟩
  | claimBatch limit now leaseDuration locked batch =>
      rw [Table.perform]
      by_cases tooFew : limit < 1
      · rw [if_pos tooFew]
        exact ⟨rfl, rfl⟩
      rw [if_neg tooFew]
      by_cases expired : leaseDuration ≤ 0
      · rw [if_pos expired]
        exact ⟨rfl, rfl⟩
      rw [if_neg expired]
      have present := Call.batch_mem (possible (not_lt.mp tooFew) (not_le.mp expired))
      refine ⟨(table.handed_of_batch now leaseDuration eventId batch present).trans ?_, rfl⟩
      refine List.lookup_eq_none_iff.mpr fun entry isBatch => ?_
      refine bne_iff_ne.mpr ?_
      rintro rfl
      exact absent (present entry isBatch)
  | markPublished named claimToken now =>
      refine ⟨by unfold handsOut; rfl, ?_⟩
      have other : named ≠ eventId := fun same => absent (same ▸ possible)
      unfold resolves
      split <;> simp_all
  | applyFailure named claimToken now error policy stored =>
      refine ⟨by unfold handsOut; rfl, ?_⟩
      have other : named ≠ eventId := fun same => absent (same ▸ possible)
      unfold resolves
      split <;> simp_all

/-! ## The table after a call -/

namespace Table

variable {table : Table} {call : Call}

/-- A call inserts one event, or updates the rows by its effect. -/
theorem perform_cases (table : Table) (call : Call) :
    (table.perform call).2.rows = table.rows.map call.effect ∨
      ∃ now uuid4 arguments event, call = .create now uuid4 arguments ∧
        OutboxEvent.create now uuid4 arguments = .ok event ∧ event.eventId ∉ table.ids ∧
        (table.perform call).2.rows = table.rows ++ [event] := by
  cases call with
  | create now uuid4 arguments =>
      have unchanged : table.rows = table.rows.map (Call.create now uuid4 arguments).effect :=
        (List.map_id' table.rows).symm
      rw [Table.perform]
      split
      · exact .inl unchanged
      · rename_i event created
        by_cases isNew : event.eventId ∉ table.ids
        · rw [dif_pos isNew]
          exact .inr ⟨now, uuid4, arguments, event, rfl, created, isNew, rfl⟩
        · rw [dif_neg isNew]
          exact .inl unchanged
  | claimBatch limit now leaseDuration locked batch =>
      refine .inl ?_
      rw [Table.perform]
      by_cases tooFew : limit < 1
      · rw [if_pos tooFew]
        refine (List.map_id' table.rows).symm.trans (List.map_congr_left fun event _ => ?_)
        rw [Call.effect, if_pos (show limit < 1 ∨ leaseDuration ≤ 0 from .inl tooFew)]
      rw [if_neg tooFew]
      by_cases expired : leaseDuration ≤ 0
      · rw [if_pos expired]
        refine (List.map_id' table.rows).symm.trans (List.map_congr_left fun event _ => ?_)
        rw [Call.effect, if_pos (show limit < 1 ∨ leaseDuration ≤ 0 from .inr expired)]
      rw [if_neg expired]
      rfl
  | markPublished eventId claimToken now =>
      refine .inl ?_
      rw [Table.perform]
      cases found : table.find? eventId with
      | some event => rfl
      | none =>
          refine (List.map_id' table.rows).symm.trans (List.map_congr_left fun event member => ?_)
          rw [Call.effect, if_neg]
          rintro rfl
          rw [find?_eq_some member] at found
          cases found
  | applyFailure eventId claimToken now error policy stored =>
      refine .inl ?_
      rw [Table.perform]
      cases found : table.find? eventId with
      | some event => rfl
      | none =>
          refine (List.map_id' table.rows).symm.trans (List.map_congr_left fun event member => ?_)
          rw [Call.effect, if_neg]
          rintro rfl
          rw [find?_eq_some member] at found
          cases found

/-- A row after a call is a new one, or has been affected by the call. -/
theorem mem_perform {event : OutboxEvent} (member : event ∈ (table.perform call).2.rows) :
    (∃ before ∈ table.rows, event = call.effect before) ∨
      ∃ now uuid4 arguments, call = .create now uuid4 arguments ∧
        OutboxEvent.create now uuid4 arguments = .ok event ∧ event.eventId ∉ table.ids := by
  rcases perform_cases table call with
    rows | ⟨now, uuid4, arguments, added, rfl, created, isNew, rows⟩
  · rw [rows] at member
    obtain ⟨before, isRow, rfl⟩ := List.mem_map.mp member
    exact .inl ⟨before, isRow, rfl⟩
  · rw [rows] at member
    rcases List.mem_append.mp member with isRow | isNewRow
    · exact .inl ⟨event, isRow, rfl⟩
    · cases List.mem_singleton.mp isNewRow
      exact .inr ⟨now, uuid4, arguments, rfl, created, isNew⟩

/-- No row is lost. -/
theorem effect_mem_perform {event : OutboxEvent} (member : event ∈ table.rows) :
    call.effect event ∈ (table.perform call).2.rows := by
  rcases perform_cases table call with rows | ⟨now, uuid4, arguments, added, rfl, -, -, rows⟩
  · rw [rows]
    exact List.mem_map_of_mem member
  · rw [rows]
    exact List.mem_append_left _ member

/-- No primary key is lost. -/
theorem ids_subset_perform (table : Table) (call : Call) :
    table.ids ⊆ (table.perform call).2.ids := by
  intro eventId isId
  obtain ⟨event, member, rfl⟩ := List.mem_map.mp isId
  exact List.mem_map.mpr ⟨_, effect_mem_perform member, call.eventId_effect event⟩

end Table

/-! ## Runs -/

/-- A run of calls from a table, with its trace and the table it leaves. -/
inductive Run (start : Table) : List Entry → Table → Prop
  | start : Run start [] start
  | call {trace : List Entry} {table : Table} {call : Call} (ran : Run start trace table)
      (possible : call.Possible table) :
      Run start (trace ++ [(call, (table.perform call).1)]) (table.perform call).2

namespace Run

variable {start table later : Table} {trace more : List Entry}

/-- A run goes on with another. -/
theorem append (ran : Run start trace table) (further : Run table more later) :
    Run start (trace ++ more) later := by
  induction further with
  | start =>
      rw [List.append_nil]
      exact ran
  | call _ possible before =>
      rw [← List.append_assoc]
      exact before.call possible

/-- Nothing has happened to an event that does not exist. -/
theorem untouched (ran : Run .empty trace table) {eventId : String} (absent : eventId ∉ table.ids) :
    ∀ entry ∈ trace, handsOut eventId entry = none ∧ resolves eventId entry = false := by
  induction ran with
  | start => exact fun _ => nofun
  | call _ possible before =>
      rename_i table call _
      have absentBefore : eventId ∉ table.ids := fun isId =>
        absent (table.ids_subset_perform call isId)
      intro entry isEntry
      rcases List.mem_append.mp isEntry with earlier | last
      · exact before absentBefore entry earlier
      · cases List.mem_singleton.mp last
        exact Call.elsewhere possible absentBefore

/-- **Induction over the life of a row.** -/
theorem row_induction {motive : List Entry → OutboxEvent → Prop}
    (created : ∀ {trace : List Entry} {event : OutboxEvent} {now : Instant} {uuid4 : String}
      {arguments : NewEvent}, OutboxEvent.create now uuid4 arguments = .ok event →
      (∀ entry ∈ trace, handsOut event.eventId entry = none ∧
        resolves event.eventId entry = false) → motive trace event)
    (moved : ∀ {trace : List Entry} {event changed : OutboxEvent} {entry : Entry},
      motive trace event → Moves event entry changed → motive (trace ++ [entry]) changed)
    (ran : Run .empty trace table) : ∀ event ∈ table.rows, motive trace event := by
  induction ran with
  | start => exact fun _ => nofun
  | call ran possible before =>
      intro event member
      rcases Table.mem_perform member with
        ⟨old, isRow, rfl⟩ | ⟨now, uuid4, arguments, rfl, isCreated, isNew⟩
      · exact moved (before old isRow) (Call.moves possible isRow)
      · refine created isCreated fun entry isEntry => ?_
        rcases List.mem_append.mp isEntry with earlier | last
        · exact ran.untouched isNew entry earlier
        · cases List.mem_singleton.mp last
          exact Call.elsewhere possible isNew

/-- What every move keeps, a row keeps in every run. -/
theorem row_stable {P : OutboxEvent → Prop}
    (kept : ∀ {event changed : OutboxEvent} {entry : Entry}, P event →
      Moves event entry changed → changed = event)
    (ran : Run start trace table) {event : OutboxEvent} (member : event ∈ start.rows)
    (stays : P event) : event ∈ table.rows := by
  induction ran with
  | start => exact member
  | call _ possible isRow =>
      have same := kept stays (Call.moves possible isRow)
      rw [← same]
      exact Table.effect_mem_perform isRow

end Run

/-! ## A table of one event -/

namespace Table

/-- The table that has this event only. -/
def single (event : OutboxEvent) : Table := ⟨[event], List.nodup_singleton _⟩

/-- Two tables with the same rows are the same. -/
theorem eq_of_rows {first second : Table} (same : first.rows = second.rows) : first = second := by
  cases first
  cases second
  cases same
  rfl

end Table

namespace Run

/-- A new event in an empty table. -/
theorem creates {now : Instant} {uuid4 : String} {arguments : NewEvent} {event : OutboxEvent}
    (created : OutboxEvent.create now uuid4 arguments = .ok event) :
    Run .empty [(.create now uuid4 arguments, .ok [event])] (.single event) := by
  have possible : (Call.create now uuid4 arguments).Possible .empty := trivial
  have ran := Run.start.call possible
  have performed : Table.empty.perform (.create now uuid4 arguments) =
      (.ok [event], .single event) := by
    rw [Table.perform]
    simp only [created]
    exact dif_pos List.not_mem_nil
  rw [performed] at ran
  exact ran

/-- The only event is claimed when it is eligible. -/
theorem claims {event : OutboxEvent} {now : Instant} (isEligible : event.eligible now = true)
    {leaseDuration : Duration} (positive : 0 < leaseDuration) (uuid4 : String) :
    Run (.single event)
      [(.claimBatch 1 now leaseDuration [] [(event.eventId, uuid4)],
        .ok [event.claim now leaseDuration uuid4])]
      (.single (event.claim now leaseDuration uuid4)) := by
  have member : event ∈ (Table.single event).rows := List.mem_singleton.mpr rfl
  have selects : (Table.single event).Selects [] 1 now [event] := by
    have selectable : (Table.single event).selectable [] now = [event] := by
      simp [Table.selectable, Table.single, isEligible]
    exact ⟨[event], selectable ▸ List.Perm.refl _, List.pairwise_singleton _ _, rfl⟩
  have possible : (Call.claimBatch 1 now leaseDuration [] [(event.eventId, uuid4)]).Possible
      (.single event) := fun _ _ => ⟨[event], selects, rfl⟩
  have ran := Run.start.call possible
  have performed : (Table.single event).perform
      (.claimBatch 1 now leaseDuration [] [(event.eventId, uuid4)]) =
      (.ok [event.claim now leaseDuration uuid4],
        .single (event.claim now leaseDuration uuid4)) := by
    rw [Table.perform, if_neg (by decide), if_neg (not_le.mpr positive), List.filterMap_cons,
      Table.find?_eq_some member]
    refine Prod.ext rfl (Table.eq_of_rows ?_)
    change [Call.effect _ event] = [event.claim now leaseDuration uuid4]
    rw [Call.effect, if_neg (not_or.mpr ⟨by decide, not_le.mpr positive⟩), List.lookup_cons,
      beq_self_eq_true]
  rw [performed] at ran
  exact ran

end Run

end BidSystem.Outbox
