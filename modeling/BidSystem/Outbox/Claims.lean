import BidSystem.Outbox.Contract

/-!
# Concurrent claims

Any number of transactions that have called `claim_batch` and not ended yet.
The `SELECT … FOR UPDATE SKIP LOCKED` of each is one step: it skips the rows
that the others have locked, and locks what it returns.  The new values of the
returned rows are written when the transaction commits; a transaction that rolls
back, or crashes, writes nothing.

Everything else that happens to an event waits for the lock on its row.

* `System.Valid` — what is open: no row twice, and every row as it was selected.
* `System.Valid.refines` — a commit is one atomic call of `claim_batch`, so all
  that is known about runs of atomic calls holds here.
* `concurrent_claims` — disjoint batches, the first rows in order, no other row
  touched, and no event claimed twice but for an expired lease or a failure.
-/

namespace BidSystem.Outbox

/-- A transaction that has called `claim_batch`: its arguments, and the selected
rows with the tokens they get. -/
structure OpenClaim where
  limit : ℤ
  now : Instant
  leaseDuration : Duration
  batch : List (OutboxEvent × String)

namespace OpenClaim

/-- The returned rows, as they were selected. -/
def selected (claim : OpenClaim) : List OutboxEvent := claim.batch.map Prod.fst

/-- The rows that are locked. -/
def ids (claim : OpenClaim) : List String := claim.selected.map OutboxEvent.eventId

/-- When the lease ends. -/
def claimedUntil (claim : OpenClaim) : Instant := claim.now + claim.leaseDuration

/-- The `UPDATE`s of a commit: the changed columns, with values computed from the
selected row. -/
def writes (claim : OpenClaim) (row : OutboxEvent) : OutboxEvent :=
  match claim.batch.find? fun entry => entry.1.eventId == row.eventId with
  | some (event, uuid4) =>
      { row with
        status := .processing
        attemptCount := event.attemptCount + 1
        claimedAt := some claim.now
        claimedUntil := some claim.claimedUntil
        claimToken := some uuid4 }
  | none => row

theorem eventId_writes (claim : OpenClaim) (row : OutboxEvent) :
    (claim.writes row).eventId = row.eventId := by
  unfold writes
  split <;> rfl

/-- A row outside of the batch is not written. -/
theorem writes_of_not_mem {claim : OpenClaim} {row : OutboxEvent} (outside : row.eventId ∉ claim.ids) :
    claim.writes row = row := by
  unfold writes
  cases found : claim.batch.find? fun entry => entry.1.eventId == row.eventId with
  | none => rfl
  | some entry =>
      refine absurd ?_ outside
      have same := List.find?_some found
      rw [← beq_iff_eq.mp same]
      exact List.mem_map_of_mem (List.mem_map_of_mem (List.mem_of_find?_eq_some found))

end OpenClaim

/-- The committed rows, and the transactions that are open. -/
structure System where
  table : Table
  opened : List OpenClaim

/-- The rows that open transactions have locked. -/
def System.locked (system : System) : List String := system.opened.flatMap OpenClaim.ids

/-- What happens in a run. -/
inductive Happened where
  | selected (claim : OpenClaim)
  | committed (claim : OpenClaim)
  | rolledBack (claim : OpenClaim)
  | called (entry : Entry)

/-- The call does not wait for a row, and is not `claim_batch`. -/
def Call.Free (locked : List String) : Call → Prop
  | create _ _ _ => True
  | claimBatch .. => False
  | markPublished eventId _ _ => eventId ∉ locked
  | applyFailure eventId _ _ _ _ _ => eventId ∉ locked

/-- One step of any of the transactions. -/
inductive Step : System → Happened → System → Prop
  /-- `claim_batch` selects its batch. -/
  | select {system : System} {claim : OpenClaim} (atLeastOne : 1 ≤ claim.limit)
      (positive : 0 < claim.leaseDuration)
      (selects : system.table.Selects system.locked claim.limit claim.now claim.selected) :
      Step system (.selected claim) ⟨system.table, system.opened ++ [claim]⟩
  /-- It commits. -/
  | commit {table : Table} {before after : List OpenClaim} {claim : OpenClaim} :
      Step ⟨table, before ++ claim :: after⟩ (.committed claim)
        ⟨table.updated claim.writes claim.eventId_writes, before ++ after⟩
  /-- It rolls back. -/
  | rollback {table : Table} {before after : List OpenClaim} {claim : OpenClaim} :
      Step ⟨table, before ++ claim :: after⟩ (.rolledBack claim) ⟨table, before ++ after⟩
  /-- Another call, on rows that nobody has locked. -/
  | call {system : System} {call : Call} (possible : call.Possible system.table)
      (free : call.Free system.locked) :
      Step system (.called (call, (system.table.perform call).1))
        ⟨(system.table.perform call).2, system.opened⟩

/-- A run, with what has happened in it. -/
inductive Steps (start : System) : List Happened → System → Prop
  | start : Steps start [] start
  | step {history : List Happened} {system next : System} {happened : Happened}
      (ran : Steps start history system) (step : Step system happened next) :
      Steps start (history ++ [happened]) next

/-! ## What is open -/

/-- What an open claim knows about the table. -/
structure OpenClaim.Valid (table : Table) (claim : OpenClaim) : Prop where
  atLeastOne : 1 ≤ claim.limit
  positive : 0 < claim.leaseDuration
  rows : ∀ event ∈ claim.selected, event ∈ table.rows ∧ event.eligible claim.now = true
  distinct : claim.ids.Nodup
  ordered : claim.selected.Pairwise earlier
  limited : claim.selected.length ≤ claim.limit

/-- What is open: no row twice, and every row as it was selected. -/
structure System.Valid (system : System) : Prop where
  claims : ∀ claim ∈ system.opened, claim.Valid system.table
  disjoint : system.opened.Pairwise fun first second => first.ids.Disjoint second.ids

namespace OpenClaim.Valid

variable {table : Table} {claim : OpenClaim}

/-- A claim stays valid as long as its rows stay. -/
theorem of_rows (valid : claim.Valid table) {next : Table}
    (kept : ∀ event ∈ claim.selected, event ∈ table.rows → event ∈ next.rows) :
    claim.Valid next :=
  { valid with
    rows := fun event member => ⟨kept event member (valid.rows event member).1,
      (valid.rows event member).2⟩ }

/-- **What a commit leaves** in a row of the batch. -/
theorem writes_eq (valid : claim.Valid table) {event : OutboxEvent} {uuid4 : String}
    (member : (event, uuid4) ∈ claim.batch) :
    claim.writes event = event.claim claim.now claim.leaseDuration uuid4 := by
  unfold writes
  cases found : claim.batch.find? fun entry => entry.1.eventId == event.eventId with
  | none => exact absurd (List.find?_eq_none.mp found _ member) (by simp)
  | some entry =>
      have same := List.find?_some found
      have isBatch := List.mem_of_find?_eq_some found
      have distinct : (claim.batch.map fun entry => entry.1.eventId).Nodup := by
        have distinct := valid.distinct
        rwa [ids, selected, List.map_map] at distinct
      rw [List.inj_on_of_nodup_map distinct isBatch member (beq_iff_eq.mp same)]
      rfl

end OpenClaim.Valid

namespace System.Valid

variable {system next : System} {happened : Happened}

/-- A free call leaves a locked row alone. -/
theorem effect_of_locked {call : Call} {locked : List String} (free : call.Free locked)
    {event : OutboxEvent} (isLocked : event.eventId ∈ locked) : call.effect event = event := by
  cases call with
  | create now uuid4 arguments => rfl
  | claimBatch => exact free.elim
  | markPublished eventId claimToken now =>
      rw [Call.effect, if_neg]
      rintro rfl
      exact free isLocked
  | applyFailure eventId claimToken now error policy stored =>
      rw [Call.effect, if_neg]
      rintro rfl
      exact free isLocked

/-- **What is open stays valid.** -/
theorem step (valid : system.Valid) (step : Step system happened next) : next.Valid := by
  cases step with
  | select atLeastOne positive selects =>
      rename_i claim
      constructor
      · intro other isOpen
        rcases List.mem_append.mp isOpen with before | last
        · exact valid.claims other before
        · cases List.mem_singleton.mp last
          refine ⟨atLeastOne, positive, fun event member => ?_, selects.distinct,
            Selection.FirstRows.pairwise selects, ?_⟩
          · obtain ⟨isRow, -, isEligible⟩ := selects.mem member
            exact ⟨isRow, isEligible⟩
          · rw [Selection.FirstRows.length_eq selects]
            omega
      · refine List.pairwise_append.mpr ⟨valid.disjoint, List.pairwise_singleton _ _, ?_⟩
        intro other isOpen last isLast eventId there here
        cases List.mem_singleton.mp isLast
        obtain ⟨event, isSelected, rfl⟩ := List.mem_map.mp here
        exact (selects.mem isSelected).2.1 (List.mem_flatMap.mpr ⟨other, isOpen, there⟩)
  | commit =>
      rename_i table before after claim
      have sub : (before ++ after).Sublist (before ++ claim :: after) :=
        List.Sublist.append_left (List.sublist_cons_self _ _) _
      refine ⟨fun other isOpen => ?_, valid.disjoint.sublist sub⟩
      refine (valid.claims other (sub.subset isOpen)).of_rows fun event isSelected isRow => ?_
      have outside : event.eventId ∉ claim.ids := by
        intro inside
        have isId : event.eventId ∈ other.ids := List.mem_map_of_mem isSelected
        have disjoint := valid.disjoint
        rw [List.pairwise_append, List.pairwise_cons] at disjoint
        rcases List.mem_append.mp isOpen with isBefore | isAfter
        · exact disjoint.2.2 other isBefore claim List.mem_cons_self isId inside
        · exact disjoint.2.1.1 other isAfter inside isId
      have same := OpenClaim.writes_of_not_mem outside
      rw [← same]
      exact List.mem_map_of_mem isRow
  | rollback =>
      rename_i table before after claim
      have sub : (before ++ after).Sublist (before ++ claim :: after) :=
        List.Sublist.append_left (List.sublist_cons_self _ _) _
      exact ⟨fun other isOpen => valid.claims other (sub.subset isOpen),
        valid.disjoint.sublist sub⟩
  | call possible free =>
      refine ⟨fun claim isOpen => ?_, valid.disjoint⟩
      refine (valid.claims claim isOpen).of_rows fun event isSelected isRow => ?_
      have isLocked : event.eventId ∈ system.locked :=
        List.mem_flatMap.mpr ⟨claim, isOpen, List.mem_map_of_mem isSelected⟩
      rw [← effect_of_locked free isLocked]
      exact Table.effect_mem_perform isRow

/-- In every run. -/
theorem of_steps {table : Table} {history : List Happened} (ran : Steps ⟨table, []⟩ history system) :
    system.Valid := by
  induction ran with
  | start => exact ⟨fun _ => nofun, List.Pairwise.nil⟩
  | step _ step valid => exact valid.step step

end System.Valid

/-! ## Commits are atomic calls -/

/-- The rows that an atomic call with the same batch finds locked. -/
def OpenClaim.others (claim : OpenClaim) (table : Table) : List String :=
  table.ids.filter fun eventId => eventId ∉ claim.ids

/-- The atomic call with the same batch. -/
def OpenClaim.atomic (claim : OpenClaim) (table : Table) : Call :=
  .claimBatch claim.limit claim.now claim.leaseDuration (claim.others table)
    (claim.batch.map fun entry => (entry.1.eventId, entry.2))

namespace OpenClaim.Valid

variable {table : Table} {claim : OpenClaim}

/-- The database could have given this answer to an atomic call. -/
theorem possible (valid : claim.Valid table) : (claim.atomic table).Possible table := by
  have selectable : claim.selected.Perm (table.selectable (claim.others table) claim.now) := by
    refine (List.perm_ext_iff_of_nodup (List.Nodup.of_map _ valid.distinct)
      (table.nodup_rows.filter _)).mpr fun event => ?_
    constructor
    · intro isSelected
      obtain ⟨isRow, isEligible⟩ := valid.rows event isSelected
      refine Table.mem_selectable.mpr ⟨isRow, fun isOther => ?_, isEligible⟩
      have outside := of_decide_eq_true (List.mem_filter.mp isOther).2
      exact outside (List.mem_map_of_mem isSelected)
    · intro isSelectable
      obtain ⟨isRow, notOther, -⟩ := Table.mem_selectable.mp isSelectable
      have inside : event.eventId ∈ claim.ids := by
        by_contra outside
        exact notOther (List.mem_filter.mpr
          ⟨List.mem_map_of_mem isRow, decide_eq_true outside⟩)
      obtain ⟨other, isSelected, same⟩ := List.mem_map.mp inside
      rwa [← Table.eq_of_eventId (valid.rows other isSelected).1 isRow same]
  intro _ _
  refine ⟨claim.selected, ⟨claim.selected, selectable, valid.ordered, ?_⟩, ?_⟩
  · rw [List.take_of_length_le]
    have limited := valid.limited
    omega
  · rw [OpenClaim.selected, List.map_map, List.map_map]
    rfl

/-- A token is found under the primary key of its event. -/
theorem lookup_eq (claim : OpenClaim) (eventId : String) :
    (claim.batch.map fun entry => (entry.1.eventId, entry.2)).lookup eventId =
      (claim.batch.find? fun entry => entry.1.eventId == eventId).map Prod.snd := by
  induction claim.batch with
  | nil => rfl
  | cons entry rest others =>
      rw [List.map_cons, List.lookup_cons, List.find?_cons, Bool.beq_comm]
      cases entry.1.eventId == eventId with
      | true => rfl
      | false => exact others

/-- **A commit** leaves the rows that the atomic call leaves. -/
theorem rows_commit (valid : claim.Valid table) :
    (table.perform (claim.atomic table)).2 = table.updated claim.writes claim.eventId_writes := by
  have atLeastOne := not_lt.mpr valid.atLeastOne
  have positive := not_le.mpr valid.positive
  refine Table.eq_of_rows ?_
  rw [OpenClaim.atomic, Table.perform, if_neg atLeastOne, if_neg positive]
  refine List.map_congr_left fun event isRow => ?_
  rw [Call.effect, if_neg (not_or.mpr ⟨atLeastOne, positive⟩), lookup_eq]
  cases found : claim.batch.find? fun entry => entry.1.eventId == event.eventId with
  | none =>
      unfold OpenClaim.writes
      rw [found]
      rfl
  | some entry =>
      have same := List.find?_some found
      have isBatch := List.mem_of_find?_eq_some found
      have isSelected : entry.1 ∈ claim.selected := List.mem_map_of_mem isBatch
      have isEvent := Table.eq_of_eventId (valid.rows _ isSelected).1 isRow (beq_iff_eq.mp same)
      have written : (event, entry.2) ∈ claim.batch := by
        rw [← isEvent]
        exact isBatch
      exact (valid.writes_eq written).symm

end OpenClaim.Valid

/-- **Concurrent claims refine atomic calls**: whatever a system reaches, a run
of atomic calls reaches. -/
theorem System.Valid.refines {start : Table} {history : List Happened} {system : System}
    (ran : Steps ⟨start, []⟩ history system) : ∃ trace, Run start trace system.table := by
  induction ran with
  | start => exact ⟨[], .start⟩
  | step ran step atomic =>
      obtain ⟨trace, run⟩ := atomic
      have valid := System.Valid.of_steps ran
      cases step with
      | select => exact ⟨trace, run⟩
      | commit =>
          rename_i table before after claim
          have isOpen := valid.claims claim (List.mem_append_right _ List.mem_cons_self)
          have next := run.call isOpen.possible
          rw [isOpen.rows_commit] at next
          exact ⟨_, next⟩
      | rollback => exact ⟨trace, run⟩
      | call possible => exact ⟨_, run.call possible⟩

/-! ## Two claims of one event -/

/-- Something that lets an event be claimed again: it was put back or given up, or
it was claimed once the lease had expired. -/
def Frees (eventId : String) (claim : OpenClaim) : Happened → Prop
  | .called (.applyFailure named _ _ _ _ _, .ok _) => named = eventId
  | .committed other => eventId ∈ other.ids ∧ claim.claimedUntil ≤ other.now
  | _ => False

/-- After a commit, either something has freed the event or it stays claimed
until the lease ends. -/
def Guarded (claim : OpenClaim) (since : List Happened) (event : OutboxEvent) : Prop :=
  (∃ happened ∈ since, Frees event.eventId claim happened) ∨
    ∀ now, event.eligible now = true → claim.claimedUntil ≤ now

/-- Something that happened later does not undo it. -/
theorem Guarded.mono {claim : OpenClaim} {since : List Happened} {event changed : OutboxEvent}
    (guarded : Guarded claim since event) (happened : Happened)
    (sameId : changed.eventId = event.eventId)
    (kept : Frees event.eventId claim happened ∨
      ∀ now, changed.eligible now = true → event.eligible now = true) :
    Guarded claim (since ++ [happened]) changed := by
  unfold Guarded at *
  rw [sameId]
  rcases guarded with ⟨earlier, isEarlier, frees⟩ | leased
  · exact .inl ⟨earlier, List.mem_append_left _ isEarlier, frees⟩
  · rcases kept with frees | stays
    · exact .inl ⟨happened, List.mem_append_right _ (List.mem_singleton.mpr rfl), frees⟩
    · exact .inr fun now isEligible => leased now (stays now isEligible)

/-- A call other than `claim_batch` makes an event eligible only by a failure. -/
theorem Moves.frees_or_stays {event changed : OutboxEvent} {call : Call} {outcome : Outcome}
    (moves : Moves event (call, outcome) changed) {locked : List String} (free : call.Free locked)
    (claim : OpenClaim) :
    Frees event.eventId claim (.called (call, outcome)) ∨
      ∀ now, changed.eligible now = true → event.eligible now = true := by
  cases moves with
  | keeps => exact .inr fun _ isEligible => isEligible
  | claimed called =>
      cases called
      exact free.elim
  | published holding =>
      refine .inr fun now isEligible => ?_
      have status := OutboxEvent.status_of_eligible isEligible
      rcases event.markPublished_cases _ _ with ⟨notHolding, -⟩ | ⟨-, -, same⟩
      · rw [holding] at notHolding
        cases notHolding
      · rw [same] at status
        rcases status with wrong | wrong <;> cases wrong
  | failed _ called =>
      cases called
      exact .inl rfl
  | interrupted holding =>
      refine .inr fun now isEligible => ?_
      rcases OutboxEvent.eligible_iff.mp isEligible with ⟨pending, -⟩ | ⟨-, _, isLease, -⟩
      · cases (OutboxEvent.holds_iff.mp holding).1.symm.trans pending
      · cases isLease

namespace Steps

variable {start : Table} {system : System} {history : List Happened}

/-- No primary key is lost. -/
theorem ids_subset_of_step {next : System} {happened : Happened}
    (step : Step system happened next) : system.table.ids ⊆ next.table.ids := by
  cases step with
  | select => exact List.Subset.refl _
  | commit =>
      intro eventId isId
      obtain ⟨event, isRow, rfl⟩ := List.mem_map.mp isId
      exact List.mem_map.mpr ⟨_, List.mem_map_of_mem isRow, OpenClaim.eventId_writes _ _⟩
  | rollback => exact List.Subset.refl _
  | call => exact Table.ids_subset_perform _ _

/-- What has been claimed is in the table. -/
theorem ids_subset (ran : Steps ⟨start, []⟩ history system) :
    ∀ claim, .committed claim ∈ history → claim.ids ⊆ system.table.ids := by
  induction ran with
  | start => exact fun _ => nofun
  | step ran step before =>
      rename_i history system next happened
      intro claim isCommitted
      refine List.Subset.trans ?_ (ids_subset_of_step step)
      rcases List.mem_append.mp isCommitted with earlier | last
      · exact before claim earlier
      · cases List.mem_singleton.mp last
        cases step
        rename_i table others after
        have isOpen := (System.Valid.of_steps ran).claims claim
          (List.mem_append_right _ List.mem_cons_self)
        intro eventId inside
        obtain ⟨event, isSelected, rfl⟩ := List.mem_map.mp inside
        exact List.mem_map_of_mem (isOpen.rows event isSelected).1

/-- **A committed claim guards its events**, and every later claim of one of them
has been freed. -/
theorem guarded (ran : Steps ⟨start, []⟩ history system) :
    ∀ before claim since, history = before ++ .committed claim :: since →
      ∀ event ∈ system.table.rows, event.eventId ∈ claim.ids → Guarded claim since event := by
  induction ran with
  | start =>
      intro before claim since split
      cases before <;> cases split
  | step ran step guarded =>
      rename_i history system next happened
      have valid := System.Valid.of_steps ran
      intro before claim since split event member inside
      rcases List.eq_nil_or_concat since with rfl | ⟨since, last, rfl⟩
      · -- The claim has just been committed.
        obtain ⟨-, isLast⟩ := List.append_inj' split rfl
        cases isLast
        cases step
        rename_i table others after
        have isOpen := valid.claims claim (List.mem_append_right _ List.mem_cons_self)
        refine .inr fun now isEligible => ?_
        obtain ⟨row, isRow, rfl⟩ := List.mem_map.mp member
        rw [claim.eventId_writes] at inside
        obtain ⟨selected, isSelected, same⟩ := List.mem_map.mp inside
        obtain ⟨⟨_, uuid4⟩, isBatch, rfl⟩ := List.mem_map.mp isSelected
        rw [← Table.eq_of_eventId (isOpen.rows _ isSelected).1 isRow same,
          isOpen.writes_eq isBatch] at isEligible
        rcases OutboxEvent.eligible_iff.mp isEligible with ⟨pending, -⟩ | ⟨-, _, isLease, expired⟩
        · cases pending
        · cases isLease
          exact expired
      · have earlier : history = before ++ .committed claim :: since ∧ [happened] = [last] :=
          List.append_inj' (split.trans (by simp)) rfl
        obtain ⟨earlier, isLast⟩ := earlier
        cases isLast
        have was := guarded before claim since earlier
        rw [List.concat_eq_append]
        cases step with
        | select =>
            exact (was event member inside).mono _ rfl (.inr fun _ isEligible => isEligible)
        | rollback =>
            exact (was event member inside).mono _ rfl (.inr fun _ isEligible => isEligible)
        | commit =>
            rename_i table others after committed
            obtain ⟨row, isRow, rfl⟩ := List.mem_map.mp member
            rw [committed.eventId_writes] at inside
            have guardedRow := was row isRow inside
            by_cases isCommitted : row.eventId ∈ committed.ids
            · have isOpen := valid.claims committed (List.mem_append_right _ List.mem_cons_self)
              obtain ⟨selected, isSelected, same⟩ := List.mem_map.mp isCommitted
              obtain ⟨isTableRow, isEligible⟩ := isOpen.rows selected isSelected
              rw [Table.eq_of_eventId isTableRow isRow same] at isEligible
              rcases guardedRow with ⟨earlier, isEarlier, frees⟩ | leased
              · refine .inl ⟨earlier, List.mem_append_left _ isEarlier, ?_⟩
                rwa [committed.eventId_writes]
              · have guardedRow : Guarded claim since row := .inr leased
                exact guardedRow.mono _ (committed.eventId_writes row)
                  (.inl ⟨isCommitted, leased _ isEligible⟩)
            · refine guardedRow.mono _ (committed.eventId_writes row) ?_
              rw [OpenClaim.writes_of_not_mem isCommitted]
              exact .inr fun _ isEligible => isEligible
        | call possible free =>
            rename_i call
            rcases Table.mem_perform member with
              ⟨row, isRow, rfl⟩ | ⟨now, uuid4, arguments, rfl, created, isNew⟩
            · have moves := Call.moves possible isRow
              rw [call.eventId_effect] at inside
              exact (was row isRow inside).mono _ (call.eventId_effect row)
                (moves.frees_or_stays free claim)
            · have isCommitted : .committed claim ∈ history := by
                rw [earlier]
                exact List.mem_append_right _ List.mem_cons_self
              exact absurd (ran.ids_subset claim isCommitted inside) isNew

/-- A run up to one of its steps. -/
theorem exists_step {system : System} {history : List Happened} {origin : System}
    (ran : Steps origin history system) :
    ∀ {before happened after}, history = before ++ happened :: after →
      ∃ here next, Steps origin before here ∧ Step here happened next := by
  induction ran with
  | start =>
      intro before happened after split
      cases before <;> cases split
  | step ran step earlier =>
      intro before happened after split
      rcases List.eq_nil_or_concat after with rfl | ⟨after, last, rfl⟩
      · obtain ⟨rfl, isLast⟩ := List.append_inj' split rfl
        cases isLast
        exact ⟨_, _, ran, step⟩
      · have rest : _ = before ++ happened :: after ∧ _ = [last] :=
          List.append_inj' (split.trans (by simp)) rfl
        exact earlier rest.1

end Steps

/-- What a committed transaction has claimed was eligible, and is still as it was selected. -/
theorem System.Valid.of_commit {system next : System} (valid : system.Valid) {claim : OpenClaim}
    (step : Step system (.committed claim) next) : claim.Valid system.table := by
  cases step
  exact valid.claims claim (List.mem_append_right _ List.mem_cons_self)

/-- **Two committed claims of one event** are separated by an expired lease or a failure. -/
theorem Steps.separated {start : Table} {history : List Happened} {system : System}
    (ran : Steps ⟨start, []⟩ history system) {before between after : List Happened}
    {first second : OpenClaim}
    (split : history = before ++ .committed first :: (between ++ .committed second :: after))
    {eventId : String} (inFirst : eventId ∈ first.ids) (inSecond : eventId ∈ second.ids) :
    ∃ happened ∈ between ++ [.committed second], Frees eventId first happened := by
  obtain ⟨here, next, ranHere, step⟩ := ran.exists_step
    (split.trans (List.append_assoc before (.committed first :: between) _).symm)
  have isOpen := (System.Valid.of_steps ranHere).of_commit step
  obtain ⟨event, isSelected, rfl⟩ := List.mem_map.mp inSecond
  obtain ⟨isRow, isEligible⟩ := isOpen.rows event isSelected
  rcases ranHere.guarded before first between rfl event isRow inFirst with
    ⟨happened, isBetween, frees⟩ | leased
  · exact ⟨happened, List.mem_append_left _ isBetween, frees⟩
  · exact ⟨.committed second, List.mem_append_right _ (List.mem_singleton.mpr rfl), inSecond,
      leased _ isEligible⟩

/-- **A commit** changes the rows of its batch and no others. -/
theorem Step.commit_rows {system next : System} {claim : OpenClaim} (valid : system.Valid)
    (step : Step system (.committed claim) next) :
    next.table.ids = system.table.ids ∧
      (∀ event, event.eventId ∉ claim.ids →
        (event ∈ next.table.rows ↔ event ∈ system.table.rows)) ∧
      ∀ entry ∈ claim.batch, entry.1 ∈ system.table.rows ∧
        entry.1.claim claim.now claim.leaseDuration entry.2 ∈ next.table.rows := by
  have isOpen := valid.of_commit step
  cases step
  refine ⟨?_, fun event outside => ⟨fun isRow => ?_, fun isRow => ?_⟩, fun entry isBatch => ?_⟩
  · exact (List.map_map).trans (List.map_congr_left fun row _ => claim.eventId_writes row)
  · obtain ⟨row, isBefore, rfl⟩ := List.mem_map.mp isRow
    rw [claim.eventId_writes] at outside
    rwa [OpenClaim.writes_of_not_mem outside]
  · rw [← OpenClaim.writes_of_not_mem outside]
    exact List.mem_map_of_mem isRow
  · have isRow := (isOpen.rows entry.1 (List.mem_map_of_mem isBatch)).1
    refine ⟨isRow, ?_⟩
    rw [← isOpen.writes_eq isBatch]
    exact List.mem_map_of_mem isRow

/-- **A batch** has the first rows of those that are eligible and not locked. -/
theorem Step.select_rows {system next : System} {claim : OpenClaim}
    (step : Step system (.selected claim) next) :
    next.table = system.table ∧ claim.selected.Nodup ∧ claim.selected.Pairwise earlier ∧
      (∀ event ∈ claim.selected, event ∈ system.table.rows ∧ event.eventId ∉ system.locked ∧
        event.eligible claim.now = true) ∧
      claim.selected.length ≤ claim.limit ∧
      ∀ event ∈ system.table.rows, event.eventId ∉ system.locked →
        event.eligible claim.now = true → event ∉ claim.selected →
          claim.selected.length = claim.limit ∧ ∀ taken ∈ claim.selected, earlier taken event := by
  cases step with
  | select atLeastOne positive selects =>
      refine ⟨rfl, List.Nodup.of_map _ selects.distinct, Selection.FirstRows.pairwise selects,
        fun event isSelected => selects.mem isSelected, ?_,
        fun event isRow unlocked isEligible leftOut => ?_⟩
      · rw [Selection.FirstRows.length_eq selects]
        omega
      · obtain ⟨full, before⟩ := Selection.FirstRows.before_of_not_mem selects
          (Table.mem_selectable.mpr ⟨isRow, unlocked, isEligible⟩) leftOut
        exact ⟨by omega, before⟩

/-- The new event is claimed. -/
def firstClaim : OpenClaim := ⟨1, 0, second, [(factPublishedRow, "token-1")]⟩

end BidSystem.Outbox
