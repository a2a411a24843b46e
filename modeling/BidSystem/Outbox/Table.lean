import BidSystem.Outbox.Event
import BidSystem.Selection.First

/-!
# The outbox table

The stored events, and the calls that dispatchers make, each of them atomic on
the stored rows.

`claim_batch` returns what `SELECT … FOR UPDATE SKIP LOCKED` finds: the first
rows among those that are eligible and that nobody else has locked.  Which rows
are locked, and in which sequence rows with equal times come, is not up to the
caller; a call therefore carries the answer it got, and `Call.Possible` says
that a database could have given it.

* `Table.perform` — what a call returns, and the table it leaves.
* `Call.effect` — what it does to one row.  `Table.mem_perform` reduces every
  question about the table to it, and `Call.effect_cases` says what it can be.
-/

namespace BidSystem.Outbox

open Selection

/-- `ORDER BY available_at, created_at`. -/
def earlier (first second : OutboxEvent) : Prop :=
  first.availableAt < second.availableAt ∨
    (first.availableAt = second.availableAt ∧ first.createdAt ≤ second.createdAt)

instance : DecidableRel earlier := fun _ _ => inferInstanceAs (Decidable (_ ∨ _))

theorem earlier_total (first second : OutboxEvent) : earlier first second ∨ earlier second first := by
  unfold earlier
  rcases lt_trichotomy first.availableAt second.availableAt with before | same | after
  · exact .inl (.inl before)
  · rcases le_total first.createdAt second.createdAt with created | created
    · exact .inl (.inr ⟨same, created⟩)
    · exact .inr (.inr ⟨same.symm, created⟩)
  · exact .inr (.inl after)

theorem earlier_trans (first second third : OutboxEvent) (early : earlier first second)
    (late : earlier second third) : earlier first third := by
  unfold earlier at *
  rcases early with before | ⟨same, created⟩
  · rcases late with after | ⟨same', -⟩
    · exact .inl (before.trans after)
    · exact .inl (same' ▸ before)
  · rcases late with after | ⟨same', created'⟩
    · exact .inl (same ▸ after)
    · exact .inr ⟨same.trans same', created.trans created'⟩

/-- The rows of `outbox_event`, whose primary key is `event_id`. -/
structure Table where
  rows : List OutboxEvent
  distinct : (rows.map OutboxEvent.eventId).Nodup

namespace Table

/-- The table as the migration creates it. -/
def empty : Table := ⟨[], List.nodup_nil⟩

/-- The primary keys in use. -/
def ids (table : Table) : List String := table.rows.map OutboxEvent.eventId

/-- The row with a primary key. -/
def find? (eventId : String) (table : Table) : Option OutboxEvent :=
  table.rows.find? fun event => event.eventId == eventId

/-- Every row updated, primary keys aside. -/
def updated (table : Table) (change : OutboxEvent → OutboxEvent)
    (keepsId : ∀ event, (change event).eventId = event.eventId) : Table where
  rows := table.rows.map change
  distinct := by
    rw [List.map_map, show OutboxEvent.eventId ∘ change = OutboxEvent.eventId from funext keepsId]
    exact table.distinct

/-- A row inserted under a new primary key. -/
def inserted (table : Table) (event : OutboxEvent) (isNew : event.eventId ∉ table.ids) : Table where
  rows := table.rows ++ [event]
  distinct := by
    rw [List.map_append, List.nodup_append]
    refine ⟨table.distinct, List.nodup_singleton _, ?_⟩
    rintro eventId member _ single rfl
    rw [List.map_singleton, List.mem_singleton] at single
    exact isNew (single ▸ member)

/-- A primary key has one row. -/
theorem eq_of_eventId {table : Table} {first second : OutboxEvent} (here : first ∈ table.rows)
    (there : second ∈ table.rows) (same : first.eventId = second.eventId) : first = second :=
  List.inj_on_of_nodup_map table.distinct here there same

theorem find?_eq_some {table : Table} {event : OutboxEvent} (member : event ∈ table.rows) :
    table.find? event.eventId = some event := by
  unfold find?
  cases found : table.rows.find? fun row => row.eventId == event.eventId with
  | none => exact absurd (List.find?_eq_none.mp found event member) (by simp)
  | some row =>
      have same := List.find?_some found
      rw [eq_of_eventId (List.mem_of_find?_eq_some found) member (beq_iff_eq.mp same)]

theorem nodup_rows (table : Table) : table.rows.Nodup := List.Nodup.of_map _ table.distinct

/-! ## What `claim_batch` selects -/

/-- The rows the statement of `claim_batch` looks at. -/
def selectable (table : Table) (locked : List String) (now : Instant) : List OutboxEvent :=
  table.rows.filter fun event => event.eventId ∉ locked && event.eligible now

/-- The statement can return this batch. -/
def Selects (table : Table) (locked : List String) (limit : ℤ) (now : Instant)
    (batch : List OutboxEvent) : Prop :=
  FirstRows earlier limit.toNat (table.selectable locked now) batch

section Selects

variable {table : Table} {locked : List String} {limit : ℤ} {now : Instant}
  {batch : List OutboxEvent}

theorem mem_selectable {event : OutboxEvent} :
    event ∈ table.selectable locked now ↔
      event ∈ table.rows ∧ event.eventId ∉ locked ∧ event.eligible now = true := by
  simp [selectable]

/-- There is always a batch that the statement can return. -/
theorem exists_selects (table : Table) (locked : List String) (limit : ℤ) (now : Instant) :
    ∃ batch, table.Selects locked limit now batch :=
  FirstRows.exists_of_total earlier_total earlier_trans _ _

/-- A batch has eligible rows that nobody else has locked. -/
theorem Selects.mem (selects : table.Selects locked limit now batch) {event : OutboxEvent}
    (member : event ∈ batch) :
    event ∈ table.rows ∧ event.eventId ∉ locked ∧ event.eligible now = true :=
  mem_selectable.mp (FirstRows.mem_of_mem selects member)

/-- A batch has each event once. -/
theorem Selects.distinct (selects : table.Selects locked limit now batch) :
    (batch.map OutboxEvent.eventId).Nodup :=
  (FirstRows.nodup selects (table.nodup_rows.filter _)).map_on fun _ here _ there same =>
    eq_of_eventId (selects.mem here).1 (selects.mem there).1 same

end Selects

end Table

/-! ## Calls -/

/-- A call of a dispatcher or a producer, with what it finds in the database and
what `uuid4` gives it.

* `locked` — the events that other transactions have locked.
* `batch` — the events that are returned, with the tokens they get.
* `stored` — the caller commits the event also when `apply_failure` has raised. -/
inductive Call where
  | create (now : Instant) (uuid4 : String) (arguments : NewEvent)
  | claimBatch (limit : ℤ) (now : Instant) (leaseDuration : Duration) (locked : List String)
      (batch : List (String × String))
  | markPublished (eventId claimToken : String) (now : Instant)
  | applyFailure (eventId claimToken : String) (now : Instant) (error : String)
      (retryPolicy : RetryPolicy) (stored : Bool)

/-- What a call returns or raises. -/
abbrev Outcome := Except PyError (List OutboxEvent)

namespace Call

/-- What a call does to a stored row. -/
def effect : Call → OutboxEvent → OutboxEvent
  | create _ _ _, event => event
  | claimBatch limit now leaseDuration _ batch, event =>
      if limit < 1 ∨ leaseDuration ≤ 0 then event
      else
        match batch.lookup event.eventId with
        | some uuid4 => event.claim now leaseDuration uuid4
        | none => event
  | markPublished eventId claimToken now, event =>
      if event.eventId = eventId then (event.markPublished claimToken now).2 else event
  | applyFailure eventId claimToken now error retryPolicy stored, event =>
      if event.eventId = eventId then
        match event.applyFailure claimToken now error retryPolicy with
        | (.ok _, row) => row
        | (.error _, row) => if stored then row else event
      else event

end Call

/-- A row keeps its primary key. -/
theorem OutboxEvent.eventId_markPublished (claimToken : String) (now : Instant)
    (event : OutboxEvent) : (event.markPublished claimToken now).2.eventId = event.eventId := by
  rcases event.markPublished_cases claimToken now with ⟨-, same⟩ | ⟨-, -, same⟩ <;> rw [same]

theorem OutboxEvent.eventId_applyFailure (claimToken : String) (now : Instant) (error : String)
    (policy : RetryPolicy) (event : OutboxEvent) :
    (event.applyFailure claimToken now error policy).2.eventId = event.eventId := by
  rcases event.applyFailure_cases claimToken now error policy with
    ⟨-, same⟩ | ⟨-, -, same⟩ | ⟨-, -, _, same⟩ | ⟨-, -, same⟩ <;> rw [same] <;> rfl

@[simp] theorem Call.eventId_effect (call : Call) (event : OutboxEvent) :
    (call.effect event).eventId = event.eventId := by
  cases call with
  | create now uuid4 arguments => rfl
  | claimBatch limit now leaseDuration locked batch =>
      rw [Call.effect]
      split_ifs
      · rfl
      · split <;> rfl
  | markPublished eventId claimToken now =>
      rw [Call.effect]
      split_ifs
      · exact event.eventId_markPublished claimToken now
      · rfl
  | applyFailure eventId claimToken now error retryPolicy stored =>
      rw [Call.effect]
      by_cases named : event.eventId = eventId
      · rw [if_pos named]
        have same := event.eventId_applyFailure claimToken now error retryPolicy
        rcases applied : event.applyFailure claimToken now error retryPolicy with ⟨raised | _, row⟩
        · rw [applied] at same
          cases stored
          · rfl
          · exact same
        · rw [applied] at same
          exact same
      · rw [if_neg named]

namespace Table

/-- The rows after a call that inserts nothing. -/
def affected (call : Call) (table : Table) : Table := table.updated call.effect call.eventId_effect

/-- What a call returns or raises, and the table it leaves. -/
def perform (call : Call) (table : Table) : Outcome × Table :=
  match call with
  | .create now uuid4 arguments =>
      match OutboxEvent.create now uuid4 arguments with
      | .error raised => (.error raised, table)
      | .ok event =>
          if isNew : event.eventId ∉ table.ids then (.ok [event], table.inserted event isNew)
          else (.error (.integrityError "pk_outbox_event"), table)
  | .claimBatch limit now leaseDuration _ batch =>
      if limit < 1 then (.error (.valueError "limit must be at least one"), table)
      else if leaseDuration ≤ 0 then
        (.error (.valueError "lease_duration must be positive"), table)
      else
        (.ok (batch.filterMap fun entry =>
          (table.find? entry.1).map (·.claim now leaseDuration entry.2)), table.affected call)
  | .markPublished eventId claimToken now =>
      match table.find? eventId with
      | none => (.ok [], table)
      | some event => ((event.markPublished claimToken now).1.map fun _ => [], table.affected call)
  | .applyFailure eventId claimToken now error retryPolicy _ =>
      match table.find? eventId with
      | none => (.ok [], table)
      | some event =>
          ((event.applyFailure claimToken now error retryPolicy).1.map fun _ => [],
            table.affected call)

end Table

/-- The call can be made, and the database can answer as the call says. -/
def Call.Possible (table : Table) : Call → Prop
  | create _ _ _ => True
  | claimBatch limit now leaseDuration locked batch =>
      1 ≤ limit → 0 < leaseDuration → ∃ selected, table.Selects locked limit now selected ∧
        batch.map Prod.fst = selected.map OutboxEvent.eventId
  | markPublished eventId _ _ => eventId ∈ table.ids
  | applyFailure eventId _ _ _ _ _ => eventId ∈ table.ids

end BidSystem.Outbox
