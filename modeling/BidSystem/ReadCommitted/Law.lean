import BidSystem.ReadCommitted.Workload

/-!
# Lawful transactions

A `Law` bounds what a transaction may still do: which updates it may run, which
rows it may insert, which results it may return.  A transaction that obeys a
law keeps obeying it, and each of its steps changes the table in one of a few
ways (`Table.Moved`).  Invariants of a system whose transactions do not follow
the guard discipline are proved from these ways, one lemma for each question:
what stays of the rows others hold, where a committed row can come from, and
where any version can come from.
-/

namespace ReadCommitted

universe u v w z

variable {R : Type u} {C : Type v} {E : Type w} {A : Type z}

namespace Slot

variable {tx other : TxId} {slot : Slot R} {row : R}

/-- The version that `tx` has written and not committed. -/
def uncommitted (tx : TxId) (slot : Slot R) : Option R :=
  match slot.holder with
  | some (holder, version) => if holder = tx then version else none
  | none => none

theorem uncommitted_of_owner_ne (notOwner : slot.owner ≠ some tx) :
    slot.uncommitted tx = none := by
  rcases slot with ⟨committed, _ | ⟨holder, version⟩⟩
  · rfl
  · have different : holder ≠ tx := by simpa [owner] using notOwner
    simp [uncommitted, different]

theorem owner_of_uncommitted (written : slot.uncommitted tx = some row) :
    slot.owner = some tx := by
  by_contra notOwner
  rw [uncommitted_of_owner_ne notOwner] at written
  cases written

/-- A transaction sees its own version before the committed one. -/
theorem visible_eq_or : slot.visible tx = (slot.uncommitted tx).or slot.committed := by
  rcases slot with ⟨committed, _ | ⟨holder, _ | version⟩⟩
  · rfl
  · simp [visible, uncommitted]
  · by_cases same : holder = tx
    · simp [visible, uncommitted, same]
    · simp [visible, uncommitted, same]

theorem visible_of_clean (clean : slot.uncommitted tx = none) :
    slot.visible tx = slot.committed := by
  rw [visible_eq_or, clean, Option.none_or]

theorem uncommitted_lock (free : slot.available tx = true) :
    (slot.lock tx).uncommitted tx = slot.uncommitted tx := by
  rcases slot with ⟨committed, _ | ⟨holder, version⟩⟩
  · simp [lock, uncommitted]
  · have same : holder = tx := by simpa [available, owner] using free
    simp [lock, uncommitted, same]

@[simp] theorem uncommitted_write : (slot.write tx row).uncommitted tx = some row := by
  simp [write, uncommitted]

@[simp] theorem uncommitted_inserted : (inserted tx row).uncommitted tx = some row := by
  simp [inserted, uncommitted]

/-- Nobody else can take a row that is held. -/
theorem not_available (owned : slot.owner = some other) (different : tx ≠ other) :
    slot.available tx = false := by
  rw [available, owned]
  simpa using Ne.symm different

end Slot

/-! ## Laws -/

/-- What a transaction may do from now on. -/
structure Law (R : Type u) (A : Type z) where
  updates : (R → Bool) → (R → R) → Prop
  inserts : R → Prop
  returns : A → Prop

/-- The body keeps to the law whatever its statements return. -/
def Prog.Obeys (law : Law R A) : Prog R C E A → Prop
  | .done result => law.returns result
  | .raise _ => True
  | .select _ next => ∀ rows, (next rows).Obeys law
  | .lockRows _ next => ∀ rows, (next rows).Obeys law
  | .update filter assign next =>
      law.updates filter assign ∧ ∀ count, (next count).Obeys law
  | .insert row next => law.inserts row ∧ ∀ violated, (next violated).Obeys law

/-- The rest of the transaction keeps to the law. -/
def Status.Obeys (law : Law R A) : Status R C E A → Prop
  | .running body => body.Obeys law
  | .scanning scan =>
      (∀ assign, scan.assign = some assign → law.updates scan.filter assign) ∧
        ∀ rows, (scan.resume rows).Obeys law
  | .committed result => law.returns result
  | .aborted _ => True

/-- Reading and then something lawful. -/
theorem Prog.ReadOnly.obeys {law : Law R A} {B : Type z} {body : Prog R C E B}
    (readOnly : body.ReadOnly) {next : B → Prog R C E A}
    (rest : ∀ result, (next result).Obeys law) : (body >>= next).Obeys law := by
  induction readOnly with
  | done result => exact rest result
  | raise error => exact trivial
  | select _ ih => exact ih

/-- The law that allows everything. -/
def Law.anything : Law R A where
  updates _ _ := True
  inserts _ := True
  returns _ := True

theorem Prog.obeys_anything (body : Prog R C E A) : body.Obeys Law.anything := by
  induction body with
  | done result => exact trivial
  | raise error => exact trivial
  | select filter next ih => exact ih
  | lockRows filter next ih => exact ih
  | update filter assign next ih => exact ⟨trivial, ih⟩
  | insert row next ih => exact ⟨trivial, ih⟩

theorem Status.obeys_anything (status : Status R C E A) : status.Obeys Law.anything := by
  cases status with
  | running body => exact body.obeys_anything
  | scanning scan => exact ⟨fun _ _ => trivial, fun rows => (scan.resume rows).obeys_anything⟩
  | committed result => exact trivial
  | aborted error => exact trivial

/-! ## Steps of a scan -/

/-- A step of a scan: it goes past a row, touches one, ends or crashes. -/
inductive Scan.Steps (tx : TxId) (table : Table R) (scan : Scan R C E A) :
    Table R → Status R C E A → Prop
  | passed {i : ℕ} {slot : Slot R} (pending : i ∈ scan.todo) (at_i : table[i]? = some slot)
      (rejected : ∀ version, slot.visible tx = some version → scan.filter version = false) :
      Scan.Steps tx table scan table (.scanning { scan with todo := scan.todo.erase i })
  | touched {i : ℕ} {slot : Slot R} {version : R} (pending : i ∈ scan.todo)
      (at_i : table[i]? = some slot) (free : slot.available tx = true)
      (visible : slot.visible tx = some version) (accepted : scan.filter version = true) :
      Scan.Steps tx table scan (table.set i (slot.touch tx scan.assign version))
        (.scanning { scan with todo := scan.todo.erase i, found := scan.found ++ [version] })
  | ended (finished : scan.todo = []) :
      Scan.Steps tx table scan table (.running (scan.resume scan.found))
  | crashed : Scan.Steps tx table scan (table.map (Slot.discard tx)) (.aborted none)

/-- **Every step of a scan is one of these.** -/
theorem Scan.steps {conflict : Prog.Conflict R C} {tx : TxId} {table table' : Table R}
    {scan : Scan R C E A} {status' : Status R C E A} {action : Action}
    (moved : Status.step conflict tx table (.scanning scan) action = some (table', status')) :
    scan.Steps tx table table' status' := by
  cases action with
  | crash =>
      cases moved
      exact .crashed
  | advance =>
      simp only [Status.step] at moved
      split at moved
      · next finished =>
          cases moved
          exact .ended finished
      · cases moved
  | visit position =>
      simp only [Status.step, Option.map_eq_some_iff] at moved
      obtain ⟨⟨table'', scan'⟩, visited, same⟩ := moved
      cases same
      unfold Scan.visit at visited
      split at visited
      · next pending =>
          cases at_i : table[position]? with
          | none =>
              rw [at_i] at visited
              cases visited
          | some slot =>
              rw [at_i] at visited
              dsimp only at visited
              split at visited
              · next free =>
                  cases visible : slot.visible tx with
                  | none =>
                      rw [visible] at visited
                      cases visited
                      refine .passed pending at_i fun version isVisible => ?_
                      rw [visible] at isVisible
                      cases isVisible
                  | some version =>
                      rw [visible] at visited
                      dsimp only at visited
                      split at visited
                      · next accepted =>
                          cases visited
                          exact .touched pending at_i free visible accepted
                      · next rejected =>
                          cases visited
                          refine .passed pending at_i fun version' isVisible => ?_
                          rw [visible] at isVisible
                          cases isVisible
                          simpa using rejected
              · cases visited
      · cases visited

/-! ## Steps of lawful transactions -/

/-- What a step from `status` to `status'` does to the table.  A commit needs a
body that has returned. -/
inductive Table.Moved (law : Law R A) (tx : TxId) (status : Status R C E A) (action : Action)
    (status' : Status R C E A) (table : Table R) : Table R → Prop
  | quiet : Moved law tx status action status' table table
  | locked {i : ℕ} {slot : Slot R} {version : R} (at_i : table[i]? = some slot)
      (free : slot.available tx = true) (visible : slot.visible tx = some version) :
      Moved law tx status action status' table (table.set i (slot.lock tx))
  | wrote {i : ℕ} {slot : Slot R} {version : R} {filter : R → Bool} {assign : R → R}
      (at_i : table[i]? = some slot) (free : slot.available tx = true)
      (visible : slot.visible tx = some version) (accepted : filter version = true)
      (lawful : law.updates filter assign) :
      Moved law tx status action status' table (table.set i (slot.write tx (assign version)))
  | inserted {row : R} (lawful : law.inserts row) :
      Moved law tx status action status' table (table ++ [Slot.inserted tx row])
  | published {result : A} (returned : status = .running (.done result))
      (commits : action = .advance) (ended : status'.isOpen = false)
      (lawful : law.returns result) :
      Moved law tx status action status' table (table.map (Slot.publish tx))
  | discarded (ended : status'.isOpen = false) :
      Moved law tx status action status' table (table.map (Slot.discard tx))

/-- **A lawful transaction stays lawful and moves the table lawfully.** -/
theorem Status.Obeys.step {law : Law R A} {conflict : Prog.Conflict R C} {tx : TxId}
    {table table' : Table R} {status status' : Status R C E A} {action : Action}
    (obeys : status.Obeys law)
    (moved : Status.step conflict tx table status action = some (table', status')) :
    Table.Moved law tx status action status' table table' ∧ status'.Obeys law := by
  cases status with
  | committed result => cases action <;> cases moved
  | aborted error => cases action <;> cases moved
  | running body =>
      cases action with
      | visit position => cases body <;> cases moved
      | crash =>
          have discarded : table' = table.map (Slot.discard tx) ∧ status' = .aborted none := by
            cases body <;> cases moved <;> exact ⟨rfl, rfl⟩
          obtain ⟨rfl, rfl⟩ := discarded
          exact ⟨.discarded rfl, trivial⟩
      | advance =>
          cases body with
          | done result =>
              cases moved
              exact ⟨.published rfl rfl rfl obeys, obeys⟩
          | raise error =>
              cases moved
              exact ⟨.discarded rfl, trivial⟩
          | select filter next =>
              cases moved
              exact ⟨.quiet, obeys _⟩
          | lockRows filter next =>
              cases moved
              exact ⟨.quiet, nofun, obeys⟩
          | update filter assign next =>
              cases moved
              refine ⟨.quiet, fun assign' same => ?_, fun rows => obeys.2 rows.length⟩
              cases same
              exact obeys.1
          | insert row next =>
              simp only [Status.step] at moved
              split at moved
              · cases moved
              · split at moved
                · cases moved
                  exact ⟨.quiet, obeys.2 _⟩
                · cases moved
                  exact ⟨.inserted obeys.1, obeys.2 _⟩
  | scanning scan =>
      cases Scan.steps moved with
      | passed pending at_i rejected => exact ⟨.quiet, obeys⟩
      | @touched i slot version pending at_i free visible accepted =>
          refine ⟨?_, obeys⟩
          unfold Slot.touch
          cases assigns : scan.assign with
          | none => exact .locked at_i free visible
          | some assign => exact .wrote at_i free visible accepted (obeys.1 assign assigns)
      | ended finished => exact ⟨.quiet, obeys.2 _⟩
      | crashed => exact ⟨.discarded rfl, trivial⟩

/-! ## What a step leaves in place -/

/-- A row of an extended table is an old row or the new one. -/
theorem Table.getElem?_append_cases {table : Table R} {slot last : Slot R} {i : ℕ}
    (at_i : (table ++ [last])[i]? = some slot) : table[i]? = some slot ∨ slot = last := by
  rcases Nat.lt_trichotomy i table.length with before | here | after
  · rw [List.getElem?_append_left before] at at_i
    exact .inl at_i
  · rw [here, List.getElem?_concat_length] at at_i
    exact .inr (Option.some.inj at_i).symm
  · have outside : (table ++ [last]).length ≤ i := by
      rw [List.length_append, List.length_singleton]
      exact after
    rw [List.getElem?_eq_none outside] at at_i
    cases at_i

namespace Table.Moved

variable {law : Law R A} {tx other : TxId} {status status' : Status R C E A} {action : Action}
  {table table' : Table R}

/-- Rows that others hold stay as they are. -/
theorem keeps_owned (moved : Moved law tx status action status' table table') (different : tx ≠ other)
    {i : ℕ} {slot : Slot R} (at_i : table[i]? = some slot) (owned : slot.owner = some other) :
    table'[i]? = some slot := by
  have notTx : slot.owner ≠ some tx := by
    rw [owned]
    exact fun same => different (Option.some.inj same).symm
  cases moved with
  | quiet => exact at_i
  | @locked j found version at_j free visible =>
      rw [List.getElem?_set_ne, at_i]
      rintro rfl
      rw [at_i] at at_j
      cases at_j
      rw [Slot.not_available owned different] at free
      cases free
  | @wrote j found version filter assign at_j free visible accepted lawful =>
      rw [List.getElem?_set_ne, at_i]
      rintro rfl
      rw [at_i] at at_j
      cases at_j
      rw [Slot.not_available owned different] at free
      cases free
  | inserted lawful => rw [List.getElem?_append_left (List.getElem?_eq_some_iff.mp at_i).1, at_i]
  | published returned commits ended lawful =>
      rw [List.getElem?_map, at_i, Option.map_some, Slot.publish_of_owner_ne notTx]
  | discarded ended => rw [List.getElem?_map, at_i, Option.map_some, Slot.discard_of_owner_ne notTx]

/-- Nobody but the moving transaction gets hold of a row. -/
theorem owned_before (moved : Moved law tx status action status' table table') (different : tx ≠ other)
    {i : ℕ} {slot : Slot R} (at_i : table'[i]? = some slot) (owned : slot.owner = some other) :
    table[i]? = some slot := by
  have notTx : slot.owner ≠ some tx := by
    rw [owned]
    exact fun same => different (Option.some.inj same).symm
  cases moved with
  | quiet => exact at_i
  | @locked j found version at_j free visible =>
      by_cases here : j = i
      · subst here
        rw [List.getElem?_set_self (List.getElem?_eq_some_iff.mp at_j).1] at at_i
        cases at_i
        exact absurd Slot.owner_lock notTx
      · rwa [List.getElem?_set_ne here] at at_i
  | @wrote j found version filter assign at_j free visible accepted lawful =>
      by_cases here : j = i
      · subst here
        rw [List.getElem?_set_self (List.getElem?_eq_some_iff.mp at_j).1] at at_i
        cases at_i
        exact absurd Slot.owner_write notTx
      · rwa [List.getElem?_set_ne here] at at_i
  | @inserted row lawful =>
      rcases Table.getElem?_append_cases at_i with before | isLast
      · exact before
      · rw [isLast] at notTx
        exact absurd Slot.owner_inserted notTx
  | published returned commits ended lawful =>
      rw [List.getElem?_map] at at_i
      obtain ⟨found, at_found, rfl⟩ := Option.map_eq_some_iff.mp at_i
      have foundOwner : found.owner ≠ some tx := by
        intro isOwner
        rw [Slot.owner_publish, if_pos isOwner] at owned
        cases owned
      rw [Slot.publish_of_owner_ne foundOwner]
      exact at_found
  | discarded ended =>
      rw [List.getElem?_map] at at_i
      obtain ⟨found, at_found, rfl⟩ := Option.map_eq_some_iff.mp at_i
      have foundOwner : found.owner ≠ some tx := by
        intro isOwner
        rw [Slot.owner_discard, if_pos isOwner] at owned
        cases owned
      rw [Slot.discard_of_owner_ne foundOwner]
      exact at_found

/-- A transaction that stays open keeps the rows it holds. -/
theorem keeps_held (moved : Moved law tx status action status' table table')
    (isOpen : status'.isOpen = true) {i : ℕ} {slot : Slot R} (at_i : table[i]? = some slot)
    (owned : slot.owner = some tx) :
    ∃ slot', table'[i]? = some slot' ∧ slot'.owner = some tx ∧
      slot'.committed = slot.committed := by
  cases moved with
  | quiet => exact ⟨slot, at_i, owned, rfl⟩
  | @locked j found version at_j free visible =>
      by_cases here : j = i
      · subst here
        rw [at_i] at at_j
        cases at_j
        exact ⟨_, List.getElem?_set_self (List.getElem?_eq_some_iff.mp at_i).1, rfl, rfl⟩
      · exact ⟨slot, by rw [List.getElem?_set_ne here, at_i], owned, rfl⟩
  | @wrote j found version filter assign at_j free visible accepted lawful =>
      by_cases here : j = i
      · subst here
        rw [at_i] at at_j
        cases at_j
        exact ⟨_, List.getElem?_set_self (List.getElem?_eq_some_iff.mp at_i).1, rfl, rfl⟩
      · exact ⟨slot, by rw [List.getElem?_set_ne here, at_i], owned, rfl⟩
  | inserted lawful =>
      refine ⟨slot, ?_, owned, rfl⟩
      rw [List.getElem?_append_left (List.getElem?_eq_some_iff.mp at_i).1, at_i]
  | published returned commits ended lawful =>
      rw [isOpen] at ended
      cases ended
  | discarded ended =>
      rw [isOpen] at ended
      cases ended

/-- Only a commit changes a committed row. -/
theorem keeps_committed (moved : Moved law tx status action status' table table')
    (unfinished : ∀ result, status = .running (.done result) → action ≠ .advance) {i : ℕ}
    {slot : Slot R} (at_i : table[i]? = some slot) :
    ∃ slot', table'[i]? = some slot' ∧ slot'.committed = slot.committed := by
  cases moved with
  | quiet => exact ⟨slot, at_i, rfl⟩
  | @locked j found version at_j free visible =>
      by_cases here : j = i
      · subst here
        rw [at_i] at at_j
        cases at_j
        exact ⟨_, List.getElem?_set_self (List.getElem?_eq_some_iff.mp at_i).1, rfl⟩
      · exact ⟨slot, by rw [List.getElem?_set_ne here, at_i], rfl⟩
  | @wrote j found version filter assign at_j free visible accepted lawful =>
      by_cases here : j = i
      · subst here
        rw [at_i] at at_j
        cases at_j
        exact ⟨_, List.getElem?_set_self (List.getElem?_eq_some_iff.mp at_i).1, rfl⟩
      · exact ⟨slot, by rw [List.getElem?_set_ne here, at_i], rfl⟩
  | inserted lawful =>
      refine ⟨slot, ?_, rfl⟩
      rw [List.getElem?_append_left (List.getElem?_eq_some_iff.mp at_i).1, at_i]
  | published returned commits ended lawful => exact absurd commits (unfinished _ returned)
  | discarded ended =>
      exact ⟨slot.discard tx, by rw [List.getElem?_map, at_i]; rfl, Slot.committed_discard⟩

/-- What another transaction has written and not committed, it had written before. -/
theorem uncommitted_before (moved : Moved law tx status action status' table table')
    (different : tx ≠ other) {i : ℕ} {slot : Slot R} {row : R} (at_i : table'[i]? = some slot)
    (written : slot.uncommitted other = some row) : table[i]? = some slot :=
  moved.owned_before different at_i (Slot.owner_of_uncommitted written)

/-- A committed row was committed before, or the step has just committed it. -/
theorem committed_before (moved : Moved law tx status action status' table table') {i : ℕ}
    {slot' : Slot R} {row : R} (at_i : table'[i]? = some slot')
    (committed : slot'.committed = some row) :
    ∃ slot, table[i]? = some slot ∧
      (slot.committed = some row ∨
        slot.uncommitted tx = some row ∧ ∃ result, status = .running (.done result) ∧
          action = .advance ∧ law.returns result) := by
  cases moved with
  | quiet => exact ⟨slot', at_i, .inl committed⟩
  | @locked j found version at_j free visible =>
      by_cases here : j = i
      · subst here
        rw [List.getElem?_set_self (List.getElem?_eq_some_iff.mp at_j).1] at at_i
        cases at_i
        exact ⟨found, at_j, .inl committed⟩
      · rw [List.getElem?_set_ne here] at at_i
        exact ⟨slot', at_i, .inl committed⟩
  | @wrote j found version filter assign at_j free visible accepted lawful =>
      by_cases here : j = i
      · subst here
        rw [List.getElem?_set_self (List.getElem?_eq_some_iff.mp at_j).1] at at_i
        cases at_i
        exact ⟨found, at_j, .inl committed⟩
      · rw [List.getElem?_set_ne here] at at_i
        exact ⟨slot', at_i, .inl committed⟩
  | @inserted row' lawful =>
      rcases Table.getElem?_append_cases at_i with before | isLast
      · exact ⟨slot', before, .inl committed⟩
      · rw [isLast] at committed
        cases committed
  | @published result returned commits ended lawful =>
      rw [List.getElem?_map] at at_i
      obtain ⟨slot, at_slot, rfl⟩ := Option.map_eq_some_iff.mp at_i
      rw [Slot.committed_publish, Slot.visible_eq_or] at committed
      refine ⟨slot, at_slot, ?_⟩
      cases written : slot.uncommitted tx with
      | none =>
          rw [written, Option.none_or] at committed
          exact .inl committed
      | some version =>
          rw [written, Option.some_or] at committed
          cases committed
          exact .inr ⟨rfl, result, returned, commits, lawful⟩
  | discarded ended =>
      rw [List.getElem?_map] at at_i
      obtain ⟨slot, at_slot, rfl⟩ := Option.map_eq_some_iff.mp at_i
      rw [Slot.committed_discard] at committed
      exact ⟨slot, at_slot, .inl committed⟩

/-- Where the moving transaction's own versions come from. -/
theorem uncommitted_cases (moved : Moved law tx status action status' table table') {i : ℕ}
    {slot' : Slot R} {row : R} (at_i : table'[i]? = some slot')
    (written : slot'.uncommitted tx = some row) :
    (∃ slot, table[i]? = some slot ∧ slot.committed = slot'.committed ∧
        slot.uncommitted tx = some row) ∨
      (∃ slot version filter assign, table[i]? = some slot ∧ slot.committed = slot'.committed ∧
        slot.visible tx = some version ∧ filter version = true ∧ law.updates filter assign ∧
          row = assign version) ∨
      slot'.committed = none ∧ law.inserts row := by
  cases moved with
  | quiet => exact .inl ⟨slot', at_i, rfl, written⟩
  | @locked j found version at_j free visible =>
      by_cases here : j = i
      · subst here
        rw [List.getElem?_set_self (List.getElem?_eq_some_iff.mp at_j).1] at at_i
        cases at_i
        rw [Slot.uncommitted_lock free] at written
        exact .inl ⟨found, at_j, rfl, written⟩
      · rw [List.getElem?_set_ne here] at at_i
        exact .inl ⟨slot', at_i, rfl, written⟩
  | @wrote j found version filter assign at_j free visible accepted lawful =>
      by_cases here : j = i
      · subst here
        rw [List.getElem?_set_self (List.getElem?_eq_some_iff.mp at_j).1] at at_i
        cases at_i
        rw [Slot.uncommitted_write] at written
        cases written
        exact .inr (.inl ⟨found, version, filter, assign, at_j, rfl, visible, accepted, lawful, rfl⟩)
      · rw [List.getElem?_set_ne here] at at_i
        exact .inl ⟨slot', at_i, rfl, written⟩
  | @inserted row' lawful =>
      rcases Table.getElem?_append_cases at_i with before | isLast
      · exact .inl ⟨slot', before, rfl, written⟩
      · rw [isLast, Slot.uncommitted_inserted] at written
        cases written
        rw [isLast]
        exact .inr (.inr ⟨rfl, lawful⟩)
  | published returned commits ended lawful =>
      rw [List.getElem?_map] at at_i
      obtain ⟨slot, at_slot, rfl⟩ := Option.map_eq_some_iff.mp at_i
      have released : (slot.publish tx).owner ≠ some tx := by
        rw [Slot.owner_publish]
        split
        · exact nofun
        · assumption
      rw [Slot.uncommitted_of_owner_ne released] at written
      cases written
  | discarded ended =>
      rw [List.getElem?_map] at at_i
      obtain ⟨slot, at_slot, rfl⟩ := Option.map_eq_some_iff.mp at_i
      have released : (slot.discard tx).owner ≠ some tx := by
        rw [Slot.owner_discard]
        split
        · exact nofun
        · assumption
      rw [Slot.uncommitted_of_owner_ne released] at written
      cases written

end Table.Moved

end ReadCommitted
