import BidSystem.ReadCommitted.Workload

/-!
# The guard discipline makes a partition serial

The invariant has one clause for each transaction.  A transaction that has not
reached its guard row holds nothing.  A transaction that has reached it — it is
*inside* — is alone in its partition, and running the rest of its body on what
it sees gives the same outcome as running its whole body on the committed rows
of the partition (`Working`).  Everybody else's steps leave both sides of that
equation alone.

This module states the invariant and shows that the views of a partition are
local to its slots.  `ReadCommitted.Serial` proves that every step keeps it.
-/

namespace ReadCommitted

universe u v w z k

variable {R : Type u} {C : Type v} {E : Type w} {A : Type z} {K : Type k} [DecidableEq K]

namespace Workload

variable (w : Workload R C E A K)

/-- The committed rows of a partition. -/
def committedIn (key : K) (table : Table R) : List R :=
  (Table.committedRows table).filter fun row => decide (w.part row = key)

/-- What transaction `tx` sees of its own partition. -/
def viewIn (tx : TxId) (table : Table R) : List R :=
  (Table.visibleRows tx table).filter fun row => decide (w.part row = w.key tx)

/-- Transaction `tx` holds the guard row of its partition. -/
def Inside (table : Table R) (tx : TxId) : Prop :=
  ∃ (i : ℕ) (slot : Slot R) (row : R), table[i]? = some slot ∧ slot.owner = some tx ∧
    row ∈ slot.versions ∧ w.guard row = true ∧ w.part row = w.key tx

/-- No version of any row belongs to the partition of `tx`. -/
def Vacant (table : Table R) (tx : TxId) : Prop :=
  ∀ (i : ℕ) (slot : Slot R) (row : R), table[i]? = some slot → row ∈ slot.versions →
    w.part row ≠ w.key tx

/-- A row goes back to an initial row or to an inserted one with the same
unique columns and the same partition. -/
def Origin (row : R) : Prop :=
  ∃ old, (old ∈ w.rows ∨ ∃ other, w.writes other old) ∧ w.conflict row = w.conflict old ∧
    w.part row = w.part old

/-- The clauses of the invariant that speak of the table only. -/
structure TableInv (table : Table R) : Prop where
  origin : ∀ (i : ℕ) (slot : Slot R) (row : R), table[i]? = some slot →
    row ∈ slot.versions → w.Origin row
  /-- Updates move no row to another partition. -/
  coherent : ∀ (i : ℕ) (slot : Slot R) (a b : R), table[i]? = some slot →
    a ∈ slot.versions → b ∈ slot.versions → w.part a = w.part b ∧ w.guard a = w.guard b
  oneGuard : ∀ (i j : ℕ) (slot slot' : Slot R) (a b : R), table[i]? = some slot →
    table[j]? = some slot' → a ∈ slot.versions → b ∈ slot'.versions →
      w.guard a = true → w.guard b = true → w.part a = w.part b → i = j
  /-- Only the transaction inside a partition holds rows of it. -/
  held : ∀ (i : ℕ) (slot : Slot R) (tx : TxId), table[i]? = some slot →
    slot.owner = some tx → w.Inside table tx ∧ ∀ row ∈ slot.versions, w.part row = w.key tx
  /-- The initial guard rows stay. -/
  present : ∀ old ∈ w.rows, w.guard old = true →
    ∃ (i : ℕ) (slot : Slot R) (row : R), table[i]? = some slot ∧
      slot.committed = some row ∧ w.guard row = true ∧ w.part row = w.part old

/-- The partition of `tx` has no initial guard row. -/
def Unguarded (tx : TxId) : Prop :=
  ∀ old ∈ w.rows, w.guard old = true → w.part old ≠ w.key tx

/-- The outcome of the whole body on the committed rows of the partition. -/
def serial (tx : TxId) (table : Table R) : Except E A × List R :=
  (w.bodies tx).exec w.conflict (w.committedIn (w.key tx) table)

/-- The rest of the body, run on what the transaction sees, has the outcome of
the whole body. -/
inductive Working (s : Sys R C E A) (tx : TxId) : Prop
  | running {rest : Prog R C E A} (status : s.status tx = .running rest)
      (confined : rest.Confined (w.territory tx))
      (agrees : rest.exec w.conflict (w.viewIn tx s.table) = w.serial tx s.table)
  | locked {found : List R} {filter : R → Bool} {next : List R → Prog R C E A}
      (status : s.status tx = .scanning
        { todo := [], found := found, filter := filter, assign := none, resume := next })
      (confined : (next found).Confined (w.territory tx))
      (agrees : (next found).exec w.conflict (w.viewIn tx s.table) = w.serial tx s.table)
  | updating {todo : List ℕ} {found : List R} {filter : R → Bool} {assign : R → R}
      {next : ℕ → Prog R C E A}
      (status : s.status tx = .scanning
        { todo := todo, found := found, filter := filter, assign := some assign
          resume := fun rows => next rows.length })
      (confined : (Prog.update filter assign next).Confined (w.territory tx))
      (distinct : todo.Nodup)
      (pending : ∀ i ∈ todo, ∃ slot row, s.table[i]? = some slot ∧
        slot.visible tx = some row ∧ filter row = true)
      (agrees : (next (found.length + todo.length)).exec w.conflict
          (w.viewIn tx (Table.assignAt tx assign todo s.table)) = w.serial tx s.table)

/-- Where a transaction stands. -/
inductive Phase (s : Sys R C E A) (tx : TxId) : Prop
  | fresh (status : s.status tx = .running (w.bodies tx)) (outside : ¬ w.Inside s.table tx)
      (vacant : ∀ row next, w.bodies tx = .insert row next → w.Vacant s.table tx)
  | waiting {filter : R → Bool} {next : List R → Prog R C E A} {todo : List ℕ}
      (locks : w.Locks tx filter next)
      (status : s.status tx = .scanning
        { todo := todo, found := [], filter := filter, assign := none, resume := next })
      (outside : ¬ w.Inside s.table tx)
      (target : todo = [] ∧ w.Unguarded tx ∨
        ∃ (i : ℕ) (slot : Slot R) (row : R), todo = [i] ∧ s.table[i]? = some slot ∧
          slot.committed = some row ∧ w.guard row = true ∧ w.part row = w.key tx)
  | away {filter : R → Bool} {next : List R → Prog R C E A} (locks : w.Locks tx filter next)
      (status : s.status tx = .running (next [])) (outside : ¬ w.Inside s.table tx)
      (unguarded : w.Unguarded tx)
  | inside (inside : w.Inside s.table tx) (entered : ¬ (w.bodies tx).Terminal)
      (working : w.Working s tx)
  | ended (closed : (s.status tx).isOpen = false) (outside : ¬ w.Inside s.table tx)

/-- The invariant of the guard discipline. -/
structure Inv (s : Sys R C E A) : Prop where
  table : w.TableInv s.table
  phase : ∀ tx, w.Phase s tx

/-! ## Partition views are local -/

section Views

variable {w} {tx other : TxId} {key : K} {table table' : Table R}

/-- A row listed by partition and by slot is insensitive to slots of other partitions. -/
theorem filter_filterMap_congr {view : Slot R → Option R}
    (viewed : ∀ slot row, view slot = some row → row ∈ slot.versions)
    (slotwise : ∀ i : ℕ, table'[i]? = table[i]? ∨
      (∀ slot, table[i]? = some slot → ∀ row ∈ slot.versions, w.part row ≠ key) ∧
        ∀ slot, table'[i]? = some slot → ∀ row ∈ slot.versions, w.part row ≠ key) :
    (table'.filterMap view).filter (fun row => decide (w.part row = key)) =
      (table.filterMap view).filter fun row => decide (w.part row = key) := by
  have foreign : ∀ slot : Slot R, (∀ row ∈ slot.versions, w.part row ≠ key) →
      (view slot).filter (fun row => decide (w.part row = key)) = none := by
    intro slot absent
    rw [Option.filter_eq_none_iff]
    intro row seen
    simpa using absent row (viewed slot row seen)
  rw [List.filter_filterMap, List.filter_filterMap]
  apply Table.filterMap_congr_getElem?
  intro i
  rcases slotwise i with same | ⟨before, after⟩
  · rw [same]
  · have left : table'[i]?.bind
        (fun slot => (view slot).filter fun row => decide (w.part row = key)) = none := by
      rw [Option.bind_eq_none_iff]
      intro slot at_i
      exact foreign slot (after slot at_i)
    have right : table[i]?.bind
        (fun slot => (view slot).filter fun row => decide (w.part row = key)) = none := by
      rw [Option.bind_eq_none_iff]
      intro slot at_i
      exact foreign slot (before slot at_i)
    rw [left, right]

theorem committedIn_congr
    (slotwise : ∀ i : ℕ, table'[i]? = table[i]? ∨
      (∀ slot, table[i]? = some slot → ∀ row ∈ slot.versions, w.part row ≠ key) ∧
        ∀ slot, table'[i]? = some slot → ∀ row ∈ slot.versions, w.part row ≠ key) :
    w.committedIn key table' = w.committedIn key table :=
  filter_filterMap_congr (fun _ _ => Slot.mem_versions_of_committed) slotwise

theorem viewIn_congr
    (slotwise : ∀ i : ℕ, table'[i]? = table[i]? ∨
      (∀ slot, table[i]? = some slot → ∀ row ∈ slot.versions, w.part row ≠ w.key tx) ∧
        ∀ slot, table'[i]? = some slot → ∀ row ∈ slot.versions, w.part row ≠ w.key tx) :
    w.viewIn tx table' = w.viewIn tx table :=
  filter_filterMap_congr (fun _ _ => Slot.mem_versions_of_visible) slotwise

/-- A transaction that holds nothing sees the committed rows. -/
theorem viewIn_of_holds_nothing
    (nothing : ∀ (i : ℕ) slot, table[i]? = some slot → slot.owner ≠ some tx) :
    w.viewIn tx table = w.committedIn (w.key tx) table := by
  have rows : Table.visibleRows tx table = Table.committedRows table := by
    apply Table.filterMap_congr_getElem?
    intro i
    cases at_i : table[i]? with
    | none => rfl
    | some slot => exact Slot.visible_of_owner_ne (nothing i slot at_i)
  rw [viewIn, committedIn, rows]

/-- A statement confined to the partition selects from the view. -/
theorem filter_visibleRows {filter : R → Bool}
    (confined : ∀ row, filter row = true → w.part row = w.key tx) :
    (Table.visibleRows tx table).filter filter = (w.viewIn tx table).filter filter := by
  rw [viewIn, List.filter_filter]
  apply List.filter_congr
  intro row _
  by_cases accepted : filter row = true
  · simp [accepted, confined row accepted]
  · simp [accepted]

theorem viewIn_assignAt_candidates {filter : R → Bool} {assign : R → R}
    (confined : ∀ row, filter row = true → w.part (assign row) = w.part row) :
    w.viewIn tx (Table.assignAt tx assign (Table.candidates tx filter table) table) =
      Prog.assignWhere filter assign (w.viewIn tx table) := by
  rw [viewIn, Table.visibleRows_assignAt_candidates, viewIn, Prog.assignWhere, Prog.assignWhere,
    List.filter_map]
  congr 1
  apply List.filter_congr
  intro row _
  by_cases accepted : filter row = true
  · simp [accepted, confined row accepted]
  · simp [accepted]

/-- An insert into a partition conflicts with rows of the partition only. -/
theorem violated_visibleRows {row : R}
    (local' : ∀ old ∈ Table.visibleRows tx table, (w.conflict old row).isSome = true →
      w.part old = w.key tx) :
    Prog.violated w.conflict (Table.visibleRows tx table) row =
      Prog.violated w.conflict (w.viewIn tx table) row := by
  unfold Prog.violated viewIn
  generalize Table.visibleRows tx table = rows at local'
  induction rows with
  | nil => rfl
  | cons old rows ih =>
      have tail := ih fun older member => local' older (List.mem_cons_of_mem _ member)
      by_cases here : w.part old = w.key tx
      · rw [List.filter_cons_of_pos (by simpa using here), List.findSome?_cons,
          List.findSome?_cons, tail]
      · have silent : w.conflict old row = none := by
          by_contra loud
          exact here (local' old (List.mem_cons_self ..) (Option.isSome_iff_ne_none.mpr loud))
        rw [List.filter_cons_of_neg (by simpa using here), List.findSome?_cons, silent, tail]

/-- The number of positions a locking statement starts with. -/
theorem length_candidates {filter : R → Bool} :
    (Table.candidates tx filter table).length = (Table.visibleRows tx table).countP filter := by
  induction table using List.reverseRecOn with
  | nil => rfl
  | append_singleton table slot ih =>
      have front : (List.range table.length).filter (fun position =>
            ((table ++ [slot])[position]?.bind (Slot.visible tx)).any filter) =
          Table.candidates tx filter table := by
        apply List.filter_congr
        intro position member
        rw [List.getElem?_append_left (List.mem_range.mp member)]
      unfold Table.candidates
      rw [List.length_append, List.length_singleton, List.range_succ, List.filter_append, front,
        List.length_append, ih, Table.visibleRows_append, List.countP_append]
      congr 1
      unfold Table.visibleRows
      cases visible : slot.visible tx with
      | none => simp [visible]
      | some row =>
          by_cases accepted : filter row = true
          · simp [visible, accepted]
          · simp [visible, accepted]

theorem countP_visibleRows {filter : R → Bool}
    (confined : ∀ row, filter row = true → w.part row = w.key tx) :
    (Table.visibleRows tx table).countP filter = (w.viewIn tx table).countP filter := by
  rw [List.countP_eq_length_filter, List.countP_eq_length_filter, filter_visibleRows confined]

end Views

end Workload

end ReadCommitted
