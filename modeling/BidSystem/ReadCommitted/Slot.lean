import Mathlib.Data.List.Basic
import Mathlib.Data.List.Nodup
import Mathlib.Data.List.Permutation

/-!
# Row versions under row locks

A multi-version table keeps, for every physical row, the latest committed
version and at most one uncommitted version.  The uncommitted version belongs
to the transaction that holds the row lock, and nobody else can see it.

* `Slot` — one physical row: its committed version and its lock holder,
  together with the holder's own version if it has written one.
* `Slot.visible` — the version one transaction sees.
* `Slot.publish` / `Slot.discard` — what the end of a transaction does to the
  rows it holds.

A lock and an uncommitted version sit in one `Option`, so a dirty row without a
holder, or a row with two holders, cannot be written down.  Physical rows are
named by their position in the table: rows are only ever appended, and a
rolled-back insert leaves a dead slot behind.
-/

namespace ReadCommitted

universe u v

/-- The name of a transaction. -/
abbrev TxId := ℕ

/-- One physical row.  `committed = none` is a row that no committed
transaction has written: an insert still open, or one that was rolled back. -/
structure Slot (R : Type u) where
  /-- The latest committed version. -/
  committed : Option R
  /-- The lock holder, with the version it has written so far. -/
  holder : Option (TxId × Option R)
deriving DecidableEq, Repr

/-- A table is the list of its physical rows, oldest insert first. -/
abbrev Table (R : Type u) := List (Slot R)

namespace Slot

variable {R : Type u} {tx other : TxId} {slot : Slot R} {row : R}

/-- The transaction holding the row lock. -/
def owner (slot : Slot R) : Option TxId := slot.holder.map Prod.fst

/-- A row lock can be taken if nobody else holds it. -/
def available (tx : TxId) (slot : Slot R) : Bool :=
  slot.owner.all (· == tx)

/-- The version transaction `tx` reads: its own uncommitted one if there is
one, the latest committed one otherwise. -/
def visible (tx : TxId) (slot : Slot R) : Option R :=
  match slot.holder with
  | some (holder, some version) =>
      if holder = tx then some version else slot.committed
  | _ => slot.committed

/-- Take the row lock, keeping a version already written under it. -/
def lock (tx : TxId) (slot : Slot R) : Slot R :=
  { slot with holder := some (tx, slot.holder.bind Prod.snd) }

/-- Write a new uncommitted version under the row lock. -/
def write (tx : TxId) (version : R) (slot : Slot R) : Slot R :=
  { slot with holder := some (tx, some version) }

/-- The slot of a row that `tx` has just inserted. -/
def inserted (tx : TxId) (row : R) : Slot R :=
  { committed := none, holder := some (tx, some row) }

/-- The slot of a committed row that nobody holds. -/
def settled (row : R) : Slot R :=
  { committed := some row, holder := none }

/-- Commit: the holder's version becomes the committed one. -/
def publish (tx : TxId) (slot : Slot R) : Slot R :=
  if slot.owner = some tx then { committed := slot.visible tx, holder := none }
  else slot

/-- Rollback: the holder's version disappears. -/
def discard (tx : TxId) (slot : Slot R) : Slot R :=
  if slot.owner = some tx then { committed := slot.committed, holder := none }
  else slot

/-! ## What each operation leaves visible -/

@[simp] theorem owner_settled : (settled row).owner = none := rfl

@[simp] theorem committed_settled : (settled row).committed = some row := rfl

@[simp] theorem visible_settled : (settled row).visible tx = some row := rfl

@[simp] theorem owner_inserted : (inserted tx row).owner = some tx := rfl

@[simp] theorem committed_inserted : (inserted tx row).committed = none := rfl

@[simp] theorem visible_inserted_self : (inserted tx row).visible tx = some row := by
  simp [inserted, visible]

@[simp] theorem owner_lock : (slot.lock tx).owner = some tx := rfl

@[simp] theorem committed_lock : (slot.lock tx).committed = slot.committed := rfl

@[simp] theorem owner_write : (slot.write tx row).owner = some tx := rfl

@[simp] theorem committed_write : (slot.write tx row).committed = slot.committed := rfl

@[simp] theorem visible_write_self : (slot.write tx row).visible tx = some row := by
  simp [write, visible]

theorem available_iff : slot.available tx = true ↔ slot.owner = none ∨ slot.owner = some tx := by
  unfold available
  cases slot.owner <;> simp

/-- A transaction that does not hold the lock reads the committed version. -/
theorem visible_of_owner_ne (notOwner : slot.owner ≠ some tx) :
    slot.visible tx = slot.committed := by
  rcases slot with ⟨committed, holder⟩
  rcases holder with _ | ⟨holder, _ | version⟩
  · rfl
  · rfl
  · have different : holder ≠ tx := by simpa [owner] using notOwner
    simp [visible, different]

/-- Locking an available row changes no version anybody reads. -/
theorem visible_lock_self (free : slot.available tx = true) :
    (slot.lock tx).visible tx = slot.visible tx := by
  rcases slot with ⟨committed, holder⟩
  rcases holder with _ | ⟨holder, _ | version⟩
  · rfl
  · rfl
  · have same : holder = tx := by simpa [available, owner] using free
    simp [lock, visible, same]

@[simp] theorem publish_of_owner_ne (notOwner : slot.owner ≠ some tx) :
    slot.publish tx = slot := by
  simp [publish, notOwner]

@[simp] theorem discard_of_owner_ne (notOwner : slot.owner ≠ some tx) :
    slot.discard tx = slot := by
  simp [discard, notOwner]

theorem publish_of_owner (isOwner : slot.owner = some tx) :
    slot.publish tx = { committed := slot.visible tx, holder := none } := by
  simp [publish, isOwner]

theorem discard_of_owner (isOwner : slot.owner = some tx) :
    slot.discard tx = { committed := slot.committed, holder := none } := by
  simp [discard, isOwner]

/-- After the commit everybody reads what the committing transaction read. -/
theorem committed_publish : (slot.publish tx).committed = slot.visible tx := by
  by_cases isOwner : slot.owner = some tx
  · rw [publish_of_owner isOwner]
  · rw [publish_of_owner_ne isOwner, visible_of_owner_ne isOwner]

theorem committed_discard : (slot.discard tx).committed = slot.committed := by
  by_cases isOwner : slot.owner = some tx
  · rw [discard_of_owner isOwner]
  · rw [discard_of_owner_ne isOwner]

/-- The end of a transaction releases its own locks and no others. -/
theorem owner_publish :
    (slot.publish tx).owner = if slot.owner = some tx then none else slot.owner := by
  by_cases isOwner : slot.owner = some tx
  · rw [publish_of_owner isOwner, if_pos isOwner]
    rfl
  · rw [publish_of_owner_ne isOwner, if_neg isOwner]

theorem owner_discard :
    (slot.discard tx).owner = if slot.owner = some tx then none else slot.owner := by
  by_cases isOwner : slot.owner = some tx
  · rw [discard_of_owner isOwner, if_pos isOwner]
    rfl
  · rw [discard_of_owner_ne isOwner, if_neg isOwner]

end Slot

/-! ## Rows of a whole table -/

/-- A list with one position in view. -/
theorem filterMap_eq_singleton {α : Type u} {β : Type v} {view : α → Option β} {b : β} :
    ∀ {l : List α} {i : ℕ} {a : α}, l[i]? = some a → view a = some b →
      (∀ j a', l[j]? = some a' → j ≠ i → view a' = none) → l.filterMap view = [b] := by
  intro l
  induction l with
  | nil =>
      intro i a at_i
      cases at_i
  | cons head tail ih =>
      intro i a at_i seen sole
      cases i with
      | zero =>
          rw [List.getElem?_cons_zero] at at_i
          cases at_i
          have rest : tail.filterMap view = [] := by
            rw [List.filterMap_eq_nil_iff]
            intro a' member
            obtain ⟨j, at_j⟩ := List.mem_iff_getElem?.mp member
            exact sole (j + 1) a' (by simpa using at_j) (Nat.succ_ne_zero j)
          rw [List.filterMap_cons_some seen, rest]
      | succ i =>
          have unseen : view head = none := sole 0 head rfl (Nat.succ_ne_zero i).symm
          rw [List.filterMap_cons_none unseen]
          refine ih (by simpa using at_i) seen fun j a' at_j different => ?_
          exact sole (j + 1) a' (by simpa using at_j) (by omega)

namespace Table

variable {R : Type u}

/-- The rows of the committed state. -/
def committedRows (table : Table R) : List R :=
  table.filterMap Slot.committed

/-- The rows transaction `tx` reads. -/
def visibleRows (tx : TxId) (table : Table R) : List R :=
  table.filterMap (Slot.visible tx)

/-- A table of committed rows that nobody holds. -/
def settled (rows : List R) : Table R := rows.map Slot.settled

@[simp] theorem committedRows_settled (rows : List R) :
    (settled rows).committedRows = rows := by
  simp [committedRows, settled, List.filterMap_map, Function.comp_def]

@[simp] theorem committedRows_append (front back : Table R) :
    Table.committedRows (front ++ back) = front.committedRows ++ back.committedRows := by
  simp [committedRows]

@[simp] theorem visibleRows_append (tx : TxId) (front back : Table R) :
    Table.visibleRows tx (front ++ back) = front.visibleRows tx ++ back.visibleRows tx := by
  simp [visibleRows]

/-- A commit turns the view of the committing transaction into the committed state. -/
theorem committedRows_publish (tx : TxId) (table : Table R) :
    Table.committedRows (table.map (Slot.publish tx)) = table.visibleRows tx := by
  simp [committedRows, visibleRows, List.filterMap_map, Slot.committed_publish]

/-- A rollback leaves the committed state alone. -/
theorem committedRows_discard (tx : TxId) (table : Table R) :
    Table.committedRows (table.map (Slot.discard tx)) = table.committedRows := by
  simp [committedRows, List.filterMap_map, Slot.committed_discard]

theorem mem_committedRows {table : Table R} {row : R} :
    row ∈ table.committedRows ↔ ∃ slot ∈ table, slot.committed = some row := by
  simp [committedRows]

theorem mem_visibleRows {tx : TxId} {table : Table R} {row : R} :
    row ∈ table.visibleRows tx ↔ ∃ slot ∈ table, slot.visible tx = some row := by
  simp [visibleRows]

end Table

end ReadCommitted
