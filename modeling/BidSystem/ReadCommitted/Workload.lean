import BidSystem.ReadCommitted.System
import BidSystem.ReadCommitted.Relation
import Mathlib.Tactic.Common

/-!
# Workloads whose transactions enter through a guard row

Many transaction bodies follow one discipline: the rows fall into partitions,
each partition has one *guard row*, and a body either locks the guard row of
its partition before it touches anything else, or inserts the guard row of a
partition that did not exist.  This module states the discipline; the theorem
that it makes the transactions of a partition serial is in
`ReadCommitted.Guarded`.

* `Workload` — the transactions of a system with their partitions.
* `Prog.Confined` — a body that stays inside one partition.
* `Workload.Locks` / `Workload.Creates` — the two ways to enter.
* `Workload.Guarded` — the discipline, as hypotheses on the bodies and on the
  initial rows only.
-/

namespace ReadCommitted

universe u v w z k

variable {R : Type u} {C : Type v} {E : Type w} {A : Type z} {K : Type k}

/-- A body without statements. -/
inductive Prog.Terminal : Prog R C E A → Prop
  | done (result : A) : Terminal (.done result)
  | raise (error : E) : Terminal (.raise error)

/-- Transactions that share a table, and how the table is partitioned. -/
structure Workload (R : Type u) (C : Type v) (E : Type w) (A : Type z) (K : Type k) where
  /-- The unique constraints. -/
  conflict : Prog.Conflict R C
  /-- The partition a row belongs to. -/
  part : R → K
  /-- The rows that guard their partition. -/
  guard : R → Bool
  /-- The committed rows at the start. -/
  rows : List R
  bodies : TxId → Prog R C E A
  /-- The partition a transaction works on. -/
  key : TxId → K
  /-- The rows a transaction may insert. -/
  writes : TxId → R → Prop

/-- What one transaction of a workload may touch. -/
structure Territory (R : Type u) (C : Type v) (K : Type k) where
  conflict : Prog.Conflict R C
  part : R → K
  guard : R → Bool
  key : K
  writes : R → Prop

/-- The territory of transaction `tx`. -/
def Workload.territory (w : Workload R C E A K) (tx : TxId) : Territory R C K where
  conflict := w.conflict
  part := w.part
  guard := w.guard
  key := w.key tx
  writes := w.writes tx

/-- A body that reads and writes rows of its partition only, locks nothing
explicitly, never touches the guard column, the partition column or a column
under a unique constraint, and inserts no second guard. -/
def Prog.Confined (t : Territory R C K) : Prog R C E A → Prop
  | .done _ => True
  | .raise _ => True
  | .select filter next =>
      (∀ row, filter row = true → t.part row = t.key) ∧ ∀ rows, (next rows).Confined t
  | .lockRows _ _ => False
  | .update filter assign next =>
      (∀ row, filter row = true → t.part row = t.key ∧
        t.part (assign row) = t.part row ∧ t.guard (assign row) = t.guard row ∧
          t.conflict (assign row) = t.conflict row) ∧
        ∀ count, (next count).Confined t
  | .insert row next =>
      t.part row = t.key ∧ t.guard row = false ∧ t.writes row ∧
        ∀ violated, (next violated).Confined t

namespace Prog

variable {t : Territory R C K}

theorem Terminal.confined {body : Prog R C E A} (terminal : body.Terminal) : body.Confined t := by
  cases terminal <;> exact trivial

/-- A confined body followed by confined bodies. -/
theorem Confined.bind {B : Type z} {body : Prog R C E A} {next : A → Prog R C E B}
    (front : body.Confined t) (back : ∀ result, (next result).Confined t) :
    (body >>= next).Confined t := by
  induction body with
  | done result => exact back result
  | raise error => exact trivial
  | select filter continue' ih => exact ⟨front.1, fun rows => ih rows (front.2 rows)⟩
  | lockRows filter continue' ih => exact front.elim
  | update filter assign continue' ih => exact ⟨front.1, fun count => ih count (front.2 count)⟩
  | insert row continue' ih =>
      exact ⟨front.1, front.2.1, front.2.2.1, fun violated => ih violated (front.2.2.2 violated)⟩

end Prog

/-! ### Confined statements on one table -/

section Tables

variable {R C E A α : Type} {K : Type k} {t : Territory R C K} {table : Relation R α}

theorem Prog.confined_ofExcept (outcome : Except E A) :
    (ofExcept outcome : Prog R C E A).Confined t := by
  cases outcome <;> exact trivial

theorem Prog.confined_selectFrom {filter : α → Bool}
    (inside : ∀ row, filter row = true → t.part (table.make row) = t.key) :
    (selectFrom table filter : Prog R C E (List α)).Confined t := by
  refine ⟨fun stored accepted => ?_, fun _ => trivial⟩
  obtain ⟨row, rfl, matched⟩ := table.on_iff.mp accepted
  exact inside row matched

theorem Prog.confined_updateIn {filter : α → Bool} {assign : α → α}
    (inside : ∀ row, filter row = true → t.part (table.make row) = t.key ∧
      t.part (table.make (assign row)) = t.part (table.make row) ∧
        t.guard (table.make (assign row)) = t.guard (table.make row) ∧
          t.conflict (table.make (assign row)) = t.conflict (table.make row)) :
    (updateIn table filter assign : Prog R C E ℕ).Confined t := by
  refine ⟨fun stored accepted => ?_, fun _ => trivial⟩
  obtain ⟨row, rfl, matched⟩ := table.on_iff.mp accepted
  rw [table.set_make]
  exact inside row matched

theorem Prog.confined_insertInto {row : α} (inside : t.part (table.make row) = t.key)
    (ordinary : t.guard (table.make row) = false) (writes : t.writes (table.make row)) :
    (insertInto table row : Prog R C E (Option C)).Confined t :=
  ⟨inside, ordinary, writes, fun _ => trivial⟩

end Tables

namespace Workload

variable (w : Workload R C E A K)

/-- The system at its start. -/
def start : Sys R C E A := Sys.start w.rows w.bodies

/-- Transaction `tx` enters by locking the guard row of its partition, and ends
at once if there is none. -/
structure Locks (tx : TxId) (filter : R → Bool) (next : List R → Prog R C E A) : Prop where
  body : w.bodies tx = .lockRows filter next
  filter_iff : ∀ row, filter row = true ↔ w.guard row = true ∧ w.part row = w.key tx
  away : (next []).Terminal
  confined : ∀ row, filter row = true → (next [row]).Confined (w.territory tx)

/-- Transaction `tx` enters by inserting the guard row of a partition that no
initial row and no other transaction creates. -/
structure Creates (tx : TxId) (row : R) (next : Option C → Prog R C E A) : Prop where
  body : w.bodies tx = .insert row next
  guard : w.guard row = true
  part : w.part row = w.key tx
  writes : w.writes tx row
  confined : (next none).Confined (w.territory tx)
  vacant : ∀ old ∈ w.rows, w.part old ≠ w.key tx
  sole : ∀ other row' next', w.bodies other = .insert row' next' →
    w.key other = w.key tx → other = tx

variable {w} in
theorem Locks.not_terminal {tx : TxId} {filter : R → Bool} {next : List R → Prog R C E A}
    (locks : w.Locks tx filter next) : ¬ (w.bodies tx).Terminal := by
  rw [locks.body]
  exact nofun

variable {w} in
theorem Creates.not_terminal {tx : TxId} {row : R} {next : Option C → Prog R C E A}
    (creates : w.Creates tx row next) : ¬ (w.bodies tx).Terminal := by
  rw [creates.body]
  exact nofun

/-- The guard discipline. -/
structure Guarded : Prop where
  /-- A body locks a guard row, creates one, or has no statement at all. -/
  entry : ∀ tx, (∃ filter next, w.Locks tx filter next) ∨
    (∃ row next, w.Creates tx row next) ∨ (w.bodies tx).Terminal
  /-- A partition has at most one guard row to begin with. -/
  oneGuard : ∀ (i j : ℕ) (a b : R), w.rows[i]? = some a → w.rows[j]? = some b →
    w.guard a = true → w.guard b = true → w.part a = w.part b → i = j
  writes_part : ∀ tx row, w.writes tx row → w.part row = w.key tx
  /-- Rows of different partitions never conflict. -/
  conflict_part : ∀ (tx : TxId) (old new : R),
    (old ∈ w.rows ∨ ∃ other, w.writes other old) → w.writes tx new →
      (w.conflict old new).isSome = true → w.part old = w.part new

end Workload

/-! ## Versions of a slot -/

namespace Slot

variable {tx other : TxId} {slot : Slot R} {row version : R}

/-- Every version of a row, committed or not. -/
def versions (slot : Slot R) : List R :=
  slot.committed.toList ++ (slot.holder.bind Prod.snd).toList

theorem mem_versions_of_committed (committed : slot.committed = some row) :
    row ∈ slot.versions := by
  simp [versions, committed]

theorem mem_versions_of_visible (visible : slot.visible tx = some row) :
    row ∈ slot.versions := by
  rcases slot with ⟨committed, holder⟩
  rcases holder with _ | ⟨holder, _ | own⟩
  · exact mem_versions_of_committed visible
  · exact mem_versions_of_committed visible
  · simp only [Slot.visible] at visible
    split at visible
    · cases visible
      simp [versions]
    · exact mem_versions_of_committed visible

@[simp] theorem versions_settled : (settled row).versions = [row] := rfl

@[simp] theorem versions_inserted : (inserted tx row).versions = [row] := rfl

@[simp] theorem versions_lock : (slot.lock tx).versions = slot.versions := by
  simp [versions, lock]

theorem versions_write_subset :
    (slot.write tx version).versions ⊆ slot.versions ++ [version] := by
  intro row member
  simp only [versions, write, Option.bind_some, Option.toList_some, List.mem_append,
    List.mem_singleton] at member ⊢
  tauto

theorem versions_publish_subset : (slot.publish tx).versions ⊆ slot.versions := by
  intro row member
  by_cases isOwner : slot.owner = some tx
  · rw [publish_of_owner isOwner] at member
    have visible : slot.visible tx = some row := by simpa [versions] using member
    exact mem_versions_of_visible visible
  · rwa [publish_of_owner_ne isOwner] at member

theorem versions_discard_subset : (slot.discard tx).versions ⊆ slot.versions := by
  intro row member
  by_cases isOwner : slot.owner = some tx
  · rw [discard_of_owner isOwner] at member
    exact mem_versions_of_committed (by simpa [versions] using member)
  · rwa [discard_of_owner_ne isOwner] at member

end Slot

/-! ## Tables slot by slot -/

namespace Table

/-- Two tables whose views agree position by position list the same views,
whatever trailing slots without a view either of them has. -/
theorem filterMap_congr_getElem? {α : Type u} {β : Type v} {view view' : α → Option β} :
    ∀ {left right : List α},
      (∀ i : ℕ, left[i]?.bind view = right[i]?.bind view') →
        left.filterMap view = right.filterMap view' := by
  intro left
  induction left with
  | nil =>
      intro right agree
      symm
      rw [List.filterMap_nil, List.filterMap_eq_nil_iff]
      intro slot member
      obtain ⟨i, at_i⟩ := List.mem_iff_getElem?.mp member
      simpa [at_i] using (agree i).symm
  | cons slot left ih =>
      intro right agree
      cases right with
      | nil =>
          rw [List.filterMap_nil, List.filterMap_eq_nil_iff]
          intro slot' member
          obtain ⟨i, at_i⟩ := List.mem_iff_getElem?.mp member
          simpa [at_i] using agree i
      | cons slot' right =>
          have head : view slot = view' slot' := by simpa using agree 0
          have tail : left.filterMap view = right.filterMap view' :=
            ih fun i => by simpa using agree (i + 1)
          rw [List.filterMap_cons, List.filterMap_cons, head, tail]

theorem mem_candidates {tx : TxId} {filter : R → Bool} {table : Table R} {position : ℕ} :
    position ∈ candidates tx filter table ↔
      ∃ slot row, table[position]? = some slot ∧ slot.visible tx = some row ∧
        filter row = true := by
  unfold candidates
  rw [List.mem_filter, List.mem_range, Option.any_eq_true]
  constructor
  · rintro ⟨-, row, found, accepted⟩
    obtain ⟨slot, at_position, visible⟩ := Option.bind_eq_some_iff.mp found
    exact ⟨slot, row, at_position, visible, accepted⟩
  · rintro ⟨slot, row, at_position, visible, accepted⟩
    refine ⟨?_, row, ?_, accepted⟩
    · exact (List.getElem?_eq_some_iff.mp at_position).1
    · rw [at_position, Option.bind_some, visible]

theorem nodup_candidates {tx : TxId} {filter : R → Bool} {table : Table R} :
    (candidates tx filter table).Nodup :=
  List.nodup_range.filter _

/-- Apply an assignment to the visible version of one slot. -/
def rewrite (tx : TxId) (assign : R → R) (slot : Slot R) : Slot R :=
  match slot.visible tx with
  | some row => slot.write tx (assign row)
  | none => slot

/-- The table an `UPDATE` leaves once it has visited the positions `todo`. -/
def assignAt (tx : TxId) (assign : R → R) (todo : List ℕ) (table : Table R) : Table R :=
  table.mapIdx fun position slot => if position ∈ todo then rewrite tx assign slot else slot

theorem getElem?_assignAt {tx : TxId} {assign : R → R} {todo : List ℕ} {table : Table R}
    {position : ℕ} :
    (assignAt tx assign todo table)[position]? =
      table[position]?.map fun slot =>
        if position ∈ todo then rewrite tx assign slot else slot := by
  simp [assignAt, List.getElem?_mapIdx]

@[simp] theorem assignAt_nil {tx : TxId} {assign : R → R} {table : Table R} :
    assignAt tx assign [] table = table := by
  apply List.ext_getElem?
  intro position
  simp [getElem?_assignAt]

/-- Visiting one more position does not change where the `UPDATE` is heading. -/
theorem assignAt_erase {tx : TxId} {assign : R → R} {todo : List ℕ} {table : Table R}
    {position : ℕ} {slot : Slot R} {row : R} (distinct : todo.Nodup)
    (pending : position ∈ todo) (at_position : table[position]? = some slot)
    (visible : slot.visible tx = some row) :
    assignAt tx assign (todo.erase position)
        (table.set position (slot.write tx (assign row))) =
      assignAt tx assign todo table := by
  apply List.ext_getElem?
  intro other
  rw [getElem?_assignAt, getElem?_assignAt]
  by_cases same : other = position
  · subst same
    have inside : other < table.length := (List.getElem?_eq_some_iff.mp at_position).1
    have gone : other ∉ todo.erase other := fun member =>
      (distinct.mem_erase_iff.mp member).1 rfl
    rw [List.getElem?_set_self inside, at_position, Option.map_some, Option.map_some,
      if_neg gone, if_pos pending, rewrite, visible]
  · have keep : other ∈ todo.erase position ↔ other ∈ todo := by
      rw [distinct.mem_erase_iff]
      exact and_iff_right same
    rw [List.getElem?_set_ne (Ne.symm same)]
    simp only [keep]

/-- An `UPDATE` that has visited all its candidates has updated exactly the rows
its filter accepts. -/
theorem visibleRows_assignAt_candidates {tx : TxId} {filter : R → Bool} {assign : R → R}
    {table : Table R} :
    visibleRows tx (assignAt tx assign (candidates tx filter table) table) =
      Prog.assignWhere filter assign (table.visibleRows tx) := by
  have slotwise : visibleRows tx (assignAt tx assign (candidates tx filter table) table) =
      table.filterMap fun slot =>
        (slot.visible tx).map fun row => if filter row then assign row else row := by
    apply filterMap_congr_getElem?
    intro position
    rw [getElem?_assignAt]
    cases at_position : table[position]? with
    | none => rfl
    | some slot =>
        rw [Option.map_some, Option.bind_some, Option.bind_some]
        cases visible : slot.visible tx with
        | none =>
            have notCandidate : position ∉ candidates tx filter table := by
              rw [mem_candidates, at_position]
              rintro ⟨_, row, found, seen, -⟩
              cases found
              rw [visible] at seen
              cases seen
            rw [if_neg notCandidate, visible, Option.map_none]
        | some row =>
            have candidate : position ∈ candidates tx filter table ↔ filter row = true := by
              rw [mem_candidates, at_position]
              constructor
              · rintro ⟨_, row', found, seen, accepted⟩
                cases found
                rw [visible] at seen
                cases seen
                exact accepted
              · intro accepted
                exact ⟨slot, row, rfl, visible, accepted⟩
            rw [Option.map_some]
            by_cases accepted : filter row = true
            · rw [if_pos (candidate.mpr accepted), if_pos accepted, rewrite, visible,
                Slot.visible_write_self]
            · rw [if_neg (fun member => accepted (candidate.mp member)), if_neg accepted, visible]
  rw [slotwise]
  unfold Prog.assignWhere visibleRows
  rw [List.map_filterMap]

end Table

end ReadCommitted
