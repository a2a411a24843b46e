import BidSystem.ReadCommitted.Program

/-!
# Tables of a database

The rows of a database form one type with a constructor for each table.
`Relation R α` is one of these tables, as the part of `R` that reads as an `α`.
Statements are then written against a table and its own row type, and
`Prog.exec` of such a statement is stated on the rows of the table.
-/

namespace ReadCommitted

universe u v w

/-- One table of a database with rows `R`. -/
structure Relation (R : Type u) (α : Type v) where
  /-- The row as a row of this table, if it is one. -/
  read : R → Option α
  make : α → R
  read_make : ∀ row, read (make row) = some row
  make_of_read : ∀ stored row, read stored = some row → stored = make row

namespace Relation

variable {R : Type u} {α : Type v} {β : Type w}

/-- A `WHERE` clause on this table. -/
def on (table : Relation R α) (filter : α → Bool) (stored : R) : Bool :=
  (table.read stored).any filter

/-- A `SET` clause on this table. -/
def set (table : Relation R α) (assign : α → α) (stored : R) : R :=
  match table.read stored with
  | some row => table.make (assign row)
  | none => stored

/-- The rows of this table in a database. -/
def rows (table : Relation R α) (database : List R) : List α :=
  database.filterMap table.read

/-- Two tables without a common row. -/
def Disjoint (table : Relation R α) (other : Relation R β) : Prop :=
  ∀ row, other.read (table.make row) = none

section Rows

variable (table : Relation R α) {other : Relation R β}

@[simp] theorem on_make (filter : α → Bool) (row : α) :
    table.on filter (table.make row) = filter row := by
  simp [on, table.read_make]

@[simp] theorem set_make (assign : α → α) (row : α) :
    table.set assign (table.make row) = table.make (assign row) := by
  simp [set, table.read_make]

theorem on_iff {filter : α → Bool} {stored : R} :
    table.on filter stored = true ↔ ∃ row, stored = table.make row ∧ filter row = true := by
  unfold on
  rw [Option.any_eq_true]
  constructor
  · rintro ⟨row, read, accepted⟩
    exact ⟨row, table.make_of_read stored row read, accepted⟩
  · rintro ⟨row, rfl, accepted⟩
    exact ⟨row, table.read_make row, accepted⟩

@[simp] theorem rows_nil : table.rows [] = [] := rfl

@[simp] theorem rows_append (front back : List R) :
    table.rows (front ++ back) = table.rows front ++ table.rows back := by
  simp [rows]

@[simp] theorem rows_singleton_make (row : α) : table.rows [table.make row] = [row] := by
  simp [rows, table.read_make]

theorem rows_singleton_of_disjoint {table : Relation R α} (disjoint : table.Disjoint other)
    (row : α) : other.rows [table.make row] = [] := by
  simp [rows, disjoint row]

/-- Selecting from the database is selecting from the table. -/
theorem rows_filter (filter : α → Bool) (database : List R) :
    table.rows (database.filter (table.on filter)) = (table.rows database).filter filter := by
  induction database with
  | nil => rfl
  | cons stored database ih =>
      unfold rows at ih ⊢
      cases read : table.read stored with
      | none =>
          have rejected : ¬ table.on filter stored = true := by simp [on, read]
          rw [List.filter_cons_of_neg rejected, List.filterMap_cons_none read, ih]
      | some row =>
          by_cases accepted : filter row = true
          · have matched : table.on filter stored = true := by simp [on, read, accepted]
            rw [List.filter_cons_of_pos matched, List.filterMap_cons_some read,
              List.filterMap_cons_some read, List.filter_cons_of_pos accepted, ih]
          · have rejected : ¬ table.on filter stored = true := by simp [on, read, accepted]
            rw [List.filter_cons_of_neg rejected, List.filterMap_cons_some read,
              List.filter_cons_of_neg accepted, ih]

/-- Changing the rows of the table in place. -/
theorem rows_map_set (assign : α → α) (database : List R) :
    table.rows (database.map (table.set assign)) = (table.rows database).map assign := by
  unfold rows
  rw [List.filterMap_map, List.map_filterMap]
  apply List.filterMap_congr
  intro stored _
  cases read : table.read stored with
  | none => simp [set, read]
  | some row => simp [set, read, table.read_make]

/-- Changing the rows of one table leaves another alone. -/
theorem rows_map_set_of_disjoint {table : Relation R α} (disjoint : table.Disjoint other)
    (assign : α → α) (database : List R) :
    other.rows (database.map (table.set assign)) = other.rows database := by
  unfold rows
  rw [List.filterMap_map]
  apply List.filterMap_congr
  intro stored _
  cases read : table.read stored with
  | none => simp [set, read]
  | some row =>
      rw [table.make_of_read stored row read]
      simp [disjoint row, disjoint (assign row)]

/-- An `UPDATE` of the table changes its rows in place. -/
theorem assignWhere_eq_map_set (filter : α → Bool) (assign : α → α) (database : List R) :
    Prog.assignWhere (table.on filter) (table.set assign) database =
      database.map (table.set fun row => if filter row then assign row else row) := by
  unfold Prog.assignWhere
  apply List.map_congr_left
  intro stored _
  cases read : table.read stored with
  | none => simp [on, set, read]
  | some row =>
      rw [table.make_of_read stored row read, table.on_make, table.set_make, table.set_make]
      split <;> rfl

/-- Counting in the database is counting in the table. -/
theorem countP_on (filter : α → Bool) (database : List R) :
    database.countP (table.on filter) = (table.rows database).countP filter := by
  unfold rows
  rw [List.countP_filterMap]
  apply List.countP_congr
  intro stored _
  cases read : table.read stored <;> simp [on, read]

/-- Rows of the table that agree on a unique column are one row. -/
theorem index_unique {column : α → β} {database : List R}
    (nodup : ((table.rows database).map column).Nodup) {i j : ℕ} {row other : α}
    (at_i : database[i]? = some (table.make row)) (at_j : database[j]? = some (table.make other))
    (same : column row = column other) : i = j := by
  unfold rows at nodup
  rw [List.Nodup, List.pairwise_map, List.pairwise_filterMap, List.pairwise_iff_getElem] at nodup
  obtain ⟨i_lt, at_i⟩ := List.getElem?_eq_some_iff.mp at_i
  obtain ⟨j_lt, at_j⟩ := List.getElem?_eq_some_iff.mp at_j
  rcases lt_trichotomy i j with before | equal | after
  · exact absurd same (nodup i j i_lt j_lt before row (by rw [at_i, table.read_make]) other
      (by rw [at_j, table.read_make]))
  · exact equal
  · exact absurd same.symm (nodup j i j_lt i_lt after other (by rw [at_j, table.read_make]) row
      (by rw [at_i, table.read_make]))

theorem mem_rows {database : List R} {row : α} :
    row ∈ table.rows database ↔ table.make row ∈ database := by
  unfold rows
  rw [List.mem_filterMap]
  constructor
  · rintro ⟨stored, member, read⟩
    rwa [← table.make_of_read stored row read]
  · intro member
    exact ⟨table.make row, member, table.read_make row⟩

end Rows

end Relation

/-- Filtering by a column without repetitions finds at most one row. -/
theorem filter_eq_of_nodup {α β : Type} [BEq β] [LawfulBEq β] {column : α → β} {rows : List α}
    (nodup : (rows.map column).Nodup) (value : β) :
    (∀ row ∈ rows, column row ≠ value) ∧ rows.filter (fun row => column row == value) = [] ∨
      ∃ row ∈ rows, column row = value ∧
        rows.filter (fun row => column row == value) = [row] := by
  induction rows with
  | nil => exact .inl ⟨nofun, rfl⟩
  | cons row rows ih =>
      rw [List.map_cons, List.nodup_cons, List.mem_map] at nodup
      rw [List.filter_cons]
      by_cases here : column row = value
      · refine .inr ⟨row, List.mem_cons_self, here, ?_⟩
        rw [if_pos (beq_iff_eq.mpr here), List.filter_eq_nil_iff.mpr]
        exact fun other member same =>
          nodup.1 ⟨other, member, (beq_iff_eq.mp same).trans here.symm⟩
      · rw [if_neg (mt beq_iff_eq.mp here)]
        rcases ih nodup.2 with ⟨absent, none⟩ | ⟨found, member, same, only⟩
        · exact .inl ⟨List.forall_mem_cons.mpr ⟨here, absent⟩, none⟩
        · exact .inr ⟨found, List.mem_cons_of_mem _ member, same, only⟩

namespace Prog

variable {R C E A B α : Type}

/-- `SELECT` from one table. -/
def selectFrom (table : Relation R α) (filter : α → Bool) : Prog R C E (List α) :=
  select (table.on filter) fun stored => done (table.rows stored)

/-- `SELECT ... FOR UPDATE` from one table. -/
def lockFrom (table : Relation R α) (filter : α → Bool) : Prog R C E (List α) :=
  lockRows (table.on filter) fun stored => done (table.rows stored)

/-- `UPDATE` one table, returning the number of rows. -/
def updateIn (table : Relation R α) (filter : α → Bool) (assign : α → α) : Prog R C E ℕ :=
  update (table.on filter) (table.set assign) done

/-- `INSERT` into one table, returning the violated constraint. -/
def insertInto (table : Relation R α) (row : α) : Prog R C E (Option C) :=
  insert (table.make row) done

/-- Raise the error of a Python call, or go on with its value. -/
def ofExcept : Except E A → Prog R C E A
  | .ok result => done result
  | .error error => raise error

section Exec

variable (conflict : Conflict R C) (table : Relation R α)

@[simp] theorem exec_selectFrom_bind (filter : α → Bool) (next : List α → Prog R C E A)
    (database : List R) :
    (selectFrom table filter >>= next).exec conflict database =
      (next ((table.rows database).filter filter)).exec conflict database := by
  rw [selectFrom, bind_select, exec_select, bind_done, table.rows_filter]

@[simp] theorem exec_lockFrom_bind (filter : α → Bool) (next : List α → Prog R C E A)
    (database : List R) :
    (lockFrom table filter >>= next).exec conflict database =
      (next ((table.rows database).filter filter)).exec conflict database := by
  rw [lockFrom, bind_lockRows, exec_lockRows, bind_done, table.rows_filter]

@[simp] theorem exec_updateIn_bind (filter : α → Bool) (assign : α → α)
    (next : ℕ → Prog R C E A) (database : List R) :
    (updateIn table filter assign >>= next).exec conflict database =
      (next ((table.rows database).countP filter)).exec conflict
        (database.map (table.set fun row => if filter row then assign row else row)) := by
  rw [updateIn, bind_update, exec_update, bind_done, table.countP_on,
    table.assignWhere_eq_map_set]

theorem exec_insertInto_bind (row : α) (next : Option C → Prog R C E A) (database : List R) :
    (insertInto table row >>= next).exec conflict database =
      match violated conflict database (table.make row) with
      | some constraint => (next (some constraint)).exec conflict database
      | none => (next none).exec conflict (database ++ [table.make row]) := by
  rw [insertInto, bind_insert, exec_insert]
  rfl

@[simp] theorem bind_ofExcept_ok (result : A) (next : A → Prog R C E B) :
    ((ofExcept (.ok result) : Prog R C E A) >>= next) = next result := rfl

@[simp] theorem bind_ofExcept_error (error : E) (next : A → Prog R C E B) :
    ((ofExcept (.error error) : Prog R C E A) >>= next) = raise error := rfl

end Exec

end Prog

end ReadCommitted
