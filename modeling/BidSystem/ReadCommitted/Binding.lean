import BidSystem.ReadCommitted.Relation

/-!
# Drivers that cannot bind every value

A client library sends the values of an `INSERT` to the database.  It may be unable to send
some of them, and raises then, whatever the body would do with a violated constraint.

* `Prog.through` — a body over such a driver.
* `Prog.exec_through_cases` — unless the driver refuses a row, the body does over it what it
  does by itself.
-/

namespace ReadCommitted

/-- A driver: the rows it can send, what it raises for another one, and how the errors of
a body read beside it. -/
structure Driver (R E E' : Type) where
  binds : R → Bool
  refusal : E'
  raised : E → E'

namespace Prog

variable {R C E E' A B α : Type}

/-- A body over a driver.  The values of an `UPDATE` are always sent. -/
def through (driver : Driver R E E') : Prog R C E A → Prog R C E' A
  | done result => done result
  | raise error => raise (driver.raised error)
  | select filter next => select filter fun rows => (next rows).through driver
  | lockRows filter next => lockRows filter fun rows => (next rows).through driver
  | update filter assign next => update filter assign fun count => (next count).through driver
  | insert row next =>
      if driver.binds row then insert row fun violated => (next violated).through driver
      else raise driver.refusal

section

variable (driver : Driver R E E') (conflict : Conflict R C)

/-- **Unless the driver refuses a row**, a body does over it what it does by itself. -/
theorem exec_through_cases (body : Prog R C E A) (rows : List R) :
    ((body.through driver).exec conflict rows).1 = .error driver.refusal ∨
      (body.through driver).exec conflict rows =
        ((body.exec conflict rows).1.mapError driver.raised, (body.exec conflict rows).2) := by
  induction body generalizing rows with
  | done result => exact .inr rfl
  | raise error => exact .inr rfl
  | select filter continue' ih => exact ih _ _
  | lockRows filter continue' ih => exact ih _ _
  | update filter assign continue' ih => exact ih _ _
  | insert row continue' ih =>
      rw [through]
      by_cases binds : driver.binds row = true
      · rw [if_pos binds, exec_insert, exec_insert]
        cases violated conflict rows row with
        | none => exact ih none _
        | some constraint => exact ih (some constraint) _
      · rw [if_neg binds]
        exact .inl rfl

/-- The transaction as a whole. -/
theorem atomically_through_cases (body : Prog R C E A) (rows : List R) :
    (body.through driver).atomically conflict rows = (.error driver.refusal, rows) ∨
      (body.through driver).atomically conflict rows =
        ((body.atomically conflict rows).1.mapError driver.raised,
          (body.atomically conflict rows).2) := by
  rcases exec_through_cases driver conflict body rows with refused | same
  · refine .inl ?_
    rcases ran : (body.through driver).exec conflict rows with ⟨error | result, rows'⟩
    · rw [ran] at refused
      rw [atomically_of_error conflict ran]
      exact congrArg (·, rows) refused
    · rw [ran] at refused
      cases refused
  · refine .inr ?_
    rcases ran : body.exec conflict rows with ⟨error | result, rows'⟩
    · rw [ran] at same
      rw [atomically_of_error conflict same, atomically_of_error conflict ran]
      rfl
    · rw [ran] at same
      rw [atomically_of_ok conflict same, atomically_of_ok conflict ran]
      rfl

/-! ## Statements over a driver -/

variable (table : Relation R α)

theorem exec_through_selectFrom_bind (filter : α → Bool) (next : List α → Prog R C E A)
    (database : List R) :
    ((selectFrom table filter >>= next).through driver).exec conflict database =
      ((next ((table.rows database).filter filter)).through driver).exec conflict database := by
  rw [selectFrom, bind_select, through, exec_select, bind_done, table.rows_filter]

theorem exec_through_lockFrom_bind (filter : α → Bool) (next : List α → Prog R C E A)
    (database : List R) :
    ((lockFrom table filter >>= next).through driver).exec conflict database =
      ((next ((table.rows database).filter filter)).through driver).exec conflict database := by
  rw [lockFrom, bind_lockRows, through, exec_lockRows, bind_done, table.rows_filter]

variable {driver table}

/-- The driver sends the row. -/
theorem exec_through_insertInto_bind {row : α} (binds : driver.binds (table.make row) = true)
    (next : Option C → Prog R C E A) (database : List R) :
    ((insertInto table row >>= next).through driver).exec conflict database =
      match violated conflict database (table.make row) with
      | some constraint => ((next (some constraint)).through driver).exec conflict database
      | none => ((next none).through driver).exec conflict (database ++ [table.make row]) := by
  rw [insertInto, bind_insert, through, if_pos binds, exec_insert]
  rfl

/-- The driver refuses the row. -/
theorem exec_through_insertInto_bind_of_refused {row : α}
    (refused : driver.binds (table.make row) = false) (next : Option C → Prog R C E A)
    (database : List R) :
    ((insertInto table row >>= next).through driver).exec conflict database =
      (.error driver.refusal, database) := by
  rw [insertInto, bind_insert, through, if_neg (by rw [refused]; exact Bool.false_ne_true)]
  rfl

end

end Prog

end ReadCommitted
