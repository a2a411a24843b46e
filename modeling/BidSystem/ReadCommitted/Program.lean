import BidSystem.ReadCommitted.Slot

/-!
# Transaction bodies as programs over SQL statements

`Prog` is the free monad of the statements a transaction body issues: plain
`SELECT`s, `SELECT ... FOR UPDATE`, set `UPDATE`s and `INSERT`s.  A body ends
in a result that is then committed, or in an error that rolls it back.

A program is read twice.  `Prog.exec` runs it alone on a list of rows: this is
the meaning of a transaction executed atomically.  `ReadCommitted.System`
interleaves the statements of many programs; `ReadCommitted.Guarded` says when
the second reading collapses to the first.
-/

namespace ReadCommitted

universe u v w z

/-- A transaction body.  `R` are the rows, `C` the names of the unique
constraints, `E` the errors a body may raise and `A` its results.

An `insert` continues with the constraint it violates, if any, so that a body
can translate the driver's error itself. -/
inductive Prog (R : Type u) (C : Type v) (E : Type w) (A : Type z) where
  /-- Return; the transaction commits. -/
  | done (result : A)
  /-- Raise; the transaction rolls back. -/
  | raise (error : E)
  /-- `SELECT ... WHERE`. -/
  | select (filter : R → Bool) (next : List R → Prog R C E A)
  /-- `SELECT ... WHERE ... FOR UPDATE`. -/
  | lockRows (filter : R → Bool) (next : List R → Prog R C E A)
  /-- `UPDATE ... SET ... WHERE`, continuing with the number of rows updated. -/
  | update (filter : R → Bool) (assign : R → R) (next : ℕ → Prog R C E A)
  /-- `INSERT`. -/
  | insert (row : R) (next : Option C → Prog R C E A)

namespace Prog

variable {R : Type u} {C : Type v} {E : Type w} {A B : Type z}

/-- Run `next` on the result of a body, inside the same transaction. -/
def bind : Prog R C E A → (A → Prog R C E B) → Prog R C E B
  | done result, next => next result
  | raise error, _ => raise error
  | select filter continue', next => select filter fun rows => (continue' rows).bind next
  | lockRows filter continue', next => lockRows filter fun rows => (continue' rows).bind next
  | update filter assign continue', next =>
      update filter assign fun count => (continue' count).bind next
  | insert row continue', next => insert row fun violated => (continue' violated).bind next

instance : Monad (Prog R C E) where
  pure := done
  bind := bind

@[simp] theorem pure_eq (result : A) : (pure result : Prog R C E A) = done result := rfl

@[simp] theorem bind_done (result : A) (next : A → Prog R C E B) :
    (done result >>= next) = next result := rfl

@[simp] theorem bind_raise (error : E) (next : A → Prog R C E B) :
    (raise error >>= next) = raise error := rfl

@[simp] theorem bind_select (filter : R → Bool) (continue' : List R → Prog R C E A)
    (next : A → Prog R C E B) :
    (select filter continue' >>= next) = select filter fun rows => continue' rows >>= next := rfl

@[simp] theorem bind_lockRows (filter : R → Bool) (continue' : List R → Prog R C E A)
    (next : A → Prog R C E B) :
    (lockRows filter continue' >>= next) =
      lockRows filter fun rows => continue' rows >>= next := rfl

@[simp] theorem bind_update (filter : R → Bool) (assign : R → R) (continue' : ℕ → Prog R C E A)
    (next : A → Prog R C E B) :
    (update filter assign continue' >>= next) =
      update filter assign fun count => continue' count >>= next := rfl

@[simp] theorem bind_insert (row : R) (continue' : Option C → Prog R C E A)
    (next : A → Prog R C E B) :
    (insert row continue' >>= next) =
      insert row fun violated => continue' violated >>= next := rfl

theorem bind_assoc {D : Type z} (body : Prog R C E A) (next : A → Prog R C E B)
    (last : B → Prog R C E D) :
    (body >>= next) >>= last = body >>= fun result => next result >>= last := by
  induction body with
  | done result => rfl
  | raise error => rfl
  | select filter continue' ih => simp only [bind_select, ih]
  | lockRows filter continue' ih => simp only [bind_lockRows, ih]
  | update filter assign continue' ih => simp only [bind_update, ih]
  | insert row continue' ih => simp only [bind_insert, ih]

/-- The rows a `SELECT` returns, as a value. -/
def selectRows (filter : R → Bool) : Prog R C E (List R) := select filter done

/-! ## Running a body alone -/

/-- A schema's unique constraints: `conflict old new` names the constraint that
the row `new` violates because of the row `old`. -/
abbrev Conflict (R : Type u) (C : Type v) := R → R → Option C

/-- The constraint violated by inserting `row` into `rows`. -/
def violated (conflict : Conflict R C) (rows : List R) (row : R) : Option C :=
  rows.findSome? fun old => conflict old row

/-- `UPDATE` as a map over the rows. -/
def assignWhere (filter : R → Bool) (assign : R → R) (rows : List R) : List R :=
  rows.map fun row => if filter row then assign row else row

/-- Execute a body alone: its outcome and the rows it leaves, before the
transaction ends. -/
def exec (conflict : Conflict R C) : Prog R C E A → List R → Except E A × List R
  | done result, rows => (.ok result, rows)
  | raise error, rows => (.error error, rows)
  | select filter next, rows => exec conflict (next (rows.filter filter)) rows
  | lockRows filter next, rows => exec conflict (next (rows.filter filter)) rows
  | update filter assign next, rows =>
      exec conflict (next (rows.countP filter)) (assignWhere filter assign rows)
  | insert row next, rows =>
      match violated conflict rows row with
      | some constraint => exec conflict (next (some constraint)) rows
      | none => exec conflict (next none) (rows ++ [row])

/-- Execute a body as one atomic transaction: an error rolls its rows back. -/
def atomically (conflict : Conflict R C) (body : Prog R C E A) (rows : List R) :
    Except E A × List R :=
  match body.exec conflict rows with
  | (.ok result, rows') => (.ok result, rows')
  | (.error error, _) => (.error error, rows)

section Exec

variable (conflict : Conflict R C)

@[simp] theorem exec_done (result : A) (rows : List R) :
    (done result : Prog R C E A).exec conflict rows = (.ok result, rows) := rfl

@[simp] theorem exec_raise (error : E) (rows : List R) :
    (raise error : Prog R C E A).exec conflict rows = (.error error, rows) := rfl

@[simp] theorem exec_select (filter : R → Bool) (next : List R → Prog R C E A) (rows : List R) :
    (select filter next).exec conflict rows =
      (next (rows.filter filter)).exec conflict rows := rfl

@[simp] theorem exec_lockRows (filter : R → Bool) (next : List R → Prog R C E A)
    (rows : List R) :
    (lockRows filter next).exec conflict rows =
      (next (rows.filter filter)).exec conflict rows := rfl

@[simp] theorem exec_update (filter : R → Bool) (assign : R → R) (next : ℕ → Prog R C E A)
    (rows : List R) :
    (update filter assign next).exec conflict rows =
      (next (rows.countP filter)).exec conflict (assignWhere filter assign rows) := rfl

theorem exec_insert (row : R) (next : Option C → Prog R C E A) (rows : List R) :
    (insert row next).exec conflict rows =
      match violated conflict rows row with
      | some constraint => (next (some constraint)).exec conflict rows
      | none => (next none).exec conflict (rows ++ [row]) := by
  rw [exec]

/-- Running two bodies one after the other in one transaction. -/
theorem exec_bind (body : Prog R C E A) (next : A → Prog R C E B) (rows : List R) :
    (body >>= next).exec conflict rows =
      match body.exec conflict rows with
      | (.ok result, rows') => (next result).exec conflict rows'
      | (.error error, rows') => (.error error, rows') := by
  induction body generalizing rows with
  | done result => rfl
  | raise error => rfl
  | select filter continue' ih =>
      rw [bind_select, exec_select, exec_select, ih]
  | lockRows filter continue' ih =>
      rw [bind_lockRows, exec_lockRows, exec_lockRows, ih]
  | update filter assign continue' ih =>
      rw [bind_update, exec_update, exec_update, ih]
  | insert row continue' ih =>
      rw [bind_insert, exec_insert, exec_insert]
      cases violated conflict rows row with
      | none => exact ih none _
      | some constraint => exact ih (some constraint) _

/-- What a sequence raises, its first part raises or the rest after it. -/
theorem of_exec_bind_error {body : Prog R C E A} {next : A → Prog R C E B} {rows : List R}
    {error : E} (raised : ((body >>= next).exec conflict rows).1 = .error error) :
    (body.exec conflict rows).1 = .error error ∨
      ∃ result rows', body.exec conflict rows = (.ok result, rows') ∧
        ((next result).exec conflict rows').1 = .error error := by
  rw [exec_bind] at raised
  rcases ran : body.exec conflict rows with ⟨first | result, rows'⟩
  · rw [ran] at raised
    exact .inl (congrArg Except.error (Except.error.inj raised))
  · rw [ran] at raised
    exact .inr ⟨result, rows', rfl, raised⟩

/-- The outcome of a body whose result is only wrapped. -/
theorem exec_return (body : Prog R C E A) (wrap : A → B) (rows : List R) :
    (body >>= fun result => pure (wrap result)).exec conflict rows =
      match body.exec conflict rows with
      | (.ok result, rows') => (.ok (wrap result), rows')
      | (.error error, rows') => (.error error, rows') := by
  rw [exec_bind]
  rcases body.exec conflict rows with ⟨_ | result, rows'⟩ <;> rfl

/-- A body that returned has its rows kept. -/
theorem atomically_of_ok {body : Prog R C E A} {rows rows' : List R} {result : A}
    (ran : body.exec conflict rows = (.ok result, rows')) :
    body.atomically conflict rows = (.ok result, rows') := by
  simp [atomically, ran]

/-- A body that raised leaves no trace. -/
theorem atomically_of_error {body : Prog R C E A} {rows rows' : List R} {error : E}
    (ran : body.exec conflict rows = (.error error, rows')) :
    body.atomically conflict rows = (.error error, rows) := by
  simp [atomically, ran]

/-- The outcome of a transaction does not depend on whether its rows are kept. -/
theorem atomically_fst (body : Prog R C E A) (rows : List R) :
    (body.atomically conflict rows).1 = (body.exec conflict rows).1 := by
  rcases ran : body.exec conflict rows with ⟨_ | result, rows'⟩
  · rw [atomically_of_error conflict ran]
  · rw [atomically_of_ok conflict ran]

/-! ### Bodies that only read -/

/-- A body of plain `SELECT`s. -/
inductive ReadOnly : Prog R C E A → Prop
  | done (result : A) : ReadOnly (.done result)
  | raise (error : E) : ReadOnly (.raise error)
  | select {filter : R → Bool} {next : List R → Prog R C E A}
      (rest : ∀ rows, ReadOnly (next rows)) : ReadOnly (.select filter next)

theorem ReadOnly.bind {body : Prog R C E A} {next : A → Prog R C E B} (front : body.ReadOnly)
    (back : ∀ result, (next result).ReadOnly) : (body >>= next).ReadOnly := by
  induction front with
  | done result => exact back result
  | raise error => exact .raise error
  | select rest ih => exact .select ih

/-- Reading changes no row. -/
theorem ReadOnly.exec_snd {body : Prog R C E A} (readOnly : body.ReadOnly) (rows : List R) :
    (body.exec conflict rows).2 = rows := by
  induction readOnly with
  | done result => rfl
  | raise error => rfl
  | select rest ih => exact ih _

/-- A body that starts by reading. -/
theorem ReadOnly.exec_bind {body : Prog R C E A} (readOnly : body.ReadOnly)
    (next : A → Prog R C E B) (rows : List R) :
    (body >>= next).exec conflict rows =
      match (body.exec conflict rows).1 with
      | .ok result => (next result).exec conflict rows
      | .error error => (.error error, rows) := by
  rw [Prog.exec_bind]
  have same := readOnly.exec_snd conflict rows
  rcases ran : body.exec conflict rows with ⟨_ | result, rows'⟩
  · rw [ran] at same
    rw [← same]
  · rw [ran] at same
    rw [← same]

/-- What a body that starts by reading returned, it returned after a read. -/
theorem ReadOnly.of_bind_ok {body : Prog R C E A} (readOnly : body.ReadOnly)
    {next : A → Prog R C E B} {rows : List R} {result : B}
    (returned : ((body >>= next).exec conflict rows).1 = .ok result) :
    ∃ read, (body.exec conflict rows).1 = .ok read ∧
      ((next read).exec conflict rows).1 = .ok result := by
  rw [readOnly.exec_bind] at returned
  cases outcome : (body.exec conflict rows).1 with
  | error error =>
      rw [outcome] at returned
      cases returned
  | ok read =>
      rw [outcome] at returned
      exact ⟨read, rfl, returned⟩

end Exec

end Prog

end ReadCommitted
