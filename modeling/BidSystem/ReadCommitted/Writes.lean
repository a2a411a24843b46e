import BidSystem.ReadCommitted.Relation

/-!
# Tables that a body does not write

`Prog.Leaves other body` says that no statement of a body changes a row of the
table `other`.  It is read off the statements, and the rows of the table are then
the same after every execution.
-/

namespace ReadCommitted

universe u v w z

namespace Prog

variable {R : Type u} {C : Type v} {E : Type w} {A B : Type z} {β : Type}

/-- No statement of the body writes the table. -/
inductive Leaves (other : Relation R β) : Prog R C E A → Prop
  | done (result : A) : Leaves other (.done result)
  | raise (error : E) : Leaves other (.raise error)
  | select {filter : R → Bool} {next : List R → Prog R C E A}
      (rest : ∀ rows, Leaves other (next rows)) : Leaves other (.select filter next)
  | lockRows {filter : R → Bool} {next : List R → Prog R C E A}
      (rest : ∀ rows, Leaves other (next rows)) : Leaves other (.lockRows filter next)
  | update {filter : R → Bool} {assign : R → R} {next : ℕ → Prog R C E A}
      (keeps : ∀ row, other.read (assign row) = other.read row)
      (rest : ∀ count, Leaves other (next count)) : Leaves other (.update filter assign next)
  | insert {row : R} {next : Option C → Prog R C E A} (foreign : other.read row = none)
      (rest : ∀ violated, Leaves other (next violated)) : Leaves other (.insert row next)

variable {other : Relation R β}

theorem Leaves.bind {body : Prog R C E A} {next : A → Prog R C E B} (front : body.Leaves other)
    (back : ∀ result, (next result).Leaves other) : (body >>= next).Leaves other := by
  induction front with
  | done result => exact back result
  | raise error => exact .raise error
  | select rest ih => exact .select ih
  | lockRows rest ih => exact .lockRows ih
  | update keeps rest ih => exact .update keeps ih
  | insert foreign rest ih => exact .insert foreign ih

theorem ReadOnly.leaves {body : Prog R C E A} (readOnly : body.ReadOnly) : body.Leaves other := by
  induction readOnly with
  | done result => exact .done result
  | raise error => exact .raise error
  | select rest ih => exact .select ih

/-- **The rows of the table are the same after an execution.** -/
theorem Leaves.rows_exec {body : Prog R C E A} (leaves : body.Leaves other)
    (conflict : Conflict R C) (database : List R) :
    other.rows (body.exec conflict database).2 = other.rows database := by
  induction leaves generalizing database with
  | done result => rfl
  | raise error => rfl
  | select rest ih => exact ih _ database
  | lockRows rest ih => exact ih _ database
  | @update filter assign next keeps rest ih =>
      rw [exec_update, ih]
      unfold Relation.rows assignWhere
      rw [List.filterMap_map]
      refine List.filterMap_congr fun row _ => ?_
      rw [Function.comp]
      split
      · exact keeps row
      · rfl
  | @insert row next foreign rest ih =>
      rw [exec_insert]
      cases violated conflict database row with
      | some constraint => exact ih _ database
      | none =>
          dsimp only
          rw [ih, Relation.rows_append]
          simp [Relation.rows, foreign]

end Prog

namespace Prog

variable {R C E A α β : Type} {table : Relation R α} {other : Relation R β}

theorem leaves_ofExcept (outcome : Except E A) :
    (ofExcept outcome : Prog R C E A).Leaves other := by
  cases outcome with
  | ok result => exact .done result
  | error error => exact .raise error

theorem leaves_lockFrom (filter : α → Bool) :
    (lockFrom table filter : Prog R C E (List α)).Leaves other :=
  .lockRows fun _ => .done _

theorem leaves_updateIn (disjoint : table.Disjoint other) (filter : α → Bool) (assign : α → α) :
    (updateIn table filter assign : Prog R C E ℕ).Leaves other := by
  refine .update (fun stored => ?_) fun _ => .done _
  cases read : table.read stored with
  | none => rw [Relation.set, read]
  | some row =>
      rw [table.make_of_read stored row read, table.set_make, disjoint, disjoint]

theorem leaves_insertInto (disjoint : table.Disjoint other) (row : α) :
    (insertInto table row : Prog R C E (Option C)).Leaves other :=
  .insert (disjoint row) fun _ => .done _

end Prog

end ReadCommitted
