import BidSystem.ReadCommitted.Program
import Mathlib.Data.List.Forall2

/-!
# Runs of atomic transactions

A `Journal` is what a sequential run leaves: the rows of the database and one
entry for each transaction, in the order of execution, with the outcome it
reported.  Statements about histories are statements about the entries.

An abstract account of a run is a list of events, one for each entry, that the
entries report in the sense of some relation.
-/

namespace ReadCommitted

universe u v w z t

/-- The state after a sequential run. -/
structure Journal (Op : Type t) (R : Type u) (E : Type w) (A : Type z) where
  /-- The transactions with their outcomes, oldest first. -/
  entries : List (Op × Except E A)
  rows : List R

namespace Journal

variable {Op : Type t} {R : Type u} {C : Type v} {E : Type w} {A : Type z}
variable (conflict : Prog.Conflict R C) (body : Op → Prog R C E A)

/-- A database before its first transaction. -/
def start (rows : List R) : Journal Op R E A := { entries := [], rows := rows }

/-- Execute one transaction atomically and record its outcome. -/
def perform (journal : Journal Op R E A) (operation : Op) : Journal Op R E A where
  entries := journal.entries ++
    [(operation, ((body operation).atomically conflict journal.rows).1)]
  rows := ((body operation).atomically conflict journal.rows).2

/-- Execute transactions one after the other. -/
def run (journal : Journal Op R E A) (operations : List Op) : Journal Op R E A :=
  operations.foldl (perform conflict body) journal

@[simp] theorem run_nil (journal : Journal Op R E A) : journal.run conflict body [] = journal := rfl

@[simp] theorem run_cons (journal : Journal Op R E A) (operation : Op) (operations : List Op) :
    journal.run conflict body (operation :: operations) =
      (journal.perform conflict body operation).run conflict body operations := rfl

theorem run_append (journal : Journal Op R E A) (front back : List Op) :
    journal.run conflict body (front ++ back) =
      (journal.run conflict body front).run conflict body back := by
  simp [run]

/-- The entries of a run extend those it started from, one for each operation. -/
theorem run_entries (journal : Journal Op R E A) (operations : List Op) :
    ∃ later, (journal.run conflict body operations).entries = journal.entries ++ later ∧
      later.map Prod.fst = operations := by
  induction operations generalizing journal with
  | nil => exact ⟨[], by simp⟩
  | cons operation operations ih =>
      obtain ⟨later, entries, names⟩ := ih (journal.perform conflict body operation)
      refine ⟨(operation, ((body operation).atomically conflict journal.rows).1) :: later, ?_, ?_⟩
      · rw [run_cons, entries, perform, List.append_assoc]
        rfl
      · rw [List.map_cons, names]

theorem start_run_entries (rows : List R) (operations : List Op) :
    ((start rows).run conflict body operations).entries.map Prod.fst = operations := by
  obtain ⟨later, entries, names⟩ := run_entries conflict body (start rows) operations
  rw [entries]
  exact names

/-- **Induction over a run.**  What the start satisfies and every transaction
preserves holds at the end. -/
theorem run_induction {motive : Journal Op R E A → Prop} {journal : Journal Op R E A}
    {operations : List Op} (base : motive journal)
    (step : ∀ journal', ∀ operation ∈ operations, motive journal' →
      motive (journal'.perform conflict body operation)) :
    motive (journal.run conflict body operations) := by
  induction operations generalizing journal with
  | nil => exact base
  | cons operation operations ih =>
      exact ih (step journal operation List.mem_cons_self base)
        fun journal' later member => step journal' later (List.mem_cons_of_mem _ member)

/-! ## Entries and the events they report -/

section Reports

variable {α : Type u} {β : Type v} {Reports : α → β → Prop} {entries : List α} {events : List β}

theorem exists_reported (reports : List.Forall₂ Reports entries events) {entry : α}
    (member : entry ∈ entries) : ∃ event ∈ events, Reports entry event := by
  induction reports with
  | nil => cases member
  | cons head _ ih =>
      rcases List.mem_cons.mp member with rfl | later
      · exact ⟨_, List.mem_cons_self, head⟩
      · obtain ⟨event, eventMember, reported⟩ := ih later
        exact ⟨event, List.mem_cons_of_mem _ eventMember, reported⟩

theorem exists_reporting (reports : List.Forall₂ Reports entries events) {event : β}
    (member : event ∈ events) : ∃ entry ∈ entries, Reports entry event := by
  induction reports with
  | nil => cases member
  | cons head _ ih =>
      rcases List.mem_cons.mp member with rfl | later
      · exact ⟨_, List.mem_cons_self, head⟩
      · obtain ⟨entry, entryMember, reported⟩ := ih later
        exact ⟨entry, List.mem_cons_of_mem _ entryMember, reported⟩

end Reports

end Journal

end ReadCommitted
