import BidSystem.ReadCommitted.Program

/-!
# Interleaved transactions under READ COMMITTED

The concurrent reading of `Prog`.  Every statement takes its own snapshot of
the committed state.  A locking statement (`SELECT ... FOR UPDATE`, `UPDATE`)
first collects the rows its snapshot matches and then visits them one by one,
in any order: it waits while another open transaction holds a row, and once it
gets the row it re-checks the filter on the latest committed version.  Locks and
uncommitted versions last until the transaction ends.

A run is a list of labels.  `Sys.step` is a partial function of the label, so a
label that is not enabled, such as a visit of a row somebody else holds, has no
step: waiting is the absence of a step.  A transaction may crash at any moment.
-/

namespace ReadCommitted

universe u v w z

/-- What one transaction does next. -/
inductive Action where
  /-- Start the next statement, end the current scan, or end the transaction. -/
  | advance
  /-- Visit the row at a position of the current scan. -/
  | visit (position : ℕ)
  /-- Lose the connection: roll back. -/
  | crash
deriving DecidableEq, Repr

/-- A label of a run: a transaction and its action. -/
abbrev Label := TxId × Action

variable {R : Type u} {C : Type v} {E : Type w} {A : Type z}

/-- A locking statement under way. -/
structure Scan (R : Type u) (C : Type v) (E : Type w) (A : Type z) where
  /-- Positions of snapshot rows not visited yet. -/
  todo : List ℕ
  /-- Rows locked so far. -/
  found : List R
  filter : R → Bool
  /-- The new version of each locked row; `none` only locks. -/
  assign : Option (R → R)
  resume : List R → Prog R C E A

/-- The state of one transaction. -/
inductive Status (R : Type u) (C : Type v) (E : Type w) (A : Type z) where
  | running (body : Prog R C E A)
  | scanning (scan : Scan R C E A)
  | committed (result : A)
  /-- Rolled back, by the body's error or (`none`) by a crash. -/
  | aborted (error : Option E)

/-- The transaction may still issue statements. -/
def Status.isOpen : Status R C E A → Bool
  | .running _ => true
  | .scanning _ => true
  | .committed _ => false
  | .aborted _ => false

/-- The result a transaction has committed with. -/
def Status.result : Status R C E A → Option A
  | .committed result => some result
  | _ => none

theorem Status.result_eq_some {status : Status R C E A} {result : A} :
    status.result = some result ↔ status = .committed result := by
  cases status <;> simp [Status.result]

/-- Positions of the rows that `tx` sees and `filter` accepts. -/
def Table.candidates (tx : TxId) (filter : R → Bool) (table : Table R) : List ℕ :=
  (List.range table.length).filter fun position =>
    (table[position]?.bind (Slot.visible tx)).any filter

/-- What a scan leaves in a row it accepts. -/
def Slot.touch (tx : TxId) (assign : Option (R → R)) (version : R) (slot : Slot R) : Slot R :=
  match assign with
  | none => slot.lock tx
  | some assign => slot.write tx (assign version)

/-- An insert waits while another open transaction has an uncommitted version
of a row it would conflict with. -/
def Table.insertWaits (conflict : Prog.Conflict R C) (tx : TxId) (row : R) (table : Table R) :
    Bool :=
  table.any fun slot =>
    match slot.holder with
    | some (holder, some version) =>
        holder != tx && ((conflict version row).isSome ||
          slot.committed.any fun old => (conflict old row).isSome)
    | _ => false

/-- One visit of a scan: the slot must be available, its filter is re-checked
on the version now current, and only an accepted row is locked. -/
def Scan.visit (tx : TxId) (table : Table R) (scan : Scan R C E A) (position : ℕ) :
    Option (Table R × Scan R C E A) :=
  if position ∈ scan.todo then
    match table[position]? with
    | none => none
    | some slot =>
        if slot.available tx then
          let rest := { scan with todo := scan.todo.erase position }
          match slot.visible tx with
          | none => some (table, rest)
          | some version =>
              if scan.filter version then
                some (table.set position (slot.touch tx scan.assign version),
                  { rest with found := scan.found ++ [version] })
              else some (table, rest)
        else none
  else none

/-- One action of one transaction, on the shared table and its own state. -/
def Status.step (conflict : Prog.Conflict R C) (tx : TxId) (table : Table R) :
    Status R C E A → Action → Option (Table R × Status R C E A)
  | .running (.done result), .advance =>
      some (table.map (Slot.publish tx), .committed result)
  | .running (.raise error), .advance =>
      some (table.map (Slot.discard tx), .aborted (some error))
  | .running (.select filter next), .advance =>
      some (table, .running (next ((Table.visibleRows tx table).filter filter)))
  | .running (.lockRows filter next), .advance =>
      some (table, .scanning
        { todo := Table.candidates tx filter table, found := [], filter := filter
          assign := none, resume := next })
  | .running (.update filter assign next), .advance =>
      some (table, .scanning
        { todo := Table.candidates tx filter table, found := [], filter := filter
          assign := some assign, resume := fun rows => next rows.length })
  | .running (.insert row next), .advance =>
      if Table.insertWaits conflict tx row table then none
      else
        match Prog.violated conflict (Table.visibleRows tx table) row with
        | some constraint => some (table, .running (next (some constraint)))
        | none => some (table ++ [Slot.inserted tx row], .running (next none))
  | .scanning scan, .advance =>
      if scan.todo = [] then some (table, .running (scan.resume scan.found)) else none
  | .scanning scan, .visit position =>
      (scan.visit tx table position).map fun (table', scan') => (table', .scanning scan')
  | .running _, .crash => some (table.map (Slot.discard tx), .aborted none)
  | .scanning _, .crash => some (table.map (Slot.discard tx), .aborted none)
  | _, _ => none

/-- The shared table and every transaction's state. -/
structure Sys (R : Type u) (C : Type v) (E : Type w) (A : Type z) where
  table : Table R
  status : TxId → Status R C E A

namespace Sys

variable {conflict : Prog.Conflict R C} {s s' : Sys R C E A}

/-- Committed rows that nobody holds, and every transaction at its first statement. -/
def start (rows : List R) (bodies : TxId → Prog R C E A) : Sys R C E A where
  table := Table.settled rows
  status tx := .running (bodies tx)

/-- One labelled step. -/
def step (conflict : Prog.Conflict R C) (s : Sys R C E A) (label : Label) :
    Option (Sys R C E A) :=
  (Status.step conflict label.1 s.table (s.status label.1) label.2).map fun (table', status') =>
    { table := table', status := Function.update s.status label.1 status' }

/-- A finite interleaving. -/
def run (conflict : Prog.Conflict R C) (s : Sys R C E A) : List Label → Option (Sys R C E A)
  | [] => some s
  | label :: labels => (s.step conflict label).bind fun s' => s'.run conflict labels

@[simp] theorem run_nil : s.run conflict [] = some s := rfl

theorem run_cons (label : Label) (labels : List Label) :
    s.run conflict (label :: labels) =
      (s.step conflict label).bind fun s' => s'.run conflict labels := rfl

theorem run_append (front back : List Label) :
    s.run conflict (front ++ back) =
      (s.run conflict front).bind fun s' => s'.run conflict back := by
  induction front generalizing s with
  | nil => rfl
  | cons label front ih =>
      rw [List.cons_append, run_cons, run_cons, Option.bind_assoc]
      exact congrArg _ (funext fun s' => ih)

/-- A step is one transaction's action on the table; the others keep their state. -/
theorem step_eq_some_iff {label : Label} :
    s.step conflict label = some s' ↔
      ∃ table' status',
        Status.step conflict label.1 s.table (s.status label.1) label.2 =
            some (table', status') ∧
          s' = { table := table', status := Function.update s.status label.1 status' } := by
  unfold step
  constructor
  · intro stepped
    obtain ⟨⟨table', status'⟩, moved, rfl⟩ := Option.map_eq_some_iff.mp stepped
    exact ⟨table', status', moved, rfl⟩
  · rintro ⟨table', status', moved, rfl⟩
    rw [moved]
    rfl

/-- A transaction that has ended does not move. -/
theorem isOpen_of_step {label : Label} (stepped : s.step conflict label = some s') :
    (s.status label.1).isOpen = true := by
  obtain ⟨table', status', moved, -⟩ := step_eq_some_iff.mp stepped
  cases status : s.status label.1 with
  | running body => rfl
  | scanning scan => rfl
  | committed result =>
      rw [status] at moved
      cases action : label.2 <;> rw [action] at moved <;> cases moved
  | aborted error =>
      rw [status] at moved
      cases action : label.2 <;> rw [action] at moved <;> cases moved

/-- A step leaves the state of the other transactions alone. -/
theorem status_of_ne {label : Label} (stepped : s.step conflict label = some s') {tx : TxId}
    (other : tx ≠ label.1) : s'.status tx = s.status tx := by
  obtain ⟨table', status', -, rfl⟩ := step_eq_some_iff.mp stepped
  exact Function.update_of_ne other ..

/-- **Invariant rule**: what every step preserves, every run preserves. -/
theorem run_induction {P : Sys R C E A → Prop}
    (preserved : ∀ {s s' : Sys R C E A} {label : Label},
      P s → s.step conflict label = some s' → P s')
    {labels : List Label} (holds : P s) (ran : s.run conflict labels = some s') : P s' := by
  induction labels generalizing s with
  | nil =>
      cases ran
      exact holds
  | cons label labels ih =>
      rw [run_cons, Option.bind_eq_some_iff] at ran
      obtain ⟨middle, stepped, rest⟩ := ran
      exact ih (preserved holds stepped) rest

/-- A run each of whose steps meets a condition on the state before it. -/
inductive RunsWithin (conflict : Prog.Conflict R C) (allowed : Sys R C E A → Label → Prop) :
    Sys R C E A → List Label → Sys R C E A → Prop
  | nil (s : Sys R C E A) : RunsWithin conflict allowed s [] s
  | cons {s s' last : Sys R C E A} {label : Label} {labels : List Label} (fine : allowed s label)
      (stepped : s.step conflict label = some s')
      (rest : RunsWithin conflict allowed s' labels last) :
      RunsWithin conflict allowed s (label :: labels) last

/-- Run as long as the condition is met. -/
def runWithin (conflict : Prog.Conflict R C) (allowed : Sys R C E A → Label → Prop)
    [∀ s label, Decidable (allowed s label)] (s : Sys R C E A) : List Label → Option (Sys R C E A)
  | [] => some s
  | label :: labels =>
      if allowed s label then
        (s.step conflict label).bind fun s' => s'.runWithin conflict allowed labels
      else none

theorem RunsWithin.of_runWithin {allowed : Sys R C E A → Label → Prop}
    [∀ s label, Decidable (allowed s label)] {labels : List Label}
    (ran : s.runWithin conflict allowed labels = some s') :
    RunsWithin conflict allowed s labels s' := by
  induction labels generalizing s with
  | nil =>
      cases ran
      exact .nil s'
  | cons label labels ih =>
      rw [runWithin] at ran
      split at ran
      · next fine =>
          obtain ⟨middle, stepped, rest⟩ := Option.bind_eq_some_iff.mp ran
          exact .cons fine stepped (ih rest)
      · cases ran

/-- **Invariant rule for conditional runs.** -/
theorem RunsWithin.induction {allowed : Sys R C E A → Label → Prop} {P : Sys R C E A → Prop}
    (preserved : ∀ {s s' : Sys R C E A} {label : Label},
      P s → allowed s label → s.step conflict label = some s' → P s')
    {labels : List Label} (ran : RunsWithin conflict allowed s labels s') (holds : P s) : P s' := by
  induction ran with
  | nil => exact holds
  | cons fine stepped _ ih => exact ih (preserved holds fine stepped)

end Sys

end ReadCommitted
