import Mathlib.Logic.Function.Basic

/-!
# Programs that call a shared world

A `Program` makes one call after the other and goes on with their answers.
Between two calls of a program the world may be called by others.

* `exec` — a program alone: `serve` answers each call and changes the world.
* `Callers.run` — many programs at once: a schedule names the caller whose
  pending call is served next.
* `Callers.run_induction` — what holds at first and is kept by every served
  call holds after every schedule.

An answer may depend on an oracle, which stands for whatever the world decides
by itself, such as whether a call fails.
-/

namespace Interaction

universe u v

/-- A program: a result, or a call and what to do with its answer. -/
inductive Program (Call : Type) (Answer : Call → Type) (A : Type u) where
  | done (result : A)
  | call (request : Call) (next : Answer request → Program Call Answer A)

variable {Call : Type} {Answer : Call → Type} {A : Type u} {World : Type v} {Oracle : Type}

namespace Program

/-- The result of a program that makes no more calls. -/
def result? : Program Call Answer A → Option A
  | .done result => some result
  | .call _ _ => none

@[simp] theorem result?_done (result : A) :
    (done result : Program Call Answer A).result? = some result := rfl

@[simp] theorem result?_call (request : Call) (next : Answer request → Program Call Answer A) :
    (call request next).result? = none := rfl

/-- A program alone with the world. -/
def exec (serve : (request : Call) → World → Answer request × World) :
    Program Call Answer A → World → A × World
  | .done result, world => (result, world)
  | .call request next, world =>
      let served := serve request world
      (next served.1).exec serve served.2

variable {serve : (request : Call) → World → Answer request × World}

@[simp] theorem exec_done (result : A) (world : World) :
    (done result : Program Call Answer A).exec serve world = (result, world) := rfl

@[simp] theorem exec_call (request : Call) (next : Answer request → Program Call Answer A)
    (world : World) :
    (call request next).exec serve world =
      (next (serve request world).1).exec serve (serve request world).2 := rfl

/-- What every call keeps, a program alone keeps. -/
theorem exec_induction {Keeps : World → Prop} (program : Program Call Answer A)
    (kept : ∀ request world, Keeps world → Keeps (serve request world).2) {world : World}
    (holds : Keeps world) : Keeps (program.exec serve world).2 := by
  induction program generalizing world with
  | done result => exact holds
  | call request next ih => exact ih _ (kept request world holds)

/-- What is left of a program after some of its calls. -/
def advance (serve : (request : Call) → World → Answer request × World) :
    Nat → Program Call Answer A → World → Program Call Answer A × World
  | 0, program, world => (program, world)
  | _ + 1, .done result, world => (.done result, world)
  | calls + 1, .call request next, world =>
      let served := serve request world
      advance serve calls (next served.1) served.2

theorem advance_done (calls : Nat) (result : A) (world : World) :
    (done result : Program Call Answer A).advance serve calls world = (.done result, world) := by
  cases calls <;> rfl

theorem advance_call {request : Call} {next : Answer request → Program Call Answer A}
    {world world' : World} {answer : Answer request} (served : serve request world = (answer, world'))
    (calls : Nat) :
    (call request next).advance serve (calls + 1) world =
      (next answer).advance serve calls world' := by
  rw [advance, served]

end Program

/-! ## Many callers -/

/-- The world and what each caller still has to do. -/
structure Callers (Caller : Type) (Call : Type) (Answer : Call → Type) (A : Type u)
    (World : Type v) where
  world : World
  program : Caller → Program Call Answer A

namespace Callers

variable {Caller : Type} [DecidableEq Caller]
  {serve : Oracle → (request : Call) → World → Answer request × World}

/-- Serve the pending call of a caller; a caller without one does nothing. -/
def step (serve : Oracle → (request : Call) → World → Answer request × World)
    (callers : Callers Caller Call Answer A World) (turn : Caller × Oracle) :
    Callers Caller Call Answer A World :=
  match callers.program turn.1 with
  | .done _ => callers
  | .call request next =>
      let served := serve turn.2 request callers.world
      { world := served.2
        program := Function.update callers.program turn.1 (next served.1) }

/-- Serve the callers in the order of a schedule. -/
def run (serve : Oracle → (request : Call) → World → Answer request × World) :
    List (Caller × Oracle) → Callers Caller Call Answer A World →
      Callers Caller Call Answer A World
  | [], callers => callers
  | turn :: schedule, callers => run serve schedule (callers.step serve turn)

variable {callers : Callers Caller Call Answer A World}

theorem step_of_done {turn : Caller × Oracle} {result : A}
    (finished : callers.program turn.1 = .done result) : callers.step serve turn = callers := by
  rw [step, finished]

theorem step_of_call {turn : Caller × Oracle} {request : Call}
    {next : Answer request → Program Call Answer A}
    (pending : callers.program turn.1 = .call request next) :
    callers.step serve turn =
      { world := (serve turn.2 request callers.world).2
        program := Function.update callers.program turn.1
          (next (serve turn.2 request callers.world).1) } := by
  rw [step, pending]

theorem run_append (first second : List (Caller × Oracle)) :
    callers.run serve (first ++ second) = (callers.run serve first).run serve second := by
  induction first generalizing callers with
  | nil => rfl
  | cons turn first ih => exact ih

/-- A caller that is served alone for a while. -/
theorem run_replicate (calls : Nat) (caller : Caller) (oracle : Oracle) :
    callers.run serve (List.replicate calls (caller, oracle)) =
      { world := ((callers.program caller).advance (serve oracle) calls callers.world).2
        program := Function.update callers.program caller
          ((callers.program caller).advance (serve oracle) calls callers.world).1 } := by
  induction calls generalizing callers with
  | zero =>
      show callers = _
      rw [Program.advance, Function.update_eq_self]
  | succ calls ih =>
      rw [List.replicate_succ, run]
      cases pending : callers.program caller with
      | done result =>
          rw [step_of_done pending, ih, pending, Program.advance_done, Program.advance_done]
      | call request next =>
          rw [step_of_call pending, ih]
          dsimp only
          rw [Function.update_self, Function.update_idem]
          rfl

/-- **What every allowed call keeps holds after every allowed schedule.** -/
theorem run_induction {Keeps : Callers Caller Call Answer A World → Prop}
    {Allowed : Caller × Oracle → Prop}
    (kept : ∀ (callers : Callers Caller Call Answer A World) (caller : Caller) (oracle : Oracle)
      (request : Call) (next : Answer request → Program Call Answer A),
      Keeps callers → Allowed (caller, oracle) → callers.program caller = .call request next →
        Keeps {
          world := (serve oracle request callers.world).2
          program := Function.update callers.program caller
            (next (serve oracle request callers.world).1) })
    {schedule : List (Caller × Oracle)} (allowed : ∀ turn ∈ schedule, Allowed turn)
    (holds : Keeps callers) : Keeps (callers.run serve schedule) := by
  induction schedule generalizing callers with
  | nil => exact holds
  | cons turn schedule ih =>
      have later : ∀ turn ∈ schedule, Allowed turn :=
        fun turn member => allowed turn (List.mem_cons_of_mem _ member)
      rw [run]
      cases pending : callers.program turn.1 with
      | done result =>
          rw [step_of_done pending]
          exact ih later holds
      | call request next =>
          rw [step_of_call pending]
          exact ih later (kept callers turn.1 turn.2 request next holds
            (allowed turn List.mem_cons_self) pending)

end Callers

end Interaction
