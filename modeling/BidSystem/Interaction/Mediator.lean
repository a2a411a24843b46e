import BidSystem.Interaction.Program
import Mathlib.Tactic.Common

/-!
# Programs with a mediator

A mediator stands between a program and the world: it sees every answer before the
program does, may replace it, and keeps a state of its own.  The calls of the program
are not changed.

* `mediate` — a program behind a mediator, with the last state of the mediator.
* `observed` — the calls of a program with the answers that reach it.
* `inside` — a mediator behind another one.
* `exec_bind`, `mediate_bind`, `exec_mediate_mediate` — a stack of mediators, each with
  something to do after the program, is one mediator and what is done after it.
-/

namespace Interaction

universe u v

namespace Program

variable {Call : Type} {Answer : Call → Type} {A B : Type u} {World : Type v}

/-! ## One program after the other -/

/-- Go on with the result of a program. -/
def bind : Program Call Answer A → (A → Program Call Answer B) → Program Call Answer B
  | .done result, next => next result
  | .call request resume, next => .call request fun answer => (resume answer).bind next

theorem exec_bind (serve : (request : Call) → World → Answer request × World)
    (program : Program Call Answer A) (next : A → Program Call Answer B) (world : World) :
    (program.bind next).exec serve world =
      (next (program.exec serve world).1).exec serve (program.exec serve world).2 := by
  induction program generalizing world with
  | done result => rfl
  | call request resume ih => exact ih _ _

/-! ## Mediators -/

/-- A call with its answer. -/
abbrev Exchange (Call : Type) (Answer : Call → Type) := (request : Call) × Answer request

/-- What becomes of an answer, and of the state of the mediator. -/
abbrev Mediator (Call : Type) (Answer : Call → Type) (State : Type u) :=
  State → (request : Call) → Answer request → Answer request × State

variable {State Outer : Type u}

/-- A program behind a mediator. -/
def mediate (mediator : Mediator Call Answer State) :
    Program Call Answer A → State → Program Call Answer (A × State)
  | .done result, state => .done (result, state)
  | .call request next, state => .call request fun answer =>
      (next (mediator state request answer).1).mediate mediator (mediator state request answer).2

/-- The calls of a program behind a mediator, with the answers that reach it. -/
def observed (mediator : Mediator Call Answer State)
    (serve : (request : Call) → World → Answer request × World) :
    Program Call Answer A → State → World → List (Exchange Call Answer)
  | .done _, _, _ => []
  | .call request next, state, world =>
      let served := serve request world
      let answered := mediator state request served.1
      ⟨request, answered.1⟩ :: (next answered.1).observed mediator serve answered.2 served.2

/-- A mediator behind another one: it sees what the other one makes of an answer. -/
def inside (inner : Mediator Call Answer State) (outer : Mediator Call Answer Outer) :
    Mediator Call Answer (State × Outer) := fun state request answer =>
  let passed := outer state.2 request answer
  let answered := inner state.1 request passed.1
  (answered.1, (answered.2, passed.2))

theorem mediate_bind (mediator : Mediator Call Answer State) (program : Program Call Answer A)
    (next : A → Program Call Answer B) (state : State) :
    (program.bind next).mediate mediator state =
      (program.mediate mediator state).bind fun ran => (next ran.1).mediate mediator ran.2 := by
  induction program generalizing state with
  | done result => rfl
  | call request resume ih =>
      rw [bind, mediate, mediate, bind]
      congr 1
      funext answer
      exact ih _ _

/-- **Two mediators are one.** -/
theorem exec_mediate_mediate (serve : (request : Call) → World → Answer request × World)
    (inner : Mediator Call Answer State) (outer : Mediator Call Answer Outer)
    (program : Program Call Answer A) (state : State) (outerState : Outer) (world : World) :
    ((program.mediate inner state).mediate outer outerState).exec serve world =
      let ran := (program.mediate (inside inner outer) (state, outerState)).exec serve world
      (((ran.1.1, ran.1.2.1), ran.1.2.2), ran.2) := by
  induction program generalizing state outerState world with
  | done result => rfl
  | call request next ih => exact ih _ _ _ _

end Program

end Interaction
