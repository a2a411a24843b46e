import BidSystem.Interaction.Mediator

/-!
# Programs that handle the calls of another program

A handler answers each call of a program by a program of its own, whose calls may be of
another kind, and keeps a state between the calls.

* `handle` — a program under a handler, with the last state of the handler.
* `handled` — the world with a handler in front of it.
* `exec_handle` — a program under a handler is the program alone with that world, so a
  stack of handlers is a program alone with a stack of worlds.
* `relabel` — a program whose calls stand for calls of another kind.
-/

namespace Interaction

namespace Program

variable {Call Call' : Type} {Answer : Call → Type} {Answer' : Call' → Type}
  {A B State World : Type}

/-- Make one call. -/
def ask (request : Call) : Program Call Answer (Answer request) := .call request .done

instance programMonad : Monad (Program Call Answer) where
  pure := .done
  bind := bind

@[simp] theorem pure_eq (result : A) : (pure result : Program Call Answer A) = .done result := rfl

@[simp] theorem done_bind (result : A) (next : A → Program Call Answer B) :
    ((.done result : Program Call Answer A) >>= next) = next result := rfl

section Exec

variable (serve : (request : Call) → World → Answer request × World)

@[simp] theorem exec_seq (program : Program Call Answer A) (next : A → Program Call Answer B)
    (world : World) :
    (program >>= next).exec serve world =
      (next (program.exec serve world).1).exec serve (program.exec serve world).2 :=
  exec_bind serve program next world

@[simp] theorem exec_ask (request : Call) (world : World) :
    (ask request : Program Call Answer (Answer request)).exec serve world =
      serve request world := rfl

end Exec

/-! ## Handlers -/

/-- What is done for each call, with a state that is kept. -/
abbrev Handler (Call : Type) (Answer : Call → Type) (Call' : Type) (Answer' : Call' → Type)
    (State : Type) :=
  State → (request : Call) → Program Call' Answer' (Answer request × State)

/-- A program under a handler. -/
def handle (handler : Handler Call Answer Call' Answer' State) :
    Program Call Answer A → State → Program Call' Answer' (A × State)
  | .done result, state => .done (result, state)
  | .call request next, state =>
      (handler state request).bind fun answered => (next answered.1).handle handler answered.2

/-- A world with a handler in front of it. -/
def handled (handler : Handler Call Answer Call' Answer' State)
    (serve : (request : Call') → World → Answer' request × World) :
    (request : Call) → State × World → Answer request × (State × World) :=
  fun request inner =>
    let ran := (handler inner.1 request).exec serve inner.2
    (ran.1.1, (ran.1.2, ran.2))

/-- **A program under a handler is the program alone** with the world behind the handler. -/
theorem exec_handle (handler : Handler Call Answer Call' Answer' State)
    (serve : (request : Call') → World → Answer' request × World)
    (program : Program Call Answer A) (state : State) (world : World) :
    (program.handle handler state).exec serve world =
      let ran := program.exec (handled handler serve) (state, world)
      ((ran.1, ran.2.1), ran.2.2) := by
  induction program generalizing state world with
  | done result => rfl
  | call request next ih =>
      rw [handle, exec_bind]
      exact ih _ _ _

/-! ## Calls of another kind -/

/-- A program that makes the calls its own calls stand for. -/
def relabel (stands : Call → Call') :
    Program Call (fun request => Answer' (stands request)) A → Program Call' Answer' A
  | .done result => .done result
  | .call request next => .call (stands request) fun answer => (next answer).relabel stands

theorem exec_relabel (stands : Call → Call')
    (serve : (request : Call') → World → Answer' request × World)
    (program : Program Call (fun request => Answer' (stands request)) A) (world : World) :
    (program.relabel stands).exec serve world =
      program.exec (fun request => serve (stands request)) world := by
  induction program generalizing world with
  | done result => rfl
  | call request next ih => exact ih _ _

end Program

end Interaction
