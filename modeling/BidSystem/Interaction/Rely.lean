import BidSystem.Interaction.Mediator
import BidSystem.Interaction.Handler

/-!
# Programs under interference

Callers of one world, each of which relies on what the others do to it.

* `Rules` — an invariant of the world and what a call may do to it.
* `Safe` — a program keeps the rules from a world on, whatever the others do in between, and
  its result satisfies a postcondition.
* `Safe.frame` — what the others cannot make false is there afterwards.
* `Safe.bind`, `Safe.relabel` — one program after the other, and calls of another kind.
* `Callers.Safe.run` — safe programs are safe in every state of every interleaving.
-/

namespace Interaction

universe u v

/-- An invariant of a world, and the changes that callers make and rely on. -/
structure Rules (World : Type v) where
  invariant : World → Prop
  rely : World → World → Prop
  refl : ∀ world, rely world world
  trans : ∀ {first second third}, rely first second → rely second third → rely first third

namespace Rules

variable {World : Type v} (rules : Rules World)

/-- What others do does not make it false. -/
def Stable (holds : World → Prop) : Prop :=
  ∀ {world later}, rules.rely world later → rules.invariant later → holds world → holds later

end Rules

namespace Program

variable {Call Call' : Type} {Answer : Call → Type} {Answer' : Call' → Type} {A B : Type u}
  {World : Type v} {Oracle : Type}

section Safe

variable (rules : Rules World)
  (serve : Oracle → (request : Call) → World → Answer request × World) (allowed : Oracle → Prop)

/-- The program keeps the rules from the world on. -/
def Safe (post : A → World → Prop) : Program Call Answer A → World → Prop
  | .done result, world => post result world
  | .call request next, world =>
      ∀ later, rules.rely world later → rules.invariant later →
        ∀ oracle, allowed oracle →
          rules.rely later (serve oracle request later).2 ∧
            rules.invariant (serve oracle request later).2 ∧
              (next (serve oracle request later).1).Safe post (serve oracle request later).2

variable {rules serve allowed} {post : A → World → Prop} {program : Program Call Answer A}
  {world later : World}

theorem safe_done {result : A} : (.done result : Program Call Answer A).Safe rules serve allowed
    post world ↔ post result world := Iff.rfl

theorem safe_call {request : Call} {next : Answer request → Program Call Answer A} :
    (.call request next : Program Call Answer A).Safe rules serve allowed post world ↔
      ∀ later, rules.rely world later → rules.invariant later →
        ∀ oracle, allowed oracle →
          rules.rely later (serve oracle request later).2 ∧
            rules.invariant (serve oracle request later).2 ∧
              (next (serve oracle request later).1).Safe rules serve allowed post
                (serve oracle request later).2 := Iff.rfl

-- No program is to be run in order to see what its safety says.
attribute [irreducible] Safe

/-- A safe program that has returned satisfies its postcondition. -/
theorem Safe.of_result? {result : A} (safe : program.Safe rules serve allowed post world)
    (returned : program.result? = some result) : post result world := by
  cases program with
  | done last =>
      cases returned
      exact safe_done.mp safe
  | call request next => cases returned

/-- A safe program is safe whatever the others have done. -/
theorem Safe.of_rely (safe : program.Safe rules serve allowed post world)
    (stable : ∀ result, rules.Stable (post result)) (moved : rules.rely world later)
    (kept : rules.invariant later) : program.Safe rules serve allowed post later := by
  cases program with
  | done result => exact safe_done.mpr (stable result moved kept (safe_done.mp safe))
  | call request next =>
      exact safe_call.mpr fun last further => safe_call.mp safe last (rules.trans moved further)

/-- Fewer oracles. -/
theorem Safe.restrict {allowed' : Oracle → Prop}
    (safe : program.Safe rules serve allowed post world)
    (admits : ∀ oracle, allowed' oracle → allowed oracle) :
    program.Safe rules serve allowed' post world := by
  induction program generalizing world with
  | done result => exact safe_done.mpr (safe_done.mp safe)
  | call request next ih =>
      refine safe_call.mpr fun later moved kept oracle admitted => ?_
      obtain ⟨within, invariant, rest⟩ :=
        safe_call.mp safe later moved kept oracle (admits oracle admitted)
      exact ⟨within, invariant, ih _ rest⟩

/-- **What is stable is there afterwards.** -/
theorem Safe.frame {holds : World → Prop} (safe : program.Safe rules serve allowed post world)
    (stable : rules.Stable holds) (held : holds world) :
    program.Safe rules serve allowed (fun result later => post result later ∧ holds later)
      world := by
  induction program generalizing world with
  | done result => exact safe_done.mpr ⟨safe_done.mp safe, held⟩
  | call request next ih =>
      refine safe_call.mpr fun later moved kept oracle admitted => ?_
      obtain ⟨within, invariant, rest⟩ := safe_call.mp safe later moved kept oracle admitted
      exact ⟨within, invariant, ih _ rest (stable within invariant (stable moved kept held))⟩

/-- **One program after the other.** -/
theorem Safe.bind {next : A → Program Call Answer B} {post' : B → World → Prop}
    (safe : program.Safe rules serve allowed post world)
    (rest : ∀ result later, post result later → (next result).Safe rules serve allowed post' later) :
    (program.bind next).Safe rules serve allowed post' world := by
  induction program generalizing world with
  | done result => exact rest result world (safe_done.mp safe)
  | call request following ih =>
      refine safe_call.mpr fun later moved kept oracle admitted => ?_
      obtain ⟨within, invariant, further⟩ := safe_call.mp safe later moved kept oracle admitted
      exact ⟨within, invariant, ih _ further⟩

end Safe

/-- **Calls of another kind**: a program is safe if it is so with the calls its own stand for. -/
theorem Safe.relabel {A : Type} {rules : Rules World} {allowed : Oracle → Prop}
    {serve' : Oracle → (request : Call') → World → Answer' request × World}
    {stands : Call → Call'} {post : A → World → Prop}
    {program : Program Call (fun request => Answer' (stands request)) A} {world : World}
    (safe : program.Safe rules (fun oracle request => serve' oracle (stands request)) allowed post
      world) :
    (program.relabel stands).Safe rules serve' allowed post world := by
  induction program generalizing world with
  | done result => exact safe_done.mpr (safe_done.mp safe)
  | call request next ih =>
      refine safe_call.mpr fun later moved kept oracle admitted => ?_
      obtain ⟨within, invariant, further⟩ := safe_call.mp safe later moved kept oracle admitted
      exact ⟨within, invariant, ih _ further⟩

end Program

namespace Callers

variable {Caller Oracle Call : Type} [DecidableEq Caller] {Answer : Call → Type} {A : Type u}
  {World : Type v} {serve : Oracle → (request : Call) → World → Answer request × World}

/-- Every caller is safe, in a world with the invariant. -/
structure Safe (rules : Rules World)
    (serve : Oracle → (request : Call) → World → Answer request × World)
    (allowed : Caller → Oracle → Prop) (post : Caller → A → World → Prop)
    (callers : Callers Caller Call Answer A World) : Prop where
  invariant : rules.invariant callers.world
  program : ∀ caller, (callers.program caller).Safe rules serve (allowed caller) (post caller)
    callers.world

/-- **Safe callers are safe after every allowed schedule**, and it changes the world only in
the way they rely on. -/
theorem Safe.run {rules : Rules World} {allowed : Caller → Oracle → Prop}
    {post : Caller → A → World → Prop} {callers : Callers Caller Call Answer A World}
    (safe : callers.Safe rules serve allowed post)
    (stable : ∀ caller result, rules.Stable (post caller result)) {schedule : List (Caller × Oracle)}
    (admitted : ∀ turn ∈ schedule, allowed turn.1 turn.2) :
    (callers.run serve schedule).Safe rules serve allowed post ∧
      rules.rely callers.world (callers.run serve schedule).world := by
  have step : ∀ (later : Callers Caller Call Answer A World) (caller : Caller) (oracle : Oracle)
      (request : Call) (next : Answer request → Program Call Answer A),
      later.Safe rules serve allowed post ∧ rules.rely callers.world later.world →
        allowed caller oracle → later.program caller = .call request next →
          let served : Callers Caller Call Answer A World := {
            world := (serve oracle request later.world).2
            program := Function.update later.program caller
              (next (serve oracle request later.world).1) }
          served.Safe rules serve allowed post ∧ rules.rely callers.world served.world := by
    rintro later caller oracle request next ⟨safe, moved⟩ admitted pending served
    have own := safe.program caller
    rw [pending] at own
    obtain ⟨within, invariant, rest⟩ := Program.safe_call.mp own later.world (rules.refl _)
      safe.invariant oracle admitted
    refine ⟨{ invariant, program := fun other => ?_ }, rules.trans moved within⟩
    by_cases same : other = caller
    · subst same
      rw [show served.program other = _ from Function.update_self ..]
      exact rest
    · rw [show served.program other = _ from Function.update_of_ne same ..]
      exact (safe.program other).of_rely (stable other) within invariant
  exact @run_induction _ _ _ _ _ _ _ serve callers _ (fun turn => allowed turn.1 turn.2) step
    schedule admitted ⟨safe, rules.refl _⟩

end Callers

end Interaction
