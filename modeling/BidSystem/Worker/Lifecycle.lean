import BidSystem.Bootstrap.Container
import Mathlib.Logic.Function.Basic

/-!
# The worker runtime

`WorkerRuntime`: a worker process keeps one event loop and one application container, starts
them for the first task and closes them when the process ends.

Its lock puts the calls in an order.  How a container is constructed, started and closed and
how an operation ends is any outcome; a run that fails to start may be tried again.

* `ensureStarted_of_new` — how a first start ends.
* `Coherent` — what holds between calls: the state says what the runtime holds.
* `coherent_runs` — over any run of calls.
* `worker_sound` — one container starts at most, and the first close closes it.
* `worker_releases` — all other containers have closed what they created.
-/

namespace BidSystem.Worker

open Interaction Bootstrap

variable {E A : Type}

/-! ## The runtime -/

/-- `WorkerRuntimeState`. -/
inductive WorkerRuntimeState where
  | new
  | started
  | closed
deriving DecidableEq, Repr

/-- An `asyncio.Runner`, named by the number of those created before it. -/
abbrev Runner := ℕ

/-- A container, named by the number of those constructed before it. -/
abbrev Container := ℕ

/-- The fields of a `WorkerRuntime`. -/
structure WorkerRuntime where
  runner : Option Runner := none
  container : Option Container := none
  state : WorkerRuntimeState := .new
deriving DecidableEq, Repr

/-- What the runtime raises. -/
inductive Raised (E : Type) where
  /-- An error of the container factory or of an operation. -/
  | raised (error : E)
  /-- An error of the container. -/
  | container (raised : Bootstrap.Raised E)
  | runtimeError (message : String)
deriving DecidableEq, Repr

/-- What the runtime does. -/
inductive Event where
  | runnerCreated (runner : Runner)
  | runnerClosed (runner : Runner)
  | constructed (container : Container)
  /-- The start of the container returned. -/
  | started (container : Container)
  /-- An operation was run with the container. -/
  | operated (container : Container)
  | closeAttempted (container : Container)
deriving DecidableEq, Repr

/-- A runtime, its containers and what it did. -/
structure World (E : Type) where
  runtime : WorkerRuntime := {}
  /-- How many runners were created. -/
  runners : ℕ := 0
  /-- How many containers were constructed. -/
  constructed : ℕ := 0
  containers : Container → Bootstrap.World E := fun _ => {}
  log : List Event := []

/-- Code of the runtime. -/
abbrev Runtime (E : Type) := Action (World E) (Raised E)

/-- Record an event. -/
def record (event : Event) : Runtime E Unit := fun world =>
  (.ok (), { world with log := world.log ++ [event] })

/-- Assign the fields of the runtime. -/
def assign (runtime : WorkerRuntime) : Runtime E Unit := fun world =>
  (.ok (), { world with runtime })

/-- `asyncio.Runner()`. -/
def createRunner : Runtime E Runner := fun world =>
  (.ok world.runners, { world with
    runners := world.runners + 1
    log := world.log ++ [.runnerCreated world.runners] })

/-- `runner.close()`. -/
def closeRunner (runner : Runner) : Runtime E Unit := record (.runnerClosed runner)

/-- `self._container_factory(self.settings)`. -/
def containerFactory (outcome : Option E) : Runtime E Container := fun world =>
  match outcome with
  | some error => (.error (.raised error), world)
  | none =>
      (.ok world.constructed, { world with
        constructed := world.constructed + 1
        log := world.log ++ [.constructed world.constructed] })

/-- Run code of a container. -/
def inContainer (container : Container) (code : Lifecycle E Unit) : Runtime E Unit :=
  fun world =>
    let ran := code (world.containers container)
    (ran.1.mapError .container,
      { world with containers := Function.update world.containers container ran.2 })

section
variable (outcomes : Outcomes E)

/-- `runner.run(container.start())`. -/
def startContainer (container : Container) : Runtime E Unit := do
  inContainer container (Bootstrap.start outcomes)
  record (.started container)

/-- `runner.run(container.close())`. -/
def closeContainer (container : Container) : Runtime E Unit := do
  record (.closeAttempted container)
  inContainer container (Bootstrap.close outcomes)

/-- `WorkerRuntime._ensure_started`. -/
def ensureStarted (factory : Option E) : Runtime E Container := fun world =>
  match world.runtime.state with
  | .closed => (.error (.runtimeError "Worker runtime is closed"), world)
  | .started =>
      match world.runtime.container with
      | none => (.error (.runtimeError "Started worker runtime has no container"), world)
      | some container => (.ok container, world)
  | .new =>
      (do
        let runner ← createRunner
        -- The factory is called outside of the `try`: the new runner is dropped if it raises.
        let container ← containerFactory factory
        (startContainer outcomes container).tryCatch fun error => do
          closeRunner runner
          Action.raise error
        assign { runner := some runner, container := some container, state := .started }
        pure container : Runtime E Container) world

/-- `WorkerRuntime._require_runner`. -/
def requireRunner : Runtime E Runner := fun world =>
  match world.runtime.runner with
  | none => (.error (.runtimeError "Worker runtime event loop is unavailable"), world)
  | some runner => (.ok runner, world)

/-- `runner.run(_await_operation(operation(container)))`: the operation leaves the lifecycle of
the container alone. -/
def execute (container : Container) (operation : Except E A) : Runtime E A := do
  record (.operated container)
  .ofExcept (operation.mapError .raised)

/-- `WorkerRuntime.run`. -/
def run (factory : Option E) (operation : Except E A) : Runtime E A := do
  let container ← ensureStarted outcomes factory
  let _ ← requireRunner
  execute container operation

/-- `WorkerRuntime.close`. -/
def close : Runtime E Unit := fun world =>
  if world.runtime.state = .closed then (.ok (), world)
  else
    (Action.tryFinally
      (match world.runtime.runner, world.runtime.container with
        | some _, some container => closeContainer outcomes container
        | _, _ => pure ())
      (do
        (match world.runtime.runner with
          | some runner => closeRunner runner
          | none => pure ())
        assign { runner := none, container := none, state := .closed })) world

end

/-- A call of the runtime, with how its steps end where they are reached. -/
inductive Call (E A : Type) where
  | run (factory : Option E) (outcomes : Outcomes E) (operation : Except E A)
  | close (outcomes : Outcomes E)

/-- The code of a call. -/
def Call.perform : Call E A → Runtime E (Option A)
  | .run factory outcomes operation => do
      let result ← Worker.run outcomes factory operation
      pure (some result)
  | .close outcomes => do
      Worker.close outcomes
      pure none

/-- Calls one after the other, whatever they raise. -/
def runs (calls : List (Call E A)) (world : World E) : World E :=
  calls.foldl (fun world call => (call.perform world).2) world

/-! ## What the log says -/

/-- The container whose start returned. -/
@[simp]
def Event.start : Event → Option Container
  | .started container => some container
  | _ => none

/-- The container whose close was attempted. -/
@[simp]
def Event.closeAttempt : Event → Option Container
  | .closeAttempted container => some container
  | _ => none

/-- The containers whose start returned, in order. -/
def startedContainers (log : List Event) : List Container := log.filterMap Event.start

/-- The containers whose close was attempted, in order. -/
def closeAttempts (log : List Event) : List Container := log.filterMap Event.closeAttempt

@[simp] theorem startedContainers_append (first second : List Event) :
    startedContainers (first ++ second) = startedContainers first ++ startedContainers second :=
  List.filterMap_append

@[simp] theorem closeAttempts_append (first second : List Event) :
    closeAttempts (first ++ second) = closeAttempts first ++ closeAttempts second :=
  List.filterMap_append

@[simp] theorem startedContainers_cons (event : Event) (log : List Event) :
    startedContainers (event :: log) = event.start.toList ++ startedContainers log := by
  rcases event with _ | _ | _ | _ | _ | _ <;> rfl

@[simp] theorem closeAttempts_cons (event : Event) (log : List Event) :
    closeAttempts (event :: log) = event.closeAttempt.toList ++ closeAttempts log := by
  rcases event with _ | _ | _ | _ | _ | _ <;> rfl

@[simp] theorem startedContainers_nil : startedContainers [] = [] := rfl

@[simp] theorem closeAttempts_nil : closeAttempts [] = [] := rfl

/-! ## What the code does -/

section
variable (outcomes : Outcomes E)

theorem startContainer_of_ok {container : Container} {world : World E}
    {after : Bootstrap.World E}
    (begun : Bootstrap.start outcomes (world.containers container) = (.ok (), after)) :
    startContainer outcomes container world = (.ok (), { world with
      containers := Function.update world.containers container after
      log := world.log ++ [.started container] }) := by
  have ran : inContainer container (Bootstrap.start outcomes) world = (.ok (), { world with
      containers := Function.update world.containers container after }) := by
    rw [inContainer, begun]
    rfl
  rw [startContainer, Action.bind_of_ok ran]
  rfl

theorem startContainer_of_error {container : Container} {world : World E}
    {raised : Bootstrap.Raised E} {after : Bootstrap.World E}
    (begun : Bootstrap.start outcomes (world.containers container) = (.error raised, after)) :
    startContainer outcomes container world = (.error (.container raised), { world with
      containers := Function.update world.containers container after }) := by
  apply Action.bind_of_error
  rw [inContainer, begun]
  rfl

/-- **How a first start ends**: no container is made, the container does not start, or the
runtime holds it. -/
theorem ensureStarted_of_new (factory : Option E) {world : World E}
    (unstarted : world.runtime.state = .new) :
    (∃ error, ensureStarted outcomes factory world = (.error (.raised error), { world with
      runners := world.runners + 1
      log := world.log ++ [.runnerCreated world.runners] })) ∨
    (∃ raised after, Bootstrap.start outcomes (world.containers world.constructed) =
        (.error raised, after) ∧
      ensureStarted outcomes factory world = (.error (.container raised), { world with
        runners := world.runners + 1
        constructed := world.constructed + 1
        containers := Function.update world.containers world.constructed after
        log := world.log ++ [.runnerCreated world.runners, .constructed world.constructed,
          .runnerClosed world.runners] })) ∨
    ∃ after, Bootstrap.start outcomes (world.containers world.constructed) = (.ok (), after) ∧
      ensureStarted outcomes factory world = (.ok world.constructed,
        { runtime :=
            { runner := some world.runners
              container := some world.constructed
              state := .started }
          runners := world.runners + 1
          constructed := world.constructed + 1
          containers := Function.update world.containers world.constructed after
          log := world.log ++ [.runnerCreated world.runners, .constructed world.constructed,
            .started world.constructed] }) := by
  unfold ensureStarted
  rw [unstarted]
  dsimp only
  rcases factory with _ | error
  case some => exact .inl ⟨error, rfl⟩
  right
  -- The world in which the container is started.
  let made : World E := { world with
    runners := world.runners + 1
    constructed := world.constructed + 1
    log := world.log ++ [.runnerCreated world.runners] ++ [.constructed world.constructed] }
  have created : createRunner world = (.ok world.runners, { world with
      runners := world.runners + 1
      log := world.log ++ [.runnerCreated world.runners] }) := rfl
  have constructed : containerFactory none { world with
      runners := world.runners + 1
      log := world.log ++ [.runnerCreated world.runners] } = (.ok world.constructed, made) := rfl
  rcases begun : Bootstrap.start outcomes (made.containers world.constructed) with
    ⟨raised | ⟨⟩, after⟩
  · refine .inl ⟨raised, after, rfl, ?_⟩
    rw [Action.bind_of_ok created, Action.bind_of_ok constructed]
    apply Action.bind_of_error
    rw [Action.tryCatch_of_error (startContainer_of_error outcomes begun)]
    simp [closeRunner, record, Action.bind_apply, Action.raise, made]
  · refine .inr ⟨after, rfl, ?_⟩
    rw [Action.bind_of_ok created, Action.bind_of_ok constructed,
      Action.bind_of_ok (Action.tryCatch_of_ok (startContainer_of_ok outcomes begun))]
    simp [assign, Action.bind_apply, Action.pure_apply, made]

/-- A runtime that has started starts nothing. -/
theorem ensureStarted_of_held (factory : Option E) {world : World E} {container : Container}
    (started : world.runtime.state = .started)
    (holds : world.runtime.container = some container) :
    ensureStarted outcomes factory world = (.ok container, world) := by
  rw [ensureStarted, started, holds]

theorem ensureStarted_of_closed (factory : Option E) {world : World E}
    (ended : world.runtime.state = .closed) :
    ensureStarted outcomes factory world =
      (.error (.runtimeError "Worker runtime is closed"), world) := by
  rw [ensureStarted, ended]

/-- The operation is run with the container that was ensured. -/
theorem run_of_ensured {factory : Option E} (operation : Except E A) {world world' : World E}
    {runner : Runner} {container : Container}
    (ensured : ensureStarted outcomes factory world = (.ok container, world'))
    (runs : world'.runtime.runner = some runner) :
    run outcomes factory operation world =
      (operation.mapError .raised,
        { world' with log := world'.log ++ [.operated container] }) := by
  have required : requireRunner world' = (.ok runner, world') := by
    rw [requireRunner, runs]
  rw [run, Action.bind_of_ok ensured, Action.bind_of_ok required]
  rfl

theorem run_of_raised {factory : Option E} (operation : Except E A) {world world' : World E}
    {raised : Raised E} (failed : ensureStarted outcomes factory world = (.error raised, world')) :
    run outcomes factory operation world = (.error raised, world') :=
  Action.bind_of_error failed

theorem close_of_closed {world : World E} (ended : world.runtime.state = .closed) :
    close outcomes world = (.ok (), world) := by
  rw [close, if_pos ended]

/-- A runtime that holds nothing has nothing to close. -/
theorem close_of_empty {world : World E} (opened : world.runtime.state ≠ .closed)
    (empty : world.runtime.runner = none) :
    close outcomes world =
      (.ok (), { world with runtime := { state := .closed } }) := by
  rw [close, if_neg opened, empty]
  rfl

/-- **A close resets the runtime**, whatever the close of its container raises. -/
theorem close_of_held {world : World E} {runner : Runner} {container : Container}
    (opened : world.runtime.state ≠ .closed) (runs : world.runtime.runner = some runner)
    (holds : world.runtime.container = some container) :
    close outcomes world =
      ((Bootstrap.close outcomes (world.containers container)).1.mapError .container,
        { world with
          runtime := { state := .closed }
          containers := Function.update world.containers container
            (Bootstrap.close outcomes (world.containers container)).2
          log := world.log ++ [.closeAttempted container, .runnerClosed runner] }) := by
  rw [close, if_neg opened, runs, holds]
  simp [Action.tryFinally, closeContainer, closeRunner, inContainer, record, assign,
    Action.bind_apply]

end

/-! ## Runs -/

/-- What the state says the runtime holds, and did. -/
inductive Holding (world : World E) : Prop where
  | new (state : world.runtime.state = .new) (stopped : world.runtime.runner = none)
      (empty : world.runtime.container = none)
      (starts : startedContainers world.log = []) (closes : closeAttempts world.log = [])
  | started (runner : Runner) (container : Container)
      (state : world.runtime.state = .started) (runs : world.runtime.runner = some runner)
      (holds : world.runtime.container = some container)
      (made : container < world.constructed)
      (begun : (world.containers container).container.state = .started)
      (opens : AllOpen (world.containers container))
      (starts : startedContainers world.log = [container])
      (closes : closeAttempts world.log = [])
  | closed (state : world.runtime.state = .closed) (stopped : world.runtime.runner = none)
      (empty : world.runtime.container = none)
      (starts : (startedContainers world.log).length ≤ 1)
      (closes : closeAttempts world.log = startedContainers world.log)

/-- What holds between the calls of a runtime. -/
structure Coherent (world : World E) : Prop where
  fresh : ∀ container, world.constructed ≤ container → world.containers container = {}
  owned : ∀ container, Owned (world.containers container)
  drained : ∀ container, world.runtime.container ≠ some container →
    (world.containers container).container.resources = []
  holding : Holding world

theorem coherent_initial : Coherent ({} : World E) where
  fresh _ _ := rfl
  owned _ := owned_fresh
  drained _ _ := rfl
  holding := .new rfl rfl rfl rfl rfl

section
variable (outcomes : Outcomes E)

/-- A container that was started owns its four resources. -/
theorem opens_of_start {after : Bootstrap.World E}
    (begun : Bootstrap.start outcomes {} = (.ok (), after)) :
    after.container.state = .started ∧ AllOpen after := by
  have state : after.container.state = .started := by
    have unstarted : ({} : Bootstrap.World E).container.state = .new := rfl
    rcases start_of_new outcomes unstarted with ⟨_, _, same⟩ | ⟨_, _, _, same⟩
    · rw [same] at begun
      cases begun
      rfl
    · rw [same] at begun
      cases begun
  have sound : StartedOwnsOpen (Bootstrap.start outcomes ({} : Bootstrap.World E)).2 :=
    (startedOwnsOpen_perform outcomes owned_fresh (fun started => nomatch started) .start).2
      fun same => nomatch same
  rw [begun] at sound
  exact ⟨state, sound state⟩

/-- A container that failed to start has closed what it created. -/
theorem drained_of_start {raised : Bootstrap.Raised E} {after : Bootstrap.World E}
    (begun : Bootstrap.start outcomes {} = (.error raised, after)) :
    after.container.resources = [] := by
  have ended := ended_of_endsOwnership outcomes (owned_fresh (E := E))
    (.inr ⟨rfl, rfl, raised, by rw [begun]⟩)
  rw [Bootstrap.Call.perform, begun] at ended
  exact ended.2

omit outcomes in
/-- A call that changes one container. -/
theorem Coherent.of_update {world world' : World E} {changed : Container}
    {after : Bootstrap.World E} (coherent : Coherent world)
    (containers : world'.containers = Function.update world.containers changed after)
    (grows : world.constructed ≤ world'.constructed) (made : changed < world'.constructed)
    (owned : Owned after)
    (drained : world'.runtime.container ≠ some changed → after.container.resources = [])
    (others : ∀ container ≠ changed, world'.runtime.container ≠ some container →
      world.runtime.container ≠ some container)
    (holding : Holding world') : Coherent world' := by
  refine ⟨fun container unmade => ?_, fun container => ?_, fun container free => ?_, holding⟩
  · rw [containers, Function.update_of_ne (Nat.ne_of_gt (Nat.lt_of_lt_of_le made unmade))]
    exact coherent.fresh container (Nat.le_trans grows unmade)
  · rcases eq_or_ne container changed with rfl | other
    · rwa [containers, Function.update_self]
    · rw [containers, Function.update_of_ne other]
      exact coherent.owned container
  · rcases eq_or_ne container changed with rfl | other
    · rw [containers, Function.update_self]
      exact drained free
    · rw [containers, Function.update_of_ne other]
      exact coherent.drained container (others container other free)

/-- What is known once a start was ensured. -/
structure Ensured (world : World E) (ended : Except (Raised E) Container × World E) : Prop where
  coherent : Coherent ended.2
  /-- Only a runtime that holds a runner goes on. -/
  runs : ∀ container, ended.1 = .ok container → ∃ runner, ended.2.runtime.runner = some runner
  unclosed : closeAttempts ended.2.log = closeAttempts world.log
  /-- The only guard that is met is that of a closed runtime. -/
  guard : ∀ message, ended.1 = .error (.runtimeError message) →
    message = "Worker runtime is closed"

/-- **Ensuring a start keeps what holds between calls.** -/
theorem Coherent.ensured {world : World E} (coherent : Coherent world) (factory : Option E) :
    Ensured world (ensureStarted outcomes factory world) := by
  rcases coherent.holding with ⟨state, stopped, empty, starts, closes⟩ |
    ⟨runner, container, state, runs, holds, made, begun, opens, starts, closes⟩ |
    ⟨state, stopped, empty, starts, closes⟩
  · have fresh := coherent.fresh world.constructed (Nat.le_refl _)
    rcases ensureStarted_of_new outcomes factory state with
      ⟨error, same⟩ | ⟨raised, after, begun, same⟩ | ⟨after, begun, same⟩
    · rw [same]
      refine ⟨⟨coherent.fresh, coherent.owned, coherent.drained, ?_⟩, ?_, by simp, ?_⟩
      · exact .new state stopped empty (by simp [starts]) (by simp [closes])
      · exact fun _ ended => by cases ended
      · exact fun _ ended => by cases ended
    · rw [fresh] at begun
      rw [same]
      refine ⟨coherent.of_update rfl (Nat.le_succ _) (Nat.lt_succ_self _) ?_ ?_ ?_ ?_, ?_,
        by simp, ?_⟩
      · simpa [begun] using owned_start outcomes (owned_fresh (E := E))
      · exact fun _ => drained_of_start outcomes begun
      · exact fun _ _ free => free
      · exact .new state stopped empty (by simp [starts]) (by simp [closes])
      · exact fun _ ended => by cases ended
      · exact fun _ ended => by cases ended
    · rw [fresh] at begun
      obtain ⟨started, opens⟩ := opens_of_start outcomes begun
      rw [same]
      refine ⟨coherent.of_update rfl (Nat.le_succ _) (Nat.lt_succ_self _) ?_ ?_ ?_ ?_,
        fun _ _ => ⟨_, rfl⟩, by simp, fun _ ended => by cases ended⟩
      · simpa [begun] using owned_start outcomes (owned_fresh (E := E))
      · exact fun free => absurd rfl free
      · intro container _ _
        rw [empty]
        simp
      · refine .started _ _ rfl rfl rfl (Nat.lt_succ_self _) ?_ ?_ (by simp [starts])
          (by simp [closes])
        · show (Function.update world.containers world.constructed after _).container.state = _
          rwa [Function.update_self]
        · show AllOpen (Function.update world.containers world.constructed after _)
          rwa [Function.update_self]
  · rw [ensureStarted_of_held outcomes factory state holds]
    exact ⟨coherent, fun _ _ => ⟨_, runs⟩, rfl, fun _ ended => by cases ended⟩
  · rw [ensureStarted_of_closed outcomes factory state]
    refine ⟨coherent, fun _ ended => ?_, rfl, fun _ ended => ?_⟩
    · cases ended
    · cases ended
      rfl

omit outcomes in
/-- Running an operation changes nothing that the runtime holds. -/
theorem Coherent.operated {world : World E} (coherent : Coherent world) (container : Container) :
    Coherent { world with log := world.log ++ [.operated container] } := by
  have starts : startedContainers (world.log ++ [.operated container]) =
      startedContainers world.log := by
    simp
  have closes : closeAttempts (world.log ++ [.operated container]) = closeAttempts world.log := by
    simp
  refine ⟨coherent.fresh, coherent.owned, coherent.drained, ?_⟩
  rcases coherent.holding with ⟨state, stopped, empty, none, unclosed⟩ |
    ⟨runner, held, state, runs, holds, made, begun, opens, one, unclosed⟩ |
    ⟨state, stopped, empty, one, closed⟩
  · exact .new state stopped empty (starts.trans none) (closes.trans unclosed)
  · exact .started runner held state runs holds made begun opens (starts.trans one) (closes.trans unclosed)
  · exact .closed state stopped empty (starts ▸ one) (closes.trans (closed.trans starts.symm))

/-- **A run** keeps what holds between calls, attempts no close and is guarded only where the
runtime is closed. -/
theorem Coherent.run {world : World E} (coherent : Coherent world) (factory : Option E)
    (operation : Except E A) :
    Coherent (run outcomes factory operation world).2 ∧
      closeAttempts (Worker.run outcomes factory operation world).2.log =
        closeAttempts world.log ∧
      ∀ message, (Worker.run outcomes factory operation world).1 = .error (.runtimeError message) →
        message = "Worker runtime is closed" := by
  have ensured := coherent.ensured outcomes factory
  rcases ended : ensureStarted outcomes factory world with ⟨raised | container, world'⟩
  · rw [ended] at ensured
    rw [run_of_raised outcomes operation ended]
    refine ⟨ensured.coherent, ensured.unclosed, fun message same => ?_⟩
    cases same
    exact ensured.guard message rfl
  · rw [ended] at ensured
    obtain ⟨runner, runs⟩ := ensured.runs container rfl
    rw [run_of_ensured outcomes operation ended runs]
    refine ⟨ensured.coherent.operated container, ?_, fun message same => ?_⟩
    · simpa using ensured.unclosed
    · rcases operation with error | result <;> cases same

/-- **A close** keeps what holds between calls, closes the runtime and meets no guard. -/
theorem Coherent.close {world : World E} (coherent : Coherent world) :
    Coherent (close outcomes world).2 ∧
      (Worker.close outcomes world).2.runtime.state = .closed ∧
      ∀ message, (Worker.close outcomes world).1 ≠ .error (.runtimeError message) := by
  rcases coherent.holding with ⟨state, stopped, empty, starts, closes⟩ |
    ⟨runner, container, state, runs, holds, made, begun, opens, starts, closes⟩ |
    ⟨state, stopped, empty, starts, closes⟩
  · rw [close_of_empty outcomes (by simp [state]) stopped]
    refine ⟨⟨coherent.fresh, coherent.owned, fun container _ => ?_, ?_⟩, rfl,
      fun _ same => by cases same⟩
    · exact coherent.drained container (by simp [empty])
    · exact .closed rfl rfl rfl (by simp [starts]) (by rw [closes, starts])
  · have owned := coherent.owned container
    rw [close_of_held outcomes (by simp [state]) runs holds]
    refine ⟨coherent.of_update rfl (Nat.le_refl _) made (owned_close outcomes owned) ?_ ?_ ?_, rfl,
      fun message => ?_⟩
    · exact fun _ => (ended_of_endsOwnership outcomes owned (.inl rfl)).2
    · intro other different _ same
      rw [holds] at same
      exact different (Option.some.inj same).symm
    · exact .closed rfl rfl rfl (by simp [starts]) (by simp [closes, starts])
    · -- What the close of the container raises is an error of the container.
      dsimp only
      rcases (Bootstrap.close outcomes (world.containers container)).1 with _ | _ <;>
      · intro same
        cases same
  · rw [close_of_closed outcomes state]
    exact ⟨coherent, state, fun _ same => by cases same⟩

end

theorem run_perform_snd (factory : Option E) (outcomes : Outcomes E) (operation : Except E A)
    (world : World E) : ((Call.run factory outcomes operation).perform world).2 =
      (run outcomes factory operation world).2 :=
  Action.bind_ofExcept_snd _ (fun result => .ok (some result)) world

theorem close_perform_snd (outcomes : Outcomes E) (world : World E) :
    ((Call.close outcomes : Call E A).perform world).2 = (close outcomes world).2 :=
  Action.bind_ofExcept_snd _ (fun _ => .ok none) world

/-- **A call keeps what holds between calls.** -/
theorem Coherent.perform {world : World E} (coherent : Coherent world) (call : Call E A) :
    Coherent (call.perform world).2 := by
  rcases call with ⟨factory, outcomes, operation⟩ | outcomes
  · rw [run_perform_snd]
    exact (coherent.run outcomes factory operation).1
  · rw [close_perform_snd]
    exact (coherent.close outcomes).1

/-- **Over any run of calls** the state says what the runtime holds. -/
theorem coherent_runs (calls : List (Call E A)) {world : World E} (coherent : Coherent world) :
    Coherent (runs calls world) := by
  induction calls generalizing world with
  | nil => exact coherent
  | cons call calls ih => exact ih (coherent.perform call)

/-- The only guard that a call meets is that of a closed runtime. -/
theorem Coherent.perform_raised {world : World E} (coherent : Coherent world) {call : Call E A}
    {message : String} (raised : (call.perform world).1 = .error (.runtimeError message)) :
    message = "Worker runtime is closed" := by
  have performed : call.perform world = (.error (.runtimeError message), (call.perform world).2) :=
    Prod.ext raised rfl
  rcases call with ⟨factory, outcomes, operation⟩ | outcomes
  · rcases Action.of_bind_error performed with first | ⟨_, _, _, last⟩
    · exact (coherent.run outcomes factory operation).2.2 message (congrArg Prod.fst first)
    · cases last
  · rcases Action.of_bind_error performed with first | ⟨_, _, _, last⟩
    · exact absurd (congrArg Prod.fst first) ((coherent.close outcomes).2.2 message)
    · cases last

theorem run_perform_of_closed (factory : Option E) (outcomes : Outcomes E)
    (operation : Except E A) {world : World E} (ended : world.runtime.state = .closed) :
    (Call.run factory outcomes operation).perform world =
      (.error (.runtimeError "Worker runtime is closed"), world) := by
  have refused := ensureStarted_of_closed outcomes factory ended
  exact Action.bind_of_error (run_of_raised outcomes operation refused)

/-- A closed runtime does nothing. -/
theorem perform_of_closed (call : Call E A) {world : World E}
    (ended : world.runtime.state = .closed) : (call.perform world).2 = world := by
  rcases call with ⟨factory, outcomes, operation⟩ | outcomes
  · rw [run_perform_of_closed factory outcomes operation ended]
  · rw [close_perform_snd, close_of_closed outcomes ended]

theorem runs_of_closed (calls : List (Call E A)) {world : World E}
    (ended : world.runtime.state = .closed) : runs calls world = world := by
  induction calls with
  | nil => rfl
  | cons call calls ih =>
      show runs calls (call.perform world).2 = world
      rw [perform_of_closed call ended, ih]

theorem runs_append (before after : List (Call E A)) (world : World E) :
    runs (before ++ after) world = runs after (runs before world) :=
  List.foldl_append

/-- No close is attempted before the first call of `close`. -/
theorem closeAttempts_runs {calls : List (Call E A)} {world : World E}
    (coherent : Coherent world) (none : closeAttempts world.log = [])
    (unclosed : ∀ outcomes, .close outcomes ∉ calls) :
    closeAttempts (runs calls world).log = [] := by
  induction calls generalizing world with
  | nil => exact none
  | cons call calls ih =>
      refine ih (coherent.perform call) ?_ fun outcomes member =>
        unclosed outcomes (List.mem_cons_of_mem _ member)
      rcases call with ⟨factory, outcomes, operation⟩ | outcomes
      · show closeAttempts ((Call.run factory outcomes operation).perform world).2.log = []
        rw [run_perform_snd, (coherent.run outcomes factory operation).2.1, none]
      · exact absurd List.mem_cons_self (unclosed outcomes)

/-- What is promised of the runtime over a run of calls. -/
structure Sound (calls : List (Call E A)) : Prop where
  /-- A runtime that is new or closed holds nothing. -/
  empty : (runs calls {}).runtime.state ≠ .started →
    (runs calls {}).runtime.runner = none ∧ (runs calls {}).runtime.container = none
  /-- A started runtime holds a runner and a container that was started. -/
  held : (runs calls {}).runtime.state = .started → ∃ runner container,
    (runs calls {}).runtime.runner = some runner ∧
      (runs calls {}).runtime.container = some container ∧
      .started container ∈ (runs calls {}).log ∧
      ((runs calls {}).containers container).container.state = .started
  /-- One container is started at most. -/
  one : (startedContainers (runs calls {}).log).length ≤ 1
  /-- No close is attempted before the first call of `close`, -/
  unclosed : (∀ outcomes, .close outcomes ∉ calls) → closeAttempts (runs calls {}).log = []
  /-- which attempts to close what was started; nothing is done after it. -/
  closed : ∀ before outcomes after, calls = before ++ .close outcomes :: after →
    closeAttempts (runs (before ++ [.close outcomes]) {}).log =
        startedContainers (runs (before ++ [.close outcomes]) {}).log ∧
      runs calls {} = runs (before ++ [.close outcomes]) {}
  /-- Calls of a closed runtime are refused, or do nothing. -/
  refused : (runs calls {}).runtime.state = .closed → ∀ call : Call E A,
    (call.perform (runs calls {})).2 = runs calls {} ∧
      ∀ factory outcomes operation, call = .run factory outcomes operation →
        (call.perform (runs calls {})).1 = .error (.runtimeError "Worker runtime is closed")
  /-- The other guards are not met. -/
  guards : ∀ (call : Call E A) message,
    (call.perform (runs calls {})).1 = .error (.runtimeError message) →
      message = "Worker runtime is closed"

/-- A run of calls with a close in it does what its calls up to the close do. -/
theorem runs_of_close (before : List (Call E A)) (outcomes : Outcomes E)
    (after : List (Call E A)) :
    (runs (before ++ [.close outcomes]) {}).runtime.state = .closed ∧
      runs (before ++ .close outcomes :: after) {} = runs (before ++ [.close outcomes]) {} := by
  have coherent := coherent_runs before (coherent_initial (E := E))
  have ended : (runs (before ++ [.close outcomes]) {}).runtime.state = .closed := by
    rw [runs_append]
    show ((Call.close outcomes : Call E A).perform (runs before {})).2.runtime.state = _
    rw [close_perform_snd]
    exact (coherent.close outcomes).2.1
  refine ⟨ended, ?_⟩
  rw [List.append_cons, runs_append, runs_of_closed after ended]

/-- **The runtime is sound over any run of calls**: its state says what it holds, it starts one
container at most, and the first close closes that. -/
theorem worker_sound (calls : List (Call E A)) : Sound calls := by
  have coherent := coherent_runs calls (coherent_initial (E := E))
  refine ⟨fun idle => ?_, fun started => ?_, ?_, ?_, ?_, fun ended call => ⟨?_, ?_⟩,
    fun call message raised => ?_⟩
  · rcases coherent.holding with ⟨_, stopped, empty, _⟩ | ⟨_, _, state, _⟩ |
      ⟨_, stopped, empty, _⟩
    · exact ⟨stopped, empty⟩
    · exact absurd state idle
    · exact ⟨stopped, empty⟩
  · rcases coherent.holding with ⟨state, _⟩ |
      ⟨runner, container, _, runs, holds, _, begun, _, starts, _⟩ | ⟨state, _⟩
    · rw [state] at started
      cases started
    · refine ⟨runner, container, runs, holds, ?_, begun⟩
      have member : container ∈ startedContainers (Worker.runs calls {}).log := by
        rw [starts]
        exact List.mem_singleton_self container
      obtain ⟨event, logged, same⟩ := List.mem_filterMap.1 member
      rcases event with _ | _ | _ | _ | _ | _ <;> cases same
      exact logged
    · rw [state] at started
      cases started
  · rcases coherent.holding with ⟨_, _, _, starts, _⟩ | ⟨_, _, _, _, _, _, _, _, starts, _⟩ |
      ⟨_, _, _, starts, _⟩
    · simp [starts]
    · simp [starts]
    · exact starts
  · exact closeAttempts_runs coherent_initial rfl
  · rintro before outcomes after rfl
    obtain ⟨ended, same⟩ := runs_of_close before outcomes after
    refine ⟨?_, same⟩
    rcases (coherent_runs (before ++ [.close outcomes]) coherent_initial).holding with
      ⟨state, _⟩ | ⟨_, _, state, _⟩ | ⟨_, _, _, _, closes⟩
    · rw [state] at ended
      cases ended
    · rw [state] at ended
      cases ended
    · exact closes
  · exact perform_of_closed call ended
  · rintro factory outcomes operation rfl
    rw [run_perform_of_closed factory outcomes operation ended]
  · exact coherent.perform_raised raised

/-- **The runtime leaks no resource**: in every state each container it does not hold has
closed what it created, the last first, and the one it holds owns its four resources. -/
theorem worker_releases (calls : List (Call E A)) (container : Container) :
    let world := runs calls ({} : World E)
    (world.runtime.container ≠ some container →
      Bootstrap.closeAttempts (world.containers container).log =
        (created (world.containers container).log).reverse) ∧
    (world.runtime.container = some container → AllOpen (world.containers container)) := by
  intro world
  have coherent : Coherent world := coherent_runs calls coherent_initial
  refine ⟨fun free => ?_, fun held => ?_⟩
  · have all := (coherent.owned container).reverse_created
    rw [coherent.drained container free, List.append_nil] at all
    exact all.symm
  · rcases coherent.holding with ⟨_, _, empty, _⟩ | ⟨_, _, _, _, holds, _, _, opens, _⟩ |
      ⟨_, _, empty, _⟩
    · rw [empty] at held
      cases held
    · rw [holds] at held
      obtain rfl := Option.some.inj held
      exact opens
    · rw [empty] at held
      cases held

end BidSystem.Worker
