import BidSystem.Bootstrap.Container

/-!
# The lifespan of the API process

`create_lifespan`: settings and telemetry are set up, a container is started, the initial
manager is provisioned, requests are served, and all of it is taken down.

How each call outside of this code ends is any `fails`; how resources are built and closed
is any `Outcomes`.  Serving may be interrupted like any call.

* `Ran` — what the body of the `try` does before it is left.
* `takeDown_snd` — what its `finally` does, whatever fails in it.
* `lifespan_law` — requests are served only by a container that owns its resources, and a
  container that was constructed is closed before telemetry is shut down, on every path.
-/

namespace BidSystem.Bootstrap

open Interaction Ownership

namespace Lifespan

variable {E : Type}

/-! ## The process -/

/-- The part of `TracingSettings` and of `MetricsSettings` that is read here. -/
structure SignalSettings where
  enabled : Bool
  otlpEndpoint : Option String
deriving DecidableEq, Repr

/-- The part of `AppSettings` that is read here. -/
structure Settings where
  tracing : SignalSettings
  metrics : SignalSettings
  authEnabled : Bool
  initialManagerUsername : Option String
  initialManagerPassword : Option String
deriving DecidableEq, Repr

/-- A call outside of this code. -/
inductive Point where
  | loadSettings
  | configureLogging
  | createTracerProvider
  | createMeterProvider
  | containerFactory
  /-- `BootstrapManagerHandler.handle` in its transaction. -/
  | bootstrapManager
  | serve
  | shutdownMeterProvider
  | shutdownTracerProvider
deriving DecidableEq, Repr

/-- What a lifespan raises. -/
inductive Raised (E : Type) where
  | raised (error : E)
  | valueError (message : String)
  | runtimeError (message : String)
  | container (raised : Bootstrap.Raised E)
deriving DecidableEq, Repr

/-- What happens in a lifespan. -/
inductive Event (E : Type) where
  | tracerProviderCreated
  | meterProviderCreated
  | containerConstructed
  | started
  | provisioned
  /-- Requests are served, with the container as it is. -/
  | serving (container : Bootstrap.World E)
  | closed
  | meterProviderShutDown
  | tracerProviderShutDown

/-- A process. -/
structure World (E : Type) where
  container : Bootstrap.World E := {}
  /-- `_ACTIVE_METRICS` records. -/
  activeMetrics : Bool := false
  log : List (Event E) := []

/-- Code of a process. -/
abbrev Process (E : Type) := Action (World E) (Raised E)

section

variable (fails : Point → Option E) (outcomes : Outcomes E) (settings : Settings)

/-- A call outside of this code. -/
def reach (point : Point) : Process E Unit := fun world =>
  match fails point with
  | some error => (.error (.raised error), world)
  | none => (.ok (), world)

/-- Record an event. -/
def record (event : Event E) : Process E Unit := fun world =>
  (.ok (), { world with log := world.log ++ [event] })

/-- Replace the metrics sink. -/
def setActiveMetrics (activeMetrics : Bool) : Process E Unit := fun world =>
  (.ok (), { world with activeMetrics })

/-- Run code of the container. -/
def inContainer (code : Lifecycle E Unit) : Process E Unit := fun world =>
  let ran := code world.container
  (ran.1.mapError .container, { world with container := ran.2 })

/-- `configure_tracing`: whether there is a provider. -/
def configureTracing (signal : SignalSettings) : Process E Bool :=
  if !signal.enabled then pure false
  else if signal.otlpEndpoint.isNone then
    Action.raise (.valueError "Tracing OTLP endpoint is required when tracing is enabled")
  else do
    reach fails .createTracerProvider
    record .tracerProviderCreated
    pure true

/-- `configure_metrics`: whether there is a provider. -/
def configureMetrics (signal : SignalSettings) : Process E Bool :=
  if !signal.enabled then do
    setActiveMetrics false
    pure false
  else if signal.otlpEndpoint.isNone then
    Action.raise (.valueError "Metrics OTLP endpoint is required when metrics are enabled")
  else do
    reach fails .createMeterProvider
    setActiveMetrics true
    record .meterProviderCreated
    pure true

/-- `shutdown_metrics`. -/
def shutdownMetrics (provider : Bool) : Process E Unit :=
  Action.tryFinally
    (if provider then do
      record .meterProviderShutDown
      reach fails .shutdownMeterProvider
    else pure ())
    (setActiveMetrics false)

/-- `shutdown_tracing`. -/
def shutdownTracing (provider : Bool) : Process E Unit :=
  if provider then do
    record .tracerProviderShutDown
    reach fails .shutdownTracerProvider
  else pure ()

/-- `_default_manager_provisioner`, with `provision_initial_manager`. -/
def provisionManager : Process E Unit := fun world =>
  if !settings.authEnabled then (.ok (), world)
  else if settings.initialManagerUsername.isNone || settings.initialManagerPassword.isNone then
    (.error (.runtimeError "Initial manager configuration is incomplete"), world)
  else if world.container.container.database.isNone then
    (.error (.runtimeError "Initialized database resource cannot create transactions"), world)
  else
    (do
      reach fails .bootstrapManager
      record .provisioned : Process E Unit) world

/-- The `yield` of the lifespan. -/
def serve : Process E Unit := fun world =>
  reach fails .serve { world with log := world.log ++ [.serving world.container] }

/-- The body of the `try` of the lifespan. -/
def body : Process E Unit := do
  inContainer (start outcomes)
  record .started
  provisionManager fails settings
  serve fails

/-- Its `finally`. -/
def takeDown (meterProvider tracerProvider : Bool) : Process E Unit :=
  Action.tryFinally
    (do
      record .closed
      inContainer (close outcomes))
    (do
      shutdownMetrics fails meterProvider
      shutdownTracing fails tracerProvider)

/-- What `lifespan` does before its `try`: the providers of the metrics and of the traces. -/
def setUp : Process E (Bool × Bool) := do
  reach fails .loadSettings
  reach fails .configureLogging
  let tracerProvider ← configureTracing fails settings.tracing
  let meterProvider ← configureMetrics fails settings.metrics
  reach fails .containerFactory
  record .containerConstructed
  pure (meterProvider, tracerProvider)

/-- `lifespan`. -/
def lifespan : Process E Unit := do
  let providers ← setUp fails settings
  Action.tryFinally (body fails outcomes settings)
    (takeDown fails outcomes providers.1 providers.2)

/-! ## What it does -/

/-- The providers that a set-up creates. -/
def setUps (tracerProvider meterProvider : Bool) : List (Event E) :=
  (if tracerProvider then [.tracerProviderCreated] else []) ++
    if meterProvider then [.meterProviderCreated] else []

/-- The providers that are shut down: that of the traces last, unless that of the metrics
fails. -/
def shutDowns (meterProvider tracerProvider : Bool) : List (Event E) :=
  (if meterProvider then [.meterProviderShutDown] else []) ++
    if tracerProvider ∧ ¬(meterProvider ∧ (fails .shutdownMeterProvider).isSome) then
      [.tracerProviderShutDown]
    else []

/-- How the body of the `try` was left, and with which container. -/
inductive Ran (settings : Settings) : List (Event E) → Bootstrap.World E → Prop
  | startFailed (container : Bootstrap.World E) : Ran settings [] container
  | provisionFailed (container : Bootstrap.World E) : Ran settings [.started] container
  | served (container : Bootstrap.World E) : Ran settings
      (.started :: ((if settings.authEnabled then [.provisioned] else []) ++ [.serving container]))
      container

theorem reach_snd (point : Point) (world : World E) : (reach fails point world).2 = world := by
  rw [reach]
  split <;> rfl

/-- What the initial manager leaves in the log. -/
theorem provisionManager_eq (world : World E) :
    (∃ raised, provisionManager fails settings world = (.error raised, world)) ∨
      provisionManager fails settings world = (.ok (), { world with
        log := world.log ++ if settings.authEnabled then [.provisioned] else [] }) := by
  rw [provisionManager]
  cases enabled : settings.authEnabled with
  | false =>
      refine .inr ?_
      simp
  | true =>
      rw [if_neg (by simp)]
      split
      · exact .inl ⟨_, rfl⟩
      · split
        · exact .inl ⟨_, rfl⟩
        · cases failed : fails .bootstrapManager with
          | some error =>
              refine .inl ⟨.raised error, ?_⟩
              rw [Action.bind_of_error]
              rw [reach, failed]
          | none =>
              refine .inr ?_
              rw [Action.bind_of_ok (by rw [reach, failed])]
              rfl

/-- What is known of a container that runs. -/
structure Opened (container : Bootstrap.World E) : Prop where
  state : container.container.state = .started
  allOpen : AllOpen container
  unclosed : closeAttempts container.log = []

/-- A container that has started has opened its resources. -/
theorem opened_of_start {container : Bootstrap.World E}
    (begun : start outcomes {} = (.ok (), container)) : Opened container := by
  have owned := owned_start outcomes (owned_fresh (E := E))
  have sound := (startedOwnsOpen_perform outcomes (owned_fresh (E := E)) nofun .start).2 nofun
  have state : container.container.state = .started := by
    have unstarted : ({} : Bootstrap.World E).container.state = .new := rfl
    rcases start_of_new outcomes unstarted with ⟨_, _, same⟩ | ⟨_, _, _, same⟩
    · rw [same] at begun
      cases begun
      rfl
    · rw [same] at begun
      cases begun
  rw [Call.perform, begun] at sound
  rw [begun] at owned
  have open' := sound state
  refine ⟨state, open', ?_⟩
  rcases owned.started state with ⟨_, unclosed⟩ | ⟨drained, some⟩
  · exact unclosed
  · by_contra attempted
    have ended := (startedOwnsOpen_iff owned).1 sound attempted
    rw [state] at ended
    cases ended

/-- The body, with a new container. -/
theorem body_snd {world : World E} (fresh : world.container = {}) :
    ∃ steps container, Ran settings steps container ∧ Owned container ∧
      (steps ≠ [] → Opened container) ∧
      (body fails outcomes settings world).2 =
        { world with container, log := world.log ++ steps } := by
  have owned := owned_start outcomes (owned_fresh (E := E))
  rcases begun : start outcomes ({} : Bootstrap.World E) with ⟨raised | ⟨⟩, container⟩
  · rw [begun] at owned
    have ran : inContainer (start outcomes) world =
        (.error (.container raised), { world with container }) := by
      rw [inContainer, fresh, begun]
      rfl
    refine ⟨[], container, .startFailed container, owned, fun some => absurd rfl some, ?_⟩
    rw [body, Action.bind_of_error ran, List.append_nil]
  · rw [begun] at owned
    have opened := opened_of_start outcomes begun
    have ran : inContainer (start outcomes) world = (.ok (), { world with container }) := by
      rw [inContainer, fresh, begun]
      rfl
    have recorded : (record .started : Process E Unit) { world with container } =
        (.ok (), { world with container, log := world.log ++ [.started] }) := rfl
    rw [body, Action.bind_of_ok ran, Action.bind_of_ok recorded]
    rcases provisionManager_eq fails settings { world with
      container, log := world.log ++ [.started] } with ⟨raised, failed⟩ | provisioned
    · refine ⟨[.started], container, .provisionFailed container, owned, fun _ => opened, ?_⟩
      rw [Action.bind_of_error failed]
    · refine ⟨_, container, .served container, owned, fun _ => opened, ?_⟩
      rw [Action.bind_of_ok provisioned, serve, reach_snd]
      simp

/-- **The `finally` does all of its parts**, whatever fails in them, but for the tracer after a
meter that fails. -/
theorem takeDown_snd (meterProvider tracerProvider : Bool) (world : World E) :
    (takeDown fails outcomes meterProvider tracerProvider world).2 = {
      container := (close outcomes world.container).2
      activeMetrics := false
      log := world.log ++ .closed :: shutDowns fails meterProvider tracerProvider } := by
  have closed : (((do
      record .closed
      inContainer (close outcomes)) : Process E Unit) world).2 =
        { world with
          container := (close outcomes world.container).2
          log := world.log ++ [.closed] } := rfl
  rw [takeDown, Action.tryFinally_snd, closed]
  cases meterProvider with
  | false =>
      cases tracerProvider with
      | false => simp [shutDowns, shutdownMetrics, shutdownTracing, Action.tryFinally,
          setActiveMetrics, Action.bind_apply, Action.pure_apply]
      | true => simp [shutDowns, shutdownMetrics, shutdownTracing, Action.tryFinally,
          setActiveMetrics, Action.bind_apply, Action.pure_apply, record, reach_snd]
  | true =>
      cases failed : fails .shutdownMeterProvider with
      | some error => simp [shutDowns, shutdownMetrics, Action.tryFinally,
          setActiveMetrics, Action.bind_apply, record, reach, failed]
      | none =>
          cases tracerProvider with
          | false => simp [shutDowns, shutdownMetrics, shutdownTracing, Action.tryFinally,
              setActiveMetrics, Action.bind_apply, Action.pure_apply, record, reach, failed]
          | true =>
              simp only [shutDowns, shutdownMetrics, shutdownTracing, Action.tryFinally,
                setActiveMetrics, Action.bind_apply, record, reach, failed, if_true]
              cases fails .shutdownTracerProvider with
              | none => simp
              | some error => simp

/-- What becomes of the resources of a container that is closed. -/
theorem drained_of_close {container : Bootstrap.World E} (owned : Owned container) :
    Bootstrap.created (close outcomes container).2.log = Bootstrap.created container.log ∧
      closeAttempts (close outcomes container).2.log = (Bootstrap.created container.log).reverse := by
  have same : Bootstrap.created (close outcomes container).2.log =
      Bootstrap.created container.log := by
    by_cases closed : container.container.state = .closed
    · rw [close_of_closed outcomes closed]
    · rw [close_of_not_closed outcomes closed]
      split <;> exact created_emptied outcomes container
  have ended : Ended (close outcomes container).2 :=
    ended_of_endsOwnership outcomes owned (.inl rfl)
  have all := (owned_close outcomes owned).reverse_created
  rw [show (close outcomes container).2.container.resources = [] from ended.2, List.append_nil,
    same] at all
  exact ⟨same, all.symm⟩

/-- The settings are refused, or the set-up of the traces fails, or there is a provider if they
are enabled. -/
theorem configureTracing_eq (signal : SignalSettings) (world : World E) :
    (∃ raised, configureTracing fails signal world = (.error raised, world)) ∨
      configureTracing fails signal world = (.ok signal.enabled, { world with
        log := world.log ++ setUps signal.enabled false }) := by
  unfold configureTracing
  cases enabled : signal.enabled with
  | false => exact .inr (by simp [setUps, Action.pure_apply])
  | true =>
      rw [if_neg (by simp)]
      split
      · exact .inl ⟨_, rfl⟩
      · cases failed : fails .createTracerProvider with
        | some error =>
            refine .inl ⟨.raised error, ?_⟩
            rw [Action.bind_of_error]
            rw [reach, failed]
        | none =>
            refine .inr ?_
            rw [Action.bind_of_ok (by rw [reach, failed])]
            rfl

/-- It is the same with the metrics, whose sink then records. -/
theorem configureMetrics_eq (signal : SignalSettings) (world : World E) :
    (∃ raised, configureMetrics fails signal world = (.error raised, world)) ∨
      configureMetrics fails signal world = (.ok signal.enabled, { world with
        activeMetrics := signal.enabled
        log := world.log ++ setUps false signal.enabled }) := by
  unfold configureMetrics
  cases enabled : signal.enabled with
  | false => exact .inr (by simp [setUps, setActiveMetrics, Action.bind_apply, Action.pure_apply])
  | true =>
      rw [if_neg (by simp)]
      split
      · exact .inl ⟨_, rfl⟩
      · cases failed : fails .createMeterProvider with
        | some error =>
            refine .inl ⟨.raised error, ?_⟩
            rw [Action.bind_of_error]
            rw [reach, failed]
        | none =>
            refine .inr ?_
            rw [Action.bind_of_ok (by rw [reach, failed])]
            rfl

theorem reach_cases (point : Point) (world : World E) :
    (∃ raised, reach fails point world = (.error raised, world)) ∨
      reach fails point world = (.ok (), world) := by
  rw [reach]
  cases fails point with
  | some error => exact .inl ⟨.raised error, rfl⟩
  | none => exact .inr rfl

/-- The set-up fails, with some of the providers, or gets a container. -/
theorem setUp_eq :
    (∃ raised world, setUp fails settings ({} : World E) = (.error raised, world) ∧
      world.container = {} ∧
        world.log <+: setUps settings.tracing.enabled settings.metrics.enabled) ∨
      setUp fails settings ({} : World E) =
        (.ok (settings.metrics.enabled, settings.tracing.enabled), {
          activeMetrics := settings.metrics.enabled
          log := setUps settings.tracing.enabled settings.metrics.enabled ++
            [.containerConstructed] }) := by
  have joined : setUps settings.tracing.enabled false ++ setUps false settings.metrics.enabled =
      (setUps settings.tracing.enabled settings.metrics.enabled : List (Event E)) := by
    simp [setUps]
  unfold setUp
  rcases reach_cases fails .loadSettings {} with ⟨raised, loading⟩ | loaded
  · rw [Action.bind_of_error loading]
    exact .inl ⟨raised, _, rfl, rfl, List.nil_prefix⟩
  rw [Action.bind_of_ok loaded]
  rcases reach_cases fails .configureLogging {} with ⟨raised, logging⟩ | logged
  · rw [Action.bind_of_error logging]
    exact .inl ⟨raised, _, rfl, rfl, List.nil_prefix⟩
  rw [Action.bind_of_ok logged]
  rcases configureTracing_eq fails settings.tracing {} with ⟨raised, tracing⟩ | traced
  · rw [Action.bind_of_error tracing]
    exact .inl ⟨raised, _, rfl, rfl, List.nil_prefix⟩
  rw [Action.bind_of_ok traced]
  rcases configureMetrics_eq fails settings.metrics
    { log := setUps settings.tracing.enabled false } with ⟨raised, measuring⟩ | measured
  · rw [List.nil_append, Action.bind_of_error measuring, ← joined]
    exact .inl ⟨raised, _, rfl, rfl, List.prefix_append _ _⟩
  rw [List.nil_append, Action.bind_of_ok measured]
  dsimp only
  rw [joined]
  rcases reach_cases fails .containerFactory {
    activeMetrics := settings.metrics.enabled
    log := setUps settings.tracing.enabled settings.metrics.enabled }
    with ⟨raised, constructing⟩ | constructed
  · rw [Action.bind_of_error constructing]
    exact .inl ⟨raised, _, rfl, rfl, List.prefix_rfl⟩
  · rw [Action.bind_of_ok constructed]
    exact .inr rfl

/-! ## The law -/

/-- The lifespan of a process that fails before it has a container: it leaves the providers
that it has created. -/
structure Unborn (outcome : Except (Raised E) Unit) (after : World E) : Prop where
  raised : ∃ raised, outcome = .error raised
  container : after.container = {}
  log : after.log <+: setUps settings.tracing.enabled settings.metrics.enabled

/-- The lifespan of a process that gets a container. -/
structure Lived (after : World E) (steps : List (Event E)) (served : Bootstrap.World E) :
    Prop where
  ran : Ran settings steps served
  opened : steps ≠ [] → Opened served
  log : after.log = setUps settings.tracing.enabled settings.metrics.enabled ++
    .containerConstructed ::
      (steps ++ .closed :: shutDowns fails settings.metrics.enabled settings.tracing.enabled)
  created : Bootstrap.created after.container.log = Bootstrap.created served.log
  once : (Bootstrap.created served.log).Nodup
  closed : closeAttempts after.container.log = (Bootstrap.created served.log).reverse
  activeMetrics : after.activeMetrics = false

/-- What happens once there is a container. -/
theorem lived_of_constructed {world : World E} (fresh : world.container = {})
    (log : world.log = setUps settings.tracing.enabled settings.metrics.enabled ++
      [.containerConstructed]) :
    ∃ steps served, Lived fails settings (Action.tryFinally (body fails outcomes settings)
      (takeDown fails outcomes settings.metrics.enabled settings.tracing.enabled) world).2
        steps served := by
  obtain ⟨steps, served, ran, owned, opened, after⟩ := body_snd fails outcomes settings fresh
  obtain ⟨created, closed⟩ := drained_of_close outcomes owned
  refine ⟨steps, served, ?_⟩
  rw [Action.tryFinally_snd, after, takeDown_snd]
  exact {
    ran
    opened
    log := by rw [log]; simp
    created
    once := owned.numbered.nodup
    closed
    activeMetrics := rfl }

end

/-- **A lifespan**, however each of its calls ends: it fails before it has a container, or it
serves at most once, by a container that has started and whose resources are all open, after
the manager was provisioned if accounts are enabled; then it closes each resource once, the
last first, and only after that shuts the telemetry down. -/
theorem lifespan_law (fails : Point → Option E) (outcomes : Outcomes E) (settings : Settings) :
    let ran := lifespan fails outcomes settings ({} : World E)
    Unborn settings ran.1 ran.2 ∨ ∃ steps served, Lived fails settings ran.2 steps served := by
  intro ran
  rcases setUp_eq fails settings with ⟨raised, world, failed, container, log⟩ | set
  · have stopped : ran = (.error raised, world) := Action.bind_of_error failed
    rw [stopped]
    exact .inl ⟨⟨raised, rfl⟩, container, log⟩
  · have begun : ran = Action.tryFinally (body fails outcomes settings)
        (takeDown fails outcomes settings.metrics.enabled settings.tracing.enabled) _ :=
      Action.bind_of_ok set
    rw [begun]
    exact .inr (lived_of_constructed fails outcomes settings rfl rfl)

end Lifespan

end BidSystem.Bootstrap
