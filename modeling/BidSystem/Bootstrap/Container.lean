import BidSystem.Interaction.Action
import BidSystem.Ownership.Lifo
import Mathlib.Data.List.Induction

/-!
# The application container

`ApplicationContainer`: a process builds and probes its resources in a fixed order and
closes them in the reverse one.

A resource is named by the place in the log at which its factory was called.  How a
construction, a probe and a close end is any `Outcomes`; a probe may also be cancelled.

* `Builds` — what a part of `start` does before it returns or is interrupted.
* `closeResources_eq` — the loop closes everything, whatever fails.
* `run_owned` — over any run of calls the container keeps a stack of resources.
* `resources_closed_once` — what was built is closed once, in reverse, and in time.
* `started_owns_open_resources` — when a started container owns open resources.
-/

namespace BidSystem.Bootstrap

open Interaction Ownership

variable {E : Type}

/-! ## The container -/

/-- The four factories of `ResourceFactories`. -/
inductive ResourceKind where
  | database
  | redis
  | minio
  | http
deriving DecidableEq, Repr

/-- A `LifecycleResource`. -/
abbrev Resource := ℕ

/-- `ContainerState`. -/
inductive ContainerState where
  | new
  | started
  | closed
deriving DecidableEq, Repr

/-- The text of a state. -/
def ContainerState.value : ContainerState → String
  | .new => "new"
  | .started => "started"
  | .closed => "closed"

/-- The fields of an `ApplicationContainer`. -/
structure ApplicationContainer where
  /-- `_resources`, the last created first. -/
  resources : List Resource := []
  state : ContainerState := .new
  database : Option Resource := none
  redis : Option Resource := none
  minio : Option Resource := none
  http : Option Resource := none
deriving DecidableEq, Repr

/-- How a probe that does not return ends. -/
inductive Interruption (E : Type) where
  /-- An `Exception`, or a timeout. -/
  | exception (error : E)
  /-- `CancelledError`, which is no `Exception`. -/
  | cancelled
deriving DecidableEq, Repr

/-- What a call of the container raises. -/
inductive Raised (E : Type) where
  | interrupted (interruption : Interruption E)
  | runtimeError (message : String)
  | exceptionGroup (message : String) (errors : List E)
deriving DecidableEq, Repr

/-- A call of a factory or of a resource, with its outcome. -/
inductive Event (E : Type) where
  | constructed (kind : ResourceKind) (resource : Resource)
  | constructionFailed (kind : ResourceKind) (error : E)
  | probed (resource : Resource) (interruption : Option (Interruption E))
  | closed (resource : Resource) (error : Option E)
deriving DecidableEq, Repr

/-- How constructions, probes and closes end. -/
structure Outcomes (E : Type) where
  construct : Resource → Option E
  probe : Resource → Option (Interruption E)
  close : Resource → Option E

/-- A container and what happened to its resources. -/
structure World (E : Type) where
  container : ApplicationContainer := {}
  log : List (Event E) := []
deriving DecidableEq, Repr

/-- Code of a container. -/
abbrev Lifecycle (E : Type) := Action (World E) (Raised E)

/-- Assign a field of the container. -/
def assign (update : ApplicationContainer → ApplicationContainer) : Lifecycle E Unit :=
  fun world => (.ok (), { world with container := update world.container })

section
variable (outcomes : Outcomes E)

/-- `ApplicationContainer._create`. -/
def create (kind : ResourceKind) : Lifecycle E Resource := fun world =>
  let resource := world.log.length
  match outcomes.construct resource with
  | some error =>
      (.error (.interrupted (.exception error)),
        { world with log := world.log ++ [.constructionFailed kind error] })
  | none =>
      (.ok resource,
        { container :=
            { world.container with resources := resource :: world.container.resources }
          log := world.log ++ [.constructed kind resource] })

/-- `resource.probe`. -/
def probe (resource : Resource) : Lifecycle E Unit := fun world =>
  let interruption := outcomes.probe resource
  let world' := { world with log := world.log ++ [.probed resource interruption] }
  match interruption with
  | some interruption => (.error (.interrupted interruption), world')
  | none => (.ok (), world')

/-- `ApplicationContainer._create_and_probe`. -/
def createAndProbe (kind : ResourceKind) : Lifecycle E Resource := do
  let resource ← create outcomes kind
  probe outcomes resource
  pure resource

/-- The loop of `_close_resources`: the errors it collects, and the world after it. -/
def closeLoop : List Resource → World E → List E × World E
  | [], world => ([], world)
  | resource :: below, world =>
      let error := outcomes.close resource
      let rest := closeLoop below
        { container := { world.container with resources := below }
          log := world.log ++ [.closed resource error] }
      (error.toList ++ rest.1, rest.2)

/-- `ApplicationContainer._close_resources`. -/
def closeResources (suppressErrors : Bool) : Lifecycle E Unit := fun world =>
  let (errors, world') := closeLoop outcomes world.container.resources world
  if errors ≠ [] ∧ suppressErrors = false then
    (.error (.exceptionGroup "One or more application resources failed to close" errors), world')
  else (.ok (), world')

/-- The body of the `try` of `start`. -/
def populate : Lifecycle E Unit := do
  let database ← createAndProbe outcomes .database
  assign fun container => { container with database := some database }
  let redis ← createAndProbe outcomes .redis
  assign fun container => { container with redis := some redis }
  let minio ← createAndProbe outcomes .minio
  assign fun container => { container with minio := some minio }
  let http ← create outcomes .http
  assign fun container => { container with http := some http }

/-- `self._state = state`. -/
def setState (state : ContainerState) : Lifecycle E Unit :=
  assign fun container => { container with state }

/-- `ApplicationContainer.start`. -/
def start : Lifecycle E Unit := fun world =>
  if world.container.state ≠ .new then
    (.error (.runtimeError ("Cannot start container in state " ++ world.container.state.value)),
      world)
  else
    (do
      (populate outcomes).tryCatch fun error => do
        closeResources outcomes true
        setState .closed
        Action.raise error
      setState .started : Lifecycle E Unit) world

/-- `ApplicationContainer.close`. -/
def close : Lifecycle E Unit := fun world =>
  if world.container.state = .closed then (.ok (), world)
  else
    (do
      closeResources outcomes false
      setState .closed : Lifecycle E Unit) world

/-- A call of the container. -/
inductive Call where
  | start
  | close
deriving DecidableEq, Repr

/-- The code of a call. -/
def Call.perform : Call → Lifecycle E Unit
  | .start => Bootstrap.start outcomes
  | .close => Bootstrap.close outcomes

/-- Calls one after the other, whatever they raise. -/
def run (calls : List Call) (world : World E) : World E :=
  calls.foldl (fun world call => (call.perform outcomes world).2) world

end

/-! ## What the log says -/

/-- What an event is to the owner of the resources. -/
def Event.entry : Event E → Option (Entry Resource)
  | .constructed _ resource => some (.taken resource)
  | .closed resource _ => some (.released resource)
  | _ => none

/-- How an event of a start interrupts it. -/
def Event.interruption : Event E → Option (Interruption E)
  | .constructionFailed _ error => some (.exception error)
  | .probed _ interruption => interruption
  | _ => none

/-- What the container took and released. -/
def ledger (log : List (Event E)) : List (Entry Resource) := log.filterMap Event.entry

/-- The resources whose factories returned, in order. -/
def created (log : List (Event E)) : List Resource := taken (ledger log)

/-- The resources whose close was attempted, in order. -/
def closeAttempts (log : List (Event E)) : List Resource := released (ledger log)

@[simp] theorem ledger_append (first second : List (Event E)) :
    ledger (first ++ second) = ledger first ++ ledger second := List.filterMap_append

@[simp] theorem created_append (first second : List (Event E)) :
    created (first ++ second) = created first ++ created second := by
  simp [created]

@[simp] theorem closeAttempts_append (first second : List (Event E)) :
    closeAttempts (first ++ second) = closeAttempts first ++ closeAttempts second := by
  simp [closeAttempts]

/-- The events of closing resources. -/
def closings (outcomes : Outcomes E) (resources : List Resource) : List (Event E) :=
  resources.map fun resource => .closed resource (outcomes.close resource)

theorem ledger_closings (outcomes : Outcomes E) (resources : List Resource) :
    ledger (closings outcomes resources) = resources.map .released := by
  simp [ledger, closings, List.filterMap_map, Event.entry, Function.comp_def]

/-! ## What the code does -/

section
variable (outcomes : Outcomes E)

/-- A world whose container closed all it owned. -/
def emptied (world : World E) : World E where
  container := { world.container with resources := [] }
  log := world.log ++ closings outcomes world.container.resources

theorem closeLoop_eq (world : World E) :
    closeLoop outcomes world.container.resources world =
      (world.container.resources.filterMap outcomes.close, emptied outcomes world) := by
  -- The induction is on what is owned; the log grows in front of it.
  obtain ⟨⟨resources, state, database, redis, minio, http⟩, log⟩ := world
  show closeLoop outcomes resources _ = _
  induction resources generalizing log with
  | nil => simp [closeLoop, emptied, closings]
  | cons resource below ih =>
      rw [closeLoop, ih]
      rcases failure : outcomes.close resource with _ | error <;>
        simp [emptied, closings, failure]

/-- The loop closes everything, whatever fails. -/
theorem closeResources_eq (suppressErrors : Bool) (world : World E) :
    closeResources outcomes suppressErrors world =
      (if world.container.resources.filterMap outcomes.close ≠ [] ∧ suppressErrors = false then
        .error (.exceptionGroup "One or more application resources failed to close"
          (world.container.resources.filterMap outcomes.close))
      else .ok (), emptied outcomes world) := by
  unfold closeResources
  rw [closeLoop_eq]
  dsimp only
  split <;> rfl

/-- How a part of a start ends: every call it made succeeded, or the last one interrupts it. -/
def Ends {A : Type} (steps : List (Event E)) : Except (Raised E) A → Prop
  | .ok _ => ∀ event ∈ steps, event.interruption = none
  | .error raised => ∃ before last interruption,
      steps = before ++ [last] ∧ (∀ event ∈ before, event.interruption = none) ∧
        last.interruption = some interruption ∧ raised = .interrupted interruption

/-- Resources are numbered upwards by their place in the log. -/
def Numbered (log : List (Event E)) : Prop :=
  (created log).Pairwise (· < ·) ∧ ∀ resource ∈ created log, resource < log.length

/-- The steps only add resources, and the container owns what they add. -/
structure Grows (world world' : World E) (steps : List (Event E)) : Prop where
  log : world'.log = world.log ++ steps
  takes : ledger steps = (created steps).map .taken
  resources : world'.container.resources =
    (created steps).reverse ++ world.container.resources
  state : world'.container.state = world.container.state
  numbered : Numbered world.log → Numbered world'.log

theorem Grows.trans {first second third : World E} {front back : List (Event E)}
    (fronts : Grows first second front) (backs : Grows second third back) :
    Grows first third (front ++ back) where
  log := by rw [backs.log, fronts.log, List.append_assoc]
  takes := by rw [ledger_append, fronts.takes, backs.takes, created_append, List.map_append]
  resources := by
    rw [backs.resources, fronts.resources, created_append, List.reverse_append,
      List.append_assoc]
  state := backs.state.trans fronts.state
  numbered := fun numbered => backs.numbered (fronts.numbered numbered)

/-- The action only builds, and stops at the first call that fails. -/
def Builds {A : Type} (action : Lifecycle E A) : Prop := ∀ world, ∃ steps,
  Grows world (action world).2 steps ∧ Ends steps (action world).1

theorem Builds.bind {A B : Type} {action : Lifecycle E A} {next : A → Lifecycle E B}
    (front : Builds action) (back : ∀ result, Builds (next result)) :
    Builds (action >>= next) := by
  intro world
  obtain ⟨steps, grows, ends⟩ := front world
  rcases ran : action world with ⟨raised | result, world'⟩
  · rw [ran] at grows ends
    rw [Action.bind_of_error ran]
    exact ⟨steps, grows, ends⟩
  · rw [ran] at grows ends
    rw [Action.bind_of_ok ran]
    obtain ⟨more, grows', ends'⟩ := back result world'
    refine ⟨steps ++ more, grows.trans grows', ?_⟩
    rcases outcome : (next result world').1 with raised | _ <;> rw [outcome] at ends'
    · obtain ⟨before, last, interruption, rfl, quiet, failed, same⟩ := ends'
      refine ⟨steps ++ before, last, interruption, (List.append_assoc ..).symm, ?_, failed, same⟩
      exact List.forall_mem_append.2 ⟨ends, quiet⟩
    · exact List.forall_mem_append.2 ⟨ends, ends'⟩

/-- An action that keeps the log and what is owned. -/
theorem Builds.of_quiet {A : Type} {action : Lifecycle E A}
    (quiet : ∀ world, ∃ result world', action world = (.ok result, world') ∧
      world'.log = world.log ∧ world'.container.resources = world.container.resources ∧
      world'.container.state = world.container.state) : Builds action := by
  intro world
  obtain ⟨result, world', ran, log, resources, state⟩ := quiet world
  rw [ran]
  refine ⟨[], ⟨by rw [log, List.append_nil], rfl, resources, state, ?_⟩, by simp [Ends]⟩
  intro numbered
  show Numbered world'.log
  rwa [log]

theorem builds_pure {A : Type} (result : A) : Builds (pure result : Lifecycle E A) :=
  .of_quiet fun world => ⟨result, world, rfl, rfl, rfl, rfl⟩

theorem Numbered.append_quiet {log : List (Event E)} {event : Event E}
    (quiet : event.entry = none) (numbered : Numbered log) : Numbered (log ++ [event]) := by
  have same : created (log ++ [event]) = created log := by
    simp [created, ledger, quiet]
  refine ⟨by rw [same]; exact numbered.1, fun resource made => ?_⟩
  rw [same] at made
  rw [List.length_append]
  exact Nat.lt_add_right _ (numbered.2 resource made)

theorem Numbered.append_constructed {log : List (Event E)} (numbered : Numbered log)
    (kind : ResourceKind) : Numbered (log ++ [.constructed kind log.length]) := by
  have grown : created (log ++ [.constructed kind log.length]) = created log ++ [log.length] := by
    simp [created, ledger, Event.entry]
  constructor
  · rw [grown, List.pairwise_append]
    exact ⟨numbered.1, List.pairwise_singleton .., by simpa using numbered.2⟩
  · intro resource made
    rw [grown] at made
    rw [List.length_append]
    rcases List.mem_append.1 made with made | made
    · exact Nat.lt_add_right _ (numbered.2 resource made)
    · rw [List.mem_singleton.1 made]
      exact Nat.lt_succ_self _

theorem builds_create (kind : ResourceKind) : Builds (create outcomes kind) := by
  intro world
  rcases built : outcomes.construct world.log.length with _ | error
  · refine ⟨[.constructed kind world.log.length], ?_⟩
    simp only [create, built]
    exact ⟨⟨rfl, rfl, rfl, rfl, fun numbered => numbered.append_constructed kind⟩, by
      simp [Ends, Event.interruption]⟩
  · refine ⟨[.constructionFailed kind error], ?_⟩
    simp only [create, built]
    exact ⟨⟨rfl, rfl, rfl, rfl, fun numbered => numbered.append_quiet rfl⟩,
      [], _, .exception error, rfl, by simp, rfl, rfl⟩

theorem builds_probe (resource : Resource) : Builds (probe outcomes resource) := by
  intro world
  rcases answered : outcomes.probe resource with _ | interruption
  · refine ⟨[.probed resource none], ?_⟩
    simp only [probe, answered]
    exact ⟨⟨rfl, rfl, rfl, rfl, fun numbered => numbered.append_quiet rfl⟩, by
      simp [Ends, Event.interruption]⟩
  · refine ⟨[.probed resource (some interruption)], ?_⟩
    simp only [probe, answered]
    exact ⟨⟨rfl, rfl, rfl, rfl, fun numbered => numbered.append_quiet rfl⟩,
      [], _, interruption, rfl, by simp, rfl, rfl⟩

theorem builds_createAndProbe (kind : ResourceKind) : Builds (createAndProbe outcomes kind) :=
  (builds_create outcomes kind).bind fun resource =>
    (builds_probe outcomes resource).bind fun _ => builds_pure resource

theorem builds_assign {update : ApplicationContainer → ApplicationContainer}
    (kept : ∀ container, (update container).resources = container.resources ∧
      (update container).state = container.state) :
    Builds (assign update : Lifecycle E Unit) :=
  .of_quiet fun world => ⟨(), _, rfl, rfl, (kept world.container).1, (kept world.container).2⟩

theorem builds_populate : Builds (populate outcomes) := by
  refine (builds_createAndProbe outcomes _).bind fun database => ?_
  refine Builds.bind (builds_assign fun _ => ⟨rfl, rfl⟩) fun _ => ?_
  refine (builds_createAndProbe outcomes _).bind fun redis => ?_
  refine Builds.bind (builds_assign fun _ => ⟨rfl, rfl⟩) fun _ => ?_
  refine (builds_createAndProbe outcomes _).bind fun minio => ?_
  refine Builds.bind (builds_assign fun _ => ⟨rfl, rfl⟩) fun _ => ?_
  refine (builds_create outcomes _).bind fun http => ?_
  exact builds_assign fun _ => ⟨rfl, rfl⟩

/-- A creation that returned. -/
theorem create_returned {kind : ResourceKind} {world world' : World E} {resource : Resource}
    (returned : create outcomes kind world = (.ok resource, world')) :
    world'.container =
        { world.container with resources := resource :: world.container.resources } ∧
      world'.log = world.log ++ [.constructed kind resource] := by
  unfold create at returned
  dsimp only at returned
  split at returned
  · cases returned
  · cases returned
    exact ⟨rfl, rfl⟩

theorem createAndProbe_returned {kind : ResourceKind} {world world' : World E}
    {resource : Resource} (returned : createAndProbe outcomes kind world = (.ok resource, world')) :
    world'.container =
        { world.container with resources := resource :: world.container.resources } ∧
      world'.log = world.log ++ [.constructed kind resource, .probed resource none] := by
  obtain ⟨made, middle, built, returned⟩ := Action.of_bind_ok returned
  obtain ⟨_, last, probed, returned⟩ := Action.of_bind_ok returned
  cases returned
  obtain ⟨container, log⟩ := create_returned outcomes built
  unfold probe at probed
  dsimp only at probed
  split at probed
  · cases probed
  · next quiet =>
      cases probed
      exact ⟨container, by rw [quiet, log, List.append_assoc]; rfl⟩

/-- **A start that populates the container owns all four resources.** -/
theorem populate_returned {world world' : World E}
    (returned : populate outcomes world = (.ok (), world')) :
    ∃ database redis minio http,
      world'.container =
        { resources := http :: minio :: redis :: database :: world.container.resources
          state := world.container.state
          database := some database, redis := some redis, minio := some minio
          http := some http } ∧
      world'.log = world.log ++
        [.constructed .database database, .probed database none,
          .constructed .redis redis, .probed redis none,
          .constructed .minio minio, .probed minio none, .constructed .http http] := by
  obtain ⟨database, world₁, ran₁, returned⟩ := Action.of_bind_ok returned
  obtain ⟨_, _, assigned, returned⟩ := Action.of_bind_ok returned
  cases assigned
  obtain ⟨redis, world₂, ran₂, returned⟩ := Action.of_bind_ok returned
  obtain ⟨_, _, assigned, returned⟩ := Action.of_bind_ok returned
  cases assigned
  obtain ⟨minio, world₃, ran₃, returned⟩ := Action.of_bind_ok returned
  obtain ⟨_, _, assigned, returned⟩ := Action.of_bind_ok returned
  cases assigned
  obtain ⟨http, world₄, ran₄, returned⟩ := Action.of_bind_ok returned
  cases returned
  obtain ⟨container₁, log₁⟩ := createAndProbe_returned outcomes ran₁
  obtain ⟨container₂, log₂⟩ := createAndProbe_returned outcomes ran₂
  obtain ⟨container₃, log₃⟩ := createAndProbe_returned outcomes ran₃
  obtain ⟨container₄, log₄⟩ := create_returned outcomes ran₄
  refine ⟨database, redis, minio, http, ?_, ?_⟩
  · rw [container₄, container₃, container₂, container₁]
  · rw [log₄, log₃, log₂, log₁]
    simp

/-- **What a first start does.** -/
theorem start_of_new {world : World E} (unstarted : world.container.state = .new) :
    (∃ world', populate outcomes world = (.ok (), world') ∧
      start outcomes world =
        (.ok (), { world' with container := { world'.container with state := .started } })) ∨
    (∃ raised world', populate outcomes world = (.error raised, world') ∧
      start outcomes world =
        (.error raised, { emptied outcomes world' with
          container := { (emptied outcomes world').container with state := .closed } })) := by
  unfold start
  rw [if_neg (not_not.2 unstarted)]
  rcases ran : populate outcomes world with ⟨raised | ⟨⟩, world'⟩
  · refine .inr ⟨raised, world', rfl, Action.bind_of_error ?_⟩
    rw [Action.tryCatch_of_error ran, Action.bind_of_ok, Action.bind_of_ok]
    · rfl
    · rfl
    · rw [closeResources_eq, if_neg (by simp)]
  · refine .inl ⟨world', rfl, ?_⟩
    rw [Action.bind_of_ok (Action.tryCatch_of_ok ran)]
    rfl

theorem start_of_not_new {world : World E} (begun : world.container.state ≠ .new) :
    start outcomes world =
      (.error (.runtimeError ("Cannot start container in state " ++ world.container.state.value)),
        world) := by
  unfold start
  rw [if_pos begun]

theorem close_of_closed {world : World E} (ended : world.container.state = .closed) :
    close outcomes world = (.ok (), world) := by
  unfold close
  rw [if_pos ended]

/-- **What a close does**: the container keeps its state if a resource fails to close. -/
theorem close_of_not_closed {world : World E} (opened : world.container.state ≠ .closed) :
    (close outcomes world).2 =
      if ∀ resource ∈ world.container.resources, outcomes.close resource = none then
        { emptied outcomes world with
          container := { (emptied outcomes world).container with state := .closed } }
      else emptied outcomes world := by
  have failures : world.container.resources.filterMap outcomes.close = [] ↔
      ∀ resource ∈ world.container.resources, outcomes.close resource = none :=
    List.filterMap_eq_nil_iff
  unfold close
  rw [if_neg opened]
  by_cases clean : ∀ resource ∈ world.container.resources, outcomes.close resource = none
  · rw [if_pos clean, Action.bind_of_ok]
    · rfl
    · rw [closeResources_eq, if_neg (by simp [failures.2 clean])]
  · rw [if_neg clean, Action.bind_of_error]
    rw [closeResources_eq, if_pos ⟨fun none => clean (failures.1 none), rfl⟩]

end

/-! ## Runs -/

/-- The resource was constructed and its close was not attempted. -/
def IsOpen (log : List (Event E)) (kind : ResourceKind) (resource : Resource) : Prop :=
  .constructed kind resource ∈ log ∧ resource ∉ closeAttempts log

/-- The four resources of the container are open. -/
def AllOpen (world : World E) : Prop := ∃ database redis minio http,
  (world.container.database = some database ∧ IsOpen world.log .database database) ∧
    (world.container.redis = some redis ∧ IsOpen world.log .redis redis) ∧
    (world.container.minio = some minio ∧ IsOpen world.log .minio minio) ∧
    world.container.http = some http ∧ IsOpen world.log .http http

/-- What holds of the container between its calls. -/
structure Owned (world : World E) : Prop where
  numbered : Numbered world.log
  lifo : Lifo [] (ledger world.log) world.container.resources
  takesFirst : ledger world.log =
    (created world.log).map .taken ++ (closeAttempts world.log).map .released
  new : world.container.state = .new → world.log = [] ∧ world.container.resources = []
  started : world.container.state = .started →
    AllOpen world ∧ closeAttempts world.log = [] ∨
      world.container.resources = [] ∧ created world.log ≠ []
  closed : world.container.state = .closed → world.container.resources = []

theorem owned_fresh : Owned ({} : World E) where
  numbered := ⟨.nil, by simp [created, ledger]⟩
  lifo := .nil []
  takesFirst := rfl
  new _ := ⟨rfl, rfl⟩
  started := nofun
  closed := nofun

theorem Numbered.nodup {log : List (Event E)} (numbered : Numbered log) : (created log).Nodup :=
  numbered.1.imp Nat.ne_of_lt

/-- What was closed and what is owned is what was created, the last first. -/
theorem Owned.reverse_created {world : World E} (owned : Owned world) :
    (created world.log).reverse = closeAttempts world.log ++ world.container.resources :=
  Lifo.released_eq (owned.takesFirst ▸ owned.lifo)

section
variable (outcomes : Outcomes E)

theorem created_emptied (world : World E) :
    created (emptied outcomes world).log = created world.log := by
  have none : taken (world.container.resources.map Entry.released) = [] := by
    simp [taken, List.filterMap_map]
  show created (world.log ++ _) = _
  rw [created_append, created, created, ledger_closings, none, List.append_nil]

theorem closeAttempts_emptied (world : World E) :
    closeAttempts (emptied outcomes world).log =
      closeAttempts world.log ++ world.container.resources := by
  have all : released (world.container.resources.map Entry.released) =
      world.container.resources := by
    simp [released, List.filterMap_map]
  show closeAttempts (world.log ++ _) = _
  rw [closeAttempts_append, closeAttempts, closeAttempts, ledger_closings, all]

theorem Numbered.emptied {world : World E} (numbered : Numbered world.log) :
    Numbered (emptied outcomes world).log := by
  rw [Numbered, created_emptied]
  refine ⟨numbered.1, fun resource made => ?_⟩
  show resource < (world.log ++ _).length
  rw [List.length_append]
  exact Nat.lt_add_right _ (numbered.2 resource made)

/-- Closing everything keeps the ledger in order. -/
theorem ledger_emptied {world : World E}
    (takesFirst : ledger world.log =
      (created world.log).map .taken ++ (closeAttempts world.log).map .released)
    (lifo : Lifo [] (ledger world.log) world.container.resources) :
    Lifo [] (ledger (emptied outcomes world).log) [] ∧
      ledger (emptied outcomes world).log =
        (created (emptied outcomes world).log).map .taken ++
          (closeAttempts (emptied outcomes world).log).map .released := by
  have grown : ledger (emptied outcomes world).log =
      ledger world.log ++ world.container.resources.map .released := by
    show ledger (world.log ++ _) = _
    rw [ledger_append, ledger_closings]
  constructor
  · rw [grown]
    have drains := Lifo.releases world.container.resources []
    rw [List.append_nil] at drains
    exact lifo.append drains
  · rw [grown, created_emptied, closeAttempts_emptied, List.map_append, ← List.append_assoc,
      ← takesFirst]

/-- The container closed everything; its state is the only choice left. -/
theorem Owned.of_emptied {world world' : World E}
    (numbered : Numbered world.log)
    (lifo : Lifo [] (ledger world.log) world.container.resources)
    (takesFirst : ledger world.log =
      (created world.log).map .taken ++ (closeAttempts world.log).map .released)
    (log : world'.log = (emptied outcomes world).log)
    (drained : world'.container.resources = [])
    (ended : world'.container.state = .closed ∨
      world'.container.state = .started ∧ created world.log ≠ []) : Owned world' where
  numbered := by rw [log]; exact numbered.emptied outcomes
  lifo := by rw [log, drained]; exact (ledger_emptied outcomes takesFirst lifo).1
  takesFirst := by rw [log]; exact (ledger_emptied outcomes takesFirst lifo).2
  new unstarted := by
    rcases ended with closed | ⟨started, _⟩
    · rw [closed] at unstarted; cases unstarted
    · rw [started] at unstarted; cases unstarted
  started begun := by
    refine .inr ⟨drained, ?_⟩
    rw [log, created_emptied]
    rcases ended with closed | ⟨_, some⟩
    · rw [closed] at begun; cases begun
    · exact some
  closed _ := drained

/-- What a start built, before its state is set. -/
theorem Grows.of_fresh {world world' : World E} {steps : List (Event E)}
    (owned : Owned world) (unstarted : world.container.state = .new)
    (grows : Grows world world' steps) :
    world'.log = steps ∧ Numbered world'.log ∧
      Lifo [] (ledger world'.log) world'.container.resources ∧
      ledger world'.log =
        (created world'.log).map .taken ++ (closeAttempts world'.log).map .released ∧
      closeAttempts world'.log = [] := by
  obtain ⟨silent, nothing⟩ := owned.new unstarted
  have log : world'.log = steps := by rw [grows.log, silent, List.nil_append]
  have resources : world'.container.resources = (created steps).reverse := by
    rw [grows.resources, nothing, List.append_nil]
  have unclosed : closeAttempts steps = [] := by
    rw [closeAttempts, grows.takes]
    simp [released, List.filterMap_map]
  refine ⟨log, grows.numbered owned.numbered, ?_, ?_, by rw [log, unclosed]⟩
  · rw [log, resources, grows.takes]
    simpa using Lifo.takes [] (created steps)
  · rw [log, unclosed, List.map_nil, List.append_nil, grows.takes]

/-- **Start keeps what holds between calls.** -/
theorem owned_start {world : World E} (owned : Owned world) :
    Owned (start outcomes world).2 := by
  by_cases unstarted : world.container.state = .new
  case neg => rwa [start_of_not_new outcomes unstarted]
  obtain ⟨steps, grows, _⟩ := builds_populate outcomes world
  rcases start_of_new outcomes unstarted with ⟨world', ran, same⟩ | ⟨raised, world', ran, same⟩ <;>
    rw [ran] at grows <;> rw [same] <;>
    obtain ⟨log, numbered, lifo, takesFirst, unclosed⟩ := grows.of_fresh owned unstarted
  · obtain ⟨database, redis, minio, http, container, entries⟩ := populate_returned outcomes ran
    have opens : ∀ {kind resource}, Event.constructed kind resource ∈ world'.log →
        IsOpen world'.log kind resource := fun made => ⟨made, by rw [unclosed]; simp⟩
    refine ⟨numbered, lifo, takesFirst, nofun, fun _ => .inl ⟨?_, unclosed⟩, nofun⟩
    exact ⟨database, redis, minio, http,
      ⟨congrArg ApplicationContainer.database container, opens (by rw [entries]; simp)⟩,
      ⟨congrArg ApplicationContainer.redis container, opens (by rw [entries]; simp)⟩,
      ⟨congrArg ApplicationContainer.minio container, opens (by rw [entries]; simp)⟩,
      congrArg ApplicationContainer.http container, opens (by rw [entries]; simp)⟩
  · exact .of_emptied outcomes numbered lifo takesFirst rfl rfl (.inl rfl)

/-- **Close keeps what holds between calls.** -/
theorem owned_close {world : World E} (owned : Owned world) :
    Owned (close outcomes world).2 := by
  by_cases ended : world.container.state = .closed
  case pos => rwa [close_of_closed outcomes ended]
  rw [close_of_not_closed outcomes ended]
  split
  · exact .of_emptied outcomes owned.numbered owned.lifo owned.takesFirst rfl rfl (.inl rfl)
  · next dirty =>
      have owns : world.container.resources ≠ [] := by
        rintro none
        exact dirty (by simp [none])
      refine .of_emptied outcomes owned.numbered owned.lifo owned.takesFirst rfl rfl (.inr ?_)
      show world.container.state = .started ∧ _
      constructor
      · rcases state : world.container.state with _ | _ | _
        · exact absurd (owned.new state).2 owns
        · rfl
        · exact absurd state ended
      · intro none
        have all := owned.reverse_created
        rw [none] at all
        exact owns (List.append_eq_nil_iff.1 all.symm).2

theorem owned_perform {world : World E} (owned : Owned world) (call : Call) :
    Owned (call.perform outcomes world).2 := by
  rcases call with _ | _
  · exact owned_start outcomes owned
  · exact owned_close outcomes owned

/-- **Over any run of calls the container keeps a stack of resources.** -/
theorem run_owned (calls : List Call) {world : World E} (owned : Owned world) :
    Owned (run outcomes calls world) := by
  induction calls generalizing world with
  | nil => exact owned
  | cons call calls ih => exact ih (owned_perform outcomes owned call)

theorem run_append (before after : List Call) (world : World E) :
    run outcomes (before ++ after) world = run outcomes after (run outcomes before world) :=
  List.foldl_append

theorem run_cons (call : Call) (calls : List Call) (world : World E) :
    run outcomes (call :: calls) world = run outcomes calls (call.perform outcomes world).2 :=
  rfl

/-! ### Every resource is closed once -/

/-- A container that has closed everything and will build nothing. -/
def Ended (world : World E) : Prop :=
  world.container.state ≠ .new ∧ world.container.resources = []

/-- The call is a close, or a first start that fails. -/
def EndsOwnership (call : Call) (world : World E) : Prop :=
  call = .close ∨ call = .start ∧ world.container.state = .new ∧
    ∃ raised, (start outcomes world).1 = .error raised

/-- What such a call leaves behind. -/
theorem ended_of_endsOwnership {call : Call} {world : World E} (owned : Owned world)
    (ends : EndsOwnership outcomes call world) : Ended (call.perform outcomes world).2 := by
  rcases ends with rfl | ⟨rfl, unstarted, raised, failed⟩
  · show Ended (close outcomes world).2
    by_cases closed : world.container.state = .closed
    · rw [close_of_closed outcomes closed]
      exact ⟨by simp [closed], owned.closed closed⟩
    · rw [close_of_not_closed outcomes closed]
      split
      · exact ⟨nofun, rfl⟩
      · next dirty =>
          -- A new container owns nothing that could fail to close.
          refine ⟨fun unstarted => dirty ?_, rfl⟩
          simp [(owned.new unstarted).2]
  · show Ended (start outcomes world).2
    rcases start_of_new outcomes unstarted with ⟨world', _, same⟩ | ⟨_, world', _, same⟩
    · rw [same] at failed; cases failed
    · rw [same]; exact ⟨nofun, rfl⟩

/-- Nothing happens to the resources of a container that has ended. -/
theorem Ended.perform {world : World E} (ended : Ended world) (call : Call) :
    Ended (call.perform outcomes world).2 ∧ (call.perform outcomes world).2.log = world.log := by
  obtain ⟨begun, drained⟩ := ended
  rcases call with _ | _
  · show Ended (start outcomes world).2 ∧ (start outcomes world).2.log = _
    rw [start_of_not_new outcomes begun]
    exact ⟨⟨begun, drained⟩, rfl⟩
  · show Ended (close outcomes world).2 ∧ (close outcomes world).2.log = _
    by_cases closed : world.container.state = .closed
    · rw [close_of_closed outcomes closed]
      exact ⟨⟨begun, drained⟩, rfl⟩
    · rw [close_of_not_closed outcomes closed, if_pos (by simp [drained])]
      refine ⟨⟨nofun, rfl⟩, ?_⟩
      show world.log ++ closings outcomes _ = _
      rw [drained]
      exact List.append_nil _

theorem Ended.run {world : World E} (ended : Ended world) (calls : List Call) :
    (run outcomes calls world).log = world.log := by
  induction calls generalizing world with
  | nil => rfl
  | cons call calls ih =>
      obtain ⟨still, same⟩ := ended.perform outcomes call
      rw [run_cons, ih still, same]

/-- **A start that fails raises what interrupted it**, after closing all it had created. -/
theorem start_failed {world : World E} {raised : Raised E} (owned : Owned world)
    (unstarted : world.container.state = .new)
    (failed : (start outcomes world).1 = .error raised) :
    ∃ steps last interruption, raised = .interrupted interruption ∧
      (∀ event ∈ steps, event.interruption = none) ∧ last.interruption = some interruption ∧
      (start outcomes world).2.log = (steps ++ [last]) ++
        closings outcomes (created (steps ++ [last])).reverse := by
  obtain ⟨steps, grows, ends⟩ := builds_populate outcomes world
  rcases start_of_new outcomes unstarted with ⟨world', _, same⟩ | ⟨error, world', ran, same⟩
  · rw [same] at failed; cases failed
  · rw [same] at failed
    cases failed
    rw [ran] at grows ends
    obtain ⟨before, last, interruption, rfl, quiet, interrupted, rfl⟩ := ends
    obtain ⟨silent, nothing⟩ := owned.new unstarted
    refine ⟨before, last, interruption, rfl, quiet, interrupted, ?_⟩
    rw [same]
    show world'.log ++ closings outcomes world'.container.resources = _
    have log := grows.log
    have resources := grows.resources
    rw [silent, List.nil_append] at log
    rw [nothing, List.append_nil] at resources
    exact congrArg₂ (fun log resources => log ++ closings outcomes resources) log resources

/-- **The resources of a container**: at any time those closed are the last created, each
closed once; a close and a failed first start leave nothing open, after them nothing is
created or closed, and a failed first start raises what interrupted it. -/
theorem resources_closed_once (calls : List Call) :
    let log := (run outcomes calls {}).log
    (created log).Nodup ∧ closeAttempts log <+: (created log).reverse ∧
      ∀ before call after, calls = before ++ call :: after →
        let world := run outcomes before {}
        let ran := call.perform outcomes world
        (call = .start → world.container.state ≠ .new → ran = (.error (.runtimeError
          ("Cannot start container in state " ++ world.container.state.value)), world)) ∧
        (∀ raised, call = .start → world.container.state = .new → ran.1 = .error raised →
          ∃ steps last interruption, raised = .interrupted interruption ∧
            (∀ event ∈ steps, event.interruption = none) ∧
            last.interruption = some interruption ∧
            ran.2.log = (steps ++ [last]) ++
              closings outcomes (created (steps ++ [last])).reverse) ∧
        (EndsOwnership outcomes call world →
          closeAttempts ran.2.log = (created ran.2.log).reverse ∧
          (∀ resource ∈ created ran.2.log, (closeAttempts log).count resource = 1) ∧
          log = ran.2.log) := by
  intro log
  have owned := run_owned outcomes calls owned_fresh
  refine ⟨owned.numbered.nodup, ⟨_, owned.reverse_created.symm⟩, ?_⟩
  rintro before call after rfl
  have ownedBefore := run_owned outcomes before owned_fresh
  refine ⟨?_, ?_, fun ends => ?_⟩
  · rintro rfl begun
    exact start_of_not_new outcomes begun
  · rintro raised rfl unstarted failed
    exact start_failed outcomes ownedBefore unstarted failed
  · have ended := ended_of_endsOwnership outcomes ownedBefore ends
    have ownedAfter := owned_perform outcomes ownedBefore call
    have all := ownedAfter.reverse_created
    rw [ended.2, List.append_nil] at all
    have same : log = (call.perform outcomes (run outcomes before {})).2.log := by
      show (run outcomes (before ++ call :: after) {}).log = _
      rw [run_append, run_cons, ended.run]
    refine ⟨all.symm, fun resource made => ?_, same⟩
    rw [same, ← all]
    exact List.count_eq_one_of_mem (List.nodup_reverse.2 ownedAfter.numbered.nodup)
      (List.mem_reverse.2 made)

/-! ### What a started container owns -/

/-- A started container owns four open resources. -/
def StartedOwnsOpen (world : World E) : Prop :=
  world.container.state = .started → AllOpen world

/-- The call is not the close of a started container one of whose resources fails to close. -/
def ClosesCleanly (call : Call) (world : World E) : Prop :=
  call = .close → world.container.state = .started →
    ∀ resource ∈ world.container.resources, outcomes.close resource = none

/-- The container is open exactly if no close was attempted. -/
theorem startedOwnsOpen_iff {world : World E} (owned : Owned world) :
    StartedOwnsOpen world ↔ (closeAttempts world.log ≠ [] → world.container.state = .closed) := by
  have attempted : world.container.resources = [] → closeAttempts world.log = (created world.log).reverse := by
    intro drained
    rw [owned.reverse_created, drained, List.append_nil]
  constructor
  · intro sound some
    rcases state : world.container.state with _ | _ | _
    · rw [(owned.new state).1] at some
      exact absurd rfl some
    · rcases owned.started state with ⟨_, unclosed⟩ | ⟨drained, _⟩
      · exact absurd unclosed some
      · -- Everything created was closed, so the database is not open.
        obtain ⟨database, _, _, _, ⟨_, made, unclosed⟩, _⟩ := sound state
        rw [attempted drained, List.mem_reverse] at unclosed
        refine absurd ?_ unclosed
        simp only [created, taken, ledger, List.filterMap_filterMap, List.mem_filterMap]
        exact ⟨_, made, rfl⟩
    · rfl
  · intro closed state
    rcases owned.started state with ⟨opens, _⟩ | ⟨drained, some⟩
    · exact opens
    · have some' : closeAttempts world.log ≠ [] := by
        rw [attempted drained]
        simpa using some
      rw [closed some'] at state
      cases state

/-- A call keeps a started container open exactly if it closes cleanly. -/
theorem startedOwnsOpen_perform {world : World E} (owned : Owned world)
    (sound : StartedOwnsOpen world) (call : Call) :
    StartedOwnsOpen (call.perform outcomes world).2 ↔ ClosesCleanly outcomes call world := by
  rcases call with _ | _
  · refine iff_of_true ?_ nofun
    show StartedOwnsOpen (start outcomes world).2
    by_cases unstarted : world.container.state = .new
    case neg => rwa [start_of_not_new outcomes unstarted]
    obtain ⟨steps, grows, _⟩ := builds_populate outcomes world
    rcases start_of_new outcomes unstarted with ⟨world', ran, same⟩ | ⟨_, world', _, same⟩
    · rw [ran] at grows
      have after := owned_start outcomes owned
      rw [startedOwnsOpen_iff after, same]
      exact fun some => absurd (grows.of_fresh owned unstarted).2.2.2.2 some
    · rw [same]
      exact nofun
  · show StartedOwnsOpen (close outcomes world).2 ↔ _
    have after := owned_close outcomes owned
    by_cases closed : world.container.state = .closed
    · rw [close_of_closed outcomes closed]
      exact iff_of_true sound fun _ state => nomatch closed.symm.trans state
    rw [startedOwnsOpen_iff after, close_of_not_closed outcomes closed]
    by_cases clean : ∀ resource ∈ world.container.resources, outcomes.close resource = none
    · rw [if_pos clean]
      exact iff_of_true (fun _ => rfl) fun _ _ => clean
    · rw [if_neg clean, closeAttempts_emptied]
      -- The resource that fails to close was attempted, and the state is what it was.
      refine iff_of_false (fun ended => closed (ended ?_)) fun cleanly => clean (cleanly rfl ?_)
      · intro none
        exact clean (by simp [(List.append_eq_nil_iff.1 none).2])
      · rcases state : world.container.state with _ | _ | _
        · exact absurd (by simp [(owned.new state).2]) clean
        · rfl
        · exact absurd state closed

/-- **A started container owns four open resources** in every state of a run exactly if no
resource fails in a close of a started container; to own them is to be closed once a close
was attempted. -/
theorem started_owns_open_resources (calls : List Call) :
    ((∀ before after, calls = before ++ after → StartedOwnsOpen (run outcomes before {})) ↔
      ∀ before call after, calls = before ++ call :: after →
        ClosesCleanly outcomes call (run outcomes before {})) ∧
    ∀ before after, calls = before ++ after →
      (StartedOwnsOpen (run outcomes before {}) ↔
        (closeAttempts (run outcomes before {}).log ≠ [] →
          (run outcomes before {}).container.state = .closed)) := by
  refine ⟨⟨fun sound before call after same => ?_, fun clean before => ?_⟩,
    fun before _ _ => startedOwnsOpen_iff (run_owned outcomes before owned_fresh)⟩
  · have next := sound (before ++ [call]) after (by rw [same, List.append_assoc]; rfl)
    rw [run_append] at next
    exact (startedOwnsOpen_perform outcomes (run_owned outcomes before owned_fresh)
      (sound before _ same) call).1 next
  · -- The induction is on the calls that were made, the last first.
    induction before using List.reverseRecOn with
    | nil => exact fun _ _ => nofun
    | append_singleton before call ih =>
        intro after same
        rw [List.append_assoc] at same
        rw [run_append]
        exact (startedOwnsOpen_perform outcomes (run_owned outcomes before owned_fresh)
          (ih _ same) call).2 (clean before call after same)

/-- Everything is built, and the database fails to close. -/
def brokenDatabase : Outcomes String where
  construct _ := none
  probe _ := none
  close resource := if resource = 0 then some "connection reset" else none

/-- The container says that it is started and owns nothing. -/
theorem close_of_brokenDatabase :
    (run brokenDatabase [.start, .close] {}).container.state = .started ∧
      closeAttempts (run brokenDatabase [.start, .close] {}).log = [6, 4, 2, 0] ∧
      ¬StartedOwnsOpen (run brokenDatabase [.start, .close] {}) := by
  refine ⟨by decide, by decide, fun sound => ?_⟩
  rw [startedOwnsOpen_iff (run_owned _ _ owned_fresh)] at sound
  exact absurd (sound (by decide)) (by decide)

end

end BidSystem.Bootstrap
