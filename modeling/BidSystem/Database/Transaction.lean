import BidSystem.Interaction.Action
import Mathlib.Data.List.Induction

/-!
# The transaction manager

`AsyncTransactionManager` obtains a session from its factory when it is entered, and
commits or rolls back and closes it when it is left.

A session is named by the number of sessions that were obtained before it.  How the steps
of a use end is any `Steps`, and a manager is used any number of times.

* `aenter`, `aexit`, `use` — the two methods, and an `async with` statement.
* `use_of_idle` — what a use does to a manager that holds no session.
* `use_of_held` — nothing is done with a manager that holds one.
* `settled_run` — over any run every session that was obtained is closed once.
* `reusable_iff` — a manager can be used again exactly as long as no close of a session
  raises.
-/

namespace BidSystem.Database

open Interaction

variable {E : Type}

/-! ## The manager -/

/-- An `AsyncSession`. -/
abbrev Session := ℕ

/-- What the manager and its body raise. -/
inductive Raised (E : Type) where
  | raised (error : E)
  | runtimeError (message : String)
deriving DecidableEq, Repr

/-- `type(error).__qualname__`. -/
def Raised.qualname (qualname : E → String) : Raised E → String
  | .raised error => qualname error
  | .runtimeError _ => "RuntimeError"

/-- A call of a session, or a record of `_log_failure`. -/
inductive Event where
  | begun (session : Session)
  /-- A statement of the body. -/
  | executed (session : Session)
  | committed (session : Session)
  | rolledBack (session : Session)
  | closed (session : Session)
  | failureLogged (eventName errorType : String)
deriving DecidableEq, Repr

/-- The session an event concerns. -/
def Event.session : Event → Option Session
  | .begun session | .executed session | .committed session | .rolledBack session
  | .closed session => some session
  | .failureLogged _ _ => none

/-- What the steps of a use raise where they are reached.  A missing observer returns. -/
structure Steps (E : Type) where
  sessionFactory : Option E := none
  sessionBegin : Option E := none
  body : Option E := none
  commit : Option E := none
  rollback : Option E := none
  close : Option E := none
  observeEntered : Option E := none
  observeLeft : Option E := none
deriving DecidableEq, Repr

/-- A manager and what happened to its sessions. -/
structure World where
  /-- `_session`. -/
  session : Option Session := none
  /-- How many sessions the factory has returned. -/
  obtained : ℕ := 0
  log : List Event := []
deriving DecidableEq, Repr

/-- Code of a manager. -/
abbrev Manager (E : Type) := Action World (Raised E)

/-- How a step ends. -/
def ends : Option E → Except (Raised E) Unit
  | none => .ok ()
  | some error => .error (.raised error)

/-- A call of a session. -/
def call (event : Event) (outcome : Option E) : Manager E Unit := fun world =>
  (ends outcome, { world with log := world.log ++ [event] })

/-- `self._session_factory()`. -/
def sessionFactory (outcome : Option E) : Manager E Session := fun world =>
  match outcome with
  | some error => (.error (.raised error), world)
  | none => (.ok world.obtained, { world with obtained := world.obtained + 1 })

/-- `self._session = session`. -/
def assign (session : Option Session) : Manager E Unit := fun world =>
  (.ok (), { world with session })

/-- `AsyncTransactionManager.session`. -/
def session : Manager E Session := fun world =>
  match world.session with
  | none => (.error (.runtimeError "Transaction has not been entered"), world)
  | some session => (.ok session, world)

/-- `AsyncTransactionManager._observe_pool`. -/
def observePool (outcome : Option E) : Manager E Unit := .ofExcept (ends outcome)

section
variable (qualname : E → String)

/-- `AsyncTransactionManager._log_failure`. -/
def logFailure (eventName : String) (error : Raised E) : Manager E Unit := fun world =>
  (.ok (), { world with
    log := world.log ++ [.failureLogged eventName (error.qualname qualname)] })

variable (steps : Steps E)

/-- `AsyncTransactionManager.__aenter__`. -/
def aenter : Manager E Unit := fun world =>
  if world.session.isSome then
    (.error (.runtimeError "Transaction manager cannot be re-entered"), world)
  else
    (do
      let session ← sessionFactory steps.sessionFactory
      assign (some session)
      Action.tryCatch
        (do
          call (.begun session) steps.sessionBegin
          observePool steps.observeEntered)
        fun error => do
          call (.closed session) steps.close
          assign none
          Action.raise error : Manager E Unit) world

/-- How `__aexit__` ends the transaction. -/
def complete (session : Session) : Option (Raised E) → Manager E Unit
  | some _ =>
      (call (.rolledBack session) steps.rollback).tryCatch fun error => do
        logFailure qualname "database.transaction.rollback_failed" error
        Action.raise error
  | none =>
      (call (.committed session) steps.commit).tryCatch fun error => do
        logFailure qualname "database.transaction.commit_failed" error
        (call (.rolledBack session) steps.rollback).tryCatch fun rollbackError =>
          logFailure qualname "database.transaction.rollback_failed" rollbackError
        Action.raise error

/-- `AsyncTransactionManager.__aexit__`; it returns `False`. -/
def aexit (exception : Option (Raised E)) : Manager E Unit := do
  let session ← session
  (complete qualname steps session exception).tryFinally do
    call (.closed session) steps.close
    assign none
    observePool steps.observeLeft

/-- The body of an `async with` statement: it executes statements on the session. -/
def body : Manager E Unit := do
  let session ← session
  call (.executed session) steps.body

/-- An `async with` statement, once the manager was entered. -/
def executeAndExit : Manager E Unit := fun world =>
  match body steps world with
  | (.ok (), world') => aexit qualname steps none world'
  -- `__aexit__` returns `False`, so the error of the body goes on.
  | (.error error, world') =>
      (aexit qualname steps (some error) >>= fun _ => Action.raise error) world'

/-- `async with manager`. -/
def use : Manager E Unit := do
  aenter steps
  executeAndExit qualname steps

/-- A manager after a sequence of uses. -/
def run (uses : List (Steps E)) (world : World) : World :=
  uses.foldl (fun world steps => (use qualname steps world).2) world

/-! ## What a use does

A session is begun first and closed last; how the steps end decides what happens in between
and whether the manager forgets it. -/

/-- What is recorded of a call that fails. -/
def failure (eventName : String) : Option E → List Event
  | none => []
  | some error => [.failureLogged eventName (qualname error)]

/-- The events that complete a transaction. -/
def Steps.completion (session : Session) : Option (Raised E) → List Event
  | some _ =>
      .rolledBack session :: failure qualname "database.transaction.rollback_failed" steps.rollback
  | none =>
      .committed session ::
        match steps.commit with
        | none => []
        | some error =>
            .failureLogged "database.transaction.commit_failed" (qualname error) ::
              .rolledBack session ::
                failure qualname "database.transaction.rollback_failed" steps.rollback

/-- The events of a use that obtained a session. -/
def Steps.events (session : Session) : List Event :=
  if steps.sessionBegin = none ∧ steps.observeEntered = none then
    .begun session :: .executed session ::
      (steps.completion qualname session (steps.body.map .raised) ++ [.closed session])
  else [.begun session, .closed session]

/-- What the manager holds after the use: a close that raises skips the reset. -/
def Steps.kept (session : Session) : Option Session :=
  if steps.close = none then none else some session

theorem complete_snd (session : Session) (exception : Option (Raised E)) (world : World) :
    (complete qualname steps session exception world).2 =
      { world with log := world.log ++ steps.completion qualname session exception } := by
  rcases steps with ⟨_, _, _, commit, rollback, _, _, _⟩
  rcases exception with _ | error
  · rcases commit with _ | error
    · rfl
    · rcases rollback with _ | rollbackError <;>
        simp [complete, Steps.completion, failure, Action.tryCatch,
          Action.bind_apply, Action.raise, call, ends, logFailure, Raised.qualname]
  · rcases rollback with _ | rollbackError <;>
      simp [complete, Steps.completion, failure, Action.tryCatch,
        Action.bind_apply, Action.raise, call, ends, logFailure, Raised.qualname]

/-- Closing and forgetting a session, before code that does nothing to the manager. -/
theorem close_snd {A : Type} (next : Manager E A) (silent : ∀ world, (next world).2 = world)
    {session : Session} {world : World} (held : world.session = some session) :
    ((do
      call (.closed session) steps.close
      assign none
      next : Manager E A) world).2 =
      { world with
        session := steps.kept session
        log := world.log ++ [.closed session] } := by
  rcases steps with ⟨_, _, _, _, _, close, _, _⟩
  rcases close with _ | error
  · exact silent _
  · simp [Steps.kept, Action.bind_apply, call, ends, held]

theorem aexit_snd (exception : Option (Raised E)) {session : Session} {world : World}
    (held : world.session = some session) :
    (aexit qualname steps exception world).2 =
      { world with
        session := steps.kept session
        log := world.log ++ (steps.completion qualname session exception ++ [.closed session]) } := by
  have entered : Database.session (E := E) world = (.ok session, world) := by
    rw [Database.session, held]
  rw [aexit, Action.bind_of_ok entered, Action.tryFinally_snd, complete_snd]
  refine (close_snd steps (observePool steps.observeLeft) (fun _ => rfl) ?_).trans ?_
  · exact held
  · simp

/-- A use of a manager that holds a session is refused, and changes nothing. -/
theorem use_of_held {world : World} (held : world.session ≠ none) :
    use qualname steps world =
      (.error (.runtimeError "Transaction manager cannot be re-entered"), world) := by
  apply Action.bind_of_error
  rw [aenter, if_pos (Option.isSome_iff_ne_none.2 held)]

/-- Without a session the manager is not entered. -/
theorem aenter_of_missing {world : World} {error : E} (idle : world.session = none)
    (missing : steps.sessionFactory = some error) :
    aenter steps world = (.error (.raised error), world) := by
  rw [aenter, idle, if_neg (by simp), missing]
  rfl

/-- A manager is entered with the session that the factory returns, or it is not entered and
the session was closed. -/
theorem aenter_of_idle {world : World} (idle : world.session = none)
    (made : steps.sessionFactory = none) :
    if steps.sessionBegin = none ∧ steps.observeEntered = none then
      aenter steps world = (.ok (),
        { session := some world.obtained
          obtained := world.obtained + 1
          log := world.log ++ [.begun world.obtained] })
    else
      ∃ error, aenter steps world = (.error (.raised error),
        { session := steps.kept world.obtained
          obtained := world.obtained + 1
          log := world.log ++ [.begun world.obtained, .closed world.obtained] }) := by
  have entry : aenter steps world =
      Action.tryCatch
        (do
          call (.begun world.obtained) steps.sessionBegin
          observePool steps.observeEntered)
        (fun error => do
          call (.closed world.obtained) steps.close
          assign none
          Action.raise error)
        { world with session := some world.obtained, obtained := world.obtained + 1 } := by
    rw [aenter, idle, if_neg (by simp), made]
    rfl
  -- Whatever is raised once the session is begun, the handler closes the session.
  have handled : ∀ (begin : Manager E Unit) error world',
      begin world' = (.error (.raised error),
        { session := some world.obtained
          obtained := world.obtained + 1
          log := world.log ++ [.begun world.obtained] }) →
      ∃ error', begin.tryCatch
        (fun error => do
          call (.closed world.obtained) steps.close
          assign none
          Action.raise error) world' = (.error (.raised error'),
            { session := steps.kept world.obtained
              obtained := world.obtained + 1
              log := world.log ++ [.begun world.obtained, .closed world.obtained] }) := by
    intro begin error world' raised
    refine ⟨steps.close.getD error, ?_⟩
    rw [Action.tryCatch_of_error raised]
    apply Prod.ext
    · rcases steps with ⟨_, _, _, _, _, _ | closeError, _, _⟩ <;> rfl
    · refine (close_snd steps (Action.raise (.raised error)) (fun _ => rfl) rfl).trans ?_
      simp
  rw [entry]
  rcases begins : steps.sessionBegin with _ | error
  · rcases observes : steps.observeEntered with _ | error
    · exact Action.tryCatch_of_ok rfl
    · exact handled _ error _ rfl
  · exact handled _ error _ rfl

theorem executeAndExit_snd {session : Session} {world : World}
    (held : world.session = some session) :
    (executeAndExit qualname steps world).2 =
      { world with
        session := steps.kept session
        log := world.log ++ .executed session ::
          (steps.completion qualname session (steps.body.map .raised) ++ [.closed session]) } := by
  have entered : Database.session (E := E) world = (.ok session, world) := by
    rw [Database.session, held]
  have executed : body steps world =
      (ends steps.body, { world with log := world.log ++ [.executed session] }) := by
    rw [body, Action.bind_of_ok entered]
    rfl
  have left : ∀ exception, _ := fun exception => @aexit_snd _ qualname steps exception session
    { world with log := world.log ++ [.executed session] } held
  rw [executeAndExit, executed]
  rcases raised : steps.body with _ | error
  · simpa [ends] using left none
  · -- What `__aexit__` raises, or else the error of the body: the manager is the same.
    have same : ∀ (action : Manager E Unit) world',
        ((action >>= fun _ => Action.raise (.raised error) : Manager E Unit) world').2 =
          (action world').2 := by
      intro action world'
      exact Action.bind_ofExcept_snd action (fun _ => .error (.raised error)) world'
    simpa [ends, same] using left (some (.raised error))

/-- **What a use does** to a manager that holds no session. -/
theorem use_of_idle {world : World} (idle : world.session = none) :
    (use qualname steps world).2 =
      if steps.sessionFactory = none then
        { session := steps.kept world.obtained
          obtained := world.obtained + 1
          log := world.log ++ steps.events qualname world.obtained }
      else world := by
  by_cases made : steps.sessionFactory = none
  case neg =>
    obtain ⟨error, failed⟩ := Option.ne_none_iff_exists'.1 made
    rw [if_neg made, use, Action.bind_of_error (aenter_of_missing steps idle failed)]
  have entry := aenter_of_idle steps idle made
  rw [if_pos made, Steps.events]
  split at entry
  · next entered =>
      rw [use, Action.bind_of_ok entry, executeAndExit_snd qualname steps rfl, if_pos entered]
      simp
  · next failed =>
      obtain ⟨error, entry⟩ := entry
      rw [use, Action.bind_of_error entry, if_neg failed]

/-! ### The events of a use -/

theorem session_of_mem_failure {eventName : String} {outcome : Option E} {event : Event}
    (member : event ∈ failure qualname eventName outcome) : event.session = none := by
  rcases outcome with _ | error
  · simp [failure] at member
  · obtain rfl : event = _ := by simpa [failure] using member
    rfl

/-- A completion concerns its session, and does not close it. -/
theorem of_mem_completion {session : Session} {exception : Option (Raised E)} {event : Event}
    (member : event ∈ steps.completion qualname session exception) :
    event.session = none ∨ event = .rolledBack session ∨
      event = .committed session ∧ exception = none := by
  rcases exception with _ | error
  · rcases List.mem_cons.1 member with rfl | member
    · exact .inr (.inr ⟨rfl, rfl⟩)
    · rcases returned : steps.commit with _ | error
      · simp [returned] at member
      · simp only [returned, List.mem_cons] at member
        rcases member with rfl | rfl | member
        · exact .inl rfl
        · exact .inr (.inl rfl)
        · exact .inl (session_of_mem_failure qualname member)
  · rcases List.mem_cons.1 member with rfl | member
    · exact .inr (.inl rfl)
    · exact .inl (session_of_mem_failure qualname member)

/-- **A use touches the session it obtained, and no other.** -/
theorem session_of_mem_events {session other : Session} {event : Event}
    (member : event ∈ steps.events qualname session) (touched : event.session = some other) :
    other = session := by
  rw [Steps.events] at member
  split at member
  · simp only [List.mem_cons, List.mem_append, List.not_mem_nil, or_false] at member
    rcases member with rfl | rfl | member | rfl
    · exact Option.some.inj touched.symm
    · exact Option.some.inj touched.symm
    · rcases of_mem_completion qualname steps member with none | rfl | ⟨rfl, _⟩
      · rw [none] at touched
        cases touched
      · exact Option.some.inj touched.symm
      · exact Option.some.inj touched.symm
    · exact Option.some.inj touched.symm
  · simp only [List.mem_cons, List.not_mem_nil, or_false] at member
    rcases member with rfl | rfl <;> exact Option.some.inj touched.symm

/-- **A commit is attempted after a body that did not raise.** -/
theorem returned_of_committed {session other : Session}
    (member : .committed other ∈ steps.events qualname session) :
    steps.body = none ∧ .executed other ∈ steps.events qualname session := by
  obtain rfl := session_of_mem_events qualname steps member rfl
  rw [Steps.events] at member ⊢
  split at member
  · next entered =>
      rw [if_pos entered]
      simp only [List.mem_cons, List.mem_append, reduceCtorEq, List.not_mem_nil, or_false,
        false_or] at member
      rcases of_mem_completion qualname steps member with none | same | ⟨_, returned⟩
      · cases none
      · cases same
      · exact ⟨by simpa using returned, by simp⟩
  · simp at member

/-- **A use closes the session it obtained once.** -/
theorem count_closed_events (session : Session) :
    (steps.events qualname session).count (.closed session) = 1 := by
  have none : (.closed session) ∉
      steps.completion qualname session (steps.body.map .raised) := by
    intro member
    rcases of_mem_completion qualname steps member with none | same | ⟨same, _⟩
    · cases none
    · cases same
    · cases same
  rw [Steps.events]
  split
  · simp [List.count_eq_zero_of_not_mem none]
  · simp

/-! ## Sequences of uses -/

/-- Every session that was obtained was closed once. -/
structure Settled (world : World) : Prop where
  known : ∀ event ∈ world.log, ∀ session ∈ event.session, session < world.obtained
  closedOnce : ∀ session < world.obtained, world.log.count (.closed session) = 1

theorem Settled.initial : Settled {} := ⟨by simp, by simp⟩

/-- A use either does nothing, or obtains one session and closes it. -/
theorem use_cases (world : World) :
    (use qualname steps world).2 = world ∨
      world.session = none ∧ steps.sessionFactory = none ∧
        (use qualname steps world).2 =
          { session := steps.kept world.obtained
            obtained := world.obtained + 1
            log := world.log ++ steps.events qualname world.obtained } := by
  by_cases idle : world.session = none
  · have used := use_of_idle qualname steps idle
    split at used
    · next made => exact .inr ⟨idle, made, used⟩
    · exact .inl used
  · rw [use_of_held qualname steps idle]
    exact .inl rfl

theorem Settled.use {world : World} (settled : Settled world) :
    Settled (use qualname steps world).2 := by
  rcases use_cases qualname steps world with same | ⟨_, _, same⟩
  · rwa [same]
  rw [same]
  refine ⟨fun event member session touched => ?_, fun session obtained => ?_⟩
  · rcases List.mem_append.1 member with earlier | new
    · exact Nat.lt_succ_of_lt (settled.known event earlier session touched)
    · rw [session_of_mem_events qualname steps new touched]
      exact Nat.lt_succ_self _
  · rw [List.count_append]
    rcases Nat.lt_succ_iff_lt_or_eq.1 obtained with earlier | rfl
    · -- The use has a session of its own.
      have own : (.closed session) ∉ steps.events qualname world.obtained := by
        intro member
        exact Nat.ne_of_lt earlier (session_of_mem_events qualname steps member rfl)
      rw [settled.closedOnce session earlier, List.count_eq_zero_of_not_mem own]
    · have new : (.closed world.obtained) ∉ world.log := by
        intro member
        exact Nat.lt_irrefl _ (settled.known _ member _ rfl)
      rw [count_closed_events, List.count_eq_zero_of_not_mem new]

end

section
variable (qualname : E → String)

theorem run_append (before after : List (Steps E)) (world : World) :
    run qualname (before ++ after) world = run qualname after (run qualname before world) :=
  List.foldl_append

/-- **Over any run every session that was obtained is closed once.** -/
theorem settled_run (uses : List (Steps E)) {world : World} (settled : Settled world) :
    Settled (run qualname uses world) := by
  induction uses generalizing world with
  | nil => exact settled
  | cons steps uses ih => exact ih (settled.use qualname steps)

/-- No use is in progress: the manager holds no session, shows none and can be entered. -/
structure Idle (E : Type) (world : World) : Prop where
  none : world.session = none
  hidden : session (E := E) world =
    (.error (.runtimeError "Transaction has not been entered"), world)
  accepted : ∀ steps : Steps E, (aenter steps world).1 ≠
    .error (.runtimeError "Transaction manager cannot be re-entered")

theorem idle_iff {world : World} : Idle E world ↔ world.session = none := by
  refine ⟨Idle.none, fun none => ⟨none, ?_, fun steps refused => ?_⟩⟩
  · rw [session, none]
  rcases made : steps.sessionFactory with _ | error
  · have entry := aenter_of_idle steps none made
    split at entry
    · rw [entry] at refused
      cases refused
    · obtain ⟨error, entry⟩ := entry
      rw [entry] at refused
      cases refused
  · rw [aenter_of_missing steps none made] at refused
    cases refused

/-- What the uses of a manager do with its sessions. -/
structure OwnsSessions (uses : List (Steps E)) : Prop where
  closedOnce : ∀ session < (run qualname uses {}).obtained,
    (run qualname uses {}).log.count (.closed session) = 1
  uses : ∀ before steps after, uses = before ++ steps :: after →
    let world := run qualname before {}
    ∃ events, (use qualname steps world).2.log = world.log ++ events ∧
      (∀ event ∈ events, ∀ session ∈ event.session, session = world.obtained) ∧
      ∀ session, .committed session ∈ events → steps.body = none ∧ .executed session ∈ events

/-- **The uses of a manager own their sessions**, however their steps end. -/
theorem ownsSessions (uses : List (Steps E)) : OwnsSessions qualname uses := by
  refine ⟨(settled_run qualname uses .initial).closedOnce, ?_⟩
  rintro before steps after rfl
  rcases use_cases qualname steps (run qualname before {}) with same | ⟨_, _, same⟩
  · refine ⟨[], ?_, by simp, by simp⟩
    rw [same, List.append_nil]
  · refine ⟨steps.events qualname (run qualname before {}).obtained, ?_, ?_, ?_⟩
    · rw [same]
    · exact fun event member session touched =>
        session_of_mem_events qualname steps member touched
    · exact fun session member => returned_of_committed qualname steps member

/-- A use keeps the manager idle exactly if the session it obtained could be closed. -/
theorem use_session_iff (steps : Steps E) {world : World} (idle : world.session = none) :
    (use qualname steps world).2.session = none ↔
      (steps.sessionFactory = none → steps.close = none) := by
  rw [use_of_idle qualname steps idle]
  split
  · next made => simp [Steps.kept, made]
  · next missing => simp [missing, idle]

/-- Whenever no use is in progress the manager is idle, and its uses own their sessions. -/
structure Reusable (uses : List (Steps E)) : Prop where
  idle : ∀ before after, uses = before ++ after → Idle E (run qualname before {})
  owns : OwnsSessions qualname uses

/-- **A manager can be used again** exactly as long as no close of a session raises: it is
idle between all uses if and only if every session that is obtained can be closed. -/
theorem reusable_iff (uses : List (Steps E)) :
    (Reusable qualname uses ↔
      ∀ steps ∈ uses, steps.sessionFactory = none → steps.close = none) ∧
    OwnsSessions qualname uses := by
  refine ⟨⟨fun reusable steps member => ?_, fun clean => ⟨fun before => ?_, ?_⟩⟩, ?_⟩
  · obtain ⟨before, after, rfl⟩ := List.append_of_mem member
    have next := (reusable.idle (before ++ [steps]) after (by simp)).none
    rw [run_append] at next
    exact (use_session_iff qualname steps (reusable.idle before _ rfl).none).1 next
  · -- The induction is on the uses that were made, the last first.
    induction before using List.reverseRecOn with
    | nil => exact fun _ _ => idle_iff.2 rfl
    | append_singleton before steps ih =>
        intro after same
        have idle := ih (steps :: after) (by rw [same, List.append_assoc]; rfl)
        rw [run_append]
        exact idle_iff.2 ((use_session_iff qualname steps idle.none).2
          (clean steps (by simp [same])))
  · exact ownsSessions qualname uses
  · exact ownsSessions qualname uses

/-- A use in which the session fails to close. -/
def brokenClose : Steps String where
  close := some "ConnectionDoesNotExistError"

/-- The manager still holds the session, and the next use is refused. -/
theorem brokenClose_kept :
    (run id [brokenClose] {}).session = some 0 ∧
      use id {} (run id [brokenClose] {}) =
        (.error (.runtimeError "Transaction manager cannot be re-entered"),
          run id [brokenClose] {}) ∧
      ¬Reusable id [brokenClose] := by
  refine ⟨by decide, by decide, fun reusable => ?_⟩
  exact absurd (reusable.idle [brokenClose] [] rfl).none (by decide)

end

end BidSystem.Database
