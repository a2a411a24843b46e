import BidSystem.Interaction.Program

/-!
# Actions that may raise

An `Action` changes a world and then returns or raises.  What it has changed
before it raises stays changed.

* `Action.tryCatch`, `Action.tryFinally` — handlers and cleanups.
* `Action.of_bind_ok` takes a sequence of actions that returned apart.
* `Action.Within` — an action only does to the world what a relation allows;
  for a preorder the actions that do so compose.
* `Action.RaisesOnly` — an action only raises errors of a kind; such actions compose.
-/

namespace Interaction

universe u v w

/-- An action on a world. -/
def Action (World : Type u) (Error : Type v) (A : Type w) := World → Except Error A × World

namespace Action

variable {World : Type u} {Error : Type v} {A B : Type w}

/-- Run `next` on the result of an action, unless it raised. -/
def bind (action : Action World Error A) (next : A → Action World Error B) :
    Action World Error B := fun world =>
  match action world with
  | (.ok result, world') => next result world'
  | (.error error, world') => (.error error, world')

instance : Monad (Action World Error) where
  pure result world := (.ok result, world)
  bind := bind

/-- Raise an error. -/
def raise (error : Error) : Action World Error A := fun world => (.error error, world)

/-- A computation that does not look at the world. -/
def ofExcept (outcome : Except Error A) : Action World Error A := fun world => (outcome, world)

/-- Answer what an action raises. -/
def tryCatch (action : Action World Error A) (handler : Error → Action World Error A) :
    Action World Error A := fun world =>
  match action world with
  | (.ok result, world') => (.ok result, world')
  | (.error error, world') => handler error world'

/-- Clean up after an action, whether it raised or not; what the cleanup raises replaces
the outcome of the action. -/
def tryFinally (action : Action World Error A) (cleanup : Action World Error Unit) :
    Action World Error A := fun world =>
  let ran := action world
  match cleanup ran.2 with
  | (.ok (), world') => (ran.1, world')
  | (.error error, world') => (.error error, world')

/-- Translate what an action raises. -/
def mapError {Error' : Type v} (translate : Error → Error') (action : Action World Error A) :
    Action World Error' A := fun world =>
  ((action world).1.mapError translate, (action world).2)

theorem pure_apply (result : A) (world : World) :
    (pure result : Action World Error A) world = (.ok result, world) := rfl

theorem bind_apply (action : Action World Error A) (next : A → Action World Error B)
    (world : World) :
    (action >>= next) world =
      match action world with
      | (.ok result, world') => next result world'
      | (.error error, world') => (.error error, world') := rfl

theorem bind_of_ok {action : Action World Error A} {next : A → Action World Error B}
    {world world' : World} {result : A} (returned : action world = (.ok result, world')) :
    (action >>= next) world = next result world' := by
  rw [bind_apply, returned]

theorem bind_of_error {action : Action World Error A} {next : A → Action World Error B}
    {world world' : World} {error : Error} (raised : action world = (.error error, world')) :
    (action >>= next) world = (.error error, world') := by
  rw [bind_apply, raised]

theorem ofExcept_bind_of_ok {outcome : Except Error A} {result : A}
    (next : A → Action World Error B) (returned : outcome = .ok result) (world : World) :
    (ofExcept outcome >>= next) world = next result world := by
  rw [returned]
  rfl

theorem ofExcept_bind_of_error {outcome : Except Error A} {error : Error}
    (next : A → Action World Error B) (raised : outcome = .error error) (world : World) :
    (ofExcept outcome >>= next) world = (.error error, world) := by
  rw [raised]
  rfl

/-- A sequence that returned is two actions that returned. -/
theorem of_bind_ok {action : Action World Error A} {next : A → Action World Error B}
    {world world' : World} {result : B} (returned : (action >>= next) world = (.ok result, world')) :
    ∃ first middle, action world = (.ok first, middle) ∧ next first middle = (.ok result, world') := by
  rcases ran : action world with ⟨_ | first, middle⟩
  · rw [bind_of_error ran] at returned
    cases returned
  · rw [bind_of_ok ran] at returned
    exact ⟨first, middle, rfl, returned⟩

/-- A sequence that raised did so in its first action or after it. -/
theorem of_bind_error {action : Action World Error A} {next : A → Action World Error B}
    {world world' : World} {error : Error}
    (raised : (action >>= next) world = (.error error, world')) :
    action world = (.error error, world') ∨
      ∃ first middle, action world = (.ok first, middle) ∧
        next first middle = (.error error, world') := by
  rcases ran : action world with ⟨first | first, middle⟩
  · rw [bind_of_error ran] at raised
    cases raised
    exact .inl rfl
  · rw [bind_of_ok ran] at raised
    exact .inr ⟨first, middle, rfl, raised⟩

theorem mapError_of_ok {Error' : Type v} {translate : Error → Error'}
    {action : Action World Error A} {world world' : World} {result : A}
    (returned : action world = (.ok result, world')) :
    action.mapError translate world = (.ok result, world') := by
  rw [mapError, returned]
  rfl

theorem mapError_of_error {Error' : Type v} {translate : Error → Error'}
    {action : Action World Error A} {world world' : World} {error : Error}
    (raised : action world = (.error error, world')) :
    action.mapError translate world = (.error (translate error), world') := by
  rw [mapError, raised]
  rfl

theorem bind_ofExcept_snd (action : Action World Error A) (next : A → Except Error B)
    (world : World) : ((action >>= fun result => ofExcept (next result)) world).2 =
      (action world).2 := by
  rcases ran : action world with ⟨error | result, world'⟩
  · rw [bind_of_error ran]
  · rw [bind_of_ok ran]
    rfl

/-! ### Handlers and cleanups -/

theorem tryCatch_of_ok {action : Action World Error A} {handler : Error → Action World Error A}
    {world world' : World} {result : A} (returned : action world = (.ok result, world')) :
    action.tryCatch handler world = (.ok result, world') := by
  rw [tryCatch, returned]

theorem tryCatch_of_error {action : Action World Error A}
    {handler : Error → Action World Error A} {world world' : World} {error : Error}
    (raised : action world = (.error error, world')) :
    action.tryCatch handler world = handler error world' := by
  rw [tryCatch, raised]

theorem tryFinally_snd (action : Action World Error A) (cleanup : Action World Error Unit)
    (world : World) :
    (action.tryFinally cleanup world).2 = (cleanup (action world).2).2 := by
  unfold tryFinally
  dsimp only
  rcases cleanup (action world).2 with ⟨error | ⟨⟩, world'⟩ <;> rfl

/-- Only an action that returned returns through its cleanup. -/
theorem of_tryFinally_ok {action : Action World Error A} {cleanup : Action World Error Unit}
    {world world' : World} {result : A}
    (returned : action.tryFinally cleanup world = (.ok result, world')) :
    (action world).1 = .ok result ∧ cleanup (action world).2 = (.ok (), world') := by
  unfold tryFinally at returned
  dsimp only at returned
  split at returned
  · next clean =>
      obtain ⟨outcome, rfl⟩ := Prod.mk.inj returned
      exact ⟨outcome, clean⟩
  · cases returned

/-! ### What an action does to the world -/

/-- The action only does to the world what the relation allows. -/
def Within (relation : World → World → Prop) (action : Action World Error A) : Prop :=
  ∀ world, relation world (action world).2

namespace Within

variable {relation : World → World → Prop}

theorem pure (reflexive : ∀ world, relation world world) (result : A) :
    Within relation (Pure.pure result : Action World Error A) := reflexive

theorem raise (reflexive : ∀ world, relation world world) (error : Error) :
    Within relation (Action.raise error : Action World Error A) := reflexive

theorem ofExcept (reflexive : ∀ world, relation world world) (outcome : Except Error A) :
    Within relation (Action.ofExcept outcome : Action World Error A) := reflexive

theorem bind (transitive : ∀ first second third, relation first second →
      relation second third → relation first third)
    {action : Action World Error A} {next : A → Action World Error B}
    (front : Within relation action) (back : ∀ result, Within relation (next result)) :
    Within relation (action >>= next) := by
  intro world
  have first := front world
  rcases ran : action world with ⟨error | result, world'⟩
  · rw [bind_of_error ran]
    rw [ran] at first
    exact first
  · rw [bind_of_ok ran]
    rw [ran] at first
    exact transitive _ _ _ first (back result world')

theorem tryCatch (transitive : ∀ first second third, relation first second →
      relation second third → relation first third)
    {action : Action World Error A} {handler : Error → Action World Error A}
    (front : Within relation action) (back : ∀ error, Within relation (handler error)) :
    Within relation (action.tryCatch handler) := by
  intro world
  have first := front world
  rcases ran : action world with ⟨error | result, world'⟩
  · rw [tryCatch_of_error ran]
    rw [ran] at first
    exact transitive _ _ _ first (back error world')
  · rw [tryCatch_of_ok ran]
    rw [ran] at first
    exact first

theorem tryFinally (transitive : ∀ first second third, relation first second →
      relation second third → relation first third)
    {action : Action World Error A} {cleanup : Action World Error Unit}
    (front : Within relation action) (back : Within relation cleanup) :
    Within relation (action.tryFinally cleanup) := by
  intro world
  have both := transitive _ _ _ (front world) (back (action world).2)
  unfold Action.tryFinally
  dsimp only
  rcases ran : cleanup (action world).2 with ⟨error | result, world'⟩
  · rwa [ran] at both
  · rwa [ran] at both

end Within

/-! ### What an action raises -/

/-- From a world of the invariant the action keeps it, and only raises what is allowed. -/
def RaisesOnly (invariant : World → Prop) (allowed : Error → Prop)
    (action : Action World Error A) : Prop :=
  ∀ world, invariant world →
    invariant (action world).2 ∧ ∀ error, (action world).1 = .error error → allowed error

namespace RaisesOnly

variable {invariant : World → Prop} {allowed : Error → Prop}

theorem pure (result : A) :
    RaisesOnly invariant allowed (Pure.pure result : Action World Error A) :=
  fun _ holds => ⟨holds, nofun⟩

theorem raise {error : Error} (admitted : allowed error) :
    RaisesOnly invariant allowed (Action.raise error : Action World Error A) := by
  refine fun _ holds => ⟨holds, fun raised same => ?_⟩
  rwa [← Except.error.inj same]

theorem bind {action : Action World Error A} {next : A → Action World Error B}
    (front : RaisesOnly invariant allowed action)
    (back : ∀ result, RaisesOnly invariant allowed (next result)) :
    RaisesOnly invariant allowed (action >>= next) := by
  intro world holds
  have first := front world holds
  rcases ran : action world with ⟨error | result, world'⟩
  · rw [bind_of_error ran]
    rw [ran] at first
    refine ⟨first.1, fun raised same => first.2 raised ?_⟩
    rw [← Except.error.inj same]
  · rw [bind_of_ok ran]
    rw [ran] at first
    exact back result world' first.1

end RaisesOnly

end Action

end Interaction
