import Mathlib.Data.List.Perm.Basic
import Mathlib.Data.List.Nodup

/-!
# Resources held as a stack

An owner takes resources and releases them.  A ledger says in which order it did so.

* `Lifo held ledger held'` — an owner of `held` that keeps the ledger, releasing only
  what it took last, owns `held'` after it.
* `Lifo.released_eq` — an owner that takes before it releases releases in reverse.
-/

namespace Ownership

universe u

/-- What an owner does with a resource. -/
inductive Entry (R : Type u) where
  | taken (resource : R)
  | released (resource : R)
deriving DecidableEq, Repr

variable {R : Type u}

/-- What was taken, in order. -/
def taken (ledger : List (Entry R)) : List R :=
  ledger.filterMap fun
    | .taken resource => some resource
    | .released _ => none

/-- What was released, in order. -/
def released (ledger : List (Entry R)) : List R :=
  ledger.filterMap fun
    | .taken _ => none
    | .released resource => some resource

@[simp] theorem taken_nil : taken ([] : List (Entry R)) = [] := rfl

@[simp] theorem taken_cons_taken (resource : R) (ledger : List (Entry R)) :
    taken (.taken resource :: ledger) = resource :: taken ledger := rfl

@[simp] theorem taken_cons_released (resource : R) (ledger : List (Entry R)) :
    taken (.released resource :: ledger) = taken ledger := rfl

@[simp] theorem taken_append (first second : List (Entry R)) :
    taken (first ++ second) = taken first ++ taken second := List.filterMap_append

@[simp] theorem released_nil : released ([] : List (Entry R)) = [] := rfl

@[simp] theorem released_cons_taken (resource : R) (ledger : List (Entry R)) :
    released (.taken resource :: ledger) = released ledger := rfl

@[simp] theorem released_cons_released (resource : R) (ledger : List (Entry R)) :
    released (.released resource :: ledger) = resource :: released ledger := rfl

@[simp] theorem released_append (first second : List (Entry R)) :
    released (first ++ second) = released first ++ released second := List.filterMap_append

/-- The last taken is the first of `held`. -/
inductive Lifo : List R → List (Entry R) → List R → Prop where
  | nil (held : List R) : Lifo held [] held
  | take {held held' : List R} {ledger : List (Entry R)} (resource : R) :
      Lifo (resource :: held) ledger held' → Lifo held (.taken resource :: ledger) held'
  | release {held held' : List R} {ledger : List (Entry R)} (resource : R) :
      Lifo held ledger held' → Lifo (resource :: held) (.released resource :: ledger) held'

namespace Lifo

/-- One owner after the other. -/
theorem append {first middle last : List R} {front back : List (Entry R)}
    (fronts : Lifo first front middle) (backs : Lifo middle back last) :
    Lifo first (front ++ back) last := by
  induction fronts with
  | nil => exact backs
  | take resource _ ih => exact .take resource (ih backs)
  | release resource _ ih => exact .release resource (ih backs)

/-- Taking stacks up. -/
theorem takes (held resources : List R) :
    Lifo held (resources.map .taken) (resources.reverse ++ held) := by
  induction resources generalizing held with
  | nil => exact .nil held
  | cons resource resources ih =>
      rw [List.reverse_cons, List.append_assoc]
      exact .take resource (ih (resource :: held))

/-- Releasing from the top. -/
theorem releases (resources held : List R) :
    Lifo (resources ++ held) (resources.map .released) held := by
  induction resources with
  | nil => exact .nil held
  | cons resource resources ih => exact .release resource ih

/-- **Resources are released in the reverse order**, if all are taken before. -/
theorem released_eq {resources back held : List R}
    (kept : Lifo [] (resources.map .taken ++ back.map .released) held) :
    resources.reverse = back ++ held := by
  -- After the front the stack is known; from there the induction is on what is released.
  have fronts : ∀ (front : List R) {first last : List R} {ledger : List (Entry R)},
      Lifo first (front.map .taken ++ ledger) last →
        Lifo (front.reverse ++ first) ledger last := by
    intro front
    induction front with
    | nil => exact fun kept => kept
    | cons resource front ih =>
        intro first last ledger kept
        rcases kept with _ | ⟨_, rest⟩
        rw [List.reverse_cons, List.append_assoc]
        exact ih rest
  have backs : ∀ (back : List R) {first last : List R},
      Lifo first (back.map .released) last → first = back ++ last := by
    intro back
    induction back with
    | nil =>
        rintro first last ⟨⟩
        rfl
    | cons resource back ih =>
        intro first last kept
        rcases kept with _ | _ | ⟨_, rest⟩
        rw [ih rest, List.cons_append]
  simpa using backs back (fronts resources kept)

end Lifo

end Ownership
