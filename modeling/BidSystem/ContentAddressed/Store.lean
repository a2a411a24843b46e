import Mathlib.Logic.Function.Basic
import Mathlib.Data.Set.Insert

/-!
# Content-addressed stores

A store maps keys to contents, and an address function says under which key a
content belongs.  A store is *addressed* when whatever is stored under the
address of a content has that address itself.  Storing contents under their
addresses keeps a store addressed (`Addressed.put`) and never replaces what is
there by something with another address.

When the addresses tell the contents concerned apart, an addressed store holds
under the address of a content that content or nothing (`Addressed.eq_of_injOn`).
-/

namespace ContentAddressed

universe u v

variable {Key : Type u} {Content : Type v}

/-- A store of contents. -/
abbrev Store (Key : Type u) (Content : Type v) := Key → Option Content

/-- The contents of a store. -/
def Store.contents (store : Store Key Content) : Set Content :=
  fun content => ∃ key, store key = some content

/-- What is stored under the address of a content has that address. -/
def Addressed (address : Content → Key) (store : Store Key Content) : Prop :=
  ∀ content stored, store (address content) = some stored → address stored = address content

variable {address : Content → Key} {store : Store Key Content} {content stored : Content}

theorem addressed_empty : Addressed address (fun _ => none : Store Key Content) := nofun

/-- Storing a content under its address. -/
theorem Addressed.put [DecidableEq Key] (addressed : Addressed address store)
    (content : Content) :
    Addressed address (Function.update store (address content) (some content)) := by
  intro other stored found
  by_cases here : address other = address content
  · rw [here, Function.update_self] at found
    rw [← Option.some.inj found, here]
  · rw [Function.update_of_ne here] at found
    exact addressed other stored found

/-- **Under the address of a content there is that content or nothing**, if the
addresses tell it and the stored contents apart. -/
theorem Addressed.eq_of_injOn (addressed : Addressed address store)
    (injective : Set.InjOn address (insert content store.contents))
    (found : store (address content) = some stored) : stored = content :=
  injective (Set.mem_insert_of_mem _ ⟨address content, found⟩) (Set.mem_insert _ _)
    (addressed content stored found)

end ContentAddressed
