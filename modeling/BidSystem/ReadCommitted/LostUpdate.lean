import BidSystem.ReadCommitted.System
import Mathlib.Data.Int.Basic
import Mathlib.Tactic.Linarith

/-!
# Lost updates of a version number

Transactions read a version number and commit the successor of what they have read.  A log
of these events, the latest first, says what the number is and what each transaction has seen.

* `Sys.record` — what an observer notes of a run, with its invariant rule.
* `IsFresh` — nothing was written since the transaction has read.
* `current_le` — no write counts more than once.
* `counted_iff` — all writes are counted exactly if each of them is fresh.
* `distinct_iff` — and exactly then no two of them write the same version.
-/

namespace ReadCommitted

universe u v w z

/-! ## What an observer notes of a run -/

namespace Sys

variable {R : Type u} {C : Type v} {E : Type w} {A : Type z} {H : Type}

/-- What an observer has noted once the labels were run; it sees the state before each step. -/
def record (conflict : Prog.Conflict R C) (observe : Sys R C E A → H → Label → H)
    (s : Sys R C E A) (noted : H) : List Label → H
  | [] => noted
  | label :: labels =>
      match s.step conflict label with
      | none => noted
      | some s' => s'.record conflict observe (observe s noted label) labels

/-- **Invariant rule for an observed run.** -/
theorem record_induction {conflict : Prog.Conflict R C} {observe : Sys R C E A → H → Label → H}
    {P : Sys R C E A → H → Prop}
    (preserved : ∀ {s s' : Sys R C E A} {noted : H} {label : Label}, P s noted →
      s.step conflict label = some s' → P s' (observe s noted label))
    {s s' : Sys R C E A} {noted : H} {labels : List Label} (holds : P s noted)
    (ran : s.run conflict labels = some s') :
    P s' (s.record conflict observe noted labels) := by
  induction labels generalizing s noted with
  | nil =>
      cases ran
      exact holds
  | cons label labels ih =>
      rw [run_cons, Option.bind_eq_some_iff] at ran
      obtain ⟨middle, stepped, rest⟩ := ran
      rw [record, stepped]
      exact ih (preserved holds stepped) rest

end Sys

/-! ## A version number -/

/-- What happens to a version number. -/
inductive VersionEvent (T : Type u) where
  | read (tx : T)
  | wrote (tx : T) (version : ℤ)
deriving DecidableEq, Repr

namespace VersionLog

variable {T : Type u}

/-- The number as it was written last. -/
def current (initial : ℤ) : List (VersionEvent T) → ℤ
  | [] => initial
  | .read _ :: earlier => current initial earlier
  | .wrote _ version :: _ => version

/-- How often the number was written. -/
def writes : List (VersionEvent T) → ℕ
  | [] => 0
  | .read _ :: earlier => writes earlier
  | .wrote _ _ :: earlier => writes earlier + 1

/-- All numbers there have been, the latest first. -/
def versions (initial : ℤ) : List (VersionEvent T) → List ℤ
  | [] => [initial]
  | .read _ :: earlier => versions initial earlier
  | .wrote _ version :: earlier => version :: versions initial earlier

section
variable [DecidableEq T]

/-- What a transaction has read last; without a read it is as if it had read at the start. -/
def seen (initial : ℤ) (tx : T) : List (VersionEvent T) → ℤ
  | [] => initial
  | .read other :: earlier => if other = tx then current initial earlier else seen initial tx earlier
  | .wrote _ _ :: earlier => seen initial tx earlier

/-- Every transaction writes the successor of what it has read. -/
def Increments (initial : ℤ) : List (VersionEvent T) → Prop
  | [] => True
  | .read _ :: earlier => Increments initial earlier
  | .wrote tx version :: earlier => version = seen initial tx earlier + 1 ∧ Increments initial earlier

end

/-- Nothing was written since the transaction has read. -/
def IsFresh (tx : T) : List (VersionEvent T) → Prop
  | [] => True
  | .read other :: earlier => other = tx ∨ IsFresh tx earlier
  | .wrote _ _ :: _ => False

/-- Every write was fresh when it was made. -/
def AllFresh : List (VersionEvent T) → Prop
  | [] => True
  | .read _ :: earlier => AllFresh earlier
  | .wrote tx _ :: earlier => IsFresh tx earlier ∧ AllFresh earlier

section
variable [DecidableEq T]

instance isFreshDecidable (tx : T) : (log : List (VersionEvent T)) → Decidable (IsFresh tx log)
  | [] => inferInstanceAs (Decidable True)
  | .read other :: earlier =>
      have := isFreshDecidable tx earlier
      inferInstanceAs (Decidable (other = tx ∨ IsFresh tx earlier))
  | .wrote _ _ :: _ => inferInstanceAs (Decidable False)

instance allFreshDecidable : (log : List (VersionEvent T)) → Decidable (AllFresh log)
  | [] => inferInstanceAs (Decidable True)
  | .read _ :: earlier => allFreshDecidable earlier
  | .wrote tx _ :: earlier =>
      have := allFreshDecidable earlier
      inferInstanceAs (Decidable (IsFresh tx earlier ∧ AllFresh earlier))

variable {initial : ℤ} {tx : T} {log : List (VersionEvent T)}

/-- A fresh transaction has seen the current number. -/
theorem IsFresh.seen (fresh : IsFresh tx log) : seen initial tx log = current initial log := by
  induction log with
  | nil => rfl
  | cons event earlier ih =>
      cases event with
      | read other =>
          by_cases same : other = tx
          · simp [VersionLog.seen, current, same]
          · have before : IsFresh tx earlier := fresh.resolve_left same
            simp [VersionLog.seen, current, same, ih before]
      | wrote other version => exact fresh.elim

/-- The number never gets ahead of the count, and neither does what was read of it. -/
theorem current_le (increments : Increments initial log) :
    current initial log ≤ initial + writes log ∧
      ∀ tx, seen initial tx log ≤ initial + writes log := by
  induction log with
  | nil => simp [current, seen, writes]
  | cons event earlier ih =>
      cases event with
      | read other =>
          obtain ⟨number, known⟩ := ih increments
          refine ⟨number, fun tx => ?_⟩
          by_cases same : other = tx
          · simpa [seen, writes, same] using number
          · simpa [seen, writes, same] using known tx
      | wrote other version =>
          obtain ⟨rfl, before⟩ := increments
          obtain ⟨_, known⟩ := ih before
          constructor
          · have := known other
            simp only [current, writes]
            push_cast
            linarith
          · intro tx
            have := known tx
            simp only [seen, writes]
            push_cast
            linarith

/-- A transaction that is not fresh has seen too little. -/
theorem seen_lt (increments : Increments initial log) (stale : ¬IsFresh tx log) :
    seen initial tx log < initial + writes log := by
  induction log with
  | nil => exact absurd trivial stale
  | cons event earlier ih =>
      cases event with
      | read other =>
          have different : other ≠ tx := fun same => stale (.inl same)
          have before : ¬IsFresh tx earlier := fun fresh => stale (.inr fresh)
          simpa [seen, writes, different] using ih increments before
      | wrote other version =>
          have known := (current_le increments.2).2 tx
          simp only [seen, writes]
          push_cast
          linarith

/-- **All writes are counted exactly if each of them was fresh.** -/
theorem counted_iff (increments : Increments initial log) :
    current initial log = initial + writes log ↔ AllFresh log := by
  induction log with
  | nil => simp [current, writes, AllFresh]
  | cons event earlier ih =>
      cases event with
      | read other => exact ih increments
      | wrote tx version =>
          obtain ⟨rfl, before⟩ := increments
          have step : current initial (.wrote tx (seen initial tx earlier + 1) :: earlier) =
              initial + writes (.wrote tx (seen initial tx earlier + 1) :: earlier) ↔
                seen initial tx earlier = initial + writes earlier := by
            simp only [current, writes]
            push_cast
            constructor <;> intro same <;> linarith
          rw [step, AllFresh, ← ih before]
          constructor
          · intro counted
            have fresh : IsFresh tx earlier := by
              by_contra stale
              exact absurd counted (ne_of_lt (seen_lt before stale))
            have same : seen initial tx earlier = current initial earlier := fresh.seen
            exact ⟨fresh, same ▸ counted⟩
          · rintro ⟨fresh, counted⟩
            rw [fresh.seen, counted]

/-! ### Distinct versions -/

theorem le_of_mem_versions (increments : Increments initial log) {version : ℤ}
    (member : version ∈ versions initial log) : version ≤ initial + writes log := by
  induction log with
  | nil =>
      obtain rfl := List.mem_singleton.1 member
      simp [writes]
  | cons event earlier ih =>
      cases event with
      | read other => exact ih increments member
      | wrote tx written =>
          rcases List.mem_cons.1 member with rfl | member
          · exact (current_le increments).1
          · have := ih increments.2 member
            simp only [writes]
            push_cast
            linarith

/-- Where all writes were fresh, what a stale transaction would write was written. -/
theorem mem_versions_of_stale (increments : Increments initial log) (all : AllFresh log)
    (stale : ¬IsFresh tx log) : seen initial tx log + 1 ∈ versions initial log := by
  induction log with
  | nil => exact absurd trivial stale
  | cons event earlier ih =>
      cases event with
      | read other =>
          have different : other ≠ tx := fun same => stale (.inl same)
          have before : ¬IsFresh tx earlier := fun fresh => stale (.inr fresh)
          simpa [seen, versions, different] using ih increments all before
      | wrote other version =>
          obtain ⟨rfl, before⟩ := increments
          by_cases fresh : IsFresh tx earlier
          · -- Both have seen the same number.
            rw [seen, versions, fresh.seen, all.1.seen]
            exact List.mem_cons_self
          · exact List.mem_cons_of_mem _ (ih before all.2 fresh)

/-- **No version is written twice exactly if every write was fresh.** -/
theorem distinct_iff (increments : Increments initial log) :
    (versions initial log).Nodup ↔ AllFresh log := by
  induction log with
  | nil => simp [versions, AllFresh]
  | cons event earlier ih =>
      cases event with
      | read other => exact ih increments
      | wrote tx version =>
          obtain ⟨rfl, before⟩ := increments
          rw [versions, List.nodup_cons, AllFresh, ih before]
          refine and_congr_left fun all => ?_
          constructor
          · intro new
            by_contra stale
            exact new (mem_versions_of_stale before all stale)
          · intro fresh member
            have counted := (counted_iff before).2 all
            have bound := le_of_mem_versions before member
            rw [fresh.seen, counted] at bound
            linarith

end

end VersionLog

end ReadCommitted
