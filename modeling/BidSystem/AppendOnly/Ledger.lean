import Mathlib.Data.List.Sort
import Mathlib.Data.List.Nodup
import Mathlib.Order.Basic
import Mathlib.Algebra.Order.Ring.Int

/-!
# Numbered append-only ledgers

A ledger is a list of entries that carry their sequence number and a key.  The
numbers count from one without gaps, and no two entries share a key.  A ledger
grows at its end, by an entry with the next number and a new key
(`Ledger.concat_iff`).

A ledger is often stored as an unordered collection of entries.  It is then
read back by sorting on the number (`byNumber`), which puts a new last entry
last (`byNumber_concat`), and the next number is one more than the maximum
(`Ledger.max_number`).
-/

namespace AppendOnly

universe u v

variable {α : Type u} {κ : Type v} (number : α → ℤ) (key : α → κ)

/-- The entries are numbered `first`, `first + 1`, ... -/
def Numbered (first : ℤ) : List α → Prop
  | [] => True
  | entry :: entries => number entry = first ∧ Numbered (first + 1) entries

/-- Entries numbered from one, with distinct keys. -/
structure Ledger (entries : List α) : Prop where
  numbered : Numbered number 1 entries
  distinct : (entries.map key).Nodup

/-- The entries sorted by their numbers. -/
def byNumber (entries : List α) : List α :=
  entries.insertionSort fun entry other => number entry ≤ number other

variable {number key}

section Numbering

variable {first : ℤ} {entries : List α} {entry : α}

theorem numbered_concat :
    Numbered number first (entries ++ [entry]) ↔
      Numbered number first entries ∧ number entry = first + entries.length := by
  induction entries generalizing first with
  | nil =>
      show number entry = first ∧ True ↔ True ∧ number entry = first + ((0 : ℕ) : ℤ)
      rw [Nat.cast_zero, add_zero, and_true, true_and]
  | cons head entries ih =>
      show (number head = first ∧ Numbered number (first + 1) (entries ++ [entry])) ↔
        (number head = first ∧ Numbered number (first + 1) entries) ∧
          number entry = first + (((head :: entries).length : ℕ) : ℤ)
      rw [ih, and_assoc, List.length_cons, Nat.cast_succ, add_assoc, add_comm 1 (entries.length : ℤ)]

theorem Numbered.lt_next (numbered : Numbered number first entries) (member : entry ∈ entries) :
    number entry < first + entries.length := by
  induction entries generalizing first with
  | nil => cases member
  | cons head entries ih =>
      obtain ⟨atHead, rest⟩ := numbered
      rw [List.length_cons, Nat.cast_succ]
      rcases List.mem_cons.mp member with rfl | later
      · omega
      · have := ih rest later
        omega

end Numbering

/-! ## Reading back -/

section Sorting

variable {entries : List α} {entry : α}

theorem mem_byNumber : entry ∈ byNumber number entries ↔ entry ∈ entries :=
  List.mem_insertionSort _

theorem byNumber_eq_nil : byNumber number entries = [] ↔ entries = [] := by
  rw [← List.length_eq_zero_iff, byNumber, List.length_insertionSort, List.length_eq_zero_iff]

theorem orderedInsert_concat {r : α → α → Prop} [DecidableRel r] {last : α}
    (before : r entry last) :
    (entries ++ [last]).orderedInsert r entry = entries.orderedInsert r entry ++ [last] := by
  induction entries with
  | nil => simp [before]
  | cons head entries ih =>
      rw [List.cons_append, List.orderedInsert_cons, List.orderedInsert_cons]
      split
      · rfl
      · rw [ih, List.cons_append]

/-- The entry with the greatest number is read back last. -/
theorem byNumber_concat (greatest : ∀ other ∈ entries, number other ≤ number entry) :
    byNumber number (entries ++ [entry]) = byNumber number entries ++ [entry] := by
  unfold byNumber
  induction entries with
  | nil => rfl
  | cons head entries ih =>
      rw [List.cons_append, List.insertionSort_cons, List.insertionSort_cons,
        ih fun other member => greatest other (List.mem_cons_of_mem _ member)]
      exact orderedInsert_concat (greatest head List.mem_cons_self)

end Sorting

/-! ## Ledgers -/

namespace Ledger

variable {entries : List α} {entry : α}

/-- **A ledger grows by an entry with the next number and a new key.** -/
theorem concat_iff :
    Ledger number key (entries ++ [entry]) ↔
      Ledger number key entries ∧ number entry = entries.length + 1 ∧
        key entry ∉ entries.map key := by
  constructor
  · rintro ⟨numbered, distinct⟩
    obtain ⟨front, last⟩ := numbered_concat.mp numbered
    rw [List.map_append, List.map_singleton] at distinct
    obtain ⟨frontDistinct, _, disjoint⟩ := List.nodup_append.mp distinct
    refine ⟨⟨front, frontDistinct⟩, last.trans (add_comm _ _), fun member => ?_⟩
    exact disjoint _ member _ (List.mem_singleton_self _) rfl
  · rintro ⟨⟨numbered, distinct⟩, last, new⟩
    refine ⟨numbered_concat.mpr ⟨numbered, last.trans (add_comm _ _)⟩, ?_⟩
    rw [List.map_append, List.map_singleton, List.nodup_append]
    refine ⟨distinct, List.nodup_singleton _, fun old member other isLast same => new ?_⟩
    rw [← List.mem_singleton.mp isLast, ← same]
    exact member

/-- The greatest number of a stored ledger is its length. -/
theorem max_number (ledger : Ledger number key (byNumber number entries))
    (nonempty : entries ≠ []) : (entries.map number).max? = some (entries.length : ℤ) := by
  have sameLength : (byNumber number entries).length = entries.length :=
    List.length_insertionSort ..
  have upper : ∀ entry ∈ entries, number entry ≤ entries.length := by
    intro entry member
    have := ledger.numbered.lt_next (mem_byNumber.mpr member)
    rw [sameLength] at this
    omega
  have attained : ∃ last ∈ entries, number last = entries.length := by
    have sortedNonempty : byNumber number entries ≠ [] := fun empty =>
      nonempty (byNumber_eq_nil.mp empty)
    refine ⟨(byNumber number entries).getLast sortedNonempty,
      mem_byNumber.mp (List.getLast_mem sortedNonempty), ?_⟩
    have numbered := ledger.numbered
    rw [← List.dropLast_append_getLast sortedNonempty] at numbered
    have last := (numbered_concat.mp numbered).2
    rw [last, List.length_dropLast, sameLength]
    have := List.length_pos_of_ne_nil nonempty
    omega
  refine List.max?_eq_some_iff.mpr ⟨?_, fun number' member => ?_⟩
  · obtain ⟨last, member, isLast⟩ := attained
    rw [← isLast]
    exact List.mem_map_of_mem member
  · obtain ⟨entry, entryMember, rfl⟩ := List.mem_map.mp member
    exact upper entry entryMember

/-- Entering the next number with a new key into a stored ledger. -/
theorem byNumber_next (ledger : Ledger number key (byNumber number entries))
    (next : number entry = entries.length + 1) :
    byNumber number (entries ++ [entry]) = byNumber number entries ++ [entry] := by
  refine byNumber_concat fun other member => ?_
  have := ledger.numbered.lt_next (mem_byNumber.mpr member)
  have sameLength : (byNumber number entries).length = entries.length :=
    List.length_insertionSort ..
  rw [sameLength] at this
  omega

end Ledger

end AppendOnly
