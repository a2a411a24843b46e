import BidSystem.Shared.Python
import Mathlib.Data.List.DropRight

/-!
# Stripped texts

What `str.strip` leaves of a text, and which texts are blank; the character that a
PostgreSQL text cannot hold.

* `blank_iff` — the blank texts are those of spaces.
* `strip_strip` — a stripped text is stripped.
-/

namespace BidSystem

/-- The character U+0000. -/
def nul : Char := Char.ofNat 0

theorem toList_strip (value : String) :
    (strip value).toList = (value.toList.dropWhile isSpace).rdropWhile isSpace := by
  rw [strip, String.toList_ofList, List.rdropWhile]

/-- The text that is left does not start with a space. -/
theorem dropWhile_toList_strip (value : String) :
    (strip value).toList.dropWhile isSpace = (strip value).toList := by
  obtain ⟨rest, split⟩ := List.rdropWhile_prefix isSpace (l := value.toList.dropWhile isSpace)
  rw [toList_strip, List.dropWhile_eq_self_iff]
  intro longer
  have starts := List.dropWhile_eq_self_iff.1 (List.dropWhile_idempotent isSpace value.toList)
  rw [← split] at starts
  have first := starts (by rw [List.length_append]; omega)
  rwa [List.getElem_append_left longer] at first

/-- **The blank texts are those of spaces.** -/
theorem blank_iff {value : String} :
    blank value = true ↔ ∀ character ∈ value.toList, isSpace character = true := by
  rw [blank, beq_iff_eq, ← String.toList_eq_nil_iff, toList_strip, List.rdropWhile_eq_nil_iff]
  constructor
  · intro spaces
    -- The rest that starts with another character than a space is empty.
    have stripped : value.toList.dropWhile isSpace = [] := by
      by_contra some
      have first := spaces _ (List.head_mem some)
      rw [List.head_dropWhile_not isSpace] at first
      cases first
    exact List.dropWhile_eq_nil_iff.1 stripped
  · intro spaces character member
    rw [List.dropWhile_eq_nil_iff.2 spaces] at member
    cases member

/-- A text with another character than spaces is not blank. -/
theorem blank_eq_false_of_mem {value : String} {character : Char}
    (member : character ∈ value.toList) (notSpace : isSpace character = false) :
    blank value = false := by
  rw [Bool.eq_false_iff]
  intro empty
  rw [blank_iff.1 empty character member] at notSpace
  cases notSpace

/-- Stripping keeps the characters that are not spaces. -/
theorem mem_toList_strip {value : String} {character : Char}
    (notSpace : isSpace character = false) :
    character ∈ (strip value).toList ↔ character ∈ value.toList := by
  have front : character ∈ value.toList.dropWhile isSpace ↔ character ∈ value.toList := by
    conv_rhs => rw [← List.takeWhile_append_dropWhile (p := isSpace) (l := value.toList)]
    rw [List.mem_append, or_iff_right]
    intro space
    rw [List.mem_takeWhile_imp space] at notSpace
    cases notSpace
  have split : (strip value).toList ++ (value.toList.dropWhile isSpace).rtakeWhile isSpace =
      value.toList.dropWhile isSpace := by
    rw [toList_strip, List.rdropWhile_append_rtakeWhile]
  rw [← front, ← split, List.mem_append, or_iff_left]
  intro space
  rw [List.mem_rtakeWhile_imp space] at notSpace
  cases notSpace

/-- **A stripped text is stripped.** -/
theorem strip_strip (value : String) : strip (strip value) = strip value := by
  rw [← String.toList_inj, toList_strip, dropWhile_toList_strip, toList_strip,
    List.rdropWhile_idempotent]

/-- Stripping does not make a text blank. -/
theorem blank_strip (value : String) : blank (strip value) = blank value := by
  rw [blank, blank, strip_strip]

end BidSystem
