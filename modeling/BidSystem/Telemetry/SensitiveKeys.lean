import BidSystem.Telemetry.Redaction
import Mathlib.Data.List.Infix

/-!
# Sensitive keys

The keys of `SENSITIVE_TEXT_PATTERN`: no key is the beginning of another one,
so that a text starts with one key at most, and no key has white space or a
separator in it.
-/

namespace BidSystem.Telemetry

open Regex Pattern

/-- A key of `SENSITIVE_TEXT_PATTERN`. -/
def IsKey (key : List Char) : Prop := sensitiveKeyPattern.Accepts key

instance (key : List Char) : Decidable (IsKey key) :=
  decidable_of_iff ([] ∈ sensitiveKeyPattern.rests key) (by
    rw [mem_rests_iff]
    constructor
    · rintro ⟨front, split, isKey⟩
      rw [List.append_nil] at split
      rwa [split]
    · exact fun isKey => ⟨key, (List.append_nil key).symm, isKey⟩)

/-- The keys in lower case. -/
def keyTexts : List (List Char) :=
  ["authorization", "cookie", "apikey", "api_key", "api-key", "accesskey", "access_key",
    "access-key", "password", "secret", "token", "signingkey", "signing_key", "signing-key",
    "privatekey", "private_key", "private-key", "database_url", "redis_url", "broker_url"].map
      String.toList

/-- The characters of the keys in lower case. -/
def keyLetters : List Char := "abcdeghiknoprstuvwyzql_-".toList

theorem accepts_letters {text : String} {word : List Char} :
    (Pattern.word (letters text)).Accepts word ↔ word.map ignoreCase = text.toList := by
  unfold letters
  generalize text.toList = expected
  induction expected generalizing word with
  | nil => simp [Pattern.word, Accepts]
  | cons letter others ih =>
      rw [List.map_cons, Pattern.word, Accepts]
      constructor
      · rintro ⟨_, back, rfl, ⟨character, same, rfl⟩, isBack⟩
        rw [List.singleton_append, List.map_cons, ih.mp isBack, beq_iff_eq.mp same]
      · intro same
        cases word with
        | nil => cases same
        | cons character rest =>
            rw [List.map_cons, List.cons.injEq] at same
            exact ⟨[character], rest, rfl, ⟨character, beq_iff_eq.mpr same.1, rfl⟩, ih.mpr same.2⟩

theorem accepts_joined {front back : String} {word : List Char}
    (accepted : (joined front back).Accepts word) :
    word.map ignoreCase ∈ [front.toList ++ back.toList, front.toList ++ '_' :: back.toList,
      front.toList ++ '-' :: back.toList] := by
  obtain ⟨first, _, rfl, isFirst, middle, last, rfl, isMiddle, isLast⟩ := accepted
  rw [List.map_append, List.map_append, accepts_letters.mp isFirst, accepts_letters.mp isLast]
  rcases isMiddle with ⟨character, isJoint, rfl⟩ | rfl
  · simp only [joint, Bool.or_eq_true, beq_iff_eq] at isJoint
    rcases isJoint with rfl | rfl
    · simp [show ignoreCase '_' = '_' by decide]
    · simp [show ignoreCase '-' = '-' by decide]
  · simp

/-- A key is one of these in lower case. -/
theorem mem_keyTexts {key : List Char} (isKey : IsKey key) : key.map ignoreCase ∈ keyTexts := by
  have word : ∀ text : String, text.toList ∈ keyTexts → (Pattern.word (letters text)).Accepts key →
      key.map ignoreCase ∈ keyTexts := by
    intro text member accepted
    rw [accepts_letters.mp accepted]
    exact member
  have pair : ∀ front back : String, (∀ other ∈ [front.toList ++ back.toList,
      front.toList ++ '_' :: back.toList, front.toList ++ '-' :: back.toList], other ∈ keyTexts) →
      (joined front back).Accepts key → key.map ignoreCase ∈ keyTexts :=
    fun front back member accepted => member _ (accepts_joined accepted)
  rcases isKey with accepted | accepted | accepted | accepted | accepted | accepted | accepted |
    accepted | accepted | accepted | accepted | accepted
  · exact word "authorization" (by decide) accepted
  · exact word "cookie" (by decide) accepted
  · exact pair "api" "key" (by decide) accepted
  · exact pair "access" "key" (by decide) accepted
  · exact word "password" (by decide) accepted
  · exact word "secret" (by decide) accepted
  · exact word "token" (by decide) accepted
  · exact pair "signing" "key" (by decide) accepted
  · exact pair "private" "key" (by decide) accepted
  · exact word "database_url" (by decide) accepted
  · exact word "redis_url" (by decide) accepted
  · exact word "broker_url" (by decide) accepted

/-- No key is the beginning of another one. -/
theorem eq_of_prefix_keyTexts : ∀ key ∈ keyTexts, ∀ other ∈ keyTexts, key <+: other → key = other := by
  decide

/-- **A text starts with one key at most.** -/
theorem key_unique {key other rest rest' : List Char} (isKey : IsKey key) (isOther : IsKey other)
    (same : key ++ rest = other ++ rest') : key = other ∧ rest = rest' := by
  have sameLength : key.length = other.length := by
    have comparable : key <+: other ∨ other <+: key :=
      List.prefix_or_prefix_of_prefix (List.prefix_append key rest)
        (same ▸ List.prefix_append other rest')
    rcases comparable with shorter | longer
    · have equal := eq_of_prefix_keyTexts _ (mem_keyTexts isKey) _ (mem_keyTexts isOther)
        (shorter.map ignoreCase)
      simpa using congrArg List.length equal
    · have equal := eq_of_prefix_keyTexts _ (mem_keyTexts isOther) _ (mem_keyTexts isKey)
        (longer.map ignoreCase)
      simpa using (congrArg List.length equal).symm
  exact List.append_inj same sameLength

/-- A character of a key. -/
def KeyCharacter (character : Char) : Prop := ignoreCase character ∈ keyLetters

instance (character : Char) : Decidable (KeyCharacter character) :=
  inferInstanceAs (Decidable (_ ∈ keyLetters))

theorem over_letters {text : String} (inLetters : ∀ letter ∈ text.toList, letter ∈ keyLetters) :
    (word (letters text)).Over KeyCharacter := by
  unfold letters
  revert inLetters
  generalize text.toList = expected
  intro inLetters
  induction expected with
  | nil => trivial
  | cons letter others ih =>
      obtain ⟨isLetter, inOthers⟩ := List.forall_mem_cons.mp inLetters
      refine ⟨fun character same => ?_, ih inOthers⟩
      unfold KeyCharacter
      rw [beq_iff_eq.mp same]
      exact isLetter

theorem over_joined {front back : String} (inFront : ∀ letter ∈ front.toList, letter ∈ keyLetters)
    (inBack : ∀ letter ∈ back.toList, letter ∈ keyLetters) :
    (joined front back).Over KeyCharacter := by
  refine ⟨over_letters inFront, fun character isJoint => ?_, over_letters inBack⟩
  simp only [joint, Bool.or_eq_true, beq_iff_eq] at isJoint
  rcases isJoint with rfl | rfl <;> decide

/-- **Keys are made of their characters.** -/
theorem over_sensitiveKeyPattern : sensitiveKeyPattern.Over KeyCharacter := by
  refine ⟨over_letters ?_, over_letters ?_, over_joined ?_ ?_, over_joined ?_ ?_, over_letters ?_,
    over_letters ?_, over_letters ?_, over_joined ?_ ?_, over_joined ?_ ?_, over_letters ?_,
    over_letters ?_, over_letters ?_⟩ <;> decide

theorem keyCharacter_of_mem {key : List Char} (isKey : IsKey key) :
    ∀ character ∈ key, KeyCharacter character :=
  within_of_accepts over_sensitiveKeyPattern isKey

theorem key_ne_nil {key : List Char} (isKey : IsKey key) : key ≠ [] := by
  rintro rfl
  exact absurd (mem_keyTexts isKey) (by decide)

/-- The characters of keys are not white space. -/
theorem isSpace_of_keyCharacter {character : Char} (isKeyCharacter : KeyCharacter character) :
    isSpace character = false := by
  by_contra space
  have codes : (9 ≤ character.toNat ∧ character.toNat ≤ 13) ∨
      (28 ≤ character.toNat ∧ character.toNat ≤ 32) ∨ 0x85 ≤ character.toNat := by
    simp only [isSpace, Bool.not_eq_false, Bool.or_eq_true, Bool.and_eq_true, decide_eq_true_eq,
      beq_iff_eq] at space
    omega
  have unlike : character.toNat ≠ 0x130 ∧ character.toNat ≠ 0x131 ∧ character.toNat ≠ 0x17F ∧
      character.toNat ≠ 0x212A := by
    simp only [isSpace, Bool.not_eq_false, Bool.or_eq_true, Bool.and_eq_true, decide_eq_true_eq,
      beq_iff_eq] at space
    omega
  have lower : character.toLower = character := by
    unfold Char.toLower
    split
    · next upper =>
        simp only [Char.toNat, ge_iff_le, UInt32.le_iff_toNat_le] at codes upper
        have bounds : 65 ≤ character.val.toNat ∧ character.val.toNat ≤ 90 := upper
        omega
    · rfl
  have same : ignoreCase character = character := by
    unfold ignoreCase
    dsimp only
    rw [if_neg (by omega), if_neg (by omega), if_neg (by omega), lower]
  unfold KeyCharacter at isKeyCharacter
  rw [same] at isKeyCharacter
  have letters : ∀ letter ∈ keyLetters, isSpace letter = false := by decide
  exact space (letters character isKeyCharacter)

theorem separator_of_keyCharacter {character : Char} (isKeyCharacter : KeyCharacter character) :
    separator character = false := by
  unfold separator
  rw [Bool.or_eq_false_iff, beq_eq_false_iff_ne, beq_eq_false_iff_ne]
  constructor <;> rintro rfl <;> exact absurd isKeyCharacter (by decide)

theorem not_keyCharacter_of_isSpace {character : Char} (space : isSpace character = true) :
    ¬ KeyCharacter character := fun isKeyCharacter => by
  rw [isSpace_of_keyCharacter isKeyCharacter] at space
  cases space

end BidSystem.Telemetry
