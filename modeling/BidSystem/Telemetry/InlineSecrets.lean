import BidSystem.Telemetry.SensitiveKeys
import BidSystem.Telemetry.UrlCredentials

/-!
# Secrets in running text

The second pass of `redact_text` replaces a key with what looks like its value.
A secret is under way at the end of a text if the scan has come to a key there,
with a separator and the beginning of a value and nothing else after it.
-/

namespace BidSystem.Telemetry

open Regex Pattern

/-! ## Separators and values -/

/-- White space. -/
def IsSpaces (text : List Char) : Prop := ∀ character ∈ text, isSpace character = true

/-- `Bearer` with white space after it, or nothing. -/
def IsMarker (text : List Char) : Prop :=
  text = [] ∨ ∃ bearer spaces, text = bearer ++ spaces ∧
    bearer.map ignoreCase = "bearer".toList ∧ spaces ≠ [] ∧ IsSpaces spaces

/-- `\s*[:=]\s*(?:Bearer\s+)?`. -/
def IsSeparator (text : List Char) : Prop :=
  ∃ before sign after marker, text = before ++ sign :: (after ++ marker) ∧ IsSpaces before ∧
    separator sign = true ∧ IsSpaces after ∧ IsMarker marker

/-- A run of value characters. -/
def IsValue (text : List Char) : Prop := ∀ character ∈ text, valueCharacter character = true

/-- The word `Bearer`, in any case. -/
def IsBearer (text : List Char) : Prop := text.map ignoreCase = "bearer".toList

instance (text : List Char) : Decidable (IsValue text) :=
  inferInstanceAs (Decidable (∀ character ∈ text, _))

instance (text : List Char) : Decidable (IsBearer text) :=
  inferInstanceAs (Decidable (_ = _))

theorem valueCharacter_of_isSpace {character : Char} (space : isSpace character = true) :
    valueCharacter character = false := by
  simp [valueCharacter, space]

theorem isSpace_of_valueCharacter {character : Char} (isValue : valueCharacter character = true) :
    isSpace character = false := by
  cases space : isSpace character with
  | false => rfl
  | true =>
      rw [valueCharacter_of_isSpace space] at isValue
      cases isValue

theorem separator_of_isSpace {character : Char} (space : isSpace character = true) :
    separator character = false := by
  unfold separator
  rw [Bool.or_eq_false_iff, beq_eq_false_iff_ne, beq_eq_false_iff_ne]
  constructor <;> rintro rfl <;> exact absurd space (by decide)

theorem keyCharacter_of_mem_bearer {bearer : List Char} (isBearer : IsBearer bearer) :
    ∀ character ∈ bearer, KeyCharacter character := by
  intro character member
  have inBearer : ignoreCase character ∈ "bearer".toList :=
    isBearer ▸ List.mem_map_of_mem member
  have letters : ∀ letter ∈ "bearer".toList, letter ∈ keyLetters := by decide
  exact letters _ inBearer

theorem valueCharacter_of_keyCharacter {character : Char} (isKeyCharacter : KeyCharacter character) :
    valueCharacter character = true := by
  have notSpace := isSpace_of_keyCharacter isKeyCharacter
  have notComma : character ≠ ',' := by
    rintro rfl
    exact absurd isKeyCharacter (by decide)
  have notSemicolon : character ≠ ';' := by
    rintro rfl
    exact absurd isKeyCharacter (by decide)
  simp [valueCharacter, notSpace, notComma, notSemicolon]

theorem accepts_bearerMarker {text : List Char} : bearerMarker.Accepts text ↔ IsMarker text := by
  constructor
  · rintro (⟨bearer, spaces, rfl, isBearer, isSpaces⟩ | rfl)
    · obtain ⟨nonempty, spaces⟩ := accepts_plus.mp isSpaces
      exact .inr ⟨bearer, _, rfl, accepts_letters.mp isBearer, nonempty, spaces⟩
    · exact .inl rfl
  · rintro (rfl | ⟨bearer, spaces, rfl, isBearer, nonempty, isSpaces⟩)
    · exact .inr rfl
    · exact .inl ⟨bearer, spaces, rfl, accepts_letters.mpr isBearer,
        accepts_plus.mpr ⟨nonempty, isSpaces⟩⟩

theorem accepts_separatorBefore {value : Pattern Char} {text : List Char} :
    (separatorBefore value).Accepts text ↔
      ∃ between last, text = between ++ last ∧ IsSeparator between ∧ value.Accepts last := by
  constructor
  · rintro ⟨before, _, rfl, isBefore, _, _, rfl, ⟨sign, isSign, rfl⟩, after, _, rfl, isAfter,
      marker, last, rfl, isMarker, isLast⟩
    exact ⟨before ++ sign :: (after ++ marker), last, by simp,
      ⟨before, sign, after, marker, rfl, isBefore, isSign, isAfter,
        accepts_bearerMarker.mp isMarker⟩, isLast⟩
  · rintro ⟨_, last, rfl, ⟨before, sign, after, marker, rfl, isBefore, isSign, isAfter, isMarker⟩,
      isLast⟩
    exact ⟨before, sign :: (after ++ marker ++ last), by simp, isBefore, [sign],
      after ++ marker ++ last, rfl, ⟨sign, isSign, rfl⟩, after, marker ++ last, by simp, isAfter,
      marker, last, rfl, accepts_bearerMarker.mpr isMarker, isLast⟩

/-- A key, a separator and the beginning of a value. -/
def secretBeginning (text : List Char) : Bool :=
  ((seq sensitiveKeyPattern (separatorBefore (many valueCharacter))).rests text).any List.isEmpty

theorem secretBeginning_iff {text : List Char} :
    secretBeginning text = true ↔ ∃ key between value, IsKey key ∧ IsSeparator between ∧
      IsValue value ∧ text = key ++ between ++ value := by
  unfold secretBeginning
  rw [List.any_eq_true]
  constructor
  · rintro ⟨rest, member, empty⟩
    rw [List.isEmpty_iff.mp empty, mem_rests_iff] at member
    obtain ⟨_, rfl, key, _, rfl, isKey, isRest⟩ := member
    obtain ⟨between, value, rfl, isBetween, isValue⟩ := accepts_separatorBefore.mp isRest
    exact ⟨key, between, value, isKey, isBetween, isValue, by simp⟩
  · rintro ⟨key, between, value, isKey, isBetween, isValue, rfl⟩
    exact ⟨[], mem_rests_iff.mpr ⟨_, (List.append_nil _).symm, key, between ++ value, by simp,
      isKey, accepts_separatorBefore.mpr ⟨between, value, rfl, isBetween, isValue⟩⟩, rfl⟩

/-- The beginning of a value with its separator: white space, or the separator
and the beginning of the value itself. -/
theorem begins_separatorBefore {text : List Char}
    (begins : (separatorBefore (plus valueCharacter)).Begins text) :
    IsSpaces text ∨ ∃ between value, text = between ++ value ∧ IsSeparator between ∧ IsValue value := by
  rcases begins with spaces | ⟨before, _, rfl, isBefore, rfl | ⟨_, rest, rfl, ⟨sign, isSign, rfl⟩, inRest⟩⟩
  · exact .inl spaces
  · exact .inl (by rwa [List.append_nil])
  · refine .inr ?_
    rcases inRest with spaces | ⟨after, last, rfl, isAfter, inLast⟩
    · exact ⟨before ++ sign :: (rest ++ []), [], by simp,
        ⟨before, sign, rest, [], rfl, isBefore, isSign, spaces, .inl rfl⟩, nofun⟩
    · rcases inLast with (inBearer | ⟨bearer, spaces, rfl, isBearer, inSpaces⟩) |
        ⟨marker, value, rfl, isMarker, inValue⟩
      · refine ⟨before ++ sign :: (after ++ []), last, by simp,
          ⟨before, sign, after, [], rfl, isBefore, isSign, isAfter, .inl rfl⟩, ?_⟩
        intro character member
        exact valueCharacter_of_keyCharacter
          (within_of_begins (over_letters (by decide)) inBearer character member)
      · have isBearer := accepts_letters.mp isBearer
        have isSpaces : IsSpaces spaces := begins_plus inSpaces
        by_cases empty : spaces = []
        · subst empty
          refine ⟨before ++ sign :: (after ++ []), bearer, by simp,
            ⟨before, sign, after, [], rfl, isBefore, isSign, isAfter, .inl rfl⟩, ?_⟩
          intro character member
          exact valueCharacter_of_keyCharacter (keyCharacter_of_mem_bearer isBearer character member)
        · exact ⟨before ++ sign :: (after ++ (bearer ++ spaces)), [], by simp,
            ⟨before, sign, after, _, rfl, isBefore, isSign, isAfter,
              .inr ⟨bearer, spaces, rfl, isBearer, empty, isSpaces⟩⟩, nofun⟩
      · exact ⟨before ++ sign :: (after ++ marker), value, by simp,
          ⟨before, sign, after, marker, rfl, isBefore, isSign, isAfter,
            accepts_bearerMarker.mp isMarker⟩, begins_plus inValue⟩

/-! ## The match at a key -/

theorem exists_cons_of_isBearer {bearer : List Char} (isBearer : IsBearer bearer) :
    ∃ first rest, bearer = first :: rest := by
  cases bearer with
  | nil => cases isBearer
  | cons first rest => exact ⟨first, rest, rfl⟩

theorem afterWord_letters {text : String} {word rest : List Char}
    (same : word.map ignoreCase = text.toList) :
    afterWord (letters text) (word ++ rest) = some rest := by
  unfold letters
  revert same
  generalize text.toList = expected
  intro same
  induction word generalizing expected with
  | nil =>
      rw [← same]
      rfl
  | cons character others ih =>
      rw [← same, List.map_cons, List.map_cons, List.cons_append, afterWord,
        if_pos (beq_iff_eq.mpr rfl)]
      exact ih _ rfl

/-- Spaces are dropped up to something else. -/
theorem dropWhile_spaces {spaces rest : List Char} {character : Char} (isSpaces : IsSpaces spaces)
    (notSpace : isSpace character = false) :
    (spaces ++ character :: rest).dropWhile isSpace = character :: rest := by
  rw [List.dropWhile_append_of_pos isSpaces, List.dropWhile_cons_of_neg (by rw [notSpace]; decide)]

/-- A value ends where the text stops being one. -/
theorem takeWhile_value {value rest : List Char} (isValue : IsValue value)
    (stops : Stops (fun character => valueCharacter character = true) rest) :
    (value ++ rest).takeWhile valueCharacter = value := by
  rw [List.takeWhile_append_of_pos isValue]
  cases rest with
  | nil => simp
  | cons character others => rw [List.takeWhile_cons_of_neg stops, List.append_nil]

theorem dropWhile_value {value rest : List Char} (isValue : IsValue value)
    (stops : Stops (fun character => valueCharacter character = true) rest) :
    (value ++ rest).dropWhile valueCharacter = rest := by
  rw [List.dropWhile_append_of_pos isValue]
  cases rest with
  | nil => rfl
  | cons character others => rw [List.dropWhile_cons_of_neg stops]

/-- A value is matched to its end. -/
theorem rests_value {value rest : List Char} (isValue : IsValue value) (nonempty : value ≠ [])
    (stops : Stops (fun character => valueCharacter character = true) rest) :
    ((plus valueCharacter).rests (value ++ rest)).head? = some rest := by
  cases value with
  | nil => exact absurd rfl nonempty
  | cons first others =>
      obtain ⟨isFirst, inOthers⟩ := List.forall_mem_cons.mp isValue
      rw [List.cons_append, rests_plus, if_pos isFirst, head?_manyRests,
        dropWhile_value inOthers stops]

/-- No value starts with white space. -/
theorem rests_value_space {character : Char} (rest : List Char) (space : isSpace character = true) :
    (plus valueCharacter).rests (character :: rest) = [] := by
  rw [rests_plus, valueCharacter_of_isSpace space]
  rfl

/-- Nor does a marker. -/
theorem rests_marked_space {character : Char} (rest : List Char) (space : isSpace character = true) :
    (seq bearerMarker (plus valueCharacter)).rests (character :: rest) = [] := by
  rw [List.eq_nil_iff_forall_not_mem]
  intro left member
  obtain ⟨front, split, marker, value, rfl, isMarker, isValue⟩ := mem_rests_iff.mp member
  obtain ⟨nonempty, isValue⟩ := accepts_plus.mp isValue
  rcases accepts_bearerMarker.mp isMarker with rfl | ⟨bearer, spaces, rfl, isBearer, -, -⟩
  · cases value with
    | nil => exact absurd rfl nonempty
    | cons first others =>
        have isFirst := isValue first List.mem_cons_self
        rw [← (List.cons.inj split).1, valueCharacter_of_isSpace space] at isFirst
        cases isFirst
  · obtain ⟨first, others, rfl⟩ := exists_cons_of_isBearer isBearer
    have isFirst := keyCharacter_of_mem_bearer isBearer first List.mem_cons_self
    rw [← (List.cons.inj split).1] at isFirst
    exact not_keyCharacter_of_isSpace space isFirst

/-- The value after a marker is matched to its end. -/
theorem rests_marked {marker value rest : List Char} (isMarker : IsMarker marker)
    (isValue : IsValue value) (nonempty : value ≠ []) (notBearer : IsBearer value → marker ≠ [])
    (stops : Stops (fun character => valueCharacter character = true) rest) :
    ((seq bearerMarker (plus valueCharacter)).rests (marker ++ value ++ rest)).head? = some rest := by
  have atValue := rests_value isValue nonempty stops
  rw [rests_seq, bearerMarker, rests_optional, List.flatMap_append, List.flatMap_singleton]
  rcases isMarker with rfl | ⟨bearer, spaces, rfl, isBearer, someSpaces, isSpaces⟩
  · -- Without a marker the value is not `Bearer` itself.
    have noMarker : ((seq (word (letters "bearer")) (plus isSpace)).rests (value ++ rest)).flatMap
        (plus valueCharacter).rests = [] := by
      rw [← rests_seq, List.eq_nil_iff_forall_not_mem]
      intro left member
      obtain ⟨_, split, _, other, rfl, ⟨bearer, spaces, rfl, isBearer, isSpaces⟩, -⟩ :=
        mem_rests_iff.mp member
      obtain ⟨someSpaces, isSpaces⟩ := accepts_plus.mp isSpaces
      have isBearer := accepts_letters.mp isBearer
      have bearerStops : Stops (fun character => valueCharacter character = true)
          (spaces ++ other ++ left) := by
        cases spaces with
        | nil => exact absurd rfl someSpaces
        | cons space others =>
            show ¬ valueCharacter space = true
            rw [valueCharacter_of_isSpace (isSpaces space List.mem_cons_self)]
            exact Bool.false_ne_true
      have isRun : IsValue bearer := fun character member =>
        valueCharacter_of_keyCharacter (keyCharacter_of_mem_bearer isBearer character member)
      have same : value = bearer := by
        rw [← takeWhile_value isValue stops, split,
          show bearer ++ spaces ++ other ++ left = bearer ++ (spaces ++ other ++ left) by simp,
          takeWhile_value isRun bearerStops]
      exact notBearer (same ▸ isBearer) rfl
    rw [List.nil_append, noMarker]
    exact atValue
  · have afterBearer : (word (letters "bearer")).rests (bearer ++ spaces ++ value ++ rest) =
        [spaces ++ value ++ rest] := by
      rw [rests, ways_word,
        show bearer ++ spaces ++ value ++ rest = bearer ++ (spaces ++ value ++ rest) by simp,
        afterWord_letters isBearer]
      rfl
    cases spaces with
    | nil => exact absurd rfl someSpaces
    | cons space others =>
        obtain ⟨isSpace', inOthers⟩ := List.forall_mem_cons.mp isSpaces
        have atSpaces : ((plus isSpace).rests (space :: others ++ value ++ rest)).flatMap
            (plus valueCharacter).rests = (plus valueCharacter).rests (value ++ rest) := by
          rw [List.cons_append, List.cons_append, rests_plus, if_pos isSpace', ← rests_many,
            ← rests_seq, rests_many_seq fun character rest => rests_value_space rest]
          cases value with
          | nil => exact absurd rfl nonempty
          | cons first others' =>
              have notSpace := isSpace_of_valueCharacter (isValue first List.mem_cons_self)
              rw [List.append_assoc, List.cons_append, dropWhile_spaces inOthers notSpace]
        rw [rests_seq, afterBearer, List.flatMap_singleton, atSpaces, List.head?_append, atValue,
          Option.some_or]

/-- **The value after a separator is matched to its end.** -/
theorem rests_separatorBefore {before after marker value rest : List Char} {sign : Char}
    (isBefore : IsSpaces before) (isSign : separator sign = true) (isAfter : IsSpaces after)
    (isMarker : IsMarker marker) (isValue : IsValue value) (nonempty : value ≠ [])
    (notBearer : IsBearer value → marker ≠ [])
    (stops : Stops (fun character => valueCharacter character = true) rest) :
    ((separatorBefore (plus valueCharacter)).rests
      (before ++ sign :: (after ++ marker) ++ value ++ rest)).head? = some rest := by
  have signFails : ∀ character rest, isSpace character = true →
      (seq (one separator) (seq (many isSpace) (seq bearerMarker (plus valueCharacter)))).rests
        (character :: rest) = [] := by
    intro character rest space
    rw [rests_seq, rests_one, separator_of_isSpace space]
    rfl
  have signSpace : isSpace sign = false := by
    cases space : isSpace sign with
    | false => rfl
    | true =>
        rw [separator_of_isSpace space] at isSign
        cases isSign
  have marked : ∃ first others, marker ++ value ++ rest = first :: others ∧ isSpace first = false := by
    rcases isMarker with rfl | ⟨bearer, spaces, rfl, isBearer, -, -⟩
    · cases value with
      | nil => exact absurd rfl nonempty
      | cons first others =>
          exact ⟨first, others ++ rest, rfl,
            isSpace_of_valueCharacter (isValue first List.mem_cons_self)⟩
    · obtain ⟨first, others, rfl⟩ := exists_cons_of_isBearer isBearer
      exact ⟨first, others ++ spaces ++ value ++ rest, by simp,
        isSpace_of_keyCharacter (keyCharacter_of_mem_bearer isBearer first List.mem_cons_self)⟩
  obtain ⟨first, others, isText, notSpace⟩ := marked
  rw [separatorBefore, rests_many_seq signFails,
    show before ++ sign :: (after ++ marker) ++ value ++ rest =
      before ++ sign :: (after ++ (marker ++ value ++ rest)) by simp,
    dropWhile_spaces isBefore signSpace, rests_seq, rests_one, if_pos isSign,
    List.flatMap_singleton, rests_many_seq fun character rest => rests_marked_space rest,
    isText, dropWhile_spaces isAfter notSpace, ← isText]
  exact rests_marked isMarker isValue nonempty notBearer stops

theorem replace?_sensitiveTextPattern (text : List Char) :
    sensitiveTextPattern.replace? (fun _ => redacted) text =
      (sensitiveTextPattern.rests text).head?.map fun rest => (redacted, rest) := by
  unfold replace? first? rests
  rw [List.head?_map, Option.map_map]
  rfl

/-- What a key leaves is one text. -/
theorem rests_key {key : List Char} (isKey : IsKey key) (rest : List Char) :
    ∃ others, sensitiveKeyPattern.rests (key ++ rest) = rest :: others := by
  have unique : ∀ left ∈ sensitiveKeyPattern.rests (key ++ rest), left = rest := by
    intro left member
    obtain ⟨front, split, isFront⟩ := mem_rests_iff.mp member
    exact (key_unique isKey isFront split).2.symm
  have member : rest ∈ sensitiveKeyPattern.rests (key ++ rest) := mem_rests_iff.mpr ⟨key, rfl, isKey⟩
  cases isRests : sensitiveKeyPattern.rests (key ++ rest) with
  | nil =>
      rw [isRests] at member
      cases member
  | cons left others =>
      rw [isRests] at unique
      exact ⟨others, by rw [unique left List.mem_cons_self]⟩

/-- **A key with a value is replaced**, up to the end of the value.  The value is not
the word `Bearer`, unless that word is before it. -/
theorem secret_replaced_of_parts {key before after marker value rest : List Char} {sign : Char}
    (isKey : IsKey key) (isBefore : IsSpaces before) (isSign : separator sign = true)
    (isAfter : IsSpaces after) (isMarker : IsMarker marker) (isValue : IsValue value)
    (nonempty : value ≠ []) (notBearer : IsBearer value → marker ≠ [])
    (stops : Stops (fun character => valueCharacter character = true) rest) :
    sensitiveTextPattern.replace? (fun _ => redacted)
        (key ++ (before ++ sign :: (after ++ marker) ++ value ++ rest)) =
      some (redacted, rest) := by
  obtain ⟨others, isRests⟩ := rests_key isKey (before ++ sign :: (after ++ marker) ++ value ++ rest)
  have atValue := rests_separatorBefore isBefore isSign isAfter isMarker isValue nonempty
    notBearer stops
  rw [replace?_sensitiveTextPattern, sensitiveTextPattern, rests_seq, rests_group, isRests,
    List.flatMap_cons, rests_optional, rests_group, List.head?_append, List.head?_append, atValue]
  rfl

/-- A key with a value that is not the word `Bearer` is replaced. -/
theorem secret_replaced {key between value rest : List Char} (isKey : IsKey key)
    (isBetween : IsSeparator between) (isValue : IsValue value) (nonempty : value ≠ [])
    (notBearer : ¬ IsBearer value)
    (stops : Stops (fun character => valueCharacter character = true) rest) :
    sensitiveTextPattern.replace? (fun _ => redacted) (key ++ (between ++ value ++ rest)) =
      some (redacted, rest) := by
  obtain ⟨before, sign, after, marker, rfl, isBefore, isSign, isAfter, isMarker⟩ := isBetween
  exact secret_replaced_of_parts isKey isBefore isSign isAfter isMarker isValue nonempty
    (fun isBearer => absurd isBearer notBearer) stops

/-- A text that starts with no key has no match at its start. -/
theorem secret_none {text : List Char} (noKey : ∀ key rest, text = key ++ rest → ¬ IsKey key) :
    sensitiveTextPattern.replace? (fun _ => redacted) text = none := by
  rw [replace_none_iff]
  rintro _ rest split ⟨key, value, rfl, isKey, -⟩
  exact noKey key (value ++ rest) (by rw [split, List.append_assoc]) isKey

/-- A character that is in no key is kept. -/
theorem withoutSecrets_cons {character : Char} (notKey : ¬ KeyCharacter character)
    (rest : List Char) :
    withoutSecrets (character :: rest) = character :: withoutSecrets rest := by
  refine sub_of_none (secret_none fun key rest' split isKey => ?_)
  cases key with
  | nil => exact key_ne_nil isKey rfl
  | cons first others =>
      have isFirst := keyCharacter_of_mem isKey first List.mem_cons_self
      rw [← (List.cons.inj split).1] at isFirst
      exact notKey isFirst

/-! ## Secrets under way -/

/-- The secret that is under way at the end of a text, after what has been
written before it. -/
def secretUnderWay (text : List Char) : Option (List Char × List Char) :=
  sensitiveTextPattern.begun (fun _ => redacted) secretBeginning text

/-- The text ends with `[:=]\s*(?:Bearer\s+)?`. -/
def EndsSeparated (text : List Char) : Prop :=
  ∃ front sign after marker, text = front ++ sign :: (after ++ marker) ∧ separator sign = true ∧
    IsSpaces after ∧ IsMarker marker

/-- A text with a separator in which no secret is under way is not disturbed by
what follows. -/
theorem undisturbed_of_separator {part : List Char} {sign : Char} (member : sign ∈ part)
    (isSign : separator sign = true) (notBeginning : secretBeginning part = false)
    (more : List Char) :
    Undisturbed sensitiveTextPattern (fun _ => redacted) more part := by
  refine .of_not_begins fun begins => ?_
  rcases begins with inKey | ⟨key, tail, rfl, isKey, inValue⟩
  · have isKeyCharacter := within_of_begins over_sensitiveKeyPattern inKey sign member
    rw [separator_of_keyCharacter isKeyCharacter] at isSign
    cases isSign
  · have inTail : sign ∈ tail := by
      rcases List.mem_append.mp member with inKey | inTail
      · rw [separator_of_keyCharacter (keyCharacter_of_mem isKey sign inKey)] at isSign
        cases isSign
      · exact inTail
    rcases begins_separatorBefore inValue with spaces | ⟨between, value, rfl, isBetween, isValue⟩
    · rw [separator_of_isSpace (spaces sign inTail)] at isSign
      cases isSign
    · have begins : secretBeginning (key ++ (between ++ value)) = true :=
        secretBeginning_iff.mpr ⟨key, between, value, isKey, isBetween, isValue, by simp⟩
      rw [notBeginning] at begins
      cases begins

/-- A text with white space in it that starts with no key is not disturbed. -/
theorem undisturbed_of_no_key {part : List Char} {space : Char} (member : space ∈ part)
    (isSpace' : isSpace space = true) (noKey : ∀ key rest, part = key ++ rest → ¬ IsKey key)
    (more : List Char) : Undisturbed sensitiveTextPattern (fun _ => redacted) more part := by
  refine .of_not_begins fun begins => ?_
  rcases begins with inKey | ⟨key, tail, split, isKey, -⟩
  · exact not_keyCharacter_of_isSpace isSpace'
      (within_of_begins over_sensitiveKeyPattern inKey space member)
  · exact noKey key tail split isKey

section Marked

variable {part after marker : List Char} (isAfter : IsSpaces after) (isMarker : IsMarker marker)
  (ending : part <:+ after ++ marker)
include isAfter isMarker ending

/-- After a separator the text ends with white space. -/
theorem space_of_marked (nonempty : part ≠ []) : ∃ space ∈ part, isSpace space = true := by
  obtain ⟨front, split⟩ := ending
  obtain ⟨others, last, rfl⟩ := (List.eq_nil_or_concat part).resolve_left nonempty
  refine ⟨last, by simp, ?_⟩
  rw [List.concat_eq_append] at split
  rcases isMarker with rfl | ⟨bearer, spaces, rfl, -, someSpaces, isSpaces⟩
  · rw [List.append_nil] at split
    exact isAfter last (by rw [← split]; simp)
  · obtain ⟨others', last', rfl⟩ := (List.eq_nil_or_concat spaces).resolve_left someSpaces
    rw [List.concat_eq_append, ← List.append_assoc, ← List.append_assoc, ← List.append_assoc] at split
    obtain ⟨-, same⟩ := List.append_inj' split rfl
    cases same
    exact isSpaces last (by simp)

/-- No key starts there. -/
theorem no_key_of_marked (key rest : List Char) (split : part = key ++ rest) : ¬ IsKey key := by
  intro isKey
  obtain ⟨front, whole⟩ := ending
  have noSpace : ∀ character ∈ key, isSpace character = false := fun character member =>
    isSpace_of_keyCharacter (keyCharacter_of_mem isKey character member)
  have whole' : front ++ (key ++ rest) = after ++ marker := by rw [← whole, split]
  -- The key cannot start in the white space before `Bearer`.
  obtain ⟨before, isMarkerText⟩ : ∃ before, marker = before ++ (key ++ rest) := by
    rcases List.append_eq_append_iff.mp whole' with ⟨more, isAfterText, isKeyText⟩ | ⟨more, -, isMarkerText⟩
    · cases more with
      | nil => exact ⟨[], isKeyText.symm⟩
      | cons space others =>
          obtain ⟨first, others', rfl⟩ := List.exists_cons_of_ne_nil (key_ne_nil isKey)
          obtain ⟨rfl, -⟩ := List.cons.inj isKeyText
          have space := isAfter first (by rw [isAfterText]; simp)
          rw [noSpace first List.mem_cons_self] at space
          cases space
    · exact ⟨more, isMarkerText⟩
  rcases isMarker with rfl | ⟨bearer, spaces, rfl, isBearer, -, isSpaces⟩
  · have empty := (List.append_eq_nil_iff.mp (List.append_eq_nil_iff.mp isMarkerText.symm).2).1
    exact key_ne_nil isKey empty
  · -- Nor can it reach into the white space after it.
    have inBearer : key <:+: bearer := by
      rw [← List.append_assoc] at isMarkerText
      rcases List.append_eq_append_iff.mp isMarkerText with ⟨more, isFront, isSpacesText⟩ |
        ⟨more, isBearerText, -⟩
      · rcases List.eq_nil_or_concat more with rfl | ⟨others, last, rfl⟩
        · rw [List.append_nil] at isFront
          exact ⟨before, [], by rw [List.append_nil, isFront]⟩
        · obtain ⟨others', last', rfl⟩ := (List.eq_nil_or_concat key).resolve_left (key_ne_nil isKey)
          rw [List.concat_eq_append, List.concat_eq_append, ← List.append_assoc,
            ← List.append_assoc] at isFront
          obtain ⟨-, same⟩ := List.append_inj' isFront rfl
          cases same
          have space := isSpaces last (by rw [isSpacesText]; simp)
          rw [noSpace last (by simp)] at space
          cases space
      · exact ⟨before, more, isBearerText.symm⟩
    have none : ∀ text ∈ keyTexts, ¬ text <:+: "bearer".toList := by decide
    exact none _ (mem_keyTexts isKey) (isBearer ▸ inBearer.map ignoreCase)

end Marked

/-- **Where no secret is under way** a separated text is kept apart from what follows. -/
theorem withoutSecrets_of_not_under_way {text : List Char} (separated : EndsSeparated text)
    (notUnderWay : secretUnderWay text = none) (more : List Char) :
    withoutSecrets (text ++ more) = withoutSecrets text ++ withoutSecrets more := by
  obtain ⟨front, sign, after, marker, rfl, isSign, isAfter, isMarker⟩ := separated
  refine sub_append_of_not_begun sensitiveTextPattern_proper notUnderWay
    fun part ending nonempty notBeginning => ?_
  rcases List.suffix_or_suffix_of_suffix ending (List.suffix_append front (sign :: (after ++ marker)))
    with inside | around
  · rcases List.suffix_cons_iff.mp inside with rfl | marked
    · exact undisturbed_of_separator List.mem_cons_self isSign notBeginning more
    · obtain ⟨space, member, isSpace'⟩ := space_of_marked isAfter isMarker marked nonempty
      exact undisturbed_of_no_key member isSpace' (no_key_of_marked isAfter isMarker marked) more
  · exact undisturbed_of_separator (around.subset List.mem_cons_self) isSign notBeginning more

/-- Value characters at the end of a separated text begin with the separator or before it. -/
theorem separator_of_value_ending {text value : List Char} (separated : EndsSeparated text)
    (ending : value <:+ text) (isValue : IsValue value) (nonempty : value ≠ []) :
    ∃ sign ∈ value, separator sign = true := by
  obtain ⟨front, sign, after, marker, rfl, isSign, isAfter, isMarker⟩ := separated
  rcases List.suffix_or_suffix_of_suffix ending (List.suffix_append front (sign :: (after ++ marker)))
    with inside | around
  · rcases List.suffix_cons_iff.mp inside with rfl | marked
    · exact ⟨sign, List.mem_cons_self, isSign⟩
    · obtain ⟨space, member, isSpace'⟩ := space_of_marked isAfter isMarker marked nonempty
      have isValue' := isValue space member
      rw [valueCharacter_of_isSpace isSpace'] at isValue'
      cases isValue'
  · exact ⟨sign, around.subset List.mem_cons_self, isSign⟩

/-- The scan of a text with a secret under way at its end goes on from its key. -/
theorem withoutSecrets_append_of_under_way {text written tail : List Char}
    (underWay : secretUnderWay text = some (written, tail)) (more : List Char) :
    withoutSecrets (text ++ more) = written ++ withoutSecrets (tail ++ more) := by
  obtain ⟨-, begins⟩ := of_begun sensitiveTextPattern_proper underWay
  obtain ⟨key, between, begun, isKey, isBetween, isBegun, rfl⟩ := secretBeginning_iff.mp begins
  refine sub_append_of_begun sensitiveTextPattern_proper underWay
    fun part after _ notBeginning => ?_
  obtain ⟨before, sign, _, _, rfl, -, isSign, -⟩ := isBetween
  exact undisturbed_of_separator (after.subset (by simp)) isSign notBeginning _

/-- **Where a secret is under way** the value that follows is replaced with it. -/
theorem withoutSecrets_of_under_way {text written tail : List Char} (separated : EndsSeparated text)
    (underWay : secretUnderWay text = some (written, tail)) {value rest : List Char}
    (isValue : IsValue value) (nonempty : value ≠ []) (notBearer : ¬ IsBearer value)
    (stops : Stops (fun character => valueCharacter character = true) rest) :
    withoutSecrets (text ++ (value ++ rest)) = written ++ redacted ++ withoutSecrets rest := by
  obtain ⟨ending, begins⟩ := of_begun sensitiveTextPattern_proper underWay
  obtain ⟨key, between, begun, isKey, isBetween, isBegun, rfl⟩ := secretBeginning_iff.mp begins
  have notBearer' : ¬ IsBearer (begun ++ value) := by
    intro isBearer
    by_cases empty : begun = []
    · subst empty
      exact notBearer isBearer
    · obtain ⟨sign, member, isSign⟩ := separator_of_value_ending separated
        ((List.suffix_append _ _).trans ending) isBegun empty
      rw [separator_of_keyCharacter (keyCharacter_of_mem_bearer isBearer sign
        (List.mem_append_left _ member))] at isSign
      cases isSign
  have replaced := secret_replaced isKey isBetween
    (List.forall_mem_append.mpr ⟨isBegun, isValue⟩ : IsValue (begun ++ value)) (by simp [nonempty])
    notBearer' stops
  rw [withoutSecrets_append_of_under_way underWay, show key ++ between ++ begun ++ (value ++ rest) =
    key ++ (between ++ (begun ++ value) ++ rest) by simp, withoutSecrets,
    sub_of_replace sensitiveTextPattern_proper replaced, List.append_assoc]
  rfl

end BidSystem.Telemetry
