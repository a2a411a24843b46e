import BidSystem.Telemetry.LoggedValues
import BidSystem.Telemetry.RepeatedRedaction

/-!
# Log records with a mapping

`SensitiveDataFilter`, `LogRecord.getMessage` and the two formatters, for a record whose message
is a mapping and for one whose format has a mapping as its argument.  A call that raises emits
nothing.

* `redact_of_quoted` — what stands after a quotation mark and a colon is not redacted.
* `exists_emitted_ne` — a format that shows something of a secret tells two of them apart.
* `Exposes` — the records whose text depends on a secret.
* `message_hidden_iff` — these are all.
-/

namespace BidSystem.Telemetry.Logging

open PercentFormat Regex Pattern

variable {O : Type}

/-! ## The records -/

/-- A `LogRecord` with a mapping. -/
inductive LogRecord (O : Type) where
  /-- A format with one argument, the mapping. -/
  | format (msg : String) (type : MappingType) (members : Members O)
  /-- A mapping as the message. -/
  | mapping (type : MappingType) (members : Members O)

/-- `isinstance(key, str)`. -/
def Key.isStr : Key O → Bool
  | .str _ => true
  | _ => false

/-- `all(isinstance(key, str) for key in members)`. -/
def allStrings (members : Members O) : Bool := members.all fun member => member.1.isStr

mutual

/-- `redact_value`; the search in a key that is no string raises. -/
def redactValue : Value O → Option (Value O)
  | .str value => some (.str (redactText value))
  | .scalar value => some (.scalar value)
  | .object value => some (.object value)
  | .list items => (redactItems items).map .list
  | .tuple items => (redactItems items).map .list
  | .mapping _ members => (redactMapping members).map (.mapping .dict)

/-- The comprehension over a sequence in `redact_value`. -/
def redactItems : List (Value O) → Option (List (Value O))
  | [] => some []
  | item :: items =>
      (redactValue item).bind fun redacted => (redactItems items).map (redacted :: ·)

/-- `redact_mapping`. -/
def redactMapping : Members O → Option (Members O)
  | [] => some []
  | (.str key, item) :: members =>
      (if searchSensitiveKey key then some (.str (String.ofList redacted))
        else redactValue item).bind fun redacted =>
        (redactMapping members).map ((.str key, redacted) :: ·)
  | (.scalar _, _) :: _ => none
  | (.object _, _) :: _ => none

end

/-- `SensitiveDataFilter.filter`. -/
def filter : LogRecord O → Option (LogRecord O)
  | .mapping type members =>
      if type.isDict && allStrings members then
        (redactMapping members).map (.mapping .dict)
      else some (.mapping type members)
  | .format msg type members => some (.format (redactText msg) type members)

/-- The value as an `int`, where it is one. -/
def integerOf : Value O → Option ℤ
  | .scalar (.int value) => some value
  | .scalar (.bool value) => some value.toNat
  | _ => none

/-- What a format depends on of its argument.  A record stores the mapping in place of the
arguments, unless it is empty. -/
def argumentOf (members : Members O) : Argument where
  isMapping := !members.isEmpty
  has key := (lookup (String.ofList key) members).isSome
  integer
    | .whole => none
    | .member key => (lookup (String.ofList key) members).bind integerOf

/-- The value of a directive. -/
def valueOf (type : MappingType) (members : Members O) : Source → Option (Value O)
  | .whole => some (.mapping type members)
  | .member key => lookup (String.ofList key) members

section
variable (display : Display O)

/-- What a directive makes of the argument. -/
def convertSource (type : MappingType) (members : Members O) (directive : Directive)
    (source : Source) : Option (List Char) :=
  (valueOf type members source).bind (convert display directive)

/-- The parts of a format with the mapping as its argument. -/
def planOf (msg : String) (members : Members O) : Option (List Part) :=
  plan (argumentOf members) 0 msg.toList (some .whole)

/-- `LogRecord.getMessage`. -/
def getMessage : LogRecord O → Option (List Char)
  | .mapping type members => some (str display (.mapping type members))
  | .format msg type members =>
      (planOf msg members).bind (render (convertSource display type members))

/-- What a text formatter writes around the message; a text that is empty is left out. -/
structure Frame where
  asctime : String
  levelname : String
  name : String
  excText : String
  stackInfo : String

/-- `s + "\n"`, unless the line is ended, and the text. -/
def withLines (text line : List Char) : List Char :=
  if text = [] then line
  else line ++ (if line.getLast? = some '\n' then [] else ['\n']) ++ text

/-- `logging.Formatter.format`, with the format of `configure_logging`. -/
def Frame.format (frame : Frame) (message : List Char) : List Char :=
  withLines frame.stackInfo.toList <| withLines frame.excText.toList <|
    frame.asctime.toList ++ (' ' :: (frame.levelname.toList ++ (' ' :: (frame.name.toList ++
      (' ' :: message)))))

/-- The formatters. -/
inductive Formatter where
  | json
  | text (frame : Frame)

/-- The `message` of `JsonFormatter.format`, or the line of `RedactingTextFormatter.format`. -/
def Formatter.format : Formatter → List Char → List Char
  | .json, message => redact message
  | .text frame, message => redact (frame.format message)

/-- What a handler emits of a record. -/
def emitted (formatter : Formatter) (record : LogRecord O) : Option (List Char) :=
  (filter record).bind fun record => (getMessage display record).map formatter.format

end

/-- Two records that differ only in the strings under sensitive keys. -/
def LogRecord.SameBut : LogRecord O → LogRecord O → Prop
  | .format msg type members, .format msg' type' members' =>
      msg = msg' ∧ type = type' ∧ Logging.SameBut members members'
  | .mapping type members, .mapping type' members' =>
      type = type' ∧ Logging.SameBut members members'
  | _, _ => False

/-! ## Values of the declared type -/

mutual

/-- A `RedactableValue` as a value of a record. -/
def ofRedactable : RedactableValue → Value O
  | .str value => .str value
  | .scalar value => .scalar value
  | .mapping members => .mapping .dict (ofRedactableMembers members)
  | .sequence items => .list (ofRedactableItems items)

/-- `ofRedactable` in a mapping. -/
def ofRedactableMembers : List (String × RedactableValue) → Members O
  | [] => []
  | (key, item) :: members => (.str key, ofRedactable item) :: ofRedactableMembers members

/-- `ofRedactable` in a sequence. -/
def ofRedactableItems : List RedactableValue → List (Value O)
  | [] => []
  | item :: items => ofRedactable item :: ofRedactableItems items

end

mutual

theorem redactValue_ofRedactable : ∀ value : RedactableValue,
    redactValue (ofRedactable value : Value O) = some (ofRedactable (Telemetry.redactValue value))
  | .str _ => rfl
  | .scalar _ => rfl
  | .mapping members => by
      rw [ofRedactable, redactValue, redactMapping_ofRedactable members]
      rfl
  | .sequence items => by
      rw [ofRedactable, redactValue, redactItems_ofRedactable items]
      rfl

/-- **On the declared type** redaction returns, and is the structured one. -/
theorem redactMapping_ofRedactable : ∀ members : List (String × RedactableValue),
    redactMapping (ofRedactableMembers members : Members O) =
      some (ofRedactableMembers (Telemetry.redactMapping members))
  | [] => rfl
  | (key, item) :: members => by
      rw [ofRedactableMembers, redactMapping, redactMapping_ofRedactable members,
        Telemetry.redactMapping]
      cases searchSensitiveKey key with
      | true => rfl
      | false =>
          rw [if_neg (by decide), redactValue_ofRedactable item]
          rfl

theorem redactItems_ofRedactable : ∀ items : List RedactableValue,
    redactItems (ofRedactableItems items : List (Value O)) =
      some (ofRedactableItems (Telemetry.redactItems items))
  | [] => rfl
  | item :: items => by
      rw [ofRedactableItems, redactItems, redactValue_ofRedactable item,
        redactItems_ofRedactable items]
      rfl

end

/-! ## Redaction of a quoted member -/

/-- A key with a separator before a space at the end: around the separator there are only spaces
and characters of keys. -/
theorem exists_of_secretBeginning {text : List Char}
    (begins : secretBeginning (text ++ [' ']) = true) :
    ∃ front sign spaces, front ≠ [] ∧ separator sign = true ∧
      text ++ [' '] = front ++ sign :: spaces ∧
      ∀ character ∈ front ++ spaces, isSpace character = true ∨ KeyCharacter character := by
  obtain ⟨key, _, value, isKey, isBetween, isValue, same⟩ := secretBeginning_iff.mp begins
  obtain ⟨before, sign, after, marker, rfl, isBefore, isSign, isAfter, isMarker⟩ := isBetween
  -- The space is not in a value.
  obtain rfl : value = [] := by
    rcases List.eq_nil_or_concat value with empty | ⟨front, last, rfl⟩
    · exact empty
    · rw [List.concat_eq_append, ← List.append_assoc] at same
      obtain ⟨-, isLast⟩ := List.append_inj' same rfl
      cases isLast
      exact absurd (isValue ' ' (by simp)) (by decide)
  refine ⟨key ++ before, sign, after ++ marker, ?_, isSign, by simpa using same, ?_⟩
  · exact fun empty => key_ne_nil isKey (List.append_eq_nil_iff.1 empty).1
  · intro character member
    simp only [List.mem_append] at member
    rcases member with (inKey | inBefore) | inAfter | inMarker
    · exact .inr (keyCharacter_of_mem isKey character inKey)
    · exact .inl (isBefore character inBefore)
    · exact .inl (isAfter character inAfter)
    · rcases isMarker with rfl | ⟨bearer, spaces, rfl, isBearer, -, isSpaces⟩
      · cases inMarker
      · rcases List.mem_append.1 inMarker with inBearer | inSpaces
        · exact .inr (keyCharacter_of_mem_bearer isBearer character inBearer)
        · exact .inl (isSpaces character inSpaces)

/-- No secret is under way after a quotation mark and a colon. -/
theorem not_under_way_of_quoted {quote : Char} (notKey : ¬KeyCharacter quote)
    (notSpace : isSpace quote = false) (kept : List Char) :
    secretUnderWay (kept ++ [quote, ':', ' ']) = none := by
  cases underWay : secretUnderWay (kept ++ [quote, ':', ' ']) with
  | none => rfl
  | some begun =>
      exfalso
      obtain ⟨⟨earlier, split⟩, begins⟩ := of_begun sensitiveTextPattern_proper underWay
      rcases List.eq_nil_or_concat begun.2 with empty | ⟨text, last, isText⟩
      · rw [empty] at begins
        exact absurd begins (by decide)
      rw [isText, List.concat_eq_append] at split begins
      obtain ⟨-, isLast⟩ := List.append_inj'
        (show (earlier ++ text) ++ [last] = (kept ++ [quote, ':']) ++ [' '] by simpa using split) rfl
      cases isLast
      obtain ⟨front, sign, spaces, nonempty, isSign, same, plain⟩ := exists_of_secretBeginning begins
      rw [same] at split
      have noColon : ':' ∉ front ++ spaces := fun member =>
        absurd (plain ':' member) (by decide)
      have noQuote : quote ∉ front ++ spaces := by
        intro member
        rcases plain quote member with space | isKeyCharacter
        · rw [notSpace] at space
          cases space
        · exact notKey isKeyCharacter
      -- From the end: the separator is the colon, and the key would end with the quotation mark.
      rcases List.eq_nil_or_concat spaces with rfl | ⟨others, space, rfl⟩
      · obtain ⟨-, isSpace'⟩ := List.append_inj'
          (show (earlier ++ front) ++ [sign] = (kept ++ [quote, ':']) ++ [' '] by simpa using split)
          rfl
        cases isSpace'
        exact absurd isSign (by decide)
      rcases List.eq_nil_or_concat others with rfl | ⟨others, colon, rfl⟩
      · obtain ⟨ending, -⟩ := List.append_inj'
          (show (earlier ++ front) ++ [sign, space] = (kept ++ [quote]) ++ [':', ' '] by
            simpa using split) rfl
        obtain ⟨others, last, rfl⟩ := (List.eq_nil_or_concat front).resolve_left nonempty
        rw [List.concat_eq_append, ← List.append_assoc] at ending
        obtain ⟨-, isQuote⟩ := List.append_inj' ending rfl
        cases isQuote
        exact noQuote (by simp)
      · obtain ⟨-, isColon⟩ := List.append_inj'
          (show (earlier ++ front ++ sign :: others) ++ [colon, space] =
            (kept ++ [quote]) ++ [':', ' '] by simpa using split) rfl
        cases isColon
        exact noColon (by simp)

/-- **What stands after a quotation mark and a colon is not redacted**, up to its first character
that is in no key. -/
theorem redact_of_quoted {quote first : Char} (isQuote : quote = apostrophe ∨ quote = quotationMark)
    (isFirst : first = apostrophe ∨ first = quotationMark) (kept rest : List Char) :
    redact (kept ++ [quote, ':', ' '] ++ first :: rest) =
      withoutSecrets (withoutUrlCredentials kept ++ [quote, ':', ' ']) ++
        first :: withoutSecrets (withoutUrlCredentials rest) := by
  have plainQuote : ¬KeyCharacter quote ∧ isSpace quote = false ∧ quote ≠ '@' := by
    rcases isQuote with rfl | rfl <;> decide
  have plainFirst : ¬KeyCharacter first ∧ first ≠ ':' := by
    rcases isFirst with rfl | rfl <;> decide
  obtain ⟨notKey, notSpace, notAt⟩ := plainQuote
  obtain ⟨notKey', notColon⟩ := plainFirst
  have passes : withoutUrlCredentials (kept ++ [quote, ':', ' '] ++ first :: rest) =
      withoutUrlCredentials kept ++ [quote, ':', ' '] ++
        first :: withoutUrlCredentials rest := by
    have noMark : ∀ {character text}, character ≠ ':' → ¬authorityMark <+: character :: text := by
      rintro character text other ⟨_, same⟩
      cases same
      exact other rfl
    have stops : Stops (fun character => isSpace character = false) (' ' :: first :: rest) := by
      show ¬isSpace ' ' = false
      decide
    have noAt : '@' ∉ [quote, ':'] := by
      simpa using notAt.symm
    rw [show kept ++ [quote, ':', ' '] ++ first :: rest =
        (kept ++ [quote, ':']) ++ ' ' :: first :: rest by simp,
      withoutUrlCredentials_append_space stops, withoutUrlCredentials_append_of_no_at noAt,
      withoutUrlCredentials_cons (noMark (by decide)), withoutUrlCredentials_cons (noMark notColon)]
    simp
  have separated : EndsSeparated (withoutUrlCredentials kept ++ [quote, ':', ' ']) := by
    refine ⟨withoutUrlCredentials kept ++ [quote], ':', [' '], [], by simp, rfl, ?_, .inl rfl⟩
    exact fun character member => by
      rw [List.mem_singleton.1 member]
      rfl
  rw [redact, passes, withoutSecrets_of_not_under_way separated
    (not_under_way_of_quoted notKey notSpace _), withoutSecrets_cons notKey']

/-! ## What the filter and the reading of a format see -/

mutual

/-- **Structured redaction** does not see secrets. -/
theorem redactValue_fill (secret : String) :
    ∀ value : Value O, redactValue (fill secret value) = redactValue value
  | .str _ => rfl
  | .scalar _ => rfl
  | .object _ => rfl
  | .list items => by rw [fill, redactValue, redactValue, redactItems_fill secret items]
  | .tuple items => by rw [fill, redactValue, redactValue, redactItems_fill secret items]
  | .mapping type members => by
      rw [fill, redactValue, redactValue, redactMapping_fill secret members]

theorem redactItems_fill (secret : String) :
    ∀ items : List (Value O), redactItems (fillItems secret items) = redactItems items
  | [] => rfl
  | item :: items => by
      rw [fillItems, redactItems, redactItems, redactValue_fill secret item,
        redactItems_fill secret items]

theorem redactMapping_fill (secret : String) :
    ∀ members : Members O, redactMapping (fillMembers secret members) = redactMapping members
  | [] => rfl
  | (.scalar _, _) :: _ => rfl
  | (.object _, _) :: _ => rfl
  | (.str key, item) :: members => by
      rw [fillMembers, redactMapping, redactMapping, redactMapping_fill secret members]
      cases sensitive : searchSensitiveKey key with
      | true => rfl
      | false =>
          rw [secretOf_of_not_sensitive sensitive, ← redactValue_fill secret item]
          rfl

end

theorem allStrings_fill (secret : String) (members : Members O) :
    allStrings (fillMembers secret members) = allStrings members := by
  induction members with
  | nil => rfl
  | cons member members ih =>
      rw [fillMembers, allStrings, List.all_cons, ← allStrings, ih]
      rfl

/-- **The reading of a format** does not see secrets. -/
theorem argumentOf_fill (secret : String) (members : Members O) :
    argumentOf (fillMembers secret members) = argumentOf members := by
  have empty : (fillMembers secret members).isEmpty = members.isEmpty := by
    rcases members with _ | ⟨⟨_, _⟩, _⟩ <;> rfl
  have has : ∀ key, (lookup key (fillMembers secret members)).isSome =
      (lookup key members).isSome := fun key => by
    rw [lookup_fillMembers, Option.isSome_map]
  have integers : ∀ key, (lookup key (fillMembers secret members)).bind integerOf =
      (lookup key members).bind integerOf := by
    intro key
    rw [lookup_fillMembers]
    cases lookup key members with
    | none => rfl
    | some item =>
        show integerOf (if (secretOf (.str key) item).isSome then .str secret
          else fill secret item) = integerOf item
        cases item with
        | str value =>
            split_ifs
            · rfl
            · rfl
        | scalar value => rfl
        | object value => rfl
        | list items => rfl
        | tuple items => rfl
        | mapping type members => rfl
  unfold argumentOf
  congr 1
  · rw [empty]
  · funext key
    exact has _
  · funext source
    cases source with
    | whole => rfl
    | member key => exact integers _

theorem planOf_of_sameBut {members others : Members O} (same : SameBut members others)
    (msg : String) : planOf msg others = planOf msg members := by
  rw [planOf, planOf, ← argumentOf_fill "" others, ← same, argumentOf_fill]

/-- A sensitive key has a key of the pattern in it. -/
theorem exists_key_of_search {key : String} (sensitive : searchSensitiveKey key = true) :
    ∃ word, word <:+: key.toList ∧ IsKey word := by
  obtain ⟨rest, ending, found⟩ := List.any_eq_true.1 sensitive
  obtain ⟨first, isFirst⟩ := Option.isSome_iff_exists.1 found
  have member : first.rest ∈ sensitiveKeyPattern.rests rest :=
    List.mem_map_of_mem (List.mem_of_mem_head? isFirst)
  obtain ⟨word, split, isKey⟩ := mem_rests_iff.mp member
  have starts : word <+: rest := ⟨first.rest, split.symm⟩
  exact ⟨word, starts.isInfix.trans (List.mem_tails _ _ |>.1 ending).isInfix, isKey⟩

/-- The argument itself, or a member under a key that is not sensitive. -/
def Insensitive (source : Source) : Prop :=
  ∀ key, source = .member key → searchSensitiveKey (String.ofList key) = false

/-- **A redacted format asks for no sensitive key.** -/
theorem insensitive_of_mem_planOf {msg : String} {members : Members O} {parts : List Part}
    (planned : planOf (redactText msg) members = some parts) {directive : Directive}
    {source : Source} (member : .value directive source ∈ parts) : Insensitive source := by
  rintro key rfl
  by_contra sensitive
  rw [Bool.not_eq_false] at sensitive
  obtain ⟨word, inside, isKey⟩ := exists_key_of_search sensitive
  rw [String.toList_ofList] at inside
  rcases infix_of_mem_plan planned member with inFormat | whole
  · rw [redactText, String.toList_ofList] at inFormat
    exact noKey_withoutSecrets _ word (inside.trans inFormat) isKey
  · cases whole

/-- The value of a directive with another secret. -/
theorem valueOf_fill {type : MappingType} {members : Members O} {source : Source}
    (insensitive : Insensitive source) (secret : String) :
    valueOf type (fillMembers secret members) source =
      (valueOf type members source).map (fill secret) := by
  cases source with
  | whole => rfl
  | member key =>
      rw [valueOf, valueOf, lookup_fillMembers]
      congr 1
      funext item
      rw [secretOf_of_not_sensitive (insensitive key rfl)]
      rfl

/-! ## Texts that tell secrets apart -/

/-- Two texts that differ after a quotation mark and a colon. -/
def Distinct (text text' : Option (List Char)) : Prop :=
  ∃ kept quote rest rest', (quote = apostrophe ∨ quote = quotationMark) ∧
    text = some (kept ++ [quote, ':', ' '] ++ apostrophe :: rest) ∧
    text' = some (kept ++ [quote, ':', ' '] ++ quotationMark :: rest')

theorem Distinct.append_left {text text' : Option (List Char)} (distinct : Distinct text text')
    (front : List Char) : Distinct (text.map (front ++ ·)) (text'.map (front ++ ·)) := by
  obtain ⟨kept, quote, rest, rest', isQuote, rfl, rfl⟩ := distinct
  exact ⟨front ++ kept, quote, rest, rest', isQuote, by simp, by simp⟩

theorem Distinct.append_right {text text' : Option (List Char)} (distinct : Distinct text text')
    (after after' : List Char) :
    Distinct (text.map (· ++ after)) (text'.map (· ++ after')) := by
  obtain ⟨kept, quote, rest, rest', isQuote, rfl, rfl⟩ := distinct
  exact ⟨kept, quote, rest ++ after, rest' ++ after', isQuote, by simp, by simp⟩

/-- **The first value that differs** tells the rendered parts apart. -/
theorem distinct_render {convert convert' : Directive → Source → Option (List Char)}
    {parts : List Part} (returns : (render convert parts).isSome = true)
    (returns' : (render convert' parts).isSome = true)
    (same : ∀ directive source, .value directive source ∈ parts →
      convert directive source = convert' directive source ∨
        Distinct (convert directive source) (convert' directive source))
    (differs : ∃ directive source, .value directive source ∈ parts ∧
      Distinct (convert directive source) (convert' directive source)) :
    Distinct (render convert parts) (render convert' parts) := by
  induction parts with
  | nil =>
      obtain ⟨_, _, member, _⟩ := differs
      cases member
  | cons part parts ih =>
      have rest := fun directive source member =>
        same directive source (List.mem_cons_of_mem part member)
      cases part with
      | literal character =>
          rw [render, Option.isSome_map] at returns returns'
          obtain ⟨directive, source, member, distinct⟩ := differs
          rcases List.mem_cons.1 member with other | member
          · cases other
          · exact (ih returns returns' rest ⟨directive, source, member, distinct⟩).append_left
              [character]
      | value directive source =>
          obtain ⟨text, isText⟩ := Option.isSome_iff_exists.1 returns
          obtain ⟨text', isText'⟩ := Option.isSome_iff_exists.1 returns'
          obtain ⟨front, isFront, isRest⟩ := Option.bind_eq_some_iff.1 isText
          obtain ⟨front', isFront', isRest'⟩ := Option.bind_eq_some_iff.1 isText'
          obtain ⟨after, isAfter, -⟩ := Option.map_eq_some_iff.1 isRest
          obtain ⟨after', isAfter', -⟩ := Option.map_eq_some_iff.1 isRest'
          rw [render, render, isFront, isFront', Option.bind_some, Option.bind_some]
          -- Either this value differs, or it is the same and a later one does.
          by_cases distinct : Distinct (convert directive source) (convert' directive source)
          · rw [isFront, isFront'] at distinct
            rw [isAfter, isAfter']
            exact distinct.append_right after after'
          · have equal := (same directive source List.mem_cons_self).resolve_right distinct
            obtain ⟨directive', source', member, distinct'⟩ := differs
            have member' : .value directive' source' ∈ parts := by
              rcases List.mem_cons.1 member with isHead | member
              · cases isHead
                exact absurd distinct' distinct
              · exact member
            rw [isFront, isFront'] at equal
            cases equal
            exact (ih (by rw [isAfter]; rfl) (by rw [isAfter']; rfl) rest
              ⟨directive', source', member', distinct'⟩).append_left front

theorem exists_withLines (text line : List Char) : ∃ after, withLines text line = line ++ after := by
  unfold withLines
  split_ifs
  · exact ⟨[], (List.append_nil line).symm⟩
  · exact ⟨_, List.append_assoc _ _ _⟩
  · exact ⟨_, List.append_assoc _ _ _⟩

/-- A message is written out in a line, after what does not depend on it. -/
theorem Frame.exists_format (frame : Frame) : ∃ before, ∀ message, ∃ after,
    frame.format message = before ++ message ++ after := by
  refine ⟨frame.asctime.toList ++ (' ' :: (frame.levelname.toList ++ (' ' ::
    (frame.name.toList ++ [' '])))), fun message => ?_⟩
  obtain ⟨first, isFirst⟩ := exists_withLines frame.excText.toList
    (frame.asctime.toList ++ (' ' :: (frame.levelname.toList ++ (' ' :: (frame.name.toList ++
      (' ' :: message))))))
  obtain ⟨second, isSecond⟩ := exists_withLines frame.stackInfo.toList _
  exact ⟨first ++ second, by rw [Frame.format, isSecond, isFirst]; simp⟩

/-- Redaction tells them apart too. -/
theorem redact_ne_of_quoted {quote : Char} (isQuote : quote = apostrophe ∨ quote = quotationMark)
    (kept rest rest' : List Char) :
    redact (kept ++ [quote, ':', ' '] ++ apostrophe :: rest) ≠
      redact (kept ++ [quote, ':', ' '] ++ quotationMark :: rest') := by
  rw [redact_of_quoted isQuote (.inl rfl), redact_of_quoted isQuote (.inr rfl)]
  intro same
  obtain ⟨first, -⟩ := List.cons.inj (List.append_cancel_left same)
  exact absurd first (by decide)

/-- **The formatters do not hide what tells secrets apart.** -/
theorem map_format_ne_of_distinct (formatter : Formatter) {text text' : Option (List Char)}
    (distinct : Distinct text text') :
    text.map formatter.format ≠ text'.map formatter.format := by
  obtain ⟨kept, quote, rest, rest', isQuote, rfl, rfl⟩ := distinct
  intro same
  have equal := Option.some.inj same
  cases formatter with
  | json => exact redact_ne_of_quoted isQuote kept rest rest' equal
  | text frame =>
      obtain ⟨before, isLine⟩ := frame.exists_format
      obtain ⟨after, isFirst⟩ := isLine (kept ++ [quote, ':', ' '] ++ apostrophe :: rest)
      obtain ⟨after', isSecond⟩ := isLine (kept ++ [quote, ':', ' '] ++ quotationMark :: rest')
      refine redact_ne_of_quoted isQuote (before ++ kept) (rest ++ after) (rest' ++ after') ?_
      rw [Formatter.format, Formatter.format, isFirst, isSecond] at equal
      simpa using equal

/-! ## Which records expose secrets -/

/-- `%s`. -/
def strDirective : Directive where
  flags := []
  leftAligned := false
  width := none
  precision := none
  conversion := 's'

/-- A message that is a mapping is written as `%s` writes it. -/
theorem convert_strDirective (display : Display O) (value : Value O) :
    convert display strDirective value = some (str display value) := by
  rw [convert_of_textual rfl, Directive.layout, Directive.cut, Directive.pad]
  simp [strDirective, textual]

theorem shows_strDirective {display : Display O} {type : MappingType} {members : Members O} :
    Shows display strDirective (.mapping type members) ↔ holdsSecretMembers members = true := by
  have pieces : tokensTextual display 's' (.mapping type members) =
      .shown (type.strOpening.toList ++ ['{']) ::
        (tokensMembers display members ++ [.shown ('}' :: type.strClosing.toList)]) := rfl
  have first : (front display (tokensTextual display 's' (.mapping type members))).isSome =
      holdsSecretMembers members := by
    rw [pieces, isSome_front_shown, isSome_front_append, isSome_front_tokensMembers,
      isSome_front_shown]
    exact Bool.or_false _
  rw [← first, Option.isSome_iff_exists]
  constructor
  · rintro ⟨-, text, found, -⟩
    exact ⟨text, found⟩
  · rintro ⟨text, found⟩
    refine ⟨rfl, text, found, ?_⟩
    rintro ⟨precision, same, -⟩
    cases same

/-- A format with a mapping can be rendered, and one of its directives shows something of a
secret. -/
def FormatExposes (display : Display O) (msg : String) (type : MappingType)
    (members : Members O) : Prop :=
  ∃ parts, planOf msg members = some parts ∧
    (∀ directive source, .value directive source ∈ parts →
      (convertSource display type members directive source).isSome = true) ∧
    ∃ directive source value, .value directive source ∈ parts ∧
      valueOf type members source = some value ∧ Shows display directive value

/-- **The records whose text depends on a secret**: a message that is a mapping but no `dict` with
string keys, where it holds one; a redacted format that shows something of one. -/
def Exposes (display : Display O) : LogRecord O → Prop
  | .mapping type members =>
      (type.isDict && allStrings members) = false ∧ holdsSecretMembers members = true
  | .format msg type members => FormatExposes display (redactText msg) type members

section
variable {display : Display O} {type : MappingType} {members others : Members O} {msg : String}

/-- The value of a directive in two mappings that differ only in secrets. -/
theorem valueOf_cases (same : SameBut members others) {source : Source}
    (insensitive : Insensitive source) :
    (valueOf type members source = none ∧ valueOf type others source = none) ∨
      ∃ value value', valueOf type members source = some value ∧
        valueOf type others source = some value' ∧ fill "" value = fill "" value' := by
  have values : (valueOf type others source).map (fill "") =
      (valueOf type members source).map (fill "") := by
    rw [← valueOf_fill insensitive, ← valueOf_fill insensitive, same]
  cases found : valueOf type members source with
  | none =>
      rw [found, Option.map_none, Option.map_eq_none_iff] at values
      exact .inl ⟨rfl, values⟩
  | some value =>
      rw [found, Option.map_some, Option.map_eq_some_iff] at values
      obtain ⟨value', found', same'⟩ := values
      exact .inr ⟨value, value', rfl, found', same'.symm⟩

theorem isSome_convertSource (same : SameBut members others) {directive : Directive}
    {source : Source} (insensitive : Insensitive source) :
    (convertSource display type others directive source).isSome =
      (convertSource display type members directive source).isSome := by
  rcases valueOf_cases same insensitive with
    ⟨missing, missing'⟩ | ⟨value, value', found, found', equal⟩
  · rw [convertSource, convertSource, missing, missing']
  · rw [convertSource, convertSource, found, found']
    exact isSome_convert equal

theorem convertSource_of_not_shows (same : SameBut members others) {directive : Directive}
    {source : Source} (insensitive : Insensitive source)
    (hidden : ∀ value, valueOf type members source = some value →
      ¬Shows display directive value) :
    convertSource display type others directive source =
      convertSource display type members directive source := by
  rcases valueOf_cases same insensitive with
    ⟨missing, missing'⟩ | ⟨value, value', found, found', equal⟩
  · rw [convertSource, convertSource, missing, missing']
  · rw [convertSource, convertSource, found, found']
    exact convert_of_not_shows (hidden value found) equal

/-- **A format that does not expose secrets** is rendered to the same text. -/
theorem getMessage_of_not_exposes (same : SameBut members others)
    (hidden : ¬FormatExposes display (redactText msg) type members) :
    getMessage display (.format (redactText msg) type others) =
      getMessage display (.format (redactText msg) type members) := by
  rw [getMessage, getMessage, planOf_of_sameBut same]
  cases planned : planOf (redactText msg) members with
  | none => rfl
  | some parts =>
      show render _ parts = render _ parts
      by_cases returns : ∀ directive source, .value directive source ∈ parts →
          (convertSource display type members directive source).isSome = true
      · refine render_congr fun directive source member => ?_
        apply convertSource_of_not_shows same (insensitive_of_mem_planOf planned member)
        intro value found shown
        exact hidden ⟨parts, planned, returns, directive, source, value, member, found, shown⟩
      · -- A conversion raises in both.
        have raises : ¬(render (convertSource display type members) parts).isSome = true :=
          fun rendered => returns (isSome_render.1 rendered)
        have raises' : ¬(render (convertSource display type others) parts).isSome = true :=
          fun rendered => returns fun directive source member => by
            rw [← isSome_convertSource same (insensitive_of_mem_planOf planned member)]
            exact isSome_render.1 rendered directive source member
        rw [Bool.not_eq_true, Option.isSome_eq_false_iff, Option.isNone_iff_eq_none] at raises raises'
        rw [raises, raises']

/-- **A format that exposes secrets** tells two of them apart. -/
theorem distinct_getMessage (exposes : FormatExposes display (redactText msg) type members) :
    Distinct (getMessage display (.format (redactText msg) type (fillMembers plainSecret members)))
      (getMessage display
        (.format (redactText msg) type (fillMembers quotedSecret members))) := by
  obtain ⟨parts, planned, returns, directive, source, value, member, found, shown⟩ := exposes
  have rendered : ∀ secret, getMessage display
      (.format (redactText msg) type (fillMembers secret members)) =
        render (convertSource display type (fillMembers secret members)) parts := fun secret => by
    rw [getMessage, planOf_of_sameBut (sameBut_fill members secret), planned]
    rfl
  have returnsFilled : ∀ secret,
      (render (convertSource display type (fillMembers secret members)) parts).isSome = true :=
    fun secret => isSome_render.2 fun directive source member => by
      rw [isSome_convertSource (sameBut_fill members secret)
        (insensitive_of_mem_planOf planned member)]
      exact returns directive source member
  -- A directive makes of the mapping with another secret what it makes of its value with it.
  have converted : ∀ secret {directive source value}, .value directive source ∈ parts →
      valueOf type members source = some value →
      convertSource display type (fillMembers secret members) directive source =
        convert display directive (fill secret value) := by
    intro secret directive source value member found
    rw [convertSource, valueOf_fill (insensitive_of_mem_planOf planned member), found]
    rfl
  rw [rendered, rendered]
  refine distinct_render (returnsFilled _) (returnsFilled _) (fun directive source member => ?_)
    ⟨directive, source, member, ?_⟩
  · obtain ⟨text, isText⟩ := Option.isSome_iff_exists.1 (returns directive source member)
    obtain ⟨value, found, -⟩ := Option.bind_eq_some_iff.1 isText
    rw [converted _ member found, converted _ member found]
    by_cases shown : Shows display directive value
    · exact .inr (convert_of_shows shown)
    · left
      have same : ∀ secret, fill "" value = fill "" (fill secret value) := fun secret =>
        (fill_fill "" secret value).symm
      rw [convert_of_not_shows shown (same plainSecret),
        convert_of_not_shows shown (same quotedSecret)]
  · rw [converted _ member found, converted _ member found]
    exact convert_of_shows shown

end

/-- The record with another secret. -/
def LogRecord.fill (secret : String) : LogRecord O → LogRecord O
  | .format msg type members => .format msg type (fillMembers secret members)
  | .mapping type members => .mapping type (fillMembers secret members)

theorem LogRecord.sameBut_fill (record : LogRecord O) (secret : String) :
    record.SameBut (record.fill secret) := by
  cases record with
  | format msg type members => exact ⟨rfl, rfl, Logging.sameBut_fill members secret⟩
  | mapping type members => exact ⟨rfl, Logging.sameBut_fill members secret⟩

/-- **A record that exposes secrets** tells two of them apart. -/
theorem exists_emitted_ne {display : Display O} (formatter : Formatter) {record : LogRecord O}
    (exposes : Exposes display record) :
    emitted display formatter (record.fill plainSecret) ≠
      emitted display formatter (record.fill quotedSecret) := by
  cases record with
  | format msg type members =>
      exact map_format_ne_of_distinct formatter (distinct_getMessage exposes)
  | mapping type members =>
      obtain ⟨unfiltered, holds⟩ := exposes
      have isEmitted : ∀ secret, emitted display formatter
          (.mapping type (fillMembers secret members)) =
            (convert display strDirective (fill secret (.mapping type members))).map
              formatter.format := fun secret => by
        rw [emitted, filter, allStrings_fill, unfiltered, convert_strDirective]
        rfl
      rw [LogRecord.fill, LogRecord.fill, isEmitted, isEmitted]
      exact map_format_ne_of_distinct formatter (convert_of_shows (shows_strDirective.2 holds))

/-- **A record that does not expose secrets** has one text for all of them. -/
theorem emitted_of_not_exposes {display : Display O} (formatter : Formatter)
    {record other : LogRecord O} (hidden : ¬Exposes display record)
    (same : record.SameBut other) :
    emitted display formatter other = emitted display formatter record := by
  cases record with
  | format msg type members =>
      cases other with
      | format msg' type' members' =>
          obtain ⟨rfl, rfl, same⟩ := same
          exact congrArg (Option.map formatter.format) (getMessage_of_not_exposes same hidden)
      | mapping type' members' => cases same
  | mapping type members =>
      cases other with
      | format msg' type' members' => cases same
      | mapping type' members' =>
          obtain ⟨rfl, same⟩ := same
          have strings : allStrings members' = allStrings members := by
            rw [← allStrings_fill "" members', ← same, allStrings_fill]
          have redacts : redactMapping members' = redactMapping members := by
            rw [← redactMapping_fill "" members', ← same, redactMapping_fill]
          rw [emitted, emitted, filter, filter, strings, redacts]
          cases filtered : type.isDict && allStrings members with
          | true => rfl
          | false =>
              have shown : ¬Shows display strDirective (.mapping type members) := fun shown =>
                hidden ⟨filtered, shows_strDirective.1 shown⟩
              have sameValue : fill "" (.mapping type members : Value O) =
                  fill "" (.mapping type members') := by
                rw [fill, fill, same]
              have texts := convert_of_not_shows shown sameValue
              rw [convert_strDirective, convert_strDirective] at texts
              exact congrArg (Option.map formatter.format) texts

/-- **When a log line does not depend on secrets.**  All records that differ from this one only in
the strings under sensitive keys have its text exactly if it does not expose any: the filter
redacts a `dict` with string keys, and a format is safe where it raises or its directives show no
part of such a string. -/
theorem message_hidden_iff (display : Display O) (formatter : Formatter) (record : LogRecord O) :
    (∀ other, record.SameBut other →
      emitted display formatter other = emitted display formatter record) ↔
    ¬Exposes display record := by
  constructor
  · intro hidden exposes
    refine exists_emitted_ne formatter exposes ?_
    rw [hidden _ (record.sameBut_fill plainSecret), hidden _ (record.sameBut_fill quotedSecret)]
  · exact fun hidden other same => emitted_of_not_exposes formatter hidden same

/-- How records are shown that have no objects and no floats in them. -/
def noObjects : Display Empty where
  printable _ := true
  float _ := ""
  str := Empty.elim
  repr := Empty.elim
  number _ _ := none

/-- **The password of an argument is shown**: only its key is redacted. -/
theorem argument_secret_shown : ∃ record other : LogRecord Empty, record.SameBut other ∧
    emitted noObjects .json record = some "login \x7b'***': 'a'\x7d".toList ∧
    emitted noObjects .json other = some "login \x7b'***': 'b'\x7d".toList := by
  refine ⟨.format "login %s" .dict [(.str "password", .str "a")],
    .format "login %s" .dict [(.str "password", .str "b")], ⟨rfl, rfl, ?_⟩, ?_, ?_⟩
  · have sensitive : searchSensitiveKey "password" = true := by decide
    simp [SameBut, fillMembers, secretOf, sensitive]
  · decide
  · decide

end BidSystem.Telemetry.Logging
