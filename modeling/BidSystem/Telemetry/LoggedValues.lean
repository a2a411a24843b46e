import BidSystem.PercentFormat.Plan
import BidSystem.Telemetry.Structured
import Mathlib.Tactic.SplitIfs

/-!
# What a log record shows of a mapping

The `str`, `repr` and `ascii` of the values that are logged, and the conversions of a format.  How
other objects, floats and numbers are shown is any function.

* `fill` — a value with all strings under sensitive keys replaced.
* `tokens` — the `repr` of a value, with the members whose string is a secret set apart.
* `Shows` — a conversion writes something of a secret.
* `convert_of_not_shows` — otherwise it does not depend on any of them.
* `convert_of_shows` — it tells two strings apart right after a quotation mark and a colon.
-/

namespace BidSystem.Telemetry.Logging

open PercentFormat

variable {O : Type}

/-! ## Values -/

/-- A key of a mapping. -/
inductive Key (O : Type) where
  | str (value : String)
  | scalar (value : Scalar)
  | object (value : O)

/-- A class of mappings, which shows its members as a `dict` does between two texts. -/
structure MappingType where
  isDict : Bool
  strOpening : String
  strClosing : String
  reprOpening : String
  reprClosing : String

/-- `dict`. -/
def MappingType.dict : MappingType where
  isDict := true
  strOpening := ""
  strClosing := ""
  reprOpening := ""
  reprClosing := ""

/-- A value in a log record. -/
inductive Value (O : Type) where
  | str (value : String)
  | scalar (value : Scalar)
  | object (value : O)
  | list (items : List (Value O))
  | tuple (items : List (Value O))
  | mapping (type : MappingType) (members : List (Key O × Value O))

/-- The members of a mapping, in order. -/
abbrev Members (O : Type) := List (Key O × Value O)

/-- `key in members`, with its value. -/
def lookup (key : String) : Members O → Option (Value O)
  | [] => none
  | (.str other, item) :: members => if other = key then some item else lookup key members
  | (.scalar _, _) :: members => lookup key members
  | (.object _, _) :: members => lookup key members

/-- The string that a sensitive key holds. -/
def secretOf : Key O → Value O → Option (String × String)
  | .str key, .str value => if searchSensitiveKey key then some (key, value) else none
  | _, _ => none

mutual

/-- A value with each string under a sensitive key replaced by one text. -/
def fill (secret : String) : Value O → Value O
  | .str value => .str value
  | .scalar value => .scalar value
  | .object value => .object value
  | .list items => .list (fillItems secret items)
  | .tuple items => .tuple (fillItems secret items)
  | .mapping type members => .mapping type (fillMembers secret members)

/-- `fill` in a sequence. -/
def fillItems (secret : String) : List (Value O) → List (Value O)
  | [] => []
  | item :: items => fill secret item :: fillItems secret items

/-- `fill` in a mapping. -/
def fillMembers (secret : String) : Members O → Members O
  | [] => []
  | (key, item) :: members =>
      (key, if (secretOf key item).isSome then .str secret else fill secret item) ::
        fillMembers secret members

end

mutual

/-- The value holds a string under a sensitive key, at any depth. -/
def holdsSecret : Value O → Bool
  | .str _ => false
  | .scalar _ => false
  | .object _ => false
  | .list items => holdsSecretItems items
  | .tuple items => holdsSecretItems items
  | .mapping _ members => holdsSecretMembers members

/-- `holdsSecret` in a sequence. -/
def holdsSecretItems : List (Value O) → Bool
  | [] => false
  | item :: items => holdsSecret item || holdsSecretItems items

/-- `holdsSecret` in a mapping. -/
def holdsSecretMembers : Members O → Bool
  | [] => false
  | (key, item) :: members =>
      ((secretOf key item).isSome || holdsSecret item) || holdsSecretMembers members

end

/-- Two mappings that differ only in the strings under sensitive keys, at any depth. -/
def SameBut (members others : Members O) : Prop := fillMembers "" members = fillMembers "" others

/-! ## Texts -/

/-- U+0027. -/
def apostrophe : Char := Char.ofNat 39

/-- U+0022. -/
def quotationMark : Char := Char.ofNat 34

/-- U+005C. -/
def backslash : Char := Char.ofNat 92

/-- How values are shown that are no texts and no containers. -/
structure Display (O : Type) where
  /-- `str.isprintable` for a character that is not ASCII. -/
  printable : Char → Bool
  /-- `repr` of a `float`. -/
  float : UInt64 → String
  str : O → String
  repr : O → String
  /-- A conversion of a number or of an object, other than `%s`, `%r` and `%a`. -/
  number : Directive → Scalar ⊕ O → Option String

/-- A code point in hexadecimal, with at least so many digits. -/
def hexadecimal (digits code : ℕ) : List Char := (Nat.toDigits 16 code).leftpad digits '0'

/-- The escape of a code point. -/
def escapeCode (code : ℕ) : List Char :=
  if code < 0x100 then backslash :: 'x' :: hexadecimal 2 code
  else if code < 0x10000 then backslash :: 'u' :: hexadecimal 4 code
  else backslash :: 'U' :: hexadecimal 8 code

/-- `ascii` on one character of a `repr`. -/
def asciiCharacter (character : Char) : List Char :=
  if character.toNat < 0x80 then [character] else escapeCode character.toNat

section
variable (display : Display O)

/-- A character in the `repr` of a string. -/
def escape (quote character : Char) : List Char :=
  if character = quote ∨ character = backslash then [backslash, character]
  else if character.toNat = 9 then [backslash, 't']
  else if character.toNat = 10 then [backslash, 'n']
  else if character.toNat = 13 then [backslash, 'r']
  else if (0x20 ≤ character.toNat ∧ character.toNat < 0x7F) ∨
      (0x80 ≤ character.toNat ∧ display.printable character = true) then [character]
  else escapeCode character.toNat

/-- Apostrophes, unless the text has them and no quotation marks. -/
def quoteOf (text : List Char) : Char :=
  if text.contains apostrophe && !text.contains quotationMark then quotationMark else apostrophe

/-- `repr` of a string. -/
def reprStr (value : String) : List Char :=
  quoteOf value.toList ::
    (value.toList.flatMap (escape display (quoteOf value.toList)) ++ [quoteOf value.toList])

/-- `repr` of a scalar, which is its `str` too. -/
def reprScalar : Scalar → List Char
  | .int value => (toString value).toList
  | .float value => (display.float value).toList
  | .bool true => "True".toList
  | .bool false => "False".toList
  | .null => "None".toList

/-- `repr` of a key. -/
def reprKey : Key O → List Char
  | .str value => reprStr display value
  | .scalar value => reprScalar display value
  | .object value => (display.repr value).toList

/-- What separates an item from those after it. -/
def comma {α : Type} : List α → List Char
  | [] => []
  | _ :: _ => [',', ' ']

/-- What a tuple ends with. -/
def tupleClosing {α : Type} : List α → List Char
  | [_] => [',', ')']
  | _ => [')']

mutual

/-- `repr`. -/
def repr : Value O → List Char
  | .str value => reprStr display value
  | .scalar value => reprScalar display value
  | .object value => (display.repr value).toList
  | .list items => '[' :: (reprItems items ++ [']'])
  | .tuple items => '(' :: (reprItems items ++ tupleClosing items)
  | .mapping type members =>
      type.reprOpening.toList ++ ('{' :: (reprMembers members ++ ('}' :: type.reprClosing.toList)))

/-- The items of a sequence. -/
def reprItems : List (Value O) → List Char
  | [] => []
  | item :: items => repr item ++ (comma items ++ reprItems items)

/-- The members of a mapping. -/
def reprMembers : Members O → List Char
  | [] => []
  | (key, item) :: members =>
      reprKey display key ++ ([':', ' '] ++ repr item) ++ (comma members ++ reprMembers members)

end

/-- `str`. -/
def str : Value O → List Char
  | .str value => value.toList
  | .object value => (display.str value).toList
  | .mapping type members =>
      type.strOpening.toList ++
        ('{' :: (reprMembers display members ++ ('}' :: type.strClosing.toList)))
  | .scalar value => repr display (.scalar value)
  | .list items => repr display (.list items)
  | .tuple items => repr display (.tuple items)

/-- `%s`, `%r` and `%a`. -/
def isTextual (conversion : Char) : Bool := ['s', 'r', 'a'].contains conversion

/-- The conversions of numbers, and `%c`. -/
def isNumeric (conversion : Char) : Bool := "diuoxXeEfFgGc".toList.contains conversion

/-- The text of a value for `%s`, `%r` or `%a`. -/
def textual (conversion : Char) (value : Value O) : List Char :=
  if conversion = 's' then str display value
  else if conversion = 'r' then repr display value
  else (repr display value).flatMap asciiCharacter

/-- What a directive makes of a value, or nothing where it raises. -/
def convert (directive : Directive) (value : Value O) : Option (List Char) :=
  if isTextual directive.conversion then
    some (directive.layout (textual display directive.conversion value))
  else if isNumeric directive.conversion then
    match value with
    | .scalar value => (display.number directive (.inl value)).map String.toList
    | .object value => (display.number directive (.inr value)).map String.toList
    | .str value =>
        if directive.conversion = 'c' ∧ value.toList.length = 1 then
          some (directive.pad value.toList)
        else none
    | _ => none
  else none

/-! ## Secrets in a text -/

/-- A piece of the text of a value. -/
inductive Token where
  | shown (text : List Char)
  /-- A sensitive key and the string it holds. -/
  | secret (key value : String)

/-- The text of a piece. -/
def Token.text : Token → List Char
  | .shown text => text
  | .secret key value => reprStr display key ++ ([':', ' '] ++ reprStr display value)

/-- A piece with another secret. -/
def Token.setTo (secret : String) : Token → Token
  | .shown text => .shown text
  | .secret key _ => .secret key secret

mutual

/-- The pieces of the `repr` of a value. -/
def tokens : Value O → List Token
  | .str value => [.shown (reprStr display value)]
  | .scalar value => [.shown (reprScalar display value)]
  | .object value => [.shown (display.repr value).toList]
  | .list items => .shown ['['] :: (tokensItems items ++ [.shown [']']])
  | .tuple items => .shown ['('] :: (tokensItems items ++ [.shown (tupleClosing items)])
  | .mapping type members =>
      .shown (type.reprOpening.toList ++ ['{']) ::
        (tokensMembers members ++ [.shown ('}' :: type.reprClosing.toList)])

/-- The pieces of the items of a sequence. -/
def tokensItems : List (Value O) → List Token
  | [] => []
  | item :: items => tokens item ++ .shown (comma items) :: tokensItems items

/-- The pieces of the members of a mapping. -/
def tokensMembers : Members O → List Token
  | [] => []
  | (key, item) :: members =>
      (match secretOf key item with
        | some secret => [.secret secret.1 secret.2]
        | none => .shown (reprKey display key ++ [':', ' ']) :: tokens item) ++
        .shown (comma members) :: tokensMembers members

end

/-- The pieces of the `str` of a value. -/
def tokensStr : Value O → List Token
  | .str value => [.shown value.toList]
  | .object value => [.shown (display.str value).toList]
  | .mapping type members =>
      .shown (type.strOpening.toList ++ ['{']) ::
        (tokensMembers display members ++ [.shown ('}' :: type.strClosing.toList)])
  | .scalar value => tokens display (.scalar value)
  | .list items => tokens display (.list items)
  | .tuple items => tokens display (.tuple items)

end

/-! ## Replacing secrets -/

/-- A secret is replaced by another one. -/
theorem secretOf_fill (secret : String) (key : Key O) (item : Value O) :
    secretOf key (if (secretOf key item).isSome then .str secret else fill secret item) =
      (secretOf key item).map fun found => (found.1, secret) := by
  cases key with
  | str key =>
      cases item with
      | str value => by_cases sensitive : searchSensitiveKey key <;> simp [secretOf, fill, sensitive]
      | scalar value => simp [secretOf, fill]
      | object value => simp [secretOf, fill]
      | list items => simp [secretOf, fill]
      | tuple items => simp [secretOf, fill]
      | mapping type members => simp [secretOf, fill]
  | scalar key => simp [secretOf]
  | object key => simp [secretOf]

mutual

theorem fill_fill (first second : String) :
    ∀ value : Value O, fill first (fill second value) = fill first value
  | .str _ => rfl
  | .scalar _ => rfl
  | .object _ => rfl
  | .list items => by rw [fill, fill, fill, fillItems_fillItems first second items]
  | .tuple items => by rw [fill, fill, fill, fillItems_fillItems first second items]
  | .mapping type members => by
      rw [fill, fill, fill, fillMembers_fillMembers first second members]

theorem fillItems_fillItems (first second : String) :
    ∀ items : List (Value O), fillItems first (fillItems second items) = fillItems first items
  | [] => rfl
  | item :: items => by
      rw [fillItems, fillItems, fillItems, fill_fill first second item,
        fillItems_fillItems first second items]

theorem fillMembers_fillMembers (first second : String) :
    ∀ members : Members O,
      fillMembers first (fillMembers second members) = fillMembers first members
  | [] => rfl
  | (key, item) :: members => by
      rw [fillMembers, fillMembers, fillMembers, secretOf_fill,
        fillMembers_fillMembers first second members, Option.isSome_map]
      cases (secretOf key item).isSome with
      | true => rfl
      | false =>
          simp only [Bool.false_eq_true, if_false]
          rw [fill_fill first second item]

end

/-- A member of the mapping with another secret. -/
theorem lookup_fillMembers (secret key : String) (members : Members O) :
    lookup key (fillMembers secret members) = (lookup key members).map fun item =>
      if (secretOf (.str key : Key O) item).isSome then .str secret else fill secret item := by
  induction members with
  | nil => rfl
  | cons member members ih =>
      obtain ⟨other | scalar | object, item⟩ := member
      · by_cases same : other = key
        · simp [fillMembers, lookup, same]
        · simp [fillMembers, lookup, same, ih]
      · exact ih
      · exact ih

/-- A key that is not sensitive holds no secret itself. -/
theorem secretOf_of_not_sensitive {key : String} (plain : searchSensitiveKey key = false)
    (item : Value O) : secretOf (.str key) item = none := by
  cases item <;> simp [secretOf, plain]

theorem SameBut.fill {members others : Members O} (same : SameBut members others)
    (secret : String) : fillMembers secret members = fillMembers secret others := by
  rw [← fillMembers_fillMembers secret "" members, ← fillMembers_fillMembers secret "" others, same]

/-- The mapping with another secret differs only in secrets. -/
theorem sameBut_fill (members : Members O) (secret : String) :
    SameBut members (fillMembers secret members) :=
  (fillMembers_fillMembers "" secret members).symm

section
variable (display : Display O)

@[simp]
theorem comma_fillItems (secret : String) (items : List (Value O)) :
    comma (fillItems secret items) = comma items := by
  cases items <;> rfl

@[simp]
theorem comma_fillMembers (secret : String) (members : Members O) :
    comma (fillMembers secret members) = comma members := by
  rcases members with _ | ⟨⟨_, _⟩, _⟩ <;> rfl

@[simp]
theorem tupleClosing_fillItems (secret : String) (items : List (Value O)) :
    tupleClosing (fillItems secret items) = tupleClosing items := by
  rcases items with _ | ⟨_, _ | ⟨_, _⟩⟩ <;> rfl

mutual

/-- **The pieces of a value with other secrets.** -/
theorem tokens_fill (secret : String) : ∀ value : Value O,
    tokens display (fill secret value) = (tokens display value).map (Token.setTo secret)
  | .str _ => rfl
  | .scalar _ => rfl
  | .object _ => rfl
  | .list items => by simp [fill, tokens, Token.setTo, tokensItems_fill secret items]
  | .tuple items => by simp [fill, tokens, Token.setTo, tokensItems_fill secret items]
  | .mapping type members => by simp [fill, tokens, Token.setTo, tokensMembers_fill secret members]

theorem tokensItems_fill (secret : String) : ∀ items : List (Value O),
    tokensItems display (fillItems secret items) =
      (tokensItems display items).map (Token.setTo secret)
  | [] => rfl
  | item :: items => by
      simp [fillItems, tokensItems, Token.setTo, tokens_fill secret item,
        tokensItems_fill secret items]

theorem tokensMembers_fill (secret : String) : ∀ members : Members O,
    tokensMembers display (fillMembers secret members) =
      (tokensMembers display members).map (Token.setTo secret)
  | [] => rfl
  | (key, item) :: members => by
      rw [fillMembers, tokensMembers, tokensMembers, secretOf_fill,
        tokensMembers_fill secret members, comma_fillMembers]
      cases found : secretOf key item with
      | none => simp [Token.setTo, tokens_fill secret item]
      | some value => simp [Token.setTo]

end

mutual

/-- **The pieces of a value make up its `repr`.** -/
theorem flatMap_tokens : ∀ value : Value O,
    (tokens display value).flatMap (Token.text display) = repr display value
  | .str _ => by simp [tokens, repr, Token.text]
  | .scalar _ => by simp [tokens, repr, Token.text]
  | .object _ => by simp [tokens, repr, Token.text]
  | .list items => by simp [tokens, repr, Token.text, flatMap_tokensItems items]
  | .tuple items => by simp [tokens, repr, Token.text, flatMap_tokensItems items]
  | .mapping type members => by simp [tokens, repr, Token.text, flatMap_tokensMembers members]

theorem flatMap_tokensItems : ∀ items : List (Value O),
    (tokensItems display items).flatMap (Token.text display) = reprItems display items
  | [] => rfl
  | item :: items => by
      simp [tokensItems, reprItems, Token.text, flatMap_tokens item, flatMap_tokensItems items]

theorem flatMap_tokensMembers : ∀ members : Members O,
    (tokensMembers display members).flatMap (Token.text display) = reprMembers display members
  | [] => rfl
  | (key, item) :: members => by
      rw [tokensMembers, reprMembers]
      cases found : secretOf key item with
      | none => simp [Token.text, flatMap_tokens item, flatMap_tokensMembers members]
      | some secret =>
          obtain ⟨rfl, rfl⟩ : key = .str secret.1 ∧ item = .str secret.2 := by
            unfold secretOf at found
            split at found
            · split_ifs at found
              cases found
              exact ⟨rfl, rfl⟩
            · cases found
          simp [Token.text, reprKey, repr, flatMap_tokensMembers members]

end

/-- The pieces of the text of a value for `%s`, `%r` or `%a`. -/
def tokensTextual (conversion : Char) (value : Value O) : List Token :=
  if conversion = 's' then tokensStr display value else tokens display value

/-- What `%a` makes of a character, and the other two leave. -/
def encode (conversion character : Char) : List Char :=
  if conversion = 's' ∨ conversion = 'r' then [character] else asciiCharacter character

theorem flatMap_tokensStr (value : Value O) :
    (tokensStr display value).flatMap (Token.text display) = str display value := by
  cases value with
  | str value => simp [tokensStr, str, Token.text]
  | object value => simp [tokensStr, str, Token.text]
  | mapping type members => simp [tokensStr, str, Token.text, flatMap_tokensMembers]
  | scalar value => exact flatMap_tokens display _
  | list items => exact flatMap_tokens display _
  | tuple items => exact flatMap_tokens display _

theorem tokensStr_fill (secret : String) (value : Value O) :
    tokensStr display (fill secret value) =
      (tokensStr display value).map (Token.setTo secret) := by
  cases value with
  | str value => rfl
  | object value => rfl
  | mapping type members => simp [fill, tokensStr, Token.setTo, tokensMembers_fill]
  | scalar value => rfl
  | list items => exact tokens_fill display secret (.list items)
  | tuple items => exact tokens_fill display secret (.tuple items)

theorem tokensTextual_fill (conversion : Char) (secret : String) (value : Value O) :
    tokensTextual display conversion (fill secret value) =
      (tokensTextual display conversion value).map (Token.setTo secret) := by
  unfold tokensTextual
  split_ifs
  · exact tokensStr_fill display secret value
  · exact tokens_fill display secret value

theorem textual_eq (conversion : Char) (value : Value O) :
    textual display conversion value =
      ((tokensTextual display conversion value).flatMap (Token.text display)).flatMap
        (encode conversion) := by
  unfold textual tokensTextual
  by_cases isStr : conversion = 's'
  · have plain : encode conversion = fun character => [character] := by
      funext character
      rw [encode, if_pos (.inl isStr)]
    rw [if_pos isStr, if_pos isStr, flatMap_tokensStr, plain, List.flatMap_singleton']
  · by_cases isRepr : conversion = 'r'
    · have plain : encode conversion = fun character => [character] := by
        funext character
        rw [encode, if_pos (.inr isRepr)]
      rw [if_neg isStr, if_pos isRepr, if_neg isStr, flatMap_tokens, plain,
        List.flatMap_singleton']
    · have ascii : encode conversion = asciiCharacter := by
        funext character
        rw [encode, if_neg (by rintro (same | same) <;> contradiction)]
      rw [if_neg isStr, if_neg isRepr, if_neg isStr, flatMap_tokens, ascii]

end

/-! ## The first secret -/

section
variable (display : Display O)

/-- The text of the pieces up to the first secret, where there is one. -/
def front : List Token → Option (List Char)
  | [] => none
  | .shown text :: pieces => (front pieces).map (text ++ ·)
  | .secret key _ :: _ => some (reprStr display key ++ [':', ' '])

variable {display}

@[simp]
theorem front_setTo (secret : String) (pieces : List Token) :
    front display (pieces.map (Token.setTo secret)) = front display pieces := by
  induction pieces with
  | nil => rfl
  | cons piece pieces ih =>
      cases piece with
      | shown text => rw [List.map_cons, Token.setTo, front, front, ih]
      | secret key value => rfl

/-- Pieces without a secret. -/
theorem setTo_of_front_none {pieces : List Token} (none : front display pieces = none)
    (secret : String) : pieces.map (Token.setTo secret) = pieces := by
  induction pieces with
  | nil => rfl
  | cons piece pieces ih =>
      cases piece with
      | shown text =>
          rw [front, Option.map_eq_none_iff] at none
          rw [List.map_cons, Token.setTo, ih none]
      | secret key value => cases none

theorem isSome_front_append (pieces others : List Token) :
    (front display (pieces ++ others)).isSome =
      ((front display pieces).isSome || (front display others).isSome) := by
  induction pieces with
  | nil => rfl
  | cons piece pieces ih =>
      cases piece with
      | shown text => rw [List.cons_append, front, front, Option.isSome_map, Option.isSome_map, ih]
      | secret key value => rfl

@[simp]
theorem isSome_front_shown (text : List Char) (pieces : List Token) :
    (front display (.shown text :: pieces)).isSome = (front display pieces).isSome := by
  rw [front, Option.isSome_map]

mutual

/-- **There is a first secret where there is one.** -/
theorem isSome_front_tokens : ∀ value : Value O,
    (front display (tokens display value)).isSome = holdsSecret value
  | .str _ => rfl
  | .scalar _ => rfl
  | .object _ => rfl
  | .list items => by
      simp [tokens, isSome_front_append, isSome_front_tokensItems items, holdsSecret, front]
  | .tuple items => by
      simp [tokens, isSome_front_append, isSome_front_tokensItems items, holdsSecret, front]
  | .mapping type members => by
      simp [tokens, isSome_front_append, isSome_front_tokensMembers members, holdsSecret, front]

theorem isSome_front_tokensItems : ∀ items : List (Value O),
    (front display (tokensItems display items)).isSome = holdsSecretItems items
  | [] => rfl
  | item :: items => by
      simp [tokensItems, isSome_front_append, isSome_front_tokens item,
        isSome_front_tokensItems items, holdsSecretItems]

theorem isSome_front_tokensMembers : ∀ members : Members O,
    (front display (tokensMembers display members)).isSome = holdsSecretMembers members
  | [] => rfl
  | (key, item) :: members => by
      rw [tokensMembers, holdsSecretMembers]
      cases secretOf key item with
      | none =>
          simp [isSome_front_append, isSome_front_tokens item, isSome_front_tokensMembers members]
      | some secret => simp [front]

end

/-- **Where the first secret is**: after its key. -/
theorem exists_of_front {pieces : List Token} {text : List Char}
    (found : front display pieces = some text) :
    ∃ (shown : List (List Char)) (key value : String) (after : List Token),
      pieces = shown.map Token.shown ++ .secret key value :: after ∧
        text = shown.flatten ++ (reprStr display key ++ [':', ' ']) := by
  induction pieces generalizing text with
  | nil => cases found
  | cons piece pieces ih =>
      cases piece with
      | shown first =>
          obtain ⟨others, found', rfl⟩ := Option.map_eq_some_iff.1 found
          obtain ⟨shown, key, value, after, rfl, rfl⟩ := ih found'
          exact ⟨first :: shown, key, value, after, rfl, by simp⟩
      | secret key value =>
          cases found
          exact ⟨[], key, value, pieces, rfl, rfl⟩

theorem flatMap_shown (texts : List (List Char)) :
    (texts.map Token.shown).flatMap (Token.text display) = texts.flatten := by
  rw [List.flatMap_map, List.flatten_eq_flatMap]
  rfl

/-- The secrets come after the front of the text. -/
theorem text_of_front {pieces : List Token} {text : List Char}
    (found : front display pieces = some text) :
    ∃ rest, pieces.flatMap (Token.text display) = text ++ rest := by
  obtain ⟨shown, key, value, after, rfl, rfl⟩ := exists_of_front found
  refine ⟨reprStr display value ++ after.flatMap (Token.text display), ?_⟩
  simp [flatMap_shown, Token.text]

/-- The secret that replaced the first one comes right after the front. -/
theorem text_setTo_of_front {pieces : List Token} {text : List Char}
    (found : front display pieces = some text) (secret : String) :
    ∃ rest, (pieces.map (Token.setTo secret)).flatMap (Token.text display) =
      text ++ (reprStr display secret ++ rest) := by
  obtain ⟨shown, key, value, after, rfl, rfl⟩ := exists_of_front found
  refine ⟨(after.map (Token.setTo secret)).flatMap (Token.text display), ?_⟩
  have kept : (shown.map Token.shown).map (Token.setTo secret) = shown.map Token.shown := by
    rw [List.map_map]
    rfl
  rw [List.map_append, List.map_cons, kept, Token.setTo, List.flatMap_append, List.flatMap_cons,
    flatMap_shown, Token.text]
  simp

/-- A quotation mark and a colon stand before a secret. -/
theorem ending_of_front {pieces : List Token} {text : List Char}
    (found : front display pieces = some text) :
    ∃ kept quote, (quote = apostrophe ∨ quote = quotationMark) ∧
      text = kept ++ [quote, ':', ' '] := by
  obtain ⟨shown, key, value, after, -, rfl⟩ := exists_of_front found
  refine ⟨shown.flatten ++ quoteOf key.toList :: key.toList.flatMap
    (escape display (quoteOf key.toList)), quoteOf key.toList, ?_, ?_⟩
  · unfold quoteOf
    split_ifs
    · exact .inr rfl
    · exact .inl rfl
  · simp [reprStr]

/-- Secrets whose texts are of the same length are padded and cut alike. -/
theorem length_setTo {encoding : Char → List Char} {secret other : String}
    (same : ((reprStr display secret).flatMap encoding).length =
      ((reprStr display other).flatMap encoding).length) (pieces : List Token) :
    (((pieces.map (Token.setTo secret)).flatMap (Token.text display)).flatMap encoding).length =
      (((pieces.map (Token.setTo other)).flatMap (Token.text display)).flatMap encoding).length := by
  induction pieces with
  | nil => rfl
  | cons piece pieces ih =>
      cases piece with
      | shown text =>
          simp only [List.map_cons, List.flatMap_cons, List.flatMap_append, List.length_append, ih]
          rfl
      | secret key value =>
          simp only [List.map_cons, List.flatMap_cons, List.flatMap_append, List.length_append, ih,
            Token.setTo, Token.text, same]

/-! ## Conversions and secrets -/

variable (display)

/-- The conversion writes something of a secret. -/
def Shows (directive : Directive) (value : Value O) : Prop :=
  isTextual directive.conversion = true ∧
    ∃ text, front display (tokensTextual display directive.conversion value) = some text ∧
      ¬directive.CutsAt (text.flatMap (encode directive.conversion))

variable {display}

theorem convert_of_textual {directive : Directive} (isText : isTextual directive.conversion = true)
    (value : Value O) : convert display directive value =
      some (directive.layout (textual display directive.conversion value)) := by
  unfold convert
  rw [if_pos isText]

/-- A number is not converted from what holds secrets. -/
theorem convert_fill_of_not_textual {directive : Directive}
    (other : isTextual directive.conversion = false) (secret : String) (value : Value O) :
    convert display directive (fill secret value) = convert display directive value := by
  unfold convert
  rw [other]
  cases value <;> rfl

theorem convert_eq_of_not_textual {directive : Directive} {value value' : Value O}
    (other : isTextual directive.conversion = false) (same : fill "" value = fill "" value') :
    convert display directive value' = convert display directive value := by
  rw [← convert_fill_of_not_textual other "" value', ← same, convert_fill_of_not_textual other]

/-- **A conversion that shows nothing of a secret** does not depend on any. -/
theorem convert_of_not_shows {directive : Directive} {value value' : Value O}
    (hidden : ¬Shows display directive value) (same : fill "" value = fill "" value') :
    convert display directive value' = convert display directive value := by
  cases textual : isTextual directive.conversion with
  | false => exact convert_eq_of_not_textual textual same
  | true =>
      have pieces : (tokensTextual display directive.conversion value).map (Token.setTo "") =
          (tokensTextual display directive.conversion value').map (Token.setTo "") := by
        rw [← tokensTextual_fill, ← tokensTextual_fill, same]
      have fronts : front display (tokensTextual display directive.conversion value') =
          front display (tokensTextual display directive.conversion value) := by
        rw [← front_setTo "", ← pieces, front_setTo]
      rw [convert_of_textual textual, convert_of_textual textual, textual_eq, textual_eq]
      cases found : front display (tokensTextual display directive.conversion value) with
      | none =>
          rw [← setTo_of_front_none found "", pieces,
            setTo_of_front_none (fronts.trans found) ""]
      | some text =>
          have cuts : directive.CutsAt (text.flatMap (encode directive.conversion)) := by
            by_contra written
            exact hidden ⟨textual, text, found, written⟩
          obtain ⟨rest, isText⟩ := text_of_front found
          obtain ⟨rest', isText'⟩ := text_of_front (fronts.trans found)
          rw [isText, isText', List.flatMap_append, List.flatMap_append,
            Directive.layout_of_cutsAt cuts, Directive.layout_of_cutsAt cuts]

/-- Whether a conversion raises does not depend on secrets. -/
theorem isSome_convert {directive : Directive} {value value' : Value O}
    (same : fill "" value = fill "" value') :
    (convert display directive value').isSome = (convert display directive value).isSome := by
  cases textual : isTextual directive.conversion with
  | false => rw [convert_eq_of_not_textual textual same]
  | true => rw [convert_of_textual textual, convert_of_textual textual, Option.isSome_some,
      Option.isSome_some]

/-- ASCII characters are left. -/
theorem encode_of_lt {conversion character : Char} (isAscii : character.toNat < 0x80) :
    encode conversion character = [character] := by
  unfold encode asciiCharacter
  split_ifs <;> rfl

/-- A string that is written between apostrophes. -/
def plainSecret : String := "x"

/-- A string that is written between quotation marks. -/
def quotedSecret : String := String.ofList [apostrophe]

theorem reprStr_plainSecret :
    reprStr display plainSecret = [apostrophe, 'x', apostrophe] := by
  rfl

theorem reprStr_quotedSecret :
    reprStr display quotedSecret = [quotationMark, apostrophe, quotationMark] := by
  rfl

/-- **A conversion that shows something of a secret** tells two strings apart where the first
secret begins. -/
theorem convert_of_shows {directive : Directive} {value : Value O}
    (shown : Shows display directive value) :
    ∃ kept quote rest rest', (quote = apostrophe ∨ quote = quotationMark) ∧
      convert display directive (fill plainSecret value) =
        some (kept ++ [quote, ':', ' '] ++ apostrophe :: rest) ∧
      convert display directive (fill quotedSecret value) =
        some (kept ++ [quote, ':', ' '] ++ quotationMark :: rest') := by
  obtain ⟨isText, text, found, written⟩ := shown
  obtain ⟨before, quote, isQuote, rfl⟩ := ending_of_front found
  have quoteAscii : quote.toNat < 0x80 := by
    rcases isQuote with rfl | rfl <;> decide
  -- The front of the text, as it is encoded.
  have isFront : (before ++ [quote, ':', ' ']).flatMap (encode directive.conversion) =
      before.flatMap (encode directive.conversion) ++ [quote, ':', ' '] := by
    simp [encode_of_lt quoteAscii, encode_of_lt (show (':' : Char).toNat < 0x80 by decide),
      encode_of_lt (show (' ' : Char).toNat < 0x80 by decide)]
  rw [isFront] at written
  have plain : (reprStr display plainSecret).flatMap (encode directive.conversion) =
      [apostrophe, 'x', apostrophe] := by
    simp [reprStr_plainSecret, encode_of_lt (show apostrophe.toNat < 0x80 by decide),
      encode_of_lt (show ('x' : Char).toNat < 0x80 by decide)]
  have quoted : (reprStr display quotedSecret).flatMap (encode directive.conversion) =
      [quotationMark, apostrophe, quotationMark] := by
    simp [reprStr_quotedSecret, encode_of_lt (show apostrophe.toNat < 0x80 by decide),
      encode_of_lt (show quotationMark.toNat < 0x80 by decide)]
  obtain ⟨rest, isPlain⟩ := text_setTo_of_front found plainSecret
  obtain ⟨rest', isQuoted⟩ := text_setTo_of_front found quotedSecret
  have plainText : textual display directive.conversion (fill plainSecret value) =
      before.flatMap (encode directive.conversion) ++ [quote, ':', ' '] ++
        apostrophe :: ('x' :: apostrophe :: rest.flatMap (encode directive.conversion)) := by
    rw [textual_eq, tokensTextual_fill, isPlain, List.flatMap_append, isFront, List.flatMap_append,
      plain]
    rfl
  have quotedText : textual display directive.conversion (fill quotedSecret value) =
      before.flatMap (encode directive.conversion) ++ [quote, ':', ' '] ++
        quotationMark ::
          (apostrophe :: quotationMark :: rest'.flatMap (encode directive.conversion)) := by
    rw [textual_eq, tokensTextual_fill, isQuoted, List.flatMap_append, isFront, List.flatMap_append,
      quoted]
    rfl
  -- Both texts are of one length, so that they are cut and padded alike.
  have same : (apostrophe :: quotationMark ::
      rest'.flatMap (encode directive.conversion)).length =
        ('x' :: apostrophe :: rest.flatMap (encode directive.conversion)).length := by
    have lengths := @length_setTo O display (encode directive.conversion) plainSecret quotedSecret
      (by rw [plain, quoted]; rfl) (tokensTextual display directive.conversion value)
    rw [← tokensTextual_fill, ← tokensTextual_fill, ← textual_eq, ← textual_eq, plainText,
      quotedText] at lengths
    simp only [List.length_append, List.length_cons] at lengths ⊢
    omega
  obtain ⟨filled, laidOut⟩ := Directive.layout_of_not_cutsAt written
    ('x' :: apostrophe :: rest.flatMap (encode directive.conversion)).length
  obtain ⟨end', isLaidOut⟩ := laidOut apostrophe _ rfl
  obtain ⟨end'', isLaidOut'⟩ := laidOut quotationMark _ same
  refine ⟨filled ++ before.flatMap (encode directive.conversion), quote, end', end'', isQuote,
    ?_, ?_⟩
  · rw [convert_of_textual isText, plainText, isLaidOut]
    simp
  · rw [convert_of_textual isText, quotedText, isLaidOut']
    simp

end

end BidSystem.Telemetry.Logging
