import BidSystem.Regex.Tokens
import BidSystem.Shared.Python
import Mathlib.Data.List.Pairwise
import Mathlib.Tactic.Tauto

/-!
# Comparison symbols

The scanner of `documents/domain/elements.py` for the comparison symbols of a
text.  `extractComparisonSymbols` raises for a blank source field only: what it
finds passes the checks of `ComparisonMatch`.

* `comparisonPattern_tokenization` — the matches are the tokenization of the text.
* `extractComparisonSymbols_eq_ok` — one `ComparisonMatch` for each of them.
-/

namespace BidSystem.Documents

open Regex

/-- `ComparisonOperator`. -/
inductive ComparisonOperator where
  | gt
  | lt
  | ge
  | le
  | eq
  | ne
deriving DecidableEq, Repr

/-- `_SYMBOL_OPERATORS`. -/
def symbolOperators : List (List Char × ComparisonOperator) :=
  [(['>'], .gt), (['<'], .lt), (['>', '='], .ge), (['≥'], .ge), (['<', '='], .le), (['≤'], .le),
    (['='], .eq), (['≠'], .ne)]

/-- `_SYMBOL_OPERATORS.get`. -/
def symbolOperator (raw : String) : Option ComparisonOperator := symbolOperators.lookup raw.toList

/-- `_COMPARISON_PATTERN`. -/
def comparisonPattern : Pattern Char :=
  .anyOf ([['>', '='], ['<', '='], ['≠'], ['≥'], ['≤'], ['>'], ['<']].map .literal) (.literal ['='])

/-- `ComparisonMatch`, with what `__post_init__` checks. -/
structure ComparisonMatch where
  raw : String
  operator : ComparisonOperator
  start : ℕ
  stop : ℕ
  sourceField : String
  sourceId : Option String
  operatorOfRaw : symbolOperator raw = some operator
  positive : start < stop
  rawLength : stop - start = raw.length
  sourceFieldNotBlank : blank sourceField = false

namespace ComparisonMatch

/-- `ComparisonMatch(...)`. -/
def init (raw : String) (operator : ComparisonOperator) (start stop : ℕ) (sourceField : String)
    (sourceId : Option String) : Except PyError ComparisonMatch :=
  match known : symbolOperator raw with
  | none => .error (.valueError "unsupported comparison symbol")
  | some expectedOperator =>
      if same : operator = expectedOperator then
        if positive : start < stop then
          if rawLength : stop - start = raw.length then
            if named : blank sourceField = false then
              .ok { raw, operator, start, stop, sourceField, sourceId
                    operatorOfRaw := known.trans (congrArg some same.symm)
                    positive, rawLength
                    sourceFieldNotBlank := named }
            else .error (.valueError "comparison source field must not be blank")
          else .error (.valueError "comparison offsets must match the raw symbol length")
        else .error (.valueError "comparison offsets must define a positive source span")
      else .error (.valueError "comparison symbol does not match normalized operator")

/-- The span of a match and what it matched. -/
def token (found : ComparisonMatch) : Token Char := ⟨found.start, found.stop, found.raw.toList⟩

/-- The operator of a match is that of its token. -/
theorem operator_of_token (found : ComparisonMatch) {start stop : ℕ} {raw : List Char}
    {operator : ComparisonOperator} (same : found.token = ⟨start, stop, raw⟩)
    (known : symbolOperators.lookup raw = some operator) : found.operator = operator := by
  have rawSame : found.raw.toList = raw := congrArg Token.raw same
  have given := found.operatorOfRaw
  rw [symbolOperator, rawSame, known] at given
  exact (Option.some.inj given).symm

/-- Consistent data makes a match. -/
theorem init_eq_ok {raw : String} {operator : ComparisonOperator} {start stop : ℕ}
    {sourceField : String} {sourceId : Option String}
    (known : symbolOperator raw = some operator) (positive : start < stop)
    (rawLength : stop - start = raw.length) (named : blank sourceField = false) :
    init raw operator start stop sourceField sourceId =
      .ok ⟨raw, operator, start, stop, sourceField, sourceId, known, positive, rawLength, named⟩ := by
  unfold init
  split
  · rename_i unknown
    rw [known] at unknown
    cases unknown
  · rename_i expected given
    rw [known] at given
    cases given
    rw [dif_pos rfl, dif_pos positive, dif_pos rawLength, dif_pos named]

end ComparisonMatch

/-- The match built from one result of `finditer`, in `extract_comparison_symbols`. -/
def matchOf (sourceField : String) (sourceId : Option String) (found : Token Char) :
    Except PyError ComparisonMatch :=
  match symbolOperator (String.ofList found.raw) with
  | none => .error .keyError
  | some operator =>
      ComparisonMatch.init (String.ofList found.raw) operator found.start found.stop sourceField
        sourceId

/-- `extract_comparison_symbols`. -/
def extractComparisonSymbols (text sourceField : String) (sourceId : Option String) :
    Except PyError (List ComparisonMatch) :=
  if blank sourceField then .error (.valueError "comparison source field must not be blank")
  else (comparisonPattern.finditer text.toList).mapM (matchOf sourceField sourceId)

/-! ## The symbols -/

/-- A text is a comparison symbol. -/
def IsSymbol (raw : List Char) : Prop := ∃ operator, (raw, operator) ∈ symbolOperators

theorem isSymbol_iff {raw : List Char} :
    IsSymbol raw ↔ raw ∈ symbolOperators.map Prod.fst := by
  simp [IsSymbol, List.mem_map]

/-- The pattern accepts the symbols. -/
theorem accepts_comparisonPattern {raw : List Char} :
    comparisonPattern.Accepts raw ↔ IsSymbol raw := by
  rw [comparisonPattern, Pattern.accepts_anyOf, isSymbol_iff]
  refine List.Perm.mem_iff ?_
  decide

theorem comparisonPattern_longest : comparisonPattern.Longest :=
  Pattern.longest_anyOf (by decide)

/-- **The scanner finds the tokenization** of a text into comparison symbols. -/
theorem comparisonPattern_tokenization (text : List Char) :
    Tokenization IsSymbol 0 text (comparisonPattern.finditer text) := by
  have found : Tokenization comparisonPattern.Accepts 0 text (comparisonPattern.finditer text) :=
    Pattern.tokenization_finditer (by decide) comparisonPattern_longest text
  rwa [show comparisonPattern.Accepts = IsSymbol from
    funext fun _ => propext accepts_comparisonPattern] at found

/-- Every symbol has an operator. -/
theorem symbolOperator_of_isSymbol {raw : List Char} (symbol : IsSymbol raw) :
    ∃ operator, symbolOperator (String.ofList raw) = some operator := by
  rw [symbolOperator, String.toList_ofList]
  rw [isSymbol_iff] at symbol
  simp only [symbolOperators, List.map_cons, List.map_nil, List.mem_cons, List.not_mem_nil,
    or_false] at symbol
  rcases symbol with rfl | rfl | rfl | rfl | rfl | rfl | rfl | rfl <;> exact ⟨_, rfl⟩

/-- The characters of symbols are symbols. -/
theorem isSymbol_singleton {raw : List Char} (symbol : IsSymbol raw) {character : Char}
    (member : character ∈ raw) : IsSymbol [character] := by
  rw [isSymbol_iff] at symbol ⊢
  have all : ∀ raw ∈ symbolOperators.map Prod.fst, ∀ character ∈ raw,
      [character] ∈ symbolOperators.map Prod.fst := by decide
  exact all raw symbol character member

/-- The characters of symbols. -/
theorem isSymbol_singleton_iff {character : Char} :
    IsSymbol [character] ↔ character ∈ ['<', '>', '=', '≠', '≥', '≤'] := by
  rw [isSymbol_iff]
  simp only [symbolOperators, List.map_cons, List.map_nil, List.mem_cons, List.cons.injEq,
    List.not_mem_nil, or_false, and_true, reduceCtorEq, and_false, false_or]
  tauto

/-! ## The matches of a text -/

/-- A list of calls that return. -/
theorem exists_mapM_eq_ok {A B : Type} {call : A → Except PyError B} {Holds : A → B → Prop}
    {arguments : List A}
    (returns : ∀ argument ∈ arguments, ∃ result, call argument = .ok result ∧ Holds argument result) :
    ∃ results, arguments.mapM call = .ok results ∧ List.Forall₂ Holds arguments results := by
  induction arguments with
  | nil => exact ⟨[], rfl, .nil⟩
  | cons argument arguments ih =>
      obtain ⟨first, returned, holds⟩ := returns argument List.mem_cons_self
      obtain ⟨rest, returnedRest, holdsRest⟩ :=
        ih fun other member => returns other (List.mem_cons_of_mem _ member)
      refine ⟨first :: rest, ?_, .cons holds holdsRest⟩
      rw [List.mapM_cons, returned, returnedRest]
      rfl

/-- A token of a text is a match. -/
theorem matchOf_eq_ok {text : List Char} {tokens : List (Token Char)}
    (tokenization : Tokenization IsSymbol 0 text tokens) {found : Token Char}
    (member : found ∈ tokens) {sourceField : String} (named : blank sourceField = false)
    (sourceId : Option String) :
    ∃ symbol, matchOf sourceField sourceId found = .ok symbol ∧
      (symbol.token = found ∧ symbol.sourceField = sourceField ∧ symbol.sourceId = sourceId) := by
  obtain ⟨symbol, proper, before, rest, -, -, stop⟩ := tokenization.mem member
  obtain ⟨operator, known⟩ := symbolOperator_of_isSymbol symbol
  have some := List.length_pos_iff.mpr proper
  have positive : found.start < found.stop := by omega
  have rawLength : found.stop - found.start = (String.ofList found.raw).length := by
    rw [String.length_ofList]
    omega
  refine ⟨⟨_, _, _, _, _, sourceId, known, positive, rawLength, named⟩, ?_, ?_⟩
  · rw [matchOf, known]
    exact ComparisonMatch.init_eq_ok known positive rawLength named
  · exact ⟨by rw [ComparisonMatch.token, String.toList_ofList], rfl, rfl⟩

/-- What is built of tokens one by one has these tokens. -/
theorem map_token_of_forall₂ {tokens : List (Token Char)} {symbols : List ComparisonMatch}
    {sourceField : String} {sourceId : Option String}
    (each : List.Forall₂ (fun found symbol => symbol.token = found ∧
      symbol.sourceField = sourceField ∧ symbol.sourceId = sourceId) tokens symbols) :
    symbols.map ComparisonMatch.token = tokens ∧
      ∀ symbol ∈ symbols, symbol.sourceField = sourceField ∧ symbol.sourceId = sourceId := by
  induction each with
  | nil => exact ⟨rfl, List.forall_mem_nil _⟩
  | cons holds _ ih =>
      rw [List.map_cons, ih.1, holds.1]
      exact ⟨rfl, List.forall_mem_cons.mpr ⟨holds.2, ih.2⟩⟩

/-- **The scanner returns a match for every token** of the text. -/
theorem extractComparisonSymbols_eq_ok (text : String) {sourceField : String}
    (named : blank sourceField = false) (sourceId : Option String) :
    ∃ symbols, extractComparisonSymbols text sourceField sourceId = .ok symbols ∧
      symbols.map ComparisonMatch.token = comparisonPattern.finditer text.toList ∧
      ∀ symbol ∈ symbols, symbol.sourceField = sourceField ∧ symbol.sourceId = sourceId := by
  obtain ⟨symbols, returned, each⟩ := exists_mapM_eq_ok fun found member =>
    matchOf_eq_ok (comparisonPattern_tokenization text.toList) member named sourceId
  refine ⟨symbols, ?_, map_token_of_forall₂ each⟩
  rw [extractComparisonSymbols, named, if_neg Bool.false_ne_true, returned]

/-! ## What the scanner finds -/

/-- `text[start:stop]`. -/
def slice (text : String) (start stop : ℕ) : String :=
  String.ofList ((text.toList.take stop).drop start)

/-- The matches are those of a text and its source. -/
structure Scanned (text sourceField : String) (sourceId : Option String)
    (symbols : List ComparisonMatch) : Prop where
  tokenization : Tokenization IsSymbol 0 text.toList (symbols.map ComparisonMatch.token)
  unique : ∀ tokens, Tokenization IsSymbol 0 text.toList tokens →
    tokens = symbols.map ComparisonMatch.token
  inOrder : symbols.Pairwise fun first second => first.stop ≤ second.start
  sliced : ∀ symbol ∈ symbols, symbol.start < symbol.stop ∧ symbol.stop ≤ text.length ∧
    symbol.raw = slice text symbol.start symbol.stop
  operators : ∀ symbol ∈ symbols, symbolOperator symbol.raw = some symbol.operator
  covered : ∀ position character, text.toList[position]? = some character →
    character ∈ ['<', '>', '=', '≠', '≥', '≤'] →
    ∃! symbol, symbol ∈ symbols ∧ symbol.start ≤ position ∧ position < symbol.stop
  nothingElse : ∀ symbol ∈ symbols, ∀ position, symbol.start ≤ position → position < symbol.stop →
    ∃ character ∈ ['<', '>', '=', '≠', '≥', '≤'], text.toList[position]? = some character
  greaterEqual : ∀ position, text.toList[position]? = some '>' →
    text.toList[position + 1]? = some '=' →
    ∃ symbol ∈ symbols, symbol.start = position ∧ symbol.stop = position + 2 ∧ symbol.operator = .ge
  lessEqual : ∀ position, text.toList[position]? = some '<' →
    text.toList[position + 1]? = some '=' →
    ∃ symbol ∈ symbols, symbol.start = position ∧ symbol.stop = position + 2 ∧ symbol.operator = .le
  source : ∀ symbol ∈ symbols, symbol.sourceField = sourceField ∧ symbol.sourceId = sourceId

/-- `>` and `<` are the beginning of the symbols they are in. -/
theorem angle_first {raw : List Char} (symbol : IsSymbol raw) {index : ℕ} {character : Char}
    (found : raw[index]? = some character) (angle : character = '>' ∨ character = '<') :
    index = 0 := by
  rw [isSymbol_iff] at symbol
  have second : ∀ raw ∈ symbolOperators.map Prod.fst, raw.length ≤ 2 ∧
      ∀ character ∈ raw.tail, character ≠ '>' ∧ character ≠ '<' := by decide
  obtain ⟨-, notAngle⟩ := second raw symbol
  cases index with
  | zero => rfl
  | succ index =>
      have later : character ∈ raw.tail := by
        rw [← List.getElem?_tail] at found
        exact List.mem_of_getElem? found
      rcases angle with rfl | rfl
      · exact absurd rfl (notAngle _ later).1
      · exact absurd rfl (notAngle _ later).2

/-- A symbol of two characters that begins with `>` or `<` goes on with `=`. -/
theorem eq_of_two_le {raw : List Char} (symbol : IsSymbol raw) {character : Char}
    (found : raw[0]? = some character) (two : 2 ≤ raw.length) : raw = [character, '='] := by
  rw [isSymbol_iff] at symbol
  have equals : ∀ raw ∈ symbolOperators.map Prod.fst, 2 ≤ raw.length → raw.tail = ['='] := by
    decide
  obtain ⟨first, rest, rfl⟩ := List.exists_cons_of_length_pos (Nat.zero_lt_of_lt two)
  rw [← Option.some.inj found]
  exact congrArg (List.cons first) (equals _ symbol two)

/-- **A compound symbol is one token.** -/
theorem compound_at {text : List Char} {tokens : List (Token Char)}
    (tokenization : Tokenization IsSymbol 0 text tokens) {position : ℕ} {character : Char}
    (found : text[position]? = some character) (angle : character = '>' ∨ character = '<')
    (next : text[position + 1]? = some '=') :
    ⟨position, position + 2, [character, '=']⟩ ∈ tokens := by
  have compound : IsSymbol [character, '='] := by
    rcases angle with rfl | rfl
    · exact ⟨.ge, by decide⟩
    · exact ⟨.le, by decide⟩
  have isolated : IsSymbol [character] := isSymbol_singleton compound List.mem_cons_self
  obtain ⟨token, member, low, high⟩ := (tokenization.covers
    (fun raw symbol _ => isSymbol_singleton symbol) position).mpr ⟨character, found, isolated⟩
  obtain ⟨symbol, -, before, rest, split, start, stop⟩ := tokenization.mem member
  rw [Nat.zero_add] at low high start
  have inside : token.raw[position - token.start]? = some character := by
    rw [split, List.getElem?_append_right (by omega), ← start,
      List.getElem?_append_left (by omega)] at found
    exact found
  have here : position = token.start := by
    have := angle_first symbol inside angle
    omega
  subst here
  rw [Nat.sub_self] at inside
  have begins : [character, '='] <+: token.raw ++ rest := by
    rw [split, List.getElem?_append_right (by omega), start, Nat.add_sub_cancel_left] at next
    rw [split, start, List.getElem?_append_right le_rfl, Nat.sub_self] at found
    match token.raw ++ rest, found, next with
    | first :: second :: more, found, next =>
        cases Option.some.inj found
        cases Option.some.inj next
        exact ⟨more, rfl⟩
  have two := tokenization.longest_at member (by rw [Nat.zero_add, start]) split compound begins
  have whole := eq_of_two_le symbol inside two
  have same : token = ⟨token.start, token.start + 2, [character, '=']⟩ := calc
    token = ⟨token.start, token.stop, token.raw⟩ := rfl
    _ = ⟨token.start, token.start + 2, [character, '=']⟩ := by rw [stop, whole]; rfl
  exact same ▸ member

/-- Two matches apart from each other. -/
def Apart (first second : ComparisonMatch) : Prop :=
  first.stop ≤ second.start ∨ second.stop ≤ first.start

instance : Std.Symm Apart := ⟨fun _ _ => Or.symm⟩

/-- Matches in order have no position in common. -/
theorem eq_of_overlap {symbols : List ComparisonMatch}
    (inOrder : symbols.Pairwise fun first second => first.stop ≤ second.start)
    {first second : ComparisonMatch} (inFirst : first ∈ symbols) (inSecond : second ∈ symbols)
    {position : ℕ} (firstLow : first.start ≤ position) (firstHigh : position < first.stop)
    (secondLow : second.start ≤ position) (secondHigh : position < second.stop) :
    first = second := by
  have apart : symbols.Pairwise Apart := inOrder.imp .inl
  by_contra distinct
  rcases apart.forall inFirst inSecond distinct with before | after
  · omega
  · omega

/-- The matches of a text and its source have the properties of its tokens. -/
theorem scanned_of_tokens {text sourceField : String} {sourceId : Option String}
    {symbols : List ComparisonMatch}
    (tokens : symbols.map ComparisonMatch.token = comparisonPattern.finditer text.toList)
    (source : ∀ symbol ∈ symbols, symbol.sourceField = sourceField ∧ symbol.sourceId = sourceId) :
    Scanned text sourceField sourceId symbols := by
  have tokenization := comparisonPattern_tokenization text.toList
  rw [← tokens] at tokenization
  have single : ∀ raw, IsSymbol raw → ∀ character ∈ raw, IsSymbol [character] :=
    fun raw symbol _ => isSymbol_singleton symbol
  have inOrder : symbols.Pairwise fun first second => first.stop ≤ second.start :=
    List.pairwise_map.mp tokenization.pairwise
  have compound : ∀ position character, text.toList[position]? = some character →
      character = '>' ∨ character = '<' → text.toList[position + 1]? = some '=' →
      ∃ symbol ∈ symbols, symbol.token = ⟨position, position + 2, [character, '=']⟩ := by
    intro position character found angle next
    exact List.mem_map.mp (compound_at tokenization found angle next)
  exact {
    tokenization
    unique := fun others other => other.unique tokenization
    inOrder
    sliced := fun symbol member => by
      obtain ⟨same, positive, bounded⟩ := tokenization.slice (List.mem_map_of_mem member)
      rw [String.length_toList] at bounded
      refine ⟨positive, bounded, ?_⟩
      have raw : symbol.raw.toList = (text.toList.take symbol.stop).drop symbol.start := same.symm
      rw [slice, ← raw, String.ofList_toList]
    operators := fun symbol _ => symbol.operatorOfRaw
    covered := fun position character found known => by
      have isolated : IsSymbol [character] := isSymbol_singleton_iff.mpr known
      obtain ⟨token, member, low, high⟩ :=
        (tokenization.covers single position).mpr ⟨character, found, isolated⟩
      obtain ⟨symbol, inSymbols, rfl⟩ := List.mem_map.mp member
      rw [Nat.zero_add] at low high
      refine ⟨symbol, ⟨inSymbols, low, high⟩, ?_⟩
      rintro other ⟨otherMember, otherLow, otherHigh⟩
      exact eq_of_overlap inOrder otherMember inSymbols otherLow otherHigh low high
    nothingElse := fun symbol member position low high => by
      obtain ⟨character, found, isolated⟩ := (tokenization.covers single position).mp
        ⟨symbol.token, List.mem_map_of_mem member, by rwa [Nat.zero_add], by rwa [Nat.zero_add]⟩
      exact ⟨character, isSymbol_singleton_iff.mp isolated, found⟩
    greaterEqual := fun position found next => by
      obtain ⟨symbol, member, same⟩ := compound position '>' found (.inl rfl) next
      exact ⟨symbol, member, congrArg Token.start same, congrArg Token.stop same,
        symbol.operator_of_token same rfl⟩
    lessEqual := fun position found next => by
      obtain ⟨symbol, member, same⟩ := compound position '<' found (.inr rfl) next
      exact ⟨symbol, member, congrArg Token.start same, congrArg Token.stop same,
        symbol.operator_of_token same rfl⟩
    source }

/-- **Comparison symbols are scanned**: for a source field that is not blank, the
scanner returns the one tokenization of the text into its leftmost longest symbols. -/
theorem extractComparisonSymbols_scans (text : String) {sourceField : String}
    (named : blank sourceField = false) (sourceId : Option String) :
    ∃ symbols, extractComparisonSymbols text sourceField sourceId = .ok symbols ∧
      Scanned text sourceField sourceId symbols := by
  obtain ⟨symbols, returned, tokens, source⟩ := extractComparisonSymbols_eq_ok text named sourceId
  exact ⟨symbols, returned, scanned_of_tokens tokens source⟩

/-- Competing symbols of a text are scanned. -/
theorem extractComparisonSymbols_scans_text :
    ∃ symbols, extractComparisonSymbols ">>==<=<" "text" none = .ok symbols ∧
      Scanned ">>==<=<" "text" none symbols :=
  extractComparisonSymbols_scans _ (by decide) none

end BidSystem.Documents
