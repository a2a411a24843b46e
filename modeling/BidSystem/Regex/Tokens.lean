import BidSystem.Regex.Substitution

/-!
# Finding the matches in a text

`Pattern.finditer` lists the matches of a pattern from left to right.  What it
should find is said without a matcher: a `Tokenization` passes a character only
where no symbol begins, and otherwise takes the longest symbol that begins there.

* `Tokenization.unique` — a text has one tokenization at most.
* `Tokenization.pairwise`, `Tokenization.slice` — the tokens are in order, do not
  overlap, and are what the text has at their place.
* `Tokenization.covers` — if the characters of symbols are symbols, the tokens
  cover exactly these characters.
* `Pattern.tokenization_finditer` — a pattern whose first match is its longest one
  finds the tokenization into what it accepts.
* `Pattern.longest_anyOf` — alternatives prefer the longest match if none is the
  beginning of a later one.
-/

namespace Regex

universe u

variable {α : Type u}

/-- A match in a text: its span and what it matched. -/
structure Token (α : Type u) where
  start : ℕ
  stop : ℕ
  raw : List α
deriving DecidableEq

/-- The leftmost and longest tokens of a text that begins at an offset. -/
inductive Tokenization (Symbol : List α → Prop) : (offset : ℕ) → List α → List (Token α) → Prop
  | done (offset : ℕ) : Tokenization Symbol offset [] []
  | pass {offset : ℕ} {character : α} {rest : List α} {tokens : List (Token α)}
      (nothing : ∀ raw, Symbol raw → ¬ raw <+: character :: rest)
      (later : Tokenization Symbol (offset + 1) rest tokens) :
      Tokenization Symbol offset (character :: rest) tokens
  | take {offset : ℕ} {raw rest : List α} {tokens : List (Token α)} (symbol : Symbol raw)
      (proper : raw ≠ []) (longest : ∀ other, Symbol other → other <+: raw ++ rest →
        other.length ≤ raw.length)
      (later : Tokenization Symbol (offset + raw.length) rest tokens) :
      Tokenization Symbol offset (raw ++ rest) (⟨offset, offset + raw.length, raw⟩ :: tokens)

namespace Tokenization

variable {Symbol : List α → Prop} {offset : ℕ} {text : List α} {tokens : List (Token α)}

/-- **A text has one tokenization.** -/
theorem unique {others : List (Token α)} (first : Tokenization Symbol offset text tokens)
    (second : Tokenization Symbol offset text others) : tokens = others := by
  induction first generalizing others with
  | done offset =>
      generalize same : ([] : List α) = text at second
      cases second with
      | done => rfl
      | pass nothing later => cases same
      | take symbol proper longest later =>
          exact absurd (List.append_eq_nil_iff.mp same.symm).1 proper
  | @pass offset character rest tokens nothing later ih =>
      generalize same : character :: rest = text at second
      cases second with
      | done => cases same
      | pass nothing' later' =>
          cases same
          exact ih later'
      | take symbol proper longest later' =>
          exact absurd ⟨_, same.symm⟩ (nothing _ symbol)
  | @take offset raw rest tokens symbol proper longest later ih =>
      generalize same : raw ++ rest = text at second
      cases second with
      | done => exact absurd (List.append_eq_nil_iff.mp same).1 proper
      | pass nothing' later' => exact absurd ⟨_, same⟩ (nothing' _ symbol)
      | @take _ raw' rest' _ symbol' proper' longest' later' =>
          have shorter : raw.length ≤ raw'.length := longest' raw symbol ⟨rest, same⟩
          have longer : raw'.length ≤ raw.length := longest raw' symbol' ⟨rest', same.symm⟩
          obtain ⟨rfl, rfl⟩ := List.append_inj same (Nat.le_antisymm shorter longer)
          rw [ih later']

/-- Every token is a symbol at its place in the text. -/
theorem mem (found : Tokenization Symbol offset text tokens) {token : Token α}
    (member : token ∈ tokens) :
    Symbol token.raw ∧ token.raw ≠ [] ∧
      ∃ before rest, text = before ++ (token.raw ++ rest) ∧ token.start = offset + before.length ∧
        token.stop = token.start + token.raw.length := by
  induction found with
  | done offset => cases member
  | @pass offset character rest tokens nothing later ih =>
      obtain ⟨symbol, proper, before, rest, rfl, start, stop⟩ := ih member
      refine ⟨symbol, proper, character :: before, rest, rfl, ?_, stop⟩
      rw [start, List.length_cons, Nat.add_assoc, Nat.add_comm 1]
  | @take offset raw rest tokens symbol proper longest later ih =>
      rcases List.mem_cons.mp member with rfl | member
      · exact ⟨symbol, proper, [], rest, rfl, rfl, rfl⟩
      · obtain ⟨symbol, proper, before, rest, rfl, start, stop⟩ := ih member
        refine ⟨symbol, proper, raw ++ before, rest, (List.append_assoc _ _ _).symm, ?_, stop⟩
        rw [start, List.length_append, Nat.add_assoc]

/-- A token is what the text has at its place. -/
theorem slice (found : Tokenization Symbol 0 text tokens) {token : Token α}
    (member : token ∈ tokens) :
    (text.take token.stop).drop token.start = token.raw ∧ token.start < token.stop ∧
      token.stop ≤ text.length := by
  obtain ⟨-, proper, before, rest, rfl, start, stop⟩ := found.mem member
  have positive := List.length_pos_iff.mpr proper
  rw [Nat.zero_add] at start
  refine ⟨?_, by omega, ?_⟩
  · rw [stop, start, List.take_length_add_append, List.drop_left, List.take_left]
  · rw [stop, start, List.length_append, List.length_append]
    omega

/-- Tokens begin at the offset or after it. -/
theorem offset_le (found : Tokenization Symbol offset text tokens) {token : Token α}
    (member : token ∈ tokens) : offset ≤ token.start := by
  obtain ⟨-, -, before, rest, -, start, -⟩ := found.mem member
  exact start ▸ Nat.le_add_right _ _

/-- **Tokens are in order and do not overlap.** -/
theorem pairwise (found : Tokenization Symbol offset text tokens) :
    tokens.Pairwise fun first second => first.stop ≤ second.start := by
  induction found with
  | done offset => exact List.Pairwise.nil
  | pass nothing later ih => exact ih
  | take symbol proper longest later ih =>
      exact List.pairwise_cons.mpr ⟨fun token member => later.offset_le member, ih⟩

/-- A token at the place of a symbol is at least as long. -/
theorem longest_at (found : Tokenization Symbol offset text tokens) {token : Token α}
    (member : token ∈ tokens) {before rest other : List α}
    (place : token.start = offset + before.length) (split : text = before ++ rest)
    (symbol : Symbol other) (begins : other <+: rest) : other.length ≤ token.raw.length := by
  induction found generalizing before with
  | done offset => cases member
  | @pass offset character others tokens nothing later ih =>
      cases before with
      | nil =>
          have after := later.offset_le member
          simp only [List.length_nil] at place
          omega
      | cons first before =>
          obtain ⟨rfl, rfl⟩ := List.cons.inj split
          exact ih member (by rw [place, List.length_cons]; omega) rfl
  | @take offset raw others tokens symbol' proper longest later ih =>
      rcases List.mem_cons.mp member with rfl | member
      · have nothing : before = [] := List.length_eq_zero_iff.mp (by
          have place : offset = offset + before.length := place
          omega)
        rw [nothing, List.nil_append] at split
        exact longest other symbol (split ▸ begins)
      · have after := later.offset_le member
        obtain ⟨before', rfl⟩ : raw <+: before := by
          refine List.prefix_of_prefix_length_le ⟨others, split⟩ ⟨rest, rfl⟩ ?_
          omega
        rw [List.append_assoc] at split
        rw [List.length_append] at place
        exact ih member (by omega) (List.append_cancel_left split)

/-- **Tokens cover the characters of symbols**, if these are symbols themselves. -/
theorem covers (found : Tokenization Symbol offset text tokens)
    (single : ∀ raw, Symbol raw → ∀ character ∈ raw, Symbol [character]) (position : ℕ) :
    (∃ token ∈ tokens, token.start ≤ offset + position ∧ offset + position < token.stop) ↔
      ∃ character, text[position]? = some character ∧ Symbol [character] := by
  induction found generalizing position with
  | done offset => simp
  | @pass offset character rest tokens nothing later ih =>
      cases position with
      | zero =>
          constructor
          · rintro ⟨token, member, low, -⟩
            have after := later.offset_le member
            omega
          · rintro ⟨other, same, symbol⟩
            cases Option.some.inj same
            exact absurd ⟨rest, rfl⟩ (nothing _ symbol)
      | succ position =>
          have shifted : offset + (position + 1) = offset + 1 + position := by omega
          rw [shifted, ih position, List.getElem?_cons_succ]
  | @take offset raw rest tokens symbol proper longest later ih =>
      by_cases inside : position < raw.length
      · rw [List.getElem?_append_left inside, List.getElem?_eq_getElem inside]
        refine iff_of_true ⟨_, List.mem_cons_self, Nat.le_add_right _ _, ?_⟩ ⟨_, rfl, ?_⟩
        · exact Nat.add_lt_add_left inside offset
        · exact single raw symbol _ (List.getElem_mem inside)
      · have split : offset + position = offset + raw.length + (position - raw.length) := by omega
        rw [List.getElem?_append_right (Nat.not_lt.mp inside), ← ih, ← split]
        constructor
        · rintro ⟨token, member, low, high⟩
          rcases List.mem_cons.mp member with rfl | member
          · exact absurd (Nat.lt_of_add_lt_add_left high) inside
          · exact ⟨token, member, low, high⟩
        · rintro ⟨token, member, low, high⟩
          exact ⟨token, List.mem_cons_of_mem _ member, low, high⟩

end Tokenization

/-! ## The matcher -/

namespace Pattern

variable {pattern : Pattern α}

/-- List the matches, with `skip` characters of an earlier match still to pass. -/
def findFrom (pattern : Pattern α) : (offset skip : ℕ) → List α → List (Token α)
  | _, _, [] => []
  | offset, skip + 1, _ :: rest => findFrom pattern (offset + 1) skip rest
  | offset, 0, character :: rest =>
      match pattern.first? (character :: rest) with
      | none => findFrom pattern (offset + 1) 0 rest
      | some found =>
          let consumed := rest.length + 1 - found.rest.length
          ⟨offset, offset + consumed, (character :: rest).take consumed⟩ ::
            findFrom pattern (offset + 1) (consumed - 1) rest

/-- `pattern.finditer(text)`, for a pattern that does not match an empty text. -/
def finditer (pattern : Pattern α) (text : List α) : List (Token α) := findFrom pattern 0 0 text

/-- The first match is the longest one. -/
def Longest (pattern : Pattern α) : Prop :=
  ∀ text found, pattern.first? text = some found →
    ∀ other, pattern.Accepts other → other <+: text → other.length + found.rest.length ≤ text.length

theorem findFrom_eq_drop (offset skip : ℕ) (text : List α) :
    findFrom pattern offset skip text =
      findFrom pattern (offset + min skip text.length) 0 (text.drop skip) := by
  induction skip generalizing offset text with
  | zero => simp
  | succ skip ih =>
      cases text with
      | nil => rfl
      | cons character rest =>
          rw [findFrom, ih, List.drop_succ_cons, List.length_cons, Nat.add_min_add_right,
            Nat.add_assoc, Nat.add_comm 1]

/-- Nothing is accepted where there is no match. -/
theorem first_none_iff {text : List α} :
    pattern.first? text = none ↔ ∀ raw, pattern.Accepts raw → ¬ raw <+: text := by
  rw [first?, List.head?_eq_none_iff]
  constructor
  · rintro none raw accepted ⟨rest, split⟩
    have member : rest ∈ pattern.rests text := mem_rests_iff.mpr ⟨raw, split.symm, accepted⟩
    rw [rests, none] at member
    cases member
  · intro refused
    rw [List.eq_nil_iff_forall_not_mem]
    intro found member
    obtain ⟨front, split, accepted⟩ := accepts_of_mem member
    exact refused front accepted ⟨_, split.symm⟩

/-- After a match, the scan goes on behind it. -/
theorem findFrom_of_some (proper : pattern.nullable = false) {text : List α} {found : Match α}
    (isFirst : pattern.first? text = some found) (offset : ℕ) :
    ∃ raw, text = raw ++ found.rest ∧ raw ≠ [] ∧ pattern.Accepts raw ∧
      findFrom pattern offset 0 text =
        ⟨offset, offset + raw.length, raw⟩ ::
          findFrom pattern (offset + raw.length) 0 found.rest := by
  have member : found ∈ pattern.ways text := List.mem_of_mem_head? isFirst
  obtain ⟨raw, split, accepted⟩ := accepts_of_mem member
  cases raw with
  | nil =>
      have shorter := length_lt_of_mem proper member
      rw [split, List.nil_append] at shorter
      exact absurd shorter (Nat.lt_irrefl _)
  | cons character raw =>
      refine ⟨character :: raw, split, List.cons_ne_nil _ _, accepted, ?_⟩
      rw [List.cons_append] at split
      subst split
      have consumed : (raw ++ found.rest).length + 1 - found.rest.length = raw.length + 1 := by
        rw [List.length_append]
        omega
      rw [findFrom, isFirst]
      dsimp only
      rw [consumed, List.take_succ_cons, List.take_left, Nat.add_sub_cancel, findFrom_eq_drop,
        List.drop_left, List.length_append, Nat.min_eq_left (Nat.le_add_right _ _),
        List.length_cons, Nat.add_assoc, Nat.add_comm 1]

/-- **A pattern that prefers its longest match finds the tokenization.** -/
theorem tokenization_findFrom (proper : pattern.nullable = false) (longest : pattern.Longest)
    (offset : ℕ) (text : List α) :
    Tokenization pattern.Accepts offset text (findFrom pattern offset 0 text) := by
  induction size : text.length using Nat.strongRecOn generalizing offset text with
  | _ size' ih =>
      cases isFirst : pattern.first? text with
      | none =>
          cases text with
          | nil => exact .done offset
          | cons character rest =>
              rw [findFrom, isFirst]
              exact .pass (first_none_iff.mp isFirst) (ih rest.length (by rw [← size]; simp) _ _ rfl)
      | some found =>
          obtain ⟨raw, split, nonempty, accepted, scan⟩ := findFrom_of_some proper isFirst offset
          rw [scan]
          have least := longest text found isFirst
          rw [split] at least ⊢
          refine .take accepted nonempty (fun other symbol begins => ?_) (ih _ ?_ _ _ rfl)
          · have bound := least other symbol begins
            rw [List.length_append] at bound
            omega
          · rw [← size, split, List.length_append]
            exact Nat.lt_add_of_pos_left (List.length_pos_iff.mpr nonempty)

/-- `finditer` lists the tokenization. -/
theorem tokenization_finditer (proper : pattern.nullable = false) (longest : pattern.Longest)
    (text : List α) : Tokenization pattern.Accepts 0 text (pattern.finditer text) :=
  tokenization_findFrom proper longest 0 text

/-! ## Alternatives of fixed texts -/

section Literals

variable [DecidableEq α]

/-- The pattern of one text. -/
def literal (raw : List α) : Pattern α := word (raw.map fun character other => other == character)

theorem accepts_literal {raw text : List α} : (literal raw).Accepts text ↔ text = raw := by
  induction raw generalizing text with
  | nil => rfl
  | cons character raw ih =>
      constructor
      · rintro ⟨front, back, rfl, ⟨other, same, rfl⟩, accepted⟩
        rw [show back = raw from ih.mp accepted, eq_of_beq same, List.singleton_append]
      · rintro rfl
        exact ⟨[character], raw, rfl, ⟨character, beq_self_eq_true _, rfl⟩, ih.mpr rfl⟩

theorem accepts_anyOf {raws : List (List α)} {last text : List α} :
    (anyOf (raws.map literal) (literal last)).Accepts text ↔ text ∈ raws ++ [last] := by
  induction raws with
  | nil => rw [List.map_nil, anyOf, accepts_literal, List.nil_append, List.mem_singleton]
  | cons raw raws ih =>
      have first : (literal raw).Accepts text ↔ text = raw := accepts_literal
      rw [List.map_cons, anyOf, List.cons_append, List.mem_cons, ← ih, ← first]
      rfl

omit [DecidableEq α] in
theorem first_alt (first second : Pattern α) (text : List α) :
    (alt first second).first? text = (first.first? text).or (second.first? text) := by
  rw [first?, ways, List.head?_append]
  rfl

theorem longest_literal (raw : List α) : (literal raw).Longest := by
  intro text found isFirst other accepted begins
  obtain ⟨front, split, same⟩ := accepts_of_mem (List.mem_of_mem_head? isFirst)
  rw [split, accepts_literal.mp accepted, accepts_literal.mp same, List.length_append]

/-- **Alternatives prefer the longest match** if none is the beginning of a later one. -/
theorem longest_anyOf {raws : List (List α)} {last : List α}
    (ordered : (raws ++ [last]).Pairwise fun first second => first <+: second → first = second) :
    (anyOf (raws.map literal) (literal last)).Longest := by
  induction raws with
  | nil => exact longest_literal last
  | cons raw raws ih =>
      obtain ⟨notBegun, ordered⟩ := List.pairwise_cons.mp ordered
      intro text found isFirst other accepted begins
      rw [List.map_cons, anyOf, first_alt] at isFirst
      have either : other = raw ∨ (anyOf (raws.map literal) (literal last)).Accepts other :=
        accepted.imp_left accepts_literal.mp
      cases inFirst : (literal raw).first? text with
      | none =>
          rw [inFirst, Option.none_or] at isFirst
          rcases either with rfl | later
          · exact absurd begins (first_none_iff.mp inFirst other (accepts_literal.mpr rfl))
          · exact ih ordered text found isFirst other later begins
      | some found' =>
          rw [inFirst, Option.some_or] at isFirst
          cases isFirst
          rcases either with rfl | later
          · exact longest_literal other text found inFirst other (accepts_literal.mpr rfl) begins
          · obtain ⟨front, split, same⟩ := accepts_of_mem (List.mem_of_mem_head? inFirst)
            obtain rfl := accepts_literal.mp same
            rcases Nat.le_total other.length front.length with shorter | longer
            · rw [split, List.length_append]
              exact Nat.add_le_add_right shorter _
            · have whole := notBegun other (accepts_anyOf.mp later)
                (List.prefix_of_prefix_length_le ⟨_, split.symm⟩ begins longer)
              rw [split, whole, List.length_append]

end Literals

end Pattern

end Regex
