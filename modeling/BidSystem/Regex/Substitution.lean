import BidSystem.Regex.Pattern
import Mathlib.Data.Nat.Notation
import Mathlib.Tactic.Cases

/-!
# Substitution

`pattern.sub` replaces the matches of a pattern from left to right: at every
position that no earlier match has consumed, the pattern is tried, and a match
is replaced by what a template makes of its groups.  All of this is about
patterns that do not match the empty text.

* `Pattern.sub_induction` — induction along the scan.
* `Pattern.sub_append` — a text that goes on outside of the pattern's classes
  can be cut there.
* `Pattern.begun` — the match that is under way at the end of a text: the
  position is scanned, and all of the text from there on is the beginning of a
  match.  `Pattern.sub_append_of_begun` and `Pattern.sub_append_of_not_begun`
  say what becomes of the text if it goes on.
-/

namespace Regex

universe u

namespace Pattern

variable {α : Type u}

/-- The pattern matches the empty text. -/
def nullable : Pattern α → Bool
  | empty => true
  | one _ => false
  | seq first second => first.nullable && second.nullable
  | alt first second => first.nullable || second.nullable
  | many _ => true
  | optional _ => true
  | group _ body => body.nullable

/-- Other patterns consume something. -/
theorem length_lt_of_mem {pattern : Pattern α} (proper : pattern.nullable = false) {text : List α}
    {found : Match α} (member : found ∈ pattern.ways text) : found.rest.length < text.length := by
  induction pattern generalizing text found with
  | empty => cases proper
  | one accepts =>
      cases text with
      | nil => cases member
      | cons character rest =>
          rw [ways] at member
          split_ifs at member with accepted
          · rw [List.mem_singleton.mp member]
            exact Nat.lt_succ_self _
          · cases member
  | seq first second ihFirst ihSecond =>
      obtain ⟨front, isFront, back⟩ := List.mem_flatMap.mp member
      obtain ⟨last, isLast, rfl⟩ := List.mem_map.mp back
      rw [nullable, Bool.and_eq_false_iff] at proper
      rcases proper with properFirst | properSecond
      · exact Nat.lt_of_le_of_lt (suffix_of_mem isLast).length_le (ihFirst properFirst isFront)
      · exact Nat.lt_of_lt_of_le (@ihSecond properSecond _ last isLast) (suffix_of_mem isFront).length_le
  | alt first second ihFirst ihSecond =>
      rw [nullable, Bool.or_eq_false_iff] at proper
      rcases List.mem_append.mp member with isFirst | isSecond
      · exact ihFirst proper.1 isFirst
      · exact ihSecond proper.2 isSecond
  | many accepts => cases proper
  | optional body ih => cases proper
  | group name body ih =>
      obtain ⟨inner, isInner, rfl⟩ := List.mem_map.mp member
      exact @ih proper text inner isInner

/-- What a template makes of the first match, and the text after it. -/
def replace? (pattern : Pattern α) (template : List (String × List α) → List α) (text : List α) :
    Option (List α × List α) :=
  (pattern.first? text).map fun found => (template found.groups, found.rest)

variable {pattern : Pattern α} {template : List (String × List α) → List α}

theorem suffix_of_replace {text new rest : List α}
    (replaced : pattern.replace? template text = some (new, rest)) : rest <:+ text := by
  obtain ⟨found, isFirst, same⟩ := Option.map_eq_some_iff.mp replaced
  cases same
  exact suffix_of_mem (List.mem_of_mem_head? isFirst)

/-- What a match consumed has been accepted. -/
theorem accepts_of_replace {text new rest : List α}
    (replaced : pattern.replace? template text = some (new, rest)) :
    ∃ front, text = front ++ rest ∧ pattern.Accepts front := by
  obtain ⟨found, isFirst, same⟩ := Option.map_eq_some_iff.mp replaced
  cases same
  exact accepts_of_mem (List.mem_of_mem_head? isFirst)

/-- Something is accepted where there is a match. -/
theorem replace_none_iff {text : List α} :
    pattern.replace? template text = none ↔
      ∀ front rest, text = front ++ rest → ¬ pattern.Accepts front := by
  unfold replace? first?
  rw [Option.map_eq_none_iff, List.head?_eq_none_iff]
  constructor
  · intro none front rest split accepted
    have member : rest ∈ pattern.rests text := mem_rests_iff.mpr ⟨front, split, accepted⟩
    rw [rests, none] at member
    cases member
  · intro refused
    rw [List.eq_nil_iff_forall_not_mem]
    intro found member
    obtain ⟨front, split, accepted⟩ := accepts_of_mem member
    exact refused front _ split accepted

theorem length_lt_of_replace (proper : pattern.nullable = false) {text new rest : List α}
    (replaced : pattern.replace? template text = some (new, rest)) :
    rest.length < text.length := by
  obtain ⟨found, isFirst, same⟩ := Option.map_eq_some_iff.mp replaced
  cases same
  exact length_lt_of_mem proper (List.mem_of_mem_head? isFirst)

theorem ne_nil_of_replace (proper : pattern.nullable = false) {text new rest : List α}
    (replaced : pattern.replace? template text = some (new, rest)) : text ≠ [] := by
  rintro rfl
  exact absurd (length_lt_of_replace proper replaced) (Nat.not_lt_zero _)

theorem suffix_tail_of_replace (proper : pattern.nullable = false) {character : α}
    {others new rest : List α}
    (replaced : pattern.replace? template (character :: others) = some (new, rest)) :
    rest <:+ others := by
  have short := length_lt_of_replace proper replaced
  rcases List.suffix_cons_iff.mp (suffix_of_replace replaced) with whole | inner
  · rw [whole] at short
    exact absurd short (Nat.lt_irrefl _)
  · exact inner

/-- The end of a text is what is left when the rest is dropped. -/
theorem drop_of_suffix {rest text : List α} (ending : rest <:+ text) :
    text.drop (text.length - rest.length) = rest :=
  (List.suffix_iff_eq_drop.mp ending).symm

/-! ## Replacing the matches -/

/-- Replace the matches, with `skip` characters of an earlier match still to pass. -/
def subFrom (pattern : Pattern α) (template : List (String × List α) → List α) :
    ℕ → List α → List α
  | _, [] => []
  | skip + 1, _ :: rest => subFrom pattern template skip rest
  | 0, character :: rest =>
      match pattern.replace? template (character :: rest) with
      | none => character :: subFrom pattern template 0 rest
      | some (new, after) => new ++ subFrom pattern template (rest.length - after.length) rest

/-- `pattern.sub(template, text)`. -/
def sub (pattern : Pattern α) (template : List (String × List α) → List α) (text : List α) :
    List α := subFrom pattern template 0 text

theorem subFrom_eq_drop (skip : ℕ) (text : List α) :
    subFrom pattern template skip text = sub pattern template (text.drop skip) := by
  induction skip generalizing text with
  | zero => rfl
  | succ skip ih =>
      cases text with
      | nil => rfl
      | cons character rest =>
          rw [subFrom, List.drop_succ_cons]
          exact ih rest

@[simp] theorem sub_nil : sub pattern template [] = [] := rfl

/-- A character that starts no match is kept. -/
theorem sub_of_none {character : α} {rest : List α}
    (none : pattern.replace? template (character :: rest) = none) :
    sub pattern template (character :: rest) = character :: sub pattern template rest := by
  rw [sub, subFrom, none]
  rfl

/-- A match is replaced. -/
theorem sub_of_replace (proper : pattern.nullable = false) {text new rest : List α}
    (replaced : pattern.replace? template text = some (new, rest)) :
    sub pattern template text = new ++ sub pattern template rest := by
  cases text with
  | nil => exact absurd rfl (ne_nil_of_replace proper replaced)
  | cons character others =>
      rw [sub, subFrom, replaced]
      dsimp only
      rw [subFrom_eq_drop, drop_of_suffix (suffix_tail_of_replace proper replaced)]

/-- **Induction along the scan.** -/
theorem sub_induction (template : List (String × List α) → List α)
    (proper : pattern.nullable = false) {motive : List α → Prop} (nil : motive [])
    (pass : ∀ character rest, pattern.replace? template (character :: rest) = none →
      motive rest → motive (character :: rest))
    (replace : ∀ text new rest, pattern.replace? template text = some (new, rest) →
      motive rest → motive text)
    (text : List α) : motive text := by
  induction size : text.length using Nat.strongRecOn generalizing text with
  | _ size' ih =>
      cases text with
      | nil => exact nil
      | cons character rest =>
          cases replaced : pattern.replace? template (character :: rest) with
          | none =>
              exact pass character rest replaced (ih rest.length (by rw [← size]; simp) rest rfl)
          | some result =>
              exact replace _ result.1 result.2 replaced
                (ih _ (by rw [← size]; exact length_lt_of_replace proper replaced) _ rfl)

/-- The text's match is replaced in the same way if the text goes on. -/
def Undisturbed (pattern : Pattern α) (template : List (String × List α) → List α)
    (more text : List α) : Prop :=
  pattern.replace? template (text ++ more) =
    (pattern.replace? template text).map fun replaced => (replaced.1, replaced.2 ++ more)

namespace Undisturbed

variable {more : List α}

theorem none {text : List α} (undisturbed : Undisturbed pattern template more text)
    (replaced : pattern.replace? template text = none) :
    pattern.replace? template (text ++ more) = none := by
  unfold Undisturbed at undisturbed
  rw [undisturbed, replaced, Option.map_none]

theorem some {text new rest : List α} (undisturbed : Undisturbed pattern template more text)
    (replaced : pattern.replace? template text = some (new, rest)) :
    pattern.replace? template (text ++ more) = some (new, rest ++ more) := by
  unfold Undisturbed at undisturbed
  rw [undisturbed, replaced, Option.map_some]

/-- A text that goes on outside of the classes is undisturbed. -/
theorem of_stops {within : α → Prop} (overWithin : pattern.Over within) (stops : Stops within more)
    (text : List α) : Undisturbed pattern template more text := by
  unfold Undisturbed replace? first?
  rw [ways_append overWithin stops, List.head?_map, Option.map_map, Option.map_map]
  rfl

/-- A text that is no beginning of a match is undisturbed. -/
theorem of_not_begins {text : List α} (not : ¬ pattern.Begins text) :
    Undisturbed pattern template more text := by
  unfold Undisturbed replace? first?
  rw [ways_append_of_not_begins not, List.head?_map, Option.map_map, Option.map_map]
  rfl

end Undisturbed

/-- **Where no match is disturbed a text can be cut.** -/
theorem sub_append_of_undisturbed (proper : pattern.nullable = false) {text more : List α}
    (undisturbed : ∀ part, part <:+ text → part ≠ [] → Undisturbed pattern template more part) :
    sub pattern template (text ++ more) =
      sub pattern template text ++ sub pattern template more := by
  revert undisturbed
  induction text using sub_induction template proper with
  | nil =>
      intro _
      rfl
  | pass character rest none ih =>
      intro undisturbed
      have kept := (undisturbed _ List.suffix_rfl (List.cons_ne_nil character rest)).none none
      rw [List.cons_append] at kept ⊢
      rw [sub_of_none kept, sub_of_none none,
        ih fun part ending => undisturbed part (ending.trans (List.suffix_cons _ _)),
        List.cons_append]
  | replace text new rest replaced ih =>
      intro undisturbed
      have kept := (undisturbed _ List.suffix_rfl (ne_nil_of_replace proper replaced)).some replaced
      rw [sub_of_replace proper kept, sub_of_replace proper replaced,
        ih fun part ending => undisturbed part (ending.trans (suffix_of_replace replaced)),
        List.append_assoc]

/-- **A text can be cut before a character outside of the classes.** -/
theorem sub_append (proper : pattern.nullable = false) {within : α → Prop}
    (overWithin : pattern.Over within) {more : List α} (stops : Stops within more) (text : List α) :
    sub pattern template (text ++ more) =
      sub pattern template text ++ sub pattern template more :=
  sub_append_of_undisturbed proper fun part _ _ => .of_stops overWithin stops part

/-- A character outside of the classes is kept. -/
theorem sub_cons (proper : pattern.nullable = false) {within : α → Prop}
    (overWithin : pattern.Over within) {character : α} (outside : ¬ within character) (rest : List α) :
    sub pattern template (character :: rest) = character :: sub pattern template rest := by
  have nothing : pattern.replace? template [] = none := by
    cases replaced : pattern.replace? template [] with
    | none => rfl
    | some result => exact absurd rfl (ne_nil_of_replace proper replaced)
  have stops : Stops within (character :: rest) := outside
  exact sub_of_none ((Undisturbed.of_stops overWithin stops []).none nothing)

/-- Substitution only adds what the template writes. -/
theorem mem_sub (proper : pattern.nullable = false) {text : List α} {character : α}
    (member : character ∈ sub pattern template text) :
    character ∈ text ∨ ∃ part new rest, part <:+ text ∧
      pattern.replace? template part = some (new, rest) ∧ character ∈ new := by
  induction text using sub_induction template proper with
  | nil => cases member
  | pass first rest none ih =>
      rw [sub_of_none none] at member
      rcases List.mem_cons.mp member with rfl | inRest
      · exact .inl List.mem_cons_self
      · rcases ih inRest with inText | ⟨part, new, after, ending, replaced, inNew⟩
        · exact .inl (List.mem_cons_of_mem _ inText)
        · exact .inr ⟨part, new, after, ending.trans (List.suffix_cons _ _), replaced, inNew⟩
  | replace text new rest replaced ih =>
      rw [sub_of_replace proper replaced] at member
      rcases List.mem_append.mp member with inNew | inRest
      · exact .inr ⟨text, new, rest, List.suffix_rfl, replaced, inNew⟩
      · rcases ih inRest with inText | ⟨part, new', after, ending, replaced', inNew⟩
        · exact .inl ((suffix_of_replace replaced).subset inText)
        · exact .inr ⟨part, new', after, ending.trans (suffix_of_replace replaced), replaced', inNew⟩

/-- A beginning that the template does not write is kept. -/
theorem prefix_of_prefix_sub (proper : pattern.nullable = false) {word more : List α}
    (unwritten : ∀ text new rest, pattern.replace? template text = some (new, rest) →
      ∃ first others, new = first :: others ∧ first ∉ word) {text : List α}
    (begins : sub pattern template text = word ++ more) :
    ∃ rest, text = word ++ rest ∧ sub pattern template rest = more := by
  induction word generalizing text with
  | nil => exact ⟨text, rfl, begins⟩
  | cons character word ih =>
      cases text with
      | nil => cases begins
      | cons first others =>
          cases replaced : pattern.replace? template (first :: others) with
          | none =>
              rw [sub_of_none replaced, List.cons_append] at begins
              obtain ⟨rfl, further⟩ := List.cons.inj begins
              obtain ⟨rest, rfl, same⟩ := ih (fun text new rest written => by
                obtain ⟨first, others, split, notIn⟩ := unwritten text new rest written
                exact ⟨first, others, split, fun member =>
                  notIn (List.mem_cons_of_mem _ member)⟩) further
              exact ⟨rest, rfl, same⟩
          | some result =>
              obtain ⟨new, rest⟩ := result
              obtain ⟨written, more', rfl, notIn⟩ := unwritten _ _ _ replaced
              rw [sub_of_replace proper replaced, List.cons_append, List.cons_append] at begins
              rw [(List.cons.inj begins).1] at notIn
              exact absurd List.mem_cons_self notIn

/-- **A substitution that is the same on what it has written** has nothing left to do. -/
theorem sub_sub (proper : pattern.nullable = false)
    (passes : ∀ character rest, pattern.replace? template (character :: rest) = none →
      pattern.replace? template (character :: sub pattern template rest) = none)
    (again : ∀ text new rest, pattern.replace? template text = some (new, rest) →
      pattern.replace? template (new ++ sub pattern template rest) =
        some (new, sub pattern template rest))
    (text : List α) :
    sub pattern template (sub pattern template text) = sub pattern template text := by
  induction text using sub_induction template proper with
  | nil => rfl
  | pass character rest none ih => rw [sub_of_none none, sub_of_none (passes _ _ none), ih]
  | replace text new rest replaced ih =>
      rw [sub_of_replace proper replaced, sub_of_replace proper (again _ _ _ replaced), ih]

/-- A text without matches is kept. -/
theorem sub_of_no_match {text : List α}
    (noMatch : ∀ part, part <:+ text → pattern.replace? template part = none) :
    sub pattern template text = text := by
  induction text with
  | nil => rfl
  | cons character rest ih =>
      rw [sub_of_none (noMatch _ List.suffix_rfl),
        ih fun part ending => noMatch part (ending.trans (List.suffix_cons _ _))]

/-! ## The match under way at the end of a text -/

/-- The scan of `begun`, with `skip` characters of an earlier match still to pass. -/
def begunFrom (pattern : Pattern α) (template : List (String × List α) → List α)
    (beginning : List α → Bool) : ℕ → List α → Option (List α × List α)
  | _, [] => none
  | skip + 1, _ :: rest => begunFrom pattern template beginning skip rest
  | 0, character :: rest =>
      if beginning (character :: rest) then some ([], character :: rest)
      else
        match pattern.replace? template (character :: rest) with
        | none =>
            (begunFrom pattern template beginning 0 rest).map fun under =>
              (character :: under.1, under.2)
        | some (new, after) =>
            (begunFrom pattern template beginning (rest.length - after.length) rest).map
              fun under => (new ++ under.1, under.2)

/-- The match that is under way at the end of a text, after what has been
written before it. -/
def begun (pattern : Pattern α) (template : List (String × List α) → List α)
    (beginning : List α → Bool) (text : List α) : Option (List α × List α) :=
  begunFrom pattern template beginning 0 text

variable {beginning : List α → Bool}

theorem begunFrom_eq_drop (skip : ℕ) (text : List α) :
    begunFrom pattern template beginning skip text =
      begun pattern template beginning (text.drop skip) := by
  induction skip generalizing text with
  | zero => rfl
  | succ skip ih =>
      cases text with
      | nil => rfl
      | cons character rest =>
          rw [begunFrom, List.drop_succ_cons]
          exact ih rest

theorem begun_of_beginning {text : List α} (nonempty : text ≠ []) (begins : beginning text = true) :
    begun pattern template beginning text = some ([], text) := by
  cases text with
  | nil => exact absurd rfl nonempty
  | cons character rest => rw [begun, begunFrom, if_pos begins]

theorem begun_of_none {character : α} {rest : List α}
    (other : beginning (character :: rest) = false)
    (none : pattern.replace? template (character :: rest) = none) :
    begun pattern template beginning (character :: rest) =
      (begun pattern template beginning rest).map fun under =>
        (character :: under.1, under.2) := by
  rw [begun, begunFrom, other, none]
  rfl

theorem begun_of_replace (proper : pattern.nullable = false) {text new rest : List α}
    (other : beginning text = false)
    (replaced : pattern.replace? template text = some (new, rest)) :
    begun pattern template beginning text =
      (begun pattern template beginning rest).map fun under => (new ++ under.1, under.2) := by
  cases text with
  | nil => exact absurd rfl (ne_nil_of_replace proper replaced)
  | cons character others =>
      rw [begun, begunFrom, other, replaced]
      dsimp only
      rw [begunFrom_eq_drop, drop_of_suffix (suffix_tail_of_replace proper replaced)]
      rfl

/-- The match under way is at the end of the text. -/
theorem of_begun (proper : pattern.nullable = false) {text written tail : List α}
    (isBegun : begun pattern template beginning text = some (written, tail)) :
    tail <:+ text ∧ beginning tail = true := by
  revert written
  induction text using sub_induction template proper with
  | nil =>
      intro written isBegun
      cases isBegun
  | pass character rest none ih =>
      intro written isBegun
      cases begins : beginning (character :: rest) with
      | true =>
          rw [begun_of_beginning (List.cons_ne_nil _ _) begins] at isBegun
          cases isBegun
          exact ⟨List.suffix_rfl, begins⟩
      | false =>
          rw [begun_of_none begins none, Option.map_eq_some_iff] at isBegun
          obtain ⟨⟨front, last⟩, inner, same⟩ := isBegun
          obtain ⟨rfl, rfl⟩ := Prod.mk.inj same
          obtain ⟨ending, atTail⟩ := ih inner
          exact ⟨ending.trans (List.suffix_cons _ _), atTail⟩
  | replace text new rest replaced ih =>
      intro written isBegun
      cases begins : beginning text with
      | true =>
          rw [begun_of_beginning (ne_nil_of_replace proper replaced) begins] at isBegun
          cases isBegun
          exact ⟨List.suffix_rfl, begins⟩
      | false =>
          rw [begun_of_replace proper begins replaced, Option.map_eq_some_iff] at isBegun
          obtain ⟨⟨front, last⟩, inner, same⟩ := isBegun
          obtain ⟨rfl, rfl⟩ := Prod.mk.inj same
          obtain ⟨ending, atTail⟩ := ih inner
          exact ⟨ending.trans (suffix_of_replace replaced), atTail⟩

/-- Beginnings that do not occur can be added. -/
theorem begun_or (proper : pattern.nullable = false) {text : List α}
    (notBegun : begun pattern template beginning text = none) (other : List α → Bool) :
    begun pattern template (fun part => beginning part || other part) text =
      begun pattern template other text := by
  revert notBegun
  induction text using sub_induction template proper with
  | nil =>
      intro _
      rfl
  | pass character rest none ih =>
      intro notBegun
      cases begins : beginning (character :: rest) with
      | true =>
          rw [begun_of_beginning (List.cons_ne_nil _ _) begins] at notBegun
          cases notBegun
      | false =>
          rw [begun_of_none begins none, Option.map_eq_none_iff] at notBegun
          cases otherBegins : other (character :: rest) with
          | true =>
              rw [begun_of_beginning (List.cons_ne_nil _ _) otherBegins,
                begun_of_beginning (List.cons_ne_nil _ _) (by rw [begins, otherBegins]; rfl)]
          | false =>
              rw [begun_of_none otherBegins none,
                begun_of_none (by rw [begins, otherBegins]; rfl) none, ih notBegun]
  | replace text new rest replaced ih =>
      intro notBegun
      have nonempty := ne_nil_of_replace proper replaced
      cases begins : beginning text with
      | true =>
          rw [begun_of_beginning nonempty begins] at notBegun
          cases notBegun
      | false =>
          rw [begun_of_replace proper begins replaced, Option.map_eq_none_iff] at notBegun
          cases otherBegins : other text with
          | true =>
              rw [begun_of_beginning nonempty otherBegins,
                begun_of_beginning nonempty (by rw [begins, otherBegins]; rfl)]
          | false =>
              rw [begun_of_replace proper otherBegins replaced,
                begun_of_replace proper (by rw [begins, otherBegins]; rfl) replaced, ih notBegun]

/-- **What goes on after a match under way.**  If the matches before it are not
disturbed, what has been written stays, and the match takes the new text. -/
theorem sub_append_of_begun (proper : pattern.nullable = false) {text written tail more : List α}
    (isBegun : begun pattern template beginning text = some (written, tail))
    (undisturbed : ∀ part, tail <:+ part → part <:+ text → beginning part = false →
      Undisturbed pattern template more part) :
    sub pattern template (text ++ more) = written ++ sub pattern template (tail ++ more) := by
  revert written undisturbed
  induction text using sub_induction template proper with
  | nil =>
      intro written isBegun _
      cases isBegun
  | pass character rest none ih =>
      intro written isBegun undisturbed
      cases begins : beginning (character :: rest) with
      | true =>
          rw [begun_of_beginning (List.cons_ne_nil _ _) begins] at isBegun
          cases isBegun
          rfl
      | false =>
          rw [begun_of_none begins none, Option.map_eq_some_iff] at isBegun
          obtain ⟨⟨front, last⟩, inner, same⟩ := isBegun
          obtain ⟨rfl, rfl⟩ := Prod.mk.inj same
          have result := ih inner fun part after inside =>
            undisturbed part after (inside.trans (List.suffix_cons _ _))
          have whole : last <:+ character :: rest :=
            (of_begun proper inner).1.trans (List.suffix_cons _ _)
          have kept := (undisturbed _ whole List.suffix_rfl begins).none none
          rw [List.cons_append] at kept ⊢
          rw [sub_of_none kept, result, List.cons_append]
  | replace text new rest replaced ih =>
      intro written isBegun undisturbed
      cases begins : beginning text with
      | true =>
          rw [begun_of_beginning (ne_nil_of_replace proper replaced) begins] at isBegun
          cases isBegun
          rfl
      | false =>
          rw [begun_of_replace proper begins replaced, Option.map_eq_some_iff] at isBegun
          obtain ⟨⟨front, last⟩, inner, same⟩ := isBegun
          obtain ⟨rfl, rfl⟩ := Prod.mk.inj same
          have result := ih inner fun part after inside =>
            undisturbed part after (inside.trans (suffix_of_replace replaced))
          have whole : last <:+ text := (of_begun proper inner).1.trans (suffix_of_replace replaced)
          have kept := (undisturbed _ whole List.suffix_rfl begins).some replaced
          rw [sub_of_replace proper kept, result, List.append_assoc]

/-- **Where no match is under way a text can be cut.** -/
theorem sub_append_of_not_begun (proper : pattern.nullable = false) {text more : List α}
    (notBegun : begun pattern template beginning text = none)
    (undisturbed : ∀ part, part <:+ text → part ≠ [] → beginning part = false →
      Undisturbed pattern template more part) :
    sub pattern template (text ++ more) =
      sub pattern template text ++ sub pattern template more := by
  revert notBegun undisturbed
  induction text using sub_induction template proper with
  | nil =>
      intro _ _
      rfl
  | pass character rest none ih =>
      intro notBegun undisturbed
      cases begins : beginning (character :: rest) with
      | true =>
          rw [begun_of_beginning (List.cons_ne_nil _ _) begins] at notBegun
          cases notBegun
      | false =>
          rw [begun_of_none begins none, Option.map_eq_none_iff] at notBegun
          have kept := (undisturbed _ List.suffix_rfl (List.cons_ne_nil _ _) begins).none none
          rw [List.cons_append] at kept ⊢
          rw [sub_of_none kept, sub_of_none none,
            ih notBegun fun part inside =>
              undisturbed part (inside.trans (List.suffix_cons _ _)), List.cons_append]
  | replace text new rest replaced ih =>
      intro notBegun undisturbed
      have nonempty := ne_nil_of_replace proper replaced
      cases begins : beginning text with
      | true =>
          rw [begun_of_beginning nonempty begins] at notBegun
          cases notBegun
      | false =>
          rw [begun_of_replace proper begins replaced, Option.map_eq_none_iff] at notBegun
          have kept := (undisturbed _ List.suffix_rfl nonempty begins).some replaced
          rw [sub_of_replace proper kept, sub_of_replace proper replaced,
            ih notBegun fun part inside =>
              undisturbed part (inside.trans (suffix_of_replace replaced)), List.append_assoc]

/-- A position is scanned if no match goes over it. -/
theorem begun_isSome (proper : pattern.nullable = false) {text tail : List α}
    (ending : tail <:+ text) (nonempty : tail ≠ []) (begins : beginning tail = true)
    (notOver : ∀ part new rest, tail <:+ part →
      pattern.replace? template part = some (new, rest) → beginning part = false → tail <:+ rest) :
    (begun pattern template beginning text).isSome = true := by
  induction text using sub_induction template proper with
  | nil => exact absurd (List.suffix_nil.mp ending) nonempty
  | pass character rest none ih =>
      cases here : beginning (character :: rest) with
      | true =>
          rw [begun_of_beginning (List.cons_ne_nil _ _) here]
          rfl
      | false =>
          rw [begun_of_none here none, Option.isSome_map]
          rcases List.suffix_cons_iff.mp ending with rfl | inner
          · rw [begins] at here
            cases here
          · exact ih inner
  | replace text new rest replaced ih =>
      cases here : beginning text with
      | true =>
          rw [begun_of_beginning (ne_nil_of_replace proper replaced) here]
          rfl
      | false =>
          rw [begun_of_replace proper here replaced, Option.isSome_map]
          exact ih (notOver _ _ _ ending replaced here)

end Pattern

end Regex
