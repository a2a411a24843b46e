import Mathlib.Data.List.Basic
import Mathlib.Data.List.TakeWhile
import Mathlib.Tactic.SplitIfs

/-!
# Backtracking patterns

Regular expressions as a backtracking matcher reads them: `Pattern.ways`
lists the ways to match at the beginning of a text in the order in which the
matcher tries them, and the first one is the match.  Repetitions are of a
character class, and greedy; there are no anchors and no look-around.

* `Pattern.mem_rests_iff` — the ways to match are the ways to split a text after
  something of the pattern's language, `Pattern.Accepts`.
* `Pattern.Begins` and `Pattern.ways_append_of_not_begins` — the matcher looks
  beyond the end of a text only if it is the beginning of something accepted.
* `Pattern.Over` and `Pattern.ways_append` — a text that goes on with a
  character outside of all classes of the pattern is matched as if it ended
  there.
* `Pattern.ways_word`, `Pattern.ways_many_one` — words, and runs that are
  closed by a character outside of their class, match in one way at most.
-/

namespace Regex

universe u

/-- A pattern over an alphabet. -/
inductive Pattern (α : Type u) where
  | empty
  /-- One character of a class. -/
  | one (accepts : α → Bool)
  | seq (first second : Pattern α)
  /-- `first|second`. -/
  | alt (first second : Pattern α)
  /-- `[...]*`. -/
  | many (accepts : α → Bool)
  /-- `(?:...)?`. -/
  | optional (body : Pattern α)
  /-- `(?P<name>...)`. -/
  | group (name : String) (body : Pattern α)

/-- The groups that a match has filled, and the text after it. -/
structure Match (α : Type u) where
  groups : List (String × List α)
  rest : List α

namespace Match

variable {α : Type u}

/-- The match in a text that goes on. -/
def append (found : Match α) (more : List α) : Match α :=
  { found with rest := found.rest ++ more }

@[simp] theorem append_rest (found : Match α) (more : List α) :
    (found.append more).rest = found.rest ++ more := rfl

@[simp] theorem append_groups (found : Match α) (more : List α) :
    (found.append more).groups = found.groups := rfl

end Match

namespace Pattern

variable {α : Type u}

/-- What a greedy repetition leaves, the longest run first. -/
@[grind =] def manyRests (accepts : α → Bool) : List α → List (List α)
  | [] => [[]]
  | character :: rest =>
      if accepts character then manyRests accepts rest ++ [character :: rest]
      else [character :: rest]

/-- The ways to match at the beginning of a text, in the order they are tried. -/
@[grind =] def ways : Pattern α → List α → List (Match α)
  | empty, text => [⟨[], text⟩]
  | one _, [] => []
  | one accepts, character :: rest => if accepts character then [⟨[], rest⟩] else []
  | seq first second, text =>
      (first.ways text).flatMap fun front =>
        (second.ways front.rest).map fun back => ⟨front.groups ++ back.groups, back.rest⟩
  | alt first second, text => first.ways text ++ second.ways text
  | many accepts, text => (manyRests accepts text).map fun rest => ⟨[], rest⟩
  | optional body, text => body.ways text ++ [⟨[], text⟩]
  | group name body, text =>
      (body.ways text).map fun found =>
        ⟨(name, text.take (text.length - found.rest.length)) :: found.groups, found.rest⟩

/-- `pattern.match`: the first way. -/
def first? (pattern : Pattern α) (text : List α) : Option (Match α) :=
  (pattern.ways text).head?

/-- `[...]+`. -/
def plus (accepts : α → Bool) : Pattern α := .seq (.one accepts) (.many accepts)

/-- One class after the other. -/
def word : List (α → Bool) → Pattern α
  | [] => .empty
  | accepts :: classes => .seq (.one accepts) (word classes)

/-- The first of several alternatives that matches. -/
def anyOf : List (Pattern α) → Pattern α → Pattern α
  | [], last => last
  | pattern :: others, last => .alt pattern (anyOf others last)

/-! ## The language of a pattern -/

/-- The pattern accepts a whole text. -/
@[grind =] def Accepts : Pattern α → List α → Prop
  | empty, text => text = []
  | one accepts, text => ∃ character, accepts character = true ∧ text = [character]
  | seq first second, text =>
      ∃ front back, text = front ++ back ∧ first.Accepts front ∧ second.Accepts back
  | alt first second, text => first.Accepts text ∨ second.Accepts text
  | many accepts, text => ∀ character ∈ text, accepts character = true
  | optional body, text => body.Accepts text ∨ text = []
  | group _ body, text => body.Accepts text

theorem mem_manyRests_iff {accepts : α → Bool} {text rest : List α} :
    rest ∈ manyRests accepts text ↔
      ∃ run, text = run ++ rest ∧ ∀ character ∈ run, accepts character = true := by
  induction text with
  | nil =>
      rw [manyRests, List.mem_singleton]
      constructor
      · rintro rfl
        exact ⟨[], rfl, nofun⟩
      · rintro ⟨run, split, -⟩
        exact (List.append_eq_nil_iff.mp split.symm).2
  | cons character others ih =>
      rw [manyRests]
      constructor
      · intro member
        split_ifs at member with accepted
        · rcases List.mem_append.mp member with longer | whole
          · obtain ⟨run, rfl, inRun⟩ := ih.mp longer
            exact ⟨character :: run, rfl, List.forall_mem_cons.mpr ⟨accepted, inRun⟩⟩
          · exact ⟨[], (List.mem_singleton.mp whole).symm, nofun⟩
        · exact ⟨[], (List.mem_singleton.mp member).symm, nofun⟩
      · rintro ⟨run, split, inRun⟩
        cases run with
        | nil =>
            rw [← (show character :: others = rest from split)]
            split_ifs <;> simp
        | cons first run' =>
            obtain ⟨rfl, rfl⟩ := List.cons.inj split
            obtain ⟨accepted, inRest⟩ := List.forall_mem_cons.mp inRun
            rw [if_pos accepted]
            exact List.mem_append_left _ (ih.mpr ⟨run', rfl, inRest⟩)

/-- What the ways to match leave. -/
def rests (pattern : Pattern α) (text : List α) : List (List α) :=
  (pattern.ways text).map Match.rest

@[simp] theorem rests_seq (first second : Pattern α) (text : List α) :
    (seq first second).rests text = (first.rests text).flatMap second.rests := by
  simp [rests, ways, List.map_flatMap, List.flatMap_map, Function.comp_def]

@[simp] theorem rests_alt (first second : Pattern α) (text : List α) :
    (alt first second).rests text = first.rests text ++ second.rests text := by
  simp [rests, ways]

@[simp] theorem rests_many (accepts : α → Bool) (text : List α) :
    (many accepts).rests text = manyRests accepts text := by
  simp [rests, ways, Function.comp_def]

@[simp] theorem rests_optional (body : Pattern α) (text : List α) :
    (optional body).rests text = body.rests text ++ [text] := by
  simp [rests, ways]

@[simp] theorem rests_group (name : String) (body : Pattern α) (text : List α) :
    (group name body).rests text = body.rests text := by
  simp [rests, ways, Function.comp_def]

theorem rests_one (accepts : α → Bool) (character : α) (rest : List α) :
    (one accepts).rests (character :: rest) = if accepts character then [rest] else [] := by
  rw [rests, ways]
  split_ifs <;> rfl

theorem rests_plus (accepts : α → Bool) (character : α) (rest : List α) :
    (plus accepts).rests (character :: rest) =
      if accepts character then manyRests accepts rest else [] := by
  rw [plus, rests_seq, rests_one]
  split_ifs
  · rw [List.flatMap_singleton, rests_many]
  · rfl

/-- The longest run is tried first. -/
theorem head?_manyRests (accepts : α → Bool) (text : List α) :
    (manyRests accepts text).head? = some (text.dropWhile accepts) := by
  induction text with
  | nil => rfl
  | cons character rest ih =>
      rw [manyRests, List.dropWhile_cons]
      split_ifs
      · rw [List.head?_append, ih, Option.some_or]
      · rfl

/-- **The ways to match are the ways to split the text** after something accepted. -/
theorem mem_rests_iff {pattern : Pattern α} {text rest : List α} :
    rest ∈ pattern.rests text ↔ ∃ front, text = front ++ rest ∧ pattern.Accepts front := by
  induction pattern generalizing text rest with
  | empty =>
      constructor
      · intro member
        exact ⟨[], (List.mem_singleton.mp member).symm, rfl⟩
      · rintro ⟨_, rfl, rfl⟩
        exact List.mem_singleton.mpr rfl
  | one accepts =>
      constructor
      · intro member
        cases text with
        | nil => cases member
        | cons character others =>
            rw [rests, ways] at member
            split_ifs at member with accepted
            · rw [List.map_singleton, List.mem_singleton] at member
              exact ⟨[character], by rw [member]; rfl, character, accepted, rfl⟩
            · cases member
      · rintro ⟨_, rfl, character, accepted, rfl⟩
        simp [rests, ways, accepted]
  | seq first second ihFirst ihSecond =>
      rw [rests_seq, List.mem_flatMap]
      constructor
      · rintro ⟨middle, isMiddle, isRest⟩
        obtain ⟨front, rfl, isFront⟩ := ihFirst.mp isMiddle
        obtain ⟨back, rfl, isBack⟩ := ihSecond.mp isRest
        exact ⟨front ++ back, (List.append_assoc _ _ _).symm, front, back, rfl, isFront, isBack⟩
      · rintro ⟨_, rfl, front, back, rfl, isFront, isBack⟩
        exact ⟨back ++ rest, ihFirst.mpr ⟨front, List.append_assoc _ _ _, isFront⟩,
          ihSecond.mpr ⟨back, rfl, isBack⟩⟩
  | alt first second ihFirst ihSecond =>
      rw [rests_alt, List.mem_append, ihFirst, ihSecond]
      constructor
      · rintro (⟨front, split, isFront⟩ | ⟨front, split, isFront⟩)
        · exact ⟨front, split, .inl isFront⟩
        · exact ⟨front, split, .inr isFront⟩
      · rintro ⟨front, split, isFront | isFront⟩
        · exact .inl ⟨front, split, isFront⟩
        · exact .inr ⟨front, split, isFront⟩
  | many accepts => rw [rests_many, mem_manyRests_iff]; rfl
  | optional body ih =>
      rw [rests_optional, List.mem_append, ih, List.mem_singleton]
      constructor
      · rintro (⟨front, split, isFront⟩ | rfl)
        · exact ⟨front, split, .inl isFront⟩
        · exact ⟨[], rfl, .inr rfl⟩
      · rintro ⟨front, split, isFront | rfl⟩
        · exact .inl ⟨front, split, isFront⟩
        · exact .inr split.symm
  | group name body ih => rw [rests_group, ih]; rfl

theorem accepts_of_mem {pattern : Pattern α} {text : List α} {found : Match α}
    (member : found ∈ pattern.ways text) :
    ∃ front, text = front ++ found.rest ∧ pattern.Accepts front :=
  mem_rests_iff.mp (List.mem_map_of_mem member)

/-- **A match leaves an end of the text.** -/
theorem suffix_of_mem {pattern : Pattern α} {text : List α} {found : Match α}
    (member : found ∈ pattern.ways text) : found.rest <:+ text := by
  obtain ⟨front, split, -⟩ := accepts_of_mem member
  exact ⟨front, split.symm⟩

/-- The text is a beginning of what the pattern accepts: the matcher may look
beyond its end. -/
def Begins : Pattern α → List α → Prop
  | empty, _ => False
  | one _, text => text = []
  | seq first second, text =>
      first.Begins text ∨
        ∃ front back, text = front ++ back ∧ first.Accepts front ∧ second.Begins back
  | alt first second, text => first.Begins text ∨ second.Begins text
  | many accepts, text => ∀ character ∈ text, accepts character = true
  | optional body, text => body.Begins text
  | group _ body, text => body.Begins text

theorem manyRests_append_of_not_all {accepts : α → Bool} {text : List α}
    (notAll : ¬ ∀ character ∈ text, accepts character = true) (more : List α) :
    manyRests accepts (text ++ more) = (manyRests accepts text).map (· ++ more) := by
  induction text with
  | nil => exact absurd nofun notAll
  | cons character others ih =>
      rw [List.cons_append, manyRests, manyRests]
      split_ifs with accepted
      · rw [ih fun all => notAll (List.forall_mem_cons.mpr ⟨accepted, all⟩)]
        simp
      · rfl

/-- The matcher's view of a text with its continuation, in a group. -/
theorem group_take (text rest more : List α) :
    (text ++ more).take ((text ++ more).length - (rest ++ more).length) =
      text.take (text.length - rest.length) := by
  rw [List.length_append, List.length_append, Nat.add_sub_add_right,
    List.take_append_of_le_length (Nat.sub_le _ _)]

/-- **A text that is no beginning is matched without a look beyond its end.** -/
theorem ways_append_of_not_begins {pattern : Pattern α} {text : List α}
    (not : ¬ pattern.Begins text) (more : List α) :
    pattern.ways (text ++ more) = (pattern.ways text).map (Match.append · more) := by
  induction pattern generalizing text with
  | empty => rfl
  | one accepts =>
      cases text with
      | nil => exact absurd rfl not
      | cons character others =>
          rw [List.cons_append, ways, ways]
          split_ifs <;> rfl
  | seq first second ihFirst ihSecond =>
      obtain ⟨notFirst, notSecond⟩ := not_or.mp not
      rw [ways, ways, ihFirst notFirst, List.flatMap_map, List.map_flatMap]
      refine List.flatMap_congr fun front member => ?_
      obtain ⟨consumed, split, accepted⟩ := accepts_of_mem member
      rw [Match.append_rest,
        ihSecond fun begins => notSecond ⟨consumed, front.rest, split, accepted, begins⟩,
        List.map_map, List.map_map]
      rfl
  | alt first second ihFirst ihSecond =>
      obtain ⟨notFirst, notSecond⟩ := not_or.mp not
      rw [ways, ways, ihFirst notFirst, ihSecond notSecond, List.map_append]
  | many accepts =>
      rw [ways, ways, manyRests_append_of_not_all not, List.map_map, List.map_map]
      rfl
  | optional body ih =>
      rw [ways, ways, ih not, List.map_append]
      rfl
  | group name body ih =>
      rw [ways, ways, ih not, List.map_map, List.map_map]
      refine List.map_congr_left fun found member => ?_
      simp only [Function.comp_apply, Match.append_rest, Match.append_groups, group_take]
      rfl

/-! ## Texts that go on -/

/-- Every class of the pattern is within a class. -/
def Over (within : α → Prop) : Pattern α → Prop
  | empty => True
  | one accepts => ∀ character, accepts character = true → within character
  | seq first second => first.Over within ∧ second.Over within
  | alt first second => first.Over within ∧ second.Over within
  | many accepts => ∀ character, accepts character = true → within character
  | optional body => body.Over within
  | group _ body => body.Over within

/-- What the pattern accepts is within the class. -/
theorem within_of_accepts {pattern : Pattern α} {within : α → Prop} (overWithin : pattern.Over within)
    {text : List α} (accepted : pattern.Accepts text) : ∀ character ∈ text, within character := by
  induction pattern generalizing text with
  | empty =>
      rw [show text = [] from accepted]
      exact nofun
  | one accepts =>
      obtain ⟨character, isAccepted, rfl⟩ := accepted
      exact List.forall_mem_singleton.mpr (overWithin character isAccepted)
  | seq first second ihFirst ihSecond =>
      obtain ⟨front, back, rfl, isFront, isBack⟩ := accepted
      exact List.forall_mem_append.mpr ⟨ihFirst overWithin.1 isFront, ihSecond overWithin.2 isBack⟩
  | alt first second ihFirst ihSecond =>
      rcases accepted with isFirst | isSecond
      · exact ihFirst overWithin.1 isFirst
      · exact ihSecond overWithin.2 isSecond
  | many accepts => exact fun character member => overWithin character (accepted character member)
  | optional body ih =>
      rcases accepted with present | rfl
      · exact ih overWithin present
      · exact nofun
  | group name body ih => exact ih overWithin accepted

/-- So is what begins something accepted. -/
theorem within_of_begins {pattern : Pattern α} {within : α → Prop} (overWithin : pattern.Over within)
    {text : List α} (begins : pattern.Begins text) : ∀ character ∈ text, within character := by
  induction pattern generalizing text with
  | empty => exact begins.elim
  | one accepts =>
      rw [show text = [] from begins]
      exact nofun
  | seq first second ihFirst ihSecond =>
      rcases begins with inFirst | ⟨front, back, rfl, isFront, inBack⟩
      · exact ihFirst overWithin.1 inFirst
      · exact List.forall_mem_append.mpr ⟨within_of_accepts overWithin.1 isFront, ihSecond overWithin.2 inBack⟩
  | alt first second ihFirst ihSecond =>
      rcases begins with inFirst | inSecond
      · exact ihFirst overWithin.1 inFirst
      · exact ihSecond overWithin.2 inSecond
  | many accepts => exact fun character member => overWithin character (begins character member)
  | optional body ih => exact ih overWithin begins
  | group name body ih => exact ih overWithin begins

/-- No class of the pattern has this character. -/
def rejects (character : α) : Pattern α → Bool
  | empty => true
  | one accepts => !accepts character
  | seq first second => first.rejects character && second.rejects character
  | alt first second => first.rejects character && second.rejects character
  | many accepts => !accepts character
  | optional body => body.rejects character
  | group _ body => body.rejects character

theorem over_of_rejects {pattern : Pattern α} {character : α}
    (rejected : pattern.rejects character = true) : pattern.Over (· ≠ character) := by
  induction pattern with
  | empty => trivial
  | one accepts =>
      rintro other accepted rfl
      rw [rejects, accepted] at rejected
      cases rejected
  | seq first second ihFirst ihSecond =>
      rw [rejects, Bool.and_eq_true] at rejected
      exact ⟨ihFirst rejected.1, ihSecond rejected.2⟩
  | alt first second ihFirst ihSecond =>
      rw [rejects, Bool.and_eq_true] at rejected
      exact ⟨ihFirst rejected.1, ihSecond rejected.2⟩
  | many accepts =>
      rintro other accepted rfl
      rw [rejects, accepted] at rejected
      cases rejected
  | optional body ih => exact ih rejected
  | group name body ih => exact ih rejected

/-- The text ends, or goes on outside of a class. -/
def Stops (within : α → Prop) : List α → Prop
  | [] => True
  | character :: _ => ¬ within character

instance (within : α → Prop) [DecidablePred within] (text : List α) :
    Decidable (Stops within text) :=
  match text with
  | [] => isTrue trivial
  | character :: _ => inferInstanceAs (Decidable (¬ within character))

theorem manyRests_append {accepts : α → Bool} {within : α → Prop}
    (overWithin : ∀ character, accepts character = true → within character) {more : List α}
    (stops : Stops within more) (text : List α) :
    manyRests accepts (text ++ more) = (manyRests accepts text).map (· ++ more) := by
  induction text with
  | nil =>
      cases more with
      | nil => rfl
      | cons character others =>
          have refused : ¬ accepts character = true := fun accepted => stops (overWithin _ accepted)
          simp [manyRests, refused]
  | cons character others ih =>
      rw [List.cons_append, manyRests, manyRests, ih]
      split_ifs <;> simp

/-- **A text that goes on outside of the classes is matched as if it ended.** -/
theorem ways_append {pattern : Pattern α} {within : α → Prop} (overWithin : pattern.Over within)
    {more : List α} (stops : Stops within more) (text : List α) :
    pattern.ways (text ++ more) = (pattern.ways text).map (Match.append · more) := by
  induction pattern generalizing text with
  | empty => rfl
  | one accepts =>
      cases text with
      | nil =>
          cases more with
          | nil => rfl
          | cons character others =>
              have refused : ¬ accepts character = true := fun accepted => stops (overWithin _ accepted)
              simp [ways, refused]
      | cons character others =>
          rw [List.cons_append, ways, ways]
          split_ifs <;> rfl
  | seq first second ihFirst ihSecond =>
      rw [ways, ways, ihFirst overWithin.1, List.flatMap_map, List.map_flatMap]
      congr 1
      funext front
      rw [Match.append_rest, ihSecond overWithin.2, List.map_map, List.map_map]
      rfl
  | alt first second ihFirst ihSecond =>
      rw [ways, ways, ihFirst overWithin.1, ihSecond overWithin.2, List.map_append]
  | many accepts =>
      rw [ways, ways, manyRests_append overWithin stops, List.map_map, List.map_map]
      rfl
  | optional body ih =>
      rw [ways, ways, ih overWithin, List.map_append]
      rfl
  | group name body ih =>
      rw [ways, ways, ih overWithin, List.map_map, List.map_map]
      refine List.map_congr_left fun found member => ?_
      simp only [Function.comp_apply, Match.append_rest, Match.append_groups, group_take]
      rfl

/-! ## Patterns that match in one way -/

theorem accepts_plus {accepts : α → Bool} {text : List α} :
    (plus accepts).Accepts text ↔ text ≠ [] ∧ ∀ character ∈ text, accepts character = true := by
  constructor
  · rintro ⟨_, rest, rfl, ⟨first, accepted, rfl⟩, inRest⟩
    exact ⟨List.cons_ne_nil _ _, List.forall_mem_cons.mpr ⟨accepted, inRest⟩⟩
  · rintro ⟨nonempty, all⟩
    cases text with
    | nil => exact absurd rfl nonempty
    | cons first rest =>
        obtain ⟨accepted, inRest⟩ := List.forall_mem_cons.mp all
        exact ⟨[first], rest, rfl, ⟨first, accepted, rfl⟩, inRest⟩

/-- The beginning of a run is in its class. -/
theorem begins_plus {accepts : α → Bool} {text : List α} (begins : (plus accepts).Begins text) :
    ∀ character ∈ text, accepts character = true := by
  rcases begins with rfl | ⟨_, back, rfl, ⟨first, accepted, rfl⟩, inBack⟩
  · exact nofun
  · exact List.forall_mem_cons.mpr ⟨accepted, inBack⟩

/-- So is the beginning of a run that is still to be closed. -/
theorem begins_plus_one {accepts close : α → Bool} {text : List α}
    (begins : (seq (plus accepts) (one close)).Begins text) :
    ∀ character ∈ text, accepts character = true := by
  rcases begins with inRun | ⟨front, _, rfl, isRun, rfl⟩
  · exact begins_plus inRun
  · rw [List.append_nil]
    exact (accepts_plus.mp isRun).2

/-- The text after one character of each class. -/
def afterWord : List (α → Bool) → List α → Option (List α)
  | [], text => .some text
  | _ :: _, [] => none
  | accepts :: classes, character :: rest =>
      if accepts character then afterWord classes rest else none

theorem ways_word (classes : List (α → Bool)) (text : List α) :
    (word classes).ways text = ((afterWord classes text).map (Match.mk [])).toList := by
  induction classes generalizing text with
  | nil => rfl
  | cons accepts others ih =>
      cases text with
      | nil => rfl
      | cons character rest =>
          rw [word, ways, ways, afterWord]
          split_ifs
          · simp [ih]
          · rfl

/-- A run with a character after it that is outside of its class. -/
theorem ways_many_one {accepts close : α → Bool}
    (disjoint : ∀ character, close character = true → accepts character = false) (text : List α) :
    (seq (many accepts) (one close)).ways text =
      ((afterWord [close] (text.dropWhile accepts)).map (Match.mk [])).toList := by
  have step : ∀ text : List α, (seq (many accepts) (one close)).ways text =
      (manyRests accepts text).flatMap (one close).ways := by
    intro text
    rw [ways, ways, List.flatMap_map]
    congr 1
    funext rest
    simp
  rw [step]
  induction text with
  | nil => rfl
  | cons character rest ih =>
      rw [manyRests, List.dropWhile_cons]
      split_ifs with accepted
      · have notClose : ¬ close character = true := fun closes => by
          rw [disjoint character closes] at accepted
          cases accepted
        simp [ih, ways, notClose]
      · simp only [List.flatMap_cons, List.flatMap_nil, List.append_nil, ways, afterWord]
        split_ifs <;> rfl

/-- The text after a run of one character at least and a character that closes it. -/
def closedRun (accepts close : α → Bool) : List α → Option (List α)
  | [] => none
  | character :: rest =>
      if accepts character then afterWord [close] (rest.dropWhile accepts) else none

/-- A repetition before something that does not begin in its class is the longest one. -/
theorem rests_many_seq {accepts : α → Bool} {next : Pattern α}
    (fails : ∀ character rest, accepts character = true → next.rests (character :: rest) = [])
    (text : List α) :
    (seq (many accepts) next).rests text = next.rests (text.dropWhile accepts) := by
  rw [rests_seq, rests_many]
  induction text with
  | nil => simp [manyRests]
  | cons character rest ih =>
      rw [manyRests, List.dropWhile_cons]
      split_ifs with accepted
      · rw [List.flatMap_append, ih, List.flatMap_singleton, fails character rest accepted,
          List.append_nil]
      · simp

/-- `[...]+` with a character after it that is outside of its class. -/
theorem ways_plus_one {accepts close : α → Bool}
    (disjoint : ∀ character, close character = true → accepts character = false) (text : List α) :
    (seq (plus accepts) (one close)).ways text =
      ((closedRun accepts close text).map (Match.mk [])).toList := by
  cases text with
  | nil => rfl
  | cons character rest =>
      have step := ways_many_one disjoint rest
      rw [ways] at step
      rw [plus, ways, ways, ways, closedRun]
      split_ifs
      · simpa using step
      · rfl

/-- What a closed run leaves has the run and its closing character before it. -/
theorem closedRun_eq_some_iff {accepts close : α → Bool}
    (disjoint : ∀ character, close character = true → accepts character = false)
    {text rest : List α} :
    closedRun accepts close text = some rest ↔
      ∃ run last, text = run ++ last :: rest ∧ run ≠ [] ∧
        (∀ character ∈ run, accepts character = true) ∧ close last = true := by
  constructor
  · intro stripped
    cases text with
    | nil => cases stripped
    | cons character others =>
        rw [closedRun] at stripped
        split_ifs at stripped with accepted
        cases after : others.dropWhile accepts with
        | nil =>
            rw [after] at stripped
            cases stripped
        | cons last rest' =>
            rw [after, afterWord] at stripped
            split_ifs at stripped with closes
            cases stripped
            refine ⟨character :: others.takeWhile accepts, last, ?_, List.cons_ne_nil _ _, ?_, closes⟩
            · rw [List.cons_append, ← after, List.takeWhile_append_dropWhile]
            · intro member isMember
              rcases List.mem_cons.mp isMember with rfl | inside
              · exact accepted
              · exact List.mem_takeWhile_imp inside
  · rintro ⟨run, last, rfl, nonempty, inRun, closes⟩
    cases run with
    | nil => exact absurd rfl nonempty
    | cons character others =>
        have accepted := inRun character List.mem_cons_self
        have dropped : (others ++ last :: rest).dropWhile accepts = last :: rest := by
          rw [List.dropWhile_append_of_pos fun member isMember =>
            inRun member (List.mem_cons_of_mem _ isMember), List.dropWhile_cons_of_neg]
          rw [disjoint last closes]
          exact Bool.false_ne_true
        rw [List.cons_append, closedRun, if_pos accepted, dropped, afterWord, if_pos closes, afterWord]

end Pattern

end Regex
