import Mathlib.Data.List.Infix
import Mathlib.Data.Int.Notation

/-!
# Percent formats

The `%` of Python on a text and one argument, which may be a mapping.  A format is first read
into its parts; which parts there are depends on the keys and the integers of the argument.

* `plan` — the parts of a format, or nothing where reading it raises.
* `infix_of_mem_plan` — a key the format asks for stands in it.
* `Directive.layout` — a text is cut to the precision and padded to the width.
* `render` — the parts in place, or nothing where a conversion raises.
-/

namespace PercentFormat

/-! ## Reading a format -/

/-- Where a directive takes its value from: the argument itself or a member of it. -/
inductive Source where
  | whole
  | member (key : List Char)
deriving DecidableEq, Repr

/-- What the reading of a format depends on. -/
structure Argument where
  isMapping : Bool
  has : List Char → Bool
  /-- The value as an `int`, where it is one. -/
  integer : Source → Option ℤ

/-- A directive, without its key. -/
structure Directive where
  flags : List Char
  leftAligned : Bool
  width : Option ℕ
  precision : Option ℕ
  conversion : Char
deriving DecidableEq, Repr

/-- A part of a format. -/
inductive Part where
  | literal (character : Char)
  | value (directive : Directive) (source : Source)
deriving DecidableEq, Repr

/-- `PY_SSIZE_T_MAX`. -/
def maxSize : ℕ := 9223372036854775807

/-- `INT_MAX`. -/
def maxInt : ℕ := 2147483647

/-- The flags of a directive. -/
def isFlag (character : Char) : Bool := ['-', '+', ' ', '#', '0'].contains character

/-- `0` to `9`. -/
def isDigit (character : Char) : Bool := decide (48 ≤ character.toNat ∧ character.toNat ≤ 57)

/-- The number that digits stand for. -/
def numeral (digits : List Char) : ℕ :=
  digits.foldl (fun number digit => 10 * number + (digit.toNat - 48)) 0

/-- A key up to its closing parenthesis; parentheses in it are balanced. -/
def splitKey : ℕ → List Char → Option (List Char × List Char)
  | _, [] => none
  | depth, character :: rest =>
      if character = ')' then
        match depth with
        | 0 => some ([], rest)
        | depth + 1 => (splitKey depth rest).map fun split => (character :: split.1, split.2)
      else
        (splitKey (if character = '(' then depth + 1 else depth) rest).map fun split =>
          (character :: split.1, split.2)

section
variable (argument : Argument)

/-- `(key)`: from here on the value is a member of the mapping. -/
def select (text : List Char) (next : Option Source) :
    Option (List Char × Option Source) :=
  match text with
  | '(' :: rest =>
      if argument.isMapping then
        (splitKey 0 rest).bind fun split =>
          if argument.has split.1 then some (split.2, some (.member split.1)) else none
      else none
  | _ => some (text, next)

/-- The number of a width or of a precision: `*` takes the value that is next. -/
def count (bound : ℕ) (text : List Char) (next : Option Source) :
    Option (Option ℤ × List Char × Option Source) :=
  match text with
  | '*' :: rest =>
      (next.bind argument.integer).bind fun number =>
        if -(bound : ℤ) - 1 ≤ number ∧ number ≤ bound then some (some number, rest, none)
        else none
  | _ =>
      if text.takeWhile isDigit = [] then some (none, text, next)
      else if numeral (text.takeWhile isDigit) ≤ bound then
        some (some (numeral (text.takeWhile isDigit)), text.dropWhile isDigit, next)
      else none

/-- `.` with a precision, which is 0 where it is left out or negative. -/
def precision (text : List Char) (next : Option Source) :
    Option (Option ℕ × List Char × Option Source) :=
  match text with
  | '.' :: rest =>
      (count argument maxInt rest next).map fun read =>
        (some (read.1.getD 0).toNat, read.2.1, read.2.2)
  | _ => some (none, text, next)

/-- A length modifier is ignored. -/
def dropModifier : List Char → List Char
  | [] => []
  | character :: rest =>
      if ['h', 'l', 'L'].contains character then rest else character :: rest

/-- What a directive stands for once its numbers are read. -/
def conclude (flags : List Char) (width : Option ℤ) (precision : Option ℕ)
    (next : Option Source) : List Char → Option (Part × List Char × Option Source)
  | [] => none
  | conversion :: rest =>
      next.map fun source =>
        (.value
          { flags
            leftAligned := flags.contains '-' || decide (width.getD 0 < 0)
            width := width.map Int.natAbs
            precision
            conversion } source, rest, none)

/-- A directive after its `%`, the text after it and the value that is next. -/
def readDirective (text : List Char) (next : Option Source) :
    Option (Part × List Char × Option Source) :=
  (select argument text next).bind fun selected =>
    (count argument maxSize (selected.1.dropWhile isFlag) selected.2).bind fun width =>
      (precision argument width.2.1 width.2.2).bind fun precise =>
        conclude (selected.1.takeWhile isFlag) width.1 precise.1 precise.2.2
          (dropModifier precise.2.1)

/-- The part that a `%` begins; `%%` takes no value. -/
def readPart (text : List Char) (next : Option Source) :
    Option (Part × List Char × Option Source) :=
  match text with
  | '%' :: rest => some (.literal '%', rest, next)
  | _ => readDirective argument text next

/-- **The parts of a format**, with `skip` characters of a directive still to pass.  A value that
no directive has taken is an error, unless it is a mapping. -/
def plan : ℕ → List Char → Option Source → Option (List Part)
  | _, [], next => if next.isSome && !argument.isMapping then none else some []
  | skip + 1, _ :: rest, next => plan skip rest next
  | 0, character :: rest, next =>
      if character = '%' then
        (readPart argument rest next).bind fun read =>
          (plan (rest.length - read.2.1.length) rest read.2.2).map (read.1 :: ·)
      else (plan 0 rest next).map (.literal character :: ·)

/-! ## The keys of a format -/

theorem infix_of_splitKey {depth : ℕ} {text key rest : List Char}
    (split : splitKey depth text = some (key, rest)) : key <:+: text := by
  suffices starts : key <+: text from starts.isInfix
  induction text generalizing depth key rest with
  | nil => cases split
  | cons character others ih =>
      have consed : ∀ {depth}, ((splitKey depth others).map fun split =>
          (character :: split.1, split.2)) = some (key, rest) → key <+: character :: others := by
        intro depth mapped
        obtain ⟨⟨key', rest'⟩, inner, same⟩ := Option.map_eq_some_iff.1 mapped
        cases same
        exact List.cons_prefix_cons.2 ⟨rfl, ih inner⟩
      unfold splitKey at split
      split_ifs at split
      · cases depth with
        | zero =>
            cases split
            exact List.nil_prefix
        | succ depth => exact consed split
      · exact consed split
      · exact consed split

variable {argument}

/-- The value that is next is a member whose key stands in the text, or it was next before. -/
def Known (text : List Char) (before next : Option Source) : Prop :=
  ∀ key, next = some (.member key) → key <:+: text ∨ before = some (.member key)

theorem Known.rfl {text : List Char} {next : Option Source} : Known text next next :=
  fun _ same => .inr same

theorem Known.none {text : List Char} {next : Option Source} : Known text next none :=
  fun _ same => by cases same

theorem Known.trans {text : List Char} {first second third : Option Source}
    (known : Known text first second) (known' : Known text second third) :
    Known text first third := by
  intro key same
  rcases known' key same with inside | same'
  · exact .inl inside
  · exact known key same'

theorem known_of_select {text : List Char} {next : Option Source}
    {selected : List Char × Option Source} (isSelected : select argument text next = some selected) :
    Known text next selected.2 := by
  unfold select at isSelected
  split at isSelected
  · split_ifs at isSelected
    obtain ⟨⟨key, rest⟩, split, found⟩ := Option.bind_eq_some_iff.1 isSelected
    split_ifs at found
    cases found
    intro key' same
    cases same
    exact .inl ((infix_of_splitKey split).trans (List.suffix_cons _ _).isInfix)
  · cases isSelected
    exact .rfl

theorem known_of_count {bound : ℕ} {text text' : List Char} {next : Option Source}
    {read : Option ℤ × List Char × Option Source}
    (isRead : count argument bound text' next = some read) : Known text next read.2.2 := by
  unfold count at isRead
  split at isRead
  · obtain ⟨number, -, inside⟩ := Option.bind_eq_some_iff.1 isRead
    split_ifs at inside
    cases inside
    exact .none
  · split_ifs at isRead <;> cases isRead <;> exact .rfl

theorem known_of_precision {text text' : List Char} {next : Option Source}
    {read : Option ℕ × List Char × Option Source}
    (isRead : precision argument text' next = some read) : Known text next read.2.2 := by
  unfold precision at isRead
  split at isRead
  · obtain ⟨number, counted, same⟩ := Option.map_eq_some_iff.1 isRead
    cases same
    exact known_of_count counted
  · cases isRead
    exact .rfl

theorem known_of_readDirective {text : List Char} {next : Option Source}
    {read : Part × List Char × Option Source}
    (isRead : readDirective argument text next = some read) :
    read.2.2 = none ∧
      ∀ directive source, read.1 = .value directive source → Known text next (some source) := by
  obtain ⟨selected, isSelected, rest⟩ := Option.bind_eq_some_iff.1 isRead
  obtain ⟨width, isWidth, rest⟩ := Option.bind_eq_some_iff.1 rest
  obtain ⟨precise, isPrecise, concluded⟩ := Option.bind_eq_some_iff.1 rest
  have known : Known text next precise.2.2 :=
    ((known_of_select isSelected).trans (known_of_count isWidth)).trans
      (known_of_precision isPrecise)
  unfold conclude at concluded
  split at concluded
  · cases concluded
  · obtain ⟨source, isNext, same⟩ := Option.map_eq_some_iff.1 concluded
    cases same
    refine ⟨rfl, fun directive source' same => ?_⟩
    cases same
    rwa [isNext] at known

/-- A value that was read and the value that is next are known. -/
theorem known_of_readPart {text : List Char} {next : Option Source}
    {read : Part × List Char × Option Source} (isRead : readPart argument text next = some read) :
    Known text next read.2.2 ∧
      ∀ directive source, read.1 = .value directive source → Known text next (some source) := by
  unfold readPart at isRead
  split at isRead
  · cases isRead
    exact ⟨.rfl, fun directive source same => by cases same⟩
  · obtain ⟨taken, known⟩ := known_of_readDirective isRead
    rw [taken]
    exact ⟨.none, known⟩

/-- **A key that a format asks for stands in it.** -/
theorem infix_of_mem_plan {skip : ℕ} {text : List Char} {next : Option Source} {parts : List Part}
    (planned : plan argument skip text next = some parts) {directive : Directive} {key : List Char}
    (member : .value directive (.member key) ∈ parts) :
    key <:+: text ∨ next = some (.member key) := by
  induction text generalizing skip next parts with
  | nil =>
      rw [plan] at planned
      split_ifs at planned
      cases planned
      cases member
  | cons character rest ih =>
      have longer : ∀ {next'}, (key <:+: rest ∨ next' = some (.member key)) →
          Known rest next next' → key <:+: character :: rest ∨ next = some (.member key) := by
        intro next' found known
        rcases found with inside | same
        · exact .inl (inside.trans (List.suffix_cons _ _).isInfix)
        · rcases known key same with inside | same'
          · exact .inl (inside.trans (List.suffix_cons _ _).isInfix)
          · exact .inr same'
      cases skip with
      | succ skip =>
          rw [plan] at planned
          exact longer (ih planned member) .rfl
      | zero =>
          rw [plan] at planned
          split_ifs at planned
          · obtain ⟨⟨part, after, next'⟩, isRead, mapped⟩ := Option.bind_eq_some_iff.1 planned
            obtain ⟨parts', planned', rfl⟩ := Option.map_eq_some_iff.1 mapped
            obtain ⟨knownNext, knownPart⟩ := known_of_readPart isRead
            rcases List.mem_cons.1 member with same | member
            · exact longer (.inr rfl) (knownPart directive (.member key) same.symm)
            · exact longer (ih planned' member) knownNext
          · obtain ⟨parts', planned', rfl⟩ := Option.map_eq_some_iff.1 planned
            rcases List.mem_cons.1 member with same | member
            · cases same
            · exact longer (ih planned' member) .rfl

end

/-! ## Laying out a text -/

namespace Directive

/-- A text cut to the precision. -/
def cut (directive : Directive) (text : List Char) : List Char :=
  match directive.precision with
  | none => text
  | some precision => text.take precision

/-- A text padded to the width. -/
def pad (directive : Directive) (text : List Char) : List Char :=
  let fill := List.replicate (directive.width.getD 0 - text.length) ' '
  if directive.leftAligned then text ++ fill else fill ++ text

/-- A text as the directive writes it. -/
def layout (directive : Directive) (text : List Char) : List Char :=
  directive.pad (directive.cut text)

/-- A text is cut before its front ends. -/
def CutsAt (directive : Directive) (front : List Char) : Prop :=
  ∃ precision, directive.precision = some precision ∧ precision ≤ front.length

instance cutsAtDecidable (directive : Directive) (front : List Char) :
    Decidable (directive.CutsAt front) :=
  decidable_of_iff (∃ precision ∈ directive.precision, precision ≤ front.length) Iff.rfl

/-- What comes after the cut does not matter. -/
theorem layout_of_cutsAt {directive : Directive} {front : List Char}
    (cuts : directive.CutsAt front) (rest : List Char) :
    directive.layout (front ++ rest) = directive.layout front := by
  obtain ⟨precision, same, short⟩ := cuts
  have taken : directive.cut (front ++ rest) = directive.cut front := by
    rw [cut, cut, same]
    exact List.take_append_of_le_length short
  rw [layout, layout, taken]

/-- **What comes before the cut is written**; how far it is padded is a matter of lengths. -/
theorem layout_of_not_cutsAt {directive : Directive} {front : List Char}
    (written : ¬directive.CutsAt front) (length : ℕ) :
    ∃ filled : List Char, ∀ character rest, (rest : List Char).length = length →
      ∃ rest', directive.layout (front ++ character :: rest) =
        filled ++ front ++ character :: rest' := by
  -- What the precision leaves of the text, and how many characters it has.
  have kept : ∃ size, ∀ (character : Char) rest, rest.length = length → ∃ rest',
      directive.cut (front ++ character :: rest) = front ++ character :: rest' ∧
        (front ++ character :: rest').length = size := by
    cases limit : directive.precision with
    | none =>
        refine ⟨front.length + (length + 1), fun character rest same => ⟨rest, ?_, ?_⟩⟩
        · rw [cut, limit]
        · simp [same]
    | some precision =>
        have longer : front.length < precision := by
          by_contra short
          exact written ⟨precision, limit, Nat.le_of_not_lt short⟩
        refine ⟨front.length + (min (precision - front.length - 1) length + 1),
          fun character rest same => ⟨rest.take (precision - front.length - 1), ?_, ?_⟩⟩
        · obtain ⟨more, positive⟩ := Nat.exists_eq_add_of_lt longer
          rw [cut, limit]
          dsimp only
          rw [List.take_append, List.take_of_length_le (Nat.le_of_lt longer),
            show precision - front.length = more + 1 by omega, List.take_succ_cons,
            Nat.add_sub_cancel]
        · simp [same]
  obtain ⟨size, kept⟩ := kept
  refine ⟨if directive.leftAligned then [] else List.replicate (directive.width.getD 0 - size) ' ',
    fun character rest same => ?_⟩
  obtain ⟨rest', isCut, isSize⟩ := kept character rest same
  rw [layout, isCut, pad, isSize]
  cases directive.leftAligned with
  | true => exact ⟨rest' ++ List.replicate (directive.width.getD 0 - size) ' ', by simp⟩
  | false => exact ⟨rest', by simp⟩

end Directive

/-! ## Rendering the parts -/

/-- The parts in place, each value by its conversion. -/
def render (convert : Directive → Source → Option (List Char)) : List Part → Option (List Char)
  | [] => some []
  | .literal character :: parts => (render convert parts).map (character :: ·)
  | .value directive source :: parts =>
      (convert directive source).bind fun text => (render convert parts).map (text ++ ·)

section
variable {convert convert' : Directive → Source → Option (List Char)}

theorem render_congr {parts : List Part}
    (same : ∀ directive source, .value directive source ∈ parts →
      convert directive source = convert' directive source) :
    render convert parts = render convert' parts := by
  induction parts with
  | nil => rfl
  | cons part parts ih =>
      have rest := ih fun directive source member =>
        same directive source (List.mem_cons_of_mem _ member)
      cases part with
      | literal character => rw [render, render, rest]
      | value directive source => rw [render, render, rest, same _ _ List.mem_cons_self]

/-- The parts are rendered exactly if each conversion returns. -/
theorem isSome_render {parts : List Part} : (render convert parts).isSome = true ↔
    ∀ directive source, .value directive source ∈ parts →
      (convert directive source).isSome = true := by
  induction parts with
  | nil => simp [render]
  | cons part parts ih =>
      cases part with
      | literal character => simp [render, ih]
      | value directive source =>
          cases converted : convert directive source with
          | none =>
              simp only [render, converted, Option.bind_none, Option.isSome_none, Bool.false_eq_true,
                false_iff, not_forall]
              exact ⟨directive, source, List.mem_cons_self, by simp [converted]⟩
          | some text =>
              simp only [render, converted, Option.bind_some, Option.isSome_map, ih, List.mem_cons]
              constructor
              · rintro returns directive' source' (same | member)
                · cases same
                  rw [converted]
                  rfl
                · exact returns directive' source' member
              · exact fun returns directive' source' member =>
                  returns directive' source' (.inr member)

end

end PercentFormat
