import BidSystem.Telemetry.Redaction

/-!
# Passwords in URLs

The first pass of `redact_text` replaces the password of `://user:password@`.
A credential is under way at the end of a text if the scan has come to a
`://user:` there after which there has been no `@` and no white space: whatever
follows it up to the next `@` is then replaced.

* `withoutUrlCredentials_of_under_way` — what becomes of such a text.
* `withoutUrlCredentials_append_of_not_under_way` — what becomes of other texts:
  they are kept, and what follows is masked.
* `password_hidden_iff` — **when the redacted text does not depend on a URL's
  password**.  `URL_CREDENTIAL_PATTERN` wants a user of one character at least,
  so that the password of `redis://:password@host` stays.
-/

namespace BidSystem.Telemetry

open Regex Pattern

/-- `://`. -/
def authorityMark : List Char := [':', '/', '/']

/-- A user of `URL_CREDENTIAL_PATTERN`. -/
def IsUser (user : List Char) : Prop :=
  user ≠ [] ∧ ∀ character ∈ user, userCharacter character = true

/-- A text without `@` and white space. -/
def IsPassword (password : List Char) : Prop :=
  ∀ character ∈ password, passwordCharacter character = true

theorem userCharacter_colon : userCharacter ':' = false := by decide

theorem passwordCharacter_at : passwordCharacter '@' = false := by decide

theorem passwordCharacter_of_user {character : Char}
    (isUserCharacter : userCharacter character = true) (notAt : character ≠ '@') :
    passwordCharacter character = true := by
  simp only [userCharacter, Bool.not_eq_true', Bool.or_eq_false_iff] at isUserCharacter
  simp [passwordCharacter, isUserCharacter.2, notAt]

theorem afterWord_authorityMark {text rest : List Char} :
    afterWord (literal "://") text = some rest ↔ text = authorityMark ++ rest := by
  have classes : literal "://" = [(· == ':'), (· == '/'), (· == '/')] := by
    simp [literal]
  rw [classes]
  unfold authorityMark
  rcases text with _ | ⟨first, _ | ⟨second, _ | ⟨third, others⟩⟩⟩ <;> simp [afterWord]

theorem urlCredentialPattern_ways (text : List Char) :
    urlCredentialPattern.ways text =
      ((afterWord (literal "://") text).bind fun first =>
        (closedRun userCharacter (· == ':') first).bind fun second =>
          (closedRun passwordCharacter (· == '@') second).map fun rest =>
            Match.mk [("prefix", text.take (text.length - second.length))] rest).toList := by
  have user := @ways_plus_one Char userCharacter (· == ':') (by
    rintro character closes
    rw [beq_iff_eq.mp closes]
    exact userCharacter_colon)
  have password := @ways_plus_one Char passwordCharacter (· == '@') (by
    rintro character closes
    rw [beq_iff_eq.mp closes]
    exact passwordCharacter_at)
  rw [urlCredentialPattern, ways, ways, urlCredentialPrefix, ways, ways_word]
  cases afterWord (literal "://") text with
  | none => rfl
  | some first =>
      simp only [Option.map_some, Option.toList_some, List.flatMap_cons, List.flatMap_nil,
        List.append_nil, user, password, List.nil_append, Option.bind_some]
      cases closedRun userCharacter (· == ':') first with
      | none => rfl
      | some second =>
          cases closes : closedRun passwordCharacter (· == '@') second with
          | none => simp [closes]
          | some rest => simp [closes]

/-- **A match of `URL_CREDENTIAL_PATTERN`.** -/
theorem urlCredential_replace_iff {text new rest : List Char} :
    urlCredentialPattern.replace? hidePassword text = some (new, rest) ↔
      ∃ user password, IsUser user ∧ IsPassword password ∧ password ≠ [] ∧
        text = authorityMark ++ user ++ ':' :: (password ++ '@' :: rest) ∧
        new = authorityMark ++ user ++ ':' :: (redacted ++ ['@']) := by
  have userEnds : ∀ character : Char, (character == ':') = true → userCharacter character = false := by
    intro character closes
    rw [beq_iff_eq.mp closes]
    exact userCharacter_colon
  have passwordEnds : ∀ character : Char, (character == '@') = true →
      passwordCharacter character = false := by
    intro character closes
    rw [beq_iff_eq.mp closes]
    exact passwordCharacter_at
  have written : ∀ user after : List Char,
      (authorityMark ++ (user ++ ':' :: after)).take
          ((authorityMark ++ (user ++ ':' :: after)).length - after.length) =
        authorityMark ++ user ++ [':'] := by
    intro user after
    rw [show authorityMark ++ (user ++ ':' :: after) = authorityMark ++ user ++ [':'] ++ after by simp,
      List.length_append, Nat.add_sub_cancel, List.take_left']
    rfl
  unfold replace? first?
  rw [urlCredentialPattern_ways, Option.head?_toList, Option.map_eq_some_iff]
  simp only [Option.bind_eq_some_iff, Option.map_eq_some_iff, afterWord_authorityMark,
    closedRun_eq_some_iff userEnds, closedRun_eq_some_iff passwordEnds, beq_iff_eq]
  constructor
  · rintro ⟨_, ⟨_, rfl, _, ⟨user, _, rfl, userNonempty, isUser, rfl⟩, _,
      ⟨password, _, rfl, nonempty, isPassword, rfl⟩, rfl⟩, same⟩
    obtain ⟨rfl, rfl⟩ := Prod.mk.inj same
    refine ⟨user, password, ⟨userNonempty, isUser⟩, isPassword, nonempty, by simp, ?_⟩
    rw [written]
    simp [hidePassword]
  · rintro ⟨user, password, ⟨userNonempty, isUser⟩, isPassword, nonempty, rfl, rfl⟩
    refine ⟨_, ⟨_, List.append_assoc _ _ _, _, ⟨user, _, rfl, userNonempty, isUser, rfl⟩, rest,
      ⟨password, _, rfl, nonempty, isPassword, rfl⟩, rfl⟩, ?_⟩
    rw [List.append_assoc, written]
    simp [hidePassword]

theorem urlCredential_of_replace {text new rest : List Char}
    (replaced : urlCredentialPattern.replace? hidePassword text = some (new, rest)) :
    ∃ user password, IsUser user ∧ IsPassword password ∧ password ≠ [] ∧
      text = authorityMark ++ user ++ ':' :: (password ++ '@' :: rest) ∧
      new = authorityMark ++ user ++ ':' :: (redacted ++ ['@']) :=
  urlCredential_replace_iff.mp replaced

/-! ## The first pass -/

theorem urlCredentialPattern_proper : urlCredentialPattern.nullable = false := rfl

/-- No credential has white space. -/
theorem urlCredentialPattern_over :
    urlCredentialPattern.Over fun character => isSpace character = false := by
  have colon : ∀ character : Char, (character == ':') = true → isSpace character = false := by
    intro character same
    rw [beq_iff_eq.mp same]
    rfl
  have slash : ∀ character : Char, (character == '/') = true → isSpace character = false := by
    intro character same
    rw [beq_iff_eq.mp same]
    rfl
  have atSign : ∀ character : Char, (character == '@') = true → isSpace character = false := by
    intro character same
    rw [beq_iff_eq.mp same]
    rfl
  have user : ∀ character, userCharacter character = true → isSpace character = false := by
    intro character accepted
    simp only [userCharacter, Bool.not_eq_true', Bool.or_eq_false_iff] at accepted
    exact accepted.2
  have password : ∀ character, passwordCharacter character = true → isSpace character = false := by
    intro character accepted
    simp only [passwordCharacter, Bool.not_eq_true', Bool.or_eq_false_iff] at accepted
    exact accepted.2
  exact ⟨⟨⟨colon, slash, slash, trivial⟩, ⟨user, user⟩, colon⟩, ⟨password, password⟩, atSign⟩

/-- A text can be cut before white space. -/
theorem withoutUrlCredentials_append_space {more : List Char}
    (stops : Stops (fun character => isSpace character = false) more) (text : List Char) :
    withoutUrlCredentials (text ++ more) =
      withoutUrlCredentials text ++ withoutUrlCredentials more :=
  sub_append urlCredentialPattern_proper urlCredentialPattern_over stops text

/-- A text that does not start with `://` has no match at its start. -/
theorem urlCredential_none {text : List Char} (other : ¬ authorityMark <+: text) :
    urlCredentialPattern.replace? hidePassword text = none := by
  cases replaced : urlCredentialPattern.replace? hidePassword text with
  | none => rfl
  | some result =>
      obtain ⟨user, password, -, -, -, rfl, -⟩ := urlCredential_of_replace replaced
      exact absurd ⟨_, (List.append_assoc _ _ _).symm⟩ other

/-- A character that starts no credential is kept. -/
theorem withoutUrlCredentials_cons {character : Char} {rest : List Char}
    (other : ¬ authorityMark <+: character :: rest) :
    withoutUrlCredentials (character :: rest) = character :: withoutUrlCredentials rest :=
  sub_of_none (urlCredential_none other)

/-- A text without `://` is kept. -/
theorem withoutUrlCredentials_of_no_mark {text : List Char} (noMark : ¬ authorityMark <:+: text) :
    withoutUrlCredentials text = text := by
  induction text with
  | nil => rfl
  | cons character rest ih =>
      rw [withoutUrlCredentials_cons fun begins => noMark begins.isInfix,
        ih fun inside => noMark (inside.trans (List.suffix_cons _ _).isInfix)]

/-- A match ends with an `@`. -/
theorem undisturbed_of_no_at {more : List Char} (noAt : '@' ∉ more) (text : List Char) :
    Undisturbed urlCredentialPattern hidePassword more text := by
  cases replaced : urlCredentialPattern.replace? hidePassword text with
  | some result =>
      obtain ⟨user, password, isUser, isPassword, nonempty, rfl, same⟩ :=
        urlCredential_of_replace replaced
      unfold Undisturbed
      rw [replaced, Option.map_some, urlCredential_replace_iff]
      exact ⟨user, password, isUser, isPassword, nonempty, by simp, same⟩
  | none =>
      unfold Undisturbed
      rw [replaced, Option.map_none]
      cases extended : urlCredentialPattern.replace? hidePassword (text ++ more) with
      | none => rfl
      | some result =>
          obtain ⟨user, password, isUser, isPassword, nonempty, split, -⟩ :=
            urlCredential_of_replace extended
          -- The `@` of the match lies in `text`, and then all of the match does.
          obtain ⟨front, isFront⟩ : ∃ front,
              front = authorityMark ++ user ++ ':' :: password ++ ['@'] := ⟨_, rfl⟩
          have split' : text ++ more = front ++ result.2 := by rw [split, isFront]; simp
          have found : ∀ rest, text = front ++ rest → False := by
            intro rest inText
            have found : urlCredentialPattern.replace? hidePassword text =
                some (authorityMark ++ user ++ ':' :: (redacted ++ ['@']), rest) :=
              urlCredential_replace_iff.mpr
                ⟨user, password, isUser, isPassword, nonempty, by rw [inText, isFront]; simp, rfl⟩
            rw [replaced] at found
            cases found
          rcases List.append_eq_append_iff.mp split' with ⟨rest, inFront, isMore⟩ | ⟨rest, inText, -⟩
          · rcases List.eq_nil_or_concat rest with rfl | ⟨others, last, rfl⟩
            · exact absurd (by rw [inFront]; simp) (found [])
            · have isLast := congrArg List.getLast? inFront
              rw [isFront, List.concat_eq_append, List.getLast?_concat, ← List.append_assoc,
                List.getLast?_concat] at isLast
              cases isLast
              exact absurd (by rw [isMore]; simp) noAt
          · exact absurd inText (found rest)

/-- Without an `@` there is nothing to replace. -/
theorem withoutUrlCredentials_of_no_at {text : List Char} (noAt : '@' ∉ text) :
    withoutUrlCredentials text = text := by
  induction text with
  | nil => rfl
  | cons character rest ih =>
      obtain ⟨-, noAtRest⟩ := not_or.mp (List.mem_cons.not.mp noAt)
      have none : urlCredentialPattern.replace? hidePassword (character :: rest) = none := by
        cases replaced : urlCredentialPattern.replace? hidePassword (character :: rest) with
        | none => rfl
        | some result =>
            obtain ⟨user, password, -, -, -, split, -⟩ := urlCredential_of_replace replaced
            rw [split] at noAt
            exact absurd (by simp) noAt
      exact (sub_of_none none).trans (congrArg (character :: ·) (ih noAtRest))

/-- What follows the last `@` is kept. -/
theorem withoutUrlCredentials_append_of_no_at {more : List Char} (noAt : '@' ∉ more)
    (text : List Char) :
    withoutUrlCredentials (text ++ more) = withoutUrlCredentials text ++ more := by
  have cut : ∀ text : List Char,
      withoutUrlCredentials (text ++ more) =
        withoutUrlCredentials text ++ withoutUrlCredentials more := fun text =>
    sub_append_of_undisturbed urlCredentialPattern_proper fun part _ _ =>
      undisturbed_of_no_at noAt part
  rw [cut, withoutUrlCredentials_of_no_at noAt]

/-- The first pass only writes asterisks. -/
theorem mem_withoutUrlCredentials {text : List Char} {character : Char}
    (member : character ∈ withoutUrlCredentials text) : character ∈ text ∨ character = '*' := by
  rcases mem_sub urlCredentialPattern_proper member with
    inText | ⟨part, new, rest, ending, replaced, inNew⟩
  · exact .inl inText
  · obtain ⟨user, password, -, -, -, rfl, rfl⟩ := urlCredential_of_replace replaced
    have inPart : character = '*' ∨
        character ∈ authorityMark ++ user ++ ':' :: (password ++ '@' :: rest) := by
      simp only [redacted, List.mem_append, List.mem_cons, List.not_mem_nil, or_false] at inNew ⊢
      grind
    rcases inPart with star | inPart
    · exact .inr star
    · exact .inl (ending.subset inPart)

/-! ## Credentials under way -/

/-- `://user:` and the beginning of a password. -/
def credentialBeginning (text : List Char) : Bool :=
  ((seq urlCredentialPrefix (many passwordCharacter)).rests text).any List.isEmpty

/-- The credential that is under way at the end of a text, after what has been
written before it. -/
def credentialUnderWay (text : List Char) : Option (List Char × List Char) :=
  urlCredentialPattern.begun hidePassword credentialBeginning text

theorem accepts_authorityMark {text : List Char} :
    (word (literal "://")).Accepts text ↔ text = authorityMark := by
  have classes : literal "://" = [(· == ':'), (· == '/'), (· == '/')] := by
    simp [literal]
  rw [classes]
  simp [word, Accepts, authorityMark]

theorem begins_authorityMark {text : List Char}
    (begins : (word (literal "://")).Begins text) :
    text = [] ∨ text = [':'] ∨ text = [':', '/'] := by
  have classes : literal "://" = [(· == ':'), (· == '/'), (· == '/')] := by
    simp [literal]
  rw [classes] at begins
  simp only [word, Begins, Accepts, beq_iff_eq] at begins
  grind

theorem accepts_urlCredentialPrefix {text : List Char} :
    urlCredentialPrefix.Accepts text ↔ ∃ user, IsUser user ∧ text = authorityMark ++ user ++ [':'] := by
  constructor
  · rintro ⟨mark, _, rfl, isMark, user, _, rfl, isUser, _, isColon, rfl⟩
    rw [accepts_authorityMark.mp isMark, beq_iff_eq.mp isColon]
    exact ⟨user, accepts_plus.mp isUser, (List.append_assoc _ _ _).symm⟩
  · rintro ⟨user, isUser, rfl⟩
    exact ⟨authorityMark, user ++ [':'], List.append_assoc _ _ _, accepts_authorityMark.mpr rfl,
      user, [':'], rfl, accepts_plus.mpr isUser, ':', rfl, rfl⟩

theorem credentialBeginning_iff {text : List Char} :
    credentialBeginning text = true ↔ ∃ user password, IsUser user ∧ IsPassword password ∧
      text = authorityMark ++ user ++ ':' :: password := by
  unfold credentialBeginning
  rw [List.any_eq_true]
  constructor
  · rintro ⟨rest, member, empty⟩
    rw [List.isEmpty_iff.mp empty, mem_rests_iff] at member
    obtain ⟨_, rfl, front, password, rfl, isFront, isPassword⟩ := member
    obtain ⟨user, isUser, rfl⟩ := accepts_urlCredentialPrefix.mp isFront
    exact ⟨user, password, isUser, isPassword, by simp⟩
  · rintro ⟨user, password, isUser, isPassword, rfl⟩
    refine ⟨[], mem_rests_iff.mpr ⟨_, (List.append_nil _).symm, authorityMark ++ user ++ [':'],
      password, by simp, accepts_urlCredentialPrefix.mpr ⟨user, isUser, rfl⟩, isPassword⟩, rfl⟩

/-- A text with a second `:` that is not under way is not disturbed by what follows. -/
theorem undisturbed_of_not_under_way {character : Char} {rest : List Char} (colon : ':' ∈ rest)
    (notBeginning : credentialBeginning (character :: rest) = false) (more : List Char) :
    Undisturbed urlCredentialPattern hidePassword more (character :: rest) := by
  refine .of_not_begins fun begins => ?_
  rcases begins with (mark | ⟨mark, back, split, isMark, isUser⟩) |
    ⟨front, back, split, isPrefix, isPassword⟩
  · rcases begins_authorityMark mark with same | same | same
    · cases same
    · cases same
      cases colon
    · cases same
      exact absurd colon (by decide)
  · have isUser := begins_plus_one isUser
    rw [accepts_authorityMark.mp isMark] at split
    cases split
    have inBack : ':' ∈ back := by simpa using colon
    have isUserCharacter := isUser ':' inBack
    rw [userCharacter_colon] at isUserCharacter
    cases isUserCharacter
  · obtain ⟨user, isUser, rfl⟩ := accepts_urlCredentialPrefix.mp isPrefix
    have begins : credentialBeginning (character :: rest) = true :=
      credentialBeginning_iff.mpr ⟨user, back, isUser, begins_plus_one isPassword, by rw [split]; simp⟩
    rw [notBeginning] at begins
    cases begins

/-- A match does not go over text without an `@`. -/
theorem suffix_of_replaced_of_no_at {part tail new rest : List Char} (ending : tail <:+ part)
    (noAt : '@' ∉ tail)
    (replaced : urlCredentialPattern.replace? hidePassword part = some (new, rest)) :
    tail <:+ rest := by
  obtain ⟨user, password, -, -, -, split, -⟩ := urlCredential_of_replace replaced
  obtain ⟨front, rfl⟩ := ending
  have split' : front ++ tail = (authorityMark ++ user ++ ':' :: password) ++ '@' :: rest := by
    rw [split]
    simp
  rcases List.append_eq_append_iff.mp split' with ⟨more, -, isTail⟩ | ⟨more, -, isRest⟩
  · rw [isTail] at noAt
    exact absurd (by simp) noAt
  · rcases List.cons_eq_append_iff.mp isRest with ⟨-, isTail⟩ | ⟨more', -, isRest'⟩
    · rw [isTail] at noAt
      exact absurd (by simp) noAt
    · exact ⟨more', isRest'.symm⟩

/-- **Where a credential is under way** what has been written stays. -/
theorem withoutUrlCredentials_of_under_way {text written tail : List Char}
    (underWay : credentialUnderWay text = some (written, tail)) :
    ∃ user password, IsUser user ∧ IsPassword password ∧
      tail = authorityMark ++ user ++ ':' :: password ∧
      ∀ more, withoutUrlCredentials (text ++ more) =
        written ++ withoutUrlCredentials (tail ++ more) := by
  obtain ⟨-, begins⟩ := of_begun urlCredentialPattern_proper underWay
  obtain ⟨user, password, isUser, isPassword, rfl⟩ := credentialBeginning_iff.mp begins
  refine ⟨user, password, isUser, isPassword, rfl, fun more =>
    sub_append_of_begun urlCredentialPattern_proper underWay fun part after _ notBeginning => ?_⟩
  -- Another position before it has a `:` behind its first character.
  obtain ⟨front, rfl⟩ := after
  cases front with
  | nil =>
      rw [List.nil_append, begins] at notBeginning
      cases notBeginning
  | cons character others =>
      exact undisturbed_of_not_under_way (by simp [authorityMark]) notBeginning more

/-- The secret of a credential under way is replaced. -/
theorem withoutUrlCredentials_password {user password secret : List Char} (isUser : IsUser user)
    (isPassword : IsPassword password) (isSecret : IsPassword secret)
    (nonempty : password ++ secret ≠ []) (rest : List Char) :
    withoutUrlCredentials (authorityMark ++ user ++ ':' :: password ++ (secret ++ '@' :: rest)) =
      authorityMark ++ user ++ ':' :: (redacted ++ '@' :: withoutUrlCredentials rest) := by
  have replaced : urlCredentialPattern.replace? hidePassword
      (authorityMark ++ user ++ ':' :: password ++ (secret ++ '@' :: rest)) =
        some (authorityMark ++ user ++ ':' :: (redacted ++ ['@']), rest) :=
    urlCredential_replace_iff.mpr ⟨user, password ++ secret, isUser,
      List.forall_mem_append.mpr ⟨isPassword, isSecret⟩, nonempty, by simp, rfl⟩
  rw [withoutUrlCredentials, sub_of_replace urlCredentialPattern_proper replaced]
  simp [withoutUrlCredentials]

/-- **What follows a text with a credential under way** up to the next `@` is forgotten. -/
theorem forgets_of_under_way {text : List Char} (underWay : (credentialUnderWay text).isSome = true) :
    ∃ kept, ∀ secret rest, IsPassword secret → secret ≠ [] →
      withoutUrlCredentials (text ++ (secret ++ '@' :: rest)) =
        kept ++ withoutUrlCredentials rest := by
  obtain ⟨⟨written, tail⟩, isUnderWay⟩ := Option.isSome_iff_exists.mp underWay
  obtain ⟨user, password, isUser, isPassword, rfl, onward⟩ :=
    withoutUrlCredentials_of_under_way isUnderWay
  refine ⟨written ++ (authorityMark ++ user ++ ':' :: (redacted ++ ['@'])),
    fun secret rest isSecret nonempty => ?_⟩
  rw [onward, withoutUrlCredentials_password isUser isPassword isSecret (by simp [nonempty])]
  simp

/-- A `://user:` at the end of a text is under way, or part of a credential that is. -/
theorem credentialUnderWay_of_user (before : List Char) {user : List Char} (isUser : IsUser user)
    (noAt : '@' ∉ user) :
    (credentialUnderWay (before ++ (authorityMark ++ user ++ [':']))).isSome = true := by
  have begins : credentialBeginning (authorityMark ++ user ++ [':']) = true :=
    credentialBeginning_iff.mpr ⟨user, [], isUser, nofun, rfl⟩
  refine begun_isSome urlCredentialPattern_proper (List.suffix_append _ _) (by simp) begins
    fun part new rest ending replaced _ => suffix_of_replaced_of_no_at ending ?_ replaced
  simp [authorityMark, noAt]

/-- **Where no credential is under way** after a `:`, and none starts with it,
what follows is on its own. -/
theorem withoutUrlCredentials_of_not_under_way {text more : List Char}
    (notUnderWay : credentialUnderWay (text ++ [':']) = none)
    (none : urlCredentialPattern.replace? hidePassword (':' :: more) = none) :
    withoutUrlCredentials (text ++ ':' :: more) =
      withoutUrlCredentials (text ++ [':']) ++ withoutUrlCredentials more := by
  have cut : withoutUrlCredentials (text ++ [':'] ++ more) =
      withoutUrlCredentials (text ++ [':']) ++ withoutUrlCredentials more := by
    refine sub_append_of_not_begun urlCredentialPattern_proper notUnderWay
      fun part ending nonempty notBeginning => ?_
    rcases List.suffix_concat_iff.mp ending with rfl | ⟨front, rfl, -⟩
    · exact absurd rfl nonempty
    · cases front with
      | nil =>
          unfold Undisturbed
          rw [List.nil_append, List.singleton_append, none, urlCredential_none (by decide),
            Option.map_none]
      | cons character others =>
          exact undisturbed_of_not_under_way (by simp) notBeginning more
  rwa [List.append_assoc, List.singleton_append] at cut

/-! ## Passwords -/

/-- A URL with credentials in a text. -/
def credentialUrl (before user password after : String) : String :=
  before ++ "://" ++ user ++ ":" ++ password ++ "@" ++ after

theorem credentialUrl_toList (before user password after : String) :
    (credentialUrl before user password after).toList =
      before.toList ++ (authorityMark ++ user.toList ++ [':']) ++
        (password.toList ++ '@' :: after.toList) := by
  have mark : "://".toList = authorityMark := rfl
  have colon : ":".toList = [':'] := rfl
  have atSign : "@".toList = ['@'] := rfl
  simp [credentialUrl, mark, colon, atSign]

/-- A password of the claim's shape: not empty, without `@` and white space. -/
def PasswordText (password : String) : Prop :=
  password ≠ "" ∧ IsPassword password.toList

instance (password : List Char) : Decidable (IsPassword password) :=
  inferInstanceAs (Decidable (∀ character ∈ password, _))

/-- A password made of commas, without a user, stays in the text. -/
theorem redact_emptyUser {before after : List Char}
    (notUnderWay : ¬ (credentialUnderWay (before ++ [':'])).isSome = true) (more : List Char) :
    redact (before ++ (authorityMark ++ [] ++ [':']) ++ (',' :: more ++ '@' :: after)) =
      withoutSecrets (withoutUrlCredentials (before ++ [':']) ++ ['/', '/', ':']) ++
        ',' :: withoutSecrets (withoutUrlCredentials (more ++ '@' :: after)) := by
  have none : urlCredentialPattern.replace? hidePassword
      (':' :: '/' :: '/' :: ':' :: ',' :: (more ++ '@' :: after)) = none := by
    cases replaced : urlCredentialPattern.replace? hidePassword
        (':' :: '/' :: '/' :: ':' :: ',' :: (more ++ '@' :: after)) with
    | none => rfl
    | some result =>
        obtain ⟨user, password, ⟨nonempty, isUser⟩, -, -, split, -⟩ :=
          urlCredential_of_replace replaced
        cases user with
        | nil => exact absurd rfl nonempty
        | cons first rest =>
            simp only [authorityMark, List.cons_append, List.nil_append, List.cons.injEq,
              true_and] at split
            have isUserCharacter := isUser first List.mem_cons_self
            rw [← split.1, userCharacter_colon] at isUserCharacter
            cases isUserCharacter
  have cut := withoutUrlCredentials_of_not_under_way
    (Option.not_isSome_iff_eq_none.mp notUnderWay) none
  have text : before ++ (authorityMark ++ [] ++ [':']) ++ (',' :: more ++ '@' :: after) =
      before ++ ':' :: '/' :: '/' :: ':' :: ',' :: (more ++ '@' :: after) := by
    simp [authorityMark]
  rw [redact, text, cut, withoutUrlCredentials_cons (by simp [authorityMark]),
    withoutUrlCredentials_cons (by simp [authorityMark]),
    withoutUrlCredentials_cons (by simp [authorityMark]),
    withoutUrlCredentials_cons (by simp [authorityMark])]
  have cut' := withoutSecrets_append_delimiter (.inl rfl : ',' = ',' ∨ ',' = ';')
    (withoutUrlCredentials (before ++ [':']) ++ ['/', '/', ':'])
    (withoutUrlCredentials (more ++ '@' :: after))
  rwa [List.append_assoc] at cut'

/-- **When the redacted text does not depend on a URL's password**: the user is
not empty, or a credential is under way in the text before `://`. -/
theorem password_hidden_iff (before user after : String)
    (userText : ∀ character ∈ user.toList, userCharacter character = true ∧ character ≠ '@') :
    (∀ password other, PasswordText password → PasswordText other →
      redactText (credentialUrl before user password after) =
        redactText (credentialUrl before user other after)) ↔
      user ≠ "" ∨ (credentialUnderWay (before.toList ++ [':'])).isSome = true := by
  constructor
  · intro hidden
    by_contra exposed
    obtain ⟨noUser, notUnderWay⟩ := not_or.mp exposed
    rw [not_not] at noUser
    have same := congrArg (fun text => text.toList.length)
      (hidden "," ",," ⟨by decide, by decide⟩ ⟨by decide, by decide⟩)
    simp only [redactText, String.toList_ofList, credentialUrl_toList, noUser] at same
    rw [show ",".toList = ',' :: [] from rfl, show ",,".toList = ',' :: [','] from rfl,
      show "".toList = [] from rfl, redact_emptyUser notUnderWay, redact_emptyUser notUnderWay]
      at same
    have second : withoutUrlCredentials ([','] ++ '@' :: after.toList) =
        [] ++ ',' :: withoutUrlCredentials ('@' :: after.toList) :=
      withoutUrlCredentials_cons (by simp [authorityMark])
    rw [second, withoutSecrets_append_delimiter (.inl rfl)] at same
    simp [withoutSecrets] at same
  · intro reason password other isPassword isOther
    have hidden : ∃ kept, ∀ secret : String, PasswordText secret →
        redactText (credentialUrl before user secret after) = kept := by
      rcases reason with someUser | underWay
      · have isUser : IsUser user.toList :=
          ⟨fun empty => someUser (String.toList_eq_nil_iff.mp empty),
            fun character member => (userText character member).1⟩
        obtain ⟨kept, forgets⟩ := forgets_of_under_way
          (credentialUnderWay_of_user before.toList isUser fun member => (userText _ member).2 rfl)
        refine ⟨String.ofList (withoutSecrets (kept ++ withoutUrlCredentials after.toList)),
          fun secret isSecret => ?_⟩
        rw [redactText, redact, credentialUrl_toList, forgets _ _ isSecret.2 fun empty =>
          isSecret.1 (String.toList_eq_nil_iff.mp empty)]
      · obtain ⟨kept, forgets⟩ := forgets_of_under_way underWay
        refine ⟨String.ofList (withoutSecrets (kept ++ withoutUrlCredentials after.toList)),
          fun secret isSecret => ?_⟩
        have inPassword : IsPassword ('/' :: '/' :: (user.toList ++ ':' :: secret.toList)) := by
          refine List.forall_mem_cons.mpr ⟨rfl, List.forall_mem_cons.mpr ⟨rfl,
            List.forall_mem_append.mpr ⟨fun character member => ?_,
              List.forall_mem_cons.mpr ⟨rfl, isSecret.2⟩⟩⟩⟩
          obtain ⟨isUserCharacter, notAt⟩ := userText character member
          exact passwordCharacter_of_user isUserCharacter notAt
        have text : (credentialUrl before user secret after).toList = before.toList ++ [':'] ++
            ('/' :: '/' :: (user.toList ++ ':' :: secret.toList) ++ '@' :: after.toList) := by
          rw [credentialUrl_toList]
          simp [authorityMark]
        rw [redactText, redact, text, forgets _ _ inPassword (List.cons_ne_nil _ _)]
    obtain ⟨kept, same⟩ := hidden
    rw [same password isPassword, same other isOther]

/-- A password with a user is hidden. -/
theorem password_hidden_iff_postgresql :
    redactText (credentialUrl "postgresql" "user" "hunter2" "localhost/db") =
      redactText (credentialUrl "postgresql" "user" "letmein" "localhost/db") :=
  (password_hidden_iff "postgresql" "user" "localhost/db" (by decide)).mpr
    (.inl (by decide)) "hunter2" "letmein" ⟨by decide, by decide⟩
    ⟨by decide, by decide⟩

/-- **The password of `redis://:password@host` stays in the text.** -/
theorem emptyUser_password_shown :
    ¬ ∀ before user after : String,
      (∀ character ∈ user.toList, userCharacter character = true ∧ character ≠ '@') →
      ∀ password other, PasswordText password → PasswordText other →
        redactText (credentialUrl before user password after) =
          redactText (credentialUrl before user other after) := by
  intro hidden
  have same := hidden "redis" "" "cache:6379" (by decide) "hunter2" "letmein"
    ⟨by decide, by decide⟩ ⟨by decide, by decide⟩
  exact absurd same (by decide)

end BidSystem.Telemetry
