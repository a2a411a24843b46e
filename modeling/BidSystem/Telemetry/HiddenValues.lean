import BidSystem.Telemetry.InlineSecrets

/-!
# Values in running text

Both passes of `redact_text` on a text with a key, a separator and a value in
it.  The first pass looks at the text before the value, and may be in the middle
of a URL there: it may read the value as a part of a user or of a password.
-/

namespace BidSystem.Telemetry

open Regex Pattern

/-! ## The first pass up to the value -/

/-- The beginning of `://user`. -/
def markBeginning (text : List Char) : Bool :=
  text == [':'] || text == [':', '/'] ||
    (authorityMark.isPrefixOf text && (text.drop 3).all userCharacter)

theorem markBeginning_iff {text : List Char} :
    markBeginning text = true ↔ text = [':'] ∨ text = [':', '/'] ∨
      ∃ user, text = authorityMark ++ user ∧ ∀ character ∈ user, userCharacter character = true := by
  unfold markBeginning
  rw [Bool.or_eq_true, Bool.or_eq_true, Bool.and_eq_true, beq_iff_eq, beq_iff_eq, or_assoc,
    List.isPrefixOf_iff_prefix, List.all_eq_true]
  refine or_congr_right (or_congr_right ⟨?_, ?_⟩)
  · rintro ⟨⟨user, rfl⟩, isUser⟩
    exact ⟨user, rfl, isUser⟩
  · rintro ⟨user, rfl, isUser⟩
    exact ⟨⟨user, rfl⟩, isUser⟩

/-- After its first character there is no `:` in it. -/
theorem exists_cons_of_markBeginning {text : List Char} (begins : markBeginning text = true) :
    ∃ rest, text = ':' :: rest ∧ ':' ∉ rest := by
  rcases markBeginning_iff.mp begins with rfl | rfl | ⟨user, rfl, isUser⟩
  · exact ⟨[], rfl, List.not_mem_nil⟩
  · exact ⟨['/'], rfl, by decide⟩
  · refine ⟨'/' :: '/' :: user, rfl, ?_⟩
    simp only [List.mem_cons, not_or]
    refine ⟨by decide, by decide, fun member => ?_⟩
    have isUserCharacter := isUser ':' member
    rw [userCharacter_colon] at isUserCharacter
    cases isUserCharacter

/-- A text without a `:` is kept. -/
theorem withoutUrlCredentials_append_of_no_colon {front : List Char} (noColon : ':' ∉ front)
    (rest : List Char) :
    withoutUrlCredentials (front ++ rest) = front ++ withoutUrlCredentials rest := by
  induction front with
  | nil => rfl
  | cons character others ih =>
      obtain ⟨notColon, noColonRest⟩ := not_or.mp (List.mem_cons.not.mp noColon)
      rw [List.cons_append, withoutUrlCredentials_cons, ih noColonRest, List.cons_append]
      rintro ⟨more, split⟩
      exact notColon (List.cons.inj split).1

/-- **The first pass where no credential is under way.**  There may be the
beginning of a `://user`, to which what follows is added. -/
theorem withoutUrlCredentials_split {text : List Char} (notUnderWay : credentialUnderWay text = none) :
    ∃ written tail, (tail = [] ∨ markBeginning tail = true) ∧
      ∀ more, withoutUrlCredentials (text ++ more) =
        written ++ withoutUrlCredentials (tail ++ more) := by
  have undisturbed : ∀ part more, part ≠ [] →
      (credentialBeginning part || markBeginning part) = false →
      Undisturbed urlCredentialPattern hidePassword more part := by
    intro part more nonempty neither
    obtain ⟨notCredential, notMark⟩ := Bool.or_eq_false_iff.mp neither
    refine .of_not_begins fun begins => ?_
    rw [← Bool.not_eq_true, markBeginning_iff] at notMark
    rcases begins with (mark | ⟨mark, back, split, isMark, isUser⟩) |
      ⟨front, back, split, isPrefix, isPassword⟩
    · rcases begins_authorityMark mark with same | same | same
      · exact nonempty same
      · exact notMark (.inl same)
      · exact notMark (.inr (.inl same))
    · rw [accepts_authorityMark.mp isMark] at split
      exact notMark (.inr (.inr ⟨back, split, begins_plus_one isUser⟩))
    · obtain ⟨user, isUser, rfl⟩ := accepts_urlCredentialPrefix.mp isPrefix
      have begins : credentialBeginning part = true :=
        credentialBeginning_iff.mpr ⟨user, back, isUser, begins_plus_one isPassword, by rw [split]; simp⟩
      rw [notCredential] at begins
      cases begins
  have same := begun_or urlCredentialPattern_proper notUnderWay markBeginning
  cases isBegun : urlCredentialPattern.begun hidePassword markBeginning text with
  | none =>
      rw [isBegun] at same
      refine ⟨withoutUrlCredentials text, [], .inl rfl, fun more => ?_⟩
      exact sub_append_of_not_begun urlCredentialPattern_proper same
        fun part _ nonempty neither => undisturbed part more nonempty neither
  | some result =>
      obtain ⟨written, tail⟩ := result
      rw [isBegun] at same
      obtain ⟨-, begins⟩ := of_begun urlCredentialPattern_proper isBegun
      refine ⟨written, tail, .inr begins, fun more => ?_⟩
      refine sub_append_of_begun urlCredentialPattern_proper same
        fun part after _ neither => undisturbed part more ?_ neither
      rintro rfl
      obtain ⟨rest, rfl, -⟩ := exists_cons_of_markBeginning begins
      exact absurd (List.suffix_nil.mp after) (List.cons_ne_nil _ _)

/-- A match that starts with the beginning of a `://user` keeps it. -/
theorem replaced_of_markBeginning {tail more new rest : List Char}
    (begins : markBeginning tail = true)
    (replaced : urlCredentialPattern.replace? hidePassword (tail ++ more) = some (new, rest)) :
    ∃ user added password, IsUser user ∧ IsPassword password ∧ password ≠ [] ∧
      authorityMark ++ user = tail ++ added ∧ more = added ++ ':' :: (password ++ '@' :: rest) ∧
      new = tail ++ (added ++ ':' :: (redacted ++ ['@'])) := by
  obtain ⟨user, password, isUser, isPassword, nonempty, split, rfl⟩ :=
    urlCredential_replace_iff.mp replaced
  obtain ⟨inner, rfl, noColon⟩ := exists_cons_of_markBeginning begins
  rcases List.append_eq_append_iff.mp split with ⟨added, isMark, isMore⟩ | ⟨added, isTail, isColon⟩
  · refine ⟨user, added, password, isUser, isPassword, nonempty, isMark, isMore, ?_⟩
    rw [isMark, List.append_assoc]
  · cases added with
    | nil =>
        rw [List.append_nil] at isTail
        refine ⟨user, [], password, isUser, isPassword, nonempty, ?_, isColon.symm, ?_⟩
        · rw [List.append_nil, isTail]
        · rw [isTail, List.nil_append]
    | cons colon others =>
        obtain ⟨rfl, -⟩ := List.cons.inj isColon
        have inInner : ':' ∈ inner := by
          rw [authorityMark, List.cons_append, List.cons_append] at isTail
          rw [(List.cons.inj isTail).2]
          simp
        exact absurd inInner noColon

/-- Without a match the beginning of a `://user` is kept, and what follows is on its own. -/
theorem withoutUrlCredentials_of_markBeginning {tail more : List Char}
    (begins : markBeginning tail = true)
    (none : urlCredentialPattern.replace? hidePassword (tail ++ more) = none) :
    withoutUrlCredentials (tail ++ more) = tail ++ withoutUrlCredentials more := by
  obtain ⟨inner, rfl, noColon⟩ := exists_cons_of_markBeginning begins
  rw [List.cons_append] at none ⊢
  rw [withoutUrlCredentials, sub_of_none none, List.cons_append, List.cons.injEq]
  exact ⟨rfl, withoutUrlCredentials_append_of_no_colon noColon more⟩

/-- The beginning of a `://user` is kept at the end of a text. -/
theorem withoutUrlCredentials_markBeginning {tail : List Char} (begins : markBeginning tail = true) :
    withoutUrlCredentials tail = tail := by
  have none : urlCredentialPattern.replace? hidePassword (tail ++ []) = none := by
    cases replaced : urlCredentialPattern.replace? hidePassword (tail ++ []) with
    | none => rfl
    | some result =>
        obtain ⟨_, added, _, -, -, -, -, isMore, -⟩ := replaced_of_markBeginning begins replaced
        exact absurd isMore.symm (by simp)
  have kept := withoutUrlCredentials_of_markBeginning begins none
  rwa [List.append_nil, show withoutUrlCredentials [] = [] from rfl, List.append_nil] at kept

/-- There is no match with an empty password. -/
theorem withoutUrlCredentials_of_emptyPassword {user : List Char} (isUser : IsUser user)
    (rest : List Char) :
    withoutUrlCredentials (authorityMark ++ user ++ ':' :: '@' :: rest) =
      authorityMark ++ user ++ ':' :: '@' :: withoutUrlCredentials rest := by
  have begins : markBeginning (authorityMark ++ user) = true :=
    markBeginning_iff.mpr (.inr (.inr ⟨user, rfl, isUser.2⟩))
  have none : urlCredentialPattern.replace? hidePassword
      (authorityMark ++ user ++ ':' :: '@' :: rest) = none := by
    cases replaced : urlCredentialPattern.replace? hidePassword
        (authorityMark ++ user ++ ':' :: '@' :: rest) with
    | none => rfl
    | some result =>
        obtain ⟨other, added, password, isOther, isPassword, nonempty, isAdded, isMore, -⟩ :=
          replaced_of_markBeginning begins replaced
        rw [List.append_assoc] at isAdded
        obtain rfl := List.append_cancel_left isAdded
        cases added with
        | cons first others =>
            obtain ⟨rfl, -⟩ := List.cons.inj isMore
            have isUserCharacter := isOther.2 ':' (by simp)
            rw [userCharacter_colon] at isUserCharacter
            cases isUserCharacter
        | nil =>
            obtain ⟨first, others, rfl⟩ := List.exists_cons_of_ne_nil nonempty
            obtain ⟨rfl, -⟩ := List.cons.inj (List.cons.inj isMore).2
            have isPasswordCharacter := isPassword '@' List.mem_cons_self
            rw [passwordCharacter_at] at isPasswordCharacter
            cases isPasswordCharacter
  rw [withoutUrlCredentials_of_markBeginning begins none,
    withoutUrlCredentials_cons (by simp [authorityMark]),
    withoutUrlCredentials_cons (by simp [authorityMark])]

/-- What the first pass changes has asterisks in it afterwards. -/
theorem withoutUrlCredentials_eq_or_star (text : List Char) :
    withoutUrlCredentials text = text ∨ '*' ∈ withoutUrlCredentials text := by
  unfold withoutUrlCredentials
  induction text using sub_induction hidePassword urlCredentialPattern_proper with
  | nil => exact .inl rfl
  | pass character rest none ih =>
      rw [sub_of_none none]
      rcases ih with same | star
      · exact .inl (by rw [same])
      · exact .inr (List.mem_cons_of_mem _ star)
  | replace text new rest replaced ih =>
      rw [sub_of_replace urlCredentialPattern_proper replaced]
      obtain ⟨_, _, -, -, -, -, rfl⟩ := urlCredential_replace_iff.mp replaced
      exact .inr (by simp [redacted])

/-- What the first pass keeps of a text for a value after it, and the password it is reading
there. -/
def FirstPass (text kept password : List Char) : Prop :=
  (credentialUnderWay text = none ∧ kept = withoutUrlCredentials text ∧ password = []) ∨
    ∃ written user, IsUser user ∧ IsPassword password ∧
      credentialUnderWay text = some (written, authorityMark ++ user ++ ':' :: password) ∧
      kept = written ++ (authorityMark ++ user ++ [':'])

namespace FirstPass

theorem exists_of_text (text : List Char) : ∃ kept password, FirstPass text kept password := by
  cases underWay : credentialUnderWay text with
  | none => exact ⟨_, [], .inl ⟨underWay, rfl, rfl⟩⟩
  | some result =>
      obtain ⟨written, tail⟩ := result
      obtain ⟨user, password, isUser, isPassword, rfl, -⟩ := withoutUrlCredentials_of_under_way underWay
      exact ⟨_, password, .inr ⟨written, user, isUser, isPassword, underWay, rfl⟩⟩

variable {text kept password : List Char} (firstPass : FirstPass text kept password)
include firstPass

/-- A value without an `@` stays. -/
theorem of_no_at {value : List Char} (noAt : '@' ∉ value) :
    withoutUrlCredentials (text ++ value) = kept ++ (password ++ value) := by
  rcases firstPass with ⟨-, rfl, rfl⟩ | ⟨written, user, isUser, isPassword, underWay, rfl⟩
  · exact withoutUrlCredentials_append_of_no_at noAt text
  · obtain ⟨_, _, -, -, -, onward⟩ := withoutUrlCredentials_of_under_way underWay
    have noAtPassword : '@' ∉ password ++ value := by
      rw [List.mem_append, not_or]
      refine ⟨fun member => ?_, noAt⟩
      have isPasswordCharacter := isPassword '@' member
      rw [passwordCharacter_at] at isPasswordCharacter
      cases isPasswordCharacter
    have beginning : withoutUrlCredentials (authorityMark ++ user ++ [':']) =
        authorityMark ++ user ++ [':'] := by
      rw [withoutUrlCredentials_append_of_no_at (by decide), withoutUrlCredentials_markBeginning
        (markBeginning_iff.mpr (.inr (.inr ⟨user, rfl, isUser.2⟩)))]
    rw [onward, show authorityMark ++ user ++ ':' :: password ++ value =
      authorityMark ++ user ++ [':'] ++ (password ++ value) by simp,
      withoutUrlCredentials_append_of_no_at noAtPassword, beginning]
    simp

/-- **What the first pass makes of a value** is the value after the password, or
has an asterisk or an `@` in it. -/
theorem value {value : List Char} (noSpace : ∀ character ∈ value, isSpace character = false) :
    ∃ value', withoutUrlCredentials (text ++ value) = kept ++ value' ∧
      (value' = password ++ value ∨ '*' ∈ value' ∨ '@' ∈ value') ∧
      ∀ character ∈ value', character ∈ password ++ value ∨ character = '*' := by
  rcases firstPass with ⟨notUnderWay, rfl, rfl⟩ | ⟨written, user, isUser, isPassword, underWay, rfl⟩
  · obtain ⟨written, tail, isTail, onward⟩ := withoutUrlCredentials_split notUnderWay
    have kept := onward []
    rw [List.append_nil, List.append_nil] at kept
    have alone : (withoutUrlCredentials value = value ∨ '*' ∈ withoutUrlCredentials value ∨
        '@' ∈ withoutUrlCredentials value) ∧
        ∀ character ∈ withoutUrlCredentials value, character ∈ value ∨ character = '*' :=
      ⟨(withoutUrlCredentials_eq_or_star value).imp_right .inl,
        fun _ member => mem_withoutUrlCredentials member⟩
    rw [onward, kept]
    rcases isTail with rfl | begins
    · exact ⟨withoutUrlCredentials value, by simp [withoutUrlCredentials], alone⟩
    · rw [withoutUrlCredentials_markBeginning begins]
      cases replaced : urlCredentialPattern.replace? hidePassword (tail ++ value) with
      | none =>
          rw [withoutUrlCredentials_of_markBeginning begins replaced, ← List.append_assoc]
          exact ⟨_, rfl, alone⟩
      | some result =>
          obtain ⟨new, rest⟩ := result
          obtain ⟨_, added, secret, -, -, -, -, rfl, rfl⟩ :=
            replaced_of_markBeginning begins replaced
          refine ⟨added ++ ':' :: (redacted ++ '@' :: withoutUrlCredentials rest), ?_,
            .inr (.inl (by simp [redacted])), ?_⟩
          · rw [withoutUrlCredentials, sub_of_replace urlCredentialPattern_proper replaced]
            simp [withoutUrlCredentials]
          · intro character member
            simp only [redacted, List.mem_append, List.mem_cons, List.not_mem_nil] at member ⊢
            rcases member with inAdded | rfl | (star | star | star | nothing) | rfl | inRest
            · simp [inAdded]
            · simp
            · exact .inr star
            · exact .inr star
            · exact .inr star
            · exact nothing.elim
            · simp
            · rcases mem_withoutUrlCredentials inRest with inRest | star
              · simp [inRest]
              · exact .inr star
  · obtain ⟨_, _, -, -, -, onward⟩ := withoutUrlCredentials_of_under_way underWay
    by_cases atSign : '@' ∈ value
    · obtain ⟨front, rest, rfl, noAt⟩ := List.eq_append_cons_of_mem atSign
      have isFront : IsPassword front := by
        intro character member
        have notAt : character ≠ '@' := fun same => noAt (same ▸ member)
        simp [passwordCharacter, notAt, noSpace character (List.mem_append_left _ member)]
      rw [onward]
      by_cases nonempty : password ++ front = []
      · obtain ⟨rfl, rfl⟩ := List.append_eq_nil_iff.mp nonempty
        refine ⟨'@' :: withoutUrlCredentials rest, ?_, .inr (.inr List.mem_cons_self), ?_⟩
        · rw [show authorityMark ++ user ++ [':'] ++ ([] ++ '@' :: rest) =
            authorityMark ++ user ++ ':' :: '@' :: rest by simp,
            withoutUrlCredentials_of_emptyPassword isUser]
          simp
        · intro character member
          rcases List.mem_cons.mp member with rfl | inRest
          · simp
          · rcases mem_withoutUrlCredentials inRest with inRest | star
            · simp [inRest]
            · exact .inr star
      · rw [withoutUrlCredentials_password isUser isPassword isFront nonempty]
        refine ⟨redacted ++ '@' :: withoutUrlCredentials rest, by simp,
          .inr (.inl (by simp [redacted])), ?_⟩
        intro character member
        simp only [redacted, List.mem_append, List.mem_cons, List.not_mem_nil] at member ⊢
        rcases member with (star | star | star | nothing) | rfl | inRest
        · exact .inr star
        · exact .inr star
        · exact .inr star
        · exact nothing.elim
        · simp
        · rcases mem_withoutUrlCredentials inRest with inRest | star
          · simp [inRest]
          · exact .inr star
    · have kept := of_no_at (.inr ⟨written, user, isUser, isPassword, underWay, rfl⟩) atSign
      exact ⟨password ++ value, kept, .inl rfl, fun _ member => .inl member⟩

/-- The password is at the end of the text. -/
theorem suffix : IsPassword password ∧ password <:+ text := by
  rcases firstPass with ⟨-, -, rfl⟩ | ⟨written, user, -, isPassword, underWay, -⟩
  · exact ⟨nofun, List.nil_suffix⟩
  · obtain ⟨ending, -⟩ := of_begun urlCredentialPattern_proper underWay
    refine ⟨isPassword, List.IsSuffix.trans ⟨authorityMark ++ user ++ [':'], ?_⟩ ending⟩
    simp

/-- **A secret that the first pass takes for a password** is forgotten up to its `@`. -/
theorem of_at (underWay : credentialUnderWay text ≠ none) {secret : List Char}
    (isSecret : IsPassword secret) (nonempty : secret ≠ []) (rest : List Char) :
    withoutUrlCredentials (text ++ (secret ++ '@' :: rest)) =
      kept ++ (redacted ++ '@' :: withoutUrlCredentials rest) := by
  rcases firstPass with ⟨notUnderWay, -⟩ | ⟨written, user, isUser, isPassword, isUnderWay, rfl⟩
  · exact absurd notUnderWay underWay
  · obtain ⟨_, _, -, -, -, onward⟩ := withoutUrlCredentials_of_under_way isUnderWay
    rw [onward, withoutUrlCredentials_password isUser isPassword isSecret (by simp [nonempty])]
    simp

end FirstPass

/-! ## Text after the value -/

/-- The text up to its first white space. -/
def firstWord (text : List Char) : List Char := text.takeWhile fun character => !isSpace character

/-- The value ends where the text after it starts. -/
abbrev StopsValue (after : List Char) : Prop :=
  Stops (fun character => valueCharacter character = true) after

theorem stopsValue_withoutUrlCredentials {after : List Char} (stops : StopsValue after) :
    StopsValue (withoutUrlCredentials after) := by
  cases after with
  | nil => exact stops
  | cons character rest =>
      rw [withoutUrlCredentials_cons]
      · exact stops
      · rintro ⟨more, split⟩
        refine stops ?_
        rw [← (List.cons.inj split).1]
        decide

/-- **What follows a value** without an `@` in its first word does not depend on it. -/
theorem withoutUrlCredentials_after {after : List Char} (stops : StopsValue after)
    (noAt : '@' ∉ firstWord after) :
    ∃ after', StopsValue after' ∧ ∀ text,
      withoutUrlCredentials (text ++ after) = withoutUrlCredentials text ++ after' := by
  have split : firstWord after ++ after.dropWhile (fun character => !isSpace character) = after :=
    List.takeWhile_append_dropWhile
  have space : Stops (fun character => isSpace character = false)
      (after.dropWhile fun character => !isSpace character) := by
    have head := List.head?_dropWhile_not (fun character => !isSpace character) after
    cases isDropped : after.dropWhile fun character => !isSpace character with
    | nil => trivial
    | cons character rest =>
        rw [isDropped] at head
        show ¬ isSpace character = false
        simpa using head
  refine ⟨firstWord after ++
    withoutUrlCredentials (after.dropWhile fun character => !isSpace character), ?_, fun text => ?_⟩
  · cases after with
    | nil => trivial
    | cons character rest =>
        cases isSpace' : isSpace character with
        | false => simpa [firstWord, isSpace', StopsValue, Stops] using stops
        | true => simpa [firstWord, isSpace'] using stopsValue_withoutUrlCredentials stops
  · conv_lhs => rw [← split]
    rw [← List.append_assoc, withoutUrlCredentials_append_space space,
      withoutUrlCredentials_append_of_no_at noAt, List.append_assoc]

/-- A value that the first pass only sees as a part of a user. -/
def IsPlain (value : List Char) : Prop :=
  ∀ character ∈ value, userCharacter character = true ∧ character ≠ '@'

/-- **Where no credential is under way a plain value stays**, and what follows
does not depend on it. -/
theorem withoutUrlCredentials_plain {text after : List Char}
    (notUnderWay : credentialUnderWay text = none) (stops : StopsValue after) :
    ∃ after', StopsValue after' ∧ ∀ value, IsPlain value → value ≠ [] →
      withoutUrlCredentials (text ++ (value ++ after)) =
        withoutUrlCredentials text ++ (value ++ after') := by
  obtain ⟨written, tail, isTail, onward⟩ := withoutUrlCredentials_split notUnderWay
  have kept := onward []
  rw [List.append_nil, List.append_nil] at kept
  have noColon : ∀ value, IsPlain value → ':' ∉ value := by
    intro value isPlain member
    have isUserCharacter := (isPlain ':' member).1
    rw [userCharacter_colon] at isUserCharacter
    cases isUserCharacter
  rcases isTail with rfl | begins
  · refine ⟨withoutUrlCredentials after, stopsValue_withoutUrlCredentials stops,
      fun value isPlain _ => ?_⟩
    rw [onward, kept, List.nil_append, withoutUrlCredentials_append_of_no_colon (noColon value isPlain)]
    simp [withoutUrlCredentials]
  · rw [withoutUrlCredentials_markBeginning begins] at kept
    -- The user may go on after the value, up to a password there.
    by_cases completes : ∃ user added password rest, tail = authorityMark ++ user ∧
        (∀ character ∈ user ++ added, userCharacter character = true) ∧ IsPassword password ∧
          password ≠ [] ∧ after = added ++ ':' :: (password ++ '@' :: rest)
    · obtain ⟨user, added, password, rest, rfl, isUser, isPassword, nonempty, rfl⟩ := completes
      refine ⟨added ++ ':' :: (redacted ++ '@' :: withoutUrlCredentials rest), ?_,
        fun value isPlain someValue => ?_⟩
      · cases added with
        | nil => exact absurd (by decide) stops
        | cons first others => exact stops
      · have replaced : urlCredentialPattern.replace? hidePassword
            (authorityMark ++ user ++ (value ++ (added ++ ':' :: (password ++ '@' :: rest)))) =
              some (authorityMark ++ (user ++ value ++ added) ++ ':' :: (redacted ++ ['@']), rest) := by
          refine urlCredential_replace_iff.mpr ⟨user ++ value ++ added, password,
            ⟨by simp [someValue], fun character member => ?_⟩, isPassword, nonempty, by simp, rfl⟩
          simp only [List.mem_append] at member
          rcases member with (inUser | inValue) | inAdded
          · exact isUser character (List.mem_append_left _ inUser)
          · exact (isPlain character inValue).1
          · exact isUser character (List.mem_append_right _ inAdded)
        rw [onward, kept, withoutUrlCredentials,
          sub_of_replace urlCredentialPattern_proper replaced]
        simp [withoutUrlCredentials]
    · refine ⟨withoutUrlCredentials after, stopsValue_withoutUrlCredentials stops,
        fun value isPlain someValue => ?_⟩
      have none : urlCredentialPattern.replace? hidePassword (tail ++ (value ++ after)) = none := by
        cases replaced : urlCredentialPattern.replace? hidePassword (tail ++ (value ++ after)) with
        | none => rfl
        | some result =>
            obtain ⟨user, added, password, isUser, isPassword, nonempty, isAdded, isMore, -⟩ :=
              replaced_of_markBeginning begins replaced
            obtain ⟨first, others, rfl⟩ := List.exists_cons_of_ne_nil someValue
            have notSlash : first ≠ '/' := by
              rintro rfl
              exact absurd (isPlain '/' List.mem_cons_self).1 (by decide)
            rcases List.append_eq_append_iff.mp isMore with ⟨x, rfl, isAfter⟩ | ⟨x, isValue, isRest⟩
            · rcases markBeginning_iff.mp begins with rfl | rfl | ⟨user', rfl, -⟩
              · exact absurd (List.cons.inj (List.cons.inj isAdded).2).1.symm notSlash
              · exact absurd (List.cons.inj (List.cons.inj (List.cons.inj isAdded).2).2).1.symm notSlash
              · rw [List.append_assoc] at isAdded
                obtain rfl := List.append_cancel_left isAdded
                refine absurd ⟨user', x, password, _, rfl, fun character member => ?_, isPassword,
                  nonempty, isAfter⟩ completes
                refine isUser.2 character ?_
                simp only [List.mem_append] at member ⊢
                exact member.imp_right .inr
            · cases x with
              | nil =>
                  rw [List.nil_append] at isRest
                  rw [← isRest] at stops
                  exact absurd (by decide) stops
              | cons colon more =>
                  obtain ⟨rfl, -⟩ := List.cons.inj isRest
                  exact absurd (by rw [isValue]; simp) (noColon _ isPlain)
      rw [onward, kept, withoutUrlCredentials_of_markBeginning begins none,
        withoutUrlCredentials_append_of_no_colon (noColon value isPlain), List.append_assoc]

/-! ## Values after a key -/

section Pair

variable {before key between after : List Char} (isKey : IsKey key)
  (isBetween : IsSeparator between)

include isBetween in
theorem endsSeparated_of_separator (front : List Char) : EndsSeparated (front ++ between) := by
  obtain ⟨before, sign, after, marker, rfl, -, isSign, isAfter, isMarker⟩ := isBetween
  exact ⟨front ++ before, sign, after, marker, by simp, isSign, isAfter, isMarker⟩

include isKey isBetween in
/-- A key and a separator have no `@`. -/
theorem no_at_of_key : '@' ∉ key ++ between := by
  have inKey : ∀ {text : List Char}, (∀ character ∈ text, KeyCharacter character) → '@' ∉ text :=
    fun keyCharacters member => absurd (keyCharacters '@' member) (by decide)
  have inSpaces : ∀ {text : List Char}, IsSpaces text → '@' ∉ text :=
    fun isSpaces member => absurd (isSpaces '@' member) (by decide)
  obtain ⟨front, sign, back, marker, rfl, isFront, isSign, isBack, isMarker⟩ := isBetween
  have noSign : '@' ≠ sign := by
    rintro rfl
    exact absurd isSign (by decide)
  have noMarker : '@' ∉ marker := by
    rcases isMarker with rfl | ⟨bearer, spaces, rfl, isBearer, -, isSpaces⟩
    · exact List.not_mem_nil
    · rw [List.mem_append, not_or]
      exact ⟨inKey (keyCharacter_of_mem_bearer isBearer), inSpaces isSpaces⟩
  simp only [List.mem_append, List.mem_cons, not_or]
  exact ⟨inKey (keyCharacter_of_mem isKey), inSpaces isFront, noSign, inSpaces isBack, noMarker⟩

include isKey isBetween in
/-- What the first pass keeps ends with a separator. -/
theorem FirstPass.endsSeparated {kept password : List Char}
    (firstPass : FirstPass (before ++ (key ++ between)) kept password) : EndsSeparated kept := by
  rcases firstPass with ⟨-, rfl, -⟩ | ⟨written, user, -, -, -, rfl⟩
  · rw [withoutUrlCredentials_append_of_no_at (no_at_of_key isKey isBetween), ← List.append_assoc]
    exact endsSeparated_of_separator isBetween _
  · exact ⟨written ++ (authorityMark ++ user), ':', [], [], by simp, rfl, nofun, .inl rfl⟩

/-- A value of a secret: not empty, without white space, `,` and `;`, and not the word `Bearer`. -/
structure IsSecret (value : List Char) : Prop where
  nonempty : value ≠ []
  isValue : IsValue value
  notBearer : ¬ IsBearer value

/-- **The text hides every value after it**: a secret is under way at the end of
what the first pass keeps of the text, and the password that the pass is reading
there has no `,` and no `;`. -/
def Hides (text : List Char) : Prop :=
  ∃ kept password, FirstPass text kept password ∧ (secretUnderWay kept).isSome = true ∧
    ∀ character ∈ password, character ≠ ',' ∧ character ≠ ';'

/-- **The text hides every plain value after it**: the value is taken for a part
of a password that ends in the next word, or a secret is under way. -/
def HidesPlain (text after : List Char) : Prop :=
  (credentialUnderWay text ≠ none ∧ '@' ∈ firstWord after) ∨
    (secretUnderWay (withoutUrlCredentials text)).isSome = true

/-- What is not made of key characters is no word `Bearer`. -/
theorem not_isBearer_of_mem {value : List Char} {character : Char} (member : character ∈ value)
    (notKey : ¬ KeyCharacter character) : ¬ IsBearer value := fun isBearer =>
  notKey (keyCharacter_of_mem_bearer isBearer character member)

include isKey isBetween in
/-- A text that hides values makes the same of all of them. -/
theorem redact_of_hides (hides : Hides (before ++ (key ++ between))) (stops : StopsValue after)
    (noAt : '@' ∉ firstWord after) :
    ∃ redaction, ∀ value, IsSecret value →
      redact (before ++ (key ++ between) ++ (value ++ after)) = redaction := by
  obtain ⟨kept, password, firstPass, underWay, noDelimiter⟩ := hides
  obtain ⟨⟨written, tail⟩, isUnderWay⟩ := Option.isSome_iff_exists.mp underWay
  obtain ⟨after', stops', onward⟩ := withoutUrlCredentials_after stops noAt
  refine ⟨written ++ redacted ++ withoutSecrets after', fun value isSecret => ?_⟩
  obtain ⟨value', isValue', shape, inValue'⟩ := firstPass.value fun character member =>
    isSpace_of_valueCharacter (isSecret.isValue character member)
  have separated := firstPass.endsSeparated isKey isBetween
  obtain ⟨isPassword', ending⟩ := firstPass.suffix
  have isPassword : IsValue password := by
    intro character member
    have isPasswordCharacter := isPassword' character member
    obtain ⟨notComma, notSemicolon⟩ := noDelimiter character member
    simp only [passwordCharacter, Bool.not_eq_true', Bool.or_eq_false_iff] at isPasswordCharacter
    simp [valueCharacter, isPasswordCharacter.2, notComma, notSemicolon]
  have nonempty : value' ≠ [] := by
    rcases shape with rfl | star | atSign
    · simp [isSecret.nonempty]
    · exact List.ne_nil_of_mem star
    · exact List.ne_nil_of_mem atSign
  have allValue : IsValue value' := by
    intro character member
    rcases inValue' character member with inValue | rfl
    · rcases List.mem_append.mp inValue with inPassword | inValue
      · exact isPassword character inPassword
      · exact isSecret.isValue character inValue
    · decide
  have notBearer : ¬ IsBearer value' := by
    rcases shape with rfl | star | atSign
    · by_cases empty : password = []
      · rw [empty]
        exact isSecret.notBearer
      · obtain ⟨sign, member, isSign⟩ := separator_of_value_ending
          (List.append_assoc before key between ▸ endsSeparated_of_separator isBetween (before ++ key))
          ending isPassword empty
        refine not_isBearer_of_mem (List.mem_append_left _ member) fun isKeyCharacter => ?_
        rw [separator_of_keyCharacter isKeyCharacter] at isSign
        cases isSign
    · exact not_isBearer_of_mem star (by decide)
    · exact not_isBearer_of_mem atSign (by decide)
  rw [redact, ← List.append_assoc, onward, isValue', List.append_assoc]
  exact withoutSecrets_of_under_way separated isUnderWay allValue nonempty notBearer stops'

/-- A plain value stays for the second pass, unless it is taken for a part of a password. -/
theorem withoutUrlCredentials_of_not_taken {text : List Char} (stops : StopsValue after)
    (notTaken : ¬ (credentialUnderWay text ≠ none ∧ '@' ∈ firstWord after)) :
    ∃ after', StopsValue after' ∧ ∀ value, IsPlain value → value ≠ [] →
      withoutUrlCredentials (text ++ (value ++ after)) =
        withoutUrlCredentials text ++ (value ++ after') := by
  by_cases underWay : credentialUnderWay text = none
  · exact withoutUrlCredentials_plain underWay stops
  · obtain ⟨after', stops', onward⟩ :=
      withoutUrlCredentials_after stops fun member => notTaken ⟨underWay, member⟩
    refine ⟨after', stops', fun value isPlain _ => ?_⟩
    rw [← List.append_assoc, onward, withoutUrlCredentials_append_of_no_at
      fun member => (isPlain '@' member).2 rfl, List.append_assoc]

include isKey isBetween in
/-- A text that hides plain values makes the same of all of them. -/
theorem redact_of_hidesPlain (hides : HidesPlain (before ++ (key ++ between)) after)
    (stops : StopsValue after) :
    ∃ redaction, ∀ value, IsSecret value → IsPlain value →
      redact (before ++ (key ++ between) ++ (value ++ after)) = redaction := by
  by_cases taken : credentialUnderWay (before ++ (key ++ between)) ≠ none ∧ '@' ∈ firstWord after
  · obtain ⟨underWay, atSign⟩ := taken
    obtain ⟨kept, password, firstPass⟩ := FirstPass.exists_of_text (before ++ (key ++ between))
    obtain ⟨front, rest, isWord, noAt⟩ := List.eq_append_cons_of_mem atSign
    have split : after = front ++ '@' :: (rest ++
        after.dropWhile fun character => !isSpace character) := by
      have whole : firstWord after ++ after.dropWhile (fun character => !isSpace character) = after :=
        List.takeWhile_append_dropWhile
      rw [isWord] at whole
      simpa using whole.symm
    refine ⟨withoutSecrets (kept ++ (redacted ++ '@' :: withoutUrlCredentials (rest ++
      after.dropWhile fun character => !isSpace character))), fun value isSecret isPlain => ?_⟩
    have isPassword : IsPassword (value ++ front) := by
      refine List.forall_mem_append.mpr ⟨fun character member => ?_, fun character member => ?_⟩
      · exact passwordCharacter_of_user (isPlain character member).1 (isPlain character member).2
      · have notAt : character ≠ '@' := fun same => noAt (same ▸ member)
        have inWord : character ∈ firstWord after := by
          rw [isWord]
          exact List.mem_append_left _ member
        have notSpace := List.mem_takeWhile_imp inWord
        rw [Bool.not_eq_true'] at notSpace
        simp [passwordCharacter, notAt, notSpace]
    have taken := firstPass.of_at underWay isPassword (by simp [isSecret.nonempty])
      (rest ++ after.dropWhile fun character => !isSpace character)
    rw [redact, ← taken]
    conv_lhs => rw [split]
    simp
  · have underWay := hides.resolve_left taken
    obtain ⟨⟨written, tail⟩, isUnderWay⟩ := Option.isSome_iff_exists.mp underWay
    obtain ⟨after', stops', onward⟩ := withoutUrlCredentials_of_not_taken stops taken
    refine ⟨written ++ redacted ++ withoutSecrets after', fun value isSecret isPlain => ?_⟩
    have separated : EndsSeparated (withoutUrlCredentials (before ++ (key ++ between))) := by
      rw [withoutUrlCredentials_append_of_no_at (no_at_of_key isKey isBetween), ← List.append_assoc]
      exact endsSeparated_of_separator isBetween _
    rw [redact, onward value isPlain isSecret.nonempty]
    exact withoutSecrets_of_under_way separated isUnderWay isSecret.isValue isSecret.nonempty
      isSecret.notBearer stops'

/-- Characters that are in no key are kept. -/
theorem withoutSecrets_append_of_no_key {front : List Char}
    (notKeys : ∀ character ∈ front, ¬ KeyCharacter character) (rest : List Char) :
    withoutSecrets (front ++ rest) = front ++ withoutSecrets rest := by
  induction front with
  | nil => rfl
  | cons character others ih =>
      obtain ⟨notKey, notKeys⟩ := List.forall_mem_cons.mp notKeys
      rw [List.cons_append, withoutSecrets_cons notKey, ih notKeys, List.cons_append]

/-- **Where no secret is under way the lengths tell values apart.** -/
theorem length_ne_of_not_under_way {kept : List Char} (separated : EndsSeparated kept)
    (notUnderWay : secretUnderWay kept = none) {value other : List Char}
    (notKeys : ∀ character ∈ value, ¬ KeyCharacter character)
    (notKeys' : ∀ character ∈ other, ¬ KeyCharacter character)
    (lengths : value.length ≠ other.length) (after' : List Char) :
    withoutSecrets (kept ++ (value ++ after')) ≠ withoutSecrets (kept ++ (other ++ after')) := by
  intro same
  rw [withoutSecrets_of_not_under_way separated notUnderWay,
    withoutSecrets_of_not_under_way separated notUnderWay, withoutSecrets_append_of_no_key notKeys,
    withoutSecrets_append_of_no_key notKeys'] at same
  have sameLength := congrArg List.length same
  simp only [List.length_append] at sameLength
  omega

/-- A secret has no comma and no semicolon: the second pass keeps all of them. -/
theorem count_withoutSecrets {delimiter : Char} (isDelimiter : delimiter = ',' ∨ delimiter = ';')
    (text : List Char) : (withoutSecrets text).count delimiter = text.count delimiter := by
  have rejected : sensitiveTextPattern.rejects delimiter = true := by
    rcases isDelimiter with rfl | rfl <;> decide
  have written : redacted.count delimiter = 0 := by
    rcases isDelimiter with rfl | rfl <;> decide
  unfold withoutSecrets
  induction text using sub_induction (fun _ => redacted) sensitiveTextPattern_proper with
  | nil => rfl
  | pass character rest none ih =>
      rw [sub_of_none none, List.count_cons, List.count_cons, ih]
  | replace text new rest replaced ih =>
      obtain ⟨front, rfl, accepted⟩ := accepts_of_replace replaced
      have noDelimiter : delimiter ∉ front := fun member =>
        within_of_accepts (over_of_rejects rejected) accepted delimiter member rfl
      have isRedacted : new = redacted := by
        rw [replace?_sensitiveTextPattern, Option.map_eq_some_iff] at replaced
        obtain ⟨_, -, same⟩ := replaced
        exact (Prod.mk.inj same).1.symm
      rw [sub_of_replace sensitiveTextPattern_proper replaced, List.count_append, List.count_append,
        ih, isRedacted, written, List.count_eq_zero_of_not_mem noDelimiter]

include isKey isBetween in
/-- **A text that makes the same of all values hides them.** -/
theorem hides_of_redact (stops : StopsValue after) (noAt : '@' ∉ firstWord after)
    (same : ∀ value other, IsSecret value → IsSecret other →
      redact (before ++ (key ++ between) ++ (value ++ after)) =
        redact (before ++ (key ++ between) ++ (other ++ after))) :
    Hides (before ++ (key ++ between)) := by
  obtain ⟨kept, password, firstPass⟩ := FirstPass.exists_of_text (before ++ (key ++ between))
  obtain ⟨after', stops', onward⟩ := withoutUrlCredentials_after stops noAt
  have separated := firstPass.endsSeparated isKey isBetween
  have zero : IsSecret ['0'] := ⟨by decide, by decide, by decide⟩
  have zeros : IsSecret ['0', '0'] := ⟨by decide, by decide, by decide⟩
  have zeroAt : IsSecret ['0', '@', '0'] := ⟨by decide, by decide, by decide⟩
  have zerosAt : IsSecret ['0', '@', '0', '0'] := ⟨by decide, by decide, by decide⟩
  have plainValue : ∀ value, '@' ∉ value →
      redact (before ++ (key ++ between) ++ (value ++ after)) =
        withoutSecrets (kept ++ (password ++ value ++ after')) := by
    intro value noAt
    rw [redact, ← List.append_assoc, onward, firstPass.of_no_at noAt, List.append_assoc]
  have splitValue : credentialUnderWay (before ++ (key ++ between)) ≠ none → ∀ rest, '@' ∉ rest →
      redact (before ++ (key ++ between) ++ ('0' :: '@' :: rest ++ after)) =
        withoutSecrets (kept ++ (redacted ++ '@' :: rest ++ after')) := by
    intro underWay rest noAt
    have taken : withoutUrlCredentials (before ++ (key ++ between) ++ (['0'] ++ '@' :: rest)) =
        kept ++ (redacted ++ '@' :: withoutUrlCredentials rest) :=
      firstPass.of_at underWay (by decide) (by decide) rest
    rw [List.singleton_append] at taken
    rw [redact, ← List.append_assoc, onward, taken, withoutUrlCredentials_of_no_at noAt,
      List.append_assoc]
  refine ⟨kept, password, firstPass, ?_, ?_⟩
  · rw [Option.isSome_iff_ne_none]
    intro notUnderWay
    by_cases underWay : credentialUnderWay (before ++ (key ++ between)) = none
    · -- The value itself is read by the second pass, and stays.
      have empty : password = [] := by
        rcases firstPass with ⟨-, -, empty⟩ | ⟨_, _, -, -, isUnderWay, -⟩
        · exact empty
        · rw [underWay] at isUnderWay
          cases isUnderWay
      have equal := same _ _ zero zeros
      rw [plainValue _ (by decide), plainValue _ (by decide), empty] at equal
      exact length_ne_of_not_under_way separated notUnderWay (by decide)
        (by decide) (by decide) after' equal
    · -- What follows an `@` of the value stays.
      have equal := same _ _ zeroAt zerosAt
      rw [splitValue underWay ['0'] (by decide), splitValue underWay ['0', '0'] (by decide)] at equal
      exact length_ne_of_not_under_way separated notUnderWay (by decide)
        (by decide) (by decide) after' equal
  · intro character member
    by_contra isDelimiter
    have isDelimiter : character = ',' ∨ character = ';' := by
      by_contra other
      exact isDelimiter (not_or.mp other)
    have underWay : credentialUnderWay (before ++ (key ++ between)) ≠ none := by
      intro underWay
      rcases firstPass with ⟨-, -, rfl⟩ | ⟨_, _, -, -, isUnderWay, -⟩
      · cases member
      · rw [underWay] at isUnderWay
        cases isUnderWay
    -- Without an `@` in the value the delimiter stays.
    have equal := congrArg (List.count character) (same _ _ zero zeroAt)
    rw [plainValue _ (by decide), splitValue underWay ['0'] (by decide),
      count_withoutSecrets isDelimiter, count_withoutSecrets isDelimiter] at equal
    have present := List.count_pos_iff.mpr member
    have absent : (redacted ++ ['@', '0']).count character = 0 := by
      rcases isDelimiter with rfl | rfl <;> decide
    simp only [List.count_append] at equal absent
    omega

include isKey isBetween in
/-- **A text that makes the same of all plain values hides them.** -/
theorem hidesPlain_of_redact (stops : StopsValue after)
    (same : ∀ value other, IsSecret value → IsSecret other → IsPlain value → IsPlain other →
      redact (before ++ (key ++ between) ++ (value ++ after)) =
        redact (before ++ (key ++ between) ++ (other ++ after))) :
    HidesPlain (before ++ (key ++ between)) after := by
  by_contra exposed
  obtain ⟨notTaken, notUnderWay⟩ := not_or.mp exposed
  obtain ⟨after', -, onward⟩ := withoutUrlCredentials_of_not_taken stops notTaken
  have plain : IsPlain ['0'] ∧ IsPlain ['0', '0'] := by
    unfold IsPlain
    decide
  have separated : EndsSeparated (withoutUrlCredentials (before ++ (key ++ between))) := by
    rw [withoutUrlCredentials_append_of_no_at (no_at_of_key isKey isBetween), ← List.append_assoc]
    exact endsSeparated_of_separator isBetween _
  have equal := same ['0'] ['0', '0'] ⟨by decide, by decide, by decide⟩
    ⟨by decide, by decide, by decide⟩ plain.1 plain.2
  rw [redact, redact, onward _ plain.1 (by decide), onward _ plain.2 (by decide)] at equal
  exact length_ne_of_not_under_way separated (Option.not_isSome_iff_eq_none.mp notUnderWay)
    (by decide) (by decide) (by decide) after' equal

end Pair

/-! ## The law -/

/-- A text with a key, a separator and a value. -/
def inlineSecret (before key between value after : String) : String :=
  before ++ key ++ between ++ value ++ after

theorem redactText_inlineSecret (before key between value after : String) :
    redactText (inlineSecret before key between value after) =
      String.ofList (redact (before.toList ++ (key.toList ++ between.toList) ++
        (value.toList ++ after.toList))) := by
  unfold redactText inlineSecret
  simp

end BidSystem.Telemetry
