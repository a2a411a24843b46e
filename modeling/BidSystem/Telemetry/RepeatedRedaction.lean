import BidSystem.Telemetry.InlineSecrets

/-!
# Repeated redaction

A line of the log is redacted several times: by the filter of each handler, and by
the formatter.  Each of the two passes of `redact_text` has nothing left to do on a
text it has written itself, but the second pass can join two parts of a text to a
URL with a password, by replacing a secret with white space in it.

* `redact_redact` — the second redaction is its first pass.
* `redactText_thrice` — **the third redaction changes nothing**, and neither does
  the second one if there was no `://` or no `@`.
-/

namespace BidSystem.Telemetry

open Regex Pattern

/-- A text without keys. -/
def NoKey (text : List Char) : Prop := ∀ key, key <:+: text → ¬ IsKey key

theorem NoKey.of_infix {part text : List Char} (noKey : NoKey text) (inside : part <:+: text) :
    NoKey part :=
  fun key inPart => noKey key (inPart.trans inside)

/-- What is inside of a text is before or after a character that it does not have. -/
theorem infix_of_infix_around {part front back : List Char} {character : Char}
    (notIn : character ∉ part) (inside : part <:+: front ++ character :: back) :
    part <:+: front ∨ part <:+: back := by
  rcases List.infix_append_iff.mp inside with inFront | inBack | ⟨first, second, rfl, ends, begins⟩
  · exact .inl inFront
  · rcases List.infix_cons_iff.mp inBack with begins | inBack
    · rcases List.prefix_cons_iff.mp begins with rfl | ⟨others, rfl, -⟩
      · exact .inl (List.nil_infix)
      · exact absurd List.mem_cons_self notIn
    · exact .inr inBack
  · rcases List.prefix_cons_iff.mp begins with rfl | ⟨others, rfl, -⟩
    · rw [List.append_nil]
      exact .inl ends.isInfix
    · exact absurd (List.mem_append_right _ List.mem_cons_self) notIn

theorem not_mem_key {key : List Char} (isKey : IsKey key) {character : Char}
    (notKey : ¬ KeyCharacter character) : character ∉ key :=
  fun member => notKey (keyCharacter_of_mem isKey character member)

theorem noKey_redacted : NoKey redacted := by
  intro key inside isKey
  obtain ⟨first, others, rfl⟩ := List.exists_cons_of_ne_nil (key_ne_nil isKey)
  have isStar : first ∈ redacted := inside.subset List.mem_cons_self
  have notKey : ∀ star ∈ redacted, ¬ KeyCharacter star := by decide
  exact not_mem_key isKey (notKey first isStar) List.mem_cons_self

/-! ## The second pass -/

/-- What the second pass writes is `***`. -/
theorem eq_redacted_of_replaced {text new rest : List Char}
    (replaced : sensitiveTextPattern.replace? (fun _ => redacted) text = some (new, rest)) :
    new = redacted := by
  rw [replace?_sensitiveTextPattern] at replaced
  obtain ⟨rest, -, same⟩ := Option.map_eq_some_iff.mp replaced
  cases same
  rfl

/-- A key starts a match. -/
theorem not_isKey_of_secret_none {text : List Char}
    (none : sensitiveTextPattern.replace? (fun _ => redacted) text = none) {key rest : List Char}
    (split : text = key ++ rest) : ¬ IsKey key := by
  intro isKey
  refine replace_none_iff.mp none key rest split ⟨key, [], (List.append_nil key).symm, isKey, ?_⟩
  exact .inr rfl

/-- **The second pass leaves no key.** -/
theorem noKey_withoutSecrets (text : List Char) : NoKey (withoutSecrets text) := by
  have noStar : ∀ key, IsKey key → '*' ∉ key := fun key isKey =>
    not_mem_key isKey (by decide)
  induction text using sub_induction (fun _ => redacted) sensitiveTextPattern_proper with
  | nil =>
      intro key inside isKey
      exact key_ne_nil isKey (List.infix_nil.mp inside)
  | pass character rest none ih =>
      intro key inside isKey
      rw [withoutSecrets, sub_of_none none] at inside
      rcases List.infix_cons_iff.mp inside with begins | inside
      · rcases List.prefix_cons_iff.mp begins with rfl | ⟨others, rfl, more, split⟩
        · exact key_ne_nil isKey rfl
        · -- The rest of the key has no asterisk, so it was there before.
          obtain ⟨rest', rfl, -⟩ := prefix_of_prefix_sub sensitiveTextPattern_proper
            (fun text new rest replaced => ⟨'*', ['*', '*'], eq_redacted_of_replaced replaced,
              fun member => noStar _ isKey (List.mem_cons_of_mem _ member)⟩) split.symm
          exact not_isKey_of_secret_none none List.cons_append.symm isKey
      · exact ih key inside isKey
  | replace text new rest replaced ih =>
      intro key inside isKey
      rw [withoutSecrets, sub_of_replace sensitiveTextPattern_proper replaced,
        eq_redacted_of_replaced replaced,
        show redacted ++ sensitiveTextPattern.sub (fun _ => redacted) rest =
          ['*', '*'] ++ '*' :: withoutSecrets rest from rfl] at inside
      rcases infix_of_infix_around (noStar key isKey) inside with inStars | inRest
      · exact noKey_redacted key (inStars.trans (List.suffix_cons _ _).isInfix) isKey
      · exact ih key inRest isKey

/-- A text without keys is kept. -/
theorem withoutSecrets_of_noKey {text : List Char} (noKey : NoKey text) :
    withoutSecrets text = text :=
  sub_of_no_match fun part ending => secret_none fun key rest split =>
    noKey key ((split ▸ List.infix_append [] key rest : key <:+: part).trans ending.isInfix)

/-! ## The first pass -/

/-- What the first pass writes starts with `:`. -/
theorem colon_of_replaced {text new rest : List Char}
    (replaced : urlCredentialPattern.replace? hidePassword text = some (new, rest)) :
    ∃ others, new = ':' :: others := by
  obtain ⟨user, password, -, -, -, -, rfl⟩ := urlCredential_replace_iff.mp replaced
  exact ⟨_, rfl⟩

/-- **The first pass makes no key.** -/
theorem noKey_withoutUrlCredentials {text : List Char} (noKey : NoKey text) :
    NoKey (withoutUrlCredentials text) := by
  induction text using sub_induction hidePassword urlCredentialPattern_proper with
  | nil => exact noKey
  | pass character rest none ih =>
      intro key inside isKey
      rw [withoutUrlCredentials, sub_of_none none] at inside
      rcases List.infix_cons_iff.mp inside with begins | inside
      · rcases List.prefix_cons_iff.mp begins with rfl | ⟨others, rfl, more, split⟩
        · exact key_ne_nil isKey rfl
        · obtain ⟨rest', rfl, -⟩ := prefix_of_prefix_sub urlCredentialPattern_proper
            (fun text new rest replaced => by
              obtain ⟨written, rfl⟩ := colon_of_replaced replaced
              exact ⟨_, _, rfl, fun member => not_mem_key isKey (by decide)
                (List.mem_cons_of_mem character member)⟩) split.symm
          exact noKey _ ⟨[], rest', rfl⟩ isKey
      · exact ih (noKey.of_infix (List.suffix_cons _ _).isInfix) key inside isKey
  | replace text new rest replaced ih =>
      intro key inside isKey
      rw [withoutUrlCredentials, sub_of_replace urlCredentialPattern_proper replaced] at inside
      obtain ⟨user, password, -, -, -, rfl, rfl⟩ := urlCredential_replace_iff.mp replaced
      rw [show authorityMark ++ user ++ ':' :: (redacted ++ ['@']) ++
          urlCredentialPattern.sub hidePassword rest =
        authorityMark ++ user ++ ':' :: redacted ++ '@' :: withoutUrlCredentials rest by
          simp [withoutUrlCredentials]] at inside
      rcases infix_of_infix_around (not_mem_key isKey (by decide)) inside with
        inMasked | inRest
      · rcases infix_of_infix_around (not_mem_key isKey (by decide)) inMasked with
          inUser | inStars
        · exact noKey key (inUser.trans (List.prefix_append _ _).isInfix) isKey
        · exact noKey_redacted key inStars isKey
      · refine ih (noKey.of_infix ?_) key inRest isKey
        exact (suffix_of_replace replaced).isInfix

/-- What the first pass makes of a text with an `@` had one as well, with the same
first character before it. -/
theorem at_of_withoutUrlCredentials {text password rest : List Char}
    (isPassword : IsPassword password)
    (split : withoutUrlCredentials text = password ++ '@' :: rest) :
    ∃ password' rest', IsPassword password' ∧ password'.head? = password.head? ∧
      (password.tail ≠ [] → password'.tail ≠ []) ∧ text = password' ++ '@' :: rest' := by
  induction text using sub_induction hidePassword urlCredentialPattern_proper
    generalizing password with
  | nil => exact absurd split (by simp [withoutUrlCredentials])
  | pass character text none ih =>
      rw [withoutUrlCredentials, sub_of_none none] at split
      cases password with
      | nil =>
          obtain ⟨rfl, -⟩ := List.cons.inj split
          exact ⟨[], text, isPassword, rfl, fun some => absurd rfl some, rfl⟩
      | cons first others =>
          obtain ⟨rfl, further⟩ := List.cons.inj split
          obtain ⟨isFirst, isOthers⟩ := List.forall_mem_cons.mp isPassword
          obtain ⟨password', rest', isPassword', head, -, rfl⟩ := ih isOthers further
          refine ⟨character :: password', rest', List.forall_mem_cons.mpr ⟨isFirst, isPassword'⟩,
            rfl, fun some => ?_, rfl⟩
          rintro rfl
          exact some (List.head?_eq_none_iff.mp head.symm)
  | replace text new rest' replaced ih =>
      rw [withoutUrlCredentials, sub_of_replace urlCredentialPattern_proper replaced] at split
      obtain ⟨user, secret, isUser, isSecret, nonempty, rfl, rfl⟩ :=
        urlCredential_replace_iff.mp replaced
      rw [show authorityMark ++ user ++ ':' :: (redacted ++ ['@']) ++
          urlCredentialPattern.sub hidePassword rest' =
        authorityMark ++ user ++ [':'] ++ (redacted ++ '@' :: withoutUrlCredentials rest') by
          simp [withoutUrlCredentials]] at split
      rcases List.append_eq_append_iff.mp split with
        ⟨masked, rfl, -⟩ | ⟨others, early, late⟩
      · -- The `@` is the one that ends the password.
        refine ⟨authorityMark ++ user ++ [':'] ++ secret, rest', ?_, rfl, fun _ => ?_, by simp⟩
        · intro character member
          rcases List.mem_append.mp member with before | inSecret
          · exact isPassword character (List.mem_append_left _ before)
          · exact isSecret character inSecret
        · exact List.cons_ne_nil _ _
      · -- Or there is an earlier one, in the user.
        cases others with
        | nil => cases late
        | cons first others =>
            rw [List.cons_append] at late
            obtain ⟨rfl, -⟩ := List.cons.inj late
            refine ⟨password, others ++ (secret ++ '@' :: rest'), isPassword, rfl, id, ?_⟩
            rw [show authorityMark ++ user ++ ':' :: (secret ++ '@' :: rest') =
              authorityMark ++ user ++ [':'] ++ (secret ++ '@' :: rest') by simp, early]
            simp

/-- **The first pass has nothing left to do on its result.** -/
theorem withoutUrlCredentials_twice (text : List Char) :
    withoutUrlCredentials (withoutUrlCredentials text) = withoutUrlCredentials text := by
  refine sub_sub urlCredentialPattern_proper (fun character rest none => ?_)
    (fun text new rest replaced => ?_) text
  · cases replaced : urlCredentialPattern.replace? hidePassword
      (character :: urlCredentialPattern.sub hidePassword rest) with
    | none => rfl
    | some result =>
        obtain ⟨user, password, isUser, isPassword, nonempty, split, -⟩ :=
          urlCredential_replace_iff.mp replaced
        obtain ⟨rfl, further⟩ := List.cons.inj split
        have noColon : ':' ∉ '/' :: '/' :: user := by
          simp only [List.mem_cons, not_or]
          refine ⟨by decide, by decide, fun member => ?_⟩
          exact absurd (isUser.2 ':' member) (by decide)
        obtain ⟨rest', rfl, masked⟩ := prefix_of_prefix_sub urlCredentialPattern_proper
          (fun text new rest replaced => by
            obtain ⟨written, rfl⟩ := colon_of_replaced replaced
            exact ⟨_, _, rfl, noColon⟩) further
        obtain ⟨password', rest, isPassword', head, long, rfl⟩ :=
          at_of_withoutUrlCredentials
            (List.forall_mem_cons.mpr ⟨by decide, isPassword⟩ : IsPassword (':' :: password))
            masked
        cases password' with
        | nil => cases head
        | cons colon secret =>
            cases head
            obtain ⟨-, isSecret⟩ := List.forall_mem_cons.mp isPassword'
            have credential : urlCredentialPattern.replace? hidePassword
                (':' :: ('/' :: '/' :: user ++ (':' :: secret ++ '@' :: rest))) =
                  some (authorityMark ++ user ++ ':' :: (redacted ++ ['@']), rest) :=
              urlCredential_replace_iff.mpr
                ⟨user, secret, isUser, isSecret, long nonempty, by simp [authorityMark], rfl⟩
            cases none.symm.trans credential
  · obtain ⟨user, password, isUser, isPassword, nonempty, rfl, rfl⟩ :=
      urlCredential_replace_iff.mp replaced
    refine urlCredential_replace_iff.mpr ⟨user, redacted, isUser, ?_, List.cons_ne_nil _ _, ?_, rfl⟩
    · decide
    · simp

/-! ## The law -/

/-- **The second redaction** is its first pass. -/
theorem redact_redact (text : List Char) :
    redact (redact text) = withoutUrlCredentials (redact text) := by
  rw [redact, withoutSecrets_of_noKey]
  exact noKey_withoutUrlCredentials (noKey_withoutSecrets _)

theorem redact_thrice (text : List Char) :
    redact (redact (redact text)) = redact (redact text) := by
  rw [redact_redact (redact text), redact_redact, withoutUrlCredentials_twice]

/-- The second pass only writes asterisks. -/
theorem infix_of_infix_withoutSecrets {word text : List Char} (noStar : '*' ∉ word)
    (inside : word <:+: withoutSecrets text) : word <:+: text := by
  induction text using sub_induction (fun _ => redacted) sensitiveTextPattern_proper with
  | nil => exact inside
  | pass character rest none ih =>
      rw [withoutSecrets, sub_of_none none] at inside
      rcases List.infix_cons_iff.mp inside with begins | inside
      · rcases List.prefix_cons_iff.mp begins with rfl | ⟨others, rfl, more, split⟩
        · exact List.nil_infix
        · obtain ⟨rest', rfl, -⟩ := prefix_of_prefix_sub sensitiveTextPattern_proper
            (fun text new rest replaced => ⟨'*', ['*', '*'], eq_redacted_of_replaced replaced,
              fun member => noStar (List.mem_cons_of_mem _ member)⟩) split.symm
          exact (List.prefix_append (character :: others) rest').isInfix
      · exact (ih inside).trans (List.suffix_cons _ _).isInfix
  | replace text new rest replaced ih =>
      rw [withoutSecrets, sub_of_replace sensitiveTextPattern_proper replaced,
        eq_redacted_of_replaced replaced,
        show redacted ++ sensitiveTextPattern.sub (fun _ => redacted) rest =
          ['*', '*'] ++ '*' :: withoutSecrets rest from rfl] at inside
      rcases infix_of_infix_around noStar inside with inStars | inRest
      · have nothing : word = [] := by
          rw [List.eq_nil_iff_forall_not_mem]
          intro character member
          have isStar : character = '*' := by simpa using inStars.subset member
          exact noStar (isStar ▸ member)
        rw [nothing]
        exact List.nil_infix
      · exact (ih inRest).trans (suffix_of_replace replaced).isInfix

/-- Without a `://` or an `@` there is no second redaction. -/
theorem redact_redact_of_plain {text : List Char}
    (plain : ¬ (authorityMark <:+: text ∧ '@' ∈ text)) : redact (redact text) = redact text := by
  rw [redact_redact]
  by_cases mark : authorityMark <:+: text
  · have noAt : '@' ∉ text := fun member => plain ⟨mark, member⟩
    refine withoutUrlCredentials_of_no_at fun member => noAt ?_
    rw [redact, withoutUrlCredentials_of_no_at noAt] at member
    have single : ['@'] <:+: withoutSecrets text := by
      obtain ⟨front, back, split⟩ := List.append_of_mem member
      exact ⟨front, back, by rw [split]; simp⟩
    exact (infix_of_infix_withoutSecrets (by decide) single).subset List.mem_cons_self
  · refine withoutUrlCredentials_of_no_mark fun inside => mark ?_
    rw [redact, withoutUrlCredentials_of_no_mark mark] at inside
    exact infix_of_infix_withoutSecrets (by decide) inside

/-- **Three redactions are two**: the second one is its first pass, and it changes
nothing if there was no `://` or no `@`. -/
theorem redactText_thrice (value : String) :
    redactText (redactText (redactText value)) = redactText (redactText value) ∧
      redactText (redactText value) =
        String.ofList (withoutUrlCredentials (redactText value).toList) ∧
      (redactText (redactText value) = redactText value ∨
        authorityMark <:+: value.toList ∧ '@' ∈ value.toList) := by
  have inner : ∀ text : List Char, redactText (String.ofList text) = String.ofList (redact text) :=
    fun text => by rw [redactText, String.toList_ofList]
  have once : redactText value = String.ofList (redact value.toList) := rfl
  rw [once, inner, inner, redact_thrice]
  refine ⟨rfl, ?_, ?_⟩
  · rw [redact_redact, String.toList_ofList]
  · by_cases credential : authorityMark <:+: value.toList ∧ '@' ∈ value.toList
    · exact .inr credential
    · rw [redact_redact_of_plain credential]
      exact .inl rfl

/-- **The second redaction** can hide what the first one has shown. -/
theorem redactText_not_idempotent :
    ¬ ∀ value : String, redactText (redactText value) = redactText value := by
  intro idempotent
  exact absurd (idempotent "://token= x,:c@") (by decide)

end BidSystem.Telemetry
