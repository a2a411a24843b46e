import BidSystem.Telemetry.HiddenValues

/-!
# Credentials in an `Authorization` header

A rendered header has a scheme before its credential.  The second pass of
`redact_text` takes one word for the value of a key: it is the credential for the
scheme `Bearer`, and the scheme itself for every other one.
-/

namespace BidSystem.Telemetry

open Regex Pattern

/-- A scheme: a word without white space, `,`, `;`, `:` and `=`. -/
structure IsScheme (scheme : List Char) : Prop where
  nonempty : scheme ≠ []
  isValue : IsValue scheme
  noSeparator : ∀ character ∈ scheme, separator character = false

/-- A credential: a text without white space, `,` and `;`. -/
structure IsCredential (credential : List Char) : Prop where
  nonempty : credential ≠ []
  isValue : IsValue credential

/-- The text up to the scheme. -/
def headerStart (before : List Char) : List Char := before ++ "Authorization: ".toList

theorem headerStart_eq (before : List Char) :
    headerStart before = before ++ "Authorization".toList ++ [':', ' '] := by
  rw [headerStart, List.append_assoc]
  rfl

/-! ## The first pass -/

/-- The first pass of a header is that of its credential and of what follows. -/
theorem withoutUrlCredentials_header {before scheme credential after : List Char}
    (noMark : ¬ authorityMark <:+: before) (isScheme : IsScheme scheme)
    (starts : Stops (fun character => isSpace character = false) after) :
    withoutUrlCredentials (headerStart before ++ (scheme ++ ' ' :: (credential ++ after))) =
      headerStart before ++ (scheme ++ ' ' ::
        (withoutUrlCredentials credential ++ withoutUrlCredentials after)) := by
  have noColon : ':' ∉ ' ' :: (scheme ++ [' ']) := by
    simp only [List.mem_cons, List.mem_append, List.not_mem_nil, or_false, not_or]
    refine ⟨by decide, fun member => ?_, by decide⟩
    exact absurd (isScheme.noSeparator ':' member) (by decide)
  have word : ∀ rest : List Char, headerStart before ++ (scheme ++ ' ' :: rest) =
      before ++ "Authorization:".toList ++ (' ' :: (scheme ++ [' ']) ++ rest) := by
    intro rest
    rw [headerStart]
    simp
  have space : ∀ rest : List Char, Stops (fun character => isSpace character = false)
      (' ' :: (scheme ++ [' ']) ++ rest) := by
    intro rest
    show ¬ isSpace ' ' = false
    decide
  rw [word, withoutUrlCredentials_append_space (space _),
    withoutUrlCredentials_append_of_no_at (by decide),
    withoutUrlCredentials_of_no_mark noMark, withoutUrlCredentials_append_of_no_colon noColon,
    withoutUrlCredentials_append_space starts, ← word]

/-- What the first pass makes of a credential is one. -/
theorem isCredential_withoutUrlCredentials {credential : List Char}
    (isCredential : IsCredential credential) : IsCredential (withoutUrlCredentials credential) := by
  constructor
  · rcases withoutUrlCredentials_eq_or_star credential with same | star
    · rw [same]
      exact isCredential.nonempty
    · exact List.ne_nil_of_mem star
  · intro character member
    rcases mem_withoutUrlCredentials member with inCredential | rfl
    · exact isCredential.isValue character inCredential
    · decide

/-! ## The second pass -/

theorem endsSeparated_headerStart (before : List Char) : EndsSeparated (headerStart before) := by
  refine ⟨before ++ "Authorization".toList, ':', [' '], [], ?_, rfl, ?_, .inl rfl⟩
  · rw [headerStart_eq]
    rfl
  · intro character member
    rw [List.mem_singleton.mp member]
    rfl

/-- A separator sign is no white space. -/
theorem isSpace_of_separator {sign : Char} (isSign : separator sign = true) :
    isSpace sign = false := by
  cases space : isSpace sign with
  | false => rfl
  | true =>
      rw [separator_of_isSpace space] at isSign
      cases isSign

/-- White space and the word `Bearer` have no separator sign. -/
theorem no_separator_of_marked {after marker : List Char} (isAfter : IsSpaces after)
    (isMarker : IsMarker marker) {sign : Char} (isSign : separator sign = true) :
    sign ∉ after ++ marker := by
  have notSpace := isSpace_of_separator isSign
  rw [List.mem_append, not_or]
  refine ⟨fun member => ?_, fun member => ?_⟩
  · rw [isAfter sign member] at notSpace
    cases notSpace
  · rcases isMarker with rfl | ⟨bearer, spaces, rfl, isBearer, -, isSpaces⟩
    · cases member
    · rcases List.mem_append.mp member with inBearer | inSpaces
      · rw [separator_of_keyCharacter (keyCharacter_of_mem_bearer isBearer sign inBearer)] at isSign
        cases isSign
      · rw [isSpaces sign inSpaces] at notSpace
        cases notSpace

/-- What is after the sign of a separator that ends with a blank is this blank. -/
theorem eq_blank_of_marked {after marker begun : List Char} (isAfter : IsSpaces after)
    (isMarker : IsMarker marker) (isBegun : IsValue begun)
    (blank : after ++ marker ++ begun = [' ']) : after = [' '] ∧ marker = [] ∧ begun = [] := by
  cases after with
  | cons space others =>
      rw [List.append_assoc, List.cons_append] at blank
      obtain ⟨rfl, nothing⟩ := List.cons.inj blank
      rw [List.append_eq_nil_iff, List.append_eq_nil_iff] at nothing
      exact ⟨by rw [nothing.1], nothing.2⟩
  | nil =>
      rw [List.nil_append] at blank
      rcases isMarker with rfl | ⟨bearer, spaces, rfl, isBearer, -, -⟩
      · rw [List.nil_append] at blank
        exact absurd (isBegun ' ' (blank ▸ List.mem_cons_self)) (by decide)
      · obtain ⟨first, others, rfl⟩ := exists_cons_of_isBearer isBearer
        rw [List.append_assoc, List.cons_append] at blank
        obtain ⟨rfl, -⟩ := List.cons.inj blank
        exact absurd (keyCharacter_of_mem_bearer isBearer ' ' List.mem_cons_self)
          (not_keyCharacter_of_isSpace (by decide))

/-- **The secret under way before a scheme** is the key of the header. -/
theorem tail_of_headerStart {before written tail : List Char}
    (underWay : secretUnderWay (headerStart before) = some (written, tail)) :
    ∃ key spaces sign, IsKey key ∧ IsSpaces spaces ∧ separator sign = true ∧
      tail = key ++ (spaces ++ [sign, ' ']) := by
  obtain ⟨ending, begins⟩ := of_begun sensitiveTextPattern_proper underWay
  obtain ⟨key, _, begun, isKey, ⟨spaces, sign, after, marker, rfl, isSpaces, isSign, isAfter,
    isMarker⟩, isBegun, rfl⟩ := secretBeginning_iff.mp begins
  refine ⟨key, spaces, sign, isKey, isSpaces, isSign, ?_⟩
  have fromSign : sign :: (after ++ marker ++ begun) <:+ headerStart before :=
    List.IsSuffix.trans ⟨key ++ spaces, by simp⟩ ending
  have fromColon : [':', ' '] <:+ headerStart before := ⟨_, (headerStart_eq before).symm⟩
  have noSpaceSign := isSpace_of_separator isSign
  have isBlank : after ++ marker ++ begun = [' '] := by
    rcases List.suffix_or_suffix_of_suffix fromSign fromColon with inside | around
    · rcases List.suffix_cons_iff.mp inside with same | inBlank
      · exact (List.cons.inj same).2
      · rcases List.suffix_cons_iff.mp inBlank with same | nothing
        · rw [(List.cons.inj same).1] at noSpaceSign
          exact absurd noSpaceSign (by decide)
        · cases List.suffix_nil.mp nothing
    · rcases List.suffix_cons_iff.mp around with same | later
      · exact (List.cons.inj same).2.symm
      · obtain ⟨front, split⟩ := later
        rcases List.eq_nil_or_concat begun with rfl | ⟨others, last, rfl⟩
        · rw [List.append_nil] at split
          exact absurd (split ▸ (by simp) : ':' ∈ after ++ marker)
            (no_separator_of_marked isAfter isMarker rfl)
        · rw [List.concat_eq_append, ← List.append_assoc,
            show front ++ [':', ' '] = front ++ [':'] ++ [' '] by simp] at split
          obtain ⟨-, same⟩ := List.append_inj' split rfl
          rw [← (List.cons.inj same).1] at isBegun
          exact absurd (isBegun ' ' (by simp)) (by decide)
  obtain ⟨rfl, rfl, rfl⟩ := eq_blank_of_marked isAfter isMarker isBegun isBlank
  simp

/-- A scheme, a blank and a digit are kept apart from what follows. -/
theorem withoutSecrets_scheme {scheme : List Char} (isScheme : IsScheme scheme) (more : List Char) :
    withoutSecrets (scheme ++ [' ', '0'] ++ more) =
      withoutSecrets (scheme ++ [' ', '0']) ++ withoutSecrets more := by
  refine sub_append_of_undisturbed sensitiveTextPattern_proper fun part ending nonempty => ?_
  refine .of_not_begins fun begins => ?_
  have digit : '0' ∈ part := by
    obtain ⟨front, split⟩ := ending
    obtain ⟨others, last, rfl⟩ := (List.eq_nil_or_concat part).resolve_left nonempty
    rw [List.concat_eq_append, ← List.append_assoc,
      show scheme ++ [' ', '0'] = scheme ++ [' '] ++ ['0'] by simp] at split
    obtain ⟨-, same⟩ := List.append_inj' split rfl
    rw [(List.cons.inj same).1]
    simp
  have notKey : ¬ KeyCharacter '0' := by decide
  rcases begins with inKey | ⟨key, tail, rfl, isKey, inValue⟩
  · exact notKey (within_of_begins over_sensitiveKeyPattern inKey '0' digit)
  · have inTail : '0' ∈ tail := (List.mem_append.mp digit).resolve_left
      fun inKey => notKey (keyCharacter_of_mem isKey '0' inKey)
    rcases begins_separatorBefore inValue with spaces | ⟨between, value, rfl, isBetween, -⟩
    · exact absurd (spaces '0' inTail) (by decide)
    · obtain ⟨front, sign, after, marker, rfl, -, isSign, -, -⟩ := isBetween
      have inText : sign ∈ scheme ++ [' ', '0'] := ending.subset (by simp)
      rcases List.mem_append.mp inText with inScheme | inBlank
      · rw [isScheme.noSeparator sign inScheme] at isSign
        cases isSign
      · have none : ∀ sign ∈ [' ', '0'], separator sign = false := by decide
        rw [none sign inBlank] at isSign
        cases isSign

/-! ## The law -/

section Header

variable {before scheme after : List Char} (noMark : ¬ authorityMark <:+: before)
  (isScheme : IsScheme scheme) (starts : Stops (fun character => isSpace character = false) after)

/-- A header with a credential. -/
def header (before scheme credential after : List Char) : List Char :=
  headerStart before ++ (scheme ++ ' ' :: (credential ++ after))

include noMark isScheme starts in
theorem redact_header (credential : List Char) :
    redact (header before scheme credential after) =
      withoutSecrets (header before scheme (withoutUrlCredentials credential)
        (withoutUrlCredentials after)) := by
  rw [redact, header, withoutUrlCredentials_header noMark isScheme starts, header]

include noMark isScheme starts in
/-- **A bearer credential is replaced** if the scan comes to the key of the header. -/
theorem redact_bearer (isBearer : IsBearer scheme)
    (reached : (secretUnderWay (headerStart before)).isSome = true) :
    ∃ redaction, ∀ credential, IsCredential credential →
      redact (header before scheme credential after) = redaction := by
  obtain ⟨⟨written, tail⟩, underWay⟩ := Option.isSome_iff_exists.mp reached
  obtain ⟨key, spaces, sign, isKey, isSpaces, isSign, rfl⟩ := tail_of_headerStart underWay
  refine ⟨written ++ (redacted ++ withoutSecrets (withoutUrlCredentials after)),
    fun credential isCredential => ?_⟩
  obtain ⟨nonempty, isValue⟩ := isCredential_withoutUrlCredentials isCredential
  have stops : StopsValue (withoutUrlCredentials after) := by
    refine stopsValue_withoutUrlCredentials ?_
    cases after with
    | nil => trivial
    | cons first rest =>
        intro isFirst
        exact starts (isSpace_of_valueCharacter isFirst)
  have blank : IsSpaces [' '] := by
    intro character member
    rw [List.mem_singleton.mp member]
    rfl
  have marker : IsMarker (scheme ++ [' ']) :=
    .inr ⟨scheme, [' '], rfl, isBearer, List.cons_ne_nil _ _, blank⟩
  have replaced := secret_replaced_of_parts isKey isSpaces isSign blank marker isValue nonempty
    (fun _ => by simp) stops
  rw [redact_header noMark isScheme starts, header, withoutSecrets_append_of_under_way underWay,
    show ∀ rest : List Char, key ++ (spaces ++ [sign, ' ']) ++ (scheme ++ ' ' :: rest) =
      key ++ (spaces ++ sign :: ([' '] ++ (scheme ++ [' '])) ++ rest) by simp,
    ← List.append_assoc _ _ (withoutUrlCredentials after), withoutSecrets,
    sub_of_replace sensitiveTextPattern_proper replaced]
  rfl

include isScheme in
/-- **Any other credential stays**: the scheme is replaced, or the key is not reached. -/
theorem withoutSecrets_exposed
    (exposed : ¬ (IsBearer scheme ∧ (secretUnderWay (headerStart before)).isSome = true)) :
    ∃ kept, ∀ more, withoutSecrets (headerStart before ++ (scheme ++ ' ' :: '0' :: more)) =
      kept ++ withoutSecrets more := by
  have digit : ∀ more, withoutSecrets ('0' :: more) = '0' :: withoutSecrets more :=
    fun more => withoutSecrets_cons (by decide) more
  have space : ∀ more, withoutSecrets (' ' :: more) = ' ' :: withoutSecrets more :=
    fun more => withoutSecrets_cons (not_keyCharacter_of_isSpace (by decide)) more
  cases underWay : secretUnderWay (headerStart before) with
  | none =>
      refine ⟨withoutSecrets (headerStart before) ++ withoutSecrets (scheme ++ [' ', '0']),
        fun more => ?_⟩
      rw [withoutSecrets_of_not_under_way (endsSeparated_headerStart before) underWay,
        show scheme ++ ' ' :: '0' :: more = scheme ++ [' ', '0'] ++ more by simp,
        withoutSecrets_scheme isScheme, List.append_assoc]
  | some result =>
      obtain ⟨written, tail⟩ := result
      have notBearer : ¬ IsBearer scheme := fun isBearer =>
        exposed ⟨isBearer, by rw [underWay]; rfl⟩
      obtain ⟨key, spaces, sign, isKey, isSpaces, isSign, rfl⟩ := tail_of_headerStart underWay
      refine ⟨written ++ (redacted ++ [' ', '0']), fun more => ?_⟩
      have blank : IsSpaces [' '] := by
        intro character member
        rw [List.mem_singleton.mp member]
        rfl
      have stops : StopsValue (' ' :: '0' :: more) := by
        show ¬ valueCharacter ' ' = true
        decide
      have replaced := secret_replaced_of_parts isKey isSpaces isSign blank (.inl rfl)
        isScheme.isValue isScheme.nonempty (fun isBearer => absurd isBearer notBearer) stops
      rw [withoutSecrets_append_of_under_way underWay,
        show key ++ (spaces ++ [sign, ' ']) ++ (scheme ++ ' ' :: '0' :: more) =
          key ++ (spaces ++ sign :: ([' '] ++ []) ++ scheme ++ ' ' :: '0' :: more) by simp,
        withoutSecrets, sub_of_replace sensitiveTextPattern_proper replaced,
        ← withoutSecrets, space, digit]
      simp

include noMark isScheme starts in
/-- **Credentials of a header that is exposed are told apart.** -/
theorem redact_exposed
    (exposed : ¬ (IsBearer scheme ∧ (secretUnderWay (headerStart before)).isSome = true)) :
    redact (header before scheme ['0'] after) ≠ redact (header before scheme ['0', '0'] after) := by
  obtain ⟨kept, onward⟩ := withoutSecrets_exposed isScheme exposed
  have zeros : ∀ credential : List Char, '@' ∉ credential →
      withoutUrlCredentials credential = credential :=
    fun credential noAt => withoutUrlCredentials_of_no_at noAt
  rw [redact_header noMark isScheme starts, redact_header noMark isScheme starts,
    zeros ['0'] (by decide), zeros ['0', '0'] (by decide), header, header]
  intro same
  rw [List.cons_append, List.cons_append, List.cons_append, List.nil_append, onward, onward,
    withoutSecrets_cons (by decide)] at same
  have lengths := congrArg List.length (List.append_cancel_left same)
  rw [List.length_cons] at lengths
  omega

end Header

/-- A text with a rendered `Authorization` header. -/
def authorizationHeader (before scheme credential after : String) : String :=
  before ++ "Authorization: " ++ scheme ++ " " ++ credential ++ after

theorem redactText_authorizationHeader (before scheme credential after : String) :
    redactText (authorizationHeader before scheme credential after) =
      String.ofList (redact (header before.toList scheme.toList credential.toList after.toList)) := by
  unfold redactText authorizationHeader header headerStart
  simp

/-- **When the redacted header does not depend on its credential**: exactly for the
scheme `Bearer`, in any case, if the second pass comes to the word `Authorization`,
which is not a part of an earlier secret. -/
theorem credential_hidden_iff (before scheme after : String)
    (noMark : ¬ authorityMark <:+: before.toList) (isScheme : IsScheme scheme.toList)
    (starts : Stops (fun character => isSpace character = false) after.toList) :
    (∀ credential other : String, IsCredential credential.toList → IsCredential other.toList →
      redactText (authorizationHeader before scheme credential after) =
        redactText (authorizationHeader before scheme other after)) ↔
      IsBearer scheme.toList ∧ (secretUnderWay (headerStart before.toList)).isSome = true := by
  constructor
  · intro hidden
    by_contra exposed
    have same := hidden "0" "00" ⟨by decide, by decide⟩
      ⟨by decide, by decide⟩
    rw [redactText_authorizationHeader, redactText_authorizationHeader] at same
    exact redact_exposed noMark isScheme starts exposed (by simpa using congrArg String.toList same)
  · rintro ⟨isBearer, reached⟩ credential other isCredential isOther
    obtain ⟨redaction, hidden⟩ := redact_bearer noMark isScheme starts isBearer reached
    rw [redactText_authorizationHeader, redactText_authorizationHeader, hidden _ isCredential,
      hidden _ isOther]

/-- A bearer credential at the start of a text is hidden. -/
theorem credential_hidden_iff_bearer :
    redactText (authorizationHeader "" "Bearer" "abc" "\nHost: bid") =
      redactText (authorizationHeader "" "Bearer" "Bearer" "\nHost: bid") :=
  (credential_hidden_iff "" "Bearer" "\nHost: bid" (by decide)
    ⟨by decide, by decide, by decide⟩ (by decide)).mpr
      ⟨by decide, by decide⟩
    "abc" "Bearer" ⟨by decide, by decide⟩ ⟨by decide, by decide⟩

/-- **Under the scheme `Basic`** the credential stays in the text. -/
theorem basic_credential_shown :
    ¬ ∀ before scheme after : String, ¬ authorityMark <:+: before.toList →
      IsScheme scheme.toList → Stops (fun character => isSpace character = false) after.toList →
      ∀ credential other : String, IsCredential credential.toList → IsCredential other.toList →
        redactText (authorizationHeader before scheme credential after) =
          redactText (authorizationHeader before scheme other after) := by
  intro hidden
  have same := hidden "" "Basic" "" (by decide)
    ⟨by decide, by decide, by decide⟩ trivial "dXNlcjpw" "YWRtaW46eA"
    ⟨by decide, by decide⟩ ⟨by decide, by decide⟩
  exact absurd same (by decide)

end BidSystem.Telemetry
