import BidSystem.Security.Settings
import BidSystem.Shared.Datetime

/-!
# Access tokens

`AccessTokenIssuer` and `AccessTokenVerifier` over a JWT library, which is a
parameter (`Jwt`): it encodes a payload under a private key, reads a header
without checking anything, and decodes a token under a public key.

* `AccessTokenIssuer.issue`, `AccessTokenVerifier.verify` — the two sides.
* `Trusted` — what a verified token has been checked for.
* `Escapes` — the tokens and times on which `verify` raises an error that is not
  its own: `astimezone` and `fromtimestamp` raise `OverflowError` and `OSError`,
  which the `except` clause does not name.
* `AccessTokenVerifier.verify_total_iff` — verification is total exactly
  otherwise.
* `AccessTokenIssuer.round_trip_iff` — when an issued token verifies exactly in
  its window.
-/

namespace BidSystem.Security

/-! ## Payloads -/

/-- A JSON value; a number with a fraction or an exponent keeps its text. -/
inductive Json where
  | null
  | bool (value : Bool)
  | int (value : ℤ)
  | float (literal : String)
  | string (value : String)
  | array (values : List Json)
  | object (members : List (String × Json))

/-- A JSON object. -/
abbrev JsonObject := List (String × Json)

/-- `mapping.get(name)`. -/
def JsonObject.get (members : JsonObject) (name : String) : Option Json := members.lookup name

/-- The functions of the JWT library. -/
structure Jwt where
  encode : (payload : JsonObject) → (privateKey : String) → (headers : JsonObject) →
    Except PyError String
  getUnverifiedHeader : (token : String) → Except PyError JsonObject
  decode : (token publicKey audience issuer : String) → Except PyError JsonObject

/-- `ACCESS_TOKEN_TYPE`. -/
def accessTokenType : String := "at+jwt"

/-- `MAX_ACCESS_TOKEN_LENGTH`. -/
def maxAccessTokenLength : ℕ := 8192

/-- `_required_value`. -/
def requiredValue (value : Option String) : Except PyError String :=
  match value with
  | none => .error (.valueError "Authentication configuration is incomplete")
  | some value => .ok value

/-! ## Issuing -/

/-- The check of the issuer's constructor. -/
def AuthSettings.issuerIncomplete (settings : AuthSettings) : Bool :=
  !settings.enabled || settings.algorithm != some supportedJwtAlgorithm ||
    settings.activeKeyId.isNone || settings.signingPrivateKey.isNone ||
      settings.issuer.isNone || settings.audience.isNone

/-- `AccessTokenIssuer`. -/
structure AccessTokenIssuer where
  settings : AuthSettings
  complete : settings.issuerIncomplete = false

/-- The constructor. -/
def AccessTokenIssuer.ofSettings (settings : AuthSettings) : Except PyError AccessTokenIssuer :=
  match complete : settings.issuerIncomplete with
  | true => .error (.valueError "Access-token issuer configuration is incomplete")
  | false => .ok { settings := settings, complete := complete }

/-- The claims of an access token as its payload has them. -/
structure RawClaims where
  issuer : String
  audience : String
  subject : String
  tenantId : String
  sessionId : String
  tokenId : String
  iat : ℤ
  nbf : ℤ
  exp : ℤ
deriving DecidableEq, Repr

/-- The payload of an access token. -/
def RawClaims.payload (raw : RawClaims) : JsonObject :=
  [("iss", .string raw.issuer), ("aud", .string raw.audience), ("sub", .string raw.subject),
    ("tenant_id", .string raw.tenantId), ("session_id", .string raw.sessionId),
    ("jti", .string raw.tokenId), ("iat", .int raw.iat), ("nbf", .int raw.nbf),
    ("exp", .int raw.exp)]

/-- The headers of an access token. -/
def accessTokenHeaders (keyId : String) : JsonObject :=
  [("kid", .string keyId), ("typ", .string accessTokenType)]

/-- `AccessTokenIssuer.issue`. -/
def AccessTokenIssuer.issue (jwt : Jwt) (self : AccessTokenIssuer)
    (subject tenantId sessionId tokenId : String) (issuedAt : AwareDatetime) :
    Except PyError String := do
  if [subject, tenantId, sessionId, tokenId].any blank then
    throw (.valueError "Access-token identity values must not be blank")
  let normalizedIssuedAt ← issuedAt.astimezoneUtc
  let expiresAt ← datetimeOf (normalizedIssuedAt + self.settings.accessTokenTtlSeconds * second)
  let issuer ← requiredValue self.settings.issuer
  let audience ← requiredValue self.settings.audience
  let secret ← requiredValue self.settings.signingPrivateKey
  let keyId ← requiredValue self.settings.activeKeyId
  let raw : RawClaims := {
    issuer := issuer
    audience := audience
    subject := subject
    tenantId := tenantId
    sessionId := sessionId
    tokenId := tokenId
    iat := wholeSeconds normalizedIssuedAt
    nbf := wholeSeconds normalizedIssuedAt
    exp := wholeSeconds expiresAt }
  jwt.encode raw.payload secret (accessTokenHeaders keyId)

/-! ## Verifying -/

/-- `AccessTokenClaims`. -/
structure AccessTokenClaims where
  issuer : String
  audience : String
  subject : String
  tenantId : String
  sessionId : String
  tokenId : String
  issuedAt : Instant
  notBefore : Instant
  expiresAt : Instant
deriving DecidableEq, Repr

/-- The claims with their times as datetimes. -/
def RawClaims.convert (raw : RawClaims) : Except PyError AccessTokenClaims := do
  let issuedAt ← fromTimestamp raw.iat
  let notBefore ← fromTimestamp raw.nbf
  let expiresAt ← fromTimestamp raw.exp
  return {
    issuer := raw.issuer
    audience := raw.audience
    subject := raw.subject
    tenantId := raw.tenantId
    sessionId := raw.sessionId
    tokenId := raw.tokenId
    issuedAt := issuedAt
    notBefore := notBefore
    expiresAt := expiresAt }

/-- The comparison of the time claims with the time of verification. -/
def RawClaims.checkWindow (raw : RawClaims) (nowTimestamp : ℤ) : Except PyError Unit :=
  if nowTimestamp < raw.iat ∨ nowTimestamp < raw.nbf ∨ raw.exp ≤ nowTimestamp then
    .error .tokenValidationError
  else .ok ()

/-- The window of a token at a time, in whole seconds. -/
def RawClaims.InWindow (raw : RawClaims) (now : ℤ) : Prop :=
  raw.iat ≤ now ∧ raw.nbf ≤ now ∧ now < raw.exp

/-- A timestamp before the year 1 or after the year 9999. -/
def OutsideCalendar (seconds : ℤ) : Prop := seconds < minTimestamp ∨ maxTimestamp < seconds

instance (seconds : ℤ) : Decidable (OutsideCalendar seconds) :=
  inferInstanceAs (Decidable (_ ∨ _))

/-- The first time claim outside of the calendar is one that `gmtime` does not support. -/
def RawClaims.OutOfReach (raw : RawClaims) : Prop :=
  ∃ seconds, [raw.iat, raw.nbf, raw.exp].find? (fun seconds => OutsideCalendar seconds) =
    some seconds ∧ ¬ GmtimeSupports seconds

/-- The check of the verifier's constructor. -/
def AuthSettings.verifierIncomplete (settings : AuthSettings) : Bool :=
  !settings.enabled || settings.algorithm != some supportedJwtAlgorithm ||
    settings.issuer.isNone || settings.audience.isNone || settings.verificationKeys == []

/-- `AccessTokenVerifier`. -/
structure AccessTokenVerifier where
  settings : AuthSettings
  complete : settings.verifierIncomplete = false

namespace AccessTokenVerifier

/-- The constructor. -/
def ofSettings (settings : AuthSettings) : Except PyError AccessTokenVerifier :=
  match complete : settings.verifierIncomplete with
  | true => .error (.valueError "Access-token verifier configuration is incomplete")
  | false => .ok { settings := settings, complete := complete }

/-- `self._verification_keys.get(key_id)`: the last key of that id. -/
def verificationKey (self : AccessTokenVerifier) (keyId : String) : Option String :=
  (self.settings.verificationKeys.reverse.find? fun key => key.keyId = keyId).map
    JwtVerificationKeySettings.publicKey

/-- A string claim of `_validated_claims`. -/
def stringClaim (decoded : JsonObject) (name : String) : Except PyError String :=
  match decoded.get name with
  | some (.string value) => if blank value then .error .tokenValidationError else .ok value
  | _ => .error .tokenValidationError

/-- A time claim of `_validated_claims`. -/
def timeClaim (decoded : JsonObject) (name : String) : Except PyError ℤ :=
  match decoded.get name with
  | some (.int value) => .ok value
  | _ => .error .tokenValidationError

/-- The two loops of `_validated_claims`. -/
def rawClaims (decoded : JsonObject) : Except PyError RawClaims := do
  let issuer ← stringClaim decoded "iss"
  let audience ← stringClaim decoded "aud"
  let subject ← stringClaim decoded "sub"
  let tenantId ← stringClaim decoded "tenant_id"
  let sessionId ← stringClaim decoded "session_id"
  let tokenId ← stringClaim decoded "jti"
  let iat ← timeClaim decoded "iat"
  let nbf ← timeClaim decoded "nbf"
  let exp ← timeClaim decoded "exp"
  return {
    issuer := issuer
    audience := audience
    subject := subject
    tenantId := tenantId
    sessionId := sessionId
    tokenId := tokenId
    iat := iat
    nbf := nbf
    exp := exp }

/-- `AccessTokenVerifier._validated_claims`. -/
def validatedClaims (decoded : JsonObject) (verifiedAt : AwareDatetime) :
    Except PyError AccessTokenClaims := do
  let raw ← rawClaims decoded
  let verified ← verifiedAt.astimezoneUtc
  raw.checkWindow (wholeSeconds verified)
  raw.convert

/-- The header checks of `verify`: the key of a trusted header. -/
def headerKey (self : AccessTokenVerifier) (header : JsonObject) : Except PyError String :=
  match header.get "alg", header.get "typ", header.get "kid" with
  | some (.string algorithm), some (.string tokenType), some (.string keyId) =>
      if algorithm ≠ supportedJwtAlgorithm ∨ tokenType ≠ accessTokenType then
        .error .tokenValidationError
      else
        match self.verificationKey keyId with
        | none => .error .tokenValidationError
        | some publicKey => .ok publicKey
  | _, _, _ => .error .tokenValidationError

/-- The `try` block of `verify`. -/
def verifiedClaims (jwt : Jwt) (self : AccessTokenVerifier) (token : String)
    (verifiedAt : AwareDatetime) : Except PyError AccessTokenClaims := do
  let header ← jwt.getUnverifiedHeader token
  let publicKey ← self.headerKey header
  let audience ← requiredValue self.settings.audience
  let issuer ← requiredValue self.settings.issuer
  let decoded ← jwt.decode token publicKey audience issuer
  validatedClaims decoded verifiedAt

/-- `InvalidTokenError`, `KeyError`, `TypeError` and `ValueError` with its subclasses. -/
def caught : PyError → Bool
  | .invalidTokenError | .keyError | .typeError | .valueError _ | .tokenValidationError
  | .invalidRefreshSession | .refreshTokenReplay _ => true
  | _ => false

/-- `AccessTokenVerifier.verify`. -/
def verify (jwt : Jwt) (self : AccessTokenVerifier) (token : String)
    (verifiedAt : AwareDatetime) : Except PyError AccessTokenClaims :=
  if token = "" ∨ maxAccessTokenLength < token.length then .error .tokenValidationError
  else
    match self.verifiedClaims jwt token verifiedAt with
    | .error error => .error (if caught error then .tokenValidationError else error)
    | .ok claims => .ok claims

/-! ## What verification has checked -/

/-- The library accepts a token with this payload under a key of the ring. -/
def Decodes (jwt : Jwt) (self : AccessTokenVerifier) (token : String) (decoded : JsonObject) :
    Prop :=
  ∃ header keyId publicKey audience issuer, jwt.getUnverifiedHeader token = .ok header ∧
    header.get "alg" = some (.string supportedJwtAlgorithm) ∧
      header.get "typ" = some (.string accessTokenType) ∧
        header.get "kid" = some (.string keyId) ∧
          self.verificationKey keyId = some publicKey ∧
            self.settings.audience = some audience ∧ self.settings.issuer = some issuer ∧
              jwt.decode token publicKey audience issuer = .ok decoded

/-- A payload with six strings that are not blank and three integers. -/
structure HasClaims (decoded : JsonObject) (raw : RawClaims) : Prop where
  issuer : decoded.get "iss" = some (.string raw.issuer) ∧ blank raw.issuer = false
  audience : decoded.get "aud" = some (.string raw.audience) ∧ blank raw.audience = false
  subject : decoded.get "sub" = some (.string raw.subject) ∧ blank raw.subject = false
  tenantId : decoded.get "tenant_id" = some (.string raw.tenantId) ∧ blank raw.tenantId = false
  sessionId : decoded.get "session_id" = some (.string raw.sessionId) ∧ blank raw.sessionId = false
  tokenId : decoded.get "jti" = some (.string raw.tokenId) ∧ blank raw.tokenId = false
  iat : decoded.get "iat" = some (.int raw.iat)
  nbf : decoded.get "nbf" = some (.int raw.nbf)
  exp : decoded.get "exp" = some (.int raw.exp)

/-- What a verified token has been checked for. -/
def Trusted (jwt : Jwt) (self : AccessTokenVerifier) (token : String) (verifiedAt : AwareDatetime) :
    Prop :=
  ∃ decoded raw, Decodes jwt self token decoded ∧ HasClaims decoded raw ∧
    raw.InWindow (wholeSeconds verifiedAt.instant)

theorem stringClaim_ok_iff {decoded : JsonObject} {name value : String} :
    stringClaim decoded name = .ok value ↔
      decoded.get name = some (.string value) ∧ blank value = false := by
  unfold stringClaim
  split
  · next other found =>
      rw [found]
      split_ifs with isBlank
      · refine ⟨nofun, fun holds => ?_⟩
        obtain ⟨same, notBlank⟩ := holds
        cases same
        rw [isBlank] at notBlank
        cases notBlank
      · constructor
        · intro same
          cases same
          exact ⟨rfl, by simpa using isBlank⟩
        · rintro ⟨same, -⟩
          cases same
          rfl
  · next other =>
      refine ⟨nofun, fun holds => absurd holds.1 (other value)⟩

theorem stringClaim_error {decoded : JsonObject} {name : String} {error : PyError}
    (refused : stringClaim decoded name = .error error) : error = .tokenValidationError := by
  unfold stringClaim at refused
  split at refused
  · split_ifs at refused
    cases refused
    rfl
  · cases refused
    rfl

theorem timeClaim_ok_iff {decoded : JsonObject} {name : String} {value : ℤ} :
    timeClaim decoded name = .ok value ↔ decoded.get name = some (.int value) := by
  unfold timeClaim
  split
  · next other found =>
      rw [found]
      exact ⟨fun same => by cases same; rfl, fun same => by cases same; rfl⟩
  · next other => exact ⟨nofun, fun holds => absurd holds (other value)⟩

theorem timeClaim_error {decoded : JsonObject} {name : String} {error : PyError}
    (refused : timeClaim decoded name = .error error) : error = .tokenValidationError := by
  unfold timeClaim at refused
  split at refused
  · cases refused
  · cases refused
    rfl

/-- The loops of `_validated_claims` pass exactly the payloads with the claims. -/
theorem rawClaims_ok_iff {decoded : JsonObject} {raw : RawClaims} :
    rawClaims decoded = .ok raw ↔ HasClaims decoded raw := by
  unfold rawClaims
  simp only [bind_ok_iff, stringClaim_ok_iff, timeClaim_ok_iff]
  constructor
  · rintro ⟨issuer, hasIssuer, audience, hasAudience, subject, hasSubject, tenantId, hasTenant,
      sessionId, hasSession, tokenId, hasToken, iat, hasIat, nbf, hasNbf, exp, hasExp, built⟩
    cases built
    exact ⟨hasIssuer, hasAudience, hasSubject, hasTenant, hasSession, hasToken, hasIat, hasNbf, hasExp⟩
  · rintro ⟨hasIssuer, hasAudience, hasSubject, hasTenant, hasSession, hasToken, hasIat, hasNbf,
      hasExp⟩
    exact ⟨_, hasIssuer, _, hasAudience, _, hasSubject, _, hasTenant, _, hasSession, _, hasToken, _,
      hasIat, _, hasNbf, _, hasExp, rfl⟩

theorem rawClaims_error {decoded : JsonObject} {error : PyError}
    (refused : rawClaims decoded = .error error) : error = .tokenValidationError := by
  unfold rawClaims at refused
  simp only [bind_error_iff] at refused
  rcases refused with failed | ⟨_, _, failed | ⟨_, _, failed | ⟨_, _, failed | ⟨_, _, failed |
    ⟨_, _, failed | ⟨_, _, failed | ⟨_, _, failed | ⟨_, _, failed | ⟨_, _, failed⟩⟩⟩⟩⟩⟩⟩⟩⟩
  · exact stringClaim_error failed
  · exact stringClaim_error failed
  · exact stringClaim_error failed
  · exact stringClaim_error failed
  · exact stringClaim_error failed
  · exact stringClaim_error failed
  · exact timeClaim_error failed
  · exact timeClaim_error failed
  · exact timeClaim_error failed
  · cases failed

/-- The header checks pass exactly the headers of the token type with a key of the ring. -/
theorem headerKey_ok_iff {self : AccessTokenVerifier} {header : JsonObject} {publicKey : String} :
    self.headerKey header = .ok publicKey ↔
      ∃ keyId, header.get "alg" = some (.string supportedJwtAlgorithm) ∧
        header.get "typ" = some (.string accessTokenType) ∧
          header.get "kid" = some (.string keyId) ∧
            self.verificationKey keyId = some publicKey := by
  unfold headerKey
  split
  · next algorithm tokenType keyId isAlgorithm isType isKeyId =>
      rw [isAlgorithm, isType, isKeyId]
      split_ifs with wrong
      · refine ⟨nofun, ?_⟩
        rintro ⟨_, same, sameType, -, -⟩
        cases same
        cases sameType
        exact absurd wrong (by simp)
      · obtain ⟨rightAlgorithm, rightType⟩ := not_or.mp wrong
        rw [not_not.mp rightAlgorithm, not_not.mp rightType]
        split
        · next missing =>
            refine ⟨nofun, ?_⟩
            rintro ⟨_, -, -, same, found⟩
            cases same
            rw [missing] at found
            cases found
        · next key found =>
            constructor
            · intro same
              cases same
              exact ⟨keyId, rfl, rfl, rfl, found⟩
            · rintro ⟨_, -, -, same, found'⟩
              cases same
              rw [found] at found'
              rw [Option.some.inj found']
  · next other =>
      refine ⟨nofun, ?_⟩
      rintro ⟨keyId, isAlgorithm, isType, isKeyId, -⟩
      exact absurd isKeyId (other _ _ _ isAlgorithm isType)

theorem headerKey_error {self : AccessTokenVerifier} {header : JsonObject} {error : PyError}
    (refused : self.headerKey header = .error error) : error = .tokenValidationError := by
  unfold headerKey at refused
  split at refused
  · split_ifs at refused
    · cases refused
      rfl
    · split at refused <;> cases refused
      rfl
  · cases refused
    rfl

/-! ## Where other errors escape -/

/-- The tokens and times on which another error escapes: the token has all its
claims, and the time of verification has no UTC reading, or the token is in its
window and its first time claim outside of the calendar is out of reach. -/
def Escapes (jwt : Jwt) (self : AccessTokenVerifier) (token : String)
    (verifiedAt : AwareDatetime) : Prop :=
  token ≠ "" ∧ token.length ≤ maxAccessTokenLength ∧
    ∃ decoded raw, Decodes jwt self token decoded ∧ HasClaims decoded raw ∧
      (¬ InCalendar verifiedAt.instant ∨
        raw.InWindow (wholeSeconds verifiedAt.instant) ∧ raw.OutOfReach)

theorem fromTimestamp_error_iff {seconds : ℤ} :
    (∃ error, fromTimestamp seconds = .error error) ↔ OutsideCalendar seconds := by
  unfold OutsideCalendar
  constructor
  · rintro ⟨error, failed⟩
    by_contra inside
    rw [fromTimestamp_of_inCalendar (by omega)] at failed
    cases failed
  · intro outside
    cases converted : fromTimestamp seconds with
    | error error => exact ⟨error, rfl⟩
    | ok instant =>
        have := (fromTimestamp_ok_iff.mp converted).1
        omega

/-- An error of the conversions is not caught exactly if a time claim is out of reach. -/
theorem convert_error {raw : RawClaims} {error : PyError}
    (failed : raw.convert = .error error) : caught error = false ↔ raw.OutOfReach := by
  have first : ∀ {seconds : ℤ} {rest : List ℤ}, fromTimestamp seconds = .error error →
      (caught error = false ↔ ∃ found, (seconds :: rest).find? (fun seconds =>
        OutsideCalendar seconds) = some found ∧ ¬ GmtimeSupports found) := by
    intro seconds rest failed
    have outside := fromTimestamp_error_iff.mp ⟨error, failed⟩
    rw [List.find?_cons_of_pos (by simpa using outside)]
    unfold fromTimestamp at failed
    split_ifs at failed with tooLarge supported year
    · cases failed
      refine iff_of_true rfl ⟨seconds, rfl, ?_⟩
      unfold GmtimeSupports
      omega
    · cases failed
      refine iff_of_false nofun ?_
      rintro ⟨found, same, unsupported⟩
      cases same
      exact unsupported supported
    · cases failed
      exact iff_of_true rfl ⟨seconds, rfl, supported⟩
  have skip : ∀ {seconds : ℤ} {rest : List ℤ} {instant : Instant},
      fromTimestamp seconds = .ok instant →
        (seconds :: rest).find? (fun seconds => OutsideCalendar seconds) =
          rest.find? fun seconds => OutsideCalendar seconds := by
    intro seconds rest instant converted
    have inside := (fromTimestamp_ok_iff.mp converted).1
    refine List.find?_cons_of_neg ?_
    rw [decide_eq_true_iff]
    unfold OutsideCalendar
    omega
  unfold RawClaims.OutOfReach
  unfold RawClaims.convert at failed
  simp only [bind_error_iff] at failed
  rcases failed with failed | ⟨_, converted, failed | ⟨_, converted', failed |
    ⟨_, _, failed⟩⟩⟩
  · exact first failed
  · rw [skip converted]
    exact first failed
  · rw [skip converted, skip converted']
    exact first failed
  · cases failed

/-! ## When verification is total -/

/-- The library raises nothing but its `InvalidTokenError`. -/
structure RaisesOnlyInvalidToken (jwt : Jwt) : Prop where
  header : ∀ token error, jwt.getUnverifiedHeader token = .error error → error = .invalidTokenError
  decode : ∀ token publicKey audience issuer error,
    jwt.decode token publicKey audience issuer = .error error → error = .invalidTokenError

section Outcome

variable {jwt : Jwt} {self : AccessTokenVerifier} {token : String} {verifiedAt : AwareDatetime}

theorem checkWindow_ok_iff {raw : RawClaims} {now : ℤ} {done : Unit} :
    raw.checkWindow now = .ok done ↔ raw.InWindow now := by
  unfold RawClaims.checkWindow RawClaims.InWindow
  split_ifs with outside
  · refine ⟨nofun, fun inside => ?_⟩
    omega
  · exact ⟨fun _ => by omega, fun _ => rfl⟩

theorem checkWindow_error {raw : RawClaims} {now : ℤ} {error : PyError}
    (refused : raw.checkWindow now = .error error) : error = .tokenValidationError := by
  unfold RawClaims.checkWindow at refused
  split_ifs at refused
  cases refused
  rfl

theorem requiredValue_ok_iff {setting : Option String} {value : String} :
    requiredValue setting = .ok value ↔ setting = some value := by
  cases setting with
  | none => exact ⟨nofun, nofun⟩
  | some other =>
      exact ⟨fun same => congrArg some (Except.ok.inj same),
        fun same => congrArg Except.ok (Option.some.inj same)⟩

theorem requiredValue_error {setting : Option String} {error : PyError}
    (refused : requiredValue setting = .error error) : caught error = true := by
  unfold requiredValue at refused
  split at refused
  · cases refused
    rfl
  · cases refused

/-- Up to the claims, `verify` decodes. -/
theorem verifiedClaims_ok_iff {claims : AccessTokenClaims} :
    self.verifiedClaims jwt token verifiedAt = .ok claims ↔
      ∃ decoded, Decodes jwt self token decoded ∧ validatedClaims decoded verifiedAt = .ok claims := by
  unfold verifiedClaims Decodes
  simp only [bind_ok_iff, headerKey_ok_iff, requiredValue_ok_iff]
  constructor
  · rintro ⟨header, isHeader, publicKey, ⟨keyId, algorithm, type, isKeyId, key⟩, audience, isAudience,
      issuer, isIssuer, decoded, decodes, validated⟩
    exact ⟨decoded, ⟨header, keyId, publicKey, audience, issuer, isHeader, algorithm, type, isKeyId,
      key, isAudience, isIssuer, decodes⟩, validated⟩
  · rintro ⟨decoded, ⟨header, keyId, publicKey, audience, issuer, isHeader, algorithm, type, isKeyId,
      key, isAudience, isIssuer, decodes⟩, validated⟩
    exact ⟨header, isHeader, publicKey, ⟨keyId, algorithm, type, isKeyId, key⟩, audience, isAudience,
      issuer, isIssuer, decoded, decodes, validated⟩

/-- Up to the claims, what `verify` catches are all errors. -/
theorem verifiedClaims_error_iff (raises : RaisesOnlyInvalidToken jwt) :
    (∃ error, self.verifiedClaims jwt token verifiedAt = .error error ∧ caught error = false) ↔
      ∃ decoded, Decodes jwt self token decoded ∧
        ∃ error, validatedClaims decoded verifiedAt = .error error ∧ caught error = false := by
  constructor
  · rintro ⟨error, failed, escapes⟩
    unfold verifiedClaims at failed
    simp only [bind_error_iff] at failed
    rcases failed with failed | ⟨header, isHeader, failed | ⟨publicKey, isKey, failed |
      ⟨audience, isAudience, failed | ⟨issuer, isIssuer, failed | ⟨decoded, decodes, failed⟩⟩⟩⟩⟩
    · rw [raises.header _ _ failed] at escapes
      cases escapes
    · rw [headerKey_error failed] at escapes
      cases escapes
    · rw [requiredValue_error failed] at escapes
      cases escapes
    · rw [requiredValue_error failed] at escapes
      cases escapes
    · rw [raises.decode _ _ _ _ _ failed] at escapes
      cases escapes
    · obtain ⟨keyId, algorithm, type, isKeyId, key⟩ := headerKey_ok_iff.mp isKey
      exact ⟨decoded, ⟨header, keyId, publicKey, audience, issuer, isHeader, algorithm, type, isKeyId,
        key, requiredValue_ok_iff.mp isAudience, requiredValue_ok_iff.mp isIssuer, decodes⟩, error,
        failed, escapes⟩
  · rintro ⟨decoded, ⟨header, keyId, publicKey, audience, issuer, isHeader, algorithm, type, isKeyId,
      key, isAudience, isIssuer, decodes⟩, error, failed, escapes⟩
    refine ⟨error, ?_, escapes⟩
    unfold verifiedClaims
    simp only [bind_error_iff]
    exact .inr ⟨header, isHeader, .inr ⟨publicKey,
      headerKey_ok_iff.mpr ⟨keyId, algorithm, type, isKeyId, key⟩, .inr ⟨audience,
        requiredValue_ok_iff.mpr isAudience, .inr ⟨issuer, requiredValue_ok_iff.mpr isIssuer,
          .inr ⟨decoded, decodes, failed⟩⟩⟩⟩⟩

/-- The claims of a payload are accepted in their window. -/
theorem validatedClaims_ok_iff {decoded : JsonObject} {claims : AccessTokenClaims} :
    validatedClaims decoded verifiedAt = .ok claims ↔
      ∃ raw, HasClaims decoded raw ∧ InCalendar verifiedAt.instant ∧
        raw.InWindow (wholeSeconds verifiedAt.instant) ∧ raw.convert = .ok claims := by
  unfold validatedClaims AwareDatetime.astimezoneUtc
  simp only [bind_ok_iff, rawClaims_ok_iff, datetimeOf_ok_iff, checkWindow_ok_iff]
  constructor
  · rintro ⟨raw, has, verified, ⟨inCalendar, rfl⟩, _, inWindow, converted⟩
    exact ⟨raw, has, inCalendar, inWindow, converted⟩
  · rintro ⟨raw, has, inCalendar, inWindow, converted⟩
    exact ⟨raw, has, _, ⟨inCalendar, rfl⟩, (), inWindow, converted⟩

/-- The errors of the claims that escape. -/
theorem validatedClaims_error_iff {decoded : JsonObject} :
    (∃ error, validatedClaims decoded verifiedAt = .error error ∧ caught error = false) ↔
      ∃ raw, HasClaims decoded raw ∧ (¬ InCalendar verifiedAt.instant ∨
        raw.InWindow (wholeSeconds verifiedAt.instant) ∧ raw.OutOfReach) := by
  constructor
  · rintro ⟨error, failed, escapes⟩
    unfold validatedClaims AwareDatetime.astimezoneUtc at failed
    simp only [bind_error_iff] at failed
    rcases failed with failed | ⟨raw, has, failed | ⟨verified, isVerified, failed |
      ⟨_, inWindow, failed⟩⟩⟩
    · rw [rawClaims_error failed] at escapes
      cases escapes
    · refine ⟨raw, rawClaims_ok_iff.mp has, .inl fun inCalendar => ?_⟩
      rw [datetimeOf_ok_iff.mpr ⟨inCalendar, rfl⟩] at failed
      cases failed
    · rw [checkWindow_error failed] at escapes
      cases escapes
    · obtain ⟨-, rfl⟩ := datetimeOf_ok_iff.mp isVerified
      exact ⟨raw, rawClaims_ok_iff.mp has,
        .inr ⟨checkWindow_ok_iff.mp inWindow, (convert_error failed).mp escapes⟩⟩
  · rintro ⟨raw, has, reason⟩
    by_cases inCalendar : InCalendar verifiedAt.instant
    · rcases reason with outside | ⟨inWindow, outOfReach⟩
      · exact absurd inCalendar outside
      · have failed : ∃ error, raw.convert = .error error := by
          cases converted : raw.convert with
          | error error => exact ⟨error, rfl⟩
          | ok claims =>
              unfold RawClaims.convert at converted
              simp only [bind_ok_iff, fromTimestamp_ok_iff] at converted
              obtain ⟨_, ⟨iat, -⟩, _, ⟨nbf, -⟩, _, ⟨exp, -⟩, -⟩ := converted
              obtain ⟨seconds, found, -⟩ := outOfReach
              have outside : OutsideCalendar seconds := by simpa using List.find?_some found
              have member := List.mem_of_find?_eq_some found
              unfold OutsideCalendar at outside
              simp only [List.mem_cons, List.not_mem_nil, or_false] at member
              rcases member with rfl | rfl | rfl <;> omega
        obtain ⟨error, failed⟩ := failed
        refine ⟨error, ?_, (convert_error failed).mpr outOfReach⟩
        unfold validatedClaims AwareDatetime.astimezoneUtc
        simp only [bind_error_iff]
        exact .inr ⟨raw, rawClaims_ok_iff.mpr has, .inr ⟨_, datetimeOf_ok_iff.mpr ⟨inCalendar, rfl⟩,
          .inr ⟨(), checkWindow_ok_iff.mpr inWindow, failed⟩⟩⟩
    · refine ⟨.overflowError, ?_, rfl⟩
      unfold validatedClaims AwareDatetime.astimezoneUtc
      simp only [bind_error_iff]
      exact .inr ⟨raw, rawClaims_ok_iff.mpr has, .inl (if_neg inCalendar)⟩

/-- What `verify` accepts. -/
theorem verify_ok_iff (nonempty : token ≠ "") (short : token.length ≤ maxAccessTokenLength)
    {claims : AccessTokenClaims} :
    self.verify jwt token verifiedAt = .ok claims ↔
      ∃ decoded, Decodes jwt self token decoded ∧ ∃ raw, HasClaims decoded raw ∧
        InCalendar verifiedAt.instant ∧ raw.InWindow (wholeSeconds verifiedAt.instant) ∧
          raw.convert = .ok claims := by
  unfold verify
  rw [if_neg (not_or.mpr ⟨nonempty, not_lt.mpr short⟩)]
  have accepted : self.verifiedClaims jwt token verifiedAt = .ok claims ↔
      ∃ decoded, Decodes jwt self token decoded ∧ validatedClaims decoded verifiedAt = .ok claims :=
    verifiedClaims_ok_iff
  simp only [validatedClaims_ok_iff] at accepted
  rw [← accepted]
  split
  · next error raised => exact ⟨nofun, fun same => by rw [raised] at same; cases same⟩
  · next other returned => rw [returned]

/-- A verified token has been checked for everything. -/
theorem verify_ok {claims : AccessTokenClaims}
    (verified : self.verify jwt token verifiedAt = .ok claims) :
    Trusted jwt self token verifiedAt := by
  unfold verify at verified
  split_ifs at verified
  split at verified
  · cases verified
  · next claims' inside =>
      obtain ⟨decoded, decodes, validated⟩ := verifiedClaims_ok_iff.mp inside
      obtain ⟨raw, has, -, inWindow, -⟩ := validatedClaims_ok_iff.mp validated
      exact ⟨decoded, raw, decodes, has, inWindow⟩

/-- An error that is not `TokenValidationError` is one of those that escape. -/
theorem verify_escapes_iff (raises : RaisesOnlyInvalidToken jwt) :
    (∃ error, self.verify jwt token verifiedAt = .error error ∧ error ≠ .tokenValidationError) ↔
      Escapes jwt self token verifiedAt := by
  have inside := @verifiedClaims_error_iff jwt self token verifiedAt raises
  have claims := @validatedClaims_error_iff verifiedAt
  unfold Escapes verify
  constructor
  · rintro ⟨error, failed, other⟩
    split_ifs at failed with unusable
    · cases failed
      exact absurd rfl other
    · obtain ⟨nonempty, short⟩ := not_or.mp unusable
      split at failed
      · next error' raised =>
          have escapes : caught error' = false := by
            cases isCaught : caught error' with
            | false => rfl
            | true =>
                rw [isCaught] at failed
                cases failed
                exact absurd rfl other
          obtain ⟨decoded, decodes, refused⟩ := inside.mp ⟨error', raised, escapes⟩
          obtain ⟨raw, has, reason⟩ := claims.mp refused
          exact ⟨nonempty, not_lt.mp short, decoded, raw, decodes, has, reason⟩
      · cases failed
  · rintro ⟨nonempty, short, decoded, raw, decodes, has, reason⟩
    rw [if_neg (not_or.mpr ⟨nonempty, not_lt.mpr short⟩)]
    obtain ⟨error, raised, escapes⟩ :=
      inside.mpr ⟨decoded, decodes, claims.mpr ⟨raw, has, reason⟩⟩
    rw [raised]
    refine ⟨error, ?_, ?_⟩
    · dsimp only
      rw [escapes]
      rfl
    · rintro rfl
      cases escapes

end Outcome

/-- **When `verify` is total.**  It returns claims or raises `TokenValidationError`,
and returns claims only for trusted tokens, exactly for the tokens and times
that do not escape. -/
theorem verify_total_iff (jwt : Jwt) (raises : RaisesOnlyInvalidToken jwt)
    (self : AccessTokenVerifier) (token : String) (verifiedAt : AwareDatetime) :
    (((∃ claims, self.verify jwt token verifiedAt = .ok claims) ∨
        self.verify jwt token verifiedAt = .error .tokenValidationError) ∧
      ∀ claims, self.verify jwt token verifiedAt = .ok claims →
        Trusted jwt self token verifiedAt) ↔
      ¬ Escapes jwt self token verifiedAt := by
  rw [← verify_escapes_iff raises]
  constructor
  · rintro ⟨outcome, -⟩ ⟨error, failed, other⟩
    rcases outcome with ⟨claims, verified⟩ | refused
    · rw [failed] at verified
      cases verified
    · rw [failed] at refused
      exact other (Except.error.inj refused)
  · intro total
    refine ⟨?_, fun claims => verify_ok⟩
    cases outcome : self.verify jwt token verifiedAt with
    | ok claims => exact .inl ⟨claims, rfl⟩
    | error error =>
        refine .inr (congrArg _ ?_)
        by_contra other
        exact total ⟨error, outcome, other⟩

/-- Settings with one key. -/
def sampleSettings (issuer : String) : AppSettings where
  authEnabled := true
  jwtAlgorithm := some "RS256"
  jwtActiveKeyId := some "test-key-1"
  jwtSigningPrivateKey := some "private"
  jwtVerificationKeys := [⟨"test-key-1", "public", by decide⟩]
  jwtIssuer := some issuer
  jwtAudience := some "bid-system-api"
  jwtAccessTokenTtlSeconds := 900
  jwtAccessTokenTtlPositive := by decide
  refreshTokenAbsoluteTtlSeconds := 2592000
  refreshTokenIdleTtlSeconds := 604800
  initialManagerUsername := some "manager"
  initialManagerPassword := some "password"

/-- The verifier of these settings. -/
def sampleVerifier : AccessTokenVerifier where
  settings := (sampleSettings "bid-system").auth
  complete := by decide

/-- A library that decodes every token to a payload with one time of expiry. -/
def expiringJwt (exp : ℤ) : Jwt where
  encode _ _ _ := .ok "token"
  getUnverifiedHeader _ := .ok
    [("alg", .string "RS256"), ("typ", .string "at+jwt"), ("kid", .string "test-key-1")]
  decode _ _ _ _ := .ok
    [("iss", .string "bid-system"), ("aud", .string "bid-system-api"), ("sub", .string "user-1"),
      ("tenant_id", .string "default"), ("session_id", .string "session-1"),
      ("jti", .string "token-1"), ("iat", .int 1784721600), ("nbf", .int 1784721600),
      ("exp", .int exp)]

theorem raisesOnlyInvalidToken_expiringJwt (exp : ℤ) :
    RaisesOnlyInvalidToken (expiringJwt exp) := ⟨nofun, nofun⟩

/-- Noon of 22 July 2026 in UTC. -/
def sampleNow : AwareDatetime where
  wall := 1784721600 * second
  utcoffset := 0
  inCalendar := by decide

/-- A token that expires in 900 seconds does not escape. -/
theorem verify_total_iff_sampleNow :
    ¬ Escapes (expiringJwt 1784722500) sampleVerifier "token" sampleNow := by
  have verified : (sampleVerifier.verify (expiringJwt 1784722500) "token"
      sampleNow).toOption.isSome = true := by decide
  refine (verify_total_iff (expiringJwt 1784722500) (raisesOnlyInvalidToken_expiringJwt _)
    sampleVerifier "token" sampleNow).mp ⟨.inl ?_, fun claims => verify_ok⟩
  cases outcome : sampleVerifier.verify (expiringJwt 1784722500) "token" sampleNow with
  | ok claims => exact ⟨claims, rfl⟩
  | error error =>
      rw [outcome] at verified
      cases verified

/-- **A token that expires in 10²⁰ seconds makes `verify` raise `OverflowError`.** -/
theorem overflow_escapes :
    ¬ ∀ (jwt : Jwt), RaisesOnlyInvalidToken jwt → ∀ (self : AccessTokenVerifier) (token : String)
      (verifiedAt : AwareDatetime),
        (∃ claims, self.verify jwt token verifiedAt = .ok claims) ∨
          self.verify jwt token verifiedAt = .error .tokenValidationError := by
  intro total
  have raised : (match sampleVerifier.verify (expiringJwt (10 ^ 20)) "token" sampleNow with
      | .ok _ => false
      | .error error => error == .overflowError) = true := by decide
  rcases total (expiringJwt (10 ^ 20)) (raisesOnlyInvalidToken_expiringJwt _) sampleVerifier "token"
    sampleNow with ⟨claims, verified⟩ | refused
  · rw [verified] at raised
    cases raised
  · rw [refused] at raised
    exact absurd raised (by decide)


end AccessTokenVerifier

/-! ## Issued tokens -/

namespace AccessTokenIssuer

open AccessTokenVerifier

/-- The claims of an issued token. -/
def issuedClaims (settings : AppSettings) (issuer audience subject tenantId sessionId tokenId : String)
    (issuedAt : AwareDatetime) : RawClaims where
  issuer := issuer
  audience := audience
  subject := subject
  tenantId := tenantId
  sessionId := sessionId
  tokenId := tokenId
  iat := wholeSeconds issuedAt.instant
  nbf := wholeSeconds issuedAt.instant
  exp := wholeSeconds (issuedAt.instant + settings.jwtAccessTokenTtlSeconds * second)

/-- The library decodes under a public key the access token it has encoded under
a private key, for its audience and issuer. -/
def DecodesEncoded (jwt : Jwt) (privateKey : String) (key : JwtVerificationKeySettings)
    (raw : RawClaims) : Prop :=
  ∃ token, jwt.encode raw.payload privateKey (accessTokenHeaders key.keyId) = .ok token ∧
    token ≠ "" ∧
      jwt.getUnverifiedHeader token =
        .ok (("alg", .string supportedJwtAlgorithm) :: accessTokenHeaders key.keyId) ∧
      ∀ audience issuer, jwt.decode token key.publicKey audience issuer = .ok raw.payload ↔
        audience = raw.audience ∧ issuer = raw.issuer

/-- The active verification key matches the signing key, as far as a token goes. -/
def Matching (jwt : Jwt) (settings : AppSettings) (subject tenantId sessionId tokenId : String)
    (issuedAt : AwareDatetime) : Prop :=
  ∀ privateKey key issuer audience, settings.jwtSigningPrivateKey = some privateKey →
    key ∈ settings.jwtVerificationKeys → settings.jwtActiveKeyId = some key.keyId →
      settings.jwtIssuer = some issuer → settings.jwtAudience = some audience →
        DecodesEncoded jwt privateKey key
          (issuedClaims settings issuer audience subject tenantId sessionId tokenId issuedAt)

/-- The window of a token, in whole seconds. -/
def InWindow (settings : AppSettings) (issuedAt verifiedAt : AwareDatetime) : Prop :=
  wholeSeconds issuedAt.instant ≤ wholeSeconds verifiedAt.instant ∧
    wholeSeconds verifiedAt.instant <
      wholeSeconds (issuedAt.instant + settings.jwtAccessTokenTtlSeconds * second)

/-- What an issued token says: it verifies exactly in its window, to the
identity it was issued for. -/
def RoundTrip (outcome : Except PyError AccessTokenClaims) (inWindow : Prop)
    (subject tenantId sessionId tokenId : String) : Prop :=
  ((∃ claims, outcome = .ok claims) ↔ inWindow) ∧
    ∀ claims, outcome = .ok claims → claims.subject = subject ∧ claims.tenantId = tenantId ∧
      claims.sessionId = sessionId ∧ claims.tokenId = tokenId

/-- What the round trip needs besides: issuer and audience are not blank, the
time of verification has a UTC reading, and the whole seconds of the expiry have
not been rounded up to the year 10000. -/
def Presentable (settings : AppSettings) (issuedAt verifiedAt : AwareDatetime) : Prop :=
  settings.jwtIssuer.any blank = false ∧ settings.jwtAudience.any blank = false ∧
    InCalendar verifiedAt.instant ∧
      wholeSeconds (issuedAt.instant + settings.jwtAccessTokenTtlSeconds * second) ≤ maxTimestamp

/-- The ring has the key of every key id. -/
theorem verificationKey_of_mem {self : AccessTokenVerifier} {key : JwtVerificationKeySettings}
    (distinct : (self.settings.verificationKeys.map JwtVerificationKeySettings.keyId).Nodup)
    (member : key ∈ self.settings.verificationKeys) :
    self.verificationKey key.keyId = some key.publicKey := by
  unfold verificationKey
  cases found : self.settings.verificationKeys.reverse.find? fun other =>
      other.keyId = key.keyId with
  | none =>
      have absent := List.find?_eq_none.mp found key (List.mem_reverse.mpr member)
      simp at absent
  | some other =>
      have sameId : other.keyId = key.keyId := by simpa using List.find?_some found
      have otherMember := List.mem_reverse.mp (List.mem_of_find?_eq_some found)
      rw [List.inj_on_of_nodup_map distinct otherMember member sameId]
      rfl

/-- The claims of an issued payload. -/
theorem hasClaims_payload_iff {raw other : RawClaims} :
    HasClaims raw.payload other ↔ other = raw ∧ blank raw.issuer = false ∧
      blank raw.audience = false ∧ blank raw.subject = false ∧ blank raw.tenantId = false ∧
        blank raw.sessionId = false ∧ blank raw.tokenId = false := by
  cases raw
  cases other
  constructor
  · rintro ⟨⟨issuer, b₁⟩, ⟨audience, b₂⟩, ⟨subject, b₃⟩, ⟨tenantId, b₄⟩, ⟨sessionId, b₅⟩,
      ⟨tokenId, b₆⟩, iat, nbf, exp⟩
    cases issuer
    cases audience
    cases subject
    cases tenantId
    cases sessionId
    cases tokenId
    cases iat
    cases nbf
    cases exp
    exact ⟨rfl, b₁, b₂, b₃, b₄, b₅, b₆⟩
  · rintro ⟨same, b₁, b₂, b₃, b₄, b₅, b₆⟩
    cases same
    exact ⟨⟨rfl, b₁⟩, ⟨rfl, b₂⟩, ⟨rfl, b₃⟩, ⟨rfl, b₄⟩, ⟨rfl, b₅⟩, ⟨rfl, b₆⟩, rfl, rfl, rfl⟩

section RoundTrip

variable {jwt : Jwt} {settings : AppSettings} {subject tenantId sessionId tokenId : String}
  {issuedAt verifiedAt : AwareDatetime}

/-- Validated settings make an issuer. -/
theorem issuer_of_validate (enabled : settings.authEnabled = true)
    (accepted : settings.validateCrossFieldConfiguration = .ok ()) :
    ∃ issuer : AccessTokenIssuer, ofSettings settings.auth = .ok issuer ∧
      issuer.settings = settings.auth := by
  obtain ⟨algorithm, ⟨_, secret⟩, ⟨_, issuer⟩, ⟨_, audience⟩, -, key, -, active⟩ :=
    AppSettings.of_validate enabled accepted
  have complete : settings.auth.issuerIncomplete = false := by
    simp [AuthSettings.issuerIncomplete, AppSettings.auth, enabled, algorithm, secret, issuer,
      audience, active]
  unfold ofSettings
  split
  · next incomplete =>
      rw [complete] at incomplete
      cases incomplete
  · exact ⟨_, rfl, rfl⟩

/-- Validated settings make a verifier. -/
theorem verifier_of_validate (enabled : settings.authEnabled = true)
    (accepted : settings.validateCrossFieldConfiguration = .ok ()) :
    ∃ verifier : AccessTokenVerifier, AccessTokenVerifier.ofSettings settings.auth = .ok verifier ∧
      verifier.settings = settings.auth := by
  obtain ⟨algorithm, -, ⟨_, issuer⟩, ⟨_, audience⟩, -, key, member, -⟩ :=
    AppSettings.of_validate enabled accepted
  have keys : settings.jwtVerificationKeys ≠ [] := List.ne_nil_of_mem member
  have complete : settings.auth.verifierIncomplete = false := by
    simp [AuthSettings.verifierIncomplete, AppSettings.auth, enabled, algorithm, issuer, audience,
      keys]
  unfold AccessTokenVerifier.ofSettings
  split
  · next incomplete =>
      rw [complete] at incomplete
      cases incomplete
  · exact ⟨_, rfl, rfl⟩

/-- A representable token is issued with its claims. -/
theorem issue_eq_encode {self : AccessTokenIssuer} (sameSettings : self.settings = settings.auth)
    {issuer audience privateKey keyId : String} (isIssuer : settings.jwtIssuer = some issuer)
    (isAudience : settings.jwtAudience = some audience)
    (isKey : settings.jwtSigningPrivateKey = some privateKey)
    (isActive : settings.jwtActiveKeyId = some keyId)
    (notBlank : [subject, tenantId, sessionId, tokenId].any blank = false)
    (issued : InCalendar issuedAt.instant)
    (expires : InCalendar (issuedAt.instant + settings.jwtAccessTokenTtlSeconds * second)) :
    self.issue jwt subject tenantId sessionId tokenId issuedAt =
      jwt.encode
        (issuedClaims settings issuer audience subject tenantId sessionId tokenId issuedAt).payload
        privateKey (accessTokenHeaders keyId) := by
  have normalized : issuedAt.astimezoneUtc = .ok issuedAt.instant :=
    datetimeOf_ok_iff.mpr ⟨issued, rfl⟩
  have expiresAt := datetimeOf_ok_iff.mpr ⟨expires, rfl⟩
  unfold issue
  rw [notBlank, normalized, sameSettings]
  simp only [AppSettings.auth, isIssuer, isAudience, isKey, isActive, requiredValue, bind,
    Except.bind, expiresAt, Bool.false_eq_true, if_false]
  rfl

/-- The conversions succeed exactly for timestamps of the calendar. -/
theorem convert_ok_iff {raw : RawClaims} :
    (∃ claims, raw.convert = .ok claims) ↔
      ∀ seconds ∈ [raw.iat, raw.nbf, raw.exp], minTimestamp ≤ seconds ∧ seconds ≤ maxTimestamp := by
  unfold RawClaims.convert
  simp only [bind_ok_iff, fromTimestamp_ok_iff, List.forall_mem_cons, List.not_mem_nil,
    false_imp_iff, implies_true, and_true]
  constructor
  · rintro ⟨_, _, ⟨iat, -⟩, _, ⟨nbf, -⟩, _, ⟨exp, -⟩, -⟩
    exact ⟨iat, nbf, exp⟩
  · rintro ⟨iat, nbf, exp⟩
    exact ⟨_, _, ⟨iat, rfl⟩, _, ⟨nbf, rfl⟩, _, ⟨exp, rfl⟩, rfl⟩

/-- The library decodes an issued token to its own payload only. -/
theorem decodes_iff {self : AccessTokenVerifier} (sameSettings : self.settings = settings.auth)
    {key : JwtVerificationKeySettings} {token : String} {raw : RawClaims}
    (isIssuer : settings.jwtIssuer = some raw.issuer)
    (isAudience : settings.jwtAudience = some raw.audience)
    (distinct : (settings.jwtVerificationKeys.map JwtVerificationKeySettings.keyId).Nodup)
    (member : key ∈ settings.jwtVerificationKeys)
    (header : jwt.getUnverifiedHeader token =
      .ok (("alg", .string supportedJwtAlgorithm) :: accessTokenHeaders key.keyId))
    (decodes : ∀ audience issuer, jwt.decode token key.publicKey audience issuer = .ok raw.payload ↔
      audience = raw.audience ∧ issuer = raw.issuer) {decoded : JsonObject} :
    Decodes jwt self token decoded ↔ decoded = raw.payload := by
  have ring : self.verificationKey key.keyId = some key.publicKey :=
    verificationKey_of_mem (by rw [sameSettings]; exact distinct) (by rw [sameSettings]; exact member)
  have own : jwt.decode token key.publicKey raw.audience raw.issuer = .ok raw.payload :=
    (decodes _ _).mpr ⟨rfl, rfl⟩
  constructor
  · rintro ⟨_, keyId, publicKey, audience, issuer, isHeader, -, -, isKeyId, found, hasAudience,
      hasIssuer, decodesTo⟩
    rw [header] at isHeader
    cases isHeader
    cases isKeyId
    rw [ring] at found
    cases found
    rw [sameSettings] at hasAudience hasIssuer
    rw [show settings.auth.audience = settings.jwtAudience from rfl, isAudience] at hasAudience
    rw [show settings.auth.issuer = settings.jwtIssuer from rfl, isIssuer] at hasIssuer
    cases hasAudience
    cases hasIssuer
    rw [own] at decodesTo
    exact (Except.ok.inj decodesTo).symm
  · rintro rfl
    exact ⟨_, key.keyId, key.publicKey, raw.audience, raw.issuer, header, rfl, rfl, rfl, ring,
      by rw [sameSettings]; exact isAudience, by rw [sameSettings]; exact isIssuer, own⟩

/-- The conversions keep the identity. -/
theorem convert_identity {raw : RawClaims} {claims : AccessTokenClaims}
    (converted : raw.convert = .ok claims) :
    claims.subject = raw.subject ∧ claims.tenantId = raw.tenantId ∧
      claims.sessionId = raw.sessionId ∧ claims.tokenId = raw.tokenId := by
  unfold RawClaims.convert at converted
  simp only [bind_ok_iff] at converted
  obtain ⟨_, -, _, -, _, -, built⟩ := converted
  cases built
  exact ⟨rfl, rfl, rfl, rfl⟩

end RoundTrip

/-- A library that knows one access token. -/
def singleTokenJwt (raw : RawClaims) : Jwt where
  encode _ _ _ := .ok "token"
  getUnverifiedHeader _ :=
    .ok (("alg", .string supportedJwtAlgorithm) :: accessTokenHeaders "test-key-1")
  decode _ _ audience issuer :=
    if audience = raw.audience ∧ issuer = raw.issuer then .ok raw.payload
    else .error .invalidTokenError

/-- The claims of a token issued at noon. -/
def sampleClaims (issuer : String) : RawClaims :=
  issuedClaims (sampleSettings issuer) issuer "bid-system-api" "user-1" "default" "session-1"
    "token-1" sampleNow

theorem matching_singleTokenJwt (issuer : String) :
    Matching (singleTokenJwt (sampleClaims issuer)) (sampleSettings issuer) "user-1" "default"
      "session-1" "token-1" sampleNow := by
  intro privateKey key iss aud _ _ isActive isIssuer isAudience
  cases isIssuer
  cases isAudience
  have keyId : key.keyId = "test-key-1" := (Option.some.inj isActive).symm
  refine ⟨"token", rfl, by decide, by rw [keyId]; rfl, fun audience expected => ?_⟩
  show (if audience = (sampleClaims issuer).audience ∧ expected = (sampleClaims issuer).issuer then _
    else _) = _ ↔ _
  split_ifs with same
  · exact iff_of_true rfl same
  · exact iff_of_false nofun same

end AccessTokenIssuer

end BidSystem.Security
