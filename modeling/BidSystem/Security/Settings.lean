import BidSystem.Shared.Python
import Mathlib.Data.List.Nodup
import Mathlib.Tactic.SplitIfs

/-!
# Authentication settings

The authentication fields of `AppSettings` with the checks that concern them,
and the `AuthSettings` made from them.  The other fields have checks of their
own, which do not mix with these.
-/

namespace BidSystem.Security

/-- `SUPPORTED_JWT_ALGORITHM`. -/
def supportedJwtAlgorithm : String := "RS256"

/-- `JwtVerificationKeySettings`. -/
structure JwtVerificationKeySettings where
  keyId : String
  publicKey : String
  keyIdMinLength : keyId ≠ ""
deriving DecidableEq

/-- `AuthSettings`, as far as access tokens use it. -/
structure AuthSettings where
  enabled : Bool
  algorithm : Option String
  activeKeyId : Option String
  signingPrivateKey : Option String
  verificationKeys : List JwtVerificationKeySettings
  issuer : Option String
  audience : Option String
  accessTokenTtlSeconds : ℕ
  accessTokenTtlPositive : 1 ≤ accessTokenTtlSeconds

/-- `AppSettings`, as far as authentication goes. -/
structure AppSettings where
  authEnabled : Bool
  jwtAlgorithm : Option String
  jwtActiveKeyId : Option String
  jwtSigningPrivateKey : Option String
  jwtVerificationKeys : List JwtVerificationKeySettings
  jwtIssuer : Option String
  jwtAudience : Option String
  jwtAccessTokenTtlSeconds : ℕ
  jwtAccessTokenTtlPositive : 1 ≤ jwtAccessTokenTtlSeconds
  refreshTokenAbsoluteTtlSeconds : ℕ
  refreshTokenIdleTtlSeconds : ℕ
  initialManagerUsername : Option String
  initialManagerPassword : Option String

/-- `bool(value)` of an optional string: neither `None` nor empty. -/
def truthy (value : Option String) : Bool := value.any fun text => text != ""

namespace AppSettings

/-- `AppSettings.validate_cross_field_configuration`. -/
def validateCrossFieldConfiguration (settings : AppSettings) : Except PyError Unit :=
  let verificationKeyIds := settings.jwtVerificationKeys.map JwtVerificationKeySettings.keyId
  if settings.refreshTokenAbsoluteTtlSeconds < settings.refreshTokenIdleTtlSeconds then
    .error (.valueError
      "REFRESH_TOKEN_IDLE_TTL_SECONDS must be <= REFRESH_TOKEN_ABSOLUTE_TTL_SECONDS")
  else if settings.authEnabled && !(truthy settings.jwtAlgorithm && truthy settings.jwtActiveKeyId &&
      truthy settings.jwtSigningPrivateKey && settings.jwtVerificationKeys != [] &&
      truthy settings.jwtIssuer && truthy settings.jwtAudience) then
    .error (.valueError ("JWT_ALGORITHM, JWT_ACTIVE_KEY_ID, JWT_SIGNING_PRIVATE_KEY, " ++
      "JWT_VERIFICATION_KEYS, JWT_ISSUER and JWT_AUDIENCE are required when AUTH_ENABLED=true"))
  else if settings.authEnabled && settings.jwtAlgorithm != some supportedJwtAlgorithm then
    .error (.valueError "JWT_ALGORITHM must be RS256")
  else if ¬ verificationKeyIds.Nodup then
    .error (.valueError "JWT_VERIFICATION_KEYS key ids must be unique")
  else if settings.authEnabled &&
      !(settings.jwtActiveKeyId.any fun keyId => keyId ∈ verificationKeyIds) then
    .error (.valueError "JWT_ACTIVE_KEY_ID must exist in JWT_VERIFICATION_KEYS")
  else if settings.authEnabled &&
      !(truthy settings.initialManagerUsername && truthy settings.initialManagerPassword) then
    .error (.valueError ("INITIAL_MANAGER_USERNAME and INITIAL_MANAGER_PASSWORD are required " ++
      "when AUTH_ENABLED=true"))
  else .ok ()

/-- `AppSettings.auth`. -/
def auth (settings : AppSettings) : AuthSettings where
  enabled := settings.authEnabled
  algorithm := settings.jwtAlgorithm
  activeKeyId := settings.jwtActiveKeyId
  signingPrivateKey := settings.jwtSigningPrivateKey
  verificationKeys := settings.jwtVerificationKeys
  issuer := settings.jwtIssuer
  audience := settings.jwtAudience
  accessTokenTtlSeconds := settings.jwtAccessTokenTtlSeconds
  accessTokenTtlPositive := settings.jwtAccessTokenTtlPositive

theorem of_truthy {value : Option String} (holds : truthy value = true) :
    ∃ text, value = some text ∧ text ≠ "" := by
  cases value with
  | none => cases holds
  | some text => exact ⟨text, rfl, by simpa [truthy] using holds⟩

/-- **What validation says about enabled authentication.** -/
theorem of_validate {settings : AppSettings} (enabled : settings.authEnabled = true)
    (accepted : settings.validateCrossFieldConfiguration = .ok ()) :
    settings.jwtAlgorithm = some supportedJwtAlgorithm ∧
      (∃ privateKey, settings.jwtSigningPrivateKey = some privateKey) ∧
      (∃ issuer, settings.jwtIssuer = some issuer) ∧
      (∃ audience, settings.jwtAudience = some audience) ∧
      (settings.jwtVerificationKeys.map JwtVerificationKeySettings.keyId).Nodup ∧
      ∃ key ∈ settings.jwtVerificationKeys, settings.jwtActiveKeyId = some key.keyId := by
  unfold validateCrossFieldConfiguration at accepted
  dsimp only at accepted
  split_ifs at accepted with idle incomplete algorithm duplicate missing
  simp only [enabled, Bool.true_and, Bool.not_eq_true', Bool.not_eq_false, Bool.and_eq_true,
    bne_iff_ne, ne_eq, not_not] at incomplete algorithm duplicate missing
  obtain ⟨⟨⟨⟨⟨-, -⟩, privateKey⟩, -⟩, issuer⟩, audience⟩ := incomplete
  obtain ⟨secret, isSecret, -⟩ := of_truthy privateKey
  obtain ⟨iss, isIssuer, -⟩ := of_truthy issuer
  obtain ⟨aud, isAudience, -⟩ := of_truthy audience
  refine ⟨algorithm, ⟨secret, isSecret⟩, ⟨iss, isIssuer⟩, ⟨aud, isAudience⟩, duplicate, ?_⟩
  cases active : settings.jwtActiveKeyId with
  | none =>
      rw [active] at missing
      cases missing
  | some keyId =>
      rw [active] at missing
      obtain ⟨key, member, isKey⟩ := List.mem_map.mp (of_decide_eq_true missing)
      exact ⟨key, member, congrArg some isKey.symm⟩

end AppSettings

end BidSystem.Security
