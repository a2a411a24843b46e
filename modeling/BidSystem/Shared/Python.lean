import Mathlib.Data.Int.Notation

/-!
# What the code takes from Python

* Times are timezone-aware datetimes read as microseconds since the epoch, and
  a `timedelta` is a number of microseconds.  Naive datetimes, which several
  constructors refuse, have no counterpart in `Instant`; the calendar range of
  `datetime` is not modelled.
* `strip`, `blank` — `str.strip` and the `not value.strip()` checks; `lower` —
  `str.lower`.
* `PyError` — the exceptions the modelled code raises or lets pass.
-/

namespace BidSystem

/-- A timezone-aware `datetime`, in microseconds. -/
abbrev Instant := ℤ

/-- A `timedelta`, in microseconds. -/
abbrev Duration := ℤ

/-- One second. -/
def second : Duration := 1000000

/-! ## Strings -/

/-- What holds of all characters of a text is decided on the text. -/
instance (priority := 2000) decidableForallCharacter (text : List Char) (p : Char → Prop) [DecidablePred p] :
    Decidable (∀ character ∈ text, p character) :=
  List.decidableBAll p text

/-- `str.isspace` on one character: the characters `str.strip` removes. -/
def isSpace (character : Char) : Bool :=
  let code := character.toNat
  (9 ≤ code && code ≤ 13) || (28 ≤ code && code ≤ 32) || code == 0x85 || code == 0xA0 ||
    code == 0x1680 || (0x2000 ≤ code && code ≤ 0x200A) || code == 0x2028 || code == 0x2029 ||
    code == 0x202F || code == 0x205F || code == 0x3000

/-- `str.strip`. -/
def strip (value : String) : String :=
  String.ofList ((value.toList.dropWhile isSpace).reverse.dropWhile isSpace).reverse

/-- `not value.strip()`. -/
def blank (value : String) : Bool := strip value == ""

/-- `str.lower`, for strings whose letters are ASCII. -/
def lower (value : String) : String := String.ofList (value.toList.map Char.toLower)

/-- `str.isascii`. -/
def isAscii (value : String) : Bool := value.toList.all fun character => character.toNat < 128

/-! ## Exceptions -/

/-- `ErrorCode`: the machine-readable codes of the errors raised below. -/
inductive ErrorCode where
  | authenticationRequired
  | permissionDenied
  | notFound
  | conflict
  | fileTooLarge
  | unsupportedDocumentType
  | encryptedDocument
  | malwareDetected
  | invalidDocument
  | pageLimitExceeded
  | duplicateDocumentContent
  | validationError
  | externalServiceUnavailable
  | requestBodyTooLarge
  | internalServerError
deriving DecidableEq, Repr

/-- Exceptions, by class and by the data the code attaches to them. -/
inductive PyError where
  | valueError (message : String)
  | typeError
  | keyError
  | overflowError
  | osError
  | runtimeError (message : String)
  /-- SQLAlchemy's `MultipleResultsFound`. -/
  | multipleResultsFound
  /-- SQLAlchemy's `StaleDataError`: a flushed row was not there. -/
  | staleDataError
  /-- SQLAlchemy's `IntegrityError` over a unique violation of the named constraint. -/
  | integrityError (constraint : String)
  /-- PyJWT's `InvalidTokenError`. -/
  | invalidTokenError
  /-- `TokenValidationError`, a `ValueError`. -/
  | tokenValidationError
  /-- pypdf's `PdfReadError`. -/
  | pdfReadError
  /-- The MinIO client's `S3Error`. -/
  | s3Error
  /-- urllib3's `HTTPError`. -/
  | httpError
  /-- `InvalidRefreshSessionError`, a `ValueError`. -/
  | invalidRefreshSession
  /-- `RefreshTokenReplayError`, an `InvalidRefreshSessionError`. -/
  | refreshTokenReplay (familyId : String)
  /-- A `BidSystemError` subclass with its code and public message. -/
  | bidSystemError (code : ErrorCode) (publicMessage : String)
deriving DecidableEq, Repr

namespace PyError

/-- `AuthenticationError`. -/
def authenticationError : PyError := .bidSystemError .authenticationRequired "需要身份认证"

/-- `PermissionDeniedError`. -/
def permissionDeniedError : PyError := .bidSystemError .permissionDenied "没有访问权限"

/-- `ResourceNotFoundError`. -/
def resourceNotFoundError : PyError := .bidSystemError .notFound "资源不存在"

/-- `BusinessConflictError` with its default message. -/
def businessConflictError : PyError := .bidSystemError .conflict "请求与当前资源状态冲突"

/-- `ExternalServiceError`. -/
def externalServiceError (publicMessage : String) : PyError :=
  .bidSystemError .externalServiceUnavailable publicMessage

/-- `FileSizeLimitExceededError`. -/
def fileSizeLimitExceededError : PyError := .bidSystemError .fileTooLarge "文件大小超过限制"

/-- `PageLimitExceededError`. -/
def pageLimitExceededError : PyError := .bidSystemError .pageLimitExceeded "文件页数超过限制"

/-- `EncryptedDocumentError`. -/
def encryptedDocumentError : PyError := .bidSystemError .encryptedDocument "不支持加密文件"

/-- `InvalidDocumentError`. -/
def invalidDocumentError (publicMessage : String) : PyError :=
  .bidSystemError .invalidDocument publicMessage

/-- `DuplicateDocumentContentError`. -/
def duplicateDocumentContentError : PyError :=
  .bidSystemError .duplicateDocumentContent "上传内容与已有文档版本相同"

/-- `isinstance(error, BidSystemError)`. -/
def isBidSystemError : PyError → Bool
  | .bidSystemError _ _ => true
  | _ => false

end PyError

/-! ## Code that may raise -/

/-- Two steps return if the first one does and the second one after it. -/
theorem bind_ok_iff {E A B : Type} {first : Except E A} {next : A → Except E B} {result : B} :
    (first >>= next) = .ok result ↔ ∃ value, first = .ok value ∧ next value = .ok result := by
  cases first with
  | error error =>
      constructor
      · exact nofun
      · rintro ⟨_, same, _⟩
        cases same
  | ok value =>
      constructor
      · exact fun ran => ⟨value, rfl, ran⟩
      · rintro ⟨_, same, ran⟩
        cases same
        exact ran

/-- Two steps raise if the first one does, or the second one after it. -/
theorem bind_error_iff {E A B : Type} {first : Except E A} {next : A → Except E B} {error : E} :
    (first >>= next) = .error error ↔
      first = .error error ∨ ∃ value, first = .ok value ∧ next value = .error error := by
  cases first with
  | error raised =>
      constructor
      · intro ran
        cases ran
        exact .inl rfl
      · rintro (same | ⟨_, same, _⟩)
        · cases same
          rfl
        · cases same
  | ok value =>
      constructor
      · exact fun ran => .inr ⟨value, rfl, ran⟩
      · rintro (same | ⟨_, same, ran⟩)
        · cases same
        · cases same
          exact ran

/-- `secrets.compare_digest` on two strings: both must be ASCII. -/
def compareDigest (left right : String) : Except PyError Bool :=
  if isAscii left && isAscii right then .ok (left == right) else .error .typeError

/-- A digest compared with itself matches whenever the comparison is allowed. -/
theorem compareDigest_self (digest : String) :
    compareDigest digest digest =
      if isAscii digest = true then .ok true else .error .typeError := by
  simp [compareDigest]

end BidSystem
