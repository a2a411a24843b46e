import BidSystem.Api.BodyLimit

/-!
# The upload form

`enforce_single_upload_file` parses the multipart form of an upload and checks its items;
an error of the application is answered by `business_exception_handler`.

The parser is any program that reads the body and lets the errors of `receive` pass.  It is
the body reader of the route, so the limit of `RequestBodyLimitMiddleware` is met inside it.

* `enforceSingleUploadFile` — every `Exception` of the parser becomes one
  `InvalidDocumentUploadRequestError`, and the error over the limit is an `Exception`.
* `checkItems_ok_iff_forms` — which forms the checks admit.
* `parse_of_overflows` — a parser that reads more than the limit ends with the error over it.
* `emitted_of_overflows` — what the client is sent then.
-/

namespace BidSystem.Api

open Interaction Interaction.Program

/-! ## Errors of the application -/

/-- What an endpoint raises: an error of the server's calls, or a `BidSystemError`. -/
inductive EndpointRaised where
  | raised (error : Raised)
  | bidSystemError (code : ErrorCode) (publicMessage : String)
deriving DecidableEq, Repr

/-- `InvalidDocumentUploadRequestError`. -/
def invalidDocumentUploadRequestError : EndpointRaised :=
  .bidSystemError .validationError "上传请求必须且只能包含一个文件"

/-- The classes of `BidSystemError` that the mappings name. -/
inductive ErrorClass where
  | fileSizeLimitExceededError
  | unsupportedDocumentTypeError
  | duplicateDocumentContentError
  | resourceNotFoundError
  | businessConflictError
  | stateTransitionError
  | authenticationError
  | permissionDeniedError
  | externalServiceError
  | applicationError
  | domainError
deriving DecidableEq, Repr

/-- The classes among these of the error with a code: each code is that of one class. -/
def classes : ErrorCode → List ErrorClass
  | .authenticationRequired => [.authenticationError, .applicationError]
  | .permissionDenied => [.permissionDeniedError, .applicationError]
  | .notFound => [.resourceNotFoundError, .applicationError]
  | .conflict => [.businessConflictError, .domainError]
  | .fileTooLarge => [.fileSizeLimitExceededError, .domainError]
  | .unsupportedDocumentType => [.unsupportedDocumentTypeError, .domainError]
  | .duplicateDocumentContent => [.duplicateDocumentContentError, .domainError]
  | .encryptedDocument | .malwareDetected | .invalidDocument | .pageLimitExceeded
  | .validationError => [.domainError]
  | .externalServiceUnavailable => [.externalServiceError, .applicationError]
  | .requestBodyTooLarge | .internalServerError => []

/-- The status codes of `EXCEPTION_HTTP_MAPPINGS`, in its order. -/
def exceptionHttpMappings : List (ErrorClass × ℕ) :=
  [(.fileSizeLimitExceededError, 413), (.unsupportedDocumentTypeError, 415),
    (.duplicateDocumentContentError, 409), (.resourceNotFoundError, 404),
    (.businessConflictError, 409), (.stateTransitionError, 409), (.authenticationError, 401),
    (.permissionDeniedError, 403), (.externalServiceError, 503), (.applicationError, 400),
    (.domainError, 422)]

/-- The status code of `_business_exception_mapping`. -/
def businessExceptionStatus (code : ErrorCode) : ℕ :=
  ((exceptionHttpMappings.find? fun mapping => mapping.1 ∈ classes code).map Prod.snd).getD 500

/-- `business_exception_handler`. -/
def businessExceptionHandler (scope : Scope) (code : ErrorCode) (publicMessage : String) :
    AsgiRun :=
  errorResponse (businessExceptionStatus code) code publicMessage scope.requestId none

/-- What the framework does after an endpoint: a `BidSystemError` is handled, unless the
response has started, and any other error passes. -/
def handleEndpoint (scope : Scope) (ran : Except EndpointRaised Unit × Bool) : AsgiRun :=
  match ran with
  | (.ok (), _) => .done (.ok ())
  | (.error (.raised error), _) => .done (.error error)
  | (.error (.bidSystemError code publicMessage), responseStarted) =>
      if responseStarted then .done (.error (.exception "RuntimeError"))
      else businessExceptionHandler scope code publicMessage

/-- An endpoint as an application. -/
def endpointApp
    (endpoint : Scope → Program AsgiCall AsgiCall.Answer (Except EndpointRaised Unit)) : AsgiApp :=
  fun scope => ((endpoint scope).mediate sendWithState false).bind (handleEndpoint scope)

/-! ## The form -/

/-- The value of a form item. -/
inductive FormValue where
  | file
  | text (value : String)
deriving DecidableEq, Repr

/-- `form.multi_items()`. -/
abbrev FormItems := List (String × FormValue)

/-- `ALLOWED_MULTIPART_FIELDS`. -/
def allowedMultipartFields : List String := ["file", "expires_at"]

/-- `MAX_MULTIPART_FILES`. -/
def maxMultipartFiles : ℕ := 2

/-- `MAX_MULTIPART_FIELDS`. -/
def maxMultipartFields : ℕ := 2

/-- `request.form` with its two limits. -/
abbrev MultipartParser := ℕ → ℕ → Program AsgiCall AsgiCall.Answer (Except Raised FormItems)

/-- The checks of `enforce_single_upload_file` on the items. -/
def checkItems (items : FormItems) : Except EndpointRaised Unit :=
  let files := items.filter fun item => item.2 = .file
  if files.length ≠ 1 ∨ ¬(items.map Prod.fst) ⊆ allowedMultipartFields then
    .error invalidDocumentUploadRequestError
  else if (items.map Prod.fst).count "file" ≠ 1 then .error invalidDocumentUploadRequestError
  else if 1 < (items.map Prod.fst).count "expires_at" then
    .error invalidDocumentUploadRequestError
  else .ok ()

/-- What `enforce_single_upload_file` makes of the parser's outcome. -/
def enforceParsed : Except Raised FormItems → Except EndpointRaised Unit
  | .error error =>
      if error.isException then .error invalidDocumentUploadRequestError
      else .error (.raised error)
  | .ok items => checkItems items

/-- `enforce_single_upload_file`. -/
def enforceSingleUploadFile (parser : MultipartParser) :
    Program AsgiCall AsgiCall.Answer (Except EndpointRaised Unit) :=
  (parser maxMultipartFiles maxMultipartFields).bind fun parsed => .done (enforceParsed parsed)

/-- An upload route: its form is enforced before the endpoint runs. -/
def uploadRoute (parser : MultipartParser)
    (endpoint : Scope → Program AsgiCall AsgiCall.Answer (Except EndpointRaised Unit)) :
    AsgiApp :=
  endpointApp fun scope => (enforceSingleUploadFile parser).bind fun
    | .error error => .done (.error error)
    | .ok () => endpoint scope

/-! ## What the checks admit

The four checks count names and kinds apart.  They fix how many items there are and what
their names are, but not which of two names the file has.
-/

/-- One file part named `file`, and beside it at most a text named `expires_at`. -/
def SingleUpload (items : FormItems) : Prop :=
  ∃ further, items.Perm (("file", .file) :: further) ∧ further.length ≤ 1 ∧
    ∀ item ∈ further, ∃ value, item = ("expires_at", .text value)

/-- A text named `file` and a file part named `expires_at`. -/
def Exchanged (items : FormItems) : Prop :=
  ∃ value, items.Perm [("file", .text value), ("expires_at", .file)]

section Items

variable {items items' : FormItems}

/-- The four checks. -/
theorem checkItems_ok_iff :
    checkItems items = .ok () ↔
      (items.filter fun item => item.2 = .file).length = 1 ∧
        items.map Prod.fst ⊆ allowedMultipartFields ∧
          (items.map Prod.fst).count "file" = 1 ∧ (items.map Prod.fst).count "expires_at" ≤ 1 := by
  unfold checkItems
  dsimp only
  split_ifs with outside files repeated
  · refine iff_of_false (fun accepted => by cases accepted) ?_
    rintro ⟨one, allowed, -⟩
    rcases outside with many | unknown
    · exact many one
    · exact unknown allowed
  · exact iff_of_false (fun accepted => by cases accepted) fun checked => files checked.2.2.1
  · refine iff_of_false (fun accepted => by cases accepted) fun checked => ?_
    exact absurd repeated (Nat.not_lt.2 checked.2.2.2)
  · rw [not_or, not_not, not_not] at outside
    exact iff_of_true rfl ⟨outside.1, outside.2, not_not.1 files, Nat.not_lt.1 repeated⟩

/-- The order of the items does not matter. -/
theorem checkItems_perm (perm : items.Perm items') : checkItems items = checkItems items' := by
  have names := perm.map Prod.fst
  have files := (perm.filter fun item => item.2 = .file).length_eq
  have allowed : items.map Prod.fst ⊆ allowedMultipartFields ↔
      items'.map Prod.fst ⊆ allowedMultipartFields :=
    ⟨List.Subset.trans names.symm.subset, List.Subset.trans names.subset⟩
  unfold checkItems
  simp only [files, allowed, names.count_eq]

/-- The allowed names leave room for as many items as they are counted. -/
theorem length_eq_of_allowed {names : List String} (allowed : names ⊆ allowedMultipartFields) :
    names.length = names.count "file" + names.count "expires_at" := by
  induction names with
  | nil => rfl
  | cons name names ih =>
      obtain ⟨known, others⟩ := List.cons_subset.1 allowed
      have rest := ih others
      rcases List.mem_pair.1 known with rfl | rfl
      · rw [List.length_cons, List.count_cons_self, List.count_cons_of_ne (by decide)]
        omega
      · rw [List.length_cons, List.count_cons_self, List.count_cons_of_ne (by decide)]
        omega

/-- Two items that are counted as a file part and as each of the names. -/
theorem of_counted_pair {first second : String × FormValue}
    (files : ([first, second].filter fun item => item.2 = .file).length = 1)
    (isFile : first.1 = "file") (isExpiry : second.1 = "expires_at") :
    SingleUpload [first, second] ∨ Exchanged [first, second] := by
  obtain ⟨name, value⟩ := first
  obtain ⟨name', value'⟩ := second
  cases isFile
  cases isExpiry
  cases value with
  | file =>
      cases value' with
      | file => cases files
      | text expiry => exact .inl ⟨[("expires_at", .text expiry)], .refl _, Nat.le_refl 1, by simp⟩
  | text content =>
      cases value' with
      | file => exact .inr ⟨content, .refl _⟩
      | text expiry => cases files

/-- **What the checks admit**: the intended form, and the one with its kinds exchanged. -/
theorem checkItems_ok_iff_forms :
    checkItems items = .ok () ↔ SingleUpload items ∨ Exchanged items := by
  constructor
  · intro accepted
    obtain ⟨files, allowed, isFile, isExpiry⟩ := checkItems_ok_iff.1 accepted
    have length := length_eq_of_allowed allowed
    rw [isFile, List.length_map] at length
    -- There are at most two items, and one of them has the name `file`.
    rcases items with _ | ⟨first, _ | ⟨second, _ | ⟨third, others⟩⟩⟩
    · cases isFile
    · obtain ⟨name, value⟩ := first
      have named : name = "file" := by
        by_contra other
        rw [List.map_singleton, List.count_singleton, if_neg (by simpa using other)] at isFile
        cases isFile
      cases named
      cases value with
      | file => exact .inl ⟨[], .refl _, Nat.zero_le 1, List.forall_mem_nil _⟩
      | text content => cases files
    · obtain ⟨known, others⟩ := List.cons_subset.1 allowed
      rcases List.mem_pair.1 known with named | named
      · rcases List.mem_pair.1 (others List.mem_cons_self) with named' | named'
        · simp [named, named'] at isFile
        · exact of_counted_pair files named named'
      · rcases List.mem_pair.1 (others List.mem_cons_self) with named' | named'
        · have swapped : ([second, first].filter fun item => item.2 = .file).length = 1 := by
            rw [← files]
            exact ((List.Perm.swap first second []).filter _).length_eq
          exact (of_counted_pair swapped named' named).imp
            (fun ⟨further, perm, rest⟩ => ⟨further, (List.Perm.swap _ _ _).trans perm, rest⟩)
            fun ⟨content, perm⟩ => ⟨content, (List.Perm.swap _ _ _).trans perm⟩
        · simp [named, named'] at isFile
    · rw [List.length_cons, List.length_cons, List.length_cons] at length
      omega
  · rintro (⟨further, perm, short, expiries⟩ | ⟨content, perm⟩)
    · rw [checkItems_perm perm]
      rcases further with _ | ⟨expiry, _ | ⟨second, others⟩⟩
      · decide
      · obtain ⟨value, rfl⟩ := expiries expiry List.mem_cons_self
        rfl
      · exact absurd short (by simp)
    · rw [checkItems_perm perm]
      rfl

/-- The file of an intended form is not the expiry. -/
theorem SingleUpload.not_exchanged (single : SingleUpload items) : ¬Exchanged items := by
  rintro ⟨content, exchanged⟩
  obtain ⟨further, perm, -, -⟩ := single
  have member : ("file", .file) ∈ items := perm.mem_iff.2 List.mem_cons_self
  simpa using exchanged.mem_iff.1 member

end Items

/-- **When only the intended forms are accepted.**  Whatever parser returned the items,
`enforce_single_upload_file` accepts exactly the forms of one file and an expiry, unless the
two fields have exchanged their kinds. -/
theorem accepts_single_upload_iff {parser : MultipartParser} {wire : Wire}
    {items : FormItems}
    (parsed : ((parser maxMultipartFiles maxMultipartFields).exec serve wire).1 =
      .ok items) :
    (((enforceSingleUploadFile parser).exec serve wire).1 = .ok () ↔ SingleUpload items) ↔
      ¬Exchanged items := by
  have enforced : ((enforceSingleUploadFile parser).exec serve wire).1 = checkItems items := by
    rw [enforceSingleUploadFile, exec_bind, parsed]
    rfl
  rw [enforced, checkItems_ok_iff_forms]
  constructor
  · intro only exchanged
    exact (only.1 (.inr exchanged)).not_exchanged exchanged
  · intro plain
    exact or_iff_left plain

/-- A parser of forms of one message. -/
def oneMessageParser (items : FormItems) : MultipartParser := fun _ _ =>
  .call .receive fun
    | .ok (.httpRequest _ false) => .done (.ok items)
    | .ok _ => .done (.error (.exception "ClientDisconnect"))
    | .error error => .done (.error error)

/-- A client that sends its body in one message. -/
def oneMessage : Wire := { incoming := [.httpRequest (some [45, 45]) false], emitted := [] }

/-- A file and its expiry. -/
def expiringForm : FormItems := [("expires_at", .text "2027-01-01T00:00:00Z"), ("file", .file)]

/-- The expiry as a file part, and the file as a text. -/
def exchangedForm : FormItems := [("expires_at", .file), ("file", .text "2027-01-01T00:00:00Z")]

theorem accepts_single_upload_iff_expiring :
    ((enforceSingleUploadFile (oneMessageParser expiringForm)).exec serve oneMessage).1 = .ok () ↔
      SingleUpload expiringForm := by
  refine (@accepts_single_upload_iff (oneMessageParser expiringForm) oneMessage _ rfl).2 ?_
  refine SingleUpload.not_exchanged ⟨[_], .swap _ _ _, Nat.le_refl 1, ?_⟩
  simp

/-- A file part named `expires_at` is accepted. -/
theorem exchangedForm_accepted :
    ((enforceSingleUploadFile (oneMessageParser exchangedForm)).exec serve oneMessage).1 = .ok () ∧
      ¬SingleUpload exchangedForm :=
  ⟨by decide, fun single => single.not_exchanged ⟨_, .swap _ _ _⟩⟩

/-! ## The limit inside the parser -/

/-- The program only reads, and lets the errors of `receive` pass. -/
def Propagates {A : Type} : Program AsgiCall AsgiCall.Answer (Except Raised A) → Prop
  | .done _ => True
  | .call .receive next => (∀ error, next (.error error) = .done (.error error)) ∧
      ∀ message, Propagates (next (.ok message))
  | .call (.send _) _ => False

/-- `received_bytes` after the parser. -/
def bytesRead {A : Type} (maxBodyBytes : ℕ)
    (parse : Program AsgiCall AsgiCall.Answer (Except Raised A)) (incoming : List Incoming) : ℕ :=
  ((parse.mediate (limitedReceive maxBodyBytes) 0).exec serve { incoming, emitted := [] }).1.2

/-- A message that does not exceed the limit keeps the count within it. -/
theorem Incoming.received_le {message : Incoming} {maxBodyBytes received : ℕ}
    (fits : message.exceeds maxBodyBytes received = false) (within : received ≤ maxBodyBytes) :
    received + message.bodySize ≤ maxBodyBytes := by
  rcases message with ⟨body, moreBody⟩ | _ | type
  · rw [Incoming.exceeds, Incoming.isRequest, Bool.true_and, decide_eq_false_iff_not] at fits
    exact Nat.le_of_not_lt fits
  · exact within
  · exact within

/-- **A parser that reads more than the limit ends with the error over it**, and has sent
nothing; the framework only watches it. -/
theorem exec_parse_of_overflows {A : Type} {maxBodyBytes : ℕ}
    {parse : Program AsgiCall AsgiCall.Answer (Except Raised A)} (propagates : Propagates parse)
    {received : ℕ} (within : received ≤ maxBodyBytes) {incoming : List Incoming}
    {emitted : List Outgoing} (sent : List Outgoing)
    (overflows : maxBodyBytes < ((parse.mediate (limitedReceive maxBodyBytes) received).exec serve
      { incoming, emitted }).1.2) :
    let played := (parse.mediate sendWithState false).exec play
      { answers := cutAt maxBodyBytes received incoming, sent }
    played.1 = (.error .requestBodyTooLarge, false) ∧ played.2.sent = sent := by
  -- The induction is on the parser; it is within the limit as long as it goes on.
  induction parse generalizing received incoming with
  | done result => exact absurd overflows (Nat.not_lt.2 within)
  | call request next ih =>
      rcases request with _ | message
      case send => exact propagates.elim
      obtain ⟨passes, goesOn⟩ := propagates
      rcases incoming with _ | ⟨message, incoming⟩
      · exact ih (.ok .httpDisconnect) (goesOn _) within overflows
      · rw [mediate, exec_call] at overflows
        rcases fits : message.exceeds maxBodyBytes received with _ | _
        · have passed : limitedReceive maxBodyBytes received .receive
              (serve .receive ⟨message :: incoming, emitted⟩).1 =
                (.ok message, received + message.bodySize) :=
            limitedReceive_of_not_exceeds fits
          rw [passed] at overflows
          have rest := ih (.ok message) (goesOn _) (Incoming.received_le fits within) overflows
          rw [cutAt, if_neg (by rw [fits]; exact Bool.false_ne_true)]
          exact rest
        · rw [cutAt, if_pos fits]
          show (((next (.error .requestBodyTooLarge)).mediate sendWithState false).exec play _).1 = _ ∧
            (((next (.error .requestBodyTooLarge)).mediate sendWithState false).exec play _).2.sent = _
          rw [passes]
          exact ⟨rfl, rfl⟩

/-- What is sent and returned by the response to an error when a script is played to it. -/
theorem exec_play_errorResponse (statusCode : ℕ) (code : ErrorCode) (message requestId : String)
    (script : Script) :
    (errorResponse statusCode code message requestId none).exec play script =
      (.ok (), { script with
        sent := script.sent ++ envelope statusCode
          { code, message, details := [], requestId } }) := by
  rw [envelope, List.append_cons]
  rfl

/-- The envelope of an `InvalidDocumentUploadRequestError`. -/
def invalidUploadEnvelope (scope : Scope) : List Outgoing :=
  envelope 422 {
    code := .validationError
    message := "上传请求必须且只能包含一个文件"
    details := []
    requestId := scope.requestId }

section

variable {middleware : RequestBodyLimitMiddleware} {parser : MultipartParser}
  {endpoint : Scope → Program AsgiCall AsgiCall.Answer (Except EndpointRaised Unit)}
  {scope : Scope} {incoming : List Incoming}

/-- Alone on the messages cut at the limit, the route answers that the upload is invalid. -/
theorem alone_uploadRoute (propagates : Propagates (parser maxMultipartFiles maxMultipartFields))
    (overflows : middleware.limitForScope scope < bytesRead (middleware.limitForScope scope)
      (parser maxMultipartFiles maxMultipartFields) incoming) :
    alone (uploadRoute parser endpoint scope) (cutAt (middleware.limitForScope scope) 0 incoming) =
      (.ok (), invalidUploadEnvelope scope) := by
  obtain ⟨outcome, silent⟩ := exec_parse_of_overflows propagates (Nat.zero_le _) []
    overflows
  unfold alone uploadRoute endpointApp enforceSingleUploadFile
  rw [exec_bind, mediate_bind, mediate_bind, exec_bind, exec_bind, outcome]
  show (((businessExceptionHandler scope _ _).exec play _).1,
    ((businessExceptionHandler scope _ _).exec play _).2.sent) = _
  rw [businessExceptionHandler, exec_play_errorResponse]
  show (_, ((parser _ _).mediate sendWithState false |>.exec play _).2.sent ++ _) = _
  rw [silent]
  rfl

end

/-! ### A body over the limit -/

/-- Read messages until the last one of the body. -/
def readForm : ℕ → Program AsgiCall AsgiCall.Answer (Except Raised FormItems)
  | 0 => .done (.error (.exception "MultiPartException"))
  | messages + 1 => .call .receive fun
      | .error error => .done (.error error)
      | .ok (.httpRequest _ true) => readForm messages
      | .ok (.httpRequest _ false) => .done (.ok [("file", .file)])
      | .ok _ => .done (.error (.exception "ClientDisconnect"))

/-- A parser of forms that come in a hundred messages at most. -/
def sampleParser : MultipartParser := fun _ _ => readForm 100

theorem propagates_readForm (messages : ℕ) : Propagates (readForm messages) := by
  induction messages with
  | zero => trivial
  | succ messages ih =>
      refine ⟨fun _ => rfl, fun message => ?_⟩
      rcases message with ⟨body, _ | _⟩ | _ | type
      · trivial
      · exact ih
      · trivial
      · trivial

/-- An upload without a declared size. -/
def uploadScope : Scope where
  type := "http"
  method := "POST"
  path := "/api/v1/documents"
  headers := [("content-type", "multipart/form-data; boundary=x")]
  requestId := "request-1"

/-- Twelve bytes in two messages. -/
def twelveBytes : List Incoming :=
  [.httpRequest (some [1, 2, 3, 4, 5, 6]) true, .httpRequest (some [1, 2, 3, 4, 5, 6]) false]

/-- An endpoint that answers. -/
def sampleEndpoint : Scope → Program AsgiCall AsgiCall.Answer (Except EndpointRaised Unit) :=
  fun _ => (respond [79, 75]).bind fun outcome => .done (outcome.mapError .raised)

end BidSystem.Api
