import BidSystem.Api.Asgi
import Mathlib.Algebra.BigOperators.Group.List.Basic

/-!
# The limit on request bodies

`RequestBodyLimitMiddleware` counts the bytes of the request body that an application
receives and raises `RequestBodyTooLargeError` out of `receive` when they exceed the
limit; when the application lets the error pass it answers with a 413.
`UnhandledExceptionMiddleware`, further out, answers with a 500 to any other exception,
unless the response has started.  The first of the two does not look whether the
response has started.

* `bytes_observed_le` — no application receives more than the limit.
* `exec_limited` — behind the two middlewares an application does what it does alone
  on the messages cut at the limit.
* `emitted_stack` — what the stack sends, by the outcome of the application.
* `respects_iff` — the stack respects the limits unless the application lets the error
  pass after it has started its response.
-/

namespace BidSystem.Api

open Interaction Interaction.Program

/-! ## The middlewares -/

/-- The value of a digit. -/
def digitValue (digit : Char) : ℕ := digit.toNat - '0'.toNat

/-- The value of ASCII digits, of which single underscores may stand between two, and
of which CPython reads at most 4300. -/
def digitsValue (text : List Char) : Option ℕ :=
  let groups := text.splitOn '_'
  if groups.all (fun group => group != [] && group.all Char.isDigit) &&
      groups.flatten.length ≤ 4300 then
    some (groups.flatten.foldl (fun value digit => 10 * value + digitValue digit) 0)
  else none

/-- `int(text)`, for Latin-1 text; `none` stands for a `ValueError`. -/
def pyInt (text : String) : Option ℤ :=
  match (strip text).toList with
  | '-' :: digits => (digitsValue digits).map fun value => -(value : ℤ)
  | '+' :: digits => (digitsValue digits).map fun value => (value : ℤ)
  | digits => (digitsValue digits).map fun value => (value : ℤ)

/-- `RequestBodyLimitMiddleware`, with the limits of its settings. -/
structure RequestBodyLimitMiddleware where
  maxBodyBytes : ℕ
  documentUploadPathPrefix : String
  documentUploadMaxBodyBytes : ℕ
deriving DecidableEq, Repr

/-- The size that a message adds to the body. -/
def Incoming.bodySize : Incoming → ℕ
  | .httpRequest body _ => (body.getD []).length
  | _ => 0

/-- `message["type"] == "http.request"`. -/
def Incoming.isRequest : Incoming → Bool
  | .httpRequest _ _ => true
  | _ => false

/-- `limited_receive`; the state is `received_bytes`. -/
def limitedReceive (maxBodyBytes : ℕ) : Mediator AsgiCall AsgiCall.Answer ℕ
  | receivedBytes, .receive, .ok message =>
      if message.isRequest then
        let receivedBytes := receivedBytes + message.bodySize
        if maxBodyBytes < receivedBytes then (.error .requestBodyTooLarge, receivedBytes)
        else (.ok message, receivedBytes)
      else (.ok message, receivedBytes)
  | receivedBytes, .receive, .error raised => (.error raised, receivedBytes)
  | receivedBytes, .send _, answer => (answer, receivedBytes)

namespace RequestBodyLimitMiddleware

/-- `_limit_for_scope`. -/
def limitForScope (middleware : RequestBodyLimitMiddleware) (scope : Scope) : ℕ :=
  if scope.method = "POST" ∧ scope.path.startsWith middleware.documentUploadPathPrefix then
    middleware.documentUploadMaxBodyBytes
  else middleware.maxBodyBytes

/-- `_declared_size_exceeds_limit`. -/
def declaredSizeExceedsLimit (contentLength : String) (maxBodyBytes : ℕ) : Bool :=
  (pyInt contentLength).elim true fun declared => (maxBodyBytes : ℤ) < declared

/-- The declared size, if there is one, exceeds the limit. -/
def declaredTooLarge (middleware : RequestBodyLimitMiddleware) (scope : Scope) : Bool :=
  (scope.header "content-length").any fun contentLength =>
    declaredSizeExceedsLimit contentLength (middleware.limitForScope scope)

/-- `_send_rejection`. -/
def sendRejection (scope : Scope) : AsgiRun :=
  errorResponse 413 .requestBodyTooLarge "请求体超过大小限制" scope.requestId none

/-- What `RequestBodyLimitMiddleware` does after the application. -/
def handleTooLarge (scope : Scope) (ran : Except Raised Unit × ℕ) : AsgiRun :=
  match ran.1 with
  | .error .requestBodyTooLarge => sendRejection scope
  | outcome => .done outcome

/-- `RequestBodyLimitMiddleware.__call__`. -/
def call (middleware : RequestBodyLimitMiddleware) (app : AsgiApp) : AsgiApp := fun scope =>
  if scope.type ≠ "http" then app scope
  else if middleware.declaredTooLarge scope then sendRejection scope
  else
    ((app scope).mediate (limitedReceive (middleware.limitForScope scope)) 0).bind
      (handleTooLarge scope)

end RequestBodyLimitMiddleware

/-- `send_with_state`; the state is `response_started`. -/
def sendWithState : Mediator AsgiCall AsgiCall.Answer Bool
  | responseStarted, .receive, answer => (answer, responseStarted)
  | responseStarted, .send message, answer => (answer, responseStarted || message.isStart)

/-- What `UnhandledExceptionMiddleware` does after the application. -/
def handleUnhandled (scope : Scope) (ran : Except Raised Unit × Bool) : AsgiRun :=
  match ran with
  | (.ok (), _) => .done (.ok ())
  | (.error error, responseStarted) =>
      if error.isException then
        if responseStarted then .done (.error error)
        else errorResponse 500 .internalServerError "服务器内部错误" scope.requestId none
      else .done (.error error)

/-- `UnhandledExceptionMiddleware.__call__`. -/
def unhandledExceptionMiddleware (app : AsgiApp) : AsgiApp := fun scope =>
  if scope.type ≠ "http" then app scope
  else ((app scope).mediate sendWithState false).bind (handleUnhandled scope)

/-- The two middlewares around an application. -/
def stack (middleware : RequestBodyLimitMiddleware) (app : AsgiApp) : AsgiApp :=
  unhandledExceptionMiddleware (middleware.call app)

/-! ## What reaches the application -/

/-- The body bytes of the messages that a transcript has received. -/
def receivedBytes : List (Exchange AsgiCall AsgiCall.Answer) → ℕ
  | [] => 0
  | ⟨.receive, .ok message⟩ :: log => message.bodySize + receivedBytes log
  | _ :: log => receivedBytes log

/-- The message brings a body of `received` bytes over the limit. -/
def Incoming.exceeds (message : Incoming) (maxBodyBytes received : ℕ) : Bool :=
  message.isRequest && maxBodyBytes < received + message.bodySize

theorem limitedReceive_of_exceeds {message : Incoming} {maxBodyBytes received : ℕ}
    (exceeds : message.exceeds maxBodyBytes received = true) :
    limitedReceive maxBodyBytes received .receive (.ok message) =
      (.error .requestBodyTooLarge, received + message.bodySize) := by
  rw [Incoming.exceeds, Bool.and_eq_true, decide_eq_true_iff] at exceeds
  rw [limitedReceive, if_pos exceeds.1, if_pos exceeds.2]

theorem limitedReceive_of_not_exceeds {message : Incoming} {maxBodyBytes received : ℕ}
    (fits : message.exceeds maxBodyBytes received = false) :
    limitedReceive maxBodyBytes received .receive (.ok message) =
      (.ok message, received + message.bodySize) := by
  cases message with
  | httpRequest body moreBody =>
      rw [Incoming.exceeds, Incoming.isRequest, Bool.true_and, decide_eq_false_iff_not] at fits
      have request : (Incoming.httpRequest body moreBody).isRequest = true := rfl
      rw [limitedReceive, if_pos request, if_neg fits]
  | httpDisconnect => rfl
  | other type => rfl

/-- A message that fits uses up some of what the limit leaves. -/
theorem Incoming.bodySize_le {message : Incoming} {maxBodyBytes received left : ℕ}
    (fits : message.exceeds maxBodyBytes received = false)
    (rest : left ≤ maxBodyBytes - (received + message.bodySize)) :
    message.bodySize + left ≤ maxBodyBytes - received := by
  cases message with
  | httpRequest body moreBody =>
      rw [Incoming.exceeds, Incoming.isRequest, Bool.true_and, decide_eq_false_iff_not] at fits
      omega
  | httpDisconnect => simpa [bodySize] using rest
  | other type => simpa [bodySize] using rest

/-- What a call brings to the application is taken from what the limit leaves. -/
theorem receivedBytes_cons_limited (maxBodyBytes received : ℕ) (request : AsgiCall)
    (answer : request.Answer) {log : List (Exchange AsgiCall AsgiCall.Answer)}
    (rest : receivedBytes log ≤
      maxBodyBytes - (limitedReceive maxBodyBytes received request answer).2) :
    receivedBytes (⟨request, (limitedReceive maxBodyBytes received request answer).1⟩ :: log) ≤
      maxBodyBytes - received := by
  cases request with
  | send message => exact rest
  | receive =>
      cases answer with
      | error raised => exact rest
      | ok message =>
          cases size : message.exceeds maxBodyBytes received with
          | true =>
              rw [limitedReceive_of_exceeds size] at rest ⊢
              exact Nat.le_trans rest (Nat.sub_le_sub_left (Nat.le_add_right _ _) _)
          | false =>
              rw [limitedReceive_of_not_exceeds size] at rest ⊢
              exact Incoming.bodySize_le size rest

/-- **No application receives more than the limit**, whatever stands further out and
whatever the world does. -/
theorem bytes_observed_le {World Outer A : Type} (maxBodyBytes : ℕ)
    (outer : Mediator AsgiCall AsgiCall.Answer Outer)
    (serve : (request : AsgiCall) → World → request.Answer × World)
    (program : Program AsgiCall AsgiCall.Answer A) (received : ℕ) (state : Outer) (world : World) :
    receivedBytes
        (program.observed (inside (limitedReceive maxBodyBytes) outer) serve (received, state) world) ≤
      maxBodyBytes - received := by
  induction program generalizing received state world with
  | done result => exact Nat.zero_le _
  | call request next ih => exact receivedBytes_cons_limited _ _ _ _ (ih _ _ _ _)

/-! ## The application alone -/

/-- The messages of a client, cut at the limit: a message that brings the body over it
is an error. -/
def cutAt (maxBodyBytes : ℕ) : ℕ → List Incoming → List (Except Raised Incoming)
  | _, [] => []
  | total, message :: incoming =>
      (if message.exceeds maxBodyBytes total then .error .requestBodyTooLarge else .ok message) ::
        cutAt maxBodyBytes (total + message.bodySize) incoming

/-- What `receive` has yet to give to an application, and what it has sent. -/
structure Script where
  answers : List (Except Raised Incoming)
  sent : List Outgoing

/-- Play a script to an application. -/
def play : (request : AsgiCall) → Script → request.Answer × Script
  | .receive, script =>
      match script.answers with
      | [] => (.ok .httpDisconnect, script)
      | answer :: answers => (answer, { script with answers := answers })
  | .send message, script =>
      (.ok (), { script with sent := script.sent ++ [message] })

/-- What an application sends and how it ends when `receive` gives these answers. -/
def alone (run : AsgiRun) (answers : List (Except Raised Incoming)) :
    Except Raised Unit × List Outgoing :=
  let ran := run.exec play { answers, sent := [] }
  (ran.1, ran.2.sent)

/-- A message of the client behind the two middlewares. -/
theorem limited_received (maxBodyBytes received : ℕ) (responseStarted : Bool) (message : Incoming)
    (incoming : List Incoming) (emitted : List Outgoing) :
    inside (limitedReceive maxBodyBytes) sendWithState (received, responseStarted) .receive
        (serve .receive ⟨message :: incoming, emitted⟩).1 =
      (if message.exceeds maxBodyBytes received then .error .requestBodyTooLarge else .ok message,
        (received + message.bodySize, responseStarted)) := by
  cases size : message.exceeds maxBodyBytes received with
  | true =>
      rw [if_pos rfl, inside, serve, sendWithState, limitedReceive_of_exceeds size]
  | false =>
      rw [if_neg Bool.false_ne_true, inside, serve, sendWithState,
        limitedReceive_of_not_exceeds size]

/-- **Behind the two middlewares an application does what it does alone** on the
messages cut at the limit, and the outer one knows whether it has started a response. -/
theorem exec_limited (maxBodyBytes : ℕ) (run : AsgiRun) (received : ℕ) (responseStarted : Bool)
    (wire : Wire) (tracked : responseStarted = wire.emitted.any Outgoing.isStart) :
    let behind := (run.mediate (inside (limitedReceive maxBodyBytes) sendWithState)
      (received, responseStarted)).exec serve wire
    let played := run.exec play
      { answers := cutAt maxBodyBytes received wire.incoming, sent := wire.emitted }
    behind.1.1 = played.1 ∧ behind.2.emitted = played.2.sent ∧
      behind.1.2.2 = behind.2.emitted.any Outgoing.isStart := by
  induction run generalizing received responseStarted wire with
  | done result => exact ⟨rfl, rfl, tracked⟩
  | call request next ih =>
      obtain ⟨incoming, emitted⟩ := wire
      cases request with
      | send message =>
          have still : (responseStarted || message.isStart) =
              (emitted ++ [message]).any Outgoing.isStart := by
            rw [tracked, List.any_append, List.any_cons, List.any_nil, Bool.or_false]
          exact ih (.ok ()) received _ ⟨incoming, emitted ++ [message]⟩ still
      | receive =>
          cases incoming with
          | nil => exact ih (.ok .httpDisconnect) received responseStarted ⟨[], emitted⟩ tracked
          | cons message incoming =>
              rw [mediate, exec_call, exec_call, limited_received]
              exact ih _ _ _ ⟨incoming, emitted⟩ tracked

/-! ## The stack -/

/-- The envelope of the 413. -/
def tooLargeEnvelope (scope : Scope) : List Outgoing :=
  envelope 413 {
    code := .requestBodyTooLarge
    message := "请求体超过大小限制"
    details := []
    requestId := scope.requestId }

/-- The envelope of the 500. -/
def unhandledEnvelope (scope : Scope) : List Outgoing :=
  envelope 500 {
    code := .internalServerError
    message := "服务器内部错误"
    details := []
    requestId := scope.requestId }

/-- What the stack adds to what the application has sent. -/
def answerTo (scope : Scope) : Except Raised Unit → Bool → List Outgoing
  | .ok (), _ => []
  | .error .requestBodyTooLarge, _ => tooLargeEnvelope scope
  | .error (.exception _), responseStarted =>
      if responseStarted then [] else unhandledEnvelope scope
  | .error (.baseException _), _ => []

variable (middleware : RequestBodyLimitMiddleware) (app : AsgiApp) (scope : Scope)
  (incoming : List Incoming)

/-- The run of the application behind the two middlewares. -/
def behind : (Except Raised Unit × ℕ × Bool) × Wire :=
  ((app scope).mediate
    (inside (limitedReceive (middleware.limitForScope scope)) sendWithState) (0, false)).exec
      serve { incoming, emitted := [] }

/-- What the client is sent. -/
def emitted : List Outgoing :=
  ((stack middleware app scope).exec serve { incoming, emitted := [] }).2.emitted

/-- The calls of the application in the stack, with the answers that reach it. -/
def reaching : List (Exchange AsgiCall AsgiCall.Answer) :=
  if middleware.declaredTooLarge scope then []
  else (app scope).observed
    (inside (limitedReceive (middleware.limitForScope scope)) sendWithState) serve (0, false)
      { incoming, emitted := [] }

theorem exec_errorResponse_tracked (statusCode : ℕ) (code : ErrorCode) (message requestId : String)
    (responseStarted : Bool) (wire : Wire) :
    (((errorResponse statusCode code message requestId none).mediate sendWithState
        responseStarted).exec serve wire).1.1 = .ok () ∧
      (((errorResponse statusCode code message requestId none).mediate sendWithState
        responseStarted).exec serve wire).2.emitted =
        wire.emitted ++ envelope statusCode { code, message, details := [], requestId } := by
  rw [envelope, List.append_cons]
  exact ⟨rfl, rfl⟩

variable {middleware app scope incoming}

/-- After a return the outer middleware does nothing. -/
theorem handleUnhandled_of_ok {ran : Except Raised Unit × Bool} (returned : ran.1 = .ok ()) :
    handleUnhandled scope ran = .done (.ok ()) := by
  obtain ⟨outcome, responseStarted⟩ := ran
  cases returned
  rfl

/-- A body that is declared too large is answered before the application runs. -/
theorem emitted_of_declaredTooLarge (http : scope.type = "http")
    (declared : middleware.declaredTooLarge scope = true) :
    emitted middleware app scope incoming = tooLargeEnvelope scope := by
  have limited : middleware.call app scope =
      RequestBodyLimitMiddleware.sendRejection scope := by
    rw [RequestBodyLimitMiddleware.call, if_neg (not_not_intro http), if_pos declared]
  obtain ⟨returned, sent⟩ := exec_errorResponse_tracked 413 .requestBodyTooLarge
    "请求体超过大小限制" scope.requestId false { incoming, emitted := [] }
  rw [emitted, stack, unhandledExceptionMiddleware, if_neg (not_not_intro http), limited,
    exec_bind, RequestBodyLimitMiddleware.sendRejection, handleUnhandled_of_ok returned]
  exact sent

/-- The stack is the application behind the middlewares and what they do after it. -/
theorem exec_stack (http : scope.type = "http")
    (undeclared : middleware.declaredTooLarge scope = false) :
    (stack middleware app scope).exec serve { incoming, emitted := [] } =
      let ran := behind middleware app scope incoming
      let handled := ((RequestBodyLimitMiddleware.handleTooLarge scope (ran.1.1, ran.1.2.1)).mediate
        sendWithState ran.1.2.2).exec serve ran.2
      (handleUnhandled scope handled.1).exec serve handled.2 := by
  have limited : middleware.call app scope =
      ((app scope).mediate (limitedReceive (middleware.limitForScope scope)) 0).bind
        (RequestBodyLimitMiddleware.handleTooLarge scope) := by
    rw [RequestBodyLimitMiddleware.call, if_neg (not_not_intro http), undeclared,
      if_neg Bool.false_ne_true]
  rw [stack, unhandledExceptionMiddleware, if_neg (not_not_intro http), limited, mediate_bind,
    exec_bind, exec_bind, exec_mediate_mediate]
  rfl

/-- **What the client is sent**: what the application sends, and an answer to how it
has ended. -/
theorem emitted_stack (http : scope.type = "http")
    (undeclared : middleware.declaredTooLarge scope = false) :
    emitted middleware app scope incoming =
      (behind middleware app scope incoming).2.emitted ++
        answerTo scope (behind middleware app scope incoming).1.1
          (behind middleware app scope incoming).1.2.2 := by
  rw [emitted, exec_stack http undeclared]
  obtain ⟨⟨outcome, received, responseStarted⟩, wire⟩ := behind middleware app scope incoming
  match outcome with
  | .ok () => exact (List.append_nil _).symm
  | .error .requestBodyTooLarge =>
      obtain ⟨returned, sent⟩ := exec_errorResponse_tracked 413 .requestBodyTooLarge
        "请求体超过大小限制" scope.requestId responseStarted wire
      have rejected : RequestBodyLimitMiddleware.handleTooLarge scope
          (.error .requestBodyTooLarge, received) =
          errorResponse 413 .requestBodyTooLarge "请求体超过大小限制" scope.requestId none := rfl
      show ((handleUnhandled scope _).exec serve _).2.emitted = _
      rw [rejected, handleUnhandled_of_ok returned]
      exact sent
  | .error (.exception type) =>
      cases responseStarted with
      | true => exact (List.append_nil _).symm
      | false =>
          exact congrArg (fun ran : Except Raised Unit × Wire => ran.2.emitted)
            (exec_errorResponse 500 .internalServerError "服务器内部错误" scope.requestId none wire)
  | .error (.baseException type) => exact (List.append_nil _).symm

/-- The application behind the middlewares is the application alone on the messages cut
at the limit. -/
theorem behind_eq_alone :
    ((behind middleware app scope incoming).1.1, (behind middleware app scope incoming).2.emitted) =
        alone (app scope) (cutAt (middleware.limitForScope scope) 0 incoming) ∧
      (behind middleware app scope incoming).1.2.2 =
        (behind middleware app scope incoming).2.emitted.any Outgoing.isStart := by
  obtain ⟨outcome, sent, tracked⟩ := exec_limited (middleware.limitForScope scope) (app scope) 0
    false { incoming, emitted := [] } rfl
  exact ⟨Prod.ext outcome sent, tracked⟩

/-! ## The promises of the stack -/

/-- The application starts at most one response, whatever it receives. -/
def StartsAtMostOnce (app : AsgiApp) : Prop :=
  ∀ scope answers, (alone (app scope) answers).2.countP Outgoing.isStart ≤ 1

variable (middleware app scope incoming)

/-- The application lets the error over the limit pass. -/
def PassesTooLarge : Prop :=
  middleware.declaredTooLarge scope = false ∧
    (behind middleware app scope incoming).1.1 = .error .requestBodyTooLarge

/-- What the stack promises of a request. -/
structure Respects : Prop where
  oneStart : (emitted middleware app scope incoming).countP Outgoing.isStart ≤ 1
  bounded : receivedBytes (reaching middleware app scope incoming) ≤ middleware.limitForScope scope
  rejected : PassesTooLarge middleware app scope incoming →
    (behind middleware app scope incoming).2.emitted.countP Outgoing.isStart = 0 →
      emitted middleware app scope incoming =
        (behind middleware app scope incoming).2.emitted ++ tooLargeEnvelope scope

/-- Alone on the messages cut at the limit, the application lets the error pass after it
has started a response. -/
def StartsThenPasses : Prop :=
  middleware.declaredTooLarge scope = false ∧
    (alone (app scope) (cutAt (middleware.limitForScope scope) 0 incoming)).1 =
      .error .requestBodyTooLarge ∧
    (alone (app scope) (cutAt (middleware.limitForScope scope) 0 incoming)).2.any Outgoing.isStart

instance : Decidable (StartsThenPasses middleware app scope incoming) :=
  inferInstanceAs (Decidable (_ ∧ _ ∧ _))

variable {middleware app scope incoming}

theorem bounded : receivedBytes (reaching middleware app scope incoming) ≤
    middleware.limitForScope scope := by
  rw [reaching]
  split
  · exact Nat.zero_le _
  · exact bytes_observed_le _ _ _ _ _ _ _

theorem countP_tooLargeEnvelope : (tooLargeEnvelope scope).countP Outgoing.isStart = 1 := rfl

theorem any_isStart_iff (sent : List Outgoing) :
    sent.any Outgoing.isStart = true ↔ 0 < sent.countP Outgoing.isStart := by
  rw [List.any_eq_true, List.countP_pos_iff]

/-- Any other answer starts one response at most, and none after a start. -/
theorem countP_answerTo {outcome : Except Raised Unit} (sent : List Outgoing)
    (passed : outcome ≠ .error .requestBodyTooLarge) (once : sent.countP Outgoing.isStart ≤ 1) :
    (sent ++ answerTo scope outcome (sent.any Outgoing.isStart)).countP Outgoing.isStart ≤ 1 := by
  rw [List.countP_append]
  match outcome with
  | .ok () => exact once
  | .error .requestBodyTooLarge => exact absurd rfl passed
  | .error (.exception type) =>
      rw [answerTo]
      split
      · exact once
      · rename_i unstarted
        have none : sent.countP Outgoing.isStart = 0 := by
          rw [any_isStart_iff] at unstarted
          omega
        rw [none]
        exact Nat.le_refl 1
  | .error (.baseException type) => exact once

/-- **When the error passes** the client is sent the 413. -/
theorem emitted_of_passes (http : scope.type = "http")
    (passes : PassesTooLarge middleware app scope incoming) :
    emitted middleware app scope incoming =
      (behind middleware app scope incoming).2.emitted ++ tooLargeEnvelope scope := by
  rw [emitted_stack http passes.1, passes.2, answerTo]

/-- A second response is only started by an application that lets the error pass after
it has started its own. -/
theorem oneStart_iff (http : scope.type = "http") (once : StartsAtMostOnce app) :
    (emitted middleware app scope incoming).countP Outgoing.isStart ≤ 1 ↔
      ¬StartsThenPasses middleware app scope incoming := by
  obtain ⟨same, tracked⟩ : _ ∧ _ := @behind_eq_alone middleware app scope incoming
  have starts := once scope (cutAt (middleware.limitForScope scope) 0 incoming)
  rw [StartsThenPasses, ← same, any_isStart_iff]
  rw [← same] at starts
  cases declared : middleware.declaredTooLarge scope with
  | true =>
      rw [emitted_of_declaredTooLarge http declared, countP_tooLargeEnvelope]
      exact ⟨fun _ passes => Bool.noConfusion passes.1, fun _ => Nat.le_refl 1⟩
  | false =>
      by_cases passed : (behind middleware app scope incoming).1.1 = .error .requestBodyTooLarge
      · rw [emitted_of_passes http ⟨declared, passed⟩, List.countP_append, countP_tooLargeEnvelope]
        constructor
        · rintro single ⟨_, _, started⟩
          exact Nat.not_succ_le_self 1 (Nat.le_trans (Nat.succ_le_succ started) single)
        · intro fine
          have unstarted : ¬0 < (behind middleware app scope incoming).2.emitted.countP
              Outgoing.isStart := fun started => fine ⟨rfl, passed, started⟩
          omega
      · rw [emitted_stack http declared, tracked]
        exact ⟨fun _ passes => passed passes.2.1, fun _ => countP_answerTo _ passed starts⟩

/-- **The stack respects the limits** unless the application lets the error pass after it
has started its response. -/
theorem respects_iff (http : scope.type = "http") (once : StartsAtMostOnce app) :
    Respects middleware app scope incoming ↔
      ¬StartsThenPasses middleware app scope incoming := by
  constructor
  · exact fun respects => (oneStart_iff http once).mp respects.oneStart
  · exact fun fine => {
      oneStart := (oneStart_iff http once).mpr fine
      bounded := bounded
      rejected := fun passes _ => emitted_of_passes http passes }

/-! ## Two applications -/

/-- Answer a request. -/
def respond (content : List UInt8) : AsgiRun :=
  .call (.send (.httpResponseStart 200)) fun
    | .error raised => .done (.error raised)
    | .ok () => .call (.send (.httpResponseBody (.bytes content) false)) .done

/-- An application that reads a message and then answers. -/
def readingApp : AsgiApp := fun _ =>
  .call .receive fun
    | .error raised => .done (.error raised)
    | .ok _ => respond [79, 75]

/-- An application that starts its response and then reads a message. -/
def streamingApp : AsgiApp := fun _ =>
  .call (.send (.httpResponseStart 200)) fun
    | .error raised => .done (.error raised)
    | .ok () => .call .receive fun
        | .error raised => .done (.error raised)
        | .ok _ => .call (.send (.httpResponseBody (.bytes [79, 75]) false)) .done

theorem readingApp_startsAtMostOnce : StartsAtMostOnce readingApp := by
  intro scope answers
  rcases answers with _ | ⟨raised | message, answers⟩
  · exact Nat.le_refl 1
  · exact Nat.zero_le _
  · exact Nat.le_refl 1

theorem streamingApp_startsAtMostOnce : StartsAtMostOnce streamingApp := by
  intro scope answers
  rcases answers with _ | ⟨raised | message, answers⟩
  · exact Nat.le_refl 1
  · exact Nat.le_refl 1
  · exact Nat.le_refl 1

/-- A limit of five bytes. -/
def fiveBytes : RequestBodyLimitMiddleware where
  maxBodyBytes := 5
  documentUploadPathPrefix := "/api/v1/documents"
  documentUploadMaxBodyBytes := 10

/-- A request without a declared size. -/
def echoScope : Scope where
  type := "http"
  method := "POST"
  path := "/echo"
  headers := []
  requestId := "request-1"

/-- Six bytes. -/
def sixBytes : List Incoming := [.httpRequest (some [1, 2, 3, 4, 5, 6]) false]

theorem respects_iff_readingApp : Respects fiveBytes readingApp echoScope sixBytes :=
  (respects_iff rfl readingApp_startsAtMostOnce).mpr (by decide)

/-- The body is too large for an application that has started its response: the client
is sent a second start. -/
theorem streamingApp_starts_twice :
    StartsAtMostOnce streamingApp ∧
      emitted fiveBytes streamingApp echoScope sixBytes =
        .httpResponseStart 200 :: tooLargeEnvelope echoScope ∧
      ¬Respects fiveBytes streamingApp echoScope sixBytes := by
  have sent : emitted fiveBytes streamingApp echoScope sixBytes =
      .httpResponseStart 200 :: tooLargeEnvelope echoScope := by decide
  refine ⟨streamingApp_startsAtMostOnce, sent, fun respects => ?_⟩
  have single := respects.oneStart
  rw [sent] at single
  exact absurd single (by decide)

end BidSystem.Api
