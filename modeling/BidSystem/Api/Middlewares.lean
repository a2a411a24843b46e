import BidSystem.Api.RequestContext

/-!
# The middlewares around the application

`_register_middlewares` puts five middlewares of its own around those of the framework:
from the outside `RequestContextMiddleware`, `UnhandledExceptionMiddleware`,
`AccessLogMiddleware`, `TimingMiddleware` and `SecurityHeadersMiddleware`.

* `outerStack` — the five around an application.
* `Application` — what runs inside of them, any program that receives, sends, matches a
  route, binds a principal and returns or raises; `notFound` and `crashing` are two.
-/

namespace BidSystem.Api.Middleware

open Interaction Interaction.Program Telemetry

/-! ## Headers -/

/-- `MutableHeaders.__setitem__`. -/
def setHeader (name value : String) : Headers → Headers
  | [] => [(name, value)]
  | header :: headers =>
      if header.1 = name then (name, value) :: headers.filter fun other => other.1 != name
      else header :: setHeader name value headers

/-- The values of a header. -/
def headerValues (name : String) (headers : Headers) : List String :=
  (headers.filter fun header => header.1 == name).map Prod.snd

@[simp] theorem headerValues_setHeader_self (name value : String) (headers : Headers) :
    headerValues name (setHeader name value headers) = [value] := by
  induction headers with
  | nil => simp [setHeader, headerValues]
  | cons header headers ih =>
      by_cases same : header.1 = name
      · have none : (headers.filter fun other => other.1 != name).filter
            (fun header => header.1 == name) = [] := by
          rw [List.filter_filter, List.filter_eq_nil_iff]
          intro other _
          simp
        rw [setHeader, if_pos same, headerValues, List.filter_cons_of_pos (by simp), none]
        rfl
      · rw [setHeader, if_neg same, headerValues, List.filter_cons_of_neg (by simpa using same)]
        exact ih

theorem headerValues_setHeader_of_ne {name other : String} (different : other ≠ name)
    (value : String) (headers : Headers) :
    headerValues other (setHeader name value headers) = headerValues other headers := by
  induction headers with
  | nil => simp [setHeader, headerValues, Ne.symm different]
  | cons header headers ih =>
      by_cases same : header.1 = name
      · have kept : (headers.filter fun kept => kept.1 != name).filter
            (fun header => header.1 == other) = headers.filter fun header => header.1 == other := by
          rw [List.filter_filter]
          refine List.filter_congr fun kept _ => ?_
          by_cases isOther : kept.1 = other
          · simp [isOther, different]
          · simp [isOther]
        have first : header.1 ≠ other := fun isOther => different (isOther.symm.trans same)
        rw [setHeader, if_pos same, headerValues, headerValues,
          List.filter_cons_of_neg (by simpa using Ne.symm different), kept,
          List.filter_cons_of_neg (by simpa using first)]
      · rw [setHeader, if_neg same]
        by_cases isOther : header.1 = other
        · simpa [headerValues, isOther] using ih
        · simpa [headerValues, isOther] using ih

/-! ## Sending -/

/-- Change the headers of a response. -/
def Message.mapHeaders (change : Headers → Headers) : Message → Message
  | responseStart status headers => .responseStart status (change headers)
  | message => message

/-- `message["type"] == "http.response.start"`. -/
def Message.isStart : Message → Bool
  | responseStart _ _ => true
  | _ => false

/-- A middleware that replaces `send`. -/
def onSend {State : Type} (react : State → Message → Run (Except Raised Unit × State)) :
    Handler Call Call.Answer Call Call.Answer State
  | state, .send message => react state message
  | state, request => .call request fun answer => .done (answer, state)

/-- A middleware that only changes the headers of a response. -/
def stamping (change : Headers → Headers) : Handler Call Call.Answer Call Call.Answer Unit :=
  onSend fun _ message => do
    let answer ← ask (Call.send (message.mapHeaders change))
    return (answer, ())

/-- `error_response`, called as an application; the contract of the envelope refuses a
request id that is none. -/
def errorResponse (statusCode : ℕ) (code : ErrorCode) (message requestId : String) :
    Run (Except Raised Unit) := do
  if ¬ValidRequestId requestId then
    return .error { qualname := "ValidationError", text := "request_id", isException := true }
  let error : ErrorResponse := { code, message, details := [], requestId }
  match ← ask (Call.send (.responseStart statusCode [])) with
  | .error raised => return .error raised
  | .ok () => ask (Call.send (.responseBody (.json error) false))

/-! ## The middlewares -/

/-- `__version__`. -/
def version : String := "0.1.0"

/-- The headers of `SecurityHeadersMiddleware`. -/
def securityHeaders (hstsEnabled : Bool) (headers : Headers) : Headers :=
  let hardened := setHeader "referrer-policy" "no-referrer" <| setHeader "x-frame-options" "DENY" <|
    setHeader "x-content-type-options" "nosniff" <| setHeader "x-app-version" version headers
  if hstsEnabled then
    setHeader "strict-transport-security" "max-age=31536000; includeSubDomains" hardened
  else hardened

/-- `SecurityHeadersMiddleware.__call__`. -/
def securityHeadersMiddleware (hstsEnabled : Bool) (app : App) : App := fun scope => do
  let ran ← (app scope).handle (stamping (securityHeaders hstsEnabled)) ()
  return ran.1

/-- Nanoseconds as the `float` of milliseconds that the middlewares compute. -/
def milliseconds (nanoseconds : ℕ) : PyFloat := .real ((nanoseconds : ℚ) / 1000000)

/-- `send_with_timing`; `timing` is the text of a duration with three decimals. -/
def sendWithTiming (timing : PyFloat → String) (startedNs : ℕ) :
    Handler Call Call.Answer Call Call.Answer Unit :=
  onSend fun _ message => do
    match message with
    | .responseStart status headers => do
        let sentNs ← ask Call.perfCounterNs
        let text := "app;dur=" ++ timing (milliseconds (sentNs - startedNs))
        let answer ← ask (Call.send (.responseStart status (setHeader "server-timing" text headers)))
        return (answer, ())
    | message => do
        let answer ← ask (Call.send message)
        return (answer, ())

/-- `TimingMiddleware.__call__`. -/
def timingMiddleware (timing : PyFloat → String) (app : App) : App := fun scope => do
  if scope.type ≠ "http" then app scope
  else do
    let startedNs ← ask Call.perfCounterNs
    let ran ← (app scope).handle (sendWithTiming timing startedNs) ()
    return ran.1

/-- `capture_status`; the state is `status_code`. -/
def captureStatus : Handler Call Call.Answer Call Call.Answer ℕ :=
  onSend fun statusCode message => do
    let answer ← ask (Call.send message)
    match message with
    | .responseStart status _ => return (answer, status)
    | _ => return (answer, statusCode)

/-- `UNMATCHED_ROUTE`. -/
def unmatchedRoute : String := "__unmatched__"

/-- The record of `AccessLogMiddleware`. -/
def accessRecord (context : RequestContext) (route : Option String) (statusCode : ℕ)
    (durationMs : PyFloat) : AccessRecord where
  requestId := context.requestId
  traceId := context.traceId
  userId := context.userId
  tenantId := context.tenantId
  method := context.method
  path := context.path
  route := route.getD unmatchedRoute
  clientIp := context.clientIp
  startedAt := context.startedAt
  statusCode
  durationMs
  outcome := if 500 ≤ statusCode then "error" else "success"

/-- The fields of the measurement of a request. -/
def AccessRecord.fields (record : AccessRecord) : HttpRequestFields where
  method := record.method
  route := record.route
  statusCode := record.statusCode
  durationMs := record.durationMs

/-- The `ValueError` of a measurement that is refused. -/
def raisedBy : PyError → Raised
  | .valueError message => { qualname := "ValueError", text := message, isException := true }
  | _ => { qualname := "Exception", text := "", isException := true }

/-- What `AccessLogMiddleware` does after the application. -/
def logCompletion (startedNs : ℕ) (ran : Except Raised Unit × ℕ) : Run (Except Raised Unit) := do
  let endedNs ← ask Call.perfCounterNs
  match ← ask Call.getContext with
  | .error raised => return .error raised
  | .ok context => do
      let route ← ask Call.getRoute
      let record := accessRecord context route ran.2 (milliseconds (endedNs - startedNs))
      ask (Call.logAccess record)
      match checked : record.fields.check with
      | .ok () => do
          ask (Call.recordHttpRequest ⟨record.fields, checked⟩)
          return ran.1
      | .error error => return .error (raisedBy error)

/-- `AccessLogMiddleware.__call__`. -/
def accessLogMiddleware (app : App) : App := fun scope => do
  if scope.type ≠ "http" then app scope
  else do
    let startedNs ← ask Call.perfCounterNs
    let ran ← (app scope).handle captureStatus 500
    logCompletion startedNs ran

/-- `send_with_state`; the state is `response_started`. -/
def sendWithState : Handler Call Call.Answer Call Call.Answer Bool :=
  onSend fun responseStarted message => do
    let answer ← ask (Call.send message)
    return (answer, responseStarted || message.isStart)

/-- What `UnhandledExceptionMiddleware` does after the application. -/
def answerUnhandled (ran : Except Raised Unit × Bool) : Run (Except Raised Unit) := do
  match ran.1 with
  | .ok () => return .ok ()
  | .error error =>
      if !error.isException then return .error error
      else
        match ← ask Call.getContext with
        | .error raised => return .error raised
        | .ok context => do
            ask (Call.logError {
              exception := "RuntimeError: " ++ error.qualname ++ ": details redacted"
              requestId := context.requestId
              traceId := context.traceId })
            if ran.2 then return .error error
            else errorResponse 500 .internalServerError "服务器内部错误" context.requestId

/-- `UnhandledExceptionMiddleware.__call__`. -/
def unhandledExceptionMiddleware (app : App) : App := fun scope => do
  if scope.type ≠ "http" then app scope
  else do
    let ran ← (app scope).handle sendWithState false
    answerUnhandled ran

/-- The headers of `send_with_context`. -/
def contextHeaders (requestId traceId : String) (headers : Headers) : Headers :=
  setHeader "x-trace-id" traceId (setHeader "x-request-id" requestId headers)

/-- The context of a request. -/
def requestContext (scope : Scope) (correlation : CorrelationContext) (startedAt : Instant) :
    RequestContext where
  requestId := correlation.requestId
  traceId := correlation.traceId
  userId := none
  tenantId := none
  method := scope.method
  path := scope.path
  clientIp := scope.client
  startedAt

/-- `RequestContextMiddleware.__call__`. -/
def requestContextMiddleware (app : App) : App := fun scope => do
  if scope.type ≠ "http" then app scope
  else do
    let requestId ← requestId scope.headers
    let correlation ← requestSpan requestId scope.headers
    let startedAt ← ask Call.now
    ask (Call.setContext (requestContext scope correlation startedAt))
    let ran ← (app scope).handle (stamping (contextHeaders requestId correlation.traceId)) ()
    return ran.1

/-- The middlewares of `_register_middlewares` around those of the framework. -/
def outerStack (timing : PyFloat → String) (hstsEnabled : Bool) (app : App) : App :=
  requestContextMiddleware <| unhandledExceptionMiddleware <| accessLogMiddleware <|
    timingMiddleware timing <| securityHeadersMiddleware hstsEnabled app

/-! ## What runs inside -/

/-- The calls of what runs inside of the middlewares. -/
inductive AppCall where
  | receive
  | send (message : Message)
  | matchRoute (path : Option String)
  | bindPrincipal (userId tenantId : String)
deriving DecidableEq, Repr

/-- The call of a middleware that a call of the application is. -/
def AppCall.call : AppCall → Call
  | receive => .receive
  | send message => .send message
  | matchRoute path => .matchRoute path
  | bindPrincipal userId tenantId => .bindPrincipal userId tenantId

/-- What runs inside of the middlewares. -/
abbrev Application :=
  Scope → Program AppCall (fun request => request.call.Answer) (Except Raised Unit)

/-- It as an ASGI application. -/
def Application.app (application : Application) : App := fun scope =>
  (application scope).relabel AppCall.call

/-- An application that answers everything by a 404. -/
def notFound : Application := fun _ =>
  .call (.matchRoute none) fun _ => .call (.send (.responseStart 404 [])) fun
    | .error raised => .done (.error raised)
    | .ok () => .call (.send (.responseBody (.bytes []) false)) .done

/-- An application that raises before it answers. -/
def crashing : Application := fun _ =>
  .done (.error { qualname := "ValueError", text := "password", isException := true })

end BidSystem.Api.Middleware
