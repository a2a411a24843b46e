import BidSystem.Api.Middlewares
import Mathlib.Data.List.Induction

/-!
# What becomes of a request

The five outer middlewares around any application, for one HTTP request.

* `Behaved` — what they keep true while the application runs.
* `exec_outerStack` — a whole request: the application behind the middlewares, then what
  they do after it.
-/

namespace BidSystem.Api.Middleware

open Interaction Interaction.Program Telemetry

variable (timing : PyFloat → String) (hstsEnabled : Bool)

/-! ## Inside of the middlewares -/

/-- The states of the middlewares, from the inside, and the world: `status_code` and
`response_started` are among them. -/
abbrev Inside := Unit × Unit × ℕ × Bool × Unit × World

/-- The world as it is from inside of the middlewares. -/
def serveInside (startedNs : ℕ) (requestId traceId : String) :
    (request : Call) → Inside → request.Answer × Inside :=
  handled (stamping (securityHeaders hstsEnabled)) <| handled (sendWithTiming timing startedNs) <|
    handled captureStatus <| handled sendWithState <|
      handled (stamping (contextHeaders requestId traceId)) serve

/-- The headers that a response leaves with. -/
def stamp (requestId traceId text : String) (headers : Headers) : Headers :=
  contextHeaders requestId traceId
    (setHeader "server-timing" text (securityHeaders hstsEnabled headers))

/-- The status of the last response that was started, or that of the access log before
any. -/
def offeredStatus (messages : List Message) : ℕ :=
  messages.foldl (fun status message =>
    match message with
    | .responseStart status _ => status
    | _ => status) 500

/-- The headers of a response that the application has started. -/
structure Stamped (requestId traceId : String) (headers : Headers) : Prop where
  requestId : headerValues "x-request-id" headers = [requestId]
  traceId : headerValues "x-trace-id" headers = [traceId]
  timing : ∃ duration, headerValues "server-timing" headers = ["app;dur=" ++ timing duration]
  version : headerValues "x-app-version" headers = [version]
  contentType : headerValues "x-content-type-options" headers = ["nosniff"]
  frame : headerValues "x-frame-options" headers = ["DENY"]
  referrer : headerValues "referrer-policy" headers = ["no-referrer"]
  hsts : hstsEnabled = true →
    headerValues "strict-transport-security" headers = ["max-age=31536000; includeSubDomains"]

theorem stamped_stamp (requestId traceId : String) (duration : PyFloat) (headers : Headers) :
    Stamped timing hstsEnabled requestId traceId
      (stamp hstsEnabled requestId traceId ("app;dur=" ++ timing duration) headers) := by
  have outer : ∀ name, name ≠ "x-trace-id" → name ≠ "x-request-id" → name ≠ "server-timing" →
      headerValues name
        (stamp hstsEnabled requestId traceId ("app;dur=" ++ timing duration) headers) =
        headerValues name (securityHeaders hstsEnabled headers) := by
    intro name trace request server
    rw [stamp, contextHeaders, headerValues_setHeader_of_ne trace,
      headerValues_setHeader_of_ne request, headerValues_setHeader_of_ne server]
  have inner : ∀ name, name ≠ "strict-transport-security" →
      headerValues name (securityHeaders hstsEnabled headers) =
        headerValues name (securityHeaders false headers) := by
    intro name strict
    cases hstsEnabled with
    | false => rfl
    | true => exact headerValues_setHeader_of_ne strict _ _
  refine {
    requestId := ?_
    traceId := headerValues_setHeader_self _ _ _
    timing := ⟨duration, ?_⟩
    version := ?_
    contentType := ?_
    frame := ?_
    referrer := ?_
    hsts := ?_ }
  · rw [stamp, contextHeaders, headerValues_setHeader_of_ne (by decide)]
    exact headerValues_setHeader_self _ _ _
  · rw [stamp, contextHeaders, headerValues_setHeader_of_ne (by decide),
      headerValues_setHeader_of_ne (by decide)]
    exact headerValues_setHeader_self _ _ _
  · rw [outer _ (by decide) (by decide) (by decide), inner _ (by decide)]
    simp (disch := decide) [securityHeaders, headerValues_setHeader_of_ne]
  · rw [outer _ (by decide) (by decide) (by decide), inner _ (by decide)]
    simp (disch := decide) [securityHeaders, headerValues_setHeader_of_ne]
  · rw [outer _ (by decide) (by decide) (by decide), inner _ (by decide)]
    simp (disch := decide) [securityHeaders, headerValues_setHeader_of_ne]
  · rw [outer _ (by decide) (by decide) (by decide), inner _ (by decide)]
    simp [securityHeaders]
  · intro enabled
    rw [outer _ (by decide) (by decide) (by decide), enabled]
    exact headerValues_setHeader_self _ _ _

/-- What the middlewares keep true while the application runs, with what was sent since
the request came in. -/
structure Behaved (before : World) (given : RequestContext) (inside : Inside)
    (messages : List Message) : Prop where
  sent : inside.2.2.2.2.2.sent = before.sent ++ messages
  status : inside.2.2.1 = offeredStatus messages
  started : inside.2.2.2.1 = messages.any Message.isStart
  stamped : ∀ status headers, .responseStart status headers ∈ messages →
    Stamped timing hstsEnabled given.requestId given.traceId headers
  context : ∃ userId tenantId,
    inside.2.2.2.2.2.context = some { given with userId, tenantId }
  accessLog : inside.2.2.2.2.2.accessLog = before.accessLog
  errorLog : inside.2.2.2.2.2.errorLog = before.errorLog
  measurements : inside.2.2.2.2.2.measurements = before.measurements

/-- What is recorded of a request has not changed. -/
structure Quiet (world later : World) : Prop where
  sent : later.sent = world.sent
  context : later.context = world.context
  accessLog : later.accessLog = world.accessLog
  errorLog : later.errorLog = world.errorLog
  measurements : later.measurements = world.measurements

theorem quiet_receive (world : World) : Quiet world (serve .receive world).2 := by
  rw [serve]
  split <;> exact ⟨rfl, rfl, rfl, rfl, rfl⟩

theorem quiet_perfCounterNs (world : World) : Quiet world (serve .perfCounterNs world).2 :=
  ⟨rfl, rfl, rfl, rfl, rfl⟩

/-- A message is given to the server, whatever becomes of it. -/
theorem serve_send (message : Message) (world : World) :
    (serve (.send message) world).2 =
      { world with sent := world.sent ++ [message], failures := world.failures.tail } := by
  rw [serve]
  split <;> rfl

theorem offeredStatus_concat (messages : List Message) (message : Message) :
    offeredStatus (messages ++ [message]) =
      match message with
      | .responseStart status _ => status
      | _ => offeredStatus messages := by
  rw [offeredStatus, List.foldl_append]
  rfl

section Behaved

variable {timing : PyFloat → String} {hstsEnabled : Bool} {before world later : World}
  {given : RequestContext} {statusCode : ℕ} {responseStarted : Bool} {messages : List Message}

theorem Behaved.quiet
    (behaved : Behaved timing hstsEnabled before given
      ((), (), statusCode, responseStarted, (), world) messages) (quiet : Quiet world later) :
    Behaved timing hstsEnabled before given
      ((), (), statusCode, responseStarted, (), later) messages where
  sent := quiet.sent.trans behaved.sent
  status := behaved.status
  started := behaved.started
  stamped := behaved.stamped
  context := by
    obtain ⟨userId, tenantId, context⟩ := behaved.context
    exact ⟨userId, tenantId, quiet.context.trans context⟩
  accessLog := quiet.accessLog.trans behaved.accessLog
  errorLog := quiet.errorLog.trans behaved.errorLog
  measurements := quiet.measurements.trans behaved.measurements

/-- A message that is no start, or is one with the headers of the middlewares, keeps it. -/
theorem Behaved.send
    (behaved : Behaved timing hstsEnabled before given
      ((), (), statusCode, responseStarted, (), world) messages) (message : Message)
    (stamped : ∀ status headers, message = .responseStart status headers →
      Stamped timing hstsEnabled given.requestId given.traceId headers) :
    Behaved timing hstsEnabled before given
      ((), (), offeredStatus (messages ++ [message]), responseStarted || message.isStart, (),
        (serve (.send message) world).2) (messages ++ [message]) := by
  rw [serve_send]
  exact {
    sent := by
      rw [← List.append_assoc]
      exact congrArg (· ++ [message]) behaved.sent
    status := rfl
    started := by
      rw [List.any_append, ← behaved.started]
      simp
    stamped := by
      intro status headers member
      rcases List.mem_append.mp member with earlier | last
      · exact behaved.stamped status headers earlier
      · exact stamped status headers (List.mem_singleton.mp last).symm
    context := behaved.context
    accessLog := behaved.accessLog
    errorLog := behaved.errorLog
    measurements := behaved.measurements }

/-- A message that is passed on as it is. -/
theorem Behaved.pass
    (behaved : Behaved timing hstsEnabled before given
      ((), (), statusCode, responseStarted, (), world) messages) {message : Message}
    (passed : message.isStart = false) :
    Behaved timing hstsEnabled before given
      ((), (), statusCode, responseStarted || message.isStart, (),
        (serve (.send message) world).2) (messages ++ [message]) := by
  have status : statusCode = offeredStatus messages := behaved.status
  have unchanged : offeredStatus (messages ++ [message]) = statusCode := by
    rw [offeredStatus_concat, status]
    cases message with
    | responseStart status headers => cases passed
    | responseBody content moreBody => rfl
    | other type => rfl
  have kept := behaved.send message fun status headers same => by
    rw [same] at passed
    cases passed
  rwa [unchanged] at kept

/-- **One call of the application** keeps it. -/
theorem Behaved.call
    (behaved : Behaved timing hstsEnabled before given
      ((), (), statusCode, responseStarted, (), world) messages) (startedNs : ℕ)
    (request : AppCall) :
    ∃ more, Behaved timing hstsEnabled before given
      (serveInside timing hstsEnabled startedNs given.requestId given.traceId request.call
        ((), (), statusCode, responseStarted, (), world)).2 (messages ++ more) := by
  cases request with
  | receive =>
      refine ⟨[], ?_⟩
      rw [List.append_nil]
      exact behaved.quiet (quiet_receive world)
  | matchRoute path =>
      refine ⟨[], ?_⟩
      rw [List.append_nil]
      exact behaved.quiet ⟨rfl, rfl, rfl, rfl, rfl⟩
  | bindPrincipal userId tenantId =>
      refine ⟨[], ?_⟩
      rw [List.append_nil]
      obtain ⟨_, _, context⟩ := behaved.context
      exact {
        sent := behaved.sent
        status := behaved.status
        started := behaved.started
        stamped := behaved.stamped
        context := ⟨some userId, some tenantId, congrArg (Option.map _) context⟩
        accessLog := behaved.accessLog
        errorLog := behaved.errorLog
        measurements := behaved.measurements }
  | send message =>
      cases message with
      | responseStart status headers =>
          have ticked := behaved.quiet (quiet_perfCounterNs world)
          set duration := milliseconds ((serve .perfCounterNs world).1 - startedNs)
          have sent := ticked.send
            (.responseStart status (stamp hstsEnabled given.requestId given.traceId
              ("app;dur=" ++ timing duration) headers)) fun status' headers' same => by
              cases same
              exact stamped_stamp timing hstsEnabled given.requestId given.traceId duration headers
          rw [offeredStatus_concat] at sent
          exact ⟨_, sent⟩
      | responseBody content moreBody => exact ⟨_, behaved.pass rfl⟩
      | other type => exact ⟨_, behaved.pass rfl⟩

/-- **The whole run of the application** keeps it. -/
theorem Behaved.run
    (behaved : Behaved timing hstsEnabled before given
      ((), (), statusCode, responseStarted, (), world) messages) (startedNs : ℕ)
    (program : Program AppCall (fun request => request.call.Answer) (Except Raised Unit)) :
    ∃ messages, Behaved timing hstsEnabled before given
      (program.exec (fun request : AppCall =>
        serveInside timing hstsEnabled startedNs given.requestId given.traceId request.call)
        ((), (), statusCode, responseStarted, (), world)).2 messages := by
  have kept : ∀ (request : AppCall) (inside : Inside),
      (∃ messages, Behaved timing hstsEnabled before given inside messages) →
        ∃ messages, Behaved timing hstsEnabled before given
          (serveInside timing hstsEnabled startedNs given.requestId given.traceId request.call
            inside).2 messages := by
    rintro request ⟨⟨⟩, ⟨⟩, statusCode, responseStarted, ⟨⟩, world⟩ ⟨messages, behaved⟩
    obtain ⟨more, later⟩ := behaved.call startedNs request
    exact ⟨_, later⟩
  exact exec_induction program kept ⟨_, behaved⟩

end Behaved

/-! ## After the application -/

/-- The measurement of a record, unless it is refused. -/
def AccessRecord.measurements (record : AccessRecord) : List HttpRequestMeasurement :=
  if checked : record.fields.check = .ok () then [⟨record.fields, checked⟩] else []

/-- What a record leaves of the outcome of the application. -/
def AccessRecord.outcomeOf (record : AccessRecord) (outcome : Except Raised Unit) :
    Except Raised Unit :=
  match record.fields.check with
  | .ok () => outcome
  | .error error => .error (raisedBy error)

/-- The call is one of `send`. -/
def Call.isSend : Call → Bool
  | send _ => true
  | _ => false

/-- A middleware that replaces `send` leaves the other calls alone. -/
theorem behind_onSend {State W : Type} (react : State → Message → Run (Except Raised Unit × State))
    (serve : (request : Call) → W → request.Answer × W) {request : Call}
    (other : request.isSend = false) (state : State) (world : W) :
    handled (onSend react) serve request (state, world) =
      ((serve request world).1, (state, (serve request world).2)) := by
  cases request with
  | send message => cases other
  | _ => rfl

/-- The access log after a request. -/
theorem exec_logCompletion {context : RequestContext} {world : World}
    (bound : world.context = some context) (startedNs : ℕ) (outcome : Except Raised Unit)
    (statusCode : ℕ) (responseStarted : Bool) (change : Headers → Headers) :
    let ended := serve .perfCounterNs world
    let record := accessRecord context world.route statusCode (milliseconds (ended.1 - startedNs))
    (logCompletion startedNs (outcome, statusCode)).exec
        (handled sendWithState (handled (stamping change) serve)) (responseStarted, ((), world)) =
      (record.outcomeOf outcome, (responseStarted, ((), { ended.2 with
        accessLog := ended.2.accessLog ++ [record]
        measurements := ended.2.measurements ++ record.measurements }))) := by
  intro ended record
  have other : ∀ {request : Call}, request.isSend = false → ∀ world : World,
      handled sendWithState (handled (stamping change) serve) request
        (responseStarted, ((), world)) =
          ((serve request world).1, (responseStarted, ((), (serve request world).2))) := by
    intro request isOther world
    rw [sendWithState, behind_onSend _ _ isOther, stamping, behind_onSend _ _ isOther]
  have context_eq : serve .getContext ended.2 = (.ok context, ended.2) := by
    rw [serve]
    exact Prod.ext (congrArg (fun found => Option.elim found _ _) bound) rfl
  have route_eq : serve .getRoute ended.2 = (world.route, ended.2) := rfl
  rw [logCompletion, exec_seq, exec_ask, other rfl, exec_seq, exec_ask, other rfl, context_eq]
  dsimp only
  rw [exec_seq, exec_ask, other rfl, route_eq, exec_seq, exec_ask, other rfl]
  dsimp only
  split
  · next checked =>
      have accepted : record.fields.check = .ok () := checked
      have outcome_eq : record.outcomeOf outcome = outcome := by
        rw [AccessRecord.outcomeOf, accepted]
      have measured : record.measurements = [⟨record.fields, accepted⟩] := dif_pos accepted
      rw [exec_seq, exec_ask, other rfl, outcome_eq, measured]
      rfl
  · next error refused =>
      have rejected : record.fields.check = .error error := refused
      have outcome_eq : record.outcomeOf outcome = .error (raisedBy error) := by
        rw [AccessRecord.outcomeOf, rejected]
      have unmeasured : record.measurements = [] := by
        rw [AccessRecord.measurements, dif_neg (by simp [rejected])]
      rw [outcome_eq, unmeasured, List.append_nil]
      rfl

/-- The envelope of an unhandled exception. -/
def unhandledBody (requestId : String) : Body :=
  .json { code := .internalServerError, message := "服务器内部错误", details := [], requestId }

/-- What was sent after some world: nothing, or a response that was given up after the start
or not. -/
inductive Response (start body : Message) : List Message → Prop
  | complete : Response start body [start, body]
  | givenUp : Response start body [start]

/-- The 500 of an unhandled exception: only `sent` and `failures` change. -/
theorem exec_errorResponse {requestId : String} (valid : ValidRequestId requestId)
    (change : Headers → Headers) (world : World) :
    ∃ messages, Response (.responseStart 500 (change []))
        (.responseBody (unhandledBody requestId) false) messages ∧
      ((errorResponse 500 .internalServerError "服务器内部错误" requestId).exec
        (handled (stamping change) serve) ((), world)).2 =
          ((), { world with
            sent := world.sent ++ messages
            failures := world.failures.drop messages.length }) := by
  have delivered : ∀ (message : Message) (world : World),
      handled (stamping change) serve (.send message) ((), world) =
        ((serve (.send (message.mapHeaders change)) world).1, ((),
          (serve (.send (message.mapHeaders change)) world).2)) := fun _ _ => rfl
  rw [errorResponse, if_neg (not_not_intro valid)]
  dsimp only
  rw [exec_seq, exec_ask, delivered, Message.mapHeaders]
  cases answered : (serve (.send (.responseStart 500 (change []))) world).1 with
  | error raised =>
      refine ⟨_, .givenUp, ?_⟩
      dsimp only
      rw [pure_eq, exec_done, serve_send, List.length_singleton, List.drop_one]
  | ok _ =>
      refine ⟨_, .complete, ?_⟩
      dsimp only
      have passed : Message.mapHeaders change (.responseBody (unhandledBody requestId) false) =
          .responseBody (unhandledBody requestId) false := rfl
      have dropped : world.failures.tail.tail = world.failures.drop 2 := by
        rw [← List.drop_one, ← List.drop_one, List.drop_drop]
      have joined : ∀ first second : Message,
          world.sent ++ [first, second] = world.sent ++ [first] ++ [second] :=
        fun _ _ => List.append_cons _ _ _
      rw [exec_ask, delivered]
      dsimp only
      rw [← unhandledBody, passed, serve_send, serve_send, dropped, joined]
      rfl

/-- What `UnhandledExceptionMiddleware` adds to a request. -/
structure Unhandled (context : RequestContext) (responseStarted : Bool) (change : Headers → Headers)
    (world later : World) (fallback : List Message) : Prop where
  sent : later.sent = world.sent ++ fallback
  fallback : fallback = [] ∨ responseStarted = false ∧
    Response (.responseStart 500 (change []))
      (.responseBody (unhandledBody context.requestId) false) fallback
  errorLog : ∃ errors, later.errorLog = world.errorLog ++ errors ∧ errors.length ≤ 1 ∧
    ∀ error ∈ errors, error.requestId = context.requestId ∧ error.traceId = context.traceId
  accessLog : later.accessLog = world.accessLog
  measurements : later.measurements = world.measurements

theorem exec_answerUnhandled {context : RequestContext} {world : World}
    (bound : world.context = some context) (valid : ValidRequestId context.requestId)
    (ran : Except Raised Unit × Bool) (change : Headers → Headers) :
    ∃ fallback, Unhandled context ran.2 change world
      ((answerUnhandled ran).exec (handled (stamping change) serve) ((), world)).2.2 fallback := by
  have nothing : Unhandled context ran.2 change world world [] := {
    sent := (List.append_nil _).symm
    fallback := .inl rfl
    errorLog := ⟨[], (List.append_nil _).symm, Nat.zero_le 1, nofun⟩
    accessLog := rfl
    measurements := rfl }
  have other : ∀ {request : Call}, request.isSend = false → ∀ world : World,
      handled (stamping change) serve request ((), world) =
        ((serve request world).1, ((), (serve request world).2)) := by
    intro request isOther world
    rw [stamping, behind_onSend _ _ isOther]
  obtain ⟨outcome, responseStarted⟩ := ran
  cases outcome with
  | ok _ => exact ⟨[], nothing⟩
  | error error =>
      rw [answerUnhandled]
      dsimp only
      cases exception : error.isException with
      | false => exact ⟨[], nothing⟩
      | true =>
          have context_eq : serve .getContext world = (.ok context, world) := by
            rw [serve, bound]
            rfl
          rw [Bool.not_true, if_neg Bool.false_ne_true, exec_seq, exec_ask, other rfl, context_eq]
          dsimp only
          rw [exec_seq, exec_ask, other rfl]
          set entry : ErrorRecord := {
            exception := "RuntimeError: " ++ error.qualname ++ ": details redacted"
            requestId := context.requestId
            traceId := context.traceId }
          have logged : ∃ errors, world.errorLog ++ [entry] = world.errorLog ++ errors ∧
              errors.length ≤ 1 ∧ ∀ error ∈ errors, error.requestId = context.requestId ∧
                error.traceId = context.traceId := by
            refine ⟨[entry], rfl, Nat.le_refl 1, fun error member => ?_⟩
            rw [List.mem_singleton.mp member]
            exact ⟨rfl, rfl⟩
          cases responseStarted with
          | true =>
              exact ⟨[], {
                sent := (List.append_nil _).symm
                fallback := .inl rfl
                errorLog := logged
                accessLog := rfl
                measurements := rfl }⟩
          | false =>
              obtain ⟨messages, response, answered⟩ := exec_errorResponse valid change
                (serve (.logError entry) world).2
              refine ⟨messages, ?_⟩
              rw [if_neg Bool.false_ne_true, answered]
              exact {
                sent := rfl
                fallback := .inr ⟨rfl, response⟩
                errorLog := logged
                accessLog := rfl
                measurements := rfl }

/-! ## A whole request -/

/-- What becomes of a request: what the application has sent, and what was sent instead of
it. -/
structure Completed (before after : World) (given : RequestContext) (record : AccessRecord)
    (own fallback : List Message) : Prop where
  sent : after.sent = before.sent ++ (own ++ fallback)
  stamped : ∀ status headers, .responseStart status headers ∈ own →
    Stamped timing hstsEnabled given.requestId given.traceId headers
  fallback : fallback = [] ∨ own.any Message.isStart = false ∧
    Response (.responseStart 500 (contextHeaders given.requestId given.traceId []))
      (.responseBody (unhandledBody given.requestId) false) fallback
  described : ∃ userId tenantId route elapsedNs,
    record = accessRecord { given with userId, tenantId } route (offeredStatus own)
      (milliseconds elapsedNs)
  accessLog : after.accessLog = before.accessLog ++ [record]
  measurements : after.measurements = before.measurements ++ record.measurements
  errorLog : ∃ errors, after.errorLog = before.errorLog ++ errors ∧ errors.length ≤ 1 ∧
    ∀ error ∈ errors, error.requestId = given.requestId ∧ error.traceId = given.traceId

/-- The context that a request is given. -/
def givenContext (scope : Scope) (world : World) : RequestContext :=
  requestContext scope
    ((requestSpan ((requestId scope.headers).exec serve world).1 scope.headers).exec serve world).1
    world.utc

theorem givenContext_requestId (scope : Scope) (world : World) :
    (givenContext scope world).requestId = ((requestId scope.headers).exec serve world).1 :=
  (exec_requestSpan _ _ _).1

/-- What runs inside of the access log. -/
theorem exec_timed (application : Application) {scope : Scope} (http : scope.type = "http")
    (requestId traceId : String) (responseStarted : Bool) (statusCode : ℕ) (world : World) :
    ((timingMiddleware timing (securityHeadersMiddleware hstsEnabled application.app)) scope).exec
        (handled captureStatus (handled sendWithState
          (handled (stamping (contextHeaders requestId traceId)) serve)))
        (statusCode, (responseStarted, ((), world))) =
      let ticked := serve .perfCounterNs world
      let ran := (application scope).exec (fun request : AppCall =>
        serveInside timing hstsEnabled ticked.1 requestId traceId request.call)
        ((), (), statusCode, responseStarted, (), ticked.2)
      (ran.1, ran.2.2.2) := by
  have asked : handled captureStatus (handled sendWithState
      (handled (stamping (contextHeaders requestId traceId)) serve)) .perfCounterNs
      (statusCode, (responseStarted, ((), world))) =
        ((serve .perfCounterNs world).1, (statusCode, (responseStarted, ((),
          (serve .perfCounterNs world).2)))) := rfl
  rw [timingMiddleware, if_neg (not_not_intro http), exec_seq, exec_ask, asked, exec_seq,
    exec_handle, securityHeadersMiddleware, exec_seq, exec_handle, Application.app, exec_relabel]
  rfl

/-- What the application and the access log leave of a request. -/
structure Logged (before : World) (given : RequestContext) (record : AccessRecord)
    (own : List Message) (responseStarted : Bool) (later : World) : Prop where
  sent : later.sent = before.sent ++ own
  started : responseStarted = own.any Message.isStart
  stamped : ∀ status headers, .responseStart status headers ∈ own →
    Stamped timing hstsEnabled given.requestId given.traceId headers
  described : ∃ userId tenantId route elapsedNs,
    record = accessRecord { given with userId, tenantId } route (offeredStatus own)
        (milliseconds elapsedNs) ∧
      later.context = some { given with userId, tenantId }
  accessLog : later.accessLog = before.accessLog ++ [record]
  measurements : later.measurements = before.measurements ++ record.measurements
  errorLog : later.errorLog = before.errorLog

/-- A request up to the access log. -/
theorem exec_logged (application : Application) {scope : Scope} (http : scope.type = "http")
    {before world : World} {given : RequestContext}
    (untouched : Behaved timing hstsEnabled before given ((), (), 500, false, (), world) []) :
    ∃ record own outcome responseStarted later,
      (accessLogMiddleware (timingMiddleware timing
        (securityHeadersMiddleware hstsEnabled application.app)) scope).exec
          (handled sendWithState
            (handled (stamping (contextHeaders given.requestId given.traceId)) serve))
          (false, ((), world)) = (outcome, (responseStarted, ((), later))) ∧
        Logged timing hstsEnabled before given record own responseStarted later := by
  have first := quiet_perfCounterNs world
  have second := quiet_perfCounterNs (serve .perfCounterNs world).2
  have asked : handled sendWithState (handled (stamping (contextHeaders given.requestId given.traceId))
      serve) .perfCounterNs (false, ((), world)) =
        ((serve .perfCounterNs world).1, (false, ((), (serve .perfCounterNs world).2))) := rfl
  rw [accessLogMiddleware, if_neg (not_not_intro http), exec_seq, exec_ask, asked, exec_seq,
    exec_handle, exec_timed timing hstsEnabled application http]
  generalize (serve .perfCounterNs world).1 = startedNs
  obtain ⟨own, behaved⟩ := ((untouched.quiet first).quiet second).run
    (serve .perfCounterNs (serve .perfCounterNs world).2).1 (application scope)
  dsimp only
  generalize (application scope).exec (fun request : AppCall =>
    serveInside timing hstsEnabled (serve .perfCounterNs (serve .perfCounterNs world).2).1
      given.requestId given.traceId request.call) ((), (), 500, false, (),
        (serve .perfCounterNs (serve .perfCounterNs world).2).2) = ran at behaved ⊢
  obtain ⟨outcome, ⟨⟩, ⟨⟩, statusCode, responseStarted, ⟨⟩, inner⟩ := ran
  obtain ⟨userId, tenantId, context⟩ := behaved.context
  have status : statusCode = offeredStatus own := behaved.status
  set record := accessRecord { given with userId, tenantId } inner.route statusCode
    (milliseconds ((serve .perfCounterNs inner).1 - startedNs)) with record_eq
  exact ⟨record, own, _, _, _, exec_logCompletion context startedNs outcome statusCode
    responseStarted (contextHeaders given.requestId given.traceId), {
      sent := behaved.sent
      started := behaved.started
      stamped := behaved.stamped
      described := ⟨userId, tenantId, inner.route, _, by rw [record_eq, status], context⟩
      accessLog := congrArg (· ++ [record]) behaved.accessLog
      measurements := congrArg (· ++ record.measurements) behaved.measurements
      errorLog := behaved.errorLog }⟩

/-- What `RequestContextMiddleware` does before and after the others. -/
theorem exec_outerStack (application : Application) {scope : Scope} (http : scope.type = "http")
    (world : World) :
    (outerStack timing hstsEnabled application.app scope).exec serve world =
      let ran := (unhandledExceptionMiddleware (accessLogMiddleware (timingMiddleware timing
        (securityHeadersMiddleware hstsEnabled application.app))) scope).exec
          (handled (stamping (contextHeaders (givenContext scope world).requestId
            (givenContext scope world).traceId)) serve)
          ((), { world with context := some (givenContext scope world) })
      (ran.1, ran.2.2) := by
  have requested := (exec_requestId scope.headers world).2
  have spanned := (exec_requestSpan ((requestId scope.headers).exec serve world).1 scope.headers
    world).2.2
  rw [outerStack, requestContextMiddleware, if_neg (not_not_intro http), exec_seq, requested,
    exec_seq, spanned, exec_seq, exec_ask, exec_seq, exec_ask, exec_seq, exec_handle,
    givenContext_requestId]
  rfl

/-- **A whole request.** -/
theorem completed (application : Application) {scope : Scope} (http : scope.type = "http")
    (world : World) :
    ∃ record own fallback, Completed timing hstsEnabled world
      ((outerStack timing hstsEnabled application.app scope).exec serve world).2
      (givenContext scope world) record own fallback := by
  have valid : ValidRequestId (givenContext scope world).requestId := by
    rw [givenContext_requestId]
    exact (exec_requestId scope.headers world).1
  have untouched : Behaved timing hstsEnabled world (givenContext scope world)
      ((), (), 500, false, (), { world with context := some (givenContext scope world) }) [] := {
    sent := (List.append_nil _).symm
    status := rfl
    started := rfl
    stamped := nofun
    context := ⟨none, none, rfl⟩
    accessLog := rfl
    errorLog := rfl
    measurements := rfl }
  obtain ⟨record, own, outcome, responseStarted, later, ran, logged⟩ :=
    exec_logged timing hstsEnabled application http untouched
  obtain ⟨userId, tenantId, route, elapsedNs, described, known⟩ := logged.described
  obtain ⟨fallback, unhandled⟩ := exec_answerUnhandled known valid (outcome, responseStarted)
    (contextHeaders (givenContext scope world).requestId (givenContext scope world).traceId)
  have finished : ((outerStack timing hstsEnabled application.app scope).exec serve world).2 =
      ((answerUnhandled (outcome, responseStarted)).exec (handled (stamping (contextHeaders
        (givenContext scope world).requestId (givenContext scope world).traceId)) serve)
        ((), later)).2.2 := by
    rw [exec_outerStack timing hstsEnabled application http, unhandledExceptionMiddleware,
      if_neg (not_not_intro http), exec_seq, exec_handle, ran]
  refine ⟨record, own, fallback, ?_⟩
  rw [finished]
  exact {
    sent := by rw [unhandled.sent, logged.sent, List.append_assoc]
    stamped := logged.stamped
    fallback := unhandled.fallback.imp id fun answered =>
      ⟨logged.started.symm.trans answered.1, answered.2⟩
    described := ⟨userId, tenantId, route, elapsedNs, described⟩
    accessLog := unhandled.accessLog.trans logged.accessLog
    measurements := unhandled.measurements.trans logged.measurements
    errorLog := by
      obtain ⟨errors, appended, single, correlated⟩ := unhandled.errorLog
      exact ⟨errors, appended.trans (congrArg (· ++ errors) logged.errorLog), single, correlated⟩ }

/-! ## Correlation -/

/-- The request id of a client is kept. -/
def KeepsSuppliedId (scope : Scope) (requestId : String) : Prop :=
  ∀ supplied, scope.headers.lookup "x-request-id" = some supplied →
    1 ≤ supplied.toList.length ∧ supplied.toList.length ≤ maxRequestIdLength →
      (∀ character ∈ supplied.toList, character ∈ requestIdAllowedCharacters) →
        requestId = supplied

theorem keepsSuppliedId (scope : Scope) (world : World) :
    KeepsSuppliedId scope (givenContext scope world).requestId := by
  intro supplied found length allowed
  have accepted : 1 ≤ supplied.toList.length ∧ supplied.toList.length ≤ maxRequestIdLength ∧
      supplied.toList.all (· ∈ requestIdAllowedCharacters) = true :=
    ⟨length.1, length.2, List.all_eq_true.mpr fun character member => by
      simpa using allowed character member⟩
  rw [givenContext_requestId, requestId, found]
  dsimp only
  rw [if_pos accepted]
  rfl

theorem offeredStatus_of_unstarted {messages : List Message}
    (unstarted : messages.any Message.isStart = false) : offeredStatus messages = 500 := by
  induction messages using List.reverseRecOn with
  | nil => rfl
  | append_singleton messages message ih =>
      rw [List.any_append, Bool.or_eq_false_iff] at unstarted
      rw [offeredStatus_concat]
      cases message with
      | responseStart status headers => cases unstarted.2
      | responseBody content moreBody => exact ih unstarted.1
      | other type => exact ih unstarted.1

/-- A 500 that is sent instead of a response is what the access log had assumed. -/
theorem Completed.offeredStatus {timing : PyFloat → String} {hstsEnabled : Bool}
    {before after : World} {given : RequestContext} {record : AccessRecord}
    {own fallback : List Message}
    (done : Completed timing hstsEnabled before after given record own fallback) :
    offeredStatus (own ++ fallback) = offeredStatus own := by
  rcases done.fallback with none | ⟨unstarted, response⟩
  · rw [none, List.append_nil]
  · rw [offeredStatus_of_unstarted unstarted]
    cases response with
    | complete => rw [List.append_cons, offeredStatus_concat, offeredStatus_concat]
    | givenUp => rw [offeredStatus_concat]

end BidSystem.Api.Middleware
