import BidSystem.Api.Asgi
import BidSystem.Interaction.Handler
import BidSystem.Telemetry.Metrics
import Mathlib.Data.Nat.Digits.Defs

/-!
# The outer side of an HTTP request

The identifiers of a request, what the middlewares around the application ask of their
surroundings, and the surroundings themselves: a server that takes response messages, a
monotonic clock, the logs and the metrics sink.

* `requestId`, `requestSpan` — the identifiers that a request is given.
* `ValidRequestId` — the `RequestId` of the public contracts; every id that `requestId`
  returns is one.
* `Call`, `serve`, `World` — one call of a middleware or of the application, and what it
  does.

A response message has its headers here, as they come after those that the response
sets by itself.  The span of the tracing library is taken as given.
-/

namespace BidSystem.Api.Middleware

open Interaction Interaction.Program Telemetry

/-! ## Identifiers -/

/-- The last `width` hexadecimal digits of a number. -/
def hexDigits : ℕ → ℕ → List Char
  | 0, _ => []
  | width + 1, value => hexDigits width (value / 16) ++ [Nat.digitChar (value % 16)]

/-- `str(uuid4())`, of the 128 bits that were drawn. -/
def uuidText (value : BitVec 128) : String :=
  String.ofList (hexDigits 8 (value.toNat / 16 ^ 24) ++ '-' :: hexDigits 4 (value.toNat / 16 ^ 20) ++
    '-' :: hexDigits 4 (value.toNat / 16 ^ 16) ++ '-' :: hexDigits 4 (value.toNat / 16 ^ 12) ++
    '-' :: hexDigits 12 value.toNat)

/-- `_hex_trace_id`. -/
def hexTraceId (value : BitVec 128) : String := String.ofList (hexDigits 32 value.toNat)

/-- `_hex_span_id`. -/
def hexSpanId (value : BitVec 64) : String := String.ofList (hexDigits 16 value.toNat)

/-- `MAX_REQUEST_ID_LENGTH`. -/
def maxRequestIdLength : ℕ := 128

/-- `REQUEST_ID_ALLOWED_CHARACTERS`. -/
def requestIdAllowedCharacters : List Char :=
  "ABCDEFGHIJKLMNOPQRSTUVWXYZabcdefghijklmnopqrstuvwxyz0123456789._:-".toList

/-- A character of `REQUEST_ID_PATTERN`. -/
def requestIdCharacter (character : Char) : Bool :=
  character.isUpper || character.isLower || character.isDigit || character ∈ ['.', '_', ':', '-']

/-- The `RequestId` of the contracts. -/
def ValidRequestId (requestId : String) : Prop :=
  1 ≤ requestId.toList.length ∧ requestId.toList.length ≤ maxRequestIdLength ∧
    requestId.toList.all requestIdCharacter = true

instance decidableValidRequestId (requestId : String) : Decidable (ValidRequestId requestId) :=
  inferInstanceAs (Decidable (_ ∧ _ ∧ _))

/-- `RequestContext`. -/
structure RequestContext where
  requestId : String
  traceId : String
  userId : Option String
  tenantId : Option String
  method : String
  path : String
  clientIp : Option String
  startedAt : Instant
deriving DecidableEq, Repr

/-- A span context of the tracing library. -/
structure SpanContext where
  traceId : BitVec 128
  spanId : BitVec 64
deriving DecidableEq, Repr

/-- `is_valid`. -/
def SpanContext.isValid (context : SpanContext) : Bool := context.traceId != 0 && context.spanId != 0

/-- `CorrelationContext`. -/
structure CorrelationContext where
  requestId : String
  traceId : String
  spanId : String
deriving DecidableEq, Repr

/-! ## Calls -/

/-- What a call raises. -/
structure Raised where
  qualname : String
  text : String
  /-- An `Exception`, and not just a `BaseException`. -/
  isException : Bool
deriving DecidableEq, Repr

/-- Headers, their names in lower case. -/
abbrev Headers := List (String × String)

/-- A message for `send`. -/
inductive Message where
  | responseStart (status : ℕ) (headers : Headers)
  | responseBody (content : Body) (moreBody : Bool)
  | other (type : String)
deriving DecidableEq, Repr

/-- What the middlewares read of a scope. -/
structure Scope where
  type : String
  method : String
  path : String
  headers : Headers
  client : Option String
deriving DecidableEq, Repr

/-- A request for a page that a client has given an id. -/
def Scope.identified : Scope where
  type := "http"
  method := "GET"
  path := "/missing"
  headers := [("x-request-id", "order-66")]
  client := none

/-- A request for a page without headers. -/
def Scope.plain : Scope where
  type := "http"
  method := "GET"
  path := "/missing"
  headers := []
  client := none

/-- The extra fields of a `request_completed` record. -/
structure AccessRecord where
  requestId : String
  traceId : String
  userId : Option String
  tenantId : Option String
  method : String
  path : String
  route : String
  clientIp : Option String
  startedAt : Instant
  statusCode : ℕ
  durationMs : PyFloat
  outcome : String
deriving DecidableEq

/-- An `unhandled_request_exception` record: the text of the exception it is logged with,
and its extra fields. -/
structure ErrorRecord where
  exception : String
  requestId : String
  traceId : String
deriving DecidableEq, Repr

/-- The calls of a middleware. -/
inductive Call where
  | receive
  | send (message : Message)
  /-- The router stores the route in the scope. -/
  | matchRoute (path : Option String)
  /-- `replace(context, user_id=.., tenant_id=..)`, stored in the state of the scope. -/
  | bindPrincipal (userId tenantId : String)
  | getRoute
  | getContext
  | setContext (context : RequestContext)
  | uuid4
  | tokenHex (size : ℕ)
  /-- The contexts of the span that is started for a request, and of its parent. -/
  | spanContexts (headers : Headers)
  | now
  | perfCounterNs
  | logAccess (record : AccessRecord)
  | logError (record : ErrorRecord)
  | recordHttpRequest (measurement : HttpRequestMeasurement)

/-- What a call returns. -/
abbrev Call.Answer : Call → Type
  | .receive => Incoming
  | .send _ => Except Raised Unit
  | .getRoute => Option String
  | .getContext => Except Raised RequestContext
  | .uuid4 => BitVec 128
  | .tokenHex size => BitVec (8 * size)
  | .spanContexts _ => SpanContext × SpanContext
  | .now => Instant
  | .perfCounterNs => ℕ
  | _ => Unit

/-- What a middleware does with a request. -/
abbrev Run := Program Call Call.Answer

/-- An ASGI application. -/
abbrev App := Scope → Run (Except Raised Unit)

/-! ## The surroundings -/

/-- The surroundings of a request. -/
structure World where
  /-- What the client has yet to send. -/
  incoming : List Incoming
  /-- What the next calls of `send` raise. -/
  failures : List (Option Raised)
  /-- What the server was given to send. -/
  sent : List Message
  /-- The monotonic clock, and by how much it is ahead at each of the next readings. -/
  clock : ℕ
  ticks : List ℕ
  utc : Instant
  uuid : BitVec 128
  token : (size : ℕ) → BitVec (8 * size)
  spans : Headers → SpanContext × SpanContext
  /-- `scope["state"]["request_context"]`. -/
  context : Option RequestContext
  /-- The path of `scope["route"]`. -/
  route : Option String
  accessLog : List AccessRecord
  errorLog : List ErrorRecord
  measurements : List HttpRequestMeasurement

/-- A world in which nothing has happened and no span is recorded. -/
def World.quiet : World where
  incoming := []
  failures := []
  sent := []
  clock := 0
  ticks := []
  utc := 0
  uuid := 0
  token _ := 0
  spans _ := (⟨0, 0⟩, ⟨0, 0⟩)
  context := none
  route := none
  accessLog := []
  errorLog := []
  measurements := []

/-- `KeyError`. -/
def keyError (key : String) : Raised := { qualname := "KeyError", text := key, isException := true }

/-- What a call does. -/
def serve : (request : Call) → World → request.Answer × World
  | .receive, world =>
      match world.incoming with
      | [] => (.httpDisconnect, world)
      | message :: incoming => (message, { world with incoming })
  | .send message, world =>
      let later := { world with sent := world.sent ++ [message], failures := world.failures.tail }
      match world.failures.head? with
      | some (some raised) => (.error raised, later)
      | _ => (.ok (), later)
  | .matchRoute path, world => ((), { world with route := path })
  | .bindPrincipal userId tenantId, world =>
      ((), { world with context := world.context.map fun context =>
        { context with userId := some userId, tenantId := some tenantId } })
  | .getRoute, world => (world.route, world)
  | .getContext, world => (world.context.elim (.error (keyError "request_context")) .ok, world)
  | .setContext context, world => ((), { world with context := some context })
  | .uuid4, world => (world.uuid, world)
  | .tokenHex size, world => (world.token size, world)
  | .spanContexts headers, world => (world.spans headers, world)
  | .now, world => (world.utc, world)
  | .perfCounterNs, world =>
      let clock := world.clock + world.ticks.headD 0
      (clock, { world with clock, ticks := world.ticks.tail })
  | .logAccess record, world => ((), { world with accessLog := world.accessLog ++ [record] })
  | .logError record, world => ((), { world with errorLog := world.errorLog ++ [record] })
  | .recordHttpRequest measurement, world =>
      ((), { world with measurements := world.measurements ++ [measurement] })

/-! ## What a request is given -/

/-- `_request_id`. -/
def requestId (headers : Headers) : Run String := do
  match headers.lookup "x-request-id" with
  | some supplied =>
      if 1 ≤ supplied.toList.length ∧ supplied.toList.length ≤ maxRequestIdLength ∧
          supplied.toList.all (· ∈ requestIdAllowedCharacters) then
        return supplied
      else return uuidText (← ask Call.uuid4)
  | none => return uuidText (← ask Call.uuid4)

/-- The trace id of `request_span`. -/
def spanTraceId (span parent : SpanContext) : Run String :=
  if span.isValid then return hexTraceId span.traceId
  else if parent.isValid then return hexTraceId parent.traceId
  else do
    let token ← ask (Call.tokenHex 16)
    return hexTraceId token

/-- The span id of `request_span`. -/
def spanSpanId (span : SpanContext) : Run String :=
  if span.isValid then return hexSpanId span.spanId
  else do
    let token ← ask (Call.tokenHex 8)
    return hexSpanId token

/-- `request_span`, up to the `yield`. -/
def requestSpan (requestId : String) (headers : Headers) : Run CorrelationContext := do
  let contexts ← ask (Call.spanContexts headers)
  let traceId ← spanTraceId contexts.1 contexts.2
  let spanId ← spanSpanId contexts.1
  return { requestId, traceId, spanId }

theorem length_hexDigits (width value : ℕ) : (hexDigits width value).length = width := by
  induction width generalizing value with
  | zero => rfl
  | succ width ih => rw [hexDigits, List.length_append, ih, List.length_singleton]

theorem mem_hexDigits {width value : ℕ} {digit : Char} (member : digit ∈ hexDigits width value) :
    digit ∈ "0123456789abcdef".toList := by
  induction width generalizing value with
  | zero => cases member
  | succ width ih =>
      rw [hexDigits, List.mem_append, List.mem_singleton] at member
      rcases member with earlier | last
      · exact ih earlier
      · have range : value % 16 < 16 := Nat.mod_lt _ (by decide)
        have digits : ∀ number < 16, Nat.digitChar number ∈ "0123456789abcdef".toList := by decide
        rw [last]
        exact digits _ range

theorem requestIdCharacter_of_allowed :
    ∀ character ∈ requestIdAllowedCharacters, requestIdCharacter character = true := by decide

/-- The text of a UUID is a request id. -/
theorem validRequestId_uuidText (value : BitVec 128) : ValidRequestId (uuidText value) := by
  have digit : ∀ width number, ∀ character ∈ hexDigits width number,
      requestIdCharacter character = true := by
    intro width number character member
    have hexadecimal : ∀ character ∈ "0123456789abcdef".toList,
        requestIdCharacter character = true := by decide
    exact hexadecimal character (mem_hexDigits member)
  have dash : requestIdCharacter '-' = true := by decide
  refine ⟨?_, ?_, ?_⟩
  · simp [uuidText, length_hexDigits]
  · simp [uuidText, length_hexDigits, maxRequestIdLength]
  · simp only [uuidText, String.toList_ofList, List.all_append, List.all_cons, dash,
      Bool.true_and, Bool.and_eq_true, List.all_eq_true]
    exact ⟨⟨⟨⟨digit _ _, digit _ _⟩, digit _ _⟩, digit _ _⟩, digit _ _⟩

/-- **Every request gets a request id of the contracts**, and nothing else happens. -/
theorem exec_requestId (headers : Headers) (world : World) :
    ValidRequestId ((requestId headers).exec serve world).1 ∧
      ((requestId headers).exec serve world).2 = world := by
  have drawn : ValidRequestId
      ((do return uuidText (← ask Call.uuid4) : Run String).exec serve world).1 ∧
        ((do return uuidText (← ask Call.uuid4) : Run String).exec serve world).2 = world :=
    ⟨validRequestId_uuidText world.uuid, rfl⟩
  rw [requestId]
  split
  · split
    · next supplied accepted =>
        refine ⟨⟨accepted.1, accepted.2.1, List.all_eq_true.mpr fun character member => ?_⟩, rfl⟩
        have allowed := List.all_eq_true.mp accepted.2.2 character member
        exact requestIdCharacter_of_allowed character (by simpa using allowed)
    · exact drawn
  · exact drawn

/-- A trace id is 32 hexadecimal digits. -/
def HexTraceId (traceId : String) : Prop :=
  traceId.toList.length = 32 ∧ ∀ digit ∈ traceId.toList, digit ∈ "0123456789abcdef".toList

theorem hexTraceId_hex (value : BitVec 128) : HexTraceId (hexTraceId value) := by
  rw [HexTraceId, hexTraceId, String.toList_ofList]
  exact ⟨length_hexDigits _ _, fun digit member => mem_hexDigits member⟩

theorem exec_spanTraceId (span parent : SpanContext) (world : World) :
    HexTraceId ((spanTraceId span parent).exec serve world).1 ∧
      ((spanTraceId span parent).exec serve world).2 = world := by
  unfold spanTraceId
  split
  · exact ⟨hexTraceId_hex _, rfl⟩
  · split
    · exact ⟨hexTraceId_hex _, rfl⟩
    · exact ⟨hexTraceId_hex _, rfl⟩

theorem exec_spanSpanId (span : SpanContext) (world : World) :
    ((spanSpanId span).exec serve world).2 = world := by
  unfold spanSpanId
  split <;> rfl

/-- **A request has a trace id**, whether its span is recorded or not. -/
theorem exec_requestSpan (requestId : String) (headers : Headers) (world : World) :
    ((requestSpan requestId headers).exec serve world).1.requestId = requestId ∧
      HexTraceId ((requestSpan requestId headers).exec serve world).1.traceId ∧
      ((requestSpan requestId headers).exec serve world).2 = world := by
  obtain ⟨hex, kept⟩ := exec_spanTraceId (world.spans headers).1 (world.spans headers).2 world
  have asked : serve (.spanContexts headers) world = (world.spans headers, world) := rfl
  rw [requestSpan, exec_seq, exec_ask, asked, exec_seq, kept, exec_seq, exec_spanSpanId]
  exact ⟨rfl, hex, rfl⟩

end BidSystem.Api.Middleware
