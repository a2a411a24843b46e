import BidSystem.Interaction.Mediator
import BidSystem.Shared.Python

/-!
# ASGI applications

An ASGI application is a program that calls `receive` and `send` for one scope and
then returns or raises.  A middleware is a function on such applications.

* `serve` — the server: it hands out the messages of a client one after the other,
  then `http.disconnect`, and accepts whatever is sent.
* `errorResponse` — the `JSONResponse` of `error_response`, run as an application; its
  headers are left out, and its body is kept as the `ErrorResponse` it encodes.
-/

namespace BidSystem.Api

open Interaction

/-! ## Messages -/

/-- A message of `receive`. -/
inductive Incoming where
  | httpRequest (body : Option (List UInt8)) (moreBody : Bool)
  | httpDisconnect
  /-- A message of another type. -/
  | other (type : String)
deriving DecidableEq, Repr

/-- `ErrorDetail`. -/
structure ErrorDetail where
  location : List (String ⊕ ℤ)
  message : String
  errorType : String
deriving DecidableEq, Repr

/-- `ErrorResponse`. -/
structure ErrorResponse where
  code : ErrorCode
  message : String
  details : List ErrorDetail
  requestId : String
deriving DecidableEq, Repr

/-- The body of a response message: some bytes, or an error envelope as JSON. -/
inductive Body where
  | bytes (content : List UInt8)
  | json (error : ErrorResponse)
deriving DecidableEq, Repr

/-- A message for `send`. -/
inductive Outgoing where
  | httpResponseStart (status : ℕ)
  | httpResponseBody (body : Body) (moreBody : Bool)
  /-- A message of another type. -/
  | other (type : String)
deriving DecidableEq, Repr

/-- `message["type"] == "http.response.start"`. -/
def Outgoing.isStart : Outgoing → Bool
  | .httpResponseStart _ => true
  | _ => false

/-! ## Applications -/

/-- What a call raises. -/
inductive Raised where
  /-- `RequestBodyTooLargeError`, an `Exception`. -/
  | requestBodyTooLarge
  /-- Another `Exception`. -/
  | exception (type : String)
  /-- A `BaseException` that is no `Exception`, such as a cancellation. -/
  | baseException (type : String)
deriving DecidableEq, Repr

/-- `except Exception` catches it. -/
def Raised.isException : Raised → Bool
  | .baseException _ => false
  | _ => true

/-- The calls of an application. -/
inductive AsgiCall where
  | receive
  | send (message : Outgoing)
deriving DecidableEq, Repr

/-- What a call returns, unless it raises. -/
abbrev AsgiCall.Answer : AsgiCall → Type
  | .receive => Except Raised Incoming
  | .send _ => Except Raised Unit

/-- What the modelled code reads of a scope; `requestId` stands for
`scope["state"]["request_context"].request_id`. -/
structure Scope where
  type : String
  method : String
  path : String
  headers : List (String × String)
  requestId : String
deriving DecidableEq, Repr

/-- `Headers(scope=scope).get(name)`. -/
def Scope.header (scope : Scope) (name : String) : Option String :=
  scope.headers.lookup name

/-- One run of an application: it returns or raises. -/
abbrev AsgiRun := Program AsgiCall AsgiCall.Answer (Except Raised Unit)

/-- An ASGI application. -/
abbrev AsgiApp := Scope → AsgiRun

/-! ## The server -/

/-- What the client has yet to send, and what it has been sent. -/
structure Wire where
  incoming : List Incoming
  emitted : List Outgoing
deriving DecidableEq, Repr

/-- The server. -/
def serve : (request : AsgiCall) → Wire → request.Answer × Wire
  | .receive, wire =>
      match wire.incoming with
      | [] => (.ok .httpDisconnect, wire)
      | message :: incoming => (.ok message, { wire with incoming := incoming })
  | .send message, wire => (.ok (), { wire with emitted := wire.emitted ++ [message] })

/-! ## Error responses -/

/-- The response to an error as messages. -/
def envelope (statusCode : ℕ) (error : ErrorResponse) : List Outgoing :=
  [.httpResponseStart statusCode, .httpResponseBody (.json error) false]

/-- `error_response`, called as an application. -/
def errorResponse (statusCode : ℕ) (code : ErrorCode) (message requestId : String)
    (details : Option (List ErrorDetail)) : AsgiRun :=
  let error := { code, message, details := details.getD [], requestId : ErrorResponse }
  .call (.send (.httpResponseStart statusCode)) fun
    | .error raised => .done (.error raised)
    | .ok () => .call (.send (.httpResponseBody (.json error) false)) fun
        | .error raised => .done (.error raised)
        | .ok () => .done (.ok ())

theorem exec_errorResponse (statusCode : ℕ) (code : ErrorCode) (message requestId : String)
    (details : Option (List ErrorDetail)) (wire : Wire) :
    (errorResponse statusCode code message requestId details).exec serve wire =
      (.ok (), { wire with
        emitted := wire.emitted ++ envelope statusCode
          { code, message, details := details.getD [], requestId } }) := by
  rw [envelope, List.append_cons]
  rfl

end BidSystem.Api
