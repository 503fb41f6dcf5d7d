import ChatBoard.Http.Fields
import ChatBoard.Session.Cookie

/-!
# Responses

The answers of the board. A failure says nothing but its status; a refusal of a request that could
not be read says in plain text why.
-/

namespace ChatBoard

/-- An answer. -/
structure Response where
  status : Nat
  contentType : Option String
  location : Option Octets
  allow : Option String
  cookies : List CookieOrder
  body : Octets
  deriving DecidableEq, Repr

/-- What a request can fail with once it has been read. -/
inductive Failure where
  | badRequest
  | forbidden
  | notFound
  | conflict
  | internal
  deriving DecidableEq, Repr

/-- The status of a failure. -/
def Failure.status : Failure → Nat
  | .badRequest => 400
  | .forbidden => 403
  | .notFound => 404
  | .conflict => 409
  | .internal => 500

/-- Why a request is refused before it is carried out, or its answer cannot be sent. -/
inductive Refusal where
  /-- A part of the path is no number of the signed 64-bit range. -/
  | pathNumber (value : String)
  /-- A part of the path is no text. -/
  | pathText (part : String)
  | query (fault : FieldFault)
  | form (fault : FieldFault)
  /-- The body is not said to be a form. -/
  | notAForm
  | bodyTooLarge
  /-- The body is not said to be in parts, or not what stands between them. -/
  | noBoundary
  /-- A location holds a control character. -/
  | headerValue
  deriving DecidableEq, Repr

namespace Refusal

/-- The status of a refusal. -/
def status : Refusal → Nat
  | pathNumber _ | pathText _ | query _ | noBoundary => 400
  | form _ => 422
  | notAForm => 415
  | bodyTooLarge => 413
  | headerValue => 500

/-- The wording of a refusal. -/
def message : Refusal → String
  | pathNumber value => "Invalid URL: Cannot parse `" ++ value ++ "` to a `i64`"
  | pathText part => "Invalid URL: Invalid UTF-8 in `" ++ part ++ "`"
  | query fault => "Failed to deserialize query string: " ++ fault.message
  | form fault => "Failed to deserialize form body: " ++ fault.message
  | notAForm => "Form requests must have `Content-Type: application/x-www-form-urlencoded`"
  | bodyTooLarge => "Failed to buffer the request body: length limit exceeded"
  | noBoundary => "Invalid `boundary` for `multipart/form-data` request"
  | headerValue => "failed to parse header value"

end Refusal

namespace Response

/-- An answer that is only a status. -/
def bare (status : Nat) : Response := ⟨status, none, none, none, [], []⟩

/-- An answer with a body of a media type. -/
def withBody (status : Nat) (contentType : String) (body : Octets) : Response :=
  { bare status with contentType := some contentType, body := body }

/-- The answer to a request that failed. -/
def ofFailure (f : Failure) : Response := bare f.status

/-- The answer to a request that is refused. -/
def ofRefusal (r : Refusal) : Response :=
  withBody r.status "text/plain; charset=utf-8" (Octets.ofText r.message)

/-- The answer that has nothing to say. -/
def noContent : Response := bare 204

/-- A page. -/
def page (html : String) : Response :=
  withBody 200 "text/html; charset=utf-8" (Octets.ofText html)

/-- Data for scripts. -/
def json (text : Octets) : Response := withBody 200 "application/json" text

/-- Sends the client elsewhere. A location that no header line can hold is an error. -/
def redirect (location : String) : Response :=
  if (Octets.ofText location).all Octets.isFieldOctet then
    { bare 303 with location := some (Octets.ofText location) }
  else ofRefusal .headerValue

/-- The same answer with instructions about cookies. -/
def withCookies (r : Response) (cookies : List CookieOrder) : Response :=
  { r with cookies := cookies }

end Response

end ChatBoard
