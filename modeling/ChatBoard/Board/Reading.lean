import ChatBoard.Http.MediaType
import ChatBoard.Http.Request
import ChatBoard.Http.Response

/-!
# Reading requests

What the board reads from a request before it carries it out: parts of the path, the query, and
forms. Whatever cannot be read is refused with its reason.
-/

namespace ChatBoard.Request

/-- A part of a path as text. -/
def pathText (part : String) (raw : Octets) : Except Refusal String :=
  match Octets.toText? (Percent.decode raw) with
  | some s => .ok s
  | none => .error (.pathText part)

/-- A part of a path as a number. -/
def pathNumber (part : String) (raw : Octets) : Except Refusal Int :=
  match pathText part raw with
  | .error refusal => .error refusal
  | .ok s =>
    match Numeral.readInt64 s with
    | .ok i => .ok i
    | .error _ => .error (.pathNumber s)

/-- The fields of a form. That the body is said to be one is looked at before its size. -/
def formFields (r : Request) : Except Refusal (List Form.Field) :=
  if !MediaType.isForm r.contentType then .error .notAForm
  else if r.isTooLarge then .error .bodyTooLarge
  else .ok (Form.fields r.body)

/-- Two texts of a form, empty where they are missing. -/
def formTexts (first second : String) (r : Request) : Except Refusal (String × String) :=
  match r.formFields with
  | .error refusal => .error refusal
  | .ok fs => (Form.twoTexts first second fs).mapError .form

/-- Two numbers of the query. -/
def queryNumbers (first second : String) (r : Request) : Except Refusal (Int × Int) :=
  (Form.twoNumbers first second (Form.fields r.query)).mapError .query

/-- A text of the query that may be missing. -/
def queryText (name : String) (r : Request) : Except Refusal (Option String) :=
  (Form.optionalText name (Form.fields r.query)).mapError .query

end ChatBoard.Request
