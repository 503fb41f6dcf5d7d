import ChatBoard.Codec.Percent

/-!
# Cookies

A client sends its cookies in header lines, as names and values between semicolons; names and
values are percent-encoded. An answer can tell the client to keep a cookie or to remove one.
-/

namespace ChatBoard

/-- A name and a value that a client has sent. -/
structure Cookie where
  name : String
  value : String
  deriving DecidableEq, Repr

namespace Cookie

/-- The cookie of one piece of a header line. A piece without an equals sign, with an empty name,
or with escapes that are no text is no cookie. -/
def ofPiece? (piece : Octets) : Option Cookie :=
  match Octets.cutAt 0x3d piece with
  | (_, none) => none
  | (name, some value) =>
    let name := Octets.trim Octets.isGap name
    if name.isEmpty then none
    else
      match Octets.toText? (Percent.decode name),
        Octets.toText? (Percent.decode (Octets.trim Octets.isGap value)) with
      | some name, some value => some ⟨name, value⟩
      | _, _ => none

/-- The cookies of one header line. A line with any other octet than plain ones is passed over. -/
def ofLine (line : Octets) : List Cookie :=
  if line.all Octets.isPlain then (line.splitOn 0x3b).filterMap ofPiece? else []

/-- The cookies of all header lines, in order. -/
def ofLines (lines : List Octets) : List Cookie := lines.flatMap ofLine

/-- The value of the cookie with a name; of several the last one counts. -/
def value? (name : String) (cookies : List Cookie) : Option String :=
  (cookies.reverse.find? fun c => c.name == name).map (·.value)

end Cookie

/-- What an answer says about a cookie that the client is to keep or to remove. -/
inductive CookieAttribute where
  /-- Scripts do not see the cookie. -/
  | httpOnly
  /-- The paths under which the cookie is sent. -/
  | path (root : String)
  /-- How many seconds the cookie is kept. -/
  | maxAge (seconds : Nat)
  /-- The cookie ended in the past. -/
  | expired
  deriving DecidableEq, Repr

/-- An instruction to the client about one of its cookies. -/
inductive CookieOrder where
  | keep (name : String) (value : Octets)
  | remove (name : String)
  deriving DecidableEq, Repr

/-- The attributes of an instruction, in the order in which they are written. -/
def CookieOrder.attributes : CookieOrder → List CookieAttribute
  | .keep _ _ => [.httpOnly, .path "/"]
  | .remove _ => [.path "/", .maxAge 0, .expired]

end ChatBoard
