import ChatBoard.Octets

/-!
# Requests

What the board sees of a request: its method, the path and the query of its target, the lines of
its cookie headers, the media type that it claims for its body, and the body.
-/

namespace ChatBoard

/-- The methods that the board tells apart. -/
inductive Method where
  | get
  | head
  | post
  | other
  deriving DecidableEq, Repr

/-- The method with a name; names are case-sensitive. -/
def Method.ofName (name : String) : Method :=
  if name = "GET" then .get else if name = "HEAD" then .head else if name = "POST" then .post
  else .other

/-- A request. -/
structure Request where
  method : Method
  path : Octets
  query : Octets
  cookieLines : List Octets
  contentType : Option Octets
  body : Octets
  deriving DecidableEq, Repr

namespace Request

/-- The path and the query of what names a place on a host. A fragment belongs to neither. -/
def splitPath (target : Octets) : Octets × Octets :=
  let (path, query) := Octets.cutAt 0x3f (Octets.cutAt 0x23 target).1
  (path, query.getD [])

/-- A character of a scheme. -/
def isSchemeOctet (b : UInt8) : Bool :=
  (48 ≤ b && b ≤ 57) || (65 ≤ b && b ≤ 90) || (97 ≤ b && b ≤ 122)
    || b == 0x2b || b == 0x2d || b == 0x2e

/-- What follows the scheme of a target and its two solidi, if the target has a scheme. -/
def afterScheme? (target : Octets) : Option Octets :=
  match target.dropWhile isSchemeOctet with
  | 0x3a :: 0x2f :: 0x2f :: rest => some rest
  | _ => none

/-- An octet that ends the name of a host. -/
def endsHost (b : UInt8) : Bool := b == 0x2f || b == 0x3f || b == 0x23

/-- The path and the query of a target. A target that begins with a solidus, and the asterisk, name
a place on the board's own host. Another one names a host first, after a scheme, and without a path
means the root of that host; a host without a scheme has no path at all. -/
def splitTarget (target : Octets) : Octets × Octets :=
  if target.head? = some 0x2f ∨ target = [0x2a] then splitPath target
  else
    match afterScheme? target with
    | none => ([], [])
    | some rest =>
      let (path, query) := splitPath (rest.dropWhile fun b => !endsHost b)
      (if path = [] then [0x2f] else path, query)

/-- The most octets that a body may have. -/
def bodyLimit : Nat := 2097152

/-- Whether the body is longer than a body may be. -/
def isTooLarge (r : Request) : Bool := r.body.length > bodyLimit

end Request

end ChatBoard
