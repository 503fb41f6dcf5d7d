import ChatBoard.Http.Request

/-!
# Routes

The paths of the board, as they are sent, without decoding. A path with a part to fill in has one
segment there that is not empty. Public routes are open to all, pages ask for a session, and so
does the interface for scripts.
-/

namespace ChatBoard

/-- Routes that are open to all. -/
inductive PublicRoute where
  | reset
  | welcome
  | register
  | login
  | logout
  | icon (fileName : Octets)
  deriving DecidableEq, Repr

/-- Pages for those who have a session. -/
inductive PageRoute where
  | channel (id : Octets)
  | history (id : Octets)
  | ownProfile
  | profile (name : Octets)
  | addChannel
  deriving DecidableEq, Repr

/-- What scripts ask for. -/
inductive ApiRoute where
  | messages
  | unread
  deriving DecidableEq, Repr

/-- A route. -/
inductive Route where
  | free (route : PublicRoute)
  | page (route : PageRoute)
  | api (route : ApiRoute)
  deriving DecidableEq, Repr

namespace Route

/-- The paths without a part to fill in. -/
def fixed : List (String × Route) :=
  [("initialize", free .reset), ("", free .welcome), ("register", free .register),
    ("login", free .login), ("logout", free .logout), ("profile", page .ownProfile),
    ("add_channel", page .addChannel), ("message", api .messages), ("fetch", api .unread)]

/-- The paths with one part to fill in. -/
def withPart : List (String × (Octets → Route)) :=
  [("icons", fun part => free (.icon part)), ("channel", fun part => page (.channel part)),
    ("history", fun part => page (.history part)), ("profile", fun part => page (.profile part))]

/-- The value under a name, given in octets. -/
def lookUp {α : Type} (name : Octets) (table : List (String × α)) : Option α :=
  (table.find? fun e => Octets.ofText e.1 == name).map (·.2)

/-- The route of a path. -/
def ofPath? (path : Octets) : Option Route :=
  match path.splitOn 0x2f with
  | [[], name] => lookUp name fixed
  | [[], name, part] => if part.isEmpty then none else (lookUp name withPart).map (· part)
  | _ => none

/-- Whether a route takes what a client sends in a body. -/
def takesPost : Route → Bool
  | free .register | free .login | page .ownProfile | page .addChannel | api .messages => true
  | _ => false

/-- Whether a route answers a method. Every route shows something. -/
def answers (route : Route) (m : Method) : Bool :=
  match m with
  | .get | .head => true
  | .post => route.takesPost
  | .other => false

/-- The methods that a route answers. -/
def allowed (route : Route) : String := if route.takesPost then "GET,HEAD,POST" else "GET,HEAD"

end Route

end ChatBoard
