import ChatBoard.Account.Avatar
import ChatBoard.Account.Password
import ChatBoard.Board.Setting
import ChatBoard.Board.View

/-!
# What is open to all

The welcome page, making an account, signing in and out, the icons, and the reset of the board.
-/

namespace ChatBoard.Entrance

/-- The welcome page; who has a session goes on to the first channel. -/
def welcome (e : Setting) (cookies : List Cookie) : Response :=
  if (Session.userId? e.secret e.seconds cookies).isSome then .redirect "/channel/1"
  else .ofPage "index.html" Page.welcomeScope

/-- A name and a password. -/
structure Credentials where
  name : String
  password : String

/-- The credentials in a form, of which neither is empty. -/
def credentials (r : Request) : Except Response Credentials :=
  match r.formTexts "name" "password" with
  | .error refusal => .error (.ofRefusal refusal)
  | .ok (name, password) =>
    if name.isEmpty || password.isEmpty then .error (.ofFailure .badRequest)
    else .ok ⟨name, password⟩

/-- Starts a session of an account and goes to the welcome page. -/
def signIn (e : Setting) (user : Int) : Response :=
  (Response.redirect "/").withCookies [Session.start e.secret e.seconds user]

/-- Makes an account and starts its session. -/
def register (e : Setting) (r : Request) (s : Store) : Response × Store :=
  match credentials r with
  | .error answer => (answer, s)
  | .ok c =>
    match s.createUser e.clock c.name e.salt (Password.digest e.salt c.password) with
    | .error _ => (.ofFailure .internal, s)
    | .ok (none, _) => (.ofFailure .conflict, s)
    | .ok (some id, s') => (signIn e id, s')

/-- Starts a session of the account with a name, if the password is its own. -/
def login (e : Setting) (r : Request) (s : Store) : Response :=
  match credentials r with
  | .error answer => answer
  | .ok c =>
    match s.userByName c.name with
    | .error _ => .ofFailure .internal
    | .ok none => .ofFailure .forbidden
    | .ok (some user) =>
      if Password.verify user.row.salt c.password user.row.digest then signIn e user.id
      else .ofFailure .forbidden

/-- Ends a session. -/
def logout (cookies : List Cookie) : Response :=
  (Response.redirect "/").withCookies (Session.finish cookies)

/-- A stored picture. -/
def icon (raw : Octets) (s : Store) : Response :=
  match Request.pathText "file_name" raw with
  | .error refusal => .ofRefusal refusal
  | .ok name =>
    match Avatar.mediaType? name with
    | none => .ofFailure .notFound
    | some mediaType =>
      match s.image name with
      | .error _ => .ofFailure .internal
      | .ok none => .ofFailure .notFound
      | .ok (some image) => .withBody 200 mediaType image.row.data

/-- Takes the board back to its initial data. -/
def reset (s : Store) : Response × Store :=
  match s.reset with
  | (.ok _, s') => (.noContent, s')
  | (.error _, s') => (.ofFailure .internal, s')

end ChatBoard.Entrance
