import ChatBoard.Board.Channels
import ChatBoard.Board.Entrance
import ChatBoard.Board.Messages
import ChatBoard.Board.Profile
import ChatBoard.Board.Route

/-!
# Serving requests

A request is taken to its route. Gated routes first decide who is asking: pages send visitors
without an account to sign in, the interface for scripts forbids them. Only then is the method
looked at, and the request is carried out. A request for the head alone is carried out like the
request itself, and its answer has no body.
-/

namespace ChatBoard

/-- A change of the store that is none. -/
def keeping (s : Store) (r : Response) : Response × Store := (r, s)

/-- Carries out a request that is open to all. -/
def PublicRoute.serve (e : Setting) (r : Request) (s : Store) : PublicRoute → Response × Store
  | .reset => Entrance.reset s
  | .welcome => keeping s (Entrance.welcome e (Cookie.ofLines r.cookieLines))
  | .register =>
    if r.method = .post then Entrance.register e r s
    else keeping s (.ofPage "register.html" Page.visitorScope)
  | .login =>
    keeping s (if r.method = .post then Entrance.login e r s
      else .ofPage "login.html" Page.visitorScope)
  | .logout => keeping s (Entrance.logout (Cookie.ofLines r.cookieLines))
  | .icon name => keeping s (Entrance.icon name s)

/-- Carries out a request of an account for a page. -/
def PageRoute.serve (e : Setting) (user : Entry User) (r : Request) (s : Store) :
    PageRoute → Response × Store
  | .channel id => keeping s (Channels.shown user id s)
  | .history id => keeping s (Messages.history user id r s)
  | .ownProfile =>
    if r.method = .post then Profile.update user r s else keeping s (Profile.own user)
  | .profile name => keeping s (Profile.shown user name s)
  | .addChannel =>
    if r.method = .post then Channels.add e r s else keeping s (Channels.addForm user s)

/-- Carries out a request of an account's script. -/
def ApiRoute.serve (e : Setting) (user : Entry User) (r : Request) (s : Store) :
    ApiRoute → Response × Store
  | .messages => if r.method = .post then Messages.post e user r s else Messages.poll e user r s
  | .unread => keeping s (Messages.unread user s)

/-- The answer of a page to someone who has no account. -/
def turnedAway (cookies : List Cookie) : Visitor → Response
  | .gone => (Response.redirect "/login").withCookies (Session.finish cookies)
  | _ => .redirect "/login"

namespace Route

/-- The answer to a method that a route does not know. -/
def wrongMethod : Response := .bare 405

/-- Lets an account through a gate, or answers for it. -/
def gated (e : Setting) (r : Request) (s : Store) (away : Visitor → Response)
    (act : Entry User → Response × Store) : Response × Store :=
  match Visitor.ofCookies e (Cookie.ofLines r.cookieLines) s with
  | .error _ => keeping s (.ofFailure .internal)
  | .ok (.account user) => act user
  | .ok visitor => keeping s (away visitor)

/-- Carries out a request whose method the route answers. -/
def act (e : Setting) (r : Request) (s : Store) : Route → Response × Store
  | free route => route.serve e r s
  | page route =>
    gated e r s (turnedAway (Cookie.ofLines r.cookieLines)) fun user => route.serve e user r s
  | api route => gated e r s (fun _ => .ofFailure .forbidden) fun user => route.serve e user r s

/-- Answers a request whose method the route does not know: the gate still comes first, and every
answer names the methods that the route knows. -/
def refuse (e : Setting) (r : Request) (s : Store) (route : Route) : Response × Store :=
  let answer :=
    match route with
    | free _ => wrongMethod
    | page _ =>
      (gated e r s (turnedAway (Cookie.ofLines r.cookieLines)) fun _ => keeping s wrongMethod).1
    | api _ => (gated e r s (fun _ => .ofFailure .forbidden) fun _ => keeping s wrongMethod).1
  keeping s { answer with allow := some route.allowed }

end Route

/-- Answers a request and gives the store after it. -/
def serve (e : Setting) (r : Request) (s : Store) : Response × Store :=
  match Route.ofPath? r.path with
  | none => keeping s (.bare 404)
  | some route =>
    if route.answers r.method then
      let (answer, s') := route.act e r s
      (if r.method = .head then { answer with body := [] } else answer, s')
    else route.refuse e r s

end ChatBoard
