import ChatBoard.Session.Cookie
import ChatBoard.Session.Token

/-!
# Sessions

A session is a token in a cookie. It starts when an account is made or signs in and ends by itself
after a time, or when the client is told to remove the cookie.
-/

namespace ChatBoard.Session

/-- The name of the cookie. -/
def cookieName : String := "session"

/-- How many seconds a session lasts. -/
def lifetime : Nat := 360000

/-- The account whose session the cookies carry. -/
def userId? (secret : String) (now : Nat) (cookies : List Cookie) : Option Int :=
  match Cookie.value? cookieName cookies with
  | none => none
  | some token => (Token.claims? secret now (Octets.ofText token)).map (·.sub)

/-- Starts a session of an account. -/
def start (secret : String) (now : Nat) (user : Int) : CookieOrder :=
  .keep cookieName (Token.issue secret ⟨user, now + lifetime⟩)

/-- Ends the session of a client that has one: it is told to remove the cookie. -/
def finish (cookies : List Cookie) : List CookieOrder :=
  if (Cookie.value? cookieName cookies).isSome then [.remove cookieName] else []

end ChatBoard.Session
