import ChatBoard.Session.Basic
import ChatBoard.Store.Accounts

/-!
# The setting of a request

What a request meets besides the store: the board's secret, the time, and the salt that an account
would be made with. Who is asking is decided by the cookies and the store.
-/

namespace ChatBoard

/-- The secret, the time in seconds and as the store writes it, and a salt. -/
structure Setting where
  secret : String
  seconds : Nat
  clock : String
  salt : String

/-- Who is asking: nobody, someone whose account is gone, or an account. -/
inductive Visitor where
  | anonymous
  | gone
  | account (user : Entry User)

/-- Who is asking. -/
def Visitor.ofCookies (e : Setting) (cookies : List Cookie) (s : Store) :
    Except StoreFault Visitor :=
  match Session.userId? e.secret e.seconds cookies with
  | none => .ok .anonymous
  | some id =>
    match s.userById id with
    | .error fault => .error fault
    | .ok none => .ok .gone
    | .ok (some user) => .ok (.account user)

end ChatBoard
