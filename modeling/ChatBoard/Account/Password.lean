import ChatBoard.Digest.Sha1

/-!
# Passwords

A password is kept as the digest of a salt followed by the password. The salt is drawn once for an
account, from letters and digits.
-/

namespace ChatBoard.Password

/-- The characters of a salt. -/
def alphabet : List Char :=
  "ABCDEFGHIJKLMNOPQRSTUVWXYZabcdefghijklmnopqrstuvwxyz0123456789".toList

/-- The number of characters in a salt. -/
def saltLength : Nat := 20

/-- The text that drawn numbers select from the alphabet. -/
def drawnText (numbers : List Nat) : String :=
  String.ofList (numbers.map fun n => alphabet.getD (n % alphabet.length) 'A')

/-- The digest that is kept for a salt and a password. -/
def digest (salt password : String) : String :=
  Octets.toHex (Digest.Sha1.digest (Octets.ofText salt ++ Octets.ofText password))

/-- Whether a password is the one that a salt and a digest were made from. -/
def verify (salt password stored : String) : Bool := digest salt password == stored

end ChatBoard.Password
