import ChatBoard.Codec.Base64Url
import ChatBoard.Digest.Sha256
import ChatBoard.Session.Header
import ChatBoard.Wire

/-!
# Session tokens

A token has three parts between full stops, each in base64url: a header that names the signature's
method, the claims, and the signature of the first two parts under the board's secret. Only one
method is accepted, and only one text of the signature, so for given first parts there is one token.
-/

namespace ChatBoard.Token

open Json

/-- The full stop between the parts. -/
def stop : UInt8 := 0x2e

/-- The header of every token that is issued. -/
def header : Octets :=
  writeObject [("typ", writeText "JWT"), ("alg", writeText method)]

/-- The third part that belongs to the first two. -/
def signature (secret : String) (signed : Octets) : Octets :=
  Base64Url.encode (Digest.Sha256.keyed (Octets.ofText secret) signed)

/-- The first two parts of a token with given claims. -/
def signedPart (claims : SessionClaims) : Octets :=
  Base64Url.encode header ++ stop :: Base64Url.encode claims.write

/-- The token with given claims. -/
def issue (secret : String) (claims : SessionClaims) : Octets :=
  signedPart claims ++ stop :: signature secret (signedPart claims)

/-- What a member of the claims says. -/
inductive Claim where
  | number (value : Int)
  | audience
  | other

/-- Reads a number by a reader. -/
def readNumberClaim (read : Reader Int) : Reader Claim := fun bs =>
  (read bs).map fun (i, rest) => (.number i, rest)

/-- Attempts a value, of which only its first octet counts: a list or an object is left at once. The
claims themselves are one object around it. -/
def attemptOutside (bs : Octets) : Attempt Content :=
  match skipBlank bs with
  | 0x5b :: rest => .error (stopAt [.list []] rest)
  | 0x7b :: rest => .error (stopAt [.object [] ""] rest)
  | bs => attemptValue 1 bs

/-- Reads from when on a token counts, which is not looked at. -/
def readStart : Reader Claim := fun bs =>
  (readOrPass attemptOutside bs).map fun (_, rest) => (.other, rest)

/-- Reads who has issued a token, which is not looked at. -/
def readIssuer : Reader Claim := fun bs =>
  (readOrPass (attemptValue 1) bs).map fun (_, rest) => (.other, rest)

/-- Reads for whom a token is meant: a text or a list of texts; any other value says nothing. -/
def readAudience : Reader Claim := fun bs =>
  (readOrPass (attemptValue 1) bs).map fun (value, rest) =>
    (if value.any fun c => isText c || isTextList c then .audience else .other, rest)

/-- The members of the claims that may come only once. -/
def claimFields : List (Member Claim) :=
  [⟨"sub", readNumberClaim readInt64⟩, ⟨"exp", readNumberClaim readUInt64⟩,
    ⟨"aud", readAudience⟩, ⟨"nbf", readStart⟩, ⟨"iss", readIssuer⟩]

/-- The claims in octets. A token that is meant for someone in particular is not for the board. -/
def readClaims? (bs : Octets) : Option SessionClaims :=
  match readAll (readObject claimFields) bs with
  | .ok (some (.number _) :: some (.number _) :: some .audience :: _) => none
  | .ok (some (.number sub) :: some (.number exp) :: _) => some ⟨sub, exp⟩
  | _ => none

/-- How many seconds after its end a token is still taken, for clocks that differ. -/
def leeway : Int := 60

/-- The claims of a token with the right signature, whether or not it has ended. -/
def signedClaims? (secret : String) (token : Octets) : Option SessionClaims :=
  match token.splitOn stop with
  | [first, second, third] =>
    -- The signature is compared as text: no other text of it is taken.
    if third = signature secret (first ++ stop :: second) then
      match Base64Url.decode first, Base64Url.decode second with
      | some h, some c => if isHeader h then readClaims? c else none
      | _, _ => none
    else none
  | _ => none

/-- The claims of a token that counts at a time. -/
def claims? (secret : String) (now : Nat) (token : Octets) : Option SessionClaims :=
  match signedClaims? secret token with
  | some c => if (now : Int) ≤ c.exp + leeway then some c else none
  | none => none

end ChatBoard.Token
