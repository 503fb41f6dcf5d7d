import ChatBoard.Json.Content
import ChatBoard.Json.TextList

/-!
# Token headers

A header names the method of the signature. It may say more, of which nothing counts but that each
member is of its kind: texts, a list of texts, and a public key with the numbers of its kind. A
header is an object, or a list of the values of all its members.
-/

namespace ChatBoard.Token

open Json

/-! ## Keys -/

/-- A test of a value that also lets null pass. -/
def nullOr (test : Content → Bool) : Content → Bool
  | .null => true
  | c => test c

/-- Is a text. -/
def isText : Content → Bool
  | .text _ => true
  | _ => false

/-- Is a list of texts. -/
def isTextList : Content → Bool
  | .list cs => cs.all isText
  | _ => false

/-- Is one of some names: a text, or an object whose only member has the name and is null. -/
def isNameIn (names : List String) : Content → Bool
  | .text s | .object [(s, .null)] => names.contains s
  | _ => false

/-- Names a method, known or not: a text, or an object whose only member is empty. -/
def namesMethod : Content → Bool
  | .text _ | .object [(_, .null)] | .object [(_, .object [])] => true
  | _ => false

/-- What any key may say, each with its test. -/
def commonKeyMembers : List (String × (Content → Bool)) :=
  [("use", nullOr isText), ("key_ops", nullOr isTextList), ("alg", nullOr namesMethod),
    ("kid", nullOr isText), ("x5u", nullOr isText), ("x5c", nullOr isTextList),
    ("x5t", nullOr isText), ("x5t#S256", nullOr isText)]

/-- The names of curves. -/
def isCurve : Content → Bool := isNameIn ["P-256", "P-384", "P-521", "Ed25519"]

/-- The kinds of keys: what a key of each kind must say, each with its test. -/
def keyKinds : List (List (String × (Content → Bool))) :=
  [[("kty", isNameIn ["EC"]), ("crv", isCurve), ("x", isText), ("y", isText)],
    [("kty", isNameIn ["RSA"]), ("n", isText), ("e", isText)],
    [("kty", isNameIn ["oct"]), ("k", isText)],
    [("kty", isNameIn ["OKP"]), ("crv", isCurve), ("x", isText)]]

/-- The values of the members with a name. -/
def valuesOf (name : String) (members : List (String × Content)) : List Content :=
  (members.filter (·.1 == name)).map (·.2)

/-- Whether a member that may be missing is there at most once and passes its test. -/
def passesOnceOrNever (members : List (String × Content)) (m : String × (Content → Bool)) : Bool :=
  match valuesOf m.1 members with
  | [] => true
  | [value] => m.2 value
  | _ => false

/-- Whether a member is there once and passes its test. -/
def passesOnce (members : List (String × Content)) (m : String × (Content → Bool)) : Bool :=
  match valuesOf m.1 members with
  | [value] => m.2 value
  | _ => false

/-- Whether a value is a key of one of the kinds. -/
def isKey : Content → Bool
  | .object members =>
    commonKeyMembers.all (passesOnceOrNever members)
      && keyKinds.any fun kind => kind.all (passesOnce members)
  | _ => false

/-! ## Headers -/

/-- What a member of a header says. -/
inductive HeaderValue where
  | method (name : String)
  | other

/-- Reads what does not count. -/
def readUncounted {α : Type} (read : Reader α) : Reader HeaderValue := fun bs =>
  (read bs).map fun (_, rest) => (.other, rest)

/-- Reads a text or null. -/
def readTextOrNull : Reader HeaderValue := readUncounted (readNullOr readText)

/-- Reads a list of texts or null. -/
def readTextsOrNull : Reader HeaderValue := readUncounted (readNullOr readTexts)

/-- Reads a key. The header itself is one object around it. -/
def readKey : Reader Content := fun bs =>
  match attemptValue 1 bs with
  | .error _ => .error .malformed
  | .ok (c, rest) => if isKey c then .ok (c, rest) else .error .mismatch

/-- Reads the name of a method: a text, or an object whose only member has the name and is null. -/
def readMethod : Reader HeaderValue := fun bs =>
  match attemptValue 1 bs with
  | .ok (.text name, rest) | .ok (.object [(name, .null)], rest) => .ok (.method name, rest)
  | .ok _ => .error .mismatch
  | .error _ => .error .malformed

/-- The members of a header in their order. -/
def headerFields : List (Member HeaderValue) :=
  [⟨"typ", readTextOrNull⟩, ⟨"alg", readMethod⟩, ⟨"cty", readTextOrNull⟩,
    ⟨"jku", readTextOrNull⟩, ⟨"jwk", readUncounted (readNullOr readKey)⟩,
    ⟨"kid", readTextOrNull⟩, ⟨"x5u", readTextOrNull⟩, ⟨"x5c", readTextsOrNull⟩,
    ⟨"x5t", readTextOrNull⟩, ⟨"x5t#S256", readTextOrNull⟩]

/-- The members of an object that fields name, where it has them. -/
def readObject {α : Type} (fields : List (Member α)) : Reader (List (Option α)) := fun bs =>
  match readMark 0x7b bs with
  | .error p => .error p
  | .ok rest =>
    readMembers fields (rest.length + 1) true (List.replicate fields.length none) rest

/-- Reads a header: an object, where members may be missing, or a list of all of them. -/
def readHeader : Reader (List (Option HeaderValue)) := fun bs =>
  match skipBlank bs with
  | 0x5b :: rest => do
    let (values, after) ← readElements headerFields true rest
    let after ← readMark 0x5d after
    pure (values.map some, after)
  | bs => readObject headerFields bs

/-- The name of the one method. -/
def method : String := "HS256"

/-- Whether octets are a header that names the one method. -/
def isHeader (bs : Octets) : Bool :=
  match readAll readHeader bs with
  | .ok (_ :: some (.method name) :: _) => name == method
  | _ => false

end ChatBoard.Token
