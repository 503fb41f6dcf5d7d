import ChatBoard.Octets

/-!
# Media types

A media type is a type and a subtype of token characters with a solidus between them, followed by
parameters after semicolons. A value is a token or stands between quotes. Names are compared
without case; the part of a subtype after its last plus sign is a suffix and not part of its name.
-/

namespace ChatBoard.MediaType

/-- A character of a token. -/
def isToken (b : UInt8) : Bool :=
  (48 ≤ b && b ≤ 57) || (65 ≤ b && b ≤ 90) || (97 ≤ b && b ≤ 122)
    || (Octets.ofText "!#$%&'*+-.^_`|~").contains b

/-- A character between quotes. -/
def isQuotable (b : UInt8) : Bool := b ≥ 0x20 && b != 0x7f

/-- A name and a value. -/
abbrev Parameter := Octets × Octets

/-- Takes token characters up to a given mark or the end. Anything else is a fault. -/
def takeToken (mark : UInt8) (bs : Octets) : Option (Octets × Option Octets) :=
  match bs.dropWhile isToken with
  | [] => some (bs, none)
  | b :: rest => if b = mark then some (bs.takeWhile isToken, some rest) else none

/-- After a quoted value: spaces, and then the next parameter or the end. -/
def afterQuoted (bs : Octets) : Option Octets :=
  match bs.dropWhile (· == 0x20) with
  | [] => some []
  | b :: rest => if b = 0x3b then some rest else none

/-- Reads a value between quotes, which has at least one character, and what follows its
semicolon. A quote that comes first is a character of the value. -/
def readQuoted : Octets → Option (Octets × Octets)
  | [] => none
  | c :: rest =>
    let inner (b : UInt8) : Bool := isQuotable b && b != 0x22
    match rest.dropWhile inner with
    | b :: after =>
      if isQuotable c ∧ b = 0x22 then
        (afterQuoted after).map fun next => (c :: rest.takeWhile inner, next)
      else none
    | [] => none

/-- Reads a value and what follows its semicolon. A token before a semicolon is not empty. -/
def readValue : Octets → Option (Octets × Octets)
  | 0x22 :: rest => readQuoted rest
  | bs =>
    match takeToken 0x3b bs with
    | none => none
    | some (value, none) => some (value, [])
    | some (value, some next) => if value = [] then none else some (value, next)

/-- Reads parameters; each has at least one octet, so their number bounds the steps. -/
def readParameters : Nat → Octets → Option (List Parameter)
  | 0, _ => none
  | steps + 1, bs =>
    match bs.dropWhile (· == 0x20) with
    | [] => some []
    | b :: rest =>
      match takeToken 0x3d (b :: rest) with
      | some (name, some after) =>
        if name = [] then none
        else
          match readValue after with
          | none => none
          | some (value, next) => (readParameters steps next).map ((name, value) :: ·)
      | _ => none

/-- A subtype without its suffix. -/
def withoutSuffix (subtype : Octets) : Octets :=
  let before := (subtype.reverse.dropWhile (· != 0x2b)).drop 1
  if before.isEmpty then subtype else before.reverse

/-- The type, the subtype and the parameters that octets name. -/
def read? (bs : Octets) : Option (Octets × Octets × List Parameter) :=
  if !bs.all Octets.isPlain then none
  else
    match takeToken 0x2f bs with
    | some (kind, some rest) =>
      if kind = [] then none
      else
        match takeToken 0x3b rest with
        | none => none
        | some (subtype, after) =>
          if subtype = [] ∧ after.isSome then none
          else
            let tail := after.getD []
            (readParameters (tail.length + 1) tail).map fun ps =>
              (kind, withoutSuffix subtype, ps)
    | _ => none

/-- The first parameter with a name. -/
def parameter? (name : String) (ps : List Parameter) : Option Octets :=
  (ps.find? fun p => Octets.sameLetters p.1 (Octets.ofText name)).map (·.2)

/-- What stands between the parts of a body whose media type is a form in parts. -/
def boundary? (bs : Octets) : Option Octets :=
  match read? bs with
  | none => none
  | some (kind, subtype, ps) =>
    if Octets.sameLetters kind (Octets.ofText "multipart")
        ∧ Octets.sameLetters subtype (Octets.ofText "form-data") then
      parameter? "boundary" ps
    else none

/-- The label of the encoding that a media type tells. -/
def charset? (bs : Octets) : Option Octets :=
  match read? bs with
  | none => none
  | some (_, _, ps) => parameter? "charset" ps

/-- How the media type of a url-encoded form begins. -/
def formType : Octets := Octets.ofText "application/x-www-form-urlencoded"

/-- Whether a media type is that of a url-encoded form, whatever follows it. -/
def isForm (contentType : Option Octets) : Bool :=
  match contentType with
  | some bs => bs.all Octets.isPlain && formType.isPrefixOf bs
  | none => false

end ChatBoard.MediaType
