import ChatBoard.Octets

/-!
# Dispositions

The header that names a part gives its name and the name of its file as parameters. A parameter
stands at the start or after a blank or a semicolon; its value follows an equals sign and is either
quoted, with escaped quotes inside, or goes up to the next semicolon or space.
-/

namespace ChatBoard.Disposition

/-- Blanks of ASCII. -/
def isBlank (b : UInt8) : Bool :=
  b == 0x20 || b == 0x09 || b == 0x0a || b == 0x0c || b == 0x0d

/-- Finds where a parameter's name ends; `startsHere` says that one may begin here. An occurrence
inside a word is passed over, `skip` octets at a time, and the search begins anew after it. -/
def afterName (name : Octets) : Nat → Bool → Octets → Option Octets
  | _, _, [] => none
  | skip + 1, _, _ :: rest => afterName name skip (skip == 0) rest
  | 0, startsHere, b :: rest =>
    if name.isPrefixOf (b :: rest) then
      -- A match inside a word is passed over whole.
      if startsHere then some ((b :: rest).drop name.length)
      else afterName name (name.length - 1) false rest
    else afterName name 0 (isBlank b || b == 0x3b) rest

/-- The octets up to the closing quote, with escaped quotes undone; `done` is newest first. -/
def quotedValue (done : Octets) : Octets → Option Octets
  | [] => none
  | b :: rest =>
    if b = 0x22 then
      match done with
      | 0x5c :: before => quotedValue (0x22 :: before) rest
      | _ => some done.reverse
    else quotedValue (b :: done) rest

/-- The value after a parameter's name. -/
def valueAfter (bs : Octets) : Option Octets :=
  match bs.dropWhile isBlank with
  | 0x3d :: rest =>
    match rest.dropWhile isBlank with
    | 0x22 :: quoted => quotedValue [] quoted
    | bare => some (bare.takeWhile fun b => b != 0x3b && b != 0x20)
  | _ => none

/-- The value of a parameter, if it is text. -/
def parameter? (name : String) (header : Octets) : Option String :=
  match afterName (Octets.ofText name) 0 true header with
  | none => none
  | some rest =>
    match valueAfter rest with
    | none => none
    | some value => Octets.toText? value

end ChatBoard.Disposition
