import ChatBoard.Codec.Form
import ChatBoard.Text.Numeral

/-!
# Fields by name

Queries and forms have named fields. They are looked at from the left, and the first fault decides:
a known name that comes again, or a value that does not read. Unknown names are passed over, and
names that are missing are found last.
-/

namespace ChatBoard

/-- What can be wrong with the fields of a query or a form. -/
inductive FieldFault where
  | missing (name : String)
  | duplicate (name : String)
  | numeral (name : String) (fault : NumeralFault)
  deriving DecidableEq, Repr

/-- The wording of a fault. -/
def FieldFault.message : FieldFault → String
  | missing name => "missing field `" ++ name ++ "`"
  | duplicate name => "duplicate field `" ++ name ++ "`"
  | numeral name fault => name ++ ": " ++ fault.message

namespace Form

/-- Puts the values of known names into their places, reading each. -/
def collect {α : Type} (names : List String) (read : String → Except NumeralFault α) :
    List (Option α) → List Field → Except FieldFault (List (Option α))
  | places, [] => .ok places
  | places, (name, value) :: rest =>
    match names.findIdx? (· == name) with
    | none => collect names read places rest
    | some i =>
      if (places.getD i none).isSome then .error (.duplicate name)
      else
        match read value with
        | .error fault => .error (.numeral name fault)
        | .ok x => collect names read (places.set i (some x)) rest

/-- The value of one field that may be missing. -/
def optionalText (name : String) (fs : List Field) : Except FieldFault (Option String) :=
  match collect [name] .ok [none] fs with
  | .error fault => .error fault
  | .ok places => .ok (places.getD 0 none)

/-- The values of two fields, empty where they are missing. -/
def twoTexts (first second : String) (fs : List Field) : Except FieldFault (String × String) :=
  match collect [first, second] .ok [none, none] fs with
  | .error fault => .error fault
  | .ok places => .ok ((places.getD 0 none).getD "", (places.getD 1 none).getD "")

/-- The values of two fields that must hold numbers of the signed 64-bit range. -/
def twoNumbers (first second : String) (fs : List Field) : Except FieldFault (Int × Int) :=
  match collect [first, second] Numeral.readInt64 [none, none] fs with
  | .error fault => .error fault
  | .ok places =>
    match places.getD 0 none, places.getD 1 none with
    | none, _ => .error (.missing first)
    | some _, none => .error (.missing second)
    | some i, some j => .ok (i, j)

end Form

end ChatBoard
