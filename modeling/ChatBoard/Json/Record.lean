import ChatBoard.Json.Skip

/-!
# Records in JSON

A record is an object with named members, or a list of their values in the order of declaration.
In an object the members may come in any order and unknown members are passed over; a member that
comes twice or not at all is a mismatch. The members of one record share the type of their values,
so that a record of texts reads as a list of texts.
-/

namespace ChatBoard.Json

/-- A member of a record: its name and the reader of its value. -/
structure Member (α : Type) where
  name : String
  read : Reader α

/-- The problem with a value that is not of the kind asked for: the mismatch itself, unless the
value is damaged. Lists and objects are not looked into. -/
def unexpected (b : UInt8) (rest : Octets) : Problem :=
  let afterWord (e : Except Problem Octets) : Problem :=
    match e with
    | .error p => p
    | .ok _ => .mismatch
  -- Damage to the value itself counts before its kind.
  if b = 0x6e then afterWord (readWord [0x75, 0x6c, 0x6c] rest)
  else if b = 0x74 then afterWord (readWord [0x72, 0x75, 0x65] rest)
  else if b = 0x66 then afterWord (readWord [0x61, 0x6c, 0x73, 0x65] rest)
  else if b = 0x22 then afterWord ((readTextBody rest).map (·.2))
  else if b = 0x2d ∨ isDigit b then afterWord ((readNumber (b :: rest)).map (·.2))
  else if b = 0x5b ∨ b = 0x7b then .mismatch
  else .malformed

/-- Reads a text. -/
def readText : Reader String := fun bs =>
  match skipBlank bs with
  | [] => .error .truncated
  | b :: rest => if b = 0x22 then readTextBody rest else .error (unexpected b rest)

/-- Reads a number and keeps what a function of it makes. -/
def readNumberAs {α : Type} (f : Number → Option α) : Reader α := fun bs =>
  match skipBlank bs with
  | [] => .error .truncated
  | b :: rest =>
    if b = 0x2d ∨ isDigit b then
      match readNumber (b :: rest) with
      | .error p => .error p
      | .ok (n, after) =>
        match f n with
        | some x => .ok (x, after)
        | none => .error .mismatch
    else .error (unexpected b rest)

/-- Reads an integer of a closed range. -/
def readIntIn (least greatest : Int) : Reader Int :=
  readNumberAs fun
    | .integer i => if least ≤ i ∧ i ≤ greatest then some i else none
    | .real _ => none

/-- Reads an integer of the signed 64-bit range. -/
def readInt64 : Reader Int := readIntIn (-0x8000000000000000) 0x7fffffffffffffff

/-- Reads an integer of the unsigned 64-bit range. -/
def readUInt64 : Reader Int := readIntIn 0 0xffffffffffffffff

/-- Reads a double, which may be written as an integer. -/
def readDouble : Reader Double :=
  readNumberAs fun
    | .integer i => some (Double.ofInt i)
    | .real x => some x

/-- Passes to the key of the next member, over the opening quote; `first` says that no member has
been read. -/
def toKey (first : Bool) (b : UInt8) (rest : Octets) : Except Problem Octets :=
  if first then if b = 0x22 then .ok rest else .error .malformed
  else if b = 0x2c then readMark 0x22 rest
  else .error .malformed

/-- Reads the members of an object into one place per field. Each member takes at least one octet,
so the number of octets bounds the steps. -/
def readMembers {α : Type} (fields : List (Member α)) :
    Nat → Bool → List (Option α) → Reader (List (Option α))
  | 0, _, _, _ => .error .truncated
  | steps + 1, first, places, bs =>
    match skipBlank bs with
    | [] => .error .truncated
    | b :: rest =>
      if b = 0x7d then .ok (places, rest)
      else do
        let key ← toKey first b rest
        let (name, afterName) ← readTextBody key
        match fields.findIdx? (·.name == name) with
        | none => do
          let value ← readMark 0x3a afterName
          let after ← skipValue value
          readMembers fields steps false places after
        | some i =>
          if (places.getD i none).isSome then .error .mismatch
          else
            match fields[i]? with
            | none => .error .mismatch
            | some field => do
              let value ← readMark 0x3a afterName
              let (x, after) ← field.read value
              readMembers fields steps false (places.set i (some x)) after

/-- Passes to the next value of a list that has to have one more. -/
def toElement (first : Bool) (bs : Octets) : Except Problem Octets :=
  match skipBlank bs with
  | [] => .error .truncated
  | b :: rest =>
    if b = 0x5d then .error .mismatch
    else if first then .ok (b :: rest)
    else if b = 0x2c then
      match skipBlank rest with
      | [] => .error .truncated
      | c :: _ => if c = 0x5d then .error .malformed else .ok rest
    else .error .malformed

/-- Reads one value per field. -/
def readElements {α : Type} : List (Member α) → Bool → Reader (List α)
  | [], _, bs => .ok ([], bs)
  | field :: more, first, bs => do
    let value ← toElement first bs
    let (x, after) ← field.read value
    let (xs, rest) ← readElements more false after
    pure (x :: xs, rest)

/-- Reads a record: the values of its fields, in the order of declaration. -/
def readRecord {α : Type} (fields : List (Member α)) : Reader (List α) := fun bs =>
  match skipBlank bs with
  | [] => .error .truncated
  | b :: rest =>
    if b = 0x7b then do
      let (places, after) ← readMembers fields (rest.length + 1) true
        (List.replicate fields.length none) rest
      match places.mapM id with
      | some xs => pure (xs, after)
      | none => .error .mismatch
    else if b = 0x5b then do
      let (xs, after) ← readElements fields true rest
      let after ← readMark 0x5d after
      pure (xs, after)
    else .error (unexpected b rest)

/-- Joins written parts by commas. -/
def joinParts : List Octets → Octets
  | [] => []
  | [p] => p
  | p :: q :: ps => p ++ 0x2c :: joinParts (q :: ps)

/-- The written form of a member. -/
def writeMember (name : String) (value : Octets) : Octets := writeText name ++ 0x3a :: value

/-- The written form of an object with the given members. -/
def writeObject (members : List (String × Octets)) : Octets :=
  0x7b :: joinParts (members.map fun m => writeMember m.1 m.2) ++ [0x7d]

/-- The written form of a list. -/
def writeList (values : List Octets) : Octets := 0x5b :: joinParts values ++ [0x5d]

end ChatBoard.Json
