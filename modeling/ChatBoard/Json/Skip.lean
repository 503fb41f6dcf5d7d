import ChatBoard.Json.Number
import ChatBoard.Json.Text

/-!
# Passing over a value

Members that a record does not name are passed over whole. The open lists and objects stand on a
stack, so nesting has no limit. After a value the closing marks that follow are taken off the
stack; then either the stack is empty and the value has ended, or a comma leads to the next value.
-/

namespace ChatBoard.Json

/-- A list or an object that has been opened. -/
inductive Frame where
  | list
  | object
  deriving DecidableEq, Repr

/-- The mark that closes a frame. -/
def Frame.closing : Frame → UInt8
  | .list => 0x5d
  | .object => 0x7d

/-- Passes over the key and the colon that stand before a member's value. -/
def skipKey (bs : Octets) : Except Problem Octets :=
  match readMark 0x22 bs with
  | .error p => .error p
  | .ok rest =>
    match skipQuoted rest with
    | .error p => .error p
    | .ok rest => readMark 0x3a rest

/-- Passes to the next value of a frame: over the key when it is an object. -/
def toValue (f : Frame) (bs : Octets) : Except Problem Octets :=
  match f with
  | .list => .ok bs
  | .object => skipKey bs

/-- After a value, takes closed frames off the stack. The result is the frames that are still open
and the octets from where the next value stands, or no frames and the octets after the whole. -/
def settle : List Frame → Octets → Except Problem (List Frame × Octets)
  | [], bs => .ok ([], bs)
  | f :: below, bs =>
    match skipBlank bs with
    | [] => .error .truncated
    | b :: rest =>
      if b = 0x2c then (toValue f rest).map fun next => (f :: below, next)
      else if b = f.closing then settle below rest
      else .error .malformed

/-- Opens a frame: it may be closed at once, or a value stands in it. -/
def openFrame (f : Frame) (stack : List Frame) (bs : Octets) :
    Except Problem (List Frame × Octets) :=
  match skipBlank bs with
  | [] => .error .truncated
  | b :: rest =>
    if b = f.closing then settle stack rest
    else (toValue f bs).map fun next => (f :: stack, next)

/-- Passes over a scalar and settles, or opens a frame; `b` is the first octet of the value. -/
def skipOne (stack : List Frame) (b : UInt8) (rest : Octets) :
    Except Problem (List Frame × Octets) :=
  let scalar (e : Except Problem Octets) : Except Problem (List Frame × Octets) :=
    match e with
    | .error p => .error p
    | .ok after => settle stack after
  if b = 0x5b then openFrame .list stack rest
  else if b = 0x7b then openFrame .object stack rest
  else if b = 0x22 then scalar (skipQuoted rest)
  else if b = 0x6e then scalar (readWord [0x75, 0x6c, 0x6c] rest)
  else if b = 0x74 then scalar (readWord [0x72, 0x75, 0x65] rest)
  else if b = 0x66 then scalar (readWord [0x61, 0x6c, 0x73, 0x65] rest)
  else if b = 0x2d then scalar (skipUnsigned rest)
  else if isDigit b then scalar (skipUnsigned (b :: rest))
  else .error .malformed

/-- Passes over values until no frame is open. Each step takes at least one octet, so the number
of octets bounds the steps. -/
def skipValues : Nat → List Frame → Octets → Except Problem Octets
  | 0, _, _ => .error .truncated
  | steps + 1, stack, bs =>
    match skipBlank bs with
    | [] => .error .truncated
    | b :: rest =>
      match skipOne stack b rest with
      | .error p => .error p
      | .ok ([], after) => .ok after
      | .ok (f :: below, after) => skipValues steps (f :: below) after

/-- Passes over one value. -/
def skipValue (bs : Octets) : Except Problem Octets := skipValues (bs.length + 1) [] bs

end ChatBoard.Json
