import ChatBoard.Json.Skip

/-!
# Values read whole

Where the kind of a value is not settled beforehand, everything that stands in it is read and kept,
more strictly than a value that is passed over: texts must be texts, numbers must be in range, and
lists and objects may not nest too deep. An attempt at that may fail in a value that could be passed
over. Then it tells where it has stopped, so that the one who asked can decide whether to go on from
there: lists and objects that are open at that point are left, and each of them takes its closing
mark with it if that comes next.
-/

namespace ChatBoard.Json

/-- A value with what stands in it. Members keep their order and may share names. -/
inductive Content where
  | null
  | bool (b : Bool)
  | number
  | text (s : String)
  | list (values : List Content)
  | object (members : List (String × Content))
  deriving Inhabited

/-- What an attempt reads and the octets after it, or the octets from where it has stopped. -/
abbrev Attempt (α : Type) := Except Octets (α × Octets)

/-- The most lists and objects that may stand in one another. -/
def nestingLimit : Nat := 127

/-! ## Where reading stops -/

/-- Where reading stops in a string that is no text: after the part of an escape that is no
character, or at the end. The opening quote has been read. -/
def stopInQuoted : Octets → Octets
  | 0x5c :: 0x75 :: p :: q :: r :: s :: tail =>
    match hexUnit? p q r s with
    | none => tail
    | some n =>
      if isTrailing n then tail
      else if !isLeading n then stopInQuoted tail
      else
        -- The second of the pair is missing, unless it comes at once.
        match tail with
        | 0x5c :: 0x75 :: p' :: q' :: r' :: s' :: tail' =>
          if (hexUnit? p' q' r' s').any isTrailing then stopInQuoted tail' else tail'
        | 0x5c :: _ :: tail' => tail'
        | _ :: tail' => tail'
        | [] => []
  | 0x5c :: _ :: rest => stopInQuoted rest
  | b :: rest => if b = 0x22 then rest else stopInQuoted rest
  | [] => []

/-- Where reading stops in a number that is out of range: at its end, or within an exponent, after
the digit that takes it out of range. -/
def stopInNumber (bs : Octets) : Octets :=
  match bs.dropWhile fun b => b == 0x2d || b == 0x2e || isDigit b with
  | [] => []
  | b :: rest =>
    if isExponentMark b then
      (readExponentDigits 0 (rest.dropWhile fun c => c == 0x2b || c == 0x2d)).2
    else b :: rest

/-- A list or an object that is still open, with what has been read of it, newest first. -/
inductive OpenContent where
  | list (done : List Content)
  | object (done : List (String × Content)) (key : String)

/-- What leaving an open list or object takes with it. -/
def OpenContent.leave (o : OpenContent) (bs : Octets) : Octets :=
  match o, skipBlank bs with
  | list _, b :: rest => if b = 0x5d ∨ b = 0x2c then rest else bs
  | object _ _, b :: rest => if b = 0x7d then rest else bs
  | _, [] => []

/-- Where an attempt has stopped once it has left everything that is open. -/
def stopAt (stack : List OpenContent) (bs : Octets) : Octets :=
  stack.foldl (fun bs o => o.leave bs) bs

/-! ## Reading -/

/-- Attempts the rest of a text, whose opening quote has been read. -/
def attemptText (bs : Octets) : Attempt String :=
  (readTextBody bs).mapError fun _ => stopInQuoted bs

/-- Attempts a key and the colon after it. -/
def attemptKey (bs : Octets) : Attempt String :=
  match skipBlank bs with
  | [] => .error []
  | b :: rest =>
    if b = 0x22 then
      match attemptText rest with
      | .error stop => .error stop
      | .ok (key, after) => ((readMark 0x3a after).map (key, ·)).mapError fun _ => after
    else .error (b :: rest)

/-- What has been reached: the end of the whole value, or the start of another one inside. -/
inductive Reached where
  | whole (value : Content)
  | inside (stack : List OpenContent)

/-- Takes a value into the innermost open list or object. -/
def takeIn : List OpenContent → Content → Octets → Attempt Reached
  | [], value, bs => .ok (.whole value, bs)
  | .list done :: below, value, bs =>
    match skipBlank bs with
    | [] => .error []
    | b :: rest =>
      if b = 0x5d then takeIn below (.list (value :: done).reverse) rest
      else if b = 0x2c then .ok (.inside (.list (value :: done) :: below), rest)
      else .error (b :: rest)
  | .object done key :: below, value, bs =>
    match skipBlank bs with
    | [] => .error []
    | b :: rest =>
      if b = 0x7d then takeIn below (.object ((key, value) :: done).reverse) rest
      else if b = 0x2c then
        let stack (next : String) := OpenContent.object ((key, value) :: done) next :: below
        match attemptKey rest with
        | .error stop => .error (stopAt (stack "") stop)
        | .ok (next, after) => .ok (.inside (stack next), after)
      else .error (b :: rest)

/-- Opens a list. -/
def openList (stack : List OpenContent) (bs : Octets) : Attempt Reached :=
  match skipBlank bs with
  | [] => .error []
  | b :: rest =>
    if b = 0x5d then takeIn stack (.list []) rest else .ok (.inside (.list [] :: stack), b :: rest)

/-- Opens an object. -/
def openObject (stack : List OpenContent) (bs : Octets) : Attempt Reached :=
  match skipBlank bs with
  | [] => .error []
  | b :: rest =>
    if b = 0x7d then takeIn stack (.object []) rest
    else
      match attemptKey (b :: rest) with
      | .error stop => .error (stopAt (.object [] "" :: stack) stop)
      | .ok (key, after) => .ok (.inside (.object [] key :: stack), after)

/-- Attempts a scalar, or opens a list or an object; `b` is the first octet of the value. -/
def attemptOne (outer : Nat) (stack : List OpenContent) (b : UInt8) (rest : Octets) :
    Attempt Reached :=
  let word (value : Content) (w : Octets) : Attempt Reached :=
    match readWord w rest with
    | .error _ => .error (stopAt stack rest)
    | .ok after => takeIn stack value after
  let mayOpen := outer + stack.length < nestingLimit
  if b = 0x5b ∧ mayOpen then openList stack rest
  else if b = 0x7b ∧ mayOpen then openObject stack rest
  else if b = 0x22 then
    match attemptText rest with
    | .error stop => .error (stopAt stack stop)
    | .ok (s, after) => takeIn stack (.text s) after
  else if b = 0x2d ∨ isDigit b then
    match readNumber (b :: rest) with
    | .error _ => .error (stopAt stack (stopInNumber (b :: rest)))
    | .ok (_, after) => takeIn stack .number after
  else if b = 0x6e then word .null [0x75, 0x6c, 0x6c]
  else if b = 0x74 then word (.bool true) [0x72, 0x75, 0x65]
  else if b = 0x66 then word (.bool false) [0x61, 0x6c, 0x73, 0x65]
  else .error (stopAt stack (b :: rest))

/-- Attempts values until the whole is read. Each step takes at least one octet, so the number of
octets bounds the steps. -/
def attemptFrom (outer : Nat) : Nat → List OpenContent → Octets → Attempt Content
  | 0, _, bs => .error bs
  | steps + 1, stack, bs =>
    match skipBlank bs with
    | [] => .error []
    | b :: rest =>
      match attemptOne outer stack b rest with
      | .error stop => .error stop
      | .ok (.whole value, after) => .ok (value, after)
      | .ok (.inside stack, after) => attemptFrom outer steps stack after

/-- Attempts a value that stands in `outer` lists and objects. -/
def attemptValue (outer : Nat) (bs : Octets) : Attempt Content :=
  attemptFrom outer (bs.length + 1) [] bs

/-- Reads a value that may also be one that can only be passed over, as long as an attempt at it
stops at its end; then nothing is known of it. -/
def readOrPass (attempt : Octets → Attempt Content) : Reader (Option Content) := fun bs =>
  match skipValue bs with
  | .error p => .error p
  | .ok after =>
    match attempt bs with
    | .ok (value, _) => .ok (some value, after)
    | .error stop => if stop.length = after.length then .ok (none, after) else .error .malformed

end ChatBoard.Json
