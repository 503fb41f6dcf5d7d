import ChatBoard.Json.Record

/-!
# Values that may be absent, and lists

Readers for null or a value, and for a list of values of one kind.
-/

namespace ChatBoard.Json

/-- Reads null, or what another reader reads. -/
def readNullOr {α : Type} (read : Reader α) : Reader (Option α) := fun bs =>
  match skipBlank bs with
  | [] => .error .truncated
  | b :: rest =>
    if b = 0x6e then (readWord [0x75, 0x6c, 0x6c] rest).map fun after => (none, after)
    else (read bs).map fun (x, after) => (some x, after)

/-- Passes to the next value of a list: over the comma, unless it is the first value. -/
def toItem (first : Bool) (b : UInt8) (rest : Octets) : Except Problem Octets :=
  if first then .ok (b :: rest) else if b = 0x2c then .ok rest else .error .malformed

/-- Reads the values of a list up to its end; `first` says that none has been read. Each step takes
at least one octet, so the number of octets bounds the steps. -/
def readListFrom {α : Type} (read : Reader α) : Nat → Bool → Reader (List α)
  | 0, _, _ => .error .truncated
  | steps + 1, first, bs =>
    match skipBlank bs with
    | [] => .error .truncated
    | b :: rest =>
      if b = 0x5d ∧ first then .ok ([], rest)
      else do
        let value ← toItem first b rest
        let (x, after) ← read value
        match skipBlank after with
        | [] => .error .truncated
        | c :: tail =>
          if c = 0x5d then .ok ([x], tail)
          else do
            let (more, tail) ← readListFrom read steps false after
            pure (x :: more, tail)

/-- Reads a list of values. -/
def readList {α : Type} (read : Reader α) : Reader (List α) := fun bs =>
  match readMark 0x5b bs with
  | .error p => .error p
  | .ok rest => readListFrom read (rest.length + 1) true rest

/-- Reads a list of texts. -/
def readTexts : Reader (List String) := readList readText

end ChatBoard.Json
