import ChatBoard.Json.Reader

/-!
# Strings in JSON

A string is written octet by octet over the UTF-8 form of its text: the quote, the backslash and
the controls are escaped, all other octets stand for themselves. Reading undoes every escape, pairs
surrogates, and asks for UTF-8 when the closing quote is met. Passing over a string asks for less:
any octets from the space upwards and surrogates without a partner are let through.
-/

namespace ChatBoard.Json

/-- The written form of one octet of a string. -/
def escapeOctet (b : UInt8) : Octets :=
  if b = 0x22 then [0x5c, 0x22]
  else if b = 0x5c then [0x5c, 0x5c]
  else if b = 0x08 then [0x5c, 0x62]
  else if b = 0x09 then [0x5c, 0x74]
  else if b = 0x0a then [0x5c, 0x6e]
  else if b = 0x0c then [0x5c, 0x66]
  else if b = 0x0d then [0x5c, 0x72]
  else if b < 0x20 then
    [0x5c, 0x75, 0x30, 0x30] ++ Octets.ofText (Octets.toHex [b])
  else [b]

/-- A text between quotes. -/
def writeText (s : String) : Octets := 0x22 :: (Octets.ofText s).flatMap escapeOctet ++ [0x22]

/-- The octet that a letter after a backslash stands for. -/
def simpleEscape? (e : UInt8) : Option UInt8 :=
  if e = 0x22 ∨ e = 0x5c ∨ e = 0x2f then some e
  else if e = 0x62 then some 0x08
  else if e = 0x66 then some 0x0c
  else if e = 0x6e then some 0x0a
  else if e = 0x72 then some 0x0d
  else if e = 0x74 then some 0x09
  else none

/-- The number of four hexadecimal digits. -/
def hexUnit? (a b c d : UInt8) : Option Nat :=
  match Octets.hexValue a, Octets.hexValue b, Octets.hexValue c, Octets.hexValue d with
  | some w, some x, some y, some z => some (((w * 16 + x) * 16 + y) * 16 + z)
  | _, _, _, _ => none

/-- Puts the UTF-8 form of a code point before octets that are kept newest first. -/
def pushCodePoint (n : Nat) (done : Octets) : Octets :=
  (String.utf8EncodeChar (Char.ofNat n)).reverse ++ done

/-- Is the first of a surrogate pair. -/
def isLeading (n : Nat) : Bool := 0xd800 ≤ n && n < 0xdc00

/-- Is the second of a surrogate pair. -/
def isTrailing (n : Nat) : Bool := 0xdc00 ≤ n && n < 0xe000

/-- The code point of a surrogate pair. -/
def pairedCodePoint (n m : Nat) : Nat := 0x10000 + (n - 0xd800) * 1024 + (m - 0xdc00)

/-- Reads up to the closing quote; `done` holds the octets read, newest first. -/
def readQuoted (done : Octets) : Octets → Except Problem (Octets × Octets)
  | [] => .error .truncated
  | b :: rest =>
    if b = 0x22 then .ok (done.reverse, rest)
    else if b < 0x20 then .error .malformed
    else if b = 0x5c then
      match rest with
      | [] => .error .truncated
      | e :: after =>
        match simpleEscape? e with
        | some c => readQuoted (c :: done) after
        | none =>
          if e ≠ 0x75 then .error .malformed
          else
            match after with
            | p :: q :: r :: s :: tail =>
              match hexUnit? p q r s with
              | none => .error .malformed
              | some n =>
                if isTrailing n then .error .malformed
                -- From here on the first of a pair, whose second must follow as an escape.
                else if !isLeading n then readQuoted (pushCodePoint n done) tail
                else
                  match tail with
                  | [] => .error .truncated
                  | [x] => if x = 0x5c then .error .truncated else .error .malformed
                  | x :: y :: low =>
                    if x ≠ 0x5c ∨ y ≠ 0x75 then .error .malformed
                    else
                      match low with
                      | p' :: q' :: r' :: s' :: tail' =>
                        match hexUnit? p' q' r' s' with
                        | none => .error .malformed
                        | some m =>
                          if isTrailing m then
                            readQuoted (pushCodePoint (pairedCodePoint n m) done) tail'
                          else .error .malformed
                      | _ => .error .truncated
            | _ => .error .truncated
    else readQuoted (b :: done) rest

/-- Reads the text of a string whose opening quote has been read. -/
def readTextBody : Reader String := fun bs =>
  match readQuoted [] bs with
  | .error p => .error p
  | .ok (octets, rest) =>
    match Octets.toText? octets with
    | some s => .ok (s, rest)
    | none => .error .malformed

/-- Passes over a string whose opening quote has been read. -/
def skipQuoted : Octets → Except Problem Octets
  | [] => .error .truncated
  | b :: rest =>
    if b = 0x22 then .ok rest
    else if b < 0x20 then .error .malformed
    else if b = 0x5c then
      match rest with
      | [] => .error .truncated
      | e :: after =>
        if (simpleEscape? e).isSome then skipQuoted after
        else if e ≠ 0x75 then .error .malformed
        else
          match after with
          | p :: q :: r :: s :: tail =>
            if (hexUnit? p q r s).isSome then skipQuoted tail else .error .malformed
          | _ => .error .truncated
    else skipQuoted rest

end ChatBoard.Json
