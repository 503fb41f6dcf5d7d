import ChatBoard.Octets
import ChatBoard.Text.Utf8

/-!
# Reading octets item by item

An encoding with characters of several octets is read from the front: the first octet, with those
that follow it in view, decides how many octets belong together and which characters they are. The
state that some encodings carry along goes from one item to the next.
-/

namespace ChatBoard.Text

/-- What octets begin with: its characters, and the number of its octets after the first. -/
structure Item where
  chars : List Char
  more : Nat
  deriving DecidableEq, Repr

namespace Item

/-- An item that stands for no character. -/
def lost (more : Nat) : Item := ⟨[replacement], more⟩

/-- Two octets that belong together, if they stand for something. Otherwise the second one is lost
with the first, unless it is ASCII. -/
def pair (found : Option (List Char)) (second : UInt8) : Item :=
  match found with
  | some cs => ⟨cs, 1⟩
  | none => lost (if second < 0x80 then 0 else 1)

/-- Two octets that belong together; the second may be missing at the end of the text. -/
def pairWith (find : UInt8 → Option (List Char)) : Octets → Item
  | [] => lost 0
  | second :: _ => pair (find second) second

end Item

/-- Reads items from a state on; `done` holds the characters read, newest first. -/
def readFrom {σ : Type} (item : σ → UInt8 → Octets → Item × σ) (state : σ) (done : List Char)
    (bs : Octets) : List Char :=
  match bs with
  | [] => done.reverse
  | b :: rest =>
    let (i, next) := item state b rest
    readFrom item next (i.chars.reverse ++ done) (rest.drop i.more)
termination_by bs.length
decreasing_by
  simp only [List.length_drop, List.length_cons]
  omega

/-- Reads items that depend on no state. -/
def readItems (item : UInt8 → Octets → Item) (bs : Octets) : List Char :=
  readFrom (fun (_ : Unit) b rest => (item b rest, ())) () [] bs

end ChatBoard.Text
