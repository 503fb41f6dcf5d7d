import ChatBoard.Http.Disposition
import ChatBoard.Http.MediaType
import ChatBoard.Text.Encoding

/-!
# Bodies in parts

A body in parts has a delimiter, two hyphens and the boundary, before each part; after the last one
two more hyphens follow. A part has header lines, an empty line, and its content up to the next
delimiter, which stands at the start of a line. What comes before the first delimiter and after the
last is passed over.
-/

namespace ChatBoard.Multipart

/-- A part: its name, the name of its file, the encoding of its text, and its content as it
arrived. -/
structure Part where
  name : Option String
  fileName : Option String
  encoding : Text.Encoding
  chunks : List Octets
  deriving DecidableEq, Repr

namespace Part

/-- The whole content. -/
def content (p : Part) : Octets := p.chunks.flatten

/-- The content as text. -/
def text (p : Part) : String := p.encoding.decode p.content

end Part

/-- Carriage return and line feed. -/
def lineEnd : Octets := [0x0d, 0x0a]

/-- What stands before every part. -/
def delimiter (boundary : Octets) : Octets := [0x2d, 0x2d] ++ boundary

/-- Passes over the end of a line; a line feed alone ends a line too. -/
def endLine : Octets → Option Octets
  | 0x0a :: rest => some rest
  | 0x0d :: 0x0a :: rest => some rest
  | _ => none

/-- A name and a value. -/
abbrev Header := Octets × Octets

/-- The most octets that the name of a header may have. -/
def nameLimit : Nat := 65535

/-- Reads a header line. -/
def readHeader (bs : Octets) : Option (Header × Octets) :=
  let name := bs.takeWhile MediaType.isToken
  match bs.dropWhile MediaType.isToken with
  | 0x3a :: rest =>
    if name.isEmpty || name.length > nameLimit then none
    else
      let value := Octets.trim Octets.isGap (rest.takeWhile Octets.isFieldOctet)
      (endLine (rest.dropWhile Octets.isFieldOctet)).map fun after => ((name, value), after)
  | _ => none

/-- The most headers that a part may have. -/
def headerLimit : Nat := 32

/-- Reads header lines up to an empty line. -/
def readHeaders : Nat → Octets → Option (List Header)
  | 0, bs => if (endLine bs).isSome then some [] else none
  | left + 1, bs =>
    if (endLine bs).isSome then some []
    else
      match readHeader bs with
      | none => none
      | some (h, rest) => (readHeaders left rest).map (h :: ·)

/-- The value of a header. Of several with one name the last one counts. -/
def value? (name : String) (headers : List Header) : Option Octets :=
  (headers.reverse.find? fun h => Octets.sameLetters h.1 (Octets.ofText name)).map (·.2)

/-- The encoding that headers tell. One that is not known is UTF-8, and so is one that is not
told. -/
def encodingOf (headers : List Header) : Text.Encoding :=
  (((value? "content-type" headers).bind MediaType.charset?).bind Text.Encoding.ofLabel?).getD .utf8

/-- The part with given headers and content. -/
def partOf (headers : List Header) (content : Octets) : Part :=
  let disposition := value? "content-disposition" headers
  ⟨disposition.bind (Disposition.parameter? "name"),
    disposition.bind (Disposition.parameter? "filename"), encodingOf headers, [content]⟩

/-- Reads a part after the line of its delimiter, and gives what follows the next delimiter. -/
def readPart (boundary : Octets) (bs : Octets) : Option (Part × Octets) :=
  match Octets.findFirst (lineEnd ++ lineEnd) bs with
  | none => none
  | some (block, rest) =>
    -- The line ends that were taken off end the last header and the headers.
    match readHeaders headerLimit (block ++ lineEnd ++ lineEnd) with
    | none => none
    | some headers =>
      -- The line end before a delimiter belongs to it and not to the content.
      match Octets.findFirst (lineEnd ++ delimiter boundary) rest with
      | none => none
      | some (content, after) => some (partOf headers content, after)

/-- Reads the parts after a delimiter. Each takes at least one octet, so the number of octets
bounds the steps. -/
def readParts (boundary : Octets) : Nat → Octets → Option (List Part)
  | 0, _ => none
  | steps + 1, bs =>
    match bs with
    | a :: b :: _ =>
      if a = 0x2d ∧ b = 0x2d then some []
      else
        match bs.dropWhile Octets.isGap with
        | 0x0d :: 0x0a :: rest =>
          match readPart boundary rest with
          | none => none
          | some (p, after) => (readParts boundary steps after).map (p :: ·)
        | _ => none
    | _ => none

/-- The parts of a body. -/
def parts? (boundary body : Octets) : Option (List Part) :=
  match Octets.findFirst (delimiter boundary) body with
  | none => none
  | some (_, rest) => readParts boundary (rest.length + 1) rest

end ChatBoard.Multipart
