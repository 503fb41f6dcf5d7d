import ChatBoard.Digest.Sha1

/-!
# Avatar files

Avatars are pictures in one of three formats. A picture is stored under the digest of its octets,
so equal pictures share one name, and the extension tells its media type.
-/

namespace ChatBoard.Avatar

/-- The extensions that a file to be uploaded may have. -/
def extensions : List String := [".jpg", ".jpeg", ".png", ".gif"]

/-- The name of a picture: its digest in hexadecimal, and the extension. -/
def imageName (data : Octets) (extension : String) : String :=
  Octets.toHex (Digest.Sha1.digest data) ++ extension

/-- The part of a name from its last full stop on. -/
def fromLastStop? (cs : List Char) : Option (List Char) :=
  if '.' ∈ cs then some ('.' :: (cs.reverse.takeWhile (· != '.')).reverse) else none

/-- The extension of a file name, if it is one that may be uploaded. -/
def extension? (fileName : String) : Option String :=
  match fromLastStop? fileName.toList with
  | none => none
  | some cs => if String.ofList cs ∈ extensions then some (String.ofList cs) else none

/-- A name ends in a given text. -/
def endsIn (ending name : String) : Bool := ending.toList.isSuffixOf name.toList

/-- The media type of a stored picture. -/
def mediaType? (name : String) : Option String :=
  if endsIn ".jpg" name || endsIn ".jpeg" name then some "image/jpeg"
  else if endsIn ".png" name then some "image/png"
  else if endsIn ".gif" name then some "image/gif"
  else none

end ChatBoard.Avatar
