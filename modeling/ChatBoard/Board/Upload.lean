import ChatBoard.Account.Avatar
import ChatBoard.Http.Multipart
import ChatBoard.Store.Accounts

/-!
# Profile uploads

The form of the profile comes in parts: a display name, and a picture with the name of its file.
A later part of the same name replaces an earlier one. A picture in no known format or above the
limit spoils the whole upload; its size is looked at while it arrives, piece by piece.
-/

namespace ChatBoard

/-- What an upload asks for: a display name unless empty, and an avatar unless its data is. -/
structure Upload where
  displayName : String
  avatar : Option (String × Octets)
  deriving DecidableEq, Repr

namespace Upload

/-- The upload that asks for nothing. -/
def nothing : Upload := ⟨"", none⟩

/-- The most octets that an avatar may have. -/
def avatarLimit : Nat := 1024 * 1024

/-- Gathers pieces after those that have arrived, as long as they stay within a limit. -/
def gather (limit : Nat) (arrived : Octets) : List Octets → Option Octets
  | [] => some arrived
  | piece :: rest =>
    if arrived.length + piece.length > limit then none
    else gather limit (arrived ++ piece) rest

/-- Takes in a picture from a file. -/
def addPicture (u : Upload) (fileName : String) (chunks : List Octets) : Option Upload :=
  match Avatar.extension? fileName with
  | none => none
  | some extension =>
    match gather avatarLimit [] chunks with
    | none => none
    | some data => some { u with avatar := some (Avatar.imageName data extension, data) }

/-- Takes in a part. -/
def add (u : Upload) (p : Multipart.Part) : Option Upload :=
  if p.name = some "display_name" then
    some { u with displayName := p.text }
  else if p.name = some "avatar_icon" then
    match p.fileName with
    | none => some u
    | some fileName => if fileName.isEmpty then some u else u.addPicture fileName p.chunks
  else some u

/-- What parts ask for, taken in one after the other. -/
def addAll (u : Upload) : List Multipart.Part → Option Upload
  | [] => some u
  | p :: rest =>
    match u.add p with
    | none => none
    | some u => addAll u rest

/-- What parts ask for. -/
def ofParts? (ps : List Multipart.Part) : Option Upload := nothing.addAll ps

/-- The changes at the store that an upload asks for: first the avatar, then the name. -/
def changes (user : Int) (u : Upload) : List (Store → Except StoreFault Store) :=
  (match u.avatar with
    | some (name, data) =>
      -- An empty picture leaves the avatar as it is.
      if data.isEmpty then [] else [Store.putImage name data, Store.pointAvatar user name]
    | none => [])
  ++ if u.displayName.isEmpty then [] else [Store.setDisplayName user u.displayName]

/-- Carries out what an upload asks for. -/
def apply (user : Int) (u : Upload) (s : Store) : Except StoreFault Unit × Store :=
  Store.inTurn (u.changes user) s

end Upload

end ChatBoard
