import ChatBoard.Files
import ChatBoard.Store.Accounts

/-!
# Exporting the icons

Every stored image is written to a directory under its own name. A name that could lead out of the
directory, or that would be hidden there, is passed over. The first image that cannot be written
ends the export; those before it stay written.
-/

namespace ChatBoard.IconExport

/-- Why an export ends early. -/
inductive Fault where
  | directory (path : String) (cause : FileFault)
  | store (fault : StoreFault)
  | image (path : String) (cause : FileFault)
  deriving DecidableEq, Repr

/-- A name that stays inside the directory and is not hidden there. -/
def isSafe (name : String) : Bool :=
  !name.toList.contains '/' && !name.toList.contains '\\' && name.toList.head? != some '.'

/-- Writes images, one after the other, and counts them. -/
def writeAll (directory : String) (written : Nat) :
    List (Entry Image) → Files → Except Fault Nat × Files
  | [], fs => (.ok written, fs)
  | image :: rest, fs =>
    if isSafe image.row.name then
      let path := Files.join directory image.row.name
      match fs.write path image.row.data with
      | .error cause => (.error (.image path cause), fs)
      | .ok fs => writeAll directory (written + 1) rest fs
    else writeAll directory written rest fs

/-- Writes all images of a store to a directory, which is made if it is not there. -/
def run (s : Store) (directory : String) (fs : Files) : Except Fault Nat × Files :=
  match fs.makeDirectories directory with
  | (.error cause, fs) => (.error (.directory directory cause), fs)
  | (.ok (), fs) =>
    match s.allImages with
    | .error fault => (.error (.store fault), fs)
    | .ok images => writeAll directory 0 images fs

end ChatBoard.IconExport
