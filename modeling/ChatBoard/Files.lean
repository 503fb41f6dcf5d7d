import ChatBoard.Octets

/-!
# Files

A tree of files and directories, seen from the directory where a program runs. A path is read part
by part: an empty part and a single full stop stay where they are, two full stops go up. All parts
but the last must be directories that exist. What cannot be done with a path fails with the cause
that an operating system gives.

Some things are left out. The directory where a program runs is taken for the root of the tree, so
a path with a solidus at its beginning leads where it leads without. There are no links: what stands
at a location is reached through its own names only. Nor are there rights, but that a file is a
program or is not, nor a limit to what a disk holds.
-/

namespace ChatBoard

/-- Why something cannot be done with a path. -/
inductive FileFault where
  | notFound
  | permission
  | alreadyThere
  | notADirectory
  | isADirectory
  | nameTooLong
  | nul
  deriving DecidableEq, Repr

/-- The wording of a fault. -/
def FileFault.message : FileFault → String
  | notFound => "No such file or directory (os error 2)"
  | permission => "Permission denied (os error 13)"
  | alreadyThere => "File exists (os error 17)"
  | notADirectory => "Not a directory (os error 20)"
  | isADirectory => "Is a directory (os error 21)"
  | nameTooLong => "File name too long (os error 36)"
  | nul => "file name contained an unexpected NUL byte"

/-- A file with its content, which may be a program, or a directory. -/
inductive Node where
  | file (data : Octets) (program : Bool)
  | directory
  deriving DecidableEq, Repr

/-- The names on the way from the working directory, the last one first, and how many they are.
Two locations of different depths are told apart without a look at their names. -/
structure Location where
  depth : Nat
  names : List String
  depth_eq : depth = names.length
  deriving DecidableEq, Repr

namespace Location

/-- The working directory. -/
def here : Location := ⟨0, [], rfl⟩

/-- A name inside a directory. -/
def child (l : Location) (name : String) : Location :=
  ⟨l.depth + 1, name :: l.names, by rw [List.length_cons, ← l.depth_eq]⟩

/-- The directory around a location; around the working directory there is none. -/
def parent (l : Location) : Location := ⟨l.depth - 1, l.names.tail, by simp [l.depth_eq]⟩

/-- The location at the end of names, the first one outermost. -/
def ofNames (names : List String) : Location := names.foldl child here

end Location

/-- Files and directories at their locations; the working directory itself is always there. -/
structure Files where
  nodes : List (Location × Node)
  deriving DecidableEq, Repr

namespace Files

/-- The working directory without content. -/
def empty : Files := ⟨[]⟩

/-- What stands at a location. -/
def node? (fs : Files) (l : Location) : Option Node :=
  if l = .here then some .directory else fs.nodes.lookup l

/-- Puts a node at a location, in the place of the one that stands there. -/
def put (fs : Files) (l : Location) (n : Node) : Files :=
  ⟨(l, n) :: fs.nodes.filter fun e => e.1 != l⟩

/-- Puts a node at a location where nothing stands. -/
def putNew (fs : Files) (l : Location) (n : Node) : Files := ⟨(l, n) :: fs.nodes⟩

/-- Removes what stands at a location. -/
def erase (fs : Files) (l : Location) : Files := ⟨fs.nodes.filter fun e => e.1 != l⟩

/-- The parts of a path, as they are written. -/
def rawParts (path : String) : List String := (path.toList.splitOn '/').map String.ofList

/-- The parts of a path that lead somewhere. -/
def parts (path : String) : List String :=
  (rawParts path).filter fun p => p != "" && p != "."

/-- Whether a path can only name a directory, by the way it ends. -/
def namesDirectory (path : String) : Bool :=
  let last := (rawParts path).getLast?.getD ""
  last == "" || last == "." || last == ".."

/-- One step from a directory. -/
def step (l : Location) (part : String) : Location := if part = ".." then l.parent else l.child part

/-- The most octets that a name may have. -/
def nameLimit : Nat := 255

/-- The most octets that a path may have. -/
def pathLimit : Nat := 4095

/-- What is wrong with a path before it is followed, if anything. -/
def pathFault? (path : String) : Option FileFault :=
  if path.toList.contains '\x00' then some .nul
  else if path.isEmpty then some .notFound
  else if path.utf8ByteSize > pathLimit then some .nameTooLong
  else none

/-- Follows parts from a directory; all but the last must lead to directories. -/
def follow (fs : Files) (l : Location) : List String → Except FileFault Location
  | [] => .ok l
  | [part] => if part.utf8ByteSize > nameLimit then .error .nameTooLong else .ok (step l part)
  | part :: next :: rest =>
    if part.utf8ByteSize > nameLimit then .error .nameTooLong
    else
      -- Only a directory leads further.
      match fs.node? (step l part) with
      | none => .error .notFound
      | some (.file _ _) => .error .notADirectory
      | some .directory => follow fs (step l part) (next :: rest)

/-- Where a path leads. -/
def locate (fs : Files) (path : String) : Except FileFault Location :=
  match pathFault? path with
  | some fault => .error fault
  | none => fs.follow .here (parts path)

/-- Reads a file. -/
def read (fs : Files) (path : String) : Except FileFault Octets :=
  match fs.locate path with
  | .error fault => .error fault
  | .ok l =>
    match fs.node? l with
    | none => .error .notFound
    | some .directory => .error .isADirectory
    | some (.file data _) => if namesDirectory path then .error .notADirectory else .ok data

/-- Writes a file, in the place of what it held; a program stays one. -/
def write (fs : Files) (path : String) (data : Octets) : Except FileFault Files :=
  match fs.locate path with
  | .error fault => .error fault
  | .ok l =>
    match fs.node? l with
    | none =>
      if namesDirectory path then .error .isADirectory else .ok (fs.put l (.file data false))
    | some .directory => .error .isADirectory
    | some (.file _ program) =>
      if namesDirectory path then .error .notADirectory else .ok (fs.put l (.file data program))

/-- Removes a file. -/
def remove (fs : Files) (path : String) : Except FileFault Files :=
  match fs.locate path with
  | .error fault => .error fault
  | .ok l =>
    match fs.node? l with
    | none => .error .notFound
    | some .directory => .error .isADirectory
    | some (.file _ _) => if namesDirectory path then .error .notADirectory else .ok (fs.erase l)

/-- Makes the directories on the way along parts from a directory. Those that are there will do. A
file at the end is in the way; one before it is no directory, unless something on the way to it had
to be made, for then each part is looked at as if it were the last. -/
def makeWay (made : Bool) (l : Location) : List String → Files → Except FileFault Unit × Files
  | [], fs => (.ok (), fs)
  | part :: rest, fs =>
    if part.utf8ByteSize > nameLimit then (.error .nameTooLong, fs)
    else
      match fs.node? (step l part) with
      | none => makeWay true (step l part) rest (fs.putNew (step l part) .directory)
      | some .directory => makeWay made (step l part) rest fs
      | some (.file _ _) =>
        (.error (if rest.isEmpty || made then .alreadyThere else .notADirectory), fs)

/-- Makes a directory and those on the way to it. Those that were made before a fault stay. -/
def makeDirectories (fs : Files) (path : String) : Except FileFault Unit × Files :=
  if path.isEmpty then (.ok (), fs)
  else
    match pathFault? path with
    | some fault => (.error fault, fs)
    | none => makeWay false .here (parts path) fs

/-- Whether a path leads to a program that can be started. -/
def findProgram (fs : Files) (path : String) : Except FileFault Unit :=
  match fs.locate path with
  | .error fault => .error fault
  | .ok l =>
    match fs.node? l with
    | none => .error .notFound
    | some (.file _ true) => if namesDirectory path then .error .notADirectory else .ok ()
    | some _ => .error .permission

/-- The path of a name inside a directory. -/
def join (directory name : String) : String :=
  if directory.isEmpty || directory.endsWith "/" then directory ++ name
  else directory ++ "/" ++ name

end Files

end ChatBoard
