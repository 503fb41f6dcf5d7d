import ChatBoard.Files
import ChatBoard.Server.StoreName

/-!
# The file of a store

The path of a store is followed by its text: a part of two full stops takes off the part before it,
whether there is such a directory or not, and a solidus at the end changes nothing. The file is made
if it is not there, unless the name of the store forbids it. A file with content is no store; one of
a single octet counts as empty. The first change of a store needs a journal beside its file, whose
name is longer.
-/

namespace ChatBoard

/-- Why the file of a store is not opened. -/
inductive StoreFileFault where
  | name (fault : StoreNameFault)
  | unopened (path : String)
  | notAStore
  | readOnly
  | noJournal
  | disk
  deriving DecidableEq, Repr

/-- The wording of a fault. -/
def StoreFileFault.message : StoreFileFault → String
  | name fault => fault.message
  | unopened path => "unable to open database file: " ++ path
  | notAStore => "file is not a database"
  | readOnly => "attempt to write a readonly database"
  | noJournal => "unable to open database file"
  | disk => "disk I/O error"

namespace StoreFile

/-- The directory in which the server runs, from the root on. Where it is bounds how long the path
of a store may be. -/
def workingDirectory : List Octets := ["tmp", ".tmpAAAAAA"].map Octets.ofText

/-- The most octets that the path of a store may have, from the root on and with its journal. -/
def pathLimit : Nat := 512

/-- The octets that the name of a journal has more. -/
def journalLength : Nat := 8

/-- The number of octets of a path with these parts. -/
def pathLength : List Octets → Nat
  | [] => 0
  | p :: ps => 1 + p.length + pathLength ps

/-- The directories at the root of the file system. -/
def rootDirectories : List Octets :=
  ["bin", "boot", "dev", "etc", "home", "lib", "media", "mnt", "opt", "proc", "root", "run", "sbin",
    "srv", "sys", "tmp", "usr", "var"].map Octets.ofText

/-- The device that keeps nothing of what is written to it. -/
def nullDevice : List Octets := ["dev", "null"].map Octets.ofText

/-- Where a path leads. -/
inductive Place where
  /-- Into the working directory. -/
  | inside (names : List Octets)
  /-- To a directory outside of it. -/
  | directory
  /-- Into a directory around the working directory, to a file that is not there. -/
  | beside
  | nullDevice
  /-- To a part of the file system of which nothing is known. -/
  | elsewhere
  deriving DecidableEq, Repr

/-- Where the parts of a path lead. -/
def place (ps : List Octets) : Place :=
  if ps.isPrefixOf workingDirectory ∨ ps ∈ rootDirectories.map ([·]) then .directory
  else if workingDirectory.isPrefixOf ps then .inside (ps.drop workingDirectory.length)
  else if ps.dropLast.isPrefixOf workingDirectory then .beside
  else if ps = nullDevice then .nullDevice
  else .elsewhere

/-- What stands at names in the working directory. -/
def node? (fs : Files) (names : List Octets) : Option Node :=
  fs.node? (.ofNames (names.map Text.repaired))

/-- Whether it is a fault to look for a name where parts lead: a file stands there, or a directory
and the name is too long. Where nothing stands, the name is just not found. -/
def isFaulty (fs : Files) (ps : List Octets) (name : Octets) : Bool :=
  match place ps with
  | .directory => name.length > Files.nameLimit
  | .nullDevice => true
  | .inside names =>
    match node? fs names with
    | some .directory => name.length > Files.nameLimit
    | some (.file _ _) => true
    | none => false
  | _ => false

/-- Follows parts by their text, from a directory. On the way the path must not get too long, and
looking for a name must not be a fault. -/
def resolve (fs : Files) : List Octets → List Octets → Option (List Octets)
  | at_, [] => some at_
  | at_, part :: rest =>
    if part = [] ∨ part = [0x2e] then resolve fs at_ rest
    else if part = [0x2e, 0x2e] then resolve fs at_.dropLast rest
    else if pathLength at_ + part.length + 1 ≥ pathLimit ∨ isFaulty fs at_ part then none
    else resolve fs (at_ ++ [part]) rest

/-- Whether a path begins at the root. -/
def isRooted (path : Octets) : Bool := path.head? == some 0x2f

/-- The parts of a path from the root on. -/
def absolute? (fs : Files) (path : Octets) : Option (List Octets) :=
  match resolve fs (if isRooted path then [] else workingDirectory) (path.splitOn 0x2f) with
  | none => none
  | some ps => if ps = [] ∨ pathLength ps + journalLength > pathLimit then none else some ps

/-- What comes of an empty file that is there: it becomes a store. -/
def settle (n : StoreName) (names : List Octets) : Except StoreFileFault Unit :=
  if n.isReadOnly then .error .readOnly
  else if (names.getLastD []).length + journalLength > Files.nameLimit then .error .noJournal
  else .ok ()

/-- What is wrong with a directory in place of a file: it can be opened only to be read, and then
not be read. -/
def directoryFault (n : StoreName) (path : String) : StoreFileFault :=
  if n.access = .readOnly then .disk else .unopened path

/-- Opens a file of the working directory. -/
def openAt (n : StoreName) (path : String) (names : List Octets) (fs : Files) :
    Except StoreFileFault Unit × Files :=
  match fs.follow .here (names.map Text.repaired) with
  | .error _ => (.error (.unopened path), fs)
  | .ok l =>
    match fs.node? l with
    | some .directory => (.error (directoryFault n path), fs)
    | some (.file data _) => (if data.length ≤ 1 then settle n names else .error .notAStore, fs)
    | none =>
      if n.access = .create then (settle n names, fs.put l (.file [] false))
      else (.error (.unopened path), fs)

/-- Whether something stands at the path of a model. -/
def isThere (fs : Files) (path : Octets) : Bool :=
  if isRooted path then
    match (resolve fs [] (path.splitOn 0x2f)).map place with
    | some .directory => true
    | some .nullDevice => true
    | some (.inside names) => (node? fs names).isSome
    | _ => false
  else
    match (Octets.toText? path).map fs.locate with
    | some (.ok l) => (fs.node? l).isSome
    | _ => false

/-- Whether the file is there from which a new one is to take its mode, if the name tells one. -/
def hasModel (n : StoreName) (fs : Files) : Bool := (n.option? "modeof").all (isThere fs)

/-- Opens the store with a name that has been read. -/
def openNamed (n : StoreName) (path : String) (fs : Files) : Except StoreFileFault Unit × Files :=
  if n.isTransient then (if n.isReadOnly then .error .readOnly else .ok (), fs)
  else
    match absolute? fs n.path with
    | none => (.error (.unopened path), fs)
    | some ps =>
      if !hasModel n fs then (.error .disk, fs)
      else
        match place ps with
        | .inside names => openAt n path names fs
        | .directory => (.error (directoryFault n path), fs)
        | .beside =>
          (if n.access = .create then settle n ps else .error (.unopened path), fs)
        | .nullDevice =>
          (.error (if n.isReadOnly then .readOnly else .disk), fs)
        | .elsewhere => (.error (.unopened path), fs)

/-- Opens the store at a path, or under a name with options. -/
def openStore (path : String) (fs : Files) : Except StoreFileFault Unit × Files :=
  match StoreName.read path with
  | .error fault => (.error (.name fault), fs)
  | .ok n => openNamed n path fs

end StoreFile

end ChatBoard
