import ChatBoard.Codec.Percent
import ChatBoard.Text.Utf8

/-!
# Names of stores

A store is named by the path of its file. A name that begins with `file:` may have options: after
the scheme come a host, which can only be the own one, then the path, and after a question mark the
options, with ampersands between them. A number sign ends the name. Path, options and their values
may have percent escapes; an escaped zero ends each of them. Options say how the file is opened.
-/

namespace ChatBoard

/-- How the file of a store is opened. -/
inductive StoreAccess where
  | readOnly
  | readWrite
  | create
  | memory
  deriving DecidableEq, Repr

namespace StoreAccess

/-- The access that an option names. -/
def ofName? (name : Octets) : Option StoreAccess :=
  [("ro", readOnly), ("rw", readWrite), ("rwc", create), ("memory", memory)].findSome? fun e =>
    if Octets.ofText e.1 = name then some e.2 else none

/-- How much an access asks for. A store in memory asks for nothing. -/
def asked : StoreAccess → Nat
  | readOnly => 1
  | readWrite => 2
  | create => 6
  | memory => 0

/-- How much may be asked for after an access. After a store in memory it is anything. -/
def granted : StoreAccess → Nat
  | readOnly => 1
  | readWrite => 2
  | create => 6
  | memory => 128

end StoreAccess

/-- What is wrong with a name. -/
inductive StoreNameFault where
  | host (name : Octets)
  | unknownMode (kind : String) (value : Octets)
  | refusedMode (kind : String) (value : Octets)
  | unknownSystem (name : Octets)
  deriving DecidableEq, Repr

/-- The wording of a fault. -/
def StoreNameFault.message : StoreNameFault → String
  | host name => "invalid uri authority: " ++ Text.repaired name
  | unknownMode kind value => "no such " ++ kind ++ " mode: " ++ Text.repaired value
  | refusedMode kind value => kind ++ " mode not allowed: " ++ Text.repaired value
  | unknownSystem name => "no such vfs: " ++ Text.repaired name

/-- An option's name and its value. -/
abbrev StoreOption := Octets × Octets

/-- The path of a store, how it is opened, and the options of its name. -/
structure StoreName where
  path : Octets
  access : StoreAccess
  options : List StoreOption
  deriving DecidableEq, Repr

namespace StoreName

/-- What octets with escapes stand for, up to an escaped zero. -/
def unescaped (bs : Octets) : Octets := (Percent.decode bs).takeWhile (· != 0)

/-- The options in what follows the question mark. One without a name is passed over. -/
def readOptions (bs : Octets) : List StoreOption :=
  ((bs.splitOn 0x26).map fun piece =>
    let (name, value) := Octets.cutAt 0x3d piece
    (unescaped name, unescaped (value.getD []))).filter fun o => !o.1.isEmpty

/-- The value of an option. Of several with one name the first counts. -/
def option? (n : StoreName) (name : String) : Option Octets :=
  n.options.lookup (Octets.ofText name)

/-- The access after an option. -/
def applyOption (a : StoreAccess) (o : StoreOption) : Except StoreNameFault StoreAccess :=
  if o.1 = Octets.ofText "cache" then
    if o.2 = Octets.ofText "shared" ∨ o.2 = Octets.ofText "private" then .ok a
    else .error (.unknownMode "cache" o.2)
  else if o.1 = Octets.ofText "mode" then
    match StoreAccess.ofName? o.2 with
    | none => .error (.unknownMode "access" o.2)
    | some b => if a.granted < b.asked then .error (.refusedMode "access" o.2) else .ok b
  else .ok a

/-- The file system that keeps its files in memory. -/
def memorySystem : Octets := Octets.ofText "memdb"

/-- The file systems that an option may choose. -/
def systems : List Octets :=
  memorySystem :: ["unix", "unix-none", "unix-dotfile", "unix-excl"].map Octets.ofText

/-- The file system that options choose, if they do. Of several the last one counts. -/
def system? (options : List StoreOption) : Option Octets :=
  options.reverse.lookup (Octets.ofText "vfs")

/-- Takes off two solidi and the host after them, if they are there. -/
def afterHost (bs : Octets) : Except StoreNameFault Octets :=
  match bs with
  | 0x2f :: 0x2f :: rest =>
    let host := rest.takeWhile (· != 0x2f)
    if host = [] ∨ host = Octets.ofText "localhost" then .ok (rest.dropWhile (· != 0x2f))
    else .error (.host host)
  | _ => .ok bs

/-- The name after its scheme. -/
def ofReference (bs : Octets) : Except StoreNameFault StoreName := do
  let (path, query) := Octets.cutAt 0x3f (Octets.cutAt 0x23 (← afterHost bs)).1
  let options := readOptions (query.getD [])
  let access ← options.foldlM applyOption .create
  match system? options with
  | some name => if systems.contains name then pure () else throw (.unknownSystem name)
  | none => pure ()
  return ⟨unescaped path, access, options⟩

/-- The scheme of a name with options. -/
def scheme : Octets := Octets.ofText "file:"

/-- Reads a name. -/
def read (name : String) : Except StoreNameFault StoreName :=
  let bs := Octets.ofText name
  if scheme.isPrefixOf bs then ofReference (bs.drop scheme.length) else .ok ⟨bs, .create, []⟩

/-- Whether the store has no file. -/
def isFileless (n : StoreName) : Bool :=
  n.path.isEmpty || n.path == Octets.ofText ":memory:" || n.access == .memory

/-- Whether the store is gone when it is closed: it has no file, or that is kept in memory. -/
def isTransient (n : StoreName) : Bool :=
  n.isFileless || system? n.options == some memorySystem

/-- The words for yes. -/
def yesWords : List Octets := ["on", "yes", "true"].map Octets.ofText

/-- Whether the value of an option means yes: it is a word for it, or it begins with the digits of a
number of which the lowest eight bits are not all zero. -/
def meansYes (value : Octets) : Bool :=
  let ds := value.takeWhile fun b => 0x30 ≤ b && b ≤ 0x39
  if ds.isEmpty then yesWords.contains (value.map Octets.lower)
  else
    let n := ds.foldl (fun n b => n * 10 + (b.toNat - 48)) 0
    n ≤ 0x7fffffff && n % 256 != 0

/-- Whether the file is never written. -/
def isImmutable (n : StoreName) : Bool := (n.option? "immutable").any meansYes

/-- Whether nothing can be written: the store is opened to be read, or has a file that is never
written. -/
def isReadOnly (n : StoreName) : Bool :=
  n.access == .readOnly || (!n.isFileless && n.isImmutable)

end StoreName

end ChatBoard
