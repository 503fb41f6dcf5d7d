import ChatBoard.Files
import ChatBoard.Server.Address
import ChatBoard.Server.EnvFile
import ChatBoard.Server.StoreFile

/-!
# Starting the server

What happens before the first request, in order: the environment file is read, the settings are
loaded, the file of the store is opened, the address is read and announced, and the port is taken.
The first step that fails ends the server; what was done before stays done.
-/

namespace ChatBoard

/-- Why the server does not start. -/
inductive StartupFault where
  | settings (fault : SettingsFault)
  | store (fault : StoreFileFault)
  | address
  | port (cause : FileFault)
  deriving DecidableEq, Repr

/-- The wording of a fault. -/
def StartupFault.message : StartupFault → String
  | settings fault => fault.message
  | store fault => fault.message
  | address => "invalid socket address syntax"
  | port cause => cause.message

/-- What starting the server has led to: the files, the address it announced, and why it ended, if
it did. -/
structure Startup where
  files : Files
  announced : Option String
  fault : Option StartupFault

namespace Startup

/-- Where variables may be set. -/
def envFileName : String := ".env"

/-- The environment with what the environment file sets. -/
def environment (env : Environment) (fs : Files) : Environment :=
  match fs.read envFileName with
  | .ok file => EnvFile.apply file env
  | .error _ => env

/-- The ports from 1 up to this one are reserved. -/
def reservedPorts : Nat := 1023

/-- Takes the port of an address. -/
def bind (a : Address) : Option StartupFault :=
  if 1 ≤ a.port ∧ a.port ≤ reservedPorts then some (.port .permission) else none

/-- Starts the server with its settings. -/
def withSettings (s : Settings) (fs : Files) : Startup :=
  match StoreFile.openStore s.databasePath fs with
  | (.error fault, fs) => ⟨fs, none, some (.store fault)⟩
  | (.ok (), fs) =>
    -- The store is open from here on, whatever comes.
    match Address.ofText? (s.host ++ ":" ++ Numeral.ofNat s.port) with
    | none => ⟨fs, none, some .address⟩
    | some a => ⟨fs, some a.text, bind a⟩

/-- Starts the server. -/
def run (env : Environment) (fs : Files) : Startup :=
  match Settings.load (environment env fs) with
  | .error fault => ⟨fs, none, some (.settings fault)⟩
  | .ok s => withSettings s fs

end Startup

end ChatBoard
