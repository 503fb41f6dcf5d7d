import ChatBoard.Octets
import ChatBoard.Text.Numeral
import ChatBoard.Text.Quoted

/-!
# Settings

The server takes its settings from variables of its environment. A variable that is unset, or whose
value is no text, has a default. Two of the settings are numbers; the first variable that does not
read as one stops the server.
-/

namespace ChatBoard

/-- The variables with their values; of several with one name the first counts. -/
abbrev Environment := List (String × Octets)

namespace Environment

/-- The value of a variable, if it is text. -/
def text? (env : Environment) (key : String) : Option String :=
  (env.lookup key).bind Octets.toText?

/-- Sets a variable. -/
def set (env : Environment) (key value : String) : Environment := (key, Octets.ofText value) :: env

end Environment

/-- The settings of the server. -/
structure Settings where
  host : String
  port : Nat
  databasePath : String
  sessionSecret : String
  publicDir : String
  /-- In milliseconds. -/
  fetchDelay : Nat
  deriving DecidableEq, Repr

/-- A variable whose value is not what it should be. -/
structure SettingsFault where
  key : String
  value : String
  cause : NumeralFault
  deriving DecidableEq, Repr

/-- The wording of a fault, without its cause. -/
def SettingsFault.message (f : SettingsFault) : String :=
  "Invalid " ++ f.key ++ " value: " ++ Text.quoted f.value

namespace Settings

/-- A variable and what it counts as when it is unset. -/
structure Variable where
  key : String
  default : String

/-- The secret that sessions are signed with. -/
def secretVariable : Variable := ⟨"ISUBATA_SESSION_SECRET", "dev-secret-change-me"⟩

/-- The host to listen on. -/
def hostVariable : Variable := ⟨"ISUBATA_HOST", "0.0.0.0"⟩

/-- The port to listen on. -/
def portVariable : Variable := ⟨"ISUBATA_PORT", "5000"⟩

/-- The file of the store. -/
def databaseVariable : Variable := ⟨"ISUBATA_DB_PATH", "isubata.db"⟩

/-- The directory of what is served as it is. -/
def publicVariable : Variable := ⟨"ISUBATA_PUBLIC_DIR", "../public"⟩

/-- How long an answer about unread messages is held back. -/
def delayVariable : Variable := ⟨"ISUBATA_FETCH_DELAY_MS", "1000"⟩

/-- The text that counts for a variable. -/
def Variable.text (v : Variable) (env : Environment) : String := (env.text? v.key).getD v.default

/-- The number that counts for a variable. -/
def Variable.number (v : Variable) (limit : Nat) (env : Environment) :
    Except SettingsFault Nat :=
  match Numeral.readNat limit (v.text env) with
  | .ok n => .ok n
  | .error cause => .error ⟨v.key, v.text env, cause⟩

/-- The greatest port. -/
def portLimit : Nat := 0xffff

/-- The longest delay. -/
def delayLimit : Nat := 0xffffffffffffffff

/-- The settings of an environment; of two wrong numbers the port is reported. -/
def load (env : Environment) : Except SettingsFault Settings :=
  match portVariable.number portLimit env with
  | .error fault => .error fault
  | .ok port =>
    match delayVariable.number delayLimit env with
    | .error fault => .error fault
    | .ok delay =>
      .ok {
        host := hostVariable.text env
        port := port
        databasePath := databaseVariable.text env
        sessionSecret := secretVariable.text env
        publicDir := publicVariable.text env
        fetchDelay := delay }

end Settings

end ChatBoard
