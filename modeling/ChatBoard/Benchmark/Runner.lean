import ChatBoard.Files
import ChatBoard.Json.Record

/-!
# Running a benchmark

A benchmark program is started several times, one after the other. Each run is scored by the file
that the program leaves behind; the file of an earlier run is removed first, and how the program
exits does not matter. The first run that cannot be scored ends the series.

Two things are up to the machine: whether there is memory for the scores, which is asked for before
the first run, and where a program is looked for whose name has no solidus.
-/

namespace ChatBoard.Benchmark

/-- How a benchmark program is started and where it leaves its result. -/
structure Command where
  program : String
  arguments : List String
  output : String
  deriving DecidableEq, Repr

/-- The command that runs a program against hosts. -/
def Command.make (program remotes output : String) : Command :=
  ⟨program, ["-remotes=" ++ remotes, "-output", output], output⟩

/-- What a program does in one run: what it writes to its output, if anything, and how it exits. -/
structure Performance where
  written : Option Octets
  status : Int
  deriving DecidableEq, Repr

/-- What a machine has for a program. -/
structure Machine where
  /-- The most octets of memory that it gives at once. -/
  memory : Nat
  /-- The directories where programs are looked for by their names alone, with colons between them;
  there may be none set. -/
  searchPath : Option String
  deriving DecidableEq, Repr

/-- The machine, its files, what the program will do in its next runs, and the arguments of the runs
it has been started for, newest first. -/
structure World where
  machine : Machine
  files : Files
  upcoming : List Performance
  calls : List (List String)

/-- What a program does in a run for which nothing is set. -/
def Performance.idle : Performance := ⟨none, 0⟩

/-- The files after a program has written what it writes; it writes nothing where it cannot. -/
def Performance.apply (p : Performance) (output : String) (fs : Files) : Files :=
  match p.written with
  | none => fs
  | some data =>
    match fs.write output data with
    | .ok fs => fs
    | .error _ => fs

/-- Why a program is not started. -/
inductive StartFault where
  | nul
  | argumentTooLong
  | program (fault : FileFault)
  deriving DecidableEq, Repr

/-- The wording of a fault. -/
def StartFault.message : StartFault → String
  | nul => "nul byte found in provided data"
  | argumentTooLong => "Argument list too long (os error 7)"
  | program fault => fault.message

/-- Why a run has no score. -/
inductive RunFault where
  | notStarted (program : String) (cause : StartFault)
  | unreadable (path : String) (cause : FileFault)
  | malformed (path : String) (problem : Json.Problem)
  deriving DecidableEq, Repr

/-- The wording of a fault. -/
def RunFault.message : RunFault → String
  | notStarted program _ => "Failed to start " ++ program
  | unreadable path _ => "Failed to read benchmark result " ++ path
  | malformed path _ => "Malformed benchmark result " ++ path

/-- Why there is no room for the scores of a series. -/
inductive RoomFault where
  /-- They have more octets than can be asked for. -/
  | overflow
  /-- The machine does not give so many octets. -/
  | refused (octets : Nat)
  deriving DecidableEq, Repr

/-- The wording of a fault. -/
def RoomFault.message : RoomFault → String
  | overflow => "capacity overflow"
  | refused octets => "memory allocation of " ++ Numeral.ofNat octets ++ " bytes failed"

/-- Why a series of runs fails. -/
inductive SeriesFault where
  | noRuns
  /-- There is no room for the scores, and the program breaks down. -/
  | noRoom (cause : RoomFault)
  | notCleared (path : String) (cause : FileFault)
  | run (number : Nat) (fault : RunFault)
  deriving DecidableEq, Repr

/-- The wording of a fault. -/
def SeriesFault.message : SeriesFault → String
  | noRuns => "At least one run is required"
  | noRoom cause => cause.message
  | notCleared path _ => "Failed to clear " ++ path
  | run number _ => "Benchmark run " ++ Numeral.ofNat number ++ " failed"

/-- What lies at the bottom of a failure: the operating system or the text of a result. -/
inductive RootCause where
  | start (fault : StartFault)
  | files (fault : FileFault)
  | json (problem : Json.Problem)
  deriving DecidableEq, Repr

/-- What lies at the bottom of a run's failure. -/
def RunFault.root : RunFault → RootCause
  | notStarted _ cause => .start cause
  | unreadable _ cause => .files cause
  | malformed _ problem => .json problem

/-- The score in the text of a result. -/
def readScoreText (bs : Octets) : Except Json.Problem Double :=
  match Json.readAll (Json.readRecord [⟨"score", Json.readDouble⟩]) bs with
  | .error p => .error p
  | .ok [x] => .ok x
  | .ok _ => .error .mismatch

/-- The score in the file of a result. -/
def readScore (path : String) (fs : Files) : Except RunFault Double :=
  match fs.read path with
  | .error cause => .error (.unreadable path cause)
  | .ok bs => (readScoreText bs).mapError (.malformed path)

/-- The most octets that an argument may have. -/
def argumentLimit : Nat := 131071

/-- Where programs are looked for if the machine does not say. -/
def defaultSearchPath : String := "/bin:/usr/bin"

/-- The paths at which a program is looked for, one after the other. A name with a solidus is a path
itself. Any other name is looked for in each directory of the search path, where an empty entry
stands for the directory in which the program runs. -/
def Machine.candidates (m : Machine) (name : String) : List String :=
  if name.toList.contains '/' then [name]
  else if name.isEmpty then []
  else
    ((m.searchPath.getD defaultSearchPath).toList.splitOn ':').map fun entry =>
      if entry.isEmpty then name else String.ofList entry ++ "/" ++ name

/-- Whether a program can be started that is at a path. The path and the arguments must not be too
long, and they are looked at first. -/
def Command.startableAt (c : Command) (fs : Files) (path : String) : Except StartFault Unit :=
  if path.utf8ByteSize > Files.pathLimit then .error (.program .nameTooLong)
  else if (c.program :: c.arguments).any fun w => w.utf8ByteSize > argumentLimit then
    .error .argumentTooLong
  else (fs.findProgram path).mapError .program

/-- After some faults a program is looked for at the next path. -/
def StartFault.isPassedOver : StartFault → Bool
  | program .notFound | program .permission | program .notADirectory => true
  | _ => false

/-- Whether a program can be started that is at one of some paths. If it is at none of them, the
fault at the last one is told, unless permission was missing at one of them. -/
def Command.startableAmong (c : Command) (fs : Files) (told : StartFault) :
    List String → Except StartFault Unit
  | [] => .error told
  | path :: rest =>
    match c.startableAt fs path with
    | .ok () => .ok ()
    | .error cause =>
      if cause.isPassedOver then
        c.startableAmong fs (if told = .program .permission then told else cause) rest
      else .error cause

/-- Whether a program can be started with its arguments. -/
def Command.startable (c : Command) (m : Machine) (fs : Files) : Except StartFault Unit :=
  if (c.program :: c.arguments).any fun w => w.toList.contains '\x00' then .error .nul
  else if !c.program.toList.contains '/' && c.program.utf8ByteSize > Files.nameLimit then
    .error (.program .nameTooLong)
  else c.startableAmong fs (.program .notFound) (m.candidates c.program)

/-- Starts a program that is there: it does what is next. -/
def World.start (w : World) (c : Command) : World where
  machine := w.machine
  files := (w.upcoming.headD .idle).apply c.output w.files
  upcoming := w.upcoming.tail
  calls := c.arguments :: w.calls

/-- Runs a benchmark once. -/
def runOnce (c : Command) (w : World) : Except RunFault Double × World :=
  match c.startable w.machine w.files with
  | .error cause => (.error (.notStarted c.program cause), w)
  | .ok () => (readScore c.output (w.start c).files, w.start c)

/-- Removes what an earlier run has left; nothing will do. -/
def clear (path : String) (fs : Files) : Except FileFault Files :=
  match fs.remove path with
  | .error .notFound => .ok fs
  | other => other

/-- Runs a benchmark from run `number` on, as many times as are left. -/
def runFrom (c : Command) (number : Nat) : Nat → World → Except SeriesFault (List Double) × World
  | 0, w => (.ok [], w)
  | left + 1, w =>
    match clear c.output w.files with
    | .error cause => (.error (.notCleared c.output cause), w)
    | .ok fs =>
      match runOnce c { w with files := fs } with
      | (.error fault, w) => (.error (.run number fault), w)
      | (.ok score, w) =>
        match runFrom c (number + 1) left w with
        | (.error fault, w) => (.error fault, w)
        | (.ok scores, w) => (.ok (score :: scores), w)

/-- The octets that a score takes. -/
def scoreSize : Nat := 8

/-- The most scores that room can be asked for. -/
def scoreLimit : Nat := 0xfffffffffffffff

/-- Why a machine has no room for scores, if it has none. -/
def Machine.roomFault? (m : Machine) (scores : Nat) : Option RoomFault :=
  if scores > scoreLimit then some .overflow
  else if scores * scoreSize > m.memory then some (.refused (scores * scoreSize))
  else none

/-- Runs a benchmark several times and gives the scores in order. The room for them is made
first. -/
def runAll (c : Command) (runs : Nat) (w : World) : Except SeriesFault (List Double) × World :=
  if runs = 0 then (.error .noRuns, w)
  else
    match w.machine.roomFault? runs with
    | some cause => (.error (.noRoom cause), w)
    | none => runFrom c 1 runs w

end ChatBoard.Benchmark
