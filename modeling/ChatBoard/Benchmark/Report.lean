import ChatBoard.Benchmark.Statistics
import ChatBoard.Calendar
import ChatBoard.Files

/-!
# Reports

What is kept of a benchmark: the scores in the order of the runs, numbered from 1, and their
summary. A report is shown line by line, and saved as one line of JSON under a name that tells when
it was made and the whole part of the mean.
-/

namespace ChatBoard.Benchmark

/-- The scores of all runs and their summary. -/
structure Report where
  scores : List Double
  summary : Summary

/-- Why a report is not saved. -/
inductive SaveFault where
  | directory (path : String) (cause : FileFault)
  | file (path : String) (cause : FileFault)
  deriving DecidableEq, Repr

namespace SaveFault

/-- The wording of a fault. -/
def message : SaveFault → String
  | directory path _ => "Failed to create " ++ path
  | file path _ => "Failed to write " ++ path

/-- What the operating system says. -/
def cause : SaveFault → FileFault
  | directory _ cause => cause
  | file _ cause => cause

end SaveFault

namespace Report

/-- The report on scores, of which there must be one. -/
def ofScores? (scores : List Double) : Option Report :=
  (Summary.ofScores? scores).map fun s => ⟨scores, s⟩

/-- Scores with their numbers, from `n` on. -/
def numbered (n : Nat) : List Double → List (String × Octets)
  | [] => []
  | x :: rest => (Numeral.ofNat n, Json.writeDouble x) :: numbered (n + 1) rest

/-- The written form of a report. -/
def write (r : Report) : Octets :=
  Json.writeObject (("results", Json.writeObject (numbered 1 r.scores)) :: r.summary.members)

/-- The lines about the runs, from run `n` on. -/
def runLines (n : Nat) : List Double → List String
  | [] => []
  | x :: rest =>
    ("run " ++ Numeral.ofNat n ++ ": score " ++ x.written .terminal) :: runLines (n + 1) rest

/-- The lines that a report is shown as. -/
def lines (r : Report) : List String :=
  runLines 1 r.scores
    ++ ["mean:   " ++ r.summary.mean.written .terminal,
      "median: " ++ r.summary.median.written .terminal,
      "min:    " ++ r.summary.least.written .terminal,
      "max:    " ++ r.summary.greatest.written .terminal]

/-- The name of the file for a report made at a moment. -/
def fileName (r : Report) (moment : Moment) : String :=
  Numeral.padded 2 moment.month ++ Numeral.padded 2 moment.day ++ Numeral.padded 2 moment.hour
    ++ Numeral.padded 2 moment.minute ++ ".json_" ++ Numeral.ofInt r.summary.mean.truncated

/-- Saves a report in a directory, which is made if it is not there, and gives its path. -/
def save (r : Report) (directory : String) (moment : Moment) (fs : Files) :
    Except SaveFault String × Files :=
  match fs.makeDirectories directory with
  | (.error cause, fs) => (.error (.directory directory cause), fs)
  | (.ok (), fs) =>
    let path := Files.join directory (r.fileName moment)
    match fs.write path (r.write ++ [0x0a]) with
    | .error cause => (.error (.file path cause), fs)
    | .ok fs => (.ok path, fs)

end Report

end ChatBoard.Benchmark
