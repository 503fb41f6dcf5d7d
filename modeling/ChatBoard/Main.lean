import ChatBoard.Benchmark.CommandLine
import Std.Time

/-!
# The benchmark program

The runs themselves take place elsewhere, and what each of them has left in its output is one line
of standard input; an empty line is a run that has left nothing. The summary goes to standard
output, a failure to standard error, and the files of the series into the working directory.
-/

namespace ChatBoard.Benchmark

/-- The files before the first run: the program and the directories on the way to it. -/
def stage (program : String) : Files :=
  let fs := (Files.makeWay false .here (Files.parts program).dropLast .empty).2
  match fs.locate program with
  | .error _ => fs
  | .ok l => fs.put l (.file [] true)

/-- The machine: it gives all the octets that an address can tell apart, and programs are looked for
where the stage has them. -/
def host : Machine := ⟨0x7fffffffffff, some ""⟩

/-- The status that a shell tells of a program that has been aborted. -/
def abortedStatus : Nat := 134

/-- What a run has left, from its line. -/
def Performance.ofLine (line : String) : Performance :=
  match line.toList.takeWhile (· != '\n') with
  | [] => .idle
  | cs => ⟨some (Octets.ofText (String.ofList cs)), 0⟩

/-- What at most so many runs have left. -/
def readRuns (input : IO.FS.Stream) : Nat → IO (List Performance)
  | 0 => return []
  | left + 1 => do
    let line ← input.getLine
    if line.isEmpty then return []
    return .ofLine line :: (← readRuns input left)

/-- The local date and time. -/
def now : IO Moment := do
  let t ← Std.Time.PlainDateTime.now
  return ⟨t.year.toInt, t.month.toNat, t.day.toNat, t.hour.toNat, t.minute.toNat, t.second.toNat⟩

/-- The path of a location. -/
def pathOf (l : Location) : String := "/".intercalate l.names.reverse

/-- Keeps the files that a series has left. -/
def keep (fs : Files) : IO Unit :=
  fs.nodes.reverse.forM fun
    | (l, .directory) => IO.FS.createDirAll (pathOf l)
    | (l, .file data false) => IO.FS.writeBinFile (pathOf l) (ByteArray.mk data.toArray)
    | (_, .file _ true) => return ()

end ChatBoard.Benchmark

open ChatBoard Benchmark in
/-- The benchmark program: reads the runs that its arguments ask for, and concludes. -/
def main (args : List String) : IO UInt32 := do
  let (program, runs) := match Invocation.ofArguments args with
    | .ok i => (i.bench, i.runs)
    | .error _ => ("", 0)
  let plays ← readRuns (← IO.getStdin) runs
  let (outcome, w) := run args (← now) ⟨host, stage program, plays, []⟩
  outcome.lines.forM fun line => IO.println line
  outcome.failure.forM fun message => IO.eprintln message
  keep w.files
  return UInt32.ofNat (outcome.status.getD abortedStatus)
