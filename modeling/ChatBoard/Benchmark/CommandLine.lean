import ChatBoard.Benchmark.Report
import ChatBoard.Benchmark.Runner

/-!
# The benchmark's command line

The arguments are read from the left: the number of runs, and options with their values as the next
argument or after an equals sign. What can be wrong with them is not told apart. The outcome of the
program is its exit status, the lines it prints, and the message with which it fails.
-/

namespace ChatBoard.Benchmark

/-- What the program is asked to do. -/
structure Invocation where
  runs : Nat
  bench : String
  remotes : String
  output : String
  resultDir : String
  save : Bool
  deriving DecidableEq, Repr

/-- What the arguments have given so far. -/
structure Arguments where
  runs : Option Nat
  bench : Option String
  remotes : Option String
  output : Option String
  resultDir : Option String
  noSave : Bool

/-- Why there is nothing to do. -/
inductive Usage where
  | help
  | wrong
  deriving DecidableEq, Repr

/-- The options that take a value. -/
inductive ValueOption where
  | bench
  | remotes
  | output
  | resultDir
  deriving DecidableEq, Repr

namespace ValueOption

/-- The option with a name. -/
def ofName? (name : String) : Option ValueOption :=
  if name = "bench" then some .bench
  else if name = "remotes" then some .remotes
  else if name = "output" then some .output
  else if name = "result-dir" then some .resultDir
  else none

/-- Whether a value will do; a path must not be empty. -/
def accepts (o : ValueOption) (value : String) : Bool := o == .remotes || !value.isEmpty

/-- What has been given for an option. -/
def given (o : ValueOption) (a : Arguments) : Option String :=
  match o with
  | .bench => a.bench
  | .remotes => a.remotes
  | .output => a.output
  | .resultDir => a.resultDir

/-- Gives an option its value. -/
def give (o : ValueOption) (value : String) (a : Arguments) : Arguments :=
  match o with
  | .bench => { a with bench := some value }
  | .remotes => { a with remotes := some value }
  | .output => { a with output := some value }
  | .resultDir => { a with resultDir := some value }

end ValueOption

namespace Arguments

/-- No arguments. -/
def blank : Arguments := ⟨none, none, none, none, none, false⟩

/-- The greatest number of runs. -/
def runLimit : Nat := 0xffffffffffffffff

/-- Takes the number of runs, which is given once. -/
def takeRuns (a : Arguments) (value : String) : Except Usage Arguments :=
  if a.runs.isSome then .error .wrong
  else
    match Numeral.readNat runLimit value with
    | .ok n => .ok { a with runs := some n }
    | .error _ => .error .wrong

/-- Takes the value of an option, which is given once. -/
def takeValue (a : Arguments) (o : ValueOption) (value : String) : Except Usage Arguments :=
  if (o.given a).isSome || !o.accepts value then .error .wrong else .ok (o.give value a)

/-- Takes the wish not to save, which is expressed once. -/
def takeNoSave (a : Arguments) : Except Usage Arguments :=
  if a.noSave then .error .wrong else .ok { a with noSave := true }

/-- Whether an argument is a value: it does not begin with a hyphen, or is nothing else. -/
def isValue (arg : String) : Bool := !arg.startsWith "-" || arg == "-"

/-- Takes arguments after the mark that ends the options. -/
def takePlain (a : Arguments) : List String → Except Usage Arguments
  | [] => .ok a
  | arg :: rest =>
    match a.takeRuns arg with
    | .error u => .error u
    | .ok a => takePlain a rest

/-- What an argument is. -/
inductive Form where
  /-- The end of the options. -/
  | mark
  | help
  | noSave
  /-- An option whose value is the next argument. -/
  | option (o : ValueOption)
  /-- An option with its value. -/
  | assigned (o : ValueOption) (value : String)
  | plain
  | unknown

/-- What an argument that begins with two hyphens is; they have been taken off. -/
def longForm (body : List Char) : Form :=
  let name := String.ofList (body.takeWhile (· != '='))
  match body.dropWhile (· != '=') with
  | [] =>
    if name = "" then .mark
    else if name = "help" then .help
    else if name = "no-save" then .noSave
    else
      match ValueOption.ofName? name with
      | some o => .option o
      | none => .unknown
  | _ :: value =>
    match ValueOption.ofName? name with
    | some o => .assigned o (String.ofList value)
    | none => .unknown

/-- What an argument is. An argument with one hyphen can only ask for help, and it is its first
letter that does. -/
def form (arg : String) : Form :=
  match arg.toList with
  | '-' :: '-' :: body => longForm body
  | '-' :: 'h' :: _ => .help
  | ['-'] => .plain
  | '-' :: _ => .unknown
  | _ => .plain

/-- Takes arguments from the left; `wanted` is the option that waits for its value. -/
def take (a : Arguments) (wanted : Option ValueOption) : List String → Except Usage Arguments
  | [] => if wanted.isSome then .error .wrong else .ok a
  | arg :: rest =>
    match wanted with
    | some o =>
      -- The value of the option that has come before.
      if isValue arg then
        match a.takeValue o arg with
        | .error u => .error u
        | .ok a => take a none rest
      else .error .wrong
    | none =>
      match form arg with
      | .mark => a.takePlain rest
      | .help => .error .help
      | .noSave =>
        match a.takeNoSave with
        | .error u => .error u
        | .ok a => take a none rest
      | .option o => take a (some o) rest
      | .assigned o value =>
        match a.takeValue o value with
        | .error u => .error u
        | .ok a => take a none rest
      | .plain =>
        match a.takeRuns arg with
        | .error u => .error u
        | .ok a => take a none rest
      | .unknown => .error .wrong

end Arguments

/-- What arguments ask for. What is not given has a default, except for the number of runs. -/
def Invocation.ofArguments (args : List String) : Except Usage Invocation :=
  match Arguments.blank.take none args with
  | .error u => .error u
  | .ok a =>
    match a.runs with
    | none => .error .wrong
    | some runs =>
      .ok ⟨runs, a.bench.getD "bin/bench", a.remotes.getD "127.0.0.1",
        a.output.getD "result.json", a.resultDir.getD "result", !a.noSave⟩

/-- How the program ends: its exit status, which it has unless it is aborted, the lines it has
printed, and why it failed. -/
structure Outcome where
  status : Option Nat
  lines : List String
  failure : Option String
  deriving DecidableEq, Repr

/-- The outcome of a failure. -/
def Outcome.failed (lines : List String) (message : String) : Outcome :=
  ⟨some 1, lines, some ("Error: " ++ message)⟩

/-- The outcome when there is no room for the scores of all the runs. -/
def Outcome.brokenDown : RoomFault → Outcome
  | .overflow => ⟨some 101, [], none⟩
  | .refused _ => ⟨none, [], none⟩

/-- Shows a report, and saves it if that is wished. -/
def conclude (i : Invocation) (moment : Moment) (r : Report) (w : World) : Outcome × World :=
  if i.save then
    match r.save i.resultDir moment w.files with
    | (.error fault, fs) => (.failed r.lines fault.message, { w with files := fs })
    | (.ok _, fs) => (⟨some 0, r.lines, none⟩, { w with files := fs })
  else (⟨some 0, r.lines, none⟩, w)

/-- Carries out what the program is asked to do. -/
def carryOut (i : Invocation) (moment : Moment) (w : World) : Outcome × World :=
  match runAll (Command.make i.bench i.remotes i.output) i.runs w with
  | (.error (.noRoom cause), w) => (.brokenDown cause, w)
  | (.error fault, w) => (.failed [] fault.message, w)
  | (.ok scores, w) =>
    match Report.ofScores? scores with
    | none => (.failed [] "no scores to summarise", w)
    | some r => conclude i moment r w

/-- The program: help and a bad command line end it at once. -/
def run (args : List String) (moment : Moment) (w : World) : Outcome × World :=
  match Invocation.ofArguments args with
  | .error .help => (⟨some 0, [], none⟩, w)
  | .error .wrong => (⟨some 2, [], none⟩, w)
  | .ok i => carryOut i moment w

end ChatBoard.Benchmark
