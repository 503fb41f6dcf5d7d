import ChatBoard.Server.Settings
import ChatBoard.Text.Alphanumeric
import ChatBoard.Text.Blank

/-!
# Environment files

A file can set variables that the environment leaves unset, one assignment per line. A line may end
in a comment; a value may be quoted, and a quote that is still open carries the line on to the next
one. Outside of single quotes a dollar sign puts in the value of the variable whose name follows, in
letters and digits of any script or between braces. The file is read up to the first line that is
wrong, and what was set before it stays set.
-/

namespace ChatBoard.EnvFile

/-! ## Lines -/

/-- Where a line stands after some of its characters. -/
inductive LineState where
  | complete
  | blank
  | escape
  | strong
  | strongEscape
  | weak
  | weakEscape
  deriving DecidableEq, Repr

/-- The state after a character that stands outside of quotes. -/
def LineState.outside (c : Char) : LineState :=
  if c = '\\' then .escape else if c = '"' then .weak else if c = '\'' then .strong else .complete

/-- The state after one more character. -/
def LineState.next (st : LineState) (c : Char) : LineState :=
  match st with
  | .complete =>
    if Text.isBlank c && c != '\n' && c != '\r' then .blank else .outside c
  | .blank => .outside c
  | .escape => .complete
  | .strong => if c = '\\' then .strongEscape else if c = '\'' then .complete else .strong
  | .strongEscape => .strong
  | .weak => if c = '\\' then .weakEscape else if c = '"' then .complete else .weak
  | .weakEscape => .weak

/-- The state at the end of a line's characters, or those before a comment that follows a blank. -/
def scan (st : LineState) (passed : List Char) : List Char → LineState ⊕ List Char
  | [] => .inl st
  | c :: rest =>
    if st = .blank ∧ c = '#' then .inr passed.reverse else scan (st.next c) (c :: passed) rest

/-- A line without its end. -/
def withoutEnd (cs : List Char) : List Char :=
  match cs.reverse with
  | '\n' :: '\r' :: before => before.reverse
  | '\n' :: before => before.reverse
  | _ => cs

/-- Joins lines of the file that belong together; none stands for the place where the file cannot
be read on. `held` is what an unfinished line holds. -/
def joinLines (st : LineState) (held : List Char) :
    List (Option (List Char)) → List (Option (List Char))
  | [] => if st = .complete then [] else [none]
  | none :: _ => [none]
  | some line :: rest =>
    if (Text.skipBlanks (held ++ line)).head? = some '#' then
      some [] :: joinLines .complete [] rest
    else
      match scan st [] line with
      -- A comment after a blank ends the line.
      | .inr before => some (held ++ before) :: joinLines .complete [] rest
      | .inl .complete => some (withoutEnd (held ++ line)) :: joinLines .complete [] rest
      | .inl st => joinLines st (held ++ line) rest

/-- Cuts octets after each line feed. -/
def cutLines (done : Octets) : Octets → List Octets
  | [] => if done.isEmpty then [] else [done.reverse]
  | b :: rest =>
    if b = 0x0a then (b :: done).reverse :: cutLines [] rest else cutLines (b :: done) rest

/-- A byte order mark at the start counts for nothing. -/
def withoutMark : Octets → Octets
  | 0xef :: 0xbb :: 0xbf :: rest => rest
  | bs => bs

/-- The lines of a file. -/
def lines (file : Octets) : List (Option (List Char)) :=
  joinLines .complete []
    ((cutLines [] (withoutMark file)).map fun l => (Octets.toText? l).map String.toList)

/-! ## Values -/

/-- The quotes around a place in a value. -/
inductive Quote where
  | none
  | strong
  | weak
  deriving DecidableEq, Repr

/-- What a character of a value is part of; names are kept newest character first. -/
inductive Phase where
  | text
  | escaped
  /-- Only blanks and a comment may follow. -/
  | ending
  | name (reversed : List Char)
  | braced (reversed : List Char)

/-- What an escaped character stands for. -/
def escaped? (c : Char) : Option Char :=
  if c = '\\' ∨ c = '\'' ∨ c = '"' ∨ c = '$' ∨ c = ' ' then some c
  else if c = 'n' then some '\n'
  else none

/-- The state after a character of plain text in a value, with what it adds. -/
def afterText (q : Quote) (c : Char) : Quote × Phase × List Char :=
  if c = '$' then (q, .name [], [])
  else if q = .weak then
    if c = '"' then (.none, .text, []) else if c = '\\' then (q, .escaped, []) else (q, .text, [c])
  else if c = '\'' then (.strong, .text, [])
  else if c = '"' then (.weak, .text, [])
  else if c = '\\' then (q, .escaped, [])
  else if c = ' ' ∨ c = '\t' then (q, .ending, [])
  else (q, .text, [c])

/-- Reads a value; `out` is what has been read, newest first, and `value` gives the values of
variables. -/
def readValue (value : String → String) (q : Quote) (phase : Phase) (out : List Char) :
    List Char → Option (List Char)
  | [] =>
    match phase with
    | .braced _ => none
    | .name n =>
      if q = .none then
        some (out.reverse ++ (value (String.ofList n.reverse)).toList)
      else none
    | _ => if q = .none then some out.reverse else none
  | c :: rest =>
    match phase with
    | .ending =>
      if c = ' ' ∨ c = '\t' then readValue value q .ending out rest
      else if c = '#' then some out.reverse
      else none
    | .escaped =>
      match escaped? c with
      | some d => readValue value q .text (d :: out) rest
      | none => none
    | .text =>
      if q = .strong then
        if c = '\'' then readValue value .none .text out rest
        else readValue value q .text (c :: out) rest
      else
        let (q, phase, added) := afterText q c
        readValue value q phase (added ++ out) rest
    | .name n =>
      if Text.isAlphanumeric c then readValue value q (.name (c :: n)) out rest
      else if c = '\x7b' ∧ n = [] then readValue value q (.braced []) out rest
      else
        -- The name ends here: its value goes in, and the character stands for itself.
        let out := (value (String.ofList n.reverse)).toList.reverse ++ out
        if c = '$' then readValue value q (.name []) out rest
        else readValue value q .text (c :: out) rest
    | .braced n =>
      if c = '\x7d' then
        readValue value q .text ((value (String.ofList n.reverse)).toList.reverse ++ out) rest
      else readValue value q (.braced (c :: n)) out rest

/-! ## Assignments -/

/-- A first character of a variable's name. -/
def isKeyStart (c : Char) : Bool := c.isAlpha || c == '_'

/-- A character of a variable's name. -/
def isKeyChar (c : Char) : Bool := c.isAlphanum || c == '_' || c == '.'

/-- Reads a variable's name and the blanks after it. -/
def readKey (cs : List Char) : Option (List Char × List Char) :=
  match cs with
  | [] => none
  | c :: _ =>
    if isKeyStart c then
      some (cs.takeWhile isKeyChar, Text.skipBlanks (cs.dropWhile isKeyChar))
    else none

/-- Reads a name and the equals sign after it. The word `export` may come first. -/
def readTarget (cs : List Char) : Option (List Char × List Char) :=
  match readKey cs with
  | none => none
  | some (key, '=' :: rest) => some (key, rest)
  | some (key, rest) =>
    if key = "export".toList then
      match readKey rest with
      | some (key, '=' :: rest) => some (key, rest)
      | _ => none
    else none

/-- What a line says. -/
inductive Line where
  | nothing
  | assignment (key value : String)
  | wrong

/-- Reads a line. -/
def readLine (value : String → String) (line : List Char) : Line :=
  let cs := Text.skipBlanks (Text.dropTrailingBlanks line)
  if cs = [] ∨ cs.head? = some '#' then .nothing
  else
    match readTarget cs with
    | none => .wrong
    | some (key, rest) =>
      let cs := Text.skipBlanks rest
      if cs = [] ∨ cs.head? = some '#' then .assignment (String.ofList key) ""
      else
        match readValue value .none .text [] cs with
        | none => .wrong
        | some v => .assignment (String.ofList key) (String.ofList v)

/-- The value of a variable: that of the environment, or the one that the file has given before. -/
def valueOf (env : Environment) (given : List (String × String)) (key : String) : String :=
  match env.text? key with
  | some v => v
  | none => (given.lookup key).getD ""

/-- Carries out lines; `given` is what the file has said before. -/
def runLines (env : Environment) (given : List (String × String)) :
    List (Option (List Char)) → Environment
  | [] => env
  | none :: _ => env
  | some line :: rest =>
    match readLine (valueOf env given) line with
    | .nothing => runLines env given rest
    | .wrong => env
    | .assignment key value =>
      let env' := if (env.text? key).isSome then env else env.set key value
      runLines env' ((key, value) :: given) rest

/-- The environment after a file. -/
def apply (file : Octets) (env : Environment) : Environment := runLines env [] (lines file)

end ChatBoard.EnvFile
