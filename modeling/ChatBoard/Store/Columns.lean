import ChatBoard.Store.Basic

/-!
# Rows from columns

A row can be added from outside, column by column. A table declares its columns: what each is meant
for, and what it holds when it is left out. Names of columns are compared without case, no column
may be given that the table does not have, none may end up without a value, and of two values for
one column the first counts. The id is a column as well, with several names; it must be a number,
and left out it is the next one.
-/

namespace ChatBoard

/-- What a column is meant for. -/
inductive ColumnKind where
  | number
  | text
  | octets
  deriving DecidableEq, Repr

/-- A value in a column of a kind. -/
def ColumnKind.fit : ColumnKind → Datum → Datum
  | number, d => d.asNumber
  | text, d => d.asText
  | octets, d => d

/-- A declared column; one that keeps a time may be left out. -/
structure Column where
  name : String
  kind : ColumnKind
  isTime : Bool
  deriving DecidableEq, Repr

namespace Column

/-- A column for a number. -/
def ofNumber (name : String) : Column := ⟨name, .number, false⟩

/-- A column for a text. -/
def ofText (name : String) : Column := ⟨name, .text, false⟩

/-- A column for octets. -/
def ofOctets (name : String) : Column := ⟨name, .octets, false⟩

/-- A column for a time, which is the present one unless another is given. -/
def ofTime (name : String) : Column := ⟨name, .text, true⟩

end Column

/-- The columns of a table besides its id. -/
def TableName.columns : TableName → List Column
  | users => [.ofText "name", .ofText "salt", .ofText "password", .ofText "display_name",
      .ofText "avatar_icon", .ofTime "created_at"]
  | images => [.ofText "name", .ofOctets "data"]
  | channels => [.ofText "name", .ofText "description", .ofTime "updated_at",
      .ofTime "created_at"]
  | messages => [.ofNumber "channel_id", .ofNumber "user_id", .ofText "content",
      .ofTime "created_at"]
  | marks => [.ofNumber "user_id", .ofNumber "channel_id", .ofNumber "message_id",
      .ofTime "updated_at", .ofTime "created_at"]

/-- The names of the id of a table. That of a mark has no name of its own. -/
def TableName.idNames : TableName → List String
  | marks => ["rowid", "oid", "_rowid_"]
  | _ => ["id", "rowid", "oid", "_rowid_"]

namespace Columns

/-- A name in lowercase letters. -/
def folded (name : String) : String := String.ofList (name.toList.map Char.toLower)

/-- The values that are given for one of some names, in order. -/
def given (cs : Columns) (names : List String) : List Datum :=
  (cs.filter fun c => names.contains (folded c.1)).map (·.2)

/-- Fails if a column is not among those a table has. -/
def check (table : TableName) (cs : Columns) : Except StoreFault Unit :=
  let known := table.idNames ++ table.columns.map (·.name)
  match cs.find? fun c => !known.contains (folded c.1) with
  | some c => .error (.column c.1)
  | none => .ok ()

/-- The value of a declared column. -/
def valueOf (now : String) (cs : Columns) (c : Column) : Except StoreFault (String × Datum) :=
  let value :=
    match cs.given [c.name] with
    | d :: _ => c.kind.fit d
    | [] => if c.isTime then .text now else .null
  if value = .null then .error (.column c.name) else .ok (c.name, value)

/-- All columns of a row. -/
def fitted (now : String) (table : TableName) (cs : Columns) : Except StoreFault Columns := do
  check table cs
  table.columns.mapM (valueOf now cs)

/-- The id that columns ask for, if they do. Of several values the last one counts. -/
def id? (table : TableName) (cs : Columns) : Except StoreFault (Option Int) :=
  match (cs.given table.idNames).getLast? with
  | none => .ok none
  | some d =>
    match d.asNumber with
    | .null => .ok none
    | .number id => .ok (some id)
    | _ => .error (.column "id")

/-- Adds a row to a table. -/
def addTo {α : Type} [Labelled (Stored α)] (now : String) (table : TableName)
    (read : Columns → Option α) (cs : Columns) (t : Table (Stored α)) :
    Except StoreFault (Table (Stored α)) := do
  let row := Stored.ofColumns read (← cs.fitted now table)
  match ← cs.id? table with
  | none => ((t.append row).map (·.2)).mapError .refused
  | some id => (t.place id row).mapError .refused

/-- Adds a mark, unless its user and channel have one or its id is taken. -/
def addMark (now : String) (cs : Columns) (ms : ReadMarks) : Except StoreFault ReadMarks := do
  let m := Stored.ofColumns ReadMark.ofColumns? (← cs.fitted now .marks)
  let id := (← cs.id? .marks).getD ms.nextId
  if h : ReadMark.key m ∈ ms.keys then .error (.refused .taken)
  else if id ∈ ms.ids then .error (.refused .taken)
  else return ms.add id m h

end Columns

namespace Store

/-- Adds a row to a table. -/
def seed (now : String) (table : TableName) (cs : Columns) (s : Store) : Except StoreFault Store :=
  match table with
  | .users =>
    match s.users with
    | none => .error (.missing table)
    | some t =>
      (cs.addTo now table User.ofColumns? t).map fun t => { s with users := some t }
  | .images =>
    match s.images with
    | none => .error (.missing table)
    | some t =>
      (cs.addTo now table Image.ofColumns? t).map fun t => { s with images := some t }
  | .channels =>
    match s.channels with
    | none => .error (.missing table)
    | some t =>
      (cs.addTo now table Channel.ofColumns? t).map fun t => { s with channels := some t }
  | .messages =>
    match s.messages with
    | none => .error (.missing table)
    | some t =>
      (cs.addTo now table Message.ofColumns? t).map fun t => { s with messages := some t }
  | .marks =>
    match s.marks with
    | none => .error (.missing table)
    | some ms => (cs.addMark now ms).map fun ms => { s with marks := some ms }

end Store

end ChatBoard
