import ChatBoard.Store.DefaultAvatar
import ChatBoard.Store.ReadMarks

/-!
# The store

The store holds five tables, each of which may be missing. A change either succeeds with a new
store or fails with a cause; changes carried out in turn stop at the first that fails, and those
before it stay. Opening a store makes the missing tables and puts back the first channel and the
default avatar where their places are free.
-/

namespace ChatBoard

/-- The tables of a store. -/
inductive TableName where
  | users
  | images
  | channels
  | messages
  | marks
  deriving DecidableEq, Repr

/-- Why a change or a question fails. -/
inductive StoreFault where
  | missing (table : TableName)
  | refused (cause : TableFault)
  | column (name : String)
  | unreadable (table : TableName)
  deriving DecidableEq, Repr

/-- Everything the board remembers. -/
structure Store where
  users : Option (Table (Stored User))
  images : Option (Table (Stored Image))
  channels : Option (Table (Stored Channel))
  messages : Option (Table (Stored Message))
  marks : Option ReadMarks

namespace Store

/-- A store without tables. -/
def bare : Store := ⟨none, none, none, none, none⟩

/-- Carries out changes one after the other. The first that fails ends the series, and the changes
before it stay. -/
def inTurn : List (Store → Except StoreFault Store) → Store → Except StoreFault Unit × Store
  | [], s => (.ok (), s)
  | change :: rest, s =>
    match change s with
    | .ok s => inTurn rest s
    | .error fault => (.error fault, s)

/-- The channel that is always there. -/
def firstChannel (now : String) : Channel := ⟨"general", "Everyone starts here", now, now⟩

/-- Opens a store: missing tables are made, and channel 1 and image 1 are added where they can
be. -/
def opened (now : String) (s : Store) : Store where
  users := some (s.users.getD .empty)
  images := some ((s.images.getD .empty).placeNew 1
    (.sound ⟨DefaultAvatar.name, DefaultAvatar.data⟩))
  channels := some ((s.channels.getD .empty).placeNew 1 (.sound (firstChannel now)))
  messages := some (s.messages.getD .empty)
  marks := some (s.marks.getD .empty)

/-- A store opened for the first time. -/
def fresh (now : String) : Store := bare.opened now

/-- Removes a table with all its rows and its counter. -/
def drop (table : TableName) (s : Store) : Except StoreFault Store :=
  match table, s with
  | .users, ⟨some _, i, c, m, r⟩ => .ok ⟨none, i, c, m, r⟩
  | .images, ⟨u, some _, c, m, r⟩ => .ok ⟨u, none, c, m, r⟩
  | .channels, ⟨u, i, some _, m, r⟩ => .ok ⟨u, i, none, m, r⟩
  | .messages, ⟨u, i, c, some _, r⟩ => .ok ⟨u, i, c, none, r⟩
  | .marks, ⟨u, i, c, m, some _⟩ => .ok ⟨u, i, c, m, none⟩
  | table, _ => .error (.missing table)

/-- Keeps the users whose ids satisfy a test. -/
def keepUsers (p : Int → Bool) (s : Store) : Except StoreFault Store :=
  match s.users with
  | some t => .ok { s with users := some (t.keep p) }
  | none => .error (.missing .users)

/-- Keeps the images whose ids satisfy a test. -/
def keepImages (p : Int → Bool) (s : Store) : Except StoreFault Store :=
  match s.images with
  | some t => .ok { s with images := some (t.keep p) }
  | none => .error (.missing .images)

/-- Keeps the channels whose ids satisfy a test. -/
def keepChannels (p : Int → Bool) (s : Store) : Except StoreFault Store :=
  match s.channels with
  | some t => .ok { s with channels := some (t.keep p) }
  | none => .error (.missing .channels)

/-- Keeps the messages whose ids satisfy a test. -/
def keepMessages (p : Int → Bool) (s : Store) : Except StoreFault Store :=
  match s.messages with
  | some t => .ok { s with messages := some (t.keep p) }
  | none => .error (.missing .messages)

/-- Removes all read marks. -/
def clearMarks (s : Store) : Except StoreFault Store :=
  match s.marks with
  | some _ => .ok { s with marks := some .empty }
  | none => .error (.missing .marks)

/-- Removes the row with an id, if there is one. Marks have no ids. -/
def delete (table : TableName) (id : Int) (s : Store) : Except StoreFault Store :=
  match table with
  | .users => s.keepUsers (· != id)
  | .images => s.keepImages (· != id)
  | .channels => s.keepChannels (· != id)
  | .messages => s.keepMessages (· != id)
  | .marks => .error (.column "id")

/-- The largest ids of the rows that a reset keeps. -/
structure Baseline where
  users : Int
  images : Int
  channels : Int
  messages : Int

/-- The rows up to these ids belong to the initial data. -/
def baseline : Baseline := ⟨1000, 1001, 10, 10000⟩

/-- Removes everything above the baseline, and all read marks. -/
def reset (s : Store) : Except StoreFault Unit × Store :=
  inTurn [keepUsers (· ≤ baseline.users), keepImages (· ≤ baseline.images),
    keepChannels (· ≤ baseline.channels), keepMessages (· ≤ baseline.messages), clearMarks] s

end Store

end ChatBoard
