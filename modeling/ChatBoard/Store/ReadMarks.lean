import ChatBoard.Store.Rows

/-!
# Read marks

The marks that say up to which message users have read channels. A user has at most one mark per
channel; setting it again moves it and keeps the time it was first set. Marks have ids too, which
nobody asks for: a new one comes after the largest.
-/

namespace ChatBoard

/-- Marks of different users or of different channels. -/
structure ReadMarks where
  marks : List (Entry (Stored ReadMark))
  apart : (marks.map fun e => ReadMark.key e.row).Nodup

namespace ReadMarks

/-- No marks. -/
def empty : ReadMarks := ⟨[], .nil⟩

instance : Inhabited ReadMarks := ⟨empty⟩

/-- Users and channels that have marks. -/
def keys (ms : ReadMarks) : List (Datum × Datum) := ms.marks.map fun e => ReadMark.key e.row

instance (key : Datum × Datum) (ms : ReadMarks) : Decidable (key ∈ ms.keys) := inferInstance

/-- A user's mark of a channel. -/
def get? (ms : ReadMarks) (user channel : Int) : Option (Stored ReadMark) :=
  (ms.marks.find? fun e => ReadMark.key e.row == (.number user, .number channel)).map (·.row)

/-- The ids of the marks. -/
def ids (ms : ReadMarks) : List Int := ms.marks.map (·.id)

/-- The first number from `n` on that is not in a list; the list's length bounds the steps. -/
def firstUnused (ids : List Int) : Nat → Int → Int
  | 0, n => n
  | steps + 1, n => if n ∈ ids then firstUnused ids steps (n + 1) else n

/-- The id of a new mark: the one after the largest, or any other once the ids are used up. -/
def nextId (ms : ReadMarks) : Int :=
  match ms.ids.max? with
  | none => 1
  | some largest =>
    if largest < largestId then largest + 1 else firstUnused ms.ids ms.ids.length 1

/-- Adds a mark for a user and a channel that have none. -/
def add (ms : ReadMarks) (id : Int) (m : Stored ReadMark) (new : ReadMark.key m ∉ ms.keys) :
    ReadMarks where
  marks := ⟨id, m⟩ :: ms.marks
  apart := List.nodup_cons.2 ⟨new, ms.apart⟩

/-- The mark moved to a message, if it is that of a given user and channel. -/
def moved (key : Datum × Datum) (message : Int) (now : String) (e : Entry (Stored ReadMark)) :
    Entry (Stored ReadMark) :=
  if ReadMark.key e.row = key then ⟨e.id, ReadMark.movedTo message now e.row⟩ else e

/-- Moving a mark leaves it with its user and channel. -/
@[simp] theorem key_moved (key : Datum × Datum) (message : Int) (now : String)
    (e : Entry (Stored ReadMark)) :
    ReadMark.key (moved key message now e).row = ReadMark.key e.row := by
  unfold moved
  split
  · exact ReadMark.key_movedTo ..
  · rfl

/-- Moves the mark of a user and a channel to a message. -/
def move (ms : ReadMarks) (key : Datum × Datum) (message : Int) (now : String) : ReadMarks where
  marks := ms.marks.map (moved key message now)
  apart := by
    have : (fun e : Entry (Stored ReadMark) => ReadMark.key e.row) ∘ moved key message now
        = fun e => ReadMark.key e.row := by
      funext e
      exact key_moved ..
    rw [List.map_map, this]
    exact ms.apart

/-- Sets the mark of a user and a channel, which may be their first. -/
def set (ms : ReadMarks) (user channel message : Int) (now : String) : ReadMarks :=
  let m : Stored ReadMark := .sound ⟨user, channel, message, now, now⟩
  if h : ReadMark.key m ∈ ms.keys then ms.move (ReadMark.key m) message now
  else ms.add ms.nextId m h

end ReadMarks

end ChatBoard
