import ChatBoard.Store.Messages

/-!
# Unread messages

A read mark says up to which message a user has read a channel. What lies above it is unread, and
without a mark everything is.
-/

namespace ChatBoard.Store

/-- Sets a user's mark of a channel. -/
def markRead (now : String) (user channel message : Int) (s : Store) : Except StoreFault Store :=
  match s.marks with
  | none => .error (.missing .marks)
  | some ms => .ok { s with marks := some (ms.set user channel message now) }

/-- A user's mark of a channel. -/
def readMark (user channel : Int) (s : Store) : Except StoreFault (Option ReadMark) :=
  match s.marks with
  | none => .error (.missing .marks)
  | some ms =>
    match ms.get? user channel with
    | none => .ok none
    | some (.sound m) => .ok (some m)
    | some (.odd _) => .error (.unreadable .marks)

/-- The number of a channel's messages with ids above `after`. -/
def countAfter (channel after : Int) (s : Store) : Except StoreFault Nat :=
  match s.messages with
  | none => .error (.missing .messages)
  | some t => .ok (t.entries.countP fun e => decide (after < e.id) && Message.isIn channel e.row)

/-- The number of a channel's messages that a user has not read. -/
def unreadIn (user channel : Int) (s : Store) : Except StoreFault Nat :=
  match s.readMark user channel with
  | .error fault => .error fault
  | .ok (some m) => s.countAfter channel m.message
  | .ok none => s.countMessages channel

/-- The unread messages of each channel given. -/
def unreadInEach (user : Int) (s : Store) : List Int → Except StoreFault (List UnreadCount)
  | [] => .ok []
  | c :: rest =>
    match s.unreadIn user c with
    | .error fault => .error fault
    | .ok n => (unreadInEach user s rest).map (⟨c, n⟩ :: ·)

/-- For every channel by id, how many of its messages a user has not read. Nothing of a channel but
its id is looked at. -/
def unreadCounts (user : Int) (s : Store) : Except StoreFault (List UnreadCount) :=
  match s.channels with
  | none => .error (.missing .channels)
  | some t => unreadInEach user s (t.entries.reverse.map (·.id))

end ChatBoard.Store
