import ChatBoard.Store.Accounts
import ChatBoard.Wire

/-!
# Channels and messages

Channels are listed by id. Messages are read newest first, each with what its author shows of
himself now; an author whose account is gone is shown as unknown, with the default avatar.
-/

namespace ChatBoard

/-- A stored message with the public fields of its author. -/
structure AuthoredMessage where
  id : Int
  message : Message
  author : PublicUser
  deriving DecidableEq, Repr

namespace Store

/-- All channels by id. -/
def allChannels (s : Store) : Except StoreFault (List (Entry Channel)) :=
  match s.channels with
  | none => .error (.missing .channels)
  | some t => readAll .channels t.entries.reverse

/-- All channels by id, and the description of one of them, empty if there is no such channel. -/
def listChannels (focus : Option Int) (s : Store) :
    Except StoreFault (List (Entry Channel) × String) :=
  match s.allChannels with
  | .error fault => .error fault
  | .ok cs =>
    match cs.find? fun c => some c.id == focus with
    | some c => .ok (cs, c.row.description)
    | none => .ok (cs, "")

/-- Makes a channel and gives its id. -/
def createChannel (now name description : String) (s : Store) : Except StoreFault (Int × Store) :=
  match s.channels with
  | none => .error (.missing .channels)
  | some t =>
    match t.append (.sound ⟨name, description, now, now⟩) with
    | .ok (id, t) => .ok (id, { s with channels := some t })
    | .error cause => .error (.refused cause)

/-- Stores a message and gives its id. -/
def insertMessage (now : String) (channel author : Int) (content : String) (s : Store) :
    Except StoreFault (Int × Store) :=
  match s.messages with
  | none => .error (.missing .messages)
  | some t =>
    match t.append (.sound ⟨channel, author, content, now⟩) with
    | .ok (id, t) => .ok (id, { s with messages := some t })
    | .error cause => .error (.refused cause)

/-- What stands for an author whose account is gone. -/
def unknownAuthor : PublicUser := ⟨"unknown", "unknown", DefaultAvatar.name⟩

/-- What others may see of an account. -/
def publicUser (u : User) : PublicUser := ⟨u.name, u.displayName, u.avatar⟩

/-- What others may see of a stored account, if the columns for it can be read. -/
def publicUser? : Stored User → Option PublicUser
  | .sound u => some (publicUser u)
  | .odd cs =>
    match cs.get "name", cs.get "display_name", cs.get "avatar_icon" with
    | .text name, .text displayName, .text avatar => some ⟨name, displayName, avatar⟩
    | _, _, _ => none

/-- The public fields of the account with an id. -/
def authorOf (users : Table (Stored User)) (id : Int) : Option PublicUser :=
  match users.get? id with
  | some u => publicUser? u
  | none => some unknownAuthor

/-- A message joined with its author, if both can be read. -/
def authored? (users : Table (Stored User)) (e : Entry (Stored Message)) :
    Option AuthoredMessage :=
  match e.row with
  | .sound m => (authorOf users m.author).map (⟨e.id, m, ·⟩)
  | .odd _ => none

/-- Messages joined with their authors. -/
def allAuthored (users : Table (Stored User)) (es : List (Entry (Stored Message))) :
    Except StoreFault (List AuthoredMessage) :=
  match es.mapM (authored? users) with
  | some ms => .ok ms
  | none => .error (.unreadable .messages)

/-- The first elements of a list up to a limit; a negative limit is none. -/
def atMost {α : Type} (limit : Int) (xs : List α) : List α :=
  if limit < 0 then xs else xs.take limit.toNat

/-- The newest messages of a channel with ids above `after`, newest first, up to a limit. -/
def messagesAfter (channel after limit : Int) (s : Store) :
    Except StoreFault (List AuthoredMessage) :=
  match s.messages, s.users with
  | none, _ => .error (.missing .messages)
  | some _, none => .error (.missing .users)
  | some t, some users =>
    -- Entries stand newest first, so a limit keeps the newest.
    let newer := t.entries.filter fun e => decide (after < e.id) && Message.isIn channel e.row
    allAuthored users (atMost limit newer)

/-- A page of a channel's messages, newest first. A negative offset counts as none. -/
def messagesPage (channel limit offset : Int) (s : Store) :
    Except StoreFault (List AuthoredMessage) :=
  match s.messages, s.users with
  | none, _ => .error (.missing .messages)
  | some _, none => .error (.missing .users)
  | some t, some users =>
    let all := t.entries.filter fun e => Message.isIn channel e.row
    allAuthored users (atMost limit (all.drop offset.toNat))

/-- The number of a channel's messages. -/
def countMessages (channel : Int) (s : Store) : Except StoreFault Nat :=
  match s.messages with
  | none => .error (.missing .messages)
  | some t => .ok (t.entries.countP fun e => Message.isIn channel e.row)

end Store

end ChatBoard
