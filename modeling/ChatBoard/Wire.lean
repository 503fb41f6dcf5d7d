import ChatBoard.Json.Record

/-!
# Records on the wire

The records that clients and the server exchange as JSON. Each has its fields in the order of
declaration, a reader and a written form, which is compact.
-/

namespace ChatBoard

open Json

/-- The fields of a user that other users may see. -/
structure PublicUser where
  name : String
  displayName : String
  avatar : String
  deriving DecidableEq, Repr

namespace PublicUser

/-- The fields, all texts. -/
def fields : List (Member String) :=
  [⟨"name", readText⟩, ⟨"display_name", readText⟩, ⟨"avatar_icon", readText⟩]

/-- Reads a user. -/
def read : Reader PublicUser := fun bs => do
  match ← readRecord fields bs with
  | ([name, displayName, avatar], rest) => pure (⟨name, displayName, avatar⟩, rest)
  | _ => .error .mismatch

/-- The written form of a user. -/
def write (u : PublicUser) : Octets :=
  writeObject [("name", writeText u.name), ("display_name", writeText u.displayName),
    ("avatar_icon", writeText u.avatar)]

end PublicUser

/-- The value of a field in a record with fields of several kinds. -/
inductive Cell where
  | number (value : Int)
  | text (value : String)
  | user (value : PublicUser)
  deriving DecidableEq, Repr

namespace Cell

/-- Reads a number of the signed 64-bit range. -/
def readNumber : Reader Cell := fun bs => do
  let (i, rest) ← readInt64 bs
  pure (.number i, rest)

/-- Reads a text. -/
def readText : Reader Cell := fun bs => do
  let (s, rest) ← Json.readText bs
  pure (.text s, rest)

/-- Reads a user. -/
def readUser : Reader Cell := fun bs => do
  let (u, rest) ← PublicUser.read bs
  pure (.user u, rest)

end Cell

/-- A channel as every page lists it. -/
structure ChannelInfo where
  id : Int
  name : String
  description : String
  deriving DecidableEq, Repr

namespace ChannelInfo

/-- The fields: a number and two texts. -/
def fields : List (Member Cell) :=
  [⟨"id", Cell.readNumber⟩, ⟨"name", Cell.readText⟩, ⟨"description", Cell.readText⟩]

/-- Reads a channel. -/
def read : Reader ChannelInfo := fun bs => do
  match ← readRecord fields bs with
  | ([.number id, .text name, .text description], rest) => pure (⟨id, name, description⟩, rest)
  | _ => .error .mismatch

/-- The written form of a channel. -/
def write (c : ChannelInfo) : Octets :=
  writeObject [("id", writeInt c.id), ("name", writeText c.name),
    ("description", writeText c.description)]

end ChannelInfo

/-- A message as clients receive it. -/
structure PostedMessage where
  id : Int
  user : PublicUser
  date : String
  content : String
  deriving DecidableEq, Repr

namespace PostedMessage

/-- The fields: a number, the author and two texts. -/
def fields : List (Member Cell) :=
  [⟨"id", Cell.readNumber⟩, ⟨"user", Cell.readUser⟩, ⟨"date", Cell.readText⟩,
    ⟨"content", Cell.readText⟩]

/-- Reads a message. -/
def read : Reader PostedMessage := fun bs => do
  match ← readRecord fields bs with
  | ([.number id, .user user, .text date, .text content], rest) =>
    pure (⟨id, user, date, content⟩, rest)
  | _ => .error .mismatch

/-- The written form of a message. -/
def write (m : PostedMessage) : Octets :=
  writeObject [("id", writeInt m.id), ("user", m.user.write), ("date", writeText m.date),
    ("content", writeText m.content)]

end PostedMessage

/-- How many messages of a channel a user has not read. -/
structure UnreadCount where
  channelId : Int
  unread : Int
  deriving DecidableEq, Repr

namespace UnreadCount

/-- The fields, both numbers. -/
def fields : List (Member Int) := [⟨"channel_id", readInt64⟩, ⟨"unread", readInt64⟩]

/-- Reads a count. -/
def read : Reader UnreadCount := fun bs => do
  match ← readRecord fields bs with
  | ([channelId, unread], rest) => pure (⟨channelId, unread⟩, rest)
  | _ => .error .mismatch

/-- The written form of a count. -/
def write (c : UnreadCount) : Octets :=
  writeObject [("channel_id", writeInt c.channelId), ("unread", writeInt c.unread)]

end UnreadCount

/-- What a session token states: whose session it is and when it ends, in seconds. -/
structure SessionClaims where
  sub : Int
  exp : Int
  deriving DecidableEq, Repr

namespace SessionClaims

/-- The fields: a signed and an unsigned number. -/
def fields : List (Member Int) := [⟨"sub", readInt64⟩, ⟨"exp", readUInt64⟩]

/-- Reads claims. -/
def read : Reader SessionClaims := fun bs => do
  match ← readRecord fields bs with
  | ([sub, exp], rest) => pure (⟨sub, exp⟩, rest)
  | _ => .error .mismatch

/-- The written form of claims. -/
def write (c : SessionClaims) : Octets :=
  writeObject [("sub", writeInt c.sub), ("exp", writeInt c.exp)]

end SessionClaims

end ChatBoard
