import ChatBoard.Store.Table

/-!
# Rows

What the board remembers: users, images, channels, messages, and up to which message a user has
read a channel. Users and images are labelled by their names, read marks by user and channel.

Whoever fills a table from outside may put values into columns that are not meant for them. Such a
row is kept with its columns as they are; it takes part in what looks at single columns, and cannot
be read as a whole. Changing the column at fault makes the row readable.
-/

namespace ChatBoard

/-- An account. The password itself is not kept, only the digest of salt and password. -/
structure User where
  name : String
  salt : String
  digest : String
  displayName : String
  avatar : String
  createdAt : String
  deriving DecidableEq, Repr

/-- A stored picture. -/
structure Image where
  name : String
  data : Octets
  deriving DecidableEq, Repr

/-- A channel; two channels may have the same name. -/
structure Channel where
  name : String
  description : String
  updatedAt : String
  createdAt : String
  deriving DecidableEq, Repr

/-- A message. Neither its channel nor its author needs to exist. -/
structure Message where
  channel : Int
  author : Int
  content : String
  createdAt : String
  deriving DecidableEq, Repr

/-- Up to which message id a user has read a channel. -/
structure ReadMark where
  user : Int
  channel : Int
  message : Int
  updatedAt : String
  createdAt : String
  deriving DecidableEq, Repr

/-- A row as a table keeps it: one whose columns all hold what they are meant for, or any other. -/
inductive Stored (α : Type) where
  | sound (row : α)
  | odd (columns : Columns)
  deriving DecidableEq, Repr

namespace Stored

variable {α : Type}

/-- The row, if it can be read. -/
def row? : Stored α → Option α
  | sound row => some row
  | odd _ => none

/-- The row with given columns. -/
def ofColumns (read : Columns → Option α) (cs : Columns) : Stored α :=
  match read cs with
  | some row => sound row
  | none => odd cs

end Stored

/-- The entry with its row, if the row can be read. -/
def Entry.read? {α : Type} (e : Entry (Stored α)) : Option (Entry α) := e.row.row?.map (⟨e.id, ·⟩)

namespace User

/-- The account in columns that hold what they are meant for. -/
def ofColumns? (cs : Columns) : Option User :=
  match cs.get "name", cs.get "salt", cs.get "password", cs.get "display_name",
    cs.get "avatar_icon", cs.get "created_at" with
  | .text name, .text salt, .text digest, .text displayName, .text avatar, .text createdAt =>
    some ⟨name, salt, digest, displayName, avatar, createdAt⟩
  | _, _, _, _, _, _ => none

/-- The label of an account is its name. -/
def label : Stored User → List Datum
  | .sound u => [.text u.name]
  | .odd cs => [cs.get "name"]

/-- The name of an account stands in its column, readable or not. -/
theorem label_ofColumns (cs : Columns) : label (.ofColumns ofColumns? cs) = [cs.get "name"] := by
  unfold Stored.ofColumns
  split
  next u h =>
    unfold ofColumns? at h
    split at h
    next hname _ _ _ _ _ =>
      cases h
      rw [hname]
      rfl
    · cases h
  · rfl

/-- Gives an account a display name. -/
def withDisplayName (displayName : String) : Stored User → Stored User
  | .sound u => .sound { u with displayName := displayName }
  | .odd cs => .ofColumns ofColumns? (cs.set "display_name" (.text displayName))

/-- Gives an account an avatar. -/
def withAvatar (avatar : String) : Stored User → Stored User
  | .sound u => .sound { u with avatar := avatar }
  | .odd cs => .ofColumns ofColumns? (cs.set "avatar_icon" (.text avatar))

/-- A new display name leaves the name alone. -/
@[simp] theorem label_withDisplayName (displayName : String) (u : Stored User) :
    label (withDisplayName displayName u) = label u := by
  cases u with
  | sound u => rfl
  | odd cs =>
    rw [withDisplayName, label_ofColumns, Columns.get_set_of_ne _ _ (by decide)]
    rfl

/-- A new avatar leaves the name alone. -/
@[simp] theorem label_withAvatar (avatar : String) (u : Stored User) :
    label (withAvatar avatar u) = label u := by
  cases u with
  | sound u => rfl
  | odd cs =>
    rw [withAvatar, label_ofColumns, Columns.get_set_of_ne _ _ (by decide)]
    rfl

end User

instance : Labelled (Stored User) := ⟨fun u => some (User.label u)⟩

namespace Image

/-- The picture in columns that hold what they are meant for. A text is as good as its octets. -/
def ofColumns? (cs : Columns) : Option Image :=
  match cs.get "name", cs.get "data" with
  | .text name, .octets data => some ⟨name, data⟩
  | .text name, .text data => some ⟨name, Octets.ofText data⟩
  | _, _ => none

/-- The label of a picture is its name. -/
def label : Stored Image → List Datum
  | .sound i => [.text i.name]
  | .odd cs => [cs.get "name"]

end Image

instance : Labelled (Stored Image) := ⟨fun i => some (Image.label i)⟩

/-- The channel in columns that hold what they are meant for. -/
def Channel.ofColumns? (cs : Columns) : Option Channel :=
  match cs.get "name", cs.get "description", cs.get "updated_at", cs.get "created_at" with
  | .text name, .text description, .text updatedAt, .text createdAt =>
    some ⟨name, description, updatedAt, createdAt⟩
  | _, _, _, _ => none

instance : Labelled (Stored Channel) := ⟨fun _ => none⟩

namespace Message

/-- The message in columns that hold what they are meant for. -/
def ofColumns? (cs : Columns) : Option Message :=
  match cs.get "channel_id", cs.get "user_id", cs.get "content", cs.get "created_at" with
  | .number channel, .number author, .text content, .text createdAt =>
    some ⟨channel, author, content, createdAt⟩
  | _, _, _, _ => none

/-- Whether a message belongs to a channel. -/
def isIn (channel : Int) : Stored Message → Bool
  | .sound m => m.channel == channel
  | .odd cs => cs.get "channel_id" == .number channel

end Message

instance : Labelled (Stored Message) := ⟨fun _ => none⟩

namespace ReadMark

/-- The mark in columns that hold what they are meant for. -/
def ofColumns? (cs : Columns) : Option ReadMark :=
  match cs.get "user_id", cs.get "channel_id", cs.get "message_id", cs.get "updated_at",
    cs.get "created_at" with
  | .number user, .number channel, .number message, .text updatedAt, .text createdAt =>
    some ⟨user, channel, message, updatedAt, createdAt⟩
  | _, _, _, _, _ => none

/-- Whose mark it is, and of which channel. -/
def key : Stored ReadMark → Datum × Datum
  | .sound m => (.number m.user, .number m.channel)
  | .odd cs => (cs.get "user_id", cs.get "channel_id")

/-- User and channel of a mark stand in their columns, readable or not. -/
theorem key_ofColumns (cs : Columns) :
    key (.ofColumns ofColumns? cs) = (cs.get "user_id", cs.get "channel_id") := by
  unfold Stored.ofColumns
  split
  next m h =>
    unfold ofColumns? at h
    split at h
    next huser hchannel _ _ _ =>
      cases h
      rw [huser, hchannel]
      rfl
    · cases h
  · rfl

/-- The mark moved to a message. -/
def movedTo (message : Int) (now : String) : Stored ReadMark → Stored ReadMark
  | .sound m => .sound { m with message := message, updatedAt := now }
  | .odd cs =>
    .ofColumns ofColumns? ((cs.set "message_id" (.number message)).set "updated_at" (.text now))

/-- Moving a mark leaves it with its user and channel. -/
@[simp] theorem key_movedTo (message : Int) (now : String) (m : Stored ReadMark) :
    key (movedTo message now m) = key m := by
  cases m with
  | sound m => rfl
  | odd cs =>
    rw [movedTo, key_ofColumns]
    repeat rw [Columns.get_set_of_ne _ _ (by decide)]
    rfl

end ReadMark

end ChatBoard
