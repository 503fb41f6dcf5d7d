import ChatBoard.Proofs.Json.Written
import ChatBoard.Wire

/-!
# Records on the wire tolerate other layouts

Each of the records that clients and the server exchange has a schema, and what is written for it is
one of the texts of it (`Schema.Written`). So it is read back from every text that the written one
can be laid out as, with members that are not known anywhere among those that are, and a record in
which a field is missing or comes again is a mismatch (`wire_tolerates`). Only the numbers have a
range.
-/

namespace ChatBoard

open Json

/-- Integers of the signed 64-bit range. -/
def Json.Schema.int64 : Schema Int :=
  .integer (-0x8000000000000000) 0x7fffffffffffffff (by decide) (by decide)

/-- Integers of the unsigned 64-bit range. -/
def Json.Schema.uint64 : Schema Int := .integer 0 0xffffffffffffffff (by decide) (by decide)

/-- An integer is of the signed 64-bit range. -/
def IsInt64 (i : Int) : Prop := -0x8000000000000000 ≤ i ∧ i ≤ 0x7fffffffffffffff

/-- An integer is of the unsigned 64-bit range. -/
def IsUInt64 (i : Int) : Prop := 0 ≤ i ∧ i ≤ 0xffffffffffffffff

/-- What is written for an integer of the signed 64-bit range. -/
def Json.Schema.Written.int64 {i : Int} (h : IsInt64 i) : Written int64 i := .integer _ _ h

/-- What is written for an integer of the unsigned 64-bit range. -/
def Json.Schema.Written.uint64 {i : Int} (h : IsUInt64 i) : Written uint64 i := .integer _ _ h

/-! ## Users -/

namespace PublicUser

/-- The user of three texts. -/
def ofTexts? : List String → Option PublicUser
  | [name, displayName, avatar] => some ⟨name, displayName, avatar⟩
  | _ => none

/-- The schema of the fields of a user. -/
def record : Schema (List String) :=
  .record [⟨"name", .text⟩, ⟨"display_name", .text⟩, ⟨"avatar_icon", .text⟩] (by decide)

/-- A user is what three texts are read as. -/
theorem read_eq (bs : Octets) : read bs = Schema.readVia record.read ofTexts? bs := by
  refine Schema.bind_eq_readVia (fun texts rest => ?_) bs
  rcases texts with _ | ⟨a, _ | ⟨b, _ | ⟨c, _ | ⟨d, texts⟩⟩⟩⟩ <;> rfl

/-- The schema of a user. -/
def schema : Schema PublicUser := record.via ofTexts? read read_eq

/-- What is written for the fields of a user. -/
def writtenRecord (u : PublicUser) : record.Written [u.name, u.displayName, u.avatar] :=
  .record [⟨⟨"name", .text⟩, u.name, .text u.name⟩,
    ⟨⟨"display_name", .text⟩, u.displayName, .text u.displayName⟩,
    ⟨⟨"avatar_icon", .text⟩, u.avatar, .text u.avatar⟩] _

/-- What is written for a user. -/
def written (u : PublicUser) : schema.Written u := u.writtenRecord.via ofTexts? rfl read_eq

end PublicUser

/-! ## Cells -/

namespace Cell

/-- A number in a cell is what a number is read as. -/
theorem readNumber_eq (bs : Octets) :
    readNumber bs = Schema.readVia Schema.int64.read (fun i => some (number i)) bs :=
  Schema.bind_eq_readVia (fun _ _ => rfl) bs

/-- A text in a cell is what a text is read as. -/
theorem readText_eq (bs : Octets) :
    readText bs = Schema.readVia Schema.text.read (fun s => some (text s)) bs :=
  Schema.bind_eq_readVia (fun _ _ => rfl) bs

/-- A user in a cell is what a user is read as. -/
theorem readUser_eq (bs : Octets) :
    readUser bs = Schema.readVia PublicUser.schema.read (fun u => some (user u)) bs :=
  Schema.bind_eq_readVia (fun _ _ => rfl) bs

/-- A field with a number. -/
def numberField (name : String) : Json.Field Cell :=
  ⟨name, Schema.int64.via (fun i => some (number i)) readNumber readNumber_eq⟩

/-- A field with a text. -/
def textField (name : String) : Json.Field Cell :=
  ⟨name, Schema.text.via (fun s => some (text s)) readText readText_eq⟩

/-- A field with a user. -/
def userField (name : String) : Json.Field Cell :=
  ⟨name, PublicUser.schema.via (fun u => some (user u)) readUser readUser_eq⟩

/-- A field with a number, filled. -/
def filledNumber (name : String) {i : Int} (h : IsInt64 i) : Filled Cell :=
  ⟨numberField name, number i,
    (Schema.Written.int64 h).via (fun i => some (number i)) rfl readNumber_eq⟩

/-- A field with a text, filled. -/
def filledText (name s : String) : Filled Cell :=
  ⟨textField name, text s, (Schema.Written.text s).via (fun s => some (text s)) rfl readText_eq⟩

/-- A field with a user, filled. -/
def filledUser (name : String) (u : PublicUser) : Filled Cell :=
  ⟨userField name, user u, u.written.via (fun u => some (user u)) rfl readUser_eq⟩

end Cell

/-! ## Channels -/

namespace ChannelInfo

/-- The channel of a number and two texts. -/
def ofCells? : List Cell → Option ChannelInfo
  | [.number id, .text name, .text description] => some ⟨id, name, description⟩
  | _ => none

/-- The schema of the fields of a channel. -/
def record : Schema (List Cell) :=
  .record [Cell.numberField "id", Cell.textField "name", Cell.textField "description"] (by decide)

/-- A channel is what three cells are read as. -/
theorem read_eq (bs : Octets) : read bs = Schema.readVia record.read ofCells? bs := by
  refine Schema.bind_eq_readVia (fun cells rest => ?_) bs
  fun_cases ofCells? cells
  · rfl
  next hother =>
    split
    next heq =>
      cases heq
      exact (hother _ _ _ rfl).elim
    · rfl

/-- The schema of a channel. -/
def schema : Schema ChannelInfo := record.via ofCells? read read_eq

/-- What is written for a channel whose number is in range. -/
def written (c : ChannelInfo) (h : IsInt64 c.id) : schema.Written c :=
  Schema.Written.via (k := record)
    (.record [Cell.filledNumber "id" h, Cell.filledText "name" c.name,
      Cell.filledText "description" c.description] _) ofCells? rfl read_eq

end ChannelInfo

/-! ## Messages -/

namespace PostedMessage

/-- The message of a number, a user and two texts. -/
def ofCells? : List Cell → Option PostedMessage
  | [.number id, .user user, .text date, .text content] => some ⟨id, user, date, content⟩
  | _ => none

/-- The schema of the fields of a message. -/
def record : Schema (List Cell) :=
  .record [Cell.numberField "id", Cell.userField "user", Cell.textField "date",
    Cell.textField "content"] (by decide)

/-- A message is what four cells are read as. -/
theorem read_eq (bs : Octets) : read bs = Schema.readVia record.read ofCells? bs := by
  refine Schema.bind_eq_readVia (fun cells rest => ?_) bs
  fun_cases ofCells? cells
  · rfl
  next hother =>
    split
    next heq =>
      cases heq
      exact (hother _ _ _ _ rfl).elim
    · rfl

/-- The schema of a message. -/
def schema : Schema PostedMessage := record.via ofCells? read read_eq

/-- What is written for a message whose number is in range. -/
def written (m : PostedMessage) (h : IsInt64 m.id) : schema.Written m :=
  Schema.Written.via (k := record)
    (.record [Cell.filledNumber "id" h, Cell.filledUser "user" m.user,
      Cell.filledText "date" m.date, Cell.filledText "content" m.content] _) ofCells? rfl read_eq

end PostedMessage

/-! ## Counts -/

namespace UnreadCount

/-- The count of two numbers. -/
def ofNumbers? : List Int → Option UnreadCount
  | [channelId, unread] => some ⟨channelId, unread⟩
  | _ => none

/-- The schema of the fields of a count. -/
def record : Schema (List Int) := .record [⟨"channel_id", .int64⟩, ⟨"unread", .int64⟩] (by decide)

/-- A count is what two numbers are read as. -/
theorem read_eq (bs : Octets) : read bs = Schema.readVia record.read ofNumbers? bs := by
  refine Schema.bind_eq_readVia (fun numbers rest => ?_) bs
  rcases numbers with _ | ⟨a, _ | ⟨b, _ | ⟨c, numbers⟩⟩⟩ <;> rfl

/-- The schema of a count. -/
def schema : Schema UnreadCount := record.via ofNumbers? read read_eq

/-- What is written for a count whose numbers are in range. -/
def written (c : UnreadCount) (h : IsInt64 c.channelId) (h' : IsInt64 c.unread) :
    schema.Written c :=
  Schema.Written.via (k := record)
    (.record [⟨⟨"channel_id", .int64⟩, c.channelId, .int64 h⟩,
      ⟨⟨"unread", .int64⟩, c.unread, .int64 h'⟩] _) ofNumbers? rfl read_eq

end UnreadCount

/-! ## Claims -/

namespace SessionClaims

/-- The claims of two numbers. -/
def ofNumbers? : List Int → Option SessionClaims
  | [sub, exp] => some ⟨sub, exp⟩
  | _ => none

/-- The schema of the fields of claims. -/
def record : Schema (List Int) := .record [⟨"sub", .int64⟩, ⟨"exp", .uint64⟩] (by decide)

/-- Claims are what two numbers are read as. -/
theorem read_eq (bs : Octets) : read bs = Schema.readVia record.read ofNumbers? bs := by
  refine Schema.bind_eq_readVia (fun numbers rest => ?_) bs
  rcases numbers with _ | ⟨a, _ | ⟨b, _ | ⟨c, numbers⟩⟩⟩ <;> rfl

/-- The schema of claims. -/
def schema : Schema SessionClaims := record.via ofNumbers? read read_eq

/-- What is written for claims whose numbers are in range. -/
def written (c : SessionClaims) (h : IsInt64 c.sub) (h' : IsUInt64 c.exp) : schema.Written c :=
  Schema.Written.via (k := record)
    (.record [⟨⟨"sub", .int64⟩, c.sub, .int64 h⟩, ⟨⟨"exp", .uint64⟩, c.exp, .uint64 h'⟩] _)
    ofNumbers? rfl read_eq

end SessionClaims

/-! ## All of them -/

/-- The records on the wire are read back, however they are laid out, unless a field is missing or
comes again. -/
theorem wire_tolerates :
    SessionClaims.schema.Tolerates SessionClaims.read SessionClaims.write
        (fun c => IsInt64 c.sub ∧ IsUInt64 c.exp)
      ∧ PostedMessage.schema.Tolerates PostedMessage.read PostedMessage.write
        (fun m => IsInt64 m.id)
      ∧ UnreadCount.schema.Tolerates UnreadCount.read UnreadCount.write
        (fun c => IsInt64 c.channelId ∧ IsInt64 c.unread)
      ∧ PublicUser.schema.Tolerates PublicUser.read PublicUser.write (fun _ => True)
      ∧ ChannelInfo.schema.Tolerates ChannelInfo.read ChannelInfo.write
        (fun c => IsInt64 c.id) := by
  refine ⟨?_, ?_, ?_, ?_, ?_⟩
  · exact Schema.tolerates_of_written fun c h => ⟨c.written h.1 h.2, rfl⟩
  · exact Schema.tolerates_of_written fun m h => ⟨m.written h, rfl⟩
  · exact Schema.tolerates_of_written fun c h => ⟨c.written h.1 h.2, rfl⟩
  · exact Schema.tolerates_of_written fun u _ => ⟨u.written, rfl⟩
  · exact Schema.tolerates_of_written fun c h => ⟨c.written h, rfl⟩

/-- Blanks, other members, another order and an escape in a name make no difference. -/
example : readAll UnreadCount.read
      (Octets.ofText " \x7b \"unread\": 3, \"x\": [\x7b\x7d, [1e9]], \"ch\\u0061nnel_id\" :-5\x7d")
    = .ok ⟨-5, 3⟩ := rfl

end ChatBoard
