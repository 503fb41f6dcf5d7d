import ChatBoard.Proofs.Json.Record
import ChatBoard.Wire

/-!
# Reading back what is sent

The messages that an answer to a poll lists are read back from it, each with its author, as long as
their ids are in the signed 64-bit range (`PostedMessage.readAll_write`).
-/

namespace ChatBoard

open Json

/-- What others may see of a user is read back. -/
theorem PublicUser.readsBack (u : PublicUser) : ReadsBack PublicUser.read u u.write := by
  intro tail _
  have hfields : readRecord PublicUser.fields (u.write ++ tail)
      = .ok ([u.name, u.displayName, u.avatar], tail) :=
    WrittenField.readRecord_written
      [⟨⟨"name", readText⟩, u.name, _, readsBack_text u.name⟩,
        ⟨⟨"display_name", readText⟩, u.displayName, _, readsBack_text u.displayName⟩,
        ⟨⟨"avatar_icon", readText⟩, u.avatar, _, readsBack_text u.avatar⟩] (by simp) tail
  unfold PublicUser.read
  rw [hfields]
  rfl

namespace Cell

/-- A number in a cell is read back. -/
theorem readsBack_number {i : Int} (hleast : -0x8000000000000000 ≤ i)
    (hgreatest : i ≤ 0x7fffffffffffffff) : ReadsBack Cell.readNumber (.number i) (writeInt i) := by
  intro tail htail
  unfold Cell.readNumber
  rw [readsBack_int64 hleast hgreatest tail htail]
  rfl

/-- A text in a cell is read back. -/
theorem readsBack_text (s : String) : ReadsBack Cell.readText (.text s) (writeText s) := by
  intro tail htail
  unfold Cell.readText
  rw [Json.readsBack_text s tail htail]
  rfl

/-- A user in a cell is read back. -/
theorem readsBack_user (u : PublicUser) : ReadsBack Cell.readUser (.user u) u.write := by
  intro tail htail
  unfold Cell.readUser
  rw [u.readsBack tail htail]
  rfl

end Cell

namespace PostedMessage

/-- A message is read back. -/
theorem readsBack (m : PostedMessage) (hleast : -0x8000000000000000 ≤ m.id)
    (hgreatest : m.id ≤ 0x7fffffffffffffff) : ReadsBack PostedMessage.read m m.write := by
  intro tail _
  have hfields : readRecord PostedMessage.fields (m.write ++ tail)
      = .ok ([.number m.id, .user m.user, .text m.date, .text m.content], tail) :=
    WrittenField.readRecord_written
      [⟨⟨"id", Cell.readNumber⟩, .number m.id, _, Cell.readsBack_number hleast hgreatest⟩,
        ⟨⟨"user", Cell.readUser⟩, .user m.user, _, Cell.readsBack_user m.user⟩,
        ⟨⟨"date", Cell.readText⟩, .text m.date, _, Cell.readsBack_text m.date⟩,
        ⟨⟨"content", Cell.readText⟩, .text m.content, _, Cell.readsBack_text m.content⟩]
      (by simp) tail
  unfold PostedMessage.read
  rw [hfields]
  rfl

/-- A list of messages is read back. -/
theorem readAll_write {ms : List PostedMessage}
    (hrange : ∀ m ∈ ms, -0x8000000000000000 ≤ m.id ∧ m.id ≤ 0x7fffffffffffffff) :
    readAll (readList PostedMessage.read) (writeList (ms.map PostedMessage.write)) = .ok ms :=
  readAll_list (fun m hm => m.readsBack (hrange m hm).1 (hrange m hm).2)
    fun _ _ => ⟨0x7b, _, rfl, rfl, by decide⟩

end PostedMessage

end ChatBoard
