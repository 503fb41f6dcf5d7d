import ChatBoard.Board.View
import ChatBoard.Proofs.Store.Messages

/-!
# Messages as clients see them

`Shows es ms` relates entries of the store to messages as clients receive them, leaving the author
aside, who may change between two answers: the same ids, dates and contents in the same order. What
is read from entries and shown oldest first shows those entries, the last one first
(`shows_chronological`).
-/

namespace ChatBoard

/-- What a client sees of a message besides its author: id, date and content. -/
def PostedMessage.plain (m : PostedMessage) : Int × String × String := (m.id, m.date, m.content)

/-- What clients see of a stored message besides its author, if it can be read. -/
def plain? (e : Entry (Stored Message)) : Option (Int × String × String) :=
  e.row.row?.map fun m => (e.id, displayDate m.createdAt, m.content)

/-- The messages that a client receives show these entries, one by one. -/
def Shows (es : List (Entry (Stored Message))) (ms : List PostedMessage) : Prop :=
  es.map plain? = ms.map fun m => some m.plain

namespace Shows

/-- No messages show no entries. -/
theorem nil : Shows [] [] := rfl

/-- Lists shown one after the other. -/
theorem append {es es' : List (Entry (Stored Message))} {ms ms' : List PostedMessage}
    (h : Shows es ms) (h' : Shows es' ms') : Shows (es ++ es') (ms ++ ms') := by
  unfold Shows at h h' ⊢
  rw [List.map_append, List.map_append, h, h']

/-- What is shown has the ids of the entries. -/
theorem ids {es : List (Entry (Stored Message))} {ms : List PostedMessage} (h : Shows es ms) :
    ms.map (·.id) = es.map (·.id) := by
  have hread : es.map plain? = (ms.map PostedMessage.plain).map some := by
    rw [List.map_map]
    exact h
  have hfirst : es.map (·.id) = (ms.map PostedMessage.plain).map (·.1) := by
    refine map_eq_of_read (fun e p hplain => ?_) hread
    obtain ⟨m, -, rfl⟩ := Option.map_eq_some_iff.1 hplain
    rfl
  rw [hfirst, List.map_map]
  rfl

end Shows

/-- A message read with its author shows its entry. -/
theorem plain?_of_authored {users : Table (Stored User)} {e : Entry (Stored Message)}
    {m : AuthoredMessage} (h : Store.authored? users e = some m) :
    plain? e = some m.posted.plain := by
  obtain ⟨hid, hrow, -⟩ := Store.authored?_some h
  unfold plain?
  rw [hrow, ← hid]
  rfl

/-- Messages read with their authors and shown oldest first show their entries, the last one
first. -/
theorem shows_chronological {users : Table (Stored User)} {es : List (Entry (Stored Message))}
    {ms : List AuthoredMessage} (h : es.map (Store.authored? users) = ms.map some) :
    Shows es.reverse (chronological ms) := by
  have hplain : es.map plain? = ms.map fun m => some m.posted.plain :=
    map_eq_of_read (fun _ _ => plain?_of_authored) h
  unfold Shows chronological
  rw [List.map_reverse, hplain, List.map_map, List.map_reverse]
  rfl

end ChatBoard
