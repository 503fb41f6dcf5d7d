import ChatBoard.Proofs.Store.Messages

/-!
# Counting unread messages

In a sound store every id is positive, so a user without a mark of a channel is as well off as with
one at 0: `Store.readUpTo` is the mark, or 0. The unread messages of a channel are then those with
ids above it (`Store.Sound.unreadIn_eq`), and the board counts them for every row of the channels
(`Store.Sound.unreadCounts_eq`).
-/

namespace ChatBoard

namespace ReadMarks

/-- The message up to which a user has read a channel, or 0. -/
def upTo (ms : ReadMarks) (user channel : Int) : Int :=
  match ms.get? user channel with
  | some (.sound m) => m.message
  | _ => 0

/-- Without marks nothing has been read. -/
theorem upTo_empty (user channel : Int) : empty.upTo user channel = 0 := rfl

/-- Setting a mark sets up to where its user has read its channel. -/
theorem upTo_set_self {ms : ReadMarks} (h : ms.Sound) (user channel message : Int) (now : String) :
    (ms.set user channel message now).upTo user channel = message := by
  obtain ⟨m, hm, hmessage⟩ := get?_set_self h user channel message now
  unfold upTo
  rw [hm]
  exact hmessage

/-- Setting a mark changes nothing for other users and other channels. -/
theorem upTo_set_of_ne (ms : ReadMarks) {user channel user' channel' : Int} (message : Int)
    (now : String) (h : ¬ (user' = user ∧ channel' = channel)) :
    (ms.set user channel message now).upTo user' channel' = ms.upTo user' channel' := by
  unfold upTo
  rw [get?_set_of_ne ms message now h]

end ReadMarks

namespace Store

/-- The message up to which a user has read a channel of a store, or 0. -/
def readUpTo (user channel : Int) (s : Store) : Int :=
  match s.marks with
  | some ms => ms.upTo user channel
  | none => 0

variable {s : Store}

/-- What a user has read is found among the marks. -/
theorem readUpTo_eq {ms : ReadMarks} (h : s.marks = some ms) (user channel : Int) :
    s.readUpTo user channel = ms.upTo user channel := by
  unfold readUpTo
  rw [h]

/-- A store with given marks has been read up to where they say. -/
theorem readUpTo_marks (s : Store) (ms : ReadMarks) (user channel : Int) :
    ({ s with marks := some ms } : Store).readUpTo user channel = ms.upTo user channel := rfl

/-- Setting a mark in a sound store succeeds and changes nothing but the marks. -/
theorem Sound.markRead_ok (h : s.Sound) (now : String) (user channel message : Int) :
    ∃ ms : ReadMarks, s.markRead now user channel message = .ok { s with marks := some ms }
      ∧ ms.upTo user channel = message
      ∧ ∀ user' channel', ¬ (user' = user ∧ channel' = channel) →
          ms.upTo user' channel' = s.readUpTo user' channel' := by
  obtain ⟨ms, hms, hmarks⟩ := h.marks
  refine ⟨ms.set user channel message now, ?_, ReadMarks.upTo_set_self hmarks user channel _ now,
    fun user' channel' hne => ?_⟩
  · unfold Store.markRead
    rw [hms]
  · rw [ReadMarks.upTo_set_of_ne ms message now hne, readUpTo_eq hms]

/-- In a sound store the unread messages of a channel are those above the mark. -/
theorem Sound.unreadIn_eq (h : s.Sound) (user channel : Int) :
    s.unreadIn user channel = .ok
      ((s.inChannel channel).countP fun e => decide (s.readUpTo user channel < e.id)) := by
  obtain ⟨t, ht, -⟩ := h.messages
  obtain ⟨ms, hms, hmarks⟩ := h.marks
  rw [readUpTo_eq hms]
  unfold unreadIn readMark ReadMarks.upTo
  rw [hms]
  dsimp only
  cases hm : ms.get? user channel with
  | none =>
    -- Without a mark everything counts, and so does everything above 0.
    have hall : ∀ e ∈ s.inChannel channel, decide (0 < e.id) = true := fun e he =>
      decide_eq_true (h.readable_inChannel he).2
    dsimp only
    rw [countMessages_eq ht, List.countP_eq_length.2 hall]
  | some row =>
    obtain ⟨m, rfl⟩ := hmarks.get? hm
    exact countAfter_eq ht m.message

/-- In a sound store the unread messages of several channels are counted one by one. -/
theorem Sound.unreadInEach_eq (h : s.Sound) (user : Int) (channels : List Int) :
    s.unreadInEach user channels = .ok (channels.map fun c =>
      ⟨c, (s.inChannel c).countP fun e => decide (s.readUpTo user c < e.id)⟩) := by
  induction channels with
  | nil => rfl
  | cons c rest ih =>
    unfold unreadInEach
    rw [h.unreadIn_eq, ih]
    rfl

/-- In a sound store the unread messages are counted for every channel, by ascending ids. -/
theorem Sound.unreadCounts_eq (h : s.Sound) {t : Table (Stored Channel)} (ht : s.channels = some t)
    (user : Int) :
    s.unreadCounts user = .ok ((t.entries.reverse.map (·.id)).map fun c =>
      ⟨c, (s.inChannel c).countP fun e => decide (s.readUpTo user c < e.id)⟩) := by
  unfold unreadCounts
  rw [ht]
  exact h.unreadInEach_eq user _

end Store

end ChatBoard
