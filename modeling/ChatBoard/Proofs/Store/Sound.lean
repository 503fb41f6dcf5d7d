import ChatBoard.Proofs.Store.Marks
import ChatBoard.Proofs.Store.Writes

/-!
# Sound stores

A store that was opened fresh and changed by the board alone is sound: none of its tables is
missing, every row can be read, every id is positive and no counter is out of range. `Table.Sound`
and `ReadMarks.Sound` say this of one table and `Store.Sound` of all five. What the board does to a
table keeps it sound (`Table.Sound.append`, `stocked`, `keep` and so on). On a sound store no
question fails.
-/

namespace ChatBoard

namespace Table

variable {α : Type} [Labelled (Stored α)]

/-- A table whose rows can be read, with positive ids and a counter within the range of ids. -/
structure Sound (t : Table (Stored α)) : Prop where
  /-- Every row has the columns that it should have. -/
  readable : ∀ e ∈ t.entries, ∃ row, e.row = .sound row
  /-- No id is zero or negative. -/
  positive : ∀ e ∈ t.entries, 0 < e.id
  /-- The counter is an id or zero. -/
  inRange : t.counter ≤ largestId

namespace Sound

/-- The table that never held a row is sound. -/
theorem empty : (Table.empty : Table (Stored α)).Sound where
  readable := fun _ he => absurd he List.not_mem_nil
  positive := fun _ he => absurd he List.not_mem_nil
  inRange := Nat.zero_le _

/-- A sound table with one more row, which can be read, is sound. -/
theorem append {t t' : Table (Stored α)} {row : α} {id : Int} (h : t.Sound)
    (happ : t.Appended (.sound row) id t') : t'.Sound := by
  obtain ⟨hid, hentries, hcounter, hroom⟩ := happ
  refine ⟨?_, ?_, by omega⟩
  · intro e he
    rw [hentries] at he
    rcases List.mem_cons.1 he with rfl | he
    · exact ⟨row, rfl⟩
    · exact h.readable e he
  · intro e he
    rw [hentries] at he
    rcases List.mem_cons.1 he with rfl | he
    · dsimp only
      omega
    · exact h.positive e he

/-- A sound table whose counter grows within the range of ids is sound. -/
theorem raise {t : Table (Stored α)} {n : Nat} (h : t.Sound) (hn : n ≤ largestId) :
    (t.raise n).Sound := by
  refine ⟨h.readable, h.positive, ?_⟩
  have := h.inRange
  show max t.counter n ≤ largestId
  omega

/-- A sound table with one more row under a given id within the range is sound. -/
theorem put {t : Table (Stored α)} {row : α} {id : Int} (h : t.Sound) (pos : 0 < id)
    (le : id ≤ largestId) (unused : t.Unused id) (free : t.Free (.sound row)) :
    (t.put id (.sound row) unused free).Sound := by
  -- Where the row goes among the others does not matter here.
  have hmem : ∀ e ∈ (t.put id (.sound row) unused free).entries,
      e = ⟨id, .sound row⟩ ∨ e ∈ t.entries := fun e he =>
    List.mem_cons.1 ((insertById_perm _ _).mem_iff.1 he)
  refine ⟨?_, ?_, ?_⟩
  · intro e he
    rcases hmem e he with rfl | he
    · exact ⟨row, rfl⟩
    · exact h.readable e he
  · intro e he
    rcases hmem e he with rfl | he
    · exact pos
    · exact h.positive e he
  · have := h.inRange
    show max t.counter id.toNat ≤ largestId
    omega

/-- A sound table stays sound when a row is placed under an id within the range, if it can be. -/
theorem placeNew {t : Table (Stored α)} {row : α} {id : Int} (h : t.Sound) (pos : 0 < id)
    (le : id ≤ largestId) : (t.placeNew id (.sound row)).Sound := by
  unfold Table.placeNew
  split
  next hfree => exact h.put pos le hfree.1 hfree.2
  · exact h.raise (by omega)

/-- A sound table stays sound when it is stocked with a row that can be read. -/
theorem stocked {t t' : Table (Stored α)} {row : α} (h : t.Sound)
    (hstock : t.Stocked (.sound row) t') : t'.Sound := by
  rcases hstock with happ | ⟨room, -, rfl⟩
  · exact h.append happ
  · exact h.raise (by omega)

/-- A sound table of which some rows are kept is sound. -/
theorem keep {t : Table (Stored α)} (h : t.Sound) (p : Int → Bool) : (t.keep p).Sound where
  readable e he := h.readable e (List.mem_filter.1 he).1
  positive e he := h.positive e (List.mem_filter.1 he).1
  inRange := h.inRange

end Sound

end Table

/-- What holds of the value that an option has. -/
theorem holds_of_some {β : Type} {P : β → Prop} {o : Option β} (h : ∃ x, o = some x ∧ P x) {x : β}
    (hx : o = some x) : P x := by
  obtain ⟨y, hy, hp⟩ := h
  obtain rfl : y = x := Option.some.inj (hy.symm.trans hx)
  exact hp

/-- A store whose tables are all there and sound. -/
structure Store.Sound (s : Store) : Prop where
  /-- The accounts are sound. -/
  users : ∃ t, s.users = some t ∧ t.Sound
  /-- The images are sound. -/
  images : ∃ t, s.images = some t ∧ t.Sound
  /-- The channels are sound. -/
  channels : ∃ t, s.channels = some t ∧ t.Sound
  /-- The messages are sound. -/
  messages : ∃ t, s.messages = some t ∧ t.Sound
  /-- The read marks are sound. -/
  marks : ∃ ms, s.marks = some ms ∧ ms.Sound

namespace Store

/-- A store opened for the first time is sound. -/
theorem sound_fresh (now : String) : (fresh now).Sound where
  users := ⟨_, rfl, .empty⟩
  images := ⟨_, rfl, Table.Sound.empty.placeNew (by decide) (by decide)⟩
  channels := ⟨_, rfl, Table.Sound.empty.placeNew (by decide) (by decide)⟩
  messages := ⟨_, rfl, .empty⟩
  marks := ⟨_, rfl, fun _ he => absurd he List.not_mem_nil⟩

section

variable {s : Store}

/-- The accounts of a sound store are sound. -/
theorem Sound.users_sound (h : s.Sound) {t : Table (Stored User)} (ht : s.users = some t) :
    t.Sound := holds_of_some h.users ht

/-- The images of a sound store are sound. -/
theorem Sound.images_sound (h : s.Sound) {t : Table (Stored Image)} (ht : s.images = some t) :
    t.Sound := holds_of_some h.images ht

/-- The channels of a sound store are sound. -/
theorem Sound.channels_sound (h : s.Sound) {t : Table (Stored Channel)}
    (ht : s.channels = some t) : t.Sound := holds_of_some h.channels ht

/-- The messages of a sound store are sound. -/
theorem Sound.messages_sound (h : s.Sound) {t : Table (Stored Message)}
    (ht : s.messages = some t) : t.Sound := holds_of_some h.messages ht

end

/-- What a reset makes of a sound store: of every table the rows up to the baseline, and no
marks. -/
theorem Sound.reset_eq {s : Store} (h : s.Sound) : ∃ users images channels messages,
    s.users = some users ∧ s.images = some images ∧ s.channels = some channels
      ∧ s.messages = some messages
      ∧ s.reset = (.ok (), ⟨some (users.keep (· ≤ baseline.users)),
        some (images.keep (· ≤ baseline.images)), some (channels.keep (· ≤ baseline.channels)),
        some (messages.keep (· ≤ baseline.messages)), some .empty⟩) := by
  obtain ⟨⟨u, hu, -⟩, ⟨i, hi, -⟩, ⟨c, hc, -⟩, ⟨m, hm, -⟩, ⟨r, hr, -⟩⟩ := h
  refine ⟨u, i, c, m, hu, hi, hc, hm, ?_⟩
  simp only [reset, inTurn, keepUsers, keepImages, keepChannels, keepMessages, clearMarks,
    hu, hi, hc, hm, hr]

/-- Setting a mark keeps a store sound. -/
theorem Sound.markRead {s s' : Store} {now : String} {user channel message : Int}
    (h : s.Sound) (hs : s.markRead now user channel message = .ok s') : s'.Sound := by
  obtain ⟨ms, hms, rfl⟩ := markRead_ok hs
  have hsound := holds_of_some h.marks hms
  exact { h with marks := ⟨_, rfl, hsound.set user channel message now⟩ }

end Store

end ChatBoard
