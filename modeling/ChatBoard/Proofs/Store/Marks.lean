import ChatBoard.Store.ReadMarks

/-!
# Setting and looking up read marks

A mark that has been set is found again with the message it was set to (`ReadMarks.get?_set_self`),
and the marks of other users and of other channels are found as they were
(`ReadMarks.get?_set_of_ne`). Setting a mark either moves the one that is there or adds one, and
`ReadMarks.marks_set` gives the list of marks in both cases. Marks that can be read stay so.
-/

namespace ChatBoard

/-- Marks that can all be read. -/
def ReadMarks.Sound (ms : ReadMarks) : Prop := ∀ e ∈ ms.marks, ∃ m, e.row = .sound m

namespace ReadMarks

/-- The user and the channel of a mark as they stand in its columns. -/
def keyOf (user channel : Int) : Datum × Datum := (.number user, .number channel)

/-- Different users or channels have different keys. -/
theorem keyOf_inj {user channel user' channel' : Int}
    (h : keyOf user channel = keyOf user' channel') : user = user' ∧ channel = channel' := by
  unfold keyOf at h
  rw [Prod.mk.injEq, Datum.number.injEq, Datum.number.injEq] at h
  exact h

/-- The marks after one has been set: the one that is there moves, or a new one is added. -/
theorem marks_set (ms : ReadMarks) (user channel message : Int) (now : String) :
    (ms.set user channel message now).marks =
      if keyOf user channel ∈ ms.keys then ms.marks.map (moved (keyOf user channel) message now)
      else ⟨ms.nextId, .sound ⟨user, channel, message, now, now⟩⟩ :: ms.marks := by
  by_cases h : keyOf user channel ∈ ms.keys
  · rw [if_pos h]
    exact congrArg marks (dif_pos h)
  · rw [if_neg h]
    exact congrArg marks (dif_neg h)

/-- A mark stays as it is when one is set, unless it is that one and moves. -/
theorem set_of_mem (ms : ReadMarks) (user channel message : Int) (now : String)
    {x : Entry (Stored ReadMark)} (hx : x ∈ ms.marks) :
    x ∈ (ms.set user channel message now).marks
      ∨ ReadMark.key x.row = keyOf user channel
        ∧ ⟨x.id, ReadMark.movedTo message now x.row⟩ ∈ (ms.set user channel message now).marks := by
  rw [marks_set]
  split
  · have hmem : moved (keyOf user channel) message now x
        ∈ ms.marks.map (moved (keyOf user channel) message now) := List.mem_map.2 ⟨x, hx, rfl⟩
    by_cases hkey : ReadMark.key x.row = keyOf user channel
    · rw [show moved _ message now x = ⟨x.id, _⟩ from if_pos hkey] at hmem
      exact .inr ⟨hkey, hmem⟩
    · rw [show moved _ message now x = x from if_neg hkey] at hmem
      exact .inl hmem
  · exact .inl (List.mem_cons_of_mem _ hx)

/-- After a mark has been set, any other one was there before. -/
theorem of_mem_set (ms : ReadMarks) {user channel message : Int} {now : String}
    {y : Entry (Stored ReadMark)} (hy : y ∈ (ms.set user channel message now).marks) :
    y ∈ ms.marks ∨ ReadMark.key y.row = keyOf user channel := by
  rw [marks_set] at hy
  split at hy
  · obtain ⟨x, hx, rfl⟩ := List.mem_map.1 hy
    by_cases hkey : ReadMark.key x.row = keyOf user channel
    · exact .inr (by rw [key_moved, hkey])
    · rw [show moved _ message now x = x from if_neg hkey]
      exact .inl hx
  · rcases List.mem_cons.1 hy with rfl | hy
    · exact .inr rfl
    · exact .inl hy

/-- Setting a mark leaves the marks readable. -/
theorem Sound.set {ms : ReadMarks} (h : ms.Sound) (user channel message : Int) (now : String) :
    (ms.set user channel message now).Sound := by
  intro e he
  rw [marks_set] at he
  split at he
  · obtain ⟨x, hx, rfl⟩ := List.mem_map.1 he
    obtain ⟨m, hm⟩ := h x hx
    unfold moved
    split
    · exact ⟨_, by rw [hm]; rfl⟩
    · exact ⟨m, hm⟩
  · rcases List.mem_cons.1 he with rfl | he
    · exact ⟨_, rfl⟩
    · exact h e he

/-- A look-up after marks have moved finds what it found before, moved. -/
theorem find?_map_moved (marks : List (Entry (Stored ReadMark))) (key other : Datum × Datum)
    (message : Int) (now : String) :
    (marks.map (moved key message now)).find? (fun e => ReadMark.key e.row == other)
      = (marks.find? fun e => ReadMark.key e.row == other).map (moved key message now) := by
  rw [List.find?_map]
  congr 2
  funext e
  exact congrArg (· == other) (key_moved key message now e)

/-- The mark of another user or channel is found as it was. -/
theorem get?_set_of_ne (ms : ReadMarks) {user channel user' channel' : Int} (message : Int)
    (now : String) (h : ¬ (user' = user ∧ channel' = channel)) :
    (ms.set user channel message now).get? user' channel' = ms.get? user' channel' := by
  have hne : keyOf user' channel' ≠ keyOf user channel := fun heq => h (keyOf_inj heq)
  unfold get?
  rw [marks_set]
  split
  · -- Only marks with the other key have moved.
    rw [find?_map_moved]
    cases hf : ms.marks.find? fun e => ReadMark.key e.row == (.number user', .number channel') with
    | none => rfl
    | some e =>
      have hkey : ReadMark.key e.row = keyOf user' channel' :=
        eq_of_beq (List.find?_some (p := fun e : Entry (Stored ReadMark) =>
          ReadMark.key e.row == keyOf user' channel') hf)
      have hstay : moved (keyOf user channel) message now e = e := by
        unfold moved
        rw [if_neg (by rw [hkey]; exact hne)]
      rw [Option.map_some, hstay]
  · rw [List.find?_cons_of_neg]
    exact fun heq => hne (eq_of_beq heq).symm

/-- A mark that has been set is found with the message it was set to. -/
theorem get?_set_self {ms : ReadMarks} (h : ms.Sound) (user channel message : Int)
    (now : String) :
    ∃ m, (ms.set user channel message now).get? user channel = some (.sound m)
      ∧ m.message = message := by
  unfold get?
  rw [marks_set]
  split
  next hmem =>
    obtain ⟨x, hx, hkey⟩ := List.mem_map.1 hmem
    rw [find?_map_moved]
    cases hf : ms.marks.find? fun e => ReadMark.key e.row == (.number user, .number channel) with
    | none =>
      have := List.find?_eq_none.1 hf x hx
      exact absurd (beq_iff_eq.2 hkey) this
    | some e =>
      -- The mark that is found has the key, so it is the one that has moved.
      have hkey : ReadMark.key e.row = keyOf user channel :=
        eq_of_beq (List.find?_some (p := fun e : Entry (Stored ReadMark) =>
          ReadMark.key e.row == keyOf user channel) hf)
      obtain ⟨m, hm⟩ := h e (List.mem_of_find?_eq_some hf)
      refine ⟨{ m with message := message, updatedAt := now }, ?_, rfl⟩
      rw [Option.map_some, Option.map_some, moved, if_pos hkey, hm]
      rfl
  · -- No mark had the key, and the new one stands first.
    refine ⟨⟨user, channel, message, now, now⟩, ?_, rfl⟩
    rw [List.find?_cons_of_pos]
    · rfl
    · exact beq_self_eq_true (keyOf user channel)

/-- A look-up among readable marks finds one that can be read. -/
theorem Sound.get? {ms : ReadMarks} (h : ms.Sound) {user channel : Int} {m : Stored ReadMark}
    (hm : ms.get? user channel = some m) : ∃ m', m = .sound m' := by
  unfold ReadMarks.get? at hm
  obtain ⟨e, he, rfl⟩ := Option.map_eq_some_iff.1 hm
  exact h e (List.mem_of_find?_eq_some he)

end ReadMarks

end ChatBoard
