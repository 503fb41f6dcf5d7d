import ChatBoard.Store.Table

/-!
# The ids of a table over time

A table gives out ids above its counter only, and the counter never falls. `Table.Follows` says this
of a table and what it has become: the counter is no smaller, and an entry with an id that the
earlier counter covers was there before. Keeping some of the rows is such a step
(`Table.Follows.of_keep`), appending a row is one (`Table.Extends.of_append`), and steps compose, so
what is new in a table lies above everything that was there at the earlier time
(`Table.Follows.counter_lt`). `Table.Extends` says more: nothing was removed, and the new rows stand
before the old ones.
-/

namespace ChatBoard

/-- An entry with an id above all others goes to the front. -/
theorem insertById_of_newest {α : Type} (e : Entry α) {es : List (Entry α)}
    (h : ∀ x ∈ es, x.id < e.id) : insertById e es = e :: es := by
  cases es with
  | nil => rfl
  | cons x rest => rw [insertById, if_pos (h x List.mem_cons_self)]

/-- The rows of a table that may be missing. -/
def rowsOf {α : Type} [Labelled α] : Option (Table α) → List (Entry α)
  | some t => t.entries
  | none => []

/-- The rows of a table that is there. -/
@[simp] theorem rowsOf_some {α : Type} [Labelled α] (t : Table α) : rowsOf (some t) = t.entries :=
  rfl

/-- A row is one of a table that is there. -/
theorem exists_of_mem_rowsOf {α : Type} [Labelled α] {o : Option (Table α)} {x : Entry α}
    (h : x ∈ rowsOf o) : ∃ t, o = some t ∧ x ∈ t.entries := by
  cases o with
  | none => exact absurd h List.not_mem_nil
  | some t => exact ⟨t, rfl, h⟩

namespace Table

variable {α : Type} [Labelled α]

/-- An id from the counter's range is below the next id. -/
theorem lt_next (t : Table α) {e : Entry α} (he : e ∈ t.entries) :
    e.id < (t.counter + 1 : Int) := by
  have := t.bounded e he
  omega

/-- A row put under the next id stands before all others. -/
theorem entries_put_next (t : Table α) (row : α) (free : t.Free row) :
    (t.put (t.counter + 1) row t.unused_next free).entries
      = ⟨t.counter + 1, row⟩ :: t.entries :=
  insertById_of_newest _ fun _ hx => t.lt_next hx

/-- A row put under the next id moves the counter there. -/
theorem counter_put_next (t : Table α) (row : α) (free : t.Free row) :
    (t.put (t.counter + 1) row t.unused_next free).counter = t.counter + 1 := by
  have h : ((t.counter : Int) + 1).toNat = t.counter + 1 := by omega
  show max t.counter ((t.counter : Int) + 1).toNat = t.counter + 1
  omega

/-- No two entries of a table have one id. -/
theorem eq_of_id_eq (t : Table α) {x y : Entry α} (hx : x ∈ t.entries) (hy : y ∈ t.entries)
    (h : x.id = y.id) : x = y := by
  have hone : ∀ a ∈ t.entries, ∀ b ∈ t.entries, a.id = b.id → a = b := by
    refine List.Pairwise.forall_of_forall_of_flip (fun _ _ _ => rfl) ?_ ?_
    · exact t.descending.imp fun hlt heq => absurd heq (Int.ne_of_gt hlt)
    · exact t.descending.imp fun hlt heq => absurd heq (Int.ne_of_lt hlt)
  exact hone x hx y hy h

/-- The row that is found under an id is the one of the entry with the id. -/
theorem get?_eq_some_iff (t : Table α) {id : Int} {row : α} :
    t.get? id = some row ↔ ⟨id, row⟩ ∈ t.entries := by
  unfold get?
  rw [Option.map_eq_some_iff]
  constructor
  · rintro ⟨e, hfind, rfl⟩
    obtain rfl : e.id = id :=
      eq_of_beq (List.find?_some (p := fun e : Entry α => e.id == id) hfind)
    exact List.mem_of_find?_eq_some hfind
  · intro hmem
    cases hfind : t.entries.find? fun e => e.id == id with
    | none => exact absurd (beq_self_eq_true id) (List.find?_eq_none.1 hfind _ hmem)
    | some e =>
      have hid : e.id = id := eq_of_beq (List.find?_some (p := fun e : Entry α => e.id == id) hfind)
      exact ⟨e, rfl, by rw [t.eq_of_id_eq (List.mem_of_find?_eq_some hfind) hmem hid]⟩

/-- Under an id that no entry has no row is found. -/
theorem get?_eq_none_iff (t : Table α) {id : Int} :
    t.get? id = none ↔ ∀ e ∈ t.entries, e.id ≠ id := by
  unfold get?
  rw [Option.map_eq_none_iff, List.find?_eq_none]
  simp only [beq_iff_eq, ne_eq]

/-- A table `t'` that has come from `t` by appending a row under an id. -/
structure Appended (t : Table α) (row : α) (id : Int) (t' : Table α) : Prop where
  /-- The id is the one after the counter. -/
  id_eq : id = t.counter + 1
  /-- The row stands before all others, which are as they were. -/
  entries : t'.entries = ⟨id, row⟩ :: t.entries
  /-- The counter is at the id. -/
  counter : t'.counter = t.counter + 1
  /-- The ids were not used up. -/
  room : t.counter < largestId

/-- What appending a row does when it succeeds. -/
theorem append_ok {t t' : Table α} {row : α} {id : Int} (h : t.append row = .ok (id, t')) :
    t.Appended row id t' := by
  unfold append at h
  split at h
  · cases h
  next room =>
    split at h
    next free =>
      cases h
      exact ⟨rfl, t.entries_put_next row free, t.counter_put_next row free, by omega⟩
    · cases h

/-- A table `t'` that has come from `t` by giving out ids above the counter and by removals. -/
structure Follows (t' t : Table α) : Prop where
  /-- The counter does not fall. -/
  counter_le : t.counter ≤ t'.counter
  /-- An entry with an old id is an old entry. -/
  old : ∀ e ∈ t'.entries, e.id ≤ t.counter → e ∈ t.entries

namespace Follows

/-- Every table follows itself. -/
theorem refl (t : Table α) : t.Follows t := ⟨Nat.le_refl _, fun _ he _ => he⟩

/-- What follows a follower follows. -/
theorem trans {t t' t'' : Table α} (h' : t''.Follows t') (h : t'.Follows t) : t''.Follows t where
  counter_le := Nat.le_trans h.counter_le h'.counter_le
  old e he hid := by
    have hc := h.counter_le
    exact h.old e (h'.old e he (by omega)) hid

/-- A table of which some rows are kept follows. -/
theorem of_keep (t : Table α) (p : Int → Bool) : (t.keep p).Follows t :=
  ⟨Nat.le_refl _, fun _ he _ => (List.mem_filter.1 he).1⟩

/-- What was not there before has an id above the counter of that time. -/
theorem counter_lt {t t' : Table α} (h : t'.Follows t) {e : Entry α} (he : e ∈ t'.entries)
    (new : e ∉ t.entries) : (t.counter : Int) < e.id :=
  Int.not_le.1 fun hid => new (h.old e he hid)

end Follows

/-- A table `t'` that has come from `t` by giving out ids above the counter. -/
structure Extends (t' t : Table α) : Prop where
  /-- The counter does not fall. -/
  counter_le : t.counter ≤ t'.counter
  /-- New entries with ids above the earlier counter stand before the old ones. -/
  entries : ∃ new, t'.entries = new ++ t.entries ∧ ∀ e ∈ new, (t.counter : Int) < e.id

namespace Extends

/-- Every table extends itself. -/
theorem refl (t : Table α) : t.Extends t :=
  ⟨Nat.le_refl _, [], rfl, fun _ he => absurd he List.not_mem_nil⟩

/-- What extends an extension extends. -/
theorem trans {t t' t'' : Table α} (h' : t''.Extends t') (h : t'.Extends t) : t''.Extends t := by
  obtain ⟨hc, new, hnew, habove⟩ := h
  obtain ⟨hc', new', hnew', habove'⟩ := h'
  refine ⟨Nat.le_trans hc hc', new' ++ new, by rw [hnew', hnew, List.append_assoc], ?_⟩
  -- What the second step adds lies above a counter that has not fallen in the first.
  intro e he
  rcases List.mem_append.1 he with he | he
  · have := habove' e he
    omega
  · exact habove e he

/-- A table with one more row is an extension. -/
theorem of_append {t t' : Table α} {row : α} {id : Int} (h : t.Appended row id t') :
    t'.Extends t := by
  refine ⟨by rw [h.counter]; omega, [⟨id, row⟩], h.entries, ?_⟩
  intro e he
  obtain rfl := List.mem_singleton.1 he
  have := h.id_eq
  dsimp only
  omega

/-- An extension follows. -/
theorem follows {t t' : Table α} (h : t'.Extends t) : t'.Follows t := by
  obtain ⟨hc, new, hnew, habove⟩ := h
  refine ⟨hc, fun e he hid => ?_⟩
  rw [hnew] at he
  rcases List.mem_append.1 he with he | he
  · exact absurd hid (Int.not_le.2 (habove e he))
  · exact he

end Extends

end Table

end ChatBoard
