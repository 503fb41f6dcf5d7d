import ChatBoard.Store.Datum

/-!
# Tables

A table holds rows with ids, newest id first, and remembers the largest id it ever gave out, so that
no id is used twice. Rows of some kinds carry a label, the values of certain columns, and no two
rows of a table share one. Both facts are part of the type: `put`, `revise` and `keep` are the ways
to change a table, and each of them keeps the order of the ids, their bound and the labels apart.
-/

namespace ChatBoard

/-- A row together with its id. -/
structure Entry (α : Type) where
  id : Int
  row : α
  deriving DecidableEq, Repr

/-- The label of a row, for kinds of rows that have one. -/
class Labelled (α : Type) where
  label : α → Option (List Datum)

export Labelled (label)

/-- Why a table refuses an entry. -/
inductive TableFault where
  | full
  | taken
  deriving DecidableEq, Repr

/-- The largest id that a table can give out. -/
def largestId : Nat := 0x7fffffffffffffff

/-- Adds an entry before the first one with a smaller id. -/
def insertById {α : Type} (e : Entry α) : List (Entry α) → List (Entry α)
  | [] => [e]
  | x :: rest => if x.id < e.id then e :: x :: rest else x :: insertById e rest

/-- Adding an entry adds nothing else and loses nothing. -/
theorem insertById_perm {α : Type} (e : Entry α) (es : List (Entry α)) :
    (insertById e es).Perm (e :: es) := by
  induction es with
  | nil => exact .refl _
  | cons x rest ih =>
    unfold insertById
    split
    · exact .refl _
    · exact (ih.cons x).trans (.swap ..)

/-- An entry with a new id finds its place among descending ids. -/
theorem insertById_descending {α : Type} (e : Entry α) {es : List (Entry α)}
    (h : es.Pairwise fun a b => b.id < a.id) (unused : ∀ x ∈ es, x.id ≠ e.id) :
    (insertById e es).Pairwise fun a b => b.id < a.id := by
  induction es with
  | nil => simp [insertById]
  | cons x rest ih =>
    have hx := unused x (by simp)
    rw [List.pairwise_cons] at h
    unfold insertById
    split
    next lt =>
      refine List.pairwise_cons.2 ⟨fun y hy => ?_, List.pairwise_cons.2 h⟩
      rcases List.mem_cons.1 hy with rfl | hy
      · exact lt
      · exact Int.lt_trans (h.1 y hy) lt
    next ge =>
      refine List.pairwise_cons.2 ⟨fun y hy => ?_, ih h.2 fun y hy => unused y (by simp [hy])⟩
      rcases List.mem_cons.1 ((insertById_perm e rest).mem_iff.1 hy) with rfl | hy
      · omega
      · exact h.1 y hy

/-- Rows by descending id, and a bound on the ids that the table ever held. -/
structure Table (α : Type) [Labelled α] where
  entries : List (Entry α)
  counter : Nat
  descending : entries.Pairwise fun a b => b.id < a.id
  bounded : ∀ e ∈ entries, e.id ≤ counter
  apart : (entries.filterMap fun e => label e.row).Nodup

namespace Table

variable {α : Type} [Labelled α]

/-- The table that never held a row. -/
def empty : Table α where
  entries := []
  counter := 0
  descending := .nil
  bounded := by simp
  apart := .nil

instance : Inhabited (Table α) := ⟨empty⟩

/-- The labels that are in use. -/
def labels (t : Table α) : List (List Datum) := t.entries.filterMap fun e => label e.row

/-- A row without a label is free, and so is one whose label is not in use. -/
def Free (t : Table α) (row : α) : Prop := ∀ s ∈ label row, s ∉ t.labels

instance (t : Table α) (row : α) : Decidable (t.Free row) :=
  inferInstanceAs (Decidable (∀ s ∈ label row, s ∉ t.labels))

/-- No entry has this id. -/
def Unused (t : Table α) (id : Int) : Prop := ∀ e ∈ t.entries, e.id ≠ id

instance (t : Table α) (id : Int) : Decidable (t.Unused id) :=
  inferInstanceAs (Decidable (∀ e ∈ t.entries, e.id ≠ id))

/-- The id after the largest one ever held is not in use. -/
theorem unused_next (t : Table α) : t.Unused (t.counter + 1) := by
  intro e he
  have := t.bounded e he
  omega

/-- Adds a row under a given id. -/
def put (t : Table α) (id : Int) (row : α) (unused : t.Unused id) (free : t.Free row) :
    Table α where
  entries := insertById ⟨id, row⟩ t.entries
  counter := max t.counter id.toNat
  descending := insertById_descending _ t.descending unused
  bounded := by
    intro e he
    -- The new entry is bounded by its own id, the others by the counter before.
    rcases List.mem_cons.1 ((insertById_perm _ _).mem_iff.1 he) with rfl | he
    · have : id ≤ id.toNat := Int.self_le_toNat id
      dsimp only
      omega
    · have := t.bounded e he
      omega
  apart := by
    refine (((insertById_perm ⟨id, row⟩ t.entries).filterMap _).nodup_iff).2 ?_
    rw [List.filterMap_cons]
    split
    · exact t.apart
    next s hs => exact List.nodup_cons.2 ⟨free s hs, t.apart⟩

/-- Lets the counter grow without adding a row. -/
def raise (t : Table α) (counter : Nat) : Table α where
  entries := t.entries
  counter := max t.counter counter
  descending := t.descending
  bounded := by
    intro e he
    have := t.bounded e he
    omega
  apart := t.apart

/-- Changes rows in place; ids and labels stay. -/
def revise (t : Table α) (change : Int → α → α)
    (same : ∀ id row, label (change id row) = label row) : Table α where
  entries := t.entries.map fun e => ⟨e.id, change e.id e.row⟩
  counter := t.counter
  descending := List.pairwise_map.2 t.descending
  bounded := by
    intro e he
    obtain ⟨x, hx, rfl⟩ := List.mem_map.1 he
    exact t.bounded x hx
  apart := by
    have : (fun e : Entry α => label e.row)
        ∘ (fun e : Entry α => (⟨e.id, change e.id e.row⟩ : Entry α))
        = fun e : Entry α => label e.row := by
      funext e
      exact same e.id e.row
    rw [List.filterMap_map, this]
    exact t.apart

/-- Keeps the rows whose ids satisfy a test; the counter stays. -/
def keep (t : Table α) (p : Int → Bool) : Table α where
  entries := t.entries.filter fun e => p e.id
  counter := t.counter
  descending := t.descending.filter _
  bounded := by
    intro e he
    exact t.bounded e (List.mem_filter.1 he).1
  apart := t.apart.sublist (List.filter_sublist.filterMap _)

/-- Adds a row under the next id, unless the ids are used up or its label is taken. -/
def append (t : Table α) (row : α) : Except TableFault (Int × Table α) :=
  if largestId ≤ t.counter then .error .full
  else if free : t.Free row then .ok (t.counter + 1, t.put (t.counter + 1) row t.unused_next free)
  else .error .taken

/-- Adds a row under a given id, unless the id or the row's label is taken. -/
def place (t : Table α) (id : Int) (row : α) : Except TableFault (Table α) :=
  if h : t.Unused id ∧ t.Free row then .ok (t.put id row h.1 h.2) else .error .taken

/-- Adds a row under the next id; if its label is taken, only the id is used up. -/
def appendNew (t : Table α) (row : α) : Except TableFault (Table α) :=
  if largestId ≤ t.counter then .error .full
  else if free : t.Free row then .ok (t.put (t.counter + 1) row t.unused_next free)
  else .ok (t.raise (t.counter + 1))

/-- Adds a row under a given id; if the id or the row's label is taken, the id still counts as
given out. -/
def placeNew (t : Table α) (id : Int) (row : α) : Table α :=
  if h : t.Unused id ∧ t.Free row then t.put id row h.1 h.2 else t.raise id.toNat

/-- The row with an id. -/
def get? (t : Table α) (id : Int) : Option α :=
  (t.entries.find? fun e => e.id == id).map (·.row)

/-- The entry with a label. -/
def labelled? (t : Table α) (l : List Datum) : Option (Entry α) :=
  t.entries.find? fun e => label e.row == some l

end Table

end ChatBoard
