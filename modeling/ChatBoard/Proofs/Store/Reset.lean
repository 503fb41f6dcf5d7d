import ChatBoard.Proofs.Store.Ids
import ChatBoard.Store.Basic
import Mathlib.Data.List.TakeWhile

/-!
# What a reset leaves

A reset cuts the tables down to the baseline one after the other and stops at the first that is
missing. `Store.cutDown` is a store of which given tables have been cut down, and `Store.reached`
are the tables that a reset gets to: those before the first that is missing
(`Store.reset_store`). Cutting down twice is cutting down once (`Store.cutDown_append`), so a second
reset finds nothing to do (`Store.reset_reset`).
-/

namespace ChatBoard

/-- The tables in the order in which a reset takes them. -/
def TableName.inOrder : List TableName := [.users, .images, .channels, .messages, .marks]

/-- They are all tables. -/
theorem TableName.mem_inOrder (name : TableName) : name ∈ inOrder := by cases name <;> decide

/-- Keeping the same rows again keeps them all. -/
theorem Table.keep_keep {α : Type} [Labelled α] (t : Table α) (p : Int → Bool) :
    (t.keep p).keep p = t.keep p := by
  have hentries : (t.entries.filter fun e => p e.id).filter (fun e => p e.id)
      = t.entries.filter fun e => p e.id := by
    simp only [List.filter_filter, Bool.and_self]
  unfold keep
  congr 1

namespace Store

/-- Whether a table is there. -/
def has (s : Store) : TableName → Bool
  | .users => s.users.isSome
  | .images => s.images.isSome
  | .channels => s.channels.isSome
  | .messages => s.messages.isSome
  | .marks => s.marks.isSome

/-- What a reset does to one table. -/
def cutTable : TableName → Store → Except StoreFault Store
  | .users => keepUsers (· ≤ baseline.users)
  | .images => keepImages (· ≤ baseline.images)
  | .channels => keepChannels (· ≤ baseline.channels)
  | .messages => keepMessages (· ≤ baseline.messages)
  | .marks => clearMarks

/-- The store where of given tables only the rows up to the baseline are left, and of the marks
none. -/
def cutDown (names : List TableName) (s : Store) : Store where
  users := if .users ∈ names then s.users.map (·.keep (· ≤ baseline.users)) else s.users
  images := if .images ∈ names then s.images.map (·.keep (· ≤ baseline.images)) else s.images
  channels :=
    if .channels ∈ names then s.channels.map (·.keep (· ≤ baseline.channels)) else s.channels
  messages :=
    if .messages ∈ names then s.messages.map (·.keep (· ≤ baseline.messages)) else s.messages
  marks := if .marks ∈ names then s.marks.map fun _ => .empty else s.marks

/-- A reset cuts the tables in turn. -/
theorem reset_eq_inTurn (s : Store) : s.reset = inTurn (TableName.inOrder.map cutTable) s := rfl

/-- Where no table is cut down, none changes. -/
@[simp] theorem cutDown_nil (s : Store) : s.cutDown [] = s := by simp [cutDown]

/-- A table that is cut down is still there, and no other one comes. -/
@[simp] theorem has_cutDown (names : List TableName) (s : Store) (name : TableName) :
    (s.cutDown names).has name = s.has name := by
  cases name <;> simp only [has, cutDown] <;> split <;> simp

/-- Cutting tables down and then others is cutting all of them down. -/
theorem cutDown_append (names more : List TableName) (s : Store) :
    (s.cutDown names).cutDown more = s.cutDown (names ++ more) := by
  -- A table that is in both lists is cut twice, which is the same as once.
  have hagain : ∀ {β : Type} (f : β → β), (∀ x, f (f x) = f x) →
      ∀ (o : Option β) (name : TableName),
      (if name ∈ more then (if name ∈ names then o.map f else o).map f
        else if name ∈ names then o.map f else o)
      = if name ∈ names ++ more then o.map f else o := by
    intro β f again o name
    by_cases hnames : name ∈ names <;> by_cases hmore : name ∈ more
      <;> simp [hnames, hmore, again, Function.comp_def]
  unfold cutDown
  congr 1
  · exact hagain _ (fun t => t.keep_keep _) s.users .users
  · exact hagain _ (fun t => t.keep_keep _) s.images .images
  · exact hagain _ (fun t => t.keep_keep _) s.channels .channels
  · exact hagain _ (fun t => t.keep_keep _) s.messages .messages
  · exact hagain (fun _ => ReadMarks.empty) (fun _ => rfl) s.marks .marks

/-- A table that is there is cut down. -/
theorem cutTable_of_has {s : Store} {name : TableName} (h : s.has name = true) :
    cutTable name s = .ok (s.cutDown [name]) := by
  obtain ⟨users, images, channels, messages, marks⟩ := s
  cases name with
  | users => obtain ⟨t, rfl⟩ := Option.isSome_iff_exists.1 h; rfl
  | images => obtain ⟨t, rfl⟩ := Option.isSome_iff_exists.1 h; rfl
  | channels => obtain ⟨t, rfl⟩ := Option.isSome_iff_exists.1 h; rfl
  | messages => obtain ⟨t, rfl⟩ := Option.isSome_iff_exists.1 h; rfl
  | marks => obtain ⟨t, rfl⟩ := Option.isSome_iff_exists.1 h; rfl

/-- A table that is missing cannot be cut down. -/
theorem cutTable_of_missing {s : Store} {name : TableName} (h : s.has name = false) :
    cutTable name s = .error (.missing name) := by
  obtain ⟨users, images, channels, messages, marks⟩ := s
  cases name with
  | users => obtain rfl := Option.not_isSome_iff_eq_none.1 (ne_true_of_eq_false h); rfl
  | images => obtain rfl := Option.not_isSome_iff_eq_none.1 (ne_true_of_eq_false h); rfl
  | channels => obtain rfl := Option.not_isSome_iff_eq_none.1 (ne_true_of_eq_false h); rfl
  | messages => obtain rfl := Option.not_isSome_iff_eq_none.1 (ne_true_of_eq_false h); rfl
  | marks => obtain rfl := Option.not_isSome_iff_eq_none.1 (ne_true_of_eq_false h); rfl

/-- Tables are cut down in turn up to the first that is missing. -/
theorem inTurn_cut (names : List TableName) (s : Store) :
    inTurn (names.map cutTable) s
      = (match names.dropWhile s.has with
          | [] => .ok ()
          | missing :: _ => .error (.missing missing), s.cutDown (names.takeWhile s.has)) := by
  induction names generalizing s with
  | nil =>
    have hnone : s.cutDown ([].takeWhile s.has) = s := by simp
    rw [hnone]
    rfl
  | cons name rest ih =>
    rw [List.map_cons, inTurn]
    cases hname : s.has name with
    | true =>
      -- What is there is the same in the store where the first table has been cut down.
      have hhas : (s.cutDown [name]).has = s.has := by
        funext other
        simp
      rw [cutTable_of_has hname]
      dsimp only
      rw [ih, hhas, cutDown_append, List.takeWhile_cons_of_pos hname,
        List.dropWhile_cons_of_pos hname]
      rfl
    | false =>
      have hnot : ¬ s.has name = true := ne_true_of_eq_false hname
      rw [cutTable_of_missing hname, List.takeWhile_cons_of_neg hnot,
        List.dropWhile_cons_of_neg hnot, cutDown_nil]

/-- The tables that a reset gets to: those before the first that is missing. -/
def reached (s : Store) : List TableName := TableName.inOrder.takeWhile s.has

/-- A reset cuts down the tables that it gets to. -/
theorem reset_store (s : Store) : s.reset.2 = s.cutDown s.reached := by
  rw [reset_eq_inTurn, inTurn_cut]
  rfl

/-- A reset fails if a table is missing. -/
theorem reset_outcome (s : Store) :
    s.reset.1 = match TableName.inOrder.dropWhile s.has with
      | [] => .ok ()
      | missing :: _ => .error (.missing missing) := by
  rw [reset_eq_inTurn, inTurn_cut]

section

variable {s : Store}

/-- A reset gets to all tables if none is missing. -/
theorem reached_of_all (h : ∀ name, s.has name = true) : s.reached = TableName.inOrder :=
  List.takeWhile_eq_self_iff.2 fun name _ => h name

/-- A reset gets to the tables before the first that is missing. -/
theorem reached_of_missing {before after : List TableName} {missing : TableName}
    (horder : TableName.inOrder = before ++ missing :: after)
    (hbefore : ∀ name ∈ before, s.has name = true) (hmissing : s.has missing = false) :
    s.reached = before := by
  rw [reached, horder, List.takeWhile_append_of_pos hbefore,
    List.takeWhile_cons_of_neg (ne_true_of_eq_false hmissing), List.append_nil]

/-- A reset gets to a table that is there if all tables before it are. -/
theorem mem_reached {before after : List TableName} {name : TableName}
    (horder : TableName.inOrder = before ++ name :: after)
    (hbefore : ∀ other ∈ before, s.has other = true) (hname : s.has name = true) :
    name ∈ s.reached := by
  rw [reached, horder, List.takeWhile_append_of_pos hbefore, List.takeWhile_cons_of_pos hname]
  simp

/-- Where no table is missing, a reset succeeds. -/
theorem reset_ok (h : ∀ name, s.has name = true) : s.reset.1 = .ok () := by
  have hnone : TableName.inOrder.dropWhile s.has = [] := by
    simp [List.dropWhile_eq_nil_iff, h]
  rw [reset_outcome, hnone]

/-- Where a table is missing, a reset fails. -/
theorem reset_error {missing : TableName} (h : s.has missing = false) :
    ∃ fault, s.reset.1 = .error fault := by
  rw [reset_outcome]
  cases hleft : TableName.inOrder.dropWhile s.has with
  | nil =>
    have hall := List.dropWhile_eq_nil_iff.1 hleft missing missing.mem_inOrder
    rw [h] at hall
    exact absurd hall (by simp)
  | cons first rest => exact ⟨_, rfl⟩

end

/-- A second reset after the first changes nothing. -/
theorem reset_reset (s : Store) : s.reset.2.reset.2 = s.reset.2 := by
  have hsame : (s.cutDown s.reached).reached = s.reached := by
    have hhas : (s.cutDown s.reached).has = s.has := by
      funext name
      simp
    rw [reached, hhas, ← reached]
  rw [reset_store, reset_store s, hsame, cutDown_append]
  simp only [cutDown, List.mem_append, or_self]

end Store

end ChatBoard
