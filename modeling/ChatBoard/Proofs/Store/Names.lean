import ChatBoard.Proofs.Store.Sound

/-!
# Accounts by name

A name belongs to at most one account (`Table.eq_of_label_eq`), so looking an account up by its name
finds the one that has it (`Store.userByName_eq_some_iff`). Making an account depends on two things
only, whether an id is left and whether the name is taken; `Store.createUser_full`,
`Store.createUser_taken` and `Store.Sound.createUser_free` give its outcome in each case.
-/

namespace ChatBoard

namespace Table

variable {α : Type} [Labelled α]

/-- No two entries of a table have one label. -/
theorem eq_of_label_eq (t : Table α) {x y : Entry α} {l : List Datum} (hx : x ∈ t.entries)
    (hy : y ∈ t.entries) (hlx : label x.row = some l) (hly : label y.row = some l) : x = y := by
  -- The labels of a table are kept apart, so two places with one label are one place.
  have hne := List.pairwise_filterMap.1 t.apart
  have hone : ∀ a ∈ t.entries, ∀ b ∈ t.entries,
      label a.row = some l → label b.row = some l → a = b := by
    refine List.Pairwise.forall_of_forall_of_flip (fun _ _ _ _ => rfl) ?_ ?_
    · exact hne.imp fun h ha hb => absurd rfl (h _ ha _ hb)
    · exact hne.imp fun h ha hb => absurd rfl (h _ hb _ ha)
  exact hone x hx y hy hlx hly

/-- The entry that is found under a label is the one that has it. -/
theorem labelled?_eq_some_iff (t : Table α) {l : List Datum} {e : Entry α} :
    t.labelled? l = some e ↔ e ∈ t.entries ∧ label e.row = some l := by
  unfold labelled?
  constructor
  · intro hfind
    exact ⟨List.mem_of_find?_eq_some hfind, eq_of_beq (List.find?_some
      (p := fun x : Entry α => label x.row == some l) hfind)⟩
  · rintro ⟨hmem, hlabel⟩
    -- The first entry with the label is the only one.
    cases hfind : t.entries.find? fun x => label x.row == some l with
    | none => exact absurd (beq_iff_eq.2 hlabel) (List.find?_eq_none.1 hfind e hmem)
    | some x =>
      have hx : label x.row = some l := eq_of_beq (List.find?_some
        (p := fun x : Entry α => label x.row == some l) hfind)
      rw [t.eq_of_label_eq (List.mem_of_find?_eq_some hfind) hmem hx hlabel]

/-- Under a label that no entry has none is found. -/
theorem labelled?_eq_none_iff (t : Table α) {l : List Datum} :
    t.labelled? l = none ↔ ∀ e ∈ t.entries, label e.row ≠ some l := by
  unfold labelled?
  rw [List.find?_eq_none]
  simp only [beq_iff_eq, ne_eq]

end Table

namespace Store

variable {s : Store} {name : String}

/-- A stored account has a name. -/
def HasName (s : Store) (name : String) : Prop :=
  ∃ id user, ⟨id, .sound user⟩ ∈ rowsOf s.users ∧ user.name = name

/-- The table of the accounts has no id left. -/
def UsersFull (s : Store) : Prop := ∃ t, s.users = some t ∧ largestId ≤ t.counter

/-- The account that is found under a name is the one that has it. -/
theorem userByName_eq_some_iff {user : Entry User} :
    s.userByName name = .ok (some user)
      ↔ ⟨user.id, .sound user.row⟩ ∈ rowsOf s.users ∧ user.row.name = name := by
  unfold userByName
  cases s.users with
  | none => exact ⟨fun h => (nomatch h), fun h => absurd h.1 List.not_mem_nil⟩
  | some t =>
    dsimp only
    rw [rowsOf_some]
    constructor
    · intro h
      -- The entry that is found has the label, and only a readable row is given.
      cases hfind : t.labelled? [.text name] with
      | none =>
        rw [hfind] at h
        cases h
      | some e =>
        obtain ⟨hmem, hlabel⟩ := t.labelled?_eq_some_iff.1 hfind
        rw [hfind] at h
        obtain ⟨id, row⟩ := e
        cases row with
        | sound u =>
          cases h
          cases hlabel
          exact ⟨hmem, rfl⟩
        | odd cs => cases h
    · rintro ⟨hmem, rfl⟩
      have hfind : t.labelled? [.text user.row.name] = some ⟨user.id, .sound user.row⟩ :=
        t.labelled?_eq_some_iff.2 ⟨hmem, rfl⟩
      rw [hfind]
      rfl

/-- In a sound store a label is that of an account with the name. -/
theorem Sound.hasName_iff (h : s.Sound) {t : Table (Stored User)} (ht : s.users = some t) :
    s.HasName name ↔ ∃ x ∈ t.entries, label x.row = some [.text name] := by
  unfold HasName
  rw [ht]
  constructor
  · rintro ⟨id, user, hmem, rfl⟩
    exact ⟨_, hmem, rfl⟩
  · rintro ⟨⟨id, row⟩, hmem, hlabel⟩
    obtain ⟨user, rfl⟩ := (h.users_sound ht).readable _ hmem
    cases hlabel
    exact ⟨id, user, hmem, rfl⟩

/-- In a sound store looking up a name that no account has finds none. -/
theorem Sound.userByName_none (h : s.Sound) (hfree : ¬ s.HasName name) :
    s.userByName name = .ok none := by
  obtain ⟨t, ht, -⟩ := h.users
  have hnone : t.labelled? [.text name] = none :=
    t.labelled?_eq_none_iff.2 fun e he hlabel => hfree ((h.hasName_iff ht).2 ⟨e, he, hlabel⟩)
  unfold userByName
  rw [ht]
  dsimp only
  rw [hnone]
  rfl

section

variable {now salt digest : String}

/-- No account is made where no id is left. -/
theorem createUser_full (hfull : s.UsersFull) :
    s.createUser now name salt digest = .error (.refused .full) := by
  obtain ⟨t, ht, hcounter⟩ := hfull
  unfold createUser Table.append
  rw [ht]
  dsimp only
  rw [if_pos hcounter]

/-- No account is made for a name that is taken. -/
theorem createUser_taken (hroom : ¬ s.UsersFull) (htaken : s.HasName name) :
    s.createUser now name salt digest = .ok (none, s) := by
  obtain ⟨id, user, hmem, rfl⟩ := htaken
  cases ht : s.users with
  | none =>
    rw [ht] at hmem
    exact absurd hmem List.not_mem_nil
  | some t =>
    rw [ht] at hmem
    have hnot : ¬ t.Free (.sound ⟨user.name, salt, digest, user.name, DefaultAvatar.name, now⟩) :=
      fun hfree => hfree _ rfl (List.mem_filterMap.2 ⟨_, hmem, rfl⟩)
    unfold createUser Table.append
    rw [ht]
    dsimp only
    rw [if_neg fun hfull => hroom ⟨t, ht, hfull⟩, dif_neg hnot]

/-- In a sound store an account is made for a name that is free, with the next id. -/
theorem Sound.createUser_free (h : s.Sound) (hroom : ¬ s.UsersFull) (hfree : ¬ s.HasName name)
    (now salt digest : String) :
    ∃ t t' id, s.users = some t
      ∧ t.Appended (.sound ⟨name, salt, digest, name, DefaultAvatar.name, now⟩) id t'
      ∧ s.createUser now name salt digest = .ok (some id, { s with users := some t' }) := by
  obtain ⟨t, ht, -⟩ := h.users
  have hlabels : t.Free (.sound ⟨name, salt, digest, name, DefaultAvatar.name, now⟩) := by
    intro l hl hmem
    cases hl
    obtain ⟨x, hx, hlabel⟩ := List.mem_filterMap.1 hmem
    exact hfree ((h.hasName_iff ht).2 ⟨x, hx, hlabel⟩)
  have happend : t.append (.sound ⟨name, salt, digest, name, DefaultAvatar.name, now⟩)
      = .ok (t.counter + 1, t.put (t.counter + 1) _ t.unused_next hlabels) := by
    unfold Table.append
    rw [if_neg fun hfull => hroom ⟨t, ht, hfull⟩, dif_pos hlabels]
  refine ⟨t, _, _, ht, Table.append_ok happend, ?_⟩
  unfold Store.createUser
  rw [ht]
  dsimp only
  rw [happend]

end

end Store

end ChatBoard
