import ChatBoard.Proofs.Board.Change

/-!
# A store and what has become of it

`Store.Succeeds` relates a store to one that it has come from by effects: no counter has fallen, and
a row with an id that an earlier counter covers is an earlier row, or, among the accounts, one that
has been retouched since. Every effect on a sound store is such a step (`Effect.succeeds`), and
steps compose, so an id never passes from one row to another.
-/

namespace ChatBoard

namespace Table

variable {α : Type} [Labelled α]

/-- A table `t'` that has come from `t` by giving out ids above the counter, by removals, and by
changes of rows in place. -/
structure Descends (kin : α → α → Prop) (t' t : Table α) : Prop where
  /-- The counter does not fall. -/
  counter_le : t.counter ≤ t'.counter
  /-- An entry with an old id comes from the old entry with that id. -/
  old : ∀ y ∈ t'.entries, y.id ≤ t.counter → ∃ x ∈ t.entries, x.id = y.id ∧ kin x.row y.row

namespace Descends

variable {kin : α → α → Prop}

/-- What descends from a descendant descends. -/
theorem trans {t t' t'' : Table α} (h' : t''.Descends kin t') (h : t'.Descends kin t)
    (hkin : ∀ u v w, kin u v → kin v w → kin u w) : t''.Descends kin t where
  counter_le := Nat.le_trans h.counter_le h'.counter_le
  old z hz hid := by
    have hc := h.counter_le
    -- The counter has not fallen, so an id that it covered is covered in between too.
    obtain ⟨y, hy, hyz, hkin'⟩ := h'.old z hz (by omega)
    obtain ⟨x, hx, hxy, hkin''⟩ := h.old y hy (by omega)
    exact ⟨x, hx, hxy.trans hyz, hkin _ _ _ hkin'' hkin'⟩

/-- A table that follows descends, if every row is its own kin. -/
theorem of_follows (hkin : ∀ u, kin u u) {t t' : Table α} (h : t'.Follows t) :
    t'.Descends kin t where
  counter_le := h.counter_le
  old y hy hid := ⟨y, h.old y hy hid, rfl, hkin y.row⟩

end Descends

/-- A table that is stocked follows. -/
theorem Follows.of_stocked {t t' : Table α} {row : α} (h : t.Stocked row t') : t'.Follows t := by
  rcases h with happ | ⟨-, -, rfl⟩
  · exact (Extends.of_append happ).follows
  · exact ⟨Nat.le_max_left _ _, fun _ he _ => he⟩

/-- A table where an account is retouched descends. -/
theorem Retouched.descends {t t' : Table (Stored User)} {id : Int} (h : t.Retouched id t') :
    t'.Descends User.Retouched t where
  counter_le := Nat.le_of_eq h.counter.symm
  old y hy _ := by
    obtain ⟨x, hx, hid, hsame | htouch⟩ := h.origin hy
    · exact ⟨x, hx, hid, by rw [hsame]; exact .refl _⟩
    · exact ⟨x, hx, hid, htouch⟩

end Table

/-- A store that has come from another by effects. -/
structure Store.Succeeds (s' s : Store) : Prop where
  /-- Accounts keep their ids and all but what they show of themselves. -/
  users : ∃ t' t, s'.users = some t' ∧ s.users = some t ∧ t'.Descends User.Retouched t
  /-- Images keep their ids. -/
  images : ∃ t' t, s'.images = some t' ∧ s.images = some t ∧ t'.Follows t
  /-- Channels keep their ids. -/
  channels : ∃ t' t, s'.channels = some t' ∧ s.channels = some t ∧ t'.Follows t
  /-- Messages keep their ids. -/
  messages : ∃ t' t, s'.messages = some t' ∧ s.messages = some t ∧ t'.Follows t

namespace Store

variable {s s' : Store}

/-- A table that follows itself. -/
theorem follows_self {α : Type} [Labelled α] {o : Option (Table α)} {P : Table α → Prop}
    (h : ∃ t, o = some t ∧ P t) : ∃ t' t, o = some t' ∧ o = some t ∧ t'.Follows t := by
  obtain ⟨t, ht, -⟩ := h
  exact ⟨t, t, ht, ht, .refl t⟩

/-- A table that follows a follower. -/
theorem follows_trans {α : Type} [Labelled α] {o o' o'' : Option (Table α)}
    (h' : ∃ t' t, o'' = some t' ∧ o' = some t ∧ t'.Follows t)
    (h : ∃ t' t, o' = some t' ∧ o = some t ∧ t'.Follows t) :
    ∃ t' t, o'' = some t' ∧ o = some t ∧ t'.Follows t := by
  obtain ⟨t', t, ht', ht, hfollows⟩ := h
  obtain ⟨t'', t₁, ht'', ht₁, hfollows'⟩ := h'
  obtain rfl : t₁ = t' := Option.some.inj (ht₁.symm.trans ht')
  exact ⟨t'', t, ht'', ht, hfollows'.trans hfollows⟩

/-- A sound store succeeds itself. -/
theorem Sound.succeeds_refl (h : s.Sound) : s.Succeeds s where
  users := by
    obtain ⟨t, ht, -⟩ := h.users
    exact ⟨t, t, ht, ht, .of_follows .refl (.refl t)⟩
  images := follows_self h.images
  channels := follows_self h.channels
  messages := follows_self h.messages

/-- What succeeds a successor succeeds. -/
theorem Succeeds.trans {s'' : Store} (h' : s''.Succeeds s') (h : s'.Succeeds s) :
    s''.Succeeds s where
  users := by
    obtain ⟨t', t, ht', ht, hdescends⟩ := h.users
    obtain ⟨t'', t₁, ht'', ht₁, hdescends'⟩ := h'.users
    obtain rfl : t₁ = t' := Option.some.inj (ht₁.symm.trans ht')
    exact ⟨t'', t, ht'', ht, hdescends'.trans hdescends fun _ _ _ => User.Retouched.trans⟩
  images := follows_trans h'.images h.images
  channels := follows_trans h'.channels h.channels
  messages := follows_trans h'.messages h.messages

/-- A table that is cut follows. -/
theorem CutTo.follows {α : Type} [Labelled α] {limit : Int} {o o' : Option (Table α)}
    (h : CutTo limit o o') {P : Table α → Prop} (hthere : ∃ t, o = some t ∧ P t) :
    ∃ t' t, o' = some t' ∧ o = some t ∧ t'.Follows t := by
  cases h with
  | kept => exact follows_self hthere
  | @cut t ht => exact ⟨_, t, rfl, ht, .of_keep t _⟩

/-- A store that is cut succeeds. -/
theorem Cut.succeeds (h : s.Cut s') (hsound : s.Sound) : s'.Succeeds s where
  users := by
    obtain ⟨t', t, ht', ht, hfollows⟩ := h.users.follows hsound.users
    exact ⟨t', t, ht', ht, .of_follows .refl hfollows⟩
  images := h.images.follows hsound.images
  channels := h.channels.follows hsound.channels
  messages := h.messages.follows hsound.messages

end Store

/-- Every effect on a sound store gives one that succeeds it. -/
theorem Effect.succeeds {s : Store} (h : s.Sound) (now : String) (effect : Effect) :
    (effect.apply now s).Succeeds s := by
  have hchange := change now s effect
  have hself := h.succeeds_refl
  generalize effect.apply now s = s' at hchange ⊢
  cases hchange with
  | kept => exact hself
  | reset hcut => exact hcut.succeeds h
  | registered ht happ =>
    exact { hself with
      users := ⟨_, _, rfl, ht, .of_follows .refl (Table.Extends.of_append happ).follows⟩ }
  | channelAdded ht happ =>
    exact { hself with channels := ⟨_, _, rfl, ht, (Table.Extends.of_append happ).follows⟩ }
  | posted ht happ =>
    exact { hself with messages := ⟨_, _, rfl, ht, (Table.Extends.of_append happ).follows⟩ }
  | polled hms => exact { hself with }
  | @updated user upload s₁ s' hpicture haccount =>
    -- First a picture is stored, then the account is retouched.
    have hstocked : s₁.Succeeds s := by
      cases hpicture with
      | kept => exact hself
      | stocked ht hstock => exact { hself with images := ⟨_, _, rfl, ht, .of_stocked hstock⟩ }
    cases haccount with
    | kept => exact hstocked
    | @account t t' ht htouched =>
      obtain ⟨t₁, t₀, ht₁, ht₀, hdescends⟩ := hstocked.users
      obtain rfl : t₁ = t := Option.some.inj (ht₁.symm.trans ht)
      have husers := htouched.descends.trans hdescends fun _ _ _ => User.Retouched.trans
      exact { hstocked with users := ⟨_, _, rfl, ht₀, husers⟩ }

end ChatBoard
