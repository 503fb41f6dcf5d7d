import ChatBoard.Proofs.Board.Change
import ChatBoard.Proofs.Board.Origin
import ChatBoard.Proofs.Board.Visitor

/-!
# Whose data a request may touch

`Intact` says what a request of anyone leaves alone: every row of every table stays as it is, but an
account may give itself another display name and avatar, it may move its own mark of the channel
that it polls, and the reset removes what lies above the baseline and all marks. Beyond that at most
one row is added, and a new message is its account's own. `serve_intact` proves it of every request
to every store: what the request asks for has an origin (`Effect.origin`), and what it gets is one
of a few changes (`Effect.change`).
-/

namespace ChatBoard

namespace Request

/-- A request for the reset. -/
structure Resets (r : Request) : Prop where
  get : r.IsGet
  path : r.path = Octets.ofText "/initialize"

/-- A request of an account that changes its profile. -/
structure ChangesProfile (e : Setting) (s : Store) (user : Entry User) (r : Request) : Prop where
  account : r.IsFrom e s user
  post : r.method = .post
  path : r.path = Octets.ofText "/profile"

/-- A request of an account that posts a message. -/
structure PostsMessage (e : Setting) (s : Store) (user : Entry User) (r : Request) : Prop where
  account : r.IsFrom e s user
  post : r.method = .post
  path : r.path = Octets.ofText "/message"

/-- A request of an account that polls a channel. -/
structure PollsChannel (e : Setting) (s : Store) (user : Entry User) (channel : Int)
    (r : Request) : Prop where
  account : r.IsFrom e s user
  get : r.IsGet
  path : r.path = Octets.ofText "/message"
  query : ∃ after, r.queryNumbers "channel_id" "last_message_id" = .ok (channel, after)

end Request

/-- The marks of a store, none if they are missing. -/
def marksOf : Option ReadMarks → List (Entry (Stored ReadMark))
  | some ms => ms.marks
  | none => []

/-- Every row stays, unless the request resets the board and the row's id is above a limit. -/
def Stays {α : Type} (r : Request) (limit : Int) (rows rows' : List (Entry α)) : Prop :=
  ∀ x ∈ rows, x ∈ rows' ∨ r.Resets ∧ limit < x.id ∧ ∀ y ∈ rows', y.id ≠ x.id

/-- The number of rows with ids that were not there before. -/
def added {α : Type} (rows rows' : List (Entry α)) : Nat :=
  rows'.countP fun y => decide (∀ x ∈ rows, x.id ≠ y.id)

/-- A store after a request, where nothing has been touched but what the request may touch. -/
structure Intact (e : Setting) (r : Request) (s s' : Store) : Prop where
  /-- An account stays as it is, or has given itself a display name and an avatar, or is removed by
  the reset, which it can only be above the baseline. -/
  users : ∀ x ∈ rowsOf s.users, x ∈ rowsOf s'.users
    ∨ (∃ u displayName avatar, x.row = .sound u ∧ r.ChangesProfile e s ⟨x.id, u⟩
        ∧ ⟨x.id, .sound { u with displayName := displayName, avatar := avatar }⟩ ∈ rowsOf s'.users)
    ∨ r.Resets ∧ 1000 < x.id ∧ ∀ y ∈ rowsOf s'.users, y.id ≠ x.id
  /-- Channels stay as they are, or are removed by the reset. -/
  channels : Stays r 10 (rowsOf s.channels) (rowsOf s'.channels)
  /-- Messages stay as they are, or are removed by the reset. -/
  messages : Stays r 10000 (rowsOf s.messages) (rowsOf s'.messages)
  /-- Images stay as they are, or are removed by the reset. -/
  images : Stays r 1001 (rowsOf s.images) (rowsOf s'.images)
  /-- A mark stays as it is, or its account has moved it by a poll of its channel, or the reset has
  removed all marks. -/
  marks : ∀ x ∈ marksOf s.marks, x ∈ marksOf s'.marks
    ∨ (∃ user channel message, r.PollsChannel e s user channel
        ∧ ReadMark.key x.row = ReadMarks.keyOf user.id channel
        ∧ ⟨x.id, ReadMark.movedTo message e.clock x.row⟩ ∈ marksOf s'.marks)
    ∨ r.Resets ∧ marksOf s'.marks = []
  /-- A mark that is new or has moved is that of the account that polls, of the channel it polls. -/
  newMarks : ∀ y ∈ marksOf s'.marks, y ∈ marksOf s.marks
    ∨ ∃ user channel, r.PollsChannel e s user channel
        ∧ ReadMark.key y.row = ReadMarks.keyOf user.id channel
  /-- At most one account, channel, message or image is added. -/
  added : added (rowsOf s.users) (rowsOf s'.users) + added (rowsOf s.channels) (rowsOf s'.channels)
    + added (rowsOf s.messages) (rowsOf s'.messages)
    + added (rowsOf s.images) (rowsOf s'.images) ≤ 1
  /-- A new message has the account that posts it as its author. -/
  author : ∀ y ∈ rowsOf s'.messages, y ∈ rowsOf s.messages
    ∨ ∃ user m, r.PostsMessage e s user ∧ y.row = .sound m ∧ m.author = user.id

/-! ## Rows that stay and rows that are new -/

section

variable {α : Type} {r : Request} {limit : Int}

/-- All rows stay where none is touched. -/
theorem Stays.refl (r : Request) (limit : Int) (rows : List (Entry α)) : Stays r limit rows rows :=
  fun _ hx => .inl hx

/-- All rows stay where one is added. -/
theorem Stays.cons (new : Entry α) (rows : List (Entry α)) : Stays r limit rows (new :: rows) :=
  fun _ hx => .inl (List.mem_cons_of_mem new hx)

/-- Nothing is added where every id was there before. -/
theorem added_eq_zero {rows rows' : List (Entry α)} (h : ∀ y ∈ rows', ∃ x ∈ rows, x.id = y.id) :
    added rows rows' = 0 := by
  refine List.countP_eq_zero.2 fun y hy hnew => ?_
  obtain ⟨x, hx, hid⟩ := h y hy
  exact of_decide_eq_true hnew x hx hid

/-- Nothing is added to rows that are as they were. -/
theorem added_self (rows : List (Entry α)) : added rows rows = 0 :=
  added_eq_zero fun y hy => ⟨y, hy, rfl⟩

/-- One row that is added is at most one. -/
theorem added_cons_le (new : Entry α) (rows : List (Entry α)) : added rows (new :: rows) ≤ 1 := by
  -- Of the rows only the first can have an id that was not there before.
  have hold : rows.countP (fun y => decide (∀ x ∈ rows, x.id ≠ y.id)) = 0 := added_self rows
  unfold added
  rw [List.countP_cons]
  split <;> omega

/-- Where an account is retouched, none is added. -/
theorem Table.Retouched.added {t t' : Table (Stored User)} {id : Int} (h : t.Retouched id t') :
    added t.entries t'.entries = 0 :=
  added_eq_zero fun _ hy =>
    have ⟨x, hx, hid, _⟩ := h.origin hy
    ⟨x, hx, hid⟩

variable [Labelled α] {t t' : Option (Table α)}

/-- A table that is cut keeps no row that it did not have. -/
theorem Store.CutTo.subset (h : CutTo limit t t') : ∀ y ∈ rowsOf t', y ∈ rowsOf t := by
  intro y hy
  cases h with
  | kept => exact hy
  | cut ht =>
    subst ht
    exact (List.mem_filter.1 hy).1

/-- A row of a table that is cut stays, or it was above the limit and is gone. -/
theorem Store.CutTo.fate (h : CutTo limit t t') {x : Entry α} (hx : x ∈ rowsOf t) :
    x ∈ rowsOf t' ∨ limit < x.id ∧ ∀ y ∈ rowsOf t', y.id ≠ x.id := by
  cases h with
  | kept => exact .inl hx
  | cut ht =>
    subst ht
    by_cases hid : x.id ≤ limit
    · exact .inl (List.mem_filter.2 ⟨hx, decide_eq_true hid⟩)
    · refine .inr ⟨Int.not_le.1 hid, fun y hy heq => hid ?_⟩
      rw [← heq]
      exact of_decide_eq_true (List.mem_filter.1 hy).2

/-- Rows of a table that a reset cuts stay as far as they may. -/
theorem Store.CutTo.stays (h : CutTo limit t t') (hreset : r.Resets) :
    Stays r limit (rowsOf t) (rowsOf t') := by
  intro x hx
  rcases h.fate hx with hkept | hgone
  · exact .inl hkept
  · exact .inr ⟨hreset, hgone⟩

/-- A table that is cut has no new row. -/
theorem Store.CutTo.added (h : CutTo limit t t') : added (rowsOf t) (rowsOf t') = 0 :=
  added_eq_zero fun y hy => ⟨y, h.subset y hy, rfl⟩

end

/-! ## One change after the other -/

namespace Intact

variable {e : Setting} {r : Request} {s s' : Store}

/-- Nothing is touched in a store that is as it was. -/
theorem refl (e : Setting) (r : Request) (s : Store) : Intact e r s s where
  users _ hx := .inl hx
  channels := .refl r _ _
  messages := .refl r _ _
  images := .refl r _ _
  marks _ hx := .inl hx
  newMarks _ hy := .inl hy
  added := by simp only [added_self, Nat.add_zero, Nat.zero_le]
  author _ hy := .inl hy

/-- The reset touches what lies above the baseline, and the marks. -/
theorem cut (hreset : r.Resets) (h : s.Cut s') : Intact e r s s' where
  users x hx := (h.users.fate hx).imp id fun hgone => .inr ⟨hreset, hgone⟩
  channels := h.channels.stays hreset
  messages := h.messages.stays hreset
  images := h.images.stays hreset
  marks x hx := by
    rcases h.marks with hsame | hempty
    · rw [hsame]
      exact .inl hx
    · rw [hempty]
      exact .inr (.inr ⟨hreset, rfl⟩)
  newMarks y hy := by
    rcases h.marks with hsame | hempty
    · rw [hsame] at hy
      exact .inl hy
    · rw [hempty] at hy
      exact absurd hy List.not_mem_nil
  added := by simp only [h.users.added, h.channels.added, h.messages.added, h.images.added,
    Nat.add_zero, Nat.zero_le]
  author y hy := .inl (h.messages.subset y hy)

/-- A new account touches nothing. -/
theorem registered {t t' : Table (Stored User)} {row : Stored User} {id : Int}
    (ht : s.users = some t) (happ : t.Appended row id t') :
    Intact e r s { s with users := some t' } :=
  { refl e r s with
    users := fun x hx => by
      rw [ht] at hx
      rw [rowsOf_some, happ.entries]
      exact .inl (List.mem_cons_of_mem _ hx)
    added := by
      simp only [added_self, ht, rowsOf_some, happ.entries]
      exact added_cons_le _ _ }

/-- A new channel touches nothing. -/
theorem channelAdded {t t' : Table (Stored Channel)} {row : Stored Channel} {id : Int}
    (ht : s.channels = some t) (happ : t.Appended row id t') :
    Intact e r s { s with channels := some t' } :=
  { refl e r s with
    channels := by
      rw [ht, rowsOf_some, rowsOf_some, happ.entries]
      exact .cons _ _
    added := by
      simp only [added_self, ht, rowsOf_some, happ.entries, Nat.zero_add]
      exact added_cons_le _ _ }

/-- A picture that is stored touches nothing. -/
theorem pictured {t t' : Table (Stored Image)} {row : Stored Image} (ht : s.images = some t)
    (hstock : t.Stocked row t') : Intact e r s { s with images := some t' } := by
  rcases hstock with happ | ⟨-, -, rfl⟩
  · exact { refl e r s with
      images := by
        rw [ht, rowsOf_some, rowsOf_some, happ.entries]
        exact .cons _ _
      added := by
        simp only [added_self, ht, rowsOf_some, happ.entries, Nat.zero_add]
        exact added_cons_le _ _ }
  · -- Only an id is used up.
    have hrows : rowsOf (some (t.raise (t.counter + 1))) = rowsOf s.images := by
      rw [ht]
      rfl
    exact { refl e r s with
      images := by
        rw [hrows]
        exact .refl r _ _
      added := by simp only [hrows, added_self, Nat.add_zero, Nat.zero_le] }

/-- A new message of the account that posts it touches nothing. -/
theorem posted {t t' : Table (Stored Message)} {m : Message} {id : Int} {user : Entry User}
    (ht : s.messages = some t) (happ : t.Appended (.sound m) id t')
    (hposts : r.PostsMessage e s user) (hauthor : m.author = user.id) :
    Intact e r s { s with messages := some t' } :=
  { refl e r s with
    messages := by
      rw [ht, rowsOf_some, rowsOf_some, happ.entries]
      exact .cons _ _
    added := by
      simp only [added_self, ht, rowsOf_some, happ.entries, Nat.zero_add]
      exact added_cons_le _ _
    author := fun y hy => by
      rw [rowsOf_some, happ.entries] at hy
      rw [ht]
      rcases List.mem_cons.1 hy with rfl | hy
      · exact .inr ⟨user, m, hposts, rfl, hauthor⟩
      · exact .inl hy }

/-- A poll touches the mark of its account and its channel. -/
theorem polled {ms : ReadMarks} {user : Entry User} {channel message : Int}
    (hms : s.marks = some ms) (hpolls : r.PollsChannel e s user channel) :
    Intact e r s { s with marks := some (ms.set user.id channel message e.clock) } := by
  refine { refl e r s with marks := fun x hx => ?_, newMarks := fun y hy => ?_ }
  · rw [hms] at hx
    rcases ms.set_of_mem user.id channel message e.clock hx with hkept | ⟨hkey, hmoved⟩
    · exact .inl hkept
    · exact .inr (.inl ⟨user, channel, message, hpolls, hkey, hmoved⟩)
  · rw [hms]
    exact (ms.of_mem_set hy).imp id fun hkey => ⟨user, channel, hpolls, hkey⟩

/-- A changed profile touches its own account, and may add a picture. -/
theorem updated {s₁ : Store} {user : Entry User} (hchanges : r.ChangesProfile e s user)
    (hpicture : s.Pictured s₁) (haccount : s₁.Retouched user.id s') : Intact e r s s' := by
  have husers := hpicture.users
  have hintact : Intact e r s s₁ := by
    cases hpicture with
    | kept => exact refl e r s
    | stocked ht hstock => exact pictured ht hstock
  cases haccount with
  | kept => exact hintact
  | @account t t' ht htouched =>
    rw [husers] at ht
    refine { hintact with users := fun x hx => ?_, added := ?_ }
    · rw [ht] at hx
      rcases htouched.fate hx with hkept | ⟨hown, row, htouch, hmem⟩
      · exact .inl hkept
      · -- The row with the account's id is the one that the account was read from.
        obtain ⟨-, huser⟩ := Visitor.ofCookies_eq_account_iff.1 hchanges.account
        rw [ht] at huser
        obtain rfl := t.eq_of_id_eq hx huser hown
        obtain ⟨displayName, avatar, rfl⟩ := htouch _ rfl
        exact .inr (.inl ⟨user.row, displayName, avatar, rfl, hchanges, hmem⟩)
    · have hadded := hintact.added
      rw [husers, added_self] at hadded
      rw [ht, rowsOf_some, rowsOf_some, htouched.added]
      exact hadded

end Intact

/-- What a request asks for touches only what the request may touch. -/
theorem Effect.intact (e : Setting) (r : Request) (s : Store) :
    Intact e r s ((ofRequest e r s).apply e.clock s) := by
  have horigin := origin e r s
  have hchange := change e.clock s (ofRequest e r s)
  -- What is left to compare is where the effect comes from with what it changes.
  generalize ofRequest e r s = effect at horigin hchange ⊢
  generalize effect.apply e.clock s = s' at hchange ⊢
  cases hchange with
  | kept => exact .refl e r s
  | reset hcut =>
    cases horigin with
    | reset path get => exact .cut ⟨get, path⟩ hcut
  | registered ht happ => exact .registered ht happ
  | channelAdded ht happ => exact .channelAdded ht happ
  | posted ht happ =>
    cases horigin with
    | post account path post => exact .posted ht happ ⟨account, post, path⟩ rfl
  | polled hms =>
    cases horigin with
    | poll account path get query => exact .polled hms ⟨account, get, path, _, query⟩
  | updated hpicture haccount =>
    cases horigin with
    | update account path post => exact .updated ⟨account, post, path⟩ hpicture haccount

/-- A request of anyone to any store touches only what it may touch. -/
theorem serve_intact (e : Setting) (r : Request) (s : Store) : Intact e r s (serve e r s).2 := by
  rw [serve_store]
  exact Effect.intact e r s

end ChatBoard
