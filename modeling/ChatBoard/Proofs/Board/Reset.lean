import ChatBoard.Proofs.Board.Integrity
import ChatBoard.Proofs.Board.Run
import ChatBoard.Proofs.Store.Reset

/-!
# What a reset erases

`reset_erases` says of every store that a reset takes back whatever requests have done to it. As
long as the ids of the baseline have all been given out before, requests add rows above the baseline
only, and of the rows up to it they change nothing but what accounts show of themselves
(`Store.KeepsBaseline.serve`, and for a run `Store.keepsBaseline_served`). The reset then removes
what was added, so that a reset after the requests leaves the same rows as one instead of them. A
second reset finds nothing to do.

A reset stops at the first table that is missing. The tables after it keep all their rows
(`reset_stops`).
-/

namespace ChatBoard

/-- An account without what it shows of itself. -/
def User.masked : Stored User → Stored User
  | .sound u => .sound { u with displayName := "", avatar := "" }
  | .odd cs => .odd cs

/-- The ids and the rows of a table, as far as the rows are looked at. -/
def Table.seen {α β : Type} [Labelled α] (look : α → β) (t : Table α) : List (Entry β) :=
  t.entries.map fun e => ⟨e.id, look e.row⟩

/-- Stores with the same rows, but for what accounts show of themselves. -/
structure Store.SameRows (s s' : Store) : Prop where
  users : s'.users.map (Table.seen User.masked) = s.users.map (Table.seen User.masked)
  images : s'.images.map Table.entries = s.images.map Table.entries
  channels : s'.channels.map Table.entries = s.channels.map Table.entries
  messages : s'.messages.map Table.entries = s.messages.map Table.entries
  marks : s'.marks = s.marks

/-- The ids of the baseline have been given out, so that no new row gets one of them. -/
structure Store.PastBaseline (s : Store) : Prop where
  users : ∃ t, s.users = some t ∧ 1000 ≤ t.counter
  images : ∃ t, s.images = some t ∧ 1001 ≤ t.counter
  channels : ∃ t, s.channels = some t ∧ 10 ≤ t.counter
  messages : ∃ t, s.messages = some t ∧ 10000 ≤ t.counter

/-- What a reset does to a store, whatever has been done to it before. -/
structure Erases (s : Store) : Prop where
  /-- A reset after any requests leaves the same rows as one in place of them. -/
  alike : s.PastBaseline → ∀ run e r e' r', Request.Resets r → Request.Resets r' →
    Store.SameRows (serve e r s).2 (serve e' r' (s.served run)).2
  /-- A second reset changes nothing. -/
  again : ∀ e r e' r', Request.Resets r → Request.Resets r' →
    (serve e' r' (serve e r s).2).2 = (serve e r s).2
  /-- Where no table is missing, the rows at or below the limits are left, and no marks. -/
  whole : ∀ e r, Request.Resets r → (∀ name, s.has name = true) →
    (serve e r s).1.status = 204
      ∧ rowsOf (serve e r s).2.users = (rowsOf s.users).filter (fun x => x.id ≤ 1000)
      ∧ rowsOf (serve e r s).2.images = (rowsOf s.images).filter (fun x => x.id ≤ 1001)
      ∧ rowsOf (serve e r s).2.channels = (rowsOf s.channels).filter (fun x => x.id ≤ 10)
      ∧ rowsOf (serve e r s).2.messages = (rowsOf s.messages).filter (fun x => x.id ≤ 10000)
      ∧ marksOf (serve e r s).2.marks = []
  /-- Where a table is missing, this is so of the tables before it, and the others stay. -/
  partly : ∀ e r before missing after, Request.Resets r →
    TableName.inOrder = before ++ missing :: after → (∀ name ∈ before, s.has name = true) →
      s.has missing = false →
        (serve e r s).1.status = 500 ∧ (serve e r s).2 = s.cutDown before

/-! ## Requests for the reset -/

section

variable {e : Setting} {r : Request} {s : Store}

/-- A request for the reset is answered by its outcome alone. -/
theorem serve_reset (h : r.Resets) :
    serve e r s
      = (match s.reset.1 with
          | .ok _ => .bare 204
          | .error _ => .bare 500, s.reset.2) := by
  have hroute : Route.ofPath? r.path = some (.free .reset) :=
    (Route.ofPath?_fixed_iff "initialize" (by decide)).2 h.path
  have hreset : Entrance.reset s
      = (match s.reset.1 with
          | .ok _ => .bare 204
          | .error _ => .bare 500, s.reset.2) := by
    unfold Entrance.reset
    obtain ⟨outcome, s'⟩ := s.reset
    cases outcome <;> rfl
  have hact : (Route.free .reset).act e r s = Entrance.reset s := rfl
  rw [serve_route hroute (h.get.answered _), hact, hreset]
  refine r.sent_of_empty _ ?_
  split <;> rfl

/-- A request for the reset cuts down the tables that the reset gets to. -/
theorem serve_reset_store (h : r.Resets) : (serve e r s).2 = s.cutDown s.reached := by
  rw [serve_reset h, Store.reset_store]

/-- Where no table is missing, a request for the reset succeeds. -/
theorem serve_reset_of_all (h : r.Resets) (hall : ∀ name, s.has name = true) :
    (serve e r s).1 = .bare 204 := by
  rw [serve_reset h, Store.reset_ok hall]

/-- Where a table is missing, a request for the reset fails. -/
theorem serve_reset_of_missing (h : r.Resets) {missing : TableName}
    (hmissing : s.has missing = false) : (serve e r s).1 = .bare 500 := by
  obtain ⟨fault, hfault⟩ := Store.reset_error hmissing
  rw [serve_reset h, hfault]

end

/-! ## Rows up to the baseline -/

namespace Table

variable {α β : Type} [Labelled α] {look : α → β} {limit : Nat} {t t' t'' : Table α}

/-- A table `t'` that has kept what is looked at in the rows of `t` up to a limit, and gives out ids
above the limit only. -/
structure Keeps (look : α → β) (limit : Nat) (t t' : Table α) : Prop where
  rows : (t'.keep (· ≤ limit)).seen look = (t.keep (· ≤ limit)).seen look
  counter : limit ≤ t'.counter

namespace Keeps

/-- A row under the next id is above the limit. -/
theorem append {row : α} {id : Int} (h : t.Keeps look limit t') (happ : t'.Appended row id t'') :
    t.Keeps look limit t'' := by
  have hcounter := h.counter
  have hid := happ.id_eq
  have hnew : ¬ id ≤ (limit : Int) := by omega
  have hrows : (t''.keep (· ≤ limit)).seen look = (t'.keep (· ≤ limit)).seen look := by
    unfold seen keep
    dsimp only
    rw [happ.entries, List.filter_cons_of_neg (by simpa using hnew)]
  refine ⟨hrows.trans h.rows, ?_⟩
  rw [happ.counter]
  omega

/-- What is stored in a table is above the limit. -/
theorem stocked {row : α} (h : t.Keeps look limit t') (hstock : t'.Stocked row t'') :
    t.Keeps look limit t'' := by
  rcases hstock with happ | ⟨-, -, rfl⟩
  · exact h.append happ
  · exact ⟨h.rows, Nat.le_trans h.counter (Nat.le_max_left _ _)⟩

/-- Cutting a table down to the limit keeps the rows up to it. -/
theorem keep (h : t.Keeps look limit t') : t.Keeps look limit (t'.keep (· ≤ limit)) where
  rows := by rw [keep_keep, h.rows]
  counter := h.counter

end Keeps

/-- Retouching an account that can be read changes nothing but what accounts show of
themselves. -/
theorem Retouched.seen_masked {t t' : Table (Stored User)} {id : Int} (h : t.Retouched id t')
    {user : User} (huser : ⟨id, .sound user⟩ ∈ t.entries) (p : Int → Bool) :
    (t'.keep p).seen User.masked = (t.keep p).seen User.masked := by
  obtain ⟨-, become, hentries, hbecome⟩ := h
  have hid : (fun e : Entry (Stored User) => p e.id) ∘ become = fun e => p e.id := by
    funext e
    rw [Function.comp_apply, (hbecome e).1]
  unfold seen Table.keep
  dsimp only
  rw [hentries, List.filter_map, hid, List.map_map]
  refine List.map_congr_left fun e he => ?_
  have hmem : e ∈ t.entries := (List.mem_filter.1 he).1
  obtain ⟨hsame, hkept | ⟨hown, htouch⟩⟩ := hbecome e
  · rw [Function.comp_apply, hkept]
  · -- The row is the one that can be read, and its new form differs in what is masked.
    obtain rfl := t.eq_of_id_eq hmem huser hown
    obtain ⟨displayName, avatar, hrow⟩ := htouch user rfl
    rw [Function.comp_apply, hsame, hrow]
    rfl

end Table

namespace Store

/-- A store that has kept what there was up to the baseline of another, but for what accounts show
of themselves. -/
structure KeepsBaseline (s s' : Store) : Prop where
  users : ∃ t t', s.users = some t ∧ s'.users = some t' ∧ t.Keeps User.masked 1000 t'
  images : ∃ t t', s.images = some t ∧ s'.images = some t' ∧ t.Keeps id 1001 t'
  channels : ∃ t t', s.channels = some t ∧ s'.channels = some t' ∧ t.Keeps id 10 t'
  messages : ∃ t t', s.messages = some t ∧ s'.messages = some t' ∧ t.Keeps id 10000 t'
  marks : s'.marks.isSome = s.marks.isSome

variable {s s' : Store}

/-- A store past the baseline has kept what it has. -/
theorem PastBaseline.keepsBaseline (h : s.PastBaseline) : s.KeepsBaseline s where
  users := have ⟨t, ht, hcounter⟩ := h.users; ⟨t, t, ht, ht, rfl, hcounter⟩
  images := have ⟨t, ht, hcounter⟩ := h.images; ⟨t, t, ht, ht, rfl, hcounter⟩
  channels := have ⟨t, ht, hcounter⟩ := h.channels; ⟨t, t, ht, ht, rfl, hcounter⟩
  messages := have ⟨t, ht, hcounter⟩ := h.messages; ⟨t, t, ht, ht, rfl, hcounter⟩
  marks := rfl

namespace KeepsBaseline

/-- What is kept of a table is kept when the table is cut down. -/
theorem cutTable {α β : Type} [Labelled α] {look : α → β} {limit : Nat} {o o' : Option (Table α)}
    (p : Prop) [Decidable p]
    (h : ∃ t t', o = some t ∧ o' = some t' ∧ t.Keeps look limit t') :
    ∃ t t', o = some t ∧ (if p then o'.map (·.keep (· ≤ limit)) else o') = some t'
      ∧ t.Keeps look limit t' := by
  obtain ⟨t, t', ht, ht', hkeeps⟩ := h
  by_cases hp : p
  · exact ⟨t, _, ht, by rw [if_pos hp, ht']; rfl, hkeeps.keep⟩
  · exact ⟨t, t', ht, by rw [if_neg hp, ht'], hkeeps⟩

/-- What is kept of a table is kept when the table becomes one that keeps it. -/
theorem stepTable {α β : Type} [Labelled α] {look : α → β} {limit : Nat}
    {o o' : Option (Table α)} {t' t'' : Table α}
    (h : ∃ t t', o = some t ∧ o' = some t' ∧ t.Keeps look limit t') (ht' : o' = some t')
    (step : ∀ t : Table α, t.Keeps look limit t' → t.Keeps look limit t'') :
    ∃ t t', o = some t ∧ some t'' = some t' ∧ t.Keeps look limit t' := by
  obtain ⟨t, t₁, ht, ht₁, hkeeps⟩ := h
  obtain rfl := Option.some.inj (ht₁.symm.trans ht')
  exact ⟨t, t'', ht, rfl, step t hkeeps⟩

/-- What is kept up to the baseline is kept when tables are cut down to it. -/
theorem cutDown (h : s.KeepsBaseline s') (names : List TableName) :
    s.KeepsBaseline (s'.cutDown names) where
  users := cutTable _ h.users
  images := cutTable _ h.images
  channels := cutTable _ h.channels
  messages := cutTable _ h.messages
  marks := (has_cutDown names s' .marks).trans h.marks

/-- What is kept up to the baseline is kept when a picture is stored. -/
theorem pictured {s'' : Store} (h : s.KeepsBaseline s') (hpicture : s'.Pictured s'') :
    s.KeepsBaseline s'' := by
  cases hpicture with
  | kept => exact h
  | stocked ht hstock =>
    exact { h with images := stepTable h.images ht fun _ hkeeps => hkeeps.stocked hstock }

/-- What is kept up to the baseline is kept when an account that can be read is retouched. -/
theorem retouched {s'' : Store} (h : s.KeepsBaseline s') {user : Entry User}
    (huser : ⟨user.id, .sound user.row⟩ ∈ rowsOf s'.users) (htouch : s'.Retouched user.id s'') :
    s.KeepsBaseline s'' := by
  cases htouch with
  | kept => exact h
  | account ht htouched =>
    rw [ht] at huser
    refine { h with users := stepTable h.users ht fun _ hkeeps => ⟨?_, ?_⟩ }
    · exact (htouched.seen_masked huser _).trans hkeeps.rows
    · rw [htouched.counter]
      exact hkeeps.counter

/-- What is kept up to the baseline is kept by every request. -/
theorem serve (h : s.KeepsBaseline s') (e : Setting) (r : Request) :
    s.KeepsBaseline (serve e r s').2 := by
  have horigin := Effect.origin e r s'
  have hchange := Effect.change e.clock s' (Effect.ofRequest e r s')
  rw [serve_store]
  by_cases hreset : Effect.ofRequest e r s' = .reset
  · -- Whatever tables the reset gets to, it cuts them down to the baseline.
    have hstore : (Effect.ofRequest e r s').apply e.clock s' = s'.cutDown s'.reached := by
      rw [hreset, ← reset_store]
      rfl
    rw [hstore]
    exact h.cutDown _
  generalize Effect.ofRequest e r s' = effect at horigin hchange hreset ⊢
  generalize effect.apply e.clock s' = s'' at hchange ⊢
  cases hchange with
  | kept => exact h
  | reset => exact absurd rfl hreset
  | registered ht happ =>
    exact { h with users := stepTable h.users ht fun _ hkeeps => hkeeps.append happ }
  | channelAdded ht happ =>
    exact { h with channels := stepTable h.channels ht fun _ hkeeps => hkeeps.append happ }
  | posted ht happ =>
    exact { h with messages := stepTable h.messages ht fun _ hkeeps => hkeeps.append happ }
  | polled hms =>
    have hmarks := h.marks
    rw [hms] at hmarks
    exact { h with marks := hmarks }
  | updated hpicture haccount =>
    cases horigin with
    | update account path post =>
      obtain ⟨-, huser⟩ := Visitor.ofCookies_eq_account_iff.1 account
      rw [← hpicture.users] at huser
      exact (h.pictured hpicture).retouched huser haccount

end KeepsBaseline

/-- What there is up to the baseline is kept by every run of requests. -/
theorem keepsBaseline_served (h : s.PastBaseline) (run : List Call) :
    s.KeepsBaseline (s.served run) := by
  induction run with
  | nil => exact h.keepsBaseline
  | cons call earlier ih => exact ih.serve call.setting call.request

/-- What has been kept up to the baseline lacks the same tables. -/
theorem KeepsBaseline.has_eq (h : s.KeepsBaseline s') : s'.has = s.has := by
  obtain ⟨u, u', hu, hu', -⟩ := h.users
  obtain ⟨i, i', hi, hi', -⟩ := h.images
  obtain ⟨c, c', hc, hc', -⟩ := h.channels
  obtain ⟨m, m', hm, hm', -⟩ := h.messages
  funext name
  cases name with
  | users => rw [has, has, hu, hu', Option.isSome_some, Option.isSome_some]
  | images => rw [has, has, hi, hi', Option.isSome_some, Option.isSome_some]
  | channels => rw [has, has, hc, hc', Option.isSome_some, Option.isSome_some]
  | messages => rw [has, has, hm, hm', Option.isSome_some, Option.isSome_some]
  | marks => exact h.marks

/-- No table but the marks can be missing where something is kept up to the baseline. -/
theorem KeepsBaseline.has_of_ne (h : s.KeepsBaseline s') {name : TableName}
    (hname : name ≠ .marks) : s.has name = true := by
  cases name with
  | users =>
    obtain ⟨t, -, ht, -⟩ := h.users
    rw [has, ht, Option.isSome_some]
  | images =>
    obtain ⟨t, -, ht, -⟩ := h.images
    rw [has, ht, Option.isSome_some]
  | channels =>
    obtain ⟨t, -, ht, -⟩ := h.channels
    rw [has, ht, Option.isSome_some]
  | messages =>
    obtain ⟨t, -, ht, -⟩ := h.messages
    rw [has, ht, Option.isSome_some]
  | marks => exact absurd rfl hname

/-- As the marks come last, a reset then gets to every table that is there. -/
theorem KeepsBaseline.mem_reached (h : s.KeepsBaseline s') {name : TableName}
    (hname : s.has name = true) : name ∈ s.reached := by
  have husers : s.has .users = true := h.has_of_ne (by decide)
  have himages : s.has .images = true := h.has_of_ne (by decide)
  have hchannels : s.has .channels = true := h.has_of_ne (by decide)
  have hmessages : s.has .messages = true := h.has_of_ne (by decide)
  unfold reached TableName.inOrder
  simp only [List.takeWhile_cons, husers, himages, hchannels, hmessages, if_true]
  cases name <;> simp [hname]

/-- Tables that agree up to a limit look the same when they are cut down to it. -/
theorem seen_cut {α β : Type} [Labelled α] {look : α → β} {limit : Nat} {o o' : Option (Table α)}
    (h : ∃ t t', o = some t ∧ o' = some t' ∧ t.Keeps look limit t') {p : Prop} [Decidable p]
    (hp : p) :
    (if p then o'.map (·.keep (· ≤ limit)) else o').map (Table.seen look)
      = (if p then o.map (·.keep (· ≤ limit)) else o).map (Table.seen look) := by
  obtain ⟨t, t', rfl, rfl, hkeeps⟩ := h
  rw [if_pos hp, if_pos hp]
  exact congrArg some hkeeps.rows

/-- Stores that agree up to the baseline have the same rows after a reset. -/
theorem KeepsBaseline.sameRows (h : s.KeepsBaseline s') :
    (s.cutDown s.reached).SameRows (s'.cutDown s'.reached) := by
  have hreached : s'.reached = s.reached := by rw [reached, h.has_eq, ← reached]
  have hentries : ∀ {α : Type} [Labelled α], Table.seen (id : α → α) = Table.entries := by
    intro α _
    funext t
    exact List.map_id _
  have hmem : ∀ name, name ≠ .marks → name ∈ s.reached :=
    fun name hname => h.mem_reached (h.has_of_ne hname)
  rw [hreached]
  refine ⟨seen_cut h.users (hmem _ (by decide)), ?_, ?_, ?_, ?_⟩
  · rw [← hentries]
    exact seen_cut h.images (hmem _ (by decide))
  · rw [← hentries]
    exact seen_cut h.channels (hmem _ (by decide))
  · rw [← hentries]
    exact seen_cut h.messages (hmem _ (by decide))
  · -- The marks are missing from both stores, or both lose them.
    have hmarks := h.marks
    unfold Store.cutDown
    dsimp only
    cases hs : s.marks with
    | none =>
      rw [hs] at hmarks
      have hnone := Option.not_isSome_iff_eq_none.1 (ne_true_of_eq_false hmarks)
      simp [hnone]
    | some ms =>
      rw [hs] at hmarks
      obtain ⟨ms', hms'⟩ := Option.isSome_iff_exists.1 hmarks
      have hreach : TableName.marks ∈ s.reached :=
        h.mem_reached (by rw [has, hs, Option.isSome_some])
      simp [hreach, hms']

end Store

/-! ## What a reset erases -/

/-- Of a table the rows up to a limit are left if it is cut down whenever it is there. -/
theorem rowsOf_cut {α : Type} [Labelled α] {o : Option (Table α)} {p : Prop} [Decidable p]
    (h : o.isSome → p) (limit : Int) :
    rowsOf (if p then o.map (·.keep (· ≤ limit)) else o)
      = (rowsOf o).filter (fun x => x.id ≤ limit) := by
  cases o with
  | none =>
    rw [Option.map_none, ite_self]
    rfl
  | some t =>
    rw [if_pos (h rfl)]
    rfl

/-- A reset erases what requests have added, and a second one finds nothing to do. -/
theorem reset_erases (s : Store) : Erases s where
  alike hpast run e r e' r' hr hr' := by
    rw [serve_reset_store hr, serve_reset_store hr']
    exact (Store.keepsBaseline_served hpast run).sameRows
  again e r e' r' hr hr' := by
    have hagain := s.reset_reset
    rw [serve_reset hr', serve_reset hr]
    exact hagain
  whole e r hr hall := by
    have hstore : (serve e r s).2 = s.cutDown TableName.inOrder := by
      rw [serve_reset_store hr, Store.reached_of_all hall]
    rw [serve_reset_of_all hr hall, hstore]
    refine ⟨rfl, rowsOf_cut (fun _ => TableName.mem_inOrder .users) _,
      rowsOf_cut (fun _ => TableName.mem_inOrder .images) _,
      rowsOf_cut (fun _ => TableName.mem_inOrder .channels) _,
      rowsOf_cut (fun _ => TableName.mem_inOrder .messages) _, ?_⟩
    show marksOf (s.marks.map fun _ => .empty) = []
    cases s.marks <;> rfl
  partly e r before missing after hr horder hbefore hmissing := by
    rw [serve_reset_of_missing hr hmissing, serve_reset_store hr,
      Store.reached_of_missing horder hbefore hmissing]
    exact ⟨rfl, rfl⟩

namespace Sample

/-- Resets the board. -/
def clears : Call := call .get "/initialize" "" ""

/-- A store whose ids of the baseline have been given out. -/
def grown : Store where
  users := some (Table.empty.placeNew 1000 (.sound alice.row))
  images := some (Table.empty.placeNew 1001 (.sound ⟨DefaultAvatar.name, []⟩))
  channels := some (Table.empty.placeNew 10 (.sound (Store.firstChannel opened)))
  messages := some (Table.empty.placeNew 10000 (.sound ⟨10, 1000, "hi", opened⟩))
  marks := some .empty

/-- A store above the baseline that has lost its images. -/
def damaged : Store where
  users := some (Table.empty.placeNew 1001 (.sound alice.row))
  images := none
  channels := some (Table.empty.placeNew 10 (.sound (Store.firstChannel opened)))
  messages := some (Table.empty.placeNew 10001 (.sound ⟨10, 1001, "hi", opened⟩))
  marks := some .empty

/-- It is a reset. -/
theorem resets_clears : clears.request.Resets := ⟨.inl rfl, rfl⟩

/-- The ids of the baseline have been given out. -/
theorem pastBaseline_grown : grown.PastBaseline where
  users := ⟨_, rfl, by decide⟩
  images := ⟨_, rfl, by decide⟩
  channels := ⟨_, rfl, by decide⟩
  messages := ⟨_, rfl, by decide⟩

end Sample

/-- Such a store has the same rows after an account was made, posted a message and polled the
channel before the reset. -/
theorem reset_erases_grown :
    Sample.grown.PastBaseline
      ∧ Store.SameRows (serve Sample.setting Sample.clears.request Sample.grown).2
        (serve Sample.setting Sample.clears.request
          (Sample.grown.served [Sample.polls, Sample.posts, Sample.signsUp])).2 :=
  ⟨Sample.pastBaseline_grown,
    (reset_erases Sample.grown).alike Sample.pastBaseline_grown _ _ _ _ _ Sample.resets_clears
      Sample.resets_clears⟩

/-- A reset of the damaged store fails, and it keeps the message above the baseline. -/
theorem reset_stops :
    (serve Sample.setting Sample.clears.request Sample.damaged).1.status = 500
      ∧ rowsOf (serve Sample.setting Sample.clears.request Sample.damaged).2.messages
        ≠ (rowsOf Sample.damaged.messages).filter (fun x => x.id ≤ 10000) := by
  have hmissing : Sample.damaged.has .images = false := rfl
  rw [serve_reset_of_missing Sample.resets_clears hmissing, serve_reset_store Sample.resets_clears]
  exact ⟨rfl, by decide +kernel⟩

end ChatBoard
