import ChatBoard.Proofs.Board.Effect
import ChatBoard.Proofs.Store.Reset
import ChatBoard.Proofs.Store.Sound

/-!
# What an effect may change

`Effect.Change` says once, effect by effect, what becomes of a store: an effect that fails part of
the way leaves the store as it was, the reset cuts tables down to the baseline (`Store.Cut`), an
account, a channel or a message is appended to its table, a poll sets a mark, and a changed profile
stocks a picture and gives its own account another display name or avatar (`Store.Retouched`).
`Effect.change` shows that every effect makes such a change of any store, also of one that lacks a
table or has rows that cannot be read. What holds after each of the changes holds after every
effect, as that the store is sound (`Effect.sound_apply`).
-/

namespace ChatBoard

/-- The account in a row, if it can be read, stands in another row too, there with a display name
and an avatar of its own. -/
def User.Retouched (u u' : Stored User) : Prop :=
  ∀ a, u = .sound a →
    ∃ displayName avatar, u' = .sound { a with displayName := displayName, avatar := avatar }

/-- An account that is left alone is among those that may have been retouched. -/
theorem User.Retouched.refl (u : Stored User) : User.Retouched u u :=
  fun a ha => ⟨a.displayName, a.avatar, ha⟩

/-- What retouches a retouched account retouches the account. -/
theorem User.Retouched.trans {u u' u'' : Stored User} (h : User.Retouched u u')
    (h' : User.Retouched u' u'') : User.Retouched u u'' := by
  intro a ha
  obtain ⟨_, _, hu'⟩ := h a ha
  obtain ⟨displayName, avatar, hu''⟩ := h' _ hu'
  exact ⟨displayName, avatar, hu''⟩

namespace Table

/-- A table `t'` that has come from `t` by retouching the account with an id. -/
structure Retouched (t : Table (Stored User)) (id : Int) (t' : Table (Stored User)) : Prop where
  /-- The counter stays. -/
  counter : t'.counter = t.counter
  /-- Each row keeps its place and its id, and only the row with the id may be retouched. -/
  rows : ∃ become : Entry (Stored User) → Entry (Stored User),
    t'.entries = t.entries.map become
      ∧ ∀ e, (become e).id = e.id
        ∧ (become e = e ∨ e.id = id ∧ User.Retouched e.row (become e).row)

/-- A row stays as it is where an account is retouched, unless it is that one. -/
theorem Retouched.fate {t t' : Table (Stored User)} {id : Int} (h : t.Retouched id t')
    {x : Entry (Stored User)} (hx : x ∈ t.entries) :
    x ∈ t'.entries
      ∨ x.id = id ∧ ∃ row, User.Retouched x.row row ∧ ⟨x.id, row⟩ ∈ t'.entries := by
  obtain ⟨-, become, hentries, hbecome⟩ := h
  have hmem : become x ∈ t'.entries := by
    rw [hentries]
    exact List.mem_map.2 ⟨x, hx, rfl⟩
  obtain ⟨hid, hsame | ⟨hown, htouch⟩⟩ := hbecome x
  · rw [hsame] at hmem
    exact .inl hmem
  · refine .inr ⟨hown, (become x).row, htouch, ?_⟩
    rw [← hid]
    exact hmem

/-- A row of a table where an account has been retouched was there before, as it is or as it was
when the account was retouched. -/
theorem Retouched.origin {t t' : Table (Stored User)} {id : Int} (h : t.Retouched id t')
    {y : Entry (Stored User)} (hy : y ∈ t'.entries) :
    ∃ x ∈ t.entries, x.id = y.id ∧ (y.row = x.row ∨ User.Retouched x.row y.row) := by
  obtain ⟨-, become, hentries, hbecome⟩ := h
  rw [hentries] at hy
  obtain ⟨x, hx, rfl⟩ := List.mem_map.1 hy
  obtain ⟨hid, hstep⟩ := hbecome x
  exact ⟨x, hx, hid.symm, hstep.imp (congrArg Entry.row) And.right⟩

/-- What retouches an account of a retouched table retouches it in the table. -/
theorem Retouched.trans {t t' t'' : Table (Stored User)} {id : Int} (h : t.Retouched id t')
    (h' : t'.Retouched id t'') : t.Retouched id t'' := by
  obtain ⟨hcounter, f, hf, hrow⟩ := h
  obtain ⟨hcounter', g, hg, hrow'⟩ := h'
  refine ⟨hcounter'.trans hcounter, g ∘ f, by rw [hg, hf, List.map_map], fun e => ?_⟩
  obtain ⟨hid, hstep⟩ := hrow e
  obtain ⟨hid', hstep'⟩ := hrow' (f e)
  refine ⟨hid'.trans hid, ?_⟩
  rw [Function.comp_apply]
  rcases hstep with hsame | ⟨hown, htouch⟩
  · rw [hsame] at hstep' ⊢
    exact hstep'
  · -- The first step has retouched the row, and the second may have.
    refine .inr ⟨hown, ?_⟩
    rcases hstep' with hsame' | ⟨-, htouch'⟩
    · rw [hsame']
      exact htouch
    · exact htouch.trans htouch'

end Table

namespace Store

/-- A store that has come from another by retouching the account with an id. -/
inductive Retouched (s : Store) (id : Int) : Store → Prop where
  | kept : Retouched s id s
  | account {t t' : Table (Stored User)} (users : s.users = some t) (touched : t.Retouched id t') :
      Retouched s id { s with users := some t' }

/-- What retouches an account of a retouched store retouches it in the store. -/
theorem Retouched.trans {s s' s'' : Store} {id : Int} (h : s.Retouched id s')
    (h' : s'.Retouched id s'') : s.Retouched id s'' := by
  cases h with
  | kept => exact h'
  | account ht htouched =>
    cases h' with
    | kept => exact .account ht htouched
    | account ht' htouched' =>
      obtain rfl := Option.some.inj ht'
      exact .account ht (htouched.trans htouched')

/-- Changing an account in a way that retouches it. -/
theorem retouched_reviseUser {s s' : Store} {id : Int} {change : Stored User → Stored User}
    {same : ∀ u, User.label (change u) = User.label u} (touches : ∀ u, User.Retouched u (change u))
    (h : s.reviseUser id change same = .ok s') : s.Retouched id s' := by
  obtain ⟨t, t', ht, hcounter, hentries, rfl⟩ := reviseUser_ok h
  refine .account ht ⟨hcounter, _, hentries, fun e => ⟨rfl, ?_⟩⟩
  dsimp only
  -- Only the row with the id is changed.
  split
  next hid => exact .inr ⟨hid, touches e.row⟩
  · exact .inl rfl

/-- A new avatar retouches an account. -/
theorem retouched_pointAvatar {s s' : Store} {id : Int} {image : String}
    (h : s.pointAvatar id image = .ok s') : s.Retouched id s' := by
  refine retouched_reviseUser (fun u => ?_) h
  rintro a rfl
  exact ⟨a.displayName, image, rfl⟩

/-- A new display name retouches an account. -/
theorem retouched_setDisplayName {s s' : Store} {id : Int} {displayName : String}
    (h : s.setDisplayName id displayName = .ok s') : s.Retouched id s' := by
  refine retouched_reviseUser (fun u => ?_) h
  rintro a rfl
  exact ⟨displayName, a.avatar, rfl⟩

/-- A table that is as it was or keeps its rows up to an id. -/
inductive CutTo {α : Type} [Labelled α] (limit : Int) (t : Option (Table α)) :
    Option (Table α) → Prop where
  | kept : CutTo limit t t
  | cut {rows : Table α} (there : t = some rows) : CutTo limit t (some (rows.keep (· ≤ limit)))

/-- A store that has come from another by cutting tables down to the baseline. -/
structure Cut (s s' : Store) : Prop where
  users : CutTo baseline.users s.users s'.users
  images : CutTo baseline.images s.images s'.images
  channels : CutTo baseline.channels s.channels s'.channels
  messages : CutTo baseline.messages s.messages s'.messages
  marks : s'.marks = s.marks ∨ s'.marks = some .empty

/-- A table that is cut down on a condition is as it was or keeps its rows up to an id. -/
theorem CutTo.of_ite {α : Type} [Labelled α] {limit : Int} (t : Option (Table α)) (p : Prop)
    [Decidable p] : CutTo limit t (if p then t.map (·.keep (· ≤ limit)) else t) := by
  by_cases hp : p
  · rw [if_pos hp]
    cases t with
    | none => exact .kept
    | some rows => exact .cut rfl
  · rw [if_neg hp]
    exact .kept

/-- The reset cuts tables down to the baseline, as far as it gets. -/
theorem cut_reset (s : Store) : s.Cut s.reset.2 := by
  rw [reset_store]
  refine ⟨.of_ite _ _, .of_ite _ _, .of_ite _ _, .of_ite _ _, ?_⟩
  unfold cutDown
  dsimp only
  split
  · cases s.marks with
    | none => exact .inl rfl
    | some ms => exact .inr rfl
  · exact .inl rfl

/-- A store that has come from another by storing at most one picture. -/
inductive Pictured (s : Store) : Store → Prop where
  | kept : Pictured s s
  | stocked {name : String} {data : Octets} {t t' : Table (Stored Image)}
      (images : s.images = some t) (stock : t.Stocked (.sound ⟨name, data⟩) t') :
      Pictured s { s with images := some t' }

/-- Where a picture is stored the accounts stay. -/
theorem Pictured.users {s s' : Store} (h : s.Pictured s') : s'.users = s.users := by
  cases h <;> rfl

/-- Where an account is retouched the images stay. -/
theorem Retouched.images {s s' : Store} {id : Int} (h : s.Retouched id s') :
    s'.images = s.images := by
  cases h <;> rfl

variable {id : Int} {rest : List (Store → Except StoreFault Store)}

/-- Changes in turn that each retouch an account retouch it. -/
theorem retouched_inTurn (touch : ∀ change ∈ rest, ∀ s s' : Store, change s = .ok s' →
    s.Retouched id s') (s : Store) : s.Retouched id (inTurn rest s).2 :=
  inTurn_keeps (P := fun s' => s.Retouched id s')
    (fun change hc s₁ s₂ h hs => h.trans (touch change hc s₁ s₂ hs)) .kept

/-- Changes in turn that first store a picture and then retouch an account. -/
theorem pictured_inTurn (touch : ∀ change ∈ rest, ∀ s s' : Store, change s = .ok s' →
    s.Retouched id s') (name : String) (data : Octets) (s : Store) :
    ∃ s₁, s.Pictured s₁ ∧ s₁.Retouched id (inTurn (putImage name data :: rest) s).2 := by
  rw [inTurn]
  split
  next s₁ hs₁ =>
    obtain ⟨t, t', ht, hstock, rfl⟩ := putImage_ok hs₁
    exact ⟨_, .stocked ht hstock, retouched_inTurn touch _⟩
  · -- Without the picture nothing else is done.
    exact ⟨s, .kept, .kept⟩

/-- Giving an account an avatar stores at most one picture and then retouches the account. -/
theorem setAvatar_change (s : Store) (id : Int) (image : String) (data : Octets) :
    ∃ s₁, s.Pictured s₁ ∧ s₁.Retouched id (s.setAvatar id image data).2 := by
  refine pictured_inTurn (fun change hc s s' hs => ?_) image data s
  obtain rfl := List.mem_singleton.1 hc
  exact retouched_pointAvatar hs

end Store

/-- The changes of an upload: they retouch the account, but the first may store a picture. -/
theorem Upload.changes_eq (user : Int) (u : Upload) :
    ∃ rest, (∀ change ∈ rest, ∀ s s' : Store, change s = .ok s' → s.Retouched user s')
      ∧ (u.changes user = rest
        ∨ ∃ name data, u.changes user = Store.putImage name data :: rest) := by
  have hname : ∀ change ∈ (if u.displayName.isEmpty then []
      else [Store.setDisplayName user u.displayName]), ∀ s s' : Store,
        change s = .ok s' → s.Retouched user s' := by
    intro change h s s' hs
    split at h
    · exact absurd h List.not_mem_nil
    · obtain rfl := List.mem_singleton.1 h
      exact Store.retouched_setDisplayName hs
  unfold changes
  split
  next name data _ =>
    split
    · -- An empty picture is left out.
      exact ⟨_, hname, .inl rfl⟩
    · refine ⟨Store.pointAvatar user name :: _, ?_, .inr ⟨name, data, rfl⟩⟩
      intro change h s s' hs
      rcases List.mem_cons.1 h with rfl | h
      · exact Store.retouched_pointAvatar hs
      · exact hname change h s s' hs
  · exact ⟨_, hname, .inl rfl⟩

/-- An upload stores at most one picture and then retouches the account. -/
theorem Upload.apply_change (user : Int) (u : Upload) (s : Store) :
    ∃ s₁, s.Pictured s₁ ∧ s₁.Retouched user (u.apply user s).2 := by
  obtain ⟨rest, htouch, hchanges⟩ := u.changes_eq user
  unfold apply
  rcases hchanges with h | ⟨name, data, h⟩
  · rw [h]
    exact ⟨s, .kept, Store.retouched_inTurn htouch s⟩
  · rw [h]
    exact Store.pictured_inTurn htouch name data s

/-- What an effect may make of a store at a time. -/
inductive Effect.Change (now : String) (s : Store) : Effect → Store → Prop where
  | kept (effect : Effect) : Change now s effect s
  | reset {s' : Store} (cut : s.Cut s') : Change now s .reset s'
  | registered {name salt digest : String} {id : Int} {t t' : Table (Stored User)}
      (users : s.users = some t)
      (row : t.Appended (.sound ⟨name, salt, digest, name, DefaultAvatar.name, now⟩) id t') :
      Change now s (.register name salt digest) { s with users := some t' }
  | channelAdded {name description : String} {id : Int} {t t' : Table (Stored Channel)}
      (channels : s.channels = some t)
      (row : t.Appended (.sound ⟨name, description, now, now⟩) id t') :
      Change now s (.addChannel name description) { s with channels := some t' }
  | posted {author channel id : Int} {content : String} {t t' : Table (Stored Message)}
      (messages : s.messages = some t)
      (row : t.Appended (.sound ⟨channel, author, content, now⟩) id t') :
      Change now s (.post author channel content) { s with messages := some t' }
  | polled {user channel after message : Int} {ms : ReadMarks} (marks : s.marks = some ms) :
      Change now s (.poll user channel after)
        { s with marks := some (ms.set user channel message now) }
  | updated {user : Int} {upload : Upload} {s₁ s' : Store} (picture : s.Pictured s₁)
      (account : s₁.Retouched user s') : Change now s (.update user upload) s'

namespace Effect

/-- Every effect makes a change that it may make. -/
theorem change (now : String) (s : Store) (effect : Effect) :
    Change now s effect (effect.apply now s) := by
  cases effect with
  | nothing => exact .kept _
  | reset => exact .reset s.cut_reset
  | register name salt digest =>
    dsimp only [apply]
    cases hs : s.createUser now name salt digest with
    | error fault => exact .kept _
    | ok made =>
      rcases Store.createUser_ok hs with ⟨-, heq⟩ | ⟨id, t, t', -, ht, happ, heq⟩
      · show Change now s _ made.2
        rw [heq]
        exact .kept _
      · show Change now s _ made.2
        rw [heq]
        exact .registered ht happ
  | addChannel name description =>
    dsimp only [apply]
    cases hs : s.createChannel now name description with
    | error fault => exact .kept _
    | ok made =>
      obtain ⟨t, t', ht, happ, heq⟩ := Store.createChannel_ok hs
      show Change now s _ made.2
      rw [heq]
      exact .channelAdded ht happ
  | post author channel content =>
    dsimp only [apply]
    cases hs : s.insertMessage now channel author content with
    | error fault => exact .kept _
    | ok made =>
      obtain ⟨t, t', ht, happ, heq⟩ := Store.insertMessage_ok hs
      show Change now s _ made.2
      rw [heq]
      exact .posted ht happ
  | poll user channel after =>
    dsimp only [apply]
    split
    · exact .kept _
    · split
      · exact .kept _
      next hs =>
        obtain ⟨ms, hms, rfl⟩ := Store.markRead_ok hs
        exact .polled hms
  | update user upload =>
    obtain ⟨s₁, hpicture, haccount⟩ := upload.apply_change user s
    exact .updated hpicture haccount

end Effect

/-! ## Sound stores -/

/-- A sound table where an account has been retouched is sound. -/
theorem Table.Retouched.sound {t t' : Table (Stored User)} {id : Int} (h : t.Retouched id t')
    (hsound : t.Sound) : t'.Sound where
  readable y hy := by
    obtain ⟨x, hx, -, hsame | htouch⟩ := h.origin hy
    · rw [hsame]
      exact hsound.readable x hx
    · obtain ⟨user, hrow⟩ := hsound.readable x hx
      obtain ⟨displayName, avatar, heq⟩ := htouch user hrow
      exact ⟨_, heq⟩
  positive y hy := by
    obtain ⟨x, hx, hid, -⟩ := h.origin hy
    rw [← hid]
    exact hsound.positive x hx
  inRange := by
    rw [h.counter]
    exact hsound.inRange

namespace Store

variable {s s' : Store}

/-- A sound table that is cut is sound. -/
theorem CutTo.sound {α : Type} [Labelled (Stored α)] {limit : Int}
    {t t' : Option (Table (Stored α))} (h : CutTo limit t t')
    (hsound : ∃ rows, t = some rows ∧ rows.Sound) : ∃ rows, t' = some rows ∧ rows.Sound := by
  cases h with
  | kept => exact hsound
  | @cut rows ht => exact ⟨_, rfl, (holds_of_some hsound ht).keep _⟩

/-- A sound store that is cut is sound. -/
theorem Cut.sound (h : s.Cut s') (hsound : s.Sound) : s'.Sound where
  users := h.users.sound hsound.users
  images := h.images.sound hsound.images
  channels := h.channels.sound hsound.channels
  messages := h.messages.sound hsound.messages
  marks := by
    rcases h.marks with hsame | hempty
    · rw [hsame]
      exact hsound.marks
    · exact ⟨_, hempty, fun _ he => absurd he List.not_mem_nil⟩

/-- A sound store with one more picture is sound. -/
theorem Pictured.sound (h : s.Pictured s') (hsound : s.Sound) : s'.Sound := by
  cases h with
  | kept => exact hsound
  | stocked ht hstock =>
    exact { hsound with images := ⟨_, rfl, (hsound.images_sound ht).stocked hstock⟩ }

/-- A sound store where an account has been retouched is sound. -/
theorem Retouched.sound {id : Int} (h : s.Retouched id s') (hsound : s.Sound) : s'.Sound := by
  cases h with
  | kept => exact hsound
  | account ht htouched =>
    exact { hsound with users := ⟨_, rfl, htouched.sound (hsound.users_sound ht)⟩ }

end Store

namespace Effect

/-- What an effect may make of a sound store is sound. -/
theorem Change.sound {now : String} {s s' : Store} {effect : Effect} (h : Change now s effect s')
    (hsound : s.Sound) : s'.Sound := by
  cases h with
  | kept => exact hsound
  | reset hcut => exact hcut.sound hsound
  | registered ht happ =>
    exact { hsound with users := ⟨_, rfl, (hsound.users_sound ht).append happ⟩ }
  | channelAdded ht happ =>
    exact { hsound with channels := ⟨_, rfl, (hsound.channels_sound ht).append happ⟩ }
  | posted ht happ =>
    exact { hsound with messages := ⟨_, rfl, (hsound.messages_sound ht).append happ⟩ }
  | polled hms =>
    exact { hsound with marks := ⟨_, rfl, (holds_of_some hsound.marks hms).set _ _ _ _⟩ }
  | updated hpicture haccount => exact haccount.sound (hpicture.sound hsound)

/-- Every effect keeps a store sound. -/
theorem sound_apply {s : Store} (h : s.Sound) (now : String) (effect : Effect) :
    (effect.apply now s).Sound := (change now s effect).sound h

end Effect

end ChatBoard
