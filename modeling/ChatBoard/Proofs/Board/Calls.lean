import ChatBoard.Proofs.Board.Parts
import Mathlib.Logic.Function.Basic

/-!
# The calls that change a profile

A change of a profile makes up to two calls of the store: one stores the picture and points the
avatar at it, and one gives the display name (`Upload.apply_eq_makeAll`). Nobody else has the store
during a call. A call changes the row of its own account, whatever the row holds, and a picture is
stored unless one of its name is there; a call fails only for a picture without an id, and then
nothing is done (`ProfileCall.run_cases`).

When two accounts change their profiles, calls of one come between calls of the other. `Progress`
tells what a store has become from which calls have been made for each of the two: the order across
the two does not matter. Every call makes progress (`Progress.call`), and stores with the same
progress are the same but for the ids of new images (`Progress.alike`).
-/

namespace ChatBoard

/-- A call of the store that a change of a profile makes. -/
inductive ProfileCall where
  /-- Stores a picture and points the avatar at it. -/
  | avatar (name : String) (data : Octets)
  /-- Gives the display name. -/
  | displayName (text : String)
  deriving DecidableEq, Repr

namespace ProfileCall

/-- Makes a call for an account. -/
def run (user : Int) : ProfileCall → Store → Except StoreFault Unit × Store
  | avatar name data => Store.setAvatar user name data
  | displayName text => Store.inTurn [Store.setDisplayName user text]

/-- Makes calls for an account one after the other, up to the first that fails. -/
def makeAll (user : Int) : List ProfileCall → Store → Except StoreFault Unit × Store
  | [], s => (.ok (), s)
  | call :: rest, s =>
    match call.run user s with
    | (.ok _, s') => makeAll user rest s'
    | (.error fault, s') => (.error fault, s')

/-- What a call makes of the account's row. -/
def dress : ProfileCall → Stored User → Stored User
  | avatar name _ => User.withAvatar name
  | displayName text => User.withDisplayName text

/-- The picture that a call brings. -/
def picture? : ProfileCall → Option Image
  | avatar name data => some ⟨name, data⟩
  | displayName _ => none

/-- What calls make of the account's row. -/
def dressAll (calls : List ProfileCall) (row : Stored User) : Stored User :=
  calls.foldl (fun row call => call.dress row) row

/-- The pictures that calls bring. -/
def pictures (calls : List ProfileCall) : List Image := calls.filterMap picture?

/-- The picture of the first call is one that calls bring. -/
theorem mem_pictures_cons {call : ProfileCall} {p : Image} (h : call.picture? = some p)
    (rest : List ProfileCall) : p ∈ pictures (call :: rest) := by
  unfold pictures
  rw [List.filterMap_cons, h]
  exact List.mem_cons_self

end ProfileCall

/-- The calls that an upload asks for: first the avatar, then the name. -/
def Upload.calls (u : Upload) : List ProfileCall :=
  (u.picture?.map fun p => ProfileCall.avatar p.1 p.2).toList
    ++ if u.displayName.isEmpty then [] else [.displayName u.displayName]

open ProfileCall (makeAll dressAll pictures)

namespace Upload

variable {u : Upload}

/-- An upload is carried out by its calls. -/
theorem apply_eq_makeAll (u : Upload) (user : Int) (s : Store) :
    u.apply user s = makeAll user u.calls s := by
  have hnaming : ∀ s, Store.inTurn (u.naming user) s
      = makeAll user (if u.displayName.isEmpty then [] else [.displayName u.displayName]) s := by
    intro s
    unfold naming
    split
    · rfl
    · rw [makeAll, ProfileCall.run]
      cases Store.inTurn [Store.setDisplayName user u.displayName] s with
      | mk outcome s' => cases outcome <;> rfl
  unfold apply calls
  cases hpicture : u.picture? with
  | none => rw [changes_of_none hpicture, hnaming]; rfl
  | some picture =>
    rw [changes_of_some hpicture, Option.map_some, Option.toList_some, List.singleton_append,
      makeAll, ProfileCall.run, Store.setAvatar]
    simp only [Store.inTurn, ← hnaming]
    cases s.putImage picture.1 picture.2 with
    | error fault => rfl
    | ok s₁ =>
      dsimp only
      cases s₁.pointAvatar user picture.1 <;> rfl

/-- The calls of an upload bring its picture. -/
theorem pictures_calls (u : Upload) :
    pictures u.calls = (u.picture?.map fun p => (⟨p.1, p.2⟩ : Image)).toList := by
  unfold calls pictures
  rw [List.filterMap_append]
  cases u.picture? <;> split <;> rfl

/-- An upload brings one picture at most. -/
theorem length_pictures (u : Upload) : (pictures u.calls).length = u.picture?.toList.length := by
  rw [pictures_calls]
  cases u.picture? <;> rfl

/-- An upload makes two calls at most. -/
theorem length_calls (u : Upload) : u.calls.length ≤ 2 := by
  unfold calls
  rw [List.length_append]
  cases u.picture? <;> split <;> simp

/-- An upload with a picture begins with it. -/
theorem calls_of_some {picture : String × Octets} (h : u.picture? = some picture) :
    ∃ rest, u.calls = .avatar picture.1 picture.2 :: rest := by
  unfold calls
  rw [h]
  exact ⟨_, rfl⟩

end Upload

/-! ## What one call does -/

namespace ProfileCall

/-- A store after a call for an account. -/
structure Ran (user : Int) (call : ProfileCall) (s s' : Store) : Prop where
  /-- The call has changed the account's row and no other. -/
  users : ∃ t t', s.users = some t ∧ s'.users = some t' ∧ t'.counter = t.counter
    ∧ t'.entries = t.entries.map fun x => ⟨x.id, if x.id = user then call.dress x.row else x.row⟩
  /-- Without a picture the images are as they were. -/
  plain : call.picture? = none → s'.images = s.images
  /-- A picture is stored, unless one of its name is there. -/
  stocked : ∀ p, call.picture? = some p → ∃ t t', s.images = some t ∧ t.Stocked (.sound p) t'
    ∧ s'.images = some t'
  channels : s'.channels = s.channels
  messages : s'.messages = s.messages
  marks : s'.marks = s.marks

variable {s : Store} {t : Table (Stored User)} {user : Int}

/-- Giving a display name does not fail. -/
theorem run_displayName (ht : s.users = some t) (user : Int) (text : String) :
    ∃ s', (displayName text).run user s = (.ok (), s') ∧ (displayName text).Ran user s s' := by
  obtain ⟨s', hs', hrevised⟩ :=
    Store.reviseUser_isOk ht user (User.label_withDisplayName text)
  refine ⟨s', ?_, hrevised.users, fun _ => hrevised.images, fun p hp => (nomatch hp),
    hrevised.channels, hrevised.messages, hrevised.marks⟩
  rw [run, Store.inTurn, Store.setDisplayName, hs']
  rfl

/-- Where there is an id for the picture, it becomes the avatar. -/
theorem run_avatar (ht : s.users = some t) {images : Table (Stored Image)}
    (himages : s.images = some images) (hroom : images.counter < largestId) (user : Int)
    (name : String) (data : Octets) :
    ∃ s', (avatar name data).run user s = (.ok (), s') ∧ (avatar name data).Ran user s s' := by
  obtain ⟨s₁, hput⟩ := Store.putImage_isOk himages hroom name data
  obtain ⟨i, i', hi, hstock, rfl⟩ := Store.putImage_ok hput
  -- Pointing the avatar at the image does not fail.
  have ht₁ : { s with images := some i' }.users = some t := ht
  obtain ⟨s', hs', hrevised⟩ := Store.reviseUser_isOk ht₁ user (User.label_withAvatar name)
  refine ⟨s', ?_, hrevised.users, fun hnone => (nomatch hnone), ?_, hrevised.channels,
    hrevised.messages, hrevised.marks⟩
  · rw [run, Store.setAvatar, Store.inTurn, hput]
    dsimp only
    rw [Store.inTurn, Store.pointAvatar, hs']
    rfl
  · rintro p ⟨⟩
    exact ⟨i, i', hi, hstock, hrevised.images⟩

/-- A call is made, or there is no id for its picture and nothing is done. -/
theorem run_cases (ht : s.users = some t) (call : ProfileCall) (user : Int) :
    (∃ s', call.run user s = (.ok (), s') ∧ call.Ran user s s')
      ∨ ∃ fault p, call.run user s = (.error fault, s) ∧ call.picture? = some p
        ∧ ∀ t, s.images = some t → largestId ≤ t.counter := by
  cases call with
  | displayName text => exact .inl (run_displayName ht user text)
  | avatar name data =>
    by_cases hroom : ∃ t, s.images = some t ∧ t.counter < largestId
    · obtain ⟨images, himages, hroom⟩ := hroom
      exact .inl (run_avatar ht himages hroom user name data)
    · have hfull : ∀ t, s.images = some t → largestId ≤ t.counter :=
        fun t ht => Nat.le_of_not_lt fun hlt => hroom ⟨t, ht, hlt⟩
      obtain ⟨fault, hfault⟩ := Store.putImage_fails hfull name data
      refine .inr ⟨fault, _, ?_, rfl, hfull⟩
      rw [run, Store.setAvatar, Store.inTurn, hfault]

end ProfileCall

/-! ## Images that have been collected -/

namespace Table

/-- The rows of a table, without their ids. -/
def rows {α : Type} [Labelled α] (t : Table α) : List α := t.entries.map (·.row)

/-- A table that a row has been appended to had none with its label. -/
theorem Appended.free {α : Type} [Labelled α] {t t' : Table α} {row : α} {id : Int}
    (h : t.Appended row id t') : t.Free row := by
  intro l hl
  have hapart := t'.apart
  rw [h.entries, List.filterMap_cons, hl] at hapart
  exact (List.nodup_cons.1 hapart).1

/-- Tables with the same entries and counter are the same. -/
theorem eq_of_entries {α : Type} [Labelled α] {t t' : Table α} (hentries : t.entries = t'.entries)
    (hcounter : t.counter = t'.counter) : t = t' := by
  cases t
  cases t'
  cases hentries
  cases hcounter
  rfl

/-- A table that has come from another by storing pictures as often as a number says. Each picture
is there now, unless an image of its name was there before. -/
structure Collected (t : Table (Stored Image)) (brought : Image → Prop) (times : Nat)
    (t' : Table (Stored Image)) : Prop where
  counter : t'.counter = t.counter + times
  rows : ∀ row, row ∈ t'.rows ↔ row ∈ t.rows ∨ ∃ p, brought p ∧ t.Free (.sound p) ∧ row = .sound p

variable {t t' t'' : Table (Stored Image)} {brought : Image → Prop} {times : Nat} {q : Image}

/-- An image of the same name is there if a picture is not free. -/
theorem not_free_image :
    ¬ t.Free (.sound q) ↔ ∃ row ∈ t.rows, Image.label row = [.text q.name] := by
  unfold Table.Free labels rows
  simp only [label, Image.label, Option.mem_def, Option.some.injEq, forall_eq', not_not,
    List.mem_filterMap, List.mem_map, exists_exists_and_eq_and]

/-- Storing one more picture collects it. Of pictures with one name there are no two. -/
theorem Collected.stock (h : t.Collected brought times t')
    (hsame : ∀ p, brought p → p.name = q.name → p = q) (hstock : t'.Stocked (.sound q) t'') :
    t.Collected (fun p => brought p ∨ p = q) (times + 1) t'' := by
  rcases hstock with happ | ⟨room, htaken, rfl⟩
  · refine ⟨by rw [happ.counter, h.counter, Nat.add_assoc], fun row => ?_⟩
    have hrows : t''.rows = .sound q :: t'.rows := by
      unfold Table.rows
      rw [happ.entries]
      rfl
    have hfree : t.Free (.sound q) := by
      by_contra hnot
      obtain ⟨old, hold, hlabel⟩ := not_free_image.1 hnot
      exact not_free_image.2 ⟨old, (h.rows old).2 (.inl hold), hlabel⟩ happ.free
    rw [hrows, List.mem_cons, h.rows]
    constructor
    · rintro (rfl | hold | ⟨p, hp, hpfree, rfl⟩)
      · exact .inr ⟨q, .inr rfl, hfree, rfl⟩
      · exact .inl hold
      · exact .inr ⟨p, .inl hp, hpfree, rfl⟩
    · rintro (hold | ⟨p, hp | rfl, hpfree, rfl⟩)
      · exact .inr (.inl hold)
      · exact .inr (.inr ⟨p, hp, hpfree, rfl⟩)
      · exact .inl rfl
  · -- Who has taken the name is an image that was there before, or the same picture.
    refine ⟨?_, fun row => ?_⟩
    · show max t'.counter (t'.counter + 1) = t.counter + (times + 1)
      have := h.counter
      omega
    have hold : ¬ t.Free (.sound q) ∨ brought q ∧ t.Free (.sound q) := by
      obtain ⟨old, hmem, hlabel⟩ := not_free_image.1 htaken
      rcases (h.rows old).1 hmem with hbefore | ⟨p, hp, hpfree, rfl⟩
      · exact .inl (not_free_image.2 ⟨old, hbefore, hlabel⟩)
      · have hname : p.name = q.name := by simpa [Image.label] using hlabel
        obtain rfl := hsame p hp hname
        exact .inr ⟨hp, hpfree⟩
    show row ∈ t'.rows ↔ _
    rw [h.rows]
    constructor
    · rintro (hbefore | ⟨p, hp, hpfree, rfl⟩)
      · exact .inl hbefore
      · exact .inr ⟨p, .inl hp, hpfree, rfl⟩
    · rintro (hbefore | ⟨p, hp | rfl, hpfree, rfl⟩)
      · exact .inl hbefore
      · exact .inr ⟨p, hp, hpfree, rfl⟩
      · rcases hold with hnot | ⟨hbrought, -⟩
        · exact absurd hpfree hnot
        · exact .inr ⟨p, hbrought, hpfree, rfl⟩

end Table

/-! ## Progress of two accounts -/

/-- The two accounts that change their profiles. -/
inductive Side where
  | first
  | second
  deriving DecidableEq, Repr

namespace ProfileCall

section

variable {who : Side → Int} {done : Side → List ProfileCall}

/-- The calls that have been made for an account, of those for the two. -/
def madeFor (who : Side → Int) (done : Side → List ProfileCall) (id : Int) : List ProfileCall :=
  if id = who .first then done .first else if id = who .second then done .second else []

/-- The calls for an account with those of one side replaced. -/
theorem madeFor_update (hne : who .first ≠ who .second) (side : Side) (calls : List ProfileCall)
    (id : Int) : madeFor who (Function.update done side calls) id
      = if id = who side then calls else madeFor who done id := by
  unfold madeFor
  cases side with
  | first =>
    rw [Function.update_self, Function.update_of_ne (by decide)]
    split <;> rfl
  | second =>
    rw [Function.update_self, Function.update_of_ne (by decide)]
    split
    next hid => rw [if_neg fun hid' => hne (hid.symm.trans hid')]
    · split <;> rfl

/-- The calls for one of the two are those of its side. -/
theorem madeFor_self (hne : who .first ≠ who .second) (side : Side) :
    madeFor who done (who side) = done side := by
  unfold madeFor
  cases side with
  | first => rw [if_pos rfl]
  | second => rw [if_neg hne.symm, if_pos rfl]

/-- A picture that one of the two has brought. -/
def Brought (done : Side → List ProfileCall) (p : Image) : Prop := ∃ side, p ∈ pictures (done side)

/-- How many pictures the two have brought. -/
def timesBrought (done : Side → List ProfileCall) : Nat :=
  (pictures (done .first)).length + (pictures (done .second)).length

/-- The pictures after one more call. -/
theorem pictures_append (calls : List ProfileCall) (call : ProfileCall) :
    pictures (calls ++ [call]) = pictures calls ++ call.picture?.toList := by
  unfold pictures
  rw [List.filterMap_append]
  cases hpicture : call.picture? <;> simp [hpicture]

/-- What has been brought after one more call. -/
theorem brought_update (side : Side) (call : ProfileCall) (p : Image) :
    Brought (Function.update done side (done side ++ [call])) p
      ↔ Brought done p ∨ call.picture? = some p := by
  constructor
  · rintro ⟨other, hp⟩
    by_cases hside : other = side
    · subst hside
      rw [Function.update_self, pictures_append, List.mem_append, Option.mem_toList] at hp
      exact hp.imp (fun h => ⟨other, h⟩) id
    · rw [Function.update_of_ne hside] at hp
      exact .inl ⟨other, hp⟩
  · rintro (⟨other, hp⟩ | hp)
    · refine ⟨other, ?_⟩
      by_cases hside : other = side
      · subst hside
        rw [Function.update_self, pictures_append]
        exact List.mem_append_left _ hp
      · rw [Function.update_of_ne hside]
        exact hp
    · refine ⟨side, ?_⟩
      rw [Function.update_self, pictures_append]
      exact List.mem_append_right _ (Option.mem_toList.2 hp)

/-- How often something has been brought after one more call. -/
theorem timesBrought_update (side : Side) (call : ProfileCall) :
    timesBrought (Function.update done side (done side ++ [call]))
      = timesBrought done + call.picture?.toList.length := by
  unfold timesBrought
  cases side with
  | first =>
    rw [Function.update_self, Function.update_of_ne (by decide), pictures_append,
      List.length_append]
    omega
  | second =>
    rw [Function.update_self, Function.update_of_ne (by decide), pictures_append,
      List.length_append]
    omega

/-- A call after others is made of the row that the others have left. -/
theorem dressAll_append (calls : List ProfileCall) (call : ProfileCall) (row : Stored User) :
    dressAll (calls ++ [call]) row = call.dress (dressAll calls row) := by
  unfold dressAll
  rw [List.foldl_append]
  rfl

end

end ProfileCall

open ProfileCall (Brought timesBrought madeFor)

/-- What a store has become when calls have been made for two accounts. -/
structure Progress (who : Side → Int) (done : Side → List ProfileCall) (s s' : Store) : Prop where
  /-- The calls for an account have changed its row. -/
  users : ∃ t t', s.users = some t ∧ s'.users = some t' ∧ t'.counter = t.counter
    ∧ t'.entries = t.entries.map fun x => ⟨x.id, dressAll (madeFor who done x.id) x.row⟩
  /-- The pictures of the calls have been collected. -/
  images : ∀ t, s.images = some t → ∃ t', s'.images = some t'
    ∧ t.Collected (Brought done) (timesBrought done) t'
  /-- Images that were missing are missing. -/
  missing : s.images = none → s'.images = none
  channels : s'.channels = s.channels
  messages : s'.messages = s.messages
  marks : s'.marks = s.marks

/-- Stores that are the same but for the ids of their images. -/
structure Store.SameProfiles (s s' : Store) : Prop where
  users : s'.users = s.users
  /-- The same images are there, if there are any. -/
  images : s'.images.isSome = s.images.isSome
    ∧ ∀ t t', s.images = some t → s'.images = some t' → ∀ row, row ∈ t'.rows ↔ row ∈ t.rows
  channels : s'.channels = s.channels
  messages : s'.messages = s.messages
  marks : s'.marks = s.marks

namespace Progress

variable {who : Side → Int} {done : Side → List ProfileCall} {s s₁ s₂ : Store}

/-- Before the first call the store is as it was. -/
theorem refl {t : Table (Stored User)} (ht : s.users = some t) :
    Progress who (fun _ => []) s s where
  users := by
    refine ⟨t, t, ht, ht, rfl, ?_⟩
    have hnone : ∀ id, madeFor who (fun _ => []) id = [] := by
      intro id
      unfold ProfileCall.madeFor
      split
      · rfl
      · split <;> rfl
    simp only [hnone]
    exact (List.map_id _).symm
  images := fun t ht => ⟨t, ht, rfl, fun row => by simp [Brought, pictures]⟩
  missing := fun h => h
  channels := rfl
  messages := rfl
  marks := rfl

/-- One more call makes progress for its side. -/
theorem call (h : Progress who done s s₁) (hne : who .first ≠ who .second) {side : Side}
    {call : ProfileCall} (hran : call.Ran (who side) s₁ s₂)
    (hsame : ∀ q, call.picture? = some q → ∀ p, Brought done p → p.name = q.name → p = q) :
    Progress who (Function.update done side (done side ++ [call])) s s₂ where
  users := by
    obtain ⟨t, t₁, ht, ht₁, hcounter, hentries⟩ := h.users
    obtain ⟨t₁', t₂, ht₁', ht₂, hcounter', hentries'⟩ := hran.users
    obtain rfl := Option.some.inj (ht₁.symm.trans ht₁')
    refine ⟨t, t₂, ht, ht₂, hcounter'.trans hcounter, ?_⟩
    rw [hentries', hentries, List.map_map]
    refine List.map_congr_left fun x _ => ?_
    simp only [Function.comp_apply]
    rw [ProfileCall.madeFor_update hne]
    by_cases hid : x.id = who side
    · rw [if_pos hid, if_pos hid, ProfileCall.dressAll_append, hid, ProfileCall.madeFor_self hne]
    · rw [if_neg hid, if_neg hid]
  images := by
    intro t ht
    obtain ⟨t₁, ht₁, hcollected⟩ := h.images t ht
    have hbrought : Brought (Function.update done side (done side ++ [call]))
        = fun p => Brought done p ∨ call.picture? = some p :=
      funext fun p => propext (ProfileCall.brought_update side call p)
    rw [hbrought, ProfileCall.timesBrought_update]
    cases hpicture : call.picture? with
    | none =>
      refine ⟨t₁, (hran.plain hpicture).trans ht₁, ?_⟩
      simpa using hcollected
    | some q =>
      obtain ⟨t₁', t₂, ht₁', hstock, ht₂⟩ := hran.stocked q hpicture
      obtain rfl := Option.some.inj (ht₁.symm.trans ht₁')
      refine ⟨t₂, ht₂, ?_⟩
      have hstocked := hcollected.stock (hsame q hpicture) hstock
      simpa [eq_comm] using hstocked
  missing := by
    intro hmissing
    have hmissing₁ := h.missing hmissing
    cases hpicture : call.picture? with
    | none => exact (hran.plain hpicture).trans hmissing₁
    | some q =>
      obtain ⟨t₁, -, ht₁, -⟩ := hran.stocked q hpicture
      rw [hmissing₁] at ht₁
      cases ht₁
  channels := hran.channels.trans h.channels
  messages := hran.messages.trans h.messages
  marks := hran.marks.trans h.marks

/-- Stores that have made the same progress are the same but for the ids of new images. -/
theorem alike (h₁ : Progress who done s s₁) (h₂ : Progress who done s s₂) :
    s₁.SameProfiles s₂ where
  users := by
    obtain ⟨t, t₁, ht, ht₁, hcounter₁, hentries₁⟩ := h₁.users
    obtain ⟨t', t₂, ht', ht₂, hcounter₂, hentries₂⟩ := h₂.users
    obtain rfl := Option.some.inj (ht.symm.trans ht')
    rw [ht₁, ht₂, Table.eq_of_entries (hentries₂.trans hentries₁.symm)
      (hcounter₂.trans hcounter₁.symm)]
  images := by
    cases himages : s.images with
    | none =>
      rw [h₁.missing himages, h₂.missing himages]
      exact ⟨rfl, fun t t' ht => (nomatch ht)⟩
    | some t =>
      obtain ⟨t₁, ht₁, hcollected₁⟩ := h₁.images t himages
      obtain ⟨t₂, ht₂, hcollected₂⟩ := h₂.images t himages
      rw [ht₁, ht₂]
      refine ⟨rfl, ?_⟩
      rintro _ _ ⟨⟩ ⟨⟩ row
      rw [hcollected₁.rows, hcollected₂.rows]
  channels := h₂.channels.trans h₁.channels.symm
  messages := h₂.messages.trans h₁.messages.symm
  marks := h₂.marks.trans h₁.marks.symm

end Progress

end ChatBoard
