import ChatBoard.Proofs.Account.Avatar
import ChatBoard.Proofs.Board.Gates
import ChatBoard.Proofs.Board.Upload
import ChatBoard.Proofs.Store.Writes

/-!
# What an upload makes of an account

`Upload.Applied` is a store after everything that an upload asks for: its picture is stored, unless
one of that name is there, and the account shows the picture and the display name that came with it.
An upload of an account whose row can be read has this outcome, or its first change fails and
nothing is done (`Upload.apply_cases`): what comes after the picture changes the account's own row,
and that row is there. So a request that changes a profile is redirected once all of it is done, or
leaves the store as it was (`serve_profile`).
-/

namespace ChatBoard

namespace Store

/-- A store that has come from another by changing the account with an id. -/
structure Revised (id : Int) (change : Stored User → Stored User) (s s' : Store) : Prop where
  users : ∃ t t', s.users = some t ∧ s'.users = some t' ∧ t'.counter = t.counter
    ∧ t'.entries = t.entries.map fun x => ⟨x.id, if x.id = id then change x.row else x.row⟩
  images : s'.images = s.images
  channels : s'.channels = s.channels
  messages : s'.messages = s.messages
  marks : s'.marks = s.marks

variable {s s' s'' : Store} {id : Int} {t : Table (Stored User)}

/-- A store where no account is changed. -/
theorem Revised.refl (ht : s.users = some t) : s.Revised id (fun u => u) s where
  users := ⟨t, t, ht, ht, rfl, by simp⟩
  images := rfl
  channels := rfl
  messages := rfl
  marks := rfl

/-- Changing an account and then changing it again is changing it in both ways. -/
theorem Revised.trans {change change' : Stored User → Stored User} (h : s.Revised id change s')
    (h' : s'.Revised id change' s'') : s.Revised id (fun u => change' (change u)) s'' where
  users := by
    obtain ⟨t, t₁, ht, ht₁, hcounter, hentries⟩ := h.users
    obtain ⟨t₁', t₂, ht₁', ht₂, hcounter', hentries'⟩ := h'.users
    obtain rfl := Option.some.inj (ht₁.symm.trans ht₁')
    refine ⟨t, t₂, ht, ht₂, hcounter'.trans hcounter, ?_⟩
    rw [hentries', hentries, List.map_map]
    refine List.map_congr_left fun x _ => ?_
    simp only [Function.comp_apply]
    split <;> rfl
  images := h'.images.trans h.images
  channels := h'.channels.trans h.channels
  messages := h'.messages.trans h.messages
  marks := h'.marks.trans h.marks

/-- Where the table of the accounts is there, an account can be changed. -/
theorem reviseUser_isOk (ht : s.users = some t) (id : Int) {change : Stored User → Stored User}
    (same : ∀ u, User.label (change u) = User.label u) :
    ∃ s', s.reviseUser id change same = .ok s' ∧ s.Revised id change s' := by
  unfold reviseUser
  rw [ht]
  exact ⟨_, rfl, ⟨⟨t, _, ht, rfl, rfl, rfl⟩, rfl, rfl, rfl, rfl⟩⟩

/-- Changing the row of an account that can be read changes its entry and no other. -/
theorem Revised.account {change : Stored User → Stored User} {user : Entry User} {become : User}
    (h : s.Revised user.id change s') (huser : ⟨user.id, .sound user.row⟩ ∈ rowsOf s.users)
    (hchange : change (.sound user.row) = .sound become) :
    ∃ t t', s.users = some t ∧ s'.users = some t' ∧ t'.counter = t.counter
      ∧ t'.entries = t.entries.map fun x =>
        if x.id = user.id then ⟨user.id, .sound become⟩ else x := by
  obtain ⟨t, t', ht, ht', hcounter, hentries⟩ := h.users
  rw [ht, rowsOf_some] at huser
  refine ⟨t, t', ht, ht', hcounter, hentries.trans (List.map_congr_left fun x hx => ?_)⟩
  split
  next hid =>
    obtain rfl := t.eq_of_id_eq hx huser hid
    rw [hchange]
  · rfl

end Store

namespace Upload

/-- The picture that an upload brings: its avatar, unless the data is empty. -/
def picture? (u : Upload) : Option (String × Octets) := u.avatar.filter fun p => !p.2.isEmpty

/-- An account with the picture and the display name of an upload. -/
def dressed (u : Upload) (user : User) : User :=
  { user with
    avatar := (u.picture?.map (·.1)).getD user.avatar
    displayName := if u.displayName.isEmpty then user.displayName else u.displayName }

/-- Without a picture an account keeps its avatar. -/
theorem avatar_dressed_of_none {u : Upload} (h : u.picture? = none) (user : User) :
    (u.dressed user).avatar = user.avatar := by
  unfold dressed
  rw [h]
  rfl

/-- The picture that comes with an upload becomes the avatar. -/
theorem avatar_dressed_of_some {u : Upload} {name : String} {data : Octets}
    (h : u.picture? = some (name, data)) (user : User) : (u.dressed user).avatar = name := by
  unfold dressed
  rw [h]
  rfl

/-- A store after everything that an upload of an account asks for. -/
structure Applied (u : Upload) (user : Entry User) (s s' : Store) : Prop where
  /-- The account shows what the upload brings, and the other accounts are as they were. -/
  users : ∃ t t', s.users = some t ∧ s'.users = some t' ∧ t'.counter = t.counter
    ∧ t'.entries = t.entries.map fun x =>
      if x.id = user.id then ⟨user.id, .sound (u.dressed user.row)⟩ else x
  /-- Without a picture the images are as they were. -/
  images : u.picture? = none → s'.images = s.images
  /-- A picture is stored, unless one of its name is there. -/
  picture : ∀ name data, u.picture? = some (name, data) → ∃ t t', s.images = some t
    ∧ t.Stocked (.sound ⟨name, data⟩) t' ∧ s'.images = some t'
  channels : s'.channels = s.channels
  messages : s'.messages = s.messages
  marks : s'.marks = s.marks

/-- The display name that an upload gives a row. -/
def named (u : Upload) (row : Stored User) : Stored User :=
  if u.displayName.isEmpty then row else User.withDisplayName u.displayName row

/-- The last of the changes, giving the display name. -/
def naming (u : Upload) (user : Int) : List (Store → Except StoreFault Store) :=
  if u.displayName.isEmpty then [] else [Store.setDisplayName user u.displayName]

variable {u : Upload} {user : Entry User} {s s' : Store}

/-- The changes of an upload without a picture. -/
theorem changes_of_none (h : u.picture? = none) (user : Int) : u.changes user = u.naming user := by
  unfold changes naming
  unfold picture? at h
  cases havatar : u.avatar with
  | none => rfl
  | some p =>
    rw [havatar, Option.filter_eq_none_iff] at h
    have hempty : p.2.isEmpty = true := by simpa using h p rfl
    simp [hempty]

/-- The changes of an upload with a picture. -/
theorem changes_of_some {name : String} {data : Octets} (h : u.picture? = some (name, data))
    (user : Int) :
    u.changes user = Store.putImage name data :: Store.pointAvatar user name :: u.naming user := by
  unfold changes naming
  unfold picture? at h
  obtain ⟨havatar, hne⟩ := Option.filter_eq_some_iff.1 h
  have hne : data.isEmpty = false := by simpa using hne
  rw [havatar]
  simp [hne]

/-- Giving the display name does not fail where the accounts are there. -/
theorem naming_ok {t : Table (Stored User)} (ht : s.users = some t) (u : Upload) (id : Int) :
    ∃ s', Store.inTurn (u.naming id) s = (.ok (), s') ∧ s.Revised id u.named s' := by
  by_cases hempty : u.displayName.isEmpty = true
  · have hnamed : u.named = fun row => row := funext fun row => if_pos hempty
    rw [hnamed, naming, if_pos hempty]
    exact ⟨s, rfl, .refl ht⟩
  · have hnamed : u.named = User.withDisplayName u.displayName := funext fun row => if_neg hempty
    obtain ⟨s', hs', hrevised⟩ :=
      Store.reviseUser_isOk ht id (User.label_withDisplayName u.displayName)
    rw [hnamed, naming, if_neg hempty]
    refine ⟨s', ?_, hrevised⟩
    rw [Store.inTurn, Store.setDisplayName, hs']
    rfl

/-- An upload without a picture is carried out whole. -/
theorem apply_of_none (huser : ⟨user.id, .sound user.row⟩ ∈ rowsOf s.users)
    {t : Table (Stored User)} (ht : s.users = some t) (hpicture : u.picture? = none) :
    ∃ s', u.apply user.id s = (.ok (), s') ∧ u.Applied user s s' := by
  obtain ⟨s', hs', hrevised⟩ := naming_ok ht u user.id
  have hdressed : u.named (.sound user.row) = .sound (u.dressed user.row) := by
    unfold named dressed
    rw [hpicture]
    split <;> rfl
  refine ⟨s', ?_, ?_⟩
  · rw [apply, changes_of_none hpicture, hs']
  · exact {
      users := hrevised.account huser hdressed
      images := fun _ => hrevised.images
      picture := fun name data h => by
        rw [hpicture] at h
        cases h
      channels := hrevised.channels
      messages := hrevised.messages
      marks := hrevised.marks }

/-- An upload with a picture is carried out whole once the picture is stored. -/
theorem apply_of_some {s₁ : Store} {name : String} {data : Octets}
    (huser : ⟨user.id, .sound user.row⟩ ∈ rowsOf s.users) {t : Table (Stored User)}
    (ht : s.users = some t) (hpicture : u.picture? = some (name, data))
    (hput : s.putImage name data = .ok s₁) :
    ∃ s', u.apply user.id s = (.ok (), s') ∧ u.Applied user s s' := by
  obtain ⟨i, i', hi, hstock, rfl⟩ := Store.putImage_ok hput
  -- What is left changes the account's own row, which is there.
  have ht₁ : { s with images := some i' }.users = some t := ht
  obtain ⟨s₂, hs₂, hpointed⟩ := Store.reviseUser_isOk ht₁ user.id (User.label_withAvatar name)
  obtain ⟨-, t₂, -, ht₂, -⟩ := hpointed.users
  obtain ⟨s₃, hs₃, hnamed⟩ := naming_ok ht₂ u user.id
  have hrevised := hpointed.trans hnamed
  have hdressed : u.named (User.withAvatar name (.sound user.row))
      = .sound (u.dressed user.row) := by
    unfold named dressed
    rw [hpicture]
    split <;> rfl
  refine ⟨s₃, ?_, ?_⟩
  · rw [apply, changes_of_some hpicture, Store.inTurn, hput]
    dsimp only
    rw [Store.inTurn, Store.pointAvatar, hs₂]
    exact hs₃
  · exact {
      users := hrevised.account huser hdressed
      images := fun hnone => by
        rw [hpicture] at hnone
        cases hnone
      picture := fun name' data' h => by
        rw [hpicture] at h
        cases h
        exact ⟨i, i', hi, hstock, hrevised.images⟩
      channels := hrevised.channels
      messages := hrevised.messages
      marks := hrevised.marks }

/-- An upload of an account that can be read is carried out whole, or its first change fails and
nothing is done. -/
theorem apply_cases (huser : ⟨user.id, .sound user.row⟩ ∈ rowsOf s.users) (u : Upload) :
    (∃ fault, u.apply user.id s = (.error fault, s))
      ∨ ∃ s', u.apply user.id s = (.ok (), s') ∧ u.Applied user s s' := by
  obtain ⟨t, ht, -⟩ := exists_of_mem_rowsOf huser
  cases hpicture : u.picture? with
  | none => exact .inr (apply_of_none huser ht hpicture)
  | some picture =>
    cases hput : s.putImage picture.1 picture.2 with
    | ok s₁ => exact .inr (apply_of_some huser ht hpicture hput)
    | error fault =>
      refine .inl ⟨fault, ?_⟩
      rw [apply, changes_of_some hpicture, Store.inTurn, hput]

end Upload

/-! ## Requests that change a profile -/

/-- The upload in a request, if its body can be read and taken in. -/
def Request.upload? (r : Request) : Option Upload :=
  match r.contentType.bind MediaType.boundary? with
  | none => none
  | some boundary => if r.isTooLarge then none else Profile.upload? boundary r.body

/-- A request to change a profile that brings a picture which is not empty: of the pictures in its
body the last one counts, and the extension is that of the picture's file. -/
structure Request.Brings (extension : String) (data : Octets) (r : Request) : Prop where
  post : r.method = .post
  path : r.path = Octets.ofText "/profile"
  sent : ∃ boundary parts p fileName, r.contentType.bind MediaType.boundary? = some boundary
    ∧ Multipart.parts? boundary r.body = some parts ∧ Upload.lastPicture? parts = some p
    ∧ p.fileName = some fileName ∧ Avatar.extension? fileName = some extension ∧ p.content = data
  ne : data ≠ []

section

variable {e : Setting} {r : Request} {s : Store} {user : Entry User}

/-- Without an upload a profile is not changed, and the request is refused. -/
theorem Profile.update_of_none (h : r.upload? = none) :
    ∃ answer, update user r s = (answer, s) ∧ answer.status = 400 := by
  unfold Request.upload? at h
  unfold update
  cases hboundary : r.contentType.bind MediaType.boundary? with
  | none => exact ⟨_, rfl, rfl⟩
  | some boundary =>
    rw [hboundary] at h
    dsimp only at h ⊢
    by_cases hlarge : r.isTooLarge = true
    · rw [if_pos hlarge]
      exact ⟨_, rfl, rfl⟩
    · rw [if_neg hlarge] at h ⊢
      rw [h]
      exact ⟨_, rfl, rfl⟩

/-- An upload is carried out, and its outcome is the answer. -/
theorem Profile.update_of_some {u : Upload} (h : r.upload? = some u) :
    update user r s = match u.apply user.id s with
      | (.ok _, s') => (.redirect "/", s')
      | (.error _, s') => (.ofFailure .internal, s') := by
  unfold Request.upload? at h
  unfold update
  cases hboundary : r.contentType.bind MediaType.boundary? with
  | none =>
    rw [hboundary] at h
    cases h
  | some boundary =>
    rw [hboundary] at h
    dsimp only at h ⊢
    by_cases hlarge : r.isTooLarge = true
    · rw [if_pos hlarge] at h
      cases h
    · rw [if_neg hlarge] at h ⊢
      cases happly : u.apply user.id s with
      | mk outcome s' => cases outcome <;> simp only [h, happly]

/-- An upload has been taken in from the parts of the body. -/
theorem Request.parts_of_upload {u : Upload} (h : r.upload? = some u) :
    ∃ boundary parts, r.contentType.bind MediaType.boundary? = some boundary
      ∧ Multipart.parts? boundary r.body = some parts ∧ Upload.ofParts? parts = some u := by
  unfold Request.upload? at h
  cases hboundary : r.contentType.bind MediaType.boundary? with
  | none =>
    rw [hboundary] at h
    cases h
  | some boundary =>
    rw [hboundary] at h
    dsimp only at h
    by_cases hlarge : r.isTooLarge = true
    · rw [if_pos hlarge] at h
      cases h
    · rw [if_neg hlarge, Profile.upload?] at h
      cases hparts : Multipart.parts? boundary r.body with
      | none =>
        rw [hparts] at h
        cases h
      | some parts =>
        rw [hparts] at h
        exact ⟨boundary, parts, rfl, hparts, h⟩

/-- A picture that is not empty is what an upload brings. -/
theorem Request.Brings.picture {extension : String} {data : Octets} (h : r.Brings extension data)
    {u : Upload} (hu : r.upload? = some u) :
    u.picture? = some (Avatar.imageName data extension, data)
      ∧ data.length ≤ Upload.avatarLimit := by
  obtain ⟨boundary, parts, p, fileName, hboundary, hparts, hlast, hfile, hext, rfl⟩ := h.sent
  obtain ⟨boundary', parts', hboundary', hparts', hu⟩ := Request.parts_of_upload hu
  obtain rfl := Option.some.inj (hboundary.symm.trans hboundary')
  obtain rfl := Option.some.inj (hparts.symm.trans hparts')
  obtain ⟨fileName', extension', hfile', hext', hlength, havatar⟩ :=
    (Upload.ofParts?_avatar hu).1 p hlast
  obtain rfl := Option.some.inj (hfile.symm.trans hfile')
  obtain rfl := Option.some.inj (hext.symm.trans hext')
  have hne : (!p.content.isEmpty) = true := by
    simpa using h.ne
  refine ⟨?_, hlength⟩
  unfold Upload.picture?
  rw [havatar]
  exact Option.filter_eq_some_iff.2 ⟨rfl, hne⟩

/-- What an upload brings is a picture of the request. -/
theorem Request.brings_of_picture {u : Upload} {name : String} {data : Octets}
    (hpost : r.method = .post) (hpath : r.path = Octets.ofText "/profile")
    (hu : r.upload? = some u) (hpicture : u.picture? = some (name, data)) :
    ∃ extension, r.Brings extension data ∧ name = Avatar.imageName data extension := by
  obtain ⟨boundary, parts, hboundary, hparts, hparted⟩ := Request.parts_of_upload hu
  unfold Upload.picture? at hpicture
  obtain ⟨havatar, hfull⟩ := Option.filter_eq_some_iff.1 hpicture
  have hne : data ≠ [] := by simpa using hfull
  obtain ⟨htaken, hnone⟩ := Upload.ofParts?_avatar hparted
  cases hlast : Upload.lastPicture? parts with
  | none =>
    rw [hnone hlast] at havatar
    cases havatar
  | some p =>
    obtain ⟨fileName, extension, hfile, hext, -, heq⟩ := htaken p hlast
    rw [havatar] at heq
    cases heq
    exact ⟨extension, ⟨hpost, hpath, ⟨boundary, parts, p, fileName, hboundary, hparts, hlast,
      hfile, hext, rfl⟩, hne⟩, rfl⟩

/-- A request brings one picture at most. -/
theorem Request.Brings.unique {extension extension' : String} {data data' : Octets}
    (h : r.Brings extension data) (h' : r.Brings extension' data') :
    extension = extension' ∧ data = data' := by
  obtain ⟨boundary, parts, p, fileName, hboundary, hparts, hlast, hfile, hext, rfl⟩ := h.sent
  obtain ⟨boundary', parts', p', fileName', hboundary', hparts', hlast', hfile', hext', rfl⟩ :=
    h'.sent
  obtain rfl := Option.some.inj (hboundary.symm.trans hboundary')
  obtain rfl := Option.some.inj (hparts.symm.trans hparts')
  obtain rfl := Option.some.inj (hlast.symm.trans hlast')
  obtain rfl := Option.some.inj (hfile.symm.trans hfile')
  exact ⟨Option.some.inj (hext.symm.trans hext'), rfl⟩

/-- What an account asks for with a new profile is all done, and it is redirected, or nothing is
done. -/
theorem serve_profile (haccount : r.IsFrom e s user) (hpath : r.path = Octets.ofText "/profile")
    (hpost : r.method = .post) :
    (∃ u, r.upload? = some u ∧ (serve e r s).1 = .redirect "/" ∧ u.Applied user s (serve e r s).2)
      ∨ (serve e r s).1.status ≠ 303 ∧ (serve e r s).2 = s := by
  obtain ⟨-, huser⟩ := Visitor.ofCookies_eq_account_iff.1 haccount
  have hserve : serve e r s = Profile.update user r s := by
    rw [(Request.Asks.updateProfile hpath hpost).serve_account haccount, r.sent_of_post hpost]
  rw [hserve]
  cases hupload : r.upload? with
  | none =>
    obtain ⟨answer, hanswer, hstatus⟩ := Profile.update_of_none hupload
    rw [hanswer]
    exact .inr ⟨by simp [hstatus], rfl⟩
  | some u =>
    rw [Profile.update_of_some hupload]
    rcases u.apply_cases huser with ⟨fault, hfails⟩ | ⟨s', hdone, happlied⟩
    · have hstatus : (Response.ofFailure .internal).status ≠ 303 := by decide
      rw [hfails]
      exact .inr ⟨hstatus, rfl⟩
    · rw [hdone]
      exact .inl ⟨u, rfl, rfl, happlied⟩

/-- Who is no account changes nothing behind a gate. -/
theorem Request.Leads.stranger {gate : Gate} {handler : Handler} (h : r.Leads gate handler)
    (hnot : ∀ user, ¬ r.IsFrom e s user) : (serve e r s).2 = s := by
  rw [h.serve_eq]
  unfold Route.gated
  split
  · rfl
  next user hvisitor => exact absurd hvisitor (hnot user)
  · rfl

end

end ChatBoard
