import ChatBoard.Proofs.Board.Pictures
import Mathlib.Data.List.Forall2

/-!
# What the parts of a profile come to

A profile is changed by parts that are taken in one after the other, each in pieces. What they come
to is told from their whole contents: `Upload.whole` takes the text of the last display name and the
data of the last picture, and that is what parts ask for if none of them spoils the upload
(`Upload.ofParts?_whole`). How a content is cut into pieces does not matter
(`Upload.ofParts?_recut`), and parts that are neither a display name nor a picture might as well not
be there (`Upload.ofParts?_counts`). So it is with requests (`profile_of_parts`): one that brings
parts is refused if one of them spoils the upload, and is otherwise carried out as long as there is
an id for the picture. Without one the request fails (`profile_used_up`).
-/

namespace ChatBoard

/-- A part is another one with its content cut into pieces in another way. -/
structure Multipart.Part.Recut (p q : Multipart.Part) : Prop where
  name : q.name = p.name
  fileName : q.fileName = p.fileName
  encoding : q.encoding = p.encoding
  content : q.content = p.content

namespace Upload

open Multipart (Part)

variable {u : Upload} {p q : Part} {ps qs : List Part}

/-! ## Pieces -/

/-- A part is taken in as a whole, however it is cut into pieces. -/
theorem add_recut (h : p.Recut q) (u : Upload) : u.add q = u.add p := by
  have htext : q.text = p.text := by
    unfold Part.text
    rw [h.encoding, h.content]
  have hflatten : q.chunks.flatten = p.chunks.flatten := h.content
  unfold add
  simp only [h.name, h.fileName, htext, addPicture_eq, hflatten]

/-- Parts come to the same, however they are cut into pieces. -/
theorem ofParts?_recut (h : List.Forall₂ Part.Recut ps qs) : ofParts? qs = ofParts? ps := by
  have haddAll : ∀ u : Upload, u.addAll qs = u.addAll ps := by
    induction h with
    | nil => exact fun u => rfl
    | cons hfirst _ ih =>
      intro u
      rw [addAll, addAll, add_recut hfirst]
      cases u.add _ with
      | none => rfl
      | some u => exact ih u
  exact haddAll nothing

/-! ## Parts that count -/

/-- A part gives a display name. -/
def isName (p : Part) : Bool := p.name == some "display_name"

/-- A part counts if it gives a display name, or a picture from a file that has a name. -/
def counts (p : Part) : Bool := isName p || isPicture p

/-- A part that does not count is taken in without effect. -/
theorem add_of_not_counts (h : counts p = false) (u : Upload) : u.add p = some u := by
  unfold counts at h
  obtain ⟨hname, hpicture⟩ := Bool.or_eq_false_iff.1 h
  have hname : p.name ≠ some "display_name" := by simpa [isName] using hname
  unfold add
  rw [if_neg hname]
  by_cases hicon : p.name = some "avatar_icon"
  · rw [if_pos hicon]
    cases hfile : p.fileName with
    | none => rfl
    | some fileName =>
      have hempty : fileName = "" := by simpa [isPicture, hicon, hfile] using hpicture
      exact if_pos (String.isEmpty_iff.2 hempty)
  · rw [if_neg hicon]

/-- Parts that do not count might as well not be there. -/
theorem ofParts?_counts (ps : List Part) : ofParts? (ps.filter counts) = ofParts? ps := by
  have haddAll : ∀ u : Upload, u.addAll (ps.filter counts) = u.addAll ps := by
    induction ps with
    | nil => exact fun u => rfl
    | cons p rest ih =>
      intro u
      cases hcounts : counts p with
      | true =>
        rw [List.filter_cons_of_pos hcounts, addAll, addAll]
        cases u.add p with
        | none => rfl
        | some u => exact ih u
      | false =>
        rw [List.filter_cons_of_neg (by simp [hcounts]), ih, addAll, add_of_not_counts hcounts]
  exact haddAll nothing

/-! ## Whole contents -/

/-- The last of the parts that give a display name. -/
def lastName? (ps : List Part) : Option Part := (ps.filter isName).getLast?

/-- What parts ask for, told from their whole contents: the text of the last display name, and the
data of the last picture under the name that its content and its file give it. -/
def whole (ps : List Part) : Upload where
  displayName := ((lastName? ps).map Part.text).getD ""
  avatar := (lastPicture? ps).bind fun p =>
    (p.fileName.bind Avatar.extension?).map fun extension =>
      (Avatar.imageName p.content extension, p.content)

/-- A part that is taken in gives its text if it is a display name, and otherwise leaves the name
that has been given. -/
theorem add_displayName {u' : Upload} (h : u.add p = some u') :
    u'.displayName = if isName p then p.text else u.displayName := by
  by_cases hname : p.name = some "display_name"
  · have hyes : isName p = true := by simp [isName, hname]
    unfold add at h
    rw [if_pos hname] at h
    rw [if_pos hyes]
    cases h
    rfl
  · have hno : isName p = false := by simp [isName, hname]
    have hpicture : ∀ fileName, u.addPicture fileName p.chunks = some u' →
        u'.displayName = u.displayName := by
      intro fileName h
      rw [addPicture_eq, Option.bind_eq_some_iff] at h
      obtain ⟨extension, -, htaken⟩ := h
      split at htaken
      · cases htaken
        rfl
      · cases htaken
    unfold add at h
    rw [if_neg hname] at h
    rw [if_neg (by simp [hno])]
    split at h
    · split at h
      · cases h
        rfl
      · split at h
        · cases h
          rfl
        · exact hpicture _ h
    · cases h
      rfl

/-- Of parts that are taken in one after the other the last display name is the one that is
given. -/
theorem addAll_displayName {u' : Upload} (h : u.addAll ps = some u') :
    u'.displayName = ((lastName? ps).map Part.text).getD u.displayName := by
  -- By induction on the parts, from any upload: a name that has been given is what is left if no
  -- other comes.
  induction ps generalizing u with
  | nil =>
    cases h
    rfl
  | cons p rest ih =>
    rw [addAll] at h
    cases hadd : u.add p with
    | none =>
      rw [hadd] at h
      cases h
    | some u₁ =>
      rw [hadd] at h
      rw [ih h, add_displayName hadd]
      unfold lastName?
      cases hname : isName p with
      | false => rw [List.filter_cons_of_neg (by simp [hname]), if_neg Bool.false_ne_true]
      | true =>
        rw [List.filter_cons_of_pos hname, List.getLast?_cons, if_pos rfl]
        -- A display name that comes later replaces this one.
        cases (rest.filter isName).getLast? <;> rfl

/-- Parts of which none spoils the upload ask for what their whole contents tell. -/
theorem ofParts?_whole (h : ∀ p ∈ ps, ¬ Spoils p) : ofParts? ps = some (whole ps) := by
  cases hparts : ofParts? ps with
  | none =>
    obtain ⟨p, hp, hspoils⟩ := ofParts?_eq_none_iff.1 hparts
    exact absurd hspoils (h p hp)
  | some u =>
    have hname : u.displayName = (whole ps).displayName := addAll_displayName hparts
    obtain ⟨htaken, hnone⟩ := ofParts?_avatar hparts
    have havatar : u.avatar = (whole ps).avatar := by
      unfold whole
      cases hlast : lastPicture? ps with
      | none => exact hnone hlast
      | some p =>
        obtain ⟨fileName, extension, hfile, hext, -, heq⟩ := htaken p hlast
        simp [heq, hfile, hext]
    obtain ⟨displayName, avatar⟩ := u
    exact congrArg some (congrArg₂ Upload.mk hname havatar)

/-! ## Room for the picture -/

/-- There is room in a store for the picture of an upload, if it brings one: the images have an id
left. -/
def HasRoom (u : Upload) (s : Store) : Prop :=
  ∀ picture, u.picture? = some picture → ∃ t, s.images = some t ∧ t.counter < largestId

variable {s : Store} {user : Entry User}

/-- Where there is room an upload is carried out whole. -/
theorem apply_of_hasRoom (huser : ⟨user.id, .sound user.row⟩ ∈ rowsOf s.users)
    (h : u.HasRoom s) : ∃ s', u.apply user.id s = (.ok (), s') ∧ u.Applied user s s' := by
  obtain ⟨t, ht, -⟩ := exists_of_mem_rowsOf huser
  cases hpicture : u.picture? with
  | none => exact apply_of_none huser ht hpicture
  | some picture =>
    obtain ⟨images, himages, hroom⟩ := h picture hpicture
    obtain ⟨s₁, hput⟩ := Store.putImage_isOk himages hroom picture.1 picture.2
    exact apply_of_some huser ht hpicture hput

/-- Where there is no room the first change of an upload fails, and nothing is done. -/
theorem apply_of_not_hasRoom (h : ¬ u.HasRoom s) (id : Int) :
    ∃ fault, u.apply id s = (.error fault, s) := by
  obtain ⟨picture, hpicture, hfull⟩ : ∃ picture, u.picture? = some picture
      ∧ ∀ t, s.images = some t → largestId ≤ t.counter := by
    unfold HasRoom at h
    push Not at h
    exact h
  obtain ⟨fault, hput⟩ := Store.putImage_fails hfull picture.1 picture.2
  refine ⟨fault, ?_⟩
  rw [apply, changes_of_some hpicture, Store.inTurn, hput]

end Upload

/-! ## Requests -/

/-- What a change of a profile comes to once the body has been taken apart. -/
def Profile.outcome (user : Entry User) (parts : List Multipart.Part) (s : Store) :
    Response × Store :=
  match Upload.ofParts? parts with
  | none => (.ofFailure .badRequest, s)
  | some u =>
    match u.apply user.id s with
    | (.ok _, s') => (.redirect "/", s')
    | (.error _, s') => (.ofFailure .internal, s')

namespace Profile

variable {user : Entry User} {parts : List Multipart.Part} {s : Store}

/-- A part that spoils the upload has the change refused, and nothing changes. -/
theorem outcome_spoiled (h : ∃ p ∈ parts, Upload.Spoils p) :
    outcome user parts s = (.ofFailure .badRequest, s) := by
  unfold outcome
  rw [Upload.ofParts?_eq_none_iff.2 h]

/-- If no part spoils the upload and there is room for the picture, the change is made. -/
theorem outcome_of_hasRoom (huser : ⟨user.id, .sound user.row⟩ ∈ rowsOf s.users)
    (h : ∀ p ∈ parts, ¬ Upload.Spoils p) (hroom : (Upload.whole parts).HasRoom s) :
    ∃ s', outcome user parts s = (.redirect "/", s') ∧ (Upload.whole parts).Applied user s s' := by
  obtain ⟨s', hdone, happlied⟩ := Upload.apply_of_hasRoom huser hroom
  refine ⟨s', ?_, happlied⟩
  unfold outcome
  rw [Upload.ofParts?_whole h]
  dsimp only
  rw [hdone]

/-- If no part spoils the upload but there is no room for the picture, the change fails. -/
theorem outcome_of_not_hasRoom (h : ∀ p ∈ parts, ¬ Upload.Spoils p)
    (hroom : ¬ (Upload.whole parts).HasRoom s) :
    outcome user parts s = (.ofFailure .internal, s) := by
  obtain ⟨fault, hfault⟩ := Upload.apply_of_not_hasRoom hroom user.id
  unfold outcome
  rw [Upload.ofParts?_whole h]
  dsimp only
  rw [hfault]

end Profile

/-- A request of an account to change its profile, with a body that is not too large and can be
taken apart. -/
structure Request.BringsParts (e : Setting) (s : Store) (user : Entry User)
    (parts : List Multipart.Part) (r : Request) : Prop where
  account : r.IsFrom e s user
  post : r.method = .post
  path : r.path = Octets.ofText "/profile"
  fits : r.isTooLarge = false
  body : ∃ boundary, r.contentType.bind MediaType.boundary? = some boundary
    ∧ Multipart.parts? boundary r.body = some parts

/-- What the parts of a profile come to. -/
structure PartsTell (e : Setting) (s : Store) (user : Entry User) (parts : List Multipart.Part)
    (r : Request) : Prop where
  /-- However the contents are cut into pieces, the request comes to the same. -/
  recut : ∀ parts', List.Forall₂ Multipart.Part.Recut parts parts' →
    serve e r s = Profile.outcome user parts' s
  /-- Parts that are neither a display name nor a picture from a file with a name have no effect,
  wherever they stand. -/
  counts : serve e r s = Profile.outcome user (parts.filter Upload.counts) s
  /-- The request is refused just when a part spoils the upload. -/
  refused : (serve e r s).1.status = 400 ↔ ∃ p ∈ parts, Upload.Spoils p
  /-- Then nothing changes. -/
  kept : (∃ p ∈ parts, Upload.Spoils p) → (serve e r s).2 = s
  /-- Otherwise, if there is room for the picture, the account is redirected and has the last
  picture and the last display name, as far as they are not empty. -/
  accepted : (∀ p ∈ parts, ¬ Upload.Spoils p) → (Upload.whole parts).HasRoom s →
    (serve e r s).1 = .redirect "/"
      ∧ (Upload.whole parts).Applied user s (serve e r s).2
  /-- Without room for the picture the request fails, and nothing changes. -/
  failed : (∀ p ∈ parts, ¬ Upload.Spoils p) → ¬ (Upload.whole parts).HasRoom s →
    (serve e r s).1.status = 500 ∧ (serve e r s).2 = s

section

variable {e : Setting} {r : Request} {s : Store} {user : Entry User}
  {parts : List Multipart.Part}

/-- A request to change a profile comes to what its parts come to. -/
theorem Request.BringsParts.serve_eq (h : r.BringsParts e s user parts) :
    serve e r s = Profile.outcome user parts s := by
  have hfits := h.fits
  obtain ⟨boundary, hboundary, hparts⟩ := h.body
  have hupdate : Profile.update user r s = Profile.outcome user parts s := by
    unfold Profile.update Profile.upload?
    rw [hboundary]
    dsimp only
    rw [if_neg (by simp [hfits]), hparts]
    rfl
  rw [(Request.Asks.updateProfile h.path h.post).serve_account h.account,
    r.sent_of_post h.post, hupdate]

/-- What a change of a profile comes to is told by the whole contents of its parts. -/
theorem profile_of_parts (h : r.BringsParts e s user parts) : PartsTell e s user parts r := by
  obtain ⟨-, huser⟩ := Visitor.ofCookies_eq_account_iff.1 h.account
  have hserve := h.serve_eq
  have haccepted : (∀ p ∈ parts, ¬ Upload.Spoils p) → (Upload.whole parts).HasRoom s →
      (serve e r s).1 = .redirect "/" ∧ (Upload.whole parts).Applied user s (serve e r s).2 := by
    intro hspoils hroom
    obtain ⟨s', hdone, happlied⟩ := Profile.outcome_of_hasRoom huser hspoils hroom
    rw [hserve, hdone]
    exact ⟨rfl, happlied⟩
  have hfailed : (∀ p ∈ parts, ¬ Upload.Spoils p) → ¬ (Upload.whole parts).HasRoom s →
      (serve e r s).1.status = 500 ∧ (serve e r s).2 = s := by
    intro hspoils hroom
    rw [hserve, Profile.outcome_of_not_hasRoom hspoils hroom]
    exact ⟨rfl, rfl⟩
  have hrefused : (serve e r s).1.status = 400 ↔ ∃ p ∈ parts, Upload.Spoils p := by
    refine ⟨fun hstatus => ?_, fun hspoils => ?_⟩
    · by_contra hnone
      have hspoils : ∀ p ∈ parts, ¬ Upload.Spoils p := fun p hp h => hnone ⟨p, hp, h⟩
      -- A request that is not spoiled is redirected or fails.
      by_cases hroom : (Upload.whole parts).HasRoom s
      · rw [(haccepted hspoils hroom).1] at hstatus
        exact absurd hstatus (by decide)
      · rw [(hfailed hspoils hroom).1] at hstatus
        cases hstatus
    · rw [hserve, Profile.outcome_spoiled hspoils]
      rfl
  exact {
    recut := fun parts' hcut => by
      rw [hserve]
      unfold Profile.outcome
      rw [Upload.ofParts?_recut hcut]
    counts := by
      rw [hserve]
      unfold Profile.outcome
      rw [Upload.ofParts?_counts]
    refused := hrefused
    kept := fun hspoils => by rw [hserve, Profile.outcome_spoiled hspoils]
    accepted := haccepted
    failed := hfailed }

end

/-! ## A profile in four parts -/

namespace Sample

/-- Where the account is there, a body that is taken apart changes its profile. -/
theorem changes {s : Store} {body : Octets} {parts : List Multipart.Part}
    (h : ⟨alice.id, .sound alice.row⟩ ∈ rowsOf s.users)
    (hfits : { dresses.request with body := body }.isTooLarge = false)
    (hparts : Multipart.parts? [0x62] body = some parts) :
    { dresses.request with body := body }.BringsParts setting s alice parts := by
  have hboundary : dresses.request.contentType.bind MediaType.boundary? = some [0x62] := by
    decide +kernel
  exact ⟨Visitor.ofCookies_eq_account_iff.2 ⟨session_cookies, h⟩, rfl, rfl, hfits,
    [0x62], hboundary, hparts⟩

/-- The part that brings a picture of one octet. -/
def picture : Multipart.Part := ⟨some "avatar_icon", some "a.png", .utf8, [[0x78]]⟩

/-- Parts with a picture, a note that nobody asks for, a display name, and the picture that replaces
the first one; its content is cut into pieces as is given. -/
def fourParts (pieces : List Octets) : List Multipart.Part :=
  [picture, ⟨some "note", none, .utf8, [Octets.ofText "hello"]⟩,
    ⟨some "display_name", none, .utf8, [Octets.ofText "Al"]⟩,
    ⟨some "avatar_icon", some "b.gif", .utf8, pieces⟩]

/-- The request with these parts. -/
def portrays : Request :=
  { dresses.request with
    body := Octets.ofText ("--b\r\nContent-Disposition: form-data; name=\"avatar_icon\"; "
      ++ "filename=\"a.png\"\r\n\r\nx\r\n--b\r\nContent-Disposition: form-data; name=\"note\""
      ++ "\r\n\r\nhello\r\n--b\r\nContent-Disposition: form-data; name=\"display_name\""
      ++ "\r\n\r\nAl\r\n--b\r\nContent-Disposition: form-data; name=\"avatar_icon\"; "
      ++ "filename=\"b.gif\"\r\n\r\nyz\r\n--b--\r\n") }

/-- None of the parts spoils the upload. -/
theorem sound_fourParts : ∀ p ∈ fourParts [[0x79, 0x7a]], ¬ Upload.Spoils p := by
  intro p hp hspoils
  have hnone := Upload.ofParts?_eq_none_iff.2 ⟨p, hp, hspoils⟩
  have hsome : (Upload.ofParts? (fourParts [[0x79, 0x7a]])).isSome = true := by decide +kernel
  rw [hnone] at hsome
  cases hsome

/-- The parts ask for the display name and for the last picture. -/
theorem whole_fourParts : Upload.whole (fourParts [[0x79, 0x7a]])
    = ⟨"Al", some (Avatar.imageName [0x79, 0x7a] ".gif", [0x79, 0x7a])⟩ := by
  decide +kernel

end Sample

/-- The four parts tell what the request comes to: it comes to the same with the content of the last
part in three pieces, and the account gets the display name and the last picture. -/
theorem profile_of_parts_portrayed :
    Sample.portrays.BringsParts Sample.setting (storeAfter Sample.opened [Sample.signsUp])
        Sample.alice (Sample.fourParts [[0x79, 0x7a]])
      ∧ PartsTell Sample.setting (storeAfter Sample.opened [Sample.signsUp]) Sample.alice
        (Sample.fourParts [[0x79, 0x7a]]) Sample.portrays
      ∧ serve Sample.setting Sample.portrays (storeAfter Sample.opened [Sample.signsUp])
        = Profile.outcome Sample.alice (Sample.fourParts [[0x79], [], [0x7a]])
          (storeAfter Sample.opened [Sample.signsUp])
      ∧ (serve Sample.setting Sample.portrays (storeAfter Sample.opened [Sample.signsUp])).1
        = .redirect "/"
      ∧ Upload.Applied ⟨"Al", some (Avatar.imageName [0x79, 0x7a] ".gif", [0x79, 0x7a])⟩
        Sample.alice (storeAfter Sample.opened [Sample.signsUp])
        (serve Sample.setting Sample.portrays (storeAfter Sample.opened [Sample.signsUp])).2 := by
  have hbrings : Sample.portrays.BringsParts Sample.setting
      (storeAfter Sample.opened [Sample.signsUp]) Sample.alice (Sample.fourParts [[0x79, 0x7a]]) :=
    Sample.changes Sample.user_signsUp (by decide +kernel) (by decide +kernel)
  have htell := profile_of_parts hbrings
  have hrecut : List.Forall₂ Multipart.Part.Recut (Sample.fourParts [[0x79, 0x7a]])
      (Sample.fourParts [[0x79], [], [0x7a]]) :=
    .cons ⟨rfl, rfl, rfl, rfl⟩ (.cons ⟨rfl, rfl, rfl, rfl⟩ (.cons ⟨rfl, rfl, rfl, rfl⟩
      (.cons ⟨rfl, rfl, rfl, rfl⟩ .nil)))
  have hroom : (Upload.whole (Sample.fourParts [[0x79, 0x7a]])).HasRoom
      (storeAfter Sample.opened [Sample.signsUp]) := fun _ _ => ⟨_, rfl, by decide⟩
  obtain ⟨hredirect, happlied⟩ := htell.accepted Sample.sound_fourParts hroom
  rw [Sample.whole_fourParts] at happlied
  exact ⟨hbrings, htell, htell.recut _ hrecut, hredirect, happlied⟩

/-! ## A picture without room -/

/-- A board with the account, whose images have used up their ids. -/
def Sample.stuffed : Store :=
  { storeAfter opened [signsUp] with images := some (Table.empty.raise largestId) }

/-- When the ids of the images are used up, a picture that does not spoil the upload is not
accepted. -/
theorem profile_used_up :
    Sample.dresses.request.BringsParts Sample.setting Sample.stuffed Sample.alice
        [Sample.picture]
      ∧ (∀ p ∈ [Sample.picture], ¬ Upload.Spoils p)
      ∧ (serve Sample.setting Sample.dresses.request Sample.stuffed).1.status = 500 := by
  have hchanges : Sample.dresses.request.BringsParts Sample.setting Sample.stuffed Sample.alice
      [Sample.picture] := Sample.changes Sample.user_signsUp (by decide +kernel) (by decide +kernel)
  have hsound : ∀ p ∈ [Sample.picture], ¬ Upload.Spoils p := by
    intro p hp
    rw [List.mem_singleton.1 hp]
    rintro ⟨-, fileName, hfile, -, hformat | hlarge⟩
    · cases hfile
      exact absurd hformat (by decide)
    · exact absurd hlarge (by decide)
  have hroom : ¬ (Upload.whole [Sample.picture]).HasRoom Sample.stuffed := by
    intro hroom
    obtain ⟨t, ht, hcounter⟩ := hroom (Avatar.imageName [0x78] ".png", [0x78]) (by decide +kernel)
    cases ht
    exact absurd hcounter (by decide)
  refine ⟨hchanges, hsound, ?_⟩
  rw [hchanges.serve_eq, Profile.outcome_of_not_hasRoom hsound hroom]
  rfl

end ChatBoard
