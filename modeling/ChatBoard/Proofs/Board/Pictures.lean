import ChatBoard.Proofs.Board.Icons
import ChatBoard.Proofs.Board.Integrity
import ChatBoard.Proofs.Board.Profile
import ChatBoard.Proofs.Board.Refusals
import ChatBoard.Proofs.Board.Run

/-!
# Pictures and their names

A picture is stored under the digest of its octets, and a picture whose name is taken is not stored
again. So a name leads to the octets it was made of as long as no two pictures that are uploaded
have one digest. The assumption is about the pictures of one run only (`Distinct`).

Every request leaves the images as they are, or removes some, or adds the picture that it brings
(`serve_images`). By induction every image of a run is the default avatar or one that a request of
the run has brought (`images_origin`). Once a picture has been taken in, its name stays until the
next reset (`Store.Names.kept`). `pictures_addressed` says what follows for a run of any requests.
-/

namespace ChatBoard

/-- Some image has a name. -/
def Store.Names (name : String) (s : Store) : Prop :=
  ∃ x ∈ rowsOf s.images, Image.label x.row = [.text name]

/-- No two pictures that requests of a run bring have one digest. -/
def Distinct (run : List Call) : Prop :=
  ∀ c ∈ run, ∀ c' ∈ run, ∀ extension extension' data data',
    c.request.Brings extension data → c'.request.Brings extension' data' →
      Digest.Sha1.digest data = Digest.Sha1.digest data' → data = data'

/-- After earlier calls an account has been redirected for an upload that brings a picture, and
later calls have not reset the board. Who has no account is redirected to sign in, and what it sends
is not looked at. -/
def Uploaded (now : String) (run : List Call) (extension : String) (data : Octets) : Prop :=
  ∃ later call earlier user, run = later ++ call :: earlier
    ∧ call.request.IsFrom call.setting (storeAfter now earlier) user
    ∧ call.request.Brings extension data
    ∧ (serve call.setting call.request (storeAfter now earlier)).1.status = 303
    ∧ ∀ c ∈ later, ¬ c.request.Resets

/-- What the images are after a run on a board that was opened at a time. -/
structure Addressed (now : String) (run : List Call) : Prop where
  /-- No two images have one name. -/
  apart : ∀ x ∈ rowsOf (storeAfter now run).images, ∀ y ∈ rowsOf (storeAfter now run).images,
    Image.label x.row = Image.label y.row → x = y
  /-- Every image but the default avatar is named by its digest and an extension that may be
  uploaded; it is not empty, and not above the limit. -/
  named : ∀ x ∈ rowsOf (storeAfter now run).images,
    x.row = .sound ⟨DefaultAvatar.name, DefaultAvatar.data⟩
      ∨ ∃ extension ∈ Avatar.extensions, ∃ data, x.row = .sound ⟨Avatar.imageName data extension,
          data⟩ ∧ data ≠ [] ∧ data.length ≤ 1048576
  /-- As long as no two pictures have one digest, a picture that has been uploaded is the answer to
  who asks for its name, with the media type of its extension. -/
  served : Distinct run → ∀ extension data, Uploaded now run extension data →
    ∃ mediaType, Avatar.mediaType? extension = some mediaType
      ∧ ∀ e r, r.method = .get →
        r.path = Octets.ofText ("/icons/" ++ Avatar.imageName data extension) →
          serve e r (storeAfter now run) = (.withBody 200 mediaType data, storeAfter now run)
  /-- However often it is uploaded again, by whomever, no image is added. -/
  once : ∀ extension data, Uploaded now run extension data →
    ∀ more, (∀ c ∈ more, c.request.Brings extension data) →
      rowsOf (storeAfter now (more ++ run)).images = rowsOf (storeAfter now run).images

/-! ## One request -/

section

variable {e : Setting} {r : Request} {s s' : Store}

/-- A picture that is taken in is stored, unless there is an image of its name. -/
theorem Upload.Applied.images_cases {u : Upload} {user : Entry User} {name : String}
    {data : Octets} (h : u.Applied user s s') (hpicture : u.picture? = some (name, data)) :
    s'.Names name
      ∧ (rowsOf s'.images = rowsOf s.images
        ∨ ¬ s.Names name
          ∧ ∃ id, rowsOf s'.images = ⟨id, .sound ⟨name, data⟩⟩ :: rowsOf s.images) := by
  obtain ⟨t, t', ht, hstock, ht'⟩ := h.picture name data hpicture
  unfold Store.Names
  rw [ht, ht', rowsOf_some, rowsOf_some]
  rcases hstock with happ | ⟨-, htaken, rfl⟩
  · have hentries := happ.entries
    have hnew : (⟨t.counter + 1, .sound ⟨name, data⟩⟩ : Entry (Stored Image)) ∈ t'.entries := by
      rw [hentries]
      exact List.mem_cons_self
    refine ⟨⟨_, hnew, rfl⟩, .inr ⟨?_, _, hentries⟩⟩
    rintro ⟨x, hx, hlabel⟩
    -- The names of the table are kept apart, but the new row has a new id.
    have hold : x ∈ t'.entries := by
      rw [hentries]
      exact List.mem_cons_of_mem _ hx
    have hsame := t'.eq_of_label_eq hold hnew (congrArg some hlabel) rfl
    exact Int.ne_of_lt (t.lt_next hx) (congrArg Entry.id hsame)
  · have hlabel : [Datum.text name] ∈ t.labels := by
      refine Decidable.byContradiction fun hnot => htaken fun l hl => ?_
      cases hl
      exact hnot
    obtain ⟨x, hx, hname⟩ := List.mem_filterMap.1 hlabel
    exact ⟨⟨x, hx, Option.some.inj hname⟩, .inl rfl⟩

/-- A request that is no account's change of its profile adds no image, and gives no account an
avatar but the default one to a new account. -/
theorem serve_other (hother : ∀ user, r.IsFrom e s user → r.method = .post →
    r.path ≠ Octets.ofText "/profile") :
    (∀ y ∈ rowsOf (serve e r s).2.images, y ∈ rowsOf s.images)
      ∧ ∀ y ∈ rowsOf (serve e r s).2.users, y ∈ rowsOf s.users
        ∨ ∃ user, y.row = .sound user ∧ user.avatar = DefaultAvatar.name := by
  have horigin := Effect.origin e r s
  have hchange := Effect.change e.clock s (Effect.ofRequest e r s)
  rw [serve_store]
  generalize Effect.ofRequest e r s = effect at horigin hchange ⊢
  generalize effect.apply e.clock s = s' at hchange ⊢
  cases hchange with
  | kept => exact ⟨fun y hy => hy, fun y hy => .inl hy⟩
  | reset hcut => exact ⟨hcut.images.subset, fun y hy => .inl (hcut.users.subset y hy)⟩
  | registered ht happ =>
    refine ⟨fun y hy => hy, fun y hy => ?_⟩
    rw [rowsOf_some, happ.entries] at hy
    rw [ht]
    rcases List.mem_cons.1 hy with rfl | hold
    · exact .inr ⟨_, rfl, rfl⟩
    · exact .inl hold
  | channelAdded => exact ⟨fun y hy => hy, fun y hy => .inl hy⟩
  | posted => exact ⟨fun y hy => hy, fun y hy => .inl hy⟩
  | polled => exact ⟨fun y hy => hy, fun y hy => .inl hy⟩
  | updated =>
    cases horigin with
    | update account path post => exact absurd path (hother _ account post)

/-- Every image after a request was there before, or the request has brought it. -/
theorem serve_images (e : Setting) (r : Request) (s : Store) :
    ∀ y ∈ rowsOf (serve e r s).2.images, y ∈ rowsOf s.images
      ∨ ∃ extension data, r.Brings extension data ∧ data.length ≤ Upload.avatarLimit
        ∧ y.row = .sound ⟨Avatar.imageName data extension, data⟩ := by
  intro y hy
  by_cases hprofile : ∃ user, r.IsFrom e s user ∧ r.method = .post
      ∧ r.path = Octets.ofText "/profile"
  · obtain ⟨user, haccount, hpost, hpath⟩ := hprofile
    rcases serve_profile haccount hpath hpost with ⟨u, hu, -, happlied⟩ | ⟨-, hstore⟩
    · cases hpicture : u.picture? with
      | none =>
        rw [happlied.images hpicture] at hy
        exact .inl hy
      | some picture =>
        obtain ⟨extension, hbrings, hname⟩ := Request.brings_of_picture hpost hpath hu hpicture
        obtain ⟨-, hsame | ⟨-, id, hrows⟩⟩ := happlied.images_cases hpicture
        · rw [hsame] at hy
          exact .inl hy
        · rw [hrows] at hy
          rcases List.mem_cons.1 hy with rfl | hold
          · exact .inr ⟨extension, picture.2, hbrings, (hbrings.picture hu).2, by rw [hname]⟩
          · exact .inl hold
    · rw [hstore] at hy
      exact .inl hy
  · have hother := serve_other fun user haccount hpost hpath =>
      hprofile ⟨user, haccount, hpost, hpath⟩
    exact .inl (hother.1 y hy)

/-- An image stays until the next reset. -/
theorem Store.Names.kept {name : String} (h : s.Names name) (e : Setting)
    (hreset : ¬ r.Resets) : (serve e r s).2.Names name := by
  obtain ⟨x, hx, hlabel⟩ := h
  rcases (serve_intact e r s).images x hx with hkept | ⟨hresets, -⟩
  · exact ⟨x, hkept, hlabel⟩
  · exact absurd hresets hreset

/-- A picture that has been uploaded is there. -/
theorem names_of_uploaded {user : Entry User} {extension : String} {data : Octets}
    (haccount : r.IsFrom e s user) (hbrings : r.Brings extension data)
    (hstatus : (serve e r s).1.status = 303) :
    (serve e r s).2.Names (Avatar.imageName data extension) := by
  rcases serve_profile haccount hbrings.path hbrings.post with ⟨u, hu, -, happlied⟩ | ⟨hnot, -⟩
  · exact (happlied.images_cases (hbrings.picture hu).1).1
  · exact absurd hstatus hnot

/-- A picture whose name is there is not stored again. -/
theorem images_of_again {extension : String} {data : Octets} (hbrings : r.Brings extension data)
    (hnames : s.Names (Avatar.imageName data extension)) :
    rowsOf (serve e r s).2.images = rowsOf s.images := by
  by_cases haccount : ∃ user, r.IsFrom e s user
  · obtain ⟨user, haccount⟩ := haccount
    rcases serve_profile haccount hbrings.path hbrings.post with ⟨u, hu, -, happlied⟩ | ⟨-, hstore⟩
    · obtain ⟨-, hsame | ⟨hfree, -⟩⟩ := happlied.images_cases (hbrings.picture hu).1
      · exact hsame
      · exact absurd hnames hfree
    · rw [hstore]
  · have hstore := (Request.Asks.updateProfile hbrings.path hbrings.post).leads.stranger
      fun user hfrom => haccount ⟨user, hfrom⟩
    rw [hstore]

/-- The extension of a picture is one that may be uploaded. -/
theorem Request.Brings.extension_mem {extension : String} {data : Octets}
    (h : r.Brings extension data) : extension ∈ Avatar.extensions := by
  obtain ⟨_, _, _, _, _, _, _, _, hext, _⟩ := h.sent
  exact Avatar.extension?_mem hext

/-- A picture is no reset. -/
theorem Request.Brings.not_resets {extension : String} {data : Octets}
    (h : r.Brings extension data) : ¬ r.Resets := fun hreset => hreset.get.ne_post h.post

end

/-! ## Runs -/

section

variable {now : String} {run : List Call} {extension : String} {data : Octets}

/-- Every image of a run is the default avatar, or a request of the run has brought it. -/
theorem images_origin (now : String) (run : List Call) :
    ∀ x ∈ rowsOf (storeAfter now run).images,
      x.row = .sound ⟨DefaultAvatar.name, DefaultAvatar.data⟩
        ∨ ∃ c ∈ run, ∃ extension data, c.request.Brings extension data
          ∧ data.length ≤ Upload.avatarLimit
          ∧ x.row = .sound ⟨Avatar.imageName data extension, data⟩ := by
  induction run with
  | nil =>
    have hfresh : rowsOf (storeAfter now []).images
        = [⟨1, .sound ⟨DefaultAvatar.name, DefaultAvatar.data⟩⟩] := rfl
    intro x hx
    rw [hfresh] at hx
    obtain rfl := List.mem_singleton.1 hx
    exact .inl rfl
  | cons call earlier ih =>
    intro x hx
    rcases serve_images _ _ _ x hx with hold | ⟨extension, data, hbrings, hlength, hrow⟩
    · rcases ih x hold with hdefault | ⟨c, hc, horigin⟩
      · exact .inl hdefault
      · exact .inr ⟨c, List.mem_cons_of_mem _ hc, horigin⟩
    · exact .inr ⟨call, List.mem_cons_self, extension, data, hbrings, hlength, hrow⟩

/-- The name of a picture that has been uploaded is there until the next reset. -/
theorem Uploaded.names (h : Uploaded now run extension data) :
    (storeAfter now run).Names (Avatar.imageName data extension) := by
  obtain ⟨later, call, earlier, user, rfl, haccount, hbrings, hstatus, hkept⟩ := h
  induction later with
  | nil => exact names_of_uploaded haccount hbrings hstatus
  | cons c rest ih =>
    rw [List.forall_mem_cons] at hkept
    exact Store.Names.kept (ih hkept.2) c.setting hkept.1

/-- An image with the name of a picture of the run is that picture, if no two of them have one
digest. -/
theorem image_of_distinct (hdistinct : Distinct run) {c : Call} (hc : c ∈ run)
    (hbrings : c.request.Brings extension data) {x : Entry (Stored Image)}
    (hx : x ∈ rowsOf (storeAfter now run).images)
    (hlabel : Image.label x.row = [.text (Avatar.imageName data extension)]) :
    x.row = .sound ⟨Avatar.imageName data extension, data⟩ := by
  rcases images_origin now run x hx with hdefault | ⟨c', hc', ext', data', hbrings', -, hrow⟩
  · rw [hdefault] at hlabel
    have hname : DefaultAvatar.name = Avatar.imageName data extension := by
      simpa [Image.label] using hlabel
    exact absurd hname.symm Avatar.imageName_ne_default
  · rw [hrow] at hlabel
    have hname : Avatar.imageName data' ext' = Avatar.imageName data extension := by
      simpa [Image.label] using hlabel
    have hsame := hdistinct c' hc' c hc _ _ _ _ hbrings' hbrings (Avatar.imageName_inj hname).1
    rw [hrow, hname, hsame]

/-- After every run the images are what they are named for. -/
theorem pictures_addressed (now : String) (run : List Call) : Addressed now run where
  apart x hx y hy hlabel := by
    obtain ⟨t, ht, -⟩ := (storeAfter_sound now run).images
    rw [ht] at hx hy
    exact t.eq_of_label_eq hx hy rfl (congrArg some hlabel.symm)
  named x hx := by
    rcases images_origin now run x hx with hdefault | ⟨c, -, ext, data, hbrings, hlength, hrow⟩
    · exact .inl hdefault
    · exact .inr ⟨ext, hbrings.extension_mem, data, hrow, hbrings.ne, hlength⟩
  served hdistinct extension data huploaded := by
    obtain ⟨⟨id, row⟩, hx, hlabel⟩ := huploaded.names
    obtain ⟨later, call, earlier, -, hrun, -, hbrings, -⟩ := huploaded
    have hcall : call ∈ run := by
      rw [hrun]
      exact List.mem_append_right _ List.mem_cons_self
    have hext := hbrings.extension_mem
    obtain ⟨mediaType, hmedia⟩ := Avatar.mediaType?_isSome hext
    refine ⟨mediaType, hmedia, fun e r hget hpath => ?_⟩
    obtain rfl : row = _ := image_of_distinct hdistinct hcall hbrings hx hlabel
    exact serve_icon (Request.asksIcon_imageName hext hget hpath)
      ((Avatar.mediaType?_imageName data hext).trans hmedia) hx
  once extension data huploaded more hmore := by
    -- The name is there before each of the calls, which then leaves the images as they are.
    have hall : rowsOf (storeAfter now (more ++ run)).images = rowsOf (storeAfter now run).images
        ∧ (storeAfter now (more ++ run)).Names (Avatar.imageName data extension) := by
      induction more with
      | nil => exact ⟨rfl, huploaded.names⟩
      | cons c rest ih =>
        rw [List.forall_mem_cons] at hmore
        obtain ⟨hrows, hnames⟩ := ih hmore.2
        exact ⟨(images_of_again hmore.1 hnames).trans hrows,
          hnames.kept c.setting hmore.1.not_resets⟩
    exact hall.1

end

/-! ## A run with a picture -/

namespace Sample

/-- Gives account 1 a picture of one octet. -/
def dresses : Call where
  setting := setting
  request :=
    ⟨.post, Octets.ofText "/profile", [], [cookies],
      some (Octets.ofText "multipart/form-data; boundary=b"),
      Octets.ofText ("--b\r\nContent-Disposition: form-data; name=\"avatar_icon\"; "
        ++ "filename=\"a.png\"\r\n\r\nx\r\n--b--\r\n")⟩

/-- The call brings the picture. -/
theorem brings_dresses : dresses.request.Brings ".png" [0x78] := by
  have hpicture : ((Multipart.parts? [0x62] dresses.request.body).bind Upload.lastPicture?).map
      (fun p => (p.fileName, p.content)) = some (some "a.png", [0x78]) := by
    decide +kernel
  obtain ⟨p, hp, hfile⟩ := Option.map_eq_some_iff.1 hpicture
  obtain ⟨parts, hparts, hlast⟩ := Option.bind_eq_some_iff.1 hp
  have hext : Avatar.extension? "a.png" = some ".png" := by decide
  exact ⟨rfl, rfl, ⟨[0x62], parts, p, "a.png", by decide +kernel, hparts, hlast,
    congrArg Prod.fst hfile, hext, congrArg Prod.snd hfile⟩, by decide⟩

/-- The account is redirected for the picture. -/
theorem uploaded_dresses : Uploaded opened [dresses, signsUp] ".png" [0x78] := by
  have haccount : dresses.request.IsFrom dresses.setting (storeAfter opened [signsUp]) alice :=
    Visitor.ofCookies_eq_account_iff.2 ⟨session_cookies, user_signsUp⟩
  have hupdate : (Profile.update alice dresses.request (storeAfter opened [signsUp])).1.status
      = 303 := by
    decide +kernel
  have hstatus := ((Request.Asks.updateProfile rfl rfl).status haccount).trans hupdate
  exact ⟨[], dresses, [signsUp], alice, rfl, haccount, brings_dresses, hstatus, by simp⟩

/-- There is no other picture. -/
theorem distinct_dresses : Distinct [dresses, signsUp] := by
  have hone : ∀ c ∈ [dresses, signsUp], ∀ extension data, c.request.Brings extension data →
      data = [0x78] := by
    intro c hc extension data hbrings
    simp only [List.mem_cons, List.not_mem_nil, or_false] at hc
    rcases hc with rfl | rfl
    · exact (hbrings.unique brings_dresses).2
    · have hpath := hbrings.path
      exact absurd hpath (by decide)
  intro c hc c' hc' extension extension' data data' hbrings hbrings' _
  exact (hone c hc _ _ hbrings).trans (hone c' hc' _ _ hbrings').symm

end Sample

/-- The picture of the run can be asked for by its name. -/
theorem pictures_addressed_dressed :
    ∃ mediaType, Avatar.mediaType? ".png" = some mediaType
      ∧ ∀ e r, r.method = .get →
        r.path = Octets.ofText ("/icons/" ++ Avatar.imageName [0x78] ".png") →
          serve e r (storeAfter Sample.opened [Sample.dresses, Sample.signsUp])
            = (.withBody 200 mediaType [0x78],
              storeAfter Sample.opened [Sample.dresses, Sample.signsUp]) :=
  (pictures_addressed Sample.opened [Sample.dresses, Sample.signsUp]).served
    Sample.distinct_dresses ".png" [0x78] Sample.uploaded_dresses

end ChatBoard
