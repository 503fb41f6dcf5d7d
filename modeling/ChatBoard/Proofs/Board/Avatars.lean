import ChatBoard.Proofs.Board.Pictures
import ChatBoard.Proofs.Board.Reset
import ChatBoard.Proofs.Store.Messages

/-!
# The avatars of accounts

An account names its avatar, and nothing but the requests themselves makes sure that there is an
image of that name. `Store.Dressed` says that every account has one and that the default avatar is
there. Every request but the reset keeps this: a new account has the default avatar, an account that
changes its avatar gets the picture that has been stored with the change, and images stay
(`Store.Dressed.kept`). The reset removes accounts and images by their own ids, so it may leave an
account whose image it removes (`reset_undresses`), and `Store.Dressed.reset` says which ones.

In a dressed store whoever is shown has an avatar that can be asked for.
-/

namespace ChatBoard

/-- The avatar in the row of an account, also if the row cannot be read. -/
def User.avatarOf : Stored User → Datum
  | .sound u => .text u.avatar
  | .odd cs => cs.get "avatar_icon"

namespace Store

/-- Some image has a name, and the name tells a media type. -/
def CanShow (name : String) (s : Store) : Prop :=
  s.Names name ∧ ∃ mediaType, Avatar.mediaType? name = some mediaType

/-- The avatar of every account is an image of a known media type, and the default avatar is
there. -/
structure Dressed (s : Store) : Prop where
  accounts : ∀ x ∈ rowsOf s.users, ∃ name, User.avatarOf x.row = .text name ∧ s.CanShow name
  default : s.Names DefaultAvatar.name

end Store

section

variable {e : Setting} {r : Request} {s : Store} {name : String}

/-- An image that can be shown can be shown after every request but the reset. -/
theorem Store.CanShow.kept (h : s.CanShow name) (e : Setting) (hreset : ¬ r.Resets) :
    (serve e r s).2.CanShow name := ⟨h.1.kept e hreset, h.2⟩

/-- The default avatar has a media type. -/
theorem Store.Dressed.canShow_default (h : s.Dressed) : s.CanShow DefaultAvatar.name :=
  ⟨h.default, "image/png", by decide⟩

/-- The avatar of an account after a request is one that an account had before, or the default one,
or the picture that the request has brought and stored. -/
theorem serve_users (e : Setting) (r : Request) (s : Store) :
    ∀ y ∈ rowsOf (serve e r s).2.users,
      (∃ x ∈ rowsOf s.users, User.avatarOf y.row = User.avatarOf x.row)
        ∨ User.avatarOf y.row = .text DefaultAvatar.name
        ∨ ∃ extension data, r.Brings extension data
          ∧ User.avatarOf y.row = .text (Avatar.imageName data extension)
          ∧ (serve e r s).2.Names (Avatar.imageName data extension) := by
  intro y hy
  by_cases hprofile : ∃ user, r.IsFrom e s user ∧ r.method = .post
      ∧ r.path = Octets.ofText "/profile"
  · obtain ⟨user, haccount, hpost, hpath⟩ := hprofile
    rcases serve_profile haccount hpath hpost with ⟨u, hu, -, happlied⟩ | ⟨-, hstore⟩
    · obtain ⟨-, huser⟩ := Visitor.ofCookies_eq_account_iff.1 haccount
      obtain ⟨t, t', ht, ht', -, hentries⟩ := happlied.users
      rw [ht', rowsOf_some, hentries] at hy
      obtain ⟨x, hx, hbecome⟩ := List.mem_map.1 hy
      split at hbecome
      · -- The row is that of the account itself.
        subst hbecome
        cases hpicture : u.picture? with
        | none =>
          have havatar := Upload.avatar_dressed_of_none hpicture user.row
          exact .inl ⟨_, huser, congrArg Datum.text havatar⟩
        | some picture =>
          obtain ⟨extension, hbrings, hname⟩ := Request.brings_of_picture hpost hpath hu hpicture
          have havatar := (Upload.avatar_dressed_of_some hpicture user.row).trans hname
          have hnames := (happlied.images_cases hpicture).1
          rw [hname] at hnames
          exact .inr (.inr ⟨extension, picture.2, hbrings, congrArg Datum.text havatar, hnames⟩)
      · subst hbecome
        rw [ht]
        exact .inl ⟨x, hx, rfl⟩
    · rw [hstore] at hy
      exact .inl ⟨y, hy, rfl⟩
  · have hother := serve_other fun user haccount hpost hpath =>
      hprofile ⟨user, haccount, hpost, hpath⟩
    rcases hother.2 y hy with hold | ⟨user, hrow, havatar⟩
    · exact .inl ⟨y, hold, rfl⟩
    · refine .inr (.inl ?_)
      rw [hrow, ← havatar]
      rfl

/-- Every request but the reset leaves a dressed store dressed. -/
theorem Store.Dressed.kept (h : s.Dressed) (e : Setting) (hreset : ¬ r.Resets) :
    (serve e r s).2.Dressed where
  default := h.default.kept e hreset
  accounts y hy := by
    rcases serve_users e r s y hy with
      ⟨x, hx, hsame⟩ | hdefault | ⟨ext, data, hbrings, havatar, hnew⟩
    · obtain ⟨name, hname, hshow⟩ := h.accounts x hx
      exact ⟨name, hsame.trans hname, hshow.kept e hreset⟩
    · exact ⟨_, hdefault, h.canShow_default.kept e hreset⟩
    · obtain ⟨mediaType, hmedia⟩ := Avatar.mediaType?_isSome hbrings.extension_mem
      have hknown := (Avatar.mediaType?_imageName data hbrings.extension_mem).trans hmedia
      exact ⟨_, havatar, hnew, mediaType, hknown⟩

/-! ## The reset -/

/-- A reset leaves the accounts up to the baseline. -/
theorem users_of_reset (hreset : r.Resets) :
    rowsOf (serve e r s).2.users = (rowsOf s.users).filter (fun x => x.id ≤ 1000) := by
  have hreached : s.users.isSome → TableName.users ∈ s.reached :=
    Store.mem_reached (show TableName.inOrder = [] ++ .users :: _ from rfl) (by simp)
  rw [serve_reset_store hreset]
  exact rowsOf_cut hreached _

/-- Where there are accounts, a reset leaves the images up to the baseline. -/
theorem images_of_reset (hreset : r.Resets) (husers : s.users.isSome) :
    rowsOf (serve e r s).2.images = (rowsOf s.images).filter (fun x => x.id ≤ 1001) := by
  have hreached : s.images.isSome → TableName.images ∈ s.reached :=
    Store.mem_reached (show TableName.inOrder = [.users] ++ .images :: _ from rfl)
      (by simpa [Store.has] using husers)
  rw [serve_reset_store hreset]
  exact rowsOf_cut hreached _

/-- An account that a reset leaves had an image for its avatar, and has it still just when the
image's id is within the baseline. -/
theorem Store.Dressed.reset (h : s.Dressed) (hreset : r.Resets) {x : Entry (Stored User)}
    (hx : x ∈ rowsOf (serve e r s).2.users) :
    x ∈ rowsOf s.users ∧ x.id ≤ 1000
      ∧ ∃ name, User.avatarOf x.row = .text name ∧ ∃ y ∈ rowsOf s.images,
        Image.label y.row = [.text name] ∧ ((serve e r s).2.CanShow name ↔ y.id ≤ 1001) := by
  rw [users_of_reset hreset] at hx
  obtain ⟨hold, hid⟩ := List.mem_filter.1 hx
  have husers : s.users.isSome := by
    obtain ⟨t, ht, -⟩ := exists_of_mem_rowsOf hold
    rw [ht]
    rfl
  obtain ⟨name, havatar, ⟨y, hy, hlabel⟩, hmedia⟩ := h.accounts x hold
  refine ⟨hold, of_decide_eq_true hid, name, havatar, y, hy, hlabel, ?_⟩
  constructor
  · rintro ⟨⟨z, hz, hlabel'⟩, -⟩
    rw [images_of_reset hreset husers] at hz
    obtain ⟨hz, hzid⟩ := List.mem_filter.1 hz
    -- There is only one image of the name.
    obtain ⟨t, ht, hy⟩ := exists_of_mem_rowsOf hy
    rw [ht, rowsOf_some] at hz
    obtain rfl := t.eq_of_label_eq hy hz (congrArg some hlabel) (congrArg some hlabel')
    exact of_decide_eq_true hzid
  · intro hyid
    refine ⟨⟨y, ?_, hlabel⟩, hmedia⟩
    rw [images_of_reset hreset husers]
    exact List.mem_filter.2 ⟨hy, decide_eq_true hyid⟩

/-- The avatars that a reset keeps: those of the accounts that it leaves, and the default one. -/
structure Store.WithinBaseline (s : Store) : Prop where
  accounts : ∀ x ∈ rowsOf s.users, x.id ≤ 1000 → ∀ y ∈ rowsOf s.images,
    Image.label y.row = [User.avatarOf x.row] → y.id ≤ 1001
  default : ∀ y ∈ rowsOf s.images, Image.label y.row = [.text DefaultAvatar.name] → y.id ≤ 1001

/-- A reset leaves a dressed store dressed if the avatars that it should keep are within the
baseline. -/
theorem Store.Dressed.reset_of_within (h : s.Dressed) (hreset : r.Resets)
    (hwithin : s.WithinBaseline) : (serve e r s).2.Dressed where
  accounts x hx := by
    obtain ⟨hold, hid, name, havatar, y, hy, hlabel, hshow⟩ := h.reset hreset hx
    exact ⟨name, havatar, hshow.2 (hwithin.accounts x hold hid y hy (by rw [hlabel, havatar]))⟩
  default := by
    obtain ⟨y, hy, hlabel⟩ := h.default
    have hid := hwithin.default y hy hlabel
    rcases (serve_intact e r s).images y hy with hkept | ⟨-, hgone, -⟩
    · exact ⟨y, hkept, hlabel⟩
    · omega

/-! ## Whoever is shown -/

/-- An image that can be shown is the answer to who asks for it, unless its row cannot be read. -/
theorem Store.CanShow.icon (h : s.CanShow name) (hicon : r.AsksIcon name) :
    ∃ y ∈ rowsOf s.images, Image.label y.row = [.text name]
      ∧ ∃ mediaType, Avatar.mediaType? name = some mediaType
        ∧ (∀ image, y.row = .sound image →
          ChatBoard.serve e r s = (.withBody 200 mediaType image.data, s))
        ∧ ∀ cs, y.row = .odd cs → ChatBoard.serve e r s = (.bare 500, s) := by
  obtain ⟨⟨⟨id, row⟩, hy, hlabel⟩, mediaType, hmedia⟩ := h
  refine ⟨_, hy, hlabel, mediaType, hmedia, ?_, ?_⟩
  · rintro ⟨name', data⟩ rfl
    obtain rfl : name' = name := by simpa [Image.label] using hlabel
    exact serve_icon hicon hmedia hy
  · rintro cs rfl
    have hname : cs.get "name" = .text name := by simpa [Image.label] using hlabel
    exact serve_icon_unreadable hicon hmedia hy hname

/-- What others see of an account has the avatar in its row. -/
theorem avatarOf_of_public {row : Stored User} {author : PublicUser}
    (h : Store.publicUser? row = some author) : User.avatarOf row = .text author.avatar := by
  cases row with
  | sound u =>
    cases h
    rfl
  | odd cs =>
    dsimp only [Store.publicUser?] at h
    split at h
    next havatar =>
      cases h
      exact havatar
    · cases h

/-- In a dressed store the avatar of every author can be shown. -/
theorem Store.Dressed.author (h : s.Dressed) {users : Table (Stored User)}
    (hu : s.users = some users) {id : Int} {author : PublicUser}
    (hauthor : Store.authorOf users id = some author) : s.CanShow author.avatar := by
  unfold Store.authorOf at hauthor
  split at hauthor
  next row hrow =>
    have hmem : ⟨id, row⟩ ∈ rowsOf s.users := by
      rw [hu]
      exact users.get?_eq_some_iff.1 hrow
    obtain ⟨name, hname, hshow⟩ := h.accounts _ hmem
    obtain rfl := Datum.text.inj (hname.symm.trans (avatarOf_of_public hauthor))
    exact hshow
  · -- The account is gone, and the message shows the default avatar.
    cases hauthor
    exact h.canShow_default

/-- In a dressed store the avatar of everyone whose messages are read can be shown. -/
theorem Store.Dressed.authored (h : s.Dressed) {users : Table (Stored User)}
    (hu : s.users = some users) {es : List (Entry (Stored Message))} {ms : List AuthoredMessage}
    (hms : Store.allAuthored users es = .ok ms) : ∀ m ∈ ms, s.CanShow m.author.avatar := by
  intro m hm
  have hmem : some m ∈ es.map (Store.authored? users) := by
    rw [Store.allAuthored_ok.1 hms]
    exact List.mem_map.2 ⟨m, hm, rfl⟩
  obtain ⟨x, -, hx⟩ := List.mem_map.1 hmem
  obtain ⟨-, -, hauthor⟩ := Store.authored?_some hx
  exact h.author hu hauthor

/-- A refusal is no answer. -/
theorem status_refusal (refusal : Refusal) : (Response.ofRefusal refusal).status ≠ 200 := by
  have hstatus : (Response.ofRefusal refusal).status = refusal.status := rfl
  rw [hstatus]
  cases refusal <;> simp [Refusal.status]

/-- A failure is no answer. -/
theorem status_failure (failure : Failure) : (Response.ofFailure failure).status ≠ 200 := by
  cases failure <;> decide

/-- A poll that is answered has read messages. -/
theorem Messages.poll_answered {user : Entry User} (h : (poll e user r s).1.status = 200) :
    ∃ channel after ms, s.messagesAfter channel after pollLimit = .ok ms
      ∧ (poll e user r s).1 = pollAnswer ms := by
  unfold poll at h ⊢
  split at h
  next refusal _ => exact absurd h (status_refusal refusal)
  next channel after _ =>
    split at h
    · exact absurd h (status_failure .internal)
    next ms hms =>
      split at h
      · exact absurd h (status_failure .internal)
      · exact ⟨channel, after, ms, hms, rfl⟩

/-- A page of the history that is shown has messages that have been read. -/
theorem Messages.historyPage_answered {user : Entry User} {channel page : Int}
    (h : (historyPage user channel page s).status = 200) :
    ∃ channels last ms, s.messagesPage channel pageSize ((page - 1) * pageSize) = .ok ms
      ∧ historyPage user channel page s
        = .ofPage "history.html" (historyScope user channels channel page last ms) := by
  unfold historyPage at h ⊢
  split at h
  · exact absurd h (status_failure .internal)
  next count _ =>
    split at h
    · exact absurd h (status_failure .badRequest)
    next hpage =>
      rw [if_neg hpage]
      split at h
      next ms channels _ hms _ => exact ⟨channels, maxPage count, ms, hms, rfl⟩
      · exact absurd h (status_failure .internal)

/-- The history that is shown is that of a channel and a page. -/
theorem Messages.history_answered {user : Entry User} {raw : Octets}
    (h : (history user raw r s).status = 200) :
    ∃ channel page, history user raw r s = historyPage user channel page s := by
  unfold history at h ⊢
  split at h
  next refusal _ => exact absurd h (status_refusal refusal)
  next channel _ =>
    split at h
    next refusal _ => exact absurd h (status_refusal refusal)
    next text _ =>
      split at h
      · exact absurd h (status_failure .badRequest)
      next hchannel =>
        rw [if_neg hchannel]
        split at h
        · exact absurd h (status_failure .badRequest)
        next page _ => exact ⟨channel, page, rfl⟩

/-- A profile that is shown is that of a stored account. -/
theorem Profile.shown_answered {user : Entry User} {raw : Octets}
    (h : (shown user raw s).status = 200) :
    ∃ channels, ∃ other : Entry User, ⟨other.id, .sound other.row⟩ ∈ rowsOf s.users
      ∧ shown user raw s = .ofPage "profile.html" (Page.viewerScope 0 channels user
          [("other", .ofPublicUser (Store.publicUser other.row)),
            ("self_profile", .bool (user.id == other.id))]) := by
  unfold shown at h ⊢
  split at h
  next refusal _ => exact absurd h (status_refusal refusal)
  next name _ =>
    split at h
    next channels _ other hchannels hother =>
      exact ⟨channels, other, (Store.userByName_eq_some_iff.1 hother).1, rfl⟩
    · exact absurd h (status_failure .notFound)
    · exact absurd h (status_failure .internal)

end

/-- What becomes of the avatars in a store where a request is served, and who is shown there. -/
structure AvatarsShown (e : Setting) (r : Request) (s : Store) : Prop where
  /-- After every request but the reset every account has an avatar that can be shown. -/
  kept : ¬ r.Resets → (serve e r s).2.Dressed
  /-- An account that a reset leaves was there before, within the baseline. Its avatar was an image,
  and can still be shown just when the image is within the baseline. -/
  reset : r.Resets → ∀ x ∈ rowsOf (serve e r s).2.users, x ∈ rowsOf s.users ∧ x.id ≤ 1000
    ∧ ∃ name, User.avatarOf x.row = .text name ∧ ∃ y ∈ rowsOf s.images,
      Image.label y.row = [.text name] ∧ ((serve e r s).2.CanShow name ↔ y.id ≤ 1001)
  /-- So where all these images are within the baseline, a reset keeps what every other request
  keeps. -/
  resetKept : r.Resets → s.WithinBaseline → (serve e r s).2.Dressed
  /-- Who asks for an image that can be shown gets it, unless its row cannot be read. -/
  icon : ∀ name, s.CanShow name → r.AsksIcon name → ∃ y ∈ rowsOf s.images,
    Image.label y.row = [.text name] ∧ ∃ mediaType, Avatar.mediaType? name = some mediaType
      ∧ (∀ image, y.row = .sound image → serve e r s = (.withBody 200 mediaType image.data, s))
      ∧ ∀ cs, y.row = .odd cs → serve e r s = (.bare 500, s)
  /-- A profile that is shown is that of an account whose avatar can be shown. -/
  profile : ∀ user part, r.IsFrom e s user → r.HasPart "/profile/" part → r.IsGet →
    (serve e r s).1.status = 200 → ∃ channels, ∃ other : Entry User,
      serve e r s = r.sent (.ofPage "profile.html" (Page.viewerScope 0 channels user
        [("other", .ofPublicUser (Store.publicUser other.row)),
          ("self_profile", .bool (user.id == other.id))]), s)
      ∧ s.CanShow other.row.avatar
  /-- The authors in the answer to a poll have avatars that can be shown. -/
  poll : ∀ user, r.IsFrom e s user → r.path = Octets.ofText "/message" → r.IsGet →
    (serve e r s).1.status = 200 → ∃ ms,
      (serve e r s).1 = (r.sent (Messages.pollAnswer ms, s)).1
      ∧ ∀ m ∈ ms, s.CanShow m.author.avatar
  /-- So do those on a page of the history. -/
  history : ∀ user part, r.IsFrom e s user → r.HasPart "/history/" part → r.IsGet →
    (serve e r s).1.status = 200 → ∃ channels channel page last ms,
      serve e r s = r.sent (.ofPage "history.html"
        (Messages.historyScope user channels channel page last ms), s)
      ∧ ∀ m ∈ ms, s.CanShow m.author.avatar

/-- In a dressed store whoever is shown has an avatar that can be shown, and every request but the
reset leaves such a store. -/
theorem avatars_shown (e : Setting) (r : Request) (s : Store) (h : s.Dressed) :
    AvatarsShown e r s where
  kept hreset := h.kept e hreset
  reset hreset _ hx := h.reset hreset hx
  resetKept hreset hwithin := h.reset_of_within hreset hwithin
  icon _ hshow hicon := hshow.icon hicon
  profile user part haccount hpart hget hstatus := by
    have hasks := Request.Asks.profile hpart hget
    rw [hasks.status haccount] at hstatus
    obtain ⟨channels, other, hother, hanswer⟩ := Profile.shown_answered hstatus
    obtain ⟨name, hname, hshow⟩ := h.accounts _ hother
    obtain rfl : other.row.avatar = name := Datum.text.inj hname
    refine ⟨channels, other, ?_, hshow⟩
    rw [hasks.serve_account haccount, hanswer]
  poll user haccount hpath hget hstatus := by
    have hasks := Request.Asks.poll hpath hget
    rw [hasks.status haccount] at hstatus
    obtain ⟨channel, after, ms, hms, hanswer⟩ := Messages.poll_answered hstatus
    refine ⟨ms, ?_, ?_⟩
    · rw [hasks.serve_account haccount]
      unfold Request.sent
      rw [hanswer]
    · unfold Store.messagesAfter at hms
      split at hms
      · cases hms
      · cases hms
      next t users ht hu => exact h.authored hu hms
  history user part haccount hpart hget hstatus := by
    have hasks := Request.Asks.history hpart hget
    rw [hasks.status haccount] at hstatus
    obtain ⟨channel, page, hpage⟩ := Messages.history_answered hstatus
    rw [hpage] at hstatus
    obtain ⟨channels, last, ms, hms, hanswer⟩ := Messages.historyPage_answered hstatus
    refine ⟨channels, channel, page, last, ms, ?_, ?_⟩
    · rw [hasks.serve_account haccount, hpage, hanswer]
    · unfold Store.messagesPage at hms
      split at hms
      · cases hms
      · cases hms
      next t users ht hu => exact h.authored hu hms

/-- After a run without a reset every account has an avatar that can be shown. -/
theorem dressed_storeAfter (now : String) {run : List Call}
    (h : ∀ c ∈ run, ¬ c.request.Resets) : (storeAfter now run).Dressed := by
  induction run with
  | nil =>
    have hnone : rowsOf (storeAfter now []).users = [] := rfl
    refine ⟨fun x hx => ?_, ⟨1, _⟩, List.mem_singleton.2 rfl, rfl⟩
    rw [hnone] at hx
    exact absurd hx List.not_mem_nil
  | cons c rest ih =>
    rw [List.forall_mem_cons] at h
    exact (ih h.2).kept c.setting h.1

/-! ## A reset that takes an avatar away -/

namespace Sample

/-- A board with account 5, whose avatar is image 1002. -/
def late : Store :=
  { Store.fresh opened with
    users := some (Table.empty.placeNew 5 (.sound { alice.row with avatar := "late.png" }))
    images := some ((Table.empty.placeNew 1
      (.sound ⟨DefaultAvatar.name, DefaultAvatar.data⟩)).placeNew 1002
        (.sound ⟨"late.png", [0x78]⟩)) }

/-- The account has an avatar that can be shown. -/
theorem dressed_late : late.Dressed := by
  have husers : rowsOf late.users
      = [⟨5, .sound { alice.row with avatar := "late.png" }⟩] := rfl
  have hlate : late.Names "late.png" := by
    unfold Store.Names
    decide +kernel
  have hdefault : late.Names DefaultAvatar.name := by
    unfold Store.Names
    decide +kernel
  refine ⟨fun x hx => ?_, hdefault⟩
  rw [husers] at hx
  obtain rfl := List.mem_singleton.1 hx
  exact ⟨"late.png", rfl, hlate, "image/png", by decide⟩

end Sample

/-- A store in which the avatar of everyone who is shown can be shown: that of a run in which an
account has given itself a picture. -/
theorem avatars_shown_dressed :
    (storeAfter Sample.opened [Sample.dresses, Sample.signsUp]).Dressed
      ∧ ∀ e r, AvatarsShown e r (storeAfter Sample.opened [Sample.dresses, Sample.signsUp]) := by
  have hdressed : (storeAfter Sample.opened [Sample.dresses, Sample.signsUp]).Dressed := by
    refine dressed_storeAfter Sample.opened fun c hc hreset => ?_
    have hget := hreset.get.ne_post
    simp only [List.mem_cons, List.not_mem_nil, or_false] at hc
    rcases hc with rfl | rfl <;> exact hget rfl
  exact ⟨hdressed, fun e r => avatars_shown e r _ hdressed⟩

/-- A reset keeps account 5 and removes image 1002, which is its avatar. Who asks for it then does
not find it. -/
theorem reset_undresses :
    Sample.late.Dressed ∧ Sample.clears.request.Resets
      ∧ (∃ x ∈ rowsOf (serve Sample.setting Sample.clears.request Sample.late).2.users,
        User.avatarOf x.row = .text "late.png")
      ∧ ¬ (serve Sample.setting Sample.clears.request Sample.late).2.Names "late.png"
      ∧ ∀ e r, r.AsksIcon "late.png" →
        (serve e r (serve Sample.setting Sample.clears.request Sample.late).2).1 = .bare 404 := by
  rw [serve_reset_store Sample.resets_clears]
  have hmedia : Avatar.mediaType? "late.png" = some "image/png" := by decide
  obtain ⟨t, ht, hnone⟩ : ∃ t, (Sample.late.cutDown Sample.late.reached).images = some t
      ∧ ∀ x ∈ t.entries, Image.label x.row ≠ [.text "late.png"] :=
    ⟨_, rfl, by decide +kernel⟩
  refine ⟨Sample.dressed_late, Sample.resets_clears, by decide +kernel, ?_, fun e r hicon => ?_⟩
  · rintro ⟨x, hx, hlabel⟩
    rw [ht] at hx
    exact hnone x hx hlabel
  · rw [serve_icon_none hicon hmedia ht hnone]

end ChatBoard
