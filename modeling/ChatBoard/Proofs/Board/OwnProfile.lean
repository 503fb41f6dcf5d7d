import ChatBoard.Proofs.Board.Accounts
import ChatBoard.Proofs.Board.Gates
import ChatBoard.Proofs.Codec.Percent
import ChatBoard.Proofs.Page.Fill
import ChatBoard.Proofs.Store.Names

/-!
# The way to one's own profile

An account that asks for its own profile is sent to a path that ends in its name, as the name is.
On the way back the path is cut at the first number sign and at the first question mark, its parts
stand between solidi, and escapes are decoded, so the path leads to the account's own page just when
its name has none of these (`Travels`). `ownProfile_ways` says where every other name leads:
nowhere, to a refusal, or to the page of another account (`ownProfile_strays`).

A name that comes back has not become shorter, and each of the steps on the way makes a name
shorter or leaves it as it is (`travels_of_decode`).
-/

namespace ChatBoard

/-- A name that a path can have at its end as it is. -/
structure Travels (name : String) : Prop where
  ne : name ≠ ""
  solidus : 0x2f ∉ Octets.ofText name
  fragment : 0x23 ∉ Octets.ofText name
  query : 0x3f ∉ Octets.ofText name
  escape : ¬ Percent.HasEscape (Octets.ofText name)

/-- A request of an account for the location to which its name leads. -/
structure FollowsName (e : Setting) (s : Store) (user : Entry User) (r : Request) : Prop where
  account : r.IsFrom e s user
  get : r.method = .get
  path : r.path = (Request.splitTarget (Octets.ofText ("/profile/" ++ user.row.name))).1

/-- The tag that opens the form with which an account changes its profile. -/
def profileForm : String :=
  "<form action=\"/profile\" method=\"post\" enctype=\"multipart/form-data\">"

/-- What the page of an account tells the account that looks at it. -/
def profileScope (user other : Entry User) (channels : List (Entry Channel)) (own : Bool) :
    Page.Scope :=
  Page.viewerScope 0 channels user
    [("other", .ofPublicUser (Store.publicUser other.row)), ("self_profile", .bool own)]

/-- An answer that shows an account its own profile, with the form that changes it. -/
structure ShowsOwn (user : Entry User) (answer : Response) : Prop where
  status : answer.status = 200
  page : ∃ channels html,
    Page.render "profile.html" (profileScope user user channels true) = .ok html
      ∧ answer = .page html ∧ profileForm.toList <:+: html.toList

/-- An answer that shows an account the profile of another one. -/
structure ShowsOther (s : Store) (user : Entry User) (answer : Response) : Prop where
  status : answer.status = 200
  page : ∃ other channels, ⟨other.id, .sound other.row⟩ ∈ rowsOf s.users ∧ other.id ≠ user.id
    ∧ answer = .ofPage "profile.html" (profileScope user other channels false)

/-- Where an account gets that asks for its own profile. -/
structure OwnProfileWays (s : Store) (user : Entry User) : Prop where
  /-- It is sent to its name, if a header line can hold the name. -/
  sent : ∀ e r, r.IsFrom e s user → r.method = .get → r.path = Octets.ofText "/profile" →
    serve e r s =
      if (Octets.ofText user.row.name).all Octets.isFieldOctet then
        ({ Response.bare 303 with
            location := some (Octets.ofText ("/profile/" ++ user.row.name)) }, s)
      else (.ofRefusal .headerValue, s)
  /-- A name that travels leads to the account's own profile. -/
  arrives : Travels user.row.name → ∀ e r, FollowsName e s user r →
    ShowsOwn user (serve e r s).1 ∧ (serve e r s).2 = s
  /-- Any other name does not: there is no such page, or it is no text, or it is another account's
  name. -/
  strays : ¬ Travels user.row.name → ∀ e r, FollowsName e s user r →
    ((serve e r s).1.status = 404 ∨ (serve e r s).1.status = 400
      ∨ ShowsOther s user (serve e r s).1) ∧ (serve e r s).2 = s

/-! ## The path to a name -/

namespace Request

/-- What is left of octets before a number sign and a question mark. -/
theorem splitPath_prefix (bs : Octets) : (splitPath bs).1 <+: bs :=
  (List.takeWhile_prefix _).trans (List.takeWhile_prefix _)

/-- Octets with neither a number sign nor a question mark are left as they are. -/
theorem splitPath_of_not_mem {bs : Octets} (hfragment : 0x23 ∉ bs) (hquery : 0x3f ∉ bs) :
    (splitPath bs).1 = bs := by
  have hkept : ∀ sep : UInt8, sep ∉ bs → bs.takeWhile (· != sep) = bs := fun sep hsep =>
    List.takeWhile_eq_self_iff.2 fun b hb => bne_iff_ne.2 fun heq => hsep (heq ▸ hb)
  unfold splitPath Octets.cutAt
  dsimp only
  rw [hkept _ hfragment, hkept _ hquery]

/-- What is left has neither. -/
theorem not_mem_splitPath (bs : Octets) : 0x23 ∉ (splitPath bs).1 ∧ 0x3f ∉ (splitPath bs).1 := by
  have hcut : ∀ (sep : UInt8) (cs : Octets), sep ∉ cs.takeWhile (· != sep) := by
    intro sep cs hmem
    have hne : (sep != sep) = true := List.mem_takeWhile_imp (p := (· != sep)) hmem
    exact absurd rfl (bne_iff_ne.1 hne)
  refine ⟨fun hmem => hcut 0x23 bs ?_, hcut 0x3f _⟩
  exact (List.takeWhile_prefix _).subset hmem

/-- The path of the location that a name gives is cut only within the name. -/
theorem splitTarget_profile (name : String) :
    (splitTarget (Octets.ofText ("/profile/" ++ name))).1
      = Octets.ofText "/profile/" ++ (splitPath (Octets.ofText name)).1 := by
  have hroot : ∀ sep, (Octets.ofText "/profile/").all (· != sep) = true → ∀ bs : Octets,
      (Octets.ofText "/profile/" ++ bs).takeWhile (· != sep)
        = Octets.ofText "/profile/" ++ bs.takeWhile (· != sep) := fun sep hplain bs =>
    List.takeWhile_append_of_pos (List.all_eq_true.1 hplain)
  have hhead : (Octets.ofText "/profile/" ++ Octets.ofText name).head? = some 0x2f := rfl
  rw [Octets.ofText_append]
  unfold splitTarget
  rw [if_pos (.inl hhead)]
  unfold splitPath Octets.cutAt
  dsimp only
  rw [hroot _ (by decide), hroot _ (by decide)]

end Request

/-- A name that its path is decoded to travels. -/
theorem travels_of_decode {name : String} (hne : (Request.splitPath (Octets.ofText name)).1 ≠ [])
    (hsolidus : 0x2f ∉ (Request.splitPath (Octets.ofText name)).1)
    (h : Percent.decode (Request.splitPath (Octets.ofText name)).1 = Octets.ofText name) :
    Travels name := by
  have hprefix := Request.splitPath_prefix (Octets.ofText name)
  have hno := Request.not_mem_splitPath (Octets.ofText name)
  generalize (Request.splitPath (Octets.ofText name)).1 = part at hne hsolidus h hprefix hno
  -- The part is not longer than the name, and what it is decoded to is not longer than the part.
  have hlength := Percent.length_decode_le part
  rw [h] at hlength
  obtain rfl : part = Octets.ofText name := hprefix.eq_of_length_le hlength
  refine ⟨?_, hsolidus, hno.1, hno.2, Percent.decode_eq_self_iff.1 h⟩
  rintro rfl
  exact hne rfl

/-! ## Where the path leads -/

section

variable {e : Setting} {r : Request} {s : Store} {user : Entry User}

/-- A path without a route leads nowhere. -/
theorem serve_of_no_route (h : Route.ofPath? r.path = none) : serve e r s = (.bare 404, s) := by
  unfold serve
  rw [h]
  rfl

/-- The page of an account's own profile can be made, and has the form. -/
theorem showsOwn_ofPage (user : Entry User) (channels : List (Entry Channel)) :
    ShowsOwn user (.ofPage "profile.html" (profileScope user user channels true)) := by
  have hwrites : ∃ text, profileForm.toList <:+: text.toList
      ∧ Page.Writes (profileScope user user channels true) text
          (Page.frame "profile.html" Page.profileContent) := by
    refine ⟨_, ?_, .text (.cond (.text (.each (.text (.inside (.text (.print (.text (.print (.text
      (.print (.text (.yes rfl rfl .here)))))))))))))⟩
    decide +kernel
  obtain ⟨html, hhtml⟩ := Page.renders_profile user channels (Store.publicUser user.row) true
  have hpage : Response.ofPage "profile.html" (profileScope user user channels true)
      = .page html := Response.ofPage_of_render hhtml
  rw [hpage]
  refine ⟨rfl, channels, html, hhtml, rfl, ?_⟩
  obtain ⟨text, hform, hwrites⟩ := hwrites
  obtain ⟨ps, hps, rfl⟩ := exists_of_map_eq_ok hhtml
  exact hform.trans (Page.Piece.infix_join (hwrites.mem hps))

/-- A part of a path that is decoded to the name of an account leads to its profile. -/
theorem Profile.shown_of_decode (h : s.Sound) (user : Entry User) {other : Entry User}
    (hother : ⟨other.id, .sound other.row⟩ ∈ rowsOf s.users) {part : Octets}
    (hdecode : Percent.decode part = Octets.ofText other.row.name) :
    ∃ channels, shown user part s
      = .ofPage "profile.html" (profileScope user other channels (user.id == other.id)) := by
  obtain ⟨t, ht, -⟩ := h.channels
  obtain ⟨channels, hchannels, -⟩ := h.listChannels_ok ht
  have hfound := Store.userByName_eq_some_iff.2 ⟨hother, rfl⟩
  refine ⟨channels, ?_⟩
  unfold shown Request.pathText
  rw [hdecode, Octets.toText?_ofText]
  dsimp only
  rw [hchannels, hfound]
  rfl

/-- A part of a path leads to the profile of the account whose name it is decoded to, if there is
one. -/
theorem Profile.shown_cases (h : s.Sound) (user : Entry User) (part : Octets) :
    (shown user part s).status = 404 ∨ (shown user part s).status = 400
      ∨ ∃ other : Entry User, ⟨other.id, .sound other.row⟩ ∈ rowsOf s.users
          ∧ Percent.decode part = Octets.ofText other.row.name := by
  cases htext : Octets.toText? (Percent.decode part) with
  | none =>
    refine .inr (.inl ?_)
    unfold shown Request.pathText
    rw [htext]
    rfl
  | some name =>
    have hdecode := Octets.toText?_eq_some_iff.1 htext
    by_cases hname : s.HasName name
    · obtain ⟨id, row, hmem, rfl⟩ := hname
      exact .inr (.inr ⟨⟨id, row⟩, hmem, hdecode⟩)
    · obtain ⟨t, ht, -⟩ := h.channels
      obtain ⟨channels, hchannels, -⟩ := h.listChannels_ok ht
      refine .inl ?_
      unfold shown Request.pathText
      rw [htext]
      dsimp only
      rw [hchannels, h.userByName_none hname]
      rfl

/-- Without a part, or with one that has a solidus, the path leads nowhere. -/
theorem FollowsName.serve_nowhere (h : FollowsName e s user r)
    (hpart : (Request.splitPath (Octets.ofText user.row.name)).1 = []
      ∨ 0x2f ∈ (Request.splitPath (Octets.ofText user.row.name)).1) :
    serve e r s = (.bare 404, s) := by
  refine serve_of_no_route ?_
  rw [h.path, Request.splitTarget_profile]
  have hlisted : ("profile", fun part => Route.page (.profile part)) ∈ Route.withPart := by
    simp [Route.withPart]
  exact Route.ofPath?_withPart_none "profile" hlisted hpart

/-- With one part the path leads to the profile that the part names. -/
theorem FollowsName.serve_shown (h : FollowsName e s user r)
    (hne : (Request.splitPath (Octets.ofText user.row.name)).1 ≠ [])
    (hsolidus : 0x2f ∉ (Request.splitPath (Octets.ofText user.row.name)).1) :
    serve e r s
      = (Profile.shown user (Request.splitPath (Octets.ofText user.row.name)).1 s, s) := by
  have hasks := Request.Asks.profile (r := r)
    ⟨hne, hsolidus, h.path.trans (Request.splitTarget_profile user.row.name)⟩ (.inl h.get)
  rw [hasks.serve_account h.account, r.sent_of_get h.get]

end

/-- Where an account of a sound store gets that asks for its own profile. -/
theorem Store.Sound.ownProfileWays {s : Store} (h : s.Sound) (user : Entry User) :
    OwnProfileWays s user where
  sent e r haccount hget hpath := by
    have hasks := Request.Asks.ownProfile hpath (.inl hget)
    -- The rest of the location can stand in a header line.
    have hroot : (Octets.ofText "/profile/").all Octets.isFieldOctet = true := by decide
    have hall : (Octets.ofText ("/profile/" ++ user.row.name)).all Octets.isFieldOctet
        = (Octets.ofText user.row.name).all Octets.isFieldOctet := by
      rw [Octets.ofText_append, List.all_append, hroot, Bool.true_and]
    rw [hasks.serve_account haccount, r.sent_of_get hget]
    unfold Profile.own Response.redirect
    rw [hall]
    split <;> rfl
  arrives htravels e r hfollows := by
    obtain ⟨-, huser⟩ := Visitor.ofCookies_eq_account_iff.1 hfollows.account
    have hpart := Request.splitPath_of_not_mem htravels.fragment htravels.query
    have hne : Octets.ofText user.row.name ≠ [] := fun hnil =>
      htravels.ne (Octets.ofText_injective (t := "") hnil)
    have hserve := hfollows.serve_shown (by rwa [hpart]) (by rw [hpart]; exact htravels.solidus)
    rw [hpart] at hserve
    obtain ⟨channels, hshown⟩ := Profile.shown_of_decode h user huser
      (Percent.decode_eq_self_iff.2 htravels.escape)
    rw [hserve, hshown, beq_self_eq_true]
    exact ⟨showsOwn_ofPage user channels, rfl⟩
  strays hstrays e r hfollows := by
    obtain ⟨-, huser⟩ := Visitor.ofCookies_eq_account_iff.1 hfollows.account
    by_cases hnowhere : (Request.splitPath (Octets.ofText user.row.name)).1 = []
        ∨ 0x2f ∈ (Request.splitPath (Octets.ofText user.row.name)).1
    · rw [hfollows.serve_nowhere hnowhere]
      exact ⟨.inl rfl, rfl⟩
    obtain ⟨hne, hsolidus⟩ := not_or.1 hnowhere
    rw [hfollows.serve_shown hne hsolidus]
    refine ⟨?_, rfl⟩
    rcases Profile.shown_cases h user (Request.splitPath (Octets.ofText user.row.name)).1 with
      h404 | h400 | ⟨other, hother, hdecode⟩
    · exact .inl h404
    · exact .inr (.inl h400)
    · -- The name that is found is another one, so the account is another one.
      have hid : other.id ≠ user.id := by
        intro hid
        obtain ⟨t, ht, hmem⟩ := exists_of_mem_rowsOf hother
        rw [ht] at huser
        have hrow : other.row = user.row :=
          Stored.sound.inj (congrArg Entry.row (t.eq_of_id_eq hmem huser hid))
        rw [hrow] at hdecode
        exact hstrays (travels_of_decode hne hsolidus hdecode)
      obtain ⟨channels, hshown⟩ := Profile.shown_of_decode h user hother hdecode
      have hown : (user.id == other.id) = false := beq_eq_false_iff_ne.2 hid.symm
      obtain ⟨html, hhtml⟩ :=
        Page.renders_profile user channels (Store.publicUser other.row) false
      have hpage : Response.ofPage "profile.html" (profileScope user other channels false)
          = .page html := Response.ofPage_of_render hhtml
      rw [hshown, hown]
      refine .inr (.inr ⟨?_, other, channels, hother, hid, rfl⟩)
      rw [hpage]
      rfl

/-- After every run, where every account gets that asks for its own profile. -/
theorem ownProfile_ways (now : String) (run : List Call) (user : Entry User) :
    OwnProfileWays (storeAfter now run) user :=
  (storeAfter_sound now run).ownProfileWays user

/-! ## A name that leads to another account -/

namespace Sample

/-- Makes an account whose name has an escape, and one with the name that it is decoded to. -/
def namesakes : List Call := [joins "alice", joins "%2561lice"]

/-- The first of them. -/
def escaped : Entry User :=
  { alice with row := { alice.row with name := "%61lice", displayName := "%61lice" } }

/-- The second of them. -/
def namesake : Entry User := { alice with id := 2 }

/-- Asks for the own profile. -/
def asksOwn : Call := call .get "/profile" "" ""

/-- Follows the name of the account. -/
def followsName : Call := call .get "/profile/%61lice" "" ""

/-- The rows of the two accounts. -/
theorem rows_namesakes :
    ⟨escaped.id, .sound escaped.row⟩ ∈ rowsOf (storeAfter opened namesakes).users
      ∧ ⟨namesake.id, .sound namesake.row⟩ ∈ rowsOf (storeAfter opened namesakes).users := by
  have hrows : rowsOf (storeAfter opened namesakes).users
      = [⟨namesake.id, .sound namesake.row⟩, ⟨escaped.id, .sound escaped.row⟩] := by
    decide +kernel
  rw [hrows]
  exact ⟨List.mem_cons_of_mem _ List.mem_cons_self, List.mem_cons_self⟩

end Sample

/-- An account with an escape in its name is sent to its name, and shown the profile of the account
whose name that is decoded to. -/
theorem ownProfile_strays :
    (serve Sample.setting Sample.asksOwn.request
        (storeAfter Sample.opened Sample.namesakes)).1.location
        = some (Octets.ofText "/profile/%61lice")
      ∧ FollowsName Sample.setting (storeAfter Sample.opened Sample.namesakes) Sample.escaped
          Sample.followsName.request
      ∧ ∃ channels, serve Sample.setting Sample.followsName.request
            (storeAfter Sample.opened Sample.namesakes)
          = (.ofPage "profile.html" (profileScope Sample.escaped Sample.namesake channels false),
              storeAfter Sample.opened Sample.namesakes) := by
  have hsound := storeAfter_sound Sample.opened Sample.namesakes
  obtain ⟨hescaped, hnamesake⟩ := Sample.rows_namesakes
  generalize storeAfter Sample.opened Sample.namesakes = s at hsound hescaped hnamesake ⊢
  have haccount : ∀ path,
      (Sample.call .get path "" "").request.IsFrom Sample.setting s Sample.escaped :=
    fun path => Visitor.ofCookies_eq_account_iff.2 ⟨Sample.session_cookies, hescaped⟩
  have hfollows : FollowsName Sample.setting s Sample.escaped Sample.followsName.request :=
    ⟨haccount _, rfl, by decide +kernel⟩
  refine ⟨?_, hfollows, ?_⟩
  · have hsendable : (Octets.ofText Sample.escaped.row.name).all Octets.isFieldOctet = true := by
      decide
    rw [(hsound.ownProfileWays Sample.escaped).sent Sample.setting Sample.asksOwn.request
      (haccount _) rfl rfl, if_pos hsendable]
    rfl
  · have hpart : (Request.splitPath (Octets.ofText Sample.escaped.row.name)).1
        = Octets.ofText "%61lice" := by
      decide +kernel
    have hdecode : Percent.decode (Octets.ofText "%61lice")
        = Octets.ofText Sample.namesake.row.name := by
      decide +kernel
    obtain ⟨channels, hshown⟩ := Profile.shown_of_decode hsound Sample.escaped hnamesake hdecode
    have hserve := hfollows.serve_shown (by rw [hpart]; decide) (by rw [hpart]; decide)
    rw [hpart, hshown] at hserve
    exact ⟨channels, hserve⟩

end ChatBoard
