import ChatBoard.Proofs.Board.Entrance
import ChatBoard.Proofs.Board.Integrity
import ChatBoard.Proofs.Board.Run
import ChatBoard.Proofs.Board.Succession
import ChatBoard.Proofs.Session.Token

/-!
# Sessions over the life of a board

The history of a board is made of calls and of times when its store was closed and opened again.
`sessions_stay` says two things of every history. The ids that are given out are larger than all
that the table has held before, also those of rows that are gone. And a session that was started for
an account stays with it: whenever its token is looked at later, the visitor is that account, or
nobody, or someone whose account is gone, but never another account. The second follows from the
first, since an account that was made later has a larger id.
-/

namespace ChatBoard

/-- What happens to a board. -/
inductive Event where
  | call (call : Call)
  | reopening (clock : String)

/-- The store after a history, the latest event first, on a board that was first opened at a
time. -/
def storeSince (now : String) : List Event → Store
  | [] => .fresh now
  | .call call :: earlier => (serve call.setting call.request (storeSince now earlier)).2
  | .reopening clock :: earlier => (storeSince now earlier).opened clock

/-- An id that a table has held at some time of a history. -/
def HeldId {α : Type} [Labelled α] (table : Store → Option (Table α)) (now : String)
    (history : List Event) (id : Int) : Prop :=
  ∃ earlier, earlier <:+ history ∧ ∃ x ∈ rowsOf (table (storeSince now earlier)), x.id = id

/-- The rows that an event adds to a table have ids above all that the table has held. -/
def AddsAbove {α : Type} [Labelled α] (table : Store → Option (Table α)) (now : String)
    (event : Event) (history : List Event) : Prop :=
  ∀ x ∈ rowsOf (table (storeSince now (event :: history))),
    (∀ y ∈ rowsOf (table (storeSince now history)), y.id ≠ x.id) →
      ∀ held, HeldId table now history held → held < x.id

/-- After a history ids are given out that no row has had. -/
structure FreshIds (now : String) (history : List Event) : Prop where
  /-- The id of a new account is larger than all that accounts have had. -/
  user : ∀ clock name salt digest id s',
    (storeSince now history).createUser clock name salt digest = .ok (some id, s') →
      ∀ held, HeldId Store.users now history held → held < id
  /-- The id of a new channel is larger than all that channels have had. -/
  channel : ∀ clock name description id s',
    (storeSince now history).createChannel clock name description = .ok (id, s') →
      ∀ held, HeldId Store.channels now history held → held < id
  /-- The id of a new message is larger than all that messages have had. -/
  message : ∀ clock channel author content id s',
    (storeSince now history).insertMessage clock channel author content = .ok (id, s') →
      ∀ held, HeldId Store.messages now history held → held < id
  /-- The id of an image that is stored for an avatar is larger than all that images have had. -/
  image : ∀ account name data,
    ∀ x ∈ rowsOf ((storeSince now history).setAvatar account name data).2.images,
      x ∉ rowsOf (storeSince now history).images →
        ∀ held, HeldId Store.images now history held → held < x.id
  /-- Whatever happens next, rows that it adds have larger ids than all before. -/
  event : ∀ event, AddsAbove Store.users now event history
    ∧ AddsAbove Store.channels now event history ∧ AddsAbove Store.messages now event history
    ∧ AddsAbove Store.images now event history

/-- What the token of a session that was started for an account is worth on a store. -/
structure StaysWith (id : Int) (user : User) (issued : Setting) (token : Octets) (s : Store) :
    Prop where
  /-- Under any secret and at any time, who sends the token is nobody, or someone whose account is
  gone, or the account, with what it now shows of itself. -/
  never : ∀ e cookies text, Cookie.value? Session.cookieName cookies = some text →
    Octets.ofText text = token →
      Visitor.ofCookies e cookies s = .ok .anonymous ∨ Visitor.ofCookies e cookies s = .ok .gone
      ∨ ∃ displayName avatar, Visitor.ofCookies e cookies s
          = .ok (.account ⟨id, { user with displayName := displayName, avatar := avatar }⟩)
  /-- Under the same secret, until the session has ended, it is the account if its row is there, and
  else its account is gone. -/
  lasting : ∀ e cookies text, Cookie.value? Session.cookieName cookies = some text →
    Octets.ofText text = token → e.secret = issued.secret →
      issued.seconds + Session.lifetime ≤ 0xffffffffffffffff →
        e.seconds ≤ issued.seconds + Session.lifetime + 60 →
          (∃ displayName avatar, Visitor.ofCookies e cookies s
              = .ok (.account ⟨id, { user with displayName := displayName, avatar := avatar }⟩))
          ∨ (Visitor.ofCookies e cookies s = .ok .gone ∧ ∀ x ∈ rowsOf s.users, x.id ≠ id)

/-! ## Opening a store again -/

/-- A row is not placed under an id that is in use, and the counter is there already. -/
theorem Table.placeNew_of_used {α : Type} [Labelled α] (t : Table α) {id : Int} {x : Entry α}
    (hx : x ∈ t.entries) (hid : x.id = id) (row : α) : t.placeNew id row = t := by
  -- The id is in use, and the counter covers it, so raising the counter to it changes nothing.
  have hused : ¬ t.Unused id := fun hunused => hunused x hx hid
  have hbound := t.bounded x hx
  have hcounter : max t.counter id.toNat = t.counter := by omega
  unfold placeNew
  rw [dif_neg fun h => hused h.1]
  obtain ⟨entries, counter, descending, bounded, apart⟩ := t
  unfold raise
  congr 1

/-- A store that has the first channel and the default avatar. -/
structure Store.Seeded (now : String) (s : Store) : Prop where
  channel : ⟨1, .sound (firstChannel now)⟩ ∈ rowsOf s.channels
  image : ⟨1, .sound ⟨DefaultAvatar.name, DefaultAvatar.data⟩⟩ ∈ rowsOf s.images

namespace Store

variable {s : Store} {now : String}

/-- A sound store that has the first rows is not changed when it is opened. -/
theorem Seeded.opened_eq (h : s.Seeded now) (hsound : s.Sound) (clock : String) :
    s.opened clock = s := by
  obtain ⟨⟨u, hu, -⟩, ⟨i, hi, -⟩, ⟨c, hc, -⟩, ⟨m, hm, -⟩, ⟨r, hr, -⟩⟩ := hsound
  obtain ⟨hchannel, himage⟩ := h
  rw [hc] at hchannel
  rw [hi] at himage
  obtain ⟨users, images, channels, messages, marks⟩ := s
  dsimp only at hu hi hc hm hr
  subst hu hi hc hm hr
  unfold opened
  dsimp only [Option.getD_some]
  rw [c.placeNew_of_used hchannel rfl, i.placeNew_of_used himage rfl]

/-- A store opened for the first time has the first rows. -/
theorem seeded_fresh (now : String) : (fresh now).Seeded now :=
  ⟨List.mem_cons_self, List.mem_cons_self⟩

/-- No request removes the first rows. -/
theorem Seeded.serve (h : s.Seeded now) (e : Setting) (r : Request) :
    (ChatBoard.serve e r s).2.Seeded now := by
  rw [serve_store]
  have hintact := Effect.intact e r s
  constructor
  · rcases hintact.channels _ h.channel with hkept | ⟨-, hlt, -⟩
    · exact hkept
    · exact absurd hlt (show ¬ (10 : Int) < 1 by decide)
  · rcases hintact.images _ h.image with hkept | ⟨-, hlt, -⟩
    · exact hkept
    · exact absurd hlt (show ¬ (1001 : Int) < 1 by decide)

end Store

/-- After every history the store is sound and has the first rows. -/
theorem storeSince_sound (now : String) (history : List Event) :
    (storeSince now history).Sound ∧ (storeSince now history).Seeded now := by
  induction history with
  | nil => exact ⟨Store.sound_fresh now, Store.seeded_fresh now⟩
  | cons event earlier ih =>
    obtain ⟨hsound, hseeded⟩ := ih
    cases event with
    | call call =>
      refine ⟨?_, hseeded.serve call.setting call.request⟩
      dsimp only [storeSince]
      rw [serve_store]
      exact Effect.sound_apply hsound _ _
    | reopening clock =>
      dsimp only [storeSince]
      rw [hseeded.opened_eq hsound]
      exact ⟨hsound, hseeded⟩

/-- The store after more events succeeds the one before them. -/
theorem storeSince_succeeds (now : String) (later earlier : List Event) :
    (storeSince now (later ++ earlier)).Succeeds (storeSince now earlier) := by
  induction later with
  | nil => exact (storeSince_sound now earlier).1.succeeds_refl
  | cons event later ih =>
    obtain ⟨hsound, hseeded⟩ := storeSince_sound now (later ++ earlier)
    refine Store.Succeeds.trans ?_ ih
    cases event with
    | call call =>
      dsimp only [List.cons_append, storeSince]
      rw [serve_store]
      exact Effect.succeeds hsound _ _
    | reopening clock =>
      -- Opening the store again changes nothing, as it has all tables and the first rows.
      dsimp only [List.cons_append, storeSince]
      rw [hseeded.opened_eq hsound]
      exact hsound.succeeds_refl

/-! ## Ids over the life of a board -/

/-- A table that is there in every sound store and keeps the ids of its rows. -/
def KeepsIds {α : Type} [Labelled α] (table : Store → Option (Table α)) : Prop :=
  ∀ s' s : Store, s'.Succeeds s →
    ∃ t' t, table s' = some t' ∧ table s = some t ∧ t'.Descends (fun _ _ => True) t

/-- A table that follows keeps ids. -/
theorem keepsIds_of_follows {α : Type} [Labelled α] {table : Store → Option (Table α)}
    (h : ∀ s' s : Store, s'.Succeeds s →
      ∃ t' t, table s' = some t' ∧ table s = some t ∧ t'.Follows t) : KeepsIds table := by
  intro s' s hs
  obtain ⟨t', t, ht', ht, hfollows⟩ := h s' s hs
  exact ⟨t', t, ht', ht, .of_follows (fun _ => trivial) hfollows⟩

/-- The accounts keep their ids. -/
theorem keepsIds_users : KeepsIds Store.users := by
  intro s' s hs
  obtain ⟨t', t, ht', ht, hcounter, hold⟩ := hs.users
  refine ⟨t', t, ht', ht, hcounter, fun y hy hid => ?_⟩
  obtain ⟨x, hx, hxy, -⟩ := hold y hy hid
  exact ⟨x, hx, hxy, trivial⟩

section

variable {α : Type} [Labelled α] {table : Store → Option (Table α)} {now : String}
  {history : List Event}

/-- The counter covers every id that the table has held. -/
theorem HeldId.le_counter {id : Int} (h : HeldId table now history id) (hkeeps : KeepsIds table)
    {t : Table α} (ht : table (storeSince now history) = some t) : id ≤ t.counter := by
  obtain ⟨earlier, ⟨later, rfl⟩, x, hx, rfl⟩ := h
  obtain ⟨t', t₀, ht', ht₀, hdescends⟩ := hkeeps _ _ (storeSince_succeeds now later earlier)
  obtain rfl : t' = t := Option.some.inj (ht'.symm.trans ht)
  rw [ht₀] at hx
  have hbound := t₀.bounded x hx
  have hcounter := hdescends.counter_le
  omega

/-- What an event adds lies above the counter. -/
theorem addsAbove (hkeeps : KeepsIds table) (event : Event) :
    AddsAbove table now event history := by
  intro x hx hnew held hheld
  -- A row whose id the counter covered comes from one that was there.
  obtain ⟨t', t, ht', ht, hdescends⟩ := hkeeps _ _ (storeSince_succeeds now [event] history)
  have hle := hheld.le_counter hkeeps ht
  rw [List.singleton_append] at ht'
  rw [ht'] at hx
  rw [ht] at hnew
  have hlt : (t.counter : Int) < x.id := by
    refine Int.not_le.1 fun hid => ?_
    obtain ⟨y, hy, hyx, -⟩ := hdescends.old x hx hid
    exact hnew y hy hyx
  omega

/-- A row that is appended lies above the counter. -/
theorem HeldId.lt_of_appended {id held : Int} (h : HeldId table now history held)
    (hkeeps : KeepsIds table) {t t' : Table α} {row : α}
    (ht : table (storeSince now history) = some t) (happ : t.Appended row id t') : held < id := by
  have hle := h.le_counter hkeeps ht
  have hid := happ.id_eq
  omega

end

/-- After every history fresh ids are given out. -/
theorem freshIds (now : String) (history : List Event) : FreshIds now history where
  user clock name salt digest id s' hmade held hheld := by
    obtain ⟨hnone, -⟩ | ⟨id', t, t', hid, ht, happ, -⟩ := Store.createUser_ok hmade
    · cases hnone
    · obtain rfl := Option.some.inj hid
      exact hheld.lt_of_appended keepsIds_users ht happ
  channel clock name description id s' hmade held hheld := by
    obtain ⟨t, t', ht, happ, -⟩ := Store.createChannel_ok hmade
    exact hheld.lt_of_appended (keepsIds_of_follows fun _ _ h => h.channels) ht happ
  message clock channel author content id s' hmade held hheld := by
    obtain ⟨t, t', ht, happ, -⟩ := Store.insertMessage_ok hmade
    exact hheld.lt_of_appended (keepsIds_of_follows fun _ _ h => h.messages) ht happ
  image account name data x hx hnew held hheld := by
    obtain ⟨s₁, hpicture, haccount⟩ :=
      Store.setAvatar_change (storeSince now history) account name data
    rw [haccount.images] at hx
    cases hpicture with
    | kept => exact absurd hx hnew
    -- The picture was stored under a new id, or only an id was used up.
    | @stocked _ _ t t' ht hstock =>
      rw [ht, rowsOf_some] at hnew
      have hold := (Table.Follows.of_stocked hstock).counter_lt hx hnew
      have hle := hheld.le_counter (keepsIds_of_follows fun _ _ h => h.images) ht
      omega
  event event := ⟨addsAbove keepsIds_users event,
    addsAbove (keepsIds_of_follows fun _ _ h => h.channels) event,
    addsAbove (keepsIds_of_follows fun _ _ h => h.messages) event,
    addsAbove (keepsIds_of_follows fun _ _ h => h.images) event⟩

/-! ## The session of an account -/

/-- The row with an id that was an account's is still that account's, if there is one. -/
theorem Store.Succeeds.account {s s' : Store} (h : s'.Succeeds s) {id : Int} {user : User}
    (huser : ⟨id, .sound user⟩ ∈ rowsOf s.users) {y : Entry (Stored User)}
    (hy : y ∈ rowsOf s'.users) (hid : y.id = id) :
    ∃ displayName avatar,
      y = ⟨id, .sound { user with displayName := displayName, avatar := avatar }⟩ := by
  obtain ⟨t', t, ht', ht, hdescends⟩ := h.users
  rw [ht'] at hy
  rw [ht] at huser
  have hbound := t.bounded _ huser
  -- The id is an old one, so the row comes from the row that had it, which was the account's.
  obtain ⟨x, hx, hxy, htouch⟩ := hdescends.old y hy (by rw [hid]; exact hbound)
  obtain rfl : x = ⟨id, .sound user⟩ := t.eq_of_id_eq hx huser (hxy.trans hid)
  obtain ⟨displayName, avatar, hrow⟩ := htouch user rfl
  refine ⟨displayName, avatar, ?_⟩
  rw [← hrow, ← hid]

/-- Cookies with the session of an account are the account's, while a store that has come from one
with the account has its row, and else of an account that is gone. -/
theorem Store.Succeeds.visitor {s s' : Store} (h : s'.Succeeds s) {id : Int} {user : User}
    (huser : ⟨id, .sound user⟩ ∈ rowsOf s.users) {e : Setting} {cookies : List Cookie}
    (hsession : Session.userId? e.secret e.seconds cookies = some id) :
    (∃ displayName avatar, Visitor.ofCookies e cookies s'
        = .ok (.account ⟨id, { user with displayName := displayName, avatar := avatar }⟩))
      ∨ (Visitor.ofCookies e cookies s' = .ok .gone ∧ ∀ x ∈ rowsOf s'.users, x.id ≠ id) := by
  by_cases hthere : ∃ y ∈ rowsOf s'.users, y.id = id
  · obtain ⟨y, hy, hid⟩ := hthere
    obtain ⟨displayName, avatar, rfl⟩ := h.account huser hy hid
    exact .inl ⟨displayName, avatar, Visitor.ofCookies_eq_account_iff.2 ⟨hsession, hy⟩⟩
  · have hgone : ∀ x ∈ rowsOf s'.users, x.id ≠ id := fun x hx hid => hthere ⟨x, hx, hid⟩
    obtain ⟨t', -, ht', -⟩ := h.users
    refine .inr ⟨Visitor.ofCookies_eq_gone_iff.2 ⟨id, t', hsession, ht', ?_⟩, hgone⟩
    rwa [ht'] at hgone

/-- The session of an account stays with it while its store is succeeded by others. -/
theorem Store.Succeeds.staysWith {s s' : Store} (h : s'.Succeeds s) (hsound : s.Sound) {id : Int}
    {user : User} (huser : ⟨id, .sound user⟩ ∈ rowsOf s.users) (issued : Setting) :
    StaysWith id user issued
      (Token.issue issued.secret ⟨id, issued.seconds + Session.lifetime⟩) s' := by
  -- The id of a row is in the range that claims can have.
  have hrange : -0x8000000000000000 ≤ id ∧ id ≤ 0x7fffffffffffffff := by
    obtain ⟨t, ht, htable⟩ := hsound.users
    rw [ht] at huser
    have hpositive : 0 < id := htable.positive _ huser
    have hbound : id ≤ t.counter := t.bounded _ huser
    have hlargest := htable.inRange
    unfold largestId at hlargest
    omega
  constructor
  · intro e cookies text hcookie htext
    rcases Session.userId?_issue e.secret e.seconds hrange.1 hrange.2 hcookie htext with
      hnobody | hsession
    · exact .inl (Visitor.ofCookies_eq_anonymous_iff.2 hnobody)
    · rcases h.visitor huser hsession with haccount | ⟨hgone, -⟩
      · exact .inr (.inr haccount)
      · exact .inr (.inl hgone)
  · intro e cookies text hcookie htext hsecret hwithin hnow
    rw [← hsecret] at htext
    exact h.visitor huser
      (Session.userId?_issue_counts hrange.1 hrange.2 hcookie htext hwithin hnow)

/-- After every history ids are given out that no row has had, and a session that is started for an
account stays with it, whatever happens later. -/
theorem sessions_stay (now : String) (history : List Event) :
    FreshIds now history
      ∧ ∀ (call : Call) (token : Octets),
        call.request.path = Octets.ofText "/register" ∨ call.request.path = Octets.ofText "/login" →
        CookieOrder.keep Session.cookieName token
            ∈ (serve call.setting call.request (storeSince now history)).1.cookies →
          ∃ id user password,
            call.request.formTexts "name" "password" = .ok (user.name, password)
            ∧ ⟨id, .sound user⟩ ∈ rowsOf (storeSince now (.call call :: history)).users
            ∧ ∀ later, StaysWith id user call.setting token
                (storeSince now (later ++ .call call :: history)) := by
  refine ⟨freshIds now history, fun call token hpath hkeep => ?_⟩
  obtain ⟨id, user, password, hform, huser, rfl⟩ := startsSession_of_keep hpath hkeep
  refine ⟨id, user, password, hform, huser, fun later => ?_⟩
  have hsucceeds := storeSince_succeeds now later (.call call :: history)
  exact hsucceeds.staysWith (storeSince_sound now (.call call :: history)).1 huser call.setting

/-- An account that has just been made keeps its session. -/
theorem sessions_stay_sample :
    ∃ id user, user.name = "alice" ∧ ∀ later, StaysWith id user Sample.setting
      (Token.issue Sample.setting.secret ⟨1, 361000⟩)
      (storeSince Sample.opened (later ++ [.call Sample.signsUp])) := by
  have hkeep : CookieOrder.keep Session.cookieName (Token.issue Sample.setting.secret ⟨1, 361000⟩)
      ∈ (serve Sample.setting Sample.signsUp.request (storeSince Sample.opened [])).1.cookies := by
    decide +kernel
  have hsent : Sample.signsUp.request.formTexts "name" "password" = .ok ("alice", "pw") := by rfl
  obtain ⟨id, user, password, hform, -, hstays⟩ :=
    (sessions_stay Sample.opened []).2 Sample.signsUp _ (.inl rfl) hkeep
  have htexts := Except.ok.inj (hform.symm.trans hsent)
  exact ⟨id, user, congrArg Prod.fst htexts, hstays⟩

end ChatBoard
