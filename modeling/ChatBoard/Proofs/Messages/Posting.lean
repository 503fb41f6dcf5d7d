import ChatBoard.Proofs.Board.Accounts
import ChatBoard.Proofs.Codec.Form
import ChatBoard.Proofs.Messages.Poll
import ChatBoard.Proofs.Text.Numeral
import ChatBoard.Proofs.Wire

/-!
# What is posted comes back

`Store.Sound.posting` follows a message from the form in which an account sends it to the answer of
a later poll, for every text and every number of a channel, however the form is encoded. The form is
accepted just when the text is not empty and the number is one, while ids are left; otherwise
nothing changes. Once it is accepted, whoever polls the channel for what is newer than an earlier id
gets a list that is read back with the message at its end, with its text as it was sent and with its
author as the store has it.

The message is the newest entry of its channel, so it comes first in what a poll reads and last in
what the poll answers (`Store.Sound.polled_newest`). What is written there is read back as it stands
(`Messages.readAll_pollAnswer`).
-/

namespace ChatBoard

/-- A text names a channel: digits, before which a plus sign may stand, denote its number, which is
positive and in the signed 64-bit range. -/
structure NamesChannel (s : String) (n : Nat) : Prop where
  written : ∃ digits, (s.toList = digits ∨ s.toList = '+' :: digits)
    ∧ (∀ c ∈ digits, c.isDigit) ∧ n = Nat.ofDigitChars 10 digits 0
  positive : 0 < n
  inRange : n ≤ 0x7fffffffffffffff

/-- A message that may be posted: a text that is not empty, and a text that names a channel. -/
def MayPost (content channel : String) : Prop := content ≠ "" ∧ ∃ n, NamesChannel channel n

/-- An account sends two texts in a form, in one order or the other and however encoded. -/
structure Request.Posts (e : Setting) (s : Store) (user : Entry User) (content channel : String)
    (r : Request) : Prop where
  account : r.IsFrom e s user
  path : r.path = Octets.ofText "/message"
  post : r.method = .post
  form : MediaType.isForm r.contentType = true
  fits : r.body.length ≤ Request.bodyLimit
  body : ∃ p q, Form.EncodesField p ("message", content)
    ∧ Form.EncodesField q ("channel_id", channel)
    ∧ (r.body = p ++ 0x26 :: q ∨ r.body = q ++ 0x26 :: p)

/-- An account asks for the messages of a channel above an id. -/
structure Request.Polls (e : Setting) (s : Store) (channel after : Int) (r : Request) : Prop where
  account : ∃ user, r.IsFrom e s user
  path : r.path = Octets.ofText "/message"
  get : r.method = .get
  query : r.queryNumbers "channel_id" "last_message_id" = .ok (channel, after)

/-- No id is left for a message. -/
def Store.MessagesFull (s : Store) : Prop := ∃ t, s.messages = some t ∧ largestId ≤ t.counter

/-- An answer with a list of messages of which a message of a user is the last. -/
structure Response.EndsWith (answer : Response) (id : Int) (user : PublicUser) (content : String) :
    Prop where
  status : answer.status = 200
  contentType : answer.contentType = some "application/json"
  body : ∃ earlier date, Json.readAll (Json.readList PostedMessage.read) answer.body
    = .ok (earlier ++ [⟨id, user, date, content⟩])

/-- What becomes of messages that are posted to a store. -/
structure Posting (s : Store) : Prop where
  /-- While ids are left, a message is accepted just when it may be posted. -/
  accepted : ∀ e r user content channel, r.Posts e s user content channel → ¬ s.MessagesFull →
    ((serve e r s).1.status = 204 ↔ MayPost content channel)
  /-- What may not be posted is forbidden and changes nothing. -/
  forbidden : ∀ e r user content channel, r.Posts e s user content channel →
    ¬ MayPost content channel → serve e r s = (.bare 403, s)
  /-- Once the ids are used up, what may be posted fails and changes nothing. -/
  failed : ∀ e r user content channel, r.Posts e s user content channel → s.MessagesFull →
    MayPost content channel → serve e r s = (.bare 500, s)
  /-- What has been accepted comes back at the end of every poll for what is newer than an id below
  its own, from the account that has posted it. -/
  returned : ∀ e r user content channel, r.Posts e s user content channel →
    (serve e r s).1.status = 204 →
      ∃ n id, NamesChannel channel n
        ∧ s.insertMessage e.clock n user.id content = .ok (id, (serve e r s).2)
        ∧ ⟨user.id, .sound user.row⟩ ∈ rowsOf (serve e r s).2.users
        ∧ ∀ e' r' after, r'.Polls e' (serve e r s).2 n after → after < id →
          (serve e' r' (serve e r s).2).1.EndsWith id (Store.publicUser user.row) content

/-! ## What a form asks for -/

namespace Messages

/-- The number of a channel is read from the texts that name it, and from no others. -/
theorem channelNumber?_eq_some_iff {s : String} {id : Int} :
    channelNumber? s = some id ↔ ∃ n : Nat, id = n ∧ NamesChannel s n := by
  unfold channelNumber?
  constructor
  · intro h
    split at h
    next i hread =>
      split at h
      next hpos =>
        cases h
        obtain ⟨n, rfl⟩ := Int.eq_ofNat_of_zero_le (Int.le_of_lt hpos)
        have hpos' : 0 < n := Int.ofNat_lt.1 hpos
        obtain ⟨hle, hwritten⟩ := (Numeral.readInt64_eq_ok_iff hpos').1 hread
        exact ⟨n, rfl, hwritten, hpos', hle⟩
      · cases h
    · cases h
  · rintro ⟨n, rfl, hwritten, hpos, hle⟩
    rw [(Numeral.readInt64_eq_ok_iff hpos).2 ⟨hle, hwritten⟩]
    exact if_pos (Int.ofNat_lt.2 hpos)

end Messages

variable {e : Setting} {r : Request} {s : Store} {user : Entry User} {content channel : String}

/-- The two texts of a form are read however it is encoded. -/
theorem Request.Posts.formTexts (h : r.Posts e s user content channel) :
    r.formTexts "message" "channel_id" = .ok (content, channel) := by
  have hsize : r.isTooLarge = false := decide_eq_false (Nat.not_lt.2 h.fits)
  obtain ⟨p, q, hp, hq, hbody⟩ := h.body
  have hfields : Form.twoTexts "message" "channel_id" (Form.fields r.body)
      = .ok (content, channel) := by
    rcases hbody with hbody | hbody
    · rw [hbody, Form.fields_encoded hp hq]
      rfl
    · rw [hbody, Form.fields_encoded hq hp]
      rfl
  unfold Request.formTexts Request.formFields
  rw [h.form, hsize, if_neg (by decide), if_neg (by decide)]
  dsimp only
  rw [hfields]
  rfl

/-- A form that an account posts is carried out as a post. -/
theorem Request.Posts.serve_eq (h : r.Posts e s user content channel) :
    serve e r s = Messages.post e user r s := by
  have hroute : Route.ofPath? r.path = some (.api .messages) :=
    (Route.ofPath?_fixed_iff "message" (by decide)).2 h.path
  have hanswers : (Route.api .messages).answers r.method = true := by
    rw [h.post]
    rfl
  rw [serve_route hroute hanswers, r.sent_of_post h.post, Route.act,
    Route.gated_account h.account, ApiRoute.serve, if_pos h.post]

/-- What may not be posted is forbidden. -/
theorem Request.Posts.serve_of_not (h : r.Posts e s user content channel)
    (hmay : ¬ MayPost content channel) : serve e r s = (.bare 403, s) := by
  rw [h.serve_eq]
  unfold Messages.post
  rw [h.formTexts]
  dsimp only
  by_cases hempty : content.isEmpty
  · rw [if_pos hempty]
    rfl
  rw [if_neg hempty]
  cases hchannel : Messages.channelNumber? channel with
  | none => rfl
  | some id =>
    obtain ⟨n, -, hn⟩ := Messages.channelNumber?_eq_some_iff.1 hchannel
    exact absurd ⟨fun heq => hempty (String.isEmpty_iff.2 heq), n, hn⟩ hmay

/-- What has been accepted may be posted. -/
theorem Request.Posts.mayPost (h : r.Posts e s user content channel)
    (hstatus : (serve e r s).1.status = 204) : MayPost content channel := by
  refine Classical.byContradiction fun hmay => ?_
  rw [h.serve_of_not hmay] at hstatus
  exact absurd hstatus (show (403 : Nat) ≠ 204 by decide)

/-- What may be posted is stored, if it can be. -/
theorem Request.Posts.serve_of_may (h : r.Posts e s user content channel) (hne : content ≠ "")
    {n : Nat} (hn : NamesChannel channel n) :
    serve e r s
      = match s.insertMessage e.clock n user.id content with
        | .error _ => (.bare 500, s)
        | .ok (_, s') => (.bare 204, s') := by
  rw [h.serve_eq]
  unfold Messages.post
  rw [h.formTexts]
  dsimp only
  rw [if_neg fun hempty => hne (String.isEmpty_iff.1 hempty),
    Messages.channelNumber?_eq_some_iff.2 ⟨n, rfl, hn⟩]
  dsimp only
  cases s.insertMessage e.clock n user.id content <;> rfl

/-! ## Storing a message -/

namespace Store

/-- No message is stored where no id is left. -/
theorem insertMessage_full (hfull : s.MessagesFull) (now : String) (channel author : Int)
    (content : String) :
    s.insertMessage now channel author content = .error (.refused .full) := by
  obtain ⟨t, ht, hcounter⟩ := hfull
  unfold insertMessage Table.append
  rw [ht]
  dsimp only
  rw [if_pos hcounter]

/-- In a sound store a message is stored while ids are left. -/
theorem Sound.insertMessage_isOk (h : s.Sound) (hroom : ¬ s.MessagesFull) (now : String)
    (channel author : Int) (content : String) :
    ∃ id s', s.insertMessage now channel author content = .ok (id, s') := by
  obtain ⟨t, ht, -⟩ := h.messages
  -- Messages have no labels, so no other message is in the way.
  have hfree : t.Free (.sound ⟨channel, author, content, now⟩) := fun l hl => nomatch hl
  refine ⟨t.counter + 1, { s with messages := some (t.put _ _ t.unused_next hfree) }, ?_⟩
  unfold insertMessage Table.append
  rw [ht]
  dsimp only
  rw [if_neg fun hfull => hroom ⟨t, ht, hfull⟩, dif_pos hfree]

/-- The message that a store was given last comes first in what a poll of its channel reads for
what is newer than an id below its own. -/
theorem Sound.polled_newest {s' : Store} (h : s'.Sound) {now : String}
    {channel author id after : Int}
    (hmade : s.insertMessage now channel author content = .ok (id, s')) (hafter : after < id) :
    ∃ newest older, s'.polled channel after = newest :: older ∧ newest.id = id
      ∧ newest.message = ⟨channel, author, content, now⟩
      ∧ ∀ users, s'.users = some users → authorOf users author = some newest.author := by
  obtain ⟨t, t', -, happ, hs'⟩ := insertMessage_ok hmade
  have hmessages : s'.messages = some t' := by rw [hs']
  have hpending : ∃ rest, s'.pending channel after
      = ⟨id, .sound ⟨channel, author, content, now⟩⟩ :: rest := by
    unfold pending
    rw [inChannel_eq hmessages, happ.entries,
      List.filter_cons_of_pos (by exact beq_self_eq_true channel),
      List.filter_cons_of_pos (by exact decide_eq_true hafter)]
    exact ⟨_, List.take_succ_cons⟩
  obtain ⟨rest, hpending⟩ := hpending
  obtain ⟨-, users, husers, hread⟩ := h.polled_ok channel after
  rw [hpending] at hread
  cases hpolled : s'.polled channel after with
  | nil =>
    rw [hpolled] at hread
    cases hread
  | cons newest older =>
    rw [hpolled, List.map_cons, List.map_cons] at hread
    obtain ⟨hid, hrow, hauthor⟩ := authored?_some (List.cons.inj hread).1
    have hmessage := (Stored.sound.inj hrow).symm
    rw [hmessage] at hauthor
    refine ⟨newest, older, rfl, hid, hmessage, fun users' husers' => ?_⟩
    obtain rfl := Option.some.inj (husers.symm.trans husers')
    exact hauthor

/-- The ids that a poll of a sound store reads are in the signed 64-bit range. -/
theorem Sound.inRange_polled (h : s.Sound) (channel after : Int) :
    ∀ m ∈ s.polled channel after, -0x8000000000000000 ≤ m.id ∧ m.id ≤ 0x7fffffffffffffff := by
  intro m hm
  have hmem : m.id ∈ (s.polled channel after).map (·.id) := List.mem_map.2 ⟨m, hm, rfl⟩
  rw [h.polled_ids] at hmem
  obtain ⟨x, hx, hid⟩ := List.mem_map.1 hmem
  obtain ⟨t, ht, hsound⟩ := h.messages
  have hin := (mem_pending hx).1
  rw [inChannel_eq ht] at hin
  have hentry := (List.mem_filter.1 hin).1
  have hpositive := hsound.positive x hentry
  have hbound := t.bounded x hentry
  have hlargest := hsound.inRange
  unfold largestId at hlargest
  omega

end Store

/-! ## The answer to a poll -/

/-- The messages in the answer to a poll are read back. -/
theorem Messages.readAll_pollAnswer {ms : List AuthoredMessage}
    (h : ∀ m ∈ ms, -0x8000000000000000 ≤ m.id ∧ m.id ≤ 0x7fffffffffffffff) :
    Json.readAll (Json.readList PostedMessage.read) (pollAnswer ms).body
      = .ok (chronological ms) := by
  refine PostedMessage.readAll_write fun m hm => ?_
  obtain ⟨joined, hjoined, rfl⟩ := List.mem_map.1 hm
  exact h joined (List.mem_reverse.1 hjoined)

/-- The message that a store was given last stands at the end of the answer to a poll of its channel
for what is newer than an id below its own, with its author as the store has it. -/
theorem Store.Sound.endsWith_newest {s' : Store} (h : s'.Sound) {now : String}
    {channel id after : Int} {user : Entry User}
    (hmade : s.insertMessage now channel user.id content = .ok (id, s'))
    (huser : ⟨user.id, .sound user.row⟩ ∈ rowsOf s'.users) (hafter : after < id) :
    (Messages.pollAnswer (s'.polled channel after)).EndsWith id (Store.publicUser user.row)
      content := by
  obtain ⟨users, husers, -⟩ := h.users
  obtain ⟨newest, older, hpolled, hid, hmessage, hauthor⟩ := h.polled_newest hmade hafter
  have hread := Messages.readAll_pollAnswer (h.inRange_polled channel after)
  have hknown : Store.authorOf users user.id = some (Store.publicUser user.row) := by
    rw [husers, rowsOf_some] at huser
    unfold Store.authorOf
    rw [users.get?_eq_some_iff.2 huser]
    rfl
  have hshown : newest.author = Store.publicUser user.row :=
    Option.some.inj ((hauthor users husers).symm.trans hknown)
  have hposted : newest.posted = ⟨id, Store.publicUser user.row, displayDate now, content⟩ := by
    unfold AuthoredMessage.posted
    rw [hid, hmessage, hshown]
  refine ⟨rfl, rfl, older.reverse.map AuthoredMessage.posted, displayDate now, ?_⟩
  rw [hread, hpolled, ← hposted]
  unfold chronological
  rw [List.reverse_cons, List.map_append]
  rfl

/-- What an account polls from a sound store. -/
theorem Request.Polls.serve_eq {channel after : Int} (h : r.Polls e s channel after)
    (hsound : s.Sound) : (serve e r s).1 = Messages.pollAnswer (s.polled channel after) := by
  obtain ⟨user, haccount⟩ := h.account
  have heffect : Effect.ofRequest e r s = .poll user.id channel after :=
    Effect.ofRequest_eq_poll_iff.2 ⟨user, haccount, rfl, .inl h.get, h.path, h.query⟩
  rw [serve_poll hsound heffect, h.get]
  exact if_neg Method.noConfusion

/-- In a sound store what is posted comes back. -/
theorem Store.Sound.posting (h : s.Sound) : Posting s where
  accepted e r user content channel hposts hroom := by
    refine ⟨hposts.mayPost, fun ⟨hne, n, hn⟩ => ?_⟩
    obtain ⟨_, s', hmade⟩ := h.insertMessage_isOk hroom e.clock n user.id content
    rw [hposts.serve_of_may hne hn, hmade]
    rfl
  forbidden e r user content channel hposts hmay := hposts.serve_of_not hmay
  failed e r user content channel hposts hfull hmay := by
    obtain ⟨hne, n, hn⟩ := hmay
    rw [hposts.serve_of_may hne hn, insertMessage_full hfull]
  returned e r user content channel hposts hstatus := by
    obtain ⟨hne, n, hn⟩ := hposts.mayPost hstatus
    have hsound' : (serve e r s).2.Sound := by
      rw [serve_store]
      exact Effect.sound_apply h _ _
    have heq := hposts.serve_of_may hne hn
    cases hmade : s.insertMessage e.clock n user.id content with
    | error fault =>
      rw [heq, hmade] at hstatus
      exact absurd hstatus (show (500 : Nat) ≠ 204 by decide)
    | ok made =>
      obtain ⟨id, s'⟩ := made
      rw [hmade] at heq
      dsimp only at heq
      rw [heq] at hsound' ⊢
      -- Only the messages have changed, so the account is where it was.
      obtain ⟨-, huser⟩ := Visitor.ofCookies_eq_account_iff.1 hposts.account
      obtain ⟨t, t', -, -, hs'⟩ := insertMessage_ok hmade
      have huser' : ⟨user.id, .sound user.row⟩ ∈ rowsOf s'.users := by rwa [hs']
      refine ⟨n, id, hn, hmade, huser', fun e' r' after hpolls hafter => ?_⟩
      rw [hpolls.serve_eq hsound']
      exact hsound'.endsWith_newest hmade huser' hafter

/-- After every run what is posted comes back. -/
theorem posting_run (now : String) (run : List Call) : Posting (storeAfter now run) :=
  (storeAfter_sound now run).posting

/-! ## When the ids are used up -/

namespace Sample

/-- Makes the account, and posts one message after the other. -/
def chatter : Nat → List Call
  | 0 => [joins "alice"]
  | n + 1 => posts :: chatter n

/-- On a store that has the account, the call posts a message. -/
theorem posts_request {s : Store} (h : ⟨alice.id, .sound alice.row⟩ ∈ rowsOf s.users) :
    posts.request.Posts setting s alice "hi" "1" where
  account := Visitor.ofCookies_eq_account_iff.2 ⟨session_cookies, h⟩
  path := rfl
  post := rfl
  form := by decide +kernel
  fits := by decide +kernel
  body := by
    have hplain : Form.Plain "message" ∧ Form.Plain "hi" ∧ Form.Plain "channel_id"
        ∧ Form.Plain "1" := by decide
    obtain ⟨hmessage, hhi, hchannel, hone⟩ := hplain
    refine ⟨Form.written ("message", "hi"), Form.written ("channel_id", "1"),
      Form.encodes_written hmessage hhi, Form.encodes_written hchannel hone, .inl ?_⟩
    decide +kernel

/-- The message may be posted. -/
theorem mayPost_hi : MayPost "hi" "1" := by
  have hone : ∀ c ∈ ['1'], c.isDigit := List.forall_mem_singleton.2 (by decide)
  exact ⟨by decide, 1, ⟨['1'], .inl (by decide), hone, rfl⟩, by decide, by decide⟩

/-- The messages have used up as many ids, and the account is there. -/
theorem chatter_store {n : Nat} (h : n ≤ largestId) :
    ⟨alice.id, .sound alice.row⟩ ∈ rowsOf (storeAfter opened (chatter n)).users
      ∧ ∃ t, (storeAfter opened (chatter n)).messages = some t ∧ t.counter = n := by
  induction n with
  | zero =>
    have hsubmits : (joins "alice").request.Submits "/register" "name" "password" "alice" "pw" :=
      joins_submits (by decide) (by decide) (by decide)
    have hroom : ¬ (Store.fresh opened).UsersFull := by
      rintro ⟨t, ht, hfull⟩
      cases ht
      exact absurd hfull (by decide)
    have hfree : ¬ (Store.fresh opened).HasName "alice" := fun ⟨_, _, hmem, _⟩ =>
      absurd hmem List.not_mem_nil
    obtain ⟨t, t', id, ht, happ, heq⟩ :=
      serve_register_free (e := setting) hsubmits (Store.sound_fresh opened) hroom hfree
    have hstore : storeAfter opened (chatter 0) = { Store.fresh opened with users := some t' } :=
      congrArg Prod.snd heq
    cases ht
    obtain rfl : id = 1 := happ.id_eq
    rw [hstore]
    refine ⟨?_, .empty, rfl, rfl⟩
    rw [rowsOf_some, happ.entries]
    exact List.mem_cons_self
  | succ n ih =>
    obtain ⟨huser, t, ht, hcounter⟩ := ih (by omega)
    have hroom : ¬ (storeAfter opened (chatter n)).MessagesFull := by
      rintro ⟨t₁, ht₁, hfull⟩
      obtain rfl := Option.some.inj (ht₁.symm.trans ht)
      omega
    obtain ⟨hne, channel, hchannel⟩ := mayPost_hi
    obtain ⟨id, s', hmade⟩ := (storeAfter_sound opened (chatter n)).insertMessage_isOk hroom
      setting.clock channel alice.id "hi"
    have heq := (posts_request huser).serve_of_may hne hchannel
    rw [hmade] at heq
    have hstore : storeAfter opened (chatter (n + 1)) = s' := by
      rw [chatter, storeAfter, show posts.setting = setting from rfl, heq]
    obtain ⟨t₁, t', ht₁, happ, rfl⟩ := Store.insertMessage_ok hmade
    obtain rfl := Option.some.inj (ht₁.symm.trans ht)
    rw [hstore]
    exact ⟨huser, t', rfl, by rw [happ.counter, hcounter]⟩

end Sample

/-- When as many messages have been posted as there are ids, a message that may be posted is not
accepted. -/
theorem posting_used_up :
    Sample.posts.request.Posts Sample.setting
        (storeAfter Sample.opened (Sample.chatter largestId)) Sample.alice "hi" "1"
      ∧ MayPost "hi" "1"
      ∧ (serve Sample.setting Sample.posts.request
          (storeAfter Sample.opened (Sample.chatter largestId))).1.status = 500 := by
  obtain ⟨huser, t, ht, hcounter⟩ := Sample.chatter_store (Nat.le_refl largestId)
  have hposts := Sample.posts_request huser
  obtain ⟨hne, n, hn⟩ := Sample.mayPost_hi
  refine ⟨hposts, Sample.mayPost_hi, ?_⟩
  rw [hposts.serve_of_may hne hn,
    Store.insertMessage_full ⟨t, ht, Nat.le_of_eq hcounter.symm⟩]
  rfl

end ChatBoard
