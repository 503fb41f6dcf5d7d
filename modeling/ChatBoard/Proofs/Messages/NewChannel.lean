import ChatBoard.Proofs.Board.Gates
import ChatBoard.Proofs.Board.Reopening
import ChatBoard.Proofs.Messages.History
import ChatBoard.Proofs.Text.Numeral

/-!
# A channel that is added

A message may be posted to any positive number, also to one that is no channel's yet, and it stays
there. `newChannel_run` says what a channel that is added comes with: its number has been no
channel's before, and its messages are those that were posted to the number earlier in the run. When
nobody has posted to the number the channel is empty, for its history, for every poll of it and in
everybody's numbers of unread messages (`Store.Sound.showsNone`). `newChannel_not_empty` is the
channel that is not.

Every message in the store has a call of the run that posted it (`exists_posting`): of the changes
that an effect may make only that of a post adds a message, and it adds it to the number that the
post names (`Effect.Change.mem_inChannel`).
-/

namespace ChatBoard

/-- A call that adds a channel after a run, and is answered with the way to a number. -/
structure AddsChannel (now : String) (run : List Call) (call : Call) (channel : Int) : Prop where
  path : call.request.path = Octets.ofText "/add_channel"
  post : call.request.method = .post
  status : (serve call.setting call.request (storeAfter now run)).1.status = 303
  location : (serve call.setting call.request (storeAfter now run)).1.location
    = some (Octets.ofText ("/channel/" ++ Numeral.ofInt channel))

/-- A call posts to the number of a channel after a run. -/
def PostsTo (now : String) (channel : Int) (call : Call) (earlier : List Call) : Prop :=
  ∃ author content, call.effect (storeAfter now earlier) = .post author channel content

/-- A call that has posted a message to the number of a channel after a run. -/
structure HasPosted (now : String) (channel : Int) (x : Entry (Stored Message)) (call : Call)
    (earlier : List Call) : Prop where
  path : call.request.path = Octets.ofText "/message"
  post : call.request.method = .post
  /-- The call names the number, and the message is its own. -/
  posts : ∃ author content, call.effect (storeAfter now earlier) = .post author channel content
    ∧ x.row = .sound ⟨channel, author, content, call.setting.clock⟩
  /-- The message was not there before the call. -/
  new : x ∉ (storeAfter now earlier).inChannel channel
  /-- It was there after the call. -/
  there : x ∈ (storeAfter now (call :: earlier)).inChannel channel

/-- Nobody has posted to the number of a channel in a run. -/
def Unposted (now : String) (channel : Int) (run : List Call) : Prop :=
  ∀ call earlier, call :: earlier <:+ run → ¬ PostsTo now channel call earlier

/-- A channel without messages, as it is seen by everyone. -/
structure ShowsNone (channel : Int) (s : Store) : Prop where
  count : s.countMessages channel = .ok 0
  /-- Its history has the first page and no other, and the page is empty. -/
  history : ∃ channels, s.listChannels none = .ok (channels, "") ∧
    ∀ e r user, LooksBack e s user channel r →
      if Messages.askedPage? r = some 1 then
        (serve e r s).1.status = 200 ∧ (serve e r s).1 = .ofPage "history.html"
          (Messages.historyScope user channels channel 1 1 [])
      else (serve e r s).1.status = 400
  /-- Whoever polls it gets an empty list, whatever message they have seen before. -/
  polled : ∀ e r user after, Polls e s user channel after r →
    (serve e r s).1 = .json (Octets.ofText "[]")
  /-- Nobody has unread messages in it. -/
  unread : ∀ user, ∃ counts, s.unreadCounts user = .ok counts
    ∧ ∀ n ∈ counts, n.channelId = channel → n.unread = 0

/-- The channel that a call has added after a run. -/
structure NewChannel (now : String) (run : List Call) (call : Call) (channel : Int) : Prop where
  /-- At no time of the run was there a channel with the number. -/
  unborn : ∀ earlier, earlier <:+ run →
    ∀ x ∈ rowsOf (storeAfter now earlier).channels, x.id ≠ channel
  /-- Now there is the channel that the form describes. -/
  there : ∃ name description, call.request.formTexts "name" "description" = .ok (name, description)
    ∧ ⟨channel, .sound ⟨name, description, call.setting.clock, call.setting.clock⟩⟩
        ∈ rowsOf (storeAfter now (call :: run)).channels
  /-- The messages are those that were there before, in this channel and all others. -/
  messages : (storeAfter now (call :: run)).messages = (storeAfter now run).messages
  /-- Each message of the channel has been posted to its number by a call of the run. -/
  posted : ∀ x ∈ (storeAfter now (call :: run)).inChannel channel,
    ∃ posting earlier, posting :: earlier <:+ run ∧ HasPosted now channel x posting earlier
  /-- Everybody's unread messages of the channel are those of them above the user's mark. -/
  unread : ∀ user, ∃ counts, (storeAfter now (call :: run)).unreadCounts user = .ok counts
    ∧ ∀ n, n ∈ counts ∧ n.channelId = channel
        ↔ n = ⟨channel, ((storeAfter now (call :: run)).inChannel channel).countP fun x =>
            decide ((storeAfter now (call :: run)).readUpTo user channel < x.id)⟩
  /-- The channel has no messages until someone posts to its number, whatever else is done. -/
  silent : ∀ later, Unposted now channel (later ++ call :: run) →
    (storeAfter now (later ++ call :: run)).inChannel channel = []
  /-- While it has none, now or later, everyone sees that. -/
  empty : ∀ later, (storeAfter now (later ++ call :: run)).inChannel channel = [] →
    ShowsNone channel (storeAfter now (later ++ call :: run))

/-! ## Where messages come from -/

/-- A message of a channel after an effect was there before, or the effect has posted it. -/
theorem Effect.Change.mem_inChannel {now : String} {s s' : Store} {effect : Effect}
    (h : Change now s effect s') {channel : Int} {x : Entry (Stored Message)}
    (hx : x ∈ s'.inChannel channel) :
    x ∈ s.inChannel channel
      ∨ ∃ author content, effect = .post author channel content
          ∧ x.row = .sound ⟨channel, author, content, now⟩ := by
  rw [Store.mem_inChannel_iff] at hx ⊢
  cases h with
  | kept => exact .inl hx
  | reset hcut => exact .inl ⟨hcut.messages.subset x hx.1, hx.2⟩
  | registered => exact .inl hx
  | channelAdded => exact .inl hx
  | polled => exact .inl hx
  | updated hpicture haccount => cases hpicture <;> cases haccount <;> exact .inl hx
  | @posted author number id content t t' ht happ =>
    obtain ⟨hmem, hin⟩ := hx
    rw [rowsOf_some, happ.entries] at hmem
    rcases List.mem_cons.1 hmem with rfl | hold
    · -- The message that is added is in the channel that it names.
      obtain rfl : number = channel := eq_of_beq hin
      exact .inr ⟨author, content, rfl, rfl⟩
    · rw [ht]
      exact .inl ⟨hold, hin⟩

/-- Every message of a channel after a run has been posted to its number by a call of the run. -/
theorem exists_posting (now : String) {channel : Int} {run : List Call}
    {x : Entry (Stored Message)} (hx : x ∈ (storeAfter now run).inChannel channel) :
    ∃ posting earlier, posting :: earlier <:+ run ∧ HasPosted now channel x posting earlier := by
  induction run with
  | nil => exact absurd (Store.mem_inChannel_iff.1 hx).1 List.not_mem_nil
  | cons call earlier ih =>
    by_cases hold : x ∈ (storeAfter now earlier).inChannel channel
    · obtain ⟨posting, before, hsuffix, hposted⟩ := ih hold
      exact ⟨posting, before, hsuffix.trans (List.suffix_cons call earlier), hposted⟩
    · -- The latest call has posted it, and what it asks for tells what it looks like.
      have hthere := hx
      rw [storeAfter_cons] at hx
      have hchange := Effect.change call.setting.clock (storeAfter now earlier)
        (call.effect (storeAfter now earlier))
      obtain hmem | ⟨author, content, heffect, hrow⟩ := hchange.mem_inChannel hx
      · exact absurd hmem hold
      · have horigin : Effect.Origin call.setting call.request (storeAfter now earlier)
            (.post author channel content) := by
          rw [← heffect]
          exact Effect.origin call.setting call.request (storeAfter now earlier)
        cases horigin with
        | post account path post =>
          exact ⟨call, earlier, List.suffix_refl _, path, post, ⟨_, content, heffect, hrow⟩, hold,
            hthere⟩

/-- A channel to whose number nobody has posted has no messages. -/
theorem Unposted.inChannel_eq_nil {now : String} {channel : Int} {run : List Call}
    (h : Unposted now channel run) : (storeAfter now run).inChannel channel = [] := by
  refine List.eq_nil_iff_forall_not_mem.2 fun x hx => ?_
  obtain ⟨posting, earlier, hsuffix, hposted⟩ := exists_posting now hx
  obtain ⟨author, content, heffect, -⟩ := hposted.posts
  exact h posting earlier hsuffix ⟨author, content, heffect⟩

/-! ## A channel without messages -/

namespace Store.Sound

variable {s : Store} {channel : Int}

/-- A channel without messages is counted as such. -/
theorem countMessages_none (h : s.Sound) (hnone : s.inChannel channel = []) :
    s.countMessages channel = .ok 0 := by
  obtain ⟨t, ht, -⟩ := h.messages
  rw [countMessages_eq ht, hnone]
  rfl

/-- The first page of a channel without messages can be read and is empty. -/
theorem pageParts_none (h : s.Sound) (hnone : s.inChannel channel = []) :
    ∃ channels, s.listChannels none = .ok (channels, "")
      ∧ Messages.pageParts? channel 1 s = some ([], channels) := by
  obtain ⟨messages, hm, -⟩ := h.messages
  obtain ⟨users, hu, -⟩ := h.users
  obtain ⟨t, ht, -⟩ := h.channels
  obtain ⟨channels, hchannels, -⟩ := h.listChannels_ok ht
  have hread : (s.pageEntries channel 1).map (authored? users) = [] := by
    unfold pageEntries
    rw [hnone]
    rfl
  have hpage : s.messagesPage channel Messages.pageSize ((1 - 1) * Messages.pageSize) = .ok [] :=
    (messagesPage_ok (Nat.le_refl 1)).2 ⟨⟨messages, hm⟩, users, hu, hread⟩
  refine ⟨channels, hchannels, ?_⟩
  unfold Messages.pageParts?
  rw [hpage, hchannels]

/-- In a sound store everyone sees that a channel has no messages. -/
theorem showsNone (h : s.Sound) (hpos : 0 < channel) (hnone : s.inChannel channel = []) :
    ShowsNone channel s where
  count := h.countMessages_none hnone
  history := by
    obtain ⟨channels, hchannels, hparts⟩ := h.pageParts_none hnone
    refine ⟨channels, hchannels, fun e r user hlook => ?_⟩
    have hlast : Messages.maxPage 0 = (1 : Nat) := rfl
    have hanswer := Messages.serve_history hlook hpos (h.countMessages_none hnone) hlast
      (by decide)
    unfold Messages.AnswersHistory at hanswer
    cases hasked : Messages.askedPage? r with
    | none =>
      rw [hasked] at hanswer
      rwa [if_neg (by simp)]
    | some page =>
      rw [hasked] at hanswer
      obtain ⟨hone, hanswer⟩ := hanswer
      -- Of the pages that a request can ask for there is only the first.
      by_cases hfirst : page = 1
      · subst hfirst
        rw [if_neg (by decide), hparts] at hanswer
        rwa [if_pos rfl]
      · rw [if_pos (by omega)] at hanswer
        rwa [if_neg (by simpa using hfirst)]
  polled e r user after hpolls := by
    have hpath := (Route.ofPath?_fixed_iff "message" (by decide)).1 hpolls.path
    have heffect : Effect.ofRequest e r s = .poll user.id channel after :=
      Effect.ofRequest_eq_poll_iff.2
        ⟨user, hpolls.account, rfl, .inl hpolls.get, hpath, hpolls.query⟩
    have hpolled : s.polled channel after = [] := by
      have hids := h.polled_ids channel after
      unfold pending at hids
      rw [hnone] at hids
      exact List.map_eq_nil_iff.1 hids
    rw [serve_poll h heffect, hpolled, hpolls.get, if_neg Method.noConfusion]
    rfl
  unread user := by
    obtain ⟨t, ht, -⟩ := h.channels
    refine ⟨_, h.unreadCounts_eq ht user, fun n hn hchannel => ?_⟩
    obtain ⟨c, -, rfl⟩ := List.mem_map.1 hn
    obtain rfl : c = channel := hchannel
    dsimp only
    rw [hnone]
    rfl

end Store.Sound

/-! ## The channel that a call adds -/

/-- The way to a channel is not the way to sign in. -/
theorem login_ne_channel (number : String) :
    Octets.ofText "/login" ≠ Octets.ofText ("/channel/" ++ number) := by
  rw [Octets.ofText_append]
  intro h
  have hsecond := congrArg (fun bs : Octets => bs[1]?) h
  rw [List.getElem?_append_left (by decide)] at hsecond
  exact absurd hsecond (by decide)

/-- An answer that leads somewhere has the location that it was made with. -/
theorem Response.location_redirect {location : String} {target : Octets}
    (h : (redirect location).location = some target) : Octets.ofText location = target := by
  unfold redirect at h
  split at h
  · exact Option.some.inj h
  · cases h

/-- Adding a channel that is answered with the way to a number has made the channel with it. -/
theorem Channels.add_location {e : Setting} {r : Request} {s : Store} {channel : Int}
    (h : (add e r s).1.location = some (Octets.ofText ("/channel/" ++ Numeral.ofInt channel))) :
    ∃ name description, r.formTexts "name" "description" = .ok (name, description)
      ∧ s.createChannel e.clock name description = .ok (channel, (add e r s).2) := by
  unfold add at h ⊢
  cases hform : r.formTexts "name" "description" with
  | error refusal =>
    rw [hform] at h
    cases h
  | ok texts =>
    obtain ⟨name, description⟩ := texts
    rw [hform] at h
    dsimp only at h ⊢
    by_cases hempty : (name.isEmpty || description.isEmpty) = true
    · rw [if_pos hempty] at h
      cases h
    · rw [if_neg hempty] at h ⊢
      cases hmade : s.createChannel e.clock name description with
      | error fault =>
        rw [hmade] at h
        cases h
      | ok made =>
        obtain ⟨id, s'⟩ := made
        rw [hmade] at h
        have hway := Octets.ofText_injective (Response.location_redirect h)
        obtain rfl := Numeral.ofInt_injective ((String.append_right_inj "/channel/").1 hway)
        exact ⟨name, description, rfl, hmade⟩

/-- A call that is answered with the way to a channel has made it. -/
theorem AddsChannel.made {now : String} {run : List Call} {call : Call} {channel : Int}
    (h : AddsChannel now run call channel) :
    ∃ name description, call.request.formTexts "name" "description" = .ok (name, description)
      ∧ (storeAfter now run).createChannel call.setting.clock name description
          = .ok (channel, storeAfter now (call :: run)) := by
  obtain ⟨hpath, hpost, -, hlocation⟩ := h
  dsimp only [storeAfter]
  generalize storeAfter now run = s at hlocation ⊢
  have hasks : call.request.Asks .login fun e _ r s => Channels.add e r s := .addChannel hpath hpost
  rw [hasks.leads.serve_eq, Request.sent_of_post _ hpost] at hlocation ⊢
  unfold Route.gated at hlocation ⊢
  -- Only an account is not sent to sign in.
  cases hvisitor : Visitor.ofCookies call.setting (Cookie.ofLines call.request.cookieLines) s with
  | error fault =>
    rw [hvisitor] at hlocation
    cases hlocation
  | ok visitor =>
    rw [hvisitor] at hlocation
    cases visitor with
    | account user => exact Channels.add_location hlocation
    | anonymous =>
      exact absurd (Response.location_redirect hlocation) (login_ne_channel _)
    | gone =>
      exact absurd (Response.location_redirect hlocation) (login_ne_channel _)

/-- A number that is given out to a channel has been no channel's in the run. -/
theorem unborn_of_created {now clock name description : String} {run : List Call} {channel : Int}
    {s' : Store}
    (hmade : (storeAfter now run).createChannel clock name description = .ok (channel, s'))
    {earlier : List Call} (hsuffix : earlier <:+ run) {x : Entry (Stored Channel)}
    (hx : x ∈ rowsOf (storeAfter now earlier).channels) : x.id ≠ channel := by
  rw [← storeSince_calls] at hmade
  have hheld : HeldId Store.channels now (run.map Event.call) x.id := by
    refine ⟨earlier.map Event.call, hsuffix.map Event.call, x, ?_, rfl⟩
    rw [storeSince_calls]
    exact hx
  exact Int.ne_of_lt ((freshIds now _).channel clock name description channel s' hmade _ hheld)

/-- A channel that is listed has one number of unread messages for each user, of those above the
user's mark. -/
theorem Store.Sound.unreadCounts_of_mem {s : Store} (h : s.Sound) {x : Entry (Stored Channel)}
    (hx : x ∈ rowsOf s.channels) (user : Int) :
    ∃ counts, s.unreadCounts user = .ok counts
      ∧ ∀ n, n ∈ counts ∧ n.channelId = x.id
          ↔ n = ⟨x.id,
              (s.inChannel x.id).countP fun e => decide (s.readUpTo user x.id < e.id)⟩ := by
  obtain ⟨t, ht, hmem⟩ := exists_of_mem_rowsOf hx
  refine ⟨_, h.unreadCounts_eq ht user, fun n => ⟨?_, ?_⟩⟩
  · rintro ⟨hn, hchannel⟩
    obtain ⟨c, -, rfl⟩ := List.mem_map.1 hn
    obtain rfl : c = x.id := hchannel
    rfl
  · rintro rfl
    exact ⟨List.mem_map.2 ⟨x.id, List.mem_map.2 ⟨x, List.mem_reverse.2 hmem, rfl⟩, rfl⟩, rfl⟩

/-- A channel that is added after a run has a new number and the messages that were posted to the
number before, and is empty if none were. -/
theorem newChannel_run {now : String} {run : List Call} {call : Call} {channel : Int}
    (h : AddsChannel now run call channel) : NewChannel now run call channel := by
  obtain ⟨name, description, hform, hmade⟩ := h.made
  obtain ⟨t, t', ht, happ, hstore⟩ := Store.createChannel_ok hmade
  have hsound := storeAfter_sound now (call :: run)
  have hmessages : (storeAfter now (call :: run)).messages = (storeAfter now run).messages := by
    rw [hstore]
  have hthere : ⟨channel, .sound ⟨name, description, call.setting.clock, call.setting.clock⟩⟩
      ∈ rowsOf (storeAfter now (call :: run)).channels := by
    rw [hstore, rowsOf_some, happ.entries]
    exact List.mem_cons_self
  have hpos : 0 < channel := by
    have hid := happ.id_eq
    omega
  refine ⟨fun earlier hsuffix x hx => unborn_of_created hmade hsuffix hx,
    ⟨name, description, hform, hthere⟩, hmessages, fun x hx => ?_,
    fun user => hsound.unreadCounts_of_mem hthere user, fun later => Unposted.inChannel_eq_nil,
    fun later hnone => (storeAfter_sound now _).showsNone hpos hnone⟩
  -- Adding the channel posts nothing, so the message was there before.
  refine exists_posting now ?_
  rw [Store.mem_inChannel_iff] at hx ⊢
  rwa [hmessages] at hx

/-! ## A message that was there before the channel -/

namespace Sample

/-- Posts a message to the second channel, which need not be there. -/
def postsAhead : Call := call .post "/message" "" "message=hi&channel_id=2"

/-- Adds a channel. -/
def addsChannel : Call := call .post "/add_channel" "" "name=random&description=chatter"

/-- The answer to the call leads to the second channel. -/
def LeadsToSecond (s : Store) : Prop :=
  (serve addsChannel.setting addsChannel.request s).1.status = 303
    ∧ (serve addsChannel.setting addsChannel.request s).1.location
      = some (Octets.ofText ("/channel/" ++ Numeral.ofInt 2))

end Sample

/-- An account that has been made adds a channel, which is the second. -/
theorem newChannel_run_sample :
    AddsChannel Sample.opened [Sample.signsUp] Sample.addsChannel 2
      ∧ NewChannel Sample.opened [Sample.signsUp] Sample.addsChannel 2 := by
  have hanswer : Sample.LeadsToSecond (storeAfter Sample.opened [Sample.signsUp]) := by
    unfold Sample.LeadsToSecond
    decide +kernel
  have hadds : AddsChannel Sample.opened [Sample.signsUp] Sample.addsChannel 2 :=
    ⟨rfl, rfl, hanswer.1, hanswer.2⟩
  exact ⟨hadds, newChannel_run hadds⟩

/-- A message has been posted to the number of the second channel before the channel was added, and
now the channel is not empty, and the message is unread in it. -/
theorem newChannel_not_empty :
    AddsChannel Sample.opened [Sample.postsAhead, Sample.signsUp] Sample.addsChannel 2
      ∧ (storeAfter Sample.opened
          [Sample.addsChannel, Sample.postsAhead, Sample.signsUp]).countMessages 2 = .ok 1
      ∧ (storeAfter Sample.opened
          [Sample.addsChannel, Sample.postsAhead, Sample.signsUp]).unreadCounts 1
            = .ok [⟨1, 0⟩, ⟨2, 1⟩] := by
  have hanswers : Sample.LeadsToSecond
        (storeAfter Sample.opened [Sample.postsAhead, Sample.signsUp])
      ∧ (storeAfter Sample.opened
          [Sample.addsChannel, Sample.postsAhead, Sample.signsUp]).countMessages 2 = .ok 1
      ∧ (storeAfter Sample.opened
          [Sample.addsChannel, Sample.postsAhead, Sample.signsUp]).unreadCounts 1
            = .ok [⟨1, 0⟩, ⟨2, 1⟩] := by
    unfold Sample.LeadsToSecond
    decide +kernel
  obtain ⟨hanswer, hcounts⟩ := hanswers
  exact ⟨⟨rfl, rfl, hanswer.1, hanswer.2⟩, hcounts⟩

end ChatBoard
