import ChatBoard.Proofs.Board.Run
import ChatBoard.Proofs.Board.Visitor
import ChatBoard.Proofs.Messages.Pages
import ChatBoard.Proofs.Messages.Poll
import ChatBoard.Proofs.Page.Fill
import ChatBoard.Proofs.Text.Numeral

/-!
# The history of a channel

An account that looks at a page of a channel's history is refused unless the page is one of those
that the channel has (`Messages.serve_history`). For such a page the answer is the page if its
messages with their authors and the channels can be read, and otherwise a failure of the board. This
holds for every store, also for one in which tables are missing or rows cannot be read. In a sound
store, and so after every run, every page can be read (`Store.Sound.exists_pagesRead`).

What the pages show is read from the entries of the channel one by one, so when all pages can be
read, together they show every entry once, oldest first (`Store.PagesRead.shows`), and the newest
hundred of them are what a poll for everything returns (`Store.PagesRead.polled`).
-/

namespace ChatBoard

open Messages (pagesDown)

/-- A request with which an account looks at the history of a channel. -/
structure LooksBack (e : Setting) (s : Store) (user : Entry User) (channel : Int) (r : Request) :
    Prop where
  /-- The request is that of an account. -/
  account : Visitor.ofCookies e (Cookie.ofLines r.cookieLines) s = .ok (.account user)
  /-- It asks for the page itself. -/
  get : r.method = .get
  /-- Its path names the channel. -/
  path : ∃ raw, Route.ofPath? r.path = some (.page (.history raw))
    ∧ Request.pathNumber "channel_id" raw = .ok channel

/-- A request with which an account polls a channel for messages above an id. -/
structure Polls (e : Setting) (s : Store) (user : Entry User) (channel after : Int) (r : Request) :
    Prop where
  /-- The request is that of an account. -/
  account : Visitor.ofCookies e (Cookie.ofLines r.cookieLines) s = .ok (.account user)
  /-- It asks for the messages themselves. -/
  get : r.method = .get
  /-- Its path is that of the messages. -/
  path : Route.ofPath? r.path = some (.api .messages)
  /-- Its query names the channel and the id. -/
  query : r.queryNumbers "channel_id" "last_message_id" = .ok (channel, after)

namespace Messages

/-- The page that a request asks for, if it is the number of a page at all. -/
def askedPage? (r : Request) : Option Int :=
  match r.queryText "page" with
  | .error _ => none
  | .ok raw => pageNumber? raw

/-- The messages on a page and the channels to list, if both can be read. -/
def pageParts? (channel page : Int) (s : Store) :
    Option (List AuthoredMessage × List (Entry Channel)) :=
  match s.messagesPage channel pageSize ((page - 1) * pageSize), s.listChannels none with
  | .ok ms, .ok (channels, _) => some (ms, channels)
  | _, _ => none

/-- The number of a page is at least 1. -/
theorem one_le_pageNumber {raw : Option String} {page : Int} (h : pageNumber? raw = some page) :
    1 ≤ page := by
  unfold pageNumber? at h
  repeat' split at h
  all_goals first | (cases h; omega) | cases h

/-- Every page has a number that can be asked for. -/
theorem pageNumber?_ofNat {page : Nat} (pos : 1 ≤ page) (le : page ≤ 0x7fffffffffffffff) :
    pageNumber? (some (Numeral.ofNat page)) = some (page : Int) := by
  have hdigits : ((Numeral.ofNat page).toList.all fun c => (Numeral.digit? c).isSome) = true := by
    refine List.all_eq_true.2 fun c hc => ?_
    rw [Numeral.digit?_of_isDigit (Numeral.isDigit_ofNat page c hc)]
    rfl
  have hne : ¬ (Numeral.ofNat page).isEmpty = true := by
    rw [String.isEmpty_iff]
    intro hnil
    exact Numeral.toList_ofNat_ne_nil page (by rw [hnil]; rfl)
  unfold pageNumber?
  dsimp only
  rw [if_neg hne, if_pos hdigits, Numeral.readInt64_ofNat le]
  exact if_pos (by omega)

/-- A text of the query that cannot be read is refused for the query. -/
theorem queryText_refusal {r : Request} {name : String} {refusal : Refusal}
    (h : r.queryText name = .error refusal) : ∃ fault, refusal = .query fault := by
  unfold Request.queryText at h
  cases hf : Form.optionalText name (Form.fields r.query) with
  | error fault =>
    rw [hf] at h
    cases h
    exact ⟨fault, rfl⟩
  | ok text =>
    rw [hf] at h
    cases h

/-- How an account that looks at the history of a channel is answered: it is shown the page that it
asks for if the channel has that page and it can be read. If it cannot be read, the board fails, and
anything else is refused. -/
def AnswersHistory (s : Store) (user : Entry User) (channel : Int) (last : Nat) (r : Request)
    (answer : Response) : Prop :=
  match askedPage? r with
  | none => answer.status = 400
  | some page =>
    1 ≤ page ∧
      if (last : Int) < page then answer.status = 400
      else
        match pageParts? channel page s with
        | none => answer.status = 500
        | some (ms, channels) => answer.status = 200
            ∧ answer = .ofPage "history.html" (historyScope user channels channel page last ms)

/-- The answer that shows a page of the history, if there are not too many pages. -/
theorem status_historyPage (user : Entry User) (channels : List (Entry Channel))
    (channel page : Int) (ms : List AuthoredMessage) {last : Nat} (hone : 1 ≤ last)
    (hlimit : last ≤ 100000) :
    (Response.ofPage "history.html"
      (historyScope user channels channel page last ms)).status = 200 := by
  have hrange : (last : Int) ≤ Page.rangeLimit := by
    show (last : Int) ≤ (100000 : Nat)
    omega
  obtain ⟨html, hhtml⟩ := Page.renders_history user channels channel page ms (by omega) hrange
  rw [Response.ofPage_of_render hhtml]
  rfl

/-- A page of a channel's history is shown if the channel has it and it can be read. -/
theorem historyPage_answers {r : Request} {s : Store} {channel page : Int} {count last : Nat}
    (user : Entry User) (hasked : askedPage? r = some page) (hpage : 1 ≤ page)
    (hcount : s.countMessages channel = .ok count) (hlast : maxPage count = last)
    (hlimit : last ≤ 100000) :
    AnswersHistory s user channel last r (historyPage user channel page s) := by
  obtain ⟨hone, -, -⟩ := maxPage_eq hlast
  unfold AnswersHistory historyPage pageParts?
  rw [hasked, hcount]
  dsimp only
  rw [hlast]
  refine ⟨hpage, ?_⟩
  -- Whether the channel has the page is asked before anything is read for it.
  by_cases hlt : (last : Int) < page
  · rw [if_pos hlt, if_pos hlt]
    rfl
  · rw [if_neg hlt, if_neg hlt]
    cases s.messagesPage channel pageSize ((page - 1) * pageSize) with
    | error fault => rfl
    | ok ms =>
      cases s.listChannels none with
      | error fault => rfl
      | ok listed =>
        exact ⟨status_historyPage user listed.1 channel page ms hone hlimit, rfl⟩

/-- The answer to an account that looks at the history of a channel. -/
theorem serve_history {e : Setting} {r : Request} {s : Store} {user : Entry User} {channel : Int}
    {count last : Nat} (h : LooksBack e s user channel r) (hpos : 0 < channel)
    (hcount : s.countMessages channel = .ok count) (hlast : maxPage count = last)
    (hlimit : last ≤ 100000) : AnswersHistory s user channel last r (serve e r s).1 := by
  obtain ⟨raw, hroute, hnumber⟩ := h.path
  -- The account passes the gate, and the history answers.
  have hserve : (serve e r s).1 = history user raw r s := by
    rw [serve_get hroute h.get]
    unfold Route.act
    dsimp only
    rw [Route.gated_account h.account]
    rfl
  rw [hserve]
  unfold history
  rw [hnumber]
  dsimp only
  cases hquery : r.queryText "page" with
  | error refusal =>
    obtain ⟨fault, rfl⟩ := queryText_refusal hquery
    unfold AnswersHistory askedPage?
    rw [hquery]
    rfl
  | ok text =>
    have hasked : askedPage? r = pageNumber? text := by
      unfold askedPage?
      rw [hquery]
    dsimp only
    rw [if_neg (Int.not_le.2 hpos)]
    cases hpage : pageNumber? text with
    | none =>
      unfold AnswersHistory
      rw [hasked, hpage]
      rfl
    | some page =>
      exact historyPage_answers user (hasked.trans hpage) (one_le_pageNumber hpage) hcount hlast
        hlimit

end Messages

/-! ## Pages that can be read -/

/-- What the pages up to one of them show, from the last one down to the first, each oldest message
first. -/
def shownPages (pages : Nat → List AuthoredMessage) (last : Nat) : List PostedMessage :=
  ((pagesDown last).map fun page => chronological (pages page)).flatten

namespace Store

variable {s : Store} {channel : Int} {last : Nat} {pages : Nat → List AuthoredMessage}

/-- All pages of a channel can be read, and these are their messages. -/
def PagesRead (channel : Int) (last : Nat) (pages : Nat → List AuthoredMessage) (s : Store) :
    Prop :=
  ∀ page : Nat, 1 ≤ page → page ≤ last →
    s.messagesPage channel Messages.pageSize (((page : Int) - 1) * Messages.pageSize)
      = .ok (pages page)

/-- When all pages can be read, so can all messages of the channel, and the pages show these. -/
theorem PagesRead.authored (h : s.PagesRead channel last pages)
    (hlast : Messages.maxPage (s.inChannel channel).length = last) :
    ∃ users all, s.users = some users ∧ (s.inChannel channel).map (authored? users) = all.map some
      ∧ chronological all = shownPages pages last := by
  obtain ⟨hone, -, -⟩ := Messages.maxPage_eq hlast
  obtain ⟨-, users, husers, -⟩ := (messagesPage_ok (Nat.le_refl 1)).1 (h 1 (Nat.le_refl 1) hone)
  -- Every page is joined with the same accounts.
  have hpage : ∀ page ∈ pagesDown last, (s.pageEntries channel page).map (authored? users)
      = (pages page).map some := by
    intro page hmem
    obtain ⟨hpos, hle⟩ := Messages.mem_pagesDown.1 hmem
    obtain ⟨-, users', husers', hread⟩ := (messagesPage_ok hpos).1 (h page hpos hle)
    obtain rfl : users' = users := Option.some.inj (husers'.symm.trans husers)
    exact hread
  -- The messages of all pages, oldest first.
  generalize hold : ((pagesDown last).map fun page => (pages page).reverse).flatten = old
  have hread : (s.inChannel channel).reverse.map (authored? users) = old.map some := by
    rw [← flatten_all_pages hlast, ← hold, List.map_flatten, List.map_flatten, List.map_map,
      List.map_map]
    congr 1
    refine List.map_congr_left fun page hmem => ?_
    show (s.pageEntries channel page).reverse.map (authored? users)
      = (pages page).reverse.map some
    rw [List.map_reverse, List.map_reverse, hpage page hmem]
  refine ⟨users, old.reverse, husers, ?_, ?_⟩
  · rw [List.map_reverse, ← hread, List.map_reverse, List.reverse_reverse]
  · unfold chronological shownPages
    rw [List.reverse_reverse, ← hold, List.map_flatten, List.map_map]
    rfl

/-- When all pages can be read, they show every message of the channel once, oldest first. -/
theorem PagesRead.shows (h : s.PagesRead channel last pages)
    (hlast : Messages.maxPage (s.inChannel channel).length = last) :
    Shows (s.inChannel channel).reverse (shownPages pages last) := by
  obtain ⟨users, all, -, hread, hshown⟩ := h.authored hlast
  rw [← hshown]
  exact shows_chronological hread

/-- When all pages can be read and all ids are positive, a poll for everything reads the newest
hundred messages that the pages show. -/
theorem PagesRead.polled (h : s.PagesRead channel last pages)
    (hlast : Messages.maxPage (s.inChannel channel).length = last)
    (positive : ∀ e ∈ s.inChannel channel, 0 < e.id) :
    ∃ ms, s.messagesAfter channel 0 Messages.pollLimit = .ok ms
      ∧ chronological ms
          = (shownPages pages last).drop ((s.inChannel channel).length - 100) := by
  obtain ⟨users, all, husers, hread, hshown⟩ := h.authored hlast
  obtain ⟨hone, -, -⟩ := Messages.maxPage_eq hlast
  obtain ⟨⟨t, ht⟩, -⟩ := (messagesPage_ok (Nat.le_refl 1)).1 (h 1 (Nat.le_refl 1) hone)
  have hlen : all.length = (s.inChannel channel).length := by
    have := congrArg List.length hread
    rw [List.length_map, List.length_map] at this
    exact this.symm
  have hfilter : ((s.inChannel channel).filter fun e => decide (0 < e.id)) = s.inChannel channel :=
    List.filter_eq_self.2 fun e he => decide_eq_true (positive e he)
  -- The first hundred entries are the last hundred when the oldest comes first.
  refine ⟨all.take 100, ?_, ?_⟩
  · rw [messagesAfter_eq ht husers, hfilter, allAuthored_ok]
    show ((s.inChannel channel).take 100).map (authored? users) = (all.take 100).map some
    rw [List.map_take, List.map_take, hread]
  · rw [← hshown, ← hlen]
    unfold chronological
    rw [List.reverse_take, List.map_drop]

/-- An author is shown as the account says now, or as unknown when there is no account. -/
theorem author_of_authored {users : Table (Stored User)} {e : Entry (Stored Message)}
    {m : AuthoredMessage} (h : authored? users e = some m) :
    match users.get? m.message.author with
    | some row => publicUser? row = some m.author
    | none => m.author = ⟨"unknown", "unknown", "default.png"⟩ := by
  obtain ⟨-, -, hauthor⟩ := authored?_some h
  unfold authorOf at hauthor
  cases hrow : users.get? m.message.author with
  | some row =>
    rw [hrow] at hauthor
    exact hauthor
  | none =>
    rw [hrow] at hauthor
    exact (Option.some.inj hauthor).symm

end Store

/-! ## The history as a whole -/

/-- What the history of a channel with a number of messages is, up to its last page, in any
store. -/
structure Paged (s : Store) (channel : Int) (count last : Nat) : Prop where
  /-- Every page can be asked for by its number. -/
  numbers : ∀ page : Nat, 1 ≤ page → page ≤ last →
    Messages.pageNumber? (some (Numeral.ofNat page)) = some (page : Int)
  /-- An account is shown every page from the first to the last if it can be read; if not, the
  board fails. All else that it may ask for is refused. -/
  answers : ∀ e r user, LooksBack e s user channel r →
    Messages.AnswersHistory s user channel last r (serve e r s).1
  /-- The pages from the last to the first hold every entry of the channel once. -/
  entries : ((pagesDown last).map fun page => (s.pageEntries channel page).reverse).flatten
    = (s.inChannel channel).reverse
  /-- They hold them by ascending ids. -/
  ascending : ((s.inChannel channel).reverse.map (·.id)).Pairwise (· < ·)
  /-- Every page before the last has twenty entries, and the last has from one to twenty, none only
  if the channel has none. -/
  full : ∀ page : Nat, 1 ≤ page → page ≤ last →
    (page < last → (s.pageEntries channel page).length = 20)
      ∧ (s.pageEntries channel page).length ≤ 20
      ∧ ((s.pageEntries channel page).length = 0 → count = 0)
  /-- A page that can be read has one message for each entry, with its author as the account says
  now, or as unknown when there is no account. -/
  joined : ∀ (page : Nat) (ms : List AuthoredMessage), 1 ≤ page →
    s.messagesPage channel Messages.pageSize (((page : Int) - 1) * Messages.pageSize) = .ok ms →
    Shows (s.pageEntries channel page).reverse (chronological ms)
      ∧ ∃ users, s.users = some users ∧ ∀ m ∈ ms,
        match users.get? m.message.author with
        | some row => Store.publicUser? row = some m.author
        | none => m.author = ⟨"unknown", "unknown", "default.png"⟩
  /-- All pages can be read if every entry can be joined with its author. -/
  readable : ∀ t users, s.messages = some t → s.users = some users →
    (∀ e ∈ s.inChannel channel, (Store.authored? users e).isSome) →
    ∃ pages, s.PagesRead channel last pages
  /-- When all pages can be read, together they show every message of the channel once, oldest
  first. -/
  shown : ∀ pages, s.PagesRead channel last pages →
    Shows (s.inChannel channel).reverse (shownPages pages last)
      ∧ ((shownPages pages last).map (·.id)).Pairwise (· < ·)
  /-- The newest hundred of them are what a poll for everything returns, if all ids are
  positive. -/
  polled : ∀ pages, s.PagesRead channel last pages → (∀ e ∈ s.inChannel channel, 0 < e.id) →
    s.marks.isSome → ∀ e r user, Polls e s user channel 0 r →
      (serve e r s).1 = .json (Json.writeList
        (((shownPages pages last).drop (count - 100)).map PostedMessage.write))

/-- The ids of a channel's messages ascend from the oldest on. -/
theorem Store.inChannel_ascending (channel : Int) (s : Store) :
    ((s.inChannel channel).reverse.map (·.id)).Pairwise (· < ·) := by
  rw [List.map_reverse, List.pairwise_reverse, List.pairwise_map]
  exact s.inChannel_descending channel

/-- The pages of a channel can be read if every entry can be joined with its author. -/
theorem Store.exists_pagesRead {s : Store} {channel : Int} {t : Table (Stored Message)}
    {users : Table (Stored User)} (ht : s.messages = some t) (hu : s.users = some users)
    (h : ∀ e ∈ s.inChannel channel, (Store.authored? users e).isSome) (last : Nat) :
    ∃ pages, s.PagesRead channel last pages := by
  have hread : ∀ page, ∃ ms : List AuthoredMessage,
      (s.pageEntries channel page).map (Store.authored? users) = ms.map some := fun page =>
    exists_map_read fun e he => Option.isSome_iff_exists.1
      (h e (List.mem_of_mem_drop (List.mem_of_mem_take he)))
  exact ⟨fun page => (hread page).choose, fun page hpos _ =>
    (Store.messagesPage_ok hpos).2 ⟨⟨t, ht⟩, users, hu, (hread page).choose_spec⟩⟩

/-- In a sound store the pages of every channel can be read. -/
theorem Store.Sound.exists_pagesRead {s : Store} (h : s.Sound) (channel : Int) (last : Nat) :
    ∃ pages, s.PagesRead channel last pages := by
  obtain ⟨t, ht, -⟩ := h.messages
  obtain ⟨users, hu, husers⟩ := h.users
  refine Store.exists_pagesRead ht hu (fun e he => ?_) last
  obtain ⟨⟨m, hm⟩, -⟩ := h.readable_inChannel he
  exact Option.isSome_iff_exists.2 (Store.exists_authored husers hm)

/-- The history of a channel, for every store. -/
theorem history_paged {s : Store} {channel : Int} {count last : Nat} (hpos : 0 < channel)
    (hcount : s.countMessages channel = .ok count) (hlast : Messages.maxPage count = last)
    (hlimit : last ≤ 100000) : Paged s channel count last := by
  obtain ⟨t, ht, rfl⟩ := Store.countMessages_ok hcount
  refine ⟨fun page hpage hle => Messages.pageNumber?_ofNat hpage (by omega), ?_,
    Store.flatten_all_pages hlast, s.inChannel_ascending channel,
    fun page hpage hle => Store.length_pageEntries hlast hpage hle, ?_,
    fun t users ht hu h => Store.exists_pagesRead ht hu h last, ?_, ?_⟩
  · intro e r user hlook
    exact Messages.serve_history hlook hpos hcount hlast hlimit
  · intro page ms hpage hread
    obtain ⟨-, users, hu, hmap⟩ := (Store.messagesPage_ok hpage).1 hread
    refine ⟨shows_chronological hmap, users, hu, fun m hm => ?_⟩
    have hmem : some m ∈ (s.pageEntries channel page).map (Store.authored? users) := by
      rw [hmap]
      exact List.mem_map.2 ⟨m, hm, rfl⟩
    obtain ⟨e, -, he⟩ := List.mem_map.1 hmem
    exact Store.author_of_authored he
  · intro pages hpages
    have hshows := hpages.shows hlast
    refine ⟨hshows, ?_⟩
    rw [hshows.ids]
    exact s.inChannel_ascending channel
  · intro pages hpages hpositive hmarks e r user hpoll
    obtain ⟨ms, hms, hchron⟩ := hpages.polled hlast hpositive
    obtain ⟨marks, hmarks⟩ := Option.isSome_iff_exists.1 hmarks
    rw [serve_get hpoll.path hpoll.get]
    unfold Route.act
    dsimp only
    rw [Route.gated_account hpoll.account]
    unfold ApiRoute.serve
    rw [if_neg (by rw [hpoll.get]; exact Method.noConfusion),
      Messages.poll_answer hpoll.query hms hmarks]
    unfold Messages.pollAnswer
    rw [hchron]

/-! ## Channels with messages -/

namespace Sample

/-- Twenty-three messages of the first channel, the fourth by an account that there is not, and one
of another channel. -/
def busyTable : Table (Stored Message) :=
  let first : Table (Stored Message) := (List.range 23).foldl (fun t (n : Nat) => t.placeNew (n + 1)
    (.sound ⟨1, if n = 3 then 9 else 1, Numeral.ofNat n, opened⟩)) Table.empty
  first.placeNew 24 (.sound ⟨2, 1, "elsewhere", opened⟩)

/-- A board with one account and two channels with messages, of which one has two pages. -/
def busyBoard : Store := { storeAfter opened [signsUp] with messages := some busyTable }

/-- A board with one account and one message. -/
def board (message : Stored Message) : Store :=
  { storeAfter opened [signsUp] with messages := some (Table.empty.placeNew 1 message) }

/-- A message of the first channel whose author is no number. -/
def unreadable : Stored Message :=
  .odd [("channel_id", .number 1), ("user_id", .text "x"), ("content", .text "hi"),
    ("created_at", .text opened)]

/-- Where the account is there, it may look at the history. -/
theorem looksBack_of_mem {s : Store} (h : ⟨alice.id, .sound alice.row⟩ ∈ rowsOf s.users) :
    LooksBack setting s alice 1 looksBack.request where
  account := Visitor.ofCookies_eq_account_iff.2 ⟨session_cookies, h⟩
  get := rfl
  path := ⟨[0x31], by decide, rfl⟩

end Sample

/-- The history of a channel with twenty-three messages has two pages, the second with three of
them. Both can be read, and together they show the messages once, oldest first. -/
theorem history_paged_sample :
    Paged Sample.busyBoard 1 23 2
      ∧ LooksBack Sample.setting Sample.busyBoard Sample.alice 1 Sample.looksBack.request
      ∧ (Sample.busyBoard.pageEntries 1 1).length = 20
      ∧ (Sample.busyBoard.pageEntries 1 2).length = 3
      ∧ ∃ pages, Sample.busyBoard.PagesRead 1 2 pages
        ∧ (shownPages pages 2).map (·.id) = (List.range 23).map fun (n : Nat) => (n + 1 : Int) := by
  have hcount : Sample.busyBoard.countMessages 1 = .ok 23 := by decide +kernel
  have hpaged : Paged Sample.busyBoard 1 23 2 :=
    history_paged (by decide) hcount (by decide) (by decide)
  have hlook : LooksBack Sample.setting Sample.busyBoard Sample.alice 1
      Sample.looksBack.request := Sample.looksBack_of_mem Sample.user_signsUp
  obtain ⟨users, husers⟩ : ∃ users, Sample.busyBoard.users = some users :=
    Option.isSome_iff_exists.1 (by decide +kernel)
  have hread : ∀ e ∈ Sample.busyBoard.inChannel 1, (Store.authored? users e).isSome := by
    have hall : Sample.busyBoard.users.all (fun users => (Sample.busyBoard.inChannel 1).all
        fun e => (Store.authored? users e).isSome) = true := by decide +kernel
    rw [husers] at hall
    exact List.all_eq_true.1 hall
  obtain ⟨pages, hpages⟩ := hpaged.readable Sample.busyTable users rfl husers hread
  have hids : (Sample.busyBoard.inChannel 1).reverse.map (·.id)
      = (List.range 23).map fun (n : Nat) => (n + 1 : Int) := by decide +kernel
  refine ⟨hpaged, hlook, by decide +kernel, by decide +kernel, pages, hpages, ?_⟩
  rw [(hpaged.shown pages hpages).1.ids, hids]

/-- A message whose author is no number is counted, but it cannot be read, and the board does not
show the only page that the channel has. -/
theorem history_unreadable :
    LooksBack Sample.setting (Sample.board Sample.unreadable) Sample.alice 1
        Sample.looksBack.request
      ∧ (Sample.board Sample.unreadable).countMessages 1 = .ok 1
      ∧ Messages.maxPage 1 = 1
      ∧ Messages.askedPage? Sample.looksBack.request = some 1
      ∧ (serve Sample.setting Sample.looksBack.request
          (Sample.board Sample.unreadable)).1.status = 500 := by
  have hlook : LooksBack Sample.setting (Sample.board Sample.unreadable) Sample.alice 1
      Sample.looksBack.request := Sample.looksBack_of_mem Sample.user_signsUp
  have hasked : Messages.askedPage? Sample.looksBack.request = some 1 := by decide +kernel
  have hparts : Messages.pageParts? 1 1 (Sample.board Sample.unreadable) = none := by
    decide +kernel
  have hcount : (Sample.board Sample.unreadable).countMessages 1 = .ok 1 := rfl
  have hlast : Messages.maxPage (1 : Nat) = (1 : Nat) := by decide
  have hanswer := Messages.serve_history hlook (by decide) hcount hlast (by decide)
  refine ⟨hlook, hcount, hlast, hasked, ?_⟩
  unfold Messages.AnswersHistory at hanswer
  rw [hasked] at hanswer
  dsimp only at hanswer
  rw [hparts] at hanswer
  exact hanswer.2

end ChatBoard
