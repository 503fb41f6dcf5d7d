import ChatBoard.Proofs.Board.Paths
import ChatBoard.Proofs.Codec.Form
import ChatBoard.Proofs.Messages.History
import ChatBoard.Proofs.Page.Links

/-!
# Links between the pages of a history

A page of a channel's history has a link to the page before it unless it is the first, a link to
each page with its own one marked, and a link to the page after it unless it is the last
(`Page.links_history`). The target of a link is cut into a path that leads to the history of the
channel and a query that asks for the page (`Request.splitTarget_history`), so whoever looks at a
page may follow its links (`Messages.looksBack_of_follows`), and is answered with the page that the
link names if that can be read (`history_linked`). A message that cannot be read makes only its own
page fail, so a link may lead to a failure of the board (`history_dead_link`).
-/

namespace ChatBoard

/-! ## Where links lead -/

namespace Request

/-- The path of a channel's history. -/
def historyPath (channel : Nat) : Octets :=
  Octets.ofText "/history/" ++ Octets.ofText (Numeral.ofNat channel)

/-- The query that asks for a page. -/
def pageQuery (page : Nat) : Octets := Form.written ("page", Numeral.ofNat page)

/-- The target of a link is the path of the history and the query for the page. -/
theorem splitTarget_history (channel page : Nat) :
    splitTarget (Octets.ofText (Page.historyTarget channel page))
      = (historyPath channel, pageQuery page) := by
  have htarget : Octets.ofText (Page.historyTarget channel page)
      = historyPath channel ++ 0x3f :: pageQuery page := by
    have hquery : Octets.ofText "?page=" = 0x3f :: (Octets.ofText "page" ++ [0x3d]) := by decide
    unfold Page.historyTarget historyPath pageQuery Form.written
    rw [Octets.ofText_append, Octets.ofText_append, Octets.ofText_append, hquery]
    simp [Numeral.ofInt]
  have hroot : (Octets.ofText (Page.historyTarget channel page)).head? = some 0x2f := by
    rw [htarget]
    rfl
  have hpath : 0x3f ∉ historyPath channel := by
    unfold historyPath
    rw [List.mem_append, not_or]
    exact ⟨by decide, Numeral.octet_not_mem (by decide) channel⟩
  have hfragment : 0x23 ∉ historyPath channel ++ 0x3f :: pageQuery page := by
    unfold historyPath pageQuery Form.written
    simp only [List.mem_append, List.mem_cons, not_or]
    exact ⟨⟨by decide, Numeral.octet_not_mem (by decide) channel⟩, by decide, by decide, by decide,
      Numeral.octet_not_mem (by decide) page⟩
  unfold splitTarget
  rw [if_pos (.inl hroot), htarget]
  unfold splitPath
  have hkept : (Octets.cutAt 0x23 (historyPath channel ++ 0x3f :: pageQuery page)).1
      = historyPath channel ++ 0x3f :: pageQuery page :=
    List.takeWhile_eq_self_iff.2 fun b hb => bne_iff_ne.2 fun heq => hfragment (heq ▸ hb)
  rw [hkept, Octets.cutAt_append_cons hpath]
  rfl

end Request

namespace Messages

/-- The path of a channel's history leads to it. -/
theorem history_path {channel : Nat} (le : channel ≤ 0x7fffffffffffffff) :
    ∃ raw, Route.ofPath? (Request.historyPath channel) = some (.page (.history raw))
      ∧ Request.pathNumber "channel_id" raw = .ok (channel : Int) := by
  refine ⟨Octets.ofText (Numeral.ofNat channel), ?_, ?_⟩
  · have hne : Octets.ofText (Numeral.ofNat channel) ≠ [] := by
      rw [Numeral.ofText_ofNat]
      exact fun hnil => Nat.toDigits_ne_nil (List.map_eq_nil_iff.1 hnil)
    have hroute : ("history", fun part => Route.page (.history part)) ∈ Route.withPart := by
      simp [Route.withPart]
    exact Route.ofPath?_withPart "history" hroute hne (Numeral.octet_not_mem (by decide) channel)
  · unfold Request.pathNumber Request.pathText
    rw [Form.decode_of_not_mem (Numeral.octet_not_mem (by decide) channel), Octets.toText?_ofText]
    dsimp only
    rw [Numeral.readInt64_ofNat le]

/-- The query for a page asks for it. -/
theorem askedPage?_query {r : Request} {page : Nat} (pos : 1 ≤ page)
    (le : page ≤ 0x7fffffffffffffff) (hquery : r.query = Request.pageQuery page) :
    askedPage? r = some (page : Int) := by
  have hname : Form.Plain "page" := by decide
  have hplain : Form.Plain (Numeral.ofNat page) := by
    intro b hb
    have hdigit := Numeral.octet_mem hb
    refine ⟨?_, ?_, ?_, ?_⟩ <;> rintro rfl <;> exact absurd hdigit (by decide)
  have hfields : Form.fields r.query = [("page", Numeral.ofNat page)] := by
    rw [hquery]
    exact Form.fields_single (Form.encodes_written hname hplain)
  have htext : r.queryText "page" = .ok (some (Numeral.ofNat page)) := by
    unfold Request.queryText
    rw [hfields]
    rfl
  unfold askedPage?
  rw [htext]
  exact pageNumber?_ofNat pos le

/-- A channel whose history is looked at has a number of the signed 64-bit range. -/
theorem channel_le {raw : Octets} {channel : Nat} (pos : 0 < channel)
    (h : Request.pathNumber "channel_id" raw = .ok (channel : Int)) :
    channel ≤ 0x7fffffffffffffff := by
  unfold Request.pathNumber at h
  split at h
  · cases h
  next text =>
    split at h
    next i hread =>
      cases h
      exact ((Numeral.readInt64_eq_ok_iff pos).1 hread).1
    · cases h

end Messages

/-! ## Following a link -/

/-- A request that follows a link on a page that another request was answered with: it asks for the
target of the link, with the same cookies. -/
structure Follows (l : Page.PageLink) (r r' : Request) : Prop where
  /-- It asks for the page itself. -/
  get : r'.method = .get
  /-- It asks for the text that stands in the link, with its entities replaced. -/
  target : (r'.path, r'.query) = Request.splitTarget (Octets.ofText (Html.unescape l.target))
  /-- It is sent by the same client. -/
  cookies : r'.cookieLines = r.cookieLines

namespace Messages

/-- An answer shows a page of a channel's history: the messages of the page, and links to its
neighbours and to all pages, of which its own is marked. -/
structure ShowsPage (s : Store) (user : Entry User) (channel page last : Int) (answer : Response) :
    Prop where
  /-- The answer is no refusal. -/
  status : answer.status = 200
  /-- It is the page with its messages, and these are its links. -/
  shown : ∃ ms channels html, pageParts? channel page s = some (ms, channels)
    ∧ Page.render "history.html" (historyScope user channels channel page last ms) = .ok html
    ∧ answer = .page html ∧ Page.linksIn html.toList = Page.historyLinks channel page last

/-- An account that asks for a page of a channel is shown it if the messages on it, with their
authors, and the channels can be read. Otherwise the board fails. -/
def AnswersPage (s : Store) (user : Entry User) (channel page last : Int) (answer : Response) :
    Prop :=
  match pageParts? channel page s with
  | some _ => ShowsPage s user channel page last answer
  | none => answer.status = 500

/-- What an account is shown that looks at the history of a channel, and where the links on it
lead. -/
structure Linked (e : Setting) (s : Store) (user : Entry User) (channel : Int) (last page : Nat)
    (r : Request) : Prop where
  /-- The page is one of the channel's. -/
  range : 1 ≤ page ∧ page ≤ last
  /-- It is the one that was asked for. -/
  asked : askedPage? r = some (page : Int)
  /-- It is shown, with its links. -/
  shown : ShowsPage s user channel page last (serve e r s).1
  /-- Each link names a page of the channel. -/
  named : ∀ l ∈ Page.historyLinks channel page last, ∃ number : Nat, (1 ≤ number ∧ number ≤ last)
    ∧ l.target = Page.historyTarget channel number
  /-- Who follows a link is answered with the page that it names. -/
  followed : ∀ l ∈ Page.historyLinks channel page last, ∀ number : Nat,
    l.target = Page.historyTarget channel number → ∀ r', Follows l r r' →
      AnswersPage s user channel number last (serve e r' s).1
  /-- In a sound store every page can be read. -/
  readable : s.Sound → ∀ number : Nat, 1 ≤ number → (pageParts? channel number s).isSome

variable {e : Setting} {s : Store} {user : Entry User} {channel count last page : Nat}
  {r r' : Request} {l : Page.PageLink}

/-- An account that asks for a page that the channel has is answered with it. -/
theorem answersPage_of_answers {answer : Response} (hone : 1 ≤ last) (hlimit : last ≤ 100000)
    (hasked : askedPage? r = some (page : Int)) (hle : page ≤ last)
    (h : AnswersHistory s user channel last r answer) :
    AnswersPage s user channel page last answer := by
  unfold AnswersHistory at h
  rw [hasked] at h
  dsimp only at h
  rw [if_neg (by omega)] at h
  obtain ⟨-, h⟩ := h
  unfold AnswersPage
  cases hparts : pageParts? channel page s with
  | none =>
    rw [hparts] at h
    exact h
  | some parts =>
    obtain ⟨ms, channels⟩ := parts
    rw [hparts] at h
    obtain ⟨hstatus, hanswer⟩ := h
    have hrange : (last : Int) ≤ Page.rangeLimit := by
      show (last : Int) ≤ (100000 : Nat)
      omega
    obtain ⟨html, hhtml⟩ := Page.renders_history user channels channel page ms (by omega) hrange
    rw [Response.ofPage_of_render hhtml] at hanswer
    exact ⟨hstatus, ms, channels, html, hparts, hhtml, hanswer,
      Page.links_history (by omega) hrange hhtml⟩

/-- The links on a page name pages of the channel. -/
theorem named_historyLinks (hpos : 1 ≤ page) (hle : page ≤ last)
    (h : l ∈ Page.historyLinks channel page last) : ∃ number : Nat,
      (1 ≤ number ∧ number ≤ last) ∧ l.target = Page.historyTarget channel number := by
  unfold Page.historyLinks Page.previousLink Page.nextLink at h
  rw [List.mem_append, List.mem_append, List.mem_map] at h
  rcases h with (hprevious | ⟨n, hn, rfl⟩) | hnext
  · split at hprevious
    next hlt =>
      refine ⟨page - 1, by omega, ?_⟩
      rw [List.mem_singleton.1 hprevious, Int.ofNat_sub hpos]
      rfl
    · cases hprevious
  · have hlt : n < last := List.mem_range.1 hn
    refine ⟨1 + n, by omega, ?_⟩
    rw [Int.natCast_add]
    rfl
  · split at hnext
    next hlt =>
      refine ⟨page + 1, by omega, ?_⟩
      rw [List.mem_singleton.1 hnext, Int.natCast_add]
      rfl
    · cases hnext

/-- Who may look at a page may follow its links, and asks for the page that the link names. -/
theorem looksBack_of_follows (h : LooksBack e s user channel r) (hpos : 0 < channel)
    (hfollows : Follows l r r') (htarget : l.target = Page.historyTarget channel page) :
    LooksBack e s user channel r' ∧ r'.query = Request.pageQuery page := by
  obtain ⟨raw, -, hnumber⟩ := h.path
  have hsplit : (r'.path, r'.query) = (Request.historyPath channel, Request.pageQuery page) := by
    have hplain : '&' ∉ (Page.historyTarget channel page).toList :=
      Page.not_mem_historyTarget rfl (by decide) (by decide) (by decide) channel page
    rw [hfollows.target, htarget, Html.unescape_of_not_mem hplain, Request.splitTarget_history]
  obtain ⟨hpath, hquery⟩ := Prod.mk.inj hsplit
  refine ⟨⟨?_, hfollows.get, ?_⟩, hquery⟩
  · rw [hfollows.cookies]
    exact h.account
  · rw [hpath]
    exact history_path (channel_le hpos hnumber)

/-- In a sound store every page and the channels can be read. -/
theorem pageParts?_isSome (h : s.Sound) (hpos : 1 ≤ page) : (pageParts? channel page s).isSome := by
  obtain ⟨pages, hpages⟩ := h.exists_pagesRead channel page
  obtain ⟨t, ht, -⟩ := h.channels
  obtain ⟨channels, hchannels, -⟩ := h.listChannels_ok ht
  unfold pageParts?
  rw [hpages page hpos (Nat.le_refl page), hchannels]
  rfl

end Messages

open Messages in
/-- An account that is shown a page of a channel's history is shown its links. Who follows one is
shown the page that it names if that page can be read, and the board fails if it cannot. -/
theorem history_linked {e : Setting} {s : Store} {user : Entry User} {channel count last : Nat}
    {r : Request} (h : LooksBack e s user channel r) (hpos : 0 < channel)
    (hcount : s.countMessages channel = .ok count) (hlast : maxPage count = last)
    (hlimit : last ≤ 100000) (hstatus : (serve e r s).1.status = 200) :
    ∃ page : Nat, Linked e s user channel last page r := by
  obtain ⟨hone, -, -⟩ := maxPage_eq hlast
  have hanswers := serve_history h (Int.natCast_pos.2 hpos) hcount hlast hlimit
  -- An answer that is neither a refusal nor a failure shows the page that was asked for.
  obtain ⟨page, hrange, hasked⟩ : ∃ page : Nat, (1 ≤ page ∧ page ≤ last)
      ∧ askedPage? r = some (page : Int) := by
    unfold AnswersHistory at hanswers
    cases hasked : askedPage? r with
    | none =>
      rw [hasked] at hanswers
      exact absurd (hanswers.symm.trans hstatus) (by decide)
    | some page =>
      rw [hasked] at hanswers
      obtain ⟨hpage, hanswers⟩ := hanswers
      by_cases hlt : (last : Int) < page
      · rw [if_pos hlt] at hanswers
        exact absurd (hanswers.symm.trans hstatus) (by decide)
      · refine ⟨page.toNat, by omega, ?_⟩
        rw [Int.toNat_of_nonneg (by omega)]
  have hshown : ShowsPage s user channel page last (serve e r s).1 := by
    have hanswer := answersPage_of_answers hone hlimit hasked hrange.2 hanswers
    unfold AnswersPage at hanswer
    split at hanswer
    · exact hanswer
    · exact absurd (hanswer.symm.trans hstatus) (by decide)
  have hnamed : ∀ l ∈ Page.historyLinks channel page last, ∃ number : Nat,
      (1 ≤ number ∧ number ≤ last) ∧ l.target = Page.historyTarget channel number :=
    fun l hl => named_historyLinks hrange.1 hrange.2 hl
  refine ⟨page, hrange, hasked, hshown, hnamed, ?_, fun hs _ => pageParts?_isSome hs⟩
  intro l hl number htarget r' hfollows
  obtain ⟨number', hnumber, htarget'⟩ := hnamed l hl
  obtain rfl : number' = number :=
    Int.ofNat.inj (Page.historyTarget_injective (htarget'.symm.trans htarget))
  obtain ⟨hlooks, hquery⟩ := looksBack_of_follows h hpos hfollows htarget
  exact answersPage_of_answers hone hlimit (askedPage?_query hnumber.1 (by omega) hquery) hnumber.2
    (serve_history hlooks (Int.natCast_pos.2 hpos) hcount hlast hlimit)

/-! ## A channel with two pages -/

namespace Sample

/-- The messages of a board of which the first cannot be read and twenty more can. -/
def twoPages : Table (Stored Message) :=
  (List.range 20).foldl (fun t n => t.placeNew (n + 2) (.sound ⟨1, 1, "hi", opened⟩))
    (Table.empty.placeNew 1 unreadable)

/-- A board with one account and two pages of messages. -/
def pagedBoard : Store := { storeAfter opened [signsUp] with messages := some twoPages }

/-- A request for the second page. -/
def looksFurther : Request :=
  { looksBack.request with path := Request.historyPath 1, query := Request.pageQuery 2 }

/-- The account may look at the history, and this has two pages. -/
theorem looksBack_pagedBoard : LooksBack setting pagedBoard alice 1 looksBack.request
    ∧ pagedBoard.countMessages 1 = .ok 21 ∧ Messages.maxPage (21 : Nat) = (2 : Nat) :=
  ⟨looksBack_of_mem user_signsUp, by decide +kernel, by decide⟩

/-- The first page is shown. -/
theorem shows_pagedBoard : Messages.ShowsPage pagedBoard alice 1 1 2
    (serve setting looksBack.request pagedBoard).1 := by
  obtain ⟨hlook, hcount, hlast⟩ := looksBack_pagedBoard
  have hasked : Messages.askedPage? looksBack.request = some ((1 : Nat) : Int) := by decide +kernel
  have hparts : (Messages.pageParts? (1 : Nat) (1 : Nat) pagedBoard).isSome := by
    decide +kernel
  have hanswer := Messages.answersPage_of_answers (by decide) (by decide) hasked (by decide)
    (Messages.serve_history hlook (by decide) hcount hlast (by decide))
  obtain ⟨parts, hparts⟩ := Option.isSome_iff_exists.1 hparts
  unfold Messages.AnswersPage at hanswer
  rw [hparts] at hanswer
  exact hanswer

end Sample

/-- The first of two pages is shown with links to both. -/
theorem history_linked_sample :
    (serve Sample.setting Sample.looksBack.request Sample.pagedBoard).1.status = 200
      ∧ ∃ page : Nat, Messages.Linked Sample.setting Sample.pagedBoard Sample.alice 1 2 page
          Sample.looksBack.request := by
  obtain ⟨hlook, hcount, hlast⟩ := Sample.looksBack_pagedBoard
  have hstatus := Sample.shows_pagedBoard.status
  exact ⟨hstatus, history_linked hlook (by decide) hcount hlast (by decide) hstatus⟩

/-- A page may be shown with a link to a page with a message that cannot be read. The board fails
for whoever follows it. -/
theorem history_dead_link :
    ∃ html l, (serve Sample.setting Sample.looksBack.request Sample.pagedBoard).1 = .page html
      ∧ l ∈ Page.linksIn html.toList ∧ Follows l Sample.looksBack.request Sample.looksFurther
      ∧ (serve Sample.setting Sample.looksFurther Sample.pagedBoard).1.status = 500 := by
  obtain ⟨hlook, hcount, hlast⟩ := Sample.looksBack_pagedBoard
  obtain ⟨-, ms, channels, html, -, -, hpage, hlinks⟩ := Sample.shows_pagedBoard
  have hfollows : Follows ⟨false, Page.historyTarget 1 2, "&raquo;"⟩ Sample.looksBack.request
      Sample.looksFurther := ⟨rfl, by decide +kernel, rfl⟩
  obtain ⟨hlook', hquery⟩ : LooksBack Sample.setting Sample.pagedBoard Sample.alice (1 : Nat)
      Sample.looksFurther ∧ Sample.looksFurther.query = Request.pageQuery 2 :=
    Messages.looksBack_of_follows hlook (by decide) hfollows rfl
  have hanswers := Messages.serve_history hlook' (by decide) hcount hlast (by decide)
  have hanswer := Messages.answersPage_of_answers (by decide) (by decide)
    (Messages.askedPage?_query (by decide) (by decide) hquery) (by decide) hanswers
  have hparts : Messages.pageParts? (1 : Nat) (2 : Nat) Sample.pagedBoard = none := by
    decide +kernel
  refine ⟨html, _, hpage, ?_, hfollows, ?_⟩
  · rw [hlinks]
    decide +kernel
  · unfold Messages.AnswersPage at hanswer
    rw [hparts] at hanswer
    exact hanswer

end ChatBoard
