import ChatBoard.Proofs.Messages.History
import Mathlib.Data.Rat.Floor

/-!
# The numbers of pages

The page parameter is either empty, which asks for the first page, or made of digits that denote a
positive number of the signed 64-bit range (`Messages.pageNumber?_eq_some_iff`); with any other text
a request for a history is refused.

Pages are counted and offsets computed with whole numbers. On words of 64 bits the same steps give
the same results (`Messages.maxPageWord?_eq`, `Messages.offsetWord?_eq`): no step leaves the range
as long as there is room for one more page of messages, since a page that a channel has begins
before the last of its messages.
-/

namespace ChatBoard

namespace Word

/-- The word of 64 bits for a number, if there is one. A step of arithmetic on words overflows
exactly where there is none for its result. -/
def ofInt? (i : Int) : Option Int64 :=
  if -2 ^ 63 ≤ i ∧ i < 2 ^ 63 then some (Int64.ofInt i) else none

/-- The word for a number is the one that stands for it. -/
theorem ofInt?_eq_some_iff {i : Int} {w : Int64} : ofInt? i = some w ↔ w.toInt = i := by
  unfold ofInt?
  constructor
  · intro h
    split at h
    next hrange =>
      cases h
      exact Int64.toInt_ofInt_of_le hrange.1 hrange.2
    · cases h
  · rintro rfl
    rw [if_pos ⟨w.le_toInt, w.toInt_lt⟩, Int64.ofInt_toInt]

/-- A number of the range has a word. -/
theorem exists_ofInt? {i : Int} (least : -2 ^ 63 ≤ i) (greatest : i < 2 ^ 63) :
    ∃ w, ofInt? i = some w ∧ w.toInt = i :=
  ⟨Int64.ofInt i, if_pos ⟨least, greatest⟩, Int64.toInt_ofInt_of_le least greatest⟩

/-- The larger of two words stands for the larger number. -/
theorem toInt_max (x y : Int64) : (max x y).toInt = max x.toInt y.toInt := by
  show (if x ≤ y then y else x).toInt = max x.toInt y.toInt
  split
  next hle =>
    have := Int64.le_iff_toInt_le.1 hle
    omega
  next hlt =>
    have := mt Int64.le_iff_toInt_le.2 hlt
    omega

end Word

namespace Messages

/-! ## Texts that name a page -/

/-- A text of the page parameter names a page. -/
inductive NamesPage (s : String) : Int → Prop
  | first (nothing : s = "") : NamesPage s 1
  | number {page : Nat} (something : s ≠ "") (digits : ∀ c ∈ s.toList, c.isDigit)
    (value : page = Nat.ofDigitChars 10 s.toList 0) (one_le : 1 ≤ page)
    (le : page ≤ 0x7fffffffffffffff) : NamesPage s page

/-- A page is named by nothing or by digits, and by nothing else. -/
theorem pageNumber?_eq_some_iff {s : String} {page : Int} :
    pageNumber? (some s) = some page ↔ NamesPage s page := by
  have hdigit : ∀ c : Char, (Numeral.digit? c).isSome = true ↔ c.isDigit = true := by
    intro c
    by_cases hc : c.isDigit
    · simp [Numeral.digit?_of_isDigit hc, hc]
    · simp [Numeral.digit?_eq_none hc, hc]
  have hall : (s.toList.all fun c => (Numeral.digit? c).isSome) = true
      ↔ ∀ c ∈ s.toList, c.isDigit := by
    simp only [List.all_eq_true, hdigit]
  constructor
  · intro h
    have one_le := one_le_pageNumber h
    obtain ⟨n, rfl⟩ := Int.eq_ofNat_of_zero_le (by omega : 0 ≤ page)
    unfold pageNumber? at h
    dsimp only at h
    split at h
    next hempty =>
      rw [← Option.some.inj h]
      exact .first (String.isEmpty_iff.1 hempty)
    next hne =>
      split at h
      next hdigits =>
        rw [hall] at hdigits
        split at h
        next page hread =>
          split at h
          · cases h
            obtain ⟨le, digits, hs, -, value⟩ := (Numeral.readInt64_eq_ok_iff (by omega)).1 hread
            have hself : s.toList = digits := by
              rcases hs with hs | hs
              · exact hs
              · -- A plus sign is no digit.
                rw [hs] at hdigits
                exact absurd (hdigits '+' List.mem_cons_self) (by decide)
            rw [← hself] at value
            exact .number (fun hnil => hne (String.isEmpty_iff.2 hnil)) hdigits value (by omega) le
          · cases h
        · cases h
      · cases h
  · rintro (rfl | ⟨something, digits, value, one_le, le⟩)
    · rfl
    next page =>
      have hread := (Numeral.readInt64_eq_ok_iff one_le).2 ⟨le, _, .inl rfl, digits, value⟩
      unfold pageNumber?
      dsimp only
      rw [if_neg (mt String.isEmpty_iff.1 something), if_pos (hall.2 digits), hread]
      exact if_pos (by omega)

/-- A request for a history is refused if the page parameter names no page. -/
theorem history_of_not_names {s : String} (h : ∀ page, ¬ NamesPage s page) {user : Entry User}
    {raw : Octets} {r : Request} {st : Store} {channel : Int}
    (hchannel : Request.pathNumber "channel_id" raw = .ok channel)
    (hquery : r.queryText "page" = .ok (some s)) :
    history user raw r st = .ofFailure .badRequest := by
  have hnone : pageNumber? (some s) = none :=
    Option.eq_none_iff_forall_ne_some.2 fun page hsome => h page (pageNumber?_eq_some_iff.1 hsome)
  unfold history
  rw [hchannel]
  dsimp only
  rw [hquery]
  dsimp only
  rw [hnone]
  split <;> rfl

/-- A page is refused as too large exactly if the channel has fewer pages. -/
theorem historyPage_refused_iff {user : Entry User} {channel page : Int} {st : Store} {count : Nat}
    (hcount : st.countMessages channel = .ok count) :
    (historyPage user channel page st).status = 400 ↔ maxPage count < page := by
  unfold historyPage
  rw [hcount]
  dsimp only
  by_cases hlt : maxPage count < page
  · rw [if_pos hlt]
    exact ⟨fun _ => hlt, fun _ => rfl⟩
  · rw [if_neg hlt]
    refine ⟨fun h => absurd h ?_, fun h => absurd h hlt⟩
    split
    next ms channels _ _ _ =>
      unfold Response.ofPage
      split <;> exact fun h => (nomatch h)
    · exact fun h => (nomatch h)

/-! ## Counting on words -/

/-- The number of pages, computed on words step by step; none if a step overflows. -/
def maxPageWord? (count : Int64) : Option Int64 := do
  let sum ← Word.ofInt? (count.toInt + pageSize)
  let raised ← Word.ofInt? (sum.toInt - 1)
  let pages ← Word.ofInt? (raised.toInt.tdiv pageSize)
  return max pages 1

/-- The number of messages before a page, computed on words step by step; none if a step
overflows. -/
def offsetWord? (page : Int64) : Option Int64 := do
  let before ← Word.ofInt? (page.toInt - 1)
  Word.ofInt? (before.toInt * pageSize)

/-- The number of pages is the number of twenties of messages, rounded up, and at least 1. -/
theorem maxPage_eq_ceil (count : Nat) : maxPage count = max 1 ⌈(count : ℚ) / 20⌉ := by
  have hceil := Rat.ceil_natCast_div_natCast count 20
  push_cast at hceil
  rw [hceil]
  unfold maxPage pageSize
  omega

/-- As long as there is room for one more page of messages, the number of pages is computed on
words. -/
theorem maxPageWord?_eq {count : Int64} (nonneg : 0 ≤ count.toInt)
    (room : count.toInt ≤ 2 ^ 63 - 21) :
    ∃ last, maxPageWord? count = some last ∧ last.toInt = maxPage count.toInt := by
  unfold maxPageWord? maxPage pageSize
  obtain ⟨sum, hsum, sum_eq⟩ := Word.exists_ofInt? (i := count.toInt + 20) (by omega) (by omega)
  obtain ⟨raised, hraised, raised_eq⟩ :=
    Word.exists_ofInt? (i := sum.toInt - 1) (by omega) (by omega)
  have hdiv : raised.toInt.tdiv 20 = raised.toInt / 20 := Int.tdiv_eq_ediv_of_nonneg (by omega)
  obtain ⟨pages, hpages, pages_eq⟩ :=
    Word.exists_ofInt? (i := raised.toInt.tdiv 20) (by omega) (by omega)
  refine ⟨max pages 1, ?_, ?_⟩
  · simp only [hsum, hraised, hpages, Option.bind_eq_bind, Option.bind_some]
    rfl
  · calc (max pages 1).toInt = max pages.toInt 1 := Word.toInt_max pages 1
      _ = max ((count.toInt + 20 - 1) / 20) 1 := by rw [pages_eq, hdiv, raised_eq, sum_eq]

/-- With more messages than that the first step overflows. -/
theorem maxPageWord?_eq_none {count : Int64} (h : 2 ^ 63 - 21 < count.toInt) :
    maxPageWord? count = none := by
  have hnone : Word.ofInt? (count.toInt + pageSize) = none := if_neg (by unfold pageSize; omega)
  unfold maxPageWord?
  rw [hnone]
  rfl

/-- What is computed on words is the number of messages before the page. -/
theorem toInt_offsetWord? {page offset : Int64} (h : offsetWord? page = some offset) :
    offset.toInt = (page.toInt - 1) * pageSize := by
  unfold offsetWord? at h
  obtain ⟨before, hbefore, hoffset⟩ := Option.bind_eq_some_iff.1 h
  calc offset.toInt = before.toInt * pageSize := Word.ofInt?_eq_some_iff.1 hoffset
    _ = (page.toInt - 1) * pageSize := by rw [Word.ofInt?_eq_some_iff.1 hbefore]

/-- A page that the channel has is shown with the messages after those before it. -/
theorem historyPage_of_offset {user : Entry User} {channel : Int} {st : Store} {count : Nat}
    {page offset : Int64} {ms : List AuthoredMessage} {channels : List (Entry Channel)}
    {focus : String} (hcount : st.countMessages channel = .ok count)
    (hle : ¬ maxPage count < page.toInt) (hoffset : offsetWord? page = some offset)
    (hms : st.messagesPage channel pageSize offset.toInt = .ok ms)
    (hchannels : st.listChannels none = .ok (channels, focus)) :
    historyPage user channel page.toInt st
      = .ofPage "history.html"
          (historyScope user channels channel page.toInt (maxPage count) ms) := by
  rw [toInt_offsetWord? hoffset] at hms
  unfold historyPage
  rw [hcount]
  dsimp only
  rw [if_neg hle, hms, hchannels]

/-- For a page that the channel has, the number of messages before it is computed on words, and the
channel has more than these unless it has none at all. -/
theorem offsetWord?_eq {count : Nat} {page : Int64} (room : (count : Int) ≤ 2 ^ 63 - 21)
    (one_le : 1 ≤ page.toInt) (le : page.toInt ≤ maxPage count) :
    ∃ offset, offsetWord? page = some offset ∧ 0 ≤ offset.toInt
      ∧ offset.toInt ≤ max (count - 1 : Int) 0 := by
  unfold maxPage pageSize at le
  unfold offsetWord? pageSize
  obtain ⟨before, hbefore, before_eq⟩ :=
    Word.exists_ofInt? (i := page.toInt - 1) (by omega) (by omega)
  obtain ⟨offset, hoffset, offset_eq⟩ :=
    Word.exists_ofInt? (i := before.toInt * 20) (by omega) (by omega)
  refine ⟨offset, ?_, by omega, by omega⟩
  simp only [hbefore, hoffset, Option.bind_eq_bind, Option.bind_some]

/-! ## Every text and every count -/

/-- What a text of the page parameter leads to. -/
structure ReadsPage (s : String) : Prop where
  /-- The page that it asks for is the one that it names. -/
  named : ∀ page, pageNumber? (some s) = some page ↔ NamesPage s page
  /-- If it names none, the request is refused, whatever the channel and the store. -/
  refused : (∀ page, ¬ NamesPage s page) → ∀ (user : Entry User) raw r st channel,
    Request.pathNumber "channel_id" raw = .ok channel → r.queryText "page" = .ok (some s) →
      history user raw r st = .ofFailure .badRequest

/-- What is computed on words for a channel with a number of messages. -/
structure CountsOnWords (count : Nat) : Prop where
  /-- Its pages are counted without overflow. -/
  pages : ∃ word last, Word.ofInt? count = some word ∧ maxPageWord? word = some last
    ∧ last.toInt = maxPage count ∧ last.toInt = max 1 ⌈(count : ℚ) / 20⌉
  /-- A page is refused as too large exactly if it is above their number. -/
  refused : ∀ (user : Entry User) channel page st, st.countMessages channel = .ok count →
    ((historyPage user channel page st).status = 400 ↔ maxPage count < page)
  /-- For every other page that a text can name, the number of messages before it is computed
  without overflow, and one of the channel's messages is left for it, if there are any. -/
  offset : ∀ s page, NamesPage s page → ¬ maxPage count < page →
    ∃ word offset, Word.ofInt? page = some word ∧ offsetWord? word = some offset
      ∧ offset.toInt = (page - 1) * pageSize ∧ 0 ≤ offset.toInt
      ∧ offset.toInt ≤ max (count - 1 : Int) 0
  /-- After that many messages the page begins that is shown. -/
  shown : ∀ (user : Entry User) channel st ms channels focus (page offset : Int64),
    st.countMessages channel = .ok count → ¬ maxPage count < page.toInt →
      offsetWord? page = some offset → st.messagesPage channel pageSize offset.toInt = .ok ms →
        st.listChannels none = .ok (channels, focus) →
          historyPage user channel page.toInt st = .ofPage "history.html"
            (historyScope user channels channel page.toInt (maxPage count) ms)

/-- The page parameter is read by its grammar. What is computed from it and from the number of
messages stays in the signed 64-bit range as long as there is room for one more page, and no
longer. -/
theorem pageNumbers_tell :
    (∀ s, ReadsPage s) ∧ (∀ count : Nat, count ≤ 2 ^ 63 - 21 → CountsOnWords count)
      ∧ ∀ count : Int64, 2 ^ 63 - 21 < count.toInt → maxPageWord? count = none := by
  refine ⟨fun s => ⟨fun page => pageNumber?_eq_some_iff, ?_⟩, fun count room => ⟨?_, ?_, ?_, ?_⟩,
    fun count => maxPageWord?_eq_none⟩
  · intro h user raw r st channel hchannel hquery
    exact history_of_not_names h hchannel hquery
  · obtain ⟨word, hword, word_eq⟩ := Word.exists_ofInt? (i := count) (by omega) (by omega)
    obtain ⟨last, hlast, last_eq⟩ :
        ∃ last, maxPageWord? word = some last ∧ last.toInt = maxPage word.toInt :=
      maxPageWord?_eq (by omega) (by omega)
    rw [word_eq] at last_eq
    exact ⟨word, last, hword, hlast, last_eq, last_eq.trans (maxPage_eq_ceil count)⟩
  · intro user channel page st hcount
    exact historyPage_refused_iff hcount
  · intro s page hnames hle
    have one_le := one_le_pageNumber (pageNumber?_eq_some_iff.2 hnames)
    have least : maxPage count ≤ 2 ^ 63 - 1 := by unfold maxPage pageSize; omega
    obtain ⟨word, hword, word_eq⟩ := Word.exists_ofInt? (i := page) (by omega) (by omega)
    have le : word.toInt ≤ maxPage count := by omega
    obtain ⟨offset, hoffset, hrange⟩ := offsetWord?_eq (by omega) (by omega) le
    have offset_eq := toInt_offsetWord? hoffset
    rw [word_eq] at offset_eq
    exact ⟨word, offset, hword, hoffset, offset_eq, hrange⟩
  · intro user channel st ms channels focus page offset hcount hle hoffset hms hchannels
    exact historyPage_of_offset hcount hle hoffset hms hchannels

/-- In a channel with as many messages as there may be, the last page can be asked for. -/
theorem pageNumbers_tell_fullest :
    2 ^ 63 - 21 ≤ 2 ^ 63 - 21 ∧ NamesPage "00461168601842738790" 461168601842738790
      ∧ ¬ maxPage (2 ^ 63 - 21 : Nat) < 461168601842738790
      ∧ ∃ word offset, Word.ofInt? 461168601842738790 = some word ∧ offsetWord? word = some offset
        ∧ offset.toInt = 9223372036854775780 := by
  have hnames : NamesPage "00461168601842738790" (461168601842738790 : Nat) :=
    .number (by decide) (by simp) (by decide) (by decide) (by decide)
  have hle : ¬ maxPage (2 ^ 63 - 21 : Nat) < 461168601842738790 := by decide
  obtain ⟨word, offset, hword, hoffset, offset_eq, -⟩ :=
    (pageNumbers_tell.2.1 (2 ^ 63 - 21) (Nat.le_refl _)).offset _ _ hnames hle
  exact ⟨Nat.le_refl _, hnames, hle, word, offset, hword, hoffset, offset_eq⟩

end Messages

end ChatBoard
