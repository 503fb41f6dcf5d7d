import ChatBoard.Proofs.Store.Sound

/-!
# The messages of a channel

Every question about a channel's messages looks at one list, the entries of the channel newest
first (`Store.inChannel`): a count is its length, a poll takes the newest entries above an id, a
page drops the newer ones first. The entries are then joined with their authors one by one, so the
answer has as many messages as entries, in the same order and with the same ids
(`Store.allAuthored_ok`), or it fails because one of them cannot be read. In a sound store none
fails (`Store.Sound.allAuthored`).
-/

namespace ChatBoard

/-- Reading a list succeeds if every element can be read, and gives what was read in order. -/
theorem mapM_eq_some {α β : Type} {read : α → Option β} {xs : List α} {ys : List β} :
    xs.mapM read = some ys ↔ xs.map read = ys.map some := by
  induction xs generalizing ys with
  | nil => cases ys <;> simp
  | cons x rest ih =>
    rw [List.mapM_cons, List.map_cons]
    constructor
    · intro h
      obtain ⟨y, hy, h⟩ := Option.bind_eq_some_iff.1 h
      obtain ⟨zs, hzs, h⟩ := Option.bind_eq_some_iff.1 h
      cases h
      rw [List.map_cons, hy, ih.1 hzs]
    · intro h
      cases ys with
      | nil => cases h
      | cons y zs =>
        rw [List.map_cons, List.cons.injEq] at h
        rw [h.1, ih.2 h.2]
        rfl

/-- What elements and their readings have in common, the lists of them have in common. -/
theorem map_eq_of_read {α β γ : Type} {read : α → Option β} {f : α → γ} {g : β → γ}
    (common : ∀ x y, read x = some y → f x = g y) {xs : List α} {ys : List β}
    (h : xs.map read = ys.map some) : xs.map f = ys.map g := by
  induction xs generalizing ys with
  | nil =>
    cases ys with
    | nil => rfl
    | cons y rest => cases h
  | cons x rest ih =>
    cases ys with
    | nil => cases h
    | cons y ys =>
      rw [List.map_cons, List.map_cons, List.cons.injEq] at h
      rw [List.map_cons, List.map_cons, common x y h.1, ih h.2]

/-- If every element can be read, so can the list. -/
theorem exists_map_read {α β : Type} {read : α → Option β} {xs : List α}
    (h : ∀ x ∈ xs, ∃ y, read x = some y) : ∃ ys : List β, xs.map read = ys.map some := by
  induction xs with
  | nil => exact ⟨[], rfl⟩
  | cons x rest ih =>
    obtain ⟨y, hy⟩ := h x List.mem_cons_self
    obtain ⟨ys, hys⟩ := ih fun z hz => h z (List.mem_cons_of_mem _ hz)
    refine ⟨y :: ys, ?_⟩
    rw [List.map_cons, List.map_cons, hy, hys]

namespace Store

/-- The stored messages, newest first; none if their table is missing. -/
def messageEntries (s : Store) : List (Entry (Stored Message)) :=
  match s.messages with
  | some t => t.entries
  | none => []

/-- The stored messages of a channel, newest first. -/
def inChannel (channel : Int) (s : Store) : List (Entry (Stored Message)) :=
  s.messageEntries.filter fun e => Message.isIn channel e.row

/-- The number of a channel's messages that were not there in an earlier store. -/
def arrivals (channel : Int) (s earlier : Store) : Nat :=
  (s.inChannel channel).countP fun e => decide (e ∉ earlier.inChannel channel)

variable {s : Store} {channel : Int}

/-- The stored messages are those of the table. -/
theorem messageEntries_eq {t : Table (Stored Message)} (h : s.messages = some t) :
    s.messageEntries = t.entries := by
  unfold messageEntries
  rw [h]

/-- The messages of a channel are those of the table that belong to it. -/
theorem inChannel_eq {t : Table (Stored Message)} (h : s.messages = some t) :
    s.inChannel channel = t.entries.filter fun e => Message.isIn channel e.row := by
  unfold inChannel
  rw [messageEntries_eq h]

/-- The messages of a channel are the rows that belong to it. -/
theorem mem_inChannel_iff {x : Entry (Stored Message)} :
    x ∈ s.inChannel channel ↔ x ∈ rowsOf s.messages ∧ Message.isIn channel x.row = true := by
  have hentries : s.messageEntries = rowsOf s.messages := by
    unfold messageEntries
    cases s.messages <;> rfl
  unfold inChannel
  rw [hentries, List.mem_filter]

/-- The ids of a channel's messages descend. -/
theorem inChannel_descending (channel : Int) (s : Store) :
    (s.inChannel channel).Pairwise fun a b => b.id < a.id := by
  unfold inChannel messageEntries
  split
  next t _ => exact t.descending.filter _
  · exact .nil

/-- A channel's messages are counted by their entries. -/
theorem countMessages_eq {t : Table (Stored Message)} (h : s.messages = some t) :
    s.countMessages channel = .ok (s.inChannel channel).length := by
  unfold countMessages
  rw [h, inChannel_eq h]
  exact congrArg _ List.countP_eq_length_filter

/-- A channel's messages can be counted if their table is there. -/
theorem countMessages_ok {count : Nat} (h : s.countMessages channel = .ok count) :
    ∃ t, s.messages = some t ∧ count = (s.inChannel channel).length := by
  cases ht : s.messages with
  | none =>
    unfold countMessages at h
    rw [ht] at h
    cases h
  | some t =>
    rw [countMessages_eq ht] at h
    cases h
    exact ⟨t, rfl, rfl⟩

/-- A channel's messages above an id are counted by their entries. -/
theorem countAfter_eq {t : Table (Stored Message)} (h : s.messages = some t) (after : Int) :
    s.countAfter channel after
      = .ok ((s.inChannel channel).countP fun e => decide (after < e.id)) := by
  unfold countAfter
  rw [h, inChannel_eq h, List.countP_filter]

/-- The newest messages of a channel above an id are read off its entries. -/
theorem messagesAfter_eq {t : Table (Stored Message)} {users : Table (Stored User)}
    (h : s.messages = some t) (hu : s.users = some users) (after limit : Int) :
    s.messagesAfter channel after limit
      = allAuthored users
          (atMost limit ((s.inChannel channel).filter fun e => decide (after < e.id))) := by
  unfold messagesAfter
  rw [h, hu, inChannel_eq h, List.filter_filter]

/-- A page of a channel's messages is read off its entries. -/
theorem messagesPage_eq {t : Table (Stored Message)} {users : Table (Stored User)}
    (h : s.messages = some t) (hu : s.users = some users) (limit offset : Int) :
    s.messagesPage channel limit offset
      = allAuthored users (atMost limit ((s.inChannel channel).drop offset.toNat)) := by
  unfold messagesPage
  rw [h, hu, inChannel_eq h]

/-! ## Messages with their authors -/

variable {users : Table (Stored User)}

/-- A message with its author is read from its entry. -/
theorem authored?_some {e : Entry (Stored Message)} {m : AuthoredMessage}
    (h : authored? users e = some m) :
    m.id = e.id ∧ e.row = .sound m.message ∧ authorOf users m.message.author = some m.author := by
  unfold authored? at h
  split at h
  next row hrow =>
    obtain ⟨author, hauthor, rfl⟩ := Option.map_eq_some_iff.1 h
    exact ⟨rfl, hrow, hauthor⟩
  · cases h

/-- Messages with their authors are read from the entries one by one. -/
theorem allAuthored_ok {es : List (Entry (Stored Message))} {ms : List AuthoredMessage} :
    allAuthored users es = .ok ms ↔ es.map (authored? users) = ms.map some := by
  unfold allAuthored
  rw [← mapM_eq_some]
  cases es.mapM (authored? users) <;> simp

/-- Joining messages with their authors keeps their ids. -/
theorem ids_of_authored {es : List (Entry (Stored Message))} {ms : List AuthoredMessage}
    (h : es.map (authored? users) = ms.map some) : ms.map (·.id) = es.map (·.id) :=
  (map_eq_of_read (fun _ _ hread => (authored?_some hread).1.symm) h).symm

/-- An author is known among accounts that can be read. -/
theorem authorOf_isSome (h : users.Sound) (id : Int) :
    ∃ author, authorOf users id = some author := by
  unfold authorOf
  split
  next row hrow =>
    unfold Table.get? at hrow
    obtain ⟨e, he, rfl⟩ := Option.map_eq_some_iff.1 hrow
    obtain ⟨u, hu⟩ := h.readable e (List.mem_of_find?_eq_some he)
    exact ⟨publicUser u, by rw [hu]; rfl⟩
  · exact ⟨unknownAuthor, rfl⟩

/-- A message that can be read is joined with accounts that can be read. -/
theorem exists_authored (h : users.Sound) {e : Entry (Stored Message)} {m : Message}
    (hm : e.row = .sound m) : ∃ joined, authored? users e = some joined := by
  obtain ⟨author, hauthor⟩ := authorOf_isSome h m.author
  refine ⟨⟨e.id, m, author⟩, ?_⟩
  unfold authored?
  rw [hm]
  dsimp only
  rw [hauthor]
  rfl

/-- Messages that can be read are joined with accounts that can be read. -/
theorem allAuthored_isOk (h : users.Sound) {es : List (Entry (Stored Message))}
    (readable : ∀ e ∈ es, ∃ m, e.row = .sound m) : ∃ ms, allAuthored users es = .ok ms := by
  have hread : ∀ e ∈ es, ∃ m, authored? users e = some m := by
    intro e he
    obtain ⟨m, hm⟩ := readable e he
    exact exists_authored h hm
  obtain ⟨ms, hms⟩ := exists_map_read hread
  exact ⟨ms, allAuthored_ok.2 hms⟩

/-! ## Sound stores -/

/-- The messages of a sound store can be read and have positive ids. -/
theorem Sound.readable_inChannel (h : s.Sound) {e : Entry (Stored Message)}
    (he : e ∈ s.inChannel channel) : (∃ m, e.row = .sound m) ∧ 0 < e.id := by
  obtain ⟨t, ht, hsound⟩ := h.messages
  rw [inChannel_eq ht] at he
  have hmem := (List.mem_filter.1 he).1
  exact ⟨hsound.readable e hmem, hsound.positive e hmem⟩

/-- In a sound store the newest messages of a channel can be read. -/
theorem Sound.messagesAfter_ok (h : s.Sound) (channel after limit : Int) :
    ∃ users ms, s.users = some users ∧ s.messagesAfter channel after limit = .ok ms
      ∧ (atMost limit ((s.inChannel channel).filter fun e => decide (after < e.id))).map
          (authored? users) = ms.map some := by
  obtain ⟨t, ht, -⟩ := h.messages
  obtain ⟨users, hu, husers⟩ := h.users
  have hsub : ∀ e ∈ atMost limit ((s.inChannel channel).filter fun e => decide (after < e.id)),
      ∃ m, e.row = .sound m := by
    intro e he
    unfold atMost at he
    split at he
    · exact (h.readable_inChannel (List.mem_filter.1 he).1).1
    · exact (h.readable_inChannel (List.mem_filter.1 (List.mem_of_mem_take he)).1).1
  obtain ⟨ms, hms⟩ := allAuthored_isOk husers hsub
  exact ⟨users, ms, hu, by rw [messagesAfter_eq ht hu, hms], allAuthored_ok.1 hms⟩

/-! ## The list of channels -/

/-- Entries are read one by one. -/
theorem readAll_ok {α : Type} {table : TableName} {es : List (Entry (Stored α))}
    {rows : List (Entry α)} :
    readAll table es = .ok rows ↔ es.map Entry.read? = rows.map some := by
  unfold readAll
  rw [← mapM_eq_some]
  cases es.mapM Entry.read? <;> simp

/-- Reading entries keeps their ids. -/
theorem ids_of_read {α : Type} {es : List (Entry (Stored α))} {rows : List (Entry α)}
    (h : es.map Entry.read? = rows.map some) : rows.map (·.id) = es.map (·.id) := by
  refine (map_eq_of_read (fun e row hread => ?_) h).symm
  obtain ⟨row', -, rfl⟩ := Option.map_eq_some_iff.1 hread
  rfl

/-- Entries whose rows can be read are read. -/
theorem readAll_isOk {α : Type} (table : TableName) {es : List (Entry (Stored α))}
    (readable : ∀ e ∈ es, ∃ row, e.row = .sound row) : ∃ rows, readAll table es = .ok rows := by
  have hread : ∀ e ∈ es, ∃ row, Entry.read? e = some row := by
    intro e he
    obtain ⟨row, hrow⟩ := readable e he
    refine ⟨⟨e.id, row⟩, ?_⟩
    rw [Entry.read?, hrow]
    rfl
  obtain ⟨rows, hrows⟩ := exists_map_read hread
  exact ⟨rows, readAll_ok.2 hrows⟩

/-- Channels are listed without a description when none is asked for. -/
theorem listChannels_none {channels : List (Entry Channel)} (h : s.allChannels = .ok channels) :
    s.listChannels none = .ok (channels, "") := by
  have hfind : (channels.find? fun c => some c.id == none) = none :=
    List.find?_eq_none.2 fun _ _ => by simp
  unfold listChannels
  rw [h]
  dsimp only
  rw [hfind]

/-- In a sound store all channels can be listed, by ascending ids. -/
theorem Sound.listChannels_ok (h : s.Sound) {t : Table (Stored Channel)}
    (ht : s.channels = some t) :
    ∃ channels, s.listChannels none = .ok (channels, "")
      ∧ channels.map (·.id) = t.entries.reverse.map (·.id) := by
  obtain ⟨t', ht', hsound⟩ := h.channels
  obtain rfl : t' = t := Option.some.inj (ht'.symm.trans ht)
  obtain ⟨channels, hchannels⟩ := readAll_isOk .channels fun e he =>
    hsound.readable e (List.mem_reverse.1 he)
  have hall : s.allChannels = .ok channels := by
    unfold allChannels
    rw [ht]
    exact hchannels
  exact ⟨channels, listChannels_none hall, ids_of_read (readAll_ok.1 hchannels)⟩

end Store

end ChatBoard
