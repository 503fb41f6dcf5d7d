import ChatBoard.Proofs.Board.Origin
import ChatBoard.Proofs.Store.Messages

/-!
# What a poll returns

`Store.polled` is the list that a poll reads: the newest messages of a channel above an id, at most
a hundred, newest first. Its ids are those of the entries (`Store.Sound.polled_ids`), so they
descend and lie above the id. The newest of them, to which the poll moves the mark, is one of them
(`Messages.newestId_mem`), and unless the list is empty no message of the channel has a larger id
(`Store.Sound.le_newest_polled`). `serve_poll` is the answer to a request that polls.
-/

namespace ChatBoard

/-- The messages that a poll reads from a store; none if they cannot be read. -/
def Store.polled (channel after : Int) (s : Store) : List AuthoredMessage :=
  match s.messagesAfter channel after Messages.pollLimit with
  | .ok ms => ms
  | .error _ => []

/-- The entries that a poll reads. -/
def Store.pending (channel after : Int) (s : Store) : List (Entry (Stored Message)) :=
  ((s.inChannel channel).filter fun e => decide (after < e.id)).take 100

/-- No number is above the largest, or above 0 if there is none. -/
theorem le_largest {xs : List Int} {x : Int} (h : x ∈ xs) : x ≤ xs.max?.getD 0 := by
  cases hmax : xs.max? with
  | none =>
    rw [List.max?_eq_none_iff] at hmax
    rw [hmax] at h
    exact absurd h List.not_mem_nil
  | some largest => exact (List.max?_eq_some_iff.1 hmax).2 x h

/-- The largest number is one of them. -/
theorem largest_mem {xs : List Int} (h : xs ≠ []) : xs.max?.getD 0 ∈ xs := by
  cases hmax : xs.max? with
  | none => exact absurd (List.max?_eq_none_iff.1 hmax) h
  | some largest => exact (List.max?_eq_some_iff.1 hmax).1

namespace Messages

/-- No message is newer than the newest. -/
theorem le_newestId {ms : List AuthoredMessage} {m : AuthoredMessage} (h : m ∈ ms) :
    m.id ≤ newestId ms :=
  le_largest (List.mem_map.2 ⟨m, h, rfl⟩)

/-- The newest message is one of them. -/
theorem newestId_mem {ms : List AuthoredMessage} (h : ms ≠ []) :
    newestId ms ∈ ms.map (·.id) :=
  largest_mem fun hnil => h (List.map_eq_nil_iff.1 hnil)

end Messages

namespace Store

variable {s : Store} {channel after : Int}

/-- What a poll reads are messages of the channel above the id. -/
theorem mem_pending {e : Entry (Stored Message)} (h : e ∈ s.pending channel after) :
    e ∈ s.inChannel channel ∧ after < e.id := by
  have := List.mem_filter.1 (List.mem_of_mem_take h)
  exact ⟨this.1, of_decide_eq_true this.2⟩

/-- What a poll reads stands newest first. -/
theorem pending_descending (channel after : Int) (s : Store) :
    (s.pending channel after).Pairwise fun a b => b.id < a.id :=
  ((s.inChannel_descending channel).filter _).sublist (List.take_sublist ..)

/-- When a poll reads something, no message of the channel is newer than all of it. -/
theorem exists_newer_pending (h : s.pending channel after ≠ []) {e : Entry (Stored Message)}
    (he : e ∈ s.inChannel channel) : ∃ x ∈ s.pending channel after, e.id ≤ x.id := by
  unfold pending at h ⊢
  cases hnew : (s.inChannel channel).filter fun e => decide (after < e.id) with
  | nil => exact absurd (by rw [hnew]; rfl) h
  | cons x rest =>
    refine ⟨x, List.mem_cons_self, ?_⟩
    have hx : x ∈ (s.inChannel channel).filter fun e => decide (after < e.id) := by
      rw [hnew]
      exact List.mem_cons_self
    -- Entries up to the id of the poll are below all that it reads.
    by_cases hlt : after < e.id
    · -- The entry is among the newer ones, of which `x` is the first.
      have hmem : e ∈ x :: rest := by
        rw [← hnew]
        exact List.mem_filter.2 ⟨he, decide_eq_true hlt⟩
      have hdesc := (s.inChannel_descending channel).filter fun e => decide (after < e.id)
      rw [hnew] at hdesc
      rcases List.mem_cons.1 hmem with rfl | hrest
      · exact Int.le_refl _
      · exact Int.le_of_lt ((List.pairwise_cons.1 hdesc).1 e hrest)
    · have := of_decide_eq_true (List.mem_filter.1 hx).2
      omega

/-- A poll of a sound store reads the pending entries and joins them with their authors. -/
theorem Sound.polled_ok (h : s.Sound) (channel after : Int) :
    s.messagesAfter channel after Messages.pollLimit = .ok (s.polled channel after)
      ∧ ∃ users, s.users = some users
        ∧ (s.pending channel after).map (authored? users) = (s.polled channel after).map some := by
  obtain ⟨users, ms, hu, hms, hmap⟩ := h.messagesAfter_ok channel after Messages.pollLimit
  have hpolled : s.polled channel after = ms := by
    unfold polled
    rw [hms]
  rw [hpolled]
  exact ⟨hms, users, hu, hmap⟩

/-- The ids that a poll returns are those of the pending entries. -/
theorem Sound.polled_ids (h : s.Sound) (channel after : Int) :
    (s.polled channel after).map (·.id) = (s.pending channel after).map (·.id) := by
  obtain ⟨-, users, -, hmap⟩ := h.polled_ok channel after
  exact ids_of_authored hmap

/-- Unless a poll returns nothing, no message of the channel is above the newest it returns. -/
theorem Sound.le_newest_polled (h : s.Sound) (hne : s.polled channel after ≠ [])
    {e : Entry (Stored Message)} (he : e ∈ s.inChannel channel) :
    e.id ≤ Messages.newestId (s.polled channel after) := by
  have hids := h.polled_ids channel after
  have hpending : s.pending channel after ≠ [] := fun hnil => by
    rw [hnil, List.map_nil, List.map_eq_nil_iff] at hids
    exact hne hids
  -- A pending entry that is not below the given one is among those that the poll returns.
  obtain ⟨x, hx, hle⟩ := exists_newer_pending hpending he
  have hmem : x.id ∈ (s.polled channel after).map (·.id) := by
    rw [hids]
    exact List.mem_map.2 ⟨x, hx, rfl⟩
  obtain ⟨m, hm, hid⟩ := List.mem_map.1 hmem
  have := Messages.le_newestId hm
  omega

/-- The newest id that a poll returns is 0 or that of a message of the channel. -/
theorem Sound.newest_polled (h : s.Sound) (channel after : Int) :
    Messages.newestId (s.polled channel after) = 0
      ∨ ∃ e ∈ s.inChannel channel, e.id = Messages.newestId (s.polled channel after) := by
  by_cases hnil : s.polled channel after = []
  · exact .inl (by rw [hnil]; rfl)
  · have hmem := Messages.newestId_mem hnil
    rw [h.polled_ids] at hmem
    obtain ⟨e, he, hid⟩ := List.mem_map.1 hmem
    exact .inr ⟨e, (mem_pending he).1, hid⟩

end Store

/-! ## Requests that poll -/

/-- The answer to a poll that can read and set the mark. -/
theorem Messages.poll_answer {e : Setting} {user : Entry User} {r : Request} {s : Store}
    {channel after : Int} {ms : List AuthoredMessage} {marks : ReadMarks}
    (hquery : r.queryNumbers "channel_id" "last_message_id" = .ok (channel, after))
    (hread : s.messagesAfter channel after pollLimit = .ok ms) (hmarks : s.marks = some marks) :
    (poll e user r s).1 = pollAnswer ms := by
  unfold poll
  rw [hquery]
  dsimp only
  rw [hread]
  dsimp only
  unfold Store.markRead
  rw [hmarks]

/-- The answer to a request that polls a sound store: what the poll reads, oldest first. -/
theorem serve_poll {e : Setting} {r : Request} {s : Store} {user channel after : Int}
    (hs : s.Sound) (h : Effect.ofRequest e r s = .poll user channel after) :
    (serve e r s).1 =
      if r.method = .head then { Messages.pollAnswer (s.polled channel after) with body := [] }
      else Messages.pollAnswer (s.polled channel after) := by
  obtain ⟨account, haccount, -, hget, hpath, hquery⟩ := Effect.ofRequest_eq_poll_iff.1 h
  have hroute : Route.ofPath? r.path = some (.api .messages) :=
    (Route.ofPath?_fixed_iff "message" (by decide)).2 hpath
  obtain ⟨hread, -⟩ := hs.polled_ok channel after
  obtain ⟨ms, hms, -⟩ := hs.marks
  have hact : ((Route.api .messages).act e r s).1
      = Messages.pollAnswer (s.polled channel after) := by
    unfold Route.act
    dsimp only
    rw [Route.gated_account haccount]
    unfold ApiRoute.serve
    rw [if_neg hget.ne_post]
    exact Messages.poll_answer hquery hread hms
  rw [serve_route hroute (hget.answered _)]
  unfold Request.sent
  rw [hact]

end ChatBoard
