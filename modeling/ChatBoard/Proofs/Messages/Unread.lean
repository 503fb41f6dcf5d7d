import ChatBoard.Proofs.Board.Run

/-!
# Unread messages over a run

`lastPoll` looks back over a run for the latest poll of a channel by a user, up to the latest reset,
and gives the store that the poll met and the list that it returned. `Agrees` relates this to the
mark in the store: without a poll there is none, or it stands at 0, and otherwise it stands at the
newest message returned, while the messages follow those that the poll met. Every call keeps this
(`agrees_cons`), so it holds after every run (`agrees_run`).

What a mark at the newest message returned leaves unread is then what was not there at the poll
(`Agrees.countP_eq`). An old message of the channel is not above the mark, however many of them the
poll left out, since a poll takes the newest ones. A new message has an id above the counter of the
table that the poll met. The exception is a poll that returned nothing: it sets the mark to 0, and
everything becomes unread.
-/

namespace ChatBoard

open Messages (newestId)

/-- The store that a poll met and the messages that it returned. -/
structure Seen where
  store : Store
  returned : List AuthoredMessage

/-- What the latest poll of a channel by a user met and returned, unless there was none since the
board was last reset. -/
def lastPoll (now : String) (user channel : Int) : List Call → Option Seen
  | [] => none
  | call :: earlier =>
    let s := storeAfter now earlier
    match call.effect s with
    | .reset => none
    | .poll user' channel' after =>
      if user' = user ∧ channel' = channel then some ⟨s, s.polled channel after⟩
      else lastPoll now user channel earlier
    | _ => lastPoll now user channel earlier

/-- The number of a channel's messages that a user has not read, given the latest poll: those that
were not there when the poll was made, or all if there was no poll or it returned nothing. -/
def unreadSince (channel : Int) (s : Store) : Option Seen → Nat
  | none => (s.inChannel channel).length
  | some poll =>
    if poll.returned.isEmpty then (s.inChannel channel).length
    else s.arrivals channel poll.store

/-- The mark in a store is that of the latest poll. -/
def Agrees (user channel : Int) (s : Store) : Option Seen → Prop
  | none => s.readUpTo user channel = 0
  | some poll =>
    s.readUpTo user channel = newestId poll.returned ∧ poll.store.Sound ∧ s.Follows poll.store
      ∧ ∃ after, poll.returned = poll.store.polled channel after

variable {now : String} {user channel : Int}

/-- An effect that sets no mark keeps the agreement. -/
theorem Agrees.apply {s : Store} {poll : Option Seen} (h : Agrees user channel s poll)
    (hs : s.Sound) (clock : String) {effect : Effect} (hreset : effect ≠ .reset)
    (hpoll : ∀ after, effect ≠ .poll user channel after) :
    Agrees user channel (effect.apply clock s) poll := by
  have hmark := Effect.readUpTo_apply hs clock hreset hpoll
  cases poll with
  | none => exact hmark.trans h
  | some poll =>
    obtain ⟨hread, hsound, hfollows, hreturned⟩ := h
    exact ⟨hmark.trans hread, hsound, (Effect.follows_apply hs clock effect).trans hfollows,
      hreturned⟩

/-- A call keeps the agreement. -/
theorem agrees_cons (call : Call) {earlier : List Call}
    (ih : Agrees user channel (storeAfter now earlier) (lastPoll now user channel earlier)) :
    Agrees user channel (storeAfter now (call :: earlier))
      (lastPoll now user channel (call :: earlier)) := by
  have hs := storeAfter_sound now earlier
  rw [storeAfter_cons]
  unfold lastPoll
  dsimp only
  split
  next heffect =>
    -- The reset removes the marks and ends the look back.
    rw [heffect]
    exact Effect.readUpTo_reset hs _ user channel
  next user' channel' after heffect =>
    rw [heffect]
    split
    next hsame =>
      obtain ⟨rfl, rfl⟩ := hsame
      exact ⟨Effect.readUpTo_poll hs _ user' channel' after, hs, Effect.follows_apply hs _ _,
        after, rfl⟩
    next hother =>
      -- The poll of another user or channel sets another mark.
      refine ih.apply hs _ Effect.noConfusion fun after' heq => hother ?_
      cases heq
      exact ⟨rfl, rfl⟩
  next hreset hpoll =>
    exact ih.apply hs _ hreset fun after => hpoll user channel after

/-- After every run the mark is that of the latest poll. -/
theorem agrees_run (now : String) (user channel : Int) (run : List Call) :
    Agrees user channel (storeAfter now run) (lastPoll now user channel run) := by
  induction run with
  | nil => rfl
  | cons call earlier ih => exact agrees_cons call ih

/-- What lies above the mark of the latest poll is what was not there when it was made. -/
theorem Agrees.countP_eq {s : Store} {poll : Option Seen} (h : Agrees user channel s poll)
    (hs : s.Sound) :
    ((s.inChannel channel).countP fun e => decide (s.readUpTo user channel < e.id))
      = unreadSince channel s poll := by
  have hall : ((s.inChannel channel).countP fun e => decide ((0 : Int) < e.id))
      = (s.inChannel channel).length :=
    List.countP_eq_length.2 fun e he => decide_eq_true (hs.readable_inChannel he).2
  cases poll with
  | none =>
    unfold Agrees at h
    rw [h]
    exact hall
  | some poll =>
    obtain ⟨hread, hsound, hfollows, after, hreturned⟩ := h
    dsimp only [unreadSince]
    rw [hread]
    split
    next hempty =>
      rw [List.isEmpty_iff.1 hempty]
      exact hall
    next hfull =>
      have hne : poll.returned ≠ [] := fun hnil => hfull (List.isEmpty_iff.2 hnil)
      refine List.countP_congr fun e he => ?_
      rw [decide_eq_true_iff, decide_eq_true_iff]
      rw [hreturned] at hne ⊢
      constructor
      · -- What the channel held at the poll is not above the newest message returned.
        intro hlt hold
        have := hsound.le_newest_polled hne hold
        omega
      · -- A message that came later is above all that the channel held, so above the newest.
        intro hnew
        have hmem := Messages.newestId_mem hne
        rw [hsound.polled_ids] at hmem
        obtain ⟨x, hx, hid⟩ := List.mem_map.1 hmem
        rw [← hid]
        exact hfollows.lt_of_new he hnew (Store.mem_pending hx).1

/-- After every run the numbers of unread messages have one entry for each channel, by ascending
ids, the same channels that are listed. The number for a channel is that of the messages that came
after the user's latest poll, or of all messages if there was none since the last reset or it
returned nothing. -/
theorem unreadCounts_run (now : String) (run : List Call) (user : Int) :
    ∃ t channels counts, (storeAfter now run).channels = some t
      ∧ (storeAfter now run).listChannels none = .ok (channels, "")
      ∧ (storeAfter now run).unreadCounts user = .ok counts
      ∧ counts.map (·.channelId) = t.entries.reverse.map (·.id)
      ∧ counts.map (·.channelId) = channels.map (·.id)
      ∧ (counts.map (·.channelId)).Pairwise (· < ·)
      ∧ ∀ n ∈ counts, n.unread
          = unreadSince n.channelId (storeAfter now run) (lastPoll now user n.channelId run) := by
  have hs := storeAfter_sound now run
  obtain ⟨t, ht, -⟩ := hs.channels
  obtain ⟨channels, hchannels, hids⟩ := hs.listChannels_ok ht
  have hcounts := hs.unreadCounts_eq ht user
  generalize hlist : t.entries.reverse.map (·.id) = ids at hcounts hids
  have hsame : (ids.map fun c => (⟨c, ((storeAfter now run).inChannel c).countP fun e =>
      decide ((storeAfter now run).readUpTo user c < e.id)⟩ : UnreadCount)).map (·.channelId)
        = ids := by
    rw [List.map_map]
    exact List.map_id ids
  refine ⟨t, channels, _, ht, hchannels, hcounts, ?_, ?_, ?_, ?_⟩
  · rw [hsame, hlist]
  · rw [hsame, hids]
  · rw [hsame, ← hlist, List.map_reverse, List.pairwise_reverse, List.pairwise_map]
    exact t.descending
  · intro n hn
    obtain ⟨c, -, rfl⟩ := List.mem_map.1 hn
    exact congrArg _ ((agrees_run now user c run).countP_eq hs)

end ChatBoard
