import ChatBoard.Proofs.Board.Run
import ChatBoard.Proofs.Messages.Shown

/-!
# A client that follows a channel

A client follows a channel by polling it again and again, each time for what is above the largest id
that it has received. Between its polls others do what they like. `watch` is the state after such a
run: the store, the batches received, and the store that the latest poll met.

A batch lies above everything received before it and ascends itself, so what has been received
ascends (`Watch.ascending_received`), also across a reset. If nothing is removed and at most a
hundred messages arrive between two polls, nothing is missed. The invariant is that the client has
received all that the channel held at its latest poll (`CaughtUp`). At the next poll the store
extends the one that was met then, so the channel's messages are the new ones before the old ones.
The old ones are not above the client's id and the new ones are, and as they are at most a hundred,
the poll returns just these (`CaughtUp.pending_eq`).
-/

namespace ChatBoard

/-- A turn of a run in which one client follows a channel. -/
inductive Turn where
  | other (call : Call)
  | client (call : Call)

/-- The call of a turn. -/
def Turn.call : Turn → Call
  | .other call => call
  | .client call => call

/-- The store, the one that the client's latest poll met, or at first the fresh one, and the
batches that the client has received, the latest first. -/
structure Watch where
  store : Store
  met : Store
  batches : List (List PostedMessage)

namespace Watch

/-- All that the client has received, in the order in which it came. -/
def received (w : Watch) : List PostedMessage := w.batches.reverse.flatten

/-- The id that the client sends with its next poll: the largest that it has received, at first
0. -/
def cursor (w : Watch) : Int := (w.received.map (·.id)).max?.getD 0

/-- The batch that a turn brings the client: the answer to its own poll of the channel above its
id. -/
def batch? (channel : Int) (w : Watch) : Turn → Option (List PostedMessage)
  | .other _ => none
  | .client call =>
    match call.effect w.store with
    | .poll _ channel' after =>
      if channel' = channel ∧ after = w.cursor ∧ call.request.method = .get then
        some (chronological (w.store.polled channel after))
      else none
    | _ => none

/-- Takes a turn. -/
def next (channel : Int) (w : Watch) (turn : Turn) : Watch :=
  let s := (serve turn.call.setting turn.call.request w.store).2
  match w.batch? channel turn with
  | some batch => ⟨s, w.store, batch :: w.batches⟩
  | none => ⟨s, w.met, w.batches⟩

end Watch

/-- The state after turns, the latest first, on a board that was opened at a time. -/
def watch (now : String) (channel : Int) : List Turn → Watch
  | [] => ⟨.fresh now, .fresh now, []⟩
  | turn :: earlier => (watch now channel earlier).next channel turn

/-- The state after one more turn. -/
theorem watch_cons (now : String) (channel : Int) (turn : Turn) (earlier : List Turn) :
    watch now channel (turn :: earlier) = (watch now channel earlier).next channel turn := rfl

/-- Turns without a reset in which at most a hundred messages of the channel come before the
client's first poll and between any two of its polls. -/
def Steady (now : String) (channel : Int) : List Turn → Prop
  | [] => True
  | turn :: earlier =>
    Steady now channel earlier
      ∧ turn.call.effect (watch now channel earlier).store ≠ .reset
      ∧ (((watch now channel earlier).batch? channel turn).isSome →
          (watch now channel earlier).store.arrivals channel (watch now channel earlier).met ≤ 100)

/-- Whether turns are steady can be found out turn by turn. -/
instance decidableSteady (now : String) (channel : Int) :
    (turns : List Turn) → Decidable (Steady now channel turns)
  | [] => inferInstanceAs (Decidable True)
  | turn :: earlier =>
    have := decidableSteady now channel earlier
    inferInstanceAs (Decidable (Steady now channel earlier
      ∧ turn.call.effect (watch now channel earlier).store ≠ .reset
      ∧ (((watch now channel earlier).batch? channel turn).isSome →
          (watch now channel earlier).store.arrivals channel (watch now channel earlier).met
            ≤ 100)))

namespace Watch

variable {channel : Int} {w : Watch} {turn : Turn} {batch : List PostedMessage}

/-- The store after a turn is the one that the turn's effect makes. -/
theorem next_store (channel : Int) (w : Watch) (turn : Turn) :
    (w.next channel turn).store
      = (turn.call.effect w.store).apply turn.call.setting.clock w.store := by
  unfold next
  dsimp only
  split <;> exact serve_store turn.call.setting turn.call.request w.store

/-- A batch is received after all others. -/
theorem received_cons (s met : Store) (batch : List PostedMessage)
    (batches : List (List PostedMessage)) :
    received ⟨s, met, batch :: batches⟩ = batches.reverse.flatten ++ batch := by
  unfold received
  rw [List.reverse_cons, List.flatten_append, List.flatten_singleton]

/-- A turn that brings a batch adds it to what has been received. -/
theorem received_next (h : w.batch? channel turn = some batch) :
    (w.next channel turn).received = w.received ++ batch := by
  unfold next
  rw [h]
  exact received_cons _ _ _ _

/-- A turn that brings no batch leaves what has been received. -/
theorem received_next_none (h : w.batch? channel turn = none) :
    (w.next channel turn).received = w.received := by
  unfold next
  rw [h]
  rfl

/-- A turn that brings a batch is the client's latest poll. -/
theorem met_next (h : w.batch? channel turn = some batch) :
    (w.next channel turn).met = w.store := by
  unfold next
  rw [h]

/-- A turn that brings no batch leaves the client's latest poll. -/
theorem met_next_none (h : w.batch? channel turn = none) :
    (w.next channel turn).met = w.met := by
  unfold next
  rw [h]

/-- A turn that brings a batch is a poll of the channel above the client's id. -/
theorem of_batch (h : w.batch? channel turn = some batch) :
    ∃ user, turn.call.effect w.store = .poll user channel w.cursor
      ∧ turn.call.request.method = .get
      ∧ batch = chronological (w.store.polled channel w.cursor) := by
  unfold batch? at h
  split at h
  · cases h
  next call =>
    split at h
    next user channel' after heffect =>
      split at h
      next hsame =>
        obtain ⟨rfl, rfl, hget⟩ := hsame
        cases h
        exact ⟨user, heffect, hget, rfl⟩
      · cases h
    · cases h

/-- What has been received is not above the client's id. -/
theorem le_cursor {m : PostedMessage} (h : m ∈ w.received) : m.id ≤ w.cursor :=
  le_largest (List.mem_map.2 ⟨m, h, rfl⟩)

/-- The client's id is 0 or that of a message received. -/
theorem cursor_eq (w : Watch) : w.cursor = 0 ∨ w.cursor ∈ w.received.map (·.id) := by
  by_cases hnil : w.received.map (·.id) = []
  · left
    unfold cursor
    rw [hnil]
    rfl
  · exact .inr (largest_mem hnil)

end Watch

/-! ## Batches -/

/-- A poll of a sound store brings the pending entries, oldest first. -/
theorem Store.Sound.shows_polled {s : Store} (h : s.Sound) (channel after : Int) :
    Shows (s.pending channel after).reverse (chronological (s.polled channel after)) := by
  obtain ⟨-, users, -, hmap⟩ := h.polled_ok channel after
  exact shows_chronological hmap

/-- What a poll of a sound store brings ascends and lies above the id that it names. -/
theorem Store.Sound.ascending_polled {s : Store} (h : s.Sound) (channel after : Int) :
    ((chronological (s.polled channel after)).map (·.id)).Pairwise (· < ·)
      ∧ ∀ m ∈ chronological (s.polled channel after), after < m.id := by
  have hids := (h.shows_polled channel after).ids
  constructor
  · rw [hids, List.map_reverse, List.pairwise_reverse, List.pairwise_map]
    exact s.pending_descending channel after
  · intro m hm
    have hmem : m.id ∈ (chronological (s.polled channel after)).map (·.id) :=
      List.mem_map.2 ⟨m, hm, rfl⟩
    rw [hids] at hmem
    obtain ⟨e, he, hid⟩ := List.mem_map.1 hmem
    rw [← hid]
    exact (Store.mem_pending (List.mem_reverse.1 he)).2

variable {now : String} {channel : Int}

/-- The store is sound after every run. -/
theorem watch_sound (now : String) (channel : Int) (turns : List Turn) :
    (watch now channel turns).store.Sound := by
  induction turns with
  | nil => exact Store.sound_fresh now
  | cons turn earlier ih =>
    rw [watch_cons, Watch.next_store]
    exact Effect.sound_apply ih _ _

/-- What the client has received ascends. -/
theorem ascending_received (now : String) (channel : Int) (turns : List Turn) :
    ((watch now channel turns).received.map (·.id)).Pairwise (· < ·) := by
  induction turns with
  | nil => exact .nil
  | cons turn earlier ih =>
    rw [watch_cons]
    have hs := watch_sound now channel earlier
    generalize watch now channel earlier = w at ih hs
    cases hbatch : w.batch? channel turn with
    | none => rwa [Watch.received_next_none hbatch]
    | some batch =>
      obtain ⟨-, -, -, rfl⟩ := Watch.of_batch hbatch
      obtain ⟨hascending, habove⟩ := hs.ascending_polled channel w.cursor
      rw [Watch.received_next hbatch, List.map_append, List.pairwise_append]
      refine ⟨ih, hascending, fun i hi j hj => ?_⟩
      -- The client's id lies between what was received and the batch.
      obtain ⟨m, hm, rfl⟩ := List.mem_map.1 hi
      obtain ⟨m', hm', rfl⟩ := List.mem_map.1 hj
      have := Watch.le_cursor hm
      have := habove m' hm'
      omega

/-! ## Nothing is missed -/

/-- The client has received all that the channel held at its latest poll, and since then messages
were only added. -/
structure CaughtUp (channel : Int) (w : Watch) : Prop where
  /-- What has been received are the messages that the latest poll met. -/
  received : Shows (w.met.inChannel channel).reverse w.received
  /-- The store has come from the one that was met by insertions. -/
  extends_met : w.store.Extends w.met

/-- When at most a hundred messages have come, a poll finds just these, and with those that the
client has received they are all messages of the channel. -/
theorem CaughtUp.pending_eq {w : Watch} (h : CaughtUp channel w) (hs : w.store.Sound)
    (hmet : w.store.arrivals channel w.met ≤ 100) :
    w.store.inChannel channel
      = w.store.pending channel w.cursor ++ w.met.inChannel channel := by
  obtain ⟨new, hnew, habove⟩ := h.extends_met.inChannel channel
  have hids := h.received.ids
  -- The messages that have come are the new ones, so these are at most a hundred.
  have hlen : new.length ≤ 100 := by
    unfold Store.arrivals at hmet
    rw [hnew, List.countP_append] at hmet
    have hall : (new.countP fun e => decide (e ∉ w.met.inChannel channel)) = new.length := by
      refine List.countP_eq_length.2 fun e he => decide_eq_true fun hold => ?_
      exact absurd (habove e he e hold) (Int.lt_irrefl _)
    omega
  -- The old messages are not above the client's id.
  have hold : (w.met.inChannel channel).filter (fun e => decide (w.cursor < e.id)) = [] := by
    refine List.filter_eq_nil_iff.2 fun e he hlt => ?_
    have hmem : e.id ∈ w.received.map (·.id) := by
      rw [hids]
      exact List.mem_map.2 ⟨e, List.mem_reverse.2 he, rfl⟩
    obtain ⟨m, hm, hid⟩ := List.mem_map.1 hmem
    have := Watch.le_cursor hm
    have := of_decide_eq_true hlt
    omega
  -- The new ones are.
  have hfresh : new.filter (fun e => decide (w.cursor < e.id)) = new := by
    refine List.filter_eq_self.2 fun e he => decide_eq_true ?_
    rcases w.cursor_eq with hzero | hmem
    · have hin : e ∈ w.store.inChannel channel := by
        rw [hnew]
        exact List.mem_append_left _ he
      have := (hs.readable_inChannel hin).2
      omega
    · rw [hids] at hmem
      obtain ⟨x, hx, hid⟩ := List.mem_map.1 hmem
      have := habove e he x (List.mem_reverse.1 hx)
      omega
  unfold Store.pending
  rw [hnew, List.filter_append, hold, hfresh, List.append_nil, List.take_of_length_le hlen]

/-- A turn keeps the client caught up unless it is a reset or more than a hundred messages have
come. -/
theorem CaughtUp.next {w : Watch} (h : CaughtUp channel w) (hs : w.store.Sound) {turn : Turn}
    (hreset : turn.call.effect w.store ≠ .reset)
    (hmet : (w.batch? channel turn).isSome → w.store.arrivals channel w.met ≤ 100) :
    CaughtUp channel (w.next channel turn) := by
  have hextends := Effect.extends_apply hs turn.call.setting.clock hreset
  rw [← Watch.next_store channel] at hextends
  cases hbatch : w.batch? channel turn with
  | none =>
    refine ⟨?_, ?_⟩
    · rw [Watch.received_next_none hbatch, Watch.met_next_none hbatch]
      exact h.received
    · rw [Watch.met_next_none hbatch]
      exact hextends.trans h.extends_met
  | some batch =>
    obtain ⟨-, -, -, rfl⟩ := Watch.of_batch hbatch
    -- The batch shows the new messages, and what was received before shows the old ones.
    refine ⟨?_, ?_⟩
    · rw [Watch.received_next hbatch, Watch.met_next hbatch,
        h.pending_eq hs (hmet (by rw [hbatch]; rfl)), List.reverse_append]
      exact h.received.append (hs.shows_polled channel w.cursor)
    · rw [Watch.met_next hbatch]
      exact hextends

/-- Through steady turns the client stays caught up. -/
theorem caughtUp_of_steady {turns : List Turn} (h : Steady now channel turns) :
    CaughtUp channel (watch now channel turns) := by
  induction turns with
  | nil => exact ⟨.nil, (Store.sound_fresh now).extends_refl⟩
  | cons turn earlier ih =>
    obtain ⟨hearlier, hreset, hmet⟩ := h
    exact (ih hearlier).next (watch_sound now channel earlier) hreset hmet

/-- A poll leaves the messages of every channel. -/
theorem Effect.inChannel_poll {s : Store} (h : s.Sound) (clock : String)
    (user channel after channel' : Int) :
    ((Effect.poll user channel after).apply clock s).inChannel channel' = s.inChannel channel' := by
  obtain ⟨ms, hms, -⟩ := h.marks
  rw [Effect.apply_poll h hms]
  rfl

/-- A client that follows a channel receives messages in ascending order. The answer to each of its
polls is the newest hundred of the channel's messages above its id, oldest first. Through steady
turns it has, after each of its polls, received all messages of the channel. -/
theorem following_channel (now : String) (channel : Int) (turns : List Turn) :
    ((watch now channel turns).received.map (·.id)).Pairwise (· < ·)
      ∧ ∀ turn batch, (watch now channel turns).batch? channel turn = some batch →
        (serve turn.call.setting turn.call.request (watch now channel turns).store).1
            = .json (Json.writeList (batch.map PostedMessage.write))
          ∧ Shows ((((watch now channel turns).store.inChannel channel).filter
              fun e => decide ((watch now channel turns).cursor < e.id)).take 100).reverse batch
          ∧ (watch now channel (turn :: turns)).received
              = (watch now channel turns).received ++ batch
          ∧ (Steady now channel (turn :: turns) →
              Shows ((watch now channel (turn :: turns)).store.inChannel channel).reverse
                (watch now channel (turn :: turns)).received) := by
  refine ⟨ascending_received now channel turns, fun turn batch hbatch => ?_⟩
  have hs := watch_sound now channel turns
  obtain ⟨user, heffect, hget, hbatch'⟩ := Watch.of_batch hbatch
  refine ⟨?_, ?_, Watch.received_next hbatch, fun hsteady => ?_⟩
  · rw [serve_poll hs heffect, if_neg (by rw [hget]; exact Method.noConfusion), hbatch']
    rfl
  · rw [hbatch']
    exact hs.shows_polled channel _
  · -- The poll itself leaves the messages, so what it met is what the channel holds after it.
    have hcaught := (caughtUp_of_steady hsteady).received
    have hstore : ((watch now channel turns).next channel turn).store.inChannel channel
        = (watch now channel turns).store.inChannel channel := by
      rw [Watch.next_store, heffect]
      exact Effect.inChannel_poll hs _ user channel _ channel
    rw [watch_cons] at hcaught ⊢
    rw [hstore]
    rwa [Watch.met_next hbatch] at hcaught

/-! ## Two polls -/

namespace Sample

/-- Polls for what is above the second message. -/
def pollsOn : Call := call .get "/message" "channel_id=1&last_message_id=2" ""

/-- Two messages are posted, the client polls, and a third message is posted. -/
def follows : List Turn :=
  [.other posts, .client polls, .other posts, .other posts, .other signsUp]

end Sample

/-- A client that polls, and again after another message has been posted, receives two batches and
has then received all. -/
theorem following_channel_sample :
    Steady Sample.opened 1 (.client Sample.pollsOn :: Sample.follows)
      ∧ (watch Sample.opened 1 (.client Sample.pollsOn :: Sample.follows)).batches.map
          (fun batch => batch.map (·.id)) = [[3], [1, 2]]
      ∧ Shows ((watch Sample.opened 1
          (.client Sample.pollsOn :: Sample.follows)).store.inChannel 1).reverse
        (watch Sample.opened 1 (.client Sample.pollsOn :: Sample.follows)).received := by
  have hrun : Steady Sample.opened 1 (.client Sample.pollsOn :: Sample.follows)
      ∧ (watch Sample.opened 1 Sample.follows).batch? 1 (.client Sample.pollsOn)
        = some [⟨3, ⟨"alice", "alice", "default.png"⟩, "2024/03/05 09:08:07", "hi"⟩]
      ∧ (watch Sample.opened 1 (.client Sample.pollsOn :: Sample.follows)).batches.map
          (fun batch => batch.map (·.id)) = [[3], [1, 2]] := by
    decide +kernel
  obtain ⟨hsteady, hbatch, hbatches⟩ := hrun
  have hshown := ((following_channel Sample.opened 1 Sample.follows).2 (.client Sample.pollsOn) _
    hbatch).2.2.2 hsteady
  exact ⟨hsteady, hbatches, hshown⟩

end ChatBoard
