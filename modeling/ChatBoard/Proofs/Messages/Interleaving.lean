import ChatBoard.Proofs.Board.Frame

/-!
# Polls that overlap

A poll is two calls of the store: it reads messages, and later it sets a mark to the newest of them.
Between the two anything may happen: posts, other polls of the same user whose marks land in any
order, a reset that removes the mark. Here every call is a step of its own. A `Desk` is the store
with the polls that have read and not yet set their marks, and with everything that has been
returned so far. `deskAfter` takes steps in any order.

The invariant (`Desk.Sound`) is that a mark stands at 0 or at an id that was returned to its user
for its channel, and that the same holds of the marks still to be set. What lies above every id
returned therefore lies above the mark and is counted as unread (`unreadCounts_desk`). Moreover the
messages follow those that an unfinished poll read, so a message that came after the reading lies
above the mark that the poll will set. When no step comes between the two of a poll, they do what
the poll does as a whole (`read_mark`).
-/

namespace ChatBoard

open Messages (newestId)

/-- A poll that has read and not yet set its mark: for whom, of which channel, the id for the mark,
and the store that it read. -/
structure Unfinished where
  user : Int
  channel : Int
  newest : Int
  read : Store

/-- An id that a poll returned, to whom and for which channel. -/
structure Returned where
  user : Int
  channel : Int
  id : Int
  deriving DecidableEq

/-- The store, the unfinished polls, and all ids that polls have returned. -/
structure Desk where
  store : Store
  unfinished : List Unfinished
  returned : List Returned

/-- Whether an effect is a poll. -/
def Effect.isPoll : Effect → Bool
  | .poll .. => true
  | _ => false

/-- One call of the store. -/
inductive Step where
  /-- A poll reads the messages of a channel above an id. -/
  | read (user channel after : Int)
  /-- The unfinished poll at a place sets its mark. -/
  | mark (place : Nat)
  /-- Any call that belongs to no poll. An upload that changes both avatar and display name makes
  two such calls, each an upload of its own; a call that only asks does nothing. -/
  | other (effect : Effect) (single : effect.isPoll = false)

namespace Desk

/-- Takes a step at a time. -/
def next (now : String) (d : Desk) : Step → Desk
  | .read user channel after =>
    match d.store.messagesAfter channel after Messages.pollLimit with
    | .error _ => d
    | .ok ms =>
      { d with
        unfinished := ⟨user, channel, newestId ms, d.store⟩ :: d.unfinished
        returned := ms.map (fun m => ⟨user, channel, m.id⟩) ++ d.returned }
  | .mark place =>
    match d.unfinished[place]? with
    | none => d
    | some poll =>
      match d.store.markRead now poll.user poll.channel poll.newest with
      | .error _ => { d with unfinished := d.unfinished.eraseIdx place }
      | .ok s => { d with store := s, unfinished := d.unfinished.eraseIdx place }
  | .other effect _ => { d with store := effect.apply now d.store }

/-- An id was returned to a user for a channel, or it is 0. -/
def Known (d : Desk) (user channel id : Int) : Prop := id = 0 ∨ ⟨user, channel, id⟩ ∈ d.returned

/-- Whether an entry lies above every id that was returned to a user for a channel. -/
def isNew (d : Desk) (user channel : Int) (e : Entry (Stored Message)) : Bool :=
  decide (∀ r ∈ d.returned, r.user = user → r.channel = channel → r.id < e.id)

/-- What holds of an unfinished poll at a desk. -/
structure Tracks (d : Desk) (poll : Unfinished) : Prop where
  /-- Its mark will stand at an id that was returned. -/
  known : d.Known poll.user poll.channel poll.newest
  /-- Its mark is the newest of what it read. -/
  newest : ∃ after, poll.newest = newestId (poll.read.polled poll.channel after)
  /-- It read a sound store. -/
  read : poll.read.Sound
  /-- The messages follow those that it read. -/
  follows : d.store.Follows poll.read

/-- The invariant of the steps. -/
structure Sound (d : Desk) : Prop where
  /-- The store is sound. -/
  store : d.store.Sound
  /-- Every mark stands at an id that was returned. -/
  known : ∀ user channel, d.Known user channel (d.store.readUpTo user channel)
  /-- Every unfinished poll is accounted for. -/
  tracks : ∀ poll ∈ d.unfinished, d.Tracks poll

variable {d : Desk}

/-- What is known stays known when more is returned. -/
theorem Known.mono {d' : Desk} {user channel id : Int} (h : d.Known user channel id)
    (hsub : ∀ r ∈ d.returned, r ∈ d'.returned) : d'.Known user channel id := by
  rcases h with hzero | hmem
  · exact .inl hzero
  · exact .inr (hsub _ hmem)

/-- An unfinished poll stays accounted for when messages follow and more is returned. -/
theorem Tracks.mono {d' : Desk} {poll : Unfinished} (h : d.Tracks poll)
    (hfollows : d'.store.Follows d.store) (hsub : ∀ r ∈ d.returned, r ∈ d'.returned) :
    d'.Tracks poll :=
  ⟨h.known.mono hsub, h.newest, h.read, hfollows.trans h.follows⟩

/-- Reading keeps the invariant. -/
theorem Sound.read (h : d.Sound) (now : String) (user channel after : Int) :
    (d.next now (.read user channel after)).Sound := by
  unfold next
  dsimp only
  rw [(h.store.polled_ok channel after).1]
  dsimp only
  have hsub : ∀ r ∈ d.returned,
      r ∈ (d.store.polled channel after).map (fun m => (⟨user, channel, m.id⟩ : Returned))
        ++ d.returned := fun r hr => List.mem_append_right _ hr
  refine ⟨h.store, fun user' channel' => (h.known user' channel').mono hsub, fun poll hpoll => ?_⟩
  rcases List.mem_cons.1 hpoll with rfl | hpoll
  · refine ⟨?_, ⟨after, rfl⟩, h.store, h.store.follows_refl⟩
    -- The new mark is the newest of what has just been returned, or 0.
    by_cases hnil : d.store.polled channel after = []
    · exact .inl (by rw [hnil]; rfl)
    · obtain ⟨m, hm, hid⟩ := List.mem_map.1 (Messages.newestId_mem hnil)
      refine .inr (List.mem_append_left _ (List.mem_map.2 ⟨m, hm, ?_⟩))
      rw [hid]
  · exact (h.tracks poll hpoll).mono h.store.follows_refl hsub

/-- The desk after an unfinished poll has set its mark. -/
theorem Sound.mark_ok (h : d.Sound) (now : String) {place : Nat} {poll : Unfinished}
    (hpoll : d.unfinished[place]? = some poll) :
    ∃ ms : ReadMarks, d.next now (.mark place)
        = ⟨{ d.store with marks := some ms }, d.unfinished.eraseIdx place, d.returned⟩
      ∧ ({ d.store with marks := some ms } : Store).Sound
      ∧ ms.upTo poll.user poll.channel = poll.newest
      ∧ ∀ user channel, ¬ (user = poll.user ∧ channel = poll.channel) →
          ms.upTo user channel = d.store.readUpTo user channel := by
  obtain ⟨ms, hms, hself, hother⟩ :=
    h.store.markRead_ok now poll.user poll.channel poll.newest
  refine ⟨ms, ?_, h.store.markRead hms, hself, hother⟩
  unfold next
  dsimp only
  rw [hpoll]
  dsimp only
  rw [hms]

/-- Setting a mark keeps the invariant. -/
theorem Sound.mark (h : d.Sound) (now : String) (place : Nat) :
    (d.next now (.mark place)).Sound := by
  cases hpoll : d.unfinished[place]? with
  | none =>
    unfold next
    dsimp only
    rw [hpoll]
    exact h
  | some poll =>
    obtain ⟨ms, hnext, hsound, hself, hother⟩ := h.mark_ok now hpoll
    rw [hnext]
    refine ⟨hsound, fun user channel => ?_, fun other hmem => ?_⟩
    · show d.Known user channel (ms.upTo user channel)
      by_cases hsame : user = poll.user ∧ channel = poll.channel
      · obtain ⟨rfl, rfl⟩ := hsame
        rw [hself]
        exact (h.tracks poll (List.mem_of_getElem? hpoll)).known
      · rw [hother user channel hsame]
        exact h.known user channel
    · obtain ⟨hknown, hnewest, hread, hfollows⟩ := h.tracks other (List.mem_of_mem_eraseIdx hmem)
      exact ⟨hknown, hnewest, hread, hfollows⟩

/-- Any other call keeps the invariant. -/
theorem Sound.other (h : d.Sound) (now : String) {effect : Effect}
    (single : effect.isPoll = false) : (d.next now (.other effect single)).Sound := by
  have hfollows := Effect.follows_apply h.store now effect
  refine ⟨Effect.sound_apply h.store now effect, fun user channel => ?_,
    fun poll hpoll => (h.tracks poll hpoll).mono hfollows fun _ hr => hr⟩
  -- The reset removes the marks, and no other call than a poll sets one.
  by_cases hreset : effect = .reset
  · subst hreset
    exact .inl (Effect.readUpTo_reset h.store now user channel)
  · have hpoll : ∀ after, effect ≠ .poll user channel after := fun after heq => by
      rw [heq] at single
      cases single
    have hsame := Effect.readUpTo_apply h.store now hreset hpoll
    show d.Known user channel ((effect.apply now d.store).readUpTo user channel)
    rw [hsame]
    exact h.known user channel

/-- Every step keeps the invariant. -/
theorem Sound.next (h : d.Sound) (now : String) (step : Step) : (d.next now step).Sound := by
  cases step with
  | read user channel after => exact h.read now user channel after
  | mark place => exact h.mark now place
  | other effect single => exact h.other now single

end Desk

/-- The desk after steps, the latest first, each with its time, on a board opened at a time. -/
def deskAfter (now : String) : List (String × Step) → Desk
  | [] => ⟨.fresh now, [], []⟩
  | (clock, step) :: earlier => (deskAfter now earlier).next clock step

/-- The invariant holds after any steps. -/
theorem deskAfter_sound (now : String) (steps : List (String × Step)) :
    (deskAfter now steps).Sound := by
  induction steps with
  | nil =>
    exact ⟨Store.sound_fresh now, fun _ _ => .inl rfl, fun _ hp => absurd hp List.not_mem_nil⟩
  | cons head earlier ih => exact ih.next head.1 head.2

/-- A poll whose two steps follow each other does what a poll does as a whole. -/
theorem read_mark {d : Desk} (h : d.store.Sound) (now : String) (user channel after : Int) :
    ((d.next now (.read user channel after)).next now (.mark 0)).store
      = (Effect.poll user channel after).apply now d.store := by
  obtain ⟨ms, hms, -⟩ := h.marks
  rw [Effect.apply_poll h hms]
  unfold Desk.next
  dsimp only
  rw [(h.polled_ok channel after).1]
  dsimp only [List.getElem?_cons_zero]
  unfold Store.markRead
  rw [hms]
  rfl

/-- What lies above every id that was returned is counted as unread. -/
theorem Desk.Sound.countP_isNew_le {d : Desk} (h : d.Sound) (user channel : Int) :
    (d.store.inChannel channel).countP (d.isNew user channel)
      ≤ (d.store.inChannel channel).countP
          fun e => decide (d.store.readUpTo user channel < e.id) := by
  refine List.countP_mono_left fun e he hnew => decide_eq_true ?_
  -- The mark stands at 0, below all ids, or at an id that was returned.
  rcases h.known user channel with hzero | hmem
  · rw [hzero]
    exact (h.store.readable_inChannel he).2
  · exact of_decide_eq_true hnew _ hmem rfl rfl

/-- What came after an unfinished poll read lies above its mark. -/
theorem Desk.Tracks.countP_new_le {d : Desk} {poll : Unfinished} (h : d.Tracks poll)
    (hs : d.store.Sound) :
    d.store.arrivals poll.channel poll.read
      ≤ (d.store.inChannel poll.channel).countP fun e => decide (poll.newest < e.id) := by
  obtain ⟨after, hnewest⟩ := h.newest
  refine List.countP_mono_left fun e he hnew => decide_eq_true ?_
  rw [hnewest]
  -- The mark will stand at 0 or at a message that was there when the poll read.
  rcases h.read.newest_polled poll.channel after with hzero | ⟨x, hx, hid⟩
  · rw [hzero]
    exact (hs.readable_inChannel he).2
  · rw [← hid]
    exact h.follows.lt_of_new he (of_decide_eq_true hnew) hx

/-- However polls overlap with each other and with everything else, the unread messages of a user
are counted for every channel, and no count is below the number of messages above every id that was
returned to the user for that channel. When a poll has set its mark, what came after it read is
counted as unread. -/
theorem unreadCounts_desk (now : String) (steps : List (String × Step)) (user : Int) :
    ∃ t counts, (deskAfter now steps).store.channels = some t
      ∧ (deskAfter now steps).store.unreadCounts user = .ok counts
      ∧ counts.map (·.channelId) = t.entries.reverse.map (·.id)
      ∧ (∀ n ∈ counts,
          ((deskAfter now steps).store.inChannel n.channelId).countP
            ((deskAfter now steps).isNew user n.channelId) ≤ n.unread)
      ∧ ∀ clock place poll, (deskAfter now steps).unfinished[place]? = some poll →
          poll.user = user → ∃ counts',
            ((deskAfter now steps).next clock (.mark place)).store.unreadCounts user = .ok counts'
            ∧ ∀ n ∈ counts', n.channelId = poll.channel →
              (deskAfter now steps).store.arrivals poll.channel poll.read ≤ n.unread := by
  have hd := deskAfter_sound now steps
  generalize deskAfter now steps = d at hd
  obtain ⟨t, ht, -⟩ := hd.store.channels
  refine ⟨t, _, ht, hd.store.unreadCounts_eq ht user, ?_, ?_, ?_⟩
  · rw [List.map_map]
    exact List.map_id _
  · intro n hn
    obtain ⟨c, -, rfl⟩ := List.mem_map.1 hn
    exact Int.ofNat_le.2 (hd.countP_isNew_le user c)
  · intro clock place poll hpoll huser
    obtain ⟨ms, hnext, hsound, hself, -⟩ := hd.mark_ok clock hpoll
    rw [hnext]
    refine ⟨_, hsound.unreadCounts_eq ht user, fun n hn hchannel => ?_⟩
    obtain ⟨c, -, rfl⟩ := List.mem_map.1 hn
    dsimp only at hchannel ⊢
    subst hchannel huser
    rw [Store.readUpTo_marks, hself]
    exact Int.ofNat_le.2 ((hd.tracks poll (List.mem_of_getElem? hpoll)).countP_new_le hd.store)

end ChatBoard
