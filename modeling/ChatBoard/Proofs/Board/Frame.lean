import ChatBoard.Proofs.Board.Succession
import ChatBoard.Proofs.Messages.Poll
import ChatBoard.Proofs.Store.Unread

/-!
# What an effect leaves alone

Of the seven effects only posting a message and the reset touch the messages, and only a poll and
the reset touch the read marks. `Effect.onMessages` and `Effect.onMarks` say what they do to them,
and `Effect.reading_apply` shows that `Effect.apply` does just that to a sound store. The messages
after any effect follow those before it (`Effect.follows_apply`), and unless it is the reset they
extend them (`Effect.extends_apply`).
-/

namespace ChatBoard

/-- A store whose messages have come from those of another by insertions and removals. -/
def Store.Follows (s' s : Store) : Prop :=
  ∃ t' t, s'.messages = some t' ∧ s.messages = some t ∧ t'.Follows t

/-- A store whose messages have come from those of another by insertions alone. -/
def Store.Extends (s' s : Store) : Prop :=
  ∃ t' t, s'.messages = some t' ∧ s.messages = some t ∧ t'.Extends t

/-- Stores with the same messages and the same read marks. -/
structure Store.SameReading (s' s : Store) : Prop where
  messages : s'.messages = s.messages
  marks : s'.marks = s.marks

namespace Store

variable {s s' : Store}

/-- A store with messages follows itself. -/
theorem Sound.follows_refl (h : s.Sound) : s.Follows s := follows_self h.messages

/-- What follows a follower follows. -/
theorem Follows.trans {s'' : Store} (h' : s''.Follows s') (h : s'.Follows s) : s''.Follows s :=
  follows_trans h' h

/-- A store with messages extends itself. -/
theorem Sound.extends_refl (h : s.Sound) : s.Extends s := by
  obtain ⟨t, ht, -⟩ := h.messages
  exact ⟨t, t, ht, ht, .refl t⟩

/-- What extends an extension extends. -/
theorem Extends.trans {s'' : Store} (h' : s''.Extends s') (h : s'.Extends s) : s''.Extends s := by
  obtain ⟨t', t, ht', ht, hextends⟩ := h
  obtain ⟨t'', t₁, ht'', ht₁, hextends'⟩ := h'
  obtain rfl : t₁ = t' := Option.some.inj (ht₁.symm.trans ht')
  exact ⟨t'', t, ht'', ht, hextends'.trans hextends⟩

/-- Of a channel's messages in a store that follows another, the new ones have ids above all those
that the other had. -/
theorem Follows.lt_of_new (h : s'.Follows s) {channel : Int} {e x : Entry (Stored Message)}
    (he : e ∈ s'.inChannel channel) (new : e ∉ s.inChannel channel)
    (hx : x ∈ s.inChannel channel) : x.id < e.id := by
  obtain ⟨t', t, ht', ht, hfollows⟩ := h
  rw [inChannel_eq ht'] at he
  rw [inChannel_eq ht] at new hx
  obtain ⟨hmem, hin⟩ := List.mem_filter.1 he
  -- The counter of the earlier table lies between the two ids.
  have habove := hfollows.counter_lt hmem fun hold => new (List.mem_filter.2 ⟨hold, hin⟩)
  have hbound := t.bounded x (List.mem_filter.1 hx).1
  omega

/-- In a store that extends another, new messages of a channel with larger ids stand before the
old ones. -/
theorem Extends.inChannel (h : s'.Extends s) (channel : Int) :
    ∃ new, s'.inChannel channel = new ++ s.inChannel channel
      ∧ ∀ e ∈ new, ∀ x ∈ s.inChannel channel, x.id < e.id := by
  obtain ⟨t', t, ht', ht, -, new, hentries, habove⟩ := h
  -- Those of the new entries that are in the channel.
  refine ⟨new.filter fun e => Message.isIn channel e.row, ?_, ?_⟩
  · rw [inChannel_eq ht', inChannel_eq ht, hentries, List.filter_append]
  · intro e he x hx
    rw [inChannel_eq ht] at hx
    have := habove e (List.mem_filter.1 he).1
    have := t.bounded x (List.mem_filter.1 hx).1
    omega

end Store

namespace Effect

variable {s : Store}

/-- What an effect does to the messages at a time. -/
def onMessages (now : String) (t : Table (Stored Message)) : Effect → Table (Stored Message)
  | reset => t.keep (· ≤ Store.baseline.messages)
  | post author channel content =>
    match t.append (.sound ⟨channel, author, content, now⟩) with
    | .ok (_, t') => t'
    | .error _ => t
  | _ => t

/-- What an effect on a store does to the read marks at a time. -/
def onMarks (now : String) (s : Store) (ms : ReadMarks) : Effect → ReadMarks
  | reset => .empty
  | poll user channel after => ms.set user channel (Messages.newestId (s.polled channel after)) now
  | _ => ms

/-- Making an account, making a channel or changing a profile leaves messages and marks alone. -/
theorem Change.sameReading {now : String} {s s' : Store} {effect : Effect}
    (h : Change now s effect s') (hreset : effect ≠ .reset)
    (hpost : ∀ author channel content, effect ≠ .post author channel content)
    (hpoll : ∀ user channel after, effect ≠ .poll user channel after) : s'.SameReading s := by
  cases h with
  | kept => exact ⟨rfl, rfl⟩
  | reset => exact absurd rfl hreset
  | registered => exact ⟨rfl, rfl⟩
  | channelAdded => exact ⟨rfl, rfl⟩
  | posted => exact absurd rfl (hpost _ _ _)
  | polled => exact absurd rfl (hpoll _ _ _)
  | updated hpicture haccount => cases hpicture <;> cases haccount <;> exact ⟨rfl, rfl⟩

/-- The store after a poll of a sound store: its mark is set. -/
theorem apply_poll (h : s.Sound) {ms : ReadMarks} (hms : s.marks = some ms) (now : String)
    (user channel after : Int) :
    (poll user channel after).apply now s
      = { s with marks := some ((poll user channel after).onMarks now s ms) } := by
  dsimp only [apply]
  rw [(h.polled_ok channel after).1]
  dsimp only
  unfold Store.markRead
  rw [hms]
  rfl

/-- The messages and the read marks after an effect on a sound store. -/
theorem reading_apply (h : s.Sound) {t : Table (Stored Message)} (ht : s.messages = some t)
    {ms : ReadMarks} (hms : s.marks = some ms) (now : String) (effect : Effect) :
    (effect.apply now s).messages = some (effect.onMessages now t)
      ∧ (effect.apply now s).marks = some (effect.onMarks now s ms) := by
  have hsame : (effect.apply now s).SameReading s →
      (effect.apply now s).messages = some t ∧ (effect.apply now s).marks = some ms :=
    fun hs => ⟨hs.messages.trans ht, hs.marks.trans hms⟩
  have hchange := change now s effect
  cases effect with
  | nothing => exact ⟨ht, hms⟩
  | reset =>
    obtain ⟨users, images, channels, t', -, -, -, ht', heq⟩ := h.reset_eq
    obtain rfl : t' = t := Option.some.inj (ht'.symm.trans ht)
    dsimp only [apply]
    rw [heq]
    exact ⟨rfl, rfl⟩
  | register name salt digest =>
    exact hsame (hchange.sameReading Effect.noConfusion nofun nofun)
  | addChannel name description =>
    exact hsame (hchange.sameReading Effect.noConfusion nofun nofun)
  | post author channel content =>
    dsimp only [apply, onMessages]
    unfold Store.insertMessage
    rw [ht]
    dsimp only
    cases t.append (.sound ⟨channel, author, content, now⟩) with
    | error cause => exact ⟨ht, hms⟩
    | ok made => exact ⟨rfl, hms⟩
  | poll user channel after =>
    rw [apply_poll h hms]
    exact ⟨ht, rfl⟩
  | update user upload => exact hsame (hchange.sameReading Effect.noConfusion nofun nofun)

/-! ## Messages over time -/

/-- Unless it is the reset, an effect only adds messages. -/
theorem extends_onMessages (now : String) (t : Table (Stored Message)) {effect : Effect}
    (hne : effect ≠ reset) : (effect.onMessages now t).Extends t := by
  cases effect with
  | reset => exact absurd rfl hne
  | post author channel content =>
    dsimp only [onMessages]
    split
    next id t' happ => exact .of_append (Table.append_ok happ)
    · exact .refl t
  | nothing => exact .refl t
  | register name salt digest => exact .refl t
  | addChannel name description => exact .refl t
  | poll user channel after => exact .refl t
  | update user upload => exact .refl t

/-- After any effect on a sound store what is new among the messages lies above what was there. -/
theorem follows_apply (h : s.Sound) (now : String) (effect : Effect) :
    (effect.apply now s).Follows s := (succeeds h now effect).messages

/-- Unless it is the reset, an effect on a sound store only adds messages. -/
theorem extends_apply (h : s.Sound) (now : String) {effect : Effect} (hne : effect ≠ reset) :
    (effect.apply now s).Extends s := by
  obtain ⟨t, ht, -⟩ := h.messages
  obtain ⟨ms, hms, -⟩ := h.marks
  exact ⟨_, t, (reading_apply h ht hms now effect).1, ht, extends_onMessages now t hne⟩

/-! ## Read marks over time -/

/-- After the reset nothing has been read. -/
theorem readUpTo_reset (h : s.Sound) (now : String) (user channel : Int) :
    (reset.apply now s).readUpTo user channel = 0 := by
  obtain ⟨t, ht, -⟩ := h.messages
  obtain ⟨ms, hms, -⟩ := h.marks
  rw [Store.readUpTo_eq (reading_apply h ht hms now reset).2]
  exact ReadMarks.upTo_empty user channel

/-- After a poll its user has read the channel up to the newest message that it returned. -/
theorem readUpTo_poll (h : s.Sound) (now : String) (user channel after : Int) :
    ((poll user channel after).apply now s).readUpTo user channel
      = Messages.newestId (s.polled channel after) := by
  obtain ⟨t, ht, -⟩ := h.messages
  obtain ⟨ms, hms, hmarks⟩ := h.marks
  rw [Store.readUpTo_eq (reading_apply h ht hms now (poll user channel after)).2]
  exact ReadMarks.upTo_set_self hmarks user channel _ now

/-- Unless an effect is the reset or a poll of a channel by a user, that user has read the channel
up to where it was before. -/
theorem readUpTo_apply (h : s.Sound) (now : String) {user channel : Int} {effect : Effect}
    (hreset : effect ≠ reset) (hpoll : ∀ after, effect ≠ poll user channel after) :
    (effect.apply now s).readUpTo user channel = s.readUpTo user channel := by
  obtain ⟨t, ht, -⟩ := h.messages
  obtain ⟨ms, hms, -⟩ := h.marks
  rw [Store.readUpTo_eq (reading_apply h ht hms now effect).2, Store.readUpTo_eq hms]
  cases effect with
  | reset => exact absurd rfl hreset
  | poll user' channel' after =>
    -- The poll of another user or channel sets another mark.
    refine ReadMarks.upTo_set_of_ne ms _ now ?_
    rintro ⟨rfl, rfl⟩
    exact hpoll after rfl
  | nothing => rfl
  | register name salt digest => rfl
  | addChannel name description => rfl
  | post author channel content => rfl
  | update user upload => rfl

end Effect

end ChatBoard
