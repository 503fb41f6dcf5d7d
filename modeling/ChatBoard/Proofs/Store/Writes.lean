import ChatBoard.Proofs.Store.Ids
import ChatBoard.Store.Accounts
import ChatBoard.Store.Unread

/-!
# What each write does

One lemma for each operation that writes: when it succeeds, one table of the store has changed, in
the way that the lemma says, and the others are as they were. An account, a channel and a message
are appended to their table (`Table.Appended`), a picture is stored or only uses an id up
(`Table.Stocked`), an account is changed in place, and a mark is set. What each change of a series
keeps, the series keeps (`Store.inTurn_keeps`).
-/

namespace ChatBoard

namespace Table

variable {α : Type} [Labelled α]

/-- A table `t'` that has come from `t` by storing a row under the next id, or by using that id up
since the row's label is taken. -/
def Stocked (t : Table α) (row : α) (t' : Table α) : Prop :=
  t.Appended row (t.counter + 1) t'
    ∨ t.counter < largestId ∧ ¬ t.Free row ∧ t' = t.raise (t.counter + 1)

/-- What storing a row does when it succeeds. -/
theorem appendNew_ok {t t' : Table α} {row : α} (h : t.appendNew row = .ok t') :
    t.Stocked row t' := by
  unfold appendNew at h
  split at h
  · cases h
  next room =>
    split at h
    next free =>
      cases h
      exact .inl ⟨rfl, t.entries_put_next row free, t.counter_put_next row free, by omega⟩
    next taken =>
      cases h
      exact .inr ⟨by omega, taken, rfl⟩

end Table

namespace Store

variable {s s' : Store}

/-- Making an account appends its row, unless the name is taken. -/
theorem createUser_ok {now name salt digest : String} {made : Option Int}
    (h : s.createUser now name salt digest = .ok (made, s')) :
    made = none ∧ s' = s
      ∨ ∃ id t t', made = some id ∧ s.users = some t
        ∧ t.Appended (.sound ⟨name, salt, digest, name, DefaultAvatar.name, now⟩) id t'
        ∧ s' = { s with users := some t' } := by
  unfold createUser at h
  split at h
  · cases h
  next t ht =>
    split at h
    next id t' happ =>
      cases h
      exact .inr ⟨id, t, t', rfl, ht, Table.append_ok happ, rfl⟩
    · cases h
      exact .inl ⟨rfl, rfl⟩
    · cases h

/-- Making a channel appends its row. -/
theorem createChannel_ok {now name description : String} {id : Int}
    (h : s.createChannel now name description = .ok (id, s')) :
    ∃ t t', s.channels = some t ∧ t.Appended (.sound ⟨name, description, now, now⟩) id t'
      ∧ s' = { s with channels := some t' } := by
  unfold createChannel at h
  split at h
  · cases h
  next t ht =>
    split at h
    next id t' happ =>
      cases h
      exact ⟨t, t', ht, Table.append_ok happ, rfl⟩
    · cases h

/-- Storing a message appends its row. -/
theorem insertMessage_ok {now content : String} {channel author id : Int}
    (h : s.insertMessage now channel author content = .ok (id, s')) :
    ∃ t t', s.messages = some t ∧ t.Appended (.sound ⟨channel, author, content, now⟩) id t'
      ∧ s' = { s with messages := some t' } := by
  unfold insertMessage at h
  split at h
  · cases h
  next t ht =>
    split at h
    next id t' happ =>
      cases h
      exact ⟨t, t', ht, Table.append_ok happ, rfl⟩
    · cases h

/-- Storing a picture stocks the images. -/
theorem putImage_ok {name : String} {data : Octets} (h : s.putImage name data = .ok s') :
    ∃ t t', s.images = some t ∧ t.Stocked (.sound ⟨name, data⟩) t'
      ∧ s' = { s with images := some t' } := by
  unfold putImage at h
  split at h
  · cases h
  next t ht =>
    split at h
    next t' happ =>
      cases h
      exact ⟨t, t', ht, Table.appendNew_ok happ, rfl⟩
    · cases h

/-- Where the images have an id left, a picture can be stored. -/
theorem putImage_isOk {t : Table (Stored Image)} (ht : s.images = some t)
    (hroom : t.counter < largestId) (name : String) (data : Octets) :
    ∃ s', s.putImage name data = .ok s' := by
  have hadded : ∃ t', t.appendNew (.sound ⟨name, data⟩) = .ok t' := by
    unfold Table.appendNew
    rw [if_neg (by omega)]
    -- Where an image of the name is there, only an id is used up.
    by_cases hfree : t.Free (.sound ⟨name, data⟩)
    · exact ⟨_, dif_pos hfree⟩
    · exact ⟨_, dif_neg hfree⟩
  obtain ⟨t', hadded⟩ := hadded
  refine ⟨{ s with images := some t' }, ?_⟩
  unfold putImage
  rw [ht]
  dsimp only
  rw [hadded]

/-- Where the images are missing or have no id left, a picture cannot be stored. -/
theorem putImage_fails (h : ∀ t, s.images = some t → largestId ≤ t.counter) (name : String)
    (data : Octets) : ∃ fault, s.putImage name data = .error fault := by
  unfold putImage Table.appendNew
  cases himages : s.images with
  | none => exact ⟨_, rfl⟩
  | some t =>
    dsimp only
    rw [if_pos (h t himages)]
    exact ⟨_, rfl⟩

/-- Changing an account changes the row with its id, and no id and no counter. -/
theorem reviseUser_ok {id : Int} {change : Stored User → Stored User}
    {same : ∀ u, User.label (change u) = User.label u} (h : s.reviseUser id change same = .ok s') :
    ∃ t t', s.users = some t ∧ t'.counter = t.counter
      ∧ t'.entries = t.entries.map (fun e => ⟨e.id, if e.id = id then change e.row else e.row⟩)
      ∧ s' = { s with users := some t' } := by
  unfold reviseUser at h
  split at h
  · cases h
  next t ht =>
    cases h
    refine ⟨t, _, ht, ?_, ?_, rfl⟩ <;> rfl

/-- Setting a mark changes nothing but the marks. -/
theorem markRead_ok {now : String} {user channel message : Int}
    (h : s.markRead now user channel message = .ok s') :
    ∃ ms, s.marks = some ms
      ∧ s' = { s with marks := some (ms.set user channel message now) } := by
  unfold markRead at h
  split at h
  · cases h
  next ms hms =>
    cases h
    exact ⟨ms, hms, rfl⟩

/-- What every change of a series keeps, the series keeps, also when it ends early. -/
theorem inTurn_keeps {P : Store → Prop} {changes : List (Store → Except StoreFault Store)}
    (h : ∀ change ∈ changes, ∀ s s', P s → change s = .ok s' → P s') {s : Store} (hs : P s) :
    P (inTurn changes s).2 := by
  induction changes generalizing s with
  | nil => exact hs
  | cons change rest ih =>
    unfold inTurn
    split
    next s' hs' =>
      exact ih (fun c hc => h c (List.mem_cons_of_mem _ hc))
        (h change List.mem_cons_self s s' hs hs')
    · exact hs

end Store

end ChatBoard
