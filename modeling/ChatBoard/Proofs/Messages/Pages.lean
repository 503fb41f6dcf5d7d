import ChatBoard.Board.Messages
import ChatBoard.Proofs.Messages.Shown

/-!
# The pages of a channel

A page holds twenty of a channel's entries, newest first, after those of the pages before it
(`Store.pageEntries`). The first pages together are the beginning of the channel's list
(`Store.flatten_pages`), and the last page is the one that reaches its end, so the pages from the
last to the first, each oldest entry first, are all entries, oldest first
(`Store.flatten_all_pages`).
-/

namespace ChatBoard

namespace Messages

/-- The pages from the last one down to the first. -/
def pagesDown : Nat → List Nat
  | 0 => []
  | last + 1 => (last + 1) :: pagesDown last

/-- The pages go from the last one down to the first. -/
theorem mem_pagesDown {page last : Nat} : page ∈ pagesDown last ↔ 1 ≤ page ∧ page ≤ last := by
  induction last with
  | zero =>
    constructor
    · intro h
      exact absurd h List.not_mem_nil
    · intro h
      omega
  | succ last ih =>
    unfold pagesDown
    rw [List.mem_cons, ih]
    omega

/-- The number of pages is that of the twenties of messages, the last one perhaps not full, and at
least 1. -/
theorem maxPage_eq {count last : Nat} (h : maxPage count = last) :
    1 ≤ last ∧ count ≤ 20 * last ∧ (2 ≤ last → 20 * (last - 1) < count) := by
  unfold maxPage pageSize at h
  omega

end Messages

open Messages (pagesDown)

namespace Store

variable {s : Store} {channel : Int}

/-- The entries on a page of a channel, newest first. -/
def pageEntries (channel : Int) (page : Nat) (s : Store) : List (Entry (Stored Message)) :=
  ((s.inChannel channel).drop (20 * (page - 1))).take 20

/-- The messages on a page are read from its entries. -/
theorem messagesPage_ok {page : Nat} {ms : List AuthoredMessage} (hpage : 1 ≤ page) :
    s.messagesPage channel Messages.pageSize (((page : Int) - 1) * Messages.pageSize) = .ok ms
      ↔ (∃ t, s.messages = some t) ∧ ∃ users, s.users = some users
        ∧ (s.pageEntries channel page).map (authored? users) = ms.map some := by
  have hoffset : (((page : Int) - 1) * Messages.pageSize).toNat = 20 * (page - 1) := by
    unfold Messages.pageSize
    omega
  cases ht : s.messages with
  | none =>
    unfold messagesPage
    rw [ht]
    constructor
    · intro h
      cases h
    · rintro ⟨⟨t, hsome⟩, -⟩
      cases hsome
  | some t =>
    cases hu : s.users with
    | none =>
      unfold messagesPage
      rw [ht, hu]
      constructor
      · intro h
        cases h
      · rintro ⟨-, users, hsome, -⟩
        cases hsome
    | some users =>
      rw [messagesPage_eq ht hu, hoffset]
      show allAuthored users (s.pageEntries channel page) = .ok ms ↔ _
      rw [allAuthored_ok]
      constructor
      · intro h
        exact ⟨⟨t, rfl⟩, users, rfl, h⟩
      · rintro ⟨-, users', hsome, h⟩
        cases hsome
        exact h

/-- The pages up to one of them, each oldest entry first, are the newest entries of the channel,
oldest first. -/
theorem flatten_pages (channel : Int) (last : Nat) (s : Store) :
    ((pagesDown last).map fun page => (s.pageEntries channel page).reverse).flatten
      = ((s.inChannel channel).take (20 * last)).reverse := by
  induction last with
  | zero => rfl
  | succ last ih =>
    have hpage : s.pageEntries channel (last + 1)
        = ((s.inChannel channel).drop (20 * last)).take 20 := by
      unfold pageEntries
      rw [Nat.add_sub_cancel]
    unfold pagesDown
    -- The last page adds the oldest entries, which come first in the reverse order.
    rw [List.map_cons, List.flatten_cons, ih, hpage, ← List.reverse_append, ← List.take_add,
      Nat.mul_succ]

/-- All pages from the last to the first, each oldest entry first, are all entries of the channel,
oldest first. -/
theorem flatten_all_pages {last : Nat}
    (h : Messages.maxPage (s.inChannel channel).length = last) :
    ((pagesDown last).map fun page => (s.pageEntries channel page).reverse).flatten
      = (s.inChannel channel).reverse := by
  rw [flatten_pages, List.take_of_length_le (Messages.maxPage_eq h).2.1]

/-- Every page before the last one is full, and the last one is empty only if the channel is. -/
theorem length_pageEntries {last page : Nat}
    (h : Messages.maxPage (s.inChannel channel).length = last) (hpage : 1 ≤ page)
    (hle : page ≤ last) :
    (page < last → (s.pageEntries channel page).length = 20)
      ∧ (s.pageEntries channel page).length ≤ 20
      ∧ ((s.pageEntries channel page).length = 0 → (s.inChannel channel).length = 0) := by
  obtain ⟨hone, hcount, hlast⟩ := Messages.maxPage_eq h
  unfold pageEntries
  rw [List.length_take, List.length_drop]
  omega

end Store

end ChatBoard
