import ChatBoard.Board.Setting
import ChatBoard.Proofs.Store.Ids

/-!
# Who is asking

The cookies give at most one id, and the store says what becomes of it: it is that of an account
that can be read (`Visitor.ofCookies_eq_account_iff`), or of none (`Visitor.ofCookies_eq_gone_iff`),
or the question fails. Without an id the store is not asked
(`Visitor.ofCookies_eq_anonymous_iff`).
-/

namespace ChatBoard

namespace Store

variable {s : Store} {id : Int}

/-- The account that is found under an id is in the row with the id. -/
theorem userById_eq_some_iff {user : Entry User} :
    s.userById id = .ok (some user)
      ↔ user.id = id ∧ ⟨user.id, .sound user.row⟩ ∈ rowsOf s.users := by
  unfold userById
  cases s.users with
  | none => exact ⟨fun h => (nomatch h), fun h => absurd h.2 List.not_mem_nil⟩
  | some t =>
    dsimp only
    rw [rowsOf_some]
    cases hrow : t.get? id with
    | none =>
      refine ⟨fun h => (nomatch h), ?_⟩
      rintro ⟨rfl, hmem⟩
      exact absurd rfl (t.get?_eq_none_iff.1 hrow _ hmem)
    | some row =>
      have hmem := t.get?_eq_some_iff.1 hrow
      cases row with
      | sound u =>
        constructor
        · intro h
          cases h
          exact ⟨rfl, hmem⟩
        · rintro ⟨rfl, hmem'⟩
          cases t.eq_of_id_eq hmem hmem' rfl
          rfl
      | odd cs =>
        -- The row cannot be read, and no other row has its id.
        refine ⟨fun h => (nomatch h), ?_⟩
        rintro ⟨rfl, hmem'⟩
        cases t.eq_of_id_eq hmem hmem' rfl

/-- No account is found under an id just when no row has it. -/
theorem userById_eq_none_iff :
    s.userById id = .ok none ↔ ∃ t, s.users = some t ∧ ∀ x ∈ t.entries, x.id ≠ id := by
  unfold userById
  cases s.users with
  | none => exact ⟨fun h => (nomatch h), fun ⟨_, h, _⟩ => (nomatch h)⟩
  | some t =>
    dsimp only
    cases hrow : t.get? id with
    | none => exact ⟨fun _ => ⟨t, rfl, t.get?_eq_none_iff.1 hrow⟩, fun _ => rfl⟩
    | some row =>
      have hmem := t.get?_eq_some_iff.1 hrow
      constructor
      · cases row <;> exact fun h => (nomatch h)
      · rintro ⟨t', ht, hne⟩
        cases ht
        exact absurd rfl (hne _ hmem)

end Store

namespace Visitor

variable {e : Setting} {cookies : List Cookie} {s : Store}

/-- The cookies that carry no session are those of nobody. -/
theorem ofCookies_eq_anonymous_iff :
    ofCookies e cookies s = .ok .anonymous
      ↔ Session.userId? e.secret e.seconds cookies = none := by
  unfold ofCookies
  cases Session.userId? e.secret e.seconds cookies with
  | none => exact ⟨fun _ => rfl, fun _ => rfl⟩
  | some id =>
    refine ⟨fun h => ?_, fun h => (nomatch h)⟩
    dsimp only at h
    split at h <;> cases h

/-- An account is gone just when the cookies carry a session and no row has its id. -/
theorem ofCookies_eq_gone_iff :
    ofCookies e cookies s = .ok .gone
      ↔ ∃ id t, Session.userId? e.secret e.seconds cookies = some id ∧ s.users = some t
        ∧ ∀ x ∈ t.entries, x.id ≠ id := by
  unfold ofCookies
  cases Session.userId? e.secret e.seconds cookies with
  | none => exact ⟨fun h => (nomatch h), fun ⟨_, _, h, _⟩ => (nomatch h)⟩
  | some id =>
    dsimp only
    constructor
    · intro h
      split at h
      · cases h
      next hnone =>
        obtain ⟨t, ht, hne⟩ := Store.userById_eq_none_iff.1 hnone
        exact ⟨id, t, rfl, ht, hne⟩
      · cases h
    · rintro ⟨id', t, hid, ht, hne⟩
      cases hid
      rw [Store.userById_eq_none_iff.2 ⟨t, ht, hne⟩]

/-- Who is asking is an account just when the cookies carry its session and it can be read. -/
theorem ofCookies_eq_account_iff {user : Entry User} :
    ofCookies e cookies s = .ok (.account user)
      ↔ Session.userId? e.secret e.seconds cookies = some user.id
        ∧ ⟨user.id, .sound user.row⟩ ∈ rowsOf s.users := by
  unfold ofCookies
  cases Session.userId? e.secret e.seconds cookies with
  | none => exact ⟨fun h => (nomatch h), fun ⟨h, _⟩ => (nomatch h)⟩
  | some id =>
    dsimp only
    constructor
    · intro h
      split at h
      · cases h
      · cases h
      next hsome =>
        cases h
        obtain ⟨rfl, hmem⟩ := Store.userById_eq_some_iff.1 hsome
        exact ⟨rfl, hmem⟩
    · rintro ⟨hid, hmem⟩
      obtain rfl := Option.some.inj hid
      rw [Store.userById_eq_some_iff.2 ⟨rfl, hmem⟩]

end Visitor

end ChatBoard
