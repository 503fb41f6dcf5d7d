import ChatBoard.Proofs.Board.Profile
import ChatBoard.Proofs.Board.Refusals
import ChatBoard.Proofs.Board.Reset
import Mathlib.Data.List.Forall2

/-!
# What a failure leaves behind

Nothing is undone when a request fails, so what it leaves behind depends on how many changes it
makes and which of them fails. Changes in turn stop at the first that fails: those before it are
done, and no other one is (`Store.inTurn_mayFail`).

A poll makes one change, the last thing that it does, so a poll that fails has changed nothing. An
upload makes up to three. Behind the gate the table of the accounts is there, so in a store the
first of them is the only one to fail, and an upload is carried out whole or not at all. The reset
makes five, and where a table is missing, those before it are cut down and the others keep their
rows (`setbacks`, `reset_half_done`).
-/

namespace ChatBoard

namespace Store

/-- A change that the store may fail to make. It then says so and has changed nothing. -/
def MayFail (change change' : Store → Except StoreFault Store) : Prop :=
  ∀ s, change' s = change s ∨ ∃ fault, change' s = .error fault

/-- Of changes in turn the first ones have been made and no others, and the outcome says whether
these were all. -/
def GetsAsFar (changes : List (Store → Except StoreFault Store)) (s : Store)
    (outcome : Except StoreFault Unit × Store) : Prop :=
  ∃ done rest, changes = done ++ rest ∧ inTurn done s = (.ok (), outcome.2)
    ∧ (outcome.1 = .ok () ↔ rest = [])

/-- Whichever of some changes fails, those before it are made and no others. -/
theorem inTurn_mayFail {changes changes' : List (Store → Except StoreFault Store)}
    (h : List.Forall₂ MayFail changes changes') (s : Store) :
    GetsAsFar changes s (inTurn changes' s) := by
  induction h generalizing s with
  | nil => exact ⟨[], [], rfl, rfl, by simp [inTurn]⟩
  | @cons change change' rest rest' hchange _ ih =>
    have hstop : ∀ fault, change' s = .error fault →
        GetsAsFar (change :: rest) s (inTurn (change' :: rest') s) := by
      intro fault hfault
      have houtcome : inTurn (change' :: rest') s = (.error fault, s) := by rw [inTurn, hfault]
      exact ⟨[], change :: rest, rfl, by rw [houtcome]; rfl, by simp [houtcome]⟩
    rcases hchange s with hsame | ⟨fault, hfault⟩
    · cases hmade : change s with
      | error fault => exact hstop fault (hsame.trans hmade)
      | ok s₁ =>
        -- The first change is made, and of the others as many as there are without it.
        obtain ⟨done, left, rfl, hdone, hall⟩ := ih s₁
        have hrest : inTurn (change' :: rest') s = inTurn rest' s₁ := by
          rw [inTurn, hsame, hmade]
        have hfirst : inTurn (change :: done) s = inTurn done s₁ := by rw [inTurn, hmade]
        refine ⟨change :: done, left, rfl, ?_, ?_⟩
        · rw [hfirst, hrest, hdone]
        · rw [hrest, hall]
    · exact hstop fault hfault

end Store

/-- What requests that fail leave behind in a store. -/
structure Setbacks (e : Setting) (r : Request) (s : Store) : Prop where
  /-- A poll that fails has changed nothing. -/
  poll : r.IsGet → r.path = Octets.ofText "/message" → (serve e r s).1.status = 500 →
    (serve e r s).2 = s
  /-- A change of a profile that fails has changed nothing. -/
  profile : r.method = .post → r.path = Octets.ofText "/profile" →
    (serve e r s).1.status = 500 → (serve e r s).2 = s
  /-- An account gets all that it asks for with a new profile, and is redirected, or nothing of
  it. -/
  together : ∀ user, r.IsFrom e s user → r.method = .post → r.path = Octets.ofText "/profile" →
    (∃ u, r.upload? = some u ∧ (serve e r s).1 = .redirect "/" ∧ u.Applied user s (serve e r s).2)
      ∨ (serve e r s).1.status ≠ 303 ∧ (serve e r s).2 = s
  /-- Where no table is missing, the reset cuts down all of them. -/
  reset : r.Resets → (∀ name, s.has name = true) →
    (serve e r s).1.status = 204 ∧ (serve e r s).2 = s.cutDown TableName.inOrder
  /-- Where a table is missing, the reset fails; it has cut down the tables before the first that
  is, and the others are as they were. -/
  resetStopped : r.Resets → ∀ before missing after, TableName.inOrder = before ++ missing :: after →
    (∀ name ∈ before, s.has name = true) → s.has missing = false →
      (serve e r s).1.status = 500 ∧ (serve e r s).2 = s.cutDown before
  /-- A reset cuts the tables in turn. Whichever change of it fails, those before it are made and no
  others. -/
  resetFailing : s.reset = Store.inTurn (TableName.inOrder.map Store.cutTable) s
    ∧ ∀ changes, List.Forall₂ Store.MayFail (TableName.inOrder.map Store.cutTable) changes →
      Store.GetsAsFar (TableName.inOrder.map Store.cutTable) s (Store.inTurn changes s)
  /-- An upload makes its changes in turn. Whichever of them fails, those before it are made and no
  others. -/
  uploadFailing : ∀ id (u : Upload), u.apply id s = Store.inTurn (u.changes id) s
    ∧ ∀ changes, List.Forall₂ Store.MayFail (u.changes id) changes →
      Store.GetsAsFar (u.changes id) s (Store.inTurn changes s)

section

variable {e : Setting} {r : Request} {s : Store}

/-- What fails behind a gate has changed nothing if that is so of what the gate guards. -/
theorem Request.Asks.unchanged {gate : Gate} {handler : Handler} (h : r.Asks gate handler)
    (hhandler : ∀ user, r.IsFrom e s user → (handler e user r s).1.status = 500 →
      (handler e user r s).2 = s)
    (hstatus : (serve e r s).1.status = 500) : (serve e r s).2 = s := by
  by_cases haccount : ∃ user, r.IsFrom e s user
  · obtain ⟨user, haccount⟩ := haccount
    rw [h.status haccount] at hstatus
    have hstore : (serve e r s).2 = (handler e user r s).2 := by
      rw [h.serve_account haccount]
      rfl
    rw [hstore]
    exact hhandler user haccount hstatus
  · exact h.leads.stranger fun user hfrom => haccount ⟨user, hfrom⟩

/-- A poll that fails has not set the mark, which is the last thing that it does. -/
theorem Messages.poll_failed {user : Entry User} (h : (poll e user r s).1.status = 500) :
    (poll e user r s).2 = s := by
  unfold poll at h ⊢
  split
  · rfl
  next channel after hquery =>
    rw [hquery] at h
    dsimp only at h ⊢
    split
    · rfl
    next ms hms =>
      rw [hms] at h
      dsimp only at h ⊢
      split
      · rfl
      next s' hs' =>
        -- Once the mark is set, the answer is no failure.
        have hanswer : (pollAnswer ms).status = 200 := rfl
        rw [hs'] at h
        exact absurd (hanswer.symm.trans h) (by decide)

end

/-- A request that fails leaves behind what it had changed by then. -/
theorem setbacks (e : Setting) (r : Request) (s : Store) : Setbacks e r s where
  poll hget hpath hstatus :=
    (Request.Asks.poll hpath hget).unchanged (fun _ _ h => Messages.poll_failed h) hstatus
  profile hpost hpath hstatus := by
    by_cases haccount : ∃ user, r.IsFrom e s user
    · obtain ⟨user, haccount⟩ := haccount
      rcases serve_profile haccount hpath hpost with ⟨u, -, hanswer, -⟩ | ⟨-, hstore⟩
      · have hredirect : (Response.redirect "/").status = 303 := by decide
        rw [hanswer, hredirect] at hstatus
        cases hstatus
      · exact hstore
    · exact (Request.Asks.updateProfile hpath hpost).leads.stranger fun user hfrom =>
        haccount ⟨user, hfrom⟩
  together _ haccount hpost hpath := serve_profile haccount hpath hpost
  reset hr hall := by
    rw [serve_reset_of_all hr hall, serve_reset_store hr, Store.reached_of_all hall]
    exact ⟨rfl, rfl⟩
  resetStopped hr before missing after horder hbefore hmissing := by
    rw [serve_reset_of_missing hr hmissing, serve_reset_store hr,
      Store.reached_of_missing horder hbefore hmissing]
    exact ⟨rfl, rfl⟩
  resetFailing := ⟨s.reset_eq_inTurn, fun _ h => Store.inTurn_mayFail h s⟩
  uploadFailing _ _ := ⟨rfl, fun _ h => Store.inTurn_mayFail h s⟩

/-- A reset of a store without images fails. It has then removed the account above the baseline, and
it has kept the message above it. -/
theorem reset_half_done :
    Sample.clears.request.Resets
      ∧ (serve Sample.setting Sample.clears.request Sample.damaged).1.status = 500
      ∧ rowsOf (serve Sample.setting Sample.clears.request Sample.damaged).2.users
        ≠ rowsOf Sample.damaged.users
      ∧ ∃ x ∈ rowsOf (serve Sample.setting Sample.clears.request Sample.damaged).2.messages,
        10000 < x.id := by
  have hmissing : Sample.damaged.has .images = false := rfl
  rw [serve_reset_of_missing Sample.resets_clears hmissing, serve_reset_store Sample.resets_clears]
  exact ⟨Sample.resets_clears, rfl, by decide +kernel, by decide +kernel⟩

end ChatBoard
