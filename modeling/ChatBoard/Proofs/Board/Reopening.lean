import ChatBoard.Proofs.Board.Sessions

/-!
# Opening a store again

A board may be stopped and started again on the same store at any time, and opening the store puts
the first channel and the default avatar back where their places are free. After every history both
places are taken by the rows that were put there first (`storeSince_sound`), so nothing is put back:
`reopenings_unseen` says that a history is told by its calls alone, in what it leaves in the store
and in every answer that it gives.
-/

namespace ChatBoard

/-- The calls of a history, without the times when the store was opened again. -/
def callsOf : List Event → List Call
  | [] => []
  | .call call :: earlier => call :: callsOf earlier
  | .reopening _ :: earlier => callsOf earlier

/-- The answers that the calls of a history get, the latest first. -/
def answersSince (now : String) : List Event → List Response
  | [] => []
  | .call call :: earlier =>
    (serve call.setting call.request (storeSince now earlier)).1 :: answersSince now earlier
  | .reopening _ :: earlier => answersSince now earlier

/-- The answers that the calls of a run get, the latest first. -/
def answersAfter (now : String) : List Call → List Response
  | [] => []
  | call :: earlier =>
    (serve call.setting call.request (storeAfter now earlier)).1 :: answersAfter now earlier

/-- Opening the store again is not to be seen, in a history that a board has had. -/
structure ReopensUnseen (now : String) (history : List Event) : Prop where
  /-- The first channel is there as it was put there when the board was first opened. -/
  channel : ⟨1, .sound (Store.firstChannel now)⟩ ∈ rowsOf (storeSince now history).channels
  /-- So is the default avatar. -/
  image : ⟨1, .sound ⟨DefaultAvatar.name, DefaultAvatar.data⟩⟩
    ∈ rowsOf (storeSince now history).images
  /-- Opening the store again changes no row of any table and no counter. -/
  reopened : ∀ clock, (storeSince now history).opened clock = storeSince now history
  /-- The store is the one that the calls alone leave. -/
  store : storeSince now history = storeAfter now (callsOf history)
  /-- The answers are those that the calls alone get. -/
  answers : answersSince now history = answersAfter now (callsOf history)
  /-- With the same calls and the store opened again at other times, the answers have been the same,
  every request is now answered and carried out the same, and cookies are the same visitor's. -/
  alike : ∀ other, callsOf other = callsOf history →
    answersSince now other = answersSince now history
      ∧ (∀ e r, serve e r (storeSince now other) = serve e r (storeSince now history))
      ∧ ∀ e cookies, Visitor.ofCookies e cookies (storeSince now other)
          = Visitor.ofCookies e cookies (storeSince now history)

/-- Opening the store again after a history changes nothing. -/
theorem storeSince_opened (now clock : String) (history : List Event) :
    (storeSince now history).opened clock = storeSince now history := by
  obtain ⟨hsound, hseeded⟩ := storeSince_sound now history
  exact hseeded.opened_eq hsound clock

/-- The store after a history is the one after its calls. -/
theorem storeSince_eq_storeAfter (now : String) (history : List Event) :
    storeSince now history = storeAfter now (callsOf history) := by
  induction history with
  | nil => rfl
  | cons event earlier ih =>
    cases event with
    | call call =>
      dsimp only [storeSince, callsOf, storeAfter]
      rw [ih]
    | reopening clock =>
      dsimp only [storeSince, callsOf]
      rw [storeSince_opened, ih]

/-- A run is a history in which the store was never opened again. -/
theorem callsOf_calls (run : List Call) : callsOf (run.map Event.call) = run := by
  induction run with
  | nil => rfl
  | cons call earlier ih => rw [List.map_cons, callsOf, ih]

/-- The store after a run is that after the history of its calls. -/
theorem storeSince_calls (now : String) (run : List Call) :
    storeSince now (run.map Event.call) = storeAfter now run := by
  rw [storeSince_eq_storeAfter, callsOf_calls]

/-- The answers of a history are those of its calls. -/
theorem answersSince_eq_answersAfter (now : String) (history : List Event) :
    answersSince now history = answersAfter now (callsOf history) := by
  induction history with
  | nil => rfl
  | cons event earlier ih =>
    cases event with
    | call call =>
      dsimp only [answersSince, callsOf, answersAfter]
      rw [ih, storeSince_eq_storeAfter]
    | reopening clock => exact ih

/-- In every history the board never shows that its store was opened again. -/
theorem reopenings_unseen (now : String) (history : List Event) : ReopensUnseen now history where
  channel := (storeSince_sound now history).2.channel
  image := (storeSince_sound now history).2.image
  reopened clock := storeSince_opened now clock history
  store := storeSince_eq_storeAfter now history
  answers := answersSince_eq_answersAfter now history
  alike other hcalls := by
    have hstore : storeSince now other = storeSince now history := by
      rw [storeSince_eq_storeAfter, storeSince_eq_storeAfter, hcalls]
    refine ⟨?_, fun e r => by rw [hstore], fun e cookies => by rw [hstore]⟩
    rw [answersSince_eq_answersAfter, answersSince_eq_answersAfter, hcalls]

end ChatBoard
