import ChatBoard.Proofs.Board.Frame

/-!
# Runs of the board

A run is a list of calls, the latest first, each of them a request with the setting that it met. The
store after a run is the one that `serve` leaves when it takes the calls one after the other from a
fresh store. Each call carries out an effect (`storeAfter_cons`), so the store is sound after every
run (`storeAfter_sound`).
-/

namespace ChatBoard

/-- A request with the setting that it met. -/
structure Call where
  setting : Setting
  request : Request

/-- What a call asks of a store. -/
def Call.effect (call : Call) (s : Store) : Effect := .ofRequest call.setting call.request s

/-- The store after a run, the latest call first, on a board that was opened at a time. -/
def storeAfter (now : String) : List Call → Store
  | [] => .fresh now
  | call :: earlier => (serve call.setting call.request (storeAfter now earlier)).2

/-- The store after a run that a store takes, the latest call first. -/
def Store.served (s : Store) : List Call → Store
  | [] => s
  | call :: earlier => (serve call.setting call.request (s.served earlier)).2

/-- A call carries its effect out. -/
theorem storeAfter_cons (now : String) (call : Call) (earlier : List Call) :
    storeAfter now (call :: earlier)
      = (call.effect (storeAfter now earlier)).apply call.setting.clock (storeAfter now earlier) :=
  serve_store call.setting call.request (storeAfter now earlier)

/-- After every run the store is sound. -/
theorem storeAfter_sound (now : String) (run : List Call) : (storeAfter now run).Sound := by
  induction run with
  | nil => exact Store.sound_fresh now
  | cons call earlier ih =>
    rw [storeAfter_cons]
    exact Effect.sound_apply ih _ _

/-! ## A short run

An account is made, posts a message to the first channel, polls the channel, and looks at its
history. -/

namespace Sample

/-- When the board was opened. -/
def opened : String := "2024-03-05 09:08:07"

/-- What every call meets. -/
def setting : Setting := ⟨"secret", 1000, opened, "abcdefghijklmnopqrst"⟩

/-- The cookie line of a client with a session of account 1. -/
def cookies : Octets := Octets.ofText "session=" ++ Token.issue setting.secret ⟨1, 2000⟩

/-- The account that is made. -/
def alice : Entry User :=
  ⟨1, "alice", "abcdefghijklmnopqrst", Password.digest "abcdefghijklmnopqrst" "pw", "alice",
    "default.png", opened⟩

/-- The cookie line carries the session of the account. -/
theorem session_cookies :
    Session.userId? setting.secret setting.seconds (Cookie.ofLines [cookies]) = some 1 := by
  decide +kernel

/-- A call of the client. -/
def call (method : Method) (path query body : String) : Call where
  setting := setting
  request :=
    ⟨method, Octets.ofText path, Octets.ofText query, [cookies],
      some (Octets.ofText "application/x-www-form-urlencoded"), Octets.ofText body⟩

/-- Makes account 1. -/
def signsUp : Call := call .post "/register" "" "name=alice&password=pw"

/-- The row of the account once it has been made. -/
theorem user_signsUp :
    ⟨alice.id, .sound alice.row⟩ ∈ rowsOf (storeAfter opened [signsUp]).users := by
  have huser : ((storeAfter opened [signsUp]).users.bind fun t => t.get? alice.id)
      = some (.sound alice.row) := by
    decide +kernel
  obtain ⟨t, ht, hrow⟩ := Option.bind_eq_some_iff.1 huser
  rw [ht]
  exact t.get?_eq_some_iff.1 hrow

/-- Posts a message. -/
def posts : Call := call .post "/message" "" "message=hi&channel_id=1"

/-- Polls for everything. -/
def polls : Call := call .get "/message" "channel_id=1&last_message_id=0" ""

/-- Looks at the history. -/
def looksBack : Call := call .get "/history/1" "" ""

end Sample

end ChatBoard
