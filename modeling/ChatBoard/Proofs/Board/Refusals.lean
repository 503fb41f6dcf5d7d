import ChatBoard.Proofs.Board.Entrance
import ChatBoard.Proofs.Board.Gates
import ChatBoard.Proofs.Board.Upload

/-!
# Requests that are refused

`serve_unmoved` says of every request to every store that a refusal leaves the store as it was, down
to the counters. Each handler looks at all of a request before it changes the first row, so its
outcome either has the store unchanged or is no refusal (`Spares`); the gates and the routes add
only refusals that change nothing. Three refusals that come late are named: a registration of a name
that is taken, an upload that one of its parts spoils, and a poll whose query does not read.
-/

namespace ChatBoard

/-- An answer that refuses a request: its status is one of those that blame the request. -/
def Response.Refuses (answer : Response) : Prop := 400 ≤ answer.status ∧ answer.status ≤ 499

/-- An answer with another status refuses nothing. -/
theorem Response.not_refuses {answer : Response} (status : Nat) (h : answer.status = status)
    (hother : ¬ (400 ≤ status ∧ status ≤ 499)) : ¬ answer.Refuses := by
  unfold Refuses
  rwa [h]

/-- Sending the client elsewhere is no refusal, also where it fails. -/
theorem Response.not_refuses_redirect (location : String) : ¬ (redirect location).Refuses := by
  unfold redirect
  split
  · exact not_refuses 303 rfl (by decide)
  · exact not_refuses 500 rfl (by decide)

/-- An outcome that has the store unchanged or is no refusal. -/
def Spares (s : Store) (outcome : Response × Store) : Prop :=
  outcome.2 = s ∨ ¬ outcome.1.Refuses

section

variable {e : Setting} {r : Request} {s : Store}

/-- An answer alone spares the store. -/
theorem spares_keeping (s : Store) (answer : Response) : Spares s (answer, s) := .inl rfl

/-- A failure of the board itself is no refusal of the request. -/
theorem spares_internal (s s' : Store) : Spares s (.ofFailure .internal, s') :=
  .inr (Response.not_refuses 500 rfl (by decide))

/-- The reset is not refused. -/
theorem spares_reset (s : Store) : Spares s (Entrance.reset s) := by
  unfold Entrance.reset
  obtain ⟨outcome, s'⟩ := s.reset
  cases outcome with
  | ok done => exact .inr (Response.not_refuses 204 rfl (by decide))
  | error fault => exact spares_internal s s'

/-- A registration is refused before it makes an account. -/
theorem spares_register (e : Setting) (r : Request) (s : Store) :
    Spares s (Entrance.register e r s) := by
  unfold Entrance.register
  split
  · exact spares_keeping s _
  · split
    · exact spares_keeping s _
    · exact spares_keeping s _
    · exact .inr (Response.not_refuses_redirect "/")

/-- A channel is refused before it is made. -/
theorem spares_addChannel (e : Setting) (r : Request) (s : Store) :
    Spares s (Channels.add e r s) := by
  unfold Channels.add
  split
  · exact spares_keeping s _
  · split
    · exact spares_keeping s _
    · split
      · exact spares_keeping s _
      · exact .inr (Response.not_refuses_redirect _)

/-- A message is refused before it is stored. -/
theorem spares_post (e : Setting) (user : Entry User) (r : Request) (s : Store) :
    Spares s (Messages.post e user r s) := by
  unfold Messages.post
  split
  · exact spares_keeping s _
  · split
    · exact spares_keeping s _
    · split
      · exact spares_keeping s _
      · split
        · exact spares_keeping s _
        · exact .inr (Response.not_refuses 204 rfl (by decide))

/-- A poll is refused before it moves the mark. -/
theorem spares_poll (e : Setting) (user : Entry User) (r : Request) (s : Store) :
    Spares s (Messages.poll e user r s) := by
  unfold Messages.poll
  split
  · exact spares_keeping s _
  · split
    · exact spares_keeping s _
    · split
      · exact spares_keeping s _
      · exact .inr (Response.not_refuses 200 rfl (by decide))

/-- An upload is refused before anything of it is carried out. -/
theorem spares_update (user : Entry User) (r : Request) (s : Store) :
    Spares s (Profile.update user r s) := by
  unfold Profile.update
  split
  · exact spares_keeping s _
  · split
    · exact spares_keeping s _
    · split
      · exact spares_keeping s _
      · split
        · exact .inr (Response.not_refuses_redirect "/")
        · exact spares_internal s _

/-- What is open to all spares the store. -/
theorem spares_public (e : Setting) (r : Request) (s : Store) (route : PublicRoute) :
    Spares s (route.serve e r s) := by
  cases route with
  | reset => exact spares_reset s
  | register =>
    dsimp only [PublicRoute.serve]
    split
    · exact spares_register e r s
    · exact spares_keeping s _
  | welcome => exact spares_keeping s _
  | login => exact spares_keeping s _
  | logout => exact spares_keeping s _
  | icon name => exact spares_keeping s _

/-- What an account asks of a page spares the store. -/
theorem spares_page (e : Setting) (user : Entry User) (r : Request) (s : Store)
    (route : PageRoute) : Spares s (route.serve e user r s) := by
  cases route with
  | ownProfile =>
    dsimp only [PageRoute.serve]
    split
    · exact spares_update user r s
    · exact spares_keeping s _
  | addChannel =>
    dsimp only [PageRoute.serve]
    split
    · exact spares_addChannel e r s
    · exact spares_keeping s _
  | channel id => exact spares_keeping s _
  | history id => exact spares_keeping s _
  | profile name => exact spares_keeping s _

/-- What an account's script asks for spares the store. -/
theorem spares_api (e : Setting) (user : Entry User) (r : Request) (s : Store) (route : ApiRoute) :
    Spares s (route.serve e user r s) := by
  cases route with
  | messages =>
    dsimp only [ApiRoute.serve]
    split
    · exact spares_post e user r s
    · exact spares_poll e user r s
  | unread => exact spares_keeping s _

/-- A gate spares the store if what is behind it does. -/
theorem spares_gated {away : Visitor → Response} {act : Entry User → Response × Store}
    (h : ∀ user, Spares s (act user)) : Spares s (Route.gated e r s away act) := by
  unfold Route.gated
  split
  · exact spares_keeping s _
  next user _ => exact h user
  · exact spares_keeping s _

/-- A request that its route answers spares the store. -/
theorem spares_act (e : Setting) (r : Request) (s : Store) (route : Route) :
    Spares s (route.act e r s) := by
  cases route with
  | free route => exact spares_public e r s route
  | page route => exact spares_gated fun user => spares_page e user r s route
  | api route => exact spares_gated fun user => spares_api e user r s route

/-- Every request spares the store. -/
theorem spares_serve (e : Setting) (r : Request) (s : Store) : Spares s (serve e r s) := by
  unfold serve
  split
  · exact spares_keeping s _
  next route _ =>
    split
    · -- Leaving the body away does not change the status.
      have hact := spares_act e r s route
      dsimp only
      split <;> exact hact
    · exact spares_keeping s _

end

/-- What a store has to fear of refusals. -/
structure Unmoved (e : Setting) (r : Request) (s : Store) : Prop where
  /-- A request that is refused leaves every row, every counter and every mark as it was. -/
  refused : (serve e r s).1.Refuses → (serve e r s).2 = s
  /-- A registration of a name that is taken is refused as a conflict. -/
  taken : ∀ name password, r.Submits "/register" "name" "password" name password →
    s.HasName name → ¬ s.UsersFull → (serve e r s).1.status = 409
  /-- An upload whose body cannot be read is refused. -/
  broken : ∀ user boundary, r.IsFrom e s user → r.path = Octets.ofText "/profile" →
    r.method = .post → r.contentType.bind MediaType.boundary? = some boundary →
      Multipart.parts? boundary r.body = none → (serve e r s).1.status = 400
  /-- An upload is refused for one part that spoils it, whatever stands before it and after it. -/
  spoiled : ∀ user boundary before p after, r.IsFrom e s user →
    r.path = Octets.ofText "/profile" → r.method = .post →
      r.contentType.bind MediaType.boundary? = some boundary →
        Multipart.parts? boundary r.body = some (before ++ p :: after) → Upload.Spoils p →
          (serve e r s).1.status = 400
  /-- A poll whose query does not read is refused. -/
  malformed : ∀ user refusal, r.IsFrom e s user → r.path = Octets.ofText "/message" → r.IsGet →
    r.queryNumbers "channel_id" "last_message_id" = .error refusal →
      (serve e r s).1.status = 400

/-! ## Late refusals -/

section

variable {e : Setting} {r : Request} {s : Store}

/-- The status of an answer is that of the handler behind the gate. -/
theorem Request.Asks.status {gate : Gate} {handler : Handler} (h : r.Asks gate handler)
    {user : Entry User} (haccount : r.IsFrom e s user) :
    (serve e r s).1.status = (handler e user r s).1.status := by
  rw [h.serve_account haccount]
  unfold Request.sent
  split <;> rfl

/-- An upload that cannot be read or is spoiled is refused. -/
theorem Profile.status_update {user : Entry User} {boundary : Octets}
    (hboundary : r.contentType.bind MediaType.boundary? = some boundary)
    (hupload : upload? boundary r.body = none) : (update user r s).1.status = 400 := by
  unfold update
  rw [hboundary]
  dsimp only
  split
  · rfl
  · rw [hupload]
    rfl

/-- A query that does not read is refused. -/
theorem Messages.status_poll {user : Entry User} {refusal : Refusal}
    (hquery : r.queryNumbers "channel_id" "last_message_id" = .error refusal) :
    (poll e user r s).1.status = 400 := by
  have hstatus : refusal.status = 400 := by
    unfold Request.queryNumbers at hquery
    cases hfields : Form.twoNumbers "channel_id" "last_message_id" (Form.fields r.query) with
    | ok numbers =>
      rw [hfields] at hquery
      cases hquery
    | error fault =>
      rw [hfields] at hquery
      cases hquery
      rfl
  unfold poll
  rw [hquery]
  exact hstatus

end

/-- No request that is refused moves anything in a store. -/
theorem serve_unmoved (e : Setting) (r : Request) (s : Store) : Unmoved e r s where
  refused h := (spares_serve e r s).resolve_right fun hnot => hnot h
  taken name password hform htaken hroom := by
    rw [serve_register_taken hform hroom htaken]
    rfl
  broken user boundary haccount hpath hpost hboundary hparts := by
    rw [(Request.Asks.updateProfile hpath hpost).status haccount]
    refine Profile.status_update hboundary ?_
    unfold Profile.upload?
    rw [hparts]
  spoiled user boundary before p after haccount hpath hpost hboundary hparts hspoils := by
    rw [(Request.Asks.updateProfile hpath hpost).status haccount]
    refine Profile.status_update hboundary ?_
    unfold Profile.upload?
    rw [hparts]
    exact Upload.ofParts?_eq_none_iff.2
      ⟨p, List.mem_append_right _ List.mem_cons_self, hspoils⟩
  malformed user refusal haccount hpath hget hquery := by
    rw [(Request.Asks.poll hpath hget).status haccount]
    exact Messages.status_poll hquery

end ChatBoard
