import ChatBoard.Board.Serve
import ChatBoard.Proofs.Store.Writes

/-!
# What a request does to the store

Whatever a request looks like, it asks for one of seven things: nothing, the reset, an account, a
channel, a message, a poll or a changed profile. `Effect.ofRequest` reads this from the request, and
from the store only who is asking; `Effect.apply` carries it out. `serve_store` shows that the store
after `serve` is the one that the effect makes, so a property of every request is a property of the
seven effects.
-/

namespace ChatBoard

/-- What a request asks of the store once it has been let through and read. -/
inductive Effect where
  | nothing
  | reset
  | register (name salt digest : String)
  | addChannel (name description : String)
  | post (author channel : Int) (content : String)
  | poll (user channel after : Int)
  | update (user : Int) (upload : Upload)
  deriving DecidableEq

/-- The store after a change that also gives a value; if the change fails, the store as it was. -/
def Store.orKept {α : Type} (s : Store) : Except StoreFault (α × Store) → Store
  | .ok (_, s') => s'
  | .error _ => s

namespace Effect

/-- Carries an effect out at a time. -/
def apply (now : String) (s : Store) : Effect → Store
  | nothing => s
  | reset => s.reset.2
  | register name salt digest => s.orKept (s.createUser now name salt digest)
  | addChannel name description => s.orKept (s.createChannel now name description)
  | post author channel content => s.orKept (s.insertMessage now channel author content)
  | poll user channel after =>
    match s.messagesAfter channel after Messages.pollLimit with
    | .error _ => s
    | .ok ms =>
      match s.markRead now user channel (Messages.newestId ms) with
      | .error _ => s
      | .ok s' => s'
  | update user upload => (upload.apply user s).2

/-- What a form with a name and a password asks for. -/
def ofRegister (e : Setting) (r : Request) : Effect :=
  match Entrance.credentials r with
  | .error _ => nothing
  | .ok c => register c.name e.salt (Password.digest e.salt c.password)

/-- What a form for a channel asks for. -/
def ofAddChannel (r : Request) : Effect :=
  match r.formTexts "name" "description" with
  | .error _ => nothing
  | .ok (name, description) =>
    if name.isEmpty || description.isEmpty then nothing else addChannel name description

/-- What a form with a message asks for. -/
def ofPost (user : Entry User) (r : Request) : Effect :=
  match r.formTexts "message" "channel_id" with
  | .error _ => nothing
  | .ok (content, channel) =>
    if content.isEmpty then nothing
    else
      match Messages.channelNumber? channel with
      | none => nothing
      | some id => post user.id id content

/-- What a query for messages asks for. -/
def ofPoll (user : Entry User) (r : Request) : Effect :=
  match r.queryNumbers "channel_id" "last_message_id" with
  | .error _ => nothing
  | .ok (channel, after) => poll user.id channel after

/-- What a form for a profile asks for. -/
def ofUpdate (user : Entry User) (r : Request) : Effect :=
  match r.contentType.bind MediaType.boundary? with
  | none => nothing
  | some boundary =>
    if r.isTooLarge then nothing
    else
      match Profile.upload? boundary r.body with
      | none => nothing
      | some u => update user.id u

/-- What a request that is open to all asks for. -/
def ofPublic (e : Setting) (r : Request) : PublicRoute → Effect
  | .reset => reset
  | .register => if r.method = .post then ofRegister e r else nothing
  | _ => nothing

/-- What a request of an account for a page asks for. -/
def ofPage (user : Entry User) (r : Request) : PageRoute → Effect
  | .ownProfile => if r.method = .post then ofUpdate user r else nothing
  | .addChannel => if r.method = .post then ofAddChannel r else nothing
  | _ => nothing

/-- What a request of an account's script asks for. -/
def ofApi (user : Entry User) (r : Request) : ApiRoute → Effect
  | .messages => if r.method = .post then ofPost user r else ofPoll user r
  | .unread => nothing

/-- What a request behind a gate asks for: without an account nothing. -/
def gated (e : Setting) (r : Request) (s : Store) (act : Entry User → Effect) : Effect :=
  match Visitor.ofCookies e (Cookie.ofLines r.cookieLines) s with
  | .ok (.account user) => act user
  | _ => nothing

/-- What a request of a route asks for. -/
def ofRoute (e : Setting) (r : Request) (s : Store) : Route → Effect
  | .free route => ofPublic e r route
  | .page route => gated e r s fun user => ofPage user r route
  | .api route => gated e r s fun user => ofApi user r route

/-- What a request asks for. -/
def ofRequest (e : Setting) (r : Request) (s : Store) : Effect :=
  match Route.ofPath? r.path with
  | none => nothing
  | some route => if route.answers r.method then ofRoute e r s route else nothing

/-! ## The store after a request -/

/-- The store after making an account. -/
theorem register_store (e : Setting) (r : Request) (s : Store) :
    (Entrance.register e r s).2 = (ofRegister e r).apply e.clock s := by
  unfold Entrance.register ofRegister
  cases Entrance.credentials r with
  | error answer => rfl
  | ok c =>
    dsimp only [apply]
    cases hs : s.createUser e.clock c.name e.salt (Password.digest e.salt c.password) with
    | error fault => rfl
    | ok made =>
      obtain ⟨id, s'⟩ := made
      cases id with
      | some id => rfl
      -- No account is made for a name that is taken.
      | none =>
        rcases Store.createUser_ok hs with ⟨-, heq⟩ | ⟨_, _, _, hmade, -⟩
        · exact heq.symm
        · cases hmade

/-- The store after making a channel. -/
theorem addChannel_store (e : Setting) (r : Request) (s : Store) :
    (Channels.add e r s).2 = (ofAddChannel r).apply e.clock s := by
  unfold Channels.add ofAddChannel
  cases r.formTexts "name" "description" with
  | error refusal => rfl
  | ok texts =>
    obtain ⟨name, description⟩ := texts
    dsimp only
    by_cases h : name.isEmpty || description.isEmpty
    · rw [if_pos h, if_pos h]
      rfl
    · rw [if_neg h, if_neg h]
      dsimp only [apply]
      cases s.createChannel e.clock name description <;> rfl

/-- The store after posting a message. -/
theorem post_store (e : Setting) (user : Entry User) (r : Request) (s : Store) :
    (Messages.post e user r s).2 = (ofPost user r).apply e.clock s := by
  unfold Messages.post ofPost
  cases r.formTexts "message" "channel_id" with
  | error refusal => rfl
  | ok texts =>
    obtain ⟨content, channel⟩ := texts
    dsimp only
    by_cases h : content.isEmpty
    · rw [if_pos h, if_pos h]
      rfl
    · rw [if_neg h, if_neg h]
      cases Messages.channelNumber? channel with
      | none => rfl
      | some id =>
        dsimp only [apply]
        cases s.insertMessage e.clock id user.id content <;> rfl

/-- The store after a poll. -/
theorem poll_store (e : Setting) (user : Entry User) (r : Request) (s : Store) :
    (Messages.poll e user r s).2 = (ofPoll user r).apply e.clock s := by
  unfold Messages.poll ofPoll
  cases r.queryNumbers "channel_id" "last_message_id" with
  | error refusal => rfl
  | ok numbers =>
    obtain ⟨channel, after⟩ := numbers
    dsimp only [apply]
    cases s.messagesAfter channel after Messages.pollLimit with
    | error fault => rfl
    | ok ms =>
      dsimp only
      cases s.markRead e.clock user.id channel (Messages.newestId ms) <;> rfl

/-- The store after changing a profile. -/
theorem update_store (now : String) (user : Entry User) (r : Request) (s : Store) :
    (Profile.update user r s).2 = (ofUpdate user r).apply now s := by
  unfold Profile.update ofUpdate
  cases r.contentType.bind MediaType.boundary? with
  | none => rfl
  | some boundary =>
    dsimp only
    by_cases h : r.isTooLarge
    · rw [if_pos h, if_pos h]
      rfl
    · rw [if_neg h, if_neg h]
      cases Profile.upload? boundary r.body with
      | none => rfl
      | some u =>
        dsimp only [apply]
        obtain ⟨outcome, s'⟩ := u.apply user.id s
        cases outcome <;> rfl

/-- The store after a request that is open to all. -/
theorem public_store (e : Setting) (r : Request) (s : Store) (route : PublicRoute) :
    (route.serve e r s).2 = (ofPublic e r route).apply e.clock s := by
  cases route with
  | reset =>
    show (Entrance.reset s).2 = s.reset.2
    unfold Entrance.reset
    obtain ⟨outcome, s'⟩ := s.reset
    cases outcome <;> rfl
  | register =>
    dsimp only [PublicRoute.serve, ofPublic]
    by_cases h : r.method = .post
    · rw [if_pos h, if_pos h]
      exact register_store e r s
    · rw [if_neg h, if_neg h]
      rfl
  | welcome => rfl
  | login => rfl
  | logout => rfl
  | icon name => rfl

/-- The store after a request of an account for a page. -/
theorem page_store (e : Setting) (user : Entry User) (r : Request) (s : Store)
    (route : PageRoute) :
    (route.serve e user r s).2 = (ofPage user r route).apply e.clock s := by
  cases route with
  | ownProfile =>
    dsimp only [PageRoute.serve, ofPage]
    by_cases h : r.method = .post
    · rw [if_pos h, if_pos h]
      exact update_store e.clock user r s
    · rw [if_neg h, if_neg h]
      rfl
  | addChannel =>
    dsimp only [PageRoute.serve, ofPage]
    by_cases h : r.method = .post
    · rw [if_pos h, if_pos h]
      exact addChannel_store e r s
    · rw [if_neg h, if_neg h]
      rfl
  | channel id => rfl
  | history id => rfl
  | profile name => rfl

/-- The store after a request of an account's script. -/
theorem api_store (e : Setting) (user : Entry User) (r : Request) (s : Store) (route : ApiRoute) :
    (route.serve e user r s).2 = (ofApi user r route).apply e.clock s := by
  cases route with
  | messages =>
    dsimp only [ApiRoute.serve, ofApi]
    by_cases h : r.method = .post
    · rw [if_pos h, if_pos h]
      exact post_store e user r s
    · rw [if_neg h, if_neg h]
      exact poll_store e user r s
  | unread => rfl

/-- A gate lets only accounts at the store. -/
theorem gated_store (e : Setting) (r : Request) (s : Store) (away : Visitor → Response)
    {act : Entry User → Response × Store} {effect : Entry User → Effect}
    (h : ∀ user, (act user).2 = (effect user).apply e.clock s) :
    (Route.gated e r s away act).2 = (gated e r s effect).apply e.clock s := by
  -- The two gates ask the same question, and only an account gets past the first.
  unfold Route.gated gated
  cases hv : Visitor.ofCookies e (Cookie.ofLines r.cookieLines) s with
  | error fault => rfl
  | ok visitor =>
    cases visitor with
    | account user => exact h user
    | anonymous => rfl
    | gone => rfl

/-- The store after a request that its route answers. -/
theorem act_store (e : Setting) (r : Request) (s : Store) (route : Route) :
    (route.act e r s).2 = (ofRoute e r s route).apply e.clock s := by
  cases route with
  | free route => exact public_store e r s route
  | page route => exact gated_store e r s _ fun user => page_store e user r s route
  | api route => exact gated_store e r s _ fun user => api_store e user r s route

end Effect

/-- The store after a request is the one that the request's effect makes. -/
theorem serve_store (e : Setting) (r : Request) (s : Store) :
    (serve e r s).2 = (Effect.ofRequest e r s).apply e.clock s := by
  unfold serve Effect.ofRequest
  cases Route.ofPath? r.path with
  | none => rfl
  | some route =>
    dsimp only
    split
    · exact Effect.act_store e r s route
    · rfl

/-! ## Requests that are carried out as they are -/

namespace Request

/-- An answer as it is sent: without a body if only its head was asked for. -/
def sent (r : Request) (answer : Response × Store) : Response × Store :=
  (if r.method = .head then { answer.1 with body := [] } else answer.1, answer.2)

/-- A whole answer is sent as it is. -/
theorem sent_of_ne_head (r : Request) (h : r.method ≠ .head) (answer : Response × Store) :
    r.sent answer = answer := by
  unfold sent
  rw [if_neg h]

/-- The answer to who asks for the whole of it is sent as it is. -/
theorem sent_of_get (r : Request) (h : r.method = .get) (answer : Response × Store) :
    r.sent answer = answer :=
  r.sent_of_ne_head (by rw [h]; exact Method.noConfusion) answer

/-- The answer to a post is sent as it is. -/
theorem sent_of_post (r : Request) (h : r.method = .post) (answer : Response × Store) :
    r.sent answer = answer :=
  r.sent_of_ne_head (by rw [h]; exact Method.noConfusion) answer

/-- An answer without a body is sent as it is. -/
theorem sent_of_empty (r : Request) {answer : Response} (s : Store) (h : answer.body = []) :
    r.sent (answer, s) = (answer, s) := by
  have hsame : { answer with body := [] } = answer := by rw [← h]
  unfold sent
  dsimp only
  rw [hsame, ite_self]

end Request

/-- A request that its route answers is carried out there. -/
theorem serve_route {e : Setting} {r : Request} {s : Store} {route : Route}
    (hroute : Route.ofPath? r.path = some route) (hanswers : route.answers r.method = true) :
    serve e r s = r.sent (route.act e r s) := by
  unfold serve
  rw [hroute]
  dsimp only
  rw [if_pos hanswers]
  rfl

/-- A request that asks for a whole answer is carried out by its route. -/
theorem serve_get {e : Setting} {r : Request} {s : Store} {route : Route}
    (hroute : Route.ofPath? r.path = some route) (hget : r.method = .get) :
    serve e r s = route.act e r s := by
  have hanswers : route.answers r.method = true := by
    rw [hget]
    rfl
  rw [serve_route hroute hanswers, r.sent_of_get hget]

/-- An account passes a gate. -/
theorem Route.gated_account {e : Setting} {r : Request} {s : Store} {user : Entry User}
    (h : Visitor.ofCookies e (Cookie.ofLines r.cookieLines) s = .ok (.account user))
    (away : Visitor → Response) (act : Entry User → Response × Store) :
    Route.gated e r s away act = act user := by
  unfold Route.gated
  rw [h]

end ChatBoard
