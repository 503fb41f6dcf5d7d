import ChatBoard.Proofs.Board.Effect
import ChatBoard.Proofs.Board.Paths

/-!
# Who asks for what

`Effect.Origin` lists, effect by effect, what a request must look like to ask for it: its path and
its method, what its form or its query holds, and who is asking. `Effect.origin` shows that every
effect that `Effect.ofRequest` reads from a request has such an origin. For the reset and for a poll
the converse is shown too (`Effect.ofRequest_eq_reset_iff`, `Effect.ofRequest_eq_poll_iff`).
-/

namespace ChatBoard

/-- A request for a whole answer or for its head alone. -/
def Request.IsGet (r : Request) : Prop := r.method = .get ∨ r.method = .head

/-- The methods that ask for an answer are answered by every route. -/
theorem Request.IsGet.answered {r : Request} (h : r.IsGet) (route : Route) :
    route.answers r.method = true := by
  rcases h with hget | hhead
  · rw [hget]
    rfl
  · rw [hhead]
    rfl

/-- A request for an answer sends no form. -/
theorem Request.IsGet.ne_post {r : Request} (h : r.IsGet) : r.method ≠ .post := by
  rcases h with hget | hhead
  · rw [hget]
    exact Method.noConfusion
  · rw [hhead]
    exact Method.noConfusion

/-- A request comes from an account that can be read. -/
def Request.IsFrom (e : Setting) (s : Store) (user : Entry User) (r : Request) : Prop :=
  Visitor.ofCookies e (Cookie.ofLines r.cookieLines) s = .ok (.account user)

/-- A form that is sent to a path, with two texts of which neither is empty. -/
structure Request.Submits (path first second : String) (r : Request) (x y : String) : Prop where
  post : r.method = .post
  path : r.path = Octets.ofText path
  form : r.formTexts first second = .ok (x, y)
  first_ne : x ≠ ""
  second_ne : y ≠ ""

/-- What a request that asks for an effect looks like. -/
inductive Effect.Origin (e : Setting) (r : Request) (s : Store) : Effect → Prop where
  | nothing : Origin e r s .nothing
  | reset (path : r.path = Octets.ofText "/initialize") (get : r.IsGet) : Origin e r s .reset
  | register {name password : String}
      (form : r.Submits "/register" "name" "password" name password) :
      Origin e r s (.register name e.salt (Password.digest e.salt password))
  | addChannel {user : Entry User} {name description : String} (account : r.IsFrom e s user)
      (form : r.Submits "/add_channel" "name" "description" name description) :
      Origin e r s (.addChannel name description)
  | post {user : Entry User} {channel : Int} {content : String} (account : r.IsFrom e s user)
      (path : r.path = Octets.ofText "/message") (post : r.method = .post) :
      Origin e r s (.post user.id channel content)
  | poll {user : Entry User} {channel after : Int} (account : r.IsFrom e s user)
      (path : r.path = Octets.ofText "/message") (get : r.IsGet)
      (query : r.queryNumbers "channel_id" "last_message_id" = .ok (channel, after)) :
      Origin e r s (.poll user.id channel after)
  | update {user : Entry User} {upload : Upload} (account : r.IsFrom e s user)
      (path : r.path = Octets.ofText "/profile") (post : r.method = .post) :
      Origin e r s (.update user.id upload)

/-- What is looked at in two texts of a form of which neither may be empty. -/
theorem filled_iff {x y : String} :
    ¬ (x.isEmpty || y.isEmpty) = true ↔ x ≠ "" ∧ y ≠ "" := by
  rw [Bool.or_eq_true, String.isEmpty_iff, String.isEmpty_iff, not_or]

/-- Credentials are the two texts of a form, of which neither is empty. -/
theorem Entrance.credentials_eq_ok_iff {r : Request} {c : Credentials} :
    credentials r = .ok c
      ↔ r.formTexts "name" "password" = .ok (c.name, c.password)
        ∧ c.name ≠ "" ∧ c.password ≠ "" := by
  unfold credentials
  cases r.formTexts "name" "password" with
  | error refusal => exact ⟨fun h => (nomatch h), fun h => (nomatch h.1)⟩
  | ok texts =>
    obtain ⟨name, password⟩ := texts
    dsimp only
    constructor
    · intro h
      split at h
      · cases h
      next hempty =>
        cases h
        exact ⟨rfl, filled_iff.1 hempty⟩
    · rintro ⟨heq, hne⟩
      cases heq
      rw [if_neg (filled_iff.2 hne)]

namespace Effect

variable {e : Setting} {r : Request} {s : Store}

/-- A method that a route answers and that sends no form asks for an answer. -/
theorem isGet_of_answers {route : Route} (h : route.answers r.method = true)
    (hpost : r.method ≠ .post) : r.IsGet := by
  unfold Request.IsGet
  unfold Route.answers at h
  cases hm : r.method with
  | get => exact .inl rfl
  | head => exact .inr rfl
  | post => exact absurd hm hpost
  | other =>
    rw [hm] at h
    cases h

/-- Where the effect of a request that is open to all comes from. -/
theorem origin_public {route : PublicRoute} (hroute : Route.ofPath? r.path = some (.free route))
    (hanswers : (Route.free route).answers r.method = true) :
    Origin e r s (ofPublic e r route) := by
  cases route with
  | reset =>
    have hpath := (Route.ofPath?_fixed_iff "initialize" (by simp [Route.fixed])).1 hroute
    refine .reset hpath (isGet_of_answers hanswers fun hpost => ?_)
    rw [hpost] at hanswers
    cases hanswers
  | register =>
    have hpath := (Route.ofPath?_fixed_iff "register" (by simp [Route.fixed])).1 hroute
    dsimp only [ofPublic]
    split
    next hpost =>
      unfold ofRegister
      cases hcredentials : Entrance.credentials r with
      | error answer => exact .nothing
      | ok c =>
        obtain ⟨hform, hname, hpassword⟩ := Entrance.credentials_eq_ok_iff.1 hcredentials
        exact .register ⟨hpost, hpath, hform, hname, hpassword⟩
    · exact .nothing
  | welcome => exact .nothing
  | login => exact .nothing
  | logout => exact .nothing
  | icon name => exact .nothing

/-- Where the effect of an account's request for a page comes from. -/
theorem origin_page {route : PageRoute} {user : Entry User}
    (hroute : Route.ofPath? r.path = some (.page route)) (account : r.IsFrom e s user) :
    Origin e r s (ofPage user r route) := by
  cases route with
  | ownProfile =>
    have hpath := (Route.ofPath?_fixed_iff "profile" (by simp [Route.fixed])).1 hroute
    dsimp only [ofPage]
    split
    next hpost =>
      unfold ofUpdate
      repeat' split
      -- Only a form that can be read changes the profile.
      all_goals first | exact .nothing | exact .update account hpath hpost
    · exact .nothing
  | addChannel =>
    have hpath := (Route.ofPath?_fixed_iff "add_channel" (by simp [Route.fixed])).1 hroute
    dsimp only [ofPage]
    split
    next hpost =>
      unfold ofAddChannel
      cases hform : r.formTexts "name" "description" with
      | error refusal => exact .nothing
      | ok texts =>
        dsimp only
        by_cases hempty : (texts.1.isEmpty || texts.2.isEmpty) = true
        · rw [if_pos hempty]
          exact .nothing
        · rw [if_neg hempty]
          obtain ⟨hname, hdescription⟩ := filled_iff.1 hempty
          exact .addChannel account ⟨hpost, hpath, hform, hname, hdescription⟩
    · exact .nothing
  | channel id => exact .nothing
  | history id => exact .nothing
  | profile name => exact .nothing

/-- Where the effect of a request of an account's script comes from. -/
theorem origin_api {route : ApiRoute} {user : Entry User}
    (hroute : Route.ofPath? r.path = some (.api route))
    (hanswers : (Route.api route).answers r.method = true) (account : r.IsFrom e s user) :
    Origin e r s (ofApi user r route) := by
  cases route with
  | messages =>
    have hpath := (Route.ofPath?_fixed_iff "message" (by simp [Route.fixed])).1 hroute
    dsimp only [ofApi]
    split
    next hpost =>
      unfold ofPost
      repeat' split
      -- Only a form with a content and the number of a channel posts a message.
      all_goals first | exact .nothing | exact .post account hpath hpost
    next hpost =>
      unfold ofPoll
      split
      · exact .nothing
      next channel after hquery =>
        exact .poll account hpath (isGet_of_answers hanswers hpost) hquery
  | unread => exact .nothing

/-- Behind a gate an account's request is read, and all others ask for nothing. -/
theorem gated_cases (e : Setting) (r : Request) (s : Store) (effect : Entry User → Effect) :
    gated e r s effect = nothing
      ∨ ∃ user, Visitor.ofCookies e (Cookie.ofLines r.cookieLines) s = .ok (.account user)
          ∧ gated e r s effect = effect user := by
  unfold gated
  split
  next user hvisitor => exact .inr ⟨user, hvisitor, rfl⟩
  · exact .inl rfl

/-- What a request asks for is read by its route, if there is one that answers it. -/
theorem ofRequest_cases (e : Setting) (r : Request) (s : Store) :
    ofRequest e r s = nothing
      ∨ ∃ route, Route.ofPath? r.path = some route ∧ route.answers r.method = true
          ∧ ofRequest e r s = ofRoute e r s route := by
  unfold ofRequest
  cases Route.ofPath? r.path with
  | none => exact .inl rfl
  | some route =>
    dsimp only
    split
    next hanswers => exact .inr ⟨route, rfl, hanswers, rfl⟩
    · exact .inl rfl

/-- What a request asks for comes from a request that may ask for it. -/
theorem origin (e : Setting) (r : Request) (s : Store) : Origin e r s (ofRequest e r s) := by
  rcases ofRequest_cases e r s with hnothing | ⟨route, hroute, hanswers, heq⟩
  · rw [hnothing]
    exact .nothing
  rw [heq]
  cases route with
  | free route => exact origin_public hroute hanswers
  | page route =>
    dsimp only [ofRoute]
    rcases gated_cases e r s fun user => ofPage user r route with hg | ⟨user, account, hg⟩
    · rw [hg]
      exact .nothing
    · rw [hg]
      exact origin_page hroute account
  | api route =>
    dsimp only [ofRoute]
    rcases gated_cases e r s fun user => ofApi user r route with hg | ⟨user, account, hg⟩
    · rw [hg]
      exact .nothing
    · rw [hg]
      exact origin_api hroute hanswers account

/-- A request asks for the reset just when it is one for that path. -/
theorem ofRequest_eq_reset_iff :
    ofRequest e r s = reset ↔ r.IsGet ∧ r.path = Octets.ofText "/initialize" := by
  constructor
  · intro h
    have horigin := origin e r s
    rw [h] at horigin
    cases horigin with
    | reset path get => exact ⟨get, path⟩
  · rintro ⟨hget, hpath⟩
    have hroute : Route.ofPath? r.path = some (.free .reset) :=
      (Route.ofPath?_fixed_iff "initialize" (by decide)).2 hpath
    unfold ofRequest
    rw [hroute]
    exact if_pos (hget.answered _)

/-- A request polls just when it comes from an account, is one for messages, and names the channel
and the id in its query. -/
theorem ofRequest_eq_poll_iff {id channel after : Int} :
    ofRequest e r s = poll id channel after
      ↔ ∃ user, r.IsFrom e s user ∧ user.id = id ∧ r.IsGet ∧ r.path = Octets.ofText "/message"
        ∧ r.queryNumbers "channel_id" "last_message_id" = .ok (channel, after) := by
  constructor
  · intro h
    have horigin := origin e r s
    rw [h] at horigin
    cases horigin with
    | poll account path get query => exact ⟨_, account, rfl, get, path, query⟩
  · rintro ⟨user, haccount, rfl, hget, hpath, hquery⟩
    have hroute : Route.ofPath? r.path = some (.api .messages) :=
      (Route.ofPath?_fixed_iff "message" (by decide)).2 hpath
    unfold Request.IsFrom at haccount
    unfold ofRequest
    rw [hroute]
    dsimp only
    rw [if_pos (hget.answered _)]
    dsimp only [ofRoute]
    unfold gated
    rw [haccount]
    dsimp only [ofApi]
    rw [if_neg hget.ne_post]
    unfold ofPoll
    rw [hquery]

end Effect

end ChatBoard
