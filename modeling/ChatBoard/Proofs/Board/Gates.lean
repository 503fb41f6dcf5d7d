import ChatBoard.Proofs.Board.Origin
import ChatBoard.Proofs.Board.Run
import ChatBoard.Proofs.Board.Visitor

/-!
# The gates

Pages for accounts stand behind one gate, and what scripts ask for behind another.
`Request.Asks` lists the paths and methods behind each of them, and what is carried out there.
`serve_asked` says what the gates do, for every request behind them and every store: who has no
session gets one fixed answer and changes nothing, and so does who has a session of an account that
is gone; only an account whose row can be read gets through, and what is carried out is carried out
for that row. The fixed answers tell nothing of the store, of the path or of anything else that was
sent.
-/

namespace ChatBoard

/-- What is carried out for an account. -/
abbrev Handler := Setting → Entry User → Request → Store → Response × Store

/-- The two gates. -/
inductive Gate where
  /-- In front of pages. -/
  | login
  /-- In front of what scripts ask for. -/
  | session

namespace Gate

/-- The answer to who has no session. -/
def nobody : Gate → Response
  | login => { Response.bare 303 with location := some (Octets.ofText "/login") }
  | session => .bare 403

/-- The answer to who has a session of an account that is gone. -/
def gone : Gate → Response
  | login =>
    { Response.bare 303 with
      location := some (Octets.ofText "/login"), cookies := [.remove Session.cookieName] }
  | session => .bare 403

end Gate

namespace Request

/-- A path ends in one part that is not empty and has no solidus. -/
structure HasPart (root : String) (part : Octets) (r : Request) : Prop where
  ne : part ≠ []
  plain : 0x2f ∉ part
  path : r.path = Octets.ofText root ++ part

/-- The paths and methods behind the gates, with what is carried out there. -/
inductive Asks (r : Request) : Gate → Handler → Prop where
  | channel {part : Octets} (path : r.HasPart "/channel/" part) (get : r.IsGet) :
      Asks r .login fun _ user _ s => (Channels.shown user part s, s)
  | history {part : Octets} (path : r.HasPart "/history/" part) (get : r.IsGet) :
      Asks r .login fun _ user r s => (Messages.history user part r s, s)
  | profile {part : Octets} (path : r.HasPart "/profile/" part) (get : r.IsGet) :
      Asks r .login fun _ user _ s => (Profile.shown user part s, s)
  | ownProfile (path : r.path = Octets.ofText "/profile") (get : r.IsGet) :
      Asks r .login fun _ user _ s => (Profile.own user, s)
  | updateProfile (path : r.path = Octets.ofText "/profile") (post : r.method = .post) :
      Asks r .login fun _ user r s => Profile.update user r s
  | addForm (path : r.path = Octets.ofText "/add_channel") (get : r.IsGet) :
      Asks r .login fun _ user _ s => (Channels.addForm user s, s)
  | addChannel (path : r.path = Octets.ofText "/add_channel") (post : r.method = .post) :
      Asks r .login fun e _ r s => Channels.add e r s
  | poll (path : r.path = Octets.ofText "/message") (get : r.IsGet) :
      Asks r .session fun e user r s => Messages.poll e user r s
  | postMessage (path : r.path = Octets.ofText "/message") (post : r.method = .post) :
      Asks r .session fun e user r s => Messages.post e user r s
  | unread (path : r.path = Octets.ofText "/fetch") (get : r.IsGet) :
      Asks r .session fun _ user _ s => (Messages.unread user s, s)

/-- The id in the session that a request carries, if it carries one. -/
def sessionId? (e : Setting) (r : Request) : Option Int :=
  Session.userId? e.secret e.seconds (Cookie.ofLines r.cookieLines)

end Request

/-- What a gate does with a request to a store. -/
structure Guarded (gate : Gate) (handler : Handler) (e : Setting) (r : Request) (s : Store) :
    Prop where
  /-- Who has no session gets the same answer, whatever is in the store and whatever was sent. -/
  nobody : r.sessionId? e = none → serve e r s = (gate.nobody, s)
  /-- Whoever else has no session gets that answer too, from any store and for any request behind
  the gate. -/
  alike : r.sessionId? e = none → ∀ e' r' s' handler', Request.Asks r' gate handler' →
    r'.sessionId? e' = none → (serve e' r' s').1 = (serve e r s).1
  /-- Who has a session of an account without a row gets the same answer, whatever else is in the
  store and whatever was sent. -/
  gone : ∀ id t, r.sessionId? e = some id → s.users = some t → (∀ x ∈ t.entries, x.id ≠ id) →
    serve e r s = (gate.gone, s)
  /-- Where the row cannot be looked up, nothing is done. -/
  failed : ∀ id fault, r.sessionId? e = some id → s.userById id = .error fault →
    serve e r s = (.bare 500, s)
  /-- An account whose row is in the store gets through, with that row. -/
  account : ∀ id user, r.sessionId? e = some id → ⟨id, .sound user⟩ ∈ rowsOf s.users →
    serve e r s = r.sent (handler e ⟨id, user⟩ r s)

/-! ## The routes behind the gates -/

namespace Request

variable {r : Request}

/-- A part of a path leads to its route. -/
theorem HasPart.route (name : String) (toRoute : Octets → Route)
    (hname : (name, toRoute) ∈ Route.withPart) {part : Octets}
    (h : r.HasPart ("/" ++ name ++ "/") part) : Route.ofPath? r.path = some (toRoute part) := by
  rw [h.path]
  exact Route.ofPath?_withPart name hname h.ne h.plain

/-- A route behind a gate that answers a request and carries out a handler for it. -/
inductive Leads (r : Request) : Gate → Handler → Prop where
  | page {route : PageRoute} {handler : Handler} (path : Route.ofPath? r.path = some (.page route))
      (answers : (Route.page route).answers r.method = true)
      (serves : ∀ e user s, route.serve e user r s = handler e user r s) : Leads r .login handler
  | api {route : ApiRoute} {handler : Handler} (path : Route.ofPath? r.path = some (.api route))
      (answers : (Route.api route).answers r.method = true)
      (serves : ∀ e user s, route.serve e user r s = handler e user r s) : Leads r .session handler

/-- Every request behind a gate has a route there. -/
theorem Asks.leads {gate : Gate} {handler : Handler} (h : r.Asks gate handler) :
    r.Leads gate handler := by
  have hfixed : ∀ (name : String) (route : Route), (name, route) ∈ Route.fixed →
      r.path = Octets.ofText ("/" ++ name) → Route.ofPath? r.path = some route :=
    fun name _ hmem hpath => (Route.ofPath?_fixed_iff name hmem).2 hpath
  have hpost : ∀ (route : Route), route.takesPost = true → r.method = .post →
      route.answers r.method = true := by
    intro route htakes hmethod
    rw [hmethod]
    exact htakes
  cases h with
  | channel path get =>
    have hroute := HasPart.route "channel" (fun part => .page (.channel part))
      (by simp [Route.withPart]) path
    exact .page hroute (get.answered _) fun _ _ _ => rfl
  | history path get =>
    have hroute := HasPart.route "history" (fun part => .page (.history part))
      (by simp [Route.withPart]) path
    exact .page hroute (get.answered _) fun _ _ _ => rfl
  | profile path get =>
    have hroute := HasPart.route "profile" (fun part => .page (.profile part))
      (by simp [Route.withPart]) path
    exact .page hroute (get.answered _) fun _ _ _ => rfl
  | ownProfile path get =>
    have hroute := hfixed "profile" (.page .ownProfile) (by decide) path
    exact .page hroute (get.answered _) fun _ _ _ => if_neg get.ne_post
  | updateProfile path post =>
    have hroute := hfixed "profile" (.page .ownProfile) (by decide) path
    exact .page hroute (hpost _ rfl post) fun _ _ _ => if_pos post
  | addForm path get =>
    have hroute := hfixed "add_channel" (.page .addChannel) (by decide) path
    exact .page hroute (get.answered _) fun _ _ _ => if_neg get.ne_post
  | addChannel path post =>
    have hroute := hfixed "add_channel" (.page .addChannel) (by decide) path
    exact .page hroute (hpost _ rfl post) fun _ _ _ => if_pos post
  | poll path get =>
    have hroute := hfixed "message" (.api .messages) (by decide) path
    exact .api hroute (get.answered _) fun _ _ _ => if_neg get.ne_post
  | postMessage path post =>
    have hroute := hfixed "message" (.api .messages) (by decide) path
    exact .api hroute (hpost _ rfl post) fun _ _ _ => if_pos post
  | unread path get =>
    have hroute := hfixed "fetch" (.api .unread) (by decide) path
    exact .api hroute (get.answered _) fun _ _ _ => rfl

end Request

/-! ## What the gates do -/

/-- What a gate says to who does not get through. -/
def Gate.away (cookies : List Cookie) : Gate → Visitor → Response
  | login => turnedAway cookies
  | session => fun _ => .ofFailure .forbidden

namespace Request.Leads

variable {gate : Gate} {handler : Handler} {e : Setting} {r : Request} {s : Store}

/-- A request behind a gate is carried out by its handler once the gate lets it through. -/
theorem serve_eq (h : r.Leads gate handler) (e : Setting) (s : Store) :
    serve e r s = r.sent (Route.gated e r s (gate.away (Cookie.ofLines r.cookieLines)) fun user =>
      handler e user r s) := by
  -- Both gates are asked in the same way, and behind them the route carries the handler out.
  cases h with
  | page path answers serves =>
    rw [serve_route path answers, Route.act]
    simp only [serves]
    rfl
  | api path answers serves =>
    rw [serve_route path answers, Route.act]
    simp only [serves]
    rfl

/-- Who has no session is turned away. -/
theorem nobody (h : r.Leads gate handler) (hid : r.sessionId? e = none) :
    serve e r s = (gate.nobody, s) := by
  have hvisitor := (Visitor.ofCookies_eq_anonymous_iff (s := s)).2 hid
  have haway : gate.away (Cookie.ofLines r.cookieLines) .anonymous = gate.nobody := by
    cases gate <;> rfl
  rw [h.serve_eq, Route.gated, hvisitor]
  dsimp only [keeping]
  rw [haway]
  exact r.sent_of_empty s (by cases gate <;> rfl)

/-- Who has a session of an account that is gone is turned away, and a client that is sent to sign
in is told to remove the session. -/
theorem gone (h : r.Leads gate handler) {id : Int} {t : Table (Stored User)}
    (hid : r.sessionId? e = some id) (ht : s.users = some t) (hnone : ∀ x ∈ t.entries, x.id ≠ id) :
    serve e r s = (gate.gone, s) := by
  have hvisitor := Visitor.ofCookies_eq_gone_iff.2 ⟨id, t, hid, ht, hnone⟩
  -- The session came with a cookie, which is the one to remove.
  have hcookie : Session.finish (Cookie.ofLines r.cookieLines) = [.remove Session.cookieName] := by
    unfold Request.sessionId? Session.userId? at hid
    unfold Session.finish
    split at hid
    · cases hid
    next htoken =>
      rw [htoken]
      rfl
  have haway : gate.away (Cookie.ofLines r.cookieLines) .gone = gate.gone := by
    cases gate with
    | login =>
      dsimp only [Gate.away, turnedAway]
      rw [hcookie]
      rfl
    | session => rfl
  rw [h.serve_eq, Route.gated, hvisitor]
  dsimp only [keeping]
  rw [haway]
  exact r.sent_of_empty s (by cases gate <;> rfl)

/-- Nothing is done where the row cannot be looked up. -/
theorem failed (h : r.Leads gate handler) {id : Int} {fault : StoreFault}
    (hid : r.sessionId? e = some id) (hfault : s.userById id = .error fault) :
    serve e r s = (.bare 500, s) := by
  have hvisitor : Visitor.ofCookies e (Cookie.ofLines r.cookieLines) s = .error fault := by
    unfold Request.sessionId? at hid
    unfold Visitor.ofCookies
    rw [hid]
    dsimp only
    rw [hfault]
  rw [h.serve_eq, Route.gated, hvisitor]
  exact r.sent_of_empty s rfl

/-- An account whose row is in the store gets through with it. -/
theorem account (h : r.Leads gate handler) {id : Int} {user : User}
    (hid : r.sessionId? e = some id) (huser : ⟨id, .sound user⟩ ∈ rowsOf s.users) :
    serve e r s = r.sent (handler e ⟨id, user⟩ r s) := by
  have hvisitor : Visitor.ofCookies e (Cookie.ofLines r.cookieLines) s
      = .ok (.account ⟨id, user⟩) := Visitor.ofCookies_eq_account_iff.2 ⟨hid, huser⟩
  rw [h.serve_eq, Route.gated_account hvisitor]

end Request.Leads

/-- What an account asks for is carried out for it. -/
theorem Request.Asks.serve_account {gate : Gate} {handler : Handler} {e : Setting} {r : Request}
    {s : Store} (h : r.Asks gate handler) {user : Entry User} (haccount : r.IsFrom e s user) :
    serve e r s = r.sent (handler e user r s) := by
  obtain ⟨hid, huser⟩ := Visitor.ofCookies_eq_account_iff.1 haccount
  exact h.leads.account hid huser

/-- The gates let nobody through but accounts whose rows are in the store. -/
theorem serve_asked {gate : Gate} {handler : Handler} {r : Request} (h : r.Asks gate handler)
    (e : Setting) (s : Store) : Guarded gate handler e r s where
  nobody hid := h.leads.nobody hid
  alike hid e' r' s' handler' h' hid' := by rw [h.leads.nobody hid, h'.leads.nobody hid']
  gone _ _ hid ht hnone := h.leads.gone hid ht hnone
  failed _ _ hid hfault := h.leads.failed hid hfault
  account _ _ hid huser := h.leads.account hid huser

/-- A poll of the only account is a request behind a gate. -/
theorem serve_asked_sample :
    Sample.polls.request.Asks .session (fun e user r s => Messages.poll e user r s)
      ∧ Guarded .session (fun e user r s => Messages.poll e user r s) Sample.setting
          Sample.polls.request (storeAfter Sample.opened [Sample.signsUp]) := by
  have hasks : Sample.polls.request.Asks .session fun e user r s => Messages.poll e user r s :=
    .poll rfl (.inl rfl)
  exact ⟨hasks, serve_asked hasks _ _⟩

end ChatBoard
