import ChatBoard.Proofs.Board.Origin
import ChatBoard.Proofs.Store.Names

/-!
# Registering and signing in

A form with a name and a password, neither of them empty, is carried out as it stands:
`serve_register` and `serve_login` give the answer and the store in terms of what the store says of
the name. On a sound store that leaves three outcomes of a registration (`serve_register_full`,
`serve_register_taken`, `serve_register_free`) and two of an attempt to sign in
(`serve_login_known`, `serve_login_unknown`).
-/

namespace ChatBoard

variable {e : Setting} {r : Request} {s : Store} {name password : String}

/-- A form with two texts of which neither is empty gives credentials. -/
theorem Request.Submits.credentials {path : String}
    (h : r.Submits path "name" "password" name password) :
    Entrance.credentials r = .ok ⟨name, password⟩ :=
  Entrance.credentials_eq_ok_iff.2 ⟨h.form, h.first_ne, h.second_ne⟩

/-- A form that is sent to a route that is open to all is carried out there. -/
theorem serve_free {route : PublicRoute} (hroute : Route.ofPath? r.path = some (.free route))
    (hpost : r.method = .post) (htakes : (Route.free route).takesPost = true) :
    serve e r s = route.serve e r s := by
  have hanswers : (Route.free route).answers r.method = true := by
    rw [hpost]
    exact htakes
  rw [serve_route hroute hanswers, r.sent_of_post hpost]
  rfl

/-- What a registration answers and leaves. -/
theorem serve_register (h : r.Submits "/register" "name" "password" name password) :
    serve e r s
      = match s.createUser e.clock name e.salt (Password.digest e.salt password) with
        | .error _ => (.ofFailure .internal, s)
        | .ok (none, _) => (.ofFailure .conflict, s)
        | .ok (some id, s') => (Entrance.signIn e id, s') := by
  have hroute : Route.ofPath? r.path = some (.free .register) :=
    (Route.ofPath?_fixed_iff "register" (by decide)).2 h.path
  rw [serve_free hroute h.post rfl]
  dsimp only [PublicRoute.serve]
  rw [if_pos h.post]
  unfold Entrance.register
  cases hc : Entrance.credentials r with
  | error answer =>
    rw [h.credentials] at hc
    cases hc
  | ok c =>
    rw [h.credentials] at hc
    cases hc
    rfl

/-- What an attempt to sign in answers; the store stays. -/
theorem serve_login (h : r.Submits "/login" "name" "password" name password) :
    serve e r s
      = (match s.userByName name with
        | .error _ => .ofFailure .internal
        | .ok none => .ofFailure .forbidden
        | .ok (some user) =>
          if Password.verify user.row.salt password user.row.digest then Entrance.signIn e user.id
          else .ofFailure .forbidden, s) := by
  have hroute : Route.ofPath? r.path = some (.free .login) :=
    (Route.ofPath?_fixed_iff "login" (by decide)).2 h.path
  rw [serve_free hroute h.post rfl]
  dsimp only [PublicRoute.serve, keeping]
  rw [if_pos h.post]
  unfold Entrance.login
  cases hc : Entrance.credentials r with
  | error answer =>
    rw [h.credentials] at hc
    cases hc
  | ok c =>
    rw [h.credentials] at hc
    cases hc
    rfl

/-- Where no id is left, a registration fails. -/
theorem serve_register_full (h : r.Submits "/register" "name" "password" name password)
    (hfull : s.UsersFull) : serve e r s = (.ofFailure .internal, s) := by
  rw [serve_register h, Store.createUser_full hfull]

/-- A registration of a name that is taken is a conflict. -/
theorem serve_register_taken (h : r.Submits "/register" "name" "password" name password)
    (hroom : ¬ s.UsersFull) (htaken : s.HasName name) :
    serve e r s = (.ofFailure .conflict, s) := by
  rw [serve_register h, Store.createUser_taken hroom htaken]

/-- A registration of a name that is free makes an account and starts its session. -/
theorem serve_register_free (h : r.Submits "/register" "name" "password" name password)
    (hsound : s.Sound) (hroom : ¬ s.UsersFull) (hfree : ¬ s.HasName name) :
    ∃ t t' id, s.users = some t
      ∧ t.Appended (.sound ⟨name, e.salt, Password.digest e.salt password, name,
          DefaultAvatar.name, e.clock⟩) id t'
      ∧ serve e r s = (Entrance.signIn e id, { s with users := some t' }) := by
  obtain ⟨t, t', id, ht, happ, hmade⟩ := hsound.createUser_free hroom hfree e.clock e.salt
    (Password.digest e.salt password)
  refine ⟨t, t', id, ht, happ, ?_⟩
  rw [serve_register h, hmade]

/-- Signing in with the name of an account succeeds just when the password is its own. -/
theorem serve_login_known (h : r.Submits "/login" "name" "password" name password) {id : Int}
    {user : User} (huser : ⟨id, .sound user⟩ ∈ rowsOf s.users) (hname : user.name = name) :
    serve e r s
      = (if Password.digest user.salt password = user.digest then Entrance.signIn e id
        else .ofFailure .forbidden, s) := by
  have hfound : s.userByName name = .ok (some ⟨id, user⟩) :=
    Store.userByName_eq_some_iff.2 ⟨huser, hname⟩
  rw [serve_login h, hfound]
  dsimp only
  unfold Password.verify
  simp only [beq_iff_eq]

/-- Signing in with a name that no account has is forbidden. -/
theorem serve_login_unknown (h : r.Submits "/login" "name" "password" name password)
    (hsound : s.Sound) (hfree : ¬ s.HasName name) :
    serve e r s = (.ofFailure .forbidden, s) := by
  rw [serve_login h, hsound.userByName_none hfree]

/-! ## The sessions that are started -/

/-- Who is refused for the credentials gets no cookie. -/
theorem Entrance.credentials_error {answer : Response} (h : credentials r = .error answer) :
    answer.cookies = [] := by
  unfold credentials at h
  split at h
  · cases h
    rfl
  · split at h <;> cases h
    rfl

/-- A page comes without cookies. -/
theorem Response.cookies_ofPage (page : String) (scope : Page.Scope) :
    (Response.ofPage page scope).cookies = [] := by
  unfold Response.ofPage
  split <;> rfl

/-- A token starts the session of the account that a form names, which the store has. -/
def StartsSession (e : Setting) (r : Request) (s : Store) (token : Octets) : Prop :=
  ∃ id user password, r.formTexts "name" "password" = .ok (user.name, password)
    ∧ ⟨id, .sound user⟩ ∈ rowsOf s.users
    ∧ token = Token.issue e.secret ⟨id, e.seconds + Session.lifetime⟩

/-- A registration that hands out a session has made the account that it names. -/
theorem Entrance.register_keep {cookie : String} {token : Octets}
    (h : CookieOrder.keep cookie token ∈ (register e r s).1.cookies) :
    StartsSession e r (register e r s).2 token := by
  unfold register at h ⊢
  cases hc : credentials r with
  | error answer =>
    rw [hc] at h
    dsimp only at h
    rw [credentials_error hc] at h
    exact absurd h List.not_mem_nil
  | ok c =>
    rw [hc] at h
    dsimp only at h ⊢
    -- Only an account that is made gets a session.
    split at h
    · exact absurd h List.not_mem_nil
    · exact absurd h List.not_mem_nil
    next id s' hmade =>
      obtain ⟨hnone, -⟩ | ⟨id', t, t', hid, -, happ, rfl⟩ := Store.createUser_ok hmade
      · cases hnone
      · obtain rfl := Option.some.inj hid
        cases List.mem_singleton.1 h
        have hmem : ⟨id, .sound ⟨c.name, e.salt, Password.digest e.salt c.password, c.name,
            DefaultAvatar.name, e.clock⟩⟩ ∈ t'.entries := by
          rw [happ.entries]
          exact List.mem_cons_self
        exact ⟨id, _, c.password, (credentials_eq_ok_iff.1 hc).1, hmem, rfl⟩

/-- An attempt to sign in that hands out a session has found the account that it names. -/
theorem Entrance.login_keep {cookie : String} {token : Octets}
    (h : CookieOrder.keep cookie token ∈ (login e r s).cookies) :
    StartsSession e r s token := by
  unfold login at h
  cases hc : credentials r with
  | error answer =>
    rw [hc] at h
    dsimp only at h
    rw [credentials_error hc] at h
    exact absurd h List.not_mem_nil
  | ok c =>
    rw [hc] at h
    dsimp only at h
    split at h
    · exact absurd h List.not_mem_nil
    · exact absurd h List.not_mem_nil
    next user hfound =>
      obtain ⟨hmem, hname⟩ := Store.userByName_eq_some_iff.1 hfound
      split at h
      · cases List.mem_singleton.1 h
        have hform := (credentials_eq_ok_iff.1 hc).1
        rw [← hname] at hform
        exact ⟨user.id, user.row, c.password, hform, hmem, rfl⟩
      · exact absurd h List.not_mem_nil

/-- The cookies that a request to a route that is open to all gets are those of the route, if it
knows the method. -/
theorem serve_free_keep {route : PublicRoute} (hroute : Route.ofPath? r.path = some (.free route))
    {order : CookieOrder} (h : order ∈ (serve e r s).1.cookies) :
    order ∈ (route.serve e r s).1.cookies ∧ (serve e r s).2 = (route.serve e r s).2 := by
  by_cases hanswers : (Route.free route).answers r.method = true
  · rw [serve_route hroute hanswers] at h ⊢
    refine ⟨?_, rfl⟩
    -- An answer without its body has the same cookies.
    unfold Request.sent at h
    split at h <;> exact h
  · -- A refusal sets none.
    unfold serve at h
    rw [hroute] at h
    dsimp only at h
    rw [if_neg hanswers] at h
    exact absurd h List.not_mem_nil

/-- A session that a request to register or to sign in hands out is that of the account that its
form names. -/
theorem startsSession_of_keep {cookie : String} {token : Octets}
    (hpath : r.path = Octets.ofText "/register" ∨ r.path = Octets.ofText "/login")
    (h : CookieOrder.keep cookie token ∈ (serve e r s).1.cookies) :
    StartsSession e r (serve e r s).2 token := by
  have hpage : ∀ page, CookieOrder.keep cookie token
      ∉ (Response.ofPage page Page.visitorScope).cookies := by
    intro page hmem
    rw [Response.cookies_ofPage] at hmem
    exact absurd hmem List.not_mem_nil
  rcases hpath with hpath | hpath
  · have hroute : Route.ofPath? r.path = some (.free .register) :=
      (Route.ofPath?_fixed_iff "register" (by decide)).2 hpath
    obtain ⟨hkeep, hstore⟩ := serve_free_keep hroute h
    rw [hstore]
    dsimp only [PublicRoute.serve] at hkeep ⊢
    split at hkeep
    next hpost =>
      rw [if_pos hpost]
      exact Entrance.register_keep hkeep
    · exact absurd hkeep (hpage _)
  · have hroute : Route.ofPath? r.path = some (.free .login) :=
      (Route.ofPath?_fixed_iff "login" (by decide)).2 hpath
    obtain ⟨hkeep, hstore⟩ := serve_free_keep hroute h
    rw [hstore]
    dsimp only [PublicRoute.serve, keeping] at hkeep ⊢
    split at hkeep
    · exact Entrance.login_keep hkeep
    · exact absurd hkeep (hpage _)

end ChatBoard
