import ChatBoard.Proofs.Board.Entrance
import ChatBoard.Proofs.Board.Integrity
import ChatBoard.Proofs.Board.Run
import ChatBoard.Proofs.Codec.Form
import ChatBoard.Proofs.Text.Numeral

/-!
# Accounts over a run

`registry` says of every run of a board what its accounts are worth. No two of them have one name. A
registration makes an account just when its name is free and an id is left, so of all registrations
of a name one succeeds, as long as no reset takes the name away. And an account that a registration
has made lets in whoever knows its password, whatever happens later, since no request touches its
name, its salt or its digest (`storeAfter_account`). The ids are many but can be used up, and then
no registration succeeds (`register_used_up`).
-/

namespace ChatBoard

/-- An answer that lets an account in: it goes to the welcome page and starts a session of the
account. -/
structure Welcomes (e : Setting) (id : Int) (answer : Response) : Prop where
  status : answer.status = 303
  location : answer.location = some (Octets.ofText "/")
  cookies : answer.cookies
    = [.keep Session.cookieName (Token.issue e.secret ⟨id, e.seconds + Session.lifetime⟩)]

/-- Signing in lets an account in. -/
theorem welcomes_signIn (e : Setting) (id : Int) : Welcomes e id (Entrance.signIn e id) where
  status := rfl
  location := rfl
  cookies := rfl

/-- A store where an account can sign in. -/
structure LetsIn (s : Store) (id : Int) (user : User) (password : String) : Prop where
  /-- Its password lets it in. -/
  own : ∀ e r, r.Submits "/login" "name" "password" user.name password →
    Welcomes e id (serve e r s).1
  /-- A password is accepted just when the digest of the salt followed by it is the stored one. -/
  accepted : ∀ e r attempt, r.Submits "/login" "name" "password" user.name attempt →
    ((serve e r s).1.status = 303 ↔ Octets.toHex (Digest.Sha1.digest
      (Octets.ofText user.salt ++ Octets.ofText attempt)) = user.digest)
  /-- A password that is accepted lets the account in. -/
  welcomed : ∀ e r attempt, r.Submits "/login" "name" "password" user.name attempt →
    (serve e r s).1.status = 303 → Welcomes e id (serve e r s).1
  /-- Another one is forbidden. -/
  refused : ∀ e r attempt, r.Submits "/login" "name" "password" user.name attempt →
    (serve e r s).1.status ≠ 303 → (serve e r s).1.status = 403

/-- An account whose digest is that of its salt and a password can sign in with it. -/
theorem letsIn_of_mem {s : Store} {id : Int} {user : User} {password : String}
    (huser : ⟨id, .sound user⟩ ∈ rowsOf s.users)
    (hdigest : user.digest = Password.digest user.salt password) : LetsIn s id user password := by
  -- There are two outcomes, and their statuses tell them apart.
  have houtcome : ∀ e r attempt, r.Submits "/login" "name" "password" user.name attempt →
      Password.digest user.salt attempt = user.digest ∧ (serve e r s).1 = Entrance.signIn e id
      ∨ Password.digest user.salt attempt ≠ user.digest
        ∧ (serve e r s).1 = .ofFailure .forbidden := by
    intro e r attempt h
    rw [serve_login_known h huser rfl]
    dsimp only
    by_cases heq : Password.digest user.salt attempt = user.digest
    · exact .inl ⟨heq, if_pos heq⟩
    · exact .inr ⟨heq, if_neg heq⟩
  have hforbidden : (Response.ofFailure .forbidden).status ≠ 303 := by decide
  constructor
  · intro e r h
    rcases houtcome e r password h with ⟨-, heq⟩ | ⟨hne, -⟩
    · rw [heq]
      exact welcomes_signIn e id
    · exact absurd hdigest.symm hne
  · intro e r attempt h
    rcases houtcome e r attempt h with ⟨hdigest, heq⟩ | ⟨hne, heq⟩
    · rw [heq]
      exact ⟨fun _ => hdigest, fun _ => (welcomes_signIn e id).status⟩
    · rw [heq]
      exact ⟨fun hstatus => absurd hstatus hforbidden, fun hdigest => absurd hdigest hne⟩
  · intro e r attempt h hstatus
    rcases houtcome e r attempt h with ⟨-, heq⟩ | ⟨-, heq⟩
    · rw [heq]
      exact welcomes_signIn e id
    · rw [heq] at hstatus
      exact absurd hstatus hforbidden
  · intro e r attempt h hstatus
    rcases houtcome e r attempt h with ⟨-, heq⟩ | ⟨-, heq⟩
    · rw [heq] at hstatus
      exact absurd (welcomes_signIn e id).status hstatus
    · rw [heq]
      rfl

/-! ## Accounts that stay -/

section

variable {e : Setting} {r : Request} {s : Store} {name : String}

/-- An account keeps all but its display name and its avatar, unless a reset takes it away. -/
theorem serve_account {id : Int} {user : User} (huser : ⟨id, .sound user⟩ ∈ rowsOf s.users)
    (hkeep : r.Resets → id ≤ 1000) :
    ∃ displayName avatar,
      ⟨id, .sound { user with displayName := displayName, avatar := avatar }⟩
        ∈ rowsOf (serve e r s).2.users := by
  rw [serve_store]
  rcases (Effect.intact e r s).users _ huser with
    hkept | ⟨u, displayName, avatar, hrow, -, hmem⟩ | ⟨hreset, hlt, -⟩
  · exact ⟨user.displayName, user.avatar, hkept⟩
  · cases hrow
    exact ⟨displayName, avatar, hmem⟩
  · exact absurd (hkeep hreset) (Int.not_le.2 hlt)

/-- A name stays taken, unless a reset takes it away. -/
theorem serve_hasName (hname : s.HasName name)
    (hkeep : r.Resets → s.HasName name → (serve e r s).2.HasName name) :
    (serve e r s).2.HasName name := by
  -- Only a reset could take the account with the name away.
  by_cases hreset : r.Resets
  · exact hkeep hreset hname
  · obtain ⟨id, user, huser, hname⟩ := hname
    obtain ⟨displayName, avatar, hmem⟩ :=
      serve_account (e := e) huser fun hresets => absurd hresets hreset
    exact ⟨id, _, hmem, hname⟩

/-- The name that a request registers, if it does. -/
def Request.newName? (r : Request) : Option String :=
  if r.method = .post ∧ r.path = Octets.ofText "/register" then
    match Entrance.credentials r with
    | .ok c => some c.name
    | .error _ => none
  else none

/-- A request registers a name just when it submits it with a password. -/
theorem Request.newName?_eq_some_iff :
    r.newName? = some name ↔ ∃ password, r.Submits "/register" "name" "password" name password := by
  unfold newName?
  constructor
  · intro h
    split at h
    next hto =>
      split at h
      next c hc =>
        cases h
        obtain ⟨hform, hname, hpassword⟩ := Entrance.credentials_eq_ok_iff.1 hc
        exact ⟨c.password, hto.1, hto.2, hform, hname, hpassword⟩
      · cases h
    · cases h
  · rintro ⟨password, h⟩
    rw [if_pos ⟨h.post, h.path⟩, h.credentials]

/-- A name that is taken after a request was taken before, or the request has registered it. -/
theorem hasName_of_serve (hsound : s.Sound) (hother : r.newName? ≠ some name)
    (h : (serve e r s).2.HasName name) : s.HasName name := by
  have horigin := Effect.origin e r s
  have hchange := Effect.change e.clock s (Effect.ofRequest e r s)
  rw [serve_store] at h
  generalize Effect.ofRequest e r s = effect at horigin hchange h
  generalize effect.apply e.clock s = s' at hchange h
  obtain ⟨id, user, huser, hname⟩ := h
  cases hchange with
  | kept => exact ⟨id, user, huser, hname⟩
  | reset hcut => exact ⟨id, user, hcut.users.subset _ huser, hname⟩
  | @registered name' salt digest id' t t' ht happ =>
    rw [rowsOf_some, happ.entries] at huser
    rcases List.mem_cons.1 huser with hnew | hold
    · -- The account is new, so the request has registered its name.
      cases hnew
      cases horigin with
      | register form =>
        rw [← hname] at hother
        exact absurd (Request.newName?_eq_some_iff.2 ⟨_, form⟩) hother
    · rw [← rowsOf_some t, ← ht] at hold
      exact ⟨id, user, hold, hname⟩
  | channelAdded => exact ⟨id, user, huser, hname⟩
  | posted => exact ⟨id, user, huser, hname⟩
  | polled => exact ⟨id, user, huser, hname⟩
  | @updated account upload s₁ s' hpicture haccount =>
    have husers := hpicture.users
    cases haccount with
    | kept =>
      rw [husers] at huser
      exact ⟨id, user, huser, hname⟩
    | @account t t' ht htouched =>
      rw [husers] at ht
      obtain ⟨x, hx, hid, hrow⟩ := htouched.origin huser
      -- The row was readable, so it was that of an account with the same name.
      obtain ⟨before, hbefore⟩ := (hsound.users_sound ht).readable x hx
      obtain ⟨xid, row⟩ := x
      dsimp only at hbefore hid hrow
      subst hbefore
      rw [← rowsOf_some t, ← ht] at hx
      refine ⟨xid, before, hx, ?_⟩
      rcases hrow with hsame | htouch
      · cases hsame
        exact hname
      · obtain ⟨displayName, avatar, heq⟩ := htouch before rfl
        cases heq
        exact hname

end

/-- An account keeps its name, its salt and its digest during a run, unless a reset takes it
away. -/
theorem storeAfter_account {now : String} {earlier later : List Call} {id : Int} {user : User}
    (huser : ⟨id, .sound user⟩ ∈ rowsOf (storeAfter now earlier).users)
    (hkeep : ∀ call ∈ later, call.request.Resets → id ≤ 1000) :
    ∃ displayName avatar,
      ⟨id, .sound { user with displayName := displayName, avatar := avatar }⟩
        ∈ rowsOf (storeAfter now (later ++ earlier)).users := by
  induction later with
  | nil => exact ⟨user.displayName, user.avatar, huser⟩
  | cons call later ih =>
    obtain ⟨displayName, avatar, hmem⟩ := ih fun c hc => hkeep c (List.mem_cons_of_mem call hc)
    obtain ⟨displayName', avatar', hmem'⟩ :=
      serve_account (e := call.setting) hmem (hkeep call List.mem_cons_self)
    exact ⟨displayName', avatar', hmem'⟩

/-! ## Registrations of one name -/

/-- The statuses that the registrations of a name get in the later part of a run, the latest
first. -/
def registrations (now name : String) (earlier : List Call) : List Call → List Nat
  | [] => []
  | call :: later =>
    let before := registrations now name earlier later
    if call.request.newName? = some name then
      (serve call.setting call.request (storeAfter now (later ++ earlier))).1.status :: before
    else before

/-- No reset in the later part of a run takes a name away. -/
def KeepsName (now name : String) (earlier : List Call) : List Call → Prop
  | [] => True
  | call :: later =>
    KeepsName now name earlier later
      ∧ (call.request.Resets → (storeAfter now (later ++ earlier)).HasName name →
          (storeAfter now (call :: later ++ earlier)).HasName name)

/-- What has become of the registrations of a name, from the statuses that they got and whether it
was taken first and is taken at last. -/
inductive Registered (first last : Prop) (statuses : List Nat) : Prop where
  /-- It was taken before any of them. -/
  | before (was : first) (still : last) (taken : ∀ status ∈ statuses, status = 409 ∨ status = 500)
  /-- One of them has succeeded. -/
  | once (free : ¬ first) (now : last) (one : statuses.count 303 = 1)
      (others : ∀ status ∈ statuses, status = 303 ∨ status = 409 ∨ status = 500)
  /-- None of them has found an id. -/
  | never (free : ¬ first) (still : ¬ last) (full : ∀ status ∈ statuses, status = 500)

namespace Registered

variable {first last : Prop} {statuses : List Nat}

/-- A registration that finds no id changes nothing about the name. -/
theorem full (h : Registered first last statuses) : Registered first last (500 :: statuses) := by
  cases h with
  | before was still taken => exact .before was still (List.forall_mem_cons.2 ⟨.inr rfl, taken⟩)
  | once free now one others =>
    refine .once free now ?_ (List.forall_mem_cons.2 ⟨.inr (.inr rfl), others⟩)
    rw [List.count_cons_of_ne (by decide), one]
  | never free still full => exact .never free still (List.forall_mem_cons.2 ⟨rfl, full⟩)

/-- A registration of a name that is taken changes nothing about the name. -/
theorem taken (h : Registered first last statuses) (htaken : last) :
    Registered first last (409 :: statuses) := by
  cases h with
  | before was still taken => exact .before was still (List.forall_mem_cons.2 ⟨.inl rfl, taken⟩)
  | once free now one others =>
    refine .once free now ?_ (List.forall_mem_cons.2 ⟨.inr (.inl rfl), others⟩)
    rw [List.count_cons_of_ne (by decide), one]
  | never free still full => exact absurd htaken still

/-- A registration that succeeds is the first that does. -/
theorem free {last' : Prop} (h : Registered first last statuses) (hfree : ¬ last) (hlast : last') :
    Registered first last' (303 :: statuses) := by
  cases h with
  | before was still taken => exact absurd still hfree
  | once free now one others => exact absurd now hfree
  | never free still full =>
    -- All those before it were answered with 500.
    have hnone : statuses.count 303 = 0 :=
      List.count_eq_zero.2 fun hmem => absurd (full 303 hmem) (by decide)
    refine .once free hlast ?_ (List.forall_mem_cons.2 ⟨.inl rfl, fun status h => ?_⟩)
    · rw [List.count_cons_self, hnone]
    · exact .inr (.inr (full status h))

end Registered

/-- A registration finds no id, or its name is taken, or it takes the name. -/
theorem serve_register_cases {e : Setting} {r : Request} {s : Store} {name password : String}
    (h : r.Submits "/register" "name" "password" name password) (hsound : s.Sound) :
    (serve e r s).1.status = 500 ∧ (serve e r s).2 = s
      ∨ (serve e r s).1.status = 409 ∧ (serve e r s).2 = s ∧ s.HasName name
      ∨ (serve e r s).1.status = 303 ∧ ¬ s.HasName name ∧ (serve e r s).2.HasName name := by
  by_cases hfull : s.UsersFull
  · rw [serve_register_full h hfull]
    exact .inl ⟨rfl, rfl⟩
  by_cases htaken : s.HasName name
  · rw [serve_register_taken h hfull htaken]
    exact .inr (.inl ⟨rfl, rfl, htaken⟩)
  · obtain ⟨t, t', id, -, happ, heq⟩ := serve_register_free (e := e) h hsound hfull htaken
    rw [heq]
    have hmade : ⟨id, .sound ⟨name, e.salt, Password.digest e.salt password, name,
        DefaultAvatar.name, e.clock⟩⟩ ∈ rowsOf (some t') := by
      rw [rowsOf_some, happ.entries]
      exact List.mem_cons_self
    exact .inr (.inr ⟨rfl, htaken, id, _, hmade, rfl⟩)

/-- What has become of the registrations of a name during a run where no reset takes it away. -/
theorem registered_registrations (now name : String) (earlier later : List Call)
    (hkeeps : KeepsName now name earlier later) :
    Registered ((storeAfter now earlier).HasName name)
      ((storeAfter now (later ++ earlier)).HasName name)
      (registrations now name earlier later) := by
  induction later with
  | nil =>
    have hnone : ∀ {P : Nat → Prop}, ∀ status ∈ ([] : List Nat), P status :=
      fun status h => absurd h List.not_mem_nil
    by_cases htaken : (storeAfter now earlier).HasName name
    · exact .before htaken htaken hnone
    · exact .never htaken htaken hnone
  | cons call later ih =>
    obtain ⟨hearlier, hreset⟩ := hkeeps
    have hbefore := ih hearlier
    have hsound := storeAfter_sound now (later ++ earlier)
    rw [List.cons_append, storeAfter] at hreset ⊢
    unfold registrations
    dsimp only
    generalize storeAfter now (later ++ earlier) = s at *
    -- The call registers the name, or it leaves the name as it was.
    by_cases hnew : call.request.newName? = some name
    · rw [if_pos hnew]
      obtain ⟨password, hsubmits⟩ := Request.newName?_eq_some_iff.1 hnew
      rcases serve_register_cases (e := call.setting) hsubmits hsound with
        ⟨hstatus, hstore⟩ | ⟨hstatus, hstore, htaken⟩ | ⟨hstatus, hfree, htaken⟩
      · rw [hstatus, hstore]
        exact hbefore.full
      · rw [hstatus, hstore]
        exact hbefore.taken htaken
      · rw [hstatus]
        exact hbefore.free hfree htaken
    · rw [if_neg hnew]
      have hstays : (serve call.setting call.request s).2.HasName name ↔ s.HasName name :=
        ⟨hasName_of_serve hsound hnew, fun h => serve_hasName h hreset⟩
      rw [hstays]
      exact hbefore

/-! ## The accounts of a run -/

/-- What the accounts are worth after a run. -/
structure Registry (now : String) (run : List Call) : Prop where
  /-- Every account can be read. -/
  readable : ∀ x ∈ rowsOf (storeAfter now run).users, ∃ user, x.row = .sound user
  /-- No two accounts have one name. -/
  distinct : ∀ id user id' user', ⟨id, .sound user⟩ ∈ rowsOf (storeAfter now run).users →
    ⟨id', .sound user'⟩ ∈ rowsOf (storeAfter now run).users → user.name = user'.name → id = id'
  /-- A registration of a name that is free makes an account and lets it in. -/
  free : ∀ e r name password, r.Submits "/register" "name" "password" name password →
    ¬ (storeAfter now run).UsersFull → ¬ (storeAfter now run).HasName name →
      ∃ id, Welcomes e id (serve e r (storeAfter now run)).1
        ∧ ⟨id, .sound ⟨name, e.salt, Password.digest e.salt password, name, DefaultAvatar.name,
            e.clock⟩⟩ ∈ rowsOf (serve e r (storeAfter now run)).2.users
  /-- A registration of a name that is taken is a conflict and changes nothing. -/
  taken : ∀ e r name password, r.Submits "/register" "name" "password" name password →
    ¬ (storeAfter now run).UsersFull → (storeAfter now run).HasName name →
      (serve e r (storeAfter now run)).1.status = 409
        ∧ (serve e r (storeAfter now run)).2 = storeAfter now run
  /-- A registration fails where no id is left, and changes nothing. -/
  full : ∀ e r name password, r.Submits "/register" "name" "password" name password →
    (storeAfter now run).UsersFull →
      (serve e r (storeAfter now run)).1.status = 500
        ∧ (serve e r (storeAfter now run)).2 = storeAfter now run
  /-- While no reset takes a name away, no registration of it succeeds if it was taken, and else
  one does, unless there is none that finds an id. -/
  once : ∀ name later, KeepsName now name run later →
    (∀ status ∈ registrations now name run later, status = 303 ∨ status = 409 ∨ status = 500)
      ∧ ((storeAfter now run).HasName name → (registrations now name run later).count 303 = 0)
      ∧ (¬ (storeAfter now run).HasName name →
          (∃ status ∈ registrations now name run later, status ≠ 500) →
            (registrations now name run later).count 303 = 1)
  /-- An account that a registration has made can sign in, until a reset takes it away. -/
  account : ∀ (call : Call) name password,
    call.request.Submits "/register" "name" "password" name password →
      (serve call.setting call.request (storeAfter now run)).1.status = 303 →
        ∃ id, Welcomes call.setting id (serve call.setting call.request (storeAfter now run)).1
          ∧ ∀ later, (∀ c ∈ later, c.request.Resets → id ≤ 1000) →
            ∃ user, ⟨id, .sound user⟩ ∈ rowsOf (storeAfter now (later ++ call :: run)).users
              ∧ user.name = name ∧ user.salt = call.setting.salt
              ∧ user.digest = Password.digest call.setting.salt password
              ∧ LetsIn (storeAfter now (later ++ call :: run)) id user password

/-- After every run the accounts are worth what a registry promises. -/
theorem registry (now : String) (run : List Call) : Registry now run := by
  have hsound := storeAfter_sound now run
  constructor
  · intro x hx
    obtain ⟨t, ht, htable⟩ := hsound.users
    rw [ht] at hx
    exact htable.readable x hx
  · intro id user id' user' huser huser' hname
    obtain ⟨t, ht, -⟩ := hsound.users
    rw [ht] at huser huser'
    have hlabel : label (Stored.sound user) = some [.text user'.name] := by
      rw [← hname]
      rfl
    exact congrArg Entry.id (t.eq_of_label_eq huser huser' hlabel rfl)
  · intro e r name password h hroom hfree
    obtain ⟨t, t', id, -, happ, heq⟩ := serve_register_free (e := e) h hsound hroom hfree
    rw [heq]
    refine ⟨id, welcomes_signIn e id, ?_⟩
    rw [rowsOf_some, happ.entries]
    exact List.mem_cons_self
  · intro e r name password h hroom htaken
    rw [serve_register_taken h hroom htaken]
    exact ⟨rfl, rfl⟩
  · intro e r name password h hfull
    rw [serve_register_full h hfull]
    exact ⟨rfl, rfl⟩
  · intro name later hkeeps
    cases registered_registrations now name run later hkeeps with
    | before was still taken =>
      refine ⟨fun status h => .inr (taken status h), fun _ => ?_, fun free => absurd was free⟩
      refine List.count_eq_zero.2 fun hmem => ?_
      rcases taken 303 hmem with h | h <;> cases h
    | once free now one others => exact ⟨others, fun was => absurd was free, fun _ _ => one⟩
    | never free still full =>
      refine ⟨fun status h => .inr (.inr (full status h)), fun was => absurd was free, ?_⟩
      rintro - ⟨status, hmem, hne⟩
      exact absurd (full status hmem) hne
  · intro call name password h hstatus
    -- Only a registration of a name that is free succeeds.
    have hroom : ¬ (storeAfter now run).UsersFull := by
      intro hfull
      rw [serve_register_full h hfull] at hstatus
      cases hstatus
    have hfree : ¬ (storeAfter now run).HasName name := by
      intro htaken
      rw [serve_register_taken h hroom htaken] at hstatus
      cases hstatus
    obtain ⟨t, t', id, -, happ, heq⟩ := serve_register_free (e := call.setting) h hsound hroom hfree
    rw [heq]
    refine ⟨id, welcomes_signIn call.setting id, fun later hkeep => ?_⟩
    have hmade : ⟨id, .sound ⟨name, call.setting.salt, Password.digest call.setting.salt password,
        name, DefaultAvatar.name, call.setting.clock⟩⟩
          ∈ rowsOf (storeAfter now (call :: run)).users := by
      rw [storeAfter, heq, rowsOf_some, happ.entries]
      exact List.mem_cons_self
    obtain ⟨displayName, avatar, hmem⟩ := storeAfter_account hmade hkeep
    exact ⟨_, hmem, rfl, rfl, rfl, letsIn_of_mem hmem rfl⟩

/-! ## When the ids are used up -/

namespace Sample

/-- Makes an account with a name. -/
def joins (name : String) : Call := call .post "/register" "" ("name=" ++ name ++ "&password=pw")

/-- Makes one account after the other, each named by a numeral. -/
def crowd : Nat → List Call
  | 0 => []
  | n + 1 => joins (Numeral.ofNat n) :: crowd n

/-- The call with a short name that stands for itself in a form registers the name. -/
theorem joins_submits {name : String} (hplain : Form.Plain name) (hne : name ≠ "")
    (hshort : (Octets.ofText name).length ≤ 19) :
    (joins name).request.Submits "/register" "name" "password" name "pw" := by
  have hbody : (joins name).request.body
      = Form.written ("name", name) ++ 0x26 :: Form.written ("password", "pw") := by
    have hfirst : Octets.ofText "name=" = Octets.ofText "name" ++ [0x3d] := by decide
    have hsecond : Octets.ofText "&password=pw" = 0x26 :: Form.written ("password", "pw") := by
      decide
    show Octets.ofText ("name=" ++ name ++ "&password=pw") = _
    rw [Octets.ofText_append, Octets.ofText_append, hfirst, hsecond, List.append_assoc]
    rfl
  have hlength : (joins name).request.isTooLarge = false := by
    have hrest : (Octets.ofText "name").length = 4
        ∧ (Form.written ("password", "pw")).length = 11 := by decide
    unfold Request.isTooLarge Request.bodyLimit
    rw [hbody, decide_eq_false_iff_not, List.length_append, List.length_cons, hrest.2, Form.written,
      List.length_append, List.length_cons, hrest.1]
    dsimp only
    omega
  have hfields : (joins name).request.formFields = .ok [("name", name), ("password", "pw")] := by
    have hform : MediaType.isForm (joins name).request.contentType = true := by
      show MediaType.isForm (some (Octets.ofText "application/x-www-form-urlencoded")) = true
      decide
    have hname : Form.Plain "name" := by decide
    have hpassword : Form.Plain "password" ∧ Form.Plain "pw" := by decide
    unfold Request.formFields
    rw [hform, hlength, hbody, Form.fields_plain hname hplain hpassword.1 hpassword.2]
    rfl
  refine ⟨rfl, rfl, ?_, hne, by decide⟩
  unfold Request.formTexts
  rw [hfields]
  rfl

/-- The numeral of an id is a name that can be registered so. -/
theorem joins_ofNat {n : Nat} (h : n ≤ largestId) :
    (joins (Numeral.ofNat n)).request.Submits "/register" "name" "password" (Numeral.ofNat n)
      "pw" := by
  refine joins_submits ?_ ?_ ?_
  · intro b hb
    rw [Numeral.ofText_ofNat] at hb
    obtain ⟨c, hc, rfl⟩ := List.mem_map.1 hb
    have hdigit : c.isDigit := Nat.isDigit_of_mem_toDigits (by decide) (by decide) hc
    have hcode := Numeral.toNat_of_isDigit hdigit
    have hoctet := Numeral.toNat_octet hdigit
    -- The octets of digits are above the four that have a meaning, or below.
    refine ⟨?_, ?_, ?_, ?_⟩ <;> intro heq <;> rw [heq] at hoctet
    · have : (0x26 : UInt8).toNat = 38 := rfl
      omega
    · have : (0x3d : UInt8).toNat = 61 := rfl
      omega
    · have : (0x25 : UInt8).toNat = 37 := rfl
      omega
    · have : (0x2b : UInt8).toNat = 43 := rfl
      omega
  · -- A numeral has a digit.
    intro hempty
    refine Numeral.toList_ofNat_ne_nil n ?_
    rw [hempty]
    rfl
  · -- An id has at most nineteen digits.
    rw [Numeral.ofText_ofNat, List.length_map, Nat.length_toDigits_le_iff (by decide) (by decide)]
    exact Nat.lt_of_le_of_lt h (by decide)

/-- The accounts that a crowd has made have used up as many ids, and are named by numerals. -/
theorem crowd_users {n : Nat} (h : n ≤ largestId) :
    (∃ t, (storeAfter opened (crowd n)).users = some t ∧ t.counter = n)
      ∧ ∀ name, (storeAfter opened (crowd n)).HasName name → ∃ k < n, name = Numeral.ofNat k := by
  induction n with
  | zero =>
    refine ⟨⟨.empty, rfl, rfl⟩, ?_⟩
    rintro name ⟨id, user, hmem, -⟩
    exact absurd hmem List.not_mem_nil
  | succ n ih =>
    obtain ⟨⟨t, ht, hcounter⟩, hnames⟩ := ih (by omega)
    have hsubmits := joins_ofNat (n := n) (by omega)
    have hsound := storeAfter_sound opened (crowd n)
    -- There is an id left, and the next numeral is free.
    have hroom : ¬ (storeAfter opened (crowd n)).UsersFull := by
      rintro ⟨t₁, ht₁, hfull⟩
      obtain rfl : t₁ = t := Option.some.inj (ht₁.symm.trans ht)
      omega
    have hfree : ¬ (storeAfter opened (crowd n)).HasName (Numeral.ofNat n) := by
      intro htaken
      obtain ⟨k, hk, heq⟩ := hnames _ htaken
      -- Two numbers with one numeral are equal.
      have hread := congrArg (fun s => Nat.ofDigitChars 10 s.toList 0) heq
      simp only [Numeral.ofNat, String.toList_ofList, Nat.ofDigitChars_ten_toDigits] at hread
      omega
    obtain ⟨t₁, t', id, ht₁, happ, heq⟩ :=
      serve_register_free (e := setting) hsubmits hsound hroom hfree
    obtain rfl : t₁ = t := Option.some.inj (ht₁.symm.trans ht)
    have hstore : storeAfter opened (crowd (n + 1))
        = { storeAfter opened (crowd n) with users := some t' } :=
      congrArg Prod.snd heq
    rw [hstore]
    refine ⟨⟨t', rfl, by rw [happ.counter, hcounter]⟩, ?_⟩
    rintro name ⟨id', user, hmem, rfl⟩
    rw [rowsOf_some, happ.entries] at hmem
    rcases List.mem_cons.1 hmem with hnew | hold
    · cases hnew
      exact ⟨n, by omega, rfl⟩
    · rw [← rowsOf_some t₁, ← ht] at hold
      obtain ⟨k, hk, hname⟩ := hnames user.name ⟨id', user, hold, rfl⟩
      exact ⟨k, by omega, hname⟩

end Sample

/-- When as many accounts have been made as there are ids, a registration fails though its name is
free. -/
theorem register_used_up :
    (Sample.joins "alice").request.Submits "/register" "name" "password" "alice" "pw"
      ∧ ¬ (storeAfter Sample.opened (Sample.crowd largestId)).HasName "alice"
      ∧ (serve Sample.setting (Sample.joins "alice").request
          (storeAfter Sample.opened (Sample.crowd largestId))).1.status = 500 := by
  have hsubmits : (Sample.joins "alice").request.Submits "/register" "name" "password" "alice"
      "pw" := Sample.joins_submits (by decide) (by decide) (by decide)
  obtain ⟨⟨t, ht, hcounter⟩, hnames⟩ := Sample.crowd_users (Nat.le_refl largestId)
  refine ⟨hsubmits, ?_, ?_⟩
  · intro htaken
    obtain ⟨k, -, heq⟩ := hnames "alice" htaken
    -- The first character of a numeral is a digit, that of the name is not.
    have hdigits := Numeral.isDigit_ofNat k
    rw [← heq] at hdigits
    exact absurd (hdigits 'a' (by decide)) (by decide)
  · rw [serve_register_full hsubmits ⟨t, ht, Nat.le_of_eq hcounter.symm⟩]
    rfl

end ChatBoard
