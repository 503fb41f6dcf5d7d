import ChatBoard.Proofs.Board.Gates
import ChatBoard.Proofs.Codec.Form
import ChatBoard.Proofs.Octets
import ChatBoard.Proofs.Session.Token
import Mathlib.Data.FinEnum

/-!
# The session of a client

A client keeps cookies by name, obeys the answers that it gets, and sends all that it keeps with its
next request, in any order. `session_life` says what this makes of its session, whatever else it
keeps: after an answer that has signed it in, its next request has the session of that account until
the session has ended, and after it has signed out, its next request has no session.

What a client sends is read back cookie by cookie (`Client.Sends.mem_ofLines_iff`). The token of a
session has neither a separator nor an escape in it, so it is read as it was issued. Nothing that
the client keeps under another name can be taken for a session, and what it keeps under the name is
replaced or removed by the answer.
-/

namespace ChatBoard

/-! ## Clients -/

/-- A visible ASCII character. -/
def Octets.IsVisible (b : UInt8) : Prop := 0x21 ≤ b ∧ b ≤ 0x7e

instance (b : UInt8) : Decidable (Octets.IsVisible b) :=
  inferInstanceAs (Decidable (0x21 ≤ b ∧ b ≤ 0x7e))

/-- A cookie as a client keeps it. Its name is read as that of the session's cookie only if it is
that name. -/
structure KeptCookie where
  name : Octets
  value : Octets
  sendableName : ∀ b ∈ name, Octets.IsVisible b ∧ b ≠ 0x3b ∧ b ≠ 0x3d
  sendableValue : ∀ b ∈ value, Octets.IsVisible b ∧ b ≠ 0x3b
  single : Percent.decode name = Octets.ofText Session.cookieName →
    name = Octets.ofText Session.cookieName

namespace KeptCookie

/-- The cookie that a client keeps when it is told a name and a value, if it can send them back. -/
def of? (name value : Octets) : Option KeptCookie :=
  if h : (∀ b ∈ name, Octets.IsVisible b ∧ b ≠ 0x3b ∧ b ≠ 0x3d)
      ∧ (∀ b ∈ value, Octets.IsVisible b ∧ b ≠ 0x3b)
      ∧ (Percent.decode name = Octets.ofText Session.cookieName →
        name = Octets.ofText Session.cookieName) then
    some ⟨name, value, h.1, h.2.1, h.2.2⟩
  else none

/-- A cookie as it is sent. -/
def written (c : KeptCookie) : Octets := c.name ++ 0x3d :: c.value

/-- The cookie lines of a request: one that has all cookies, or none. -/
def lines : List KeptCookie → List Octets
  | [] => []
  | c :: rest => [c.written ++ rest.flatMap fun d => 0x3b :: 0x20 :: d.written]

end KeptCookie

/-- A client with the cookies that it keeps, one for each name. -/
structure Client where
  cookies : List KeptCookie
  apart : (cookies.map (·.name)).Nodup

namespace Client

/-- The client without a cookie. -/
def remove (client : Client) (name : Octets) : Client where
  cookies := client.cookies.filter (·.name != name)
  apart := client.apart.sublist (List.filter_sublist.map _)

/-- The client with a cookie, which replaces one with the same name. -/
def keep (client : Client) (c : KeptCookie) : Client where
  cookies := c :: (client.remove c.name).cookies
  apart := by
    refine List.nodup_cons.2 ⟨fun hmem => ?_, (client.remove c.name).apart⟩
    obtain ⟨d, hd, hname⟩ := List.mem_map.1 hmem
    have hne := (List.mem_filter.1 hd).2
    rw [bne_iff_ne] at hne
    exact hne hname

/-- The client after an instruction. -/
def obey (client : Client) : CookieOrder → Client
  | .keep name value => ((KeptCookie.of? (Octets.ofText name) value).map client.keep).getD client
  | .remove name => client.remove (Octets.ofText name)

/-- The client after an answer. -/
def after (client : Client) (answer : Response) : Client := answer.cookies.foldl obey client

/-- A request comes with the cookies of a client, in some order. -/
def Sends (client : Client) (r : Request) : Prop :=
  ∃ order, List.Perm order client.cookies ∧ r.cookieLines = KeptCookie.lines order

end Client

/-- What becomes of the session of a client. -/
structure SessionLife (client : Client) : Prop where
  /-- After an answer that signs in, the next request has the session of the account until it has
  ended, whatever the client has kept before. -/
  started : ∀ e r s id, (serve e r s).1 = Entrance.signIn e id →
    -0x8000000000000000 ≤ id → id ≤ 0x7fffffffffffffff →
      e.seconds + Session.lifetime ≤ 0xffffffffffffffff →
        ∀ e' r', (client.after (serve e r s).1).Sends r' → e'.secret = e.secret →
          e'.seconds ≤ e.seconds + Session.lifetime → r'.sessionId? e' = some id
  /-- After the client has signed out, the next request has no session. -/
  ended : ∀ e r s, client.Sends r → r.IsGet → r.path = Octets.ofText "/logout" →
    ∀ e' r', (client.after (serve e r s).1).Sends r' → r'.sessionId? e' = none

/-! ## Reading back what is sent -/

namespace KeptCookie

variable {c : KeptCookie} {d : Cookie}

/-- No visible character is a gap. -/
theorem isGap_of_visible {bs : Octets} (h : ∀ b ∈ bs, Octets.IsVisible b) :
    ∀ b ∈ bs, Octets.isGap b = false := by
  have hgap : ∀ b, Octets.isGap b = true → ¬ Octets.IsVisible b := by
    intro b hb
    unfold Octets.isGap at hb
    rw [Bool.or_eq_true, beq_iff_eq, beq_iff_eq] at hb
    rcases hb with rfl | rfl <;> decide
  intro b hb
  exact Bool.eq_false_iff.2 fun htrue => hgap b htrue (h b hb)

/-- What is read of a cookie that is sent: its name and its value with their escapes decoded. -/
theorem ofPiece?_written_eq_some_iff :
    Cookie.ofPiece? c.written = some d
      ↔ c.name ≠ [] ∧ Percent.decode c.name = Octets.ofText d.name
        ∧ Percent.decode c.value = Octets.ofText d.value := by
  have hname := Octets.trim_of_forall_not (isGap_of_visible fun b hb => (c.sendableName b hb).1)
  have hvalue := Octets.trim_of_forall_not (isGap_of_visible fun b hb => (c.sendableValue b hb).1)
  have hequals : (0x3d : UInt8) ∉ c.name := fun hmem => (c.sendableName _ hmem).2.2 rfl
  unfold Cookie.ofPiece? written
  rw [Octets.cutAt_append_cons hequals]
  dsimp only
  rw [hname, hvalue]
  simp only [List.isEmpty_iff, ← Octets.toText?_eq_some_iff]
  by_cases hempty : c.name = []
  · rw [if_pos hempty]
    exact ⟨fun h => (nomatch h), fun h => absurd hempty h.1⟩
  rw [if_neg hempty]
  cases Octets.toText? (Percent.decode c.name) with
  | none => exact ⟨fun h => (nomatch h), fun h => (nomatch h.2.1)⟩
  | some name =>
    cases Octets.toText? (Percent.decode c.value) with
    | none => exact ⟨fun h => (nomatch h), fun h => (nomatch h.2.2)⟩
    | some value =>
      obtain ⟨name', value'⟩ := d
      simp [hempty]

/-- The space before a cookie is passed over. -/
theorem ofPiece?_space (c : KeptCookie) :
    Cookie.ofPiece? (0x20 :: c.written) = Cookie.ofPiece? c.written := by
  have hequals : (0x3d : UInt8) ∉ c.name := fun hmem => (c.sendableName _ hmem).2.2 rfl
  have hequals' : (0x3d : UInt8) ∉ 0x20 :: c.name := by
    rw [List.mem_cons]
    rintro (heq | hmem)
    · exact absurd heq (by decide)
    · exact hequals hmem
  unfold Cookie.ofPiece? written
  rw [← List.cons_append, Octets.cutAt_append_cons hequals, Octets.cutAt_append_cons hequals']
  dsimp only
  rw [Octets.trim_cons rfl]

/-- A cookie that is sent has no semicolon in it. -/
theorem not_mem_written (c : KeptCookie) : 0x3b ∉ c.written := by
  unfold written
  rw [List.mem_append, List.mem_cons]
  rintro (hmem | heq | hmem)
  · exact (c.sendableName _ hmem).2.1 rfl
  · exact absurd heq (by decide)
  · exact (c.sendableValue _ hmem).2 rfl

/-- A line is split into the cookies that it was made of. -/
theorem splitOn_line {before : Octets} (h : 0x3b ∉ before) (rest : List KeptCookie) :
    (before ++ rest.flatMap fun d => 0x3b :: 0x20 :: d.written).splitOn 0x3b
      = before :: rest.map fun d => 0x20 :: d.written := by
  induction rest generalizing before with
  | nil => rw [List.flatMap_nil, List.append_nil, List.map_nil, List.splitOn_eq_singleton h]
  | cons d rest ih =>
    have hd : 0x3b ∉ 0x20 :: d.written := by
      rw [List.mem_cons]
      rintro (heq | hmem)
      · exact absurd heq (by decide)
      · exact d.not_mem_written hmem
    rw [List.flatMap_cons, List.cons_append, List.splitOn_append_cons_self_of_not_mem h, ih hd,
      List.map_cons]

/-- A cookie that is sent has plain octets only. -/
theorem isPlain_written (c : KeptCookie) : ∀ b ∈ c.written, Octets.isPlain b = true := by
  have hvisible : ∀ b, Octets.IsVisible b → Octets.isPlain b = true := by
    intro b hb
    have hlow : (0x20 : UInt8) ≤ b := UInt8.le_trans (by decide) hb.1
    simp [Octets.isPlain, hlow, hb.2]
  intro b hb
  unfold written at hb
  rw [List.mem_append, List.mem_cons] at hb
  rcases hb with hmem | rfl | hmem
  · exact hvisible b (c.sendableName b hmem).1
  · decide
  · exact hvisible b (c.sendableValue b hmem).1

/-- The cookies that are sent are read back one by one. -/
theorem ofLines_lines (order : List KeptCookie) :
    Cookie.ofLines (lines order) = order.filterMap fun c => Cookie.ofPiece? c.written := by
  cases order with
  | nil => rfl
  | cons c rest =>
    have hplain : (c.written ++ rest.flatMap fun d => 0x3b :: 0x20 :: d.written).all
        Octets.isPlain = true := by
      rw [List.all_eq_true]
      intro b hb
      rw [List.mem_append, List.mem_flatMap] at hb
      rcases hb with hmem | ⟨d, -, hmem⟩
      · exact c.isPlain_written b hmem
      · rw [List.mem_cons, List.mem_cons] at hmem
        rcases hmem with rfl | rfl | hmem
        · decide
        · decide
        · exact d.isPlain_written b hmem
    unfold lines Cookie.ofLines Cookie.ofLine
    rw [List.flatMap_singleton, if_pos hplain, splitOn_line c.not_mem_written, List.filterMap_cons,
      List.filterMap_cons, List.filterMap_map]
    simp only [Function.comp_def, ofPiece?_space]

end KeptCookie

/-- What a board reads of the cookies that a client sends. -/
theorem Client.Sends.mem_ofLines_iff {client : Client} {r : Request} (h : client.Sends r)
    {d : Cookie} :
    d ∈ Cookie.ofLines r.cookieLines
      ↔ ∃ c ∈ client.cookies, c.name ≠ [] ∧ Percent.decode c.name = Octets.ofText d.name
        ∧ Percent.decode c.value = Octets.ofText d.value := by
  obtain ⟨order, horder, hlines⟩ := h
  rw [hlines, KeptCookie.ofLines_lines, List.mem_filterMap]
  simp only [horder.mem_iff, KeptCookie.ofPiece?_written_eq_some_iff]

namespace Cookie

variable {name : String} {cookies : List Cookie}

/-- The value under a name that all cookies with the name have. -/
theorem value?_eq_some {c : Cookie} (hmem : c ∈ cookies) (hname : c.name = name)
    (hsame : ∀ d ∈ cookies, d.name = name → d.value = c.value) :
    value? name cookies = some c.value := by
  unfold value?
  cases hfound : cookies.reverse.find? fun d => d.name == name with
  | none =>
    have hnone := List.find?_eq_none.1 hfound c (List.mem_reverse.2 hmem)
    exact absurd (beq_iff_eq.2 hname) hnone
  | some d =>
    have hd := List.mem_reverse.1 (List.mem_of_find?_eq_some hfound)
    have hdname := (List.find?_eq_some_iff_append.1 hfound).1
    exact congrArg some (hsame d hd (beq_iff_eq.1 hdname))

/-- There is no value under a name just when no cookie has the name. -/
theorem value?_eq_none_iff : value? name cookies = none ↔ ∀ c ∈ cookies, c.name ≠ name := by
  unfold value?
  rw [Option.map_eq_none_iff, List.find?_eq_none]
  simp only [List.mem_reverse, beq_iff_eq, ne_eq]

end Cookie

/-! ## The token in a cookie -/

/-- A token is made of letters and full stops. -/
theorem Token.mem_issue {b : UInt8} {secret : String} {claims : SessionClaims}
    (h : b ∈ issue secret claims) : b = stop ∨ ∃ n < 64, Base64Url.letter n = b := by
  unfold issue signedPart signature at h
  rw [List.mem_append, List.mem_append, List.mem_cons, List.mem_cons] at h
  rcases h with (hmem | rfl | hmem) | rfl | hmem
  · exact .inr (Base64Url.exists_letter hmem)
  · exact .inl rfl
  · exact .inr (Base64Url.exists_letter hmem)
  · exact .inl rfl
  · exact .inr (Base64Url.exists_letter hmem)

/-- An octet of a token is a visible character, no semicolon and no percent sign. -/
theorem Token.mem_issue_sendable {b : UInt8} {secret : String} {claims : SessionClaims}
    (h : b ∈ issue secret claims) : Octets.IsVisible b ∧ b ≠ 0x3b ∧ b ≠ 0x25 ∧ b < 128 := by
  have hletters : ∀ n < 64, Octets.IsVisible (Base64Url.letter n) ∧ Base64Url.letter n ≠ 0x3b
      ∧ Base64Url.letter n ≠ 0x25 ∧ Base64Url.letter n < 128 := by decide
  rcases mem_issue h with rfl | ⟨n, hn, rfl⟩
  · decide
  · exact hletters n hn

/-- A client that is told to keep the token of a session keeps it as it is. -/
theorem Client.obey_start (client : Client) (secret : String) (now : Nat) (id : Int) :
    ∃ c : KeptCookie, c.name = Octets.ofText Session.cookieName
      ∧ c.value = Token.issue secret ⟨id, now + Session.lifetime⟩
      ∧ client.obey (Session.start secret now id) = client.keep c := by
  have hname : ∀ b ∈ Octets.ofText Session.cookieName,
      Octets.IsVisible b ∧ b ≠ 0x3b ∧ b ≠ 0x3d := by decide +kernel
  have hvalue : ∀ b ∈ Token.issue secret ⟨id, now + Session.lifetime⟩,
      Octets.IsVisible b ∧ b ≠ 0x3b := by
    intro b hb
    have hsendable := Token.mem_issue_sendable hb
    exact ⟨hsendable.1, hsendable.2.1⟩
  refine ⟨⟨_, _, hname, hvalue, fun _ => rfl⟩, rfl, rfl, ?_⟩
  unfold obey Session.start KeptCookie.of?
  dsimp only
  rw [dif_pos ⟨hname, hvalue, fun _ => rfl⟩]
  rfl

/-! ## The session -/

namespace Client

variable {client : Client} {r : Request}

/-- An answer that signs in tells a client to start a session. -/
theorem after_signIn (client : Client) (e : Setting) (id : Int) :
    client.after (Entrance.signIn e id) = client.obey (Session.start e.secret e.seconds id) := by
  unfold after Entrance.signIn Response.withCookies
  dsimp only
  rw [List.foldl_cons, List.foldl_nil]

/-- After a client was told to start a session, it sends the token of the session. -/
theorem Sends.value?_start {secret : String} {now : Nat} {id : Int}
    (h : (client.obey (Session.start secret now id)).Sends r) :
    ∃ text, Octets.ofText text = Token.issue secret ⟨id, now + Session.lifetime⟩
      ∧ Cookie.value? Session.cookieName (Cookie.ofLines r.cookieLines) = some text := by
  obtain ⟨c, hname, hvalue, hclient⟩ := client.obey_start secret now id
  rw [hclient] at h
  obtain ⟨text, htext⟩ := Octets.exists_ofText fun b (hb : b ∈ c.value) => by
    rw [hvalue] at hb
    exact (Token.mem_issue_sendable hb).2.2.2
  have hdecode : Percent.decode c.value = Octets.ofText text := by
    rw [htext]
    refine Form.decode_of_not_mem fun hmem => ?_
    rw [hvalue] at hmem
    exact (Token.mem_issue_sendable hmem).2.2.1 rfl
  have hdecode' : Percent.decode c.name = Octets.ofText Session.cookieName := by
    rw [hname]
    decide +kernel
  refine ⟨text, htext.trans hvalue, ?_⟩
  refine Cookie.value?_eq_some (c := ⟨Session.cookieName, text⟩)
    (h.mem_ofLines_iff.2 ⟨c, List.mem_cons_self, ?_, hdecode', hdecode⟩) rfl ?_
  · rw [hname]
    decide
  · -- A cookie that is read under the name is kept under it, and only the new one is.
    intro d hd hdname
    obtain ⟨c', hc', -, hcname, hcvalue⟩ := h.mem_ofLines_iff.1 hd
    rw [hdname] at hcname
    rcases List.mem_cons.1 hc' with rfl | hold
    · exact Octets.ofText_injective (hcvalue.symm.trans hdecode)
    · have hne := (List.mem_filter.1 hold).2
      rw [bne_iff_ne, hname] at hne
      exact absurd (c'.single hcname) hne

/-- Every client can send a request. -/
theorem exists_sends (client : Client) : ∃ r, client.Sends r :=
  ⟨⟨.get, [], [], KeptCookie.lines client.cookies, none, []⟩, client.cookies, .refl _, rfl⟩

/-- Signing out tells a client to remove its session, if it has sent one. -/
theorem cookies_logout {e : Setting} {s : Store} (hget : r.IsGet)
    (hpath : r.path = Octets.ofText "/logout") :
    (serve e r s).1.cookies = Session.finish (Cookie.ofLines r.cookieLines) := by
  have hroute : Route.ofPath? r.path = some (.free .logout) :=
    (Route.ofPath?_fixed_iff "logout" (by decide)).2 hpath
  rw [serve_route hroute (hget.answered _)]
  unfold Request.sent
  split <;> rfl

/-- After a client has signed out, it sends no session. -/
theorem Sends.value?_finish {r' : Request} (hsent : client.Sends r)
    (h : ((Session.finish (Cookie.ofLines r.cookieLines)).foldl obey client).Sends r') :
    Cookie.value? Session.cookieName (Cookie.ofLines r'.cookieLines) = none := by
  refine Cookie.value?_eq_none_iff.2 fun d hd hdname => ?_
  obtain ⟨c, hc, hne, hcname, hcvalue⟩ := h.mem_ofLines_iff.1 hd
  unfold Session.finish at hc
  cases hvalue : Cookie.value? Session.cookieName (Cookie.ofLines r.cookieLines) with
  | some text =>
    -- What was kept under the name has been removed.
    rw [hvalue] at hc
    have hremoved := (List.mem_filter.1 hc).2
    rw [bne_iff_ne] at hremoved
    rw [hdname] at hcname
    exact hremoved (c.single hcname)
  | none =>
    -- The client keeps what it kept, and nothing of that is read as a session.
    rw [hvalue] at hc
    have hread := hsent.mem_ofLines_iff.2 ⟨c, hc, hne, hcname, hcvalue⟩
    exact Cookie.value?_eq_none_iff.1 hvalue d hread hdname

end Client

/-- Signing in gives a client the session of the account, and signing out takes every session. -/
theorem session_life (client : Client) : SessionLife client where
  started e r s id hanswer hleast hgreatest hwithin e' r' hsends hsecret hnow := by
    rw [hanswer, client.after_signIn] at hsends
    obtain ⟨text, htext, hvalue⟩ := Client.Sends.value?_start hsends
    unfold Request.sessionId?
    rw [hsecret]
    exact Session.userId?_issue_counts hleast hgreatest hvalue htext hwithin (by omega)
  ended e r s hsent hget hpath e' r' hsends := by
    unfold Client.after at hsends
    rw [Client.cookies_logout hget hpath] at hsends
    unfold Request.sessionId? Session.userId?
    rw [hsent.value?_finish hsends]

/-- A client that has kept an old session. -/
def Sample.client : Client where
  cookies :=
    [⟨Octets.ofText "session", Octets.ofText "old", by decide +kernel, by decide +kernel,
      fun _ => rfl⟩]
  apart := List.nodup_cons.2 ⟨List.not_mem_nil, List.nodup_nil⟩

/-- After it has made an account, the client has the session of that account. -/
theorem session_life_sample :
    ∃ r', (Sample.client.after (Entrance.signIn Sample.setting 1)).Sends r'
      ∧ r'.sessionId? Sample.setting = some 1 := by
  have hanswer : (serve Sample.setting Sample.signsUp.request (.fresh Sample.opened)).1
      = Entrance.signIn Sample.setting 1 := by decide +kernel
  obtain ⟨r', hsends⟩ := (Sample.client.after (Entrance.signIn Sample.setting 1)).exists_sends
  refine ⟨r', hsends, ?_⟩
  rw [← hanswer] at hsends
  exact (session_life Sample.client).started _ _ _ 1 hanswer (by decide) (by decide) (by decide)
    _ _ hsends rfl (by decide)

end ChatBoard
