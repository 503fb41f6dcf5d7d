import ChatBoard.Proofs.Session.Header
import ChatBoard.Proofs.Session.Token

/-!
# Only signed tokens are sessions

`session_signed` says what a session can come from, whatever the clients send. The last cookie of
the session's name carries a token of three parts (`IsSigned`): the base64url text of a header that
declares the one method, that of claims which state whose session it is and when it ends, and that
of the keyed digest of the first two. No other text of these parts is accepted. So of all tokens
with the same first two parts there is one at most that is accepted, and changing its third part in
any way leaves a token that nobody is signed in by. A token counts for a minute after its end.
-/

namespace ChatBoard

open Json

namespace Token

/-- Three parts between full stops. -/
def ofParts (first second third : Octets) : Octets := first ++ stop :: (second ++ stop :: third)

/-- A token is signed under a secret: its parts are the texts of a header, of claims and of the
digest of these two, the header declares the one method, and the claims are stated. -/
structure IsSigned (secret : String) (claims : SessionClaims) (header stated token : Octets) :
    Prop where
  parts : token.splitOn stop
    = [Base64Url.encode header, Base64Url.encode stated, Base64Url.encode (Digest.Sha256.keyed
        (Octets.ofText secret) (Base64Url.encode header ++ stop :: Base64Url.encode stated))]
  declares : ∃ v, v.WrittenAs header ∧ Declares v
  states : ∃ ms, (Value.object ms).WrittenAs stated ∧ States ms claims

/-- Parts without full stops are found again. -/
theorem ofParts_inj {first second third first' second' third' : Octets} (hfirst : stop ∉ first)
    (hsecond : stop ∉ second) (hthird : stop ∉ third)
    (h : ofParts first' second' third' = ofParts first second third) :
    first' = first ∧ second' = second ∧ third' = third := by
  -- There are two full stops in all, so the other parts have none either.
  have hcount := congrArg (List.count stop) h
  unfold ofParts at hcount
  simp only [List.count_append, List.count_cons_self, List.count_eq_zero.2 hfirst,
    List.count_eq_zero.2 hsecond, List.count_eq_zero.2 hthird] at hcount
  have hfirst' : stop ∉ first' := List.count_eq_zero.1 (by omega)
  have hsecond' : stop ∉ second' := List.count_eq_zero.1 (by omega)
  have hthird' : stop ∉ third' := List.count_eq_zero.1 (by omega)
  have hsplit := congrArg (List.splitOn stop) h
  unfold ofParts at hsplit
  rw [List.splitOn_append_cons_self_of_not_mem hfirst,
    List.splitOn_append_cons_self_of_not_mem hfirst',
    List.splitOn_append_cons_self_of_not_mem hsecond,
    List.splitOn_append_cons_self_of_not_mem hsecond', List.splitOn_eq_singleton hthird,
    List.splitOn_eq_singleton hthird'] at hsplit
  cases hsplit
  exact ⟨rfl, rfl, rfl⟩

/-- The parts of a token that is signed. -/
theorem IsSigned.eq_ofParts {secret : String} {claims : SessionClaims}
    {header stated token : Octets} (h : IsSigned secret claims header stated token) :
    token = ofParts (Base64Url.encode header) (Base64Url.encode stated)
      (signature secret (Base64Url.encode header ++ stop :: Base64Url.encode stated)) := by
  have hjoin : [stop].intercalate (token.splitOn stop) = token := List.intercalate_splitOn stop
  rw [h.parts] at hjoin
  rw [← hjoin]
  unfold ofParts signature
  simp [List.intercalate]

/-- The claims of a token are read from one that is signed. -/
theorem exists_isSigned_of_signedClaims? {secret : String} {token : Octets} {claims : SessionClaims}
    (h : signedClaims? secret token = some claims) :
    ∃ header stated, IsSigned secret claims header stated token := by
  unfold signedClaims? at h
  split at h
  next first second third hparts =>
    split at h
    next hthird =>
      subst hthird
      split at h
      next header stated hheader hstated =>
        split at h
        next hisHeader =>
          obtain rfl := Base64Url.encode_of_decode hheader
          obtain rfl := Base64Url.encode_of_decode hstated
          exact ⟨header, stated, hparts, exists_declares_of_isHeader hisHeader,
            exists_states_of_readClaims? h⟩
        · cases h
      · cases h
    · cases h
  · cases h

end Token

namespace Session

open Token

/-- The last of all cookies of the session's name has a token as its value. -/
def Carries (lines : List Octets) (token : Octets) : Prop :=
  ∃ before value after, Cookie.ofLines lines = before ++ ⟨cookieName, value⟩ :: after
    ∧ (∀ c ∈ after, c.name ≠ cookieName) ∧ Octets.ofText value = token

/-- A token is at some time a session of someone. -/
def Accepts (secret : String) (token : Octets) : Prop :=
  ∃ now lines id, Carries lines token ∧ userId? secret now (Cookie.ofLines lines) = some id

/-- A token is never a session of anyone. -/
def Refuses (secret : String) (token : Octets) : Prop :=
  ∀ now lines, Carries lines token → userId? secret now (Cookie.ofLines lines) = none

/-- What sessions under a secret come from. -/
structure OnlySigned (secret : String) : Prop where
  /-- A session comes from a signed token in the last cookie of its name, that has not ended more
  than a minute ago. -/
  signed : ∀ now lines id, userId? secret now (Cookie.ofLines lines) = some id →
    ∃ token header stated ends, Carries lines token
      ∧ IsSigned secret ⟨id, ends⟩ header stated token ∧ now ≤ ends + 60
  /-- Of all tokens with the same first two parts one is accepted at most. -/
  unique : ∀ first second third third', Accepts secret (ofParts first second third) →
    Accepts secret (ofParts first second third') → third = third'
  /-- Another octet in the third part of a token that is accepted makes it refused. -/
  changed : ∀ first second third i (hi : i < third.length) b, b ≠ third[i] →
    Accepts secret (ofParts first second third) →
    Refuses secret (ofParts first second (third.set i b))
  /-- Padding makes it refused. -/
  padded : ∀ token n, Accepts secret token →
    Refuses secret (token ++ List.replicate (n + 1) 0x3d)
  /-- A fourth part makes it refused. -/
  extended : ∀ token fourth, Accepts secret token → Refuses secret (token ++ stop :: fourth)
  /-- A header that is a JSON text and does not declare the one method makes a token refused. -/
  method : ∀ first second third header v, Base64Url.decode first = some header →
    v.WrittenAs header → ¬ Declares v → Refuses secret (ofParts first second third)

/-- The token that counts is that of the last cookie of the session's name. -/
theorem carries_iff {lines : List Octets} {token : Octets} :
    Carries lines token ↔ ∃ value, Cookie.value? cookieName (Cookie.ofLines lines) = some value
      ∧ Octets.ofText value = token := by
  unfold Carries Cookie.value?
  constructor
  · rintro ⟨before, value, after, hlines, hafter, htoken⟩
    refine ⟨value, ?_, htoken⟩
    have hlast : (Cookie.ofLines lines).reverse.find? (fun c => c.name == cookieName)
        = some ⟨cookieName, value⟩ := by
      refine List.find?_eq_some_iff_append.2 ⟨beq_self_eq_true _, after.reverse, before.reverse,
        by simp [hlines], fun c hc => ?_⟩
      simpa using hafter c (List.mem_reverse.1 hc)
    rw [hlast]
    rfl
  · rintro ⟨value, hvalue, htoken⟩
    obtain ⟨c, hlast, rfl⟩ := Option.map_eq_some_iff.1 hvalue
    obtain ⟨hname, after, before, hreverse, hafter⟩ := List.find?_eq_some_iff_append.1 hlast
    refine ⟨before.reverse, c.value, after.reverse, ?_, fun d hd => ?_, htoken⟩
    · rw [← beq_iff_eq.1 hname, ← List.reverse_reverse (Cookie.ofLines lines), hreverse]
      simp
    · simpa using hafter d (List.mem_reverse.1 hd)

/-- Whoever has a session has it by a token that is signed. -/
theorem exists_isSigned_of_userId? {secret : String} {now : Nat} {lines : List Octets} {id : Int}
    (h : userId? secret now (Cookie.ofLines lines) = some id) :
    ∃ token header stated ends, Carries lines token
      ∧ IsSigned secret ⟨id, ends⟩ header stated token ∧ now ≤ ends + 60 := by
  unfold userId? at h
  split at h
  · cases h
  next value hvalue =>
    rw [Option.map_eq_some_iff] at h
    obtain ⟨claims, hclaims, rfl⟩ := h
    unfold claims? at hclaims
    split at hclaims
    next claims' hsigned =>
      split at hclaims
      next hnow =>
        cases hclaims
        obtain ⟨header, stated, hsigned⟩ := exists_isSigned_of_signedClaims? hsigned
        exact ⟨_, header, stated, claims.exp, carries_iff.2 ⟨value, hvalue, rfl⟩, hsigned, hnow⟩
      · cases hclaims
    · cases hclaims

/-- A token that is accepted is signed. -/
theorem Accepts.exists_isSigned {secret : String} {token : Octets} (h : Accepts secret token) :
    ∃ claims header stated, IsSigned secret claims header stated token := by
  obtain ⟨now, lines, id, hcarries, hid⟩ := h
  obtain ⟨token', header, stated, ends, hcarries', hsigned, -⟩ := exists_isSigned_of_userId? hid
  obtain ⟨value, hvalue, rfl⟩ := carries_iff.1 hcarries
  obtain ⟨value', hvalue', rfl⟩ := carries_iff.1 hcarries'
  rw [hvalue] at hvalue'
  cases hvalue'
  exact ⟨_, header, stated, hsigned⟩

/-- A token that is not accepted is refused. -/
theorem refuses_of_not_accepts {secret : String} {token : Octets} (h : ¬ Accepts secret token) :
    Refuses secret token := by
  intro now lines hcarries
  cases hid : userId? secret now (Cookie.ofLines lines) with
  | none => rfl
  | some id => exact absurd ⟨now, lines, id, hcarries, hid⟩ h

/-- The parts of a token that is accepted: the first two decide the third. -/
theorem Accepts.parts {secret : String} {first second third : Octets}
    (h : Accepts secret (ofParts first second third)) :
    third = signature secret (first ++ stop :: second)
      ∧ ∃ header, first = Base64Url.encode header ∧ ∃ v, v.WrittenAs header ∧ Declares v := by
  obtain ⟨claims, header, stated, hsigned⟩ := h.exists_isSigned
  obtain ⟨rfl, rfl, rfl⟩ := ofParts_inj (stop_not_mem_encode _) (stop_not_mem_encode _)
    (stop_not_mem_encode _) hsigned.eq_ofParts
  exact ⟨rfl, header, rfl, hsigned.declares⟩

/-- The first two parts of a token decide the third one, if it is accepted. -/
theorem Accepts.unique {secret : String} {first second third third' : Octets}
    (h : Accepts secret (ofParts first second third))
    (h' : Accepts secret (ofParts first second third')) : third = third' :=
  h.parts.1.trans h'.parts.1.symm

/-- What is appended to a token that is accepted makes it refused. -/
theorem Accepts.refuses_append {secret : String} {token tail : Octets} (h : Accepts secret token)
    (hne : tail ≠ []) : Refuses secret (token ++ tail) := by
  refine refuses_of_not_accepts fun h' => ?_
  obtain ⟨claims, header, stated, hsigned⟩ := h.exists_isSigned
  obtain rfl := hsigned.eq_ofParts
  have happend : ∀ first second third : Octets,
      ofParts first second third ++ tail = ofParts first second (third ++ tail) := by
    simp [ofParts]
  rw [happend] at h'
  exact hne (List.self_eq_append_right.1 (h.unique h'))

/-- Only signed tokens are sessions, and no part of a signature can be changed. -/
theorem session_signed (secret : String) : OnlySigned secret where
  signed _ _ _ h := exists_isSigned_of_userId? h
  unique _ _ _ _ h h' := h.unique h'
  changed first second third i hi b hb h := by
    refine refuses_of_not_accepts fun h' => hb ?_
    have hset := congrArg (fun part => part[i]?) (h.unique h')
    rw [List.getElem?_eq_getElem hi, List.getElem?_set_self hi] at hset
    exact (Option.some.inj hset).symm
  padded token n h := h.refuses_append (by simp)
  extended token fourth h := h.refuses_append (List.cons_ne_nil _ _)
  method first second third header v hheader hv hnot := by
    refine refuses_of_not_accepts fun h => hnot ?_
    obtain ⟨-, header', rfl, v', hv', hdeclares⟩ := h.parts
    rw [Base64Url.decode_encode] at hheader
    cases hheader
    rw [hv.unique hv']
    exact hdeclares

/-! ## What is not asked of a token

Two tokens are signed under the same secret and state the same claims. -/

namespace Sample

/-- The claims of both. -/
def claims : SessionClaims := ⟨7, 4102444800⟩

/-- A cookie line with the token of a header and the claims. -/
def line (header : Octets) : Octets :=
  Octets.ofText "session=" ++ ofParts (Base64Url.encode header) (Base64Url.encode claims.write)
    (signature "test-secret" (Base64Url.encode header ++ stop :: Base64Url.encode claims.write))

/-- A header that is a list of the values of all members. -/
def listed : Octets :=
  Octets.ofText "[null,\"HS256\",\"a\",\"b\",null,\"c\",\"d\",[],\"e\",\"f\"]"

/-- A header whose method is an object. -/
def wrapped : Octets := Octets.ofText "\x7b\"alg\":\x7b\"HS256\":null\x7d\x7d"

/-- The key of the method. -/
def alg : Octets := [0x61, 0x6c, 0x67]

/-- The name of the method. -/
def hs256 : Octets := [0x48, 0x53, 0x32, 0x35, 0x36]

/-- What the header says whose method is an object. -/
theorem writtenAs_wrapped :
    (Value.object [(alg, .object [(hs256, .word .null)])]).WrittenAs wrapped := by
  have hoctets : wrapped = 0x7b :: 0x22 :: (alg ++ 0x22 :: 0x3a :: 0x7b :: 0x22 :: (hs256
      ++ 0x22 :: 0x3a :: (Word.null.octets ++ [0x7d, 0x7d]))) := by
    decide +kernel
  have hquoted : ∀ raw : Octets, (∀ b ∈ raw, IsVerbatim b) → IsQuoted raw := by
    intro raw h
    induction raw with
    | nil => exact .nil
    | cons b raw ih =>
      obtain ⟨hb, hraw⟩ := List.forall_mem_cons.1 h
      exact .verbatim hb (ih hraw)
  have halg : IsQuoted alg := hquoted _ (by unfold IsVerbatim; decide +kernel)
  have hhs256 : IsQuoted hs256 := hquoted _ (by unfold IsVerbatim; decide +kernel)
  have hmethod : Stands (.value (.object [(hs256, .word .null)]))
      (0x7b :: 0x22 :: (hs256 ++ 0x22 :: 0x3a :: (Word.null.octets ++ [0x7d, 0x7d]))) [0x7d] :=
    .object rfl (.nextMember rfl hhs256 rfl rfl (.word rfl) (.noMember rfl))
  rw [hoctets]
  exact ⟨[], .object rfl (.nextMember rfl halg rfl rfl hmethod (.noMember rfl)), rfl⟩

end Sample

open Sample in
/-- A header need not be an object, the method in it need not be a text, and a token may have
ended. -/
theorem session_lenient :
    (userId? "test-secret" 4102444860 (Cookie.ofLines [line listed]) = some 7
      ∧ (∀ ms, ¬ (Value.object ms).WrittenAs listed) ∧ Sample.claims.exp < 4102444860)
    ∧ userId? "test-secret" 1000 (Cookie.ofLines [line wrapped]) = some 7
      ∧ ∀ ms, (Value.object ms).WrittenAs wrapped → ∀ raw, ¬ HasOnce ms "alg" (.string raw) := by
  refine ⟨⟨by decide +kernel, ?_, by decide⟩, by decide +kernel, ?_⟩
  · rintro ms ⟨rest, hms, -⟩
    have hkind : kindAt listed = some .list := by decide +kernel
    rw [hms.kind] at hkind
    cases hkind
  · intro ms hms raw honce
    -- The text is that of one value only, and in it the method is no text.
    obtain rfl : [(alg, .object [(hs256, .word .null)])] = ms := by
      injection writtenAs_wrapped.unique hms
    obtain ⟨before, key, after, heq, -, -⟩ := honce
    have hmem : (key, Value.string raw) ∈ [(alg, Value.object [(hs256, .word .null)])] := by
      rw [heq]
      exact List.mem_append_right _ List.mem_cons_self
    cases List.mem_singleton.1 hmem

end Session

end ChatBoard
