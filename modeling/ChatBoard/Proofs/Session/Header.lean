import ChatBoard.Proofs.Json.Members
import ChatBoard.Session.Token

/-!
# What headers and claims say

A header that is taken is a JSON object with one `alg`, or a list of the values of all members, and
what is said there names the one method (`exists_declares_of_isHeader`). Claims that are read are a
JSON object with one `sub` and one `exp`, which are integers in their ranges
(`exists_states_of_readClaims?`). Whatever else these texts hold is in the grammar, since it has
been read or passed over.
-/

namespace ChatBoard.Token

open Json

/-- A value names a method: it is a text, or an object of one member that has the name and is
null. -/
def NamesMethod (v : Value) (name : String) : Prop :=
  (∃ raw, v = .string raw ∧ Means raw name)
    ∨ ∃ raw, v = .object [(raw, .word .null)] ∧ Means raw name

/-- A header declares the one method, in the only `alg` of an object or in the second place of a
list of all its values. -/
inductive Declares : Value → Prop where
  | object {ms : List (Octets × Value)} {v : Value} (honce : HasOnce ms "alg" v)
      (hnames : NamesMethod v method) : Declares (.object ms)
  | list {vs : List Value} {v : Value} (hlength : vs.length = headerFields.length)
      (hsecond : vs[1]? = some v) (hnames : NamesMethod v method) : Declares (.list vs)

/-- Claims are stated in the only `sub` and the only `exp` of an object, each in its range. -/
structure States (ms : List (Octets × Value)) (c : SessionClaims) : Prop where
  sub : HasOnce ms "sub" (.number (writeInt c.sub))
  sub_range : -0x8000000000000000 ≤ c.sub ∧ c.sub ≤ 0x7fffffffffffffff
  exp : HasOnce ms "exp" (.number (writeInt c.exp))
  exp_range : 0 ≤ c.exp ∧ c.exp ≤ 0xffffffffffffffff

/-- A text that is read whole has nothing but blanks after its value. -/
theorem exists_rest_of_readAll {α : Type} {read : Reader α} {bs : Octets} {x : α}
    (h : readAll read bs = .ok x) : ∃ rest, read bs = .ok (x, rest) ∧ skipBlank rest = [] := by
  unfold readAll at h
  split at h
  · cases h
  next y rest hread =>
    split at h
    next hend =>
      cases h
      exact ⟨rest, hread, List.isEmpty_iff.1 hend⟩
    · cases h

/-- An object that is read by fields fills their places from its members. -/
theorem object_of_readObject {α : Type} {fields : List (Member α)}
    {shows : String → α → Value → Prop} (hfields : ∀ f ∈ fields, Takes f.read (shows f.name))
    {bs rest : Octets} {places : List (Option α)} (h : readObject fields bs = .ok (places, rest)) :
    ∃ ms, Stands (.value (.object ms)) bs rest ∧ ∀ name i,
      fields.findIdx? (·.name == name) = some i →
        Fills shows ms name none (places.getD i none) := by
  unfold readObject at h
  split at h
  · cases h
  next inside hopening => exact object_of_readMembers hfields (readMark_eq_ok_iff.1 hopening) h

/-! ## Headers -/

/-- What a header takes from a value: the name of a method, or nothing that counts. -/
def HeaderShows (_ : String) : HeaderValue → Value → Prop
  | .method name, v => NamesMethod v name
  | .other, _ => True

/-- What does not count is taken. -/
theorem takes_readUncounted {α : Type} {read : Reader α} {shows : α → Value → Prop}
    (h : Takes read shows) (name : String) : Takes (readUncounted read) (HeaderShows name) :=
  h.map (f := fun _ => HeaderValue.other) (fun _ => rfl) fun _ _ _ => trivial

/-- A method is taken from a value that names it. -/
theorem takes_readMethod (name : String) : Takes readMethod (HeaderShows name) := by
  intro bs value rest h
  unfold readMethod at h
  split at h
  next s after hattempt =>
    cases h
    obtain ⟨v, hv, hmeans⟩ := exists_value_of_attempt hattempt
    cases hmeans with
    | text hmeans => exact ⟨_, hv, .inl ⟨_, rfl, hmeans⟩⟩
  next s after hattempt =>
    cases h
    obtain ⟨v, hv, hmeans⟩ := exists_value_of_attempt hattempt
    cases hmeans with
    | object hmembers =>
      cases hmembers with
      | cons hkey hnull hmore =>
        cases hnull
        cases hmore
        exact ⟨_, hv, .inr ⟨_, rfl, hkey⟩⟩
  · cases h
  · cases h

/-- A key is taken whole. -/
theorem takes_readKey : Takes readKey fun _ _ => True := by
  intro bs c rest h
  unfold readKey at h
  split at h
  · cases h
  next c' after hattempt =>
    obtain ⟨v, hv, -⟩ := exists_value_of_attempt hattempt
    split at h
    · cases h
      exact ⟨v, hv, trivial⟩
    · cases h

/-- Each member of a header is taken by its field. -/
theorem takes_headerFields : ∀ f ∈ headerFields, Takes f.read (HeaderShows f.name) := by
  have htext : ∀ name, Takes readTextOrNull (HeaderShows name) :=
    takes_readUncounted (takes_readNullOr takes_readText)
  have htexts : ∀ name, Takes readTextsOrNull (HeaderShows name) :=
    takes_readUncounted (takes_readNullOr (takes_readList takes_readText))
  have hkey : ∀ name, Takes (readUncounted (readNullOr readKey)) (HeaderShows name) :=
    takes_readUncounted (takes_readNullOr takes_readKey)
  unfold headerFields
  simp only [List.forall_mem_cons, List.not_mem_nil, false_implies, implies_true, and_true]
  exact ⟨htext _, takes_readMethod _, htext _, htext _, hkey _, htext _, htext _, htexts _,
    htext _, htext _⟩

/-- A header that is taken is a JSON text that declares the one method. -/
theorem exists_declares_of_isHeader {bs : Octets} (h : isHeader bs = true) :
    ∃ v, v.WrittenAs bs ∧ Declares v := by
  unfold isHeader at h
  split at h
  next first name more hread =>
    obtain rfl := beq_iff_eq.1 h
    obtain ⟨rest, hread, hend⟩ := exists_rest_of_readAll hread
    unfold readHeader at hread
    split at hread
    next inside hopening =>
      -- The list has a value for each field, and the method is that of the second one.
      obtain ⟨⟨values, after⟩, hvalues, hmark⟩ := exists_of_bind_eq_ok hread
      obtain ⟨rest', hclosing, hplaces⟩ := exists_of_bind_eq_ok hmark
      obtain ⟨vs, hvs, hlength, hshows⟩ :=
        values_of_readElements takes_headerFields hvalues (readMark_eq_ok_iff.1 hclosing)
      have hmap : values.map some = first :: some (.method method) :: more :=
        congrArg Prod.fst (Except.ok.inj hplaces)
      obtain rfl : rest' = rest := congrArg Prod.snd (Except.ok.inj hplaces)
      have hsecond : values[1]? = some (.method method) := by
        obtain ⟨_, rest, rfl, -, hmore⟩ := List.map_eq_cons_iff.1 hmap
        obtain ⟨value, _, rfl, hvalue, -⟩ := List.map_eq_cons_iff.1 hmore
        exact hvalue
      obtain ⟨v, hv, hnames⟩ := hshows 1 _ _ rfl hsecond
      exact ⟨.list vs, ⟨rest', .list hopening hvs, hend⟩, .list hlength hv hnames⟩
    · -- The place of the method is filled by the only member of its name.
      obtain ⟨ms, hms, hfills⟩ := object_of_readObject takes_headerFields hread
      obtain ⟨v, honce, hnames⟩ := hfills "alg" 1 rfl
      exact ⟨.object ms, ⟨rest, hms.of_skipBlank, hend⟩, .object honce hnames⟩
  · cases h

/-! ## Claims -/

/-- What claims take from a value: a number in the range of its member, or nothing that counts. -/
def ClaimShows : String → Claim → Value → Prop
  | name, .number i, v => v = .number (writeInt i)
    ∧ (name = "sub" → -0x8000000000000000 ≤ i ∧ i ≤ 0x7fffffffffffffff)
    ∧ (name = "exp" → 0 ≤ i ∧ i ≤ 0xffffffffffffffff)
  | _, _, _ => True

/-- Each member of claims is taken by its field. -/
theorem takes_claimFields : ∀ f ∈ claimFields, Takes f.read (ClaimShows f.name) := by
  have hsub : Takes (readNumberClaim readInt64) (ClaimShows "sub") :=
    (takes_readIntIn _ _).map (f := Claim.number) (fun _ => rfl)
      fun i v h => ⟨h.1, fun _ => h.2, fun hname => absurd hname (by decide)⟩
  have hexp : Takes (readNumberClaim readUInt64) (ClaimShows "exp") :=
    (takes_readIntIn _ _).map (f := Claim.number) (fun _ => rfl)
      fun i v h => ⟨h.1, fun hname => absurd hname (by decide), fun _ => h.2⟩
  have haud : Takes readAudience (ClaimShows "aud") :=
    (takes_readOrPass _).map (f := fun value =>
      if value.any fun c => isText c || isTextList c then Claim.audience else Claim.other)
      (fun _ => rfl) fun value v _ => by split <;> trivial
  have hnbf : Takes readStart (ClaimShows "nbf") :=
    (takes_readOrPass _).map (f := fun _ => Claim.other) (fun _ => rfl) fun _ _ _ => trivial
  have hiss : Takes readIssuer (ClaimShows "iss") :=
    (takes_readOrPass _).map (f := fun _ => Claim.other) (fun _ => rfl) fun _ _ _ => trivial
  unfold claimFields
  simp only [List.forall_mem_cons, List.not_mem_nil, false_implies, implies_true, and_true]
  exact ⟨hsub, hexp, haud, hnbf, hiss⟩

/-- Claims that are read are a JSON text that states them. -/
theorem exists_states_of_readClaims? {bs : Octets} {c : SessionClaims}
    (h : readClaims? bs = some c) : ∃ ms, (Value.object ms).WrittenAs bs ∧ States ms c := by
  unfold readClaims? at h
  split at h
  · cases h
  next sub exp more _ hread =>
    cases h
    obtain ⟨rest, hread, hend⟩ := exists_rest_of_readAll hread
    obtain ⟨ms, hms, hfills⟩ := object_of_readObject takes_claimFields hread
    obtain ⟨v, honce, rfl, hrange, -⟩ := hfills "sub" 0 rfl
    obtain ⟨v', honce', rfl, -, hrange'⟩ := hfills "exp" 1 rfl
    exact ⟨ms, ⟨rest, hms, hend⟩, honce, hrange rfl, honce', hrange' rfl⟩
  · cases h

end ChatBoard.Token
