import ChatBoard.Proofs.Codec.Base64Url
import ChatBoard.Proofs.Json.Number
import ChatBoard.Proofs.Json.Record
import ChatBoard.Session.Basic

/-!
# What a token says

A token is read as the claims that it was issued with, or it does not count, whatever the secret
and the time are when it is looked at (`Session.userId?_issue`); under the same secret it counts
until it has ended (`Session.userId?_issue_counts`). The parts of the token are found again since
none of them has a full stop in it, and each part is read back from its written form.
-/

namespace ChatBoard.Token

open Json

/-! ## The claims in octets -/

/-- The written form of claims, member by member. -/
theorem write_eq (c : SessionClaims) :
    c.write = 0x7b :: (beforeMember true ++ 0x22 :: (Octets.ofText "sub" ++ 0x22 :: 0x3a ::
      (writeInt c.sub ++ (beforeMember false ++ 0x22 :: (Octets.ofText "exp" ++ 0x22 :: 0x3a ::
        (writeInt c.exp ++ [0x7d])))))) := by
  have hsub : writeText "sub" = 0x22 :: (Octets.ofText "sub" ++ [0x22]) := by decide
  have hexp : writeText "exp" = 0x22 :: (Octets.ofText "exp" ++ [0x22]) := by decide
  unfold SessionClaims.write writeObject
  simp [joinParts, writeMember, beforeMember, hsub, hexp]

/-- A number of the claims is read back if it is in the range that is read. -/
theorem readNumberClaim_writeInt {least greatest i : Int} (hleast : least ≤ i)
    (hgreatest : i ≤ greatest) (hlow : -0x8000000000000000 ≤ least)
    (hhigh : greatest ≤ 0xffffffffffffffff) {tail : Octets} (htail : EndsNumber tail) :
    readNumberClaim (readIntIn least greatest) (writeInt i ++ tail) = .ok (.number i, tail) := by
  have hread := readNumber_writeInt (by omega : -0x8000000000000000 ≤ i)
    (by omega : i ≤ 0xffffffffffffffff) htail
  unfold readNumberClaim
  rw [readIntIn_writeInt, hread]
  dsimp only
  rw [if_pos ⟨hleast, hgreatest⟩]
  rfl

/-- A number that is too large is not read. -/
theorem readNumberClaim_beyond (least greatest : Int) {i : Int} (hlt : 0xffffffffffffffff < i)
    {tail : Octets} (htail : EndsNumber tail) :
    ∃ p, readNumberClaim (readIntIn least greatest) (writeInt i ++ tail) = .error p := by
  have hbeyond := readNumber_beyond hlt htail
  unfold readNumberClaim
  rw [readIntIn_writeInt]
  cases hread : readNumber (writeInt i ++ tail) with
  | error p => exact ⟨p, rfl⟩
  | ok read =>
    obtain ⟨n, after⟩ := read
    cases n with
    | integer j => exact absurd hread (hbeyond j after)
    | real x => exact ⟨.mismatch, rfl⟩

/-- Reading the written form of claims comes down to reading the end of the session. -/
theorem readObject_write {c : SessionClaims} (hleast : -0x8000000000000000 ≤ c.sub)
    (hgreatest : c.sub ≤ 0x7fffffffffffffff) :
    ∃ steps, readObject claimFields c.write
      = match readNumberClaim readUInt64 (writeInt c.exp ++ [0x7d]) with
        | .error p => .error p
        | .ok (exp, after) =>
          readMembers claimFields (steps + 1) false
            [some (.number c.sub), some exp, none, none, none] after := by
  have hcomma : ∀ tail, EndsNumber (beforeMember false ++ tail) := by
    rintro tail b ⟨⟩
    decide
  have hverbatim : ∀ name ∈ ["sub", "exp"], ∀ b ∈ Octets.ofText name, IsVerbatim b := by
    unfold IsVerbatim
    decide +kernel
  rw [write_eq]
  generalize hrest : beforeMember true ++ 0x22 :: (Octets.ofText "sub" ++ 0x22 :: 0x3a ::
    (writeInt c.sub ++ (beforeMember false ++ 0x22 :: (Octets.ofText "exp" ++ 0x22 :: 0x3a ::
      (writeInt c.exp ++ [0x7d]))))) = rest
  -- There is a step for each octet, and three are needed: for two members and for the end.
  have hlength : 3 ≤ rest.length := by
    rw [← hrest]
    simp only [List.length_append, List.length_cons]
    omega
  obtain ⟨steps, hsteps⟩ : ∃ steps, rest.length = steps + 1 + 1 :=
    ⟨rest.length - 2, by omega⟩
  refine ⟨steps, ?_⟩
  have hopen : readMark 0x7b (0x7b :: rest) = .ok rest := rfl
  unfold readObject
  rw [hopen]
  dsimp only
  -- The first member is that of the account, the second one that of the end.
  rw [hsteps, ← hrest, readMembers_member (i := 0) (hverbatim "sub" (by simp)) rfl rfl rfl]
  dsimp only
  unfold readInt64
  rw [readNumberClaim_writeInt hleast hgreatest (by decide) (by decide) (hcomma _)]
  dsimp only
  rw [readMembers_member (i := 1) (hverbatim "exp" (by simp)) rfl rfl rfl]
  dsimp only
  cases readNumberClaim readUInt64 (writeInt c.exp ++ [0x7d]) with
  | error p => rfl
  | ok read => rfl

/-- The claims of a token are read back, unless the session ends beyond all numbers that are
read. -/
theorem readClaims?_write {c : SessionClaims} (hleast : -0x8000000000000000 ≤ c.sub)
    (hgreatest : c.sub ≤ 0x7fffffffffffffff) (hend : 0 ≤ c.exp) :
    readClaims? c.write = if c.exp ≤ 0xffffffffffffffff then some c else none := by
  have hclosed : EndsNumber [0x7d] := by
    rintro b ⟨⟩
    decide
  obtain ⟨steps, hread⟩ := readObject_write hleast hgreatest
  unfold readClaims? readAll
  rw [hread]
  unfold readUInt64
  by_cases hle : c.exp ≤ 0xffffffffffffffff
  · rw [readNumberClaim_writeInt hend hle (by decide) (by decide) hclosed, if_pos hle]
    dsimp only
    rw [readMembers_end]
    rfl
  · -- No integer is read, so the claims are not read either.
    obtain ⟨p, hp⟩ := readNumberClaim_beyond 0 0xffffffffffffffff (Int.not_le.1 hle) hclosed
    rw [hp, if_neg hle]

/-! ## The parts of a token -/

/-- The header of a token that is issued names the one method. -/
theorem isHeader_header : isHeader header = true := by decide

/-- No letter of a written part is a full stop. -/
theorem stop_not_mem_encode (bs : Octets) : stop ∉ Base64Url.encode bs :=
  Base64Url.not_mem_encode (by decide) bs

/-- The parts of a token that is issued are found again. -/
theorem splitOn_issue (secret : String) (c : SessionClaims) :
    (issue secret c).splitOn stop
      = [Base64Url.encode header, Base64Url.encode c.write, signature secret (signedPart c)] := by
  unfold issue
  rw [signedPart, List.append_assoc, List.cons_append,
    List.splitOn_append_cons_self_of_not_mem (stop_not_mem_encode _),
    List.splitOn_append_cons_self_of_not_mem (stop_not_mem_encode _)]
  unfold signature
  rw [List.splitOn_eq_singleton (stop_not_mem_encode _)]

/-- Under a secret a token is read as the claims that it was issued with, or not at all; under its
own secret it is read. -/
theorem signedClaims?_issue (secret secret' : String) (c : SessionClaims) :
    signedClaims? secret' (issue secret c)
      = if signature secret (signedPart c) = signature secret' (signedPart c) then
          readClaims? c.write
        else none := by
  unfold signedClaims?
  rw [splitOn_issue]
  dsimp only
  rw [Base64Url.decode_encode, Base64Url.decode_encode]
  dsimp only
  rw [if_pos isHeader_header]
  rfl

end ChatBoard.Token

namespace ChatBoard.Session

variable {secret : String} {now : Nat} {user : Int} {cookies : List Cookie} {text : String}

/-- Whoever sends the token of a session is the account that it was issued to, or nobody. -/
theorem userId?_issue (secret' : String) (now' : Nat) (hleast : -0x8000000000000000 ≤ user)
    (hgreatest : user ≤ 0x7fffffffffffffff)
    (hcookie : Cookie.value? cookieName cookies = some text)
    (htext : Octets.ofText text = Token.issue secret ⟨user, now + lifetime⟩) :
    userId? secret' now' cookies = none ∨ userId? secret' now' cookies = some user := by
  have hend : (0 : Int) ≤ now + lifetime := by omega
  unfold userId? Token.claims?
  rw [hcookie]
  dsimp only
  rw [htext, Token.signedClaims?_issue, Token.readClaims?_write hleast hgreatest hend]
  by_cases hsigned : Token.signature secret (Token.signedPart ⟨user, now + lifetime⟩)
      = Token.signature secret' (Token.signedPart ⟨user, now + lifetime⟩)
  · rw [if_pos hsigned]
    by_cases hread : (now : Int) + lifetime ≤ 0xffffffffffffffff
    · rw [if_pos hread]
      dsimp only
      -- The claims are read, and the session lasts or has ended.
      split
      · exact .inr rfl
      · exact .inl rfl
    · rw [if_neg hread]
      exact .inl rfl
  · -- Another secret has signed otherwise.
    rw [if_neg hsigned]
    exact .inl rfl

/-- Under the same secret the token of a session counts until it has ended. -/
theorem userId?_issue_counts {now' : Nat} (hleast : -0x8000000000000000 ≤ user)
    (hgreatest : user ≤ 0x7fffffffffffffff)
    (hcookie : Cookie.value? cookieName cookies = some text)
    (htext : Octets.ofText text = Token.issue secret ⟨user, now + lifetime⟩)
    (hwithin : now + lifetime ≤ 0xffffffffffffffff) (hnow : now' ≤ now + lifetime + 60) :
    userId? secret now' cookies = some user := by
  have hend : (0 : Int) ≤ now + lifetime := by omega
  unfold userId? Token.claims?
  rw [hcookie]
  dsimp only
  rw [htext, Token.signedClaims?_issue, if_pos rfl, Token.readClaims?_write hleast hgreatest hend,
    if_pos (by dsimp only; omega)]
  dsimp only
  rw [if_pos (by dsimp only [Token.leeway]; omega)]
  rfl

end ChatBoard.Session
