import ChatBoard.Codec.Base64Url

/-!
# Reading back base64url

What has been written reads as what it was written from (`Base64Url.decode_encode`): three octets
are four numbers of six bits, and each octet is put together again from the bits of two of them.
Nothing else reads as it (`Base64Url.encode_of_decode`), so octets have one written form. A written
form has none of the octets that are no letters (`Base64Url.not_mem_encode`).
-/

namespace ChatBoard.Base64Url

/-! ## The bits of three octets -/

/-- The numbers of the first letter and of the second one together hold the first octet. -/
theorem first_octet (a b : UInt8) :
    UInt8.ofNat (a.toNat / 4 * 4 + (a.toNat % 4 * 16 + b.toNat / 16) / 16) = a := by
  have hb := b.toNat_lt
  have hnat : a.toNat / 4 * 4 + (a.toNat % 4 * 16 + b.toNat / 16) / 16 = a.toNat := by omega
  rw [hnat, UInt8.ofNat_toNat]

/-- The numbers of the second letter and of the third one together hold the second octet. -/
theorem second_octet (a b c : UInt8) :
    UInt8.ofNat ((a.toNat % 4 * 16 + b.toNat / 16) % 16 * 16
      + (b.toNat % 16 * 4 + c.toNat / 64) / 4) = b := by
  have hb := b.toNat_lt
  have hc := c.toNat_lt
  have hnat : (a.toNat % 4 * 16 + b.toNat / 16) % 16 * 16
      + (b.toNat % 16 * 4 + c.toNat / 64) / 4 = b.toNat := by omega
  rw [hnat, UInt8.ofNat_toNat]

/-- The numbers of the third letter and of the fourth one together hold the third octet. -/
theorem third_octet (b c : UInt8) :
    UInt8.ofNat ((b.toNat % 16 * 4 + c.toNat / 64) % 4 * 64 + c.toNat % 64) = c := by
  have hc := c.toNat_lt
  have hnat : (b.toNat % 16 * 4 + c.toNat / 64) % 4 * 64 + c.toNat % 64 = c.toNat := by omega
  rw [hnat, UInt8.ofNat_toNat]

/-! ## Reading back -/

/-- What has been written is read back. -/
theorem decode_encode (bs : Octets) : decode (encode bs) = some bs := by
  -- The six-bit numbers of the letters are below 64, so the letters give them back.
  have hread : ∀ n, n < 64 → index? (letter n) = some n := index?_letter
  induction bs using encode.induct with
  | case1 a b c rest ih =>
    have ha := a.toNat_lt
    have hb := b.toNat_lt
    have hc := c.toNat_lt
    rw [encode, decode, hread _ (by omega), hread _ (by omega), hread _ (by omega),
      hread _ (by omega), ih]
    dsimp only
    rw [first_octet, second_octet, third_octet]
  | case2 a b =>
    have ha := a.toNat_lt
    have hb := b.toNat_lt
    have hsecond := second_octet a b 0
    rw [encode, decode, hread _ (by omega), hread _ (by omega), hread _ (by omega)]
    dsimp only
    -- The bits that no octet uses are zero, as the reader wants them.
    rw [if_pos (by omega), first_octet]
    exact congrArg (fun x => some [a, x]) hsecond
  | case3 a =>
    have ha := a.toNat_lt
    have hfirst := first_octet a 0
    rw [encode, decode, hread _ (by omega), hread _ (by omega)]
    dsimp only
    rw [if_pos (by omega)]
    exact congrArg (fun x => some [x]) hfirst
  | case4 => rfl

/-- The number of a letter is below 64, and the letter is that of its number. -/
theorem letter_of_index? {b : UInt8} {i : Nat} (h : index? b = some i) : i < 64 ∧ letter i = b := by
  have hall : ∀ n < 256, (index? (UInt8.ofNat n)).all
      fun i => decide (i < 64) && letter i == UInt8.ofNat n := by
    decide +kernel
  have hb := hall b.toNat b.toNat_lt
  rw [UInt8.ofNat_toNat, h, Option.all_some, Bool.and_eq_true, decide_eq_true_iff,
    beq_iff_eq] at hb
  exact hb

/-- What is read is written as the text that it is read from, and as no other one: there is neither
padding nor a bit that is left over. -/
theorem encode_of_decode {text bs : Octets} (h : decode text = some bs) : encode bs = text := by
  have htoNat : ∀ n, n < 256 → (UInt8.ofNat n).toNat = n := fun n hn =>
    UInt8.toNat_ofNat_of_lt' hn
  fun_induction decode text generalizing bs with
  | case1 p q r s rest i j k l tail htail hs hr hq hp ih =>
    cases h
    obtain ⟨hi, rfl⟩ := letter_of_index? hp
    obtain ⟨hj, rfl⟩ := letter_of_index? hq
    obtain ⟨hk, rfl⟩ := letter_of_index? hr
    obtain ⟨hl, rfl⟩ := letter_of_index? hs
    have hfirst : (i * 4 + j / 16) / 4 = i := by omega
    have hsecond : (i * 4 + j / 16) % 4 * 16 + (j % 16 * 16 + k / 4) / 16 = j := by omega
    have hthird : (j % 16 * 16 + k / 4) % 16 * 4 + (k % 4 * 64 + l) / 64 = k := by omega
    have hfourth : (k % 4 * 64 + l) % 64 = l := by omega
    rw [encode, htoNat _ (by omega), htoNat _ (by omega), htoNat _ (by omega), ih htail, hfirst,
      hsecond, hthird, hfourth]
  | case3 p q r i j k hr hq hp hzero =>
    cases h
    obtain ⟨hi, rfl⟩ := letter_of_index? hp
    obtain ⟨hj, rfl⟩ := letter_of_index? hq
    obtain ⟨hk, rfl⟩ := letter_of_index? hr
    have hfirst : (i * 4 + j / 16) / 4 = i := by omega
    have hsecond : (i * 4 + j / 16) % 4 * 16 + (j % 16 * 16 + k / 4) / 16 = j := by omega
    have hthird : (j % 16 * 16 + k / 4) % 16 * 4 = k := by omega
    rw [encode, htoNat _ (by omega), htoNat _ (by omega), hfirst, hsecond, hthird]
  | case6 p q i j hq hp hzero =>
    cases h
    obtain ⟨hi, rfl⟩ := letter_of_index? hp
    obtain ⟨hj, rfl⟩ := letter_of_index? hq
    have hfirst : (i * 4 + j / 16) / 4 = i := by omega
    have hsecond : (i * 4 + j / 16) % 4 * 16 = j := by omega
    rw [encode, htoNat _ (by omega), hfirst, hsecond]
  | case10 =>
    cases h
    rfl
  | _ => cases h

/-- A written form is made of letters only. -/
theorem not_mem_encode {x : UInt8} (h : ∀ n < 64, letter n ≠ x) (bs : Octets) : x ∉ encode bs := by
  have hne : ∀ n, n < 64 → x ≠ letter n := fun n hn heq => h n hn heq.symm
  induction bs using encode.induct with
  | case1 a b c rest ih =>
    have ha := a.toNat_lt
    have hb := b.toNat_lt
    have hc := c.toNat_lt
    rw [encode]
    simp only [List.mem_cons, not_or]
    exact ⟨hne _ (by omega), hne _ (by omega), hne _ (by omega), hne _ (by omega), ih⟩
  | case2 a b =>
    have ha := a.toNat_lt
    have hb := b.toNat_lt
    rw [encode]
    simp only [List.mem_cons, List.not_mem_nil, or_false, not_or]
    exact ⟨hne _ (by omega), hne _ (by omega), hne _ (by omega)⟩
  | case3 a =>
    have ha := a.toNat_lt
    rw [encode]
    simp only [List.mem_cons, List.not_mem_nil, or_false, not_or]
    exact ⟨hne _ (by omega), hne _ (by omega)⟩
  | case4 => exact List.not_mem_nil

/-- Each octet of a written form is a letter. -/
theorem exists_letter {b : UInt8} {bs : Octets} (h : b ∈ encode bs) :
    ∃ n < 64, letter n = b := by
  refine Classical.byContradiction fun hnone => ?_
  exact not_mem_encode (fun n hn heq => hnone ⟨n, hn, heq⟩) bs h

end ChatBoard.Base64Url
