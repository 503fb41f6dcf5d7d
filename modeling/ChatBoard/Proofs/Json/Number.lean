import ChatBoard.Json.Record
import ChatBoard.Proofs.Text.Numeral

/-!
# Reading back integers in JSON

An integer that is followed by something that cannot belong to a number is read back as it was
written, if it fits in 64 bits (`readNumber_writeInt`). One that is too large is never read as
another integer (`readNumber_beyond`): the digits that no longer fit make it a double.
-/

namespace ChatBoard.Json

/-- Octets that cannot go on with a number that has been read. -/
def EndsNumber (tail : Octets) : Prop :=
  ∀ b ∈ tail.head?, isDigit b = false ∧ b ≠ 0x2e ∧ isExponentMark b = false

/-- The octet of a digit is a digit. -/
theorem isDigit_octet {c : Char} (h : c.isDigit) : isDigit (Numeral.octet c) = true := by
  have hcode := Numeral.toNat_of_isDigit h
  have heq := Numeral.toNat_octet h
  unfold isDigit
  rw [Bool.and_eq_true, decide_eq_true_iff, decide_eq_true_iff]
  constructor
  · exact UInt8.le_iff_toNat_le.2 (by rw [heq]; exact hcode.1)
  · exact UInt8.le_iff_toNat_le.2 (by rw [heq]; exact hcode.2)

/-- Where no digit stands, nothing is gathered. -/
theorem gather_of_endsNumber {tail : Octets} (h : EndsNumber tail) (value count : Nat) :
    gather value count tail = (value, count, tail) := by
  cases tail with
  | nil => rfl
  | cons b rest =>
    unfold gather
    rw [if_neg (by rw [(h b rfl).1]; exact Bool.false_ne_true)]

/-- The number of a digit goes into the significand. -/
theorem gather_octet {c : Char} (h : c.isDigit) (value count : Nat) (rest : Octets) :
    gather value count (Numeral.octet c :: rest)
      = if value * 10 + (c.toNat - 48) ≤ maxSignificand then
          gather (value * 10 + (c.toNat - 48)) (count + 1) rest
        else (value, count, Numeral.octet c :: rest) := by
  rw [gather, if_pos (isDigit_octet h), Numeral.toNat_octet h]

/-- Digits are gathered to the number that they denote, if it fits. -/
theorem gather_digits {cs : List Char} (h : ∀ c ∈ cs, c.isDigit) {tail : Octets}
    (htail : EndsNumber tail) (value count : Nat)
    (hle : Nat.ofDigitChars 10 cs value ≤ maxSignificand) :
    gather value count (cs.map Numeral.octet ++ tail)
      = (Nat.ofDigitChars 10 cs value, count + cs.length, tail) := by
  induction cs generalizing value count with
  | nil => exact gather_of_endsNumber htail value count
  | cons c rest ih =>
    rw [Numeral.ofDigitChars_digit] at hle ⊢
    -- The value so far is no larger than the final one, so it fits too.
    have hnext : value * 10 + (c.toNat - 48) ≤ maxSignificand :=
      Nat.le_trans (Numeral.le_ofDigitChars rest _) hle
    rw [List.map_cons, List.cons_append, gather_octet (h c List.mem_cons_self), if_pos hnext,
      ih (fun d hd => h d (List.mem_cons_of_mem _ hd)) _ _ hle, List.length_cons]
    simp only [Nat.add_assoc, Nat.add_comm 1]

/-- Digits of a number that does not fit are not all gathered: some of them are left. -/
theorem gather_beyond {cs : List Char} (h : ∀ c ∈ cs, c.isDigit) (tail : Octets)
    (value count : Nat) (hvalue : value ≤ maxSignificand)
    (hlt : maxSignificand < Nat.ofDigitChars 10 cs value) :
    ∃ taken places c left, gather value count (cs.map Numeral.octet ++ tail)
        = (taken, places, (c :: left).map Numeral.octet ++ tail)
      ∧ ∀ d ∈ c :: left, d.isDigit := by
  induction cs generalizing value count with
  | nil =>
    rw [Nat.ofDigitChars_nil] at hlt
    omega
  | cons c rest ih =>
    rw [Numeral.ofDigitChars_digit] at hlt
    rw [List.map_cons, List.cons_append, gather_octet (h c List.mem_cons_self)]
    split
    next hnext => exact ih (fun d hd => h d (List.mem_cons_of_mem _ hd)) _ _ hnext hlt
    · -- Gathering stops before the first digit with which the value no longer fits.
      exact ⟨value, count, c, rest, rfl, h⟩

/-- The digits before what cannot go on with a number are all that are counted as dropped. -/
theorem takeWhile_digits {cs : List Char} (h : ∀ c ∈ cs, c.isDigit) {tail : Octets}
    (htail : EndsNumber tail) :
    (cs.map Numeral.octet ++ tail).takeWhile isDigit = cs.map Numeral.octet := by
  induction cs with
  | nil =>
    cases tail with
    | nil => rfl
    | cons b rest =>
      exact List.takeWhile_cons_of_neg (by rw [(htail b rfl).1]; exact Bool.false_ne_true)
  | cons c rest ih =>
    rw [List.map_cons, List.cons_append,
      List.takeWhile_cons_of_pos (isDigit_octet (h c List.mem_cons_self)),
      ih fun d hd => h d (List.mem_cons_of_mem _ hd)]

/-! ## Whole numbers -/

/-- After digits that cannot go on a number is whole: an integer if it fits, or else a double. -/
theorem readTail_of_endsNumber {tail : Octets} (h : EndsNumber tail) (negative : Bool)
    (n dropped : Nat) :
    readTail negative n dropped tail
      = if dropped = 0 then
          if !negative then .ok (.integer n, tail)
          else if 1 ≤ n ∧ n ≤ 0x8000000000000000 then .ok (.integer (-n), tail)
          else realOf true n 0 tail
        else realOf negative n dropped tail := by
  unfold readTail
  cases tail with
  | nil => rfl
  | cons b rest =>
    obtain ⟨-, hpoint, hmark⟩ := h b rfl
    dsimp only
    rw [if_neg hpoint, if_neg (by rw [hmark]; exact Bool.false_ne_true)]

/-- The digits of a numeral are digits. -/
theorem isDigit_toDigits (n : Nat) : ∀ c ∈ Nat.toDigits 10 n, c.isDigit := fun _ hc =>
  Nat.isDigit_of_mem_toDigits (by decide) (by decide) hc

/-- The first octet of a numeral is a digit, and not that of zero unless the number is zero. -/
theorem ofText_ofNat_eq_cons (n : Nat) :
    ∃ b rest, Octets.ofText (Numeral.ofNat n) = b :: rest ∧ isDigit b = true
      ∧ (0 < n → b ≠ 0x30) := by
  rw [Numeral.ofText_ofNat]
  cases hd : Nat.toDigits 10 n with
  | nil => exact absurd hd Nat.toDigits_ne_nil
  | cons c rest =>
    have hc : c.isDigit := isDigit_toDigits n c (by rw [hd]; exact List.mem_cons_self)
    refine ⟨Numeral.octet c, rest.map Numeral.octet, rfl, isDigit_octet hc, fun hpos hzero => ?_⟩
    have hcode : c.toNat = 48 := by
      rw [← Numeral.toNat_octet hc, hzero]
      rfl
    have hfirst := Numeral.head_toDigits hpos
    rw [hd, List.head?_cons] at hfirst
    -- The octet of zero is that of no other character.
    exact hfirst (congrArg some (Char.toNat_inj.1 hcode))

/-- The digits of a number that fits are read as it, whatever the sign before them. -/
theorem readUnsigned_digits (negative : Bool) {n : Nat} (hle : n ≤ maxSignificand) {tail : Octets}
    (htail : EndsNumber tail) :
    readUnsigned negative (Octets.ofText (Numeral.ofNat n) ++ tail)
      = readTail negative n 0 tail := by
  rcases Nat.eq_zero_or_pos n with rfl | hpos
  · -- Zero stands alone.
    show readUnsigned negative (0x30 :: tail) = _
    unfold readUnsigned
    cases tail with
    | nil => rfl
    | cons b rest =>
      dsimp only
      rw [if_pos rfl, if_neg (by rw [(htail b rfl).1]; exact Bool.false_ne_true)]
  · obtain ⟨b, rest, hcons, hb, hzero⟩ := ofText_ofNat_eq_cons n
    have hgather : gather 0 0 (b :: (rest ++ tail)) = (n, (Nat.toDigits 10 n).length, tail) := by
      have h := gather_digits (isDigit_toDigits n) htail 0 0
        (by rw [Nat.ofDigitChars_ten_toDigits]; exact hle)
      rw [Nat.ofDigitChars_ten_toDigits, ← Numeral.ofText_ofNat, hcons, Nat.zero_add] at h
      exact h
    have hnone : tail.takeWhile isDigit = [] :=
      takeWhile_digits (fun _ hc => absurd hc List.not_mem_nil) htail
    rw [hcons, List.cons_append]
    unfold readUnsigned
    dsimp only
    rw [if_neg (hzero hpos), if_pos hb, hgather]
    dsimp only
    rw [hnone]
    rfl

/-- A double is no integer. -/
theorem realOf_ne_integer {negative : Bool} {significand : Nat} {exponent : Int}
    {rest rest' : Octets} {i : Int} :
    realOf negative significand exponent rest ≠ .ok (.integer i, rest') := by
  unfold realOf
  split <;> intro h <;> cases h

/-- The digits of a number that does not fit are read as no integer, whatever the sign before
them. -/
theorem readUnsigned_beyond (negative : Bool) {n : Nat} (hlt : maxSignificand < n) {tail : Octets}
    (htail : EndsNumber tail) (i : Int) (rest : Octets) :
    readUnsigned negative (Octets.ofText (Numeral.ofNat n) ++ tail) ≠ .ok (.integer i, rest) := by
  obtain ⟨b, more, hcons, hb, hzero⟩ := ofText_ofNat_eq_cons n
  have hpos : 0 < n := Nat.lt_of_le_of_lt (Nat.zero_le _) hlt
  obtain ⟨value, count, c, left, hgather, hleft⟩ := gather_beyond (isDigit_toDigits n) tail 0 0
    (Nat.zero_le _) (by rw [Nat.ofDigitChars_ten_toDigits]; exact hlt)
  rw [← Numeral.ofText_ofNat, hcons, List.cons_append] at hgather
  rw [hcons, List.cons_append]
  unfold readUnsigned
  dsimp only
  rw [if_neg (hzero hpos), if_pos hb, hgather]
  dsimp only
  -- The digits that are left are dropped, so the number is read as a double.
  rw [takeWhile_digits hleft htail, List.drop_left, readTail_of_endsNumber htail,
    if_neg (by rw [List.length_map]; exact Nat.succ_ne_zero _)]
  exact realOf_ne_integer

/-! ## Integers -/

/-- A numeral is read as a number without a sign. -/
theorem readNumber_digits (n : Nat) (tail : Octets) :
    readNumber (Octets.ofText (Numeral.ofNat n) ++ tail)
      = readUnsigned false (Octets.ofText (Numeral.ofNat n) ++ tail) := by
  obtain ⟨b, rest, hcons, hb, -⟩ := ofText_ofNat_eq_cons n
  rw [hcons, List.cons_append]
  unfold readNumber
  split
  next heq =>
    -- A digit is no minus sign.
    cases heq
    exact absurd hb (by decide)
  · rfl

/-- The written form of a number below zero is a minus sign and the digits. -/
theorem writeInt_negSucc (n : Nat) :
    writeInt (.negSucc n) = 0x2d :: Octets.ofText (Numeral.ofNat (n + 1)) := by
  unfold writeInt
  dsimp only [Numeral.ofInt]
  rw [Octets.ofText_append]
  rfl

/-- An integer that fits in 64 bits is read back from its written form. -/
theorem readNumber_writeInt {i : Int} (hleast : -0x8000000000000000 ≤ i)
    (hgreatest : i ≤ 0xffffffffffffffff) {tail : Octets} (htail : EndsNumber tail) :
    readNumber (writeInt i ++ tail) = .ok (.integer i, tail) := by
  cases i with
  | ofNat n =>
    have hle : n ≤ maxSignificand := Int.ofNat_le.1 hgreatest
    show readNumber (Octets.ofText (Numeral.ofNat n) ++ tail) = _
    rw [readNumber_digits, readUnsigned_digits false hle htail, readTail_of_endsNumber htail,
      if_pos rfl, if_pos (by decide)]
    rfl
  | negSucc n =>
    -- Behind a minus sign the range is shorter, and zero is no integer.
    have hle : n + 1 ≤ 0x8000000000000000 := by omega
    rw [writeInt_negSucc, List.cons_append, readNumber]
    rw [readUnsigned_digits true (Nat.le_trans hle (by decide)) htail,
      readTail_of_endsNumber htail, if_pos rfl, if_neg (by decide),
      if_pos ⟨Nat.succ_le_succ (Nat.zero_le n), hle⟩]
    rfl

/-- An integer that is too large is not read as an integer. -/
theorem readNumber_beyond {i : Int} (hlt : 0xffffffffffffffff < i) {tail : Octets}
    (htail : EndsNumber tail) (j : Int) (rest : Octets) :
    readNumber (writeInt i ++ tail) ≠ .ok (.integer j, rest) := by
  cases i with
  | ofNat n =>
    show readNumber (Octets.ofText (Numeral.ofNat n) ++ tail) ≠ _
    rw [readNumber_digits]
    exact readUnsigned_beyond false (Int.ofNat_lt.1 hlt) htail j rest
  | negSucc n => omega

/-- The written form of an integer begins with a digit or a minus sign. -/
theorem writeInt_eq_cons (i : Int) :
    ∃ b rest, writeInt i = b :: rest ∧ (b = 0x2d ∨ isDigit b = true) := by
  cases i with
  | ofNat n =>
    obtain ⟨b, rest, hcons, hb, -⟩ := ofText_ofNat_eq_cons n
    exact ⟨b, rest, hcons, .inr hb⟩
  | negSucc n => exact ⟨0x2d, _, writeInt_negSucc n, .inl rfl⟩

/-- What begins a number is no blank. -/
theorem isBlank_of_number {b : UInt8} (h : b = 0x2d ∨ isDigit b = true) : isBlank b = false := by
  rcases h with rfl | hdigit
  · rfl
  · cases hblank : isBlank b with
    | false => rfl
    | true =>
      simp only [isBlank, Bool.or_eq_true, beq_iff_eq] at hblank
      rcases hblank with ((rfl | rfl) | rfl) | rfl <;> exact absurd hdigit (by decide)

/-- Reading an integer of a range from a written form is reading a number. -/
theorem readIntIn_writeInt (least greatest i : Int) (tail : Octets) :
    readIntIn least greatest (writeInt i ++ tail)
      = match readNumber (writeInt i ++ tail) with
        | .error p => .error p
        | .ok (.integer j, after) =>
          if least ≤ j ∧ j ≤ greatest then .ok (j, after) else .error .mismatch
        | .ok (.real _, _) => .error .mismatch := by
  obtain ⟨b, rest, hcons, hb⟩ := writeInt_eq_cons i
  have hblank : skipBlank (b :: (rest ++ tail)) = b :: (rest ++ tail) :=
    List.dropWhile_cons_of_neg (by rw [isBlank_of_number hb]; exact Bool.false_ne_true)
  rw [hcons, List.cons_append]
  unfold readIntIn readNumberAs
  rw [hblank]
  dsimp only
  rw [if_pos hb]
  cases readNumber (b :: (rest ++ tail)) with
  | error p => rfl
  | ok read =>
    obtain ⟨n, after⟩ := read
    cases n with
    | integer j =>
      dsimp only
      by_cases hin : least ≤ j ∧ j ≤ greatest
      · rw [if_pos hin, if_pos hin]
      · rw [if_neg hin, if_neg hin]
    | real x => rfl

end ChatBoard.Json
