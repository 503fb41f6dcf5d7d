import ChatBoard.Proofs.Octets
import ChatBoard.Text.Numeral

/-!
# Reading back decimal numerals

Digits read from the left give the number that they denote, unless it is above the limit
(`Numeral.readDigits_eq`): a value that has grown out of range never comes back. Reading therefore
undoes writing (`Numeral.readInt64_ofNat`), and two numbers are never written alike, whatever their
size (`Numeral.ofInt_injective`). In octets a numeral has one octet for each digit
(`Numeral.ofText_ofNat`), and but for zero itself it does not begin with a zero
(`Numeral.head_toDigits`).
-/

namespace ChatBoard.Numeral

/-- The value of a digit. -/
theorem digit?_of_isDigit {c : Char} (h : c.isDigit) : digit? c = some (c.toNat - 48) := by
  unfold digit?
  rw [Char.isDigit, Bool.and_eq_true, decide_eq_true_iff, decide_eq_true_iff] at h
  exact if_pos h

/-- A character that is no digit has no value. -/
theorem digit?_eq_none {c : Char} (h : ¬ c.isDigit) : digit? c = none := by
  unfold digit?
  rw [Char.isDigit, Bool.and_eq_true, decide_eq_true_iff, decide_eq_true_iff] at h
  exact if_neg h

/-- A digit more takes the value so far to the next place. -/
theorem ofDigitChars_digit (c : Char) (cs : List Char) (value : Nat) :
    Nat.ofDigitChars 10 (c :: cs) value = Nat.ofDigitChars 10 cs (value * 10 + (c.toNat - 48)) := by
  rw [Nat.ofDigitChars_cons, Nat.mul_comm]
  rfl

/-- Digits appended to a number do not make it smaller. -/
theorem le_ofDigitChars (cs : List Char) (value : Nat) : value ≤ Nat.ofDigitChars 10 cs value := by
  induction cs generalizing value with
  | nil => exact Nat.le_of_eq Nat.ofDigitChars_nil.symm
  | cons c rest ih =>
    rw [ofDigitChars_digit]
    exact Nat.le_trans (by omega) (ih _)

/-- Digits give the number that they denote, or the fault if it is above the limit. -/
theorem readDigits_eq {limit : Nat} (beyond : NumeralFault) {cs : List Char}
    (h : ∀ c ∈ cs, c.isDigit) {value : Nat} (hvalue : value ≤ limit) :
    readDigits limit beyond value cs
      = if Nat.ofDigitChars 10 cs value ≤ limit then .ok (Nat.ofDigitChars 10 cs value)
        else .error beyond := by
  induction cs generalizing value with
  | nil =>
    rw [Nat.ofDigitChars_nil, if_pos hvalue]
    rfl
  | cons c rest ih =>
    have hrest := fun d hd => h d (List.mem_cons_of_mem _ hd)
    unfold readDigits
    rw [digit?_of_isDigit (h c List.mem_cons_self), ofDigitChars_digit]
    dsimp only
    split
    next hle => exact ih hrest hle
    next hgt =>
      -- The value is out of range already, and the other digits only make it larger.
      have := le_ofDigitChars rest (value * 10 + (c.toNat - 48))
      rw [if_neg (by omega)]

/-- What is read has digits only. -/
theorem isDigit_of_readDigits {limit value n : Nat} {beyond : NumeralFault} {cs : List Char}
    (h : readDigits limit beyond value cs = .ok n) : ∀ c ∈ cs, c.isDigit := by
  induction cs generalizing value with
  | nil => exact fun _ hc => absurd hc List.not_mem_nil
  | cons c rest ih =>
    unfold readDigits at h
    cases hdigit : digit? c with
    | none =>
      rw [hdigit] at h
      cases h
    | some d =>
      rw [hdigit] at h
      dsimp only at h
      split at h
      · refine List.forall_mem_cons.2 ⟨?_, ih h⟩
        unfold digit? at hdigit
        split at hdigit
        next hrange =>
          rw [Char.isDigit, Bool.and_eq_true, decide_eq_true_iff, decide_eq_true_iff]
          exact hrange
        · cases hdigit
      · cases h

/-- A number is read from the digits that denote it, and from nothing else. -/
theorem readDigits_eq_ok_iff {limit n : Nat} {beyond : NumeralFault} {cs : List Char} :
    readDigits limit beyond 0 cs = .ok n
      ↔ (∀ c ∈ cs, c.isDigit) ∧ n = Nat.ofDigitChars 10 cs 0 ∧ n ≤ limit := by
  constructor
  · intro h
    have hdigits := isDigit_of_readDigits h
    rw [readDigits_eq beyond hdigits (Nat.zero_le _)] at h
    split at h
    next hle =>
      cases h
      exact ⟨hdigits, rfl, hle⟩
    · cases h
  · rintro ⟨hdigits, rfl, hle⟩
    rw [readDigits_eq beyond hdigits (Nat.zero_le _), if_pos hle]

/-- What is read as a positive number is digits that denote it, before which a plus sign may
stand. -/
theorem readInt64_eq_ok_iff {s : String} {n : Nat} (hpos : 0 < n) :
    readInt64 s = .ok (n : Int)
      ↔ n ≤ 0x7fffffffffffffff ∧ ∃ digits, (s.toList = digits ∨ s.toList = '+' :: digits)
        ∧ (∀ c ∈ digits, c.isDigit) ∧ n = Nat.ofDigitChars 10 digits 0 := by
  have hmap : ∀ {x : Except NumeralFault Nat}, x.map Int.ofNat = .ok (n : Int) ↔ x = .ok n := by
    intro x
    cases x with
    | error fault => exact ⟨fun h => (nomatch h), fun h => (nomatch h)⟩
    | ok m =>
      refine ⟨fun h => ?_, fun h => by rw [h]; rfl⟩
      exact congrArg Except.ok (Int.ofNat.inj (Except.ok.inj h))
  unfold readInt64
  constructor
  · intro h
    split at h
    · cases h
    next rest hs =>
      rw [hmap] at h
      unfold readMagnitude at h
      split at h
      · cases h
      · obtain ⟨hdigits, hn, hle⟩ := readDigits_eq_ok_iff.1 h
        exact ⟨hle, _, .inr hs, hdigits, hn⟩
    next rest hs =>
      -- After a minus sign no number is positive.
      cases hread : readMagnitude 0x8000000000000000 .tooSmall rest with
      | error fault =>
        rw [hread] at h
        cases h
      | ok m =>
        rw [hread] at h
        have hneg : -(Int.ofNat m) = (n : Int) := Except.ok.inj h
        have hm : (0 : Int) ≤ Int.ofNat m := Int.natCast_nonneg m
        omega
    · rw [hmap] at h
      obtain ⟨hdigits, hn, hle⟩ := readDigits_eq_ok_iff.1 h
      exact ⟨hle, _, .inl rfl, hdigits, hn⟩
  · rintro ⟨hle, digits, hs, hdigits, hn⟩
    cases digits with
    | nil =>
      rw [Nat.ofDigitChars_nil] at hn
      omega
    | cons c rest =>
      have hc := hdigits c List.mem_cons_self
      have hread : ∀ beyond, readDigits 0x7fffffffffffffff beyond 0 (c :: rest) = .ok n :=
        fun beyond => readDigits_eq_ok_iff.2 ⟨hdigits, hn, hle⟩
      rcases hs with hs | hs
      · rw [hs]
        split
        next heq => cases heq
        -- A digit is neither of the two signs.
        next heq =>
          cases heq
          exact absurd hc (by decide)
        next heq =>
          cases heq
          exact absurd hc (by decide)
        next => rw [hmap, hread]
      · rw [hs]
        show (readMagnitude 0x7fffffffffffffff .tooLarge (c :: rest)).map Int.ofNat = _
        rw [hmap]
        exact hread .tooLarge

/-- A text of digits is read as the number that they denote, if that is in the range. -/
theorem readInt64_digits {s : String} (hne : s.toList ≠ []) (h : ∀ c ∈ s.toList, c.isDigit)
    (hle : Nat.ofDigitChars 10 s.toList 0 ≤ 0x7fffffffffffffff) :
    readInt64 s = .ok (Nat.ofDigitChars 10 s.toList 0 : Int) := by
  unfold readInt64
  cases hs : s.toList with
  | nil => exact absurd hs hne
  | cons c rest =>
    rw [hs] at h hle
    have hc := h c List.mem_cons_self
    split
    next heq => cases heq
    -- A digit is neither of the two signs.
    next heq =>
      cases heq
      exact absurd hc (by decide)
    next heq =>
      cases heq
      exact absurd hc (by decide)
    next =>
      rw [readDigits_eq .tooLarge h (Nat.zero_le _), if_pos hle]
      rfl

/-- The numeral of a number is made of digits. -/
theorem isDigit_ofNat (n : Nat) : ∀ c ∈ (ofNat n).toList, c.isDigit := by
  intro c hc
  unfold ofNat at hc
  rw [String.toList_ofList] at hc
  exact Nat.isDigit_of_mem_toDigits (by decide) (by decide) hc

/-- The numeral of an integer is made of digits, and maybe a minus sign. -/
theorem isDigit_ofInt (i : Int) : ∀ c ∈ (ofInt i).toList, c.isDigit ∨ c = '-' := by
  cases i with
  | ofNat n => exact fun c hc => .inl (isDigit_ofNat n c hc)
  | negSucc n =>
    unfold ofInt
    dsimp only
    rw [String.toList_append]
    refine List.forall_mem_append.2 ⟨fun c hc => .inr (List.mem_singleton.1 hc), fun c hc => ?_⟩
    exact .inl (isDigit_ofNat (n + 1) c hc)

/-- The numeral of a number has a digit. -/
theorem toList_ofNat_ne_nil (n : Nat) : (ofNat n).toList ≠ [] := by
  unfold ofNat
  rw [String.toList_ofList]
  exact Nat.toDigits_ne_nil

/-- The numeral of a number of the range is read back. -/
theorem readInt64_ofNat {n : Nat} (h : n ≤ 0x7fffffffffffffff) :
    readInt64 (ofNat n) = .ok (n : Int) := by
  have hvalue : Nat.ofDigitChars 10 (ofNat n).toList 0 = n := by
    unfold ofNat
    rw [String.toList_ofList, Nat.ofDigitChars_ten_toDigits]
  rw [readInt64_digits (toList_ofNat_ne_nil n) (isDigit_ofNat n) (by rw [hvalue]; exact h), hvalue]

/-- No two numbers have one numeral. -/
theorem ofNat_injective {m n : Nat} (h : ofNat m = ofNat n) : m = n := by
  unfold ofNat at h
  have hdigits := congrArg String.toList h
  rw [String.toList_ofList, String.toList_ofList] at hdigits
  rw [← Nat.ofDigitChars_ten_toDigits (n := m), hdigits, Nat.ofDigitChars_ten_toDigits]

/-- A numeral without a sign does not begin with a minus sign. -/
theorem ofNat_ne_minus (m n : Nat) : ofNat m ≠ "-" ++ ofNat n := by
  intro h
  have hminus : '-' ∈ (ofNat m).toList := by
    rw [h, String.toList_append]
    exact List.mem_append_left _ List.mem_cons_self
  exact absurd (isDigit_ofNat m _ hminus) (by decide)

/-- No two numbers have one numeral, also with signs. -/
theorem ofInt_injective {m n : Int} (h : ofInt m = ofInt n) : m = n := by
  cases m with
  | ofNat m =>
    cases n with
    | ofNat n => rw [ofNat_injective h]
    | negSucc n => exact absurd h (ofNat_ne_minus m (n + 1))
  | negSucc m =>
    cases n with
    | ofNat n => exact absurd h.symm (ofNat_ne_minus n (m + 1))
    | negSucc n =>
      obtain rfl : m = n := Nat.succ.inj (ofNat_injective ((String.append_right_inj "-").1 h))
      rfl

/-! ## Numerals in octets -/

/-- The octet of a digit. -/
def octet (c : Char) : UInt8 := UInt8.ofNat c.toNat

/-- The code of a digit is between those of 0 and 9. -/
theorem toNat_of_isDigit {c : Char} (h : c.isDigit) : 48 ≤ c.toNat ∧ c.toNat ≤ 57 := by
  rw [Char.isDigit, Bool.and_eq_true, decide_eq_true_iff, decide_eq_true_iff] at h
  exact ⟨UInt32.le_iff_toNat_le.1 h.1, UInt32.le_iff_toNat_le.1 h.2⟩

/-- The octet of a digit is its code. -/
theorem toNat_octet {c : Char} (h : c.isDigit) : (octet c).toNat = c.toNat := by
  have hcode := toNat_of_isDigit h
  unfold octet
  rw [UInt8.toNat_ofNat']
  omega

/-- The octets of a text of digits. -/
theorem ofText_digits {cs : List Char} (h : ∀ c ∈ cs, c.isDigit) :
    Octets.ofText (String.ofList cs) = cs.map octet := by
  have hdigit : ∀ c ∈ cs, String.utf8EncodeChar c = [octet c] := by
    intro c hc
    have hcode := toNat_of_isDigit (h c hc)
    exact Octets.utf8EncodeChar_of_lt (by omega)
  rw [Octets.ofText_ofList, List.map_eq_flatMap, List.flatMap_def, List.flatMap_def,
    List.map_congr_left hdigit]

/-- The octets of a numeral. -/
theorem ofText_ofNat (n : Nat) : Octets.ofText (ofNat n) = (Nat.toDigits 10 n).map octet :=
  ofText_digits fun _ hc => Nat.isDigit_of_mem_toDigits (by decide) (by decide) hc

/-- The octets of a numeral are digits. -/
theorem octet_mem {n : Nat} {b : UInt8} (h : b ∈ Octets.ofText (ofNat n)) :
    48 ≤ b.toNat ∧ b.toNat ≤ 57 := by
  rw [ofText_ofNat] at h
  obtain ⟨c, hc, rfl⟩ := List.mem_map.1 h
  have hdigit : c.isDigit = true := Nat.isDigit_of_mem_toDigits (by decide) (by decide) hc
  rw [toNat_octet hdigit]
  exact toNat_of_isDigit hdigit

/-- An octet that is no digit stands in no numeral. -/
theorem octet_not_mem {b : UInt8} (h : b.toNat < 48 ∨ 57 < b.toNat) (n : Nat) :
    b ∉ Octets.ofText (ofNat n) := by
  intro hmem
  have := octet_mem hmem
  omega

/-- The numeral of a number that is not zero does not begin with a zero. -/
theorem head_toDigits {n : Nat} (h : 0 < n) : (Nat.toDigits 10 n).head? ≠ some '0' := by
  induction n using Nat.strongRecOn with
  | _ n ih =>
    rw [Nat.toDigits_eq_if (by decide)]
    split
    next hlt =>
      have hdigits : ∀ m < 10, 0 < m → [Nat.digitChar m].head? ≠ some '0' := by decide
      exact hdigits n hlt h
    next hge =>
      -- The first digit is that of the number without its last digit.
      have hfirst := ih (n / 10) (by omega) (by omega)
      rw [List.head?_append]
      cases hd : Nat.toDigits 10 (n / 10) with
      | nil => exact absurd hd Nat.toDigits_ne_nil
      | cons c rest =>
        rw [hd] at hfirst
        exact hfirst

end ChatBoard.Numeral
