import ChatBoard.Proofs.Json.Grammar
import ChatBoard.Proofs.Json.Number

/-!
# Numerals that are read

What is passed over as a number is a numeral of the grammar (`exists_numeral_of_skip`). A number
that is read ends where it would end if it were passed over (`skipUnsigned_of_read`), since digits
that no longer fit are only dropped. An integer is read from its written form and from nothing else,
which is why no two texts of one number are read as the same integer (`readNumber_numeral`).
-/

namespace ChatBoard.Json

/-! ## Passing over a number -/

/-- A digit begins the digits up to the first octet that is none. -/
theorem exists_digits {d : UInt8} (hd : isDigit d = true) (bs : Octets) :
    ∃ ds, IsDigits (d :: ds) ∧ bs = ds ++ bs.dropWhile isDigit := by
  have hds : ∀ c ∈ bs.takeWhile isDigit, isDigit c = true := List.all_eq_true.1 List.all_takeWhile
  exact ⟨_, ⟨List.cons_ne_nil _ _, List.forall_mem_cons.2 ⟨hd, hds⟩⟩,
    List.takeWhile_append_dropWhile.symm⟩

/-- What is passed over after an exponent mark makes an exponent with it. -/
theorem exists_exponent_of_skip {mark : UInt8} (hmark : isExponentMark mark = true)
    {bs rest : Octets} (h : skipExponent bs = .ok rest) :
    ∃ exponent, IsExponent exponent ∧ mark :: bs = exponent ++ rest := by
  unfold skipExponent at h
  dsimp only at h
  split at h
  next after b more hdigits =>
    have hsign : ∃ sign, (sign = [] ∨ sign = [0x2b] ∨ sign = [0x2d]) ∧ bs = sign ++ b :: more := by
      split at hdigits
      · exact ⟨[0x2b], .inr (.inl rfl), congrArg (0x2b :: ·) hdigits⟩
      · exact ⟨[0x2d], .inr (.inr rfl), congrArg (0x2d :: ·) hdigits⟩
      · exact ⟨[], .inl rfl, hdigits⟩
    obtain ⟨sign, hsign, rfl⟩ := hsign
    split at h
    next hb =>
      cases h
      obtain ⟨ds, hds, hmore⟩ := exists_digits hb more
      refine ⟨_, .some hmark hsign hds, ?_⟩
      rw [List.cons_append, List.append_assoc, List.cons_append, ← hmore]
    · cases h
  · cases h

/-- What is passed over after the digits before the point is a fraction and an exponent. -/
theorem exists_tail_of_skip {bs rest : Octets} (h : skipTail bs = .ok rest) :
    ∃ fraction exponent, IsFraction fraction ∧ IsExponent exponent
      ∧ bs = fraction ++ (exponent ++ rest) := by
  unfold skipTail at h
  split at h
  · cases h
    exact ⟨[], [], .none, .none, rfl⟩
  next b more =>
    split at h
    next hpoint =>
      subst hpoint
      split at h
      next c tail =>
        split at h
        next hc =>
          obtain ⟨ds, hds, htail⟩ := exists_digits hc tail
          rw [List.dropWhile_cons_of_pos hc] at h
          split at h
          next d more hmore =>
            rw [hmore] at htail
            split at h
            next hd =>
              obtain ⟨exponent, hexponent, heq⟩ := exists_exponent_of_skip hd h
              refine ⟨_, exponent, .some hds, hexponent, ?_⟩
              rw [← heq, htail]
              rfl
            · cases h
              refine ⟨_, [], .some hds, .none, ?_⟩
              rw [htail]
              rfl
          next hmore =>
            cases h
            rw [hmore] at htail
            refine ⟨_, [], .some hds, .none, ?_⟩
            rw [htail]
            rfl
        · cases h
      · cases h
    · split at h
      next hb =>
        obtain ⟨exponent, hexponent, heq⟩ := exists_exponent_of_skip hb h
        exact ⟨[], exponent, .none, hexponent, heq⟩
      · cases h
        exact ⟨[], [], .none, .none, rfl⟩

/-- What is passed over after a sign makes a numeral with it. -/
theorem exists_numeral_of_skip {sign bs rest : Octets} (hsign : sign = [] ∨ sign = [0x2d])
    (h : skipUnsigned bs = .ok rest) :
    ∃ unsigned, IsNumeral (sign ++ unsigned) ∧ bs = unsigned ++ rest := by
  have hwhole : ∀ whole tail, IsWhole whole → bs = whole ++ tail → skipTail tail = .ok rest →
      ∃ unsigned, IsNumeral (sign ++ unsigned) ∧ bs = unsigned ++ rest := by
    rintro whole tail hwhole rfl h
    obtain ⟨fraction, exponent, hfraction, hexponent, rfl⟩ := exists_tail_of_skip h
    refine ⟨_, .mk hsign hwhole hfraction hexponent, ?_⟩
    simp only [List.append_assoc]
  unfold skipUnsigned at h
  split at h
  · cases h
  next b more =>
    split at h
    next hzero =>
      subst hzero
      split at h
      · split at h
        · cases h
        · exact hwhole [0x30] _ .zero rfl h
      · exact hwhole [0x30] _ .zero rfl h
    next hzero =>
      split at h
      next hb =>
        obtain ⟨ds, hds, hmore⟩ := exists_digits hb more
        exact hwhole (b :: ds) _ (.digits hzero hds.2) (congrArg (b :: ·) hmore) h
      · cases h

/-! ## A number that is read could be passed over -/

/-- A double leaves what follows it. -/
theorem rest_of_realOf {negative : Bool} {significand : Nat} {exponent : Int} {rest rest' : Octets}
    {n : Number} (h : realOf negative significand exponent rest = .ok (n, rest')) :
    (∃ x, n = .real x) ∧ rest' = rest := by
  unfold realOf at h
  split at h
  · cases h
    exact ⟨⟨_, rfl⟩, rfl⟩
  · cases h

/-- The digits that are not gathered are followed by what follows all of them. -/
theorem dropWhile_gather {value count value' count' : Nat} {bs rest : Octets}
    (h : gather value count bs = (value', count', rest)) :
    rest.dropWhile isDigit = bs.dropWhile isDigit := by
  fun_induction gather value count bs with
  | case1 => cases h; rfl
  | case2 value count b more hb next _ ih =>
    rw [List.dropWhile_cons_of_pos hb]
    exact ih h
  | case3 => cases h; rfl
  | case4 => cases h; rfl

/-- Where no digit stands nothing is gathered. -/
theorem isDigit_or_of_gather {value count value' count' : Nat} {bs rest : Octets}
    (h : gather value count bs = (value', count', rest)) :
    (∃ d tail, bs = d :: tail ∧ isDigit d = true) ∨ (count' = count ∧ rest = bs) := by
  cases bs with
  | nil =>
    cases h
    exact .inr ⟨rfl, rfl⟩
  | cons b more =>
    unfold gather at h
    split at h
    next hb => exact .inl ⟨b, more, rfl, hb⟩
    · cases h
      exact .inr ⟨rfl, rfl⟩

/-- The digits of an exponent are passed over whole as long as it is in range. -/
theorem dropWhile_readExponentDigits {value : Nat} {bs rest : Octets} {exponent : Option Nat}
    (h : readExponentDigits value bs = (exponent, rest)) :
    rest.dropWhile isDigit = bs.dropWhile isDigit
      ∧ (exponent.isSome → rest = bs.dropWhile isDigit) := by
  fun_induction readExponentDigits value bs with
  | case1 =>
    cases h
    exact ⟨rfl, fun _ => rfl⟩
  | case2 value b more hb next _ ih =>
    rw [List.dropWhile_cons_of_pos hb]
    exact ih h
  | case3 value b more hb =>
    cases h
    rw [List.dropWhile_cons_of_pos hb]
    exact ⟨rfl, fun h => (nomatch h)⟩
  | case4 value b more hb =>
    cases h
    exact ⟨rfl, fun _ => (List.dropWhile_cons_of_neg hb).symm⟩

/-- Digits after a sign are passed over. -/
theorem skipExponent_digits {sign : Octets} (hsign : sign = [] ∨ sign = [0x2b] ∨ sign = [0x2d])
    {b : UInt8} (hb : isDigit b = true) (more : Octets) :
    skipExponent (sign ++ b :: more) = .ok (more.dropWhile isDigit) := by
  rcases hsign with rfl | rfl | rfl
  · unfold skipExponent
    dsimp only [List.nil_append]
    split
    next hdigits =>
      -- A digit is neither of the two signs.
      split at hdigits
      next heq =>
        cases heq
        exact absurd hb (by decide)
      next heq =>
        cases heq
        exact absurd hb (by decide)
      · cases hdigits
        exact if_pos hb
    next hdigits =>
      split at hdigits
      next heq =>
        cases heq
        exact absurd hb (by decide)
      next heq =>
        cases heq
        exact absurd hb (by decide)
      · cases hdigits
  · exact if_pos hb
  · exact if_pos hb

/-- An exponent that is read could be passed over. -/
theorem skipExponent_of_read {negative : Bool} {significand : Nat} {places : Int}
    {bs rest : Octets} {n : Number}
    (h : readExponent negative significand places bs = .ok (n, rest)) :
    (∃ x, n = .real x) ∧ skipExponent bs = .ok rest := by
  unfold readExponent at h
  dsimp only at h
  split at h
  · cases h
  next digits b more hdigits =>
    have hsign : ∃ sign, (sign = [] ∨ sign = [0x2b] ∨ sign = [0x2d]) ∧ bs = sign ++ b :: more := by
      split at hdigits
      · exact ⟨[0x2b], .inr (.inl rfl), congrArg (0x2b :: ·) hdigits⟩
      · exact ⟨[0x2d], .inr (.inr rfl), congrArg (0x2d :: ·) hdigits⟩
      · exact ⟨[], .inl rfl, hdigits⟩
    obtain ⟨sign, hsign, hbs⟩ := hsign
    split at h
    · cases h
    next hb =>
      have hb : isDigit b = true := by simpa using hb
      rw [hbs, skipExponent_digits hsign hb]
      rw [hdigits] at h
      split at h
      next e tail hread =>
        obtain ⟨hreal, rfl⟩ := rest_of_realOf h
        have hrest := (dropWhile_readExponentDigits hread).2 rfl
        rw [List.dropWhile_cons_of_pos hb] at hrest
        exact ⟨hreal, congrArg Except.ok hrest.symm⟩
      next tail hread =>
        -- Out of range the number is zero, or else nothing is read.
        have hzero : realOf negative 0 0 (tail.dropWhile isDigit) = .ok (n, rest) := by
          split at h <;> split at h
          all_goals first | exact h | cases h
        obtain ⟨hreal, rfl⟩ := rest_of_realOf hzero
        have hrest := (dropWhile_readExponentDigits hread).1
        rw [List.dropWhile_cons_of_pos hb] at hrest
        exact ⟨hreal, congrArg Except.ok hrest.symm⟩

/-- Where a digit stands after the point, all digits are passed over. -/
theorem skipTail_digits {d : UInt8} (hd : isDigit d = true) (tail : Octets) :
    skipTail (0x2e :: d :: tail)
      = match (d :: tail).dropWhile isDigit with
        | [] => .ok []
        | c :: more => if isExponentMark c then skipExponent more else .ok (c :: more) := by
  unfold skipTail
  dsimp only
  rw [if_pos rfl, if_pos hd]
  cases (d :: tail).dropWhile isDigit with
  | nil => rfl
  | cons c more => rfl

/-- A fraction that is read could be passed over. -/
theorem skipTail_of_readFraction {negative : Bool} {significand : Nat} {places : Int}
    {bs rest : Octets} {n : Number}
    (h : readFraction negative significand places bs = .ok (n, rest)) :
    (∃ x, n = .real x) ∧ skipTail (0x2e :: bs) = .ok rest := by
  obtain ⟨value, count, left, hgather⟩ : ∃ value count left,
      gather significand 0 bs = (value, count, left) := ⟨_, _, _, rfl⟩
  have hleft := dropWhile_gather hgather
  unfold readFraction at h
  rw [hgather] at h
  dsimp only at h
  split at h
  next b after =>
    split at h
    next hb =>
      have hbegins : ∃ d tail, bs = d :: tail ∧ isDigit d = true := by
        rcases isDigit_or_of_gather hgather with hdigit | ⟨-, hbs⟩
        · exact hdigit
        · exact ⟨b, after, hbs.symm, hb⟩
      obtain ⟨d, tail, rfl, hd⟩ := hbegins
      rw [skipTail_digits hd, ← hleft]
      cases hdrop : (b :: after).dropWhile isDigit with
      | nil =>
        rw [hdrop] at h
        obtain ⟨hreal, rfl⟩ := rest_of_realOf h
        exact ⟨hreal, rfl⟩
      | cons c more =>
        rw [hdrop] at h
        dsimp only at h ⊢
        split at h
        next hc =>
          rw [if_pos hc]
          exact skipExponent_of_read h
        next hc =>
          obtain ⟨hreal, rfl⟩ := rest_of_realOf h
          exact ⟨hreal, if_neg hc⟩
    next hb =>
      split at h
      · cases h
      next hcount =>
        obtain ⟨d, tail, rfl, hd⟩ :=
          (isDigit_or_of_gather hgather).resolve_right fun hnone => hcount hnone.1
        rw [skipTail_digits hd, ← hleft, List.dropWhile_cons_of_neg hb]
        dsimp only
        split at h
        next hmark =>
          rw [if_pos hmark]
          exact skipExponent_of_read h
        next hmark =>
          obtain ⟨hreal, rfl⟩ := rest_of_realOf h
          exact ⟨hreal, if_neg hmark⟩
  · split at h
    · cases h
    next hcount =>
      obtain ⟨d, tail, rfl, hd⟩ :=
        (isDigit_or_of_gather hgather).resolve_right fun hnone => hcount hnone.1
      obtain ⟨hreal, rfl⟩ := rest_of_realOf h
      rw [skipTail_digits hd, ← hleft]
      exact ⟨hreal, rfl⟩

/-- What is read after the digits before the point could be passed over. An integer is read only
where nothing has been dropped and nothing more belongs to the number; below zero it has a minus
sign. -/
theorem skipTail_of_read {negative : Bool} {significand dropped : Nat} {bs rest : Octets}
    {n : Number} (h : readTail negative significand dropped bs = .ok (n, rest)) :
    skipTail bs = .ok rest
      ∧ ∀ i, n = .integer i → dropped = 0 ∧ rest = bs
        ∧ (if negative then 0 < significand ∧ i = -significand else i = significand) := by
  -- A number without fraction and exponent ends here.
  have hwhole : (if dropped = 0 then
        if !negative then .ok (.integer significand, bs)
        else if 1 ≤ significand ∧ significand ≤ 0x8000000000000000 then
          .ok (.integer (-significand), bs)
        else realOf true significand 0 bs
      else realOf negative significand dropped bs) = .ok (n, rest) →
      rest = bs ∧ ∀ i, n = .integer i → dropped = 0
        ∧ (if negative then 0 < significand ∧ i = -significand else i = significand) := by
    intro h
    split at h
    next hdropped =>
      split at h
      next hpositive =>
        cases h
        refine ⟨rfl, fun i hi => ⟨hdropped, ?_⟩⟩
        cases hi
        rw [if_neg (by simpa using hpositive)]
      next hnegative =>
        split at h
        next hrange =>
          cases h
          refine ⟨rfl, fun i hi => ⟨hdropped, ?_⟩⟩
          cases hi
          rw [if_pos (by simpa using hnegative)]
          exact ⟨hrange.1, rfl⟩
        · obtain ⟨⟨x, rfl⟩, rfl⟩ := rest_of_realOf h
          exact ⟨rfl, fun i hi => (nomatch hi)⟩
    · obtain ⟨⟨x, rfl⟩, rfl⟩ := rest_of_realOf h
      exact ⟨rfl, fun i hi => (nomatch hi)⟩
  unfold readTail at h
  dsimp only at h
  split at h
  next b after =>
    split at h
    next hpoint =>
      subst hpoint
      obtain ⟨⟨x, rfl⟩, hskip⟩ := skipTail_of_readFraction h
      exact ⟨hskip, fun i hi => (nomatch hi)⟩
    next hpoint =>
      unfold skipTail
      dsimp only
      rw [if_neg hpoint]
      split at h
      next hmark =>
        obtain ⟨⟨x, rfl⟩, hskip⟩ := skipExponent_of_read h
        rw [if_pos hmark]
        exact ⟨hskip, fun i hi => (nomatch hi)⟩
      next hmark =>
        obtain ⟨rfl, hinteger⟩ := hwhole h
        rw [if_neg hmark]
        exact ⟨rfl, fun i hi => ⟨(hinteger i hi).1, rfl, (hinteger i hi).2⟩⟩
  · obtain ⟨rfl, hinteger⟩ := hwhole h
    exact ⟨rfl, fun i hi => ⟨(hinteger i hi).1, rfl, (hinteger i hi).2⟩⟩

/-! ## Integers are read from their written form -/

/-- The octet of a digit is that of its number. -/
theorem octet_digitChar : ∀ n < 10, Numeral.octet n.digitChar = UInt8.ofNat (48 + n) := by decide

/-- A digit is that of its number. -/
theorem octet_of_isDigit {b : UInt8} (h : isDigit b = true) :
    48 ≤ b.toNat ∧ b.toNat - 48 < 10 ∧ Numeral.octet (b.toNat - 48).digitChar = b := by
  unfold isDigit at h
  rw [Bool.and_eq_true, decide_eq_true_iff, decide_eq_true_iff, UInt8.le_iff_toNat_le,
    UInt8.le_iff_toNat_le] at h
  have hleast : 48 ≤ b.toNat := h.1
  have hgreatest : b.toNat ≤ 57 := h.2
  have hlt : b.toNat - 48 < 10 := by omega
  refine ⟨hleast, hlt, ?_⟩
  rw [octet_digitChar _ hlt, Nat.add_sub_cancel' hleast, UInt8.ofNat_toNat]

/-- What is gathered after a number is written after it. -/
theorem written_of_gather {value count value' count' : Nat} {bs rest : Octets} (hvalue : 0 < value)
    (h : gather value count bs = (value', count', rest)) :
    Octets.ofText (Numeral.ofNat value) ++ bs = Octets.ofText (Numeral.ofNat value') ++ rest := by
  fun_induction gather value count bs with
  | case1 => cases h; rfl
  | case2 value count b more hb next hnext ih =>
    obtain ⟨-, hlt, hoctet⟩ := octet_of_isDigit hb
    -- The digit is the last one of the next value.
    have hnumeral : Octets.ofText (Numeral.ofNat next)
        = Octets.ofText (Numeral.ofNat value) ++ [b] := by
      have hdigits := Nat.toDigits_append_toDigits (b := 10) (by decide) hvalue hlt
      rw [Nat.mul_comm] at hdigits
      rw [Numeral.ofText_ofNat, Numeral.ofText_ofNat, ← hdigits,
        Nat.toDigits_of_lt_base hlt, List.map_append, List.map_singleton, hoctet]
    rw [← ih (by omega) h, hnumeral, List.append_assoc]
    rfl
  | case3 => cases h; rfl
  | case4 => cases h; rfl

/-- What is gathered of digits without a leading zero is the number that they are the written form
of. -/
theorem written_of_gather_zero {b : UInt8} {more rest : Octets} {value count : Nat}
    (hb : isDigit b = true) (hzero : b ≠ 0x30) (h : gather 0 0 (b :: more) = (value, count, rest)) :
    b :: more = Octets.ofText (Numeral.ofNat value) ++ rest := by
  obtain ⟨hleast, hlt, hoctet⟩ := octet_of_isDigit hb
  have hne : b.toNat ≠ 48 := fun heq => hzero (UInt8.toNat_inj.1 heq)
  have hpos : 0 < b.toNat - 48 := by omega
  have hfits : b.toNat - 48 ≤ maxSignificand := Nat.le_trans (Nat.le_of_lt hlt) (by decide)
  have hfirst : Octets.ofText (Numeral.ofNat (b.toNat - 48)) = [b] := by
    rw [Numeral.ofText_ofNat, Nat.toDigits_of_lt_base hlt, List.map_singleton, hoctet]
  rw [gather, if_pos hb] at h
  dsimp only at h
  rw [Nat.zero_mul, Nat.zero_add, if_pos hfits] at h
  rw [← written_of_gather hpos h, hfirst]
  rfl

/-- A number that is read could be passed over, and an integer is written as it is. -/
theorem skipUnsigned_of_read {negative : Bool} {bs rest : Octets} {n : Number}
    (h : readUnsigned negative bs = .ok (n, rest)) :
    skipUnsigned bs = .ok rest
      ∧ ∀ i, n = .integer i → ∃ m : Nat, bs = Octets.ofText (Numeral.ofNat m) ++ rest
        ∧ (if negative then 0 < m ∧ i = -m else i = m) := by
  unfold readUnsigned at h
  unfold skipUnsigned
  split at h
  · cases h
  next b more =>
    split at h
    next hzero =>
      -- A zero stands alone, and it is written as it is read.
      subst hzero
      have halone : readTail negative 0 0 more = .ok (n, rest) → skipTail more = .ok rest
          ∧ ∀ i, n = .integer i → ∃ m : Nat, 0x30 :: more = Octets.ofText (Numeral.ofNat m) ++ rest
            ∧ (if negative then 0 < m ∧ i = -m else i = m) := by
        intro h
        obtain ⟨hskip, hinteger⟩ := skipTail_of_read h
        refine ⟨hskip, fun i hi => ⟨0, ?_, (hinteger i hi).2.2⟩⟩
        rw [(hinteger i hi).2.1]
        rfl
      rw [if_pos rfl]
      split at h
      next c tail =>
        split at h
        · cases h
        next hc =>
          rw [if_neg hc]
          exact halone h
      · exact halone h
    next hzero =>
      split at h
      next hb =>
        obtain ⟨value, count, after, hgather⟩ : ∃ value count after,
            gather 0 0 (b :: more) = (value, count, after) := ⟨_, _, _, rfl⟩
        have hdrop := dropWhile_gather hgather
        rw [List.dropWhile_cons_of_pos hb] at hdrop
        rw [hgather] at h
        dsimp only at h
        obtain ⟨hskip, hinteger⟩ := skipTail_of_read h
        have hafter : after.drop (after.takeWhile isDigit).length = after.dropWhile isDigit := by
          conv => lhs; arg 2; rw [← List.takeWhile_append_dropWhile (p := isDigit) (l := after)]
          exact List.drop_left
        rw [hafter, hdrop] at hskip
        rw [if_neg hzero, if_pos hb]
        refine ⟨hskip, fun i hi => ⟨value, ?_, (hinteger i hi).2.2⟩⟩
        obtain ⟨hnone, hrest, -⟩ := hinteger i hi
        rw [hrest, hnone, List.drop_zero]
        exact written_of_gather_zero hb hzero hgather
      · cases h

/-- A number that is read is a numeral, and an integer is the written form of it. -/
theorem readNumber_numeral {bs rest : Octets} {n : Number} (h : readNumber bs = .ok (n, rest)) :
    ∃ numeral, IsNumeral numeral ∧ bs = numeral ++ rest
      ∧ ∀ i, n = .integer i → numeral = writeInt i := by
  unfold readNumber at h
  split at h
  next more =>
    obtain ⟨hskip, hinteger⟩ := skipUnsigned_of_read h
    obtain ⟨unsigned, hnumeral, rfl⟩ := exists_numeral_of_skip (.inr rfl) hskip
    refine ⟨_, hnumeral, rfl, fun i hi => ?_⟩
    obtain ⟨m, hm, hpos, rfl⟩ := hinteger i hi
    obtain ⟨k, rfl⟩ : ∃ k, m = k + 1 := ⟨m - 1, by omega⟩
    rw [List.append_cancel_right hm]
    exact (writeInt_negSucc k).symm
  · obtain ⟨hskip, hinteger⟩ := skipUnsigned_of_read h
    obtain ⟨unsigned, hnumeral, rfl⟩ := exists_numeral_of_skip (.inl rfl) hskip
    refine ⟨_, hnumeral, rfl, fun i hi => ?_⟩
    obtain ⟨m, hm, rfl⟩ := hinteger i hi
    exact List.append_cancel_right hm

end ChatBoard.Json
