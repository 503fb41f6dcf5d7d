import ChatBoard.Proofs.Json.Number

/-!
# A number is read the same whatever follows it

Reading a number stops at the first octet that cannot go on with it, so what is put behind such a
place is left over and nothing else changes (`readNumber_append`). The readers of the parts of a
number are gone through in the order in which they call each other; each of them passes on what the
one below leaves.
-/

namespace ChatBoard.Json

section

variable {tail : Octets} (htail : EndsNumber tail)

include htail

/-- Dropping digits stops before the tail. -/
theorem dropWhile_append (bs : Octets) :
    (bs ++ tail).dropWhile isDigit = bs.dropWhile isDigit ++ tail := by
  induction bs with
  | nil =>
    cases tail with
    | nil => rfl
    | cons t ts => exact List.dropWhile_cons_of_neg (by simp [(htail t rfl).1])
  | cons b rest ih =>
    rw [List.cons_append]
    by_cases hb : isDigit b = true
    · rw [List.dropWhile_cons_of_pos hb, List.dropWhile_cons_of_pos hb, ih]
    · rw [List.dropWhile_cons_of_neg hb, List.dropWhile_cons_of_neg hb, List.cons_append]

/-- Taking digits stops before the tail. -/
theorem takeWhile_append (bs : Octets) :
    (bs ++ tail).takeWhile isDigit = bs.takeWhile isDigit := by
  induction bs with
  | nil =>
    cases tail with
    | nil => rfl
    | cons t ts => exact List.takeWhile_cons_of_neg (by simp [(htail t rfl).1])
  | cons b rest ih =>
    rw [List.cons_append]
    by_cases hb : isDigit b = true
    · rw [List.takeWhile_cons_of_pos hb, List.takeWhile_cons_of_pos hb, ih]
    · rw [List.takeWhile_cons_of_neg hb, List.takeWhile_cons_of_neg hb]

/-- Gathering digits stops before the tail. -/
theorem gather_append (value count : Nat) (bs : Octets) :
    gather value count (bs ++ tail)
      = ((gather value count bs).1, (gather value count bs).2.1,
        (gather value count bs).2.2 ++ tail) := by
  fun_induction gather value count bs with
  | case1 value count => exact gather_of_endsNumber htail value count
  | case2 value count b rest hb next hnext ih =>
    rw [List.cons_append, gather, if_pos hb]
    dsimp only
    rw [if_pos hnext, ih]
  | case3 value count b rest hb next hnext =>
    rw [List.cons_append, gather, if_pos hb]
    dsimp only
    rw [if_neg hnext]
  | case4 value count b rest hb =>
    rw [List.cons_append, gather, if_neg hb]

/-- Reading the digits of an exponent stops before the tail. -/
theorem readExponentDigits_append (value : Nat) (bs : Octets) :
    readExponentDigits value (bs ++ tail)
      = ((readExponentDigits value bs).1, (readExponentDigits value bs).2 ++ tail) := by
  fun_induction readExponentDigits value bs with
  | case1 value =>
    cases tail with
    | nil => rfl
    | cons t ts =>
      rw [List.nil_append, readExponentDigits, if_neg (by simp [(htail t rfl).1])]
  | case2 value b rest hb next hnext ih =>
    rw [List.cons_append, readExponentDigits, if_pos hb]
    dsimp only
    rw [if_pos hnext, ih]
  | case3 value b rest hb next hnext =>
    rw [List.cons_append, readExponentDigits, if_pos hb]
    dsimp only
    rw [if_neg hnext]
  | case4 value b rest hb =>
    rw [List.cons_append, readExponentDigits, if_neg hb]

end

variable {negative : Bool} {significand dropped : Nat} {places exponent : Int} {n : Number}
  {bs rest tail : Octets}

/-- The double of a number does not depend on what is left over. -/
theorem realOf_append (h : realOf negative significand exponent bs = .ok (n, rest))
    (tail : Octets) :
    realOf negative significand exponent (bs ++ tail) = .ok (n, rest ++ tail) := by
  unfold realOf at h ⊢
  split at h
  · cases h
    rfl
  · cases h

/-- What is read of an exponent after its sign. -/
def readSize (negative : Bool) (significand : Nat) (places : Int) (minus : Bool) :
    Octets → Except Problem (Number × Octets)
  | [] => .error .truncated
  | b :: more =>
    if !isDigit b then .error .malformed
    else
      match readExponentDigits 0 (b :: more) with
      | (some e, rest) =>
        realOf negative significand (if minus then places - e else places + e) rest
      | (none, rest) =>
        if significand ≠ 0 ∧ !minus then .error .malformed
        else realOf negative 0 0 (rest.dropWhile isDigit)

/-- The sign of an exponent, and what comes after it. -/
def signOf (bs : Octets) : Bool × Octets :=
  match bs with
  | 0x2b :: rest => (false, rest)
  | 0x2d :: rest => (true, rest)
  | _ => (false, bs)

/-- An exponent is read after its sign. -/
theorem readExponent_eq (negative : Bool) (significand : Nat) (places : Int) (bs : Octets) :
    readExponent negative significand places bs
      = readSize negative significand places (signOf bs).1 (signOf bs).2 := by
  unfold readExponent
  split
  next minus digits heq =>
    have hsign : signOf bs = (minus, digits) := heq
    rw [hsign]
    cases digits <;> rfl

/-- Whatever follows, the sign of an exponent is the same. -/
theorem signOf_append (hne : bs ≠ []) (tail : Octets) :
    signOf (bs ++ tail) = ((signOf bs).1, (signOf bs).2 ++ tail) := by
  obtain ⟨b, more, rfl⟩ := List.exists_cons_of_ne_nil hne
  rw [List.cons_append]
  unfold signOf
  split
  next heq =>
    cases heq
    rfl
  next heq =>
    cases heq
    rfl
  next hplus hminus =>
    split
    next heq =>
      cases heq
      exact absurd rfl (hplus _)
    next heq =>
      cases heq
      exact absurd rfl (hminus _)
    · rfl

/-- The size of an exponent is read the same whatever follows it. -/
theorem readSize_append {minus : Bool} (htail : EndsNumber tail)
    (h : readSize negative significand places minus bs = .ok (n, rest)) :
    readSize negative significand places minus (bs ++ tail) = .ok (n, rest ++ tail) := by
  cases bs with
  | nil => cases h
  | cons b more =>
    have hdigits := readExponentDigits_append htail 0 (b :: more)
    rw [List.cons_append] at hdigits ⊢
    unfold readSize at h ⊢
    dsimp only at h ⊢
    rw [hdigits]
    split at h
    · cases h
    next hb =>
      rw [if_neg hb]
      cases hread : readExponentDigits 0 (b :: more) with
      | mk size left =>
        rw [hread] at h
        cases size with
        | some e => exact realOf_append h tail
        | none =>
          dsimp only at h ⊢
          split at h
          · cases h
          next hrange =>
            rw [if_neg hrange, dropWhile_append htail]
            exact realOf_append h tail

/-- An exponent is read the same whatever follows it. -/
theorem readExponent_append (htail : EndsNumber tail)
    (h : readExponent negative significand places bs = .ok (n, rest)) :
    readExponent negative significand places (bs ++ tail) = .ok (n, rest ++ tail) := by
  have hne : bs ≠ [] := by
    rintro rfl
    cases h
  rw [readExponent_eq] at h ⊢
  rw [signOf_append hne]
  exact readSize_append htail h

/-- What is read where the digits of a fraction have ended: an exponent, if its mark stands
there. -/
def readMarked (negative : Bool) (significand : Nat) (places : Int) :
    Octets → Except Problem (Number × Octets)
  | [] => realOf negative significand places []
  | b :: after =>
    if isExponentMark b then readExponent negative significand places after
    else realOf negative significand places (b :: after)

/-- What comes after the digits of a fraction is read the same whatever follows it. -/
theorem readMarked_append (htail : EndsNumber tail)
    (h : readMarked negative significand places bs = .ok (n, rest)) :
    readMarked negative significand places (bs ++ tail) = .ok (n, rest ++ tail) := by
  cases bs with
  | nil =>
    -- The number goes on to the end, and what follows it does not belong to it.
    have hreal := realOf_append h tail
    rw [List.nil_append] at hreal ⊢
    cases tail with
    | nil => exact hreal
    | cons t ts =>
      rw [readMarked, if_neg (by simp [(htail t rfl).2.2])]
      exact hreal
  | cons b after =>
    rw [readMarked] at h
    rw [List.cons_append, readMarked]
    split at h
    next hmark =>
      rw [if_pos hmark]
      exact readExponent_append htail h
    next hmark =>
      rw [if_neg hmark]
      exact realOf_append h tail

/-- A fraction is read from its digits. Those that no longer fit are passed over, and without any it
is not read. -/
theorem readFraction_eq (negative : Bool) (significand : Nat) (places : Int) (bs : Octets) :
    readFraction negative significand places bs
      = match gather significand 0 bs with
        | (value, count, left) =>
          if left.head?.any isDigit then
            readMarked negative value (places - count) (left.dropWhile isDigit)
          else if count = 0 then .error (if left = [] then .truncated else .malformed)
          else readMarked negative value (places - count) left := by
  unfold readFraction
  generalize gather significand 0 bs = gathered
  obtain ⟨value, count, left⟩ := gathered
  cases left with
  | nil => rfl
  | cons b after =>
    have hhead : (b :: after).head?.any isDigit = isDigit b := rfl
    dsimp only
    rw [hhead]
    by_cases hb : isDigit b = true
    · rw [if_pos hb, if_pos hb]
      cases (b :: after).dropWhile isDigit <;> rfl
    · rw [if_neg hb, if_neg hb, if_neg (List.cons_ne_nil b after)]
      rfl

/-- A fraction is read the same whatever follows it. -/
theorem readFraction_append (htail : EndsNumber tail)
    (h : readFraction negative significand places bs = .ok (n, rest)) :
    readFraction negative significand places (bs ++ tail) = .ok (n, rest ++ tail) := by
  rw [readFraction_eq] at h ⊢
  rw [gather_append htail]
  generalize gather significand 0 bs = gathered at h
  obtain ⟨value, count, left⟩ := gathered
  have hhead : (left ++ tail).head?.any isDigit = left.head?.any isDigit := by
    cases left with
    | nil =>
      cases tail with
      | nil => rfl
      | cons t ts => exact (htail t rfl).1
    | cons b after => rfl
  dsimp only at h ⊢
  rw [hhead, dropWhile_append htail]
  split at h
  next hdigit =>
    rw [if_pos hdigit]
    exact readMarked_append htail h
  next hdigit =>
    rw [if_neg hdigit]
    split at h
    · cases h
    next hcount =>
      rw [if_neg hcount]
      exact readMarked_append htail h

/-- What is read of a number that ends before the point. -/
def readWhole (negative : Bool) (significand dropped : Nat) (left : Octets) :
    Except Problem (Number × Octets) :=
  if dropped = 0 then
    if !negative then .ok (.integer significand, left)
    else if 1 ≤ significand ∧ significand ≤ 0x8000000000000000 then
      .ok (.integer (-significand), left)
    else realOf true significand 0 left
  else realOf negative significand dropped left

/-- A number that ends before the point does not depend on what is left over. -/
theorem readWhole_append (h : readWhole negative significand dropped bs = .ok (n, rest))
    (tail : Octets) :
    readWhole negative significand dropped (bs ++ tail) = .ok (n, rest ++ tail) := by
  unfold readWhole at h ⊢
  split at h
  next hdropped =>
    rw [if_pos hdropped]
    split at h
    next hpositive =>
      rw [if_pos hpositive]
      cases h
      rfl
    next hnegative =>
      rw [if_neg hnegative]
      split at h
      next hrange =>
        rw [if_pos hrange]
        cases h
        rfl
      next hrange =>
        rw [if_neg hrange]
        exact realOf_append h tail
  next hdropped =>
    rw [if_neg hdropped]
    exact realOf_append h tail

/-- What comes after the digits before the point is read the same whatever follows it. -/
theorem readTail_append (htail : EndsNumber tail)
    (h : readTail negative significand dropped bs = .ok (n, rest)) :
    readTail negative significand dropped (bs ++ tail) = .ok (n, rest ++ tail) := by
  cases bs with
  | nil =>
    rw [List.nil_append, readTail_of_endsNumber htail]
    exact readWhole_append h tail
  | cons b after =>
    rw [List.cons_append]
    unfold readTail at h ⊢
    dsimp only at h ⊢
    split at h
    next hpoint =>
      rw [if_pos hpoint]
      exact readFraction_append htail h
    next hpoint =>
      rw [if_neg hpoint]
      split at h
      next hmark =>
        rw [if_pos hmark]
        exact readExponent_append htail h
      next hmark =>
        rw [if_neg hmark]
        exact readWhole_append h tail

/-- A number is read after its sign the same whatever follows it. -/
theorem readUnsigned_append (htail : EndsNumber tail)
    (h : readUnsigned negative bs = .ok (n, rest)) :
    readUnsigned negative (bs ++ tail) = .ok (n, rest ++ tail) := by
  cases bs with
  | nil => cases h
  | cons b more =>
    have hgather := gather_append htail 0 0 (b :: more)
    rw [List.cons_append] at hgather ⊢
    unfold readUnsigned at h ⊢
    dsimp only at h ⊢
    split at h
    next hzero =>
      rw [if_pos hzero]
      cases more with
      | nil =>
        have hread := readTail_append htail h
        rw [List.nil_append] at hread ⊢
        cases tail with
        | nil => exact hread
        | cons t ts =>
          dsimp only
          rw [if_neg (by simp [(htail t rfl).1])]
          exact hread
      | cons c after =>
        rw [List.cons_append]
        dsimp only at h ⊢
        split at h
        · cases h
        next hc =>
          rw [if_neg hc]
          exact readTail_append htail h
    next hzero =>
      rw [if_neg hzero]
      split at h
      next hb =>
        rw [if_pos hb, hgather]
        generalize gather 0 0 (b :: more) = gathered at h
        obtain ⟨value, count, left⟩ := gathered
        dsimp only at h ⊢
        rw [takeWhile_append htail,
          List.drop_append_of_le_length (List.takeWhile_sublist isDigit).length_le]
        exact readTail_append htail h
      · cases h

/-- A number is read the same whatever follows it. -/
theorem readNumber_append (htail : EndsNumber tail) (h : readNumber bs = .ok (n, rest)) :
    readNumber (bs ++ tail) = .ok (n, rest ++ tail) := by
  cases bs with
  | nil => cases h
  | cons b more =>
    rw [List.cons_append]
    by_cases hb : b = 0x2d
    · subst hb
      exact readUnsigned_append htail h
    · have hplain : ∀ left : Octets, readNumber (b :: left) = readUnsigned false (b :: left) := by
        intro left
        unfold readNumber
        split
        next heq => exact absurd (List.cons.inj heq).1 hb
        · rfl
      rw [hplain] at h ⊢
      exact readUnsigned_append htail h

end ChatBoard.Json
