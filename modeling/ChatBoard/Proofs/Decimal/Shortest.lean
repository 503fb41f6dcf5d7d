import ChatBoard.Decimal.Layout

/-!
# The digits of a double that is not zero

A decimal that reads as a double other than zero is not zero either, so no grid has its hit there
(`Interval.hit?_pos`). If none of the grids had a hit, the search would end with the digits of the
grid that it has reached. They are not zero where numbers are written at their places: the
estimate of the leading digit is off by one at most (`Interval.le_of_leading`). So digits that are
zero are never followed by zeros before the point (`shortest_digits`).
-/

namespace ChatBoard.Double

variable {tie : Tie} {i : Interval} {x : Double}

/-! ## Hits -/

/-- The ends of an interval are above zero in every unit if they are in one. -/
theorem Interval.least_inUnits_pos (h : 0 < i.least) (power : Int) :
    0 < (i.inUnits power).least := by
  unfold inUnits
  split
  · exact h
  · exact Nat.mul_pos h (Nat.pow_pos (by decide))

/-- Of two neighbours the lower one is taken only if it may be. -/
theorem choice_cases {lower upper nearer farther even : Prop} [Decidable lower] [Decidable upper]
    [Decidable nearer] [Decidable farther] [Decidable even] {d r : Nat}
    (h : (if lower ∧ upper then
        if nearer then some d
        else if farther then some (d + 1)
        else if even then some d
        else some (d + 1)
      else if lower then some d
      else if upper then some (d + 1)
      else none) = some r) : r = d ∧ lower ∨ r = d + 1 := by
  split at h
  next hboth =>
    split at h
    · exact .inl ⟨(Option.some.inj h).symm, hboth.1⟩
    · split at h
      · exact .inr (Option.some.inj h).symm
      · split at h
        · exact .inl ⟨(Option.some.inj h).symm, hboth.1⟩
        · exact .inr (Option.some.inj h).symm
  · split at h
    next hlower => exact .inl ⟨(Option.some.inj h).symm, hlower⟩
    · split at h
      · exact .inr (Option.some.inj h).symm
      · cases h

/-- A hit is the unit below the value, if it lies in the interval, or the one above. -/
theorem Interval.hit?_cases {d : Nat} (h : i.hit? tie = some d) :
    d = i.value / i.scale ∧ i.least ≤ i.value / i.scale * i.scale ∨ d = i.value / i.scale + 1 := by
  rcases choice_cases h with ⟨hd, hlower⟩ | hd
  · refine .inl ⟨hd, ?_⟩
    split at hlower
    · exact hlower
    · exact Nat.le_of_lt hlower
  · exact .inr hd

/-- A hit in an interval above zero is above zero. -/
theorem Interval.hit?_pos (hleast : 0 < i.least) {d : Nat} (h : i.hit? tie = some d) : 0 < d := by
  rcases hit?_cases h with ⟨rfl, hlower⟩ | rfl
  · refine Nat.pos_of_ne_zero fun hzero => ?_
    rw [hzero, Nat.zero_mul] at hlower
    omega
  · exact Nat.succ_pos _

/-- Digits that are zero come from the last grid that the search has reached. -/
theorem search_digits (hleast : 0 < i.least) (leading : Int) (more count : Nat)
    (h : (search tie i leading more count).digits = 0) :
    (search tie i leading more count).exponent = leading - (count + more : Nat) + 1
      ∧ (i.inUnits (leading - (count + more : Nat) + 1)).value
        / (i.inUnits (leading - (count + more : Nat) + 1)).scale = 0 := by
  induction more generalizing count with
  | zero => exact ⟨rfl, h⟩
  | succ more ih =>
    rw [search] at h ⊢
    split at h
    next d hit =>
      have hpos := Interval.hit?_pos (Interval.least_inUnits_pos hleast _) hit
      exact absurd h (Nat.ne_of_gt hpos)
    · have hcount : count + 1 + more = count + (more + 1) := by omega
      rw [← hcount]
      exact ih (count + 1) h

/-- Moving factors of ten leaves digits that are zero alone, and makes no others zero. -/
theorem withoutZeros_digits (more : Nat) (d : Digits)
    (h : (Digits.withoutZeros more d).digits = 0) : Digits.withoutZeros more d = d := by
  induction more generalizing d with
  | zero => rfl
  | succ more ih =>
    unfold Digits.withoutZeros at h ⊢
    split
    next hten =>
      rw [if_pos hten] at h
      have hsame := ih _ h
      rw [hsame] at h
      dsimp only at h
      omega
    · rfl

/-! ## The leading digit -/

/-- Whether a power of ten is at most the value. -/
def Interval.atLeast (i : Interval) (p : Int) : Bool :=
  if 0 ≤ p then i.scale * Nat.pow 10 p.toNat ≤ i.value
  else i.scale ≤ i.value * Nat.pow 10 (-p).toNat

/-- The leading digit is looked for around an estimate. -/
theorem Interval.leading_eq (i : Interval) {guess : Int}
    (h : guess = (((Nat.log2 i.value : Int) - Nat.log2 i.scale) * 30103).fdiv 100000) :
    i.leading = if i.atLeast (guess + 1) then guess + 1
      else if i.atLeast guess then guess else guess - 1 := by
  subst h
  rfl

/-- The leading digit is at most the value, or one below what the bits tell. -/
theorem Interval.leading_cases (i : Interval) :
    (0 ≤ i.leading → i.scale * Nat.pow 10 i.leading.toNat ≤ i.value)
      ∨ (i.leading + 1) * 100000 ≤ ((Nat.log2 i.value : Int) - Nat.log2 i.scale) * 30103 := by
  obtain ⟨guess, hguess⟩ : ∃ guess, guess
      = (((Nat.log2 i.value : Int) - Nat.log2 i.scale) * 30103).fdiv 100000 := ⟨_, rfl⟩
  have hexact : ∀ p, i.atLeast p = true → 0 ≤ p → i.scale * Nat.pow 10 p.toNat ≤ i.value := by
    intro p hp hnonneg
    unfold atLeast at hp
    rw [if_pos hnonneg] at hp
    exact of_decide_eq_true hp
  rw [i.leading_eq hguess]
  split
  next hleast => exact .inl (hexact _ hleast)
  · split
    next hleast => exact .inl (hexact _ hleast)
    · rw [Int.fdiv_eq_ediv_of_nonneg _ (by decide)] at hguess
      exact .inr (by omega)

/-- A power of ten far below the leading digit is below the value. -/
theorem Interval.le_of_leading (hvalue : 0 < i.value) {e : Nat} (he : e ≤ 15)
    (hleading : i.leading = e + 17) : i.scale * Nat.pow 10 e ≤ i.value := by
  rcases i.leading_cases with hexact | hbits
  · have hle := hexact (by omega)
    rw [hleading] at hle
    refine Nat.le_trans (Nat.mul_le_mul_left _ (Nat.pow_le_pow_right (by decide) ?_)) hle
    omega
  · rw [hleading] at hbits
    have hlower : 2 ^ Nat.log2 i.value ≤ i.value := Nat.log2_self_le (by omega)
    have hupper : i.scale < 2 ^ (Nat.log2 i.scale + 1) := Nat.lt_log2_self
    have hten : Nat.pow 10 e ≤ 2 ^ (4 * e) := by
      rw [Nat.pow_mul]
      exact Nat.pow_le_pow_left (by decide) e
    calc i.scale * Nat.pow 10 e ≤ 2 ^ (Nat.log2 i.scale + 1) * 2 ^ (4 * e) :=
          Nat.mul_le_mul (Nat.le_of_lt hupper) hten
      _ = 2 ^ (Nat.log2 i.scale + 1 + 4 * e) := (Nat.pow_add 2 _ _).symm
      _ ≤ 2 ^ Nat.log2 i.value := Nat.pow_le_pow_right (by decide) (by omega)
      _ ≤ i.value := hlower

/-! ## The shortest digits -/

/-- A double that is not zero has a significand that is not zero. -/
theorem significand_pos (h : x.magnitude ≠ 0) : 0 < x.significand := by
  unfold significand
  split
  next hzero =>
    have hweight : unitWeight = 0x10000000000000 := rfl
    unfold exponentField at hzero
    unfold fractionField
    rw [hweight] at hzero ⊢
    omega
  · exact Nat.lt_of_lt_of_le (by decide) (Nat.le_add_left unitWeight _)

/-- The interval of a double that is not zero lies above zero. -/
theorem interval_pos (h : x.magnitude ≠ 0) :
    0 < x.interval.least ∧ 0 < x.interval.value ∧ 0 < x.interval.scale := by
  have hm := significand_pos h
  have hfactor : 0 < (if 0 ≤ x.exponent - 2 then Nat.pow 2 (x.exponent - 2).toNat else 1) := by
    split
    · exact Nat.pow_pos (by decide)
    · exact Nat.one_pos
  unfold interval
  dsimp only
  refine ⟨Nat.mul_pos ?_ hfactor, Nat.mul_pos (by omega) hfactor, ?_⟩
  · split <;> omega
  · split
    · exact Nat.one_pos
    · exact Nat.pow_pos (by decide)

/-- Zeros are written behind the digits of a double that is not zero only if the digits are not
zero, or if there are more of them than a number at its places has. -/
theorem shortest_digits (hx : x.magnitude ≠ 0) (tie : Tie) (h : (x.shortest tie).digits = 0) :
    (x.shortest tie).exponent ≤ 0 ∨ 15 < (x.shortest tie).exponent := by
  obtain ⟨hleast, hvalue, hscale⟩ := interval_pos hx
  have hsame := withoutZeros_digits 18 _ h
  unfold shortest at h ⊢
  rw [hsame] at h ⊢
  obtain ⟨hexponent, hdigits⟩ := search_digits hleast _ 17 1 h
  rw [hexponent]
  by_cases hrange : 0 < x.interval.leading - (1 + 17 : Nat) + 1
      ∧ x.interval.leading - (1 + 17 : Nat) + 1 ≤ 15
  · -- In this range the grid that the search has reached has a unit below the value.
    obtain ⟨e, he⟩ := Int.eq_ofNat_of_zero_le (Int.le_of_lt hrange.1)
    have hle := Interval.le_of_leading hvalue (e := e) (by omega) (by omega)
    rw [he] at hdigits
    unfold Interval.inUnits at hdigits
    rw [if_pos (Int.natCast_nonneg e)] at hdigits
    have hpos : 0 < x.interval.scale * 10 ^ e := Nat.mul_pos hscale (Nat.pow_pos (by decide))
    have hone : 0 < x.interval.value / (x.interval.scale * 10 ^ e) := Nat.div_pos hle hpos
    exact absurd hdigits (Nat.ne_of_gt hone)
  · omega

end ChatBoard.Double
