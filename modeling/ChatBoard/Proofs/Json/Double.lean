import ChatBoard.Proofs.Decimal.Shortest
import ChatBoard.Proofs.Json.Followed
import ChatBoard.Proofs.Json.Written

/-!
# Doubles in JSON

What is written for a finite double is a numeral (`isNumeral_writeDouble`): at their places its
digits have a zero before the point only alone, since digits that are zero are never followed by
zeros (`Double.shortest_digits`), and with an exponent there is one digit before the point. Whatever
the numeral of a double is read as by itself, it is read as in front of everything that may follow
it, which is all that a schema asks (`Schema.double`). What is not finite is written as `null`, and
that is a mismatch.
-/

namespace ChatBoard.Json

/-! ## Digits as octets -/

/-- The octets of a list of characters. -/
def encode (cs : List Char) : Octets := cs.flatMap String.utf8EncodeChar

/-- The octets of a text are those of its characters. -/
theorem ofText_eq_encode (cs : List Char) : Octets.ofText (String.ofList cs) = encode cs :=
  Octets.ofText_ofList cs

/-- The octets of characters before others come first. -/
theorem encode_append (cs ds : List Char) : encode (cs ++ ds) = encode cs ++ encode ds :=
  List.flatMap_append

/-- The octets of digits. -/
theorem encode_digits {cs : List Char} (h : ∀ c ∈ cs, c.isDigit) :
    encode cs = cs.map Numeral.octet := (ofText_eq_encode cs).symm.trans (Numeral.ofText_digits h)

/-- One digit or more are digits as octets too. -/
theorem isDigits_encode {cs : List Char} (hne : cs ≠ []) (h : ∀ c ∈ cs, c.isDigit) :
    IsDigits (encode cs) := by
  rw [encode_digits h]
  refine ⟨fun hnil => hne (List.map_eq_nil_iff.1 hnil), fun d hd => ?_⟩
  obtain ⟨c, hc, rfl⟩ := List.mem_map.1 hd
  exact isDigit_octet (h c hc)

/-- Digits that do not begin with a zero may stand before the point. -/
theorem isWhole_encode {cs : List Char} (hne : cs ≠ []) (h : ∀ c ∈ cs, c.isDigit)
    (hhead : cs.head? ≠ some '0') : IsWhole (encode cs) := by
  obtain ⟨-, hdigits⟩ := isDigits_encode hne h
  obtain ⟨c, rest, rfl⟩ := List.exists_cons_of_ne_nil hne
  have hc := h c List.mem_cons_self
  rw [encode_digits h, List.map_cons] at hdigits ⊢
  refine .digits (fun hzero => hhead ?_) hdigits
  have hcode : c.toNat = 48 := by
    rw [← Numeral.toNat_octet hc, hzero]
    rfl
  -- The octet of zero is that of no other character.
  exact congrArg some (Char.toNat_inj.1 hcode)

/-- The digits of a number that is not zero may stand before the point, and so may those that are
left when others are dropped from the end. -/
theorem isWhole_take {n count : Nat} (hn : 0 < n) (hcount : 0 < count) :
    IsWhole (encode ((Nat.toDigits 10 n).take count)) := by
  have hhead := Numeral.head_toDigits hn
  have hdigits := isDigit_toDigits n
  obtain ⟨c, rest, hcons⟩ := List.exists_cons_of_ne_nil (Nat.toDigits_ne_nil (n := n) (b := 10))
  obtain ⟨count, rfl⟩ : ∃ k, count = k + 1 := ⟨count - 1, by omega⟩
  refine isWhole_encode ?_ (fun c hc => hdigits c (List.mem_of_mem_take hc)) ?_
  · rw [hcons]
    exact List.cons_ne_nil _ _
  · rw [hcons] at hhead ⊢
    exact hhead

/-! ## The parts of a number -/

/-- What is written without a sign: the digits before the point, the fraction and the exponent. -/
def IsUnsigned (bs : Octets) : Prop :=
  ∃ whole fraction exponent, IsWhole whole ∧ IsFraction fraction ∧ IsExponent exponent
    ∧ bs = whole ++ (fraction ++ exponent)

/-- The exponent may be missing. -/
theorem isUnsigned_append {whole fraction : Octets} (hwhole : IsWhole whole)
    (hfraction : IsFraction fraction) : IsUnsigned (whole ++ fraction) :=
  ⟨whole, fraction, [], hwhole, hfraction, .none, by rw [List.append_nil]⟩

variable {d : Double.Digits}

/-- At their places digits are a number, unless a zero is followed by zeros before the point. -/
theorem isUnsigned_positional (h : d.digits = 0 → d.exponent ≤ 0) :
    IsUnsigned (encode (d.positional true)) := by
  have hdigits := isDigit_toDigits d.digits
  have hzeros : ∀ count, ∀ c ∈ List.replicate count '0', c.isDigit := by
    intro count c hc
    rw [(List.mem_replicate.1 hc).2]
    rfl
  unfold Double.Digits.positional
  dsimp only
  split
  next hwhole =>
    -- The number is whole, and a zero is shown after the point.
    have hpoint : IsDigits (encode ['0']) := isDigits_encode (by decide) (by simp)
    rw [encode_append]
    refine isUnsigned_append ?_ (.some hpoint)
    rcases Nat.eq_zero_or_pos d.digits with hzero | hpos
    · have hexponent : d.exponent = 0 := by
        have := h hzero
        omega
      rw [hzero, hexponent]
      exact .zero
    · refine isWhole_encode (by simp) (List.forall_mem_append.2 ⟨hdigits, hzeros _⟩) ?_
      rw [List.head?_append_of_ne_nil _ Nat.toDigits_ne_nil]
      exact Numeral.head_toDigits hpos
  next hfraction =>
    split
    next hplaces =>
      -- The point stands between the digits.
      have hpos : 0 < d.digits := by
        refine Nat.pos_of_ne_zero fun hzero => ?_
        have hone : (Nat.toDigits 10 d.digits).length = 1 := by
          rw [hzero]
          rfl
        omega
      rw [encode_append]
      refine isUnsigned_append (isWhole_take hpos (Nat.sub_pos_of_lt hplaces))
        (.some (isDigits_encode (fun hnil => ?_) fun c hc => hdigits c (List.mem_of_mem_drop hc)))
      have hlength := List.drop_eq_nil_iff.1 hnil
      omega
    · -- A zero stands before the point, and zeros may stand behind it.
      exact isUnsigned_append .zero
        (.some (isDigits_encode (by simp) (List.forall_mem_append.2 ⟨hzeros _, hdigits⟩)))

/-- With an exponent, digits are a number. -/
theorem isUnsigned_scientific (plus : Bool) : IsUnsigned (encode (d.scientific plus)) := by
  have hdigits := isDigit_toDigits d.digits
  have hwhole : IsWhole (encode ((Nat.toDigits 10 d.digits).take 1)) := by
    rcases Nat.eq_zero_or_pos d.digits with hzero | hpos
    · rw [hzero]
      exact .zero
    · exact isWhole_take hpos Nat.one_pos
  have hfraction : IsFraction (encode (if (Nat.toDigits 10 d.digits).length > 1
      then '.' :: (Nat.toDigits 10 d.digits).drop 1 else [])) := by
    split
    next hlength =>
      refine .some (isDigits_encode (fun hnil => ?_) fun c hc =>
        hdigits c (List.mem_of_mem_drop hc))
      have hle := List.drop_eq_nil_iff.1 hnil
      omega
    · exact .none
  obtain ⟨sign, hsign, hcases⟩ : ∃ sign : List Char,
      (if d.leading < 0 then ['-'] else if plus then ['+'] else []) = sign
        ∧ (encode sign = [] ∨ encode sign = [0x2b] ∨ encode sign = [0x2d]) := by
    refine ⟨_, rfl, ?_⟩
    split
    · exact .inr (.inr rfl)
    · split
      · exact .inr (.inl rfl)
      · exact .inl rfl
  have hexponent : IsExponent (encode ('e' :: sign ++ Nat.toDigits 10 d.leading.natAbs)) := by
    have hmark : isExponentMark 0x65 = true := rfl
    rw [encode_append]
    exact .some hmark hcases
      (isDigits_encode Nat.toDigits_ne_nil (isDigit_toDigits d.leading.natAbs))
  unfold Double.Digits.scientific
  dsimp only
  rw [hsign, List.append_assoc, List.append_assoc, encode_append, encode_append]
  exact ⟨_, _, _, hwhole, hfraction, hexponent, rfl⟩

/-- The digits of a finite double are a number. -/
theorem isUnsigned_written (h : d.digits = 0 → d.exponent ≤ 0 ∨ 15 < d.exponent) :
    IsUnsigned (encode (d.written .json)) := by
  unfold Double.Digits.written
  split
  next hpositional =>
    refine isUnsigned_positional fun hzero => (h hzero).resolve_right fun hlarge => ?_
    have hle : d.leading ≤ 15 := by
      have hrange : (decide (-5 ≤ d.leading) && decide (d.leading ≤ 15)) = true := hpositional
      rw [Bool.and_eq_true, decide_eq_true_iff, decide_eq_true_iff] at hrange
      exact hrange.2
    unfold Double.Digits.leading at hle
    rw [hzero] at hle
    have hone : (Nat.toDigits 10 0).length = 1 := rfl
    omega
  · exact isUnsigned_scientific true

/-! ## Doubles -/

variable {x : Double}

/-- A finite double is no NaN. -/
theorem isNaN_of_isFinite (h : x.isFinite = true) : x.isNaN = false := by
  unfold Double.isFinite at h
  rw [bne_iff_ne] at h
  unfold Double.isNaN
  rw [beq_eq_false_iff_ne.2 h, Bool.false_and]

/-- What is written for a finite double is a numeral. -/
theorem isNumeral_writeDouble (h : x.isFinite = true) : IsNumeral (writeDouble x) := by
  have hunsigned : IsUnsigned (encode (Double.Digits.written .json
      (if x.magnitude = 0 then ⟨0, 0⟩ else x.shortest Double.Layout.json.tie))) := by
    refine isUnsigned_written ?_
    split
    · exact fun _ => .inl (Int.le_refl 0)
    next hmagnitude => exact Double.shortest_digits hmagnitude _
  unfold writeDouble Double.written
  rw [if_neg (by simp [isNaN_of_isFinite h]), if_neg (by simp [h])]
  dsimp only
  rw [ofText_eq_encode, encode_append]
  obtain ⟨whole, fraction, exponent, hwhole, hfraction, hexponent, heq⟩ := hunsigned
  rw [heq]
  refine .mk ?_ hwhole hfraction hexponent
  split
  · exact .inr rfl
  · exact .inl rfl

/-- What is not finite is written as nothing. -/
theorem writeDouble_of_not_isFinite (h : x.isFinite = false) :
    writeDouble x = Word.null.octets := by
  unfold writeDouble Double.written
  split
  · rfl
  · rw [if_pos (by simp [h])]
    split <;> rfl

/-- The value that is written for a double. -/
def valueOfDouble (x : Double) : Value :=
  if x.isFinite then .number (writeDouble x) else .word .null

/-- What is written for a double stands for its value. -/
theorem stands_writeDouble (x : Double) (tail : Octets) :
    Stands (.value (valueOfDouble x)) (writeDouble x ++ tail) tail := by
  unfold valueOfDouble
  split
  next hfinite =>
    have hnumeral := isNumeral_writeDouble hfinite
    refine .number hnumeral ?_
    obtain ⟨b, rest, hcons, hb⟩ := hnumeral.exists_cons
    rw [hcons]
    exact List.dropWhile_cons_of_neg (by rw [isBlank_of_number hb]; exact Bool.false_ne_true)
  next hfinite =>
    rw [writeDouble_of_not_isFinite (by simpa using hfinite)]
    exact .word rfl

/-! ## Reading -/

variable {bs rest numeral : Octets}

/-- A double is what a number is read as. -/
def doubleOf : Number → Double
  | .integer i => Double.ofInt i
  | .real x => x

/-- In front of a numeral, reading a double is reading a number. -/
theorem readDouble_numeral (h : IsNumeral numeral) (hbs : skipBlank bs = numeral ++ rest) :
    readDouble bs = match readNumber (numeral ++ rest) with
      | .error p => .error p
      | .ok (n, after) => .ok (doubleOf n, after) := by
  obtain ⟨b, more, rfl, hb⟩ := h.exists_cons
  rw [List.cons_append] at hbs ⊢
  unfold readDouble readNumberAs
  rw [hbs]
  dsimp only
  rw [if_pos hb]
  cases readNumber (b :: (more ++ rest)) with
  | error p => rfl
  | ok read =>
    obtain ⟨n, after⟩ := read
    cases n <;> rfl

/-- A numeral that is read as a double by itself is read as it in front of what cannot go on with
it. -/
theorem readDouble_of_readAll (h : IsNumeral numeral) (hread : readAll readDouble numeral = .ok x)
    (hbs : skipBlank bs = numeral ++ rest) (hrest : EndsNumber rest) :
    readDouble bs = .ok (x, rest) := by
  have halone : skipBlank numeral = numeral ++ [] := by
    obtain ⟨b, more, rfl, hb⟩ := h.exists_cons
    rw [List.append_nil]
    exact List.dropWhile_cons_of_neg (by rw [isBlank_of_number hb]; exact Bool.false_ne_true)
  unfold readAll at hread
  rw [readDouble_numeral h halone, List.append_nil] at hread
  rw [readDouble_numeral h hbs]
  cases hnumber : readNumber numeral with
  | error p =>
    rw [hnumber] at hread
    cases hread
  | ok read =>
    obtain ⟨n, after⟩ := read
    rw [hnumber] at hread
    dsimp only at hread
    split at hread
    next hblank =>
      cases hread
      -- Nothing is left of the numeral, since no octet of it is a blank.
      have hafter : after = [] := by
        obtain ⟨numeral', -, happend, -⟩ := readNumber_numeral hnumber
        have hend := endsNumeral_of_end (List.isEmpty_iff.1 hblank)
        cases after with
        | nil => rfl
        | cons b more =>
          have hnumeric := h.isNumeric b (by rw [happend]; simp)
          rw [hend b rfl] at hnumeric
          cases hnumeric
      subst hafter
      rw [readNumber_append hrest hnumber]
      rfl
    · cases hread

/-- Doubles: numerals by what they are read as. A missing number is not what is asked for. -/
def Schema.double : Schema Double where
  read := readDouble
  Shows x v := ∃ numeral, v = .number numeral ∧ readAll readDouble numeral = .ok x
  Flawed v := v = .word .null
  Relaid v v' := v' = v
  reads := by
    rintro x v bs rest ⟨numeral, rfl, hread⟩ hv hrest
    cases hv with
    | number hnumeral hbs => exact readDouble_of_readAll hnumeral hread hbs hrest.endsNumber
  declines := by
    rintro v bs rest rfl hv -
    cases hv with
    | word hbs =>
      unfold readDouble readNumberAs
      rw [hbs]
      rfl
  keeps := by
    rintro x v v' h rfl
    exact h

end ChatBoard.Json
