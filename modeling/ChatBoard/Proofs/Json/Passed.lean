import ChatBoard.Proofs.Json.Skip

/-!
# Values of any depth are passed over

Every value of the grammar is passed over up to its end, if what follows cannot belong to a numeral
(`Stands.skipValue`). The induction is over the grammar, while the octets are passed over with a
stack: a value goes through under any stack if the stack can be settled after it
(`Part.Passed`), and a list or an object is a frame that is put on the stack and taken off it.
-/

namespace ChatBoard.Json

variable {bs rest : Octets}

/-! ## Numerals -/

/-- Digits are dropped up to the first octet that is none. -/
theorem dropWhile_digits {ds : Octets} (hds : ∀ d ∈ ds, isDigit d = true)
    (hrest : ∀ b ∈ rest.head?, isDigit b = false) : (ds ++ rest).dropWhile isDigit = rest := by
  rw [List.dropWhile_append_of_pos hds]
  cases rest with
  | nil => rfl
  | cons b rest => exact List.dropWhile_cons_of_neg (by rw [hrest b rfl]; exact Bool.false_ne_true)

/-- What cannot belong to a numeral is no digit, no point and no exponent mark. -/
theorem EndsNumeral.endsNumber (h : EndsNumeral rest) : EndsNumber rest := by
  intro b hb
  have hnone := h b hb
  simp only [isNumeric, Bool.or_eq_false_iff, beq_eq_false_iff_ne] at hnone
  exact ⟨hnone.1.1.1.1, hnone.1.2, hnone.2⟩

/-- An exponent is passed over after its mark. -/
theorem skipExponent_exponent {sign ds : Octets}
    (hsign : sign = [] ∨ sign = [0x2b] ∨ sign = [0x2d]) (hds : IsDigits ds)
    (hrest : EndsNumeral rest) : skipExponent (sign ++ (ds ++ rest)) = .ok rest := by
  obtain ⟨hne, hdigits⟩ := hds
  cases ds with
  | nil => exact absurd rfl hne
  | cons d ds =>
    have hmore : ∀ c ∈ ds, isDigit c = true := fun c hc => hdigits c (List.mem_cons_of_mem _ hc)
    rw [List.cons_append, skipExponent_digits hsign (hdigits d List.mem_cons_self),
      dropWhile_digits hmore fun b hb => (hrest.endsNumber b hb).1]

/-- What follows the digits of a numeral is no digit and no point, and an exponent that follows them
is passed over. -/
theorem exponent_passed {exponent : Octets} (hexponent : IsExponent exponent)
    (hrest : EndsNumeral rest) :
    (∀ b ∈ (exponent ++ rest).head?, isDigit b = false ∧ b ≠ 0x2e)
      ∧ (match exponent ++ rest with
        | [] => .ok []
        | b :: more => if isExponentMark b then skipExponent more else .ok (b :: more) :
          Except Problem Octets) = .ok rest := by
  cases hexponent with
  | none =>
    refine ⟨fun b hb => ⟨(hrest.endsNumber b hb).1, (hrest.endsNumber b hb).2.1⟩, ?_⟩
    cases rest with
    | nil => rfl
    | cons b rest =>
      obtain ⟨-, -, hmark⟩ := hrest.endsNumber b rfl
      exact if_neg (by rw [hmark]; exact Bool.false_ne_true)
  | @some mark sign ds hmark hsign hds =>
    refine ⟨?_, ?_⟩
    · have hmarks := hmark
      unfold isExponentMark at hmarks
      rw [Bool.or_eq_true, beq_iff_eq, beq_iff_eq] at hmarks
      intro b hb
      cases hb
      rcases hmarks with rfl | rfl <;> exact ⟨rfl, by decide⟩
    · rw [List.cons_append, List.append_assoc]
      dsimp only
      rw [if_pos hmark]
      exact skipExponent_exponent hsign hds hrest

/-- A fraction and an exponent are passed over. -/
theorem skipTail_tail {fraction exponent : Octets} (hfraction : IsFraction fraction)
    (hexponent : IsExponent exponent) (hrest : EndsNumeral rest) :
    skipTail (fraction ++ (exponent ++ rest)) = .ok rest := by
  obtain ⟨hends, hpassed⟩ := exponent_passed hexponent hrest
  cases hfraction with
  | none =>
    rw [List.nil_append]
    cases hafter : exponent ++ rest with
    | nil =>
      rw [hafter] at hpassed
      exact hpassed
    | cons b more =>
      rw [hafter] at hends hpassed
      unfold skipTail
      dsimp only
      rw [if_neg (hends b rfl).2]
      exact hpassed
  | @some ds hds =>
    obtain ⟨hne, hdigits⟩ := hds
    cases ds with
    | nil => exact absurd rfl hne
    | cons d ds =>
      have hdrop : (d :: (ds ++ (exponent ++ rest))).dropWhile isDigit = exponent ++ rest :=
        dropWhile_digits hdigits fun b hb => (hends b hb).1
      rw [List.cons_append, List.cons_append, skipTail_digits (hdigits d List.mem_cons_self), hdrop]
      exact hpassed

/-- A numeral is passed over after its sign. -/
theorem exists_unsigned_of_isNumeral {numeral : Octets} (h : IsNumeral numeral)
    (hrest : EndsNumeral rest) :
    ∃ sign unsigned, (sign = [] ∨ sign = [0x2d]) ∧ numeral = sign ++ unsigned
      ∧ (∃ d more, unsigned = d :: more ∧ isDigit d = true)
      ∧ skipUnsigned (unsigned ++ rest) = .ok rest := by
  obtain @⟨sign, whole, fraction, exponent, hsign, hwhole, hfraction, hexponent⟩ := h
  have htail := skipTail_tail hfraction hexponent hrest
  refine ⟨sign, _, hsign, rfl, ?_⟩
  -- No digit comes after the digits before the point.
  have hend : ∀ b ∈ (fraction ++ (exponent ++ rest)).head?, isDigit b = false := by
    intro b hb
    cases hfraction with
    | none => exact ((exponent_passed hexponent hrest).1 b hb).1
    | some _ =>
      cases hb
      rfl
  rw [List.append_assoc, List.append_assoc]
  cases hwhole with
  | zero =>
    refine ⟨⟨0x30, _, rfl, rfl⟩, ?_⟩
    rw [List.singleton_append]
    unfold skipUnsigned
    dsimp only
    rw [if_pos rfl]
    cases hafter : fraction ++ (exponent ++ rest) with
    | nil =>
      rw [hafter] at htail
      exact htail
    | cons b more =>
      rw [hafter] at htail hend
      dsimp only
      rw [if_neg (by rw [hend b rfl]; exact Bool.false_ne_true)]
      exact htail
  | @digits d ds hzero hdigits =>
    refine ⟨⟨d, _, rfl, hdigits d List.mem_cons_self⟩, ?_⟩
    have hmore : ∀ c ∈ ds, isDigit c = true := fun c hc => hdigits c (List.mem_cons_of_mem _ hc)
    rw [List.cons_append]
    unfold skipUnsigned
    dsimp only
    rw [if_neg hzero, if_pos (hdigits d List.mem_cons_self), dropWhile_digits hmore hend]
    exact htail

/-! ## Keys and blanks -/

/-- A key is passed over up to the value of its member. -/
theorem skipKey_key {raw colon value : Octets} (hraw : IsQuoted raw)
    (hkey : skipBlank bs = 0x22 :: (raw ++ 0x22 :: colon))
    (hcolon : skipBlank colon = 0x3a :: value) :
    skipKey bs = .ok value := by
  unfold skipKey
  rw [readMark_eq_ok_iff.2 hkey]
  dsimp only
  rw [skipQuoted_eq_ok_iff.2 ⟨raw, hraw, rfl⟩]
  exact readMark_eq_ok_iff.2 hcolon

/-- Dropping blanks adds nothing. -/
theorem length_skipBlank_le (bs : Octets) : (skipBlank bs).length ≤ bs.length :=
  (List.dropWhile_suffix isBlank).length_le

/-- What comes after the first octet that is no blank is shorter. -/
theorem length_lt_of_skipBlank {b : UInt8} (h : skipBlank bs = b :: rest) :
    rest.length < bs.length := by
  have hle := length_skipBlank_le bs
  rw [h, List.length_cons] at hle
  omega

/-- A separated value stands no further than the separator. -/
theorem Opens.length_le {first : Bool} {next : Octets} (h : Opens first bs next) :
    next.length ≤ bs.length := by
  cases first with
  | true =>
    obtain rfl : bs = next := h
    exact Nat.le_refl _
  | false => exact Nat.le_of_lt (length_lt_of_skipBlank h)

/-- A value begins with an octet. -/
theorem Stands.begins {v : Value} (h : Stands (.value v) bs rest) : skipBlank bs ≠ [] := by
  intro hnil
  have hkind := h.kind
  unfold kindAt at hkind
  rw [hnil] at hkind
  cases hkind

/-- Before what begins there is a comma or nothing. -/
theorem Opens.begins {first : Bool} {next : Octets} (h : Opens first bs next)
    (hnext : skipBlank next ≠ []) : skipBlank bs ≠ [] := by
  cases first with
  | true =>
    obtain rfl : bs = next := h
    exact hnext
  | false =>
    intro hnil
    cases Eq.trans (Eq.symm hnil) h

/-- How many octets a part has at least: one for a value or a closing mark, and more for what stands
before the closing mark. -/
def Part.size : Part → Nat
  | .value _ => 1
  | .values _ vs => vs.length + 1
  | .members _ ms => ms.length + 1

/-- A part takes its octets. -/
theorem Stands.length_le {p : Part} (h : Stands p bs rest) : p.size + rest.length ≤ bs.length := by
  induction h with
  | @word w bs rest h =>
    obtain ⟨b, more, hb⟩ : ∃ b more, w.octets = b :: more := by cases w <;> exact ⟨_, _, rfl⟩
    rw [hb, List.cons_append] at h
    have hle := length_lt_of_skipBlank h
    rw [List.length_append] at hle
    dsimp only [Part.size]
    omega
  | @number numeral bs rest hnumeral h =>
    obtain ⟨b, more, rfl, -⟩ := hnumeral.exists_cons
    rw [List.cons_append] at h
    have hle := length_lt_of_skipBlank h
    rw [List.length_append] at hle
    dsimp only [Part.size]
    omega
  | string _ h =>
    have hle := length_lt_of_skipBlank h
    rw [List.length_append, List.length_cons] at hle
    dsimp only [Part.size]
    omega
  | list h _ ih =>
    have hle := length_lt_of_skipBlank h
    dsimp only [Part.size] at ih ⊢
    omega
  | object h _ ih =>
    have hle := length_lt_of_skipBlank h
    dsimp only [Part.size] at ih ⊢
    omega
  | noValue h =>
    have hle := length_lt_of_skipBlank h
    dsimp only [Part.size, List.length_nil]
    omega
  | nextValue hopen _ _ ihv ihvs =>
    have hle := hopen.length_le
    dsimp only [Part.size, List.length_cons] at ihv ihvs ⊢
    omega
  | noMember h =>
    have hle := length_lt_of_skipBlank h
    dsimp only [Part.size, List.length_nil]
    omega
  | nextMember hopen _ hkey hcolon _ _ ihv ihms =>
    have hle := hopen.length_le
    have hkeyLength := length_lt_of_skipBlank hkey
    have hcolonLength := length_lt_of_skipBlank hcolon
    rw [List.length_append, List.length_cons] at hkeyLength
    dsimp only [Part.size, List.length_cons] at ihv ihms ⊢
    omega

/-! ## Passing over parts -/

/-- Goes on after a step, with the value that comes next if a frame is open. -/
def resume (steps : Nat) : Except Problem (List Frame × Octets) → Except Problem Octets
  | .error p => .error p
  | .ok ([], after) => .ok after
  | .ok (f :: below, after) => skipValues steps (f :: below) after

/-- From a value on all frames are passed over, if there are steps enough. -/
def Goes (stack : List Frame) (bs final : Octets) : Prop :=
  ∀ steps, bs.length < steps → skipValues steps stack bs = .ok final

/-- After a value all frames are passed over, if there are steps enough. -/
def Settles (stack : List Frame) (bs final : Octets) : Prop :=
  ∀ steps, bs.length ≤ steps → resume steps (settle stack bs) = .ok final

/-- Inside of a frame all frames are passed over: from its opening on, or after a value of it. -/
def Enters (first : Bool) (f : Frame) (stack : List Frame) (bs final : Octets) : Prop :=
  if first then ∀ steps, bs.length < steps → resume steps (openFrame f stack bs) = .ok final
  else Settles (f :: stack) bs final

variable {stack : List Frame} {first : Bool} {f : Frame} {final : Octets}

/-- One step from a value on. -/
theorem skipValues_succ {b : UInt8} {tail : Octets} (h : skipBlank bs = b :: tail) (steps : Nat) :
    skipValues (steps + 1) stack bs = resume steps (skipOne stack b tail) := by
  rw [skipValues, h]
  dsimp only
  rcases skipOne stack b tail with p | ⟨_ | ⟨f, below⟩, after⟩ <;> rfl

/-- A value goes through if the step from its first octet does. -/
theorem goes_of_skipOne {b : UInt8} {tail : Octets} (h : skipBlank bs = b :: tail)
    (hone : ∀ steps, tail.length < steps → resume steps (skipOne stack b tail) = .ok final) :
    Goes stack bs final := by
  intro steps hsteps
  have hlt := length_lt_of_skipBlank h
  obtain ⟨steps, rfl⟩ : ∃ n, steps = n + 1 := ⟨steps - 1, by omega⟩
  rw [skipValues_succ h]
  exact hone steps (by omega)

/-- A scalar goes through if the frames can be settled after it. -/
theorem goes_of_scalar {b : UInt8} {tail : Octets} (h : skipBlank bs = b :: tail)
    (hone : skipOne stack b tail = settle stack rest) (hle : rest.length ≤ tail.length)
    (hsettles : Settles stack rest final) : Goes stack bs final := by
  refine goes_of_skipOne h fun steps hsteps => ?_
  rw [hone]
  exact hsettles steps (by omega)

/-- A numeral is a scalar that is passed over. -/
theorem skipOne_numeral {numeral : Octets} (h : IsNumeral numeral) (hrest : EndsNumeral rest)
    (stack : List Frame) :
    ∃ b tail, numeral ++ rest = b :: tail ∧ skipOne stack b tail = settle stack rest
      ∧ rest.length ≤ tail.length := by
  obtain ⟨sign, unsigned, hsign, rfl, ⟨d, more, rfl, hd⟩, hskip⟩ :=
    exists_unsigned_of_isNumeral h hrest
  have hdigit : ∀ c, isDigit c = false → d ≠ c := by
    rintro c hc rfl
    rw [hd] at hc
    cases hc
  rw [List.cons_append] at hskip
  rcases hsign with rfl | rfl
  · refine ⟨d, more ++ rest, rfl, ?_, by rw [List.length_append]; omega⟩
    unfold skipOne
    dsimp only
    rw [if_neg (hdigit _ rfl), if_neg (hdigit _ rfl), if_neg (hdigit _ rfl), if_neg (hdigit _ rfl),
      if_neg (hdigit _ rfl), if_neg (hdigit _ rfl), if_neg (hdigit _ rfl), if_pos hd, hskip]
  · refine ⟨0x2d, d :: more ++ rest, rfl, ?_, by rw [List.length_append]; omega⟩
    simp [skipOne, hskip]

/-- The closing mark leads to the frames below. -/
theorem enters_closing (h : skipBlank bs = f.closing :: rest)
    (hsettles : Settles stack rest final) :
    Enters first f stack bs final := by
  have hlt := length_lt_of_skipBlank h
  have hcomma : f.closing ≠ 0x2c := by cases f <;> decide
  cases first with
  | true =>
    intro steps hsteps
    have hopened : openFrame f stack bs = settle stack rest := by
      unfold openFrame
      rw [h]
      exact if_pos rfl
    rw [hopened]
    exact hsettles steps (by omega)
  | false =>
    intro steps hsteps
    have hsettled : settle (f :: stack) bs = settle stack rest := by
      rw [settle, h]
      dsimp only
      rw [if_neg hcomma, if_pos rfl]
    rw [hsettled]
    exact hsettles steps (by omega)

/-- What stands before a value of a frame leads to it. -/
theorem enters_next {next value : Octets} (hopen : Opens first bs next)
    (hclosing : ∀ rest, skipBlank bs ≠ f.closing :: rest) (hne : skipBlank bs ≠ [])
    (hvalue : toValue f next = .ok value) (hle : value.length ≤ next.length)
    (hgoes : Goes (f :: stack) value final) : Enters first f stack bs final := by
  cases first with
  | true =>
    obtain rfl : bs = next := hopen
    intro steps hsteps
    have hopened : openFrame f stack bs = .ok (f :: stack, value) := by
      unfold openFrame
      cases hbs : skipBlank bs with
      | nil => exact absurd hbs hne
      | cons b tail =>
        have hb : b ≠ f.closing := fun heq => hclosing tail (heq ▸ hbs)
        dsimp only
        rw [if_neg hb, hvalue]
        rfl
    rw [hopened]
    exact hgoes steps (by omega)
  | false =>
    have hlt := length_lt_of_skipBlank hopen
    intro steps hsteps
    have hsettled : settle (f :: stack) bs = .ok (f :: stack, value) := by
      rw [settle, show skipBlank bs = 0x2c :: next from hopen]
      dsimp only
      rw [if_pos rfl, hvalue]
      rfl
    rw [hsettled]
    exact hgoes steps (by omega)

/-- A part is passed over under any frames that can be settled after it. -/
def Part.Passed (bs rest : Octets) : Part → Prop
  | .value _ => EndsNumeral rest → ∀ stack final, Settles stack rest final → Goes stack bs final
  | .values first _ => ∀ stack final, Settles stack rest final → Enters first .list stack bs final
  | .members first _ =>
    ∀ stack final, Settles stack rest final → Enters first .object stack bs final

/-- Every part is passed over. -/
theorem Stands.passed {p : Part} (h : Stands p bs rest) : p.Passed bs rest := by
  -- The induction is on the grammar. Where a part is made of parts, the later one is passed over
  -- first: it is what the earlier one has to be settled with.
  induction h with
  | @word w bs rest h =>
    intro _ stack final hsettles
    obtain ⟨b, word, hw, hone⟩ : ∃ b word, w.octets = b :: word
        ∧ skipOne stack b (word ++ rest) = settle stack rest := by
      cases w <;> exact ⟨_, _, rfl, by simp [skipOne, readWord]⟩
    rw [hw, List.cons_append] at h
    refine goes_of_scalar h hone ?_ hsettles
    rw [List.length_append]
    exact Nat.le_add_left _ _
  | @number numeral bs rest hnumeral h =>
    intro hrest stack final hsettles
    obtain ⟨b, tail, hb, hone, hle⟩ := skipOne_numeral hnumeral hrest stack
    exact goes_of_scalar (h.trans hb) hone hle hsettles
  | @string raw bs rest hraw h =>
    intro _ stack final hsettles
    refine goes_of_scalar h ?_ ?_ hsettles
    · simp [skipOne, skipQuoted_eq_ok_iff.2 ⟨raw, hraw, rfl⟩]
    · rw [List.length_append, List.length_cons]
      omega
  | list h _ ih =>
    intro _ stack final hsettles
    exact goes_of_skipOne h (ih stack final hsettles)
  | object h _ ih =>
    intro _ stack final hsettles
    exact goes_of_skipOne h (ih stack final hsettles)
  | noValue h => exact fun stack final hsettles => enters_closing h hsettles
  | nextValue hopen hv hvs ihv ihvs =>
    intro stack final hsettles
    have hmore : Settles (.list :: stack) _ final := ihvs stack final hsettles
    have hgoes := ihv (hvs.endsNumeral (.inl ⟨_, rfl⟩)) _ _ hmore
    exact enters_next hopen (fun rest => hopen.not_closed hv) (hopen.begins hv.begins) rfl
      (Nat.le_refl _) hgoes
  | noMember h => exact fun stack final hsettles => enters_closing h hsettles
  | nextMember hopen hraw hkey hcolon hv hms ihv ihms =>
    intro stack final hsettles
    have hmore : Settles (.object :: stack) _ final := ihms stack final hsettles
    have hgoes := ihv (hms.endsNumeral (.inr ⟨_, rfl⟩)) _ _ hmore
    have hkeyLength := length_lt_of_skipBlank hkey
    have hcolonLength := length_lt_of_skipBlank hcolon
    rw [List.length_append, List.length_cons] at hkeyLength
    refine enters_next hopen (fun rest => hopen.not_closed_key hkey) (hopen.begins ?_)
      (skipKey_key hraw hkey hcolon) (by omega) hgoes
    rw [hkey]
    exact List.cons_ne_nil _ _

/-- Every value is passed over up to its end. -/
theorem Stands.skipValue {v : Value} (h : Stands (.value v) bs rest) (hrest : EndsNumeral rest) :
    skipValue bs = .ok rest :=
  h.passed hrest [] rest (fun _ _ => rfl) _ (Nat.lt_succ_self _)

end ChatBoard.Json
