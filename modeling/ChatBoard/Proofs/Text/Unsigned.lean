import ChatBoard.Proofs.Text.Numeral

/-!
# Unsigned numerals

A text is read as a number up to a limit exactly when it is an unsigned numeral of such a number: a
plus sign or none, and at least one digit (`Numeral.readNat_eq_ok_iff`). Zeros at the beginning
count for nothing, however many there are. Every other text is refused for the first thing that is
wrong with it (`Numeral.readNat_eq_error_iff`): a text can be too large and malformed, and then the
character that comes first decides.
-/

namespace ChatBoard.Numeral

/-- The number of some digits and one more. -/
theorem ofDigitChars_concat (before : List Char) (c : Char) :
    Nat.ofDigitChars 10 (before ++ [c]) 0 = Nat.ofDigitChars 10 before 0 * 10 + (c.toNat - 48) := by
  rw [Nat.ofDigitChars_append, ofDigitChars_digit, Nat.ofDigitChars_nil]

/-- Digits of the range are read, and reading goes on behind them. -/
theorem readDigits_append {limit : Nat} (beyond : NumeralFault) {before : List Char}
    (h : ∀ c ∈ before, c.isDigit) {value : Nat}
    (hle : Nat.ofDigitChars 10 before value ≤ limit) (rest : List Char) :
    readDigits limit beyond value (before ++ rest)
      = readDigits limit beyond (Nat.ofDigitChars 10 before value) rest := by
  induction before generalizing value with
  | nil => rw [Nat.ofDigitChars_nil, List.nil_append]
  | cons c more ih =>
    rw [List.forall_mem_cons] at h
    rw [ofDigitChars_digit] at hle
    have hvalue := le_ofDigitChars more (value * 10 + (c.toNat - 48))
    rw [List.cons_append, readDigits, digit?_of_isDigit h.1, ofDigitChars_digit]
    dsimp only
    rw [if_pos (Nat.le_trans hvalue hle), ih h.2 hle]

/-! ## Unsigned numerals and what is wrong with them -/

/-- What is to be digits in a text: all of it but for a plus sign at its beginning. -/
def afterPlus : List Char → List Char
  | '+' :: rest => rest
  | cs => cs

/-- A text is an unsigned numeral, which may carry a plus sign, and denotes a number. -/
structure Denotes (s : String) (n : Nat) : Prop where
  some_digit : afterPlus s.toList ≠ []
  digits : ∀ c ∈ afterPlus s.toList, c.isDigit
  value : n = Nat.ofDigitChars 10 (afterPlus s.toList) 0

/-- What is wrong at the first character at which digits stop being the beginning of a numeral up
to a limit. -/
inductive FirstFault (limit : Nat) : List Char → NumeralFault → Prop
  | notADigit {before after : List Char} {c : Char} (digits : ∀ d ∈ before, d.isDigit)
    (le : Nat.ofDigitChars 10 before 0 ≤ limit) (not_digit : ¬ c.isDigit) :
    FirstFault limit (before ++ c :: after) .notADigit
  | tooLarge {before after : List Char} {c : Char} (digits : ∀ d ∈ before, d.isDigit)
    (le : Nat.ofDigitChars 10 before 0 ≤ limit) (digit : c.isDigit)
    (lt : limit < Nat.ofDigitChars 10 (before ++ [c]) 0) :
    FirstFault limit (before ++ c :: after) .tooLarge

/-- What is wrong with a text that is no unsigned numeral up to a limit, at its first place where
something is wrong. -/
inductive Spoils (limit : Nat) (s : String) : NumeralFault → Prop
  | empty (nothing : s = "") : Spoils limit s .empty
  | bare (plus : s = "+") : Spoils limit s .notADigit
  | character {fault : NumeralFault} (first : FirstFault limit (afterPlus s.toList) fault) :
    Spoils limit s fault

variable {limit n : Nat} {s : String} {fault : NumeralFault}

/-- Reading digits after others that have been read fails at the first character that is wrong. -/
theorem firstFault_of_readDigits {before cs : List Char} (digits : ∀ d ∈ before, d.isDigit)
    (le : Nat.ofDigitChars 10 before 0 ≤ limit)
    (h : readDigits limit .tooLarge (Nat.ofDigitChars 10 before 0) cs = .error fault) :
    FirstFault limit (before ++ cs) fault := by
  induction cs generalizing before with
  | nil => cases h
  | cons c rest ih =>
    unfold readDigits at h
    by_cases hc : c.isDigit
    · rw [digit?_of_isDigit hc] at h
      dsimp only at h
      rw [← ofDigitChars_concat] at h
      split at h
      next hle =>
        -- The character joins the digits that have been read.
        have hdigits : ∀ d ∈ before ++ [c], d.isDigit :=
          List.forall_mem_append.2 ⟨digits, List.forall_mem_singleton.2 hc⟩
        rw [List.append_cons]
        exact ih hdigits hle h
      next hgt =>
        cases h
        exact .tooLarge digits le hc (Nat.lt_of_not_le hgt)
    · rw [digit?_eq_none hc] at h
      cases h
      exact .notADigit digits le hc

/-- Reading digits fails with a fault exactly if that is what is wrong at the first character at
which something is. -/
theorem readDigits_eq_error_iff {cs : List Char} :
    readDigits limit .tooLarge 0 cs = .error fault ↔ FirstFault limit cs fault := by
  constructor
  · intro h
    have hnone : ∀ d ∈ ([] : List Char), d.isDigit := fun _ hd => absurd hd List.not_mem_nil
    exact firstFault_of_readDigits hnone (Nat.zero_le limit) h
  · rintro (⟨digits, le, hc⟩ | ⟨digits, le, hc, lt⟩)
    · rw [readDigits_append .tooLarge digits le, readDigits, digit?_eq_none hc]
    · rw [ofDigitChars_concat] at lt
      rw [readDigits_append .tooLarge digits le, readDigits, digit?_of_isDigit hc]
      exact if_neg (Nat.not_le_of_lt lt)

/-- A text is read digit by digit, after a plus sign if it begins with one. -/
theorem readNat_eq (hne : afterPlus s.toList ≠ []) :
    readNat limit s = readDigits limit .tooLarge 0 (afterPlus s.toList) := by
  unfold readNat
  split
  next heq =>
    rw [heq] at hne
    exact absurd rfl hne
  next rest heq =>
    rw [heq] at hne ⊢
    cases rest with
    | nil => exact absurd rfl hne
    | cons c rest => rfl
  next hnil hplus =>
    have hself : afterPlus s.toList = s.toList := by
      unfold afterPlus
      split
      next rest heq => exact absurd heq (hplus rest)
      next => rfl
    rw [hself]

/-- A text of which nothing is left for digits is empty or a plus sign. -/
theorem eq_of_afterPlus_eq_nil (h : afterPlus s.toList = []) : s = "" ∨ s = "+" := by
  unfold afterPlus at h
  split at h
  next rest heq =>
    rw [h] at heq
    exact .inr (String.toList_inj.1 heq)
  next => exact .inl (String.toList_inj.1 h)

/-- Exactly the unsigned numerals up to the limit are read, as the numbers that they denote. -/
theorem readNat_eq_ok_iff : readNat limit s = .ok n ↔ Denotes s n ∧ n ≤ limit := by
  by_cases hnil : afterPlus s.toList = []
  · refine ⟨fun h => ?_, fun h => absurd hnil h.1.some_digit⟩
    rcases eq_of_afterPlus_eq_nil hnil with rfl | rfl <;> cases h
  · rw [readNat_eq hnil, readDigits_eq_ok_iff]
    exact ⟨fun ⟨digits, value, le⟩ => ⟨⟨hnil, digits, value⟩, le⟩,
      fun ⟨denotes, le⟩ => ⟨denotes.digits, denotes.value, le⟩⟩

/-- Every other text is refused for what is wrong at its first place where something is. -/
theorem readNat_eq_error_iff : readNat limit s = .error fault ↔ Spoils limit s fault := by
  by_cases hnil : afterPlus s.toList = []
  · have hnone : ∀ {fault}, ¬ FirstFault limit [] fault := by
      intro fault h
      rw [← readDigits_eq_error_iff] at h
      cases h
    constructor
    · intro h
      rcases eq_of_afterPlus_eq_nil hnil with rfl | rfl
      · cases h
        exact .empty rfl
      · cases h
        exact .bare rfl
    · rintro (rfl | rfl | first)
      · rfl
      · rfl
      · rw [hnil] at first
        exact absurd first hnone
  · rw [readNat_eq hnil, readDigits_eq_error_iff]
    refine ⟨.character, ?_⟩
    rintro (rfl | rfl | first)
    · exact absurd rfl hnil
    · exact absurd rfl hnil
    · exact first

end ChatBoard.Numeral
