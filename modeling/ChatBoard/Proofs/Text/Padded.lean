import ChatBoard.Proofs.Text.Unsigned
import Mathlib.Algebra.Group.Nat.Defs
import Mathlib.Data.List.Induction

/-!
# Numerals filled up to a width

A numeral that is filled up with zeros still denotes its number, and has as many digits as it is
to have unless the number needs more (`Numeral.length_padded`). Read the other way round, any digits
are the numeral of the number that they denote, filled up to as many digits
(`Numeral.toList_padded_ofDigitChars`). So numbers of a fixed width are written and read without
loss.
-/

namespace ChatBoard.Numeral

/-- The character of a digit's value is the digit. -/
theorem digitChar_of_isDigit {c : Char} (h : c.isDigit) : Nat.digitChar (c.toNat - 48) = c := by
  have hcode := toNat_of_isDigit h
  refine Char.toNat_inj.1 ?_
  rw [Nat.toNat_digitChar_of_lt_ten (by omega)]
  omega

/-- The zeros come before the numeral. -/
theorem toList_padded (width n : Nat) :
    (padded width n).toList
      = List.replicate (width - (Nat.toDigits 10 n).length) '0' ++ Nat.toDigits 10 n :=
  String.toList_ofList

/-- A filled up numeral is made of digits. -/
theorem isDigit_padded (width n : Nat) : ∀ c ∈ (padded width n).toList, c.isDigit := by
  rw [toList_padded]
  refine List.forall_mem_append.2 ⟨fun c hc => ?_, fun c hc => ?_⟩
  · rw [(List.mem_replicate.1 hc).2]
    rfl
  · exact Nat.isDigit_of_mem_toDigits (by decide) (by decide) hc

/-- A number that is small enough is written with as many digits as asked for. -/
theorem length_padded {width n : Nat} (hpos : 0 < width) (h : n < 10 ^ width) :
    (padded width n).toList.length = width := by
  have hlength : (Nat.toDigits 10 n).length ≤ width :=
    (Nat.length_toDigits_le_iff (by decide) hpos).2 h
  rw [toList_padded, List.length_append, List.length_replicate]
  omega

/-- Filling up a numeral changes nothing about its number. -/
theorem ofDigitChars_padded (width n : Nat) :
    Nat.ofDigitChars 10 (padded width n).toList 0 = n := by
  have hzeros : ∀ count, Nat.ofDigitChars 10 (List.replicate count '0') 0 = 0 := by
    intro count
    induction count with
    | zero => rfl
    | succ count ih => rw [List.replicate_succ, ofDigitChars_digit]; exact ih
  calc Nat.ofDigitChars 10 (padded width n).toList 0
      = Nat.ofDigitChars 10 (Nat.toDigits 10 n)
          (Nat.ofDigitChars 10 (List.replicate (width - (Nat.toDigits 10 n).length) '0') 0) := by
        rw [toList_padded, Nat.ofDigitChars_append]
    _ = Nat.ofDigitChars 10 (Nat.toDigits 10 n) 0 := by rw [hzeros]
    _ = n := Nat.ofDigitChars_ten_toDigits

/-- With a digit more at the end, a numeral is filled up to a digit more. -/
theorem toList_padded_succ {width : Nat} (hpos : 0 < width) (n : Nat) {d : Nat} (hd : d < 10) :
    (padded (width + 1) (n * 10 + d)).toList = (padded width n).toList ++ [Nat.digitChar d] := by
  rw [toList_padded, toList_padded, Nat.toDigits_eq_if (by decide)]
  by_cases hn : n = 0
  · subst hn
    obtain ⟨width, rfl⟩ := Nat.exists_eq_succ_of_ne_zero (Nat.ne_of_gt hpos)
    rw [if_pos (by omega), Nat.zero_mul, Nat.zero_add]
    simp [List.replicate_succ', Nat.toDigits_zero]
  · have hquotient : (n * 10 + d) / 10 = n := by omega
    have hrest : (n * 10 + d) % 10 = d := by omega
    rw [if_neg (by omega), hquotient, hrest, List.length_append, List.append_assoc]
    simp

/-- Digits are the numeral of the number that they denote, filled up to as many digits. -/
theorem toList_padded_ofDigitChars {ds : List Char} (hne : ds ≠ []) (h : ∀ c ∈ ds, c.isDigit) :
    (padded ds.length (Nat.ofDigitChars 10 ds 0)).toList = ds := by
  induction ds using List.reverseRecOn with
  | nil => exact absurd rfl hne
  | append_singleton ds c ih =>
    rw [List.forall_mem_append, List.forall_mem_singleton] at h
    obtain ⟨hds, hc⟩ := h
    have hcode := toNat_of_isDigit hc
    rw [ofDigitChars_concat, List.length_append, List.length_singleton]
    cases ds with
    | nil =>
      rw [Nat.ofDigitChars_nil, Nat.zero_mul, Nat.zero_add, toList_padded,
        Nat.toDigits_of_lt_base (by omega), digitChar_of_isDigit hc]
      rfl
    | cons first more =>
      rw [toList_padded_succ (by simp) _ (by omega), ih (by simp) hds, digitChar_of_isDigit hc]

end ChatBoard.Numeral
