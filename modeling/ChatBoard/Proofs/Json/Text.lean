import ChatBoard.Json.Text
import ChatBoard.Proofs.Octets

/-!
# Strings and what they mean

`Spells bs os rest` says that a string whose opening quote has been read stands in front of `bs`,
means the octets `os`, and leaves `rest` after its closing quote. A string is read just when it
spells the UTF-8 form of a text (`readTextBody_eq_ok_iff`), and the written form of every text
spells it (`spells_written`), so every text is read back (`readTextBody_written`).
-/

namespace ChatBoard.Json

/-- An octet that stands for itself in a string. -/
def IsVerbatim (b : UInt8) : Prop := b ≠ 0x22 ∧ ¬ b < 0x20 ∧ b ≠ 0x5c

/-- What a string after its opening quote means, and what follows its closing quote. -/
inductive Spells : Octets → Octets → Octets → Prop where
  | close (rest : Octets) : Spells (0x22 :: rest) [] rest
  | verbatim {b : UInt8} {bs os rest : Octets} (hb : IsVerbatim b) (more : Spells bs os rest) :
      Spells (b :: bs) (b :: os) rest
  | escape {e c : UInt8} {bs os rest : Octets} (he : simpleEscape? e = some c)
      (more : Spells bs os rest) : Spells (0x5c :: e :: bs) (c :: os) rest
  /-- A character by its number. -/
  | unit {p q r s : UInt8} {n : Nat} {bs os rest : Octets} (hn : hexUnit? p q r s = some n)
      (hleading : isLeading n = false) (htrailing : isTrailing n = false)
      (more : Spells bs os rest) :
      Spells (0x5c :: 0x75 :: p :: q :: r :: s :: bs) (String.utf8EncodeChar (Char.ofNat n) ++ os)
        rest
  /-- A character by the two surrogates that stand for its number. -/
  | pair {p q r s p' q' r' s' : UInt8} {n m : Nat} {bs os rest : Octets}
      (hn : hexUnit? p q r s = some n) (hm : hexUnit? p' q' r' s' = some m)
      (hleading : isLeading n = true) (htrailing : isTrailing m = true)
      (more : Spells bs os rest) :
      Spells (0x5c :: 0x75 :: p :: q :: r :: s :: 0x5c :: 0x75 :: p' :: q' :: r' :: s' :: bs)
        (String.utf8EncodeChar (Char.ofNat (pairedCodePoint n m)) ++ os) rest

/-! ## Reading strings -/

/-- The first of a pair is not the second of one. -/
theorem isTrailing_of_isLeading {n : Nat} (h : isLeading n = true) : isTrailing n = false := by
  unfold isLeading at h
  unfold isTrailing
  simp only [Bool.and_eq_true, decide_eq_true_eq] at h
  simp only [Bool.and_eq_false_iff, decide_eq_false_iff_not]
  omega

/-- The letter before four digits is no escape of its own. -/
theorem simpleEscape?_unit : simpleEscape? 0x75 = none := by decide

/-- What a string spells is read after what has been read. -/
theorem Spells.readQuoted {bs os rest : Octets} (h : Spells bs os rest) (done : Octets) :
    readQuoted done bs = .ok (done.reverse ++ os, rest) := by
  induction h generalizing done with
  | close rest =>
    rw [readQuoted.eq_def, List.append_nil]
    exact if_pos rfl
  | verbatim hb _ ih =>
    obtain ⟨hquote, hcontrol, hescape⟩ := hb
    rw [readQuoted.eq_def]
    dsimp only
    rw [if_neg hquote, if_neg hcontrol, if_neg hescape, ih, List.reverse_cons, List.append_assoc]
    rfl
  | escape he _ ih =>
    rw [readQuoted.eq_def]
    dsimp only
    rw [if_neg (by decide), if_neg (by decide), if_pos rfl, he]
    dsimp only
    rw [ih, List.reverse_cons, List.append_assoc]
    rfl
  | unit hn hleading htrailing _ ih =>
    rw [readQuoted.eq_def]
    dsimp only
    rw [if_neg (by decide), if_neg (by decide), if_pos rfl, simpleEscape?_unit]
    dsimp only
    rw [if_neg (by decide), hn]
    dsimp only
    rw [htrailing, hleading, if_neg Bool.false_ne_true, if_pos (by decide), ih]
    unfold pushCodePoint
    rw [List.reverse_append, List.reverse_reverse, List.append_assoc]
  | pair hn hm hleading htrailing _ ih =>
    rw [readQuoted.eq_def]
    dsimp only
    rw [if_neg (by decide), if_neg (by decide), if_pos rfl, simpleEscape?_unit]
    dsimp only
    rw [if_neg (by decide), hn]
    dsimp only
    rw [isTrailing_of_isLeading hleading, hleading, if_neg Bool.false_ne_true, if_neg (by decide),
      if_neg (by decide), hm]
    dsimp only
    rw [if_pos htrailing, ih]
    unfold pushCodePoint
    rw [List.reverse_append, List.reverse_reverse, List.append_assoc]

/-- What is read is what the string spells. -/
theorem spells_of_readQuoted {done bs octets rest : Octets}
    (h : readQuoted done bs = .ok (octets, rest)) :
    ∃ os, Spells bs os rest ∧ octets = done.reverse ++ os := by
  fun_induction readQuoted done bs with
  | case2 done rest' =>
    cases h
    exact ⟨[], .close _, (List.append_nil _).symm⟩
  | case5 done e after c he _ _ ih =>
    obtain ⟨os, hos, rfl⟩ := ih h
    refine ⟨c :: os, .escape he hos, ?_⟩
    rw [List.reverse_cons, List.append_assoc]
    rfl
  | case9 done e he hunit p q r s tail n hn htrailing hleading _ _ ih =>
    obtain ⟨os, hos, rfl⟩ := ih h
    obtain rfl := Decidable.not_not.1 hunit
    refine ⟨_, .unit hn (Bool.not_eq_true' _ ▸ hleading) (Bool.eq_false_iff.2 htrailing) hos, ?_⟩
    unfold pushCodePoint
    rw [List.reverse_append, List.reverse_reverse, List.append_assoc]
  | case15 done e he hunit p q r s n hn _ hleading x y hmark p' q' r' s' tail m hm htrailing _ _
      ih =>
    obtain ⟨os, hos, hoctets⟩ := ih h
    obtain rfl := Decidable.not_not.1 hunit
    obtain ⟨hx, hy⟩ := not_or.1 hmark
    obtain rfl := Decidable.not_not.1 hx
    obtain rfl := Decidable.not_not.1 hy
    have hleading' : isLeading n = true := by simpa using hleading
    refine ⟨_, .pair hn hm hleading' htrailing hos, ?_⟩
    unfold pushCodePoint at hoctets
    rw [hoctets, List.reverse_append, List.reverse_reverse, List.append_assoc]
  | case19 done b rest' hquote hcontrol hescape ih =>
    obtain ⟨os, hos, rfl⟩ := ih h
    refine ⟨b :: os, .verbatim ⟨hquote, hcontrol, hescape⟩ hos, ?_⟩
    rw [List.reverse_cons, List.append_assoc]
    rfl
  | _ => cases h

/-- A text is read just where its UTF-8 form is spelled. -/
theorem readTextBody_eq_ok_iff {bs rest : Octets} {s : String} :
    readTextBody bs = .ok (s, rest) ↔ Spells bs (Octets.ofText s) rest := by
  unfold readTextBody
  constructor
  · intro h
    split at h
    · cases h
    next octets rest' hread =>
      obtain ⟨os, hos, rfl⟩ := spells_of_readQuoted hread
      split at h
      next text htext =>
        cases h
        rwa [Octets.toText?_eq_some_iff.1 htext] at hos
      · cases h
  · intro h
    rw [h.readQuoted, List.reverse_nil, List.nil_append]
    dsimp only
    rw [Octets.toText?_ofText]

/-! ## Writing strings -/

/-- A control is written with the two digits of its number. -/
theorem hexUnit?_control : ∀ n < 32, Octets.ofText (Octets.toHex [UInt8.ofNat n])
      = [UInt8.ofNat (Octets.hexDigit (n / 16)).toNat, UInt8.ofNat (Octets.hexDigit (n % 16)).toNat]
    ∧ hexUnit? 0x30 0x30 (UInt8.ofNat (Octets.hexDigit (n / 16)).toNat)
        (UInt8.ofNat (Octets.hexDigit (n % 16)).toNat) = some n := by
  decide +kernel

/-- The written form of an octet spells it. -/
theorem Spells.escapeOctet (b : UInt8) {bs os rest : Octets} (more : Spells bs os rest) :
    Spells (escapeOctet b ++ bs) (b :: os) rest := by
  unfold Json.escapeOctet
  -- Seven octets have an escape of their own.
  iterate 7
    split
    next hb =>
      subst hb
      exact .escape rfl more
  split
  next hcontrol =>
    have hb : b.toNat < 32 := hcontrol
    obtain ⟨hdigits, hunit⟩ := hexUnit?_control b.toNat hb
    rw [UInt8.ofNat_toNat] at hdigits
    have hleading : isLeading b.toNat = false := by
      simp only [isLeading, Bool.and_eq_false_iff, decide_eq_false_iff_not]
      omega
    have htrailing : isTrailing b.toNat = false := by
      simp only [isTrailing, Bool.and_eq_false_iff, decide_eq_false_iff_not]
      omega
    have hchar : String.utf8EncodeChar (Char.ofNat b.toNat) = [b] :=
      Octets.utf8EncodeChar_toNat (UInt8.lt_of_lt_of_le hcontrol (by decide))
    have hspells := Spells.unit hunit hleading htrailing more
    rw [hchar] at hspells
    rw [hdigits]
    exact hspells
  next hquote hescape _ _ _ _ _ hcontrol => exact .verbatim ⟨hquote, hcontrol, hescape⟩ more

/-- The written form of octets spells them. -/
theorem spells_written (os tail : Octets) :
    Spells (os.flatMap escapeOctet ++ 0x22 :: tail) os tail := by
  induction os with
  | nil => exact .close tail
  | cons b os ih =>
    rw [List.flatMap_cons, List.append_assoc]
    exact ih.escapeOctet b

/-- Octets that stand for themselves spell themselves. -/
theorem spells_verbatim {os : Octets} (h : ∀ b ∈ os, IsVerbatim b) (tail : Octets) :
    Spells (os ++ 0x22 :: tail) os tail := by
  induction os with
  | nil => exact .close tail
  | cons b os ih =>
    exact .verbatim (h b List.mem_cons_self) (ih fun c hc => h c (List.mem_cons_of_mem _ hc))

/-- Every text is read back from its written form. -/
theorem readTextBody_written (s : String) (tail : Octets) :
    readTextBody ((Octets.ofText s).flatMap escapeOctet ++ 0x22 :: tail) = .ok (s, tail) :=
  readTextBody_eq_ok_iff.2 (spells_written _ tail)

end ChatBoard.Json
