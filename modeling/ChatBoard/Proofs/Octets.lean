import ChatBoard.Octets

/-!
# Taking octets apart

What splitting, cutting and trimming give back of octets that have been put together, and what the
UTF-8 form of a text is made of.
-/

namespace ChatBoard.Octets

/-! ## Cutting and trimming -/

/-- The first separator is the one that has been put there, if there is none before it. -/
theorem cutAt_append_cons {sep : UInt8} {before : Octets} (h : sep ∉ before) (after : Octets) :
    cutAt sep (before ++ sep :: after) = (before, some after) := by
  have hbefore : ∀ b ∈ before, (b != sep) = true := by
    intro b hb
    refine bne_iff_ne.2 fun heq => h ?_
    rw [← heq]
    exact hb
  unfold cutAt
  rw [List.takeWhile_append_of_pos hbefore, List.dropWhile_append_of_pos hbefore]
  simp

/-- Octets of which none is trimmed stay as they are. -/
theorem trim_of_forall_not {p : UInt8 → Bool} {bs : Octets} (h : ∀ b ∈ bs, p b = false) :
    trim p bs = bs := by
  have hkept : ∀ cs : Octets, (∀ b ∈ cs, p b = false) → cs.dropWhile p = cs := by
    intro cs hcs
    cases cs with
    | nil => rfl
    | cons b rest => exact List.dropWhile_cons_of_neg (by simp [hcs b List.mem_cons_self])
  unfold trim
  rw [hkept bs h, hkept _ fun b hb => h b (List.mem_reverse.1 hb), List.reverse_reverse]

/-- An octet that is trimmed is dropped in front. -/
theorem trim_cons {p : UInt8 → Bool} {b : UInt8} (h : p b = true) (bs : Octets) :
    trim p (b :: bs) = trim p bs := by
  unfold trim
  rw [List.dropWhile_cons_of_pos h]

/-! ## UTF-8 -/

/-- A text is read from its UTF-8 form and from nothing else. -/
theorem toText?_eq_some_iff {bs : Octets} {s : String} : toText? bs = some s ↔ bs = ofText s := by
  refine ⟨fun h => (ofText_of_toText? h).symm, fun h => ?_⟩
  rw [h, toText?_ofText]

/-- The UTF-8 form of a text is that of its characters in a row. -/
theorem ofText_ofList (cs : List Char) :
    ofText (String.ofList cs) = cs.flatMap String.utf8EncodeChar := by
  unfold ofText
  rw [String.toByteArray_ofList, List.utf8Encode]
  simp

/-- A character of the lower half of the octets is one octet. -/
theorem utf8EncodeChar_of_lt {c : Char} (h : c.toNat < 128) :
    String.utf8EncodeChar c = [UInt8.ofNat c.toNat] := by
  have hsize : c.utf8Size = 1 :=
    Char.utf8Size_eq_one_iff.2 (UInt32.le_iff_toNat_le.2 (Nat.le_of_lt_succ h))
  rw [String.utf8EncodeChar_eq_singleton hsize]
  rfl

/-- A text of characters of the lower half takes as many octets as it has characters. -/
theorem utf8ByteSize_of_lt {s : String} (h : ∀ c ∈ s.toList, c.toNat < 128) :
    s.utf8ByteSize = s.toList.length := by
  have hsize : s.utf8ByteSize = (ofText s).length := Array.length_toList.symm
  rw [hsize, ← String.ofList_toList (s := s), ofText_ofList, String.toList_ofList]
  generalize s.toList = cs at h
  induction cs with
  | nil => rfl
  | cons c rest ih =>
    rw [List.forall_mem_cons] at h
    rw [List.flatMap_cons, List.length_append, ih h.2, utf8EncodeChar_of_lt h.1]
    exact Nat.add_comm _ _

/-- An octet of the lower half is the UTF-8 form of the character with its number. -/
theorem utf8EncodeChar_toNat {b : UInt8} (h : b < 128) :
    String.utf8EncodeChar (Char.ofNat b.toNat) = [b] := by
  have hb : b.toNat < 128 := h
  have hvalid : b.toNat.isValidChar := .inl (by omega)
  have hchar : (Char.ofNat b.toNat).toNat = b.toNat := by
    unfold Char.ofNat
    rw [dif_pos hvalid]
    exact UInt32.toNat_ofNatLT
  rw [utf8EncodeChar_of_lt (by omega), hchar, UInt8.ofNat_toNat]

/-- Octets of the lower half are the UTF-8 form of a text. -/
theorem exists_ofText {bs : Octets} (h : ∀ b ∈ bs, b < 128) : ∃ s, ofText s = bs := by
  refine ⟨String.ofList (bs.map fun b => Char.ofNat b.toNat), ?_⟩
  rw [ofText_ofList]
  induction bs with
  | nil => rfl
  | cons b rest ih =>
    rw [List.map_cons, List.flatMap_cons, ih fun c hc => h c (List.mem_cons_of_mem _ hc),
      utf8EncodeChar_toNat (h b List.mem_cons_self)]
    rfl

end ChatBoard.Octets
