import ChatBoard.Codec.Percent

/-!
# Octets that decoding leaves alone

`Decodes bs os` follows decoding octet by octet: an escape gives one octet, and every other octet
gives itself (`decodes_decode`). An escape takes three octets and gives one, so decoded octets are
never more than there were, and they are the same just when there was no escape
(`decode_eq_self_iff`).
-/

namespace ChatBoard.Percent

/-- Octets have an escape: a percent sign before two hexadecimal digits. -/
def HasEscape (bs : Octets) : Prop :=
  ∃ before a b after, bs = before ++ 0x25 :: a :: b :: after
    ∧ (Octets.hexValue a).isSome ∧ (Octets.hexValue b).isSome

/-- Octets and what they are decoded to. -/
inductive Decodes : Octets → Octets → Prop where
  | nil : Decodes [] []
  | escape {a b c : UInt8} {rest os : Octets} (begins : escaped? 0x25 (a :: b :: rest) = some c)
      (more : Decodes rest os) : Decodes (0x25 :: a :: b :: rest) (c :: os)
  | plain {c : UInt8} {rest os : Octets} (begins : escaped? c rest = none)
      (more : Decodes rest os) : Decodes (c :: rest) (c :: os)

/-- An escape begins with a percent sign before two hexadecimal digits. -/
theorem escaped?_isSome_iff {c : UInt8} {rest : Octets} :
    (escaped? c rest).isSome ↔ ∃ a b after, c = 0x25 ∧ rest = a :: b :: after
      ∧ (Octets.hexValue a).isSome ∧ (Octets.hexValue b).isSome := by
  unfold escaped?
  constructor
  · intro h
    split at h
    next a b after =>
      split at h
      next hc =>
        split at h
        next x y ha hb => exact ⟨a, b, after, hc, rfl, by rw [ha]; rfl, by rw [hb]; rfl⟩
        · cases h
      · cases h
    · cases h
  · rintro ⟨a, b, after, rfl, rfl, ha, hb⟩
    obtain ⟨x, hx⟩ := Option.isSome_iff_exists.1 ha
    obtain ⟨y, hy⟩ := Option.isSome_iff_exists.1 hb
    dsimp only
    rw [if_pos rfl, hx, hy]
    rfl

/-- What has been decoded stands before what is decoded next. -/
theorem decodeOnto_eq (done : Octets) (skip : Nat) (bs : Octets) :
    decodeOnto done skip bs = done.reverse ++ decodeOnto [] skip bs := by
  induction bs generalizing done skip with
  | nil => cases skip <;> simp [decodeOnto]
  | cons c rest ih =>
    cases skip with
    | succ skip => exact ih done skip
    | zero =>
      unfold decodeOnto
      cases escaped? c rest with
      | some b =>
        dsimp only
        rw [ih (b :: done), ih [b], List.reverse_cons, List.append_assoc]
        rfl
      | none =>
        dsimp only
        rw [ih (c :: done), ih [c], List.reverse_cons, List.append_assoc]
        rfl

/-- Octets are decoded to what decoding gives. -/
theorem decodes_decode (bs : Octets) : Decodes bs (decode bs) := by
  induction hlen : bs.length using Nat.strongRecOn generalizing bs with
  | _ n ih =>
    cases bs with
    | nil => exact .nil
    | cons c rest =>
      unfold decode decodeOnto
      cases hbegins : escaped? c rest with
      | none =>
        dsimp only
        rw [decodeOnto_eq]
        exact .plain hbegins (ih rest.length (by rw [← hlen]; exact Nat.lt_succ_self _) rest rfl)
      | some x =>
        -- The two digits are passed over.
        obtain ⟨a, b, after, rfl, rfl, -⟩ :=
          escaped?_isSome_iff.1 (Option.isSome_iff_exists.2 ⟨x, hbegins⟩)
        dsimp only [decodeOnto]
        rw [decodeOnto_eq]
        refine .escape hbegins (ih after.length ?_ after rfl)
        rw [← hlen]
        exact Nat.lt_of_lt_of_le (Nat.lt_succ_self _) (by simp)

namespace Decodes

variable {bs os : Octets}

/-- Decoded octets are not more than there were. -/
theorem length_le (h : Decodes bs os) : os.length ≤ bs.length := by
  induction h with
  | nil => exact Nat.le_refl _
  | escape _ _ ih =>
    simp only [List.length_cons]
    omega
  | plain _ _ ih =>
    simp only [List.length_cons]
    omega

/-- Octets without an escape are decoded as they are. -/
theorem eq_of_not_hasEscape (h : Decodes bs os) (hno : ¬ HasEscape bs) : os = bs := by
  induction h with
  | nil => rfl
  | @escape a b c rest os hbegins _ _ =>
    obtain ⟨a', b', after, -, hrest, ha, hb⟩ :=
      escaped?_isSome_iff.1 (Option.isSome_iff_exists.2 ⟨c, hbegins⟩)
    exact absurd ⟨[], a', b', after, by rw [hrest]; rfl, ha, hb⟩ hno
  | @plain c rest os _ _ ih =>
    rw [ih]
    rintro ⟨before, a, b, after, hrest, ha, hb⟩
    exact hno ⟨c :: before, a, b, after, by rw [hrest]; rfl, ha, hb⟩

/-- Octets that are decoded as they are have no escape. -/
theorem not_hasEscape (h : Decodes bs bs) : ¬ HasEscape bs := by
  rintro ⟨before, a, b, after, hbs, ha, hb⟩
  induction before generalizing bs with
  | nil =>
    subst hbs
    cases h with
    | escape _ hmore =>
      have := hmore.length_le
      simp only [List.length_cons] at this
      omega
    | plain hbegins _ =>
      have hescape := escaped?_isSome_iff.2 ⟨a, b, after, rfl, rfl, ha, hb⟩
      rw [hbegins] at hescape
      exact Bool.false_ne_true hescape
  | cons c before ih =>
    subst hbs
    rw [List.cons_append] at h
    generalize hrest : before ++ 0x25 :: a :: b :: after = rest at h
    cases h with
    | escape _ hmore =>
      have := hmore.length_le
      simp only [List.length_cons] at this
      omega
    | plain _ hmore => exact ih hmore hrest.symm

end Decodes

/-- Decoded octets are not more than there were. -/
theorem length_decode_le (bs : Octets) : (decode bs).length ≤ bs.length :=
  (decodes_decode bs).length_le

/-- Decoding leaves octets as they are just when they have no escape. -/
theorem decode_eq_self_iff {bs : Octets} : decode bs = bs ↔ ¬ HasEscape bs := by
  refine ⟨fun h => ?_, fun h => (decodes_decode bs).eq_of_not_hasEscape h⟩
  have hdecodes := decodes_decode bs
  rw [h] at hdecodes
  exact hdecodes.not_hasEscape

end ChatBoard.Percent
