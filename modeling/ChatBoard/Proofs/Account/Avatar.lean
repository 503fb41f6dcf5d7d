import ChatBoard.Account.Avatar
import ChatBoard.Proofs.Codec.Form
import ChatBoard.Proofs.Octets
import ChatBoard.Store.DefaultAvatar

/-!
# The names of pictures

A picture is named by forty hexadecimal digits and an extension. So the name tells the digest and
the extension (`Avatar.imageName_inj`), its media type is that of the extension
(`Avatar.mediaType?_imageName`), and it stands in a path as it is (`Avatar.decode_imageName`). The
default avatar has no such name.
-/

namespace ChatBoard

namespace Octets

/-- The characters of octets in hexadecimal. -/
theorem toList_toHex (bs : Octets) :
    (toHex bs).toList = bs.flatMap fun b => [hexDigit (b.toNat / 16), hexDigit (b.toNat % 16)] :=
  String.toList_ofList

/-- An octet is written with two digits. -/
theorem length_toHex (bs : Octets) : (toHex bs).toList.length = 2 * bs.length := by
  rw [toList_toHex]
  induction bs with
  | nil => rfl
  | cons b rest ih =>
    rw [List.flatMap_cons, List.length_append, ih, List.length_cons]
    simp only [List.length_cons, List.length_nil]
    omega

/-- The digits of an octet tell it from all others. -/
theorem eq_of_hexDigits {a b : UInt8} (hhigh : hexDigit (a.toNat / 16) = hexDigit (b.toNat / 16))
    (hlow : hexDigit (a.toNat % 16) = hexDigit (b.toNat % 16)) : a = b := by
  have hdigit : ∀ m < 16, ∀ n < 16, hexDigit m = hexDigit n → m = n := by decide
  have ha := a.toNat_lt
  have hb := b.toNat_lt
  have hquotient := hdigit _ (by omega) _ (by omega) hhigh
  have hrest := hdigit _ (by omega) _ (by omega) hlow
  exact UInt8.toNat_inj.1 (by omega)

/-- Octets are read off their hexadecimal form. -/
theorem toHex_injective {bs cs : Octets} (h : toHex bs = toHex cs) : bs = cs := by
  have hlist := congrArg String.toList h
  rw [toList_toHex, toList_toHex] at hlist
  clear h
  induction bs generalizing cs with
  | nil =>
    cases cs with
    | nil => rfl
    | cons c more => cases hlist
  | cons b rest ih =>
    cases cs with
    | nil => cases hlist
    | cons c more =>
      simp only [List.flatMap_cons, List.cons_append, List.nil_append, List.cons.injEq] at hlist
      obtain ⟨hhigh, hlow, hrest⟩ := hlist
      rw [eq_of_hexDigits hhigh hlow, ih hrest]

/-- Octets are written with hexadecimal digits. -/
theorem mem_toHex {bs : Octets} {c : Char} (h : c ∈ (toHex bs).toList) :
    ∃ n < 16, hexDigit n = c := by
  rw [toList_toHex] at h
  obtain ⟨b, -, hc⟩ := List.mem_flatMap.1 h
  have hb := b.toNat_lt
  simp only [List.mem_cons, List.not_mem_nil, or_false] at hc
  rcases hc with rfl | rfl
  · exact ⟨_, by omega, rfl⟩
  · exact ⟨_, by omega, rfl⟩

end Octets

namespace Avatar

variable {data data' : Octets} {extension extension' : String}

/-- A name begins with forty digits. -/
theorem length_hexDigest (data : Octets) :
    (Octets.toHex (Digest.Sha1.digest data)).toList.length = 40 := by
  rw [Octets.length_toHex, Digest.Sha1.length_digest]

/-- A name tells the digest and the extension. -/
theorem imageName_inj (h : imageName data extension = imageName data' extension') :
    Digest.Sha1.digest data = Digest.Sha1.digest data' ∧ extension = extension' := by
  have hlist := congrArg String.toList h
  unfold imageName at hlist
  rw [String.toList_append, String.toList_append] at hlist
  have hlength := (length_hexDigest data).trans (length_hexDigest data').symm
  obtain ⟨hdigits, hextension⟩ := List.append_inj hlist hlength
  exact ⟨Octets.toHex_injective (String.toList_inj.1 hdigits), String.toList_inj.1 hextension⟩

/-- The default avatar does not have the name of a picture. -/
theorem imageName_ne_default : imageName data extension ≠ DefaultAvatar.name := by
  intro h
  have hlength := congrArg (fun s : String => s.toList.length) h
  have hdigits := length_hexDigest data
  unfold imageName at hlength
  simp only [String.toList_append, List.length_append, hdigits] at hlength
  have hdefault : DefaultAvatar.name.toList.length = 11 := by decide
  omega

/-- The extension of a file that may be uploaded is one of four. -/
theorem extension?_mem {fileName : String} (h : extension? fileName = some extension) :
    extension ∈ extensions := by
  unfold extension? at h
  split at h
  · cases h
  · split at h
    next hmem =>
      cases h
      exact hmem
    · cases h

/-- The ending of a name is looked for from its last character on. -/
theorem endsIn_append (ending before after : String) :
    endsIn ending (before ++ after)
      = ending.toList.reverse.isPrefixOf (after.toList.reverse ++ before.toList.reverse) := by
  unfold endsIn List.isSuffixOf
  rw [String.toList_append, List.reverse_append]

/-- The media type of a name is that of its extension. -/
theorem mediaType?_append (stem : String) (h : extension ∈ extensions) :
    mediaType? (stem ++ extension) = mediaType? extension := by
  -- Which of the endings a name has shows in the characters of its extension.
  have hends : ∀ ending ∈ [".jpg", ".jpeg", ".png", ".gif"],
      endsIn ending (stem ++ extension) = endsIn ending extension := by
    intro ending hending
    rw [endsIn_append, endsIn, List.isSuffixOf]
    generalize stem.toList.reverse = before
    simp only [extensions, List.mem_cons, List.not_mem_nil, or_false] at h hending
    rcases h with rfl | rfl | rfl | rfl <;> rcases hending with rfl | rfl | rfl | rfl <;>
      simp [List.isPrefixOf]
  simp only [mediaType?, hends, List.mem_cons, true_or, or_true]

/-- The media type of a picture is that of its extension. -/
theorem mediaType?_imageName (data : Octets) (h : extension ∈ extensions) :
    mediaType? (imageName data extension) = mediaType? extension :=
  mediaType?_append _ h

/-- A file that may be uploaded has a known media type. -/
theorem mediaType?_isSome (h : extension ∈ extensions) : ∃ m, mediaType? extension = some m := by
  have hall : ∀ x ∈ extensions, (mediaType? x).isSome = true := by decide
  exact Option.isSome_iff_exists.1 (hall extension h)

/-- A name is made of characters of one octet each, which mean nothing in a path. -/
theorem mem_imageName (h : extension ∈ extensions) {c : Char}
    (hc : c ∈ (imageName data extension).toList) : c.toNat < 128 ∧ c ≠ '/' ∧ c ≠ '%' := by
  have hext : ∀ x ∈ extensions, ∀ y ∈ x.toList, y.toNat < 128 ∧ y ≠ '/' ∧ y ≠ '%' := by
    simp [extensions]
  have hdigit : ∀ n < 16, (Octets.hexDigit n).toNat < 128 ∧ Octets.hexDigit n ≠ '/'
      ∧ Octets.hexDigit n ≠ '%' := by decide
  unfold imageName at hc
  rw [String.toList_append, List.mem_append] at hc
  rcases hc with hc | hc
  · obtain ⟨n, hn, rfl⟩ := Octets.mem_toHex hc
    exact hdigit n hn
  · exact hext extension h c hc

/-- A name has no solidus and no percent sign. -/
theorem plain_imageName (data : Octets) (h : extension ∈ extensions) :
    ∀ b ∈ Octets.ofText (imageName data extension), b ≠ 0x2f ∧ b ≠ 0x25 := by
  intro b hb
  rw [← String.ofList_toList (s := imageName data extension), Octets.ofText_ofList] at hb
  obtain ⟨c, hc, hb⟩ := List.mem_flatMap.1 hb
  obtain ⟨hlt, hsolidus, hpercent⟩ := mem_imageName h hc
  rw [Octets.utf8EncodeChar_of_lt hlt, List.mem_singleton] at hb
  have hnumber : b.toNat = c.toNat := by
    rw [hb, UInt8.toNat_ofNat']
    exact Nat.mod_eq_of_lt (by omega)
  refine ⟨fun heq => hsolidus ?_, fun heq => hpercent ?_⟩
  · exact Char.toNat_inj.1 (hnumber.symm.trans (congrArg UInt8.toNat heq))
  · exact Char.toNat_inj.1 (hnumber.symm.trans (congrArg UInt8.toNat heq))

/-- In a path a name stands for itself. -/
theorem decode_imageName (data : Octets) (h : extension ∈ extensions) :
    Percent.decode (Octets.ofText (imageName data extension))
      = Octets.ofText (imageName data extension) :=
  Form.decode_of_not_mem fun hmem => (plain_imageName data h _ hmem).2 rfl

end Avatar

end ChatBoard
