import ChatBoard.Board.Upload

/-!
# The parts of an upload

The parts of an upload are taken in one after the other, and the pieces of a picture too. Neither
order matters for whether the upload is spoiled: a picture is too large just when its whole content
is (`Upload.gather_eq`), and an upload is spoiled just when one of its parts is a picture of no
known format or too large, whatever stands before it and after it (`Upload.ofParts?_eq_none_iff`).
The order matters for what an upload brings: of several pictures the last one counts
(`Upload.ofParts?_avatar`).
-/

namespace ChatBoard

namespace Upload

/-- Pieces that arrive after others are gathered if all of them together stay within the limit. -/
theorem gather_eq {limit : Nat} {arrived : Octets} (h : arrived.length ≤ limit)
    (pieces : List Octets) :
    gather limit arrived pieces
      = if arrived.length + pieces.flatten.length ≤ limit then some (arrived ++ pieces.flatten)
        else none := by
  induction pieces generalizing arrived with
  | nil => simpa [gather] using h
  | cons piece rest ih =>
    rw [gather, List.flatten_cons, List.length_append]
    by_cases hpiece : arrived.length + piece.length ≤ limit
    · have hlength : (arrived ++ piece).length = arrived.length + piece.length :=
        List.length_append
      rw [if_neg (by omega), ih (by omega), hlength, List.append_assoc]
      simp only [Nat.add_assoc]
    · -- What comes later does not make the content smaller.
      rw [if_pos (by omega), if_neg (by omega)]

/-- A part that spoils an upload: a picture from a file that has no known format or is too large. -/
def Spoils (p : Multipart.Part) : Prop :=
  p.name = some "avatar_icon" ∧ ∃ fileName, p.fileName = some fileName ∧ fileName ≠ ""
    ∧ (Avatar.extension? fileName = none ∨ avatarLimit < p.content.length)

/-- A picture is taken in whole, if its format is known and it stays within the limit. -/
theorem addPicture_eq (u : Upload) (fileName : String) (chunks : List Octets) :
    u.addPicture fileName chunks
      = (Avatar.extension? fileName).bind fun extension =>
        if chunks.flatten.length ≤ avatarLimit then
          some { u with avatar := some (Avatar.imageName chunks.flatten extension, chunks.flatten) }
        else none := by
  have hgather : gather avatarLimit [] chunks
      = if chunks.flatten.length ≤ avatarLimit then some chunks.flatten else none := by
    rw [gather_eq (Nat.zero_le _), List.length_nil, Nat.zero_add, List.nil_append]
  unfold addPicture
  cases Avatar.extension? fileName with
  | none => rfl
  | some extension =>
    dsimp only [Option.bind_some]
    rw [hgather]
    by_cases hle : chunks.flatten.length ≤ avatarLimit
    · rw [if_pos hle, if_pos hle]
    · rw [if_neg hle, if_neg hle]

/-- A picture cannot be taken in just when it has no known format or is too large. -/
theorem addPicture_eq_none_iff {u : Upload} {fileName : String} {chunks : List Octets} :
    u.addPicture fileName chunks = none
      ↔ Avatar.extension? fileName = none ∨ avatarLimit < chunks.flatten.length := by
  rw [addPicture_eq, Option.bind_eq_none_iff]
  cases Avatar.extension? fileName <;> simp

/-- A part cannot be taken in just when it spoils the upload, whatever has been taken in before. -/
theorem add_eq_none_iff {u : Upload} {p : Multipart.Part} : u.add p = none ↔ Spoils p := by
  unfold add Spoils
  by_cases hdisplay : p.name = some "display_name"
  · rw [if_pos hdisplay]
    refine ⟨fun h => (nomatch h), fun h => ?_⟩
    rw [h.1] at hdisplay
    exact absurd hdisplay (by decide)
  rw [if_neg hdisplay]
  by_cases hicon : p.name = some "avatar_icon"
  · rw [if_pos hicon]
    cases p.fileName with
    | none => exact ⟨fun h => (nomatch h), fun ⟨_, _, h, _⟩ => (nomatch h)⟩
    | some fileName =>
      dsimp only
      by_cases hempty : fileName = ""
      · subst hempty
        refine ⟨fun h => (nomatch h), ?_⟩
        rintro ⟨-, _, h, hne, -⟩
        cases h
        exact absurd rfl hne
      · rw [if_neg (by rw [String.isEmpty_iff]; exact hempty), addPicture_eq_none_iff]
        constructor
        · exact fun h => ⟨hicon, fileName, rfl, hempty, h⟩
        · rintro ⟨-, _, h, -, hspoils⟩
          cases h
          exact hspoils
  · rw [if_neg hicon]
    exact ⟨fun h => (nomatch h), fun h => absurd h.1 hicon⟩

/-- Parts cannot all be taken in just when one of them spoils the upload. -/
theorem addAll_eq_none_iff {u : Upload} {ps : List Multipart.Part} :
    u.addAll ps = none ↔ ∃ p ∈ ps, Spoils p := by
  induction ps generalizing u with
  | nil => exact ⟨fun h => (nomatch h), fun ⟨_, h, _⟩ => absurd h List.not_mem_nil⟩
  | cons p rest ih =>
    simp only [addAll, List.mem_cons, exists_eq_or_imp]
    cases hadd : u.add p with
    | none => exact ⟨fun _ => .inl (add_eq_none_iff.1 hadd), fun _ => rfl⟩
    | some u' =>
      dsimp only
      have hkept : ¬ Spoils p := fun hspoils => by
        rw [add_eq_none_iff.2 hspoils] at hadd
        cases hadd
      rw [ih, or_iff_right hkept]

/-- An upload is spoiled just when one of its parts spoils it. -/
theorem ofParts?_eq_none_iff {ps : List Multipart.Part} :
    ofParts? ps = none ↔ ∃ p ∈ ps, Spoils p := addAll_eq_none_iff

/-! ## The picture that counts -/

/-- A part is a picture if it comes from a file that has a name. -/
def isPicture (p : Multipart.Part) : Bool :=
  p.name == some "avatar_icon" && (p.fileName.getD "" != "")

/-- The last of the pictures among parts. -/
def lastPicture? (ps : List Multipart.Part) : Option Multipart.Part :=
  (ps.filter isPicture).getLast?

/-- An avatar that has been taken from a picture: its name is that of the content with the file's
extension. -/
def IsTaken (p : Multipart.Part) (avatar : Option (String × Octets)) : Prop :=
  ∃ fileName extension, p.fileName = some fileName
    ∧ Avatar.extension? fileName = some extension ∧ p.content.length ≤ avatarLimit
    ∧ avatar = some (Avatar.imageName p.content extension, p.content)

/-- A picture that is taken in becomes the avatar. -/
theorem addPicture_avatar {u u' : Upload} {fileName : String} {p : Multipart.Part}
    (hfile : p.fileName = some fileName) (h : u.addPicture fileName p.chunks = some u') :
    IsTaken p u'.avatar := by
  rw [addPicture_eq, Option.bind_eq_some_iff] at h
  obtain ⟨extension, hext, htaken⟩ := h
  split at htaken
  next hle =>
    cases htaken
    exact ⟨fileName, extension, hfile, hext, hle, rfl⟩
  · cases htaken

/-- A part that is taken in becomes the avatar if it is a picture, and otherwise leaves it. -/
theorem add_avatar {u u' : Upload} {p : Multipart.Part} (h : u.add p = some u') :
    (isPicture p = true → IsTaken p u'.avatar) ∧ (isPicture p = false → u'.avatar = u.avatar) := by
  unfold add at h
  split at h
  next hname =>
    have hnot : isPicture p = false := by simp [isPicture, hname]
    cases h
    exact ⟨fun hpicture => absurd hpicture (by simp [hnot]), fun _ => rfl⟩
  · split at h
    next hname =>
      split at h
      next hfile =>
        have hnot : isPicture p = false := by simp [isPicture, hfile]
        cases h
        exact ⟨fun hpicture => absurd hpicture (by simp [hnot]), fun _ => rfl⟩
      next fileName hfile =>
        split at h
        next hempty =>
          have hnot : isPicture p = false := by
            simp [isPicture, hfile, String.isEmpty_iff.1 hempty]
          cases h
          exact ⟨fun hpicture => absurd hpicture (by simp [hnot]), fun _ => rfl⟩
        next hne =>
          have hpicture : isPicture p = true := by
            have hne : fileName ≠ "" := fun heq => hne (String.isEmpty_iff.2 heq)
            simp [isPicture, hname, hfile, hne]
          exact ⟨fun _ => addPicture_avatar hfile h, fun hnot => absurd hpicture (by simp [hnot])⟩
    next hname =>
      have hnot : isPicture p = false := by simp [isPicture, hname]
      cases h
      exact ⟨fun hpicture => absurd hpicture (by simp [hnot]), fun _ => rfl⟩

/-- Of parts that are taken in one after the other the last picture becomes the avatar. -/
theorem addAll_avatar {u u' : Upload} {ps : List Multipart.Part} (h : u.addAll ps = some u') :
    (∀ p, lastPicture? ps = some p → IsTaken p u'.avatar)
      ∧ (lastPicture? ps = none → u'.avatar = u.avatar) := by
  induction ps generalizing u with
  | nil =>
    cases h
    exact ⟨fun p hp => (nomatch hp), fun _ => rfl⟩
  | cons p rest ih =>
    rw [addAll] at h
    cases hadd : u.add p with
    | none =>
      rw [hadd] at h
      cases h
    | some u₁ =>
      rw [hadd] at h
      obtain ⟨hlast, hnone⟩ := ih h
      obtain ⟨htaken, hleft⟩ := add_avatar hadd
      unfold lastPicture? at hlast hnone ⊢
      cases hpicture : isPicture p with
      | false =>
        rw [List.filter_cons_of_neg (by simp [hpicture])]
        exact ⟨hlast, fun h => (hnone h).trans (hleft hpicture)⟩
      | true =>
        rw [List.filter_cons_of_pos hpicture, List.getLast?_cons]
        refine ⟨fun q hq => ?_, fun h => (nomatch h)⟩
        -- A picture that comes later replaces this one.
        cases hlater : (rest.filter isPicture).getLast? with
        | some later =>
          rw [hlater] at hq
          cases hq
          exact hlast later hlater
        | none =>
          rw [hlater] at hq
          cases hq
          rw [hnone hlater]
          exact htaken hpicture

/-- An upload has the last picture among its parts for its avatar, and none without a picture. -/
theorem ofParts?_avatar {u : Upload} {ps : List Multipart.Part} (h : ofParts? ps = some u) :
    (∀ p, lastPicture? ps = some p → IsTaken p u.avatar)
      ∧ (lastPicture? ps = none → u.avatar = none) := addAll_avatar h

end Upload

end ChatBoard
