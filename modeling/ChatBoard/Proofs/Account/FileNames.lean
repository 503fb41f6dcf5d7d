import ChatBoard.Proofs.Board.Icons
import ChatBoard.Proofs.Board.Upload

/-!
# The names of files that may be uploaded

A file may be uploaded if the part of its name from the last full stop on is one of four extensions,
and a picture is served if its name ends in one of them. As each extension has a single full stop,
at its beginning, both tests accept the same names (`Avatar.extension?_isSome_iff`). A picture is
stored under its digest with the extension of its file, so its media type is the one that the name
of the file announced (`fileNames_agree`).
-/

namespace ChatBoard

namespace Avatar

variable {name extension : String} {cs xs : List Char}

/-- The last full stop is the one that no other follows. -/
theorem fromLastStop?_append {rest : List Char} (h : '.' ∉ rest) (stem : List Char) :
    fromLastStop? (stem ++ '.' :: rest) = some ('.' :: rest) := by
  have hreverse : (stem ++ '.' :: rest).reverse = rest.reverse ++ '.' :: stem.reverse := by simp
  have hpassed : ∀ c ∈ rest.reverse, (c != '.') = true := by
    intro c hc
    refine bne_iff_ne.2 fun heq => h ?_
    rw [← heq]
    exact List.mem_reverse.1 hc
  unfold fromLastStop?
  rw [if_pos (List.mem_append_right _ List.mem_cons_self), hreverse,
    List.takeWhile_append_of_pos hpassed]
  simp

/-- What is taken off a name is its end, from a full stop on that no other follows. -/
theorem fromLastStop?_eq_some_iff :
    fromLastStop? cs = some xs ↔ ∃ stem rest, cs = stem ++ xs ∧ xs = '.' :: rest ∧ '.' ∉ rest := by
  constructor
  · intro h
    by_cases hmem : '.' ∈ cs
    · -- Backwards, the last full stop is the first.
      obtain ⟨before, after, hcs, hbefore⟩ :=
        List.eq_append_cons_of_mem (List.mem_reverse.2 hmem)
      have hrest : '.' ∉ before.reverse := fun hstop => hbefore (List.mem_reverse.1 hstop)
      obtain rfl : cs = after.reverse ++ '.' :: before.reverse := by
        rw [← List.reverse_reverse cs, hcs]
        simp
      rw [fromLastStop?_append hrest] at h
      cases h
      exact ⟨_, _, rfl, rfl, hrest⟩
    · unfold fromLastStop? at h
      rw [if_neg hmem] at h
      cases h
  · rintro ⟨stem, rest, rfl, rfl, hrest⟩
    exact fromLastStop?_append hrest stem

/-- An extension has one full stop, at its beginning. -/
theorem exists_rest_of_mem (h : extension ∈ extensions) :
    ∃ rest, extension.toList = '.' :: rest ∧ '.' ∉ rest := by
  have hall : ∀ x ∈ extensions, x.toList = '.' :: x.toList.tail ∧ '.' ∉ x.toList.tail := by
    decide
  exact ⟨_, hall extension h⟩

/-- The extension of a name is the one that it ends in, if that is one of the four. -/
theorem extension?_eq_some_iff :
    extension? name = some extension
      ↔ extension ∈ extensions ∧ ∃ stem, name = stem ++ extension := by
  constructor
  · intro h
    refine ⟨extension?_mem h, ?_⟩
    unfold extension? at h
    split at h
    · cases h
    next xs hxs =>
      split at h
      · cases h
        obtain ⟨stem, rest, hname, -, -⟩ := fromLastStop?_eq_some_iff.1 hxs
        refine ⟨String.ofList stem, String.toList_inj.1 ?_⟩
        rw [hname, String.toList_append, String.toList_ofList, String.toList_ofList]
      · cases h
  · rintro ⟨hmem, stem, rfl⟩
    obtain ⟨rest, hrest, hstop⟩ := exists_rest_of_mem hmem
    have hfrom : fromLastStop? (stem ++ extension).toList = some extension.toList := by
      rw [String.toList_append, hrest]
      exact fromLastStop?_append hstop _
    unfold extension?
    rw [hfrom]
    dsimp only
    rw [String.ofList_toList, if_pos hmem]

/-- A name ends in a text if something can be put before the text to make the name. -/
theorem endsIn_iff {ending : String} :
    endsIn ending name = true ↔ ∃ stem, name = stem ++ ending := by
  unfold endsIn
  rw [List.isSuffixOf_iff_suffix]
  constructor
  · rintro ⟨stem, h⟩
    refine ⟨String.ofList stem, String.toList_inj.1 ?_⟩
    rw [String.toList_append, String.toList_ofList, h]
  · rintro ⟨stem, rfl⟩
    exact ⟨stem.toList, String.toList_append.symm⟩

/-- The names with a media type are those that end in one of the four extensions. -/
theorem mediaType?_isSome_iff :
    (mediaType? name).isSome = true
      ↔ ∃ extension ∈ extensions, ∃ stem, name = stem ++ extension := by
  constructor
  · intro h
    simp only [← endsIn_iff]
    unfold mediaType? at h
    split at h
    next hjpeg =>
      rcases Bool.or_eq_true_iff.1 hjpeg with hends | hends
      · exact ⟨".jpg", by decide, hends⟩
      · exact ⟨".jpeg", by decide, hends⟩
    next =>
      split at h
      next hends => exact ⟨".png", by decide, hends⟩
      next =>
        split at h
        next hends => exact ⟨".gif", by decide, hends⟩
        next => cases h
  · rintro ⟨extension, hmem, stem, rfl⟩
    obtain ⟨mediaType, hmedia⟩ := mediaType?_isSome hmem
    rw [mediaType?_append stem hmem, hmedia]
    rfl

/-- A file may be uploaded exactly if its name has a media type. -/
theorem extension?_isSome_iff :
    (extension? name).isSome = true ↔ (mediaType? name).isSome = true := by
  rw [mediaType?_isSome_iff, Option.isSome_iff_exists]
  simp only [extension?_eq_some_iff]

/-- A picture has the media type of the name of its file. -/
theorem mediaType?_of_extension? (data : Octets) (h : extension? name = some extension) :
    mediaType? (imageName data extension) = mediaType? name := by
  obtain ⟨hmem, stem, rfl⟩ := extension?_eq_some_iff.1 h
  calc mediaType? (imageName data extension) = mediaType? extension :=
        mediaType?_imageName data hmem
    _ = mediaType? (stem ++ extension) := (mediaType?_append stem hmem).symm

end Avatar

open Avatar

/-- A picture that an upload takes in from a file is served with the media type that the name of the
file announced: the upload gives it a name under which it can be asked for, and whatever is stored
under that name is the answer. -/
def IsServed (fileName : String) (u : Upload) : Prop :=
  ∃ stored data mediaType, u.avatar = some (stored, data) ∧ mediaType? fileName = some mediaType
    ∧ (∀ r : Request, r.method = .get → r.path = Octets.ofText ("/icons/" ++ stored) →
        r.AsksIcon stored)
    ∧ ∀ (e : Setting) (r : Request) (s : Store) id content, r.AsksIcon stored →
        ⟨id, .sound ⟨stored, content⟩⟩ ∈ rowsOf s.images →
          serve e r s = (.withBody 200 mediaType content, s)

/-- What an upload takes in from a file is served. -/
theorem isServed_of_addPicture {u u' : Upload} {fileName : String} {chunks : List Octets}
    (h : u.addPicture fileName chunks = some u') : IsServed fileName u' := by
  rw [Upload.addPicture_eq] at h
  obtain ⟨extension, hext, h⟩ := Option.bind_eq_some_iff.1 h
  split at h
  · cases h
    have hmem := extension?_mem hext
    obtain ⟨mediaType, hmedia⟩ :=
      Option.isSome_iff_exists.1 (extension?_isSome_iff.1 (by rw [hext]; rfl))
    have hstored := (mediaType?_of_extension? chunks.flatten hext).trans hmedia
    refine ⟨_, _, mediaType, rfl, hmedia, fun r => Request.asksIcon_imageName hmem, ?_⟩
    intro e r s id content hasks himage
    exact serve_icon hasks hstored himage
  · cases h

/-- What is made of the name of a file when it is uploaded, and of the name of its picture when that
is asked for. -/
structure NamesAgree (fileName : String) : Prop where
  /-- It may be uploaded exactly if a picture of this name would be served. -/
  same : (extension? fileName).isSome = true ↔ (mediaType? fileName).isSome = true
  /-- Its extension is its end, from the last full stop on. -/
  ending : ∀ extension, extension? fileName = some extension → ∃ stem rest,
    fileName = stem ++ extension ∧ extension.toList = '.' :: rest ∧ '.' ∉ rest
  /-- Whatever the picture is, the name under which it is stored has a media type, and the same as
  the name of the file. -/
  stored : ∀ extension data, extension? fileName = some extension →
    (mediaType? (imageName data extension)).isSome = true
      ∧ mediaType? (imageName data extension) = mediaType? fileName
  /-- So every picture that is uploaded from the file is served as announced. -/
  served : ∀ (u : Upload) chunks u', u.addPicture fileName chunks = some u' → IsServed fileName u'

/-- The test for uploads and the table of media types agree about every name. -/
theorem fileNames_agree (fileName : String) : NamesAgree fileName where
  same := extension?_isSome_iff
  ending extension h := by
    obtain ⟨hmem, stem, hname⟩ := extension?_eq_some_iff.1 h
    obtain ⟨rest, hrest⟩ := exists_rest_of_mem hmem
    exact ⟨stem, rest, hname, hrest⟩
  stored extension data h := by
    have hmedia := mediaType?_of_extension? data h
    refine ⟨?_, hmedia⟩
    rw [hmedia, ← extension?_isSome_iff, h]
    rfl
  served u chunks u' h := isServed_of_addPicture h

/-- A name with several full stops announces what its last extension does. -/
theorem fileNames_agree_stops : extension? "été.gif.jpeg" = some ".jpeg"
    ∧ ∀ data, mediaType? (imageName data ".jpeg") = some "image/jpeg" := by
  have hext : extension? "été.gif.jpeg" = some ".jpeg" := by decide
  refine ⟨hext, fun data => ?_⟩
  rw [((fileNames_agree "été.gif.jpeg").stored ".jpeg" data hext).2]
  decide

end ChatBoard
