import ChatBoard.Proofs.Account.Avatar
import ChatBoard.Proofs.Board.Gates
import ChatBoard.Proofs.Store.Names

/-!
# Requests for pictures

Who asks for a picture gives its name in the path, with or without escapes (`Request.AsksIcon`), and
needs no session. A name of a known media type is looked up among the images: the answer is the
picture that has it (`serve_icon`), a failure if the row with the name cannot be read
(`serve_icon_unreadable`), and not found if there is none (`serve_icon_none`). A name that an upload
has made can be put into the path as it is (`Request.asksIcon_imageName`).
-/

namespace ChatBoard

/-- A request for the picture with a name. -/
structure Request.AsksIcon (name : String) (r : Request) : Prop where
  get : r.method = .get
  path : ∃ part, r.HasPart "/icons/" part ∧ Percent.decode part = Octets.ofText name

namespace Store

variable {s : Store} {name : String}

/-- The picture that is found under a name is the one that has it. -/
theorem image_of_mem {id : Int} {data : Octets}
    (h : ⟨id, .sound ⟨name, data⟩⟩ ∈ rowsOf s.images) :
    s.image name = .ok (some ⟨id, ⟨name, data⟩⟩) := by
  obtain ⟨t, ht, hmem⟩ := exists_of_mem_rowsOf h
  have hfind : t.labelled? [.text name] = some ⟨id, .sound ⟨name, data⟩⟩ :=
    t.labelled?_eq_some_iff.2 ⟨hmem, rfl⟩
  unfold image
  rw [ht]
  dsimp only
  rw [hfind]
  rfl

/-- A row that has the name of a picture but cannot be read is none. -/
theorem image_of_odd {id : Int} {cs : Columns} (h : ⟨id, .odd cs⟩ ∈ rowsOf s.images)
    (hname : cs.get "name" = .text name) : s.image name = .error (.unreadable .images) := by
  obtain ⟨t, ht, hmem⟩ := exists_of_mem_rowsOf h
  have hlabel : label (Stored.odd cs : Stored Image) = some [.text name] := by
    rw [← hname]
    rfl
  have hfind : t.labelled? [.text name] = some ⟨id, .odd cs⟩ :=
    t.labelled?_eq_some_iff.2 ⟨hmem, hlabel⟩
  unfold image
  rw [ht]
  dsimp only
  rw [hfind]
  rfl

/-- Under a name that no image has no picture is found. -/
theorem image_of_not_mem {t : Table (Stored Image)} (ht : s.images = some t)
    (h : ∀ x ∈ t.entries, Image.label x.row ≠ [.text name]) : s.image name = .ok none := by
  have hfind : t.labelled? [.text name] = none := by
    refine t.labelled?_eq_none_iff.2 fun x hx heq => h x hx ?_
    exact Option.some.inj heq
  unfold image
  rw [ht]
  dsimp only
  rw [hfind]
  rfl

end Store

section

variable {e : Setting} {r : Request} {s : Store} {name mediaType : String}

/-- A request for a picture of a known media type is answered by what is found under the name. -/
theorem serve_icon_eq (h : r.AsksIcon name) (hmedia : Avatar.mediaType? name = some mediaType) :
    serve e r s
      = (match s.image name with
          | .error _ => .ofFailure .internal
          | .ok none => .ofFailure .notFound
          | .ok (some image) => .withBody 200 mediaType image.row.data, s) := by
  obtain ⟨part, hpart, hname⟩ := h.path
  have hroute : Route.ofPath? r.path = some (.free (.icon part)) :=
    hpart.route "icons" (fun part => .free (.icon part)) (by simp [Route.withPart])
  have htext : Request.pathText "file_name" part = .ok name := by
    unfold Request.pathText
    rw [hname, Octets.toText?_ofText]
  have hicon : (Route.free (.icon part)).act e r s = (Entrance.icon part s, s) := rfl
  rw [serve_get hroute h.get, hicon]
  unfold Entrance.icon
  cases himage : s.image name with
  | error fault => simp only [htext, hmedia, himage]
  | ok found => cases found <;> simp only [htext, hmedia, himage]

/-- A picture that is stored is the answer. -/
theorem serve_icon (h : r.AsksIcon name) (hmedia : Avatar.mediaType? name = some mediaType)
    {id : Int} {data : Octets} (himage : ⟨id, .sound ⟨name, data⟩⟩ ∈ rowsOf s.images) :
    serve e r s = (.withBody 200 mediaType data, s) := by
  rw [serve_icon_eq h hmedia, Store.image_of_mem himage]

/-- Where the row with the name cannot be read, the board fails. -/
theorem serve_icon_unreadable (h : r.AsksIcon name)
    (hmedia : Avatar.mediaType? name = some mediaType) {id : Int} {cs : Columns}
    (himage : ⟨id, .odd cs⟩ ∈ rowsOf s.images) (hname : cs.get "name" = .text name) :
    serve e r s = (.bare 500, s) := by
  rw [serve_icon_eq h hmedia, Store.image_of_odd himage hname]
  rfl

/-- A name that no image has is not found. -/
theorem serve_icon_none (h : r.AsksIcon name) (hmedia : Avatar.mediaType? name = some mediaType)
    {t : Table (Stored Image)} (ht : s.images = some t)
    (hnone : ∀ x ∈ t.entries, Image.label x.row ≠ [.text name]) :
    serve e r s = (.bare 404, s) := by
  rw [serve_icon_eq h hmedia, Store.image_of_not_mem ht hnone]
  rfl

/-- The name of an uploaded picture can be put into the path as it is. -/
theorem Request.asksIcon_imageName {extension : String} {data : Octets}
    (hext : extension ∈ Avatar.extensions) (hget : r.method = .get)
    (hpath : r.path = Octets.ofText ("/icons/" ++ Avatar.imageName data extension)) :
    r.AsksIcon (Avatar.imageName data extension) where
  get := hget
  path := by
    have hplain := Avatar.plain_imageName data hext
    have hne : Octets.ofText (Avatar.imageName data extension) ≠ [] := by
      intro hnil
      have hempty := Octets.ofText_injective (s := Avatar.imageName data extension) (t := "") hnil
      have hlength := congrArg (fun s : String => s.toList.length) hempty
      unfold Avatar.imageName at hlength
      simp [Avatar.length_hexDigest] at hlength
    refine ⟨_, ⟨hne, fun hmem => (hplain _ hmem).1 rfl, ?_⟩, Avatar.decode_imageName data hext⟩
    rw [hpath, Octets.ofText_append]

end

end ChatBoard
