import ChatBoard.Proofs.Board.Pictures
import ChatBoard.Proofs.Files.Directories
import ChatBoard.Server.IconExport

/-!
# What an export of the icons writes

The places that an export writes to are listed one after the other (`writesTo`). Each of them is
named after a stored image and lies directly in the directory, for a name with a separator or a full
stop in front is passed over and an empty one leads to no file (`write_child`). What is not in the
list stays as it is (`writeAll_elsewhere`), and what is in it holds an image of the list
(`writeAll_places`); both are inductions on the images, and what carries them is that a file that is
written neither makes a directory nor takes one away. The names of a table are kept apart, so no
place is written twice.

After a run of requests every image is named by its digest or is the default avatar
(`pictures_addressed`). Such a name is ordinary (`ordinary_imageName`), so none is passed over.
`icons_exported` puts the two together. Files are modelled without links, so a place in the
directory is reached through its own name only; where a link stands, an export would write to where
it leads.
-/

namespace ChatBoard.IconExport

open Files (join parts place Open Direct OnWay SameDirectories)

variable {directory : String} {images : List (Entry Image)} {fs fs' : Files} {l m : Location}
  {n : Nat}

/-! ## The places that are written -/

/-- The places that images are written to, one after the other. -/
def places (directory : String) : List (Entry Image) → Files → List Location
  | [], _ => []
  | image :: rest, fs =>
    if isSafe image.row.name then
      match fs.locate (join directory image.row.name),
        fs.write (join directory image.row.name) image.row.data with
      | .ok l, .ok fs => l :: places directory rest fs
      | _, _ => []
    else places directory rest fs

/-- The places that an export writes to, one after the other. -/
def writesTo (s : Store) (directory : String) (fs : Files) : List Location :=
  match fs.makeDirectories directory, s.allImages with
  | (.ok (), fs), .ok images => places directory images fs
  | _, _ => []

/-- A safe name has no separator. -/
theorem not_mem_of_isSafe {name : String} (h : isSafe name = true) :
    '/' ∉ name.toList ∧ '\\' ∉ name.toList := by
  unfold isSafe at h
  simp only [Bool.and_eq_true, Bool.not_eq_true', List.contains_eq_mem,
    decide_eq_false_iff_not] at h
  exact h.1

/-- An image that is written under a safe name is put right into the directory, in the place of a
file or of nothing. -/
theorem write_child {image : Image} (hopen : fs.Open .here (parts directory))
    (hsafe : isSafe image.name = true)
    (h : fs.write (join directory image.name) image.data = .ok fs') :
    Direct image.name
      ∧ fs.locate (join directory image.name) = .ok ((place directory).child image.name)
      ∧ fs.node? ((place directory).child image.name) ≠ some .directory
      ∧ ∃ program,
        fs' = fs.put ((place directory).child image.name) (.file image.data program) := by
  have hdirect := Files.direct_of_write (not_mem_of_isSafe hsafe).1 h
  obtain ⟨l, program, hlocate, hplain, -, hput⟩ := Files.write_eq_ok h
  obtain rfl := Files.locate_join hopen hdirect hlocate
  exact ⟨hdirect, hlocate, hplain, program, hput⟩

/-- Writing the images takes one step for each of them: it is passed over, or it is written and the
others follow, or it cannot be written and ends the export. -/
theorem writeAll_cases (directory : String) (n : Nat) (image : Entry Image)
    (rest : List (Entry Image)) (fs : Files) :
    (isSafe image.row.name = false ∧ places directory (image :: rest) fs = places directory rest fs
        ∧ writeAll directory n (image :: rest) fs = writeAll directory n rest fs)
      ∨ (isSafe image.row.name = true
        ∧ (¬ ∃ fs', fs.write (join directory image.row.name) image.row.data = .ok fs')
        ∧ places directory (image :: rest) fs = []
        ∧ (∀ k, (writeAll directory n (image :: rest) fs).1 ≠ .ok k)
        ∧ (writeAll directory n (image :: rest) fs).2 = fs)
      ∨ ∃ l fs', isSafe image.row.name = true
        ∧ fs.write (join directory image.row.name) image.row.data = .ok fs'
        ∧ fs.locate (join directory image.row.name) = .ok l
        ∧ places directory (image :: rest) fs = l :: places directory rest fs'
        ∧ writeAll directory n (image :: rest) fs = writeAll directory (n + 1) rest fs' := by
  by_cases hsafe : isSafe image.row.name = true
  · cases hwrite : fs.write (join directory image.row.name) image.row.data with
    | error cause =>
      refine .inr (.inl ⟨hsafe, by simp, ?_, ?_, ?_⟩)
      · rw [places, if_pos hsafe, hwrite]
        cases fs.locate (join directory image.row.name) <;> rfl
      · intro k
        rw [writeAll, if_pos hsafe]
        dsimp only
        rw [hwrite]
        exact nofun
      · rw [writeAll, if_pos hsafe]
        dsimp only
        rw [hwrite]
    | ok fs' =>
      obtain ⟨l, -, hlocate, -⟩ := Files.write_eq_ok hwrite
      refine .inr (.inr ⟨l, fs', hsafe, rfl, hlocate, ?_, ?_⟩)
      · rw [places, if_pos hsafe, hwrite, hlocate]
      · rw [writeAll, if_pos hsafe]
        dsimp only
        rw [hwrite]
  · have hpassed : isSafe image.row.name = false := Bool.eq_false_iff.2 hsafe
    refine .inl ⟨hpassed, ?_, ?_⟩
    · rw [places, if_neg hsafe]
    · rw [writeAll, if_neg hsafe]

/-- Writing images makes no directory and takes none away. -/
theorem sameDirectories_writeAll (directory : String) (n : Nat) (images : List (Entry Image))
    (fs : Files) : SameDirectories fs (writeAll directory n images fs).2 := by
  induction images generalizing n fs with
  | nil => exact fun _ => Iff.rfl
  | cons image rest ih =>
    rcases writeAll_cases directory n image rest fs with
      ⟨-, -, hall⟩ | ⟨-, -, -, -, hall⟩ | ⟨l, fs', -, hwrite, -, -, hall⟩
    · rw [hall]
      exact ih n fs
    · rw [hall]
      exact fun _ => Iff.rfl
    · rw [hall]
      exact fun k => (Files.sameDirectories_write hwrite k).trans (ih (n + 1) fs' k)

/-- What stands where nothing is written stays. -/
theorem writeAll_elsewhere (hopen : fs.Open .here (parts directory))
    (h : l ∉ places directory images fs) :
    (writeAll directory n images fs).2.node? l = fs.node? l := by
  induction images generalizing n fs with
  | nil => rfl
  | cons image rest ih =>
    rcases writeAll_cases directory n image rest fs with
      ⟨-, hplaces, hall⟩ | ⟨-, -, -, -, hall⟩ | ⟨k, fs', hsafe, hwrite, hlocate, hplaces, hall⟩
    · rw [hplaces] at h
      rw [hall]
      exact ih hopen h
    · rw [hall]
    · rw [hplaces, List.mem_cons, not_or] at h
      have hsame := Files.sameDirectories_write hwrite
      rw [hall, ih (hopen.mono fun k => (hsame k).1) h.2]
      refine (Files.sameElsewhere_write hwrite).node l ?_
      rw [hlocate]
      exact fun heq => h.1 (Except.ok.inj heq).symm

/-- Where an image is written it stands afterwards, right in the directory and under its name. -/
theorem writeAll_places (hopen : fs.Open .here (parts directory))
    (h : l ∈ places directory images fs) :
    ∃ image ∈ images, isSafe image.row.name = true ∧ Direct image.row.name
      ∧ l = (place directory).child image.row.name
      ∧ ∃ program, (writeAll directory n images fs).2.node? l
        = some (.file image.row.data program) := by
  induction images generalizing n fs with
  | nil => exact absurd h List.not_mem_nil
  | cons image rest ih =>
    rcases writeAll_cases directory n image rest fs with
      ⟨-, hplaces, hall⟩ | ⟨-, -, hplaces, -⟩ | ⟨k, fs', hsafe, hwrite, hlocate, hplaces, hall⟩
    · rw [hplaces] at h
      obtain ⟨x, hx, hwritten⟩ := ih (n := n) hopen h
      rw [hall]
      exact ⟨x, List.mem_cons_of_mem _ hx, hwritten⟩
    · rw [hplaces] at h
      exact absurd h List.not_mem_nil
    · have hsame := Files.sameDirectories_write hwrite
      have hopen' := hopen.mono fun k => (hsame k).1
      rw [hplaces] at h
      rw [hall]
      by_cases hlater : l ∈ places directory rest fs'
      · obtain ⟨x, hx, hwritten⟩ := ih (n := n + 1) hopen' hlater
        exact ⟨x, List.mem_cons_of_mem _ hx, hwritten⟩
      · obtain ⟨hdirect, hchild, hplain, program, hput⟩ := write_child hopen hsafe hwrite
        obtain rfl : l = k := (List.mem_cons.1 h).resolve_right hlater
        obtain rfl : l = (place directory).child image.row.name := by
          rw [hlocate] at hchild
          exact Except.ok.inj hchild
        refine ⟨image, List.mem_cons_self, hsafe, hdirect, rfl, program, ?_⟩
        rw [writeAll_elsewhere hopen' hlater, hput,
          Files.node?_put (Files.ne_here_of_node? hplain), if_pos rfl]

/-- Two names in a directory are one place only if they are one name. -/
theorem child_inj {directory : Location} {name name' : String}
    (h : directory.child name = directory.child name') : name = name' :=
  (List.cons.inj (congrArg Location.names h)).1

/-- Images with different names are written to different places. -/
theorem nodup_places (hopen : fs.Open .here (parts directory))
    (hapart : images.Pairwise fun a b => a.row.name ≠ b.row.name) :
    (places directory images fs).Nodup := by
  induction images generalizing fs with
  | nil => exact .nil
  | cons image rest ih =>
    rw [List.pairwise_cons] at hapart
    rcases writeAll_cases directory 0 image rest fs with
      ⟨-, hplaces, -⟩ | ⟨-, -, hplaces, -⟩ | ⟨l, fs', hsafe, hwrite, hlocate, hplaces, -⟩
    · rw [hplaces]
      exact ih hopen hapart.2
    · rw [hplaces]
      exact .nil
    · have hopen' := hopen.mono fun k => (Files.sameDirectories_write hwrite k).1
      obtain ⟨-, hchild, -⟩ := write_child hopen hsafe hwrite
      rw [hplaces, List.nodup_cons]
      refine ⟨fun hmem => ?_, ih hopen' hapart.2⟩
      obtain ⟨x, hx, -, -, hl, -⟩ := writeAll_places (n := 0) hopen' hmem
      have hsame : Except.ok l = Except.ok ((place directory).child image.row.name) :=
        hlocate.symm.trans hchild
      exact hapart.1 x hx (child_inj ((Except.ok.inj hsame).symm.trans hl))

/-- Where all images can be written, each of them is. -/
theorem writeAll_complete (hopen : fs.Open .here (parts directory))
    (hall : ∀ image ∈ images, isSafe image.row.name = true
      ∧ ∃ fs', fs.write (join directory image.row.name) image.row.data = .ok fs') :
    (writeAll directory n images fs).1 = .ok (n + images.length)
      ∧ places directory images fs
        = images.map fun image => (place directory).child image.row.name := by
  induction images generalizing n fs with
  | nil => exact ⟨rfl, rfl⟩
  | cons image rest ih =>
    rw [List.forall_mem_cons] at hall
    rcases writeAll_cases directory n image rest fs with
      ⟨hpassed, -⟩ | ⟨-, hnot, -⟩ | ⟨l, fs', hsafe, hwrite, hlocate, hplaces, hwritten⟩
    · rw [hall.1.1] at hpassed
      cases hpassed
    · exact absurd hall.1.2 hnot
    · have hsame := Files.sameDirectories_write hwrite
      obtain ⟨-, hchild, -⟩ := write_child hopen hsafe hwrite
      obtain rfl : l = (place directory).child image.row.name := by
        rw [hlocate] at hchild
        exact Except.ok.inj hchild
      obtain ⟨hcount, hrest⟩ := ih (n := n + 1) (hopen.mono fun k => (hsame k).1)
        fun x hx => ⟨(hall.2 x hx).1, hsame.write_isOk (hall.2 x hx).2⟩
      refine ⟨?_, ?_⟩
      · rw [hwritten, hcount, List.length_cons, Nat.add_assoc, Nat.add_comm 1]
      · rw [hplaces, hrest, List.map_cons]

/-- Where the images have been written once, writing them again changes nothing. -/
theorem writeAll_again {k : Nat} (hopen : fs.Open .here (parts directory))
    (hapart : images.Pairwise fun a b => a.row.name ≠ b.row.name)
    (hsame : SameDirectories fs fs')
    (h : ∀ m, fs'.node? m = (writeAll directory n images fs).2.node? m) :
    (writeAll directory k images fs').2.node? m = fs'.node? m := by
  -- The first export goes through states of its own, which have the directories of the second one.
  induction images generalizing n k fs fs' with
  | nil => rfl
  | cons image rest ih =>
    rw [List.pairwise_cons] at hapart
    have hback : SameDirectories fs' fs := fun m => (hsame m).symm
    have hopen' := hopen.mono fun m => (hsame m).1
    rcases writeAll_cases directory n image rest fs with
      ⟨hpassed, -, hfirst⟩ | ⟨hsafe, hnot, -⟩ | ⟨l, fs₁, hsafe, hwrite, hlocate, hplaces, hfirst⟩
    · rcases writeAll_cases directory k image rest fs' with
        ⟨-, -, hsecond⟩ | ⟨hsafe, -⟩ | ⟨l, fs₂, hsafe, -⟩
      · rw [hsecond]
        rw [hfirst] at h
        exact ih hopen hapart.2 hsame h
      · rw [hpassed] at hsafe
        cases hsafe
      · rw [hpassed] at hsafe
        cases hsafe
    · rcases writeAll_cases directory k image rest fs' with
        ⟨hpassed, -⟩ | ⟨-, -, -, -, hsecond⟩ | ⟨l, fs₂, -, hwrite, -⟩
      · rw [hsafe] at hpassed
        cases hpassed
      · rw [hsecond]
      · exact absurd (hback.write_isOk ⟨fs₂, hwrite⟩) hnot
    · rcases writeAll_cases directory k image rest fs' with
        ⟨hpassed, -⟩ | ⟨-, hnot, -⟩ | ⟨l', fs₂, -, hwrite', hlocate', -, hsecond⟩
      · rw [hsafe] at hpassed
        cases hpassed
      · exact absurd (hsame.write_isOk ⟨fs₁, hwrite⟩) hnot
      · rw [hfirst] at h
        have hdirectories := Files.sameDirectories_write hwrite
        have hopen₁ := hopen.mono fun m => (hdirectories m).1
        obtain ⟨-, hchild, hplain, program, hput⟩ := write_child hopen hsafe hwrite
        obtain ⟨-, hchild', -⟩ := write_child hopen' hsafe hwrite'
        -- No later image has the name, so the file still holds this one when it is written again.
        have hkept : (place directory).child image.row.name ∉ places directory rest fs₁ := by
          intro hmem
          obtain ⟨x, hx, -, -, hl, -⟩ := writeAll_places (n := n + 1) hopen₁ hmem
          exact hapart.1 x hx (child_inj hl)
        have hthere : fs'.node? ((place directory).child image.row.name)
            = some (.file image.row.data program) := by
          rw [h, writeAll_elsewhere hopen₁ hkept, hput,
            Files.node?_put (Files.ne_here_of_node? hplain), if_pos rfl]
        have hunmoved : ∀ m, fs₂.node? m = fs'.node? m := fun m =>
          Files.node?_write_again hwrite' hchild' hthere
        have hboth : SameDirectories fs₁ fs₂ := fun m => by
          rw [hunmoved, ← hsame m]
          exact (hdirectories m).symm
        rw [hsecond, ih hopen₁ hapart.2 hboth fun m => (hunmoved m).trans (h m)]
        exact hunmoved m

/-! ## One export -/

/-- The images that an export of a store finds are all of them, the oldest first. -/
theorem rows_of_allImages {s : Store} {images : List (Entry Image)}
    (h : s.allImages = .ok images) :
    (rowsOf s.images).reverse = images.map fun e => ⟨e.id, .sound e.row⟩ := by
  unfold Store.allImages at h
  split at h
  · cases h
  next t ht =>
    have hrows := map_eq_of_read (f := id)
      (g := fun e : Entry Image => (⟨e.id, .sound e.row⟩ : Entry (Stored Image)))
      (fun e row hread => ?_) (Store.readAll_ok.1 h)
    · rw [ht, rowsOf_some, ← hrows, List.map_id]
    · obtain ⟨id, _ | columns⟩ := e
      · cases hread
        rfl
      · cases hread

/-- No two of the images that an export finds have one name. -/
theorem apart_of_allImages {s : Store} {images : List (Entry Image)}
    (h : s.allImages = .ok images) : images.Pairwise fun a b => a.row.name ≠ b.row.name := by
  have hrows := rows_of_allImages h
  have hlabels : (rowsOf s.images).Pairwise fun a b => Image.label a.row ≠ Image.label b.row := by
    cases s.images with
    | none => exact .nil
    | some t =>
      have hapart := List.pairwise_filterMap.1 t.apart
      exact hapart.imp fun hne heq => hne _ rfl _ rfl heq
  have hback := List.pairwise_reverse.2 (hlabels.imp Ne.symm)
  rw [hrows, List.pairwise_map] at hback
  exact hback.imp fun hne heq => hne (by simp only [Image.label, heq])

/-- What an export comes to: it fails before it writes anything, or it writes all images that are
found to directories that have been made. -/
theorem run_cases (s : Store) (directory : String) (fs : Files) :
    (writesTo s directory fs = [] ∧ (∀ n, (run s directory fs).1 ≠ .ok n)
        ∧ (run s directory fs).2 = (fs.makeDirectories directory).2
        ∧ ((fs.makeDirectories directory).1 = .ok () → ∃ fault, s.allImages = .error fault))
      ∨ ∃ images, s.allImages = .ok images ∧ (fs.makeDirectories directory).1 = .ok ()
        ∧ writesTo s directory fs = places directory images (fs.makeDirectories directory).2
        ∧ run s directory fs = writeAll directory 0 images (fs.makeDirectories directory).2 := by
  unfold run writesTo
  rcases fs.makeDirectories directory with ⟨fault | ⟨⟩, made⟩
  · exact .inl ⟨rfl, nofun, rfl, nofun⟩
  · cases hall : s.allImages with
    | error fault => exact .inl ⟨rfl, nofun, rfl, fun _ => ⟨fault, rfl⟩⟩
    | ok images => exact .inr ⟨images, rfl, rfl, rfl, rfl⟩

/-- An export of images that can be read writes all of them to a directory that can be made. -/
theorem run_of_allImages {s : Store} (hall : s.allImages = .ok images)
    (hmade : (fs.makeDirectories directory).1 = .ok ()) :
    writesTo s directory fs = places directory images (fs.makeDirectories directory).2
      ∧ run s directory fs = writeAll directory 0 images (fs.makeDirectories directory).2 := by
  rcases run_cases s directory fs with ⟨-, -, -, hfault⟩ | ⟨images', hall', -, hwrites, hrun⟩
  · obtain ⟨fault, hfault⟩ := hfault hmade
    rw [hall] at hfault
    cases hfault
  · obtain rfl : images = images' := Except.ok.inj (hall.symm.trans hall')
    exact ⟨hwrites, hrun⟩

/-- A directory that the images of a store can be written to. -/
structure Writable (s : Store) (directory : String) (fs : Files) : Prop where
  /-- It is there or can be made. -/
  made : (fs.makeDirectories directory).1 = .ok ()
  /-- The path of no image is too long for the system. -/
  short : ∀ x ∈ rowsOf s.images, ∀ image, x.row = .sound image →
    (join directory image.name).utf8ByteSize ≤ Files.pathLimit
  /-- Once it is there no directory in it has the name of an image. -/
  free : ∀ x ∈ rowsOf s.images, ∀ image, x.row = .sound image →
    (fs.makeDirectories directory).2.node? ((place directory).child image.name) ≠ some .directory

/-- An export of all images. -/
structure Complete (s : Store) (directory : String) (fs : Files) : Prop where
  /-- It tells how many images there are. -/
  counted : (run s directory fs).1 = .ok (rowsOf s.images).length
  /-- As many files are written as there are images. -/
  all : (writesTo s directory fs).length = (rowsOf s.images).length
  /-- Each image is written to the file in the directory that has its name, and is read there. -/
  written : ∀ x ∈ rowsOf s.images, ∃ image, x.row = .sound image
    ∧ (place directory).child image.name ∈ writesTo s directory fs
    ∧ (∃ program, (run s directory fs).2.node? ((place directory).child image.name)
      = some (.file image.data program))
    ∧ (run s directory fs).2.read (join directory image.name) = .ok image.data

/-- An export that stays in its directory. -/
structure Confined (s : Store) (directory : String) (fs : Files) : Prop where
  /-- What is written lies right in the directory, under the name of an image that leads nowhere
  else, and holds the image. -/
  direct : ∀ l ∈ writesTo s directory fs, ∃ x ∈ rowsOf s.images, ∃ image, x.row = .sound image
    ∧ isSafe image.name = true ∧ Direct image.name ∧ '\\' ∉ image.name.toList
    ∧ l = (place directory).child image.name
    ∧ ∃ program, (run s directory fs).2.node? l = some (.file image.data program)
  /-- No file is written twice. -/
  once : (writesTo s directory fs).Nodup
  /-- No two images have one file. -/
  apart : ∀ x ∈ rowsOf s.images, ∀ y ∈ rowsOf s.images, ∀ image image', x.row = .sound image →
    y.row = .sound image' →
      (place directory).child image.name = (place directory).child image'.name → x = y
  /-- Where nothing is written nothing changes, but for directories on the way that are made where
  nothing stood. -/
  elsewhere : ∀ l, l ∉ writesTo s directory fs →
    (run s directory fs).2.node? l = fs.node? l
      ∨ fs.node? l = none ∧ (run s directory fs).2.node? l = some .directory
        ∧ OnWay .here (Files.parts directory) l
  /-- Whatever there is that is not named after an image in the directory stays. -/
  untouched : ∀ l, (∀ x ∈ rowsOf s.images, ∀ image, x.row = .sound image →
    l ≠ (place directory).child image.name) →
      ∀ n, fs.node? l = some n → (run s directory fs).2.node? l = some n
  /-- A second export changes nothing. -/
  again : ∀ l, (run s directory (run s directory fs).2).2.node? l
    = (run s directory fs).2.node? l

/-- Where an export writes it puts an image, right into the directory and under its name. -/
theorem direct_of_mem_writesTo {s : Store} (h : l ∈ writesTo s directory fs) :
    ∃ x ∈ rowsOf s.images, ∃ image, x.row = .sound image ∧ isSafe image.name = true
      ∧ Direct image.name ∧ l = (place directory).child image.name
      ∧ ∃ program, (run s directory fs).2.node? l = some (.file image.data program) := by
  rcases run_cases s directory fs with ⟨hnone, -⟩ | ⟨images, hall, hmade, hwrites, hrun⟩
  · rw [hnone] at h
    exact absurd h List.not_mem_nil
  · rw [hwrites] at h
    obtain ⟨e, he, hsafe, hdirect, hl, hnode⟩ :=
      writeAll_places (n := 0) (Files.makeDirectories_opens hmade) h
    have hx : (⟨e.id, .sound e.row⟩ : Entry (Stored Image)) ∈ rowsOf s.images := by
      rw [← List.mem_reverse, rows_of_allImages hall]
      exact List.mem_map_of_mem he
    rw [hrun]
    exact ⟨_, hx, e.row, rfl, hsafe, hdirect, hl, hnode⟩

/-- Where an export does not write nothing changes, but for directories on the way. -/
theorem node?_of_not_mem_writesTo {s : Store} (h : l ∉ writesTo s directory fs) :
    (run s directory fs).2.node? l = fs.node? l
      ∨ fs.node? l = none ∧ (run s directory fs).2.node? l = some .directory
        ∧ OnWay .here (parts directory) l := by
  have hsame : (run s directory fs).2.node? l = (fs.makeDirectories directory).2.node? l := by
    rcases run_cases s directory fs with ⟨-, -, hrun, -⟩ | ⟨images, -, hmade, hwrites, hrun⟩
    · rw [hrun]
    · rw [hwrites] at h
      rw [hrun]
      exact writeAll_elsewhere (Files.makeDirectories_opens hmade) h
  rw [hsame]
  exact Files.makeDirectories_node? fs directory l

/-- A second export changes nothing. -/
theorem run_again (s : Store) (directory : String) (fs : Files) (l : Location) :
    (run s directory (run s directory fs).2).2.node? l = (run s directory fs).2.node? l := by
  rcases run_cases s directory fs with ⟨-, -, hrun, hfault⟩ | ⟨images, hall, hmade, -, hrun⟩
  · -- The first export has written nothing, and so does the second one.
    have hmade := Files.makeDirectories_again fs directory
    rw [hrun]
    rcases run_cases s directory (fs.makeDirectories directory).2 with
      ⟨-, -, hrun', -⟩ | ⟨images, hall, hmade', -⟩
    · rw [hrun', hmade]
    · obtain ⟨fault, hfault⟩ := hfault (Files.makeDirectories_isOk hmade')
      rw [hall] at hfault
      cases hfault
  · have hopen := Files.makeDirectories_opens hmade
    have hdirectories :=
      sameDirectories_writeAll directory 0 images (fs.makeDirectories directory).2
    have hagain := Files.makeDirectories_of_open hmade (hopen.mono fun k => (hdirectories k).1)
    rw [hrun]
    rcases run_cases s directory (writeAll directory 0 images (fs.makeDirectories directory).2).2
      with ⟨-, -, hrun', -⟩ | ⟨images', hall', -, -, hrun'⟩
    · rw [hrun', hagain]
    · obtain rfl : images = images' := by
        rw [hall] at hall'
        exact Except.ok.inj hall'
      rw [hrun', hagain]
      exact writeAll_again hopen (apart_of_allImages hall) hdirectories fun _ => rfl

/-- Every export stays in its directory, whatever the images are called. -/
theorem confined (s : Store) (directory : String) (fs : Files) : Confined s directory fs where
  direct l h := by
    obtain ⟨x, hx, image, hrow, hsafe, hdirect, hl, hnode⟩ := direct_of_mem_writesTo h
    exact ⟨x, hx, image, hrow, hsafe, hdirect, (not_mem_of_isSafe hsafe).2, hl, hnode⟩
  once := by
    rcases run_cases s directory fs with ⟨hnone, -⟩ | ⟨images, hall, hmade, hwrites, -⟩
    · rw [hnone]
      exact .nil
    · rw [hwrites]
      exact nodup_places (Files.makeDirectories_opens hmade) (apart_of_allImages hall)
  apart x hx y hy image image' hrow hrow' hchild := by
    obtain ⟨t, ht, hx⟩ := exists_of_mem_rowsOf hx
    rw [ht] at hy
    refine t.eq_of_label_eq hx hy rfl (congrArg some ?_)
    rw [hrow, hrow']
    simp only [Image.label, child_inj hchild]
  elsewhere l h := node?_of_not_mem_writesTo h
  untouched l h n hn := by
    have hnot : l ∉ writesTo s directory fs := by
      intro hmem
      obtain ⟨x, hx, image, hrow, -, -, hl, -⟩ := direct_of_mem_writesTo hmem
      exact h x hx image hrow hl
    rcases node?_of_not_mem_writesTo hnot with hsame | ⟨hnone, -⟩
    · rw [hsame, hn]
    · rw [hnone] at hn
      cases hn
  again l := run_again s directory fs l

/-! ## Names that are passed over by no export -/

/-- A name that can be written to every directory with room for it. -/
structure Ordinary (name : String) : Prop where
  /-- It is not passed over. -/
  safe : isSafe name = true
  /-- It is not empty. -/
  ne : name ≠ ""
  /-- It is not too long for the system. -/
  short : name.utf8ByteSize ≤ Files.nameLimit
  /-- No character of it ends a path. -/
  nul : '\x00' ∉ name.toList

/-- An ordinary name leads to a file right in the directory. -/
theorem Ordinary.direct {name : String} (h : Ordinary name) : Direct name where
  solidus := (not_mem_of_isSafe h.safe).1
  ne := h.ne
  here heq := absurd h.safe (by rw [heq]; decide)
  up heq := absurd h.safe (by rw [heq]; decide)

/-- The default avatar has an ordinary name. -/
theorem ordinary_default : Ordinary DefaultAvatar.name := by
  refine ⟨by decide, by decide, ?_, by decide⟩
  have hlower : (DefaultAvatar.name.toList.all fun c => c.toNat < 128) = true := by decide
  rw [Octets.utf8ByteSize_of_lt fun c hc => of_decide_eq_true (List.all_eq_true.1 hlower c hc)]
  decide

/-- A picture has an ordinary name. -/
theorem ordinary_imageName (data : Octets) {extension : String}
    (h : extension ∈ Avatar.extensions) : Ordinary (Avatar.imageName data extension) := by
  have hdigit : ∀ n < 16, Octets.hexDigit n ∉ ['/', '\\', '.', '\x00'] := by decide
  have hext : ∀ x ∈ Avatar.extensions, x.toList.length ≤ 5
      ∧ '/' ∉ x.toList ∧ '\\' ∉ x.toList ∧ '\x00' ∉ x.toList := by decide
  obtain ⟨hlength, hsolidus, hback, hnul⟩ := hext extension h
  have hlist : (Avatar.imageName data extension).toList
      = (Octets.toHex (Digest.Sha1.digest data)).toList ++ extension.toList := String.toList_append
  have hdigits := Avatar.length_hexDigest data
  have hplain : ∀ c ∈ (Octets.toHex (Digest.Sha1.digest data)).toList,
      c ∉ ['/', '\\', '.', '\x00'] := by
    intro c hc
    obtain ⟨n, hn, rfl⟩ := Octets.mem_toHex hc
    exact hdigit n hn
  have hnot : ∀ c ∈ ['/', '\\', '\x00'], c ∉ extension.toList →
      c ∉ (Avatar.imageName data extension).toList := by
    intro c hc hx hmem
    rw [hlist, List.mem_append] at hmem
    rcases hmem with hmem | hmem
    · have := hplain c hmem
      simp only [List.mem_cons, List.not_mem_nil, or_false] at hc
      rcases hc with rfl | rfl | rfl <;> simp at this
    · exact hx hmem
  obtain ⟨first, rest, hfirst⟩ :
      ∃ c rest, (Octets.toHex (Digest.Sha1.digest data)).toList = c :: rest :=
    List.exists_cons_of_length_pos (by omega)
  have hhead : (Avatar.imageName data extension).toList.head? = some first := by
    rw [hlist, hfirst]
    rfl
  refine ⟨?_, ?_, ?_, hnot _ (by simp) hnul⟩
  · have hstop : first ≠ '.' := fun heq =>
      hplain first (by rw [hfirst]; exact List.mem_cons_self) (by simp [heq])
    unfold isSafe
    rw [hhead]
    simp [hnot '/' (by simp) hsolidus, hnot '\\' (by simp) hback, hstop]
  · intro heq
    rw [heq] at hhead
    cases hhead
  · rw [Octets.utf8ByteSize_of_lt fun c hc => (Avatar.mem_imageName h hc).1, hlist,
      List.length_append]
    have hlimit : Files.nameLimit = 255 := rfl
    omega

/-- Where all images have ordinary names and can be read, a directory that can be written to takes
all of them. -/
theorem complete_of_ordinary {s : Store} (hread : ∃ images, s.allImages = .ok images)
    (hnames : ∀ x ∈ rowsOf s.images, ∀ image, x.row = .sound image → Ordinary image.name)
    (h : Writable s directory fs) : Complete s directory fs := by
  obtain ⟨images, hall⟩ := hread
  have hrows := rows_of_allImages hall
  have hopen := Files.makeDirectories_opens h.made
  have hrow : ∀ e ∈ images, (⟨e.id, .sound e.row⟩ : Entry (Stored Image)) ∈ rowsOf s.images := by
    intro e he
    rw [← List.mem_reverse, hrows]
    exact List.mem_map_of_mem he
  have hlocate : ∀ fs' : Files, fs'.Open .here (parts directory) → ∀ e ∈ images,
      fs'.locate (join directory e.row.name) = .ok ((place directory).child e.row.name) := by
    intro fs' hopen e he
    have hname := hnames _ (hrow e he) e.row rfl
    have hpath := Files.pathFault?_join (Files.makeDirectories_path h.made) hname.nul hname.ne
      (h.short _ (hrow e he) e.row rfl)
    exact Files.locate_join_of_short hopen hname.direct hname.short hpath
  have hwrite : ∀ e ∈ images, isSafe e.row.name = true ∧ ∃ fs',
      (fs.makeDirectories directory).2.write (join directory e.row.name) e.row.data
        = .ok fs' := by
    intro e he
    have hname := hnames _ (hrow e he) e.row rfl
    exact ⟨hname.safe, Files.write_isOk_iff.2 ⟨_, hlocate _ hopen e he,
      h.free _ (hrow e he) _ rfl, hname.direct.namesDirectory_join directory⟩⟩
  have hlength : (rowsOf s.images).length = images.length := by
    rw [← List.length_reverse, hrows, List.length_map]
  obtain ⟨hcount, hplaces⟩ := writeAll_complete (n := 0) hopen hwrite
  obtain ⟨hwrites, hrun⟩ := run_of_allImages hall h.made
  refine ⟨?_, ?_, fun x hx => ?_⟩
  · rw [hrun, hcount, hlength, Nat.zero_add]
  · rw [hwrites, hplaces, List.length_map, hlength]
  · rw [← List.mem_reverse, hrows] at hx
    obtain ⟨e, he, rfl⟩ := List.mem_map.1 hx
    have hmem : (place directory).child e.row.name
        ∈ places directory images (fs.makeDirectories directory).2 := by
      rw [hplaces]
      exact List.mem_map_of_mem he
    -- The file holds the image that was written last, and no other image has the name.
    obtain ⟨e', he', -, -, hchild, program, hnode⟩ := writeAll_places (n := 0) hopen hmem
    obtain rfl : e' = e := by
      have hapart := (confined s directory fs).apart _ (hrow e' he') _ (hrow e he) _ _ rfl rfl
        hchild.symm
      obtain ⟨id, row⟩ := e
      obtain ⟨id', row'⟩ := e'
      cases hapart
      rfl
    rw [hwrites, hrun]
    refine ⟨e'.row, rfl, hmem, ⟨program, hnode⟩, Files.read_eq_ok_iff.2 ⟨_, program, ?_, hnode, ?_⟩⟩
    · exact hlocate _ (hopen.mono fun k => (sameDirectories_writeAll _ _ _ _ k).1) e' he
    · exact (hnames _ (hrow e' he) e'.row rfl).direct.namesDirectory_join directory

/-- After every run of requests the images have ordinary names. -/
theorem ordinary_of_run {now : String} {calls : List Call} {x : Entry (Stored Image)}
    {image : Image} (hx : x ∈ rowsOf (storeAfter now calls).images) (hrow : x.row = .sound image) :
    Ordinary image.name := by
  rcases (pictures_addressed now calls).named x hx with
    hdefault | ⟨extension, hext, data, hpicture, -⟩
  · rw [hrow] at hdefault
    obtain rfl := Stored.sound.inj hdefault
    exact ordinary_default
  · rw [hrow] at hpicture
    obtain rfl := Stored.sound.inj hpicture
    exact ordinary_imageName data hext

/-- Every export stays in its directory, and after a run of requests it leaves no image out. -/
theorem icons_exported (now : String) (calls : List Call) (s : Store) (directory : String)
    (fs : Files) :
    (Writable (storeAfter now calls) directory fs → Complete (storeAfter now calls) directory fs)
      ∧ Confined s directory fs := by
  refine ⟨fun h => complete_of_ordinary ?_ (fun x hx image => ordinary_of_run hx) h,
    confined s directory fs⟩
  obtain ⟨t, ht, hsound⟩ := (storeAfter_sound now calls).images
  unfold Store.allImages
  rw [ht]
  exact Store.readAll_isOk .images fun e he => hsound.readable e (List.mem_reverse.1 he)

/-- A directory is made for the images of a run with a picture. -/
theorem writable_dressed :
    Writable (storeAfter Sample.opened [Sample.dresses, Sample.signsUp]) "icons" .empty := by
  have hmade : Files.empty.makeDirectories "icons"
      = (.ok (), ⟨[(⟨1, ["icons"], rfl⟩, .directory)]⟩) := by
    decide +kernel
  have hplace : place "icons" = ⟨1, ["icons"], rfl⟩ := by decide +kernel
  refine ⟨by rw [hmade], fun x hx image hrow => ?_, fun x hx image hrow => ?_⟩
  · have hjoin : join "icons" image.name = "icons" ++ "/" ++ image.name :=
      if_neg (by decide +kernel)
    have hname := (ordinary_of_run hx hrow).short
    have hfirst : ("icons" ++ "/").utf8ByteSize = 6 := by decide +kernel
    have hlimits : Files.nameLimit = 255 ∧ Files.pathLimit = 4095 := ⟨rfl, rfl⟩
    rw [hjoin, String.utf8ByteSize_append]
    omega
  · rw [hmade, hplace, Files.node?_child_of_single]
    exact nofun

/-- The directory takes the images of the run, and a second export changes nothing. -/
theorem icons_exported_dressed :
    Complete (storeAfter Sample.opened [Sample.dresses, Sample.signsUp]) "icons" .empty
      ∧ Confined (storeAfter Sample.opened [Sample.dresses, Sample.signsUp]) "icons" .empty :=
  have h := icons_exported Sample.opened [Sample.dresses, Sample.signsUp]
    (storeAfter Sample.opened [Sample.dresses, Sample.signsUp]) "icons" .empty
  ⟨h.1 writable_dressed, h.2⟩

end ChatBoard.IconExport
