import ChatBoard.Files

/-!
# Files that come and go

A path leads through directories, so a file that comes or goes does not change where a path leads
(`Files.follow_of_directories`). What is told of a path here is told of paths where nothing stands
or a file does (`Files.Plain`): nothing is read there once the file is gone (`Files.read_without`),
what is written there is read back (`Files.read_of_write`), and it goes without a trace
(`Files.without_of_write`). Writing and removing a file change nothing elsewhere
(`Files.SameElsewhere`).
-/

namespace ChatBoard.Files

variable {fs fs' : Files} {l m : Location} {n : Node} {path : String} {data : Octets}

/-! ## Nodes -/

/-- The nodes that are not at a location are found as before, and none is found there. -/
theorem lookup_filter (nodes : List (Location × Node)) (l m : Location) :
    (nodes.filter fun e => e.1 != l).lookup m = if m = l then none else nodes.lookup m := by
  induction nodes with
  | nil => exact (ite_self none).symm
  | cons e rest ih =>
    obtain ⟨k, n⟩ := e
    by_cases hkl : k = l
    · rw [List.filter_cons_of_neg (by simp [hkl]), ih]
      by_cases hml : m = l
      · rw [if_pos hml, if_pos hml]
      · have hne : (m == k) = false := by simp [hkl, hml]
        rw [if_neg hml, if_neg hml, List.lookup_cons, hne]
    · rw [List.filter_cons_of_pos (by simp [hkl]), List.lookup_cons, List.lookup_cons, ih]
      by_cases hmk : m = k
      · have hml : m ≠ l := hmk ▸ hkl
        rw [if_neg hml, if_neg hml]
      · have hne : (m == k) = false := by simp [hmk]
        rw [hne]

/-- Where no node is found at a location, leaving it out changes nothing. -/
theorem filter_of_lookup {nodes : List (Location × Node)} (h : nodes.lookup l = none) :
    (nodes.filter fun e => e.1 != l) = nodes := by
  rw [List.filter_eq_self]
  intro e he
  rw [bne_iff_ne]
  intro heq
  have hne : (l != e.1) = true := List.lookup_eq_none_iff.1 h e he
  simp [heq] at hne

/-- The working directory is always there. -/
theorem ne_here_of_node? (h : fs.node? l ≠ some .directory) : l ≠ .here :=
  fun hhere => h (if_pos hhere)

/-- What stands at the locations after a node has been put at one of them. -/
theorem node?_put (h : l ≠ .here) :
    (fs.put l n).node? m = if m = l then some n else fs.node? m := by
  unfold node? put
  by_cases hml : m = l
  · rw [if_pos hml, if_neg (hml ▸ h), List.lookup_cons, beq_iff_eq.2 hml]
  · have hne : (m == l) = false := by simp [hml]
    rw [if_neg hml, List.lookup_cons, hne, lookup_filter, if_neg hml]

/-- What stands at the locations after one of them has been cleared. -/
theorem node?_erase (h : l ≠ .here) :
    (fs.erase l).node? m = if m = l then none else fs.node? m := by
  unfold node? erase
  by_cases hml : m = l
  · rw [if_pos hml, if_neg (hml ▸ h), lookup_filter, if_pos hml]
  · rw [if_neg hml, lookup_filter, if_neg hml]

/-- Where nothing stands there is nothing to clear. -/
theorem erase_of_none (h : fs.node? l = none) : fs.erase l = fs := by
  have hhere : l ≠ .here := ne_here_of_node? (by rw [h]; exact nofun)
  have hnone : fs.nodes.lookup l = none := by
    unfold node? at h
    rwa [if_neg hhere] at h
  unfold erase
  rw [filter_of_lookup hnone]

/-- A node that is put in the place of another one goes as that one would have gone. -/
theorem erase_put (fs : Files) (l : Location) (n : Node) :
    (fs.put l n).erase l = fs.erase l := by
  unfold erase put
  rw [List.filter_cons_of_neg (by simp), List.filter_filter]
  simp

/-! ## Paths -/

/-- Where all directories are still there, parts still lead to where they have led. -/
theorem follow_of_directories
    (h : ∀ k, fs.node? k = some .directory → fs'.node? k = some .directory) (parts : List String)
    (l : Location) (hfollow : fs.follow l parts = .ok m) : fs'.follow l parts = .ok m := by
  induction parts generalizing l with
  | nil => exact hfollow
  | cons part rest ih =>
    cases rest with
    | nil => exact hfollow
    | cons next rest =>
      unfold follow at hfollow ⊢
      split at hfollow
      · cases hfollow
      next hlength =>
        rw [if_neg hlength]
        split at hfollow
        · cases hfollow
        · cases hfollow
        next hdirectory =>
          rw [h _ hdirectory]
          exact ih _ hfollow

/-- Where all directories are still there, a path still leads to where it has led. -/
theorem locate_of_directories
    (h : ∀ k, fs.node? k = some .directory → fs'.node? k = some .directory)
    (hlocate : fs.locate path = .ok l) : fs'.locate path = .ok l := by
  unfold locate at hlocate ⊢
  split at hlocate
  · cases hlocate
  · exact follow_of_directories h _ _ hlocate

/-- A path still leads to a place where no directory stands after a file has been put there. -/
theorem locate_put (h : fs.locate path = .ok l) (hplain : fs.node? l ≠ some .directory) :
    (fs.put l n).locate path = .ok l := by
  refine locate_of_directories (fun k hk => ?_) h
  have hne : k ≠ l := fun heq => hplain (heq ▸ hk)
  rw [node?_put (ne_here_of_node? hplain), if_neg hne, hk]

/-- A path still leads to a place where no directory stands after the place has been cleared. -/
theorem locate_erase (h : fs.locate path = .ok l) (hplain : fs.node? l ≠ some .directory) :
    (fs.erase l).locate path = .ok l := by
  refine locate_of_directories (fun k hk => ?_) h
  have hne : k ≠ l := fun heq => hplain (heq ▸ hk)
  rw [node?_erase (ne_here_of_node? hplain), if_neg hne, hk]

/-! ## Reading, writing and removing -/

/-- Nothing stands at a path, or a file. -/
def Plain (path : String) (fs : Files) : Prop :=
  ∀ cause, fs.read path = .error cause → cause = .notFound

/-- The files without the one at a path, if one stands there. -/
def without (path : String) (fs : Files) : Files :=
  match fs.remove path with
  | .ok fs => fs
  | .error _ => fs

/-- Nothing is read at a path if it leads nowhere, or if nothing stands where it leads. -/
theorem read_eq_notFound_iff : fs.read path = .error .notFound
    ↔ fs.locate path = .error .notFound ∨ ∃ l, fs.locate path = .ok l ∧ fs.node? l = none := by
  unfold read
  cases hlocate : fs.locate path with
  | error fault => simp
  | ok l =>
    cases hnode : fs.node? l with
    | none => simp [hnode]
    | some node =>
      cases node with
      | directory => simp [hnode]
      | file data program =>
        by_cases hdirectory : namesDirectory path = true
        · simp [hnode, hdirectory]
        · simp [hnode, hdirectory]

/-- A content is read at a path if it leads to a file. -/
theorem read_eq_ok_iff : fs.read path = .ok data ↔ ∃ l program, fs.locate path = .ok l
    ∧ fs.node? l = some (.file data program) ∧ namesDirectory path = false := by
  unfold read
  cases hlocate : fs.locate path with
  | error fault => simp
  | ok l =>
    cases hnode : fs.node? l with
    | none => simp [hnode]
    | some node =>
      cases node with
      | directory => simp [hnode]
      | file content program =>
        by_cases hdirectory : namesDirectory path = true
        · simp [hnode, hdirectory]
        · cases program <;> simp [hnode, hdirectory]

/-- Where nothing is read there is nothing to remove. -/
theorem remove_of_notFound (h : fs.read path = .error .notFound) :
    fs.remove path = .error .notFound := by
  unfold remove
  obtain hnowhere | ⟨l, hlocate, hnode⟩ := read_eq_notFound_iff.1 h
  · rw [hnowhere]
  · rw [hlocate]
    dsimp only
    rw [hnode]

/-- A file that can be read can be removed. -/
theorem remove_of_read (h : fs.read path = .ok data) :
    ∃ l program, fs.locate path = .ok l ∧ fs.node? l = some (.file data program)
      ∧ fs.remove path = .ok (fs.erase l) := by
  obtain ⟨l, program, hlocate, hnode, hdirectory⟩ := read_eq_ok_iff.1 h
  refine ⟨l, program, hlocate, hnode, ?_⟩
  unfold remove
  rw [hlocate]
  dsimp only
  rw [hnode]
  exact if_neg (by simp [hdirectory])

/-- Where nothing is read there is nothing to go without. -/
theorem without_of_notFound (h : fs.read path = .error .notFound) : fs.without path = fs := by
  unfold without
  rw [remove_of_notFound h]

/-- Nothing is read at a path after the file there is gone. -/
theorem read_without (h : fs.Plain path) : (fs.without path).read path = .error .notFound := by
  cases hread : fs.read path with
  | error cause =>
    have hnone : fs.read path = .error .notFound := by rw [hread, h cause hread]
    rwa [without_of_notFound hnone]
  | ok data =>
    obtain ⟨l, program, hlocate, hnode, hremove⟩ := remove_of_read hread
    have hplain : fs.node? l ≠ some .directory := by simp [hnode]
    unfold without
    rw [hremove]
    refine read_eq_notFound_iff.2 (.inr ⟨l, locate_erase hlocate hplain, ?_⟩)
    rw [node?_erase (ne_here_of_node? hplain), if_pos rfl]

/-- A file is written where a path leads to no directory. -/
theorem write_eq_ok (h : fs.write path data = .ok fs') : ∃ l program, fs.locate path = .ok l
    ∧ fs.node? l ≠ some .directory ∧ namesDirectory path = false
    ∧ fs' = fs.put l (.file data program) := by
  unfold write at h
  split at h
  · cases h
  next l hlocate =>
    split at h
    next hnode =>
      split at h
      · cases h
      next hdirectory =>
        cases h
        exact ⟨l, false, hlocate, by simp [hnode], by simpa using hdirectory, rfl⟩
    · cases h
    next content program hnode =>
      split at h
      · cases h
      next hdirectory =>
        cases h
        exact ⟨l, program, hlocate, by simp [hnode], by simpa using hdirectory, rfl⟩

/-- What is written at a path is read there. -/
theorem read_of_write (h : fs.write path data = .ok fs') : fs'.read path = .ok data := by
  obtain ⟨l, program, hlocate, hplain, hdirectory, rfl⟩ := write_eq_ok h
  refine read_eq_ok_iff.2 ⟨l, program, locate_put hlocate hplain, ?_, hdirectory⟩
  rw [node?_put (ne_here_of_node? hplain), if_pos rfl]

/-- A file that has been written goes as what stood there before would have gone. -/
theorem without_of_write (h : fs.write path data = .ok fs') :
    fs'.without path = fs.without path := by
  obtain ⟨l', program', hlocate', -, hremove⟩ := remove_of_read (read_of_write h)
  obtain ⟨l, program, hlocate, hplain, hdirectory, rfl⟩ := write_eq_ok h
  have hsame : l' = l := by
    rw [locate_put hlocate hplain] at hlocate'
    exact (Except.ok.inj hlocate').symm
  have hgone : (fs.put l (.file data program)).without path = fs.erase l := by
    unfold without
    rw [hremove, hsame]
    exact erase_put fs l _
  rw [hgone]
  cases hnode : fs.node? l with
  | none =>
    have hnone := read_eq_notFound_iff.2 (.inr ⟨l, hlocate, hnode⟩)
    rw [without_of_notFound hnone, erase_of_none hnode]
  | some node =>
    cases node with
    | directory => exact absurd hnode hplain
    | file content runs =>
      have hread := read_eq_ok_iff.2 ⟨l, runs, hlocate, hnode, hdirectory⟩
      obtain ⟨k, -, hk, -, hremove⟩ := remove_of_read hread
      rw [hlocate] at hk
      cases hk
      unfold without
      rw [hremove]

/-! ## Elsewhere -/

/-- A path leads where it has led, and what stands elsewhere is as it was. -/
structure SameElsewhere (path : String) (fs fs' : Files) : Prop where
  locate : fs'.locate path = fs.locate path
  node : ∀ l, fs.locate path ≠ .ok l → fs'.node? l = fs.node? l

/-- Nothing has changed if nothing has been done. -/
theorem SameElsewhere.refl (path : String) (fs : Files) : SameElsewhere path fs fs :=
  ⟨rfl, fun _ _ => rfl⟩

/-- What is the same after each of two changes is the same after both. -/
theorem SameElsewhere.trans {fs'' : Files} (h : SameElsewhere path fs fs')
    (h' : SameElsewhere path fs' fs'') : SameElsewhere path fs fs'' where
  locate := h'.locate.trans h.locate
  node l hl := (h'.node l (h.locate ▸ hl)).trans (h.node l hl)

/-- Writing a file changes nothing elsewhere. -/
theorem sameElsewhere_write (h : fs.write path data = .ok fs') : SameElsewhere path fs fs' := by
  obtain ⟨l, program, hlocate, hplain, -, rfl⟩ := write_eq_ok h
  refine ⟨(locate_put hlocate hplain).trans hlocate.symm, fun m hm => ?_⟩
  have hne : m ≠ l := fun heq => hm (heq ▸ hlocate)
  rw [node?_put (ne_here_of_node? hplain), if_neg hne]

/-- Removing a file changes nothing elsewhere. -/
theorem sameElsewhere_remove (h : fs.remove path = .ok fs') : SameElsewhere path fs fs' := by
  unfold remove at h
  split at h
  · cases h
  next l hlocate =>
    split at h
    · cases h
    · cases h
    next hnode =>
      split at h
      · cases h
      · cases h
        have hplain : fs.node? l ≠ some .directory := by simp [hnode]
        refine ⟨(locate_erase hlocate hplain).trans hlocate.symm, fun m hm => ?_⟩
        have hne : m ≠ l := fun heq => hm (heq ▸ hlocate)
        rw [node?_erase (ne_here_of_node? hplain), if_neg hne]

end ChatBoard.Files
