import ChatBoard.Proofs.Files

/-!
# Directories and the files directly in them

A directory that has been made is open on the whole way (`Files.makeWay_opens`), and the parts of a
path that goes on by one name are the parts of the directory and the name
(`Files.parts_join`). So such a path leads to the child of the directory with the name
(`Files.locate_join`), whatever else has been written meanwhile. Making a directory puts directories
where nothing stood and changes nothing else (`Files.makeWay_node?`), and making it again changes
nothing at all (`Files.makeDirectories_again`).
-/

namespace ChatBoard.Files

variable {fs fs' : Files} {l m : Location} {n : Node} {path directory name : String}
  {data : Octets}

/-! ## The way to a directory -/

/-- Where a path leads if every directory on its way is there. -/
def place (path : String) : Location := (parts path).foldl step .here

/-- A location is on the way along parts: some of the parts lead to it. -/
def OnWay (l : Location) (parts : List String) (m : Location) : Prop :=
  ∃ first, first ≠ [] ∧ first <+: parts ∧ m = first.foldl step l

/-- All parts lead to directories, one after the other. -/
def Open (fs : Files) (l : Location) : List String → Prop
  | [] => True
  | part :: rest => part.utf8ByteSize ≤ nameLimit ∧ fs.node? (step l part) = some .directory
      ∧ fs.Open (step l part) rest

/-- A way stays open as long as no directory goes. -/
theorem Open.mono (h : ∀ k, fs.node? k = some .directory → fs'.node? k = some .directory)
    {parts : List String} (hopen : fs.Open l parts) : fs'.Open l parts := by
  induction parts generalizing l with
  | nil => trivial
  | cons part rest ih =>
    obtain ⟨hlength, hnode, hrest⟩ := hopen
    exact ⟨hlength, h _ hnode, ih hrest⟩

/-- One more name after an open way is looked for in the directory at its end. -/
theorem Open.follow_append {parts : List String} (hopen : fs.Open l parts) (name : String) :
    fs.follow l (parts ++ [name]) = if name.utf8ByteSize > nameLimit then .error .nameTooLong
      else .ok (step (parts.foldl step l) name) := by
  induction parts generalizing l with
  | nil => rfl
  | cons part rest ih =>
    obtain ⟨hlength, hnode, hrest⟩ := hopen
    obtain ⟨next, more, hmore⟩ : ∃ next more, rest ++ [name] = next :: more :=
      List.exists_cons_of_ne_nil (List.append_ne_nil_of_right_ne_nil _ (List.cons_ne_nil _ _))
    have hrec := ih hrest
    rw [hmore] at hrec
    rw [List.cons_append, hmore, Files.follow, if_neg (Nat.not_lt.2 hlength), hnode]
    exact hrec

/-! ## Making the way -/

/-- What stands at the locations after a node has been put where nothing stood. -/
theorem node?_putNew (hnone : fs.node? l = none) (n : Node) (m : Location) :
    (fs.putNew l n).node? m = if m = l then some n else fs.node? m := by
  have h : l ≠ .here := ne_here_of_node? (by rw [hnone]; exact nofun)
  unfold node? putNew
  by_cases hml : m = l
  · rw [if_pos hml, if_neg (hml ▸ h), List.lookup_cons, beq_iff_eq.2 hml]
  · have hne : (m == l) = false := by simp [hml]
    rw [if_neg hml, List.lookup_cons, hne]

/-- What has been put where nothing stood takes no place of what was there. -/
theorem node?_putNew_of_some (hnone : fs.node? l = none) (h : fs.node? m = some n) {k : Node} :
    (fs.putNew l k).node? m = some n := by
  have hne : m ≠ l := fun heq => by simp [heq, hnone] at h
  rw [node?_putNew hnone, if_neg hne, h]

/-- Making a way leaves what is there. -/
theorem makeWay_kept (made : Bool) (l : Location) (parts : List String)
    (h : fs.node? m = some n) : (makeWay made l parts fs).2.node? m = some n := by
  induction parts generalizing made l fs with
  | nil => exact h
  | cons part rest ih =>
    unfold makeWay
    split
    · exact h
    · split
      next hnone => exact ih _ _ (node?_putNew_of_some hnone h)
      · exact ih _ _ h
      · exact h

/-- Making a way puts directories on the way where nothing stood, and changes nothing else. -/
theorem makeWay_node? (made : Bool) (l : Location) (parts : List String) (fs : Files)
    (m : Location) : (makeWay made l parts fs).2.node? m = fs.node? m
      ∨ fs.node? m = none ∧ (makeWay made l parts fs).2.node? m = some .directory
        ∧ OnWay l parts m := by
  -- What is on the way from the next location is on the way from here.
  have hlater : ∀ {part : String} {rest : List String} {l : Location},
      OnWay (step l part) rest m → OnWay l (part :: rest) m := by
    rintro part rest l ⟨first, -, hfirst, rfl⟩
    exact ⟨part :: first, List.cons_ne_nil _ _, List.cons_prefix_cons.2 ⟨rfl, hfirst⟩, rfl⟩
  induction parts generalizing made l fs with
  | nil => exact .inl rfl
  | cons part rest ih =>
    unfold makeWay
    split
    · exact .inl rfl
    · split
      next hnone =>
        have hput := node?_putNew hnone .directory m
        by_cases hm : m = step l part
        · rw [if_pos hm] at hput
          have hway : OnWay l (part :: rest) m :=
            ⟨[part], List.cons_ne_nil _ _, List.cons_prefix_cons.2 ⟨rfl, List.nil_prefix⟩, hm⟩
          exact .inr ⟨hm ▸ hnone, makeWay_kept _ _ _ hput, hway⟩
        · rw [if_neg hm] at hput
          rcases ih true (step l part) (fs.putNew (step l part) .directory) with
            hsame | ⟨hbefore, hafter, hway⟩
          · exact .inl (hsame.trans hput)
          · exact .inr ⟨hput ▸ hbefore, hafter, hlater hway⟩
      · rcases ih made (step l part) fs with hsame | ⟨hbefore, hafter, hway⟩
        · exact .inl hsame
        · exact .inr ⟨hbefore, hafter, hlater hway⟩
      · exact .inl rfl

/-- A way that has been made is open. -/
theorem makeWay_opens {made : Bool} {parts : List String}
    (h : (makeWay made l parts fs).1 = .ok ()) : (makeWay made l parts fs).2.Open l parts := by
  induction parts generalizing made l fs with
  | nil => trivial
  | cons part rest ih =>
    unfold makeWay at h ⊢
    split at h
    · cases h
    next hlength =>
      rw [if_neg hlength]
      split at h
      next hnone =>
        have hput := node?_putNew hnone .directory (step l part)
        rw [if_pos rfl] at hput
        exact ⟨Nat.not_lt.1 hlength, makeWay_kept _ _ _ hput, ih h⟩
      next hdirectory =>
        exact ⟨Nat.not_lt.1 hlength, makeWay_kept _ _ _ hdirectory, ih h⟩
      · cases h

/-- On an open way there is nothing to make. -/
theorem makeWay_of_open {made : Bool} {parts : List String} (h : fs.Open l parts) :
    makeWay made l parts fs = (.ok (), fs) := by
  induction parts generalizing l with
  | nil => rfl
  | cons part rest ih =>
    obtain ⟨hlength, hnode, hrest⟩ := h
    rw [makeWay, if_neg (Nat.not_lt.2 hlength), hnode]
    exact ih hrest

/-- A way that has been made as far as it can be is not made any further. -/
theorem makeWay_again (made again : Bool) (l : Location) (parts : List String) (fs : Files) :
    (makeWay again l parts (makeWay made l parts fs).2).2 = (makeWay made l parts fs).2 := by
  induction parts generalizing made again l fs with
  | nil => rfl
  | cons part rest ih =>
    by_cases hlength : part.utf8ByteSize > nameLimit
    · simp only [makeWay, if_pos hlength]
    · cases hnode : fs.node? (step l part) with
      | none =>
        have hput := node?_putNew hnode .directory (step l part)
        rw [if_pos rfl] at hput
        have hthere := makeWay_kept true (step l part) rest hput
        have hfirst : makeWay made l (part :: rest) fs
            = makeWay true (step l part) rest (fs.putNew (step l part) .directory) := by
          rw [makeWay, if_neg hlength, hnode]
        rw [hfirst, makeWay, if_neg hlength, hthere]
        exact ih true again (step l part) _
      | some node =>
        cases node with
        | directory =>
          have hthere := makeWay_kept made (step l part) rest hnode
          have hfirst : makeWay made l (part :: rest) fs = makeWay made (step l part) rest fs := by
            rw [makeWay, if_neg hlength, hnode]
          rw [hfirst, makeWay, if_neg hlength, hthere]
          exact ih made again (step l part) _
        | file data program =>
          simp only [makeWay, if_neg hlength, hnode]

/-- A way that is open after it was to be made has been made. -/
theorem makeWay_isOk {made : Bool} {parts : List String}
    (h : (makeWay made l parts fs).2.Open l parts) : (makeWay made l parts fs).1 = .ok () := by
  induction parts generalizing made l fs with
  | nil => rfl
  | cons part rest ih =>
    obtain ⟨hlength, hnode, hrest⟩ := h
    rw [makeWay, if_neg (Nat.not_lt.2 hlength)] at hnode hrest ⊢
    split
    next hnone =>
      rw [hnone] at hrest
      exact ih hrest
    next hdirectory =>
      rw [hdirectory] at hrest
      exact ih hrest
    next hfile =>
      rw [hfile] at hnode
      dsimp only at hnode
      rw [hfile] at hnode
      cases hnode

/-! ## Making directories -/

/-- Directories that have been made are open on the whole way. -/
theorem makeDirectories_opens (h : (fs.makeDirectories directory).1 = .ok ()) :
    (fs.makeDirectories directory).2.Open .here (parts directory) := by
  unfold makeDirectories at h ⊢
  split at h
  next hempty =>
    obtain rfl := String.isEmpty_iff.1 hempty
    exact trivial
  next hsome =>
    rw [if_neg hsome]
    split at h
    · cases h
    · exact makeWay_opens h

/-- Where directories could be made, the path of them is none that cannot be followed. -/
theorem makeDirectories_path (h : (fs.makeDirectories directory).1 = .ok ()) :
    '\x00' ∉ directory.toList := by
  unfold makeDirectories at h
  split at h
  next hempty =>
    obtain rfl := String.isEmpty_iff.1 hempty
    exact List.not_mem_nil
  · unfold pathFault? at h
    split at h
    · cases h
    next hfault =>
      split at hfault
      · cases hfault
      next hnul => simpa using hnul

/-- Making directories puts directories on the way where nothing stood, and changes nothing else. -/
theorem makeDirectories_node? (fs : Files) (directory : String) (m : Location) :
    (fs.makeDirectories directory).2.node? m = fs.node? m
      ∨ fs.node? m = none ∧ (fs.makeDirectories directory).2.node? m = some .directory
        ∧ OnWay .here (parts directory) m := by
  unfold makeDirectories
  split
  · exact .inl rfl
  · split
    · exact .inl rfl
    · exact makeWay_node? _ _ _ _ _

/-- Where the way to directories is open, whatever else there is, they are made without a change. -/
theorem makeDirectories_of_open (h : (fs.makeDirectories directory).1 = .ok ())
    (hopen : fs'.Open .here (parts directory)) : fs'.makeDirectories directory = (.ok (), fs') := by
  unfold makeDirectories at h ⊢
  split
  · rfl
  next hsome =>
    rw [if_neg hsome] at h
    split at h
    · cases h
    · exact makeWay_of_open hopen

/-- Directories that have been made as far as they can be are not made any further. -/
theorem makeDirectories_again (fs : Files) (directory : String) :
    ((fs.makeDirectories directory).2.makeDirectories directory).2
      = (fs.makeDirectories directory).2 := by
  unfold makeDirectories
  by_cases hempty : directory.isEmpty = true
  · rw [if_pos hempty, if_pos hempty]
  · rw [if_neg hempty]
    cases hfault : pathFault? directory with
    | some fault => simp only [if_neg hempty]
    | none =>
      simp only [if_neg hempty]
      exact makeWay_again _ _ _ _ _

/-- What could not be made before cannot be made where nothing but that has been tried. -/
theorem makeDirectories_isOk (h : ((fs.makeDirectories directory).2.makeDirectories directory).1
    = .ok ()) : (fs.makeDirectories directory).1 = .ok () := by
  have hopen := makeDirectories_opens h
  rw [makeDirectories_again] at hopen
  unfold makeDirectories at h hopen ⊢
  by_cases hempty : directory.isEmpty = true
  · rw [if_pos hempty]
  · rw [if_neg hempty] at h hopen ⊢
    cases hfault : pathFault? directory with
    | some fault =>
      simp only [hfault, if_neg hempty] at h
      cases h
    | none =>
      rw [hfault] at hopen
      exact makeWay_isOk hopen

/-! ## Names inside a directory -/

/-- A name of one part that is no way to stay or to go up. -/
structure Direct (name : String) : Prop where
  /-- It has no separator. -/
  solidus : '/' ∉ name.toList
  /-- It is not empty. -/
  ne : name ≠ ""
  /-- It is not the directory itself. -/
  here : name ≠ "."
  /-- It is not the directory around. -/
  up : name ≠ ".."

/-- A name without a solidus is one part. -/
theorem rawParts_of_not_mem (h : '/' ∉ name.toList) : rawParts name = [name] := by
  unfold rawParts
  rw [List.splitOn_eq_singleton h, List.map_singleton, String.ofList_toList]

/-- The parts of two texts with a solidus between them are those of the one and of the other. -/
theorem rawParts_append (first second : String) :
    rawParts (first ++ "/" ++ second) = rawParts first ++ rawParts second := by
  have hlist : (first ++ "/" ++ second).toList = first.toList ++ '/' :: second.toList := by
    rw [String.toList_append, String.toList_append]
    exact List.append_assoc _ _ _
  unfold rawParts
  rw [hlist, List.splitOn_append_cons_self, List.map_append]

/-- A path inside a directory has a name for its last part, after the parts of the directory. -/
theorem rawParts_join (directory : String) (h : '/' ∉ name.toList) :
    ∃ before, rawParts (join directory name) = before ++ [name]
      ∧ before.filter (fun p => p != "" && p != ".") = parts directory := by
  unfold join
  split
  next hend =>
    rw [Bool.or_eq_true] at hend
    rcases hend with hempty | hsolidus
    · obtain rfl := String.isEmpty_iff.1 hempty
      exact ⟨[], by rw [String.empty_append, rawParts_of_not_mem h]; rfl, rfl⟩
    · -- The solidus at the end of the directory is the one before the name.
      rw [String.endsWith_eq_endsWith_toSlice, String.Slice.endsWith_string_iff,
        String.copy_toSlice] at hsolidus
      obtain ⟨first, hfirst⟩ := hsolidus
      obtain rfl : String.ofList first ++ "/" = directory := by
        rw [← String.toList_inj, String.toList_append, String.toList_ofList, hfirst]
      refine ⟨rawParts (String.ofList first), ?_, ?_⟩
      · rw [rawParts_append, rawParts_of_not_mem h]
      · have hparts := rawParts_append (String.ofList first) ""
        rw [String.append_empty] at hparts
        unfold parts
        rw [hparts, List.filter_append]
        exact (List.append_nil _).symm
  · exact ⟨rawParts directory, by rw [rawParts_append, rawParts_of_not_mem h], rfl⟩

/-- The parts of a path inside a directory. -/
theorem parts_join (directory : String) (h : Direct name) :
    parts (join directory name) = parts directory ++ [name] := by
  obtain ⟨before, hraw, hbefore⟩ := rawParts_join directory h.solidus
  have hname : (name != "" && name != ".") = true := by
    rw [Bool.and_eq_true, bne_iff_ne, bne_iff_ne]
    exact ⟨h.ne, h.here⟩
  have hkept := List.filter_cons_of_pos (p := fun p => p != "" && p != ".") (l := []) hname
  unfold parts at hbefore ⊢
  rw [hraw, List.filter_append, hbefore, hkept, List.filter_nil]

/-- A path inside a directory can only name a directory if its name is a way to stay or to go up. -/
theorem namesDirectory_join (directory : String) (h : '/' ∉ name.toList) :
    namesDirectory (join directory name) = (name == "" || name == "." || name == "..") := by
  obtain ⟨before, hraw, -⟩ := rawParts_join directory h
  unfold namesDirectory
  rw [hraw, List.getLast?_concat]
  rfl

/-- A name of one part can be that of a file. -/
theorem Direct.namesDirectory_join (h : Direct name) (directory : String) :
    namesDirectory (join directory name) = false := by
  rw [Files.namesDirectory_join directory h.solidus]
  simp [h.ne, h.here, h.up]

/-- A path inside a directory can be followed if it is not too long and no part of it ends it. -/
theorem pathFault?_join (hdirectory : '\x00' ∉ directory.toList) (hname : '\x00' ∉ name.toList)
    (hne : name ≠ "") (hshort : (join directory name).utf8ByteSize ≤ pathLimit) :
    pathFault? (join directory name) = none := by
  have hnul : '\x00' ∉ (join directory name).toList := by
    unfold join
    split
    · rw [String.toList_append, List.mem_append, not_or]
      exact ⟨hdirectory, hname⟩
    · rw [String.toList_append, String.toList_append, List.mem_append, List.mem_append]
      rintro ((hmem | hmem) | hmem)
      · exact hdirectory hmem
      · exact absurd hmem (by decide)
      · exact hname hmem
  have hempty : (join directory name).isEmpty ≠ true := by
    rw [Ne, String.isEmpty_iff, ← String.toList_inj]
    unfold join
    split
    · simp [hne]
    · simp
  unfold pathFault?
  rw [if_neg (by simpa using hnul), if_neg hempty, if_neg (Nat.not_lt.2 hshort)]

/-- A file that is written inside a directory has a name of its own there. -/
theorem direct_of_write (hname : '/' ∉ name.toList)
    (h : fs.write (join directory name) data = .ok fs') : Direct name := by
  obtain ⟨-, -, -, -, hdirectory, -⟩ := write_eq_ok h
  rw [namesDirectory_join directory hname] at hdirectory
  simp only [Bool.or_eq_false_iff, beq_eq_false_iff_ne] at hdirectory
  exact ⟨hname, hdirectory.1.1, hdirectory.1.2, hdirectory.2⟩

/-- In a directory that is all there is nothing stands. -/
theorem node?_child_of_single (l : Location) (name : String) :
    (⟨[(l, .directory)]⟩ : Files).node? (l.child name) = none := by
  have hhere : l.child name ≠ .here := fun heq =>
    Nat.succ_ne_zero l.depth (congrArg Location.depth heq)
  have hother : (l.child name == l) = false := beq_false_of_ne fun heq =>
    Nat.succ_ne_self l.depth (congrArg Location.depth heq)
  rw [Files.node?, if_neg hhere, List.lookup_cons, hother]
  rfl

/-- A name in a directory that is there is looked for right in it. -/
theorem locate_join (hopen : fs.Open .here (parts directory)) (hname : Direct name)
    (h : fs.locate (join directory name) = .ok l) : l = (place directory).child name := by
  unfold locate at h
  split at h
  · cases h
  · rw [parts_join directory hname, hopen.follow_append] at h
    split at h
    · cases h
    · have hstep := Except.ok.inj h
      rw [step, if_neg hname.up] at hstep
      exact hstep.symm

/-- A name that is not too long is found in a directory that is there. -/
theorem locate_join_of_short (hopen : fs.Open .here (parts directory)) (hname : Direct name)
    (hshort : name.utf8ByteSize ≤ nameLimit) (hpath : pathFault? (join directory name) = none) :
    fs.locate (join directory name) = .ok ((place directory).child name) := by
  unfold locate
  rw [hpath]
  dsimp only
  rw [parts_join directory hname, hopen.follow_append, if_neg (Nat.not_lt.2 hshort), step,
    if_neg hname.up]
  rfl

/-! ## Writing -/

/-- A file can be written where a path leads, unless a directory stands there. -/
theorem write_isOk_iff : (∃ fs', fs.write path data = .ok fs')
    ↔ ∃ l, fs.locate path = .ok l ∧ fs.node? l ≠ some .directory
      ∧ namesDirectory path = false := by
  constructor
  · rintro ⟨fs', h⟩
    obtain ⟨l, -, hlocate, hplain, hdirectory, -⟩ := write_eq_ok h
    exact ⟨l, hlocate, hplain, hdirectory⟩
  · rintro ⟨l, hlocate, hplain, hdirectory⟩
    unfold write
    rw [hlocate]
    dsimp only
    rw [hdirectory]
    cases hnode : fs.node? l with
    | none => exact ⟨_, rfl⟩
    | some node =>
      cases node with
      | directory => exact absurd hnode hplain
      | file content program => exact ⟨_, rfl⟩

/-- Two states of the files have the same directories. -/
def SameDirectories (fs fs' : Files) : Prop :=
  ∀ k, fs.node? k = some .directory ↔ fs'.node? k = some .directory

/-- Writing a file makes no directory and takes none away. -/
theorem sameDirectories_write (h : fs.write path data = .ok fs') : SameDirectories fs fs' := by
  obtain ⟨l, program, -, hplain, -, rfl⟩ := write_eq_ok h
  intro k
  rw [node?_put (ne_here_of_node? hplain)]
  split
  next hk =>
    subst hk
    simp [hplain]
  · exact Iff.rfl

/-- Where there are the same directories, the same files can be written. -/
theorem SameDirectories.write_isOk (h : SameDirectories fs fs')
    (hwrite : ∃ after, fs.write path data = .ok after) :
    ∃ after, fs'.write path data = .ok after := by
  obtain ⟨l, hlocate, hplain, hdirectory⟩ := write_isOk_iff.1 hwrite
  refine write_isOk_iff.2 ⟨l, locate_of_directories (fun k => (h k).1) hlocate, ?_, hdirectory⟩
  exact fun hnode => hplain ((h l).2 hnode)

/-- A file that is written with what it holds stays as it is, and so does everything else. -/
theorem node?_write_again {program : Bool} (h : fs.write path data = .ok fs')
    (hlocate : fs.locate path = .ok l) (hnode : fs.node? l = some (.file data program)) :
    fs'.node? m = fs.node? m := by
  unfold write at h
  rw [hlocate] at h
  dsimp only at h
  rw [hnode] at h
  dsimp only at h
  split at h
  · cases h
  · cases h
    rw [node?_put (ne_here_of_node? (by rw [hnode]; exact nofun))]
    split
    next hm => rw [hm, hnode]
    · rfl

end ChatBoard.Files
