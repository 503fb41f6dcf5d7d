import ChatBoard.Json.TextList
import ChatBoard.Proofs.Json.Number
import ChatBoard.Proofs.Json.Text

/-!
# Reading back records and lists

`ReadsBack read x form` says that a reader gives `x` for what is written as `form`. One step of
reading an object is stated for each thing that may stand there next: the closing mark ends it
(`readMembers_end`), and a member that a field names is read by its field into the place of the
field (`readMembers_spelled`). A record whose members are read back is read back
(`readRecord_written`), and so is a list of values of one kind (`readAll_list`).
-/

namespace ChatBoard.Json

/-- A reader gives a value for its written form, whatever follows that is no part of a number. -/
def ReadsBack {α : Type} (read : Reader α) (x : α) (form : Octets) : Prop :=
  ∀ tail, EndsNumber tail → read (form ++ tail) = .ok (x, tail)

/-- A text is read back. -/
theorem readsBack_text (s : String) : ReadsBack readText s (writeText s) := by
  intro tail _
  have hwritten : writeText s ++ tail
      = 0x22 :: ((Octets.ofText s).flatMap escapeOctet ++ 0x22 :: tail) := by simp [writeText]
  rw [hwritten]
  exact readTextBody_written s tail

/-- A number of the signed 64-bit range is read back. -/
theorem readsBack_int64 {i : Int} (hleast : -0x8000000000000000 ≤ i)
    (hgreatest : i ≤ 0x7fffffffffffffff) : ReadsBack readInt64 i (writeInt i) := by
  intro tail htail
  unfold readInt64
  rw [readIntIn_writeInt, readNumber_writeInt hleast (by omega) htail]
  exact if_pos ⟨hleast, hgreatest⟩

/-- A mark that is no part of a number ends one. -/
theorem endsNumber_cons {b : UInt8} (h : isDigit b = false ∧ b ≠ 0x2e ∧ isExponentMark b = false)
    (rest : Octets) : EndsNumber (b :: rest) := by
  rintro c ⟨⟩
  exact h

/-! ## Members -/

section

variable {α : Type} {fields : List (Member α)}

/-- The closing mark ends an object. -/
theorem readMembers_end (steps : Nat) (first : Bool) (places : List (Option α)) (tail : Octets) :
    readMembers fields (steps + 1) first places (0x7d :: tail) = .ok (places, tail) := rfl

/-- What stands before the quote of a member's name: a comma, unless it is the first member. -/
def beforeMember (first : Bool) : Octets := if first then [] else [0x2c]

/-- A member that a field names is read by the field, into its place. -/
theorem readMembers_spelled {name : String} {key value : Octets} {i : Nat} {field : Member α}
    {places : List (Option α)} (hkey : Spells key (Octets.ofText name) (0x3a :: value))
    (hfind : fields.findIdx? (·.name == name) = some i) (hfield : fields[i]? = some field)
    (hplace : (places.getD i none).isSome = false) (steps : Nat) (first : Bool) :
    readMembers fields (steps + 1) first places (beforeMember first ++ 0x22 :: key)
      = match field.read value with
        | .error p => .error p
        | .ok (x, after) => readMembers fields steps false (places.set i (some x)) after := by
  have hbody := readTextBody_eq_ok_iff.2 hkey
  -- The mark before the name depends on whether a member has been read already.
  have hmark : ∃ b rest, beforeMember first ++ 0x22 :: key = b :: rest
      ∧ skipBlank (b :: rest) = b :: rest ∧ b ≠ 0x7d ∧ toKey first b rest = .ok key := by
    cases first with
    | true => exact ⟨_, _, rfl, rfl, by decide, rfl⟩
    | false => exact ⟨_, _, rfl, rfl, by decide, rfl⟩
  obtain ⟨b, rest, hcons, hblank, hopen, htoKey⟩ := hmark
  rw [hcons, readMembers, hblank]
  dsimp only
  rw [if_neg hopen, htoKey]
  -- The name is read, and it is that of a field whose place is empty.
  dsimp only [bind, Except.bind]
  rw [hbody]
  dsimp only
  rw [hfind]
  dsimp only
  rw [if_neg (by rw [hplace]; exact Bool.false_ne_true), hfield]
  dsimp only
  have hcolon : readMark 0x3a (0x3a :: value) = .ok value := rfl
  rw [hcolon]
  dsimp only
  cases field.read value with
  | error p => rfl
  | ok read => rfl

/-- A member without escapes in its name is read by the field that it names, into its place. -/
theorem readMembers_member {name : String} {i : Nat} {field : Member α}
    {places : List (Option α)} (hname : ∀ b ∈ Octets.ofText name, IsVerbatim b)
    (hfind : fields.findIdx? (·.name == name) = some i) (hfield : fields[i]? = some field)
    (hplace : (places.getD i none).isSome = false) (steps : Nat) (first : Bool) (value : Octets) :
    readMembers fields (steps + 1) first places
        (beforeMember first ++ 0x22 :: (Octets.ofText name ++ 0x22 :: 0x3a :: value))
      = match field.read value with
        | .error p => .error p
        | .ok (x, after) => readMembers fields steps false (places.set i (some x)) after :=
  readMembers_spelled (spells_verbatim hname _) hfind hfield hplace steps first

end

/-! ## Records -/

/-- A field of a record, with a value and the written form that the field reads it back from. -/
structure WrittenField (α : Type) where
  field : Member α
  value : α
  form : Octets
  reads : ReadsBack field.read value form

namespace WrittenField

variable {α : Type}

/-- A field as it is written. -/
def written (w : WrittenField α) : Octets := writeMember w.field.name w.form

/-- Fields as they stand in an object, to its end. -/
def inObject (first : Bool) : List (WrittenField α) → Octets
  | [] => [0x7d]
  | w :: ws => beforeMember first ++ w.written ++ inObject false ws

/-- Each field has an octet, and so has the closing mark. -/
theorem length_lt_inObject (first : Bool) (ws : List (WrittenField α)) :
    ws.length < (inObject first ws).length := by
  induction ws generalizing first with
  | nil => exact Nat.zero_lt_one
  | cons w ws ih =>
    have := ih false
    have hwritten : 0 < w.written.length := by
      unfold written writeMember writeText
      simp
    rw [inObject, List.length_append, List.length_append, List.length_cons]
    omega

/-- What follows a field is no part of a number. -/
theorem endsNumber_inObject (ws : List (WrittenField α)) (tail : Octets) :
    EndsNumber (inObject false ws ++ tail) := by
  cases ws with
  | nil => exact endsNumber_cons (by decide) tail
  | cons w ws => exact endsNumber_cons (by decide) _

/-- An object is written as its fields between the marks. -/
theorem writeObject_eq (ws : List (WrittenField α)) :
    writeObject (ws.map fun w => (w.field.name, w.form)) = 0x7b :: inObject true ws := by
  have hjoin : ∀ w (ws : List (WrittenField α)),
      joinParts (((w :: ws).map fun w => (w.field.name, w.form)).map fun m => writeMember m.1 m.2)
        ++ [0x7d] = w.written ++ inObject false ws := by
    intro w ws
    induction ws generalizing w with
    | nil => rfl
    | cons v ws ih =>
      rw [inObject, ← List.append_assoc]
      simp only [List.map_cons, joinParts, List.append_assoc, List.cons_append] at ih ⊢
      rw [ih v]
      rfl
  unfold writeObject
  cases ws with
  | nil => rfl
  | cons w ws =>
    rw [List.cons_append, hjoin w ws, inObject, beforeMember, if_pos rfl, List.nil_append]

/-- The fields that are left are read into their places, after those that have been read. -/
theorem readMembers_inObject (done rest : List (WrittenField α))
    (hnames : ((done ++ rest).map (·.field.name)).Nodup) (steps : Nat)
    (hsteps : rest.length < steps) (tail : Octets) :
    readMembers ((done ++ rest).map (·.field)) steps done.isEmpty
        (done.map (fun w => some w.value) ++ List.replicate rest.length none)
        (inObject done.isEmpty rest ++ tail)
      = .ok ((done ++ rest).map (fun w => some w.value), tail) := by
  induction rest generalizing done steps with
  | nil =>
    obtain ⟨steps, rfl⟩ : ∃ n, steps = n + 1 := ⟨steps - 1, by omega⟩
    rw [inObject, List.singleton_append, readMembers_end]
    simp
  | cons w rest ih =>
    obtain ⟨steps, rfl⟩ : ∃ n, steps = n + 1 := ⟨steps - 1, by omega⟩
    rw [List.length_cons] at hsteps
    -- The field is the first of its name, since no field before it has the name.
    have hbefore : ∀ v ∈ done, (v.field.name == w.field.name) = false := by
      intro v hv
      rw [List.map_append, List.nodup_append] at hnames
      exact beq_eq_false_iff_ne.2 (hnames.2.2 _ (List.mem_map.2 ⟨v, hv, rfl⟩) _ (by simp))
    have hfind : ((done ++ w :: rest).map (·.field)).findIdx? (·.name == w.field.name)
        = some done.length := by
      rw [List.map_append, List.findIdx?_append,
        List.findIdx?_eq_none_iff.2 (by simpa using hbefore)]
      simp [List.findIdx?_cons]
    have hfield : ((done ++ w :: rest).map (·.field))[done.length]? = some w.field := by simp
    have hplace : ((done.map (fun v : WrittenField α => some v.value)
        ++ List.replicate (w :: rest).length none).getD done.length none).isSome = false := by simp
    have htext : inObject done.isEmpty (w :: rest) ++ tail = beforeMember done.isEmpty ++ 0x22 ::
        ((Octets.ofText w.field.name).flatMap escapeOctet ++ 0x22 :: 0x3a :: (w.form ++
          (inObject false rest ++ tail))) := by
      simp [inObject, written, writeMember, writeText]
    rw [htext, readMembers_spelled (spells_written _ _) hfind hfield hplace,
      w.reads _ (endsNumber_inObject rest tail)]
    dsimp only
    -- With this field the next ones are read in the same way.
    have hnext := ih (done ++ [w]) (by simpa using hnames) steps (by omega)
    have hdone : (done ++ [w]).isEmpty = false := by simp
    rw [hdone] at hnext
    simpa [List.replicate_succ] using hnext

/-- A record whose fields are read back is read back. -/
theorem readRecord_written (ws : List (WrittenField α)) (hnames : (ws.map (·.field.name)).Nodup)
    (tail : Octets) :
    readRecord (ws.map (·.field)) (writeObject (ws.map fun w => (w.field.name, w.form)) ++ tail)
      = .ok (ws.map (·.value), tail) := by
  have hsteps : ws.length < (inObject true ws ++ tail).length + 1 := by
    have := length_lt_inObject true ws
    rw [List.length_append]
    omega
  have hread := readMembers_inObject [] ws hnames _ hsteps tail
  have hplaces : (ws.map fun w => some w.value).mapM id = some (ws.map (·.value)) := by
    clear hnames hsteps hread
    induction ws with
    | nil => rfl
    | cons w ws ih =>
      rw [List.map_cons, List.mapM_cons, ih]
      rfl
  have hopen :
      skipBlank (0x7b :: (inObject true ws ++ tail)) = 0x7b :: (inObject true ws ++ tail) := rfl
  simp only [List.nil_append, List.isEmpty_nil, List.map_nil] at hread
  rw [writeObject_eq, List.cons_append]
  unfold readRecord
  rw [hopen]
  dsimp only
  rw [if_pos rfl, List.length_map, hread]
  dsimp only [bind, Except.bind]
  rw [hplaces]
  rfl

end WrittenField

/-! ## Lists -/

section

variable {α : Type} {read : Reader α} {write : α → Octets}

/-- Values as they stand in a list, to its end. -/
def inList (write : α → Octets) (first : Bool) : List α → Octets
  | [] => [0x5d]
  | x :: xs => beforeMember first ++ write x ++ inList write false xs

/-- A list is written as its values between the marks. -/
theorem writeList_eq (xs : List α) : writeList (xs.map write) = 0x5b :: inList write true xs := by
  have hjoin : ∀ x (xs : List α),
      joinParts ((x :: xs).map write) ++ [0x5d] = write x ++ inList write false xs := by
    intro x xs
    induction xs generalizing x with
    | nil => rfl
    | cons y xs ih =>
      simp only [List.map_cons, joinParts, List.append_assoc, List.cons_append] at ih ⊢
      rw [ih y, inList, List.append_assoc]
      rfl
  unfold writeList
  cases xs with
  | nil => rfl
  | cons x xs =>
    rw [List.cons_append, hjoin x xs, inList, beforeMember, if_pos rfl, List.nil_append]

/-- What a value in a list begins with: neither a blank nor the closing mark. -/
def BeginsValue (form : Octets) : Prop :=
  ∃ b rest, form = b :: rest ∧ isBlank b = false ∧ b ≠ 0x5d

/-- What follows a value of a list is no part of a number. -/
theorem endsNumber_inList (write : α → Octets) (xs : List α) (tail : Octets) :
    EndsNumber (inList write false xs ++ tail) := by
  cases xs with
  | nil => exact endsNumber_cons (by decide) tail
  | cons x xs => exact endsNumber_cons (by decide) _

/-- The values of a list are read back one after the other. -/
theorem readListFrom_inList {xs : List α} (hreads : ∀ x ∈ xs, ReadsBack read x (write x))
    (hbegins : ∀ x ∈ xs, BeginsValue (write x)) (first : Bool) (hne : first = false → xs ≠ [])
    (steps : Nat) (hsteps : xs.length < steps) (tail : Octets) :
    readListFrom read steps first (inList write first xs ++ tail) = .ok (xs, tail) := by
  induction xs generalizing first steps with
  | nil =>
    cases first with
    | false => exact absurd rfl (hne rfl)
    | true =>
      obtain ⟨steps, rfl⟩ : ∃ n, steps = n + 1 := ⟨steps - 1, by omega⟩
      rfl
  | cons x xs ih =>
    obtain ⟨steps, rfl⟩ : ∃ n, steps = n + 1 := ⟨steps - 1, by omega⟩
    rw [List.length_cons] at hsteps
    have hread := hreads x List.mem_cons_self _ (endsNumber_inList write xs tail)
    obtain ⟨b, form, hform, hb, hclosing⟩ := hbegins x List.mem_cons_self
    -- Before the value there is a comma, unless it is the first.
    have hvalue : ∃ c rest, inList write first (x :: xs) ++ tail = c :: rest
        ∧ skipBlank (c :: rest) = c :: rest ∧ ¬ (c = 0x5d ∧ first = true)
        ∧ toItem first c rest = .ok (write x ++ (inList write false xs ++ tail)) := by
      rw [inList, List.append_assoc, List.append_assoc]
      cases first with
      | true =>
        rw [hform]
        exact ⟨b, _, rfl, List.dropWhile_cons_of_neg (by rw [hb]; exact Bool.false_ne_true),
          fun h => hclosing h.1, rfl⟩
      | false => exact ⟨0x2c, _, rfl, rfl, fun h => Bool.false_ne_true h.2, rfl⟩
    obtain ⟨c, rest, hcons, hblank, hopen, htoItem⟩ := hvalue
    rw [hcons, readListFrom, hblank]
    dsimp only
    rw [if_neg hopen, htoItem]
    dsimp only [bind, Except.bind]
    rw [hread]
    dsimp only
    cases xs with
    | nil => rfl
    | cons y ys =>
      have hmore := ih (fun z hz => hreads z (List.mem_cons_of_mem _ hz))
        (fun z hz => hbegins z (List.mem_cons_of_mem _ hz)) false (fun _ => List.cons_ne_nil _ _)
        steps (by omega)
      have hcomma : ∃ rest', inList write false (y :: ys) ++ tail = 0x2c :: rest' := ⟨_, rfl⟩
      obtain ⟨rest', hrest⟩ := hcomma
      have hblank' : skipBlank (0x2c :: rest') = 0x2c :: rest' := rfl
      rw [hrest, hblank']
      dsimp only
      rw [if_neg (by decide), ← hrest, hmore]
      rfl

/-- A list has an octet for each value and one for its end, and so enough for the steps. -/
theorem length_lt_inList {xs : List α} (hbegins : ∀ x ∈ xs, BeginsValue (write x)) (first : Bool) :
    xs.length < (inList write first xs).length := by
  induction xs generalizing first with
  | nil => exact Nat.zero_lt_one
  | cons x xs ih =>
    have := ih (fun y hy => hbegins y (List.mem_cons_of_mem _ hy)) false
    obtain ⟨b, form, hform, -⟩ := hbegins x List.mem_cons_self
    rw [inList, hform, List.length_append, List.length_append, List.length_cons, List.length_cons]
    omega

/-- A list of values that are read back is read back. -/
theorem readAll_list {xs : List α} (hreads : ∀ x ∈ xs, ReadsBack read x (write x))
    (hbegins : ∀ x ∈ xs, BeginsValue (write x)) :
    readAll (readList read) (writeList (xs.map write)) = .ok xs := by
  have hsteps := length_lt_inList hbegins true
  have hread := readListFrom_inList hreads hbegins true (fun h => (nomatch h))
    ((inList write true xs).length + 1) (by omega) []
  have hopen : readMark 0x5b (0x5b :: inList write true xs) = .ok (inList write true xs) := rfl
  rw [List.append_nil] at hread
  unfold readAll readList
  rw [writeList_eq, hopen]
  dsimp only
  rw [hread]
  rfl

end

end ChatBoard.Json
