import ChatBoard.Proofs.Json.Record
import ChatBoard.Proofs.Json.Schema

/-!
# Written forms are texts of values

What is written for a result is the text of a value that shows it (`Schema.Written`): the form of a
text, of an integer, and of a record from those of its fields. So a result is read back from its
form, and from every other text of the value, however that is laid out. `Schema.Tolerates` says this
of a reader, a writer and the results that can be written; all of it follows from the written forms
(`Schema.tolerates_of_written`).
-/

namespace ChatBoard.Json

/-- What is written for a result: a value that shows it, and a form of the value. -/
structure Schema.Written {α : Type} (k : Schema α) (x : α) where
  form : Octets
  value : Value
  shows : k.Shows x value
  stands : ∀ tail, Stands (.value value) (form ++ tail) tail

/-! ## Texts, integers and records -/

/-- A string whose octets are escaped one by one. -/
def escaped (s : String) : Octets := (Octets.ofText s).flatMap escapeOctet

/-- An escaped text means itself. -/
theorem means_escaped (s : String) : Means (escaped s) s := spells_written (Octets.ofText s) []

/-- A text is written between quotes. -/
theorem writeText_append (s : String) (tail : Octets) :
    writeText s ++ tail = 0x22 :: (escaped s ++ 0x22 :: tail) := by
  simp [writeText, escaped]

namespace Schema

/-- What is written for a text. -/
def Written.text (s : String) : Written text s where
  form := writeText s
  value := .string (escaped s)
  shows := ⟨escaped s, rfl, means_escaped s⟩
  stands tail := .string ((means_escaped s).read tail).1 (by rw [writeText_append]; rfl)

/-- The written form of an integer of 64 bits is a numeral. -/
theorem isNumeral_writeInt {i : Int} (hleast : -0x8000000000000000 ≤ i)
    (hgreatest : i ≤ 0xffffffffffffffff) : IsNumeral (writeInt i) := by
  have hend : EndsNumber [] := nofun
  have hread := readNumber_writeInt hleast hgreatest hend
  obtain ⟨numeral, hnumeral, -, hwritten⟩ := readNumber_numeral hread
  rwa [hwritten i rfl] at hnumeral

/-- What is written for an integer of a range. -/
def Written.integer {least greatest i : Int} (hleast : -0x8000000000000000 ≤ least)
    (hgreatest : greatest ≤ 0xffffffffffffffff) (hi : least ≤ i ∧ i ≤ greatest) :
    Written (integer least greatest hleast hgreatest) i where
  form := writeInt i
  value := .number (writeInt i)
  shows := ⟨rfl, hi⟩
  stands tail := by
    refine .number (isNumeral_writeInt (by omega) (by omega)) ?_
    obtain ⟨b, rest, hcons, hb⟩ := writeInt_eq_cons i
    rw [hcons]
    exact List.dropWhile_cons_of_neg (by rw [isBlank_of_number hb]; exact Bool.false_ne_true)

/-- What is written for something that is made of a result is what is written for the result. -/
def Written.via {α β : Type} {k : Schema α} {x : α} (w : Written k x) (f : α → Option β) {y : β}
    (h : f x = some y) {read : Reader β}
    (hread : ∀ bs, read bs = readVia k.read f bs) : Written (k.via f read hread) y where
  form := w.form
  value := w.value
  shows := ⟨x, h, w.shows⟩
  stands := w.stands

end Schema

/-- A field with a result and what is written for it. -/
structure Filled (α : Type) where
  field : Field α
  result : α
  written : field.schema.Written result

namespace Filled

variable {α : Type}

/-- The member of a filled field. -/
def member (w : Filled α) : Octets × Value := (escaped w.field.name, w.written.value)

/-- A filled field as it is written. -/
def octets (w : Filled α) : Octets := writeMember w.field.name w.written.form

/-- The key and the value of a filled field stand where it is written. -/
theorem stands_octets {first : Bool} (w : Filled α) {ms : List (Octets × Value)}
    {bs after rest : Octets} (hopen : Opens first bs (w.octets ++ after))
    (hms : Stands (.members false ms) after rest) :
    Stands (.members first (w.member :: ms)) bs rest := by
  have hkey : skipBlank (w.octets ++ after)
      = 0x22 :: (escaped w.field.name ++ 0x22 :: 0x3a :: (w.written.form ++ after)) := by
    unfold octets writeMember
    rw [List.append_assoc, writeText_append]
    rfl
  exact .nextMember hopen ((means_escaped w.field.name).read []).1 hkey rfl
    (w.written.stands after) hms

/-- The fields after the first one stand behind commas. -/
theorem stands_rest (ws : List (Filled α)) (tail : Octets) :
    Stands (.members false (ws.map member)) (ws.flatMap (fun w => 0x2c :: w.octets) ++ 0x7d :: tail)
      tail := by
  induction ws with
  | nil => exact .noMember rfl
  | cons w ws ih =>
    refine w.stands_octets ?_ ih
    rw [List.flatMap_cons, List.cons_append, List.cons_append, List.append_assoc]
    rfl

/-- Parts are joined with a comma before each but the first. -/
theorem joinParts_cons (p : Octets) (ps : List Octets) :
    joinParts (p :: ps) = p ++ ps.flatMap (0x2c :: ·) := by
  induction ps generalizing p with
  | nil => exact (List.append_nil p).symm
  | cons q ps ih => rw [joinParts, ih q, List.flatMap_cons, List.cons_append]

/-- The members of filled fields stand in the object that is written. -/
theorem stands_object (ws : List (Filled α)) (tail : Octets) :
    Stands (.value (.object (ws.map member)))
      (writeObject (ws.map fun w => (w.field.name, w.written.form)) ++ tail) tail := by
  cases ws with
  | nil => exact .object rfl (.noMember rfl)
  | cons w ws =>
    have hjoin : joinParts (((w :: ws).map fun w => (w.field.name, w.written.form)).map
        fun m => writeMember m.1 m.2) = w.octets ++ ws.flatMap fun w => 0x2c :: w.octets := by
      rw [List.map_map, List.map_cons, joinParts_cons, List.flatMap_map]
      rfl
    have hform : writeObject ((w :: ws).map fun w => (w.field.name, w.written.form)) ++ tail
        = 0x7b :: (w.octets ++ ((ws.flatMap fun w => 0x2c :: w.octets) ++ 0x7d :: tail)) := by
      unfold writeObject
      rw [hjoin]
      simp
    rw [hform]
    exact .object rfl (w.stands_octets rfl (stands_rest ws tail))

/-- Of filled fields with different names each is named once. -/
theorem valuesOf_member {ws : List (Filled α)} (hnames : (ws.map (·.field.name)).Nodup)
    {w : Filled α} (hw : w ∈ ws) : valuesOf (ws.map member) w.field.name = [w.written.value] := by
  induction ws with
  | nil => cases hw
  | cons u ws ih =>
    rw [List.map_cons, List.nodup_cons] at hnames
    rw [List.map_cons]
    have hkey : Means (escaped u.field.name) u.field.name := means_escaped u.field.name
    rcases List.mem_cons.1 hw with rfl | hw
    · have hnone : valuesOf (ws.map member) w.field.name = [] := by
        unfold valuesOf
        rw [List.filterMap_map, List.filterMap_eq_nil_iff]
        intro u hu
        refine if_neg fun hname => hnames.1 (List.mem_map.2 ⟨u, hu, ?_⟩)
        exact (means_escaped u.field.name).unique (nameOf?_eq_some_iff.1 hname)
      rw [member, valuesOf_cons_self hkey, hnone]
    · have hother : u.field.name ≠ w.field.name :=
        fun heq => hnames.1 (List.mem_map.2 ⟨w, hw, heq.symm⟩)
      rw [member, valuesOf_cons_of_ne hkey hother, ih hnames.2 hw]

end Filled

/-- What is written for a record, from what is written for its fields. -/
def Schema.Written.record {α : Type} (ws : List (Filled α))
    (hnames : ((ws.map (·.field)).map (·.name)).Nodup) :
    Written (Schema.record (ws.map (·.field)) hnames) (ws.map (·.result)) where
  form := writeObject (ws.map fun w => (w.field.name, w.written.form))
  value := .object (ws.map Filled.member)
  shows := by
    refine ⟨_, rfl, fun m hm => ?_, by simp, fun i f x hf hx => ?_⟩
    · obtain ⟨w, -, rfl⟩ := List.mem_map.1 hm
      exact ⟨w.field.name, means_escaped w.field.name⟩
    · rw [List.getElem?_map, Option.map_eq_some_iff] at hf hx
      obtain ⟨w, hw, rfl⟩ := hf
      obtain ⟨w', hw', rfl⟩ := hx
      rw [hw] at hw'
      cases hw'
      rw [List.map_map] at hnames
      exact ⟨w.written.value, Filled.valuesOf_member hnames (List.mem_of_getElem? hw),
        w.written.shows⟩
  stands := Filled.stands_object ws

/-! ## Whole texts -/

/-- The end of a text ends a numeral. -/
theorem endsNumeral_of_end {rest : Octets} (h : skipBlank rest = []) : EndsNumeral rest := by
  refine endsNumeral_of_skipBlank fun c hc => ?_
  rw [h] at hc
  cases hc

namespace Schema

variable {α : Type} {k : Schema α} {x : α} {v : Value} {bs : Octets}

/-- What a value shows is read from every text of it. -/
theorem readAll_of_shows (hshows : k.Shows x v) (h : v.WrittenAs bs) :
    readAll k.read bs = .ok x := by
  obtain ⟨rest, hv, hrest⟩ := h
  unfold readAll
  rw [k.reads hshows hv (endsNumeral_of_end hrest)]
  dsimp only
  rw [hrest]
  rfl

/-- Every text of a flawed value is a mismatch. -/
theorem readAll_of_flawed (hflawed : k.Flawed v) (h : v.WrittenAs bs) :
    readAll k.read bs = .error .mismatch := by
  obtain ⟨rest, hv, hrest⟩ := h
  unfold readAll
  rw [k.declines hflawed hv (endsNumeral_of_end hrest)]

/-- What is written is a text of the value. -/
theorem Written.writtenAs (w : Written k x) : w.value.WrittenAs w.form := by
  have hstands := w.stands []
  rw [List.append_nil] at hstands
  exact ⟨[], hstands, rfl⟩

/-- A reader tolerates other texts than those that are written. -/
structure Tolerates (k : Schema α) (read : Reader α) (write : α → Octets) (Valid : α → Prop) :
    Prop where
  /-- What is written is the text of a value, and it is read back. -/
  readsBack : ∀ x, Valid x → (∃ v : Value, v.WrittenAs (write x)) ∧ readAll read (write x) = .ok x
  /-- However the value is laid out, every text of it is read as the same. -/
  relaid : ∀ x, Valid x → ∀ v v' bs, v.WrittenAs (write x) → k.Relaid v v' → v'.WrittenAs bs →
    readAll read bs = .ok x
  /-- Written again, it is the text that was written before. -/
  rewritten : ∀ x, Valid x → ∀ v v' bs, v.WrittenAs (write x) → k.Relaid v v' → v'.WrittenAs bs →
    (readAll read bs).map write = .ok (write x)
  /-- Every text of a flawed value is a mismatch. -/
  flawed : ∀ v bs, k.Flawed v → v.WrittenAs bs → readAll read bs = .error .mismatch

/-- A reader tolerates other texts if what is written is a text of what shows the result. -/
theorem tolerates_of_written {write : α → Octets} {Valid : α → Prop}
    (h : ∀ x, Valid x → ∃ w : Written k x, w.form = write x) :
    k.Tolerates k.read write Valid := by
  have hrelaid : ∀ x, Valid x → ∀ v v' bs, v.WrittenAs (write x) → k.Relaid v v' →
      v'.WrittenAs bs → readAll k.read bs = .ok x := by
    intro x hx v v' bs hv hv' hbs
    obtain ⟨w, hw⟩ := h x hx
    -- The text is that of one value, and so of one that shows the result.
    have hvalue : v = w.value := hv.unique (hw ▸ w.writtenAs)
    exact readAll_of_shows (k.keeps w.shows (hvalue ▸ hv')) hbs
  refine ⟨fun x hx => ?_, hrelaid, fun x hx v v' bs hv hv' hbs => ?_,
    fun v bs => readAll_of_flawed⟩
  · obtain ⟨w, hw⟩ := h x hx
    have hwritten : w.value.WrittenAs (write x) := hw ▸ w.writtenAs
    exact ⟨⟨w.value, hwritten⟩, readAll_of_shows w.shows hwritten⟩
  · rw [hrelaid x hx v v' bs hv hv' hbs]
    rfl

end Schema

end ChatBoard.Json
