import ChatBoard.Proofs.Json.Members
import ChatBoard.Proofs.Json.Passed

/-!
# What a reader makes of a value, however it is laid out

A `Schema` says of a reader which values show which results, which values are flawed, and how a
value may be laid out in another way. Whatever text a value is written as, what it shows is read
from it, and a flawed one is a mismatch; laid out in another way a value shows the same. Texts and
integers have schemas (`Schema.text`, `Schema.integer`), and records have them from those of their
fields (`Schema.record`): the members may be permuted, their names and texts may be written with
other escapes, and members that no field names may be there, of any depth (`Field.Relays`). A record
in which a field is missing or comes again is flawed (`Field.FlawedIn`).
-/

namespace ChatBoard.Json

/-! ## Members by name -/

/-- A string that means a text is read as it. -/
theorem Means.read {raw : Octets} {s : String} (h : Means raw s) (rest : Octets) :
    IsQuoted raw ∧ readTextBody (raw ++ 0x22 :: rest) = .ok (s, rest) := by
  obtain ⟨raw', hraw, heq, hspells⟩ := Spells.exists_raw h
  obtain rfl : raw = raw' := List.append_cancel_right heq
  exact ⟨hraw, readTextBody_eq_ok_iff.2 (hspells rest)⟩

/-- The name that a key means, if it means one. -/
def nameOf? (raw : Octets) : Option String :=
  match readTextBody (raw ++ [0x22]) with
  | .ok (name, []) => some name
  | _ => none

/-- The name of a key is what it means. -/
theorem nameOf?_eq_some_iff {raw : Octets} {name : String} :
    nameOf? raw = some name ↔ Means raw name := by
  unfold nameOf?
  constructor
  · intro h
    split at h
    next s hread =>
      cases h
      exact readTextBody_eq_ok_iff.1 hread
    · cases h
  · intro h
    rw [readTextBody_eq_ok_iff.2 h]

/-- All keys mean a name. -/
def Named (ms : List (Octets × Value)) : Prop := ∀ m ∈ ms, ∃ name, Means m.1 name

/-- The values of the members that have a name, in order. -/
def valuesOf (ms : List (Octets × Value)) (name : String) : List Value :=
  ms.filterMap fun m => if nameOf? m.1 = some name then some m.2 else none

section

variable {raw : Octets} {name other : String} {v : Value} {ms ms' : List (Octets × Value)}

/-- Keys before and after a member mean names, and so does its own. -/
theorem named_append_cons {before after : List (Octets × Value)} :
    Named (before ++ (raw, v) :: after)
      ↔ Named before ∧ (∃ name, Means raw name) ∧ Named after := by
  unfold Named
  rw [List.forall_mem_append, List.forall_mem_cons]

/-- A member of the name has the first value. -/
theorem valuesOf_cons_self (h : Means raw name) (v : Value) (ms : List (Octets × Value)) :
    valuesOf ((raw, v) :: ms) name = v :: valuesOf ms name :=
  List.filterMap_cons_some (if_pos (nameOf?_eq_some_iff.2 h))

/-- A member of another name has no value of the name. -/
theorem valuesOf_cons_of_ne (h : Means raw other) (hne : other ≠ name) (v : Value)
    (ms : List (Octets × Value)) : valuesOf ((raw, v) :: ms) name = valuesOf ms name := by
  refine List.filterMap_cons_none (if_neg fun hname => hne ?_)
  exact h.unique (nameOf?_eq_some_iff.1 hname)

/-- The values of members before others come first. -/
theorem valuesOf_append (ms ms' : List (Octets × Value)) (name : String) :
    valuesOf (ms ++ ms') name = valuesOf ms name ++ valuesOf ms' name := List.filterMap_append

/-- A single value stays a single value when the members are permuted. -/
theorem valuesOf_perm (hperm : ms.Perm ms') (h : valuesOf ms name = [v]) :
    valuesOf ms' name = [v] := by
  have hvalues : (valuesOf ms name).Perm (valuesOf ms' name) := hperm.filterMap _
  rw [h] at hvalues
  exact List.perm_singleton.1 hvalues.symm

end

/-! ## One member after the other -/

section

variable {α : Type} {members : List (Member α)} {first : Bool} {raw : Octets} {name : String}
  {bs next colon value rest : Octets} {places : List (Option α)}

/-- The closing mark ends an object, maybe after blanks. -/
theorem readMembers_noMember (h : skipBlank bs = 0x7d :: rest) (steps : Nat) :
    readMembers members (steps + 1) first places bs = .ok (places, rest) := by
  rw [readMembers, h]
  exact if_pos rfl

/-- Where a key comes next, it is not the end. -/
theorem toKey_of_opens {key : Octets} (hopen : Opens first bs next)
    (hkey : skipBlank next = 0x22 :: key) :
    ∃ b tail, skipBlank bs = b :: tail ∧ b ≠ 0x7d ∧ toKey first b tail = .ok key := by
  cases first with
  | true =>
    obtain rfl : bs = next := hopen
    exact ⟨_, _, hkey, by decide, rfl⟩
  | false => exact ⟨_, _, hopen, by decide, readMark_eq_ok_iff.2 hkey⟩

/-- What becomes of a member once its name is known and its value comes next. -/
def readNamed (members : List (Member α)) (steps : Nat) (places : List (Option α)) (name : String)
    (value : Octets) : Except Problem (List (Option α) × Octets) :=
  match members.findIdx? (·.name == name) with
  | none => (skipValue value).bind (readMembers members steps false places)
  | some i =>
    if (places.getD i none).isSome then .error .mismatch
    else
      match members[i]? with
      | none => .error .mismatch
      | some field => (field.read value).bind fun r =>
        readMembers members steps false (places.set i (some r.1)) r.2

/-- A member is read up to its name, and what becomes of it depends on that. -/
theorem readMembers_key (hopen : Opens first bs next)
    (hkey : skipBlank next = 0x22 :: (raw ++ 0x22 :: colon)) (hmeans : Means raw name)
    (hcolon : skipBlank colon = 0x3a :: value) (steps : Nat) :
    readMembers members (steps + 1) first places bs
      = readNamed members steps places name value := by
  obtain ⟨b, tail, hbs, hb, htoKey⟩ := toKey_of_opens hopen hkey
  rw [readMembers, hbs]
  dsimp only
  rw [if_neg hb, htoKey]
  dsimp only [bind, Except.bind]
  rw [(hmeans.read colon).2]
  dsimp only
  rw [readMark_eq_ok_iff.2 hcolon]
  rfl

/-- A member that no field names is passed over. -/
theorem readMembers_unknown {v : Value} {after : Octets} (hopen : Opens first bs next)
    (hkey : skipBlank next = 0x22 :: (raw ++ 0x22 :: colon)) (hmeans : Means raw name)
    (hcolon : skipBlank colon = 0x3a :: value) (hv : Stands (.value v) value after)
    (hafter : EndsNumeral after) (hfind : members.findIdx? (·.name == name) = none)
    (steps : Nat) :
    readMembers members (steps + 1) first places bs
      = readMembers members steps false places after := by
  rw [readMembers_key hopen hkey hmeans hcolon, readNamed, hfind]
  dsimp only
  rw [hv.skipValue hafter]
  rfl

end

/-! ## Schemas -/

/-- What a reader makes of values: what they show, which are flawed, and how they may be laid out in
another way. -/
structure Schema (α : Type) where
  read : Reader α
  /-- A value shows a result. -/
  Shows : α → Value → Prop
  /-- A value is not what is asked for. -/
  Flawed : Value → Prop
  /-- A value is another one, laid out in another way. -/
  Relaid : Value → Value → Prop
  /-- What a value shows is read from whatever it is written as. -/
  reads : ∀ {x v bs rest}, Shows x v → Stands (.value v) bs rest → EndsNumeral rest →
    read bs = .ok (x, rest)
  /-- A flawed value is a mismatch, whatever it is written as. -/
  declines : ∀ {v bs rest}, Flawed v → Stands (.value v) bs rest → EndsNumeral rest →
    read bs = .error .mismatch
  /-- Laid out in another way, a value shows the same. -/
  keeps : ∀ {x v v'}, Shows x v → Relaid v v' → Shows x v'

namespace Schema

variable {α β : Type}

/-- What shows a result is not flawed. -/
theorem not_flawed (k : Schema α) {x : α} {v : Value} {bs rest : Octets} (h : k.Shows x v)
    (hv : Stands (.value v) bs rest) (hrest : EndsNumeral rest) : ¬ k.Flawed v := by
  intro hflawed
  have hread := k.declines hflawed hv hrest
  rw [k.reads h hv hrest] at hread
  cases hread

/-- Texts: any escapes will do. -/
def text : Schema String where
  read := readText
  Shows s v := ∃ raw, v = .string raw ∧ Means raw s
  Flawed _ := False
  Relaid v v' := ∃ raw raw' s, v = .string raw ∧ v' = .string raw' ∧ Means raw s ∧ Means raw' s
  reads := by
    rintro s v bs rest ⟨raw, rfl, hmeans⟩ hv -
    cases hv with
    | string hraw h =>
      unfold readText
      rw [h]
      dsimp only
      rw [if_pos rfl]
      exact (hmeans.read rest).2
  declines := fun h => h.elim
  keeps := by
    rintro s v v' ⟨raw, rfl, hmeans⟩ ⟨raw₁, raw', s', heq, rfl, hmeans₁, hmeans'⟩
    cases heq
    rw [hmeans.unique hmeans₁]
    exact ⟨raw', rfl, hmeans'⟩

/-- Integers of a range within 64 bits, which are written in one way. -/
def integer (least greatest : Int) (hleast : -0x8000000000000000 ≤ least)
    (hgreatest : greatest ≤ 0xffffffffffffffff) : Schema Int where
  read := readIntIn least greatest
  Shows i v := v = .number (writeInt i) ∧ least ≤ i ∧ i ≤ greatest
  Flawed _ := False
  Relaid v v' := v' = v
  reads := by
    rintro i v bs rest ⟨rfl, hi, hi'⟩ hv hrest
    cases hv with
    | number hnumeral h =>
      have hblank : readIntIn least greatest bs = readIntIn least greatest (skipBlank bs) := by
        unfold readIntIn readNumberAs
        rw [skipBlank_skipBlank]
      rw [hblank, h, readIntIn_writeInt,
        readNumber_writeInt (by omega) (by omega) hrest.endsNumber]
      exact if_pos ⟨hi, hi'⟩
  declines := fun h => h.elim
  keeps := by
    rintro i v v' h rfl
    exact h

/-- Reads what a function makes of a result; if it makes nothing of it, that is a mismatch. -/
def readVia (read : Reader α) (f : α → Option β) : Reader β := fun bs =>
  (read bs).bind fun r =>
    match f r.1 with
    | some y => .ok (y, r.2)
    | none => .error .mismatch

/-- A reader that goes on with a result as a function says reads what the function makes of it. -/
theorem bind_eq_readVia {read : Reader α} {f : α → Option β}
    {next : α × Octets → Except Problem (β × Octets)}
    (h : ∀ x rest, next (x, rest) = match f x with
      | some y => .ok (y, rest)
      | none => .error .mismatch) (bs : Octets) : (read bs).bind next = readVia read f bs := by
  unfold readVia
  congr 1
  funext r
  exact h r.1 r.2

/-- What a function makes of results, for a reader that does the same. -/
def via (k : Schema α) (f : α → Option β) (read : Reader β)
    (hread : ∀ bs, read bs = readVia k.read f bs) : Schema β where
  read := read
  Shows y v := ∃ x, f x = some y ∧ k.Shows x v
  Flawed := k.Flawed
  Relaid := k.Relaid
  reads := by
    rintro y v bs rest ⟨x, hx, hshows⟩ hv hrest
    rw [hread, readVia, k.reads hshows hv hrest]
    dsimp only [Except.bind]
    rw [hx]
  declines := by
    intro v bs rest hflawed hv hrest
    rw [hread, readVia, k.declines hflawed hv hrest]
    rfl
  keeps := by
    rintro y v v' ⟨x, hx, hshows⟩ hrelaid
    exact ⟨x, hx, k.keeps hshows hrelaid⟩

end Schema

/-! ## Records -/

/-- A field of a record: its name, and the schema of its value. -/
structure Field (α : Type) where
  name : String
  schema : Schema α

namespace Field

variable {α : Type}

/-- The reader of a field. -/
def member (f : Field α) : Member α := ⟨f.name, f.schema.read⟩

/-- Members show the values of fields: all keys mean a name, and each field is named once, with a
value that shows its own. -/
structure ShownBy (fields : List (Field α)) (xs : List α) (ms : List (Octets × Value)) : Prop where
  keys : Named ms
  length : xs.length = fields.length
  once : ∀ (i : Nat) f x, fields[i]? = some f → xs[i]? = some x →
    ∃ v, valuesOf ms f.name = [v] ∧ f.schema.Shows x v

/-- Members are flawed: all keys mean a name, a field that is named has a value of its own first or
a flawed one, and there is a field that is not named, is named again, or has a flawed value. -/
structure FlawedIn (fields : List (Field α)) (ms : List (Octets × Value)) : Prop where
  keys : Named ms
  values : ∀ f ∈ fields, ∀ v ∈ (valuesOf ms f.name).head?,
    (∃ x, f.schema.Shows x v) ∨ f.schema.Flawed v
  flaw : ∃ f ∈ fields, valuesOf ms f.name = [] ∨ 2 ≤ (valuesOf ms f.name).length
    ∨ ∃ v ∈ (valuesOf ms f.name).head?, f.schema.Flawed v

/-- How a record may be laid out in another way, step by step. -/
inductive Relays (fields : List (Field α)) : Value → Value → Prop where
  | refl (v : Value) : Relays fields v v
  | trans {u v w : Value} (h : Relays fields u v) (h' : Relays fields v w) : Relays fields u w
  /-- The members come in another order. -/
  | permuted {ms ms' : List (Octets × Value)} (h : ms.Perm ms') :
      Relays fields (.object ms) (.object ms')
  /-- A name is written with other escapes. -/
  | respelled {before after : List (Octets × Value)} {raw raw' : Octets} {name : String} {v : Value}
      (h : Means raw name) (h' : Means raw' name) :
      Relays fields (.object (before ++ (raw, v) :: after)) (.object (before ++ (raw', v) :: after))
  /-- There is one more member that no field names, with any value. -/
  | extended {before after : List (Octets × Value)} {raw : Octets} {name : String} {v : Value}
      (h : Means raw name) (hunknown : ∀ f ∈ fields, f.name ≠ name) :
      Relays fields (.object (before ++ after)) (.object (before ++ (raw, v) :: after))
  /-- The value of a field is laid out in another way. -/
  | inside {before after : List (Octets × Value)} {raw : Octets} {f : Field α} {v v' : Value}
      (hf : f ∈ fields) (h : Means raw f.name) (hv : f.schema.Relaid v v') :
      Relays fields (.object (before ++ (raw, v) :: after)) (.object (before ++ (raw, v') :: after))

variable {fields : List (Field α)} {xs : List α} {ms : List (Octets × Value)}

/-! ### Where fields stand -/

/-- No two fields at different places have the same name. -/
theorem index_unique (hnames : (fields.map (·.name)).Nodup) {i j : Nat} {f g : Field α}
    (hi : fields[i]? = some f) (hj : fields[j]? = some g) (h : f.name = g.name) : i = j := by
  have hlt : i < (fields.map (·.name)).length := by
    rw [List.length_map]
    exact (List.getElem?_eq_some_iff.1 hi).1
  refine (List.getElem?_inj hlt hnames).1 ?_
  rw [List.getElem?_map, List.getElem?_map, hi, hj]
  exact congrArg some h

/-- A name is that of no field, or of a field where it is looked for. -/
theorem find_cases (fields : List (Field α)) (name : String) :
    ((∀ f ∈ fields, f.name ≠ name)
        ∧ (fields.map member).findIdx? (·.name == name) = none)
      ∨ ∃ (i : Nat) (f : Field α), fields[i]? = some f ∧ f.name = name
        ∧ (fields.map member).findIdx? (·.name == name) = some i := by
  cases hfind : (fields.map member).findIdx? (·.name == name) with
  | none =>
    refine .inl ⟨fun f hf hname => ?_, rfl⟩
    have hnone := List.findIdx?_eq_none_iff.1 hfind f.member (List.mem_map.2 ⟨f, hf, rfl⟩)
    exact absurd hname (beq_eq_false_iff_ne.1 hnone)
  | some i =>
    obtain ⟨hi, hname, -⟩ := List.findIdx?_eq_some_iff_getElem.1 hfind
    rw [List.length_map] at hi
    refine .inr ⟨i, fields[i], List.getElem?_eq_getElem hi, ?_, rfl⟩
    rw [List.getElem_map] at hname
    exact beq_iff_eq.1 hname

/-- A member that a field names is read by the field, into its place, unless that is taken. -/
theorem readMembers_field {first : Bool} {raw : Octets} {bs next colon value : Octets}
    {places : List (Option α)} {i : Nat} {f : Field α} (hopen : Opens first bs next)
    (hkey : skipBlank next = 0x22 :: (raw ++ 0x22 :: colon)) (hmeans : Means raw f.name)
    (hcolon : skipBlank colon = 0x3a :: value) (hi : fields[i]? = some f)
    (hfind : (fields.map member).findIdx? (·.name == f.name) = some i) {place : Option α}
    (hplace : places[i]? = some place) (steps : Nat) :
    readMembers (fields.map member) (steps + 1) first places bs
      = if place.isSome then .error .mismatch
        else (f.schema.read value).bind fun r =>
          readMembers (fields.map member) steps false (places.set i (some r.1)) r.2 := by
  rw [readMembers_key hopen hkey hmeans hcolon, readNamed, hfind]
  dsimp only
  rw [List.getD_eq_getElem?_getD, hplace, List.getElem?_map, hi]
  rfl

/-- The next member is read: it is passed over, or it is read into the place of a field. -/
inductive NextMember (fields : List (Field α)) (raw : Octets) (v : Value) (first : Bool)
    (bs after : Octets) : Prop where
  /-- No field names it. -/
  | unknown {name : String} (hmeans : Means raw name) (hunknown : ∀ f ∈ fields, f.name ≠ name)
      (hread : ∀ steps places, readMembers (fields.map member) (steps + 1) first places bs
        = readMembers (fields.map member) steps false places after)
  /-- A field names it, and its place is empty or taken. -/
  | field {i : Nat} {f : Field α} {value : Octets} (hi : fields[i]? = some f)
      (hmeans : Means raw f.name) (hv : Stands (.value v) value after) (hafter : EndsNumeral after)
      (hread : ∀ steps places place, places[i]? = some place →
        readMembers (fields.map member) (steps + 1) first places bs
          = if place.isSome then .error .mismatch
            else (f.schema.read value).bind fun r =>
              readMembers (fields.map member) steps false (places.set i (some r.1)) r.2)

/-- Where members stand, the first of them is the next that is read. -/
theorem nextMember {first : Bool} {raw : Octets} {v : Value} {bs rest : Octets}
    (hms : Stands (.members first ((raw, v) :: ms)) bs rest) (hname : ∃ name, Means raw name) :
    ∃ after, Stands (.members false ms) after rest ∧ NextMember fields raw v first bs after := by
  obtain ⟨name, hmeans⟩ := hname
  cases hms with
  | nextMember hopen hraw hkey hcolon hv hrest =>
    have hafter := hrest.endsNumeral (.inr ⟨_, rfl⟩)
    refine ⟨_, hrest, ?_⟩
    obtain ⟨hunknown, hfind⟩ | ⟨i, f, hi, rfl, hfind⟩ := find_cases fields name
    · exact .unknown hmeans hunknown fun steps places =>
        readMembers_unknown hopen hkey hmeans hcolon hv hafter hfind steps
    · exact .field hi hmeans hv hafter fun steps places place hplace =>
        readMembers_field hopen hkey hmeans hcolon hi hfind hplace steps

/-! ### Places that are filled one after the other -/

/-- Of each field something holds that depends on the values that the members to come have for it,
and on what its place holds. -/
structure AtPlaces (fields : List (Field α)) (R : Nat → Field α → List Value → Option α → Prop)
    (ms : List (Octets × Value)) (places : List (Option α)) : Prop where
  length : places.length = fields.length
  holds : ∀ (i : Nat) f place, fields[i]? = some f → places[i]? = some place →
    R i f (valuesOf ms f.name) place

section

variable {R : Nat → Field α → List Value → Option α → Prop} {places : List (Option α)}
  {raw : Octets} {v : Value}

/-- At first all places are empty. -/
theorem atPlaces_empty (h : ∀ (i : Nat) f, fields[i]? = some f → R i f (valuesOf ms f.name) none) :
    AtPlaces fields R ms (List.replicate (fields.map member).length none) where
  length := by rw [List.length_replicate, List.length_map]
  holds i f place hf hplace := by
    rw [List.getElem?_replicate] at hplace
    split at hplace
    · cases hplace
      exact h i f hf
    · cases hplace

/-- The field of a member has a place. -/
theorem AtPlaces.first (h : AtPlaces fields R ((raw, v) :: ms) places) {i : Nat} {f : Field α}
    (hi : fields[i]? = some f) (hmeans : Means raw f.name) :
    ∃ place, places[i]? = some place ∧ R i f (v :: valuesOf ms f.name) place := by
  have hlt : i < places.length := h.length ▸ (List.getElem?_eq_some_iff.1 hi).1
  have hplace : places[i]? = some places[i] := List.getElem?_eq_getElem hlt
  refine ⟨places[i], hplace, ?_⟩
  rw [← valuesOf_cons_self hmeans]
  exact h.holds i f places[i] hi hplace

/-- A member that no field names changes nothing. -/
theorem AtPlaces.skip (h : AtPlaces fields R ((raw, v) :: ms) places) {name : String}
    (hmeans : Means raw name) (hunknown : ∀ f ∈ fields, f.name ≠ name) :
    AtPlaces fields R ms places where
  length := h.length
  holds i f place hf hplace := by
    rw [← valuesOf_cons_of_ne hmeans (hunknown f (List.mem_of_getElem? hf)).symm v ms]
    exact h.holds i f place hf hplace

/-- A member that is read into a place changes nothing about the other fields. -/
theorem AtPlaces.take (h : AtPlaces fields R ((raw, v) :: ms) places)
    (hnames : (fields.map (·.name)).Nodup) {i : Nat} {f : Field α} (hi : fields[i]? = some f)
    (hmeans : Means raw f.name) {x : α} (hx : R i f (valuesOf ms f.name) (some x)) :
    AtPlaces fields R ms (places.set i (some x)) where
  length := by rw [List.length_set, h.length]
  holds j g place hg hplace := by
    by_cases hij : i = j
    · subst hij
      have hlt : i < places.length := h.length ▸ (List.getElem?_eq_some_iff.1 hi).1
      rw [hi] at hg
      rw [List.getElem?_set_self hlt] at hplace
      cases hg
      cases hplace
      exact hx
    · have hother : f.name ≠ g.name := fun heq => hij (index_unique hnames hi hg heq)
      rw [List.getElem?_set_ne hij] at hplace
      rw [← valuesOf_cons_of_ne hmeans hother v ms]
      exact h.holds j g place hg hplace

end

/-- What becomes of the place of a field: it is taken and no member names the field any more, or it
is empty and one member shows the value of the field. -/
def Settled (xs : List α) (i : Nat) (f : Field α) (vs : List Value) : Option α → Prop
  | some x => xs[i]? = some x ∧ vs = []
  | none => ∃ v x, vs = [v] ∧ xs[i]? = some x ∧ f.schema.Shows x v

/-- When no member is left, the places hold the values. -/
theorem AtPlaces.eq_map_some {places : List (Option α)}
    (h : AtPlaces fields (Settled xs) [] places) (hlength : xs.length = fields.length) :
    places = xs.map some := by
  have hplaces := h.length
  refine List.ext_getElem (by rw [List.length_map]; omega) fun i hi hi' => ?_
  rw [List.length_map] at hi'
  have hsettled := h.holds i fields[i] places[i] (List.getElem?_eq_getElem (by omega))
    (List.getElem?_eq_getElem hi)
  rw [List.getElem_map]
  cases hplace : places[i] with
  | none =>
    rw [hplace] at hsettled
    obtain ⟨v, x, hv, -⟩ := hsettled
    cases hv
  | some x =>
    rw [hplace] at hsettled
    obtain ⟨hx, -⟩ := hsettled
    rw [List.getElem?_eq_getElem hi'] at hx
    exact hx.symm

/-- The members that show the values of fields are read into the places. -/
theorem readMembers_shown (hnames : (fields.map (·.name)).Nodup) {first : Bool}
    {bs rest : Octets} (hms : Stands (.members first ms) bs rest) (hkeys : Named ms)
    (hlength : xs.length = fields.length) {places : List (Option α)}
    (h : AtPlaces fields (Settled xs) ms places) {steps : Nat} (hsteps : ms.length < steps) :
    readMembers (fields.map member) steps first places bs = .ok (xs.map some, rest) := by
  obtain ⟨steps, rfl⟩ : ∃ n, steps = n + 1 := ⟨steps - 1, by omega⟩
  -- By induction on the members: whichever comes next, every field is settled after it.
  induction ms generalizing first bs places steps with
  | nil =>
    cases hms with
    | noMember hend => rw [readMembers_noMember hend, h.eq_map_some hlength]
  | cons m ms ih =>
    obtain ⟨raw, v⟩ := m
    obtain ⟨hname, hkeys'⟩ := List.forall_mem_cons.1 hkeys
    obtain ⟨after, hrest, hnext⟩ := nextMember hms hname
    rw [List.length_cons] at hsteps
    obtain ⟨steps, rfl⟩ : ∃ n, steps = n + 1 := ⟨steps - 1, by omega⟩
    cases hnext with
    | unknown hmeans hunknown hread =>
      rw [hread]
      exact ih hrest hkeys' (h.skip hmeans hunknown) steps (by omega)
    | @field i f value hi hmeans hv hafter hread =>
      obtain ⟨place, hplace, hsettled⟩ := h.first hi hmeans
      rw [hread (steps + 1) places place hplace]
      cases place with
      | some x => cases hsettled.2
      | none =>
        obtain ⟨w, x, hw, hx, hshows⟩ := hsettled
        obtain ⟨rfl, hnone⟩ := List.cons.inj hw
        rw [if_neg (by simp), f.schema.reads hshows hv hafter]
        exact ih hrest hkeys' (h.take hnames hi hmeans ⟨hx, hnone⟩) steps (by omega)

/-- A field whose place is empty comes first with a value of its own or a flawed one, if it
comes. -/
def Awaited (_ : Nat) (f : Field α) (vs : List Value) (place : Option α) : Prop :=
  place = none → ∀ v ∈ vs.head?, (∃ x, f.schema.Shows x v) ∨ f.schema.Flawed v

/-- Something is amiss with a field: its place is taken and a member names it again, or its place is
empty and no member names it, or more than one, or one with a flawed value. -/
def Amiss (f : Field α) (vs : List Value) : Option α → Prop
  | some _ => vs ≠ []
  | none => vs = [] ∨ 2 ≤ vs.length ∨ ∃ v ∈ vs.head?, f.schema.Flawed v

/-- Where something is amiss with a field although its first value is its own, it is named again. -/
theorem Amiss.again {f : Field α} {v : Value} {vs : List Value} (h : f.Amiss (v :: vs) none)
    (hown : ¬ f.schema.Flawed v) (x : α) : f.Amiss vs (some x) := by
  rintro rfl
  obtain hnil | htwo | ⟨w, hw, hflawed⟩ := h
  · cases hnil
  · exact absurd htwo (by simp)
  · cases hw
    exact hown hflawed

/-- Where something is amiss with a field, the members are a mismatch, or they leave a place
empty. -/
theorem readMembers_amiss (hnames : (fields.map (·.name)).Nodup) {first : Bool}
    {bs rest : Octets} (hms : Stands (.members first ms) bs rest) (hkeys : Named ms)
    {places : List (Option α)} (h : AtPlaces fields Awaited ms places)
    (hamiss : ∃ (i : Nat) (f : Field α) (place : Option α), fields[i]? = some f
      ∧ places[i]? = some place ∧ f.Amiss (valuesOf ms f.name) place)
    {steps : Nat} (hsteps : ms.length < steps) :
    readMembers (fields.map member) steps first places bs = .error .mismatch
      ∨ ∃ places', readMembers (fields.map member) steps first places bs = .ok (places', rest)
        ∧ none ∈ places' := by
  obtain ⟨steps, rfl⟩ : ∃ n, steps = n + 1 := ⟨steps - 1, by omega⟩
  obtain ⟨k, g, kept, hk, hkept, hamiss⟩ := hamiss
  -- By induction on the members: the field stays amiss until it comes again or the members end.
  induction ms generalizing first bs places steps kept with
  | nil =>
    cases hms with
    | noMember hend =>
      refine .inr ⟨places, readMembers_noMember hend steps, ?_⟩
      cases kept with
      | none => exact List.mem_of_getElem? hkept
      | some x => exact absurd rfl hamiss
  | cons m ms ih =>
    obtain ⟨raw, v⟩ := m
    obtain ⟨hname, hkeys'⟩ := List.forall_mem_cons.1 hkeys
    obtain ⟨after, hrest, hnext⟩ := nextMember hms hname
    rw [List.length_cons] at hsteps
    obtain ⟨steps, rfl⟩ : ∃ n, steps = n + 1 := ⟨steps - 1, by omega⟩
    cases hnext with
    | unknown hmeans hunknown hread =>
      have hother := (hunknown g (List.mem_of_getElem? hk)).symm
      rw [valuesOf_cons_of_ne hmeans hother] at hamiss
      rw [hread]
      exact ih hrest hkeys' (h.skip hmeans hunknown) steps (by omega) kept hkept hamiss
    | @field i f value hi hmeans hv hafter hread =>
      obtain ⟨place, hplace, hawaited⟩ := h.first hi hmeans
      rw [hread (steps + 1) places place hplace]
      cases place with
      | some x => exact .inl (if_pos rfl)
      | none =>
        rw [if_neg (by simp)]
        obtain ⟨x, hshows⟩ | hflawed := hawaited rfl v rfl
        swap
        · rw [f.schema.declines hflawed hv hafter]
          exact .inl rfl
        have htaken : AtPlaces fields Awaited ms (places.set i (some x)) :=
          h.take hnames hi hmeans nofun
        rw [f.schema.reads hshows hv hafter]
        by_cases hik : i = k
        · -- The field has its value, so what is amiss with it is a member that comes later.
          subst hik
          rw [hi] at hk
          cases hk
          rw [hplace] at hkept
          cases hkept
          rw [valuesOf_cons_self hmeans] at hamiss
          exact ih hrest hkeys' htaken steps (by omega) (some x)
            (List.getElem?_set_self (List.getElem?_eq_some_iff.1 hplace).1)
            (hamiss.again (g.schema.not_flawed hshows hv hafter) x)
        · have hother : f.name ≠ g.name := fun heq => hik (index_unique hnames hi hk heq)
          rw [valuesOf_cons_of_ne hmeans hother] at hamiss
          exact ih hrest hkeys' htaken steps (by omega) kept
            (by rw [List.getElem?_set_ne hik, hkept]) hamiss

/-! ### The schema of a record -/

/-- Members with the same values of every field, whose keys mean names too, show the same. -/
theorem ShownBy.of_values {ms' : List (Octets × Value)} (h : ShownBy fields xs ms)
    (hkeys : Named ms')
    (hvalues : ∀ f ∈ fields, valuesOf ms' f.name = valuesOf ms f.name) : ShownBy fields xs ms' where
  keys := hkeys
  length := h.length
  once i f x hf hx := by
    rw [hvalues f (List.mem_of_getElem? hf)]
    exact h.once i f x hf hx

/-- A member of a field may have its value laid out in another way. -/
theorem ShownBy.inside (hnames : (fields.map (·.name)).Nodup)
    {before after : List (Octets × Value)} {raw : Octets} {f : Field α} {v v' : Value}
    (h : ShownBy fields xs (before ++ (raw, v) :: after)) (hf : f ∈ fields)
    (hmeans : Means raw f.name) (hv : f.schema.Relaid v v') :
    ShownBy fields xs (before ++ (raw, v') :: after) where
  keys := named_append_cons.2 (named_append_cons.1 h.keys)
  length := h.length
  once i g x hg hx := by
    obtain ⟨w, hw, hshows⟩ := h.once i g x hg hx
    rw [valuesOf_append] at hw ⊢
    by_cases hname : f.name = g.name
    · -- The field whose value it is has no other member.
      obtain ⟨j, hj⟩ := List.getElem?_of_mem hf
      rw [← index_unique hnames hj hg hname, hj] at hg
      cases hg
      rw [valuesOf_cons_self hmeans] at hw ⊢
      obtain ⟨hbefore, hvalue⟩ | ⟨-, hvalue⟩ := List.append_eq_singleton_iff.1 hw
      · obtain ⟨rfl, hafter⟩ := List.cons.inj hvalue
        exact ⟨v', by rw [hbefore, hafter]; rfl, f.schema.keeps hshows hv⟩
      · cases hvalue
    · rw [valuesOf_cons_of_ne hmeans hname] at hw ⊢
      exact ⟨w, hw, hshows⟩

/-- Laid out in another way, a record shows the same. -/
theorem ShownBy.relaid (hnames : (fields.map (·.name)).Nodup) {u v : Value}
    (h : Relays fields u v) (hu : ∃ ms, u = .object ms ∧ ShownBy fields xs ms) :
    ∃ ms, v = .object ms ∧ ShownBy fields xs ms := by
  induction h with
  | refl v => exact hu
  | trans _ _ ih ih' => exact ih' (ih hu)
  | @permuted ms ms' hperm =>
    obtain ⟨_, heq, hms⟩ := hu
    cases heq
    refine ⟨ms', rfl, fun m hm => hms.keys m (hperm.mem_iff.2 hm), hms.length,
      fun i f x hf hx => ?_⟩
    obtain ⟨v, hv, hshows⟩ := hms.once i f x hf hx
    exact ⟨v, valuesOf_perm hperm hv, hshows⟩
  | @respelled before after raw raw' name v hmeans hmeans' =>
    obtain ⟨_, heq, hms⟩ := hu
    cases heq
    obtain ⟨hbefore, -, hafter⟩ := named_append_cons.1 hms.keys
    refine ⟨_, rfl, hms.of_values (named_append_cons.2 ⟨hbefore, ⟨name, hmeans'⟩, hafter⟩)
      fun f hf => ?_⟩
    rw [valuesOf_append, valuesOf_append]
    by_cases hname : name = f.name
    · rw [valuesOf_cons_self (hname ▸ hmeans'), valuesOf_cons_self (hname ▸ hmeans)]
    · rw [valuesOf_cons_of_ne hmeans' hname, valuesOf_cons_of_ne hmeans hname]
  | @extended before after raw name v hmeans hunknown =>
    obtain ⟨_, heq, hms⟩ := hu
    cases heq
    obtain ⟨hbefore, hafter⟩ := List.forall_mem_append.1 hms.keys
    refine ⟨_, rfl, hms.of_values (named_append_cons.2 ⟨hbefore, ⟨name, hmeans⟩, hafter⟩)
      fun f hf => ?_⟩
    rw [valuesOf_append, valuesOf_append, valuesOf_cons_of_ne hmeans (hunknown f hf).symm]
  | inside hf hmeans hv =>
    obtain ⟨_, heq, hms⟩ := hu
    cases heq
    exact ⟨_, rfl, hms.inside hnames hf hmeans hv⟩

end Field

/-- The places that are taken give the values of a record. -/
theorem mapM_some {α : Type} (xs : List α) : (xs.map some).mapM id = some xs := by
  induction xs with
  | nil => rfl
  | cons x xs ih =>
    rw [List.map_cons, List.mapM_cons, ih]
    rfl

/-- A place that is empty gives no record. -/
theorem mapM_none {α : Type} {places : List (Option α)} (h : none ∈ places) :
    places.mapM id = none := by
  induction places with
  | nil => cases h
  | cons place places ih =>
    rw [List.mapM_cons]
    cases place with
    | none => rfl
    | some x =>
      have hrest : none ∈ places := (List.mem_cons.1 h).resolve_left nofun
      rw [ih hrest]
      rfl

/-- Records, from the schemas of their fields. -/
def Schema.record {α : Type} (fields : List (Field α)) (hnames : (fields.map (·.name)).Nodup) :
    Schema (List α) where
  read := readRecord (fields.map Field.member)
  Shows xs v := ∃ ms, v = .object ms ∧ Field.ShownBy fields xs ms
  Flawed v := ∃ ms, v = .object ms ∧ Field.FlawedIn fields ms
  Relaid := Field.Relays fields
  reads := by
    rintro xs v bs rest ⟨ms, rfl, hms⟩ hv -
    cases hv with
    | @object _ _ inside _ hbs hinside =>
      have hsize := hinside.length_le
      dsimp only [Part.size] at hsize
      have hread : readMembers (fields.map Field.member) (inside.length + 1) true
          (List.replicate (fields.map Field.member).length none) inside
            = .ok (xs.map some, rest) := by
        refine Field.readMembers_shown hnames hinside hms.keys hms.length
          (Field.atPlaces_empty fun i f hf => ?_) (by omega)
        have hlt : i < xs.length := hms.length ▸ (List.getElem?_eq_some_iff.1 hf).1
        have hx : xs[i]? = some xs[i] := List.getElem?_eq_getElem hlt
        obtain ⟨v, hv, hshows⟩ := hms.once i f _ hf hx
        exact ⟨v, xs[i], hv, hx, hshows⟩
      unfold readRecord
      rw [hbs]
      dsimp only
      rw [if_pos rfl, hread]
      dsimp only [bind, Except.bind]
      rw [mapM_some]
      rfl
  declines := by
    rintro v bs rest ⟨ms, rfl, hms⟩ hv -
    cases hv with
    | @object _ _ inside _ hbs hinside =>
      have hsize := hinside.length_le
      dsimp only [Part.size] at hsize
      have hamiss : ∃ (i : Nat) (f : Field α) (place : Option α), fields[i]? = some f
          ∧ (List.replicate (fields.map Field.member).length none)[i]? = some place
          ∧ f.Amiss (valuesOf ms f.name) place := by
        obtain ⟨f, hf, hflaw⟩ := hms.flaw
        obtain ⟨i, hi⟩ := List.getElem?_of_mem hf
        have hlt := (List.getElem?_eq_some_iff.1 hi).1
        refine ⟨i, f, none, hi, ?_, hflaw⟩
        rw [List.getElem?_replicate, List.length_map, if_pos hlt]
      unfold readRecord
      rw [hbs]
      dsimp only
      rw [if_pos rfl]
      -- The members are a mismatch at once, or a place is empty in the end.
      obtain hread | ⟨places, hread, hnone⟩ := Field.readMembers_amiss hnames hinside hms.keys
        (Field.atPlaces_empty fun i f hf _ => hms.values f (List.mem_of_getElem? hf)) hamiss
        (by omega : ms.length < inside.length + 1)
      · rw [hread]
        rfl
      · rw [hread]
        dsimp only [bind, Except.bind]
        rw [mapM_none hnone]
  keeps := fun hshows hrelaid => Field.ShownBy.relaid hnames hrelaid hshows

end ChatBoard.Json
