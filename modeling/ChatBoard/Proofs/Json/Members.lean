import ChatBoard.Json.TextList
import ChatBoard.Proofs.Json.Content

/-!
# What readers take

`Takes read shows` says that whatever a reader reads is a value of the grammar, and that `shows`
holds of the result and the value. An object that is read by its fields has the member of a field
once or not at all, just as its place is filled or empty (`Fills`, `object_of_readObject`): a second
member of the name would not be read. Members that no field names are passed over, so nothing is
known of them but that they are in the grammar.
-/

namespace ChatBoard.Json

/-- What a reader takes is a value, of which a relation to the result holds. -/
def Takes {α : Type} (read : Reader α) (shows : α → Value → Prop) : Prop :=
  ∀ bs x rest, read bs = .ok (x, rest) → ∃ v, Stands (.value v) bs rest ∧ shows x v

/-! ## Readers of one value -/

section

variable {α : Type} {read : Reader α} {shows : α → Value → Prop}

/-- What a function makes of what is taken is said of the same value. -/
theorem Takes.map {β : Type} {f : α → β} {read' : Reader β} {shows' : β → Value → Prop}
    (h : Takes read shows) (hread : ∀ bs, read' bs = (read bs).map fun r => (f r.1, r.2))
    (hshows : ∀ x v, shows x v → shows' (f x) v) : Takes read' shows' := by
  intro bs y rest hy
  rw [hread] at hy
  obtain ⟨⟨x, after⟩, hx, hy⟩ := exists_of_map_eq_ok hy
  cases hy
  obtain ⟨v, hv, hx⟩ := h _ _ _ hx
  exact ⟨v, hv, hshows x v hx⟩

/-- A text is what a string means. -/
theorem takes_readText : Takes readText fun s v => ∃ raw, v = .string raw ∧ Means raw s := by
  intro bs s rest h
  unfold readText at h
  split at h
  · cases h
  next b tail hbs =>
    split at h
    next hb =>
      subst hb
      obtain ⟨raw, hraw, hmeans, rfl⟩ := exists_raw_of_readTextBody h
      exact ⟨.string raw, .string hraw hbs, raw, rfl, hmeans⟩
    · cases h

/-- An integer of a range is read from its written form. -/
theorem takes_readIntIn (least greatest : Int) : Takes (readIntIn least greatest) fun i v =>
    v = .number (writeInt i) ∧ least ≤ i ∧ i ≤ greatest := by
  intro bs i rest h
  unfold readIntIn readNumberAs at h
  split at h
  · cases h
  next b tail hbs =>
    split at h
    · split at h
      · cases h
      next n after hread =>
        obtain ⟨numeral, hnumeral, htail, hinteger⟩ := readNumber_numeral hread
        cases n with
        | integer j =>
          dsimp only at h
          by_cases hrange : least ≤ j ∧ j ≤ greatest
          · have hwritten := hinteger j rfl
            rw [if_pos hrange] at h
            cases h
            exact ⟨.number numeral, .number hnumeral (hbs.trans htail), by rw [hwritten], hrange⟩
          · rw [if_neg hrange] at h
            cases h
        | real x => cases h
    · cases h

/-- Null is taken, or what another reader takes. -/
theorem takes_readNullOr (h : Takes read shows) : Takes (readNullOr read) fun x v =>
    match x with
    | none => v = .word .null
    | some y => shows y v := by
  intro bs x rest hread
  unfold readNullOr at hread
  split at hread
  · cases hread
  next b tail hbs =>
    split at hread
    next hb =>
      obtain ⟨after, hword, hx⟩ := exists_of_map_eq_ok hread
      cases hx
      refine ⟨.word .null, .word ?_, rfl⟩
      rw [hbs, hb, eq_append_of_readWord hword]
      rfl
    · obtain ⟨⟨y, after⟩, hy, hx⟩ := exists_of_map_eq_ok hread
      cases hx
      exact h _ _ _ hy

/-- The values of a list are taken one after the other. -/
theorem values_of_readListFrom (h : Takes read shows) {steps : Nat} {first : Bool} {xs : List α}
    {bs rest : Octets} (hread : readListFrom read steps first bs = .ok (xs, rest)) :
    ∃ vs, Stands (.values first vs) bs rest := by
  induction steps generalizing first bs xs with
  | zero => cases hread
  | succ steps ih =>
    unfold readListFrom at hread
    split at hread
    · cases hread
    next b tail hbs =>
    split at hread
    next hclosing =>
      cases hread
      rw [hclosing.1] at hbs
      exact ⟨[], .noValue hbs⟩
    obtain ⟨value, htoItem, hvalue⟩ := exists_of_bind_eq_ok hread
    obtain ⟨⟨x, after⟩, hx, hmore⟩ := exists_of_bind_eq_ok hvalue
    obtain ⟨v, hv, -⟩ := h _ _ _ hx
    have hopens : ∃ next, Opens first bs next ∧ Stands (.value v) next after := by
      unfold toItem at htoItem
      split at htoItem
      next hfirst =>
        subst hfirst
        cases htoItem
        rw [← hbs] at hv
        exact ⟨bs, rfl, hv.of_skipBlank⟩
      next hfirst =>
        obtain rfl := Bool.eq_false_iff.2 hfirst
        split at htoItem
        next hb =>
          subst hb
          cases htoItem
          exact ⟨_, hbs, hv⟩
        · cases htoItem
    obtain ⟨next, hopen, hv⟩ := hopens
    dsimp only at hmore
    split at hmore
    · cases hmore
    next c tail' hafter =>
      split at hmore
      next hclosing =>
        subst hclosing
        cases hmore
        exact ⟨[v], .nextValue hopen hv (.noValue hafter)⟩
      · obtain ⟨⟨ys, rest'⟩, hys, hxs⟩ := exists_of_bind_eq_ok hmore
        cases hxs
        obtain ⟨vs, hvs⟩ := ih hys
        exact ⟨v :: vs, .nextValue hopen hv hvs⟩

/-- A list of values is a list. -/
theorem takes_readList (h : Takes read shows) :
    Takes (readList read) fun _ v => ∃ vs, v = .list vs := by
  intro bs xs rest hread
  unfold readList at hread
  split at hread
  · cases hread
  next inside hopening =>
    obtain ⟨vs, hvs⟩ := values_of_readListFrom h hread
    exact ⟨.list vs, .list (readMark_eq_ok_iff.1 hopening) hvs, vs, rfl⟩

/-- A value that may also be one that can only be passed over is one. -/
theorem takes_readOrPass (attempt : Octets → Attempt Content) :
    Takes (readOrPass attempt) fun _ _ => True := by
  intro bs x rest hread
  unfold readOrPass at hread
  split at hread
  · cases hread
  next after hskip =>
    obtain ⟨v, hv⟩ := exists_value_of_skip hskip
    have hrest : rest = after := by
      split at hread
      · cases hread
        rfl
      · split at hread
        · cases hread
          rfl
        · cases hread
    subst hrest
    exact ⟨v, hv, trivial⟩

end

/-! ## Members by name -/

/-- No member has the name. -/
def HasNone (ms : List (Octets × Value)) (name : String) : Prop := ∀ m ∈ ms, ¬ Means m.1 name

/-- One member has the name, with a value, and no other one has it. -/
def HasOnce (ms : List (Octets × Value)) (name : String) (v : Value) : Prop :=
  ∃ before raw after, ms = before ++ (raw, v) :: after ∧ Means raw name
    ∧ HasNone (before ++ after) name

variable {ms : List (Octets × Value)} {name : String} {raw : Octets} {v w : Value}

/-- A member of the name before others that do not have it is the only one. -/
theorem HasNone.once (h : HasNone ms name) (hraw : Means raw name) (v : Value) :
    HasOnce ((raw, v) :: ms) name v := ⟨[], raw, ms, rfl, hraw, h⟩

/-- A member of another name is none of the name. -/
theorem HasNone.cons (h : HasNone ms name) (hraw : ¬ Means raw name) (w : Value) :
    HasNone ((raw, w) :: ms) name := List.forall_mem_cons.2 ⟨hraw, h⟩

/-- A member of another name leaves the only one the only one. -/
theorem HasOnce.cons (h : HasOnce ms name v) (hraw : ¬ Means raw name) (w : Value) :
    HasOnce ((raw, w) :: ms) name v := by
  obtain ⟨before, key, after, rfl, hkey, hnone⟩ := h
  exact ⟨(raw, w) :: before, key, after, rfl, hkey, hnone.cons hraw w⟩

section

variable {α : Type} {shows : String → α → Value → Prop}

/-- How the place of a field is filled from members: once, if it was empty, and not again. -/
def Fills (shows : String → α → Value → Prop) (ms : List (Octets × Value)) (name : String) :
    Option α → Option α → Prop
  | some x, place => place = some x ∧ HasNone ms name
  | none, none => HasNone ms name
  | none, some x => ∃ v, HasOnce ms name v ∧ shows name x v

/-- A member of another name fills nothing. -/
theorem Fills.cons {place place' : Option α} (h : Fills shows ms name place place')
    (hraw : ¬ Means raw name) (w : Value) : Fills shows ((raw, w) :: ms) name place place' := by
  cases place with
  | some x => exact ⟨h.1, h.2.cons hraw w⟩
  | none =>
    cases place' with
    | none => exact HasNone.cons h hraw w
    | some x =>
      obtain ⟨v, hv, hx⟩ := h
      exact ⟨v, hv.cons hraw w, hx⟩

/-- A member of the name fills an empty place. -/
theorem Fills.first {x : α} {place : Option α} (h : Fills shows ms name (some x) place)
    (hraw : Means raw name) (hx : shows name x v) :
    Fills shows ((raw, v) :: ms) name none place := by
  obtain ⟨rfl, hnone⟩ := h
  exact ⟨v, hnone.once hraw v, hx⟩

/-! ## Objects -/

variable {fields : List (Member α)}

/-- A key comes next, behind a comma unless it is the first. -/
theorem exists_opens_of_toKey {first : Bool} {b : UInt8} {bs rest key : Octets}
    (hbs : skipBlank bs = b :: rest) (h : toKey first b rest = .ok key) :
    ∃ next, Opens first bs next ∧ skipBlank next = 0x22 :: key := by
  unfold toKey at h
  split at h
  next hfirst =>
    subst hfirst
    split at h
    next hb =>
      cases h
      subst hb
      exact ⟨bs, rfl, hbs⟩
    · cases h
  next hfirst =>
    obtain rfl := Bool.eq_false_iff.2 hfirst
    split at h
    next hb =>
      subst hb
      exact ⟨rest, hbs, readMark_eq_ok_iff.1 h⟩
    · cases h

/-- A member that is put into the empty place of its field fills it, if no later one has its
name. -/
theorem fills_of_set {x : α} {i : Nat} {places places' : List (Option α)}
    (hraw : Means raw name) (hx : shows name x v)
    (hfind : fields.findIdx? (·.name == name) = some i) (hlength : places.length = fields.length)
    (hplace : places.getD i none = none)
    (h : ∀ name' i', fields.findIdx? (·.name == name') = some i' →
      Fills shows ms name' ((places.set i (some x)).getD i' none) (places'.getD i' none)) :
    ∀ name' i', fields.findIdx? (·.name == name') = some i' →
      Fills shows ((raw, v) :: ms) name' (places.getD i' none) (places'.getD i' none) := by
  intro name' i' hfind'
  have hfilled := h name' i' hfind'
  obtain ⟨hi, hname, -⟩ := List.findIdx?_eq_some_iff_getElem.1 hfind
  by_cases hsame : name' = name
  · subst hsame
    obtain rfl : i = i' := Option.some.inj (hfind.symm.trans hfind')
    have hfull : (places.set i (some x)).getD i none = some x := by
      rw [List.getD_eq_getElem?_getD, List.getElem?_set_self (by omega)]
      rfl
    rw [hfull] at hfilled
    rw [hplace]
    exact hfilled.first hraw hx
  · have hne : i ≠ i' := by
      rintro rfl
      obtain ⟨_, hname', -⟩ := List.findIdx?_eq_some_iff_getElem.1 hfind'
      exact hsame ((beq_iff_eq.1 hname').symm.trans (beq_iff_eq.1 hname))
    have hstays : (places.set i (some x)).getD i' none = places.getD i' none := by
      rw [List.getD_eq_getElem?_getD, List.getD_eq_getElem?_getD, List.getElem?_set_ne hne]
    rw [hstays] at hfilled
    exact hfilled.cons (fun hraw' => hsame (hraw'.unique hraw)) v

/-- The members of an object that is read are in the grammar, and each field's place is filled from
them. -/
theorem members_of_readMembers (hfields : ∀ f ∈ fields, Takes f.read (shows f.name)) {steps : Nat}
    {first : Bool} {places places' : List (Option α)} {bs rest : Octets}
    (hlength : places.length = fields.length)
    (h : readMembers fields steps first places bs = .ok (places', rest)) :
    ∃ ms, Stands (.members first ms) bs rest ∧ ∀ name i,
      fields.findIdx? (·.name == name) = some i →
        Fills shows ms name (places.getD i none) (places'.getD i none) := by
  induction steps generalizing first places bs with
  | zero => cases h
  | succ steps ih =>
    unfold readMembers at h
    split at h
    · cases h
    next b tail hbs =>
    split at h
    next hclosing =>
      subst hclosing
      cases h
      refine ⟨[], .noMember hbs, fun name i _ => ?_⟩
      cases places'.getD i none with
      | none => exact fun m hm => absurd hm List.not_mem_nil
      | some x => exact ⟨rfl, fun m hm => absurd hm List.not_mem_nil⟩
    obtain ⟨key, htoKey, hmember⟩ := exists_of_bind_eq_ok h
    obtain ⟨⟨name, colon⟩, hname, hvalue⟩ := exists_of_bind_eq_ok hmember
    obtain ⟨next, hopen, hkey⟩ := exists_opens_of_toKey hbs htoKey
    obtain ⟨raw, hraw, hmeans, rfl⟩ := exists_raw_of_readTextBody hname
    dsimp only at hvalue
    split at hvalue
    next hfind =>
      -- A member that no field names is passed over.
      obtain ⟨value, hcolon, hafter⟩ := exists_of_bind_eq_ok hvalue
      obtain ⟨after, hskip, hmore⟩ := exists_of_bind_eq_ok hafter
      obtain ⟨v, hv⟩ := exists_value_of_skip hskip
      obtain ⟨ms, hms, hfills⟩ := ih hlength hmore
      refine ⟨(raw, v) :: ms, .nextMember hopen hraw hkey (readMark_eq_ok_iff.1 hcolon) hv hms,
        fun name' i hi => (hfills name' i hi).cons (fun hmeans' => ?_) v⟩
      rw [hmeans'.unique hmeans, hfind] at hi
      cases hi
    next i hfind =>
      split at hvalue
      · cases hvalue
      next hplace =>
      split at hvalue
      · cases hvalue
      next field hfield =>
        -- The member goes into the place of its field, which is empty.
        obtain ⟨value, hcolon, hafter⟩ := exists_of_bind_eq_ok hvalue
        obtain ⟨⟨x, after⟩, hread, hmore⟩ := exists_of_bind_eq_ok hafter
        obtain ⟨hi, hfieldName, -⟩ := List.findIdx?_eq_some_iff_getElem.1 hfind
        obtain rfl : fields[i] = field := (List.getElem?_eq_some_iff.1 hfield).2
        obtain ⟨v, hv, hshows⟩ := hfields _ (List.getElem_mem hi) _ _ _ hread
        rw [beq_iff_eq.1 hfieldName] at hshows
        obtain ⟨ms, hms, hfills⟩ := ih (by rw [List.length_set, hlength]) hmore
        exact ⟨(raw, v) :: ms, .nextMember hopen hraw hkey (readMark_eq_ok_iff.1 hcolon) hv hms,
          fills_of_set hmeans hshows hfind hlength (Option.not_isSome_iff_eq_none.1 hplace) hfills⟩

/-- What an object is read into: the place of a field is filled by the only member of its name, or
empty where there is none. -/
theorem object_of_readMembers (hfields : ∀ f ∈ fields, Takes f.read (shows f.name)) {steps : Nat}
    {places : List (Option α)} {bs inside rest : Octets} (hbs : skipBlank bs = 0x7b :: inside)
    (h : readMembers fields steps true (List.replicate fields.length none) inside
      = .ok (places, rest)) :
    ∃ ms, Stands (.value (.object ms)) bs rest ∧ ∀ name i,
      fields.findIdx? (·.name == name) = some i →
        Fills shows ms name none (places.getD i none) := by
  obtain ⟨ms, hms, hfills⟩ := members_of_readMembers hfields List.length_replicate h
  refine ⟨ms, .object hbs hms, fun name i hi => ?_⟩
  have hempty : (List.replicate fields.length (none : Option α)).getD i none = none := by
    rw [List.getD_eq_getElem?_getD, List.getElem?_replicate]
    split <;> rfl
  have hfilled := hfills name i hi
  rwa [hempty] at hfilled

/-! ## Lists -/

/-- A value of a list comes next, behind a comma unless it is the first. -/
theorem exists_opens_of_toElement {first : Bool} {bs value after : Octets}
    (h : toElement first bs = .ok value) (hv : Stands (.value v) value after) :
    ∃ next, Opens first bs next ∧ Stands (.value v) next after := by
  unfold toElement at h
  split at h
  · cases h
  next b tail hbs =>
  split at h
  · cases h
  split at h
  next hfirst =>
    subst hfirst
    cases h
    rw [← hbs] at hv
    exact ⟨bs, rfl, hv.of_skipBlank⟩
  next hfirst =>
    obtain rfl := Bool.eq_false_iff.2 hfirst
    split at h
    next hb =>
      subst hb
      split at h
      · cases h
      · split at h
        · cases h
        · cases h
          exact ⟨value, hbs, hv⟩
    · cases h

/-- The values of a list that is read by fields are in the grammar, one for each field. -/
theorem values_of_readElements (hfields : ∀ f ∈ fields, Takes f.read (shows f.name)) {first : Bool}
    {bs after rest : Octets} {xs : List α} (h : readElements fields first bs = .ok (xs, after))
    (hclosing : skipBlank after = 0x5d :: rest) :
    ∃ vs, Stands (.values first vs) bs rest ∧ vs.length = fields.length
      ∧ ∀ (i : Nat) (f : Member α) (x : α), fields[i]? = some f → xs[i]? = some x →
        ∃ v, vs[i]? = some v ∧ shows f.name x v := by
  induction fields generalizing first bs xs with
  | nil =>
    cases h
    exact ⟨[], .noValue hclosing, rfl, fun i f x hf => (nomatch hf)⟩
  | cons field more ih =>
    unfold readElements at h
    obtain ⟨value, htoElement, hvalue⟩ := exists_of_bind_eq_ok h
    obtain ⟨⟨x, next⟩, hread, hmore⟩ := exists_of_bind_eq_ok hvalue
    obtain ⟨⟨ys, after'⟩, hys, hxs⟩ := exists_of_bind_eq_ok hmore
    cases hxs
    obtain ⟨v, hv, hshows⟩ := hfields field List.mem_cons_self _ _ _ hread
    obtain ⟨start, hopen, hv⟩ := exists_opens_of_toElement htoElement hv
    obtain ⟨vs, hvs, hlength, hthose⟩ :=
      ih (fun f hf => hfields f (List.mem_cons_of_mem _ hf)) hys
    refine ⟨v :: vs, .nextValue hopen hv hvs, congrArg (· + 1) hlength, fun i f x' hf hx' => ?_⟩
    cases i with
    | zero =>
      cases hf
      cases hx'
      exact ⟨v, rfl, hshows⟩
    | succ i => exact hthose i f x' hf hx'

end

end ChatBoard.Json
