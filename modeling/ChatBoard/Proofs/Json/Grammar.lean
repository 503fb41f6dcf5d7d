import ChatBoard.Json.Number
import ChatBoard.Proofs.Json.Text

/-!
# The grammar of JSON

A `Value` is what a text says without what it means: strings and numerals are kept as the octets
that they are written with. `Stands (.value v) bs rest` says that `v` is written in front of `bs`,
maybe after blanks, and that `rest` follows it; for the values of a list and the members of an
object it says the same up to the closing mark. Strings are those of the grammar, whatever they
mean: `Means raw s` says which of them are a text. Nothing is written in two ways that a text could
be read in (`Stands.only`), so a whole text is that of one value (`Value.WrittenAs.unique`).
-/

namespace ChatBoard.Json

/-! ## Strings and numerals -/

/-- What may stand between the quotes of a string, whether or not it means a text. -/
inductive IsQuoted : Octets → Prop where
  | nil : IsQuoted []
  | verbatim {b : UInt8} {raw : Octets} (hb : IsVerbatim b) (more : IsQuoted raw) :
      IsQuoted (b :: raw)
  | escape {e : UInt8} {raw : Octets} (he : (simpleEscape? e).isSome) (more : IsQuoted raw) :
      IsQuoted (0x5c :: e :: raw)
  | unit {p q r s : UInt8} {raw : Octets} (hn : (hexUnit? p q r s).isSome) (more : IsQuoted raw) :
      IsQuoted (0x5c :: 0x75 :: p :: q :: r :: s :: raw)

/-- What stands between the quotes of a string means a text. -/
def Means (raw : Octets) (s : String) : Prop := Spells (raw ++ [0x22]) (Octets.ofText s) []

/-- One digit or more. -/
def IsDigits (ds : Octets) : Prop := ds ≠ [] ∧ ∀ d ∈ ds, isDigit d = true

/-- The digits before the point: a zero stands alone. -/
inductive IsWhole : Octets → Prop where
  | zero : IsWhole [0x30]
  | digits {d : UInt8} {ds : Octets} (hzero : d ≠ 0x30) (h : ∀ c ∈ d :: ds, isDigit c = true) :
      IsWhole (d :: ds)

/-- The point and the digits after it, which may be missing. -/
inductive IsFraction : Octets → Prop where
  | none : IsFraction []
  | some {ds : Octets} (h : IsDigits ds) : IsFraction (0x2e :: ds)

/-- The exponent, which may be missing. -/
inductive IsExponent : Octets → Prop where
  | none : IsExponent []
  | some {mark : UInt8} {sign ds : Octets} (hmark : isExponentMark mark = true)
      (hsign : sign = [] ∨ sign = [0x2b] ∨ sign = [0x2d]) (h : IsDigits ds) :
      IsExponent (mark :: (sign ++ ds))

/-- A numeral, of any size. -/
inductive IsNumeral : Octets → Prop where
  | mk {sign whole fraction exponent : Octets} (hsign : sign = [] ∨ sign = [0x2d])
      (hwhole : IsWhole whole) (hfraction : IsFraction fraction)
      (hexponent : IsExponent exponent) : IsNumeral (sign ++ (whole ++ (fraction ++ exponent)))

/-! ## Values -/

/-- A value that is a word. -/
inductive Word where
  | null
  | true
  | false
  deriving DecidableEq, Repr

/-- The octets of a word. -/
def Word.octets : Word → Octets
  | .null => [0x6e, 0x75, 0x6c, 0x6c]
  | .true => [0x74, 0x72, 0x75, 0x65]
  | .false => [0x66, 0x61, 0x6c, 0x73, 0x65]

/-- A value as it is written. -/
inductive Value where
  | word (w : Word)
  | number (numeral : Octets)
  | string (raw : Octets)
  | list (values : List Value)
  | object (members : List (Octets × Value))

/-- What is written in a text: a value, or what a list or an object has up to its closing mark,
where `first` says that nothing of it stands before. -/
inductive Part where
  | value (v : Value)
  | values (first : Bool) (vs : List Value)
  | members (first : Bool) (ms : List (Octets × Value))

/-- A comma stands before what comes next, unless it is the first. -/
def Opens (first : Bool) (bs next : Octets) : Prop :=
  if first then bs = next else skipBlank bs = 0x2c :: next

/-- What is written in front of some octets, and what follows it. -/
inductive Stands : Part → Octets → Octets → Prop where
  | word {w : Word} {bs rest : Octets} (h : skipBlank bs = w.octets ++ rest) :
      Stands (.value (.word w)) bs rest
  | number {numeral bs rest : Octets} (hnumeral : IsNumeral numeral)
      (h : skipBlank bs = numeral ++ rest) : Stands (.value (.number numeral)) bs rest
  | string {raw bs rest : Octets} (hraw : IsQuoted raw)
      (h : skipBlank bs = 0x22 :: (raw ++ 0x22 :: rest)) : Stands (.value (.string raw)) bs rest
  | list {vs : List Value} {bs inside rest : Octets} (h : skipBlank bs = 0x5b :: inside)
      (hvs : Stands (.values true vs) inside rest) : Stands (.value (.list vs)) bs rest
  | object {ms : List (Octets × Value)} {bs inside rest : Octets}
      (h : skipBlank bs = 0x7b :: inside) (hms : Stands (.members true ms) inside rest) :
      Stands (.value (.object ms)) bs rest
  | noValue {first : Bool} {bs rest : Octets} (h : skipBlank bs = 0x5d :: rest) :
      Stands (.values first []) bs rest
  | nextValue {first : Bool} {v : Value} {vs : List Value} {bs next after rest : Octets}
      (hopen : Opens first bs next) (hv : Stands (.value v) next after)
      (hvs : Stands (.values false vs) after rest) : Stands (.values first (v :: vs)) bs rest
  | noMember {first : Bool} {bs rest : Octets} (h : skipBlank bs = 0x7d :: rest) :
      Stands (.members first []) bs rest
  | nextMember {first : Bool} {raw : Octets} {v : Value} {ms : List (Octets × Value)}
      {bs next colon value after rest : Octets} (hopen : Opens first bs next)
      (hraw : IsQuoted raw) (hkey : skipBlank next = 0x22 :: (raw ++ 0x22 :: colon))
      (hcolon : skipBlank colon = 0x3a :: value) (hv : Stands (.value v) value after)
      (hms : Stands (.members false ms) after rest) :
      Stands (.members first ((raw, v) :: ms)) bs rest

/-- A whole text is that of a value: nothing but blanks follows. -/
def Value.WrittenAs (v : Value) (bs : Octets) : Prop :=
  ∃ rest, Stands (.value v) bs rest ∧ skipBlank rest = []

/-! ## Where strings and numerals end -/

/-- A string is passed over just where the grammar has one. -/
theorem skipQuoted_eq_ok_iff {bs rest : Octets} :
    skipQuoted bs = .ok rest ↔ ∃ raw, IsQuoted raw ∧ bs = raw ++ 0x22 :: rest := by
  constructor
  · intro h
    fun_induction skipQuoted bs with
    | case2 rest' =>
      cases h
      exact ⟨[], .nil, rfl⟩
    | case5 e after he _ _ ih =>
      obtain ⟨raw, hraw, rfl⟩ := ih h
      exact ⟨_, .escape he hraw, rfl⟩
    | case7 e he hunit p q r s tail hn _ _ ih =>
      obtain ⟨raw, hraw, rfl⟩ := ih h
      obtain rfl := Decidable.not_not.1 hunit
      exact ⟨_, .unit hn hraw, rfl⟩
    | case10 b rest' hquote hcontrol hescape ih =>
      obtain ⟨raw, hraw, rfl⟩ := ih h
      exact ⟨_, .verbatim ⟨hquote, hcontrol, hescape⟩ hraw, rfl⟩
    | _ => cases h
  · rintro ⟨raw, hraw, rfl⟩
    induction hraw with
    | nil =>
      rw [List.nil_append, skipQuoted.eq_def]
      exact if_pos rfl
    | verbatim hb _ ih =>
      rw [List.cons_append, skipQuoted.eq_def]
      dsimp only
      rw [if_neg hb.1, if_neg hb.2.1, if_neg hb.2.2, ih]
    | escape he _ ih =>
      rw [List.cons_append, List.cons_append, skipQuoted.eq_def]
      dsimp only
      rw [if_neg (by decide), if_neg (by decide), if_pos rfl, if_pos he, ih]
    | unit hn _ ih =>
      simp only [List.cons_append]
      rw [skipQuoted.eq_def]
      dsimp only
      rw [if_neg (by decide), if_neg (by decide), if_pos rfl, simpleEscape?_unit,
        if_neg (by decide), if_neg (by decide), if_pos hn, ih]

/-- What may stand between quotes ends before the first quote that is not escaped. -/
theorem IsQuoted.unique {raw raw' rest rest' : Octets} (h : IsQuoted raw) (h' : IsQuoted raw')
    (heq : raw ++ 0x22 :: rest = raw' ++ 0x22 :: rest') : raw = raw' ∧ rest = rest' := by
  have hskip : skipQuoted (raw ++ 0x22 :: rest) = .ok rest := skipQuoted_eq_ok_iff.2 ⟨raw, h, rfl⟩
  rw [heq, skipQuoted_eq_ok_iff.2 ⟨raw', h', rfl⟩] at hskip
  cases hskip
  exact ⟨List.append_cancel_right heq, rfl⟩

/-- A string that means octets is one of the grammar, and it means them whatever follows. -/
theorem Spells.exists_raw {bs os rest : Octets} (h : Spells bs os rest) :
    ∃ raw, IsQuoted raw ∧ bs = raw ++ 0x22 :: rest
      ∧ ∀ tail, Spells (raw ++ 0x22 :: tail) os tail := by
  induction h with
  | close rest => exact ⟨[], .nil, rfl, .close⟩
  | verbatim hb _ ih =>
    obtain ⟨raw, hraw, rfl, hspells⟩ := ih
    exact ⟨_, .verbatim hb hraw, rfl, fun tail => .verbatim hb (hspells tail)⟩
  | escape he _ ih =>
    obtain ⟨raw, hraw, rfl, hspells⟩ := ih
    exact ⟨_, .escape (Option.isSome_of_eq_some he) hraw, rfl,
      fun tail => .escape he (hspells tail)⟩
  | unit hn hleading htrailing _ ih =>
    obtain ⟨raw, hraw, rfl, hspells⟩ := ih
    exact ⟨_, .unit (Option.isSome_of_eq_some hn) hraw, rfl,
      fun tail => .unit hn hleading htrailing (hspells tail)⟩
  | pair hn hm hleading htrailing _ ih =>
    obtain ⟨raw, hraw, rfl, hspells⟩ := ih
    exact ⟨_, .unit (Option.isSome_of_eq_some hn) (.unit (Option.isSome_of_eq_some hm) hraw), rfl,
      fun tail => .pair hn hm hleading htrailing (hspells tail)⟩

/-- A text that is read is what the string means. -/
theorem exists_raw_of_readTextBody {bs rest : Octets} {s : String}
    (h : readTextBody bs = .ok (s, rest)) :
    ∃ raw, IsQuoted raw ∧ Means raw s ∧ bs = raw ++ 0x22 :: rest := by
  obtain ⟨raw, hraw, hbs, hspells⟩ := (readTextBody_eq_ok_iff.1 h).exists_raw
  exact ⟨raw, hraw, hspells [], hbs⟩

/-- A string means one text at most. -/
theorem Means.unique {raw : Octets} {s s' : String} (h : Means raw s) (h' : Means raw s') :
    s = s' := by
  have hread := readTextBody_eq_ok_iff.2 h
  rw [readTextBody_eq_ok_iff.2 h'] at hread
  cases hread
  rfl

/-- An octet that numerals are made of. -/
def isNumeric (b : UInt8) : Bool :=
  isDigit b || b == 0x2b || b == 0x2d || b == 0x2e || isExponentMark b

/-- What follows cannot belong to a numeral. -/
def EndsNumeral (rest : Octets) : Prop := ∀ b ∈ rest.head?, isNumeric b = false

/-- A digit is an octet of numerals. -/
theorem isNumeric_of_isDigit {b : UInt8} (h : isDigit b = true) : isNumeric b = true := by
  unfold isNumeric
  rw [h]
  rfl

/-- A numeral has no other octets. -/
theorem IsNumeral.isNumeric {numeral : Octets} (h : IsNumeral numeral) :
    ∀ b ∈ numeral, isNumeric b = true := by
  obtain ⟨hsign, hwhole, hfraction, hexponent⟩ := h
  intro b hb
  rw [List.mem_append, List.mem_append, List.mem_append] at hb
  rcases hb with hb | hb | hb | hb
  · rcases hsign with rfl | rfl
    · exact absurd hb List.not_mem_nil
    · rw [List.mem_singleton.1 hb]
      rfl
  · cases hwhole with
    | zero =>
      rw [List.mem_singleton.1 hb]
      rfl
    | digits _ h => exact isNumeric_of_isDigit (h b hb)
  · cases hfraction with
    | none => exact absurd hb List.not_mem_nil
    | some h =>
      rcases List.mem_cons.1 hb with rfl | hb
      · rfl
      · exact isNumeric_of_isDigit (h.2 b hb)
  · cases hexponent with
    | none => exact absurd hb List.not_mem_nil
    | some hmark hsign h =>
      rcases List.mem_cons.1 hb with rfl | hb
      · unfold Json.isNumeric
        rw [hmark, Bool.or_true]
      · rcases List.mem_append.1 hb with hb | hb
        · rcases hsign with rfl | rfl | rfl
          · exact absurd hb List.not_mem_nil
          · rw [List.mem_singleton.1 hb]
            rfl
          · rw [List.mem_singleton.1 hb]
            rfl
        · exact isNumeric_of_isDigit (h.2 b hb)

/-- A numeral begins with a digit or a minus sign. -/
theorem IsNumeral.exists_cons {numeral : Octets} (h : IsNumeral numeral) :
    ∃ b tail, numeral = b :: tail ∧ (b = 0x2d ∨ isDigit b = true) := by
  obtain ⟨hsign, hwhole, hfraction, hexponent⟩ := h
  rcases hsign with rfl | rfl
  · cases hwhole with
    | zero => exact ⟨_, _, rfl, .inr rfl⟩
    | digits _ h => exact ⟨_, _, rfl, .inr (h _ List.mem_cons_self)⟩
  · exact ⟨_, _, rfl, .inl rfl⟩

/-- A numeral ends where octets follow that numerals are not made of. -/
theorem IsNumeral.unique {numeral numeral' rest rest' : Octets} (h : IsNumeral numeral)
    (h' : IsNumeral numeral') (hrest : EndsNumeral rest) (hrest' : EndsNumeral rest')
    (heq : numeral ++ rest = numeral' ++ rest') : numeral = numeral' ∧ rest = rest' := by
  have htake : ∀ {numeral rest : Octets}, IsNumeral numeral → EndsNumeral rest →
      (numeral ++ rest).takeWhile Json.isNumeric = numeral := by
    intro numeral rest h hrest
    rw [List.takeWhile_append_of_pos h.isNumeric]
    cases rest with
    | nil => exact List.append_nil numeral
    | cons b rest =>
      rw [List.takeWhile_cons_of_neg (by rw [hrest b rfl]; exact Bool.false_ne_true),
        List.append_nil]
  have hnumeral : numeral = numeral' := by rw [← htake h hrest, heq, htake h' hrest']
  subst hnumeral
  exact ⟨rfl, List.append_cancel_left heq⟩

/-! ## A text is read in one way -/

/-- What follows blanks is no blank. -/
theorem skipBlank_skipBlank (bs : Octets) : skipBlank (skipBlank bs) = skipBlank bs := by
  induction bs with
  | nil => rfl
  | cons b rest ih =>
    unfold skipBlank at ih ⊢
    cases hb : isBlank b with
    | true => rw [List.dropWhile_cons_of_pos hb, ih]
    | false =>
      have hkept : (b :: rest).dropWhile isBlank = b :: rest :=
        List.dropWhile_cons_of_neg (by rw [hb]; exact Bool.false_ne_true)
      rw [hkept, hkept]

/-- Blanks before a value do not count. -/
theorem Stands.of_skipBlank {v : Value} {bs rest : Octets}
    (h : Stands (.value v) (skipBlank bs) rest) : Stands (.value v) bs rest := by
  cases h with
  | word h => exact .word (by rwa [skipBlank_skipBlank] at h)
  | number hnumeral h => exact .number hnumeral (by rwa [skipBlank_skipBlank] at h)
  | string hraw h => exact .string hraw (by rwa [skipBlank_skipBlank] at h)
  | list h hvs => exact .list (by rwa [skipBlank_skipBlank] at h) hvs
  | object h hms => exact .object (by rwa [skipBlank_skipBlank] at h) hms

/-- Blanks end a numeral. -/
theorem endsNumeral_of_skipBlank {bs : Octets} (h : EndsNumeral (skipBlank bs)) :
    EndsNumeral bs := by
  intro b hb
  cases bs with
  | nil => cases hb
  | cons c tail =>
    cases hb
    cases hblank : isBlank b with
    | false =>
      unfold skipBlank at h
      rw [List.dropWhile_cons_of_neg (by rw [hblank]; exact Bool.false_ne_true)] at h
      exact h b rfl
    | true =>
      simp only [isBlank, Bool.or_eq_true, beq_iff_eq] at hblank
      rcases hblank with ((rfl | rfl) | rfl) | rfl <;> rfl

/-- A mark that belongs to no numeral ends one, maybe after blanks. -/
theorem endsNumeral_of_mark {bs rest : Octets} {b : UInt8} (h : skipBlank bs = b :: rest)
    (hb : isNumeric b = false) : EndsNumeral bs := by
  refine endsNumeral_of_skipBlank fun c hc => ?_
  rw [h] at hc
  cases hc
  exact hb

/-- The kinds of values. -/
inductive Kind where
  | word
  | number
  | string
  | list
  | object
  deriving DecidableEq, Repr

/-- The kind of a value. -/
def Value.kind : Value → Kind
  | .word _ => .word
  | .number _ => .number
  | .string _ => .string
  | .list _ => .list
  | .object _ => .object

/-- The kind of value that the first octet after the blanks begins. -/
def kindAt (bs : Octets) : Option Kind :=
  match skipBlank bs with
  | [] => none
  | b :: _ =>
    if b = 0x2d ∨ isDigit b then some .number
    else if b = 0x6e ∨ b = 0x74 ∨ b = 0x66 then some .word
    else if b = 0x22 then some .string
    else if b = 0x5b then some .list
    else if b = 0x7b then some .object
    else none

/-- A value begins with an octet of its kind. -/
theorem Stands.kind {v : Value} {bs rest : Octets} (h : Stands (.value v) bs rest) :
    kindAt bs = some v.kind := by
  unfold kindAt
  cases h with
  | @word w _ _ h =>
    rw [h]
    cases w <;> rfl
  | number hnumeral h =>
    obtain ⟨b, more, rfl, hb⟩ := hnumeral.exists_cons
    rw [h]
    exact if_pos hb
  | string _ h =>
    rw [h]
    rfl
  | list h _ =>
    rw [h]
    rfl
  | object h _ =>
    rw [h]
    rfl

/-- No comma comes before the first, and only one before the others. -/
theorem Opens.unique {first : Bool} {bs next next' : Octets} (h : Opens first bs next)
    (h' : Opens first bs next') : next = next' := by
  cases first with
  | true => exact Eq.trans (Eq.symm h) h'
  | false => exact List.tail_eq_of_cons_eq (h.symm.trans h')

/-- Before another value there is no closing mark of a list. -/
theorem Opens.not_closed {first : Bool} {v : Value} {bs next after rest : Octets}
    (h : Opens first bs next) (hv : Stands (.value v) next after) :
    skipBlank bs ≠ 0x5d :: rest := by
  intro hclosed
  cases first with
  | true =>
    obtain rfl : bs = next := h
    have hkind := hv.kind
    unfold kindAt at hkind
    rw [hclosed] at hkind
    cases hkind
  | false => cases Eq.trans (Eq.symm hclosed) h

/-- Before another key there is no closing mark of an object. -/
theorem Opens.not_closed_key {first : Bool} {bs next key rest : Octets} (h : Opens first bs next)
    (hkey : skipBlank next = 0x22 :: key) : skipBlank bs ≠ 0x7d :: rest := by
  intro hclosed
  cases first with
  | true =>
    obtain rfl : bs = next := h
    cases hclosed.symm.trans hkey
  | false => cases Eq.trans (Eq.symm hclosed) h

/-- Where nothing or a comma comes next, or the closing mark, a numeral ends. -/
theorem Stands.endsNumeral {bs rest : Octets} {p : Part} (h : Stands p bs rest)
    (hp : (∃ vs, p = .values false vs) ∨ ∃ ms, p = .members false ms) : EndsNumeral bs := by
  rcases hp with ⟨vs, rfl⟩ | ⟨ms, rfl⟩
  · cases h with
    | noValue h => exact endsNumeral_of_mark h rfl
    | nextValue hopen _ _ => exact endsNumeral_of_mark hopen rfl
  · cases h with
    | noMember h => exact endsNumeral_of_mark h rfl
    | nextMember hopen _ _ _ _ _ => exact endsNumeral_of_mark hopen rfl

/-- Whatever is read instead of a part is the same. A value must be followed by what cannot belong
to a numeral. -/
def Part.Only (bs rest : Octets) : Part → Prop
  | .value v => ∀ v' rest', Stands (.value v') bs rest' → EndsNumeral rest → EndsNumeral rest' →
      v = v' ∧ rest = rest'
  | .values first vs => ∀ vs' rest', Stands (.values first vs') bs rest' → vs = vs' ∧ rest = rest'
  | .members first ms =>
    ∀ ms' rest', Stands (.members first ms') bs rest' → ms = ms' ∧ rest = rest'

/-- Nothing is written in two ways. -/
theorem Stands.only {p : Part} {bs rest : Octets} (h : Stands p bs rest) : p.Only bs rest := by
  induction h with
  | @word w bs rest h =>
    intro v' rest' h' _ _
    have hkind := (Stands.word h).kind.symm.trans h'.kind
    cases h' with
    | @word w' _ _ h' =>
      rw [h] at h'
      cases w <;> cases w' <;> cases h' <;> exact ⟨rfl, rfl⟩
    | _ => cases hkind
  | number hnumeral h =>
    intro v' rest' h' hrest hrest'
    have hkind := (Stands.number hnumeral h).kind.symm.trans h'.kind
    cases h' with
    | number hnumeral' h' =>
      rw [h] at h'
      obtain ⟨rfl, rfl⟩ := hnumeral.unique hnumeral' hrest hrest' h'
      exact ⟨rfl, rfl⟩
    | _ => cases hkind
  | string hraw h =>
    intro v' rest' h' _ _
    have hkind := (Stands.string hraw h).kind.symm.trans h'.kind
    cases h' with
    | string hraw' h' =>
      rw [h] at h'
      obtain ⟨rfl, rfl⟩ := hraw.unique hraw' (List.tail_eq_of_cons_eq h')
      exact ⟨rfl, rfl⟩
    | _ => cases hkind
  | list h hvs ih =>
    intro v' rest' h' _ _
    have hkind := (Stands.list h hvs).kind.symm.trans h'.kind
    cases h' with
    | list h' hvs' =>
      rw [h] at h'
      cases h'
      obtain ⟨rfl, rfl⟩ := ih _ _ hvs'
      exact ⟨rfl, rfl⟩
    | _ => cases hkind
  | object h hms ih =>
    intro v' rest' h' _ _
    have hkind := (Stands.object h hms).kind.symm.trans h'.kind
    cases h' with
    | object h' hms' =>
      rw [h] at h'
      cases h'
      obtain ⟨rfl, rfl⟩ := ih _ _ hms'
      exact ⟨rfl, rfl⟩
    | _ => cases hkind
  | noValue h =>
    intro vs' rest' h'
    cases h' with
    | noValue h' => exact ⟨rfl, List.tail_eq_of_cons_eq (h.symm.trans h')⟩
    | nextValue hopen' hv' _ => exact absurd h (hopen'.not_closed hv')
  | nextValue hopen hv hvs ihv ihvs =>
    intro vs' rest' h'
    cases h' with
    | noValue h' => exact absurd h' (hopen.not_closed hv)
    | nextValue hopen' hv' hvs' =>
      obtain rfl := hopen.unique hopen'
      obtain ⟨rfl, rfl⟩ := ihv _ _ hv' (hvs.endsNumeral (.inl ⟨_, rfl⟩))
        (hvs'.endsNumeral (.inl ⟨_, rfl⟩))
      obtain ⟨rfl, rfl⟩ := ihvs _ _ hvs'
      exact ⟨rfl, rfl⟩
  | noMember h =>
    intro ms' rest' h'
    cases h' with
    | noMember h' => exact ⟨rfl, List.tail_eq_of_cons_eq (h.symm.trans h')⟩
    | nextMember hopen' _ hkey' _ _ _ => exact absurd h (hopen'.not_closed_key hkey')
  | nextMember hopen hraw hkey hcolon hv hms ihv ihms =>
    intro ms' rest' h'
    cases h' with
    | noMember h' => exact absurd h' (hopen.not_closed_key hkey)
    | nextMember hopen' hraw' hkey' hcolon' hv' hms' =>
      obtain rfl := hopen.unique hopen'
      obtain ⟨rfl, rfl⟩ := hraw.unique hraw' (List.tail_eq_of_cons_eq (hkey.symm.trans hkey'))
      obtain rfl := List.tail_eq_of_cons_eq (hcolon.symm.trans hcolon')
      obtain ⟨rfl, rfl⟩ := ihv _ _ hv' (hms.endsNumeral (.inr ⟨_, rfl⟩))
        (hms'.endsNumeral (.inr ⟨_, rfl⟩))
      obtain ⟨rfl, rfl⟩ := ihms _ _ hms'
      exact ⟨rfl, rfl⟩

/-- A text is that of one value. -/
theorem Value.WrittenAs.unique {v v' : Value} {bs : Octets} (h : v.WrittenAs bs)
    (h' : v'.WrittenAs bs) : v = v' := by
  obtain ⟨rest, hv, hrest⟩ := h
  obtain ⟨rest', hv', hrest'⟩ := h'
  have hend : ∀ rest, skipBlank rest = [] → EndsNumeral rest := by
    intro rest hrest
    refine endsNumeral_of_skipBlank fun c hc => ?_
    rw [hrest] at hc
    cases hc
  exact (hv.only _ _ hv' (hend rest hrest) (hend rest' hrest')).1

end ChatBoard.Json
