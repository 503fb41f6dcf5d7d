import ChatBoard.Proofs.Json.Numeral
import ChatBoard.Proofs.Outcome

/-!
# What is passed over

Whatever is passed over as a value is one of the grammar (`exists_value_of_skip`). The lists and
objects that are open on the way stand on a stack. `Closes` says what the octets after a value still
owe to the stack: for each frame what it has up to its closing mark. A step either settles a frame
or goes on to a value inside of one, and what is owed after the step pays for what is owed before
it.
-/

namespace ChatBoard.Json

/-! ## Marks and words -/

/-- A mark is read where it comes next, maybe after blanks. -/
theorem readMark_eq_ok_iff {mark : UInt8} {bs rest : Octets} :
    readMark mark bs = .ok rest ↔ skipBlank bs = mark :: rest := by
  unfold readMark
  constructor
  · intro h
    split at h
    · cases h
    next b tail hbs =>
      split at h
      next hb =>
        cases h
        rw [hbs, hb]
      · cases h
  · intro h
    rw [h]
    exact if_pos rfl

/-- The rest of a word is read where it stands. -/
theorem eq_append_of_readWord {word bs rest : Octets} (h : readWord word bs = .ok rest) :
    bs = word ++ rest := by
  fun_induction readWord word bs with
  | case1 bs =>
    cases h
    rfl
  | case3 ws b bs ih => rw [ih h, List.cons_append]
  | _ => cases h

/-- A key is passed over up to the value of its member. -/
theorem exists_key_of_skip {bs value : Octets} (h : skipKey bs = .ok value) :
    ∃ raw colon, IsQuoted raw ∧ skipBlank bs = 0x22 :: (raw ++ 0x22 :: colon)
      ∧ skipBlank colon = 0x3a :: value := by
  unfold skipKey at h
  split at h
  · cases h
  next key hquote =>
    split at h
    · cases h
    next colon hkey =>
      obtain ⟨raw, hraw, rfl⟩ := skipQuoted_eq_ok_iff.1 hkey
      exact ⟨raw, colon, hraw, readMark_eq_ok_iff.1 hquote, readMark_eq_ok_iff.1 h⟩

/-! ## Frames -/

/-- What a list or an object has up to its closing mark. -/
def Frame.Inside (f : Frame) (first : Bool) (bs rest : Octets) : Prop :=
  match f with
  | .list => ∃ vs, Stands (.values first vs) bs rest
  | .object => ∃ ms, Stands (.members first ms) bs rest

/-- The closing mark is the end of what a frame has. -/
theorem Frame.inside_closing {f : Frame} {first : Bool} {bs rest : Octets}
    (h : skipBlank bs = f.closing :: rest) : f.Inside first bs rest := by
  cases f with
  | list => exact ⟨[], .noValue h⟩
  | object => exact ⟨[], .noMember h⟩

/-- A value, behind its key in an object, comes before what a frame has after it. -/
theorem Frame.inside_next {f : Frame} {first : Bool} {v : Value} {bs next value after rest : Octets}
    (hopen : Opens first bs next) (hvalue : toValue f next = .ok value)
    (hv : Stands (.value v) value after) (hrest : f.Inside false after rest) :
    f.Inside first bs rest := by
  cases f with
  | list =>
    obtain ⟨vs, hvs⟩ := hrest
    cases hvalue
    exact ⟨v :: vs, .nextValue hopen hv hvs⟩
  | object =>
    obtain ⟨ms, hms⟩ := hrest
    obtain ⟨raw, colon, hraw, hkey, hcolon⟩ := exists_key_of_skip hvalue
    exact ⟨(raw, v) :: ms, .nextMember hopen hraw hkey hcolon hv hms⟩

/-- After a value, what is owed to the frames that are open. -/
def Closes : List Frame → Octets → Octets → Prop
  | [], bs, rest => bs = rest
  | f :: below, bs, rest => ∃ after, f.Inside false bs after ∧ Closes below after rest

/-- After a step, what is owed to the frames that are open: a value first, if there are any. -/
def Resumes (stack : List Frame) (bs rest : Octets) : Prop :=
  match stack with
  | [] => bs = rest
  | f :: below => ∃ v after, Stands (.value v) bs after ∧ Closes (f :: below) after rest

/-! ## Steps -/

variable {stack left : List Frame} {bs next rest : Octets}

/-- Settling pays for the frames that it closes. -/
theorem closes_of_settle (h : settle stack bs = .ok (left, next)) (hrest : Resumes left next rest) :
    Closes stack bs rest := by
  induction stack generalizing bs with
  | nil =>
    cases h
    exact hrest
  | cons f below ih =>
    unfold settle at h
    split at h
    · cases h
    next b tail hbs =>
      split at h
      next hcomma =>
        -- Another value comes in the frame.
        subst hcomma
        obtain ⟨value, hvalue, hnext⟩ := exists_of_map_eq_ok h
        cases hnext
        obtain ⟨v, after, hv, rest', hinside, hbelow⟩ := hrest
        exact ⟨rest', Frame.inside_next hbs hvalue hv hinside, hbelow⟩
      next =>
        split at h
        next hclosing =>
          subst hclosing
          exact ⟨tail, Frame.inside_closing hbs, ih h⟩
        · cases h

/-- Opening a frame owes what it has, and then what is owed to the others. -/
theorem inside_of_openFrame {f : Frame} (h : openFrame f stack bs = .ok (left, next))
    (hrest : Resumes left next rest) :
    ∃ after, f.Inside true bs after ∧ Closes stack after rest := by
  unfold openFrame at h
  split at h
  · cases h
  next b tail hbs =>
    split at h
    next hclosing =>
      subst hclosing
      exact ⟨tail, Frame.inside_closing hbs, closes_of_settle h hrest⟩
    · obtain ⟨value, hvalue, hnext⟩ := exists_of_map_eq_ok h
      cases hnext
      obtain ⟨v, after, hv, rest', hinside, hbelow⟩ := hrest
      exact ⟨rest', Frame.inside_next rfl hvalue hv hinside, hbelow⟩

/-- A step from the first octet of a value passes over a value. -/
theorem exists_value_of_skipOne {b : UInt8} {tail : Octets} (hbs : skipBlank bs = b :: tail)
    (h : skipOne stack b tail = .ok (left, next)) (hrest : Resumes left next rest) :
    ∃ v after, Stands (.value v) bs after ∧ Closes stack after rest := by
  -- A scalar is passed over at once, and then frames are settled.
  have hword : ∀ {after : Octets} (w : Word) (word : Octets), w.octets = b :: word →
      readWord word tail = .ok after → settle stack after = .ok (left, next) →
      ∃ v after, Stands (.value v) bs after ∧ Closes stack after rest := by
    intro after w word hw hread h
    refine ⟨.word w, after, .word ?_, closes_of_settle h hrest⟩
    rw [hbs, hw, eq_append_of_readWord hread, List.cons_append]
  have hnumber : ∀ {after : Octets} sign unsigned, (sign = [] ∨ sign = [0x2d]) →
      b :: tail = sign ++ unsigned → skipUnsigned unsigned = .ok after →
      settle stack after = .ok (left, next) →
      ∃ v after, Stands (.value v) bs after ∧ Closes stack after rest := by
    intro after sign unsigned hsign hsplit hskip h
    obtain ⟨digits, hnumeral, rfl⟩ := exists_numeral_of_skip hsign hskip
    refine ⟨.number _, after, .number hnumeral ?_, closes_of_settle h hrest⟩
    rw [hbs, hsplit, List.append_assoc]
  unfold skipOne at h
  dsimp only at h
  split at h
  next hb =>
    subst hb
    obtain ⟨after, ⟨vs, hvs⟩, hclose⟩ := inside_of_openFrame h hrest
    exact ⟨.list vs, after, .list hbs hvs, hclose⟩
  split at h
  next hb =>
    subst hb
    obtain ⟨after, ⟨ms, hms⟩, hclose⟩ := inside_of_openFrame h hrest
    exact ⟨.object ms, after, .object hbs hms, hclose⟩
  split at h
  next hb =>
    subst hb
    split at h
    · cases h
    next after hskip =>
      obtain ⟨raw, hraw, rfl⟩ := skipQuoted_eq_ok_iff.1 hskip
      exact ⟨.string raw, after, .string hraw hbs, closes_of_settle h hrest⟩
  split at h
  next hb =>
    split at h
    · cases h
    next hread => exact hword .null _ (by rw [hb]; rfl) hread h
  split at h
  next hb =>
    split at h
    · cases h
    next hread => exact hword .true _ (by rw [hb]; rfl) hread h
  split at h
  next hb =>
    split at h
    · cases h
    next hread => exact hword .false _ (by rw [hb]; rfl) hread h
  split at h
  next hb =>
    split at h
    · cases h
    next hskip => exact hnumber [0x2d] tail (.inr rfl) (by rw [hb]; rfl) hskip h
  split at h
  · split at h
    · cases h
    next hskip => exact hnumber [] (b :: tail) (.inl rfl) rfl hskip h
  · cases h

/-- The steps together pass over a value and what is owed to the frames that are open. -/
theorem exists_value_of_skipValues {steps : Nat} (h : skipValues steps stack bs = .ok rest) :
    ∃ v after, Stands (.value v) bs after ∧ Closes stack after rest := by
  induction steps generalizing stack bs with
  | zero => cases h
  | succ steps ih =>
    unfold skipValues at h
    split at h
    · cases h
    next b tail hbs =>
      split at h
      · cases h
      next hone =>
        cases h
        exact exists_value_of_skipOne hbs hone rfl
      next hone => exact exists_value_of_skipOne hbs hone (ih h)

/-- What is passed over as a value is one. -/
theorem exists_value_of_skip (h : skipValue bs = .ok rest) : ∃ v, Stands (.value v) bs rest := by
  obtain ⟨v, after, hv, rfl⟩ := exists_value_of_skipValues h
  exact ⟨v, hv⟩

end ChatBoard.Json
