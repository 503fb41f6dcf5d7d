import ChatBoard.Json.Content
import ChatBoard.Proofs.Json.Skip

/-!
# Values that are read whole

A value that is read whole is one of the grammar, and what is kept of it is what it means
(`exists_value_of_attempt`). The lists and objects that are open on the way hold what has been read
of them. `Completes` says what the octets after a value still owe to them: for each what it has up
to its closing mark, so that its content is complete and goes into the one below.
-/

namespace ChatBoard.Json

mutual

/-- What is kept of a value: of a number nothing but that it is one, of strings the texts. -/
inductive Denotes : Content → Value → Prop where
  | null : Denotes .null (.word .null)
  | true : Denotes (.bool true) (.word .true)
  | false : Denotes (.bool false) (.word .false)
  | number (numeral : Octets) : Denotes .number (.number numeral)
  | text {s : String} {raw : Octets} (h : Means raw s) : Denotes (.text s) (.string raw)
  | list {cs : List Content} {vs : List Value} (h : DenotesEach cs vs) :
      Denotes (.list cs) (.list vs)
  | object {cs : List (String × Content)} {ms : List (Octets × Value)} (h : DenotesMembers cs ms) :
      Denotes (.object cs) (.object ms)

/-- What is kept of values in a row. -/
inductive DenotesEach : List Content → List Value → Prop where
  | nil : DenotesEach [] []
  | cons {c : Content} {v : Value} {cs : List Content} {vs : List Value} (h : Denotes c v)
      (more : DenotesEach cs vs) : DenotesEach (c :: cs) (v :: vs)

/-- What is kept of members in a row. -/
inductive DenotesMembers : List (String × Content) → List (Octets × Value) → Prop where
  | nil : DenotesMembers [] []
  | cons {key : String} {raw : Octets} {c : Content} {v : Value} {cs : List (String × Content)}
      {ms : List (Octets × Value)} (hkey : Means raw key) (h : Denotes c v)
      (more : DenotesMembers cs ms) : DenotesMembers ((key, c) :: cs) ((raw, v) :: ms)

end

/-- After a value whose content is `c`, what is owed to the lists and objects that are open, so that
the content of the whole is the result, and what follows it. -/
def Completes : List OpenContent → Content → Octets → Content × Octets → Prop
  | [], c, bs, result => result = (c, bs)
  | .list done :: below, c, bs, result =>
    ∃ cs vs after, Stands (.values false vs) bs after ∧ DenotesEach cs vs
      ∧ Completes below (.list (done.reverse ++ c :: cs)) after result
  | .object done key :: below, c, bs, result =>
    ∃ cs ms after, Stands (.members false ms) bs after ∧ DenotesMembers cs ms
      ∧ Completes below (.object (done.reverse ++ (key, c) :: cs)) after result

/-- After a step, what is owed: a value first, unless the whole has been read. -/
def Reached.Completes (reached : Reached) (bs : Octets) (result : Content × Octets) : Prop :=
  match reached with
  | .whole c => result = (c, bs)
  | .inside stack => ∃ c v after, Stands (.value v) bs after ∧ Denotes c v
      ∧ Json.Completes stack c after result

/-! ## Steps -/

/-- A text that is attempted is what the string means. -/
theorem exists_raw_of_attemptText {bs rest : Octets} {s : String}
    (h : attemptText bs = .ok (s, rest)) :
    ∃ raw, IsQuoted raw ∧ Means raw s ∧ bs = raw ++ 0x22 :: rest := by
  unfold attemptText at h
  cases hread : readTextBody bs with
  | error p =>
    rw [hread] at h
    cases h
  | ok read =>
    rw [hread] at h
    cases h
    exact exists_raw_of_readTextBody hread

/-- A key that is attempted stands before its colon. -/
theorem exists_key_of_attempt {bs value : Octets} {key : String}
    (h : attemptKey bs = .ok (key, value)) :
    ∃ raw colon, IsQuoted raw ∧ Means raw key ∧ skipBlank bs = 0x22 :: (raw ++ 0x22 :: colon)
      ∧ skipBlank colon = 0x3a :: value := by
  unfold attemptKey at h
  split at h
  · cases h
  next b rest hbs =>
    split at h
    next hb =>
      subst hb
      split at h
      · cases h
      next name colon htext =>
        obtain ⟨raw, hraw, hmeans, rfl⟩ := exists_raw_of_attemptText htext
        cases hcolon : readMark 0x3a colon with
        | error p =>
          rw [hcolon] at h
          cases h
        | ok after =>
          rw [hcolon] at h
          cases h
          exact ⟨raw, colon, hraw, hmeans, hbs, readMark_eq_ok_iff.1 hcolon⟩
    · cases h

variable {stack : List OpenContent} {reached : Reached} {bs next : Octets}
  {result : Content × Octets}

/-- A value that is taken in pays for the lists and objects that end with it. -/
theorem completes_of_takeIn {c : Content} (h : takeIn stack c bs = .ok (reached, next))
    (hrest : reached.Completes next result) : Completes stack c bs result := by
  induction stack generalizing c bs with
  | nil =>
    cases h
    exact hrest
  | cons o below ih =>
    cases o with
    | list done =>
      unfold takeIn at h
      split at h
      · cases h
      next b tail hbs =>
        split at h
        next hclosing =>
          subst hclosing
          refine ⟨[], [], tail, .noValue hbs, .nil, ?_⟩
          rw [← List.reverse_cons]
          exact ih h
        split at h
        next hcomma =>
          -- Another value comes, after which the list is to be completed.
          subst hcomma
          cases h
          obtain ⟨c', v, after, hv, hc', cs, vs, rest, hvs, hcs, hbelow⟩ := hrest
          refine ⟨c' :: cs, v :: vs, rest, .nextValue hbs hv hvs, .cons hc' hcs, ?_⟩
          rw [List.reverse_cons, List.append_assoc] at hbelow
          exact hbelow
        · cases h
    | object done key =>
      unfold takeIn at h
      split at h
      · cases h
      next b tail hbs =>
        split at h
        next hclosing =>
          subst hclosing
          refine ⟨[], [], tail, .noMember hbs, .nil, ?_⟩
          rw [← List.reverse_cons]
          exact ih h
        split at h
        next hcomma =>
          subst hcomma
          dsimp only at h
          split at h
          · cases h
          next name value hname =>
            cases h
            obtain ⟨raw, colon, hraw, hmeans, hkey, hcolon⟩ := exists_key_of_attempt hname
            obtain ⟨c', v, after, hv, hc', cs, ms, rest, hms, hcs, hbelow⟩ := hrest
            refine ⟨(name, c') :: cs, (raw, v) :: ms, rest,
              .nextMember hbs hraw hkey hcolon hv hms, .cons hmeans hc' hcs, ?_⟩
            rw [List.reverse_cons, List.append_assoc] at hbelow
            exact hbelow
        · cases h

/-- A list that is opened is completed by what it has. -/
theorem completes_of_openList (h : openList stack bs = .ok (reached, next))
    (hrest : reached.Completes next result) :
    ∃ cs vs after, Stands (.values true vs) bs after ∧ DenotesEach cs vs
      ∧ Completes stack (.list cs) after result := by
  unfold openList at h
  split at h
  · cases h
  next b tail hbs =>
    split at h
    next hclosing =>
      subst hclosing
      exact ⟨[], [], tail, .noValue hbs, .nil, completes_of_takeIn h hrest⟩
    · cases h
      obtain ⟨c, v, after, hv, hc, cs, vs, rest, hvs, hcs, hbelow⟩ := hrest
      rw [← hbs] at hv
      exact ⟨c :: cs, v :: vs, rest, .nextValue rfl hv.of_skipBlank hvs, .cons hc hcs, hbelow⟩

/-- An object that is opened is completed by what it has. -/
theorem completes_of_openObject (h : openObject stack bs = .ok (reached, next))
    (hrest : reached.Completes next result) :
    ∃ cs ms after, Stands (.members true ms) bs after ∧ DenotesMembers cs ms
      ∧ Completes stack (.object cs) after result := by
  unfold openObject at h
  split at h
  · cases h
  next b tail hbs =>
    split at h
    next hclosing =>
      subst hclosing
      exact ⟨[], [], tail, .noMember hbs, .nil, completes_of_takeIn h hrest⟩
    · split at h
      · cases h
      next name value hname =>
        cases h
        rw [← hbs] at hname
        obtain ⟨raw, colon, hraw, hmeans, hkey, hcolon⟩ := exists_key_of_attempt hname
        rw [skipBlank_skipBlank] at hkey
        obtain ⟨c, v, after, hv, hc, cs, ms, rest, hms, hcs, hbelow⟩ := hrest
        exact ⟨(name, c) :: cs, (raw, v) :: ms, rest, .nextMember rfl hraw hkey hcolon hv hms,
          .cons hmeans hc hcs, hbelow⟩

/-- A step from the first octet of a value reads a value, up to what is owed. -/
theorem exists_value_of_attemptOne {outer : Nat} {b : UInt8} {tail : Octets}
    (hbs : skipBlank bs = b :: tail) (h : attemptOne outer stack b tail = .ok (reached, next))
    (hrest : reached.Completes next result) :
    ∃ c v after, Stands (.value v) bs after ∧ Denotes c v ∧ Completes stack c after result := by
  have hword : ∀ {c : Content} {after : Octets} (w : Word) (word : Octets), w.octets = b :: word →
      Denotes c (.word w) → readWord word tail = .ok after →
      takeIn stack c after = .ok (reached, next) →
      ∃ c v after, Stands (.value v) bs after ∧ Denotes c v ∧ Completes stack c after result := by
    intro c after w word hw hc hread h
    refine ⟨c, .word w, after, .word ?_, hc, completes_of_takeIn h hrest⟩
    rw [hbs, hw, eq_append_of_readWord hread, List.cons_append]
  unfold attemptOne at h
  dsimp only at h
  split at h
  next hb =>
    obtain ⟨cs, vs, after, hvs, hcs, hstack⟩ := completes_of_openList h hrest
    rw [hb.1] at hbs
    exact ⟨_, _, after, .list hbs hvs, .list hcs, hstack⟩
  split at h
  next hb =>
    obtain ⟨cs, ms, after, hms, hcs, hstack⟩ := completes_of_openObject h hrest
    rw [hb.1] at hbs
    exact ⟨_, _, after, .object hbs hms, .object hcs, hstack⟩
  split at h
  next hb =>
    subst hb
    split at h
    · cases h
    next s after htext =>
      obtain ⟨raw, hraw, hmeans, rfl⟩ := exists_raw_of_attemptText htext
      exact ⟨_, _, after, .string hraw hbs, .text hmeans, completes_of_takeIn h hrest⟩
  split at h
  · split at h
    · cases h
    next n after hnumber =>
      obtain ⟨numeral, hnumeral, hnumber, -⟩ := readNumber_numeral hnumber
      exact ⟨_, _, after, .number hnumeral (hbs.trans hnumber), .number numeral,
        completes_of_takeIn h hrest⟩
  split at h
  next hb =>
    split at h
    · cases h
    next hread => exact hword .null _ (by rw [hb]; rfl) .null hread h
  split at h
  next hb =>
    split at h
    · cases h
    next hread => exact hword .true _ (by rw [hb]; rfl) .true hread h
  split at h
  next hb =>
    split at h
    · cases h
    next hread => exact hword .false _ (by rw [hb]; rfl) .false hread h
  · cases h

/-- The steps together read a value, up to what is owed. -/
theorem exists_value_of_attemptFrom {outer steps : Nat}
    (h : attemptFrom outer steps stack bs = .ok result) :
    ∃ c v after, Stands (.value v) bs after ∧ Denotes c v ∧ Completes stack c after result := by
  induction steps generalizing stack bs with
  | zero => cases h
  | succ steps ih =>
    unfold attemptFrom at h
    split at h
    · cases h
    next b tail hbs =>
      split at h
      · cases h
      next hone =>
        cases h
        exact exists_value_of_attemptOne hbs hone rfl
      next hone => exact exists_value_of_attemptOne hbs hone (ih h)

/-- A value that is read whole is one, and what is kept of it is what it means. -/
theorem exists_value_of_attempt {outer : Nat} {c : Content} {rest : Octets}
    (h : attemptValue outer bs = .ok (c, rest)) : ∃ v, Stands (.value v) bs rest ∧ Denotes c v := by
  obtain ⟨c', v, after, hv, hc, hresult⟩ := exists_value_of_attemptFrom h
  cases hresult
  exact ⟨v, hv, hc⟩

end ChatBoard.Json
