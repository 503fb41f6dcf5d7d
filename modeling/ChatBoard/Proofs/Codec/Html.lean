import ChatBoard.Codec.Html

/-!
# Escaped text

`Harmless s` says what a text is worth once it is escaped: no character of it opens or closes a tag
or an attribute value, an ampersand stands only where an entity begins, and reading the entities
gives the text back. `unescape` reads them: from left to right, an entity as the character that it
stands for, and every other character as itself. It knows nothing of how texts are escaped but the
table of the entities. `harmless` shows all three of every text, character by character.
-/

namespace ChatBoard.Html

/-- The characters that have entities. -/
def entities : List (Char × List Char) :=
  [('<', "&lt;".toList), ('>', "&gt;".toList), ('&', "&amp;".toList), ('"', "&quot;".toList),
    ('\'', "&#x27;".toList), ('/', "&#x2f;".toList)]

/-- Reads entities; `skip` characters of an entity just read are passed over. -/
def unescapeFrom : Nat → List Char → List Char
  | _, [] => []
  | skip + 1, _ :: rest => unescapeFrom skip rest
  | 0, c :: rest =>
    match entities.find? fun entity => entity.2.isPrefixOf (c :: rest) with
    | some entity => entity.1 :: unescapeFrom (entity.2.length - 1) rest
    | none => c :: unescapeFrom 0 rest

/-- The text that a text with entities stands for. -/
def unescape (s : String) : String := String.ofList (unescapeFrom 0 s.toList)

/-- What a text is worth once it is escaped. -/
structure Harmless (s : String) : Prop where
  /-- Nothing in it opens or closes a tag or an attribute value. -/
  plain : ∀ c ∈ (escape s).toList, c ≠ '<' ∧ c ≠ '>' ∧ c ≠ '"' ∧ c ≠ '\'' ∧ c ≠ '/'
  /-- Wherever it has an ampersand, an entity begins. -/
  ampersand : ∀ before after, (escape s).toList = before ++ '&' :: after →
    ∃ entity ∈ entities, entity.2 <+: '&' :: after
  /-- Reading the entities gives the text back. -/
  decoded : unescape (escape s) = s

/-- A character is written as its entity, or it has none and stands for itself. -/
inductive Written (c : Char) : List Char → Prop where
  | entity {cs : List Char} (listed : (c, cs) ∈ entities) : Written c cs
  | itself (unlisted : ∀ entity ∈ entities, entity.1 ≠ c) : Written c [c]

/-- Every character is written as its entity or as itself. -/
theorem written_escapeChar (c : Char) : Written c (escapeChar c) := by
  -- Each condition asks for a character that has an entity.
  have hnext : ∀ {d : Char} {cs other : List Char}, (d, cs) ∈ entities →
      (c ≠ d → Written c other) → Written c (if c = d then cs else other) := by
    intro d cs other hlisted hother
    by_cases heq : c = d
    · rw [if_pos heq, heq]
      exact .entity hlisted
    · rw [if_neg heq]
      exact hother heq
  unfold escapeChar
  refine hnext (by decide) fun hlt => hnext (by decide) fun hgt => hnext (by decide) fun hamp =>
    hnext (by decide) fun hquote => hnext (by decide) fun happ => hnext (by decide) fun hslash =>
      .itself ?_
  unfold entities
  simp only [List.forall_mem_cons]
  exact ⟨hlt.symm, hgt.symm, hamp.symm, hquote.symm, happ.symm, hslash.symm, nofun⟩

/-- The characters of an escaped text are those of its characters in a row. -/
theorem toList_escape (s : String) : (escape s).toList = s.toList.flatMap escapeChar :=
  String.toList_ofList

/-! ## What no escaped text has -/

/-- No written character has one that opens or closes a tag or an attribute value. -/
theorem Written.plain {c : Char} {cs : List Char} (h : Written c cs) :
    ∀ d ∈ cs, d ≠ '<' ∧ d ≠ '>' ∧ d ≠ '"' ∧ d ≠ '\'' ∧ d ≠ '/' := by
  cases h with
  | entity hlisted =>
    have hall : ∀ entity ∈ entities, entity.2.all (fun d =>
        decide (d ≠ '<' ∧ d ≠ '>' ∧ d ≠ '"' ∧ d ≠ '\'' ∧ d ≠ '/')) = true := by
      decide
    exact fun d hd => of_decide_eq_true (List.all_eq_true.1 (hall _ hlisted) d hd)
  | itself hunlisted =>
    have hne : ∀ d cs, (d, cs) ∈ entities → c ≠ d := fun d cs hmem heq =>
      hunlisted (d, cs) hmem heq.symm
    intro d hd
    obtain rfl := List.mem_singleton.1 hd
    exact ⟨hne '<' "&lt;".toList (by decide), hne '>' "&gt;".toList (by decide),
      hne '"' "&quot;".toList (by decide), hne '\'' "&#x27;".toList (by decide),
      hne '/' "&#x2f;".toList (by decide)⟩

/-! ## Ampersands -/

/-- An entity begins with an ampersand and has no other. -/
theorem eq_cons_of_mem_entities {c : Char} {cs : List Char} (h : (c, cs) ∈ entities) :
    ∃ tail, cs = '&' :: tail ∧ '&' ∉ tail := by
  have hall : ∀ entity ∈ entities, entity.2 = '&' :: entity.2.tail ∧ '&' ∉ entity.2.tail := by
    decide
  exact ⟨cs.tail, hall _ h⟩

/-- What ends a text after characters that are no ampersand, and begins with one, ends what follows
them. -/
theorem suffix_of_not_mem {a : Char} {front rest after : List Char} (hfront : a ∉ front)
    (h : a :: after <:+ front ++ rest) : a :: after <:+ rest := by
  induction front with
  | nil => exact h
  | cons b front ih =>
    rw [List.mem_cons, not_or] at hfront
    rcases List.suffix_cons_iff.1 h with heq | hmore
    · exact absurd (List.cons.inj heq).1 hfront.1
    · exact ih hfront.2 hmore

/-- Where an ampersand stands after the beginning of an escaped text, an entity begins. -/
theorem ampersand_of_suffix {cs : List Char} {after : List Char}
    (h : '&' :: after <:+ cs.flatMap escapeChar) :
    ∃ entity ∈ entities, entity.2 <+: '&' :: after := by
  induction cs with
  | nil => exact absurd (List.suffix_nil.1 h) (List.cons_ne_nil _ _)
  | cons c cs ih =>
    rw [List.flatMap_cons] at h
    generalize cs.flatMap escapeChar = rest at h ih
    generalize hwritten : escapeChar c = front at h
    have hc := written_escapeChar c
    rw [hwritten] at hc
    cases hc with
    | @entity _ hlisted =>
      obtain ⟨tail, rfl, htail⟩ := eq_cons_of_mem_entities hlisted
      -- The ampersand is that of the entity, or it stands after the entity.
      rcases List.suffix_cons_iff.1 h with heq | hmore
      · refine ⟨_, hlisted, ?_⟩
        rw [heq]
        exact List.prefix_append _ _
      · exact ih (suffix_of_not_mem htail hmore)
    | itself hunlisted =>
      have hne : '&' ≠ c := fun heq => hunlisted ('&', "&amp;".toList) (by decide) heq
      exact ih (suffix_of_not_mem (fun hmem => hne (List.mem_singleton.1 hmem)) h)

/-! ## Reading the entities -/

/-- An entity is read as the character that it stands for. -/
theorem unescapeFrom_entity {c : Char} {cs : List Char} (h : (c, cs) ∈ entities)
    (rest : List Char) : unescapeFrom 0 (cs ++ rest) = c :: unescapeFrom 0 rest := by
  simp only [entities, List.mem_cons, Prod.mk.injEq, List.not_mem_nil, or_false] at h
  rcases h with ⟨rfl, rfl⟩ | ⟨rfl, rfl⟩ | ⟨rfl, rfl⟩ | ⟨rfl, rfl⟩ | ⟨rfl, rfl⟩ | ⟨rfl, rfl⟩ <;> rfl

/-- A character that begins no entity is read as itself. -/
theorem unescapeFrom_cons {c : Char} (h : c ≠ '&') (rest : List Char) :
    unescapeFrom 0 (c :: rest) = c :: unescapeFrom 0 rest := by
  have hnone : (entities.find? fun entity => entity.2.isPrefixOf (c :: rest)) = none := by
    refine List.find?_eq_none.2 fun entity hmem hprefix => ?_
    obtain ⟨tail, htail, -⟩ := eq_cons_of_mem_entities hmem
    rw [htail] at hprefix
    have hfirst := (Bool.and_eq_true_iff.1 hprefix).1
    exact h (eq_of_beq hfirst).symm
  rw [unescapeFrom, hnone]

/-- A text without an ampersand has no entities. -/
theorem unescape_of_not_mem {s : String} (h : '&' ∉ s.toList) : unescape s = s := by
  have hkept : ∀ cs : List Char, '&' ∉ cs → unescapeFrom 0 cs = cs := by
    intro cs
    induction cs with
    | nil => exact fun _ => rfl
    | cons c cs ih =>
      intro hcs
      rw [List.mem_cons, not_or] at hcs
      rw [unescapeFrom_cons fun heq => hcs.1 heq.symm, ih hcs.2]
  unfold unescape
  rw [hkept _ h, String.ofList_toList]

/-- Reading the entities of an escaped text gives the text back. -/
theorem unescapeFrom_escaped (cs : List Char) :
    unescapeFrom 0 (cs.flatMap escapeChar) = cs := by
  induction cs with
  | nil => rfl
  | cons c cs ih =>
    rw [List.flatMap_cons]
    have hc := written_escapeChar c
    generalize escapeChar c = front at hc ⊢
    cases hc with
    | entity hlisted => rw [unescapeFrom_entity hlisted, ih]
    | itself hunlisted =>
      have hne : c ≠ '&' := fun heq => hunlisted ('&', "&amp;".toList) (by decide) heq.symm
      rw [List.singleton_append, unescapeFrom_cons hne, ih]

/-- Every text is harmless once it is escaped. -/
theorem harmless (s : String) : Harmless s where
  plain c hc := by
    rw [toList_escape] at hc
    obtain ⟨d, -, hmem⟩ := List.mem_flatMap.1 hc
    exact (written_escapeChar d).plain c hmem
  ampersand before after h := by
    rw [toList_escape] at h
    exact ampersand_of_suffix ⟨before, h.symm⟩
  decoded := by
    unfold unescape
    rw [toList_escape, unescapeFrom_escaped, String.ofList_toList]

end ChatBoard.Html
