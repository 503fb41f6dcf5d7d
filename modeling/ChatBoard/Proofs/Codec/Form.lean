import ChatBoard.Http.Fields
import ChatBoard.Proofs.Octets

/-!
# Encoded forms

`Encodes enc os` says that `enc` is one of the ways to write the octets `os` in a form: an octet
without a meaning of its own may stand for itself, a space may be a plus sign, and any octet may be
an escape. However two fields are encoded, they are read back from a form that has an ampersand
between them (`Form.fields_encoded`), in three steps: the form is split at its ampersand, each piece
is cut at its equals sign, and what is left is decoded. Texts that stand for themselves are one of
the ways (`Form.fields_plain`).
-/

namespace ChatBoard.Form

/-- An octet that stands for itself in a form: no ampersand, equals sign, percent sign or plus. -/
def IsPlain (b : UInt8) : Prop := b ≠ 0x26 ∧ b ≠ 0x3d ∧ b ≠ 0x25 ∧ b ≠ 0x2b

instance (b : UInt8) : Decidable (IsPlain b) :=
  inferInstanceAs (Decidable (b ≠ 0x26 ∧ b ≠ 0x3d ∧ b ≠ 0x25 ∧ b ≠ 0x2b))

/-- The ways to write octets in a form. -/
inductive Encodes : Octets → Octets → Prop where
  | nil : Encodes [] []
  | plain {b : UInt8} {enc os : Octets} (hb : IsPlain b) (more : Encodes enc os) :
      Encodes (b :: enc) (b :: os)
  | space {enc os : Octets} (more : Encodes enc os) : Encodes (0x2b :: enc) (0x20 :: os)
  | escape {a b : UInt8} {x y : Nat} {enc os : Octets} (hx : Octets.hexValue a = some x)
      (hy : Octets.hexValue b = some y) (more : Encodes enc os) :
      Encodes (0x25 :: a :: b :: enc) (UInt8.ofNat (x * 16 + y) :: os)

/-! ## Decoding -/

/-- An octet that is no percent sign is decoded as it is, after those that have been decoded. -/
theorem decodeOnto_cons {b : UInt8} (hb : b ≠ 0x25) (done rest : Octets) :
    Percent.decodeOnto done 0 (b :: rest) = Percent.decodeOnto (b :: done) 0 rest := by
  have hescape : Percent.escaped? b rest = none := by
    unfold Percent.escaped?
    split
    · exact if_neg hb
    · rfl
  rw [Percent.decodeOnto, hescape]

/-- Octets without a percent sign are decoded as they are. -/
theorem decode_of_not_mem {bs : Octets} (h : 0x25 ∉ bs) : Percent.decode bs = bs := by
  have honto : ∀ done, Percent.decodeOnto done 0 bs = done.reverse ++ bs := by
    induction bs with
    | nil => exact fun done => (List.append_nil _).symm
    | cons b rest ih =>
      intro done
      rw [List.mem_cons, not_or] at h
      rw [decodeOnto_cons fun heq => h.1 heq.symm, ih h.2, List.reverse_cons, List.append_assoc]
      rfl
  exact honto []

/-- A hexadecimal digit is no octet that is none. -/
theorem ne_of_hexValue {a b : UInt8} {x : Nat} (ha : Octets.hexValue a = some x)
    (hb : Octets.hexValue b = none) : a ≠ b := by
  rintro rfl
  rw [ha] at hb
  cases hb

namespace Encodes

variable {enc os : Octets}

/-- What octets encode is decoded after what has been decoded. -/
theorem decodeOnto (h : Encodes enc os) (done : Octets) :
    Percent.decodeOnto done 0 (enc.map spaceOfPlus) = done.reverse ++ os := by
  induction h generalizing done with
  | nil => exact (List.append_nil _).symm
  | @plain b enc os hb _ ih =>
    have hspace : spaceOfPlus b = b := if_neg hb.2.2.2
    rw [List.map_cons, hspace, decodeOnto_cons hb.2.2.1, ih, List.reverse_cons, List.append_assoc]
    rfl
  | @space enc os _ ih =>
    have hspace : spaceOfPlus 0x2b = 0x20 := rfl
    rw [List.map_cons, hspace, decodeOnto_cons (by decide), ih, List.reverse_cons,
      List.append_assoc]
    rfl
  | @escape a b x y enc os hx hy _ ih =>
    have ha : spaceOfPlus a = a := if_neg (ne_of_hexValue hx (by decide))
    have hb : spaceOfPlus b = b := if_neg (ne_of_hexValue hy (by decide))
    have hpercent : spaceOfPlus 0x25 = 0x25 := rfl
    have hescape : Percent.escaped? 0x25 (a :: b :: enc.map spaceOfPlus)
        = some (UInt8.ofNat (x * 16 + y)) := by
      unfold Percent.escaped?
      dsimp only
      rw [if_pos rfl, hx, hy]
    -- The escape is passed over once its octet has been decoded.
    rw [List.map_cons, List.map_cons, List.map_cons, hpercent, ha, hb, Percent.decodeOnto, hescape]
    dsimp only [Percent.decodeOnto]
    rw [ih, List.reverse_cons, List.append_assoc]
    rfl

/-- A text that is encoded is decoded. -/
theorem decodeText {s : String} (h : Encodes enc (Octets.ofText s)) : decodeText enc = s := by
  unfold Form.decodeText Percent.decode
  rw [h.decodeOnto, List.reverse_nil, List.nil_append, Text.repaired_ofText]

/-- None of the marks between fields stands in what is encoded. -/
theorem ne_of_mem (h : Encodes enc os) : ∀ b ∈ enc, b ≠ 0x26 ∧ b ≠ 0x3d := by
  induction h with
  | nil => exact fun _ hb => absurd hb List.not_mem_nil
  | plain hb _ ih =>
    rw [List.forall_mem_cons]
    exact ⟨⟨hb.1, hb.2.1⟩, ih⟩
  | space _ ih =>
    rw [List.forall_mem_cons]
    exact ⟨by decide, ih⟩
  | escape hx hy _ ih =>
    rw [List.forall_mem_cons, List.forall_mem_cons, List.forall_mem_cons]
    exact ⟨by decide, ⟨ne_of_hexValue hx (by decide), ne_of_hexValue hx (by decide)⟩,
      ⟨ne_of_hexValue hy (by decide), ne_of_hexValue hy (by decide)⟩, ih⟩

end Encodes

/-! ## Fields -/

/-- A piece of a form encodes a field: its name and its value with an equals sign between them. -/
def EncodesField (piece : Octets) (f : Field) : Prop :=
  ∃ name value, piece = name ++ 0x3d :: value ∧ Encodes name (Octets.ofText f.1)
    ∧ Encodes value (Octets.ofText f.2)

namespace EncodesField

variable {piece : Octets} {f : Field}

/-- A field is read back however it is encoded. -/
theorem field_eq (h : EncodesField piece f) : field piece = f := by
  obtain ⟨name, value, rfl, hname, hvalue⟩ := h
  -- The first equals sign is the one between the two texts, since the name has none.
  have hequals : 0x3d ∉ name := fun hmem => (hname.ne_of_mem _ hmem).2 rfl
  unfold field
  rw [Octets.cutAt_append_cons hequals]
  dsimp only [Option.getD_some]
  rw [hname.decodeText, hvalue.decodeText]

/-- No octet of an encoded field is an ampersand. -/
theorem not_mem (h : EncodesField piece f) : 0x26 ∉ piece := by
  obtain ⟨name, value, rfl, hname, hvalue⟩ := h
  rw [List.mem_append, List.mem_cons]
  rintro (hmem | heq | hmem)
  · exact (hname.ne_of_mem _ hmem).1 rfl
  · exact absurd heq (by decide)
  · exact (hvalue.ne_of_mem _ hmem).1 rfl

/-- An encoded field has at least its equals sign. -/
theorem ne_nil (h : EncodesField piece f) : piece ≠ [] := by
  obtain ⟨name, value, rfl, -, -⟩ := h
  simp

end EncodesField

/-- Two fields are read back however they are encoded. -/
theorem fields_encoded {p q : Octets} {f g : Field} (hp : EncodesField p f)
    (hq : EncodesField q g) : fields (p ++ 0x26 :: q) = [f, g] := by
  have hpieces : (p ++ 0x26 :: q).splitOn 0x26 = [p, q] := by
    rw [List.splitOn_append_cons_self_of_not_mem hp.not_mem, List.splitOn_eq_singleton hq.not_mem]
  have hthere : ([p, q].filter fun piece => !piece.isEmpty) = [p, q] :=
    List.filter_eq_self.2 (by simp [hp.ne_nil, hq.ne_nil])
  unfold fields
  rw [hpieces, hthere, List.map_cons, List.map_cons, List.map_nil, hp.field_eq, hq.field_eq]

/-- A single field is read back however it is encoded. -/
theorem fields_single {p : Octets} {f : Field} (hp : EncodesField p f) : fields p = [f] := by
  have hthere : ([p].filter fun piece => !piece.isEmpty) = [p] :=
    List.filter_eq_self.2 (by simp [hp.ne_nil])
  unfold fields
  rw [List.splitOn_eq_singleton hp.not_mem, hthere, List.map_singleton, hp.field_eq]

/-! ## Texts that stand for themselves -/

/-- A text whose octets all stand for themselves in a form. -/
def Plain (s : String) : Prop := ∀ b ∈ Octets.ofText s, IsPlain b

instance (s : String) : Decidable (Plain s) :=
  List.decidableBAll (fun b => IsPlain b) (Octets.ofText s)

/-- Octets that stand for themselves are one way to write them. -/
theorem encodes_self {os : Octets} (h : ∀ b ∈ os, IsPlain b) : Encodes os os := by
  induction os with
  | nil => exact .nil
  | cons b os ih =>
    exact .plain (h b List.mem_cons_self) (ih fun c hc => h c (List.mem_cons_of_mem _ hc))

/-- The written form of a field. -/
def written (f : Field) : Octets := Octets.ofText f.1 ++ 0x3d :: Octets.ofText f.2

/-- The written form of a plain field encodes it. -/
theorem encodes_written {f : Field} (hname : Plain f.1) (hvalue : Plain f.2) :
    EncodesField (written f) f :=
  ⟨_, _, rfl, encodes_self hname, encodes_self hvalue⟩

/-- Two plain fields are read back from their written forms with an ampersand between them. -/
theorem fields_plain {f g : Field} (hf : Plain f.1) (hf' : Plain f.2) (hg : Plain g.1)
    (hg' : Plain g.2) : fields (written f ++ 0x26 :: written g) = [f, g] :=
  fields_encoded (encodes_written hf hf') (encodes_written hg hg')

end ChatBoard.Form
