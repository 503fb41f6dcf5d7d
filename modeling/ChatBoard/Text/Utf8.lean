import ChatBoard.Octets

/-!
# Reading UTF-8 that may be damaged

`Octets.toText?` refuses octets that are not UTF-8. `repaired` never refuses: it puts U+FFFD for
each longest piece that begins a character and cannot go on, and for each octet that begins none. A
decoder state holds the bits gathered, the octets still owed and the bounds of the next one.
-/

namespace ChatBoard.Text

/-- The character that stands for a piece that could not be read. -/
def replacement : Char := Char.ofNat 0xfffd

/-- A character under way: its bits so far, the octets it still owes, and the bounds of the
next. -/
structure Pending where
  code : Nat
  owed : Nat
  least : UInt8
  greatest : UInt8

/-- What an octet does where no character is under way: it is a character, begins one, or is
neither. -/
def begin (b : UInt8) : Char ⊕ Pending :=
  if b < 0x80 then .inl (Char.ofNat b.toNat)
  else if 0xc2 ≤ b ∧ b ≤ 0xdf then .inr ⟨b.toNat % 32, 1, 0x80, 0xbf⟩
  else if b = 0xe0 then .inr ⟨0, 2, 0xa0, 0xbf⟩
  else if b = 0xed then .inr ⟨13, 2, 0x80, 0x9f⟩
  else if 0xe1 ≤ b ∧ b ≤ 0xef then .inr ⟨b.toNat % 16, 2, 0x80, 0xbf⟩
  else if b = 0xf0 then .inr ⟨0, 3, 0x90, 0xbf⟩
  else if 0xf1 ≤ b ∧ b ≤ 0xf3 then .inr ⟨b.toNat % 8, 3, 0x80, 0xbf⟩
  else if b = 0xf4 then .inr ⟨4, 3, 0x80, 0x8f⟩
  else .inl replacement

/-- Reads on from a decoder state; `done` holds the characters read, newest first. -/
def repairFrom (done : List Char) : Option Pending → Octets → List Char
  | none, [] => done.reverse
  | some _, [] => (replacement :: done).reverse
  | none, b :: rest =>
    match begin b with
    | .inl c => repairFrom (c :: done) none rest
    | .inr p => repairFrom done (some p) rest
  | some p, b :: rest =>
    if p.least ≤ b ∧ b ≤ p.greatest then
      let code := p.code * 64 + b.toNat % 64
      if p.owed ≤ 1 then repairFrom (Char.ofNat code :: done) none rest
      else repairFrom done (some ⟨code, p.owed - 1, 0x80, 0xbf⟩) rest
    else
      -- The character under way is lost, and the octet is looked at anew.
      match begin b with
      | .inl c => repairFrom (c :: replacement :: done) none rest
      | .inr p => repairFrom (replacement :: done) (some p) rest

/-- The text of octets that are taken as UTF-8, with U+FFFD where they are not. -/
def repaired (bs : Octets) : String :=
  match Octets.toText? bs with
  | some s => s
  | none => String.ofList (repairFrom [] none bs)

/-- Text that is UTF-8 is read as it stands. -/
@[simp] theorem repaired_ofText (s : String) : repaired (Octets.ofText s) = s := by
  simp [repaired]

end ChatBoard.Text
