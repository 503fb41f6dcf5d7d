/-!
# Marks

Single characters that have to stand between the parts of a written form.
-/

namespace ChatBoard.Text

/-- Reads one fixed character. -/
def readMark (mark : Char) : List Char → Option (List Char)
  | [] => none
  | c :: rest => if c = mark then some rest else none

/-- What is left begins after the mark. -/
theorem readMark_eq_some_iff {mark : Char} {cs rest : List Char} :
    readMark mark cs = some rest ↔ cs = mark :: rest := by
  cases cs with
  | nil => simp [readMark]
  | cons c cs =>
    simp only [readMark, List.cons.injEq]
    split <;> simp_all

end ChatBoard.Text
