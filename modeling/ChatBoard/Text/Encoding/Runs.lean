/-!
# Runs of characters

A character set numbers its characters. It is written down as runs: the number at which a run
starts, and the characters that stand there one after the other. A number outside the runs stands
for no character.
-/

namespace ChatBoard.Text

/-- Runs of characters, each with the number of its first one. -/
abbrev Runs := List (Nat × String)

namespace Runs

/-- Enters characters into a table, the first one at a given number. -/
def enter (table : Array (Option Char)) : Nat → List Char → Array (Option Char)
  | _, [] => table
  | n, c :: rest => enter (table.setIfInBounds n (some c)) (n + 1) rest

/-- The table of a given size that runs describe. -/
def table (rs : Runs) (size : Nat) : Array (Option Char) :=
  rs.foldl (fun t r => enter t r.1 r.2.toList) (Array.replicate size none)

/-- Entering characters keeps the size of a table. -/
theorem size_enter (cs : List Char) (t : Array (Option Char)) (n : Nat) :
    (enter t n cs).size = t.size := by
  induction cs generalizing t n with
  | nil => rfl
  | cons c rest ih => rw [enter, ih, Array.size_setIfInBounds]

/-- A table has the size that was asked for. -/
theorem size_table (rs : Runs) (size : Nat) : (rs.table size).size = size := by
  have h (t : Array (Option Char)) :
      (rs.foldl (fun t r => enter t r.1 r.2.toList) t).size = t.size := by
    induction rs generalizing t with
    | nil => rfl
    | cons r rest ih => rw [List.foldl_cons, ih, size_enter]
  rw [table, h, Array.size_replicate]

end Runs

end ChatBoard.Text
