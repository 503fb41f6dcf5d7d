import ChatBoard.Json.Record

/-!
# Summaries of scores

Mean, median, least and greatest of the scores of a benchmark. All four are taken from the scores
sorted in the total order of IEEE 754, so the order of the runs does not matter.
-/

namespace ChatBoard.Benchmark

/-- The summary of scores. -/
structure Summary where
  mean : Double
  median : Double
  least : Double
  greatest : Double
  deriving DecidableEq, Repr

namespace Summary

/-- The sum, taken from the left and starting at negative zero. -/
def sum (xs : List Double) : Double := xs.foldl Double.add .negZero

/-- The score of a rank, counted from 0. -/
def ranked (sorted : List Double) (rank : Nat) : Double := sorted.getD rank .negZero

/-- The middle score, or the average of the two in the middle. -/
def middle (sorted : List Double) : Double :=
  let n := sorted.length
  -- Ranks count from 0.
  if n % 2 = 1 then ranked sorted (n / 2)
  else ((ranked sorted (n / 2 - 1)).add (ranked sorted (n / 2))).div (.ofNat 2)

/-- The summary of sorted scores. -/
def ofSorted (sorted : List Double) : Summary where
  mean := (sum sorted).div (.ofNat sorted.length)
  median := middle sorted
  least := ranked sorted 0
  greatest := ranked sorted (sorted.length - 1)

/-- The summary of scores in any order; there must be one. -/
def ofScores? (scores : List Double) : Option Summary :=
  if scores.isEmpty then none else some (ofSorted (scores.mergeSort Double.totalLe))

open Json

/-- The fields, all doubles. -/
def fields : List (Member Double) :=
  [⟨"mean", readDouble⟩, ⟨"median", readDouble⟩, ⟨"min", readDouble⟩, ⟨"max", readDouble⟩]

/-- Reads a summary. -/
def read : Reader Summary := fun bs => do
  match ← readRecord fields bs with
  | ([mean, median, least, greatest], rest) => pure (⟨mean, median, least, greatest⟩, rest)
  | _ => .error .mismatch

/-- The members of a written summary. -/
def members (s : Summary) : List (String × Octets) :=
  [("mean", writeDouble s.mean), ("median", writeDouble s.median), ("min", writeDouble s.least),
    ("max", writeDouble s.greatest)]

/-- The written form of a summary. -/
def write (s : Summary) : Octets := writeObject s.members

end Summary

end ChatBoard.Benchmark
