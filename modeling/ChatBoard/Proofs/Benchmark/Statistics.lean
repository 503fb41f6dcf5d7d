import ChatBoard.Benchmark.Statistics

/-!
# Scores by rank

No two bit patterns have the same place in the total order (`Double.key_injective`), so scores have
one sorted list, in whatever order they come, and a summary does not depend on the order of the runs
(`Summary.sort_eq_of_perm`). What it takes from the sorted list is told without sorting: a score has
a rank if at most that many scores come before it and at most as many as are left come after it
(`Summary.HasRank`). The score at a place of the sorted list has the rank of the place
(`Summary.hasRank_ranked`), and no other score has it (`Summary.HasRank.unique`). Nothing is assumed
of the addition and the division of doubles.
-/

namespace ChatBoard

namespace Double

variable {x y z : Double}

/-- The key tells the sign, the magnitude and so all bits. -/
theorem key_injective (h : x.key = y.key) : x = y := by
  have hx : x.bits.toNat < 18446744073709551616 := x.bits.toNat_lt
  have hy : y.bits.toNat < 18446744073709551616 := y.bits.toNat_lt
  have hbits : x.bits.toNat = y.bits.toNat := by
    -- The key is negative just where the sign bit is set, and then the magnitude follows.
    unfold key isNegative magnitude signWeight at h
    by_cases hneg : x.bits.toNat ≥ 9223372036854775808 <;>
      by_cases hneg' : y.bits.toNat ≥ 9223372036854775808 <;>
      simp only [hneg, hneg', decide_true, decide_false, if_true, Bool.false_eq_true, if_false]
        at h <;>
      omega
  have heq : x.bits = y.bits := UInt64.toNat_inj.1 hbits
  cases x
  cases y
  exact congrArg Double.mk heq

/-- The total order is that of the keys. -/
theorem totalLe_iff : x.totalLe y = true ↔ x.key ≤ y.key := decide_eq_true_iff

/-- What comes after a third comes after what the third comes after. -/
theorem totalLe_trans (h : x.totalLe y = true) (h' : y.totalLe z = true) :
    x.totalLe z = true := by
  rw [totalLe_iff] at h h' ⊢
  omega

/-- Two doubles are always in order, one way or the other. -/
theorem totalLe_total (x y : Double) : (x.totalLe y || y.totalLe x) = true := by
  rw [Bool.or_eq_true, totalLe_iff, totalLe_iff]
  omega

/-- A double is in order with itself. -/
theorem totalLe_refl (x : Double) : x.totalLe x = true := totalLe_iff.2 (Int.le_refl _)

/-- Two doubles that are in order both ways are the same bits. -/
theorem totalLe_antisymm (h : x.totalLe y = true) (h' : y.totalLe x = true) : x = y := by
  rw [totalLe_iff] at h h'
  exact key_injective (by omega)

end Double

namespace Benchmark.Summary

variable {scores scores' : List Double}

/-! ## One sorted list -/

/-- Sorted scores are in total order. -/
theorem pairwise_sort (scores : List Double) :
    (scores.mergeSort Double.totalLe).Pairwise fun a b => a.totalLe b = true :=
  @List.pairwise_mergeSort _ Double.totalLe (fun _ _ _ => Double.totalLe_trans)
    Double.totalLe_total scores

/-- The same scores in another order are sorted into the same list. -/
theorem sort_eq_of_perm (h : scores'.Perm scores) :
    scores'.mergeSort Double.totalLe = scores.mergeSort Double.totalLe := by
  have hperm : (scores'.mergeSort Double.totalLe).Perm (scores.mergeSort Double.totalLe) :=
    (List.mergeSort_perm _ _).trans (h.trans (List.mergeSort_perm _ _).symm)
  exact hperm.eq_of_pairwise (fun _ _ _ _ => Double.totalLe_antisymm) (pairwise_sort scores')
    (pairwise_sort scores)

/-- There is a summary of one score or more. -/
theorem ofScores?_of_ne_nil (h : scores ≠ []) :
    ofScores? scores = some (ofSorted (scores.mergeSort Double.totalLe)) := by
  unfold ofScores?
  rw [if_neg (by rwa [List.isEmpty_iff])]

/-! ## Ranks -/

/-- How many scores come strictly before a score. -/
def countBelow (scores : List Double) (a : Double) : Nat := scores.countP fun x => !a.totalLe x

/-- How many scores come strictly after a score. -/
def countAbove (scores : List Double) (a : Double) : Nat := scores.countP fun x => !x.totalLe a

/-- One of the scores has a rank, counted from 0: no more scores come before it than the rank says,
and no more come after it than are left. -/
structure HasRank (scores : List Double) (rank : Nat) (a : Double) : Prop where
  mem : a ∈ scores
  below : countBelow scores a ≤ rank
  above : rank + countAbove scores a < scores.length

/-- Ranks do not depend on the order in which the scores come. -/
theorem HasRank.perm {rank : Nat} {a : Double} (h : HasRank scores rank a)
    (hperm : scores.Perm scores') : HasRank scores' rank a where
  mem := hperm.mem_iff.1 h.mem
  below := by
    have hcount : countBelow scores a = countBelow scores' a := hperm.countP_eq _
    rw [← hcount]
    exact h.below
  above := by
    have hcount : countAbove scores a = countAbove scores' a := hperm.countP_eq _
    rw [← hcount, ← hperm.length_eq]
    exact h.above

/-- What has a rank comes no later than whatever else has it. -/
theorem HasRank.totalLe {rank : Nat} {a b : Double} (ha : HasRank scores rank a)
    (hb : HasRank scores rank b) : a.totalLe b = true := by
  cases hlt : a.totalLe b with
  | true => rfl
  | false =>
  -- If `b` came strictly before `a`, all that do not come after `b` would come before `a`.
  have hsplit := scores.length_eq_countP_add_countP fun x => x.totalLe b
  have hbelow : (scores.countP fun x => x.totalLe b) ≤ countBelow scores a := by
    refine List.countP_mono_left fun x _ hx => ?_
    cases hax : a.totalLe x with
    | false => rfl
    | true => exact absurd (Double.totalLe_trans hax hx) (by simp [hlt])
  have habove : (scores.countP fun x => ¬ x.totalLe b = true) = countAbove scores b := by
    unfold countAbove
    congr 1
    funext x
    cases x.totalLe b <;> rfl
  have hrank := ha.below
  have hroom := hb.above
  omega

/-- No two scores have the same rank. -/
theorem HasRank.unique {rank : Nat} {a b : Double} (ha : HasRank scores rank a)
    (hb : HasRank scores rank b) : a = b :=
  Double.totalLe_antisymm (ha.totalLe hb) (hb.totalLe ha)

/-- Nothing comes before a score with rank 0. -/
theorem HasRank.least {a : Double} (h : HasRank scores 0 a) :
    ∀ x ∈ scores, a.totalLe x = true := by
  intro x hx
  have hnone := List.countP_eq_zero.1 (Nat.le_zero.1 h.below) x hx
  simpa using hnone

/-- Nothing comes after a score with the last rank. -/
theorem HasRank.greatest {a : Double} (h : HasRank scores (scores.length - 1) a) :
    ∀ x ∈ scores, x.totalLe a = true := by
  intro x hx
  have habove := h.above
  have hzero : countAbove scores a = 0 := by omega
  have hnone := List.countP_eq_zero.1 hzero x hx
  simpa using hnone

/-- Where nothing counts from a place on, no more than the place says is counted. -/
theorem countP_le_of_drop {p : Double → Bool} {rank : Nat}
    (h : ∀ x ∈ scores.drop rank, p x = false) : scores.countP p ≤ rank := by
  have hnone : (scores.drop rank).countP p = 0 :=
    List.countP_eq_zero.2 fun x hx => by simp [h x hx]
  have hfew : (scores.take rank).countP p ≤ rank :=
    Nat.le_trans List.countP_le_length (List.length_take_le rank scores)
  have hsplit : scores.countP p = (scores.take rank).countP p + (scores.drop rank).countP p := by
    rw [← List.countP_append, List.take_append_drop]
  omega

/-- Where nothing counts up to a place, no more than what is left is counted. -/
theorem countP_le_of_take {p : Double → Bool} {rank : Nat}
    (h : ∀ x ∈ scores.take rank, p x = false) : scores.countP p ≤ scores.length - rank := by
  have hnone : (scores.take rank).countP p = 0 :=
    List.countP_eq_zero.2 fun x hx => by simp [h x hx]
  have hfew : (scores.drop rank).countP p ≤ scores.length - rank := by
    rw [← List.length_drop]
    exact List.countP_le_length
  have hsplit : scores.countP p = (scores.take rank).countP p + (scores.drop rank).countP p := by
    rw [← List.countP_append, List.take_append_drop]
  omega

/-- The score at a place of a sorted list has the rank of the place. -/
theorem hasRank_of_sorted {sorted : List Double}
    (h : sorted.Pairwise fun a b => a.totalLe b = true) {rank : Nat}
    (hrank : rank < sorted.length) :
    HasRank sorted rank (ranked sorted rank) := by
  have hplace : ranked sorted rank = sorted[rank] := by
    unfold ranked
    rw [List.getD_eq_getElem?_getD, List.getElem?_eq_getElem hrank, Option.getD_some]
  rw [hplace]
  -- From the place on nothing comes before the score, and up to it nothing comes after it.
  have hfrom : ∀ x ∈ sorted.drop rank, sorted[rank].totalLe x = true := by
    have hdrop := h.drop (i := rank)
    rw [List.drop_eq_getElem_cons hrank, List.pairwise_cons] at hdrop
    rw [List.drop_eq_getElem_cons hrank]
    exact List.forall_mem_cons.2 ⟨Double.totalLe_refl _, hdrop.1⟩
  have hupTo : ∀ x ∈ sorted.take (rank + 1), x.totalLe sorted[rank] = true := by
    have htake := h.take (i := rank + 1)
    rw [← List.take_append_getElem hrank, List.pairwise_append] at htake
    rw [← List.take_append_getElem hrank]
    intro x hx
    rcases List.mem_append.1 hx with hx | hx
    · exact htake.2.2 x hx _ List.mem_cons_self
    · rw [List.mem_singleton.1 hx]
      exact Double.totalLe_refl _
  have hbelow : countBelow sorted sorted[rank] ≤ rank :=
    countP_le_of_drop fun x hx => by rw [hfrom x hx, Bool.not_true]
  have habove : countAbove sorted sorted[rank] ≤ sorted.length - (rank + 1) :=
    countP_le_of_take fun x hx => by rw [hupTo x hx, Bool.not_true]
  exact ⟨List.getElem_mem hrank, hbelow, by omega⟩

/-- The score at a place of the sorted scores has the rank of the place. -/
theorem hasRank_ranked {rank : Nat} (h : rank < scores.length) :
    HasRank scores rank (ranked (scores.mergeSort Double.totalLe) rank) := by
  have hperm : (scores.mergeSort Double.totalLe).Perm scores := List.mergeSort_perm _ _
  exact (hasRank_of_sorted (pairwise_sort scores) (by rwa [hperm.length_eq])).perm hperm

/-! ## Summaries -/

/-- What a summary says of scores, told by their ranks. -/
structure Tells (scores : List Double) (s : Summary) : Prop where
  /-- The least score is one of the scores, and none comes before it. -/
  least : s.least ∈ scores ∧ ∀ x ∈ scores, s.least.totalLe x = true
  /-- The greatest score is one of the scores, and none comes after it. -/
  greatest : s.greatest ∈ scores ∧ ∀ x ∈ scores, x.totalLe s.greatest = true
  /-- Of an odd number of scores the median is one, with at most half of the others on either
  side. -/
  oddMedian : scores.length % 2 = 1 → s.median ∈ scores
    ∧ countBelow scores s.median ≤ (scores.length - 1) / 2
    ∧ countAbove scores s.median ≤ (scores.length - 1) / 2
  /-- Of an even number of scores the median is the average of the two in the middle, and there are
  such two. -/
  evenMedian : scores.length % 2 = 0 →
    (∃ a b, HasRank scores (scores.length / 2 - 1) a ∧ HasRank scores (scores.length / 2) b)
      ∧ ∀ a b, HasRank scores (scores.length / 2 - 1) a → HasRank scores (scores.length / 2) b →
        s.median = (a.add b).div (.ofNat 2)

/-- The summary of the sorted scores tells their ranks. -/
theorem tells_ofSorted (h : scores ≠ []) :
    Tells scores (ofSorted (scores.mergeSort Double.totalLe)) := by
  have hlength : (scores.mergeSort Double.totalLe).length = scores.length :=
    (List.mergeSort_perm _ _).length_eq
  have hpos : 0 < scores.length := List.length_pos_iff.2 h
  refine ⟨?_, ?_, fun hodd => ?_, fun heven => ?_⟩
  · have hleast : (ofSorted (scores.mergeSort Double.totalLe)).least
        = ranked (scores.mergeSort Double.totalLe) 0 := rfl
    have hrank := hasRank_ranked hpos
    rw [hleast]
    exact ⟨hrank.mem, hrank.least⟩
  · have hgreatest : (ofSorted (scores.mergeSort Double.totalLe)).greatest
        = ranked (scores.mergeSort Double.totalLe) (scores.length - 1) := by
      rw [← hlength]
      rfl
    have hlast : scores.length - 1 < scores.length := by omega
    have hrank := hasRank_ranked hlast
    rw [hgreatest]
    exact ⟨hrank.mem, hrank.greatest⟩
  · have hmedian : (ofSorted (scores.mergeSort Double.totalLe)).median
        = ranked (scores.mergeSort Double.totalLe) (scores.length / 2) := by
      rw [← hlength] at hodd ⊢
      exact if_pos hodd
    have hmiddle : scores.length / 2 < scores.length := by omega
    have hrank := hasRank_ranked hmiddle
    have hbelow := hrank.below
    have habove := hrank.above
    rw [hmedian]
    exact ⟨hrank.mem, by omega, by omega⟩
  · have hmedian : (ofSorted (scores.mergeSort Double.totalLe)).median
        = ((ranked (scores.mergeSort Double.totalLe) (scores.length / 2 - 1)).add
          (ranked (scores.mergeSort Double.totalLe) (scores.length / 2))).div (.ofNat 2) := by
      rw [← hlength] at heven ⊢
      exact if_neg (by omega)
    have hbefore : scores.length / 2 - 1 < scores.length := by omega
    have hmiddle : scores.length / 2 < scores.length := by omega
    have hlow := hasRank_ranked hbefore
    have hhigh := hasRank_ranked hmiddle
    refine ⟨⟨_, _, hlow, hhigh⟩, fun a b ha hb => ?_⟩
    rw [hmedian, ha.unique hlow, hb.unique hhigh]

/-- One score or more have one summary, whatever the order in which they come, and it tells their
ranks. -/
theorem summary_of_scores (h : scores ≠ []) :
    ∃ s, (∀ scores' : List Double, scores'.Perm scores → ofScores? scores' = some s)
      ∧ Tells scores s := by
  refine ⟨_, fun scores' hperm => ?_, tells_ofSorted h⟩
  have hne : scores' ≠ [] := fun hnil => h (List.nil_perm.1 (hnil ▸ hperm))
  rw [ofScores?_of_ne_nil hne, sort_eq_of_perm hperm]

/-- The two zeros, a NaN and an infinity, in no order. -/
def specials : List Double :=
  [⟨0x8000000000000000⟩, ⟨0x7ff8000000000000⟩, ⟨0⟩, ⟨0xfff0000000000000⟩]

/-- The two zeros, a NaN and an infinity have one summary. -/
theorem summary_of_specials :
    specials ≠ [] ∧ ∃ s,
      (∀ scores' : List Double, scores'.Perm specials → ofScores? scores' = some s)
        ∧ Tells specials s :=
  ⟨by decide, summary_of_scores (by decide)⟩

end Benchmark.Summary

end ChatBoard
