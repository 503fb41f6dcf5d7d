import Mathlib.Data.List.Forall2

/-!
# Outcomes of computations that may fail

What comes of one step after another is taken apart into what comes of each
(`exists_of_bind_eq_ok`, `forall₂_of_mapM_eq_ok`), and a series of steps succeeds if each of them
does (`mapM_isOk`).
`SameOutcome` compares two computations: both fail in the same way, or both succeed, with results
that are related. It holds step by step (`SameOutcome.bind`), and so for a series of computations
over two lists with related elements (`SameOutcome.mapM`).
-/

namespace ChatBoard

section

variable {ε α β : Type} {x : Except ε α}

/-- What comes of one step after another comes of a result of the first. -/
theorem exists_of_bind_eq_ok {f : α → Except ε β} {b : β} (h : x >>= f = .ok b) :
    ∃ a, x = .ok a ∧ f a = .ok b := by
  cases x with
  | error p => cases h
  | ok a => exact ⟨a, rfl, h⟩

/-- What a function makes of a result comes of a result. -/
theorem exists_of_map_eq_ok {f : α → β} {b : β} (h : x.map f = .ok b) :
    ∃ a, x = .ok a ∧ f a = b := by
  cases x with
  | error p => cases h
  | ok a =>
    cases h
    exact ⟨a, rfl, rfl⟩

end

/-- A series of steps succeeds if each of them does. -/
theorem mapM_isOk {ε α β : Type} {f : α → Except ε β} {xs : List α}
    (h : ∀ x ∈ xs, ∃ y, f x = .ok y) : ∃ ys, xs.mapM f = .ok ys := by
  induction xs with
  | nil => exact ⟨[], rfl⟩
  | cons x rest ih =>
    obtain ⟨y, hy⟩ := h x List.mem_cons_self
    obtain ⟨ys, hys⟩ := ih fun z hz => h z (List.mem_cons_of_mem _ hz)
    refine ⟨y :: ys, ?_⟩
    rw [List.mapM_cons, hy, hys]
    rfl

/-- The results of a series of steps are those of its steps, in turn. -/
theorem forall₂_of_mapM_eq_ok {ε α β : Type} {f : α → Except ε β} {xs : List α} {ys : List β}
    (h : xs.mapM f = .ok ys) : List.Forall₂ (fun x y => f x = .ok y) xs ys := by
  induction xs generalizing ys with
  | nil =>
    cases h
    exact .nil
  | cons x rest ih =>
    rw [List.mapM_cons] at h
    obtain ⟨y, hy, h⟩ := exists_of_bind_eq_ok h
    obtain ⟨zs, hzs, h⟩ := exists_of_bind_eq_ok h
    cases h
    exact .cons hy (ih hzs)

/-- Two computations fail in the same way, or have results that are related. -/
inductive SameOutcome {ε α β : Type} (related : α → β → Prop) : Except ε α → Except ε β → Prop where
  | ok {a : α} {b : β} (h : related a b) : SameOutcome related (.ok a) (.ok b)
  | error (fault : ε) : SameOutcome related (.error fault) (.error fault)

namespace SameOutcome

variable {ε α β γ δ : Type} {P : α → β → Prop} {Q : γ → δ → Prop}

/-- One step after another. -/
theorem bind {x : Except ε α} {y : Except ε β} {f : α → Except ε γ} {g : β → Except ε δ}
    (h : SameOutcome P x y) (hnext : ∀ a b, P a b → SameOutcome Q (f a) (g b)) :
    SameOutcome Q (x >>= f) (y >>= g) := by
  cases h with
  | ok h => exact hnext _ _ h
  | error fault => exact .error fault

/-- What functions make of related results. -/
theorem map {x : Except ε α} {y : Except ε β} {f : α → γ} {g : β → δ} (h : SameOutcome P x y)
    (hmap : ∀ a b, P a b → Q (f a) (g b)) : SameOutcome Q (x.map f) (y.map g) := by
  cases h with
  | ok h => exact .ok (hmap _ _ h)
  | error fault => exact .error fault

/-- A series of computations, one for each element. -/
theorem mapM {f : α → Except ε γ} {g : β → Except ε δ} {xs : List α} {ys : List β}
    (h : List.Forall₂ P xs ys) (hnext : ∀ a b, P a b → SameOutcome Q (f a) (g b)) :
    SameOutcome (List.Forall₂ Q) (xs.mapM f) (ys.mapM g) := by
  induction h with
  | nil => exact .ok .nil
  | cons hfirst _ ih =>
    rw [List.mapM_cons, List.mapM_cons]
    exact (hnext _ _ hfirst).bind fun _ _ hc => ih.bind fun _ _ hcs => .ok (.cons hc hcs)

/-- Computations with equal results have equal outcomes. -/
theorem eq {x y : Except ε α} (h : SameOutcome (· = ·) x y) : x = y := by
  cases h with
  | ok h => rw [h]
  | error fault => rfl

end SameOutcome

end ChatBoard
