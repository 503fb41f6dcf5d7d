import ChatBoard.Proofs.Outcome
import ChatBoard.Proofs.Page.Fill

/-!
# What a template makes of its texts

A template that passes `Template.check` only prints the texts that it is given: no condition and no
comparison looks at them, and no loop runs over their characters. The check knows of each name in
scope what kind of value it has, its `Shape`. `Template.fill_alike` says what it is good for: from
two scopes that differ in their texts alone (`AlikeMembers`), a template makes the same pieces of
its own at the same places, and at the others the texts that it was given, one from each scope.

The proof follows the template. An expression has the shape that the check gives it, and two values
that differ in their texts alone decide a condition alike, have as many elements, and are printed as
pieces that differ in their texts alone.
-/

namespace ChatBoard.Page

/-- What is known of a value before there are texts and numbers. -/
inductive Shape where
  /-- There is no value. -/
  | absent
  | flag
  | number
  | text
  | list (element : Shape)
  | map (members : List (String × Shape))

/-- The shapes of the names in scope. -/
abbrev Shapes := List (String × Shape)

mutual

/-- A value has a shape. -/
def Fits : Shape → Value → Prop
  | .absent, v => v = .undefined ∨ v = .none
  | .flag, v => ∃ b, v = .bool b
  | .number, v => ∃ i, v = .int i
  | .text, v => ∃ s, v = .text s
  | .list element, v => ∃ xs, v = .list xs ∧ ∀ x ∈ xs, Fits element x
  | .map members, v => ∃ ms, v = .map ms ∧ FitMembers members ms

/-- Values under names have the shapes under these names. -/
def FitMembers : Shapes → Scope → Prop
  | [], ms => ms = []
  | (name, shape) :: shapes, ms =>
    ∃ v rest, ms = (name, v) :: rest ∧ Fits shape v ∧ FitMembers shapes rest

end

mutual

/-- Two values are the same but for their texts, which are related one by one. -/
def Alike (R : String → String → Prop) : Value → Value → Prop
  | .text s, w => ∃ t, w = .text t ∧ R s t
  | .list xs, w => ∃ ys, w = .list ys ∧ AlikeAll R xs ys
  | .map ms, w => ∃ ns, w = .map ns ∧ AlikeMembers R ms ns
  | v, w => w = v

/-- Two lists have as many values, which are the same but for their texts. -/
def AlikeAll (R : String → String → Prop) : List Value → List Value → Prop
  | [], ys => ys = []
  | x :: xs, ys => ∃ y rest, ys = y :: rest ∧ Alike R x y ∧ AlikeAll R xs rest

/-- Under the same names there are values that are the same but for their texts. -/
def AlikeMembers (R : String → String → Prop) : Scope → Scope → Prop
  | [], ns => ns = []
  | (name, v) :: ms, ns =>
    ∃ w rest, ns = (name, w) :: rest ∧ Alike R v w ∧ AlikeMembers R ms rest

end

/-- Two pieces are the same text of the template, or texts that it was given and that are
related. -/
inductive Piece.Alike (R : String → String → Prop) : Piece → Piece → Prop where
  | own (s : String) : Alike R (.own s) (.own s)
  | given {s t : String} (h : R s t) : Alike R (.given s) (.given t)

/-! ## The check -/

namespace Shape

/-- A value of this shape shows as one piece, which is a text only if the value is one. -/
def isPrinted : Shape → Bool
  | absent | flag | number | text => true
  | list _ | map _ => false

/-- Whether a value of this shape holds does not depend on a text. -/
def isDecided : Shape → Bool
  | text => false
  | _ => true

/-- The shape of what is computed from two numbers. -/
def ofNumbers (result : Shape) : Option Shape → Option Shape → Option Shape
  | some number, some number => some result
  | _, _ => none

end Shape

/-- The shape of an expression's value, if it does not depend on a text. -/
def Expr.shape? (shapes : Shapes) : Expr → Option Shape
  | name x => some ((shapes.lookup x).getD .absent)
  | field e x =>
    match e.shape? shapes with
    | some (.map members) => some ((members.lookup x).getD .absent)
    | _ => none
  | int _ => some .number
  | add l r | sub l r => Shape.ofNumbers .number (l.shape? shapes) (r.shape? shapes)
  | less l r | greater l r | equal l r => Shape.ofNumbers .flag (l.shape? shapes) (r.shape? shapes)
  | range l r =>
    match shapes.lookup rangeName with
    | none => Shape.ofNumbers (.list .number) (l.shape? shapes) (r.shape? shapes)
    | some _ => none

/-- A template does no more with texts than print them. -/
def Template.check (shapes : Shapes) : Template → Bool
  | done => true
  | text _ rest => rest.check shapes
  | print _ e rest => ((e.shape? shapes).any Shape.isPrinted) && rest.check shapes
  | cond _ e yes no rest =>
    (match e.shape? shapes with
      -- What holds of no value is never filled in.
      | some .absent => no.check shapes
      | some shape => shape.isDecided && yes.check shapes && no.check shapes
      | none => false) && rest.check shapes
  | each _ x e body rest =>
    (match e.shape? shapes with
      | some .absent => true
      | some (.list element) => body.check ((x, element) :: shapes)
      | _ => false) && rest.check shapes
  | block _ body rest => body.check shapes && rest.check shapes

/-! ## Values that differ in their texts alone -/

section

variable {R : String → String → Prop} {v w : Value}

/-- Lists of values that differ in their texts alone have them side by side. -/
theorem alikeAll_iff {xs ys : List Value} : AlikeAll R xs ys ↔ List.Forall₂ (Alike R) xs ys := by
  induction xs generalizing ys with
  | nil =>
    rw [List.forall₂_nil_left_iff]
    rfl
  | cons x rest ih =>
    constructor
    · rintro ⟨y, ys', rfl, hfirst, hrest⟩
      exact .cons hfirst (ih.1 hrest)
    · intro h
      cases h with
      | cons hfirst hrest => exact ⟨_, _, rfl, hfirst, ih.2 hrest⟩

/-- What has the same names in both scopes has the shape of its name. -/
theorem lookup_alike {shapes : Shapes} {ms ns : Scope} (hfit : FitMembers shapes ms)
    (halike : AlikeMembers R ms ns) (x : String) :
    Fits ((shapes.lookup x).getD .absent) ((ms.lookup x).getD .undefined)
      ∧ Alike R ((ms.lookup x).getD .undefined) ((ns.lookup x).getD .undefined) := by
  induction shapes generalizing ms ns with
  | nil =>
    obtain rfl : ms = [] := hfit
    obtain rfl : ns = [] := halike
    exact ⟨.inl rfl, rfl⟩
  | cons first shapes ih =>
    obtain ⟨name, shape⟩ := first
    obtain ⟨v, ms', rfl, hv, hfit'⟩ := hfit
    obtain ⟨w, ns', rfl, hw, halike'⟩ := halike
    rw [List.lookup_cons, List.lookup_cons, List.lookup_cons]
    by_cases hx : (x == name) = true
    · rw [hx]
      exact ⟨hv, hw⟩
    · rw [Bool.not_eq_true] at hx
      rw [hx]
      exact ih hfit' halike'

/-- Where no shape is known of a name, it has no value in either scope. -/
theorem lookup_eq_none {shapes : Shapes} {ms ns : Scope} (hfit : FitMembers shapes ms)
    (halike : AlikeMembers R ms ns) {x : String} (h : shapes.lookup x = none) :
    ms.lookup x = none ∧ ns.lookup x = none := by
  induction shapes generalizing ms ns with
  | nil =>
    obtain rfl : ms = [] := hfit
    obtain rfl : ns = [] := halike
    exact ⟨rfl, rfl⟩
  | cons first shapes ih =>
    obtain ⟨name, shape⟩ := first
    obtain ⟨v, ms', rfl, -, hfit'⟩ := hfit
    obtain ⟨w, ns', rfl, -, halike'⟩ := halike
    rw [List.lookup_cons] at h ⊢
    rw [List.lookup_cons]
    by_cases hx : (x == name) = true
    · rw [hx] at h
      cases h
    · rw [Bool.not_eq_true] at hx
      rw [hx] at h ⊢
      exact ih hfit' halike' h

/-- Numbers are the same. -/
theorem Fits.number (hfit : Fits .number v) (halike : Alike R v w) :
    ∃ i, v = .int i ∧ w = .int i := by
  obtain ⟨i, rfl⟩ := hfit
  exact ⟨i, rfl, halike⟩

/-- A value that is printed shows as the same piece, or as texts that are related. -/
theorem Fits.pieceOf {shape : Shape} (hprinted : shape.isPrinted = true) (hfit : Fits shape v)
    (halike : Alike R v w) : Piece.Alike R (Template.pieceOf v) (Template.pieceOf w) := by
  cases shape with
  | absent =>
    rcases hfit with rfl | rfl
    · obtain rfl : w = .undefined := halike
      exact .own _
    · obtain rfl : w = .none := halike
      exact .own _
  | flag =>
    obtain ⟨b, rfl⟩ := hfit
    obtain rfl : w = .bool b := halike
    exact .own _
  | number =>
    obtain ⟨i, rfl, rfl⟩ := hfit.number halike
    exact .own _
  | text =>
    obtain ⟨s, rfl⟩ := hfit
    obtain ⟨t, rfl, hR⟩ := halike
    exact .given hR
  | list element => cases hprinted
  | map members => cases hprinted

/-- A condition goes the same way. -/
theorem Fits.isTrue {shape : Shape} (hdecided : shape.isDecided = true) (hfit : Fits shape v)
    (halike : Alike R v w) : v.isTrue = w.isTrue := by
  cases shape with
  | absent =>
    rcases hfit with rfl | rfl
    · rw [show w = .undefined from halike]
    · rw [show w = .none from halike]
  | flag =>
    obtain ⟨b, rfl⟩ := hfit
    rw [show w = .bool b from halike]
  | number =>
    obtain ⟨i, rfl, rfl⟩ := hfit.number halike
    rfl
  | text => cases hdecided
  | list element =>
    obtain ⟨xs, rfl, -⟩ := hfit
    obtain ⟨ys, rfl, hall⟩ := halike
    have hlength := (alikeAll_iff.1 hall).length_eq
    cases xs <;> cases ys <;> first | rfl | cases hlength
  | map members =>
    obtain ⟨ms, rfl, -⟩ := hfit
    obtain ⟨ns, rfl, hall⟩ := halike
    cases ms with
    | nil =>
      obtain rfl : ns = [] := hall
      rfl
    | cons m ms =>
      obtain ⟨w, rest, rfl, -⟩ := hall
      rfl

end

/-! ## Expressions -/

section

variable {R : String → String → Prop} {shapes : Shapes} {σ τ : Scope}

/-- Two outcomes of one shape that differ in their texts alone. -/
abbrev AlikeOf (R : String → String → Prop) (shape : Shape) :
    Except Misuse Value → Except Misuse Value → Prop :=
  SameOutcome fun v w => Fits shape v ∧ Alike R v w

/-- What is computed from two numbers is computed from numbers. -/
theorem Shape.of_ofNumbers {result shape : Shape} {left right : Option Shape}
    (h : ofNumbers result left right = some shape) :
    left = some .number ∧ right = some .number ∧ result = shape := by
  unfold ofNumbers at h
  split at h
  · exact ⟨rfl, rfl, Option.some.inj h⟩
  · cases h

/-- What is computed from the same two numbers has the same outcome. -/
theorem AlikeOf.of_numbers {result : Shape} {left left' right right' : Except Misuse Value}
    (hl : AlikeOf R .number left left') (hr : AlikeOf R .number right right')
    {f : Value → Value → Except Misuse Value}
    (hf : ∀ i j : Int, AlikeOf R result (f (.int i) (.int j)) (f (.int i) (.int j))) :
    AlikeOf R result (do f (← left) (← right)) (do f (← left') (← right')) := by
  refine hl.bind fun v v' ⟨hv, hvv⟩ => hr.bind fun w w' ⟨hw, hww⟩ => ?_
  obtain ⟨i, rfl, rfl⟩ := hv.number hvv
  obtain ⟨j, rfl, rfl⟩ := hw.number hww
  exact hf i j

/-- A truth value is the same as itself. -/
theorem AlikeOf.flag (b : Bool) : AlikeOf R .flag (.ok (.bool b)) (.ok (.bool b)) :=
  .ok ⟨⟨b, rfl⟩, rfl⟩

/-- A number is the same as itself. -/
theorem AlikeOf.number (i : Int) : AlikeOf R .number (.ok (.int i)) (.ok (.int i)) :=
  .ok ⟨⟨i, rfl⟩, rfl⟩

/-- A range over numbers is the same as itself, or has the same misuse. -/
theorem AlikeOf.range (i j : Int) :
    AlikeOf R (.list .number) (Expr.rangeOf (.int i) (.int j))
      (Expr.rangeOf (.int i) (.int j)) := by
  unfold Expr.rangeOf
  split
  · exact .error _
  · exact .error _
  · dsimp only
    split
    · exact .error _
    · refine .ok ⟨⟨_, rfl, fun x hx => ?_⟩, _, rfl, alikeAll_iff.2 ?_⟩
      · obtain ⟨n, -, rfl⟩ := List.mem_map.1 hx
        exact ⟨_, rfl⟩
      · refine List.forall₂_same.2 fun x hx => ?_
        obtain ⟨n, -, rfl⟩ := List.mem_map.1 hx
        rfl

/-- An expression has the shape that the check gives it, and its values in two scopes differ in
their texts alone. -/
theorem Expr.eval_alike (hfit : FitMembers shapes σ) (halike : AlikeMembers R σ τ) {e : Expr}
    {shape : Shape} (h : e.shape? shapes = some shape) :
    AlikeOf R shape (e.eval σ) (e.eval τ) := by
  induction e generalizing shape with
  | name x =>
    obtain rfl := Option.some.inj h
    exact .ok (lookup_alike hfit halike x)
  | field e x ih =>
    unfold shape? at h
    split at h
    next members hmembers =>
      obtain rfl := Option.some.inj h
      have he := ih hmembers
      unfold eval
      generalize e.eval σ = left at he ⊢
      generalize e.eval τ = right at he ⊢
      cases he with
      | error fault => exact .error fault
      | @ok v w hvw =>
        obtain ⟨⟨ms, rfl, hms⟩, ns, rfl, hns⟩ := hvw
        exact .ok (lookup_alike hms hns x)
    · cases h
  | int i =>
    obtain rfl := Option.some.inj h
    exact AlikeOf.number i
  | add l r ihl ihr =>
    obtain ⟨hl, hr, rfl⟩ := Shape.of_ofNumbers h
    exact AlikeOf.of_numbers (ihl hl) (ihr hr) fun i j => AlikeOf.number (i + j)
  | sub l r ihl ihr =>
    obtain ⟨hl, hr, rfl⟩ := Shape.of_ofNumbers h
    exact AlikeOf.of_numbers (ihl hl) (ihr hr) fun i j => AlikeOf.number (i - j)
  | less l r ihl ihr =>
    obtain ⟨hl, hr, rfl⟩ := Shape.of_ofNumbers h
    exact AlikeOf.of_numbers (ihl hl) (ihr hr) fun i j => AlikeOf.flag _
  | greater l r ihl ihr =>
    obtain ⟨hl, hr, rfl⟩ := Shape.of_ofNumbers h
    exact AlikeOf.of_numbers (ihl hl) (ihr hr) fun i j => AlikeOf.flag _
  | equal l r ihl ihr =>
    obtain ⟨hl, hr, rfl⟩ := Shape.of_ofNumbers h
    exact AlikeOf.of_numbers (ihl hl) (ihr hr) fun i j => AlikeOf.flag _
  | range l r ihl ihr =>
    unfold shape? at h
    split at h
    next hfree =>
      obtain ⟨hl, hr, rfl⟩ := Shape.of_ofNumbers h
      -- In neither scope does a value hide the function that makes ranges.
      obtain ⟨hσ, hτ⟩ := lookup_eq_none hfit halike hfree
      have hcall : ∀ scope : Scope, scope.lookup rangeName = none →
          callRange scope = rangeOf := by
        intro scope hnone
        funext lower upper
        unfold callRange
        rw [hnone]
      unfold eval
      rw [hcall σ hσ, hcall τ hτ]
      exact AlikeOf.of_numbers (ihl hl) (ihr hr) fun i j => AlikeOf.range i j
    · cases h

/-! ## Templates -/

/-- Two fillings with the same text of the template, and with texts that are related where the
template was given one. -/
abbrev AlikePieces (R : String → String → Prop) :
    Except RenderFault (List Piece) → Except RenderFault (List Piece) → Prop :=
  SameOutcome (List.Forall₂ (Piece.Alike R))

/-- A misuse has the same place in both. -/
theorem placed_alike {α β : Type} {P : α → β → Prop} {x : Except Misuse α} {y : Except Misuse β}
    (h : SameOutcome P x y) (file : String) (line : Nat) :
    SameOutcome P (Template.placed file line x) (Template.placed file line y) := by
  cases h with
  | ok h => exact .ok h
  | error fault => exact .error _

/-- The pieces of one part stand before those of the next. -/
theorem AlikePieces.append {x y x' y' : Except RenderFault (List Piece)} (h : AlikePieces R x y)
    (h' : AlikePieces R x' y') :
    AlikePieces R (do return (← x) ++ (← x')) (do return (← y) ++ (← y')) :=
  h.bind fun _ _ hps => h'.bind fun _ _ hqs => .ok (List.rel_append hps hqs)

/-- What is checked of a condition: it does not depend on a text, and what it leads to is checked,
but for what holds of no value. -/
theorem Template.check_cond {line : Nat} {e : Expr} {yes no rest : Template}
    (h : (Template.cond line e yes no rest).check shapes = true) :
    rest.check shapes = true ∧ no.check shapes = true
      ∧ ∃ shape, e.shape? shapes = some shape ∧ shape.isDecided = true
        ∧ (shape = .absent ∨ yes.check shapes = true) := by
  unfold check at h
  obtain ⟨hcond, hrest⟩ := Bool.and_eq_true_iff.1 h
  split at hcond
  next hshape => exact ⟨hrest, hcond, .absent, hshape, rfl, .inl rfl⟩
  next shape _ hshape =>
    obtain ⟨hyes, hno⟩ := Bool.and_eq_true_iff.1 hcond
    obtain ⟨hdecided, hyes⟩ := Bool.and_eq_true_iff.1 hyes
    exact ⟨hrest, hno, shape, hshape, hdecided, .inr hyes⟩
  · cases hcond

/-- What is checked of a loop: it runs over no value or over a list, for whose elements its body is
checked. -/
theorem Template.check_each {line : Nat} {x : String} {e : Expr} {body rest : Template}
    (h : (Template.each line x e body rest).check shapes = true) :
    rest.check shapes = true
      ∧ (e.shape? shapes = some .absent
        ∨ ∃ element, e.shape? shapes = some (.list element)
          ∧ body.check ((x, element) :: shapes) = true) := by
  unfold check at h
  obtain ⟨hloop, hrest⟩ := Bool.and_eq_true_iff.1 h
  split at hloop
  next hshape => exact ⟨hrest, .inl hshape⟩
  next element hshape => exact ⟨hrest, .inr ⟨element, hshape, hloop⟩⟩
  · cases hloop

/-- A loop over no value has no elements. -/
theorem elementsOf_absent {v w : Value} (hfit : Fits .absent v) (halike : Alike R v w) :
    Template.elementsOf v = .ok [] ∧ Template.elementsOf w = .ok [] := by
  rcases hfit with rfl | rfl
  · obtain rfl : w = .undefined := halike
    exact ⟨rfl, rfl⟩
  · obtain rfl : w = .none := halike
    exact ⟨rfl, rfl⟩

/-- Loops over two lists have elements that differ in their texts alone. -/
theorem elementsOf_list {element : Shape} {v w : Value} (hfit : Fits (.list element) v)
    (halike : Alike R v w) :
    ∃ xs ys, Template.elementsOf v = .ok xs ∧ Template.elementsOf w = .ok ys
      ∧ List.Forall₂ (fun x y => Fits element x ∧ Alike R x y) xs ys := by
  obtain ⟨xs, rfl, hxs⟩ := hfit
  obtain ⟨ys, rfl, hall⟩ := halike
  refine ⟨xs, ys, rfl, rfl, ?_⟩
  have hpairs := alikeAll_iff.1 hall
  clear hall
  induction hpairs with
  | nil => exact .nil
  | cons hfirst _ ih =>
    obtain ⟨hx, hrest⟩ := List.forall_mem_cons.1 hxs
    exact .cons ⟨hx, hfirst⟩ (ih hrest)

/-- From two scopes that differ in their texts alone a template that is checked makes the same
pieces, but for the texts that it was given. -/
theorem Template.fill_alike {t : Template} (hcheck : t.check shapes = true) (file : String)
    (hfit : FitMembers shapes σ) (halike : AlikeMembers R σ τ) :
    AlikePieces R (t.fill file σ) (t.fill file τ) := by
  induction t generalizing shapes σ τ file with
  | done => exact .ok .nil
  | text s rest ih =>
    exact (ih hcheck file hfit halike).bind fun _ _ hps => .ok (.cons (.own s) hps)
  | print line e rest ih =>
    unfold check at hcheck
    obtain ⟨he, hrest⟩ := Bool.and_eq_true_iff.1 hcheck
    obtain ⟨shape, hshape, hprinted⟩ := (Option.any_eq_true _ _).1 he
    refine (placed_alike (Expr.eval_alike hfit halike hshape) file line).bind fun v w hvw => ?_
    have hpiece := hvw.1.pieceOf hprinted hvw.2
    exact (ih hrest file hfit halike).bind fun _ _ hps => .ok (.cons hpiece hps)
  | cond line e yes no rest ihyes ihno ih =>
    obtain ⟨hrest, hno, shape, hshape, hdecided, hyes⟩ := check_cond hcheck
    rw [fill_cond, fill_cond]
    refine (placed_alike (Expr.eval_alike hfit halike hshape) file line).bind fun v w hvw => ?_
    refine AlikePieces.append ?_ (ih hrest file hfit halike)
    rw [← hvw.1.isTrue hdecided hvw.2]
    cases hholds : v.isTrue with
    | false => exact ihno hno file hfit halike
    | true =>
      rcases hyes with rfl | hyes
      · -- What has no value does not hold.
        rcases hvw.1 with rfl | rfl <;> cases hholds
      · exact ihyes hyes file hfit halike
  | each line x e body rest ihbody ih =>
    obtain ⟨hrest, hloop⟩ := check_each hcheck
    unfold fill
    rcases hloop with hshape | ⟨element, hshape, hbody⟩
    · refine (placed_alike (Expr.eval_alike hfit halike hshape) file line).bind fun v w hvw => ?_
      obtain ⟨hv, hw⟩ := elementsOf_absent hvw.1 hvw.2
      rw [hv, hw]
      exact AlikePieces.append (.ok .nil) (ih hrest file hfit halike)
    · refine (placed_alike (Expr.eval_alike hfit halike hshape) file line).bind fun v w hvw => ?_
      obtain ⟨xs, ys, hv, hw, hpairs⟩ := elementsOf_list hvw.1 hvw.2
      rw [hv, hw]
      -- Each element is the innermost name in scope while the body is filled in for it.
      have hseries : SameOutcome (List.Forall₂ (List.Forall₂ (Piece.Alike R)))
          (xs.mapM fun y => body.fill file ((x, y) :: σ))
          (ys.mapM fun y => body.fill file ((x, y) :: τ)) :=
        .mapM hpairs fun a b hab => ihbody hbody file ⟨a, σ, rfl, hab.1, hfit⟩
          ⟨b, τ, rfl, hab.2, halike⟩
      exact hseries.bind fun _ _ hpss => (ih hrest file hfit halike).bind fun _ _ hps =>
        .ok (List.rel_append (List.rel_flatten hpss) hps)
  | block inner body rest ihbody ih =>
    unfold check at hcheck
    obtain ⟨hbody, hrest⟩ := Bool.and_eq_true_iff.1 hcheck
    exact AlikePieces.append (ihbody hbody inner hfit halike) (ih hrest file hfit halike)

end

end ChatBoard.Page
