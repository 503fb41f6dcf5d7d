import ChatBoard.Codec.Html
import ChatBoard.Page.Value

/-!
# Templates

A template is text with places for values, conditions and loops; each constructor carries what
follows it. Filling a template in gives pieces: the template's own text, and texts that it was
given. Only when the pieces are joined do the given texts become markup-free, so what a text can
look like on a page is settled in one place.
-/

namespace ChatBoard.Page

/-- An expression over the names in scope. -/
inductive Expr where
  | name (x : String)
  | field (e : Expr) (x : String)
  | int (i : Int)
  | add (l r : Expr)
  | sub (l r : Expr)
  | less (l r : Expr)
  | greater (l r : Expr)
  | equal (l r : Expr)
  /-- The integers from the first up to but not including the second. -/
  | range (l r : Expr)

/-- A template, each part with what follows it. Parts that evaluate an expression carry their
line. -/
inductive Template where
  | done
  | text (s : String) (rest : Template)
  | print (line : Nat) (e : Expr) (rest : Template)
  | cond (line : Nat) (e : Expr) (yes no rest : Template)
  | each (line : Nat) (x : String) (e : Expr) (body rest : Template)
  /-- A part that stands in another file. -/
  | block (file : String) (body rest : Template)

/-- A piece of a page: the template's own text, or a text it was given. -/
inductive Piece where
  | own (s : String)
  | given (s : String)
  deriving DecidableEq, Repr

namespace Piece

/-- The markup of a piece. -/
def markup : Piece → String
  | own s => s
  | given s => Html.escape s

/-- The page that pieces make. -/
def join (ps : List Piece) : String := String.join (ps.map markup)

end Piece

/-- What cannot be done with the values of an expression. -/
inductive Misuse where
  | undefinedValue
  | operator (symbol : String) (left right : Kind)
  | rangeTooLong
  | rangeBound (kind : Kind)
  | notCallable (kind : Kind)
  | notIterable (kind : Kind)
  deriving DecidableEq, Repr

/-- The wording of a misuse. -/
def Misuse.message : Misuse → String
  | undefinedValue => "undefined value"
  | operator symbol left right =>
    "invalid operation: tried to use " ++ symbol ++ " operator on unsupported types "
      ++ left.name ++ " and " ++ right.name
  | rangeTooLong => "invalid operation: range has too many elements"
  | rangeBound kind => "invalid operation: cannot convert " ++ kind.name ++ " to isize"
  | notCallable .sequence | notCallable .map =>
    "invalid operation: tried to call non callable object"
  | notCallable kind =>
    "invalid operation: value of type " ++ kind.name ++ " is not callable"
  | notIterable kind => "invalid operation: " ++ kind.name ++ " is not iterable"

/-- Why a page cannot be made. -/
inductive RenderFault where
  | unknownPage (name : String)
  | misuse (what : Misuse) (file : String) (line : Nat)
  deriving DecidableEq, Repr

/-- The wording of a fault. -/
def RenderFault.message : RenderFault → String
  | unknownPage name =>
    "Template error: template not found: template " ++ Text.quoted name ++ " does not exist"
  | misuse what file line =>
    "Template error: " ++ what.message ++ " (in " ++ file ++ ":" ++ Numeral.ofNat line ++ ")"

/-- Names with their values; an inner name hides an outer one. -/
abbrev Scope := List (String × Value)

/-- The most elements that a range may have. -/
def rangeLimit : Nat := 100000

/-- The bound of a range: a whole number of the signed 64-bit range. -/
def rangeBound? (v : Value) : Option Int :=
  match v.number? with
  | some (.inl i) => if -0x8000000000000000 ≤ i ∧ i ≤ 0x7fffffffffffffff then some i else none
  | some (.inr x) =>
    if (Double.ofInt x.truncated).toFloat == x.toFloat then some x.truncated else none
  | none => none

namespace Expr

/-- A sum or difference of values. -/
def combine (symbol : String) (ints : Int → Int → Int) (reals : Float → Float → Float)
    (v w : Value) : Except Misuse Value :=
  match Value.operands? v w with
  | some (.ints i j) => .ok (.int (ints i j))
  | some (.reals x y) => .ok (.real (.ofFloat (reals x.toFloat y.toFloat)))
  | none => .error (.operator symbol v.kind w.kind)

/-- The integers from a bound up to but not including another one, if they are not too many. -/
def rangeOf (v w : Value) : Except Misuse Value :=
  match rangeBound? v, rangeBound? w with
  | none, _ => .error (.rangeBound v.kind)
  | some _, none => .error (.rangeBound w.kind)
  | some i, some j =>
    let count := (j - i).toNat
    if count > rangeLimit then .error .rangeTooLong
    else .ok (.list ((List.range count).map fun (n : Nat) => .int (i + n)))

/-- The name of the function that makes ranges. A value of this name hides it, and no value can be
called. -/
def rangeName : String := "range"

/-- Calls the function that makes ranges. -/
def callRange (scope : Scope) (lower upper : Value) : Except Misuse Value :=
  match scope.lookup rangeName with
  | some v => .error (.notCallable v.kind)
  | none => rangeOf lower upper

/-- The value of an expression. -/
def eval (scope : Scope) : Expr → Except Misuse Value
  | name x => .ok ((scope.lookup x).getD .undefined)
  | field e x =>
    match e.eval scope with
    | .error m => .error m
    | .ok v =>
      match v.member? x with
      | some w => .ok w
      | none => .error .undefinedValue
  | int i => .ok (.int i)
  | add l r => do combine "+" (· + ·) (· + ·) (← l.eval scope) (← r.eval scope)
  | sub l r => do combine "-" (· - ·) (· - ·) (← l.eval scope) (← r.eval scope)
  | less l r => do return .bool ((← l.eval scope).less (← r.eval scope))
  | greater l r => do
    -- The left side is evaluated first.
    let v ← l.eval scope
    return .bool ((← r.eval scope).less v)
  | equal l r => do return .bool ((← l.eval scope).eq (← r.eval scope))
  | range l r => do callRange scope (← l.eval scope) (← r.eval scope)

end Expr

namespace Template

/-- The piece that a value shows as. -/
def pieceOf (v : Value) : Piece :=
  match v.shown with
  | .plain s => .own s
  | .text s => .given s

/-- Gives a misuse its place. -/
def placed {α : Type} (file : String) (line : Nat) : Except Misuse α → Except RenderFault α
  | .ok x => .ok x
  | .error m => .error (.misuse m file line)

/-- The elements that a loop runs over. -/
def elementsOf (v : Value) : Except Misuse (List Value) :=
  match v.elements? with
  | some xs => .ok xs
  | none => .error (.notIterable v.kind)

/-- Fills a template in. -/
def fill (file : String) (scope : Scope) : Template → Except RenderFault (List Piece)
  | done => .ok []
  | text s rest => do return .own s :: (← rest.fill file scope)
  | print line e rest => do
    let v ← placed file line (e.eval scope)
    return pieceOf v :: (← rest.fill file scope)
  | cond line e yes no rest => do
    let v ← placed file line (e.eval scope)
    let ps ← if v.isTrue then yes.fill file scope else no.fill file scope
    return ps ++ (← rest.fill file scope)
  | each line x e body rest => do
    let v ← placed file line (e.eval scope)
    let vs ← placed file line (elementsOf v)
    let pss ← vs.mapM fun v => body.fill file ((x, v) :: scope)
    return pss.flatten ++ (← rest.fill file scope)
  | block inner body rest => do
    let ps ← body.fill inner scope
    return ps ++ (← rest.fill file scope)

end Template

end ChatBoard.Page
