import ChatBoard.Decimal.Layout
import ChatBoard.Text.Quoted

/-!
# Values on pages

What a page can be given to show: scalars, lists, and maps from names to values. An undefined value
is what a name without a value stands for. Every value is true or false, has a text, and compares
with every other one: values of different kinds by their kinds, truth values and numbers also as
numbers where only equality is asked for. An integer equals a double only if it is one exactly.
-/

namespace ChatBoard.Page

/-- A value. -/
inductive Value where
  | undefined
  | none
  | bool (b : Bool)
  | int (i : Int)
  | real (x : Double)
  | text (s : String)
  | list (xs : List Value)
  /-- The members stand in the order of their names. -/
  | map (members : List (String × Value))
  deriving Inhabited

/-- The kinds of values, in the order in which values of different kinds compare. -/
inductive Kind where
  | undefined
  | none
  | bool
  | number
  | string
  | sequence
  | map
  deriving DecidableEq, Repr

namespace Kind

/-- The place of a kind in the order. -/
def rank : Kind → Nat
  | undefined => 0
  | none => 1
  | bool => 2
  | number => 3
  | string => 4
  | sequence => 5
  | map => 6

/-- The name of a kind in messages. -/
def name : Kind → String
  | undefined => "undefined"
  | none => "none"
  | bool => "bool"
  | number => "number"
  | string => "string"
  | sequence => "sequence"
  | map => "map"

end Kind

namespace Value

/-- The kind of a value. -/
def kind : Value → Kind
  | undefined => .undefined
  | none => .none
  | bool _ => .bool
  | int _ | real _ => .number
  | text _ => .string
  | list _ => .sequence
  | map _ => .map

/-- Whether a condition that gives this value holds: what is empty, zero or absent does not. -/
def isTrue : Value → Bool
  | undefined | none => false
  | bool b => b
  | int i => i != 0
  | real x => x.magnitude != 0
  | text s => !s.isEmpty
  | list xs => !xs.isEmpty
  | map ms => !ms.isEmpty

/-- Two numbers brought to one kind. -/
inductive Operands where
  | ints (i j : Int)
  | reals (x y : Double)

/-- The number that a value is, or that a truth value stands for. -/
def number? : Value → Option (Int ⊕ Double)
  | bool b => some (.inl (if b then 1 else 0))
  | int i => some (.inl i)
  | real x => some (.inr x)
  | _ => Option.none

/-- Two values as numbers of one kind: doubles as soon as one of them is a double. -/
def operands? (v w : Value) : Option Operands :=
  match v.number?, w.number? with
  | some (.inl i), some (.inl j) => some (.ints i j)
  | some (.inl i), some (.inr y) => some (.reals (.ofInt i) y)
  | some (.inr x), some (.inl j) => some (.reals x (.ofInt j))
  | some (.inr x), some (.inr y) => some (.reals x y)
  | _, _ => Option.none

/-- The range of 64 bits that an integer is of: the unsigned one, unless it is negative. -/
def rangeOf (i : Int) : Int × Int :=
  if 0 ≤ i then (0, 0xffffffffffffffff) else (-0x8000000000000000, 0x7fffffffffffffff)

/-- The double that stands for an integer where values are compared: the nearest one, if its integer
part within the range of the integer is the integer again. -/
def exactReal? (i : Int) : Option Double :=
  let x := Double.ofInt i
  if x.truncatedIn (rangeOf i).1 (rangeOf i).2 = i then some x else Option.none

/-- Whether an integer equals a double. -/
def intEqReal (i : Int) (y : Double) : Bool :=
  match exactReal? i with
  | some x => x.toFloat == y.toFloat
  | Option.none => false

/-- Equality of values that are not lists or maps. -/
def scalarEq (v w : Value) : Bool :=
  match v, w with
  | undefined, undefined => true
  | none, none => true
  | text s, text t => s == t
  | v, w =>
    match v.number?, w.number? with
    | some (.inl i), some (.inl j) => i == j
    | some (.inl i), some (.inr y) => intEqReal i y
    | some (.inr x), some (.inl j) => intEqReal j x
    | some (.inr x), some (.inr y) => x.toFloat == y.toFloat
    | _, _ => false

mutual

/-- Equality of values; lists and maps are equal when their parts are. -/
def eq : Value → Value → Bool
  | list xs, w =>
    match w with
    | list ys => eqAll xs ys
    | _ => false
  | map ms, w =>
    match w with
    | map ns => eqMembers ms ns
    | _ => false
  | v, w => scalarEq v w

/-- Equality of lists of values. -/
def eqAll : List Value → List Value → Bool
  | [], ys => ys.isEmpty
  | x :: xs, ys =>
    match ys with
    | [] => false
    | y :: ys => eq x y && eqAll xs ys

/-- Equality of members, which stand in the order of their names. -/
def eqMembers : List (String × Value) → List (String × Value) → Bool
  | [], ns => ns.isEmpty
  | (k, x) :: ms, ns =>
    match ns with
    | [] => false
    | (l, y) :: ns => k == l && eq x y && eqMembers ms ns

end

/-- Whether an integer comes before a double. Where the integer is no double, the two are compared
as they are. -/
def intLess (i : Int) (y : Double) : Bool :=
  match exactReal? i with
  | some x => x.key < y.key
  | Option.none => y.exceeds i

/-- Whether a double comes before an integer. -/
def realLess (x : Double) (j : Int) : Bool :=
  match exactReal? j with
  | some y => x.key < y.key
  | Option.none => !x.exceeds j

/-- Whether a value comes before another one: by kind, then numbers by size and texts letter by
letter. Doubles stand in their total order. -/
def less (v w : Value) : Bool :=
  if v.kind = w.kind then
    match v, w with
    | text s, text t => s < t
    | v, w =>
      match v.number?, w.number? with
      | some (.inl i), some (.inl j) => i < j
      | some (.inl i), some (.inr y) => intLess i y
      | some (.inr x), some (.inl j) => realLess x j
      | some (.inr x), some (.inr y) => x.key < y.key
      | _, _ => false
  else v.kind.rank < w.kind.rank

/-- The text of a truth value. -/
def boolText (b : Bool) : String := if b then "True" else "False"

mutual

/-- The text of a value inside a list or a map, where texts are quoted. -/
def innerText : Value → List Char
  | undefined => "undefined".toList
  | none => "None".toList
  | bool b => (boolText b).toList
  | int i => (Numeral.ofInt i).toList
  | real x => (x.written .listed).toList
  | text s => (Text.quoted s).toList
  | list xs => '[' :: innerTexts xs ++ [']']
  | map ms => '\x7b' :: innerMembers ms ++ ['\x7d']

/-- The texts of values, with commas between them. -/
def innerTexts : List Value → List Char
  | [] => []
  | x :: xs => innerText x ++ (if xs.isEmpty then [] else [',', ' ']) ++ innerTexts xs

/-- The texts of members, with commas between them. -/
def innerMembers : List (String × Value) → List Char
  | [] => []
  | (k, x) :: ms =>
    (Text.quoted k).toList ++ [':', ' '] ++ innerText x
      ++ (if ms.isEmpty then [] else [',', ' ']) ++ innerMembers ms

end

/-- What a page shows of a value: a scalar without markup as it stands, or a text. -/
inductive Shown where
  | plain (s : String)
  | text (s : String)

/-- What a page shows of a value. An undefined value shows as nothing. -/
def shown : Value → Shown
  | undefined => .plain ""
  | none => .plain "None"
  | bool b => .plain (boolText b)
  | int i => .plain (Numeral.ofInt i)
  | real x => .plain (x.written .page)
  | text s => .text s
  | v => .text (String.ofList (innerText v))

/-- The value of a member, undefined if there is none; an undefined value has no members at all. -/
def member? (name : String) : Value → Option Value
  | undefined => Option.none
  | map ms => some ((ms.lookup name).getD undefined)
  | _ => some undefined

/-- The values that a loop runs over. -/
def elements? : Value → Option (List Value)
  | undefined | none => some []
  | text s => some (s.toList.map fun c => text c.toString)
  | list xs => some xs
  | map ms => some (ms.map fun m => text m.1)
  | _ => Option.none

end Value

end ChatBoard.Page
