/-
# SqlDriver.Engine.Binding.Function -- which functions there are

A function is chosen by its name and the number of its arguments.  `MIN` and `MAX` of
one argument range over all rows, and over their arguments if there are more.
-/
import SqlDriver.Engine.Binding.Scope

namespace SqlDriver.Engine.Binding

set_option autoImplicit false

/-- What a name and a number of arguments call. -/
inductive Callee where
  | value (f : Function)
  /-- The first argument that is not null. -/
  | coalesce
  | allRows (f : AggregateFunction)
  /-- There is such a function, but not with so many arguments. -/
  | wrongCount
  | unknown

/-- A function that takes a fixed number of arguments. -/
def fixedCount (want given : Nat) (c : Callee) : Callee :=
  if want = given then c else .wrongCount

def extreme (n : Nat) (f : Function) (g : AggregateFunction) : Callee :=
  if n = 0 then .wrongCount else if n = 1 then .allRows g else .value f

/-- What is called by a name with a number of arguments. -/
def callee (name : String) (n : Nat) : Callee :=
  match String.ofList (name.toList.map Char.toLower) with
  | "abs" => fixedCount 1 n (.value .abs)
  | "avg" => fixedCount 1 n (.allRows .average)
  | "char" => .value .char
  | "coalesce" => if n < 2 then .wrongCount else .coalesce
  | "count" => if n ≤ 1 then .allRows .count else .wrongCount
  | "hex" => fixedCount 1 n (.value .hex)
  | "ifnull" => fixedCount 2 n .coalesce
  | "length" => fixedCount 1 n (.value .length)
  | "lower" => fixedCount 1 n (.value .lower)
  | "max" => extreme n .max .max
  | "min" => extreme n .min .min
  | "nullif" => fixedCount 2 n (.value (.nullIf .binary))
  | "sum" => fixedCount 1 n (.allRows .sum)
  | "total" => fixedCount 1 n (.allRows .total)
  | "typeof" => fixedCount 1 n (.value .typeOf)
  | "upper" => fixedCount 1 n (.value .upper)
  | "zeroblob" => fixedCount 1 n (.value .zeroBlob)
  | _ => .unknown

/-- A name and a number of arguments call a function of all rows. -/
def isAggregate (name : String) (n : Nat) : Bool :=
  match callee name n with
  | .allRows _ => true
  | _ => false

mutual

/-- An expression calls a function of all rows, outside of the queries in it. -/
def hasAggregate : Expr → Bool
  | .literal _ => false
  | .numeral _ => false
  | .parameter => false
  | .name .. => false
  | .unary _ e => hasAggregate e
  | .compare _ l r => hasAggregate l || hasAggregate r
  | .combine _ l r => hasAggregate l || hasAggregate r
  | .both l r => hasAggregate l || hasAggregate r
  | .either l r => hasAggregate l || hasAggregate r
  | .isNull _ e => hasAggregate e
  | .between _ e low high => hasAggregate e || hasAggregate low || hasAggregate high
  | .oneOf _ e items => hasAggregate e || anyAggregate items
  | .like _ e pattern => hasAggregate e || hasAggregate pattern
  | .cast e _ => hasAggregate e
  | .collate e _ => hasAggregate e
  | .cases base branches otherwise =>
      maybeAggregate base || branchAggregate branches || maybeAggregate otherwise
  | .call f arguments => isAggregate f arguments.length || anyAggregate arguments
  | .callAll f => isAggregate f 0
  | .first _ => false
  | .exists _ => false

/-- One of the expressions calls a function of all rows. -/
def anyAggregate : List Expr → Bool
  | [] => false
  | e :: r => hasAggregate e || anyAggregate r

/-- The expression, if there is one, calls a function of all rows. -/
def maybeAggregate : Option Expr → Bool
  | none => false
  | some e => hasAggregate e

def branchAggregate : List (Expr × Expr) → Bool
  | [] => false
  | (c, e) :: r => hasAggregate c || hasAggregate e || branchAggregate r

end

def itemAggregate : ResultItem → Bool
  | .item e _ _ => hasAggregate e
  | _ => false

def wrongCount (name : String) : String :=
  "wrong number of arguments to function " ++ name ++ "()"

/-- The first of some terms that is not null. -/
def firstPresent : List Term → Term
  | [] => .constant .null
  | [t] => t
  | t :: r => .choose (.isNull true t) t (firstPresent r)

/-- The collation of a comparison: one that is written, else one of a column, the left
side's first. -/
def comparisonCollation (l r : Bound) : Collation :=
  if l.explicit then l.collation.getD .binary
  else if r.explicit then r.collation.getD .binary
  else (l.collation.orElse fun _ => r.collation).getD .binary

def collationOf? (name : String) : Option Collation :=
  match String.ofList (name.toList.map Char.toLower) with
  | "binary" => some .binary
  | "nocase" => some .noCase
  | "rtrim" => some .rightTrim
  | _ => none

def compareBound (op : Comparison) (l r : Bound) : Term :=
  .compare op (Affinity.ofComparison l.affinity r.affinity) (comparisonCollation l r) l.term r.term

def callBound (name : String) (arguments : List Bound) : Lookup Bound := do
  let terms := arguments.map Bound.term
  match callee name arguments.length with
  | .value (.nullIf _) =>
      let c := match arguments with
        | [l, r] => comparisonCollation l r
        | _ => .binary
      return { term := .call (.nullIf c) terms }
  | .value f => return { term := .call f terms }
  | .coalesce => return { term := firstPresent terms }
  | .allRows _ => refuse ("misuse of aggregate function " ++ name ++ "()")
  | .wrongCount => refuse (wrongCount name)
  | .unknown => refuse ("no such function: " ++ name)

/-- A function of all rows: its value stands in the row in front of the row itself. -/
def aggregateBound (f : AggregateFunction) (argument : Option Bound) : Lookup Bound := do
  let place := (← get).functions.length
  let c := (argument.bind Bound.collation).getD .binary
  modify fun n => { n with functions := n.functions ++ [(f, c, argument.map Bound.term)] }
  return { term := .column 0 place }

end SqlDriver.Engine.Binding
