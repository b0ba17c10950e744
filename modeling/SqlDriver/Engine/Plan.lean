/-
# SqlDriver.Engine.Plan -- what a statement does once its names are looked up

A `Term` computes a value and a `Query` yields rows.  Both are run in front of a
stack of rows: the row at level zero is the one at hand, and the rows behind it
belong to the queries and triggers around.  A row of a table has its row number in
front of its columns.
-/
import SqlDriver.Engine.Affinity
import SqlDriver.Engine.Statement

namespace SqlDriver.Engine

set_option autoImplicit false

/-- Functions of values. -/
inductive Function where
  | abs
  | char
  | hex
  | length
  | lower
  | max
  | min
  | nullIf (c : Collation)
  | typeOf
  | upper
  | zeroBlob
deriving DecidableEq, Repr

/-- Functions of all rows of a query. -/
inductive AggregateFunction where
  | average
  | count
  | max
  | min
  | sum
  | total
deriving DecidableEq, Repr

/-- The order in which the rows of a table are visited. -/
inductive ScanOrder where
  /-- By row number. -/
  | number
  /-- By columns, given by their places in a row, and then by row number. -/
  | columns (places : List (Nat × Collation))
deriving DecidableEq, Repr

/-- A key of a sorted query. -/
structure SortKey where
  descending : Bool
  collation : Collation
deriving DecidableEq, Repr

mutual

/-- An expression whose names are looked up. -/
inductive Term where
  | constant (d : Datum)
  /-- A value of a row of the stack. -/
  | column (level place : Nat)
  | unary (op : Unary) (t : Term)
  | compare (op : Comparison) (a : Affinity) (c : Collation) (l r : Term)
  | combine (op : Operator) (l r : Term)
  | both (l r : Term)
  | either (l r : Term)
  | isNull (negated : Bool) (t : Term)
  | oneOf (a : Affinity) (c : Collation) (t : Term) (items : List Term)
  | like (t pattern : Term)
  | cast (a : Affinity) (t : Term)
  /-- The second term where the first one is true, else the third. -/
  | choose (condition yes no : Term)
  | call (f : Function) (arguments : List Term)
  /-- The first value of the first row; `fixed` says that no row of the stack matters. -/
  | first (fixed : Bool) (q : Query)
  /-- There is a row. -/
  | exists (fixed : Bool) (q : Query)

/-- A source of rows. -/
inductive Query where
  /-- One row without values. -/
  | unit
  /-- The row of the stack at a level. -/
  | outer (level : Nat)
  /-- The rows of a table. -/
  | scan (table : String) (order : ScanOrder) (descending : Bool)
  /-- The results for the rows that the filter lets through. -/
  | select (source : Query) (filter : Option Term) (results : List Term)
  /-- One row for all rows that the filter lets through: the results in front of the
  values of the functions, and of the first of these rows. -/
  | aggregate (source : Query) (filter : Option Term)
      (functions : List (AggregateFunction × Collation × Option Term)) (results : List Term)
  /-- The rows of both. -/
  | append (a b : Query)
  /-- Sorted by the last values of each row, which are left off. -/
  | sort (source : Query) (keys : List SortKey)
  /-- The rows that differ in their first values, one for each collation. -/
  | distinct (source : Query) (collations : List Collation)
  | limit (source : Query) (count offset : Option Term)
  /-- The seed's rows, and for each row that comes out the rows of the step, which has
  that row in front of the stack. -/
  | recurse (distinct : Bool) (seed step : Query)

end

instance : Inhabited Term := ⟨.constant .null⟩

instance : Inhabited Query := ⟨.unit⟩

mutual

/-- A change of rows. -/
inductive Mutation where
  /-- Adds rows.  `sources` says for each column of the table which value of a row of
  the query it takes, if any; `number` which one is the row number. -/
  | insert (conflict : Conflict) (table : String) (sources : List (Option Nat))
      (number : Option Nat) (rows : Query) (returning : List Term) (triggers : List TriggerPlan)
  /-- Changes the rows whose numbers a query yields; place zero is the row number. -/
  | update (conflict : Conflict) (table : String) (assignments : List (Nat × Term))
      (rows : Query) (returning : List Term)
  | delete (table : String) (rows : Query) (returning : List Term)

/-- What is done after a row was inserted, with that row on the stack. -/
inductive TriggerPlan where
  | mk (condition : Option Term) (body : List Mutation)

end

end SqlDriver.Engine
