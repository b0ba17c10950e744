/-
# SqlDriver.Engine.Binding.Scope -- what a name stands for

An expression stands in scopes, one for each row of the stack in front of which it is
evaluated, the innermost first.  A name is looked up from the innermost scope outwards
(`Env.column?`).  While a statement is bound, the columns that it uses are noted with
the depth of their scope, the outermost having depth zero.
-/
import SqlDriver.Engine.Catalog
import SqlDriver.Engine.Operation

namespace SqlDriver.Engine.Binding

set_option autoImplicit false

/-- A column of a scope or of a query's rows. -/
structure Output where
  name : String
  /-- Its declared type, if it comes from a column with one. -/
  type : Option String := none
  affinity : Affinity := .none
  collation : Option Collation := none
deriving DecidableEq, Repr

/-- The columns of a row of the stack. -/
structure Scope where
  /-- The name in front of a column's name. -/
  label : Option String := none
  /-- The columns by their places. -/
  columns : List (Output × Nat) := []
  /-- The row number, where the row is one of a table. -/
  number : Option Output := none

/-- An expression that is bound. -/
structure Bound where
  term : Term
  affinity : Affinity := .none
  collation : Option Collation := none
  /-- The collation is written in the expression. -/
  explicit : Bool := false
  type : Option String := none
  /-- The name of the column that the expression is. -/
  column : Option String := none
deriving Inhabited

/-- A query with a name. -/
inductive Named where
  | query (q : Query) (outputs : List Output)
  /-- The row at hand of a query that refers to itself, at a depth. -/
  | row (depth : Nat) (outputs : List Output)
  /-- A query that may not be referred to, and why. -/
  | refused (fault : Fault)

/-- What expressions are bound in. -/
structure Env where
  contents : Contents
  /-- Why the tables cannot be known, if that is so. -/
  unreadable : Option Fault := none
  /-- Text in front of the name of a missing table. -/
  origin : String := ""
  scopes : List Scope := []
  named : List (String × Named) := []
  /-- Results by their names. -/
  aliases : List (String × Bound) := []
  /-- Functions of all rows may be called. -/
  aggregates : Bool := false

/-- What is noted while a statement is bound. -/
structure Notes where
  /-- The columns used: the depths of their scopes, and their places. -/
  used : List (Nat × Nat) := []
  /-- Tables are read. -/
  reads : Bool := false
  /-- The functions of all rows of the select at hand. -/
  functions : List (AggregateFunction × Collation × Option Term) := []

abbrev Lookup := StateT Notes Outcome

def refuse {α : Type} (message : String) : Lookup α :=
  throw ⟨message, 1⟩

def isNumberName (n : String) : Bool :=
  ["rowid", "oid", "_rowid_"].any (sameName n)

namespace Output

def ofColumn (c : Column) : Output :=
  ⟨c.name, c.type, c.affinity, some c.collation⟩

def numberOf (t : Table) : Output :=
  match t.numberColumn.bind t.columnAt? with
  | some c => ofColumn c
  | none => ⟨"rowid", some "INTEGER", .integer, none⟩

end Output

namespace Scope

def ofTable (t : Table) (label : String) : Scope :=
  ⟨some label, t.columns.zipIdx.map fun (c, i) => (Output.ofColumn c, i + 1),
    some (Output.numberOf t)⟩

def ofOutputs (outputs : List Output) (label : Option String) : Scope :=
  ⟨label, outputs.zipIdx, none⟩

def isCalled (s : Scope) (n : String) : Bool :=
  s.label.any (sameName n)

def column? (s : Scope) (n : String) : Option (Output × Nat) :=
  match s.columns.find? fun (c, _) => sameName c.name n with
  | some c => some c
  | none => if isNumberName n then s.number.map (·, 0) else none

end Scope

namespace Env

/-- The scope of the innermost row and the ones around it. -/
def push (env : Env) (s : Scope) : Env :=
  { env with scopes := s :: env.scopes, aliases := [], aggregates := false }

def depth (env : Env) : Nat :=
  env.scopes.length

def columnTerm (c : Output) (level place : Nat) : Bound :=
  ⟨.column level place, c.affinity, c.collation, false, c.type, some c.name⟩

/-- The column that a name stands for, from the scope at a level outwards. -/
def findColumn (qualifier : Option String) (n : String) : Nat → List Scope → Option (Bound × Nat)
  | _, [] => none
  | level, s :: r =>
      match (if qualifier.all s.isCalled then s.column? n else none) with
      | some (c, place) => some (columnTerm c level place, level)
      | none => findColumn qualifier n (level + 1) r

/-- The column that a name stands for, or else the result that it names. -/
def column? (env : Env) (qualifier : Option String) (n : String) : Option (Bound × Option Nat) :=
  let inner := findColumn qualifier n 0 (env.scopes.take 1)
  let result := if qualifier.isSome then none else env.aliases.find? fun (a, _) => sameName a n
  match inner, result with
  | some (b, level), _ => some (b, some level)
  | none, some (_, b) => some (b, none)
  | none, none =>
      (findColumn qualifier n 1 (env.scopes.drop 1)).map fun (b, level) => (b, some level)

end Env

def note (env : Env) (b : Bound) : Option Nat → Lookup Unit
  | none => return ()
  | some level =>
      match b.term with
      | .column _ place =>
          modify fun n => { n with used := (env.depth - 1 - level, place) :: n.used }
      | _ => return ()

/-- Refuses a statement that needs the tables, if they cannot be known. -/
def needTables (env : Env) : Lookup Unit := do
  if let some fault := env.unreadable then throw fault

def table (env : Env) (n : String) : Lookup Table := do
  needTables env
  match env.contents.table? n with
  | some t =>
      modify fun n => { n with reads := true }
      return t
  | none => refuse ("no such table: " ++ env.origin ++ n)

end SqlDriver.Engine.Binding
