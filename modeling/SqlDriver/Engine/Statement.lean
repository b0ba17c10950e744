/-
# SqlDriver.Engine.Statement -- what a statement says

The parts of a statement as they are written, before any name in it is looked up.
A result keeps the text of its expression, because that text names its column, and
a check keeps its text, because a refusal cites it.
-/
import SqlDriver.Engine.Datum

namespace SqlDriver.Engine

set_option autoImplicit false

/-- Operators with one operand. -/
inductive Unary where
  | minus
  | plus
  | complement
  | negation
deriving DecidableEq, Repr

/-- Comparisons of two values. -/
inductive Comparison where
  | eq
  | ne
  | lt
  | le
  | gt
  | ge
  /-- Equal, where null equals null. -/
  | same
  /-- Not equal, where null equals null. -/
  | differ
deriving DecidableEq, Repr

/-- Operators on numbers, bits and texts. -/
inductive Operator where
  | add
  | sub
  | mul
  | div
  | rem
  | bitAnd
  | bitOr
  | shiftLeft
  | shiftRight
  | concat
deriving DecidableEq, Repr

/-- How a select joins the ones in front of it. -/
inductive Junction where
  /-- All rows of both. -/
  | all
  /-- The different rows of both. -/
  | distinct
deriving DecidableEq, Repr

mutual

/-- An expression. -/
inductive Expr where
  | literal (d : Datum)
  /-- An integer in decimal digits, which may be too large for one. -/
  | numeral (n : Nat)
  /-- A place for a value that is never given. -/
  | parameter
  /-- A column; a name in double quotes that is no column is a text. -/
  | name (qualifier : Option String) (name : String) (quoted : Bool)
  | unary (op : Unary) (e : Expr)
  | compare (op : Comparison) (l r : Expr)
  | combine (op : Operator) (l r : Expr)
  | both (l r : Expr)
  | either (l r : Expr)
  | isNull (negated : Bool) (e : Expr)
  | between (negated : Bool) (e low high : Expr)
  | oneOf (negated : Bool) (e : Expr) (items : List Expr)
  | like (negated : Bool) (e pattern : Expr)
  | cast (e : Expr) (type : String)
  | collate (e : Expr) (name : String)
  | cases (base : Option Expr) (branches : List (Expr × Expr)) (otherwise : Option Expr)
  | call (function : String) (arguments : List Expr)
  /-- A function called on whole rows. -/
  | callAll (function : String)
  | first (q : Select)
  | exists (q : Select)
deriving Inhabited

/-- A query: selects joined with each other, sorted and limited. -/
inductive Select where
  | mk (recursive : Bool) (tables : List CommonTable) (head : Core)
      (tail : List (Junction × Core)) (order : List (Expr × Bool)) (limit offset : Option Expr)

/-- A query with a name. -/
inductive CommonTable where
  | mk (name : String) (columns : List String) (query : Select)

/-- A single select. -/
inductive Core where
  | select (distinct : Bool) (results : List ResultItem) (source : Option Source)
      (filter : Option Expr)
  | values (rows : List (List Expr))

/-- An entry of a result list. -/
inductive ResultItem where
  | all
  | allOf (table : String)
  | item (e : Expr) (given : Option String) (text : String)

/-- Where a select takes its rows from. -/
inductive Source where
  | table (name : String) (given : Option String)
  | query (q : Select) (given : Option String)

end

instance : Inhabited Core := ⟨.values []⟩

instance : Inhabited Select := ⟨.mk false [] default [] [] none none⟩

/-- What happens to a statement that violates a constraint. -/
inductive Conflict where
  /-- The statement is undone. -/
  | abort
  /-- The row is left out. -/
  | ignore
  /-- The rows in the way are removed. -/
  | replace
  /-- The statement stops and keeps what it did. -/
  | fail
  /-- The transaction is undone. -/
  | rollback
deriving DecidableEq, Repr

/-- A constraint of a column. -/
inductive ColumnRule where
  | primaryKey (descending : Bool)
  | notNull
  | unique
  | check (name : Option String) (e : Expr) (text : String)
  | default (e : Expr)
  | collate (name : String)

/-- A column as it is declared. -/
structure ColumnForm where
  name : String
  /-- The declared type as it is written. -/
  type : Option String
  rules : List ColumnRule

/-- A constraint of a table. -/
inductive TableRule where
  | primaryKey (columns : List String)
  | unique (columns : List String)
  | check (name : Option String) (e : Expr) (text : String)

/-- A statement that changes rows. -/
inductive Change where
  | insert (conflict : Option Conflict) (table : String) (columns : List String)
      (rows : Option Select) (returning : List ResultItem)
  | update (conflict : Option Conflict) (table : String) (assignments : List (String × Expr))
      (filter : Option Expr) (returning : List ResultItem)
  | delete (table : String) (filter : Option Expr) (returning : List ResultItem)

/-- How a transaction begins. -/
inductive BeginMode where
  | deferred
  | immediate
  | exclusive
deriving DecidableEq, Repr

/-- A statement that begins or ends a transaction or a part of one. -/
inductive Control where
  | begin (mode : BeginMode)
  | commit
  | rollback
  | savepoint (name : String)
  | release (name : String)
  | rollbackTo (name : String)
deriving DecidableEq, Repr

/-- A trigger as it is declared: what is done after every row inserted into a table. -/
structure TriggerForm where
  name : String
  table : String
  condition : Option Expr
  body : List Change

/-- A statement. -/
inductive Statement where
  | select (q : Select)
  | change (c : Change)
  | createTable (ifMissing : Bool) (name : String) (columns : List ColumnForm)
      (rules : List TableRule)
  | dropTable (ifPresent : Bool) (name : String)
  | addColumn (table : String) (column : ColumnForm)
  | createTrigger (ifMissing : Bool) (trigger : TriggerForm)
  | dropTrigger (ifPresent : Bool) (name : String)
  | control (c : Control)
  /-- Reads the version that users give a database. -/
  | readVersion
  /-- Stores it. -/
  | writeVersion (version : Int)
  /-- A setting that the engine does not know. -/
  | nothing

end SqlDriver.Engine
