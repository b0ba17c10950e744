/-
# SqlDriver.Engine.Catalog -- the tables and triggers of a database

A database is its tables with their rows, its triggers, the version that users give
it, and a number that grows with every change of its form.  Names are compared
without regard to case.
-/
import SqlDriver.Engine.Plan

namespace SqlDriver.Engine

set_option autoImplicit false

def sameName (a b : String) : Bool :=
  a.toList.map Char.toLower = b.toList.map Char.toLower

/-- A column of a table. -/
structure Column where
  name : String
  /-- The declared type, if there is one. -/
  type : Option String
  affinity : Affinity
  collation : Collation := .binary
  notNull : Bool := false
  default : Term := .constant .null

/-- Columns whose values no two rows share. -/
structure Key where
  /-- The columns by their places in a row. -/
  places : List Nat
  primary : Bool
deriving DecidableEq, Repr

/-- A condition that every row meets. -/
structure Check where
  /-- The words by which a refusal cites it. -/
  label : String
  condition : Term

/-- A row of a table. -/
structure Row where
  number : Int64
  values : List Datum
deriving DecidableEq, Repr

namespace Row

/-- The row as queries see it. -/
def tuple (r : Row) : Tuple :=
  .integer r.number :: r.values

end Row

/-- A table. -/
structure Table where
  name : String
  columns : List Column
  /-- The column that shows the row number, by its place in a row. -/
  numberColumn : Option Nat := none
  keys : List Key := []
  checks : List Check := []
  /-- The rows by ascending numbers. -/
  rows : List Row := []

namespace Table

def columnAt? (t : Table) (place : Nat) : Option Column :=
  if place = 0 then none else t.columns[place - 1]?

def place? (t : Table) (name : String) : Option Nat :=
  (t.columns.findIdx? fun c => sameName c.name name).map (· + 1)

def row? (t : Table) (number : Int64) : Option Row :=
  t.rows.find? fun r => r.number = number

def lastNumber? (t : Table) : Option Int64 :=
  t.rows.getLast?.map Row.number

def collationAt (t : Table) (place : Nat) : Collation :=
  ((t.columnAt? place).map Column.collation).getD .binary

/-- Puts a row among rows with ascending numbers, in the place of one with its number. -/
def putRow (row : Row) : List Row → List Row
  | [] => [row]
  | r :: rest =>
      if row.number < r.number then row :: r :: rest
      else if row.number = r.number then row :: rest
      else r :: putRow row rest

def put (t : Table) (row : Row) : Table :=
  match t.lastNumber? with
  | some n =>
      if n < row.number then { t with rows := t.rows ++ [row] }
      else { t with rows := putRow row t.rows }
  | none => { t with rows := [row] }

def remove (t : Table) (number : Int64) : Table :=
  { t with rows := t.rows.filter fun r => r.number ≠ number }

end Table

/-- A trigger. -/
structure Trigger where
  form : TriggerForm

/-- A database. -/
structure Contents where
  tables : List Table := []
  /-- The triggers, the newest first. -/
  triggers : List Trigger := []
  userVersion : Int := 0
  /-- Grows with every change of tables and triggers. -/
  form : Nat := 0

namespace Contents

def table? (c : Contents) (name : String) : Option Table :=
  c.tables.find? fun t => sameName t.name name

/-- The rows of a table; none if there is no such table. -/
def rows (c : Contents) (name : String) : List Row :=
  ((c.table? name).map Table.rows).getD []

def modify (c : Contents) (name : String) (f : Table → Table) : Contents :=
  { c with tables := c.tables.map fun t => if sameName t.name name then f t else t }

def trigger? (c : Contents) (name : String) : Option Trigger :=
  c.triggers.find? fun t => sameName t.form.name name

/-- The triggers of a table, the newest first. -/
def triggersOf (c : Contents) (table : String) : List Trigger :=
  c.triggers.filter fun t => sameName t.form.table table

/-- Counts a change of form. -/
def changed (c : Contents) : Contents :=
  { c with form := c.form + 1 }

end Contents

end SqlDriver.Engine
