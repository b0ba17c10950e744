/-
# SqlDriver.Engine.Binding.Declaration -- tables as they are declared

The single column of type `INTEGER` that is declared as the primary key shows the row
number; every other primary key is a key like a unique one.  The types that the engine
knows are kept in upper case and all others as they are written.
-/
import SqlDriver.Engine.Binding.Query

namespace SqlDriver.Engine.Binding

set_option autoImplicit false

def keptType (type : String) : String :=
  match ["ANY", "BLOB", "INT", "INTEGER", "REAL", "TEXT"].find? (sameName type) with
  | some known => known
  | none => type

def bindDefault (env : Env) (column : String) (e : Expr) : Lookup Term := do
  let bind : Lookup Term := do
    return (← bindExpr { env with scopes := [], named := [], aliases := [] } e).term
  tryCatch bind fun _ => refuse ("default value of column [" ++ column ++ "] is not constant")

/-- Applies the constraints of a column that concern it alone. -/
def applyRules (env : Env) (c : Column) : List ColumnRule → Lookup Column
  | [] => return c
  | r :: rest => do
      let c ← match r with
        | .notNull => pure { c with notNull := true }
        | .default e => do
            let t ← bindDefault env c.name e
            pure { c with default := t }
        | .collate n =>
            match collationOf? n with
            | some collation => pure { c with collation }
            | none => refuse ("no such collation sequence: " ++ n)
        | _ => pure c
      applyRules env c rest

def bindColumn (env : Env) (f : ColumnForm) : Lookup Column := do
  let type := f.type.map keptType
  applyRules env { name := f.name, type, affinity := Affinity.ofDeclaration type } f.rules

/-- Binds the columns of a table, whose names differ. -/
def bindColumns (env : Env) : List String → List ColumnForm → Lookup (List Column)
  | _, [] => return []
  | seen, f :: r => do
      if seen.any (sameName f.name) then refuse ("duplicate column name: " ++ f.name)
      let c ← bindColumn env f
      return c :: (← bindColumns env (f.name :: seen) r)

def addPrimaryKey (t : Table) (places : List Nat) (descending : Bool) : Lookup Table := do
  if t.numberColumn.isSome || t.keys.any Key.primary then
    refuse ("table \"" ++ t.name ++ "\" has more than one primary key")
  match places with
  | [p] =>
      if !descending && ((t.columnAt? p).bind Column.type) = some "INTEGER" then
        return { t with numberColumn := some p }
      return { t with keys := ⟨places, true⟩ :: t.keys }
  | _ => return { t with keys := ⟨places, true⟩ :: t.keys }

/-- Declares a unique key, unless there is one of the same columns. -/
def addKey (t : Table) (places : List Nat) : Table :=
  if t.keys.any fun k => k.places = places then t
  else { t with keys := ⟨places, false⟩ :: t.keys }

def keyPlaces (t : Table) (names : List String) : Lookup (List Nat) :=
  names.mapM fun n => do
    match t.place? n with
    | some p => return p
    | none => refuse ("no such column: " ++ n)

/-- The condition that a constraint checks.  Without a name it is cited by its text. -/
def bindCheck (env : Env) (t : Table) (label : Option String) (e : Expr) (text : String) :
    Lookup Check := do
  let b ← bindExpr (env.push (.ofTable t t.name)) e
  return ⟨label.getD text, b.term⟩

def addColumnRules (env : Env) (place : Nat) : Table → List ColumnRule → Lookup Table
  | t, [] => return t
  | t, r :: rest => do
      let t ← match r with
        | .primaryKey descending => addPrimaryKey t [place] descending
        | .unique => pure (addKey t [place])
        | .check label e text => do
            let c ← bindCheck env t label e text
            pure { t with checks := t.checks ++ [c] }
        | _ => pure t
      addColumnRules env place t rest

def addAllColumnRules (env : Env) : Nat → Table → List ColumnForm → Lookup Table
  | _, t, [] => return t
  | place, t, f :: r => do
      let t ← addColumnRules env place t f.rules
      addAllColumnRules env (place + 1) t r

def addTableRules (env : Env) : Table → List TableRule → Lookup Table
  | t, [] => return t
  | t, r :: rest => do
      let t ← match r with
        | .primaryKey names => do addPrimaryKey t (← keyPlaces t names) false
        | .unique names => do pure (addKey t (← keyPlaces t names))
        | .check label e text => do
            let c ← bindCheck env t label e text
            pure { t with checks := t.checks ++ [c] }
      addTableRules env t rest

def bindTableForm (env : Env) (n : String) (columns : List ColumnForm) (rules : List TableRule) :
    Lookup Table := do
  let bound ← bindColumns env [] columns
  let t ← addAllColumnRules env 1 { name := n, columns := bound } columns
  addTableRules env t rules

def hasRule (f : ColumnForm) (p : ColumnRule → Bool) : Bool :=
  f.rules.any p

def defaultOf (rules : List ColumnRule) : Option Expr :=
  rules.foldl (fun e r => match r with | .default d => some d | _ => e) none

/-- The expression is a value as it is written, but for signs and casts. -/
def isWritten : Expr → Bool
  | .literal _ => true
  | .numeral _ => true
  | .unary .plus e => isWritten e
  | .unary .minus e => isWritten e
  | .cast e _ => isWritten e
  | .name none n false => (truthName? n).isSome
  | _ => false

/-- Why a column cannot be added to a table that has rows. -/
def unfit? (c : Column) (rules : List ColumnRule) : Option String :=
  match defaultOf rules with
  | none | some (.literal .null) =>
      if c.notNull then some "Cannot add a NOT NULL column with default value NULL" else none
  | some e => if isWritten e then none else some "Cannot add a column with non-constant default"

/-- The columns of the statement that adds a column.  It looks at the rows that there are by
queries that never yield a row; the first of them names its only column. -/
def addedOutputs (checks : List Check) (unfit : Option String) : List Output :=
  match unfit with
  | some why => [{ name := "raise(ABORT,'" ++ why ++ "')" }]
  | none =>
      if checks.isEmpty then []
      else [{ name := "CASE WHEN quick_check GLOB 'CHECK*'" ++
        " THEN raise(ABORT,'CHECK constraint failed')" ++
        " WHEN quick_check GLOB 'non-* value in*'" ++
        " THEN raise(ABORT,'type mismatch on DEFAULT')" ++
        " ELSE raise(ABORT,'NOT NULL constraint failed') END" }]

def bindAddedColumn (env : Env) (t : Table) (f : ColumnForm) : Lookup (Column × List Check) := do
  if (t.place? f.name).isSome then refuse ("duplicate column name: " ++ f.name)
  let c ← bindColumn env f
  if hasRule f fun r => match r with | .primaryKey _ => true | _ => false then
    refuse "Cannot add a PRIMARY KEY column"
  if hasRule f fun r => match r with | .unique => true | _ => false then
    refuse "Cannot add a UNIQUE column"
  let after := { t with columns := t.columns ++ [c] }
  let checked ← addColumnRules env after.columns.length after f.rules
  return (c, checked.checks.drop t.checks.length)

end SqlDriver.Engine.Binding
