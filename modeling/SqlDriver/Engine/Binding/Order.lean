/-
# SqlDriver.Engine.Binding.Order -- the order in which a table is scanned

A scan goes by row number unless the columns of a key serve better: because the rows
have to be sorted by a unique column, because a condition bounds one, or because the
select needs no other column and the key's columns are narrower than the table's.
-/
import SqlDriver.Engine.Binding.Scope

namespace SqlDriver.Engine.Binding

set_option autoImplicit false

/-- How a table is scanned. -/
structure ScanPlan where
  order : ScanOrder := .number
  descending : Bool := false
  /-- The scan yields the rows as they have to be sorted. -/
  sorted : Bool := false

def columnWidth (c : Column) : Nat :=
  match c.type with
  | none => 1
  | some type =>
      let t := type.toList.map Char.toUpper
      if t = "TEXT".toList || t = "BLOB".toList then 5
      else if ["ANY", "INT", "INTEGER", "REAL"].any fun n => t = n.toList then 1
      else if containsText "CHAR".toList t || containsText "CLOB".toList t ||
          containsText "TEXT".toList t || containsText "BLOB".toList t then
        let digits := ((t.dropWhile (!Char.isDigit ·)).takeWhile Char.isDigit)
        if digits.isEmpty then 5
        else min 255 ((digits.foldl (fun n c => 10 * n + (c.toNat - 48)) 0) / 4 + 1)
      else 1

namespace ScanPlan

def ofKey (t : Table) (k : Key) : ScanOrder :=
  .columns (k.places.map fun p => (p, t.collationAt p))

def keyOf? (t : Table) (place : Nat) : Option Key :=
  t.keys.find? fun k => k.places = [place]

def isNumber (t : Table) (place : Nat) : Bool :=
  place = 0 || t.numberColumn = some place

/-- The scan that sorts rows by a column of the row at hand. -/
def ofSort? (t : Table) (key : Bound) (descending : Bool) : Option ScanPlan :=
  match key.term with
  | .column 0 place =>
      if isNumber t place then some ⟨.number, descending, true⟩
      else
        match keyOf? t place with
        | some k =>
            if key.collation.getD .binary = t.collationAt place then
              some ⟨ofKey t k, descending, true⟩
            else none
        | none => none
  | _ => none

/-- The value of a term does not depend on the row at hand. -/
def isOutside : Term → Bool
  | .constant _ => true
  | .column level _ => 0 < level
  | .unary _ t => isOutside t
  | .combine _ l r => isOutside l && isOutside r
  | .cast _ t => isOutside t
  | .first fixed _ => fixed
  | _ => false

/-- The comparison leaves the values of a column as they are. -/
def suits (t : Table) (place : Nat) (a : Affinity) (c : Collation) : Bool :=
  let own := ((t.columnAt? place).map Column.affinity).getD .integer
  c = t.collationAt place &&
    (match a with
      | .none => true
      | .blob => true
      | .text => own = .text
      | _ => own.isNumeric)

def bounded (t : Table) : Term → List Nat
  | .both l r => bounded t l ++ bounded t r
  | .compare op a c l r =>
      if op = .ne || op = .differ then []
      else
        match l, r with
        | .column 0 p, r => if isOutside r && suits t p a c then [p] else []
        | l, .column 0 p => if isOutside l && suits t p a c then [p] else []
        | _, _ => []
  | _ => []

def tableWidth (t : Table) : Nat :=
  (t.columns.map columnWidth).foldr (· + ·) 0 + (if t.numberColumn.isNone then 1 else 0)

def keyWidth (t : Table) (k : Key) : Nat :=
  (k.places.map fun p => ((t.columnAt? p).map columnWidth).getD 1).foldr (· + ·) 0 + 1

/-- The scan of a select that uses some columns and has a filter. -/
def ofFilter (t : Table) (used : List Nat) (filter : Option Term) : ScanPlan :=
  let places := (filter.map (bounded t)).getD []
  if places.any (isNumber t) then {}
  else
    match places.findSome? (keyOf? t) with
    | some k => { order := ofKey t k }
    | none =>
        match t.keys.find? fun k =>
            keyWidth t k < tableWidth t &&
              used.all fun p => isNumber t p || k.places.contains p with
        | some k => if used.isEmpty then {} else { order := ofKey t k }
        | none => {}

def choose (t : Table) (used : List Nat) (filter : Option Term) (keys : List (Bound × Bool)) :
    ScanPlan :=
  match keys with
  | (key, descending) :: more =>
      match ofSort? t key descending with
      | some plan =>
          if plan.order = .number || more.isEmpty then plan else ofFilter t used filter
      | none => ofFilter t used filter
  | [] => ofFilter t used filter

end ScanPlan

end SqlDriver.Engine.Binding
