/-
# SqlDriver.Engine.Affinity -- the kind of value that a column prefers

The declared type of a column decides its affinity, by words that occur in it.  A
value that is stored is converted to the column's affinity where nothing is lost,
and a comparison converts its operands by the affinities of both sides.
-/
import SqlDriver.Engine.Numeral

namespace SqlDriver.Engine

set_option autoImplicit false

/-- The kind of value that a column or expression prefers. -/
inductive Affinity where
  /-- An expression that is no column. -/
  | none
  | blob
  | text
  | numeric
  | integer
  | real
deriving DecidableEq, Repr

def containsText (part : List Char) : List Char → Bool
  | [] => part.isEmpty
  | c :: r => part.isPrefixOf (c :: r) || containsText part r

namespace Affinity

def ofType (type : String) : Affinity :=
  let t := type.toList.map Char.toUpper
  let has (s : String) : Bool := containsText s.toList t
  if has "INT" then .integer
  else if has "CHAR" || has "CLOB" || has "TEXT" then .text
  else if has "BLOB" then .blob
  else if has "REAL" || has "FLOA" || has "DOUB" then .real
  else .numeric

/-- The affinity of a column, which may have no declared type. -/
def ofDeclaration (type : Option String) : Affinity :=
  match type with
  | .none => .blob
  | some t => ofType t

def isNumeric : Affinity → Bool
  | numeric => true
  | integer => true
  | real => true
  | _ => false

/-- A text becomes the number that it is, if it is one. -/
def textToNumber (s : List UInt8) : Datum :=
  match readReal s with
  | (x, .integer) =>
      match readInteger s with
      | (n, .exact) => .integer n
      | _ => .real x
  | (x, .real) => .real x
  | _ => .text s

/-- A real becomes the integer that it is, if it is one. -/
def realToInteger (x : Float) : Datum :=
  match Datum.integerOfReal? x with
  | some n => .integer n
  | Option.none => .real x

/-- Converts a value that is stored. -/
def store (a : Affinity) (d : Datum) : Datum :=
  match a with
  | text =>
      match d with
      | .integer _ => .text d.octets
      | .real _ => .text d.octets
      | d => d
  | none => d
  | blob => d
  | real =>
      match (match d with | .text s => textToNumber s | d => d) with
      | .integer n => .real (Decimal.Binary64.ofInt n.toInt)
      -- a negative zero is stored as the integer that it is
      | .real x => .real (if x == 0 then 0 else x)
      | d => d
  | _ =>
      match (match d with | .text s => textToNumber s | d => d) with
      | .real x => realToInteger x
      | d => d

/-- Converts a value as `CAST` does. -/
def cast (a : Affinity) (d : Datum) : Datum :=
  match d with
  | .null => .null
  | d =>
      match a with
      | none => d
      | blob => .blob d.octets
      | text => .text d.octets
      | integer => .integer d.toInteger
      | real => .real d.toReal
      | numeric =>
          match d with
          | .integer n => .integer n
          | .real x => .real x
          | d =>
              match Datum.numberOfText d.octets with
              | .real x => realToInteger x
              | n => n

/-- The affinity by which two operands are compared. -/
def ofComparison (a b : Affinity) : Affinity :=
  if a ≠ .none && b ≠ .none then
    if a.isNumeric || b.isNumeric then .numeric else .blob
  else if a = .none then b else a

/-- Converts the operands of a comparison. -/
def compareWith (a : Affinity) (x y : Datum) : Datum × Datum :=
  let isText (d : Datum) : Bool := match d with | .text _ => true | _ => false
  if a.isNumeric then
    let convert (d : Datum) : Datum := match d with | .text s => textToNumber s | d => d
    (convert x, convert y)
  else if a = .text && (isText x || isText y) then (text.store x, text.store y)
  else (x, y)

end Affinity

end SqlDriver.Engine
