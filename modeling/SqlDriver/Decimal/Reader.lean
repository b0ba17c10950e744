/-
# SqlDriver.Decimal.Reader -- numbers read from a text

`readInt64?` accepts one optional sign and ASCII digits whose value fits 64 bits.
`readFloat?` accepts decimal and exponent forms and the names of the values that
are no finite numbers, and rounds to the nearest double.
-/
import SqlDriver.Decimal.Binary64

namespace SqlDriver.Decimal

set_option autoImplicit false

def isDigit (c : Char) : Bool :=
  '0' ≤ c && c ≤ '9'

def digitValue (c : Char) : Nat :=
  c.toNat - '0'.toNat

def valueOfDigits (s : List Char) : Nat :=
  s.foldl (fun n c => 10 * n + digitValue c) 0

def readNat? (s : List Char) : Option Nat :=
  if s ≠ [] ∧ s.all isDigit then some (valueOfDigits s) else none

def readInt? : List Char → Option Int
  | '-' :: r => (readNat? r).map fun n => -(n : Int)
  | '+' :: r => (readNat? r).map fun n => (n : Int)
  | r => (readNat? r).map fun n => (n : Int)

/-- An integer that fits 64 bits. -/
def readInt64? (s : List Char) : Option Int64 :=
  (readInt? s).bind fun n =>
    if Int64.minValue.toInt ≤ n ∧ n ≤ Int64.maxValue.toInt then some (Int64.ofInt n) else none

/-- The double nearest to `digits * 10 ^ exponent`.  Far out of range the answer does
not need the power. -/
def ofScientific (negative : Bool) (digits : Nat) (exponent : Int) : Float :=
  let size := (Nat.toDigits 10 digits).length
  if digits = 0 then Binary64.nearest negative 0 1
  else if 400 < exponent + size then Binary64.infinity negative
  else if exponent + size < -400 then Binary64.nearest negative 0 1
  else if 0 ≤ exponent then Binary64.nearest negative (digits * Nat.pow 10 exponent.toNat) 1
  else Binary64.nearest negative digits (Nat.pow 10 (-exponent).toNat)

/-- The exponent that follows the digits: nothing, or a mark and an integer. -/
def readExponent? : List Char → Option Int
  | [] => some 0
  | c :: r => if c = 'e' ∨ c = 'E' then readInt? r else none

/-- Digits with an optional point among them and an optional exponent. -/
def readDecimal? (negative : Bool) (s : List Char) : Option Float :=
  let whole := s.takeWhile isDigit
  let rest := s.dropWhile isDigit
  let (part, rest) :=
    match rest with
    | '.' :: r => (r.takeWhile isDigit, r.dropWhile isDigit)
    | _ => ([], rest)
  if whole.isEmpty && part.isEmpty then none
  else
    (readExponent? rest).map fun e =>
      ofScientific negative (valueOfDigits (whole ++ part)) (e - part.length)

def readUnsigned? (negative : Bool) (s : List Char) : Option Float :=
  let word := s.map Char.toLower
  if word = "inf".toList ∨ word = "infinity".toList then some (Binary64.infinity negative)
  else if word = "nan".toList then some Binary64.notANumber
  else readDecimal? negative s

def readFloat? : List Char → Option Float
  | '-' :: r => readUnsigned? true r
  | '+' :: r => readUnsigned? false r
  | r => readUnsigned? false r

end SqlDriver.Decimal
