/-
# SqlDriver.Value -- the values of a row

A column holds one of five kinds of value.  The views `asInt`, `asFloat`, `asText`
and `asBytes` read a value as another kind where that has a meaning and answer
`none` elsewhere.  `BEq` compares numbers as numbers, so a value that is no number
differs from itself, and values of different kinds are never equal.
-/
import SqlDriver.Decimal.Reader
import SqlDriver.Decimal.Shortest
import SqlDriver.Text.Blank
import SqlDriver.Text.Utf8

namespace SqlDriver

set_option autoImplicit false

/-- The kinds of value. -/
inductive Kind where
  | null
  | integer
  | float
  | text
  | blob
deriving DecidableEq, Repr

namespace Kind

/-- The number by which programs tell the kinds apart. -/
def number : Kind → Nat
  | null => 0
  | integer => 1
  | float => 2
  | text => 3
  | blob => 4

def name : Kind → String
  | null => "Null"
  | integer => "Integer"
  | float => "Float"
  | text => "Text"
  | blob => "Blob"

def ofCode? (code : Int) : Option Kind :=
  match code with
  | 1 => some integer
  | 2 => some float
  | 3 => some text
  | 4 => some blob
  | 5 => some null
  | _ => none

end Kind

/-- A value of a row. -/
inductive Value where
  | null
  | integer (n : Int64)
  | float (x : Float)
  | text (s : String)
  | blob (bytes : List UInt8)
deriving DecidableEq, Repr, Inhabited

namespace Value

def kind : Value → Kind
  | null => .null
  | integer _ => .integer
  | float _ => .float
  | text _ => .text
  | blob _ => .blob

def isNull : Value → Bool
  | null => true
  | _ => false

/-- Equality of values: floats compare as numbers. -/
def same : Value → Value → Bool
  | null, null => true
  | integer a, integer b => a == b
  | float a, float b => a == b
  | text a, text b => a == b
  | blob a, blob b => a == b
  | _, _ => false

/-- The value as an integer.  A float loses its fraction and stays within 64 bits; a
text is read without its outer blanks. -/
def asInt : Value → Option Int64
  | integer n => some n
  | float x => some (Decimal.Binary64.toInt64 x)
  | text s => Decimal.readInt64? (Text.trim s.toList)
  | _ => none

/-- The value as a float. -/
def asFloat : Value → Option Float
  | float x => some x
  | integer n => some (Decimal.Binary64.ofInt n.toInt)
  | text s => Decimal.readFloat? (Text.trim s.toList)
  | _ => none

/-- The value as a text: only a text is one. -/
def asText : Value → Option String
  | text s => some s
  | _ => none

/-- The value as octets. -/
def asBytes : Value → Option (List UInt8)
  | blob bytes => some bytes
  | text s => some (Text.Utf8.encode s.toList)
  | _ => none

/-- The text in which a value is shown. -/
def display : Value → String
  | null => "NULL"
  | integer n => toString n.toInt
  | float x => Decimal.ofFloat x
  | text s => s
  | blob bytes => "<blob " ++ toString bytes.length ++ " bytes>"

end Value

end SqlDriver
