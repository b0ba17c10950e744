/-
# SqlDriver.Engine.Datum -- the values that the engine stores

The engine keeps texts as octets, which need not be valid UTF-8; they become a text
only when a row is handed out (`Datum.toValue`).  Values are ordered by kind first:
null, numbers, texts, blobs.
-/
import SqlDriver.Value

namespace SqlDriver.Engine

set_option autoImplicit false

/-- A stored value. -/
inductive Datum where
  | null
  | integer (n : Int64)
  | real (x : Float)
  | text (octets : List UInt8)
  | blob (octets : List UInt8)
deriving DecidableEq, Repr, Inhabited

abbrev Tuple := List Datum

/-- How texts are compared. -/
inductive Collation where
  | binary
  /-- Without regard to the case of ASCII letters. -/
  | noCase
  /-- Without regard to spaces at the end. -/
  | rightTrim
deriving DecidableEq, Repr

namespace Datum

/-- The value as it is handed out. -/
def toValue : Datum → Value
  | null => .null
  | integer n => .integer n
  | real x => if x.isNaN then .null else .float x
  | text octets => .text (Text.Utf8.toStringLossy octets)
  | blob octets => .blob octets

/-- A text of ASCII characters or of any string. -/
def ofString (s : String) : Datum :=
  text (Text.Utf8.ofString s)

/-- An integer from one that fits 64 bits. -/
def ofInt (n : Int) : Datum :=
  integer (Int64.ofInt n)

def ofBool (b : Bool) : Datum :=
  integer (if b then 1 else 0)

def isNull : Datum → Bool
  | null => true
  | _ => false

def kindName : Datum → String
  | null => "null"
  | integer _ => "integer"
  | real _ => "real"
  | text _ => "text"
  | blob _ => "blob"

end Datum

/-- The lower-case form of an ASCII letter. -/
def lowerOctet (b : UInt8) : UInt8 :=
  if 0x41 ≤ b && b ≤ 0x5A then b + 32 else b

/-- The upper-case form of an ASCII letter. -/
def upperOctet (b : UInt8) : UInt8 :=
  if 0x61 ≤ b && b ≤ 0x7A then b - 32 else b

def compareOctets : List UInt8 → List UInt8 → Ordering
  | [], [] => .eq
  | [], _ :: _ => .lt
  | _ :: _, [] => .gt
  | a :: r, b :: s => if a < b then .lt else if b < a then .gt else compareOctets r s

namespace Collation

def key (c : Collation) (octets : List UInt8) : List UInt8 :=
  match c with
  | binary => octets
  | noCase => octets.map lowerOctet
  | rightTrim => (octets.reverse.dropWhile (· = 0x20)).reverse

def compare (c : Collation) (a b : List UInt8) : Ordering :=
  compareOctets (c.key a) (c.key b)

end Collation

/-- The order of an integer and a double, by their exact values. -/
def compareIntReal (n : Int) (x : Float) : Ordering :=
  match Decimal.Binary64.ofFloat x with
  | .nan => .gt
  | .infinite negative => if negative then .gt else .lt
  | .finite negative m e =>
      let m : Int := if negative then -m else m
      if 0 ≤ e then compare n (m * Nat.pow 2 e.toNat) else compare (n * Nat.pow 2 (-e).toNat) m

namespace Datum

/-- Kinds in the order in which they sort. -/
def rank : Datum → Nat
  | null => 0
  | integer _ => 1
  | real _ => 1
  | text _ => 2
  | blob _ => 3

def compare (c : Collation) : Datum → Datum → Ordering
  | integer a, integer b => Ord.compare a.toInt b.toInt
  | integer a, real b => compareIntReal a.toInt b
  | real a, integer b => (compareIntReal b.toInt a).swap
  | real a, real b => if a < b then .lt else if b < a then .gt else .eq
  | text a, text b => c.compare a b
  | blob a, blob b => compareOctets a b
  | a, b => Ord.compare a.rank b.rank

end Datum

end SqlDriver.Engine
