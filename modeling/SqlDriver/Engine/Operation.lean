/-
# SqlDriver.Engine.Operation -- what operators and functions compute

Integer arithmetic that leaves 64 bits goes on with reals, and what has no result is
null.  Truth has three values: null is unknown.
-/
import SqlDriver.Engine.Plan
import SqlDriver.Error

namespace SqlDriver.Engine

set_option autoImplicit false

abbrev Outcome (α : Type) := Except Fault α

/-- A failure with the general result code. -/
def failure {α : Type} (message : String) : Outcome α :=
  .error ⟨message, 1⟩

namespace Datum

/-- A real, or null if it is no number. -/
def ofReal (x : Float) : Datum :=
  if x.isNaN then null else real x

/-- An integer if 64 bits hold it, else the real given. -/
def ofExact (n : Int) (x : Float) : Datum :=
  if Int64.minValue.toInt ≤ n && n ≤ Int64.maxValue.toInt then ofInt n else ofReal x

def ofTruth : Option Bool → Datum
  | some b => ofBool b
  | none => null

/-- The bits of an integer moved to the left. -/
def shift (n : Int64) (places : Int) : Datum :=
  if places ≤ -64 then ofInt (if n < 0 then -1 else 0)
  else if places < 0 then ofInt (Int.fdiv n.toInt (Nat.pow 2 (-places).toNat))
  else if 64 ≤ places then ofInt 0
  else ofInt (n.toInt * Nat.pow 2 places.toNat)

/-- The remainder of two integers, with the sign of the first. -/
def remainder (a b : Int64) : Option Int :=
  if b = 0 then none else some (Int.tmod a.toInt b.toInt)

/-- A sum, difference, product, quotient or remainder of two numbers. -/
def arithmetic (op : Operator) (a b : Datum) : Datum :=
  match op, a.toNumber, b.toNumber with
  | .add, integer m, integer n => ofExact (m.toInt + n.toInt) (a.toReal + b.toReal)
  | .sub, integer m, integer n => ofExact (m.toInt - n.toInt) (a.toReal - b.toReal)
  | .mul, integer m, integer n => ofExact (m.toInt * n.toInt) (a.toReal * b.toReal)
  | .div, integer m, integer n =>
      if n = 0 then null else ofExact (Int.tdiv m.toInt n.toInt) (a.toReal / b.toReal)
  | .rem, integer m, integer n => (remainder m n).elim null ofInt
  | .add, _, _ => ofReal (a.toReal + b.toReal)
  | .sub, _, _ => ofReal (a.toReal - b.toReal)
  | .mul, _, _ => ofReal (a.toReal * b.toReal)
  | .div, _, _ => if b.toReal == 0 then null else ofReal (a.toReal / b.toReal)
  | _, _, _ =>
      (remainder a.toInteger b.toInteger).elim null fun n => real (Decimal.Binary64.ofInt n)

def combine (op : Operator) (a b : Datum) : Datum :=
  if a.isNull || b.isNull then null
  else
    match op with
    | .concat => text (a.octets ++ b.octets)
    | .bitAnd => integer (a.toInteger &&& b.toInteger)
    | .bitOr => integer (a.toInteger ||| b.toInteger)
    | .shiftLeft => shift a.toInteger b.toInteger.toInt
    | .shiftRight => shift a.toInteger (-b.toInteger.toInt)
    | op => arithmetic op a b

/-- The result of an operator with one operand. -/
def unary (op : Unary) (d : Datum) : Datum :=
  match op with
  | .plus => d
  | .minus => combine .sub (integer 0) d
  | .complement => if d.isNull then null else integer (~~~ d.toInteger)
  | .negation => ofTruth (d.truth?.map (!·))

/-- The result of a comparison of two values that are not null. -/
def compareBy (op : Comparison) (o : Ordering) : Bool :=
  match op with
  | .eq => o = .eq
  | .same => o = .eq
  | .ne => o ≠ .eq
  | .differ => o ≠ .eq
  | .lt => o = .lt
  | .le => o ≠ .gt
  | .gt => o = .gt
  | .ge => o ≠ .lt

def comparison (op : Comparison) (a : Affinity) (c : Collation) (x y : Datum) : Datum :=
  let (x, y) := a.compareWith x y
  match op with
  | .same => ofBool (compareBy op (compare c x y))
  | .differ => ofBool (compareBy op (compare c x y))
  | op => if x.isNull || y.isNull then null else ofBool (compareBy op (compare c x y))

/-- Whether a value is one of a list; unknown if only a null may be it. -/
def oneOf (a : Affinity) (c : Collation) (d : Datum) (items : List Datum) : Datum :=
  if items.isEmpty then ofBool false
  else if d.isNull then null
  else
    let d := a.store d
    if items.any fun x => !x.isNull && compare c d (a.store x) = .eq then ofBool true
    else if items.any isNull then null
    else ofBool false

/-- The octets that continue a character. -/
def dropContinuation (s : List UInt8) : List UInt8 :=
  s.dropWhile fun b => 0x80 ≤ b && b < 0xC0

/-- A text matches a pattern in which a percent sign stands for any text and a low line
for one character; letters match in either case. -/
def matches? : Nat → List UInt8 → List UInt8 → Bool
  | 0, _, _ => false
  | _ + 1, [], s => s.isEmpty
  | fuel + 1, p :: ps, s =>
      if p = 0x25 then
        matches? fuel ps s || (match s with | [] => false | _ :: r => matches? fuel (p :: ps) r)
      else
        match s with
        | [] => false
        | b :: r =>
            if p = 0x5F then matches? fuel ps (dropContinuation r)
            else lowerOctet p = lowerOctet b && matches? fuel ps r

def like (d pattern : Datum) : Datum :=
  if d.isNull || pattern.isNull then null
  else ofBool (matches? (d.octets.length + pattern.octets.length + 1) pattern.octets d.octets)

end Datum

namespace Function

def codePoint (n : Int) : List UInt8 :=
  let n := if n < 0 || 0x10FFFF < n then 0xFFFD else n.toNat
  let tail (k : Nat) : UInt8 := UInt8.ofNat (0x80 + n / Nat.pow 64 k % 64)
  if n < 0x80 then [UInt8.ofNat n]
  else if n < 0x800 then [UInt8.ofNat (0xC0 + n / 64), tail 0]
  else if n < 0x10000 then [UInt8.ofNat (0xE0 + n / 4096), tail 1, tail 0]
  else [UInt8.ofNat (0xF0 + n / 262144), tail 2, tail 1, tail 0]

/-- The number of characters of a text up to its first zero octet. -/
def characters (s : List UInt8) : Nat :=
  (s.takeWhile (· ≠ 0)).countP fun b => b < 0x80 || 0xC0 ≤ b

/-- A hexadecimal digit in upper case. -/
def hexDigit (n : Nat) : UInt8 :=
  UInt8.ofNat (if n < 10 then 48 + n else 55 + n)

/-- The most octets that a value may have. -/
def sizeLimit : Int := 1000000000

/-- The greater or the smaller of values. -/
def extreme (want : Ordering) : Datum → List Datum → Datum
  | d, [] => d
  | d, x :: r =>
      if d.isNull || x.isNull then .null
      else extreme want (if Datum.compare .binary x d = want then x else d) r

def absolute : Datum → Outcome Datum
  | .null => .ok .null
  | .integer n =>
      if n = Int64.minValue then failure "integer overflow"
      else .ok (.integer (if n < 0 then -n else n))
  | d => .ok (.real (if d.toReal < 0 then -d.toReal else d.toReal))

def lengthOf : Datum → Datum
  | .null => .null
  | .text s => .ofInt (characters s)
  | d => .ofInt d.octets.length

def apply (f : Function) (arguments : List Datum) : Outcome Datum :=
  match f, arguments with
  | abs, [d] => absolute d
  | char, ds => .ok (.text (ds.flatMap fun d => codePoint d.toInteger.toInt))
  | hex, [d] =>
      .ok (.text (d.octets.flatMap fun b => [hexDigit (b.toNat / 16), hexDigit (b.toNat % 16)]))
  | length, [d] => .ok (lengthOf d)
  | lower, [d] => .ok (if d.isNull then .null else .text (d.octets.map lowerOctet))
  | upper, [d] => .ok (if d.isNull then .null else .text (d.octets.map upperOctet))
  | max, d :: ds => .ok (extreme .gt d ds)
  | min, d :: ds => .ok (extreme .lt d ds)
  | nullIf c, [x, y] =>
      .ok (if !x.isNull && !y.isNull && Datum.compare c x y = .eq then .null else x)
  | typeOf, [d] => .ok (.ofString d.kindName)
  | zeroBlob, [d] =>
      if sizeLimit < d.toInteger.toInt then .error ⟨"string or blob too big", 18⟩
      else .ok (.blob (List.replicate d.toInteger.toInt.toNat 0))
  | _, _ => .ok .null

end Function

/-! ## Functions of all rows -/

/-- A sum of reals that keeps what rounding loses. -/
structure CompensatedSum where
  sum : Float := 0
  lost : Float := 0
deriving Repr

namespace CompensatedSum

def add (s : CompensatedSum) (x : Float) : CompensatedSum :=
  let t := s.sum + x
  if s.sum.abs > x.abs then ⟨t, s.lost + ((s.sum - t) + x)⟩
  else ⟨t, s.lost + ((x - t) + s.sum)⟩

/-- An integer is cut in two when a real does not hold it for certain. -/
def isLarge (n : Int) : Bool :=
  n ≤ -4503599627370496 || 4503599627370496 ≤ n

def addInt (s : CompensatedSum) (n : Int) : CompensatedSum :=
  if isLarge n then
    let low := Int.tmod n 16384
    (s.add (Decimal.Binary64.ofInt low)).add (Decimal.Binary64.ofInt (n - low))
  else s.add (Decimal.Binary64.ofInt n)

def ofInt (n : Int) : CompensatedSum :=
  if isLarge n then
    let low := Int.tmod n 16384
    ⟨Decimal.Binary64.ofInt (n - low), Decimal.Binary64.ofInt low⟩
  else ⟨Decimal.Binary64.ofInt n, 0⟩

/-- The sum with what rounding lost. -/
def value (s : CompensatedSum) : Float :=
  if s.lost.isNaN then s.sum else s.sum + s.lost

end CompensatedSum

/-- What a function has seen of the rows so far. -/
structure Tally where
  count : Nat := 0
  /-- The sum while all values are integers and their sum is one. -/
  exact : Option Int := some 0
  approximate : CompensatedSum := {}
  /-- The sum of integers did not fit, and nothing but integers came. -/
  overflow : Bool := false
  extreme : Datum := .null

namespace Tally

def countRow (t : Tally) : Tally :=
  { t with count := t.count + 1 }

def addValue (t : Tally) (d : Datum) : Tally :=
  let t := t.countRow
  let d := match d with
    | .text s => Affinity.textToNumber s
    | d => d
  match t.exact, d with
  | some s, .integer n =>
      let sum := s + n.toInt
      if Int64.minValue.toInt ≤ sum && sum ≤ Int64.maxValue.toInt then
        { t with exact := some sum }
      else
        { t with
          exact := none, overflow := true,
          approximate := (CompensatedSum.ofInt s).addInt n.toInt }
  | some s, d =>
      { t with exact := none, approximate := (CompensatedSum.ofInt s).add d.toReal }
  | none, .integer n => { t with approximate := t.approximate.addInt n.toInt }
  | none, d => { t with overflow := false, approximate := t.approximate.add d.toReal }

/-- Takes the value of one row; `none` stands for the row itself. -/
def add (f : AggregateFunction) (c : Collation) (t : Tally) (d : Option Datum) : Tally :=
  match d with
  | none => t.countRow
  | some .null => t
  | some d =>
      match f with
      | .count => t.countRow
      | .max => { t with extreme :=
          if t.extreme.isNull || Datum.compare c d t.extreme = .gt then d else t.extreme }
      | .min => { t with extreme :=
          if t.extreme.isNull || Datum.compare c d t.extreme = .lt then d else t.extreme }
      | _ => t.addValue d

/-- The sum as a real. -/
def sumReal (t : Tally) : Float :=
  match t.exact with
  | some n => Decimal.Binary64.ofInt n
  | none => t.approximate.value

def result (f : AggregateFunction) (t : Tally) : Outcome Datum :=
  match f with
  | .count => .ok (.ofInt t.count)
  | .max => .ok t.extreme
  | .min => .ok t.extreme
  | .total => .ok (.ofReal t.sumReal)
  | .average =>
      .ok (if t.count = 0 then .null
        else .ofReal (t.sumReal / Decimal.Binary64.ofInt t.count))
  | .sum =>
      if t.count = 0 then .ok .null
      else if t.overflow then failure "integer overflow"
      else
        match t.exact with
        | some n => .ok (.ofInt n)
        | none => .ok (.ofReal t.approximate.value)

end Tally

end SqlDriver.Engine
