/-
# SqlDriver.Engine.Numeral -- numbers in the engine's texts

The engine reads the longest numeric beginning of a text and says how much of the
text it covers (`RealReading.form`).  Reals are written with at most fifteen
significant digits and always with a point.
-/
import SqlDriver.Decimal.Extended
import SqlDriver.Engine.Datum

namespace SqlDriver.Engine

set_option autoImplicit false

/-! ## Octets -/

def isDigitOctet (b : UInt8) : Bool :=
  0x30 ≤ b && b ≤ 0x39

def isSpaceOctet (b : UInt8) : Bool :=
  b = 0x20 || (0x09 ≤ b && b ≤ 0x0D)

def digitOctetValue (b : UInt8) : Nat :=
  b.toNat - 0x30

def readSign : List UInt8 → Bool × List UInt8
  | b :: r => if b = 0x2D then (true, r) else if b = 0x2B then (false, r) else (false, b :: r)
  | [] => (false, [])

/-! ## Integers -/

/-- How an integer was read from a text. -/
inductive IntegerForm where
  /-- The whole text is the integer. -/
  | exact
  /-- More text follows, or there is no integer at all. -/
  | begins
  /-- The integer does not fit 64 bits. -/
  | tooLarge
deriving DecidableEq, Repr

/-- The integer at the front of a text, kept within 64 bits. -/
def readInteger (s : List UInt8) : Int64 × IntegerForm :=
  let (negative, r) := readSign (s.dropWhile isSpaceOctet)
  let ds := r.takeWhile isDigitOctet
  let rest := r.dropWhile isDigitOctet
  let n : Int := ds.foldl (fun n b => 10 * n + digitOctetValue b) 0
  let n := if negative then -n else n
  if n < Int64.minValue.toInt then (Int64.minValue, .tooLarge)
  else if Int64.maxValue.toInt < n then (Int64.maxValue, .tooLarge)
  else if ds.isEmpty || rest.any (!isSpaceOctet ·) then (Int64.ofInt n, .begins)
  else (Int64.ofInt n, .exact)

/-! ## Reals -/

/-- How a real was read from a text. -/
inductive RealForm where
  /-- The whole text is an integer. -/
  | integer
  /-- The whole text is a number with a point or an exponent. -/
  | real
  /-- A number with a point or an exponent begins the text. -/
  | beginsReal
  /-- The text is no number; an integer may begin it. -/
  | other
deriving DecidableEq, Repr

/-- The digits of a number, as far as 64 bits hold them. -/
structure Significand where
  digits : Nat := 0
  /-- The power of ten of the last digit kept. -/
  exponent : Int := 0
  /-- The number of digits seen that count. -/
  count : Nat := 0

/-- The largest significand that takes one more digit. -/
def significandLimit : Nat := (Nat.pow 2 64 - 1 - 9) / 10

/-- Takes a digit in front of the point. -/
def Significand.addWhole (s : Significand) (b : UInt8) : Significand :=
  if s.digits < significandLimit then
    { s with digits := 10 * s.digits + digitOctetValue b, count := s.count + 1 }
  else { s with exponent := s.exponent + 1 }

/-- Takes a digit behind the point. -/
def Significand.addPart (s : Significand) (b : UInt8) : Significand :=
  if s.digits < significandLimit then
    ⟨10 * s.digits + digitOctetValue b, s.exponent - 1, s.count + 1⟩
  else s

/-- Moves powers of ten from the exponent into the digits while they fit. -/
def absorb : Nat → Nat → Int → Nat × Int
  | 0, s, e => (s, e)
  | fuel + 1, s, e =>
      if 0 < e && s < (Nat.pow 2 64 - 1) / 10 then absorb fuel (s * 10) (e - 1)
      else if e < 0 && s % 10 = 0 then absorb fuel (s / 10) (e + 1)
      else (s, e)

/-- The double for digits and a power of ten. -/
def realOf (negative : Bool) (digits : Nat) (exponent : Int) : Float :=
  if digits = 0 then Decimal.Binary64.nearest negative 0 1
  else
    let (s, e) := absorb 40 digits exponent
    if e = 0 then Decimal.Binary64.nearest negative s 1
    else ((Decimal.Extended.ofNat s).scale e).toFloat negative

/-- The digits of an exponent, kept within bounds. -/
def exponentValue (ds : List UInt8) : Int :=
  ds.foldl (fun e b => if e < 10000 then 10 * e + digitOctetValue b else 10000) (0 : Int)

def readReal (s : List UInt8) : Float × RealForm :=
  let r := s.dropWhile isSpaceOctet
  if r.isEmpty then (0, .other)
  else
    let (negative, r) := readSign r
    let whole := r.takeWhile isDigitOctet
    let r := r.dropWhile isDigitOctet
    let sig := whole.foldl Significand.addWhole {}
    let (hasPoint, part, r) : Bool × List UInt8 × List UInt8 :=
      match r with
      | 0x2E :: r => (true, r.takeWhile isDigitOctet, r.dropWhile isDigitOctet)
      | r => (false, [], r)
    let sig := part.foldl Significand.addPart sig
    let (hasMark, valid, e, r) : Bool × Bool × Int × List UInt8 :=
      match r with
      | b :: r' =>
          if b = 0x65 || b = 0x45 then
            let (down, r') := readSign r'
            let ds := r'.takeWhile isDigitOctet
            let e := exponentValue ds
            (true, !ds.isEmpty, if down then -e else e, r'.dropWhile isDigitOctet)
          else (false, true, 0, b :: r')
      | [] => (false, true, 0, [])
    let ends := (r.dropWhile isSpaceOctet).isEmpty
    let x := realOf negative sig.digits (e + sig.exponent)
    let form : RealForm :=
      if ends && 0 < sig.count && valid then (if hasPoint || hasMark then .real else .integer)
      else if (hasPoint || hasMark) && ((hasPoint && hasMark) || valid) && 0 < sig.count then
        .beginsReal
      else .other
    (x, form)

/-! ## Writing reals -/

def decimalDigits (n : Nat) : List Nat :=
  (Nat.toDigits 10 n).map fun c => c.toNat - 48

/-- Rounds a row of digits to `size` of them; the flag says that the first digit moved
up by one place. -/
def roundDigits (ds : List Nat) (size : Nat) : List Nat × Bool :=
  if ds.length ≤ size then (ds, false)
  else
    let kept := (ds.take size).foldl (fun n d => 10 * n + d) 0
    let kept := if 5 ≤ ds.getD size 0 then kept + 1 else kept
    let out := decimalDigits kept
    if size < out.length then (out.take size, true) else (out, false)

/-- A row of digits without the zeros at its end. -/
def dropTrailingZeros (ds : List Nat) : List Nat :=
  (ds.reverse.dropWhile (· = 0)).reverse

def showDigits (ds : List Nat) : String :=
  String.ofList (ds.map Nat.digitChar)

/-- The text of a positive number from its digits and the place of its point. -/
def layoutReal (ds : List Nat) (point : Int) : String :=
  let e := point - 1
  if e < -4 || 14 < e then
    let part := ds.drop 1
    let mark := if e < 0 then "e-" else "e+"
    let n := e.natAbs
    showDigits (ds.take 1) ++ "." ++ (if part.isEmpty then "0" else showDigits part) ++ mark ++
      (if n < 10 then "0" else "") ++ toString n
  else if 0 < point then
    let whole := ds.take point.toNat
    let part := ds.drop point.toNat
    showDigits whole ++ String.ofList (List.replicate (point.toNat - whole.length) '0') ++ "." ++
      (if part.isEmpty then "0" else showDigits part)
  else
    "0." ++ String.ofList (List.replicate (-point).toNat '0') ++ showDigits ds

/-- The text of a real: at most fifteen significant digits. -/
def showReal (x : Float) : String :=
  match Decimal.Binary64.ofFloat x with
  | .nan => "NaN"
  | .infinite negative => if negative then "-Inf" else "Inf"
  | .finite negative m e =>
      if m = 0 then "0.0"
      else
        let (n, k) := (Decimal.Extended.nearest m 1 e).digits
        let ds := decimalDigits n
        let (rounded, moved) := roundDigits ds 15
        let point : Int := ds.length + k + (if moved then 1 else 0)
        (if negative then "-" else "") ++ layoutReal (dropTrailingZeros rounded) point

/-! ## Numbers of values -/

namespace Datum

/-- The octets of a value as a text; nothing for null. -/
def octets : Datum → List UInt8
  | null => []
  | integer n => Text.Utf8.ofString (toString n.toInt)
  | real x => Text.Utf8.ofString (showReal x)
  | text s => s
  | blob s => s

/-- The value as an integer; zero where it is none. -/
def toInteger : Datum → Int64
  | null => 0
  | integer n => n
  | real x => Decimal.Binary64.toInt64 x
  | text s => (readInteger s).1
  | blob s => (readInteger s).1

/-- The value as a real; zero where it is none. -/
def toReal : Datum → Float
  | null => 0
  | integer n => Decimal.Binary64.ofInt n.toInt
  | real x => x
  | text s => (readReal s).1
  | blob s => (readReal s).1

/-- The integer that a real stands for exactly, if 64 bits hold it and reals near it
are exact. -/
def integerOfReal? (x : Float) : Option Int64 :=
  let n := Decimal.Binary64.toInt64 x
  if Decimal.Binary64.ofInt n.toInt == x && n ≠ Int64.minValue && n ≠ Int64.maxValue then some n
  else none

/-- The number that a text stands for in arithmetic. -/
def numberOfText (s : List UInt8) : Datum :=
  match readReal s with
  | (x, .integer) =>
      match readInteger s with
      | (n, .exact) => integer n
      | _ => real x
  | (x, .other) =>
      match readInteger s with
      | (_, .tooLarge) => real x
      | (n, _) => integer n
  | (x, _) => real x

/-- The value as a number in arithmetic. -/
def toNumber : Datum → Datum
  | text s => numberOfText s
  | blob s => numberOfText s
  | d => d

/-- The value counts as true; `none` for null. -/
def truth? (d : Datum) : Option Bool :=
  match d with
  | null => none
  | integer n => some (n ≠ 0)
  | d => some (d.toReal != 0)

end Datum

end SqlDriver.Engine
