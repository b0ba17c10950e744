/-
# SqlDriver.Decimal.Extended -- numbers with a mantissa of 64 bits

The database engine converts between decimal texts and doubles through numbers with
64 bits of precision: it scales by powers of ten, rounding after each step, and
rounds to a double or cuts to an integer at the end.  `toFloat` and `digits` are
those two conversions, and their steps are part of the results.
-/
import SqlDriver.Decimal.Binary64

namespace SqlDriver.Decimal

set_option autoImplicit false

/-- A positive number `mantissa * 2 ^ exponent` whose mantissa has 64 bits. -/
structure Extended where
  mantissa : Nat
  exponent : Int
deriving DecidableEq, Repr

namespace Extended

/-- The number nearest to the positive fraction `num / den` times `2 ^ shift`. -/
def nearest (num den : Nat) (shift : Int) : Extended :=
  let e := Binary64.exponentFor 64 num den
  let m := Binary64.scaled num den e
  if m = Nat.pow 2 64 then ⟨Nat.pow 2 63, e + 1 + shift⟩ else ⟨m, e + shift⟩

def ofNat (n : Nat) : Extended :=
  nearest n 1 0

def tenTo (k : Int) : Extended :=
  if 0 ≤ k then nearest (Nat.pow 10 k.toNat) 1 0 else nearest 1 (Nat.pow 10 (-k).toNat) 0

def mul (a b : Extended) : Extended :=
  nearest (a.mantissa * b.mantissa) 1 (a.exponent + b.exponent)

/-- The first number is not above the second. -/
def le (a b : Extended) : Bool :=
  a.exponent < b.exponent || (a.exponent = b.exponent && a.mantissa ≤ b.mantissa)

def mulTimes (a factor : Extended) : Nat → Extended
  | 0 => a
  | n + 1 => (a.mul factor).mulTimes factor n

/-- Multiplies by `10 ^ e` in steps of a hundred, ten and one powers. -/
def scale (a : Extended) (e : Int) : Extended :=
  let n := e.natAbs
  let step (k : Int) : Extended := tenTo (if 0 ≤ e then k else -k)
  ((a.mulTimes (step 100) (n / 100)).mulTimes (step 10) (n % 100 / 10)).mulTimes (step 1) (n % 10)

def toFloat (negative : Bool) (a : Extended) : Float :=
  if 0 ≤ a.exponent then
    if 1100 < a.exponent then Binary64.infinity negative
    else Binary64.nearest negative (a.mantissa * Nat.pow 2 a.exponent.toNat) 1
  else if a.exponent < -1300 then Binary64.nearest negative 0 1
  else Binary64.nearest negative a.mantissa (Nat.pow 2 (-a.exponent).toNat)

def floor (a : Extended) : Nat :=
  if 0 ≤ a.exponent then a.mantissa * Nat.pow 2 a.exponent.toNat
  else a.mantissa / Nat.pow 2 (-a.exponent).toNat

/-- Multiplies by `10 ^ k` as long as `test` holds, and counts the powers. -/
def scaleWhile (test : Extended → Bool) (k : Int) : Nat → Extended × Int → Extended × Int
  | 0, s => s
  | fuel + 1, (a, n) =>
      if test a then scaleWhile test k fuel (a.mul (tenTo k), n - k) else (a, n)

/-- The significant digits of a number, 17 to 19 of them, and the exponent of the last. -/
def digits (a : Extended) : Nat × Int :=
  let above (k : Int) (a : Extended) : Bool := (tenTo k).le a
  let below (k : Int) (a : Extended) : Bool := !(tenTo k).le a
  let (a, e) :=
    if above 19 a then
      scaleWhile (above 19) (-1) 20 (scaleWhile (above 29) (-10) 20
        (scaleWhile (above 119) (-100) 20 (a, 0)))
    else
      scaleWhile (below 17) 1 20 (scaleWhile (below 7) 10 20
        (scaleWhile (below (-97)) 100 20 (a, 0)))
  (a.floor, e)

end Extended

end SqlDriver.Decimal
