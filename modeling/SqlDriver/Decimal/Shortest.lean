/-
# SqlDriver.Decimal.Shortest -- the fewest digits that read back as the same double

Between a double and its neighbours lie the reals that round to it; the ends
belong to it if its mantissa is even.  `shortest` looks for the coarsest decimal
grid with a point in that interval and takes the point nearest to the double, the
upper one of two at the same distance.
-/
import SqlDriver.Decimal.Binary64

namespace SqlDriver.Decimal

set_option autoImplicit false

/-- The reals that round to a double, over one denominator. -/
structure Interval where
  low : Nat
  value : Nat
  high : Nat
  den : Nat
  /-- The ends belong to the interval. -/
  closed : Bool

/-- The interval of the double `mantissa * 2 ^ exponent`. -/
def Interval.ofBinary (mantissa : Nat) (exponent : Int) : Interval :=
  let below := if mantissa = Nat.pow 2 52 ∧ Binary64.minExponent < exponent then 1 else 2
  let up := exponent.toNat
  let down := (-exponent).toNat
  { low := (4 * mantissa - below) * Nat.pow 2 up
    value := 4 * mantissa * Nat.pow 2 up
    high := (4 * mantissa + 2) * Nat.pow 2 up
    den := 4 * Nat.pow 2 down
    closed := mantissa % 2 = 0 }

def Interval.contains (i : Interval) (num den : Nat) : Bool :=
  let n := num * i.den
  if i.closed then i.low * den ≤ n && n ≤ i.high * den
  else i.low * den < n && n < i.high * den

/-- The point of the grid of multiples of `10 ^ k` that stands for the double, as
a multiple. -/
def Interval.onGrid (i : Interval) (k : Int) : Option Nat :=
  let num := i.value * Nat.pow 10 (-k).toNat
  let den := i.den * Nat.pow 10 k.toNat
  let lower := num / den
  let holds (n : Nat) : Bool := i.contains (n * Nat.pow 10 k.toNat) (Nat.pow 10 (-k).toNat)
  let upperNearer : Bool := den ≤ 2 * (num % den)
  if upperNearer && holds (lower + 1) then some (lower + 1)
  else if lower ≠ 0 && holds lower then some lower
  else if holds (lower + 1) then some (lower + 1)
  else none

/-- The first grid with a point, from the grid of `10 ^ k` on to `fuel` finer ones. -/
def Interval.coarsest (i : Interval) : Nat → Int → Nat × Int
  | 0, k => (i.value * Nat.pow 10 (-k).toNat / i.den, k)
  | fuel + 1, k =>
      match i.onGrid k with
      | some n => (n, k)
      | none => i.coarsest fuel (k - 1)

/-- The decimal exponent above the largest digit of a fraction, or one more. -/
def magnitude (num den : Nat) : Int :=
  let bits : Int := (Nat.log2 num : Int) - Nat.log2 den + 1
  bits * 30103 / 100000 + 1

/-- Shortest digits `n` and exponent `k` with `n * 10 ^ k` for a positive finite double. -/
def shortest (mantissa : Nat) (exponent : Int) : Nat × Int :=
  let i := Interval.ofBinary mantissa exponent
  i.coarsest 20 (magnitude i.value i.den)

/-- The digits of a positive number times a power of ten, without an exponent. -/
def positional (digits : Nat) (exponent : Int) : String :=
  if 0 ≤ exponent then toString (digits * Nat.pow 10 exponent.toNat)
  else
    let places := (-exponent).toNat
    let whole := digits / Nat.pow 10 places
    let part := (Nat.toDigits 10 (digits % Nat.pow 10 places))
    let part := List.replicate (places - part.length) '0' ++ part
    toString whole ++ "." ++ String.ofList part

/-- The text of a double: its fewest digits, never with an exponent, and no point
in an integer. -/
def ofFloat (x : Float) : String :=
  match Binary64.ofFloat x with
  | .nan => "NaN"
  | .infinite negative => if negative then "-inf" else "inf"
  | .finite negative mantissa exponent =>
      let size :=
        if mantissa = 0 then "0"
        else
          let (digits, k) := shortest mantissa exponent
          positional digits k
      if negative then "-" ++ size else size

end SqlDriver.Decimal
