/-
# SqlDriver.Decimal.Binary64 -- the exact value of a double, and the double nearest to a fraction

A finite double is an integer times a power of two.  `Binary64.ofFloat` takes one
apart from its bits; `Binary64.nearest` goes the other way for any fraction of
natural numbers and rounds to nearest, a tie to the even neighbour.
-/

namespace SqlDriver.Decimal

set_option autoImplicit false

/-- What a double stands for. -/
inductive Binary64 where
  | nan
  | infinite (negative : Bool)
  /-- `mantissa * 2 ^ exponent`, with a sign. -/
  | finite (negative : Bool) (mantissa : Nat) (exponent : Int)
deriving DecidableEq, Repr

namespace Binary64

def minExponent : Int := -1074

def ofFloat (x : Float) : Binary64 :=
  let bits := x.toBits.toNat
  let negative : Bool := Nat.pow 2 63 ≤ bits
  let field : Nat := bits / Nat.pow 2 52 % Nat.pow 2 11
  let fraction : Nat := bits % Nat.pow 2 52
  if field = 2047 then
    if fraction = 0 then .infinite negative else .nan
  else if field = 0 then .finite negative fraction minExponent
  else .finite negative (fraction + Nat.pow 2 52) (field - 1075)

/-- A quotient rounded to nearest, a tie to the even neighbour. -/
def roundDiv (num den : Nat) : Nat :=
  let q := num / den
  let twice := 2 * (num % den)
  if twice < den ∨ (twice = den ∧ q % 2 = 0) then q else q + 1

/-- The fraction `num / den` times `2 ^ (-exponent)`, rounded to an integer. -/
def scaled (num den : Nat) (exponent : Int) : Nat :=
  if 0 ≤ exponent then roundDiv num (den * Nat.pow 2 exponent.toNat)
  else roundDiv (num * Nat.pow 2 (-exponent).toNat) den

/-- The exponent at which the fraction has a mantissa of `width` bits. -/
def exponentFor (width num den : Nat) : Int :=
  let guess : Int := (Nat.log2 num : Int) - Nat.log2 den - width
  let below : Bool :=
    if 0 ≤ guess then num < den * Nat.pow 2 (width + guess.toNat)
    else num * Nat.pow 2 (-guess).toNat < den * Nat.pow 2 width
  if below then guess else guess + 1

/-- Puts sign, mantissa below `2 ^ 53` and exponent together. -/
def pack (negative : Bool) (mantissa : Nat) (exponent : Int) : Float :=
  let bits :=
    if mantissa < Nat.pow 2 52 then mantissa
    else mantissa - Nat.pow 2 52 + (exponent + 1075).toNat * Nat.pow 2 52
  Float.ofBits (UInt64.ofNat (if negative then bits + Nat.pow 2 63 else bits))

def infinity (negative : Bool) : Float :=
  Float.ofBits (if negative then 0xFFF0000000000000 else 0x7FF0000000000000)

def notANumber : Float :=
  Float.ofBits 0x7FF8000000000000

def nearest (negative : Bool) (num den : Nat) : Float :=
  if num = 0 then pack negative 0 minExponent
  else
    let exponent := max (exponentFor 53 num den) minExponent
    let mantissa := scaled num den exponent
    let (mantissa, exponent) :=
      if mantissa = Nat.pow 2 53 then (Nat.pow 2 52, exponent + 1) else (mantissa, exponent)
    if 971 < exponent then infinity negative else pack negative mantissa exponent

def ofInt (n : Int) : Float :=
  nearest (n < 0) n.natAbs 1

/-- The integer part of a finite value, toward zero. -/
def truncate (negative : Bool) (mantissa : Nat) (exponent : Int) : Int :=
  let size :=
    if 0 ≤ exponent then mantissa * Nat.pow 2 exponent.toNat
    else mantissa / Nat.pow 2 (-exponent).toNat
  if negative then -size else size

/-- The nearest integer of 64 bits toward zero, and zero for no number. -/
def toInt64 (x : Float) : Int64 :=
  match ofFloat x with
  | .nan => 0
  | .infinite negative => if negative then Int64.minValue else Int64.maxValue
  | .finite negative mantissa exponent =>
      let n := truncate negative mantissa exponent
      Int64.ofInt (max Int64.minValue.toInt (min Int64.maxValue.toInt n))

end Binary64

end SqlDriver.Decimal
