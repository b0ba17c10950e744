/-
# SqlDriver.Toml.Number -- integers, floats and dates

A number is tried as a date or time first, then as a float, then as an integer; the
issue of the last trial is the one reported, unless an earlier one is final.
Digits may be grouped with single underscores between two of them.
-/
import SqlDriver.Decimal.Reader
import SqlDriver.Toml.Text

namespace SqlDriver.Toml

set_option autoImplicit false

/-! ## Rows of digits -/

/-- The digits behind a first one, without the underscores between them. -/
def moreDigits (isDigit : Char → Bool) : List Char → Except Failure (List Char × List Char)
  | [] => .ok ([], [])
  | '_' :: r =>
      match r with
      | d :: r' =>
          if isDigit d then do
            let (ds, rest) ← moreDigits isDigit r'
            .ok (d :: ds, rest)
          else Reading.refuse { expected := ["digit"] }
      | [] => Reading.refuse { expected := ["digit"] }
  | c :: r =>
      if isDigit c then do
        let (ds, rest) ← moreDigits isDigit r
        .ok (c :: ds, rest)
      else .ok ([], c :: r)

def digits (isDigit : Char → Bool) : List Char → Except Failure (List Char × List Char)
  | c :: r =>
      if isDigit c then do
        let (ds, rest) ← moreDigits isDigit r
        .ok (c :: ds, rest)
      else Reading.missing
  | [] => Reading.missing

def sign : List Char → Option Char × List Char
  | '+' :: r => (some '+', r)
  | '-' :: r => (some '-', r)
  | r => (none, r)

/-! ## Integers -/

/-- A decimal integer as its sign and digits.  Behind a leading zero no digit is read. -/
def decimalDigits (s : List Char) : Except Failure ((Option Char × List Char) × List Char) :=
  let (mark, r) := sign s
  let body : Except Failure (List Char × List Char) :=
    match r with
    | '0' :: r => .ok (['0'], r)
    | r => digits Decimal.isDigit r
  Reading.named "integer" do
    let (ds, rest) ← body
    .ok ((mark, ds), rest)

/-- The integer as a value, if it fits 64 bits. -/
def integerValue (n : Int) (rest : List Char) : Except Failure (Node × List Char) :=
  if n < Int64.minValue.toInt then
    Reading.refuse (Issue.because "number too small to fit in target type")
  else if Int64.maxValue.toInt < n then
    Reading.refuse (Issue.because "number too large to fit in target type")
  else .ok (.integer (Int64.ofInt n), rest)

def basedInteger (name : String) (base : Nat) (isDigit : Char → Bool) (s : List Char) :
    Except Failure (Node × List Char) := do
  let (ds, rest) ← Reading.named name (Reading.commit (digits isDigit s))
  integerValue (ds.foldl (fun n c => base * n + hexDigitValue c) 0 : Nat) rest

def integer (s : List Char) : Except Failure (Node × List Char) :=
  match s with
  | '0' :: 'x' :: r => basedInteger "hexadecimal integer" 16 isHexDigit r
  | '0' :: 'o' :: r => basedInteger "octal integer" 8 (fun c => '0' ≤ c && c ≤ '7') r
  | '0' :: 'b' :: r => basedInteger "binary integer" 2 (fun c => c = '0' || c = '1') r
  | s => do
      let ((mark, ds), rest) ← decimalDigits s
      let n : Int := Decimal.valueOfDigits ds
      integerValue (if mark = some '-' then -n else n) rest

/-! ## Floats -/

def exponent : List Char → Except Failure (Int × List Char)
  | c :: r =>
      if c = 'e' || c = 'E' then do
        let (mark, r) := sign r
        let (ds, rest) ← Reading.commit (digits Decimal.isDigit r)
        let n : Int := Decimal.valueOfDigits ds
        .ok (if mark = some '-' then -n else n, rest)
      else Reading.missing
  | [] => Reading.missing

def fraction : List Char → Except Failure (List Char × List Char)
  | '.' :: r => Reading.expecting "digit" (Reading.commit (digits Decimal.isDigit r))
  | _ => Reading.missing

def finiteFloat (s : List Char) : Except Failure (Node × List Char) := do
  let ((mark, whole), r) ← decimalDigits s
  let ((part, e), rest) ← Reading.orElse
    (do
      let (e, rest) ← exponent r
      .ok (([], e), rest))
    (fun _ => do
      let (part, rest) ← fraction r
      Reading.orElse
        (do
          let (e, rest) ← exponent rest
          .ok ((part, e), rest))
        (fun _ => .ok ((part, 0), rest)))
  let x := Decimal.ofScientific (mark = some '-') (Decimal.valueOfDigits (whole ++ part))
    (e - part.length)
  if x == Decimal.Binary64.infinity false then Reading.refuse {} else .ok (.float x, rest)

def word (name : String) (node : Node) (s : List Char) : Except Failure (Node × List Char) :=
  if name.toList.isPrefixOf s then .ok (node, s.drop name.length) else Reading.missing

def namedFloat (s : List Char) : Except Failure (Node × List Char) :=
  let (mark, r) := sign s
  Reading.orElse (word "inf" (.float (Decimal.Binary64.infinity (mark = some '-'))) r)
    (fun _ => word "nan" (.float Decimal.Binary64.notANumber) r)

def float (s : List Char) : Except Failure (Node × List Char) :=
  Reading.named "floating-point number" (Reading.orElse (finiteFloat s) fun _ => namedFloat s)

/-! ## Dates and times -/

/-- The number in exactly so many digits. -/
def fixed (size : Nat) (s : List Char) : Except Failure (Nat × List Char) :=
  let ds := s.take size
  if ds.length = size && ds.all Decimal.isDigit then .ok (Decimal.valueOfDigits ds, s.drop size)
  else Reading.missing

def outOfRange : Issue :=
  Issue.because "value is out of range"

def twoDigits (low high : Nat) (s : List Char) : Except Failure (Nat × List Char) := do
  let (n, rest) ← fixed 2 s
  if low ≤ n ∧ n ≤ high then .ok (n, rest) else .error ⟨outOfRange, false⟩

def daysInMonth (year month : Nat) : Nat :=
  let leap := year % 4 = 0 ∧ (year % 100 ≠ 0 ∨ year % 400 = 0)
  if month = 2 then (if leap then 29 else 28)
  else if month = 4 ∨ month = 6 ∨ month = 9 ∨ month = 11 then 30
  else 31

def fullDate (s : List Char) : Except Failure (Unit × List Char) := do
  let (year, r) ← fixed 4 s
  let (_, r) ← Reading.char '-' r
  let (month, r) ← Reading.commit (twoDigits 1 12 r)
  let (_, r) ← Reading.commit (Reading.char '-' r)
  let (day, r) ← Reading.commit (twoDigits 1 31 r)
  if daysInMonth year month < day then Reading.refuse outOfRange else .ok ((), r)

/-- The fraction of a second, if there is one. -/
def secondFraction : List Char → List Char
  | '.' :: d :: r => if Decimal.isDigit d then r.dropWhile Decimal.isDigit else '.' :: d :: r
  | r => r

def partialTime (s : List Char) : Except Failure (Unit × List Char) := do
  let (_, r) ← twoDigits 0 23 s
  let (_, r) ← Reading.char ':' r
  let (_, r) ← Reading.commit (twoDigits 0 59 r)
  let (_, r) ← Reading.commit (Reading.char ':' r)
  let (_, r) ← Reading.commit (twoDigits 0 60 r)
  .ok ((), secondFraction r)

def timeOffset (s : List Char) : Except Failure (Unit × List Char) :=
  match s with
  | c :: r =>
      if c = 'Z' || c = 'z' then .ok ((), r)
      else if c = '+' || c = '-' then
        Reading.named "time offset" do
          let (_, r) ← Reading.commit (twoDigits 0 23 r)
          let (_, r) ← Reading.commit (Reading.char ':' r)
          let (_, r) ← Reading.commit (twoDigits 0 59 r)
          .ok ((), r)
      else Reading.missing
  | [] => Reading.missing

/-- A time behind a date, with an optional distance from universal time. -/
def timeBehindDate : List Char → Except Failure (Unit × List Char)
  | c :: r =>
      if c = 'T' || c = 't' || c = ' ' then do
        let (_, r) ← partialTime r
        Reading.orElse (timeOffset r) fun _ => .ok ((), r)
      else Reading.missing
  | [] => Reading.missing

def dateTime (s : List Char) : Except Failure (Node × List Char) := do
  let (_, r) ← Reading.orElse
    (Reading.named "date-time" do
      let (_, r) ← fullDate s
      Reading.orElse (timeBehindDate r) fun _ => .ok ((), r))
    (fun _ => Reading.named "time" (partialTime s))
  .ok (.dateTime, r)

def number (s : List Char) : Except Failure (Node × List Char) :=
  Reading.orElse (Reading.orElse (dateTime s) fun _ => float s) fun _ => integer s

end SqlDriver.Toml
