/-
# SqlDriver.Text.Utf8 -- texts as octets, and octets read as a text

`encode` writes a text as UTF-8.  `decodeLossy` reads any octets: an octet
sequence that starts a character and is broken off becomes one replacement
character, and reading goes on at the octet that broke it.  `decode?` accepts only
what `encode` writes (`encode_of_decode?`).
-/

namespace SqlDriver.Text.Utf8

set_option autoImplicit false

/-- The octets of a text in UTF-8. -/
def encode (s : List Char) : List UInt8 :=
  s.flatMap String.utf8EncodeChar

/-- The character that stands for octets which are no text. -/
def replacement : Char := Char.ofNat 0xFFFD

/-- A character whose first octets have been read. -/
structure Pending where
  /-- How many octets are still owed. -/
  owed : Nat
  /-- The least value that the next octet may have. -/
  low : Nat
  /-- The greatest value that the next octet may have. -/
  high : Nat
  /-- The bits read so far. -/
  bits : Nat
deriving DecidableEq, Repr

/-- Reads an octet that stands between characters: what it yields at once, and the
character that it starts. -/
def begin (b : UInt8) : List Char × Option Pending :=
  let n := b.toNat
  if n < 0x80 then ([Char.ofNat n], none)
  else if n < 0xC2 then ([replacement], none)
  else if n < 0xE0 then ([], some ⟨1, 0x80, 0xBF, n - 0xC0⟩)
  else if n < 0xF0 then
    ([], some ⟨2, if n = 0xE0 then 0xA0 else 0x80, if n = 0xED then 0x9F else 0xBF, n - 0xE0⟩)
  else if n < 0xF5 then
    ([], some ⟨3, if n = 0xF0 then 0x90 else 0x80, if n = 0xF4 then 0x8F else 0xBF, n - 0xF0⟩)
  else ([replacement], none)

/-- Reads one octet after the pending ones. -/
def step (pending : Option Pending) (b : UInt8) : List Char × Option Pending :=
  match pending with
  | none => begin b
  | some p =>
      let n := b.toNat
      if p.low ≤ n ∧ n ≤ p.high then
        let bits := p.bits * 64 + (n - 0x80)
        if p.owed ≤ 1 then ([Char.ofNat bits], none)
        else ([], some ⟨p.owed - 1, 0x80, 0xBF, bits⟩)
      else
        let (out, next) := begin b
        (replacement :: out, next)

/-- The characters of the octets that follow the pending ones. -/
def decodeFrom : Option Pending → List UInt8 → List Char
  | none, [] => []
  | some _, [] => [replacement]
  | pending, b :: r =>
      let (out, next) := step pending b
      out ++ decodeFrom next r

/-- The text that any octets are read as. -/
def decodeLossy (bytes : List UInt8) : List Char :=
  decodeFrom none bytes

/-- The text whose octets these are. -/
def decode? (bytes : List UInt8) : Option (List Char) :=
  let s := decodeLossy bytes
  if encode s = bytes then some s else none

theorem encode_of_decode? {bytes : List UInt8} {s : List Char} (h : decode? bytes = some s) :
    encode s = bytes := by
  simp only [decode?] at h
  split at h
  · rename_i he
    cases h
    exact he
  · cases h

def ofString (s : String) : List UInt8 :=
  s.toUTF8.toList

/-- The string that any octets are read as. -/
def toStringLossy (bytes : List UInt8) : String :=
  String.ofList (decodeLossy bytes)

end SqlDriver.Text.Utf8
