/-
# SqlDriver.Heap.Basic -- objects that programs hold by reference

A program holds texts, octets, arrays, values and records by address.  Each object
counts its references and is freed when the last one is given up; the address zero
stands for no object, and every operation allows it.  An array holds 64-bit words,
which are numbers or addresses of other objects.
-/
import SqlDriver.Pool
import SqlDriver.Row

namespace SqlDriver

set_option autoImplicit false

/-- Where an object lies; zero is nowhere. -/
abbrev Address := Nat

/-- What an object holds. -/
inductive Body where
  | text (octets : List UInt8)
  | array (words : List Int64) (capacity : Nat)
  | bytes (octets : List UInt8) (capacity : Nat)
  | value (v : Value)
  | record (r : Record)
deriving DecidableEq, Repr

namespace Body

/-- The number by which programs tell the kinds of object apart. -/
def tag : Body → Nat
  | text _ => 0
  | array .. => 1
  | bytes .. => 2
  | value _ => 3
  | record _ => 4

def tagName : Body → String
  | text _ => "String"
  | array .. => "Array"
  | bytes .. => "Bytes"
  | value _ => "SqlValue"
  | record _ => "SqlRecord"

end Body

/-- An object with its number of references. -/
structure Object where
  /-- The count has no bound here.  One of 64 bits is the same as long as fewer than `2 ^ 64`
  references are held at a time, and a reference takes eight octets wherever it is held. -/
  references : Nat := 1
  body : Body
deriving DecidableEq, Repr

/-- All live objects by address. -/
structure Heap where
  objects : Pool Object := {}
deriving DecidableEq, Repr

namespace Heap

def get? (h : Heap) (a : Address) : Option Object :=
  h.objects.get? a

def references? (h : Heap) (a : Address) : Option Nat :=
  (h.get? a).map Object.references

/-- Makes an object, with one reference. -/
def alloc (h : Heap) (body : Body) : Address × Heap :=
  let (a, objects) := h.objects.insert { body }
  (a, ⟨objects⟩)

/-- Changes what an object holds. -/
def update (h : Heap) (a : Address) (f : Body → Body) : Heap :=
  ⟨h.objects.modify a fun o => { o with body := f o.body }⟩

/-- Takes one more reference. -/
def retain (h : Heap) (a : Address) : Heap :=
  ⟨h.objects.modify a fun o => { o with references := o.references + 1 }⟩

/-- Gives up one reference; the last one frees the object. -/
def release (h : Heap) (a : Address) : Heap :=
  match h.get? a with
  | none => h
  | some o =>
      if o.references ≤ 1 then ⟨h.objects.erase a⟩
      else ⟨h.objects.modify a fun o => { o with references := o.references - 1 }⟩

/-! ## Texts and octets -/

/-- Makes a text of octets, which need not be valid UTF-8. -/
def allocText (h : Heap) (octets : List UInt8) : Address × Heap :=
  h.alloc (.text octets)

def allocString (h : Heap) (s : String) : Address × Heap :=
  h.allocText (Text.Utf8.ofString s)

def textAt? (h : Heap) (a : Address) : Option (List UInt8) :=
  match (h.get? a).map Object.body with
  | some (.text octets) => some octets
  | _ => none

/-- The string that a text is read as; no object reads as the empty one. -/
def stringAt (h : Heap) (a : Address) : String :=
  ((h.textAt? a).map Text.Utf8.toStringLossy).getD ""

/-- Both are no object, or both are texts with the same octets. -/
def sameText (h : Heap) (a b : Address) : Bool :=
  h.textAt? a = h.textAt? b

/-- Makes octets.  Empty ones have room for eight. -/
def allocBytes (h : Heap) (octets : List UInt8) : Address × Heap :=
  h.alloc (.bytes octets (if octets.isEmpty then 8 else octets.length))

/-- The octets of an object of octets. -/
def bytesAt? (h : Heap) (a : Address) : Option (List UInt8) :=
  match (h.get? a).map Object.body with
  | some (.bytes octets _) => some octets
  | _ => none

end Heap

end SqlDriver
