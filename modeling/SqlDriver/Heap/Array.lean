/-
# SqlDriver.Heap.Array -- arrays of words

An array grows by doubling its capacity when it is full.  Reading outside of it, or
where there is no array, answers zero.  An array whose words are addresses is given
up together with its elements: they lose one reference each when the array is freed,
and none before.
-/
import SqlDriver.Heap.Basic

namespace SqlDriver.Heap

set_option autoImplicit false

/-- The capacity of a new array: room for some words, and for four if none are asked for. -/
def initialCapacity (capacity : Nat) : Nat :=
  if capacity = 0 then 4 else capacity

/-- The capacity that holds one more word beside `length`. -/
def grow (capacity length : Nat) : Nat :=
  if capacity ≤ length then capacity * 2 else capacity

def wordOf (a : Address) : Int64 :=
  Int64.ofNat a

def addressOf (w : Int64) : Address :=
  w.toNatClampNeg

/-- Makes an array without words. -/
def allocArray (h : Heap) (capacity : Nat) : Address × Heap :=
  h.alloc (.array [] (initialCapacity capacity))

def wordsAt? (h : Heap) (a : Address) : Option (List Int64) :=
  match (h.get? a).map Object.body with
  | some (.array words _) => some words
  | _ => none

def capacityAt? (h : Heap) (a : Address) : Option Nat :=
  match (h.get? a).map Object.body with
  | some (.array _ capacity) => some capacity
  | _ => none

/-- The number of words of an array. -/
def length (h : Heap) (a : Address) : Nat :=
  ((h.wordsAt? a).map List.length).getD 0

/-- The word at an index; zero outside. -/
def word (h : Heap) (a : Address) (index : Int64) : Int64 :=
  if index.toInt < 0 then 0
  else ((h.wordsAt? a).bind (·[index.toInt.toNat]?)).getD 0

/-- Adds a word at the end of an array. -/
def push (h : Heap) (a : Address) (w : Int64) : Heap :=
  h.update a fun
    | .array words capacity => .array (words ++ [w]) (grow capacity words.length)
    | body => body

/-- Adds words at the end of an array. -/
def pushAll (h : Heap) (a : Address) (ws : List Int64) : Heap :=
  ws.foldl (fun h w => h.push a w) h

/-- Makes an array of new objects. -/
def allocArrayOf (h : Heap) (bodies : List Body) : Address × Heap :=
  let (a, h) := h.allocArray bodies.length
  (a, bodies.foldl
    (fun h body =>
      let (e, h) := h.alloc body
      h.push a (wordOf e)) h)

/-- Makes an array of texts. -/
def allocStrings (h : Heap) (items : List String) : Address × Heap :=
  h.allocArrayOf (items.map fun s => .text (Text.Utf8.ofString s))

def allocValues (h : Heap) (row : List Value) : Address × Heap :=
  h.allocArrayOf (row.map .value)

/-- Gives up one reference to each element. -/
def releaseElements (h : Heap) (words : List Int64) : Heap :=
  words.foldl (fun h w => if w = 0 then h else h.release (addressOf w)) h

/-- Gives up an array of texts: the array first, then its elements if it was freed. -/
def releaseStrings (h : Heap) (a : Address) : Heap :=
  let words := (h.wordsAt? a).getD []
  let h := h.release a
  if (h.get? a).isNone then h.releaseElements words else h

/-- Gives up an array of values: the elements first if this is the last reference,
then the array. -/
def releaseValues (h : Heap) (a : Address) : Heap :=
  let words := (h.wordsAt? a).getD []
  let h := if h.references? a = some 1 then h.releaseElements words else h
  h.release a

end SqlDriver.Heap
