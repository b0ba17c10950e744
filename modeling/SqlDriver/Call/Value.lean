/-
# SqlDriver.Call.Value -- looking at values and records

Every view of a value also has an answer where there is no value: the one for null.  A
value that is taken out of a record is a copy, which later fetches leave alone.
-/
import SqlDriver.Call.Cursor

namespace SqlDriver

set_option autoImplicit false

namespace Value

def kindView (v : Option Value) : Nat :=
  (v.map fun v => v.kind.number).getD 0

def nullView (v : Option Value) : Bool :=
  v.all isNull

/-- The value as an integer; zero if it is none. -/
def intView (v : Option Value) : Int64 :=
  (v.bind asInt).getD 0

/-- The value as a float; zero if it is none. -/
def floatView (v : Option Value) : Float :=
  (v.bind asFloat).getD 0

/-- The value as a text; empty for null. -/
def textView : Option Value → String
  | none => ""
  | some null => ""
  | some (blob bytes) => Text.Utf8.toStringLossy bytes
  | some v => v.display

/-- The value as octets; none if it has no octets. -/
def bytesView (v : Option Value) : List UInt8 :=
  (v.bind asBytes).getD []

end Value

namespace Call

def valueAt? (h : Heap) (a : Address) : Option Value :=
  match (h.get? a).map Object.body with
  | some (.value v) => some v
  | _ => none

def newObject (body : Body) : Call Address := do
  let h ← get
  let (a, heap) := h.heap.alloc body
  set { h with heap }
  return a

/-- The text of a value, as an object. -/
def valueText (a : Address) : Call Address := do
  newText (Value.textView (valueAt? (← get).heap a))

/-- The octets of a value, as an object. -/
def valueBytes (a : Address) : Call Address := do
  let h ← get
  let (b, heap) := h.heap.allocBytes (Value.bytesView (valueAt? h.heap a))
  set { h with heap }
  return b

def newRecord : Call Address :=
  newObject (.record {})

def recordSize (a : Address) : Call Nat := do
  return ((recordAt? (← get).heap a).map Record.size).getD 0

/-- A copy of the value at a position of a record. -/
def recordGet (a : Address) (index : Int64) : Call Address := do
  if index.toInt < 0 then return 0
  match (recordAt? (← get).heap a).bind fun r => r.get? index.toInt.toNat with
  | some v => newObject (.value v)
  | none => return 0

/-- A copy of the value under a name of a record. -/
def recordField (a name : Address) : Call Address := do
  let h := (← get).heap
  match (h.textAt? name).bind fun _ => (recordAt? h a).bind fun r => r.field? (h.stringAt name) with
  | some v => newObject (.value v)
  | none => return 0

/-- Takes one more reference to an object. -/
def retain (a : Address) : Call Unit :=
  modify fun h => { h with heap := h.heap.retain a }

/-- Gives up a reference to an object. -/
def release (a : Address) : Call Unit :=
  modify fun h => { h with heap := h.heap.release a }

/-- Gives up a row. -/
def releaseRow (a : Address) : Call Unit :=
  modify fun h => { h with heap := h.heap.releaseValues a }

end Call

end SqlDriver
