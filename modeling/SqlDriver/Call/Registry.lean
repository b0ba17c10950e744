/-
# SqlDriver.Call.Registry -- objects by the handles that programs hold

A registry numbers its objects from one upwards and never gives out a handle twice.
Beside each object it keeps the text that stands in front of the messages of its
errors.  A handle that stands for nothing is refused by the kind of object that was
expected.
-/
import SqlDriver.Error
import SqlDriver.Pool

namespace SqlDriver

set_option autoImplicit false

/-- An object of a registry. -/
structure Entry where
  object : Nat
  /-- The text in front of the messages of its errors. -/
  errorPrefix : String
deriving DecidableEq, Repr

/-- Objects of one kind under handles. -/
structure Registry where
  /-- The name of the kind. -/
  kind : String
  entries : Pool Entry := {}
deriving DecidableEq, Repr

namespace Registry

/-- The entry of a handle, if it stands for one. -/
def find? (r : Registry) (handle : Int64) : Option Entry :=
  if handle.toInt ≤ 0 then none else r.entries.get? handle.toInt.toNat

/-- The entry of a handle, or what is refused. -/
def get (r : Registry) (handle : Int64) : Result Entry :=
  match r.find? handle with
  | some e => .ok e
  | none => .error (.invalidHandle r.kind handle)

/-- Stores an object under a fresh handle. -/
def insert (r : Registry) (object : Nat) (errorPrefix : String) : Nat × Registry :=
  let (handle, entries) := r.entries.insert ⟨object, errorPrefix⟩
  (handle, { r with entries })

def remove (r : Registry) (handle : Int64) : Option Nat × Registry :=
  match r.find? handle with
  | some e => (some e.object, { r with entries := r.entries.erase handle.toInt.toNat })
  | none => (none, r)

theorem remove_of_live {r : Registry} {handle : Int64} {e : Entry}
    (live : r.find? handle = some e) :
    r.remove handle = (some e.object, (r.remove handle).2) := by
  rw [remove, live]

theorem remove_of_missing {r : Registry} {handle : Int64} (missing : r.find? handle = none) :
    r.remove handle = (none, r) := by
  rw [remove, missing]

def size (r : Registry) : Nat :=
  r.entries.size

end Registry

end SqlDriver
