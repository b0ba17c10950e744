/-
# SqlDriver.Row -- where the values of a row are copied to

A row is copied into a target: by position into a list, by column name into a map,
or both ways into a record.  Slots are overwritten and never cleared, so a target
that is used again keeps what lies past the present row.  A mode selects positions,
names, both or neither.
-/
import SqlDriver.Value

namespace SqlDriver

set_option autoImplicit false

/-- Which slots of a target receive a row. -/
structure FetchMode where
  numeric : Bool
  named : Bool
deriving DecidableEq, Repr

namespace FetchMode

/-- Positions only. -/
def positions : FetchMode := ⟨true, false⟩

/-- Names only. -/
def names : FetchMode := ⟨false, true⟩

def both : FetchMode := ⟨true, true⟩

/-- A mode is written with the letter `n` for positions and `a` for names. -/
def ofText (s : String) : FetchMode :=
  ⟨s.toList.contains 'n', s.toList.contains 'a'⟩

end FetchMode

/-- Named values in the order in which the names first came up. -/
abbrev Fields := List (String × Value)

namespace Fields

/-- Stores a value under a name; a name that is present keeps its place. -/
def put (name : String) (value : Value) : Fields → Fields
  | [] => [(name, value)]
  | (k, v) :: r => if k = name then (k, value) :: r else (k, v) :: put name value r

def get? (name : String) (fields : Fields) : Option Value :=
  fields.lookup name

end Fields

/-- Stores a value at a position, with nulls up to it. -/
def putAt (values : List Value) (index : Nat) (value : Value) : List Value :=
  let padded := values ++ List.replicate (index + 1 - values.length) Value.null
  padded.set index value

/-- A row aggregate with positional and named slots. -/
structure Record where
  values : List Value := []
  fields : Fields := []
deriving DecidableEq, Repr

namespace Record

/-- The number of positional slots. -/
def size (r : Record) : Nat :=
  r.values.length

/-- Nothing has been stored. -/
def isEmpty (r : Record) : Bool :=
  r.values.isEmpty && r.fields.isEmpty

def get? (r : Record) (index : Nat) : Option Value :=
  r.values[index]?

def field? (r : Record) (name : String) : Option Value :=
  r.fields.get? name

end Record

/-- What a row can be copied into. -/
inductive Target where
  | list (values : List Value)
  | map (fields : Fields)
  | record (r : Record)
deriving DecidableEq, Repr

namespace Target

/-- Stores a value at a position, where the target has positions. -/
def setPosition (index : Nat) (value : Value) : Target → Target
  | list values => list (putAt values index value)
  | map fields => map fields
  | record r => record { r with values := putAt r.values index value }

/-- Stores a value under a name, where the target has names. -/
def setNamed (name : String) (value : Value) : Target → Target
  | list values => list values
  | map fields => map (fields.put name value)
  | record r => record { r with fields := r.fields.put name value }

/-- Copies the values to the positions from `index` on. -/
def setPositions (target : Target) (index : Nat) : List Value → Target
  | [] => target
  | v :: r => (target.setPosition index v).setPositions (index + 1) r

def setFields (target : Target) : List (String × Value) → Target
  | [] => target
  | (name, v) :: r => (target.setNamed name v).setFields r

/-- Copies a row with these column names.  A column without a value is null. -/
def receive (target : Target) (mode : FetchMode) (names : List String) (row : List Value) :
    Target :=
  let values := (List.range names.length).map fun i => row.getD i .null
  let target := if mode.numeric then target.setPositions 0 values else target
  if mode.named then target.setFields (names.zip values) else target

end Target

end SqlDriver
