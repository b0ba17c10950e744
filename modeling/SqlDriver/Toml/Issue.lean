/-
# SqlDriver.Toml.Issue -- why a document could not be read

An issue names the construct that was being read, the texts that could have stood
at the place, and a cause beyond the grammar.  A construct keeps the innermost
name.  A failure is final if no other reading of the place is tried.
-/

namespace SqlDriver.Toml

set_option autoImplicit false

/-- Why a reading failed. -/
structure Issue where
  /-- The innermost construct that was being read. -/
  construct : Option String := none
  /-- What could have stood there, innermost first. -/
  expected : List String := []
  /-- A cause that is not one of grammar. -/
  cause : Option String := none
deriving DecidableEq, Repr

namespace Issue

/-- The issue in words: a line for each part that is present. -/
def message (i : Issue) : String :=
  let named := i.construct.toList.map ("invalid " ++ ·)
  let wanted := if i.expected.isEmpty then [] else ["expected " ++ ", ".intercalate i.expected]
  "\n".intercalate (named ++ wanted ++ i.cause.toList)

/-- An issue whose only part is its cause. -/
def because (cause : String) : Issue :=
  { cause := some cause }

end Issue

/-- A failed reading. -/
structure Failure where
  issue : Issue
  /-- No other reading of the place is tried. -/
  final : Bool
deriving DecidableEq, Repr

/-! ## Readings

A reading answers a value from the front of a text with what follows it, or a
failure. -/

namespace Reading

/-- Nothing of the kind stands here. -/
def missing {α : Type} : Except Failure α :=
  .error ⟨{}, false⟩

/-- What stands here is beyond repair. -/
def refuse {α : Type} (issue : Issue) : Except Failure α :=
  .error ⟨issue, true⟩

def commit {α : Type} (r : Except Failure α) : Except Failure α :=
  r.mapError fun f => { f with final := true }

def named {α : Type} (name : String) (r : Except Failure α) : Except Failure α :=
  r.mapError fun f =>
    { f with issue := { f.issue with construct := f.issue.construct.or (some name) } }

/-- Adds what could have stood here to a failure. -/
def expecting {α : Type} (what : String) (r : Except Failure α) : Except Failure α :=
  r.mapError fun f => { f with issue := { f.issue with expected := f.issue.expected ++ [what] } }

/-- The second reading where the first failed and was not final. -/
def orElse {α : Type} (first : Except Failure α) (second : Unit → Except Failure α) :
    Except Failure α :=
  match first with
  | .error f => if f.final then .error f else second ()
  | .ok r => .ok r

def char (c : Char) : List Char → Except Failure (Unit × List Char)
  | d :: r => if d = c then .ok ((), r) else missing
  | [] => missing

end Reading

end SqlDriver.Toml
