/-
# SqlDriver.Exception -- the exception that waits to be caught

A function raises by putting an object and the number of its type into one slot and
answering a sentinel; the caller looks into the slot.  A new exception takes the
place of one that waits.
-/

namespace SqlDriver

set_option autoImplicit false

/-- An exception object. -/
structure Thrown where
  /-- Its message, if it has one. -/
  message : Option String
  code : Int64
deriving DecidableEq, Repr

/-- The place where an exception waits. -/
structure ExceptionSlot where
  object : Option Thrown := none
  type : Int64 := 0
deriving DecidableEq, Repr

namespace ExceptionSlot

def databaseError : Int64 := 7

def clear : ExceptionSlot := {}

/-- Raises a database error. -/
def throw (message : String) (code : Int64) : ExceptionSlot :=
  ⟨some ⟨some message, code⟩, databaseError⟩

/-- An exception waits. -/
def isPending (s : ExceptionSlot) : Bool :=
  s.object.isSome

end ExceptionSlot

end SqlDriver
