/-
# SqlDriver.Call.Basic -- how calls of programs end

A program passes handles and addresses and receives the same.  A fatal error raises an
exception; the call then answers a sentinel, or says so in its outcome.  Any other
error is handed back as a text.  Nothing else touches the exception that may be
waiting.
-/
import SqlDriver.Call.Registry
import SqlDriver.Driver.Cursor
import SqlDriver.Exception
import SqlDriver.Heap.Array

namespace SqlDriver

set_option autoImplicit false

/-- What a program's calls act on. -/
structure Host where
  state : State := {}
  environments : Registry := { kind := "environment" }
  connections : Registry := { kind := "connection" }
  cursors : Registry := { kind := "cursor" }
  heap : Heap := {}
  exception : ExceptionSlot := {}

/-- The numbers of handles that stand for objects: of environments, connections and cursors. -/
def Host.liveHandles (h : Host) : Nat × Nat × Nat :=
  (h.environments.size, h.connections.size, h.cursors.size)

abbrev Call := StateM Host

/-- The ways in which a call with an outcome ends. -/
inductive Ending where
  | ok
  /-- The value is the address of a text that says what went wrong. -/
  | error
  /-- The value is the handle of a cursor. -/
  | cursor
  /-- No row is left. -/
  | done
  /-- An exception was raised. -/
  | raised
deriving DecidableEq, Repr

namespace Ending

/-- The number by which programs tell the endings apart. -/
def tag : Ending → Int
  | ok => 0
  | error => 1
  | cursor => 2
  | done => 3
  | raised => -1

end Ending

/-- How a call ends, with a value. -/
structure Ended where
  ending : Ending
  value : Int64
deriving DecidableEq, Repr

namespace Call

/-- The text in front of messages where no settings say otherwise. -/
def defaultPrefix : String :=
  ({} : Config).errorPrefix

def tell (e : Event) : Call Unit :=
  modify fun h => { h with state := { h.state with events := e :: h.state.events } }

def perform {α : Type} (op : Op α) : Call (Result α) := do
  let h ← get
  let (r, state) := StateT.run (ExceptT.run op) h.state
  set { h with state }
  return r

def raise (e : Error) (errorPrefix : String) : Call Unit := do
  tell (.raised e)
  modify fun h =>
    { h with exception := .throw (errorPrefix ++ e.message) (Int64.ofInt e.code) }

def raised (e : Error) (errorPrefix : String) : Call Ended := do
  raise e errorPrefix
  return ⟨.raised, 0⟩

def newText (s : String) : Call Address := do
  let h ← get
  let (a, heap) := h.heap.allocString s
  set { h with heap }
  return a

def textAt (a : Address) : Call String := do
  return (← get).heap.stringAt a

/-- Ends a call by an error: a fatal one is raised, any other handed back as a text. -/
def report (e : Error) (errorPrefix : String) : Call Ended := do
  if e.isFatal then raised e errorPrefix
  else
    tell (.returned e)
    let a ← newText (errorPrefix ++ e.message)
    return ⟨.error, Heap.wordOf a⟩

/-- Goes on with the object of a handle, or raises that there is none and answers a
sentinel. -/
def withEntry {α : Type} (registry : Host → Registry) (handle : Int64) (sentinel : α)
    (go : Entry → Call α) : Call α := do
  match (registry (← get)).get handle with
  | .ok e => go e
  | .error e =>
      raise e defaultPrefix
      return sentinel

/-- Answers what an operation yields, or raises its error and answers a sentinel. -/
def orRaise {α β : Type} (e : Entry) (op : Op α) (sentinel : β) (answer : α → Call β) :
    Call β := do
  match ← perform op with
  | .ok a => answer a
  | .error error =>
      raise error e.errorPrefix
      return sentinel

/-- The outcome of a call whose handle stands for nothing. -/
def refused : Ended := ⟨.raised, 0⟩

/-- A truth value as a number. -/
def flag (b : Bool) : Int64 :=
  if b then 1 else 0

end Call

end SqlDriver
