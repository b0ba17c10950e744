/-
# SqlDriver.Runner -- printing what statements yield

A statement without rows prints one line with its count; a query prints a line for each
row, its values between tabs.  Whatever way a query ends, its cursor is let go.
-/
import SqlDriver.Driver.Cursor
import SqlDriver.Script.Split

namespace SqlDriver

set_option autoImplicit false

/-- Why a statement stopped. -/
inductive RunError where
  | sql (e : Error)
  | write (reason : String)
deriving DecidableEq, Repr

namespace RunError

def message : RunError → String
  | sql e => e.message
  | write reason => "write failed: " ++ reason

end RunError

/-- Where lines are printed to: what has been printed, and how many octets fit. -/
structure Sink where
  printed : String := ""
  limit : Option Nat := none
deriving DecidableEq, Repr

/-- How results are printed. -/
structure Runner where
  /-- The names of the columns are printed in front of the rows. -/
  headers : Bool := false
  nullText : String := ""
deriving DecidableEq, Repr

abbrev Running := ExceptT RunError (StateM (State × Sink))

namespace Running

def perform {α : Type} (op : Op α) : Running α := do
  let (s, sink) ← get
  let (r, s) := StateT.run (ExceptT.run op) s
  set (s, sink)
  match r with
  | .ok a => return a
  | .error e => throw (.sql e)

/-- Prints a line, if it fits. -/
def line (text : String) : Running Unit := do
  let (s, sink) ← get
  let printed := sink.printed ++ text ++ "\n"
  if sink.limit.any (· < printed.utf8ByteSize) then throw (.write "sink is full")
  set (s, { sink with printed })

end Running

namespace Runner

/-- A value as it is printed. -/
def cell (r : Runner) : Value → String
  | .null => r.nullText
  | v => v.display

/-- A row as it is printed. -/
def row (r : Runner) (values : List Value) : String :=
  String.intercalate "\t" (values.map r.cell)

/-- Prints the rows of a cursor and yields their number. -/
def printRows (r : Runner) (k : Nat) : Nat → Nat → Running Nat
  | 0, _ => throw (.sql (.statement Engine.Flow.interrupted))
  | fuel + 1, count => do
      match ← Running.perform (Cursor.next k) with
      | none => return count
      | some values =>
          Running.line (r.row values)
          printRows r k fuel (count + 1)

def printCursor (r : Runner) (k : Nat) : Running Unit := do
  if r.headers then
    Running.line (String.intercalate "\t" (← Running.perform (Cursor.columnNames k)))
  let count ← printRows r k Engine.Flow.patience 0
  Running.perform (Op.tell (.queryFinished count))

/-- Runs a statement and prints what it yields. -/
def run (r : Runner) (c : Nat) (sql : String) : Running Unit := do
  match ← Running.perform (Connection.execute c sql) with
  | .count n => Running.line (toString n ++ " row(s) affected")
  | .cursor k =>
      tryCatch (r.printCursor k) fun e => do
        Running.perform (Cursor.release k)
        throw e
      Running.perform (Cursor.release k)

/-- Runs statements up to the first that fails. -/
def runAll (r : Runner) (c : Nat) : List String → Running Unit
  | [] => return ()
  | sql :: rest => do
      r.run c sql
      runAll r c rest

/-- Undoes what a failed run of statements left open. -/
def abandon (c : Nat) : Op Bool :=
  tryCatch (do
    Connection.setAutocommit c true
    return true) fun _ => return false

end Runner

end SqlDriver
