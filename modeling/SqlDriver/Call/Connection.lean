/-
# SqlDriver.Call.Connection -- running statements by handle
-/
import SqlDriver.Call.Basic

namespace SqlDriver.Call

set_option autoImplicit false

/-- Runs a statement: the outcome is a number of rows, or the handle of a cursor. -/
def execute (connection : Int64) (sql : Address) : Call Ended :=
  withEntry Host.connections connection refused fun e => do
    let sql ← textAt sql
    match ← perform (Connection.execute e.object sql) with
    | .ok (.count n) => return ⟨.ok, Int64.ofNat n⟩
    | .ok (.cursor k) =>
        let h ← get
        let (handle, cursors) := h.cursors.insert k e.errorPrefix
        set { h with cursors }
        return ⟨.cursor, Int64.ofNat handle⟩
    | .error error => report error e.errorPrefix

/-- Performs an operation that yields nothing; its success counts as one. -/
def complete (connection : Int64) (op : Nat → Op Unit) : Call Ended :=
  withEntry Host.connections connection refused fun e => do
    match ← perform (op e.object) with
    | .ok () => return ⟨.ok, 1⟩
    | .error error => report error e.errorPrefix

/-- Makes the transaction permanent. -/
def commit (connection : Int64) : Call Ended :=
  complete connection Connection.commit

def rollback (connection : Int64) : Call Ended :=
  complete connection Connection.rollback

/-- Turns autocommit on or off. -/
def setAutocommit (connection enabled : Int64) : Call Int64 :=
  withEntry Host.connections connection 0 fun e =>
    orRaise e (Connection.setAutocommit e.object (enabled ≠ 0)) 0 fun _ => return 1

/-- A text as it stands inside of a literal. -/
def escape (connection : Int64) (text : Address) : Call Address :=
  withEntry Host.connections connection 0 fun _ => do
    newText (Literal.escapeString (← textAt text))

/-- The number of the row that was inserted last. -/
def lastNumber (connection : Int64) : Call Int64 :=
  withEntry Host.connections connection 0 fun e =>
    orRaise e (Connection.lastNumber e.object) 0 fun n => return n

def closeConnection (connection : Int64) : Call Int64 :=
  withEntry Host.connections connection 0 fun e =>
    orRaise e (Connection.close e.object) 0 fun closed => return flag closed

/-- Gives up the handle of a connection, and with it its hold on the connection. -/
def releaseConnection (connection : Int64) : Call Int64 := do
  let h ← get
  let (object, connections) := h.connections.remove connection
  set { h with connections }
  if let some c := object then
    let _ ← perform (Connection.release c)
  return flag object.isSome

end SqlDriver.Call
