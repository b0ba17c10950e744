/-
# SqlDriver.Driver.Connection -- running statements and ending transactions

Outside of autocommit, ending a transaction begins the next one at once.  A connection
cannot be closed while the statement of a cursor of it is still there.
-/
import SqlDriver.Driver.Basic
import SqlDriver.Literal

namespace SqlDriver

set_option autoImplicit false

/-- What a statement comes to. -/
inductive Execution where
  /-- The number of rows changed. -/
  | count (changes : Nat)
  /-- A cursor that stands in front of the first row. -/
  | cursor (k : Nat)
deriving DecidableEq, Repr

namespace Connection

def isClosed (c : Connection) : Bool :=
  c.session.isNone

/-- The environment that a connection keeps alive. -/
def environment? (c : Connection) : Option Nat :=
  if c.keepsEnvironment then some c.environment else none

def sessionOf (c : Nat) : Op Nat := do
  match ((← get).connections.get? c).bind session with
  | some session => return session
  | none => throw .connectionClosed

def retain (c : Nat) : Op Unit :=
  Op.updateConnection c fun c => { c with holders := c.holders + 1 }

/-- Lets go of a connection.  The last holder closes it. -/
def release (c : Nat) : Op Unit := do
  match (← get).connections.get? c with
  | none => return ()
  | some connection =>
      if 1 < connection.holders then
        Op.updateConnection c fun c => { c with holders := c.holders - 1 }
      else
        if let some session := connection.session then
          let _ ← Op.engine (Engine.Action.disconnect session)
        modify fun s => { s with connections := s.connections.erase c }

def cursorOpened (c : Nat) : Op Unit :=
  Op.updateConnection c fun c => { c with openCursors := c.openCursors + 1 }

/-- Counts a cursor whose statement is gone. -/
def cursorClosed (c : Nat) : Op Unit :=
  Op.updateConnection c fun c => { c with openCursors := c.openCursors - 1 }

/-- The columns of a statement's rows. -/
def outputs (session run : Nat) : Op (List Engine.Binding.Output) := do
  let s ← get
  let found := (s.world.session? session).bind fun s => s.runs.get? run
  return (found.map fun r => r.prepared.outputs).getD []

def openCursor (c run : Nat) (columns : List Engine.Binding.Output) : Op Nat := do
  cursorOpened c
  retain c
  let s ← get
  let (k, cursors) := s.cursors.insert
    { run := some run, names := columns.map fun o => o.name, types := columns.map fun o => o.type,
      connection := c }
  set { s with cursors }
  return k

/-- Runs the statement at the front of a text.  One step shows whether it has rows; a
statement that has is set back, so that the cursor yields them from the first. -/
def execute (c : Nat) (sql : String) : Op Execution := do
  let session ← sessionOf c
  match ← Op.engine (Engine.Action.prepare session sql.toList) with
  | .error fault => throw (.statement fault)
  | .ok none => throw (.statement ⟨"statement contains no SQL", 21⟩)
  | .ok (some run) =>
      match ← Op.engine (Engine.Action.step session run) with
      | .error fault =>
          let _ ← Op.engine (Engine.Action.finalize session run)
          throw (.statement fault)
      | .ok _ =>
          let columns ← outputs session run
          if columns.isEmpty then
            let _ ← Op.engine (Engine.Action.finalize session run)
            let changes := (((← get).world.session? session).map fun s => s.changes).getD 0
            Op.tell (.statementExecuted changes)
            return .count changes
          let _ ← Op.engine (Engine.Action.reset session run)
          Op.tell (.cursorOpened columns.length)
          return .cursor (← openCursor c run columns)

def control (c : Nat) (cs : List Engine.Control) : Op (Except Fault Unit) := do
  Op.engine (Engine.Action.controls (← sessionOf c) cs)

/-- Ends the transaction, and begins the next one outside of autocommit. -/
def endTransaction (c : Nat) (how : Engine.Control) : Op Unit := do
  let manual := ((← get).connections.get? c).any fun c => !c.autocommit
  match ← control c (if manual then [how, .begin .deferred] else [how]) with
  | .ok () => return ()
  | .error fault => throw (.engine fault)

/-- Makes the transaction permanent. -/
def commit (c : Nat) : Op Unit :=
  endTransaction c .commit

def rollback (c : Nat) : Op Unit :=
  endTransaction c .rollback

/-- Turns autocommit on, which undoes an open transaction, or off, which begins one. -/
def setAutocommit (c : Nat) (enabled : Bool) : Op Unit := do
  let _ ← sessionOf c
  Op.updateConnection c fun c => { c with autocommit := enabled }
  if enabled then
    match ← control c [.rollback] with
    | .ok () => return ()
    | .error fault => Op.tell (.rollbackIgnored fault)
  else
    match ← control c [.begin .deferred] with
    | .ok () => return ()
    | .error fault => throw (.beginTransaction fault.message)

/-- Whether every statement is a transaction of its own. -/
def autocommit? (c : Nat) : Op Bool := do
  let _ ← sessionOf c
  return ((← get).connections.get? c).all Connection.autocommit

/-- A text as it stands inside of a literal.  This asks nothing of the connection, which may be
closed. -/
def escape (_c : Nat) (text : String) : Op String :=
  return Literal.escapeString text

/-- The number of the row that was inserted last. -/
def lastNumber (c : Nat) : Op Int64 := do
  let session ← sessionOf c
  return (((← get).world.session? session).map fun s => s.lastNumber).getD 0

/-- Closes a connection; false if it was closed before. -/
def close (c : Nat) : Op Bool := do
  match (← get).connections.get? c with
  | none => return false
  | some connection =>
      match connection.session with
      | none => return false
      | some session =>
          if 0 < connection.openCursors then throw .openCursors
          let _ ← Op.engine (Engine.Action.disconnect session)
          Op.updateConnection c fun c => { c with session := none, keepsEnvironment := false }
          Op.tell .connectionClosed
          return true

end Connection

end SqlDriver
