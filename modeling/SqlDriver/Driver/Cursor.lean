/-
# SqlDriver.Driver.Cursor -- fetching rows

A cursor loses its statement when it is closed, when its rows are exhausted, when a
step fails, and when its last holder lets go of it; each of these is counted at its
connection, once.  The names and types of its columns are those of the time when it was
opened.
-/
import SqlDriver.Driver.Connection
import SqlDriver.Row

namespace SqlDriver

set_option autoImplicit false

namespace Cursor

def isClosed (k : Cursor) : Bool :=
  k.run.isNone

def retain (k : Nat) : Op Unit :=
  Op.updateCursor k fun k => { k with holders := k.holders + 1 }

/-- Gives up the statement of a cursor. -/
def drop (k : Nat) (cursor : Cursor) (run : Nat) : Op Unit := do
  let session := ((← get).connections.get? cursor.connection).bind Connection.session
  if let some session := session then
    let _ ← Op.engine (Engine.Action.finalize session run)
  Op.updateCursor k fun k => { k with run := none }
  Connection.cursorClosed cursor.connection

/-- Lets go of a cursor.  With the last holder its statement goes, and its hold on the
connection. -/
def release (k : Nat) : Op Unit := do
  match (← get).cursors.get? k with
  | none => return ()
  | some cursor =>
      if 1 < cursor.holders then
        Op.updateCursor k fun k => { k with holders := k.holders - 1 }
      else
        if let some run := cursor.run then drop k cursor run
        modify fun s => { s with cursors := s.cursors.erase k }
        Connection.release cursor.connection

/-- The values of a row: one for each column, null where there is none. -/
def rowValues (cursor : Cursor) (row : Engine.Tuple) : List Value :=
  (List.range cursor.names.length).map fun i => (row.getD i .null).toValue

/-- The next row; `none` at the end. -/
def next (k : Nat) : Op (Option (List Value)) := do
  match (← get).cursors.get? k with
  | none => throw .cursorClosed
  | some cursor =>
      match cursor.run with
      | none => throw .cursorClosed
      | some run =>
          let session ← Connection.sessionOf cursor.connection
          match ← Op.engine (Engine.Action.step session run) with
          | .ok (some row) =>
              Op.tell (.rowFetched cursor.names.length)
              return some (rowValues cursor row)
          | .ok none =>
              drop k cursor run
              Op.tell .cursorExhausted
              return none
          | .error fault =>
              drop k cursor run
              Op.tell (.cursorFailed fault)
              throw (.statement fault)

/-- Copies the next row into a target; false at the end, where the target stays as it
is. -/
def fetchInto (k : Nat) (target : Target) (mode : FetchMode) : Op (Bool × Target) := do
  let names := (((← get).cursors.get? k).map Cursor.names).getD []
  match ← next k with
  | some row => return (true, target.receive mode names row)
  | none => return (false, target)

def columnNames (k : Nat) : Op (List String) := do
  match (← get).cursors.get? k with
  | some cursor => if cursor.isClosed then throw .cursorClosed else return cursor.names
  | none => throw .cursorClosed

def columnTypes (k : Nat) : Op (List (Option String)) := do
  match (← get).cursors.get? k with
  | some cursor => if cursor.isClosed then throw .cursorClosed else return cursor.types
  | none => throw .cursorClosed

/-- Closes a cursor; false if it was closed before. -/
def close (k : Nat) : Op Bool := do
  match (← get).cursors.get? k with
  | none => return false
  | some cursor =>
      match cursor.run with
      | none => return false
      | some run =>
          drop k cursor run
          Op.tell .cursorClosed
          return true

end Cursor

end SqlDriver
