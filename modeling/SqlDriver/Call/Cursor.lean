/-
# SqlDriver.Call.Cursor -- fetching rows by handle

A fetched row is an array of values, which the program owns.  A record is filled in
place.
-/
import SqlDriver.Call.Basic

namespace SqlDriver.Call

set_option autoImplicit false

/-- Fetches the next row as an array of values. -/
def fetch (cursor : Int64) : Call Ended :=
  withEntry Host.cursors cursor refused fun e => do
    match ← perform (Cursor.next e.object) with
    | .ok (some row) =>
        let h ← get
        let (a, heap) := h.heap.allocValues row
        set { h with heap }
        return ⟨.ok, Heap.wordOf a⟩
    | .ok none => return ⟨.done, 0⟩
    | .error error => report error e.errorPrefix

/-- The mode that a text asks for; positions if it is empty or missing. -/
def modeOf (text : String) : FetchMode :=
  if text.isEmpty then .positions else .ofText text

def recordAt? (h : Heap) (a : Address) : Option Record :=
  match (h.get? a).map Object.body with
  | some (.record r) => some r
  | _ => none

def fetchInto (cursor : Int64) (record mode : Address) : Call Ended :=
  withEntry Host.cursors cursor refused fun e => do
    match recordAt? (← get).heap record with
    | none => raised (.invalidHandle "record" 0) e.errorPrefix
    | some r =>
        let mode := modeOf (← textAt mode)
        match ← perform (Cursor.fetchInto e.object (.record r) mode) with
        | .ok (true, target) =>
            modify fun h => { h with heap := h.heap.update record fun body =>
              match target with
              | .record r => .record r
              | _ => body }
            return ⟨.ok, 1⟩
        | .ok (false, _) => return ⟨.done, 0⟩
        | .error error => report error e.errorPrefix

/-- The names of the columns, as an array of texts. -/
def columnNames (cursor : Int64) : Call Address :=
  withEntry Host.cursors cursor 0 fun e =>
    orRaise e (Cursor.columnNames e.object) 0 fun names => do
      let h ← get
      let (a, heap) := h.heap.allocStrings names
      set { h with heap }
      return a

/-- The declared types of the columns, as an array of texts in which a missing one is no
object. -/
def columnTypes (cursor : Int64) : Call Address :=
  withEntry Host.cursors cursor 0 fun e =>
    orRaise e (Cursor.columnTypes e.object) 0 fun types => do
      let h ← get
      let (a, heap) := h.heap.allocArray types.length
      let heap := types.foldl (fun heap type =>
        match type with
        | none => heap.push a 0
        | some t =>
            let (s, heap) := heap.allocString t
            heap.push a (Heap.wordOf s)) heap
      set { h with heap }
      return a

def closeCursor (cursor : Int64) : Call Int64 :=
  withEntry Host.cursors cursor 0 fun e =>
    orRaise e (Cursor.close e.object) 0 fun closed => return flag closed

/-- Gives up the handle of a cursor, and with it its hold on the cursor. -/
def releaseCursor (cursor : Int64) : Call Int64 := do
  let h ← get
  let (object, cursors) := h.cursors.remove cursor
  set { h with cursors }
  if let some k := object then
    let _ ← perform (Cursor.release k)
  return flag object.isSome

end SqlDriver.Call
