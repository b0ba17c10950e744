/-
# SqlDriver.Proofs.Driver.Command -- what a program asks of the driver

`Command` lists the driver's operations as a program calls them, and `State.after` is the
state that a run of them leaves: failing ones included, in any order.  A program lets go
of a connection only while it has a hold on it itself; the cursors have holds of their own.
What connecting and executing a text come to is said once, by cases (`Environment.Connects`,
`Executed`).
-/
import SqlDriver.Proofs.Effect

namespace SqlDriver

set_option autoImplicit false

/-! ## Objects by their numbers -/

def sessionAt (cs : Pool Connection) (c : Nat) : Option Nat :=
  (cs.get? c).bind Connection.session

/-- The connection and the statement of an open cursor. -/
def statementAt (ks : Pool Cursor) (k : Nat) : Option (Nat × Nat) :=
  (ks.get? k).bind fun cursor => cursor.run.map fun run => (cursor.connection, run)

/-- The cursor belongs to a connection. -/
def Cursor.isOf (c : Nat) (cursor : Cursor) : Bool :=
  cursor.connection = c

/-- The cursor belongs to a connection, and its statement is still there. -/
def Cursor.isOpenOf (c : Nat) (cursor : Cursor) : Bool :=
  cursor.isOf c && !cursor.isClosed

/-- A change of a connection that keeps its session keeps every session. -/
theorem sessionAt_modify (cs : Pool Connection) (c d : Nat) (f : Connection → Connection)
    (same : ∀ connection, (f connection).session = connection.session) :
    sessionAt (cs.modify c f) d = sessionAt cs d := by
  rw [sessionAt, Pool.get?_modify]
  split
  · cases found : cs.get? d <;> simp [sessionAt, found, same]
  · rfl

theorem sessionAt_of_modify {cs : Pool Connection} {c d id : Nat} {f : Connection → Connection}
    (kept : ∀ connection, (f connection).session = some id → connection.session = some id)
    (there : sessionAt (cs.modify c f) d = some id) : sessionAt cs d = some id := by
  rw [sessionAt, Pool.get?_modify] at there
  split at there
  · cases found : cs.get? d with
    | none => simp [found] at there
    | some connection =>
        simpa [sessionAt, found] using kept connection (by simpa [found] using there)
  · exact there

/-! ## What operations do -/

/-- The columns of a statement; none if there is no such statement. -/
def Engine.World.outputs (w : Engine.World) (id run : Nat) : List Engine.Binding.Output :=
  (((w.session? id).bind fun s => s.runs.get? run).map fun r => r.prepared.outputs).getD []

/-- The cursor that is opened for a statement of a connection. -/
def Connection.cursorOver (c run : Nat) (columns : List Engine.Binding.Output) : Cursor :=
  { run := some run, names := columns.map fun o => o.name, types := columns.map fun o => o.type,
    connection := c }

section Answers

variable {α : Type} (s : State)

@[simp] theorem exec_engine (a : Engine.Action α) :
    exec (Op.engine a) s = (.ok (exec a s.world).1, { s with world := (exec a s.world).2 }) := rfl

@[simp] theorem exec_tell (e : Event) :
    exec (Op.tell e) s = (.ok (), { s with events := e :: s.events }) := rfl

@[simp] theorem exec_updateConnection (c : Nat) (f : Connection → Connection) :
    exec (Op.updateConnection c f) s =
      (.ok (), { s with connections := s.connections.modify c f }) := rfl

@[simp] theorem exec_updateCursor (k : Nat) (f : Cursor → Cursor) :
    exec (Op.updateCursor k f) s = (.ok (), { s with cursors := s.cursors.modify k f }) := rfl

theorem exec_outputs (id run : Nat) :
    exec (Connection.outputs id run) s = (.ok (s.world.outputs id run), s) := rfl

/-- A cursor that is opened is counted by its connection, which it holds. -/
theorem exec_openCursor (c run : Nat) (columns : List Engine.Binding.Output) :
    exec (Connection.openCursor c run columns) s =
      (.ok s.cursors.next, { s with
        connections := s.connections.modify c fun connection => { connection with
          openCursors := connection.openCursors + 1, holders := connection.holders + 1 }
        cursors := (s.cursors.insert (Connection.cursorOver c run columns)).2 }) := by
  have both := s.connections.modify_modify c
    (fun connection => { connection with openCursors := connection.openCursors + 1 })
    (fun connection => { connection with holders := connection.holders + 1 })
  simp only [Connection.openCursor, Connection.cursorOpened, Connection.retain, exec_bind,
    exec_updateConnection, exec_get, exec_set, exec_pure, both]
  rfl

theorem exec_sessionOf (c : Nat) :
    exec (Connection.sessionOf c) s =
      match sessionAt s.connections c with
      | some id => (.ok id, s)
      | none => (.error .connectionClosed, s) := by
  unfold Connection.sessionOf
  rw [exec_bind, exec_get]
  dsimp only [sessionAt]
  cases (s.connections.get? c).bind Connection.session <;> rfl

/-- Copying the next row into a target is fetching it. -/
theorem exec_fetchInto (k : Nat) (target : Target) (mode : FetchMode) :
    exec (Cursor.fetchInto k target mode) s =
      ((exec (Cursor.next k) s).1.map fun row => row.elim (false, target) fun row =>
        (true, target.receive mode (((s.cursors.get? k).map Cursor.names).getD []) row),
      (exec (Cursor.next k) s).2) := by
  unfold Cursor.fetchInto
  rw [exec_bind, exec_get]
  dsimp only
  rw [exec_bind]
  rcases exec (Cursor.next k) s with ⟨e | _ | row, t⟩ <;> rfl

end Answers

/-! ## Connecting -/

section Connecting

open Engine

/-- What comes of connecting: an environment that is open asks the engine for a session, tells it
how long to wait, and gives it up again where it cannot wait so long. -/
inductive Environment.Connects (s : State) (e : Nat) (source : String) (timeout : Option Nat) :
    Except Error Environment.Connected × State → Prop where
  | closed (gone : (s.environments.get? e).all Environment.closed) :
      Environment.Connects s e source timeout (.error .environmentClosed, s)
  | refused {env : Environment} {fault : Fault} {w : World}
      (found : s.environments.get? e = some env) (isOpen : env.closed = false)
      (answer : exec (Action.connect (Environment.openMode env.config) source) s.world =
        (.error fault, w)) :
      Environment.Connects s e source timeout (.error (.engine fault), { s with world := w })
  | crashed {env : Environment} {id : Nat} {w : World}
      (found : s.environments.get? e = some env) (isOpen : env.closed = false)
      (answer : exec (Action.connect (Environment.openMode env.config) source) s.world =
        (.ok id, w))
      (overlong : (timeout.orElse fun _ => env.config.busyTimeout).any
        (Environment.longestTimeout < ·)) :
      Environment.Connects s e source timeout
        (.ok .crashed, { s with world := (exec (Action.disconnect id) w).2 })
  | opened {env : Environment} {id : Nat} {w : World}
      (found : s.environments.get? e = some env) (isOpen : env.closed = false)
      (answer : exec (Action.connect (Environment.openMode env.config) source) s.world =
        (.ok id, w))
      (bearable : ¬(timeout.orElse fun _ => env.config.busyTimeout).any
        (Environment.longestTimeout < ·)) :
      Environment.Connects s e source timeout (.ok (.connection s.connections.next), { s with
        world := (exec (Action.setTimeout id
          (timeout.orElse fun _ => env.config.busyTimeout)) w).2
        events := .connectionOpened source timeout :: s.events
        connections := (s.connections.insert { session := some id, environment := e }).2 })

theorem Environment.connects (s : State) (e : Nat) (source : String) (timeout : Option Nat) :
    Environment.Connects s e source timeout (exec (Environment.connect e source timeout) s) := by
  unfold Environment.connect
  rw [exec_bind, exec_get]
  dsimp only
  cases found : s.environments.get? e with
  | none => exact .closed (by rw [found]; rfl)
  | some env =>
      dsimp only
      cases gone : env.closed with
      | true => exact .closed (by rw [found, Option.all_some, gone])
      | false =>
          rw [if_neg Bool.false_ne_true, exec_bind, exec_engine]
          rcases answer : exec (Action.connect (Environment.openMode env.config) source) s.world
            with ⟨fault | id, w⟩ <;> dsimp only
          · exact .refused found gone answer
          · split
            · next overlong => exact .crashed found gone answer overlong
            · next bearable => exact .opened found gone answer bearable

end Connecting

/-! ## Executing a text -/

section Executing

open Engine

/-- What comes of executing a text on a connection with a session: it is made ready, stepped once,
and then given up, or set back under a cursor. -/
inductive Executed (s : State) (c id : Nat) (sql : String) :
    Except Error Execution × State → Prop where
  | unprepared {fault : Fault} {w : World}
      (prepared : exec (Action.prepare id sql.toList) s.world = (.error fault, w)) :
      Executed s c id sql (.error (.statement fault), { s with world := w })
  | blank {w : World}
      (prepared : exec (Action.prepare id sql.toList) s.world = (.ok none, w)) :
      Executed s c id sql
        (.error (.statement ⟨"statement contains no SQL", 21⟩), { s with world := w })
  | failed {run : Nat} {ready v : World} {fault : Fault}
      (prepared : exec (Action.prepare id sql.toList) s.world = (.ok (some run), ready))
      (stepped : exec (Action.step id run) ready = (.error fault, v)) :
      Executed s c id sql (.error (.statement fault),
        { s with world := (exec (Action.finalize id run) v).2 })
  | counted {run : Nat} {ready v : World} {x : Option Tuple}
      (prepared : exec (Action.prepare id sql.toList) s.world = (.ok (some run), ready))
      (stepped : exec (Action.step id run) ready = (.ok x, v))
      (bare : v.outputs id run = []) (changes : Nat) :
      Executed s c id sql (.ok (.count changes), { s with
        world := (exec (Action.finalize id run) v).2
        events := .statementExecuted changes :: s.events })
  | opened {run : Nat} {ready v : World} {x : Option Tuple}
      (prepared : exec (Action.prepare id sql.toList) s.world = (.ok (some run), ready))
      (stepped : exec (Action.step id run) ready = (.ok x, v))
      (columns : v.outputs id run ≠ []) :
      Executed s c id sql (.ok (.cursor s.cursors.next), { s with
        world := (exec (Action.reset id run) v).2
        events := .cursorOpened (v.outputs id run).length :: s.events
        connections := s.connections.modify c fun connection => { connection with
          openCursors := connection.openCursors + 1, holders := connection.holders + 1 }
        cursors := (s.cursors.insert (Connection.cursorOver c run (v.outputs id run))).2 })

/-- What executing comes to on a connection that has a session. -/
theorem executed_of_session {s : State} {c id : Nat} (sql : String)
    (session : sessionAt s.connections c = some id) :
    Executed s c id sql (exec (Connection.execute c sql) s) := by
  unfold Connection.execute
  rw [exec_bind, exec_sessionOf, session]
  dsimp only
  rw [exec_bind, exec_engine]
  rcases prepared : exec (Action.prepare id sql.toList) s.world with
    ⟨fault | _ | run, ready⟩
  · exact .unprepared prepared
  · exact .blank prepared
  dsimp only
  rw [exec_bind, exec_engine]
  dsimp only
  rcases stepped : exec (Action.step id run) ready with ⟨fault | x, v⟩
  · exact .failed prepared stepped
  dsimp only
  rw [exec_bind, exec_outputs]
  dsimp only
  by_cases bare : (v.outputs id run).isEmpty
  · rw [if_pos bare]
    exact .counted prepared stepped (List.isEmpty_iff.1 bare) _
  · rw [if_neg bare, exec_bind, exec_engine]
    dsimp only
    rw [exec_bind, exec_tell]
    dsimp only
    rw [exec_bind, exec_openCursor]
    exact .opened prepared stepped (mt List.isEmpty_iff.2 bare)

end Executing

/-! ## Closed connections and cursors -/

section Closed

variable {α : Type} {s : State} {c k : Nat}

section Connections

variable (closed : sessionAt s.connections c = none)

include closed

/-- What asks for the session of a closed connection fails, and does nothing else. -/
theorem sessionOf_bind_of_closed (rest : Nat → Op α) :
    exec (Connection.sessionOf c >>= rest) s = (.error .connectionClosed, s) := by
  rw [exec_bind, exec_sessionOf, closed]

theorem exec_execute_of_closed (sql : String) :
    exec (Connection.execute c sql) s = (.error .connectionClosed, s) :=
  sessionOf_bind_of_closed closed _

theorem exec_setAutocommit_of_closed (enabled : Bool) :
    exec (Connection.setAutocommit c enabled) s = (.error .connectionClosed, s) :=
  sessionOf_bind_of_closed closed _

theorem exec_endTransaction_of_closed (how : Engine.Control) :
    exec (Connection.endTransaction c how) s = (.error .connectionClosed, s) := by
  unfold Connection.endTransaction Connection.control
  rw [exec_bind, exec_get]
  dsimp only
  rw [exec_bind, sessionOf_bind_of_closed closed]

theorem exec_closeConnection_of_closed : exec (Connection.close c) s = (.ok false, s) := by
  unfold Connection.close
  rw [exec_bind, exec_get]
  dsimp only
  cases found : s.connections.get? c with
  | none => rfl
  | some connection =>
      have none_ : connection.session = none := by simpa [sessionAt, found] using closed
      dsimp only
      rw [none_]
      rfl

end Connections

section Cursors

variable (closed : statementAt s.cursors k = none)

include closed

theorem run_of_closed {cursor : Cursor} (found : s.cursors.get? k = some cursor) :
    cursor.run = none := by
  simpa [statementAt, found] using closed

theorem exec_next_of_closed : exec (Cursor.next k) s = (.error .cursorClosed, s) := by
  unfold Cursor.next
  rw [exec_bind, exec_get]
  dsimp only
  cases found : s.cursors.get? k with
  | none => rfl
  | some cursor =>
      dsimp only
      rw [run_of_closed closed found]
      rfl

theorem exec_columnNames_of_closed :
    exec (Cursor.columnNames k) s = (.error .cursorClosed, s) := by
  unfold Cursor.columnNames
  rw [exec_bind, exec_get]
  dsimp only
  cases found : s.cursors.get? k with
  | none => rfl
  | some cursor =>
      dsimp only
      rw [Cursor.isClosed, run_of_closed closed found]
      rfl

theorem exec_columnTypes_of_closed :
    exec (Cursor.columnTypes k) s = (.error .cursorClosed, s) := by
  unfold Cursor.columnTypes
  rw [exec_bind, exec_get]
  dsimp only
  cases found : s.cursors.get? k with
  | none => rfl
  | some cursor =>
      dsimp only
      rw [Cursor.isClosed, run_of_closed closed found]
      rfl

theorem exec_closeCursor_of_closed : exec (Cursor.close k) s = (.ok false, s) := by
  unfold Cursor.close
  rw [exec_bind, exec_get]
  dsimp only
  cases found : s.cursors.get? k with
  | none => rfl
  | some cursor =>
      dsimp only
      rw [run_of_closed closed found]
      rfl

end Cursors

end Closed

/-! ## Operations that only look -/

section Looks

variable {r : State → State → Prop} [Std.Refl r] (s : State) (c k : Nat)

theorem sessionOf_leads : Leads r (Connection.sessionOf c) s := by
  rw [Leads, exec_sessionOf]
  cases sessionAt s.connections c <;> exact Std.Refl.refl s

theorem autocommit_leads : Leads r (Connection.autocommit? c) s := by
  rw [Leads, Connection.autocommit?, exec_bind, exec_sessionOf]
  cases sessionAt s.connections c <;> exact Std.Refl.refl s

theorem lastNumber_leads : Leads r (Connection.lastNumber c) s := by
  rw [Leads, Connection.lastNumber, exec_bind, exec_sessionOf]
  cases sessionAt s.connections c <;> exact Std.Refl.refl s

theorem columnNames_leads : Leads r (Cursor.columnNames k) s := by
  refine .get_bind ?_
  split
  · split
    · exact .throw _
    · exact .pure _
  · exact .throw _

theorem columnTypes_leads : Leads r (Cursor.columnTypes k) s := by
  refine .get_bind ?_
  split
  · split
    · exact .throw _
    · exact .pure _
  · exact .throw _

end Looks

/-! ## Commands -/

/-- What a program asks of the driver. -/
inductive Command where
  | openEnvironment (driver : String) (config : Config)
  | closeEnvironment (e : Nat)
  | connect (e : Nat) (source : String) (timeout : Option Nat)
  | execute (c : Nat) (sql : String)
  | commit (c : Nat)
  | rollback (c : Nat)
  | setAutocommit (c : Nat) (enabled : Bool)
  | autocommit (c : Nat)
  | lastNumber (c : Nat)
  | closeConnection (c : Nat)
  | retainConnection (c : Nat)
  | releaseConnection (c : Nat)
  | next (k : Nat)
  | fetchInto (k : Nat) (target : Target) (mode : FetchMode)
  | columnNames (k : Nat)
  | columnTypes (k : Nat)
  | closeCursor (k : Nat)
  | retainCursor (k : Nat)
  | releaseCursor (k : Nat)

namespace State

/-- The number of cursors of a connection. -/
def cursorsOf (s : State) (c : Nat) : Nat :=
  s.cursors.count (Cursor.isOf c)

/-- The program holds a connection: not all of its holders are cursors. -/
def programHolds (s : State) (c : Nat) : Bool :=
  (s.connections.get? c).any fun connection => s.cursorsOf c < connection.holders

end State

/-- Lets go of a connection, if the program holds it. -/
def Connection.releaseHeld (c : Nat) : Op Unit := do
  if (← get).programHolds c then Connection.release c

/-- Does what a command asks.  Its answer goes to the program. -/
def Command.perform : Command → Op Unit
  | openEnvironment driver config => discard (Environment.openNamed driver config)
  | closeEnvironment e => discard (Environment.close e)
  | connect e source timeout => discard (Environment.connect e source timeout)
  | execute c sql => discard (Connection.execute c sql)
  | commit c => Connection.commit c
  | rollback c => Connection.rollback c
  | setAutocommit c enabled => Connection.setAutocommit c enabled
  | autocommit c => discard (Connection.autocommit? c)
  | lastNumber c => discard (Connection.lastNumber c)
  | closeConnection c => discard (Connection.close c)
  | retainConnection c => Connection.retain c
  | releaseConnection c => Connection.releaseHeld c
  | next k => discard (Cursor.next k)
  | fetchInto k target mode => discard (Cursor.fetchInto k target mode)
  | columnNames k => discard (Cursor.columnNames k)
  | columnTypes k => discard (Cursor.columnTypes k)
  | closeCursor k => discard (Cursor.close k)
  | retainCursor k => Cursor.retain k
  | releaseCursor k => Cursor.release k

/-- The state after some commands.  A command that fails is followed by the next one. -/
def State.after (s : State) : List Command → State
  | [] => s
  | command :: rest => (exec command.perform s).2.after rest

end SqlDriver
