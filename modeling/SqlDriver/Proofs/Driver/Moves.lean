/-
# SqlDriver.Proofs.Driver.Moves -- the moves of which commands are made

Whatever a program asks for, its objects change in few ways: an environment, a connection or a
cursor is made, closed or given up, or something else about it is changed.  `Move` lists them,
and every command comes to some moves one after the other (`perform_moves`, `after_moves`).  So
what each move keeps is kept in a whole run.
-/
import Mathlib.Logic.Relation
import SqlDriver.Proofs.Driver.Command

namespace SqlDriver

set_option autoImplicit false

/-- What can happen to the objects of a program at once. -/
inductive Move (s : State) : State → Prop where
  /-- The engine acted, or something was told. -/
  | rest (world : Engine.World) (events : List Event) : Move s { s with world, events }
  | makeEnvironment (config : Config) :
      Move s { s with environments := (s.environments.insert { config }).2 }
  | closeEnvironment (e : Nat) :
      Move s { s with
        environments := s.environments.modify e fun env => { env with closed := true } }
  | makeConnection (id e : Nat) :
      Move s { s with
        connections := (s.connections.insert { session := some id, environment := e }).2 }
  /-- A connection is changed and stays open or closed. -/
  | changeConnection (c : Nat) {f : Connection → Connection}
      (session : ∀ connection, (f connection).session = connection.session)
      (environment : ∀ connection, (f connection).environment? = connection.environment?) :
      Move s { s with connections := s.connections.modify c f }
  | closeConnection (c : Nat) :
      Move s { s with connections := s.connections.modify c fun connection =>
        { connection with session := none, keepsEnvironment := false } }
  | eraseConnection (c : Nat) : Move s { s with connections := s.connections.erase c }
  | makeCursor (cursor : Cursor) : Move s { s with cursors := (s.cursors.insert cursor).2 }
  /-- A cursor is changed and stays open or closed. -/
  | changeCursor (k : Nat) {f : Cursor → Cursor} (run : ∀ cursor, (f cursor).run = cursor.run) :
      Move s { s with cursors := s.cursors.modify k f }
  | closeCursor (k : Nat) :
      Move s { s with cursors := s.cursors.modify k fun cursor => { cursor with run := none } }
  | eraseCursor (k : Nat) : Move s { s with cursors := s.cursors.erase k }

/-- Some moves, one after the other. -/
abbrev Moves : State → State → Prop :=
  Relation.ReflTransGen Move

/-! ## Operations -/

section Operations

open Engine

variable {α : Type} (s : State) (c k : Nat)

theorem engine_moves (a : Action α) : Leads Moves (Op.engine a) s :=
  .single (.rest _ s.events)

theorem tell_moves (e : Event) : Leads Moves (Op.tell e) s :=
  .single (.rest s.world _)

/-- A change of a connection that keeps its session and its environment is made of moves.
-/
theorem updateConnection_moves {f : Connection → Connection}
    (session : ∀ connection, (f connection).session = connection.session)
    (environment : ∀ connection, (f connection).environment? = connection.environment?) :
    Leads Moves (Op.updateConnection c f) s :=
  .single (.changeConnection c session environment)

theorem updateCursor_moves {f : Cursor → Cursor} (run : ∀ cursor, (f cursor).run = cursor.run) :
    Leads Moves (Op.updateCursor k f) s :=
  .single (.changeCursor k run)

theorem retainConnection_moves : Leads Moves (Connection.retain c) s :=
  updateConnection_moves s c (fun _ => rfl) fun _ => rfl

theorem openNamed_moves (driver : String) (config : Config) :
    Leads Moves (Environment.openNamed driver config) s := by
  unfold Environment.openNamed
  split
  · exact .single (.makeEnvironment config)
  · exact .throw _

theorem closeEnvironment_moves (e : Nat) : Leads Moves (Environment.close e) s := by
  refine .get_bind ?_
  split
  · exact .pure _
  · split
    · exact .pure _
    · exact .bind (a := modify _) (.single (.closeEnvironment e)) fun _ s _ =>
        .bind (tell_moves s _) fun _ _ _ => .pure _

theorem connect_moves (e : Nat) (source : String) (timeout : Option Nat) :
    Leads Moves (Environment.connect e source timeout) s := by
  have connects := Environment.connects s e source timeout
  unfold Leads
  generalize exec (Environment.connect e source timeout) s = answer at connects ⊢
  cases connects with
  | closed gone => exact .refl
  | refused found isOpen answer => exact .single (.rest _ s.events)
  | crashed found isOpen answer overlong => exact .single (.rest _ s.events)
  | opened found isOpen answer bearable =>
      exact .tail (.single (.rest _ _)) (.makeConnection _ e)

theorem execute_moves (sql : String) : Leads Moves (Connection.execute c sql) s := by
  cases session : sessionAt s.connections c with
  | none =>
      rw [Leads, exec_execute_of_closed session sql]
  | some id =>
      have executed := executed_of_session sql session
      unfold Leads
      generalize exec (Connection.execute c sql) s = answer at executed ⊢
      cases executed with
      | unprepared prepared => exact .single (.rest _ s.events)
      | blank prepared => exact .single (.rest _ s.events)
      | failed prepared stepped => exact .single (.rest _ s.events)
      | counted prepared stepped bare changes => exact .single (.rest _ _)
      | opened prepared stepped columns =>
          have counts (t : State) := Move.changeConnection (s := t) c
            (f := fun connection => { connection with
              openCursors := connection.openCursors + 1, holders := connection.holders + 1 })
            (fun _ => rfl) fun _ => rfl
          exact .tail (.tail (.single (.rest _ _)) (counts _)) (.makeCursor _)

theorem control_moves (cs : List Control) : Leads Moves (Connection.control c cs) s :=
  .bind (sessionOf_leads s c) fun _ s _ => engine_moves s _

theorem endTransaction_moves (how : Control) :
    Leads Moves (Connection.endTransaction c how) s := by
  refine .get_bind (.bind (control_moves s c _) fun answer s _ => ?_)
  cases answer with
  | ok _ => exact .pure _
  | error fault => exact .throw _

theorem setAutocommit_moves (enabled : Bool) :
    Leads Moves (Connection.setAutocommit c enabled) s := by
  refine .bind (sessionOf_leads s c) fun _ s _ =>
    .bind (updateConnection_moves s c (fun _ => rfl) fun _ => rfl) fun _ s _ => ?_
  split
  · refine .bind (control_moves s c _) fun answer s _ => ?_
    cases answer with
    | ok _ => exact .pure _
    | error fault => exact tell_moves s _
  · refine .bind (control_moves s c _) fun answer s _ => ?_
    cases answer with
    | ok _ => exact .pure _
    | error fault => exact .throw _

theorem closeConnection_moves : Leads Moves (Connection.close c) s := by
  refine .get_bind ?_
  split
  · exact .pure _
  · split
    · exact .pure _
    · split
      · exact .throw_bind ..
      · exact .bind (engine_moves s _) fun _ s _ =>
          .bind (a := Op.updateConnection c _) (.single (.closeConnection c)) fun _ s _ =>
            .bind (tell_moves s _) fun _ _ _ => .pure _

theorem releaseConnection_moves : Leads Moves (Connection.release c) s := by
  refine .get_bind ?_
  split
  · exact .pure _
  · split
    · exact updateConnection_moves s c (fun _ => rfl) fun _ => rfl
    · split
      · exact .bind (engine_moves s _) fun _ s _ => .single (.eraseConnection c)
      · exact .single (.eraseConnection c)

theorem drop_moves (cursor : Cursor) (run : Nat) : Leads Moves (Cursor.drop k cursor run) s := by
  have rest (s : State) : Leads Moves
      (do
        Op.updateCursor k fun k => { k with run := none }
        Connection.cursorClosed cursor.connection) s :=
    .bind (a := Op.updateCursor k _) (.single (.closeCursor k)) fun _ s _ =>
      updateConnection_moves s _ (fun _ => rfl) fun _ => rfl
  refine .get_bind ?_
  cases (s.connections.get? cursor.connection).bind Connection.session with
  | none => exact rest s
  | some id => exact .bind (engine_moves s _) fun _ s _ => rest s

theorem next_moves : Leads Moves (Cursor.next k) s := by
  refine .get_bind ?_
  split
  · exact .throw _
  · next cursor _ =>
      split
      · exact .throw _
      · next run _ =>
          refine .bind (sessionOf_leads s _) fun id s _ =>
            .bind (engine_moves s _) fun row s _ => ?_
          rcases row with fault | _ | row
          · exact .bind (drop_moves s k cursor run) fun _ s _ =>
              .bind (tell_moves s _) fun _ _ _ => .throw _
          · exact .bind (drop_moves s k cursor run) fun _ s _ =>
              .bind (tell_moves s _) fun _ _ _ => .pure _
          · exact .bind (tell_moves s _) fun _ _ _ => .pure _

theorem fetchInto_moves (target : Target) (mode : FetchMode) :
    Leads Moves (Cursor.fetchInto k target mode) s := by
  refine .get_bind (.bind (next_moves s k) fun row _ _ => ?_)
  cases row <;> exact .pure _

theorem closeCursor_moves : Leads Moves (Cursor.close k) s := by
  refine .get_bind ?_
  split
  · exact .pure _
  · next cursor _ =>
      split
      · exact .pure _
      · exact .bind (drop_moves s k cursor _) fun _ s _ =>
          .bind (tell_moves s _) fun _ _ _ => .pure _

theorem releaseCursor_moves : Leads Moves (Cursor.release k) s := by
  refine .get_bind ?_
  split
  · exact .pure _
  · next cursor _ =>
      have rest (s : State) : Leads Moves
          (do
            modify fun s => { s with cursors := s.cursors.erase k }
            Connection.release cursor.connection) s :=
        .bind (a := modify _) (.single (.eraseCursor k)) fun _ s _ =>
          releaseConnection_moves s _
      split
      · exact updateCursor_moves s k fun _ => rfl
      · split
        · exact .bind (drop_moves s k cursor _) fun _ s _ => rest s
        · exact rest s

end Operations

/-! ## Commands -/

theorem perform_moves (s : State) (command : Command) : Leads Moves command.perform s := by
  have forget {α : Type} {op : Op α} (leads : Leads Moves op s) : Leads Moves (discard op) s :=
    .bind leads fun _ _ _ => .pure _
  cases command with
  | openEnvironment driver config => exact forget (openNamed_moves s driver config)
  | closeEnvironment e => exact forget (closeEnvironment_moves s e)
  | connect e source timeout => exact forget (connect_moves s e source timeout)
  | execute c sql => exact forget (execute_moves s c sql)
  | commit c => exact endTransaction_moves s c .commit
  | rollback c => exact endTransaction_moves s c .rollback
  | setAutocommit c enabled => exact setAutocommit_moves s c enabled
  | autocommit c => exact forget (autocommit_leads s c)
  | lastNumber c => exact forget (lastNumber_leads s c)
  | closeConnection c => exact forget (closeConnection_moves s c)
  | retainConnection c => exact retainConnection_moves s c
  | releaseConnection c =>
      refine .get_bind ?_
      split
      · exact releaseConnection_moves s c
      · exact .pure _
  | next k => exact forget (next_moves s k)
  | fetchInto k target mode => exact forget (fetchInto_moves s k target mode)
  | columnNames k => exact forget (columnNames_leads s k)
  | columnTypes k => exact forget (columnTypes_leads s k)
  | closeCursor k => exact forget (closeCursor_moves s k)
  | retainCursor k => exact updateCursor_moves s k fun _ => rfl
  | releaseCursor k => exact releaseCursor_moves s k

theorem after_moves (s : State) (commands : List Command) : Moves s (s.after commands) := by
  induction commands generalizing s with
  | nil => exact .refl
  | cons command rest ih => exact (perform_moves s command).trans (ih _)

end SqlDriver
