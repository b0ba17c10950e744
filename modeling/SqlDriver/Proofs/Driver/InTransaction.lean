/-
# SqlDriver.Proofs.Driver.InTransaction -- a connection at work on one transaction

Between two statements a connection outside of autocommit has no open cursors, and its session
stands in a transaction.  A plain statement either is carried out, at once or -- if it has
rows -- in front of its cursor, or fails, and then no file has changed (`execute_stands`).
Fetching rows and letting a cursor go leave the transaction where it stands (`next_stands`,
`release_stands`).  Behind a commit that succeeds nothing can fail any more
(`setAutocommit_on`, `close_of_serves`).
-/
import SqlDriver.Proofs.Driver.LookAhead
import SqlDriver.Proofs.Driver.ManualTransaction
import SqlDriver.Proofs.Engine.Publication

namespace SqlDriver

set_option autoImplicit false

open Engine

/-! ## Connections -/

/-- A connection serves a session; its settings and counts are known. -/
def State.Serves (s : State) (c id : Nat) (autocommit : Bool) (openCursors holders : Nat) : Prop :=
  ∃ environment, s.connections.get? c =
    some { session := some id, environment, autocommit, openCursors, holders }

namespace State.Serves

variable {s : State} {c id openCursors holders : Nat} {autocommit : Bool}

theorem session (serves : s.Serves c id autocommit openCursors holders) :
    sessionAt s.connections c = some id := by
  obtain ⟨environment, found⟩ := serves
  rw [sessionAt, found]
  rfl

/-- The settings or counts of a connection are changed. -/
theorem modify (serves : s.Serves c id autocommit openCursors holders)
    (f : Connection → Connection) {t : State} (changed : t.connections = s.connections.modify c f)
    {autocommit' : Bool} {openCursors' holders' : Nat}
    (goes : ∀ environment,
      f { session := some id, environment, autocommit, openCursors, holders } =
        { session := some id, environment, autocommit := autocommit', openCursors := openCursors',
          holders := holders' }) :
    t.Serves c id autocommit' openCursors' holders' := by
  obtain ⟨environment, found⟩ := serves
  refine ⟨environment, ?_⟩
  rw [changed, Pool.get?_modify, if_pos rfl, found, Option.map_some, goes]

end State.Serves

/-- The timeout given to a connection, or else the one of the settings, is longer than the engine
can wait. -/
def Environment.isOverlong (config : Config) (timeout : Option Nat) : Bool :=
  (timeout.orElse fun _ => config.busyTimeout).any (longestTimeout < ·)

/-- A connection that is opened serves a session on what was committed.  Opening it changes no file,
though it may make an empty one; only behind a session that was opened can the timeout end the
program. -/
theorem connect_serves {s : State} {e : Nat} {config : Config}
    (found : s.environments.get? e = some { config }) (source : String) (timeout : Option Nat) :
    match exec (Environment.connect e source timeout) s with
    | (.ok (.connection c), t) => Environment.isOverlong config timeout = false ∧
        ∃ id b, b.Opens s.world.disk (Environment.openMode config) source ∧
          t.Serves c id true 0 1 ∧ t.world.Rises id b (.start b.committed)
    | (.ok .crashed, t) => Environment.isOverlong config timeout ∧
        (∃ id, (exec (Action.connect (Environment.openMode config) source) s.world).1 = .ok id) ∧
        s.world.disk.Stays t.world.disk
    | (.error _, t) =>
        (∃ fault, (exec (Action.connect (Environment.openMode config) source) s.world).1 =
          .error fault) ∧ t.world.disk = s.world.disk := by
  have rises := connect_rises (Environment.openMode config) source s.world
  have connected := Environment.connects s e source timeout
  generalize exec (Environment.connect e source timeout) s = outcome at connected ⊢
  cases connected with
  | closed gone =>
      rw [found] at gone
      cases gone
  | @refused _ fault v there _ answer =>
      cases there.symm.trans found
      rw [answer] at rises
      exact ⟨⟨fault, congrArg Prod.fst answer⟩, rises⟩
  | @crashed _ id v there _ answer overlong =>
      cases there.symm.trans found
      rw [answer] at rises
      obtain ⟨b, opens, disk, _⟩ := rises
      refine ⟨overlong, ⟨id, congrArg Prod.fst answer⟩, ?_⟩
      show s.world.disk.Stays v.disk
      rw [disk]
      exact opens.stays
  | @opened _ id v there _ answer bearable =>
      cases there.symm.trans found
      rw [answer] at rises
      obtain ⟨b, opens, disk, rises⟩ := rises
      exact ⟨Bool.eq_false_iff.2 bearable, id, b, opens,
        ⟨e, (Pool.get?_insert ..).trans (if_pos rfl)⟩, rises.setTimeout _⟩

/-- A cursor that is held once shows the rows of a statement of a connection. -/
structure State.Shows (s : State) (k c : Nat) (run : Option Nat) (cursor : Cursor) : Prop where
  found : s.cursors.get? k = some cursor
  running : cursor.run = run
  connection : cursor.connection = c
  holders : cursor.holders = 1

section Statements

variable {s t : State} {c k id run : Nat} {b : Footing} {g : Ground} {cursor : Cursor}

/-- A plain statement is carried out, or it fails and changes no file. -/
theorem execute_stands (serves : s.Serves c id false 0 1) (stands : s.world.Stands id b g)
    {sql : String} (plain : isPlain sql) :
    match exec (Connection.execute c sql) s with
    | (.ok (.count _), t) =>
        ∃ g', carryOut g sql = .ok g' ∧ t.Serves c id false 0 1 ∧ t.world.Stands id b g'
    | (.ok (.cursor k), t) =>
        ∃ g', carryOut g sql = .ok g' ∧ t.Serves c id false 1 2 ∧
          ∃ run cursor, t.Shows k c (some run) cursor ∧ t.world.Gives id run b g'
    | (.error _, t) => t.world.disk = b.disk := by
  have prepares := prepare_stands stands plain
  have executed := executed_of_session sql serves.session
  generalize exec (Connection.execute c sql) s = outcome at executed ⊢
  cases executed with
  | unprepared prepared =>
      rw [prepared] at prepares
      exact prepares
  | blank prepared =>
      rw [prepared] at prepares
      exact prepares
  | failed prepared stepped =>
      rw [prepared] at prepares
      obtain ⟨here, session, r, made, effect⟩ := prepares
      obtain ⟨carried, idle⟩ := step_carries here made
      rw [stepped] at carried
      -- The failure may have ended the transaction; giving up the statement writes nothing.
      exact (disk_finalize_of_idle (idle _ _ stepped)).trans carried
  | @counted run _ _ _ prepared stepped bare changes =>
      rw [prepared] at prepares
      obtain ⟨here, session, r, made, effect⟩ := prepares
      obtain ⟨carried, idle⟩ := step_carries here made
      rw [stepped] at carried
      obtain ⟨g', answer, after, same⟩ := carried
      exact ⟨g', effect.trans answer, serves, finalize_stands after run⟩
  | @opened run _ v _ prepared stepped columns =>
      rw [prepared] at prepares
      obtain ⟨here, session, r, made, effect⟩ := prepares
      obtain ⟨carried, idle⟩ := step_carries here made
      rw [stepped] at carried
      obtain ⟨_, _, _, same⟩ := carried
      rw [World.outputs_of_stillAt ((same run).trans made.toRunAt.stillAt)] at columns
      obtain ⟨g', answer, gives⟩ := gives_of_ready here made columns stepped
      refine ⟨g', effect.trans answer, serves.modify
        (fun connection => { connection with
          openCursors := connection.openCursors + 1, holders := connection.holders + 1 })
        rfl fun _ => rfl, run, Connection.cursorOver c run (v.outputs id run),
        ⟨?_, rfl, rfl, rfl⟩, gives⟩
      exact (Pool.get?_insert ..).trans (if_pos rfl)

/-! ## Cursors -/

/-- What a cursor that was held once shows when it has given up its statement. -/
theorem State.Shows.givenUp (id : Nat) (shows : s.Shows k c (some run) cursor) :
    (s.givenUp k cursor id run).Shows k c none { cursor with run := none } :=
  ⟨by simp [State.givenUp, Pool.get?_modify, shows.found], rfl, shows.connection, shows.holders⟩

theorem State.Serves.givenUp {holders : Nat} (serves : s.Serves c id false 1 holders)
    (shows : s.Shows k c (some run) cursor) :
    (s.givenUp k cursor id run).Serves c id false 0 holders := by
  obtain rfl := shows.connection
  exact serves.modify (fun connection => { connection with
    openCursors := connection.openCursors - 1 }) rfl fun _ => rfl

/-- While the rows of a statement are handed out, its cursor has the statement or has given it
up, and the transaction stands where it stood. -/
inductive State.HandsOut (s : State) (k c id : Nat) (b : Footing) (g : Ground) : Prop where
  | closed {cursor : Cursor} (shows : s.Shows k c none cursor) (serves : s.Serves c id false 0 2)
      (stands : s.world.Stands id b g)
  | isOpen {run : Nat} {cursor : Cursor} (shows : s.Shows k c (some run) cursor)
      (serves : s.Serves c id false 1 2) (stands : s.world.Stands id b g)

/-- Fetching leaves the transaction where it stands.  At the end of the rows and at a failure the
statement is given up. -/
theorem next_stands (shows : s.Shows k c (some run) cursor) (serves : s.Serves c id false 1 2)
    (gives : s.world.Gives id run b g) :
    match exec (Cursor.next k) s with
    | (.ok (some _), t) =>
        t.Shows k c (some run) cursor ∧ t.Serves c id false 1 2 ∧ t.world.Gives id run b g
    | (_, t) => t.HandsOut k c id b g := by
  have isOpen : OpenAt s k cursor id run :=
    ⟨shows.found, shows.running, shows.connection ▸ serves.session⟩
  have after := gives.next
  have active := gives.active
  rw [exec_next isOpen]
  have ends {v : World} (after : v.Stands id b g) (e : Event) :
      State.HandsOut { { s with world := v }.givenUp k cursor id run with events := e :: s.events }
        k c id b g := by
    have shows' : ({ s with world := v } : State).Shows k c (some run) cursor :=
      ⟨shows.found, shows.running, shows.connection, shows.holders⟩
    have serves' : ({ s with world := v } : State).Serves c id false 1 2 := serves
    obtain ⟨found, running, connection, holders⟩ := shows'.givenUp id
    exact .closed ⟨found, running, connection, holders⟩ (serves'.givenUp shows')
      (finalize_stands after run)
  rcases stepped : exec (Action.step id run) s.world with ⟨fault | _ | row, v⟩ <;>
    rw [stepped] at after
  · exact ends after _
  · exact ends after _
  · exact ⟨⟨shows.found, shows.running, shows.connection, shows.holders⟩, serves,
      gives_of_active after (active row v stepped)⟩

/-- A cursor without a statement goes, and its hold on the connection with it. -/
theorem erase_stands (serves : s.Serves c id false 0 2) (stands : s.world.Stands id b g) :
    ∃ t, exec
        (do
          modify fun s => { s with cursors := s.cursors.erase k }
          Connection.release c) s = (.ok (), t) ∧
      t.Serves c id false 0 1 ∧ t.world.Stands id b g := by
  have held := serves
  obtain ⟨environment, found⟩ := held
  rw [exec_bind, exec_modify]
  dsimp only
  unfold Connection.release
  rw [exec_bind, exec_get]
  dsimp only
  rw [found]
  exact ⟨_, rfl, serves.modify (fun connection => { connection with
    holders := connection.holders - 1 }) rfl fun _ => rfl, stands⟩

/-- The last holder of a cursor lets it go.  A statement that it still has is given up. -/
theorem release_stands (hands : s.HandsOut k c id b g) :
    ∃ t, exec (Cursor.release k) s = (.ok (), t) ∧ t.Serves c id false 0 1 ∧
      t.world.Stands id b g := by
  unfold Cursor.release
  rw [exec_bind, exec_get]
  cases hands with
  | closed shows serves stands =>
      simp only [shows.found, shows.holders, shows.running, shows.connection]
      exact erase_stands serves stands
  | @isOpen run cursor shows serves stands =>
      have session : sessionAt s.connections cursor.connection = some id :=
        shows.connection ▸ serves.session
      simp only [shows.found, shows.holders, shows.running]
      rw [if_neg (by omega), exec_bind, exec_drop k run session, shows.connection]
      exact erase_stands (serves.givenUp shows) (finalize_stands stands run)

/-! ## Ends of transactions -/

/-- Autocommit is turned off, and a transaction is begun. -/
theorem setAutocommit_off (serves : s.Serves c id true 0 1) (rises : s.world.Rises id b g) :
    ∃ t, exec (Connection.setAutocommit c false) s = (.ok (), t) ∧ t.Serves c id false 0 1 ∧
      t.world.Stands id b g := by
  obtain ⟨v, begun, stands⟩ := begin_stands rises
  rw [exec_setAutocommit_off serves.session, begun]
  exact ⟨_, rfl, serves.modify (fun connection => { connection with autocommit := false }) rfl
    fun _ => rfl, stands⟩

theorem commit_publishes (serves : s.Serves c id false 0 1) (stands : s.world.Stands id b g) :
    match exec (Connection.commit c) s with
    | (.ok _, t) =>
        ∃ b', b.Publishes g.contents b' ∧ t.Serves c id false 0 1 ∧ t.world.Stands id b' g
    | (.error _, t) => t.world.disk = b.disk := by
  have batch : endingBatch s c .commit = [.commit, .begin .deferred] := by
    obtain ⟨environment, found⟩ := serves
    simp [endingBatch, found]
  have publishes := controls_publish stands
  rw [Connection.commit, exec_endTransaction serves.session, batch]
  rcases answer : exec (Action.controls id [.commit, .begin .deferred]) s.world with ⟨fault | _, v⟩
    <;> rw [answer] at publishes
  · exact publishes
  · obtain ⟨b', publishes, after⟩ := publishes
    exact ⟨b', publishes, serves, after⟩

theorem disk_setAutocommit (enabled : Bool) :
    (exec (Connection.setAutocommit c enabled) s).2.world.disk = s.world.disk := by
  cases session : sessionAt s.connections c with
  | none =>
      unfold Connection.setAutocommit
      rw [exec_bind, exec_sessionOf, session]
  | some id => exact (Connection.setAutocommit_unpublished session enabled).world.disk

/-- Autocommit is turned on, which undoes what was not committed. -/
theorem setAutocommit_on (serves : s.Serves c id false 0 1) :
    ∃ t, exec (Connection.setAutocommit c true) s = (.ok (), t) ∧ t.Serves c id true 0 1 ∧
      t.world.disk = s.world.disk := by
  have disk := disk_setAutocommit (s := s) (c := c) true
  obtain ⟨events, answer⟩ := exec_setAutocommit_on serves.session
  rw [answer] at disk ⊢
  exact ⟨_, rfl, serves.modify (fun connection => { connection with autocommit := true }) rfl
    fun _ => rfl, disk⟩

/-- A connection without open cursors can be closed. -/
theorem close_of_serves {autocommit : Bool} {holders : Nat}
    (serves : s.Serves c id autocommit 0 holders) :
    ∃ t, exec (Connection.close c) s = (.ok true, t) ∧ t.world.disk = s.world.disk := by
  obtain ⟨environment, found⟩ := serves
  unfold Connection.close
  rw [exec_bind, exec_get]
  dsimp only
  rw [found]
  exact ⟨_, rfl, rfl⟩

theorem disk_release (c : Nat) (s : State) : ∃ t, exec (Connection.release c) s = (.ok (), t) ∧
    t.world.disk = s.world.disk := by
  unfold Connection.release
  rw [exec_bind, exec_get]
  dsimp only
  cases s.connections.get? c with
  | none => exact ⟨_, rfl, rfl⟩
  | some connection =>
      dsimp only
      split
      · exact ⟨_, rfl, rfl⟩
      · cases connection.session <;> exact ⟨_, rfl, rfl⟩

end Statements

end SqlDriver
