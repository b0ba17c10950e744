/-
# SqlDriver.Proofs.Driver.LookAhead -- statements that are stepped ahead of their cursors

To learn whether a statement has rows, the driver steps it once and sets it back; its cursor
then steps it from the start.  But a statement that was stepped has been carried out
(`Executes.eq_reset`).  So fetching the rows of a cursor executes the statement a second time:
the rows are those of the second execution, from the database that the first one left
(`fetched_from_second_execution`).  Where the statement only reads, the two are alike.
-/
import SqlDriver.Proofs.Driver.Lift
import SqlDriver.Proofs.Engine.Standing

namespace SqlDriver

set_option autoImplicit false

open Engine

/-! ## Sessions between two commands -/

/-- Whatever the driver does to databases leaves all sessions at rest. -/
theorem atRest_upheld : Upholds World.AtRest where
  connect mode source w rest := by
    have spec := connect_spec mode source w
    rcases answer : exec (Action.connect mode source) w with ⟨fault | id, v⟩ <;>
      rw [answer] at spec
    · intro id s session
      exact rest id s (by rwa [World.session?, spec] at session)
    · exact rest.congr (restsAt_of_connects spec) spec.elsewhere
  disconnect id w rest other s session := by
    rw [session?_disconnect] at session
    split at session
    · cases session
    · exact rest other s session
  prepare id sql w rest := by
    refine rest.congr (prepare_rests (rest id) sql) ?_
    have spec := prepare_spec id sql w
    rcases answer : exec (Action.prepare id sql) w with ⟨fault | _ | run, v⟩ <;>
      rw [answer] at spec <;> exact spec.elsewhere
  step id run w rest := rest.congr (step_rests (rest id)) (step_inside id w run).elsewhere
  reset id run w rest := rest.congr (reset_rests id run w) (reset_inside id w run).elsewhere
  finalize id run w rest :=
    rest.congr (finalize_rests id run w) (finalize_spec id run w).elsewhere
  controls id cs w rest :=
    rest.congr (controls_rests (rest id) cs) (controls_inside id w cs).elsewhere
  setTimeout id wait w rest :=
    rest.congr (update_rests (rest id) fun _ rests => rests.congr rfl rfl rfl rfl)
      fun _ there => elsewhere_change w _ there

theorem atRest_after (disk : Disk) (commands : List Command) :
    (State.after { world := { disk } } commands).world.AtRest :=
  after_upholds atRest_upheld _ commands fun _ _ none_ => by cases none_

/-! ## Databases -/

/-- The database of a session: as the session sees it, and as it was committed last. -/
def Engine.World.database (w : World) (id : Nat) : Outcome Contents × Outcome Contents :=
  (w.contents (w.sessionAt id), w.committed (w.sessionAt id))

theorem Engine.World.database_change (w : World) (id : Nat) {f : Session → Session}
    (file : ∀ s, (f s).file = s.file) (own : ∀ s, (f s).own = s.own)
    (working : ∀ s, (f s).working = s.working) : (w.change id f).database id = w.database id := by
  unfold database contents committed sessionAt
  rw [session?_change, if_pos rfl]
  cases w.session? id with
  | none => rfl
  | some s => simp only [Option.map_some, Option.getD_some, file, own, working, disk_change]

/-- Giving up a statement leaves the database that setting it back leaves. -/
theorem database_finalize (id run : Nat) (w : World) :
    (exec (Action.finalize id run) w).2.database id =
      (exec (Action.reset id run) w).2.database id := by
  rw [exec_finalize]
  exact World.database_change _ id (fun _ => rfl) (fun _ => rfl) fun _ => rfl

/-! ## Cursors -/

/-- A cursor is fetched from until it has no more rows, or until fetching fails. -/
inductive Fetches (k : Nat) : State → List (List Value) → Option Fault → State → Prop where
  | exhausted {s t : State} (fetched : exec (Cursor.next k) s = (.ok none, t)) :
      Fetches k s [] none t
  | failed {s t : State} {fault : Fault}
      (fetched : exec (Cursor.next k) s = (.error (.statement fault), t)) :
      Fetches k s [] (some fault) t
  | row {s t u : State} {row : List Value} {rows : List (List Value)} {ending : Option Fault}
      (fetched : exec (Cursor.next k) s = (.ok (some row), t)) (rest : Fetches k t rows ending u) :
      Fetches k s (row :: rows) ending u

/-- A cursor is open: it has a statement, and its connection has a session. -/
structure OpenAt (s : State) (k : Nat) (cursor : Cursor) (id run : Nat) : Prop where
  found : s.cursors.get? k = some cursor
  running : cursor.run = some run
  session : sessionAt s.connections cursor.connection = some id

section Cursors

variable {s t u : State} {k id run : Nat} {cursor : Cursor}

/-- A cursor has given up its statement. -/
def State.givenUp (s : State) (k : Nat) (cursor : Cursor) (id run : Nat) : State :=
  { s with
    world := (exec (Action.finalize id run) s.world).2
    connections := s.connections.modify cursor.connection fun connection =>
      { connection with openCursors := connection.openCursors - 1 }
    cursors := s.cursors.modify k fun cursor => { cursor with run := none } }

theorem exec_drop (k run : Nat) (session : sessionAt s.connections cursor.connection = some id) :
    exec (Cursor.drop k cursor run) s = (.ok (), s.givenUp k cursor id run) := by
  unfold Cursor.drop
  rw [exec_bind, exec_get]
  dsimp only
  rw [← sessionAt, session]
  rfl

/-- Fetching from an open cursor steps its statement, which is given up at the end of its rows. -/
theorem exec_next (isOpen : OpenAt s k cursor id run) :
    exec (Cursor.next k) s =
      match exec (Action.step id run) s.world with
      | (.ok (some row), v) =>
          (.ok (some (Cursor.rowValues cursor row)), { s with
            world := v, events := .rowFetched cursor.names.length :: s.events })
      | (.ok none, v) =>
          (.ok none, { { s with world := v }.givenUp k cursor id run with
            events := .cursorExhausted :: s.events })
      | (.error fault, v) =>
          (.error (.statement fault), { { s with world := v }.givenUp k cursor id run with
            events := .cursorFailed fault :: s.events }) := by
  unfold Cursor.next
  rw [exec_bind, exec_get]
  dsimp only
  rw [isOpen.found]
  dsimp only
  rw [isOpen.running]
  dsimp only
  rw [exec_bind, exec_sessionOf, isOpen.session]
  dsimp only
  rw [exec_bind, exec_engine]
  rcases exec (Action.step id run) s.world with ⟨fault | _ | row, v⟩
  · dsimp only
    rw [exec_bind, exec_drop (s := { s with world := v }) k run isOpen.session]
    rfl
  · dsimp only
    rw [exec_bind, exec_drop (s := { s with world := v }) k run isOpen.session]
    rfl
  · rfl

theorem next_of_openAt (isOpen : OpenAt s k cursor id run) :
    match exec (Action.step id run) s.world with
    | (.ok (some row), v) => ∃ t, OpenAt t k cursor id run ∧ t.world = v ∧
        exec (Cursor.next k) s = (.ok (some (Cursor.rowValues cursor row)), t)
    | (.ok none, v) => ∃ t, t.world = (exec (Action.finalize id run) v).2 ∧
        exec (Cursor.next k) s = (.ok none, t)
    | (.error fault, v) => ∃ t, t.world = (exec (Action.finalize id run) v).2 ∧
        exec (Cursor.next k) s = (.error (.statement fault), t) := by
  rw [exec_next isOpen]
  rcases exec (Action.step id run) s.world with ⟨fault | _ | row, v⟩
  · exact ⟨_, rfl, rfl⟩
  · exact ⟨_, rfl, rfl⟩
  · exact ⟨{ s with world := v, events := .rowFetched cursor.names.length :: s.events },
      ⟨isOpen.found, isOpen.running, isOpen.session⟩, rfl, rfl⟩

/-- The rows of a cursor are those of its statement, stepped through to the end. -/
theorem Fetches.executes {rows : List (List Value)} {ending : Option Fault}
    (fetches : Fetches k s rows ending u) (isOpen : OpenAt s k cursor id run) :
    ∃ all v, Executes id run s.world all ending v ∧ rows = all.map (Cursor.rowValues cursor) ∧
      u.world.database id = v.database id := by
  induction fetches with
  | exhausted fetched =>
      have spec := next_of_openAt isOpen
      rcases stepped : exec (Action.step id run) _ with ⟨fault | _ | row, v⟩ <;>
        rw [stepped] at spec
      · obtain ⟨_, _, answer⟩ := spec
        cases answer.symm.trans fetched
      · obtain ⟨_, world, answer⟩ := spec
        cases answer.symm.trans fetched
        exact ⟨[], _, ⟨v, .done stepped, rfl⟩, rfl, world ▸ database_finalize id run v⟩
      · obtain ⟨_, _, _, answer⟩ := spec
        cases answer.symm.trans fetched
  | failed fetched =>
      have spec := next_of_openAt isOpen
      rcases stepped : exec (Action.step id run) _ with ⟨fault | _ | row, v⟩ <;>
        rw [stepped] at spec
      · obtain ⟨_, world, answer⟩ := spec
        cases answer.symm.trans fetched
        exact ⟨[], _, ⟨v, .failed stepped, rfl⟩, rfl, world ▸ database_finalize id run v⟩
      · obtain ⟨_, _, answer⟩ := spec
        cases answer.symm.trans fetched
      · obtain ⟨_, _, _, answer⟩ := spec
        cases answer.symm.trans fetched
  | row fetched rest ih =>
      have spec := next_of_openAt isOpen
      rcases stepped : exec (Action.step id run) _ with ⟨fault | _ | row, v⟩ <;>
        rw [stepped] at spec
      · obtain ⟨_, _, answer⟩ := spec
        cases answer.symm.trans fetched
      · obtain ⟨_, _, answer⟩ := spec
        cases answer.symm.trans fetched
      · obtain ⟨_, isOpen', rfl, answer⟩ := spec
        cases answer.symm.trans fetched
        obtain ⟨all, v, ⟨z, yields, back⟩, rfl, database⟩ := ih isOpen'
        exact ⟨row :: all, v, ⟨z, .row stepped yields, back⟩, rfl, database⟩

end Cursors

/-! ## Statements with rows -/

section Statements

variable {s t u : State} {c k : Nat} {sql : String}

theorem Engine.World.outputs_of_stillAt {w : World} {id run : Nat} {r : Run}
    (made : w.stillAt id run = some r) : w.outputs id run = r.prepared.outputs := by
  obtain ⟨q, there, rfl⟩ := Option.map_eq_some_iff.1 made
  rw [outputs, there]
  rfl

/-- A statement for which there is a cursor was made ready, stepped once and set back. -/
theorem openAt_of_execute (executed : exec (Connection.execute c sql) s = (.ok (.cursor k), t)) :
    ∃ id run ready x v cursor, sessionAt s.connections c = some id ∧
      exec (Action.prepare id sql.toList) s.world = (.ok (some run), ready) ∧
      exec (Action.step id run) ready = (.ok x, v) ∧ v.outputs id run ≠ [] ∧
      t.world = (exec (Action.reset id run) v).2 ∧ OpenAt t k cursor id run := by
  cases session : sessionAt s.connections c with
  | none =>
      rw [exec_execute_of_closed session sql] at executed
      cases executed
  | some id =>
      have cases_ := executed_of_session sql session
      rw [executed] at cases_
      cases cases_ with
      | @opened run _ v _ prepared stepped columns =>
          refine ⟨id, run, _, _, v, Connection.cursorOver c run (v.outputs id run), rfl, prepared,
            stepped, columns, rfl, ?_, rfl, ?_⟩
          · exact (Pool.get?_insert ..).trans (if_pos rfl)
          · refine (sessionAt_modify _ _ _ _ ?_).trans session
            exact fun _ => rfl

/-- A session in which a statement was made ready and has columns is there. -/
theorem session_of_outputs {id run : Nat} {w ready v : World} {text : List Char}
    {x : Except Fault (Option Tuple)}
    (prepared : exec (Action.prepare id text) w = (.ok (some run), ready))
    (stepped : exec (Action.step id run) ready = (x, v)) (columns : v.outputs id run ≠ []) :
    ∃ session, w.session? id = some session := by
  refine Option.ne_none_iff_exists'.1 fun missing => columns ?_
  have spec := prepare_cases id text w
  rw [prepared] at spec
  obtain ⟨_, ts, o, p, informed, _, _, rfl⟩ := spec
  have gone :=
    (step_inside id (w.change id (Session.takeIn (Run.ready ts p o) informed)) run).statements
  rw [stepped] at gone
  have none_ : v.session? id = none := by
    simpa [World.statements, World.session?_change, missing] using gone
  rw [World.outputs, none_]
  rfl

/-- The rows and the database are those of one execution of a statement. -/
def OneExecution (s : State) (c : Nat) (sql : String) (cursor : Cursor) (rows : List (List Value))
    (v : World) : Prop :=
  ∃ id run ready first ending once, sessionAt s.connections c = some id ∧
    exec (Action.prepare id sql.toList) s.world = (.ok (some run), ready) ∧
    Executes id run ready first ending once ∧
    rows = first.map (Cursor.rowValues cursor) ∧ v.database id = once.database id

/-- Fetching the rows of a statement from its cursor executes it once more, in the database that
its one execution left.  So the rows and the database are those of one execution exactly if
executing the statement again gives the same rows and leaves the same database.  That holds
for every statement that only reads. -/
theorem fetched_from_second_execution (disk : Disk) (commands : List Command)
    (executed : exec (Connection.execute c sql) (State.after { world := { disk } } commands) =
      (.ok (.cursor k), t))
    {rows : List (List Value)} {ending : Option Fault} (fetched : Fetches k t rows ending u) :
    ∃ id run ready cursor first stop second twice,
      sessionAt (State.after { world := { disk } } commands).connections c = some id ∧
      exec (Action.prepare id sql.toList) (State.after { world := { disk } } commands).world =
        (.ok (some run), ready) ∧
      OpenAt t k cursor id run ∧
      Executes id run ready first stop t.world ∧
      Executes id run t.world second ending twice ∧
      rows = second.map (Cursor.rowValues cursor) ∧ u.world.database id = twice.database id ∧
      (OneExecution (State.after { world := { disk } } commands) c sql cursor rows u.world ↔
        second.map (Cursor.rowValues cursor) = first.map (Cursor.rowValues cursor) ∧
          twice.database id = t.world.database id) ∧
      (ready.isQuery id run → second = first ∧ ending = stop ∧ twice = t.world) := by
  obtain ⟨id, run, ready, x, v, cursor, session, prepared, stepped, columns, world, isOpen⟩ :=
    openAt_of_execute executed
  obtain ⟨second, twice, again, rfl, database⟩ := fetched.executes isOpen
  obtain ⟨there, found⟩ := session_of_outputs prepared stepped columns
  obtain ⟨now, r, fresh, peaceful⟩ := prepare_fresh found prepared
  have rests : ready.RestsAt id := by
    have rests := prepare_rests (atRest_after disk commands id) sql.toList
    rwa [Leads, prepared] at rests
  rw [world] at again
  obtain ⟨first, stop, executes, alike⟩ := executes_before rests fresh peaceful stepped again
  rw [← world] at again executes alike
  refine ⟨id, run, ready, cursor, first, stop, second, twice, session, prepared, isOpen, executes,
    again, rfl, database, ⟨?_, ?_⟩, fun query => ?_⟩
  · rintro ⟨id', run', ready', first', stop', once, session', prepared', executes', rows, same⟩
    cases session.symm.trans session'
    cases prepared.symm.trans prepared'
    obtain ⟨rfl, rfl, rfl⟩ := executes.unique executes'
    exact ⟨rows, database.symm.trans same⟩
  · rintro ⟨rows, same⟩
    exact ⟨id, run, ready, first, stop, t.world, session, prepared, executes, rows,
      database.trans same⟩
  · obtain ⟨rfl, rfl, same⟩ := alike (fresh.isReading query)
    exact ⟨rfl, rfl, same⟩

/-- A connection to a database with a table that has a row. -/
def tableStart : List Command :=
  [.openEnvironment "sqlite3" {}, .connect 1 ":memory:" none, .execute 1 "CREATE TABLE t(x)",
    .execute 1 "INSERT INTO t VALUES('a')"]

/-- The rows of a query are those of one execution. -/
theorem one_execution_of_select :
    ∃ t u cursor, exec (Connection.execute 1 "SELECT x FROM t") (State.after {} tableStart) =
        (.ok (.cursor 1), t) ∧
      Fetches 1 t [[.text "a"]] none u ∧
      OneExecution (State.after {} tableStart) 1 "SELECT x FROM t" cursor [[.text "a"]]
        u.world := by
  let s := State.after {} tableStart
  let t := (exec (Connection.execute 1 "SELECT x FROM t") s).2
  have executed : exec (Connection.execute 1 "SELECT x FROM t") s = (.ok (.cursor 1), t) :=
    exec_eq_of_toOption (by decide +kernel)
  have row : exec (Cursor.next 1) t = (.ok (some [.text "a"]), (exec (Cursor.next 1) t).2) :=
    exec_eq_of_toOption (by decide +kernel)
  have last : exec (Cursor.next 1) (exec (Cursor.next 1) t).2 = (.ok none, _) :=
    exec_eq_of_toOption (by decide +kernel)
  have fetched := Fetches.row row (.exhausted last)
  obtain ⟨id, run, ready, cursor, first, stop, second, twice, session, prepared, _, _, _, rows, _,
    once, alike⟩ := fetched_from_second_execution {} tableStart executed fetched
  have session' : sessionAt s.connections 1 = some 1 := by decide +kernel
  cases session'.symm.trans session
  have prepared' := exec_eq_of_toOption (a := Action.prepare 1 "SELECT x FROM t".toList)
    (s := s.world) (x := some 3) (by decide +kernel)
  cases prepared'.symm.trans prepared
  obtain ⟨same, _, still⟩ := alike (by decide +kernel)
  exact ⟨t, _, cursor, executed, fetched, once.2 ⟨by rw [same], by rw [still]⟩⟩

/-- What `execute` leaves is what one execution of the statement leaves. -/
theorem world_of_execute (executed : exec (Connection.execute c sql) s = (.ok (.cursor k), t))
    {id run : Nat} {ready once : World} {first : List Tuple} {stop : Option Fault}
    (session : sessionAt s.connections c = some id)
    (prepared : exec (Action.prepare id sql.toList) s.world = (.ok (some run), ready))
    (executes : Executes id run ready first stop once) : once = t.world := by
  obtain ⟨id', run', ready', x, v, cursor, session', prepared', stepped, columns, world, _⟩ :=
    openAt_of_execute executed
  cases session.symm.trans session'
  cases prepared.symm.trans prepared'
  obtain ⟨there, found⟩ := session_of_outputs prepared stepped columns
  obtain ⟨now, r, fresh, _⟩ := prepare_fresh found prepared
  exact (executes.eq_reset fresh stepped).trans world.symm

/-- The number of rows of a table in the database of a session. -/
def Engine.World.rowsOf (w : World) (id : Nat) (table : String) : Option Nat :=
  (w.database id).1.toOption.map fun contents => (contents.rows table).length

/-- An insertion that hands back its row inserts it twice. -/
theorem two_rows_of_insert :
    ∃ t u, exec (Connection.execute 1 "INSERT INTO t VALUES('b') RETURNING x")
        (State.after {} tableStart) = (.ok (.cursor 1), t) ∧
      Fetches 1 t [[.text "b"]] none u ∧
      (State.after {} tableStart).world.rowsOf 1 "t" = some 1 ∧ t.world.rowsOf 1 "t" = some 2 ∧
      u.world.rowsOf 1 "t" = some 3 ∧
      ∀ cursor, ¬OneExecution (State.after {} tableStart) 1
        "INSERT INTO t VALUES('b') RETURNING x" cursor [[.text "b"]] u.world := by
  let s := State.after {} tableStart
  let t := (exec (Connection.execute 1 "INSERT INTO t VALUES('b') RETURNING x") s).2
  let u := (exec (Cursor.next 1) (exec (Cursor.next 1) t).2).2
  have executed : exec (Connection.execute 1 "INSERT INTO t VALUES('b') RETURNING x") s =
      (.ok (.cursor 1), t) := exec_eq_of_toOption (by decide +kernel)
  have row : exec (Cursor.next 1) t = (.ok (some [.text "b"]), (exec (Cursor.next 1) t).2) :=
    exec_eq_of_toOption (by decide +kernel)
  have last : exec (Cursor.next 1) (exec (Cursor.next 1) t).2 = (.ok none, u) :=
    exec_eq_of_toOption (by decide +kernel)
  have before : t.world.rowsOf 1 "t" = some 2 := by decide +kernel
  have after : u.world.rowsOf 1 "t" = some 3 := by decide +kernel
  refine ⟨t, u, executed, .row row (.exhausted last), by decide +kernel, before, after, ?_⟩
  rintro cursor ⟨id, run, ready, first, stop, once, session, prepared, executes, _, same⟩
  have session' : sessionAt s.connections 1 = some 1 := by decide +kernel
  cases session'.symm.trans session
  obtain rfl := world_of_execute executed session prepared executes
  rw [World.rowsOf, same] at after
  cases after.symm.trans before

end Statements

end SqlDriver
