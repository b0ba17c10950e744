/-
# SqlDriver.Proofs.Driver.TwoCopies -- transactions of a connection as two copies

What a program sees of the transactions of a connection is what happens to two copies of a
database, the committed one and the one that is worked on (`Copies.Takes`).  Each call of the
connection takes one step of them (`perform_refines`), and so a run of calls takes a run of steps
(`transactions_refine_copies`).  Queries read the copy that is worked on (`reads_of_refines`).
-/
import SqlDriver.Proofs.Driver.Fetching
import SqlDriver.Proofs.Driver.ManualTransaction
import SqlDriver.Proofs.Engine.Writing

namespace SqlDriver

set_option autoImplicit false

open Engine

/-! ## Calls -/

/-- What a program asks of a connection that is about its transactions. -/
inductive TransactionCall where
  | setAutocommit (enabled : Bool)
  | commit
  | rollback
  | execute (sql : String)

/-- A call of a connection. -/
def TransactionCall.on (c : Nat) : TransactionCall → Command
  | setAutocommit enabled => .setAutocommit c enabled
  | commit => .commit c
  | rollback => .rollback c
  | execute sql => .execute c sql

/-- A statement is about data, and does not take down the transaction that it is in. -/
def TransactionCall.suits (g : Ground) : TransactionCall → Bool
  | execute sql => isData sql && !(programOf g.contents sql).any fun p => p.program.aborts g
  | _ => true

/-- What the calls of a connection answer to the two copies of its database, and what they make of
them.  Another session may have a lock on the file. -/
inductive Engine.Copies.Takes (contended : Bool) (m : Copies) :
    TransactionCall → Except Error Unit → Copies → Prop where
  /-- A transaction is begun; nothing is discarded. -/
  | begun (lone : m.manual = false) :
      Takes contended m (.setAutocommit false) (.ok ()) { m with manual := true }
  | begunBefore (open_ : m.manual) (message : String) :
      Takes contended m (.setAutocommit false) (.error (.beginTransaction message)) m
  /-- What was not committed is dropped. -/
  | undone : Takes contended m (.setAutocommit true) (.ok ()) { m.discard with manual := false }
  | committed (open_ : m.manual) : Takes contended m .commit (.ok ()) m.publish
  | refused (open_ : m.manual) (inTheWay : contended) :
      Takes contended m .commit (.error (.engine busy)) m
  | rolledBack (open_ : m.manual) : Takes contended m .rollback (.ok ()) m.discard
  /-- There is no transaction to end. -/
  | notBegun {call : TransactionCall} (ending : call = .commit ∨ call = .rollback)
      (lone : m.manual = false) (fault : Fault) :
      Takes contended m call (.error (.engine fault)) m
  /-- A statement is carried out on the copy that is worked on; outside of a transaction, that is
  committed at once. -/
  | executed {sql : String} {known : Outcome Contents} {p : Prepared} {g : Ground}
      (knows : m.Knows contended known) (made : programOf known sql = some p)
      (effect : p.program.effect m.ground = .ok g) :
      Takes contended m (.execute sql) (.ok ()) (m.write g)
  | failed (sql : String) (fault : Fault) (number : Int64) :
      Takes contended m (.execute sql) (.error (.statement fault)) { m with lastNumber := number }
  /-- A change stops, and keeps what it did before. -/
  | stopped {sql : String} {known : Outcome Contents} {p : Prepared} {stop : Stop}
      (knows : m.Knows contended known) (made : programOf known sql = some p)
      (stops : p.program.stop? m.ground = some stop) (keeps : stop.policy = .fail)
      (fault : Fault) :
      Takes contended m (.execute sql) (.error (.statement fault))
        (m.write ⟨.ok stop.work.contents, stop.work.lastNumber⟩)

/-- Calls, one after the other. -/
inductive Engine.Copies.Runs (contended : Bool) :
    Copies → List TransactionCall → List (Except Error Unit) → Copies → Prop where
  | nil (m : Copies) : Runs contended m [] [] m
  | cons {m m' m'' : Copies} {call : TransactionCall} {answer : Except Error Unit}
      {calls : List TransactionCall} {answers : List (Except Error Unit)}
      (takes : m.Takes contended call answer m') (rest : Runs contended m' calls answers m'') :
      Runs contended m (call :: calls) (answer :: answers) m''

/-! ## Connections -/

/-- A connection is open, and its session has two copies of its database; outside of autocommit, a
transaction is open. -/
structure State.Refines (s : State) (c id : Nat) (contended : Bool) (m : Copies) : Prop where
  connection : ∃ connection, s.connections.get? c = some connection ∧
    connection.session = some id ∧ connection.autocommit = !m.manual
  world : s.world.Shows id none contended m

section Calls

variable {s t : State} {c id : Nat} {contended : Bool} {m m' : Copies}

theorem State.Refines.session (refines : s.Refines c id contended m) :
    sessionAt s.connections c = some id := by
  obtain ⟨connection, found, session, _⟩ := refines.connection
  rw [sessionAt, found, Option.bind_some, session]

/-- The connection and the session are changed, each in its own way. -/
theorem State.Refines.change (refines : s.Refines c id contended m) {f : Connection → Connection}
    (connections : t.connections = s.connections.modify c f)
    (goes : ∀ connection : Connection, connection.autocommit = !m.manual →
      (f connection).session = connection.session ∧ (f connection).autocommit = !m'.manual)
    (world : t.world.Shows id none contended m') : t.Refines c id contended m' := by
  obtain ⟨connection, found, session, autocommit⟩ := refines.connection
  obtain ⟨same, mode⟩ := goes connection autocommit
  refine ⟨⟨f connection, ?_, same.trans session, mode⟩, world⟩
  rw [connections, Pool.get?_modify, if_pos rfl, found]
  rfl

/-- The session is changed, and the connection is not. -/
theorem State.Refines.carry (refines : s.Refines c id contended m)
    (connections : t.connections = s.connections) (same : m'.manual = m.manual)
    (world : t.world.Shows id none contended m') : t.Refines c id contended m' := by
  obtain ⟨connection, found, session, autocommit⟩ := refines.connection
  exact ⟨⟨connection, connections ▸ found, session, same ▸ autocommit⟩, world⟩

/-- Autocommit is turned on or off. -/
theorem setAutocommit_takes (refines : s.Refines c id contended m) (enabled : Bool) :
    ∃ m', m.Takes contended (.setAutocommit enabled)
        (exec (Connection.setAutocommit c enabled) s).1 m' ∧
      (exec (Connection.setAutocommit c enabled) s).2.Refines c id contended m' := by
  let f : Connection → Connection := fun connection => { connection with autocommit := enabled }
  have turned {t : State} {m' : Copies} (connections : t.connections = s.connections.modify c f)
      (mode : enabled = !m'.manual) (world : t.world.Shows id none contended m') :
      t.Refines c id contended m' :=
    refines.change connections (fun _ _ => ⟨rfl, mode⟩) world
  cases enabled with
  | true =>
      obtain ⟨events, answer⟩ := exec_setAutocommit_on refines.session
      rw [answer]
      cases open_ : m.manual with
      | false =>
          obtain ⟨fault, v, refused, shows⟩ := ending_refused_alone refines.world open_ (.inr rfl)
          rw [refused]
          refine ⟨_, .undone, turned rfl rfl ?_⟩
          rw [Copies.discard_lone open_ (refines.world.working open_)]
          exact shows
      | true =>
          obtain ⟨v, rolled, shows⟩ := rollback_shows refines.world open_
          rw [exec_controls_cons, rolled]
          exact ⟨_, .undone, turned rfl rfl shows⟩
  | false =>
      rw [exec_setAutocommit_off refines.session]
      cases open_ : m.manual with
      | false =>
          obtain ⟨v, begun, shows⟩ := begin_shows refines.world open_
          rw [begun]
          exact ⟨_, .begun open_, turned rfl rfl shows⟩
      | true =>
          obtain ⟨fault, v, refused, shows⟩ := begin_refused refines.world open_
          rw [refused]
          exact ⟨_, .begunBefore open_ fault.message, turned rfl (by rw [open_]; rfl) shows⟩

/-- The batch by which a connection ends a transaction, and what comes of it in the engine. -/
theorem endTransaction_takes (refines : s.Refines c id contended m) {call : TransactionCall}
    {how : Control} (ending : call = .commit ∧ how = .commit ∨ call = .rollback ∧ how = .rollback) :
    ∃ m', m.Takes contended call (exec (Connection.endTransaction c how) s).1 m' ∧
      (exec (Connection.endTransaction c how) s).2.Refines c id contended m' := by
  obtain ⟨connection, found, _, autocommit⟩ := refines.connection
  rw [exec_endTransaction refines.session]
  dsimp only
  cases open_ : m.manual with
  | false =>
      have batch : endingBatch s c how = [how] := by
        simp [endingBatch, found, autocommit, open_]
      have ends : how = .commit ∨ how = .rollback := ending.imp And.right And.right
      obtain ⟨fault, v, refused, shows⟩ := ending_refused_alone refines.world open_ ends
      rw [batch, refused]
      exact ⟨m, .notBegun (ending.imp And.left And.left) open_ fault, refines.carry rfl rfl shows⟩
  | true =>
      have batch : endingBatch s c how = [how, .begin .deferred] := by
        simp [endingBatch, found, autocommit, open_]
      have goesOn {v : World} (n : Copies) (shows : v.Shows id none contended
          { n with manual := false }) (manual : n.manual = true) :
          ∃ u, exec (Action.controls id [.begin .deferred]) v = (.ok (), u) ∧
            u.Shows id none contended n := by
        obtain ⟨u, begun, after⟩ := begin_shows shows rfl
        refine ⟨u, begun, ?_⟩
        rwa [← manual] at after
      rw [batch, exec_controls_cons]
      rcases ending with ⟨rfl, rfl⟩ | ⟨rfl, rfl⟩
      · have spec := commit_shows refines.world open_
        rcases answer : exec (Action.control id .commit) s.world with ⟨fault | _, v⟩ <;>
          rw [answer] at spec
        · obtain ⟨rfl, inTheWay, shows⟩ := spec
          exact ⟨m, .refused open_ inTheWay,
            refines.carry rfl rfl (shows.light (settle_light id none v))⟩
        · obtain ⟨u, begun, after⟩ := goesOn m.publish spec open_
          dsimp only
          rw [begun]
          exact ⟨_, .committed open_, refines.carry rfl rfl after⟩
      · obtain ⟨v, rolled, shows⟩ := rollback_shows refines.world open_
        obtain ⟨u, begun, after⟩ := goesOn m.discard shows open_
        rw [rolled]
        dsimp only
        rw [begun]
        exact ⟨_, .rolledBack open_, refines.carry rfl rfl after⟩

/-- A statement about data is carried out, or it fails. -/
theorem execute_takes (refines : s.Refines c id contended m) {sql : String} (data : isData sql)
    (clear : contended = false ∨ isPlain sql)
    (steady : ∀ p, programOf m.working sql = some p → p.program.aborts m.ground = false) :
    ∃ m', m.Takes contended (.execute sql) ((exec (Connection.execute c sql) s).1.map fun _ => ())
        m' ∧ (exec (Connection.execute c sql) s).2.Refines c id contended m' := by
  have prepares := prepare_shows refines.world data
  have makes {run : Nat} {ready v : World} {x : Except Fault (Option Tuple)}
      (prepared : exec (Action.prepare id sql.toList) s.world = (.ok (some run), ready))
      (stepped : exec (Action.step id run) ready = (x, v)) :
      ∃ known p, m.Knows contended known ∧ programOf known sql = some p ∧
        match x with
        | .ok _ => ∃ g, p.program.effect m.ground = .ok g ∧ v.Ends id run contended (m.write g)
        | .error _ => ∃ m', m.Fails p.program m' ∧ v.Ends id run contended m' := by
    rw [prepared] at prepares
    obtain ⟨shows, session, r, known, fresh, made, knows, readable, about, plain⟩ := prepares
    have safe (rows : r.prepared.handsBack) : contended = false ∨ m.manual :=
      .inl (clear.resolve_right fun text =>
        Bool.false_ne_true ((plain text).not_handsBack.symm.trans rows))
    have makes := step_makes shows.weaken fresh about safe fun free =>
      steady r.prepared (readable free ▸ made)
    rw [stepped] at makes
    exact ⟨known, r.prepared, knows, made, by cases x <;> exact makes⟩
  have executed := executed_of_session sql refines.session
  generalize exec (Connection.execute c sql) s = outcome at executed ⊢
  cases executed with
  | @unprepared fault _ prepared =>
      rw [prepared] at prepares
      subst prepares
      exact ⟨_, .failed sql fault m.lastNumber, refines.carry rfl rfl refines.world⟩
  | blank prepared =>
      rw [prepared] at prepares
      subst prepares
      exact ⟨_, .failed sql _ m.lastNumber, refines.carry rfl rfl refines.world⟩
  | @failed run _ v fault prepared stepped =>
      obtain ⟨known, p, knows, made, m', left, ends⟩ := makes prepared stepped
      have shows := finalize_shows ends
      cases left with
      | kept number => exact ⟨_, .failed sql fault number, refines.carry rfl rfl shows⟩
      | part stops keeps =>
          exact ⟨_, .stopped knows made stops keeps fault,
            refines.carry rfl (Copies.manual_write m _) shows⟩
  | counted prepared stepped =>
      obtain ⟨known, p, knows, made, g, effect, ends⟩ := makes prepared stepped
      exact ⟨_, .executed knows made effect,
        refines.carry rfl (Copies.manual_write m g) (finalize_shows ends)⟩
  | opened prepared stepped =>
      obtain ⟨known, p, knows, made, g, effect, ends⟩ := makes prepared stepped
      refine ⟨_, .executed knows made effect, refines.change
        (f := fun connection => { connection with
          openCursors := connection.openCursors + 1
          holders := connection.holders + 1 }) rfl
        (fun connection autocommit => ⟨rfl, ?_⟩) (reset_shows ends)⟩
      rw [Copies.manual_write m g]
      exact autocommit

/-- A call of a connection takes one step of the two copies of its database. -/
theorem perform_refines (refines : s.Refines c id contended m) {call : TransactionCall}
    (suits : call.suits m.ground)
    (clear : contended = false ∨ ∀ sql, call = .execute sql → isPlain sql) :
    ∃ m', m.Takes contended call (exec (call.on c).perform s).1 m' ∧
      (exec (call.on c).perform s).2.Refines c id contended m' := by
  cases call with
  | setAutocommit enabled => exact setAutocommit_takes refines enabled
  | commit => exact endTransaction_takes refines (.inl ⟨rfl, rfl⟩)
  | rollback => exact endTransaction_takes refines (.inr ⟨rfl, rfl⟩)
  | execute sql =>
      simp only [TransactionCall.suits, Bool.and_eq_true, Bool.not_eq_true'] at suits
      have steady (p : Prepared) (made : programOf m.working sql = some p) :
          p.program.aborts m.ground = false := by
        have none_ := suits.2
        rw [show programOf m.ground.contents sql = some p from made] at none_
        exact none_
      obtain ⟨m', takes, after⟩ := execute_takes refines suits.1 (clear.imp_right fun plain =>
        plain sql rfl) steady
      rw [TransactionCall.on, Command.perform, exec_discard]
      exact ⟨m', takes, after⟩

end Calls

/-! ## Runs of calls -/

/-- What a statement of a session finds. -/
def Engine.World.ground (w : World) (id : Nat) : Ground :=
  ⟨w.contents (w.sessionAt id), (w.sessionAt id).lastNumber⟩

namespace State

/-- The answers to calls of a connection, one after the other. -/
def answers (s : State) (c : Nat) : List TransactionCall → List (Except Error Unit)
  | [] => []
  | call :: rest => (exec (call.on c).perform s).1 :: (exec (call.on c).perform s).2.answers c rest

/-- None of the statements among some calls of a connection controls or takes down a
transaction. -/
def suits (s : State) (c id : Nat) : List TransactionCall → Bool
  | [] => true
  | call :: rest =>
      call.suits (s.world.ground id) && (exec (call.on c).perform s).2.suits c id rest

end State

section Runs

variable {s : State} {c id : Nat} {contended : Bool} {m : Copies}

theorem State.Refines.ground (refines : s.Refines c id contended m) :
    s.world.ground id = m.ground := by
  have here := refines.world.bears.here
  rw [World.ground, here.contents, here.lastNumber]
  rfl

/-- Calls of a connection take steps of the two copies of its database. -/
theorem after_refines (refines : s.Refines c id contended m) {calls : List TransactionCall}
    (suits : s.suits c id calls)
    (clear : contended = false ∨ ∀ sql, .execute sql ∈ calls → isPlain sql) :
    ∃ m', m.Runs contended calls (s.answers c calls) m' ∧
      (s.after (calls.map (TransactionCall.on c))).Refines c id contended m' := by
  induction calls generalizing s m with
  | nil => exact ⟨m, .nil m, refines⟩
  | cons call rest ih =>
      obtain ⟨first, suits⟩ := Bool.and_eq_true_iff.1 suits
      rw [refines.ground] at first
      obtain ⟨m', takes, after⟩ := perform_refines refines first
        (clear.imp_right fun plain sql same =>
        plain sql (same ▸ List.mem_cons_self))
      obtain ⟨m'', runs, ends⟩ := ih after suits (clear.imp_right fun plain sql among =>
        plain sql (List.mem_cons_of_mem _ among))
      exact ⟨m'', .cons takes runs, ends⟩

end Runs

/-! ## Reading -/

/-- A text is a query with columns, and these are its rows over a database, and the failure behind
them. -/
inductive Engine.Contents.Rows (c : Contents) (sql : String) :
    List (List Value) → Option Fault → Prop where
  | intro {ts : List Token} {p : Prepared} {flow : Flow} {rows : List Tuple}
      {ending : Option Fault} (front : Program.front sql.toList = .ok (some ts))
      (made : Program.prepare (.ok c) ts = .ok p) (columns : p.outputs ≠ [])
      (reads : p.program.flow? c = some flow) (pulls : flow.Pulls c rows ending) :
      Rows c sql (rows.map p.values) ending

/-- Queries of a session read the copy that is worked on. -/
theorem Engine.queries_of_shows {id : Nat} {contended : Bool} {m : Copies} {w : World}
    (shows : w.Shows id none contended m) (legible : w.isLegible id) {c : Contents}
    (known : m.working = .ok c) {sql : String} {rows : List (List Value)} {ending : Option Fault}
    (lists : c.Rows sql rows ending) : w.Queries id sql rows ending := by
  obtain ⟨front, made, columns, reads, pulls⟩ := lists
  have legible := World.isLegible_iff.1 legible
  have contents : w.contents (w.sessionAt id) = .ok c := shows.bears.here.contents.trans known
  have seen : w.seen id = c := by
    rw [World.seen, contents]
    rfl
  obtain ⟨found, schema⟩ := exec_schema id w
  obtain rfl := (schema_of_readable schema legible.readable).trans contents
  rw [← seen] at reads pulls
  exact .rows schema front made (isReading_of_flow? reads) columns
    (.read (fun _ => legible) reads pulls)

/-- Executing a query opens a cursor from which its rows can be fetched, and then the end or the
failure; where there is only a failure, that is answered at once. -/
structure State.Lists (s : State) (c : Nat) (sql : String) (rows : List (List Value))
    (ending : Option Fault) : Prop where
  fails : ∀ fault, rows = [] → ending = some fault →
    (exec (Connection.execute c sql) s).1 = .error (.statement fault)
  opens : rows ≠ [] ∨ ending = none → ∃ k t,
    exec (Connection.execute c sql) s = (.ok (.cursor k), t) ∧
      ∀ n, (t.after (List.replicate n (.next k))).FetchesNext k (fetchedAfter rows ending n)

/-- Fetches alone leave what they leave. -/
theorem replicate_supplies {s : State} {k : Nat} {supply : Supply} (supplies : s.Supplies k supply)
    (n : Nat) : (s.after (List.replicate n (.next k))).Supplies k (supply.left n) := by
  induction n generalizing s supply with
  | zero => exact supplies
  | succ n ih =>
      rw [List.replicate_succ, State.after, Command.perform, exec_discard]
      exact ih (next_supplies supplies).2

/-- Queries of a connection read the copy that is worked on. -/
theorem reads_of_refines {s : State} {c id : Nat} {contended : Bool} {m : Copies}
    (refines : s.Refines c id contended m) (legible : s.world.isLegible id) {d : Contents}
    (known : m.working = .ok d) {sql : String} {rows : List (List Value)} {ending : Option Fault}
    (lists : d.Rows sql rows ending) : s.Lists c sql rows ending := by
  obtain ⟨session, found, _⟩ := refines.world.bears
  obtain ⟨fails, opens⟩ := execute_supplies refines.session (by rw [found]; rfl)
    (queries_of_shows refines.world legible known lists)
  refine ⟨fun fault none_ fault_ => ?_, fun shows => ?_⟩
  · obtain ⟨t, executed, _⟩ := fails fault none_ fault_
    rw [executed]
  · obtain ⟨t, executed, supplies⟩ := opens shows
    refine ⟨_, t, executed, fun n => ?_⟩
    have next := (replicate_supplies supplies n).fetchesNext
    rwa [Supply.answer_left] at next

/-! ## From the beginning -/

/-- A connection that is opened shows what was committed, in autocommit. -/
theorem connect_refines {s t : State} {e c : Nat} {source : String} {timeout : Option Nat}
    (connected : exec (Environment.connect e source timeout) s = (.ok (.connection c), t)) :
    ∃ id contended committed, t.Refines c id contended (.start committed) := by
  have connects := Environment.connects s e source timeout
  rw [connected] at connects
  cases connects with
  | opened found isOpen answer bearable =>
      obtain ⟨contended, committed, shows⟩ := connect_shows answer
      exact ⟨_, contended, committed,
        ⟨_, (Pool.get?_insert ..).trans (if_pos rfl), rfl, rfl⟩,
        shows.light (update_light _ none _ (fun _ => rfl) fun _ => rfl)⟩

/-- From when a connection is opened, its transactions are two copies of a database: what is
committed, and what is worked on.  Its calls take steps of them, whether they succeed or fail; a
transaction is open exactly outside of autocommit; and queries read what is worked on.  While
another session has a lock on the file, statements that hand back rows that they change are left
out. -/
theorem transactions_refine_copies {s t : State} {e c : Nat} {source : String}
    {timeout : Option Nat}
    (connected : exec (Environment.connect e source timeout) s = (.ok (.connection c), t)) :
    ∃ id contended committed, t.Refines c id contended (.start committed) ∧
      ∀ calls, t.suits c id calls →
        (contended = false ∨ ∀ sql, .execute sql ∈ calls → isPlain sql) →
        ∃ m u, t.after (calls.map (TransactionCall.on c)) = u ∧
          Copies.Runs contended (.start committed) calls (t.answers c calls) m ∧
          u.Refines c id contended m ∧
          (exec (Connection.autocommit? c) u).1 = .ok (!u.inTransaction c) ∧
          ∀ d sql rows ending, u.world.isLegible id → m.working = .ok d →
            d.Rows sql rows ending → u.Lists c sql rows ending := by
  obtain ⟨id, contended, committed, refines⟩ := connect_refines connected
  refine ⟨id, contended, committed, refines, fun calls suits clear => ?_⟩
  obtain ⟨m, runs, after⟩ := after_refines refines suits clear
  refine ⟨m, _, rfl, runs, after, ?_, fun d sql rows ending legible known lists =>
    reads_of_refines after legible known lists⟩
  obtain ⟨connection, found, session, autocommit⟩ := after.connection
  rw [Connection.autocommit?, exec_bind, exec_sessionOf, after.session]
  dsimp only
  rw [exec_bind, exec_get, State.inTransaction, after.session, Option.any_some,
    after.world.bears.inTransaction]
  dsimp only
  rw [found]
  exact congrArg Except.ok autocommit

/-- A table is made at once; of the rows that are inserted in transactions, the one that is
committed stays. -/
def rowsInTransactions : List TransactionCall :=
  [.execute "CREATE TABLE t(x)", .setAutocommit false, .execute "INSERT INTO t VALUES('a')",
    .setAutocommit false, .commit, .execute "INSERT INTO t VALUES('b')", .rollback,
    .execute "INSERT INTO t VALUES('c')", .setAutocommit true, .commit]

theorem refined_rows_in_transactions :
    ∃ t contended committed m,
      exec (Environment.connect 1 ":memory:" none)
        (State.after {} [.openEnvironment "sqlite3" {}]) = (.ok (.connection 1), t) ∧
      Copies.Runs contended (.start committed) rowsInTransactions
        (t.answers 1 rowsInTransactions) m ∧
      (t.after (rowsInTransactions.map (TransactionCall.on 1))).Refines 1 1 contended m ∧
      (t.after (rowsInTransactions.map (TransactionCall.on 1))).world.rowsOf 1 "t" = some 1 := by
  have connected : exec (Environment.connect 1 ":memory:" none)
      (State.after {} [.openEnvironment "sqlite3" {}]) = (.ok (.connection 1), _) :=
    exec_eq_of_toOption (by decide +kernel)
  obtain ⟨id, contended, committed, refines, runs⟩ := transactions_refine_copies connected
  have session := refines.session
  have session' : sessionAt (exec (Environment.connect 1 ":memory:" none)
      (State.after {} [.openEnvironment "sqlite3" {}])).2.connections 1 = some 1 := by
    decide +kernel
  cases session'.symm.trans session
  have free : contended = false := by
    rw [← refines.world.bears.held]
    decide +kernel
  obtain ⟨m, _, rfl, runs, after, _⟩ := runs rowsInTransactions (by decide +kernel) (.inl free)
  exact ⟨_, contended, committed, m, connected, runs, after, by decide +kernel⟩

end SqlDriver
