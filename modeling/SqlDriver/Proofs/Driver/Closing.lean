/-
# SqlDriver.Proofs.Driver.Closing -- closing is final and happens once

An environment says that it is closed, a connection has no session, and a cursor has no
statement; a `Resource` is any of the three.  No move opens a resource that was made before
(`Ages`), so what was closed once, in whichever way, stays closed (`stays_closed`), and at most
one closing of it answers true (`closings_once`).  A command that needs a closed resource fails
with the misuse error of its kind and changes nothing (`perform_of_not_isOpen`).

`closing_is_final` collects this for every run of a program.
-/
import SqlDriver.Proofs.Driver.LookAhead
import SqlDriver.Proofs.Driver.Moves

namespace SqlDriver

set_option autoImplicit false

/-! ## Resources -/

/-- What a program can close. -/
inductive Resource where
  | environment (e : Nat)
  | connection (c : Nat)
  | cursor (k : Nat)
deriving DecidableEq, Repr

namespace Resource

/-- The number was given out. -/
def isMade (s : State) : Resource → Bool
  | environment e => e < s.environments.next
  | connection c => c < s.connections.next
  | cursor k => k < s.cursors.next

/-- The resource is there and was not closed. -/
def isOpen (s : State) : Resource → Bool
  | environment e => (s.environments.get? e).any fun env => !env.closed
  | connection c => (s.connections.get? c).any fun connection => !connection.isClosed
  | cursor k => (s.cursors.get? k).any fun cursor => !cursor.isClosed

/-- The resource was made, and then closed or given up. -/
def IsClosed (s : State) (r : Resource) : Prop :=
  r.isMade s ∧ ¬ r.isOpen s

/-- Closes a resource; false if it was closed before. -/
def close : Resource → Op Bool
  | environment e => Environment.close e
  | connection c => Connection.close c
  | cursor k => Cursor.close k

/-- How an operation fails that needs a resource of the kind. -/
def misuse : Resource → Error
  | environment _ => .environmentClosed
  | connection _ => .connectionClosed
  | cursor _ => .cursorClosed

theorem close_moves (s : State) (r : Resource) : Leads Moves r.close s := by
  cases r with
  | environment e => exact closeEnvironment_moves s e
  | connection c => exact closeConnection_moves s c
  | cursor k => exact closeCursor_moves s k

theorem isMade_of_isOpen {s : State} {r : Resource} (isOpen : r.isOpen s) : r.isMade s := by
  cases r <;>
    · obtain ⟨_, found, _⟩ := (Option.any_eq_true ..).1 isOpen
      exact decide_eq_true (Pool.lt_next_of_get? found)

end Resource

/-- The resource that a command needs to be open. -/
def Command.needs : Command → Option Resource
  | connect e _ _ => some (.environment e)
  | execute c _ | commit c | rollback c | setAutocommit c _ | autocommit c | lastNumber c =>
      some (.connection c)
  | next k | fetchInto k _ _ | columnNames k | columnTypes k => some (.cursor k)
  | openEnvironment .. | closeEnvironment _ | closeConnection _ | retainConnection _
  | releaseConnection _ | closeCursor _ | retainCursor _ | releaseCursor _ => none

/-- The resource that a command closes. -/
def Command.closes : Command → Option Resource
  | closeEnvironment e => some (.environment e)
  | closeConnection c => some (.connection c)
  | closeCursor k => some (.cursor k)
  | _ => none

namespace State

/-- What the closings of a resource among some commands answer. -/
def closings (s : State) (r : Resource) : List Command → List (Result Bool)
  | [] => []
  | command :: rest =>
      (if command.closes = some r then [(exec r.close s).1] else []) ++
        (exec command.perform s).2.closings r rest

/-- How often some commands are told that they closed a resource. -/
def timesClosed (s : State) (r : Resource) (commands : List Command) : Nat :=
  (s.closings r commands).countP fun answer => answer.toOption = some true

/-- Each connection keeps its environment alive exactly while it is open. -/
def Paired (s : State) : Prop :=
  ∀ c connection, s.connections.get? c = some connection →
    connection.environment?.isSome = !connection.isClosed

end State

/-- A fetch from a cursor finds the end of its rows, or its step fails. -/
def Command.endsRows (s : State) (k : Nat) : Command → Prop
  | next j => j = k ∧ ((exec (Cursor.next k) s).1 = .ok none ∨
      ∃ fault, (exec (Cursor.next k) s).1 = .error (.statement fault))
  | fetchInto j target mode => j = k ∧
      ((∃ kept, (exec (Cursor.fetchInto k target mode) s).1 = .ok (false, kept)) ∨
        ∃ fault, (exec (Cursor.fetchInto k target mode) s).1 = .error (.statement fault))
  | _ => False

/-! ## Nothing is opened again -/

/-- Keys that were given out stand for nothing live any more, or for what was live before. -/
structure Pool.Retires {α : Type} (live : α → Bool) (p q : Pool α) : Prop where
  next : p.next ≤ q.next
  live : ∀ key, key < p.next → (q.get? key).any live → (p.get? key).any live

namespace Pool

variable {α : Type} {live : α → Bool} {p q r : Pool α}

theorem Retires.refl : Retires live p p :=
  ⟨Nat.le_refl _, fun _ _ => id⟩

theorem Retires.trans (first : Retires live p q) (second : Retires live q r) :
    Retires live p r :=
  ⟨Nat.le_trans first.next second.next, fun key old isLive =>
    first.live key old (second.live key (Nat.lt_of_lt_of_le old first.next) isLive)⟩

theorem retires_insert (item : α) : Retires live p (p.insert item).2 := by
  refine ⟨Nat.le_succ _, fun key old isLive => ?_⟩
  rwa [get?_insert, if_neg (Nat.ne_of_lt old)] at isLive

theorem retires_modify (key : Nat) {f : α → α} (kept : ∀ item, live (f item) → live item) :
    Retires live p (p.modify key f) := by
  refine ⟨Nat.le_refl _, fun other _ isLive => ?_⟩
  rw [get?_modify] at isLive
  split at isLive
  · cases found : p.get? other with
    | none => simp [found] at isLive
    | some item => exact kept item (by simpa [found] using isLive)
  · exact isLive

theorem retires_erase (key : Nat) : Retires live p (p.erase key) := by
  refine ⟨Nat.le_refl _, fun other _ isLive => ?_⟩
  rw [get?_erase] at isLive
  split at isLive
  · cases isLive
  · exact isLive

end Pool

/-- Resources are made and closed; none is opened again. -/
structure Ages (s t : State) : Prop where
  environments : Pool.Retires (fun env => !env.closed) s.environments t.environments
  connections :
    Pool.Retires (fun connection => !connection.isClosed) s.connections t.connections
  cursors : Pool.Retires (fun cursor => !cursor.isClosed) s.cursors t.cursors

namespace Ages

variable {s t u : State} {r : Resource}

theorem trans (first : Ages s t) (second : Ages t u) : Ages s u :=
  ⟨first.environments.trans second.environments, first.connections.trans second.connections,
    first.cursors.trans second.cursors⟩

theorem of_move (move : Move s t) : Ages s t := by
  cases move with
  | rest world events => exact ⟨.refl, .refl, .refl⟩
  | makeEnvironment config => exact ⟨Pool.retires_insert _, .refl, .refl⟩
  | closeEnvironment e =>
      refine ⟨?_, .refl, .refl⟩
      dsimp only
      exact Pool.retires_modify e (by simp)
  | makeConnection id e => exact ⟨.refl, Pool.retires_insert _, .refl⟩
  | changeConnection c session environment =>
      refine ⟨.refl, Pool.retires_modify c fun connection => ?_, .refl⟩
      simp [Connection.isClosed, session]
  | closeConnection c =>
      refine ⟨.refl, ?_, .refl⟩
      dsimp only
      exact Pool.retires_modify c (by simp [Connection.isClosed])
  | eraseConnection c => exact ⟨.refl, Pool.retires_erase c, .refl⟩
  | makeCursor cursor => exact ⟨.refl, .refl, Pool.retires_insert _⟩
  | changeCursor k run =>
      refine ⟨.refl, .refl, Pool.retires_modify k fun cursor => ?_⟩
      simp [Cursor.isClosed, run]
  | closeCursor k =>
      refine ⟨.refl, .refl, ?_⟩
      dsimp only
      exact Pool.retires_modify k (by simp [Cursor.isClosed])
  | eraseCursor k => exact ⟨.refl, .refl, Pool.retires_erase k⟩

theorem of_moves (moves : Moves s t) : Ages s t := by
  induction moves with
  | refl => exact ⟨.refl, .refl, .refl⟩
  | tail _ last ih => exact ih.trans (of_move last)

theorem isMade (ages : Ages s t) (made : r.isMade s) : r.isMade t := by
  cases r with
  | environment e =>
      exact decide_eq_true (Nat.lt_of_lt_of_le (of_decide_eq_true made) ages.environments.next)
  | connection c =>
      exact decide_eq_true (Nat.lt_of_lt_of_le (of_decide_eq_true made) ages.connections.next)
  | cursor k =>
      exact decide_eq_true (Nat.lt_of_lt_of_le (of_decide_eq_true made) ages.cursors.next)

theorem isOpen (ages : Ages s t) (made : r.isMade s) (isOpen : r.isOpen t) : r.isOpen s := by
  cases r with
  | environment e => exact ages.environments.live e (of_decide_eq_true made) isOpen
  | connection c => exact ages.connections.live c (of_decide_eq_true made) isOpen
  | cursor k => exact ages.cursors.live k (of_decide_eq_true made) isOpen

theorem isClosed (ages : Ages s t) (closed : r.IsClosed s) : r.IsClosed t :=
  ⟨ages.isMade closed.1, fun isOpen => closed.2 (ages.isOpen closed.1 isOpen)⟩

end Ages

/-- What was closed once stays closed. -/
theorem stays_closed {s : State} {r : Resource} (closed : r.IsClosed s) (commands : List Command) :
    r.IsClosed (s.after commands) :=
  (Ages.of_moves (after_moves s commands)).isClosed closed

/-! ## What is answered behind -/

section Answers

variable {s t : State} {r : Resource}

theorem closed_of_not_isOpen {e : Nat}
    (shut : ¬ (Resource.environment e).isOpen s) {env : Environment}
    (found : s.environments.get? e = some env) : env.closed = true := by
  simpa [Resource.isOpen, found] using shut

theorem sessionAt_of_not_isOpen {c : Nat} (shut : ¬ (Resource.connection c).isOpen s) :
    sessionAt s.connections c = none := by
  cases found : s.connections.get? c with
  | none => simp [sessionAt, found]
  | some connection => simpa [sessionAt, found, Resource.isOpen, Connection.isClosed] using shut

theorem statementAt_of_not_isOpen {k : Nat} (shut : ¬ (Resource.cursor k).isOpen s) :
    statementAt s.cursors k = none := by
  cases found : s.cursors.get? k with
  | none => simp [statementAt, found]
  | some cursor => simpa [statementAt, found, Resource.isOpen, Cursor.isClosed] using shut

/-- Closing what is closed answers false, and changes nothing. -/
theorem close_of_not_isOpen (shut : ¬ r.isOpen s) : exec r.close s = (.ok false, s) := by
  cases r with
  | environment e =>
      change exec (Environment.close e) s = _
      unfold Environment.close
      rw [exec_bind, exec_get]
      dsimp only
      cases found : s.environments.get? e with
      | none => rfl
      | some env =>
          dsimp only
          rw [closed_of_not_isOpen shut found]
          rfl
  | connection c => exact exec_closeConnection_of_closed (sessionAt_of_not_isOpen shut)
  | cursor k => exact exec_closeCursor_of_closed (statementAt_of_not_isOpen shut)

/-- An open environment is closed by its closing. -/
theorem close_of_environment {e : Nat} (isOpen : (Resource.environment e).isOpen s) :
    exec (Environment.close e) s = (.ok true, { s with
      environments := s.environments.modify e fun env => { env with closed := true }
      events := .environmentClosed :: s.events }) := by
  obtain ⟨env, found, unclosed⟩ := (Option.any_eq_true ..).1 isOpen
  have unclosed : env.closed = false := by simpa using unclosed
  unfold Environment.close
  rw [exec_bind, exec_get]
  dsimp only
  rw [found]
  dsimp only
  rw [unclosed]
  rfl

/-- An open connection is closed by its closing, unless a cursor of it is open. -/
theorem close_of_connection {c : Nat} (isOpen : (Resource.connection c).isOpen s) :
    exec (Connection.close c) s = (.error .openCursors, s) ∨
      ∃ w, exec (Connection.close c) s = (.ok true, { s with
        world := w
        connections := s.connections.modify c fun connection =>
          { connection with session := none, keepsEnvironment := false }
        events := .connectionClosed :: s.events }) := by
  obtain ⟨connection, found, serving⟩ := (Option.any_eq_true ..).1 isOpen
  obtain ⟨id, serving⟩ : ∃ id, connection.session = some id :=
    Option.isSome_iff_exists.1 (by simpa [Connection.isClosed] using serving)
  unfold Connection.close
  rw [exec_bind, exec_get]
  dsimp only
  rw [found]
  dsimp only
  rw [serving]
  dsimp only
  split
  · exact .inl rfl
  · exact .inr ⟨_, rfl⟩

/-- Whether or not its connection is open, a cursor that gives up its statement is closed. -/
theorem drop_detaches (k : Nat) (cursor : Cursor) (run : Nat) :
    ∃ t, exec (Cursor.drop k cursor run) s = (.ok (), t) ∧
      t.cursors = s.cursors.modify k fun cursor => { cursor with run := none } := by
  unfold Cursor.drop
  rw [exec_bind, exec_get]
  dsimp only
  cases (s.connections.get? cursor.connection).bind Connection.session <;> exact ⟨_, rfl, rfl⟩

/-- An open cursor is closed by its closing. -/
theorem close_of_cursor {k : Nat} (isOpen : (Resource.cursor k).isOpen s) :
    ∃ t, exec (Cursor.close k) s = (.ok true, t) ∧
      t.cursors = s.cursors.modify k fun cursor => { cursor with run := none } := by
  obtain ⟨cursor, found, running⟩ := (Option.any_eq_true ..).1 isOpen
  obtain ⟨run, running⟩ : ∃ run, cursor.run = some run :=
    Option.isSome_iff_exists.1 (by simpa [Cursor.isClosed] using running)
  obtain ⟨t, dropped, detached⟩ := drop_detaches (s := s) k cursor run
  refine ⟨{ t with events := .cursorClosed :: t.events }, ?_, detached⟩
  unfold Cursor.close
  rw [exec_bind, exec_get]
  dsimp only
  rw [found]
  dsimp only
  rw [running]
  dsimp only
  rw [exec_bind, dropped]
  rfl

theorem not_isOpen_of_detached {k : Nat}
    (detached : t.cursors = s.cursors.modify k fun cursor => { cursor with run := none }) :
    ¬ (Resource.cursor k).isOpen t := by
  rw [Resource.isOpen, detached, Pool.get?_modify, if_pos rfl]
  cases s.cursors.get? k <;> simp [Cursor.isClosed]

/-- What was open before some moves and is not open behind them is closed. -/
theorem isClosed_of_moves (moves : Moves s t) (isOpen : r.isOpen s) (shut : ¬ r.isOpen t) :
    r.IsClosed t :=
  ⟨(Ages.of_moves moves).isMade (Resource.isMade_of_isOpen isOpen), shut⟩

/-- A closing that answers true closes what was open. -/
theorem isClosed_of_close (closes : exec r.close s = (.ok true, t)) :
    r.isOpen s ∧ r.IsClosed t := by
  have isOpen : r.isOpen s := by
    cases isOpen : r.isOpen s with
    | true => rfl
    | false => cases (close_of_not_isOpen (by simp [isOpen])).symm.trans closes
  have moves := r.close_moves s
  rw [Leads, closes] at moves
  refine ⟨isOpen, isClosed_of_moves moves isOpen ?_⟩
  cases r with
  | environment e =>
      cases (close_of_environment isOpen).symm.trans closes
      rw [Resource.isOpen, Pool.get?_modify, if_pos rfl]
      cases s.environments.get? e <;> simp
  | connection c =>
      obtain refused | ⟨w, closed⟩ := close_of_connection isOpen
      · cases refused.symm.trans closes
      · cases closed.symm.trans closes
        rw [Resource.isOpen, Pool.get?_modify, if_pos rfl]
        cases s.connections.get? c <;> simp [Connection.isClosed]
  | cursor k =>
      obtain ⟨u, closed, detached⟩ := close_of_cursor isOpen
      cases closed.symm.trans closes
      exact not_isOpen_of_detached detached

/-- A command that needs a closed resource fails with the misuse error of its kind, and changes
nothing. -/
theorem perform_of_not_isOpen (shut : ¬ r.isOpen s) {command : Command}
    (needs : command.needs = some r) : exec command.perform s = (.error r.misuse, s) := by
  have forget {α : Type} {op : Op α} {e : Error} (fails : exec op s = (.error e, s)) :
      exec (discard op) s = (.error e, s) := by
    rw [exec_discard, fails]
    rfl
  cases command with
  | connect e source timeout =>
      cases needs
      refine forget ?_
      have connects := Environment.connects s e source timeout
      generalize exec (Environment.connect e source timeout) s = answer at connects ⊢
      have closed {env : Environment} (found : s.environments.get? e = some env)
          (unclosed : env.closed = false) : False := by
        rw [closed_of_not_isOpen shut found] at unclosed
        cases unclosed
      cases connects with
      | closed gone => rfl
      | refused found isOpen answer => exact (closed found isOpen).elim
      | crashed found isOpen answer overlong => exact (closed found isOpen).elim
      | opened found isOpen answer bearable => exact (closed found isOpen).elim
  | execute c sql =>
      cases needs
      exact forget (exec_execute_of_closed (sessionAt_of_not_isOpen shut) sql)
  | commit c | rollback c =>
      cases needs
      exact exec_endTransaction_of_closed (sessionAt_of_not_isOpen shut) _
  | setAutocommit c enabled =>
      cases needs
      exact exec_setAutocommit_of_closed (sessionAt_of_not_isOpen shut) enabled
  | autocommit c | lastNumber c =>
      cases needs
      exact forget (sessionOf_bind_of_closed (sessionAt_of_not_isOpen shut) _)
  | next k =>
      cases needs
      exact forget (exec_next_of_closed (statementAt_of_not_isOpen shut))
  | fetchInto k target mode =>
      cases needs
      refine forget ?_
      rw [exec_fetchInto, exec_next_of_closed (statementAt_of_not_isOpen shut)]
      rfl
  | columnNames k =>
      cases needs
      exact forget (exec_columnNames_of_closed (statementAt_of_not_isOpen shut))
  | columnTypes k =>
      cases needs
      exact forget (exec_columnTypes_of_closed (statementAt_of_not_isOpen shut))
  | openEnvironment _ _ | closeEnvironment _ | closeConnection _ | retainConnection _
  | releaseConnection _ | closeCursor _ | retainCursor _ | releaseCursor _ => cases needs

/-- A cursor whose rows end, or whose step fails, was open and is closed. -/
theorem closed_of_next {k : Nat} (ended : (exec (Cursor.next k) s).1 = .ok none ∨
      ∃ fault, (exec (Cursor.next k) s).1 = .error (.statement fault)) :
    (Resource.cursor k).isOpen s ∧ ¬ (Resource.cursor k).isOpen (exec (Cursor.next k) s).2 := by
  cases statement : statementAt s.cursors k with
  | none =>
      rw [exec_next_of_closed statement] at ended
      obtain ⟨⟨⟩⟩ | ⟨_, ⟨⟩⟩ := ended
  | some place =>
      obtain ⟨cursor, found, running⟩ := Option.bind_eq_some_iff.1 statement
      obtain ⟨run, running, -⟩ := Option.map_eq_some_iff.1 running
      refine ⟨by simp [Resource.isOpen, found, Cursor.isClosed, running], ?_⟩
      cases session : sessionAt s.connections cursor.connection with
      | none =>
          have refused : exec (Cursor.next k) s = (.error .connectionClosed, s) := by
            unfold Cursor.next
            rw [exec_bind, exec_get]
            simp only [found, running]
            exact sessionOf_bind_of_closed session _
          rw [refused] at ended
          obtain ⟨⟨⟩⟩ | ⟨_, ⟨⟩⟩ := ended
      | some id =>
          rw [exec_next ⟨found, running, session⟩] at ended ⊢
          rcases stepped : exec (Engine.Action.step id run) s.world with ⟨fault | _ | row, v⟩
          · exact not_isOpen_of_detached (s := s) rfl
          · exact not_isOpen_of_detached (s := s) rfl
          · rw [stepped] at ended
            obtain ⟨⟨⟩⟩ | ⟨_, ⟨⟩⟩ := ended

theorem isClosed_of_endsRows {k : Nat} {command : Command} (ends : command.endsRows s k) :
    (Resource.cursor k).isOpen s ∧ (Resource.cursor k).IsClosed (exec command.perform s).2 := by
  suffices shut : (Resource.cursor k).isOpen s ∧
      ¬ (Resource.cursor k).isOpen (exec command.perform s).2 from
    ⟨shut.1, isClosed_of_moves (perform_moves s command) shut.1 shut.2⟩
  cases command with
  | next j =>
      obtain ⟨rfl, ended⟩ := ends
      rw [Command.perform, exec_discard]
      exact closed_of_next ended
  | fetchInto j target mode =>
      obtain ⟨rfl, ended⟩ := ends
      rw [Command.perform, exec_discard, exec_fetchInto]
      rw [exec_fetchInto] at ended
      refine closed_of_next ?_
      rcases fetched : (exec (Cursor.next j) s).1 with e | _ | row <;> rw [fetched] at ended
      · obtain ⟨kept, ⟨⟩⟩ | ⟨fault, ⟨⟩⟩ := ended
        exact .inr ⟨fault, rfl⟩
      · exact .inl rfl
      · obtain ⟨kept, ⟨⟩⟩ | ⟨fault, ⟨⟩⟩ := ended
  | _ => cases ends

end Answers

/-! ## Environments of connections -/

section Paired

variable {s t : State}

theorem paired_start (disk : Disk) : State.Paired { world := { disk } } := by
  rintro c connection ⟨⟩

theorem paired_of_move (paired : s.Paired) (move : Move s t) : t.Paired := by
  intro c connection found
  cases move with
  | rest | makeEnvironment | closeEnvironment | makeCursor | changeCursor | closeCursor
  | eraseCursor => exact paired c connection found
  | makeConnection id e =>
      simp only [Pool.get?_insert] at found
      split at found
      · cases found
        rfl
      · exact paired c connection found
  | changeConnection d session environment =>
      simp only [Pool.get?_modify] at found
      split at found
      · obtain ⟨before, there, rfl⟩ := Option.map_eq_some_iff.1 found
        rw [environment, Connection.isClosed, session]
        exact paired c before there
      · exact paired c connection found
  | closeConnection d =>
      simp only [Pool.get?_modify] at found
      split at found
      · obtain ⟨before, there, rfl⟩ := Option.map_eq_some_iff.1 found
        rfl
      · exact paired c connection found
  | eraseConnection d =>
      simp only [Pool.get?_erase] at found
      split at found
      · cases found
      · exact paired c connection found

theorem paired_of_moves (paired : s.Paired) (moves : Moves s t) : t.Paired := by
  induction moves with
  | refl => exact paired
  | tail _ last ih => exact paired_of_move ih last

end Paired

/-! ## Closings in a run -/

section Runs

variable {s : State} {r : Resource}

theorem perform_closes {command : Command} (closes : command.closes = some r) (s : State) :
    (exec command.perform s).2 = (exec r.close s).2 := by
  cases command <;> cases closes <;> rw [Command.perform, exec_discard] <;> rfl

theorem timesClosed_cons (s : State) (r : Resource) (command : Command) (rest : List Command) :
    s.timesClosed r (command :: rest) =
      (if command.closes = some r ∧ (exec r.close s).1.toOption = some true then 1 else 0) +
        (exec command.perform s).2.timesClosed r rest := by
  rw [State.timesClosed, State.closings, List.countP_append]
  by_cases closes : command.closes = some r
  · by_cases now : (exec r.close s).1.toOption = some true <;> simp [closes, now, State.timesClosed]
  · simp [closes, State.timesClosed]

theorem timesClosed_append (s : State) (r : Resource) (front rest : List Command) :
    s.timesClosed r (front ++ rest) =
      s.timesClosed r front + (s.after front).timesClosed r rest := by
  induction front generalizing s with
  | nil => simp [State.timesClosed, State.closings, State.after]
  | cons command front ih =>
      rw [List.cons_append, timesClosed_cons, timesClosed_cons, ih, Nat.add_assoc]
      rfl

/-- A closed resource is not closed again. -/
theorem timesClosed_of_isClosed (closed : r.IsClosed s) (commands : List Command) :
    s.timesClosed r commands = 0 := by
  induction commands generalizing s with
  | nil => rfl
  | cons command rest ih =>
      have later : (exec command.perform s).2.timesClosed r rest = 0 :=
        ih (stays_closed closed [command])
      rw [timesClosed_cons, later, close_of_not_isOpen closed.2]
      exact if_neg (by rintro ⟨-, ⟨⟩⟩)

/-- At most one closing of a resource answers true, and the resource is closed behind it. -/
theorem timesClosed_le_one (s : State) (r : Resource) (commands : List Command) :
    s.timesClosed r commands ≤ 1 ∧
      (s.timesClosed r commands = 1 → r.IsClosed (s.after commands)) := by
  induction commands generalizing s with
  | nil => simp [State.timesClosed, State.closings]
  | cons command rest ih =>
      rw [timesClosed_cons]
      split
      · next closing =>
          have closed : r.IsClosed (exec command.perform s).2 := by
            rw [perform_closes closing.1]
            exact (isClosed_of_close (exec_eq_of_toOption closing.2)).2
          rw [timesClosed_of_isClosed closed rest]
          exact ⟨Nat.le_refl 1, fun _ => stays_closed closed rest⟩
      · rw [Nat.zero_add]
        exact ih _

/-- A cursor whose rows end, or whose step fails, is closed by no closing of the run. -/
theorem timesClosed_of_endsRows {k : Nat} {front rest : List Command} {command : Command}
    (ends : command.endsRows (s.after front) k) :
    s.timesClosed (.cursor k) (front ++ command :: rest) = 0 := by
  obtain ⟨isOpen, closed⟩ := isClosed_of_endsRows ends
  obtain ⟨most, once⟩ := timesClosed_le_one s (.cursor k) front
  have never : s.timesClosed (.cursor k) front ≠ 1 := fun one => (once one).2 isOpen
  have here : command.closes = none := by
    cases command <;> first | rfl | cases ends
  rw [timesClosed_append, timesClosed_cons, here, timesClosed_of_isClosed closed rest,
    if_neg (by simp)]
  omega

end Runs

/-- In every run a resource is closed at most once, and a cursor whose rows ended or failed never:
it is closed by that.  Once closed a resource stays closed; further closings answer false, and
what needs it fails with the misuse error of its kind and changes nothing.  A connection keeps its
environment alive exactly while it is open, and closing the environment closes no connection. -/
theorem closing_is_final (disk : Disk) (commands : List Command) :
    let start : State := { world := { disk } }
    let s := start.after commands
    (∀ r : Resource, start.timesClosed r commands ≤ 1) ∧
    (∀ (r : Resource) t, exec r.close s = (.ok true, t) → r.isOpen s ∧ r.IsClosed t) ∧
    (∀ k command rest, command.endsRows s k →
      (Resource.cursor k).IsClosed (exec command.perform s).2 ∧
        start.timesClosed (.cursor k) (commands ++ command :: rest) = 0) ∧
    (∀ r : Resource, r.IsClosed s → ∀ rest, r.IsClosed (s.after rest) ∧
      exec r.close (s.after rest) = (.ok false, s.after rest) ∧
      ∀ command : Command, command.needs = some r →
        exec command.perform (s.after rest) = (.error r.misuse, s.after rest)) ∧
    (∀ c connection, s.connections.get? c = some connection →
      (connection.environment?.isSome ↔ (Resource.connection c).isOpen s)) ∧
    ∀ e, ∃ closed t, exec (Environment.close e) s = (.ok closed, t) ∧
      t.connections = s.connections ∧ t.cursors = s.cursors ∧ t.world = s.world := by
  intro start s
  refine ⟨fun r => (timesClosed_le_one start r commands).1, fun r t => isClosed_of_close,
    fun k command rest ends => ⟨(isClosed_of_endsRows ends).2, timesClosed_of_endsRows ends⟩,
    fun r closed rest => ?_, fun c connection found => ?_, fun e => ?_⟩
  · have still := stays_closed closed rest
    exact ⟨still, close_of_not_isOpen still.2, fun _ => perform_of_not_isOpen still.2⟩
  · have paired : s.Paired := paired_of_moves (paired_start disk) (after_moves start commands)
    rw [paired c connection found]
    simp [Resource.isOpen, found]
  · cases isOpen : (Resource.environment e).isOpen s with
    | false =>
        have shut : ¬ (Resource.environment e).isOpen s := by simp [isOpen]
        exact ⟨false, s, close_of_not_isOpen shut, rfl, rfl, rfl⟩
    | true => exact ⟨true, _, close_of_environment isOpen, rfl, rfl, rfl⟩

/-- A query of one row, which was fetched. -/
def oneRowFetched : List Command :=
  [.openEnvironment "sqlite3" {}, .connect 1 ":memory:" none, .execute 1 "SELECT 1", .next 1]

/-- The fetch behind the last row closes the cursor, so that closing it is answered false.  Then
the connection can be closed, once, and commits on it are misuse, whatever becomes of its
environment, which it does not keep alive any more. -/
theorem closing_behind_last_row :
    let start : State := {}
    let s := start.after oneRowFetched
    let t := start.after (oneRowFetched ++ [.next 1, .closeConnection 1])
    let u := t.after [.closeEnvironment 1]
    start.timesClosed (.cursor 1) (oneRowFetched ++ [.next 1, .closeCursor 1]) = 0 ∧
      (Resource.cursor 1).IsClosed (exec (Command.next 1).perform s).2 ∧
      exec (Connection.close 1) u = (.ok false, u) ∧
      exec (Command.commit 1).perform u = (.error .connectionClosed, u) ∧
      ∃ connection, t.connections.get? 1 = some connection ∧ ¬ connection.environment?.isSome := by
  intro start s t u
  have last : (exec (Cursor.next 1) s).1.toOption = some none := by decide +kernel
  have ends : (Command.next 1).endsRows s 1 :=
    ⟨rfl, .inl (congrArg Prod.fst (exec_eq_of_toOption last))⟩
  have closed : (Resource.connection 1).IsClosed t := ⟨by decide +kernel, by decide +kernel⟩
  have there : (t.connections.get? 1).isSome := by decide +kernel
  obtain ⟨connection, found⟩ := Option.isSome_iff_exists.1 there
  obtain ⟨_, _, ended, _⟩ := closing_is_final {} oneRowFetched
  obtain ⟨_, _, _, final, keeps, _⟩ :=
    closing_is_final {} (oneRowFetched ++ [.next 1, .closeConnection 1])
  obtain ⟨_, again, misused⟩ := final (.connection 1) closed [.closeEnvironment 1]
  obtain ⟨finished, never⟩ := ended 1 (.next 1) [.closeCursor 1] ends
  exact ⟨never, finished, again, misused (.commit 1) rfl, connection, found,
    mt (keeps 1 connection found).1 closed.2⟩

end SqlDriver
