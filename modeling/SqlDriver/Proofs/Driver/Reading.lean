/-
# SqlDriver.Proofs.Driver.Reading -- what reading leaves alone

Programs that only read execute queries, fetch from their cursors, and close them or let them go
(`Command.reads`).  Such a command leaves every cursor alone that it is not about: the cursor keeps
its statement, and the statement and the database that it reads are spared
(`perform_untouched`).
-/
import SqlDriver.Proofs.Driver.Lifetime
import SqlDriver.Proofs.Driver.LookAhead
import SqlDriver.Proofs.Driver.OpenCursors
import SqlDriver.Proofs.Engine.Query

namespace SqlDriver

set_option autoImplicit false

open Engine

/-! ## Commands that read -/

/-- A text reads; where it is none that can be made ready, it leaves no trace. -/
def isReading (sql : String) : Bool :=
  match Program.front sql.toList with
  | .ok (some ts) => isReadingText ts
  | _ => true

/-- The statement that a cursor has, by its session and its number there. -/
def State.held (s : State) (k : Nat) : Option (Nat × Nat) :=
  (statementAt s.cursors k).bind fun place =>
    (sessionAt s.connections place.1).map fun id => (id, place.2)

theorem State.Holds.held {s : State} {k id run : Nat} (holds : s.Holds k id run) :
    s.held k = some (id, run) := by
  obtain ⟨c, statement, session⟩ := holds
  simp [State.held, statement, session]

/-- A command executes a text that reads, or is about a cursor whose statement reads. -/
def Command.reads (s : State) : Command → Bool
  | execute _ sql => isReading sql
  | next k | fetchInto k _ _ | closeCursor k | releaseCursor k =>
      (s.held k).all fun place => s.world.isQuery place.1 place.2
  | _ => false

def Command.isAbout (k : Nat) : Command → Bool
  | next j | fetchInto j _ _ | columnNames j | columnTypes j | closeCursor j | retainCursor j
  | releaseCursor j => j = k
  | _ => false

/-- A cursor is left alone: it is what it was, and so is its statement and what that reads. -/
structure Untouched (k : Nat) (s t : State) : Prop where
  next : s.cursors.next ≤ t.cursors.next
  cursor : t.cursors.get? k = s.cursors.get? k
  holds : ∀ id run, s.Holds k id run → t.Holds k id run ∧ Spares id run s.world t.world

instance (k : Nat) : Std.Refl (Untouched k) where
  refl s := ⟨Nat.le_refl _, rfl, fun _ _ holds => ⟨holds, Std.Refl.refl s.world⟩⟩

instance (k : Nat) : IsTrans State (Untouched k) where
  trans _ _ _ first second :=
    ⟨Nat.le_trans first.next second.next, second.cursor.trans first.cursor, fun id run holds =>
      let ⟨between, spares⟩ := first.holds id run holds
      let ⟨after, spares'⟩ := second.holds id run between
      ⟨after, IsTrans.trans _ _ _ spares spares'⟩⟩

/-- What a cursor holds is a matter of the cursor and of its connection's session. -/
theorem State.Holds.congr {s t : State} {k id run : Nat} (holds : s.Holds k id run)
    (cursor : t.cursors.get? k = s.cursors.get? k)
    (session : ∀ c, sessionAt s.connections c = some id → sessionAt t.connections c = some id) :
    t.Holds k id run := by
  obtain ⟨c, statement, there⟩ := holds
  exact ⟨c, by rw [statementAt, cursor]; exact statement, session c there⟩

section Operations

variable {α : Type} (k : Nat) (s : State)

theorem tell_untouched (e : Event) : Leads (Untouched k) (Op.tell e) s :=
  ⟨Nat.le_refl _, rfl, fun _ _ holds => ⟨holds, Std.Refl.refl s.world⟩⟩

theorem engine_untouched {a : Action α}
    (spares : ∀ id run, s.Holds k id run → Spares id run s.world (exec a s.world).2) :
    Leads (Untouched k) (Op.engine a) s :=
  ⟨Nat.le_refl _, rfl, fun id run holds => ⟨holds, spares id run holds⟩⟩

/-- A session reads by way of a statement that the cursor does not have. -/
theorem peeks_untouched {a : Action α} {id run : Nat} (apart : ¬s.Holds k id run)
    (peeks : Leads (Peeks id run) a s.world) : Leads (Untouched k) (Op.engine a) s := by
  refine engine_untouched k s fun id' run' holds => Peeks.spares peeks fun same => apart ?_
  cases same
  exact holds

theorem updateConnection_untouched (c : Nat) {f : Connection → Connection}
    (session : ∀ connection, (f connection).session = connection.session) :
    Leads (Untouched k) (Op.updateConnection c f) s :=
  ⟨Nat.le_refl _, rfl, fun _ _ holds =>
    ⟨holds.congr rfl fun _ there => (sessionAt_modify _ _ _ _ session).trans there,
      Std.Refl.refl s.world⟩⟩

theorem updateCursor_untouched {j : Nat} (away : j ≠ k) (f : Cursor → Cursor) :
    Leads (Untouched k) (Op.updateCursor j f) s := by
  have cursor : (s.cursors.modify j f).get? k = s.cursors.get? k :=
    (Pool.get?_modify ..).trans (if_neg (Ne.symm away))
  exact ⟨Nat.le_refl _, cursor, fun _ _ holds =>
    ⟨holds.congr cursor fun _ there => there, Std.Refl.refl s.world⟩⟩

theorem eraseCursor_untouched {j : Nat} (away : j ≠ k) :
    Untouched k s { s with cursors := s.cursors.erase j } := by
  have cursor : (s.cursors.erase j).get? k = s.cursors.get? k :=
    (Pool.get?_erase ..).trans (if_neg (Ne.symm away))
  exact ⟨Nat.le_refl _, cursor, fun _ _ holds =>
    ⟨holds.congr cursor fun _ there => there, Std.Refl.refl s.world⟩⟩

theorem openCursor_untouched (known : k < s.cursors.next) (c run : Nat)
    (columns : List Binding.Output) :
    Leads (Untouched k) (Connection.openCursor c run columns) s := by
  rw [Leads, exec_openCursor]
  have cursor : (s.cursors.insert (Connection.cursorOver c run columns)).2.get? k =
      s.cursors.get? k :=
    (Pool.get?_insert ..).trans (if_neg (Nat.ne_of_lt known))
  refine ⟨Nat.le_succ _, cursor, fun _ _ holds => ⟨holds.congr cursor fun _ there => ?_,
    Std.Refl.refl s.world⟩⟩
  refine (sessionAt_modify _ _ _ _ ?_).trans there
  exact fun _ => rfl

/-- A cursor other than the one at hand gives up its statement. -/
theorem drop_untouched {j id run : Nat} {cursor : Cursor} (away : j ≠ k)
    (session : sessionAt s.connections cursor.connection = some id)
    (query : s.world.QueryAt id run) (apart : ¬s.Holds k id run) :
    Leads (Untouched k) (Cursor.drop j cursor run) s := by
  have rest (s : State) : Leads (Untouched k)
      (do
        Op.updateCursor j fun k => { k with run := none }
        Connection.cursorClosed cursor.connection) s :=
    .bind (updateCursor_untouched k s away _) fun _ s _ =>
      updateConnection_untouched k s cursor.connection fun _ => rfl
  refine .get_bind ?_
  rw [← sessionAt, session]
  exact .bind (peeks_untouched k s apart (finalize_peeks id run s.world query)) fun _ s _ => rest s

/-- A connection is let go: it serves another session than the cursor's, or others hold it. -/
theorem release_untouched (c : Nat)
    (kept : ∀ id run connection, s.Holds k id run → s.connections.get? c = some connection →
      connection.session = some id → 1 < connection.holders) :
    Leads (Untouched k) (Connection.release c) s := by
  refine .get_bind ?_
  cases found : s.connections.get? c with
  | none => exact .pure _
  | some connection =>
      dsimp only
      by_cases others : 1 < connection.holders
      · rw [if_pos others]
        exact updateConnection_untouched k s c fun _ => rfl
      rw [if_neg others]
      have erases (t : State) (same : t.connections = s.connections ∧ t.cursors = s.cursors) :
          Leads (Untouched k)
            (modify fun s => { s with connections := s.connections.erase c } : Op Unit) t := by
        refine ⟨Nat.le_refl _, rfl, fun id run holds =>
          ⟨holds.congr rfl fun d there => ?_, Std.Refl.refl t.world⟩⟩
        change sessionAt (t.connections.erase c) d = some id
        rw [sessionAt, Pool.get?_erase]
        split
        · next here =>
            subst here
            rw [same.1, sessionAt, found] at there
            have before : s.Holds k id run :=
              holds.congr (by rw [same.2]) fun d there => by rwa [same.1] at there
            exact absurd (kept id run connection before found there) others
        · exact there
      cases serving : connection.session with
      | none => exact erases s ⟨rfl, rfl⟩
      | some id =>
          refine .bind (engine_untouched k s fun id' run holds => disconnect_spares ?_)
            fun _ t disconnected => ?_
          · intro same
            exact others (kept id' run connection holds found (same ▸ serving))
          · rw [exec_engine] at disconnected
            cases disconnected
            exact erases _ ⟨rfl, rfl⟩

end Operations

/-! ## Statements that are what their texts say -/

/-- Whatever the driver does to databases leaves all statements genuine. -/
theorem genuine_upheld : Upholds World.Genuine where
  connect mode source w genuine := connect_honest mode source w genuine
  disconnect id w genuine other run s r there := by
    obtain ⟨session, found⟩ := there
    rw [session?_disconnect] at session
    split at session
    · cases session
    · exact genuine other run s r ⟨session, found⟩
  prepare id sql w genuine := prepare_honest id w sql genuine
  step id run w genuine := step_honest id run w genuine
  reset id run w genuine := reset_honest id run w genuine
  finalize id run w genuine := finalize_honest id run w genuine
  controls id cs w genuine := controls_honest id w cs genuine
  setTimeout id _ w genuine := update_honest_of_runs id w (fun _ => rfl) genuine

/-! ## Commands on other cursors -/

section Commands

variable {k : Nat} {s : State} {deeds : List Deed} (sound : Sound s deeds none)
include sound

/-- A statement that a cursor has is there, below the number of the next one. -/
theorem lt_next_of_holds {id run : Nat} (holds : s.Holds k id run) {session : Session}
    (found : s.world.session? id = some session) : run < session.runs.next := by
  obtain ⟨numbers, there, among⟩ := (sound.live_iff id run).2 ⟨k, holds⟩
  rw [World.statements, found] at there
  cases there
  obtain ⟨entry, member, rfl⟩ := List.mem_map.1 among
  exact session.runs.key_lt_next member

theorem execute_untouched (known : k < s.cursors.next) (c : Nat) {sql : String}
    (reads : isReading sql) : Leads (Untouched k) (Connection.execute c sql) s := by
  unfold Connection.execute
  rw [Leads, exec_bind, exec_sessionOf]
  cases session : sessionAt s.connections c with
  | none => exact Std.Refl.refl s
  | some id =>
      obtain ⟨numbers, served⟩ := sound.matched.served c id session
      obtain ⟨there, found, _⟩ := Option.map_eq_some_iff.1 served
      dsimp only
      rw [exec_bind, exec_engine]
      have spec := prepare_cases id sql.toList s.world
      rcases prepared : exec (Action.prepare id sql.toList) s.world with
        ⟨fault | _ | run, ready⟩ <;> rw [prepared] at spec
      · rw [spec]
        exact Std.Refl.refl s
      · rw [spec]
        exact Std.Refl.refl s
      obtain ⟨fresh, ts, _, _, _, _, ⟨front, _⟩, _⟩ := spec
      have text : isReadingText ts := by simpa [isReading, front] using reads
      obtain ⟨peeks, query⟩ := prepare_peeks id run s.world front text prepared
      have query := query (by rw [found]; rfl)
      -- The new statement has a number of its own, which no cursor holds.
      have apart : ¬s.Holds k id run := fun holds => by
        have below := lt_next_of_holds sound holds found
        rw [fresh, World.sessionAt_of_found found] at below
        exact Nat.lt_irrefl _ below
      have prepares : Untouched k s { s with world := ready } :=
        ⟨Nat.le_refl _, rfl, fun id' run' holds => ⟨holds, peeks.spares fun same => apart (by
          cases same
          exact holds)⟩⟩
      refine IsTrans.trans _ _ _ prepares (?_ : Leads (Untouched k) _ { s with world := ready })
      refine .bind (peeks_untouched k _ apart (step_looks id run ready query).2)
        fun first t stepped =>
        ?_
      rw [exec_engine] at stepped
      cases stepped
      have query := (step_looks id run ready query).1
      split
      · exact .bind (peeks_untouched k _ apart (finalize_peeks id run _ query)) fun _ _ _ =>
          .throw _
      · refine .bind (a := Connection.outputs id run) (.get_bind (.pure _))
          fun columns t looked => ?_
        rw [exec_outputs] at looked
        cases looked
        dsimp only
        split
        · exact .bind (peeks_untouched k _ apart (finalize_peeks id run _ query)) fun _ t _ =>
            .get_bind (.bind (tell_untouched k t _) fun _ _ _ => .pure _)
        · refine .bind (peeks_untouched k _ apart (reset_looks id run _ query).2)
            fun _ t rewound => ?_
          rw [exec_engine] at rewound
          cases rewound
          refine .bind (tell_untouched k _ _) fun _ t told => ?_
          rw [exec_tell] at told
          cases told
          refine .bind (openCursor_untouched k _ ?_ c run _) fun _ _ _ => .pure _
          exact known

variable {j : Nat}

/-- Two cursors have no statement in common. -/
theorem not_holds_of_ne (away : j ≠ k) {id run : Nat} (holds : s.Holds j id run) :
    ¬s.Holds k id run :=
  fun other => away (sound.sole holds other)

/-- The statement of an open cursor. -/
theorem holds_of_running {cursor : Cursor} (found : s.cursors.get? j = some cursor) {run : Nat}
    (running : cursor.run = some run) :
    ∃ id, sessionAt s.connections cursor.connection = some id ∧ s.Holds j id run := by
  have statement : statementAt s.cursors j = some (cursor.connection, run) := by
    simp [statementAt, found, running]
  obtain ⟨id, session, _⟩ := sound.matched.live j _ run statement
  exact ⟨id, session, cursor.connection, statement, session⟩

theorem next_untouched (away : j ≠ k)
    (reads : ∀ id run, s.Holds j id run → s.world.QueryAt id run) :
    Leads (Untouched k) (Cursor.next j) s := by
  refine .get_bind ?_
  cases found : s.cursors.get? j with
  | none => exact .throw _
  | some cursor =>
      dsimp only
      cases running : cursor.run with
      | none => exact .throw _
      | some run =>
          obtain ⟨id, session, holds⟩ := holds_of_running sound found running
          have apart := not_holds_of_ne sound away holds
          have steps := step_looks id run s.world (reads id run holds)
          dsimp only
          rw [Leads, exec_bind, exec_sessionOf, session]
          refine Leads.bind (peeks_untouched k s apart steps.2) fun row t stepped => ?_
          rw [exec_engine] at stepped
          cases stepped
          let t := { s with world := (exec (Action.step id run) s.world).2 }
          have drops : Leads (Untouched k) (Cursor.drop j cursor run) t :=
            drop_untouched k t away session steps.1 apart
          split
          · exact .bind (tell_untouched k _ _) fun _ _ _ => .pure _
          · exact .bind drops fun _ t _ => .bind (tell_untouched k t _) fun _ _ _ => .pure _
          · exact .bind drops fun _ t _ => .bind (tell_untouched k t _) fun _ _ _ => .throw _

theorem close_untouched (away : j ≠ k)
    (reads : ∀ id run, s.Holds j id run → s.world.QueryAt id run) :
    Leads (Untouched k) (Cursor.close j) s := by
  refine .get_bind ?_
  cases found : s.cursors.get? j with
  | none => exact .pure _
  | some cursor =>
      dsimp only
      cases running : cursor.run with
      | none => exact .pure _
      | some run =>
          obtain ⟨id, session, holds⟩ := holds_of_running sound found running
          exact .bind (drop_untouched k s away session (reads id run holds)
            (not_holds_of_ne sound away holds)) fun _ t _ =>
            .bind (tell_untouched k t _) fun _ _ _ => .pure _

/-- What a cursor that was left alone holds, it held before. -/
theorem holds_of_untouched {t : State} (untouched : Untouched k s t) {id run : Nat}
    (holds : t.Holds k id run) : s.Holds k id run := by
  obtain ⟨c, statement, session⟩ := holds
  rw [statementAt, untouched.cursor, ← statementAt] at statement
  obtain ⟨id', session', _⟩ := sound.matched.live k c run statement
  have before : s.Holds k id' run := ⟨c, statement, session'⟩
  obtain ⟨d, statement', after⟩ := (untouched.holds id' run before).1
  rw [statementAt, untouched.cursor, ← statementAt, statement] at statement'
  cases statement'
  cases session.symm.trans after
  exact before

/-- A connection of two cursors has two holders. -/
theorem held_twice {cursor : Cursor} (away : j ≠ k) (found : s.cursors.get? j = some cursor)
    {id run : Nat} (holds : s.Holds k id run) {connection : Connection}
    (serves : s.connections.get? cursor.connection = some connection)
    (session : connection.session = some id) : 1 < connection.holders := by
  obtain ⟨c, statement, there⟩ := holds
  have here : sessionAt s.connections cursor.connection = some id := by
    rw [sessionAt, serves, Option.bind_some, session]
  cases sound.tied.apart c cursor.connection id there here
  have bound := sound.tied.held _ connection serves
  have fewer := Pool.count_erase found (Cursor.isOf cursor.connection)
  have left : 0 < (s.cursors.erase j).count (Cursor.isOpenOf cursor.connection) := by
    have there : statementAt (s.cursors.erase j) k = some (cursor.connection, run) := by
      rw [statementAt, Pool.get?_erase, if_neg (Ne.symm away)]
      exact statement
    exact count_pos_of_statementAt there
  have := count_isOpenOf_le (s.cursors.erase j) cursor.connection
  simp [Cursor.isOf] at fewer bound this
  omega

theorem releaseCursor_untouched (away : j ≠ k)
    (reads : ∀ id run, s.Holds j id run → s.world.QueryAt id run) :
    Leads (Untouched k) (Cursor.release j) s := by
  refine .get_bind ?_
  cases found : s.cursors.get? j with
  | none => exact .pure _
  | some cursor =>
      -- Where the other cursor is of the same connection, that is not let go of for good.
      have rest (t : State) (before : Untouched k s t)
          (same : (t.connections.get? cursor.connection).map Connection.tie =
            (s.connections.get? cursor.connection).map Connection.tie) : Leads (Untouched k)
          (do
            modify fun s => { s with cursors := s.cursors.erase j }
            Connection.release cursor.connection) t := by
        have erased := eraseCursor_untouched k t away
        refine .bind erased fun _ u answer => ?_
        cases answer
        refine release_untouched k _ _ fun id run connection holds serves session => ?_
        have serves : t.connections.get? cursor.connection = some connection := serves
        rw [serves] at same
        obtain ⟨old, served, tie⟩ := Option.map_eq_some_iff.1 same.symm
        obtain ⟨serving, holders⟩ := Prod.mk.inj tie
        have holds := holds_of_untouched sound (IsTrans.trans _ _ _ before erased) holds
        exact holders ▸ held_twice sound away found holds served (serving.trans session)
      dsimp only
      split
      · exact updateCursor_untouched k s away _
      · cases running : cursor.run with
        | none => exact rest s (Std.Refl.refl s) rfl
        | some run =>
            obtain ⟨id, session, holds⟩ := holds_of_running sound found running
            have drops := drop_untouched k s away session (reads id run holds)
              (not_holds_of_ne sound away holds)
            refine .bind drops fun _ t dropped => rest t ?_ ?_
            · rwa [Leads, dropped] at drops
            · have steady := drop_steady s j cursor run
              rw [Leads, dropped] at steady
              exact steady.connections cursor.connection

/-- A command that reads, and is not about a cursor, leaves that alone. -/
theorem perform_untouched (genuine : s.world.Genuine) (known : k < s.cursors.next)
    {command : Command} (reads : command.reads s) (other : command.isAbout k = false) :
    Leads (Untouched k) command.perform s := by
  have forget {α : Type} {op : Op α} (leads : Leads (Untouched k) op s) :
      Leads (Untouched k) (discard op) s :=
    .bind leads fun _ _ _ => .pure _
  have queries {j : Nat} (reads : (s.held j).all fun place => s.world.isQuery place.1 place.2)
      (id run : Nat) (holds : s.Holds j id run) : s.world.QueryAt id run := by
    rw [holds.held] at reads
    exact genuine.queryAt reads
  cases command with
  | execute c sql => exact forget (execute_untouched sound known c reads)
  | next j => exact forget (next_untouched sound (of_decide_eq_false other) (queries reads))
  | fetchInto j target mode =>
      refine forget (.get_bind (.bind (next_untouched sound (of_decide_eq_false other)
        (queries reads)) ?_))
      intro row _ _
      cases row <;> exact .pure _
  | closeCursor j => exact forget (close_untouched sound (of_decide_eq_false other) (queries reads))
  | releaseCursor j =>
      exact releaseCursor_untouched sound (of_decide_eq_false other) (queries reads)
  | _ => cases reads

end Commands

end SqlDriver
