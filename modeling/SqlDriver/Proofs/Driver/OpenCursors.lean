/-
# SqlDriver.Proofs.Driver.OpenCursors -- a connection counts its open cursors exactly

A connection's count goes up where a cursor is opened and down in four places: at the end
of the rows, when a step fails, when the cursor is closed, and when its last holder lets
go of it.  Every command keeps the count, the cursors, the engine's statements and the book
in balance (`record_stays`), so in every state that a program can reach the account is right
(`history_accounted`).
-/
import SqlDriver.Proofs.Driver.Balance

namespace SqlDriver

set_option autoImplicit false

/-! ## What operations do -/

section Answers

variable {α : Type} (s : State) (deeds : List Deed)

@[simp] theorem exec_lift (op : Op α) :
    exec (Booked.lift op) (s, deeds) = ((exec op s).1, ((exec op s).2, deeds)) := rfl

@[simp] theorem exec_note (d : Deed) :
    exec (Booked.note d) (s, deeds) = (.ok (), (s, d :: deeds)) := rfl

end Answers

namespace Sound

open Engine

variable {s : State} {deeds : List Deed} {c id run : Nat} {pending : Option (Nat × Nat)}

theorem inside (sound : Sound s deeds pending) {v : World} (inside : Inside id s.world v) :
    Sound { s with world := v } deeds pending :=
  ⟨sound.tied, sound.matched.of_same inside.same,
    sound.kept.congr (Nat.le_of_eq inside.next.symm) inside.same⟩

/-- A statement that was prepared is the one that no cursor has yet. -/
theorem prepare (sound : Sound s deeds none) (session : sessionAt s.connections c = some id)
    {v : World} (prepares : Prepares id run s.world v) :
    Sound { s with world := v } (.prepared id run :: deeds) (some (id, run)) := by
  obtain ⟨numbers, served⟩ := sound.matched.served c id session
  have kept := sound.kept.prepare prepares served
  refine ⟨sound.tied, sound.matched.prepare prepares served fun live => ?_, kept⟩
  have before := (sound.kept.live id run live).1
  have after := (kept.live id run ((prepares.live_iff served id run).2 (.inl live))).1
  rw [List.count_cons_self] at after
  omega

/-- A statement that no cursor has is given up, and the book is sound without it. -/
theorem finalize (sound : Sound s deeds (some (id, run))) :
    ∃ t, exec (Booked.finalize id run) (s, deeds) = (.ok (), (t, .finalized id run :: deeds)) ∧
      Sound t (.finalized id run :: deeds) none ∧
      t.connections = s.connections ∧ t.cursors = s.cursors := by
  have finalizes := finalize_spec id run s.world
  obtain ⟨v, answer⟩ : ∃ v, exec (Action.finalize id run) s.world = (.ok (), v) :=
    ⟨_, exec_finalize ..⟩
  rw [answer] at finalizes
  refine ⟨{ s with world := v }, ?_, ⟨sound.tied, sound.matched.finalize finalizes,
    sound.kept.finalize finalizes (sound.matched.waiting id run rfl)⟩, rfl, rfl⟩
  simp only [Booked.finalize, exec_bind, exec_lift, exec_engine, answer, exec_note]

/-- A cursor that is opened takes the statement that no cursor had. -/
theorem openCursor (sound : Sound s deeds (some (id, run)))
    (session : sessionAt s.connections c = some id) (columns : List Binding.Output) :
    Sound (exec (Connection.openCursor c run columns) s).2 deeds none := by
  rw [exec_openCursor]
  obtain ⟨connection, found, _⟩ := Option.bind_eq_some_iff.1 session
  have unheld (k : Nat) : statementAt s.cursors k ≠ some (c, run) := fun there => by
    obtain ⟨other, same, _, free⟩ := sound.matched.live k c run there
    cases same.symm.trans session
    exact free rfl
  refine ⟨sound.tied.open_cursor found rfl rfl unheld,
    sound.matched.open_cursor session (k := s.cursors.next) (fun d => ?_) ?_ fun j => ?_,
    sound.kept⟩
  · exact sessionAt_modify _ _ _ _ fun _ => rfl
  · simp [statementAt, s.cursors.get?_next]
  · rw [statementAt, Pool.get?_insert]
    split <;> rfl

/-- What a cursor is when its statement is given up. -/
theorem statementAt_detached (ks : Pool Cursor) (k j : Nat) :
    statementAt (ks.modify k fun cursor => { cursor with run := none }) j =
      if j = k then none else statementAt ks j := by
  rw [statementAt, Pool.get?_modify]
  split
  · cases found : ks.get? j <;> simp
  · rfl

/-- A cursor that gives up its statement has none, and the book says so. -/
theorem drop (sound : Sound s deeds none) {k : Nat} {cursor : Cursor}
    (found : s.cursors.get? k = some cursor) (running : cursor.run = some run) :
    ∃ t more, exec (Booked.drop k cursor run) (s, deeds) = (.ok (), (t, more)) ∧
      Sound t more none ∧
      t.cursors = s.cursors.modify k fun cursor => { cursor with run := none } := by
  have statement : statementAt s.cursors k = some (cursor.connection, run) := by
    simp [statementAt, found, running]
  obtain ⟨id, session, live, _⟩ := sound.matched.live k _ run statement
  obtain ⟨connection, there, serving⟩ := Option.bind_eq_some_iff.1 session
  -- The cursor lets go first and the engine gives the statement up afterwards; the order in
  -- which the operation does it comes to the same.
  have waiting : Sound { s with
      connections := s.connections.modify cursor.connection fun connection =>
        { connection with openCursors := connection.openCursors - 1 }
      cursors := s.cursors.modify k fun cursor => { cursor with run := none } }
      deeds (some (id, run)) :=
    ⟨sound.tied.detach found running,
      sound.matched.detach sound.tied session statement
        (fun _ => sessionAt_modify _ _ _ _ fun _ => rfl) (statementAt_detached s.cursors k),
      sound.kept⟩
  have finalizes := finalize_spec id run s.world
  obtain ⟨v, answer⟩ : ∃ v, exec (Action.finalize id run) s.world = (.ok (), v) :=
    ⟨_, exec_finalize ..⟩
  rw [answer] at finalizes
  have counted := sound.tied.count_pos found running there
  refine ⟨{ s with
    world := v
    connections := s.connections.modify cursor.connection fun connection =>
      { connection with openCursors := connection.openCursors - 1 }
    cursors := s.cursors.modify k fun cursor => { cursor with run := none } },
    .discounted connection.openCursors :: .finalized id run :: deeds, ?_,
    ⟨waiting.tied, waiting.matched.finalize finalizes,
      (sound.kept.finalize finalizes live).discount counted⟩, rfl⟩
  simp only [Booked.drop, exec_bind, exec_lift, exec_get, there, Option.bind_some, serving,
    Booked.finalize, exec_engine, answer, exec_note, Booked.cursorClosed, Option.map_some,
    Option.getD_some, exec_updateCursor, Connection.cursorClosed, exec_updateConnection]

/-- A connection may change all but its session, its count and too many of its holders. -/
theorem modify_connection (sound : Sound s deeds none) {f : Connection → Connection}
    (session : ∀ connection, (f connection).session = connection.session)
    (openCursors : ∀ connection, (f connection).openCursors = connection.openCursors)
    (holders : ∀ connection, s.connections.get? c = some connection →
      s.cursors.count (Cursor.isOf c) ≤ (f connection).holders) :
    Sound { s with connections := s.connections.modify c f } deeds none where
  tied := sound.tied.modify_connection (fun connection _ there => session connection ▸ there)
    openCursors holders
  matched := sound.matched.congr (fun _ => sessionAt_modify _ _ _ _ session) fun _ => rfl
  kept := sound.kept

/-- A cursor may change all but its connection and its statement. -/
theorem modify_cursor (sound : Sound s deeds none) {k : Nat} {f : Cursor → Cursor}
    (connection : ∀ cursor, (f cursor).connection = cursor.connection)
    (run : ∀ cursor, (f cursor).run = cursor.run) :
    Sound { s with cursors := s.cursors.modify k f } deeds none where
  tied := sound.tied.modify_cursor connection run
  matched := sound.matched.congr (fun _ => rfl) fun _ => statementAt_modify _ _ _ _ connection run
  kept := sound.kept

/-- A connection is let go by one that is no cursor of it. -/
theorem release_connection (sound : Sound s deeds none)
    (held : ∀ connection, s.connections.get? c = some connection →
      s.cursors.count (Cursor.isOf c) < connection.holders) :
    Sound (exec (Connection.release c) s).2 deeds none := by
  unfold Connection.release
  rw [exec_bind, exec_get]
  dsimp only
  cases found : s.connections.get? c with
  | none => exact sound
  | some connection =>
      have holds := held connection found
      dsimp only
      split
      · refine sound.modify_connection (fun _ => rfl) (fun _ => rfl) fun other there => ?_
        cases found.symm.trans there
        dsimp only
        omega
      · have alone : s.cursors.count (Cursor.isOf c) = 0 := by omega
        have closed (k run : Nat) : statementAt s.cursors k ≠ some (c, run) := fun there => by
          have := count_pos_of_statementAt there
          have := count_isOpenOf_le s.cursors c
          omega
        have sessions (d : Nat) : sessionAt (s.connections.erase c) d =
            if d = c then none else sessionAt s.connections d := by
          rw [sessionAt, Pool.get?_erase]
          split <;> rfl
        have tied := sound.tied.erase_connection alone
        cases serving : connection.session with
        | none =>
            have session : sessionAt s.connections c = none := by
              simp [sessionAt, found, serving]
            refine ⟨tied, sound.matched.congr (fun d => (sessions d).trans ?_) fun _ => rfl,
              sound.kept⟩
            split
            · next here => rw [here, session]
            · rfl
        | some id =>
            have session : sessionAt s.connections c = some id := by
              simp [sessionAt, found, serving]
            exact ⟨tied, sound.matched.disconnect sound.tied session closed sessions,
              sound.kept.disconnect (sound.matched.idle sound.tied session closed)⟩

/-- A closed cursor goes, and its hold on the connection with it. -/
theorem release_closed (sound : Sound s deeds none) {k : Nat} {cursor : Cursor}
    (found : s.cursors.get? k = some cursor) (closed : cursor.run = none) :
    Sound (exec (Connection.release cursor.connection)
      { s with cursors := s.cursors.erase k }).2 deeds none := by
  obtain ⟨tied, held⟩ := sound.tied.erase_cursor found closed
  have erased : Sound { s with cursors := s.cursors.erase k } deeds none := by
    refine ⟨tied, sound.matched.congr (fun _ => rfl) fun j => ?_, sound.kept⟩
    rw [statementAt, Pool.get?_erase]
    split
    · next here => simp [statementAt, here, found, closed]
    · rfl
  exact erased.release_connection held

end Sound

/-- After a sound state comes a sound state. -/
def Stays (a b : State × List Deed) : Prop :=
  Sound a.1 a.2 none → Sound b.1 b.2 none

instance : Std.Refl Stays where
  refl _ := id

instance : IsTrans (State × List Deed) Stays where
  trans _ _ _ first second := second ∘ first

section Operations

open Engine

variable (kept : State × List Deed)

theorem execute_stays (c : Nat) (sql : String) : Leads Stays (Booked.execute c sql) kept := by
  obtain ⟨s, deeds⟩ := kept
  intro sound
  unfold Booked.execute
  rw [exec_bind, exec_lift, exec_sessionOf]
  cases session : sessionAt s.connections c with
  | none => exact sound
  | some id =>
      dsimp only
      rw [exec_bind, exec_lift, exec_engine]
      have spec := prepare_spec id sql.toList s.world
      rcases answer : exec (Action.prepare id sql.toList) s.world with ⟨fault | _ | run, v⟩ <;>
        rw [answer] at spec
      · exact sound.inside spec
      · exact sound.inside spec
      · have waiting := (sound.prepare session spec).inside (step_inside id v run)
        dsimp only
        rw [exec_bind, exec_note]
        dsimp only
        rw [exec_bind, exec_lift, exec_engine]
        rcases answer : exec (Action.step id run) v with ⟨fault | row, u⟩ <;>
          rw [answer] at waiting
        · obtain ⟨t, answer, sound, _⟩ := waiting.finalize
          dsimp only
          rw [exec_bind, answer]
          exact sound
        · dsimp only
          rw [exec_bind, exec_lift, exec_outputs]
          dsimp only
          generalize World.outputs u id run = columns
          split
          · obtain ⟨t, answer, sound, _⟩ := waiting.finalize
            rw [exec_bind, answer]
            exact ⟨sound.tied, sound.matched, sound.kept⟩
          · rw [exec_bind, exec_lift, exec_engine]
            dsimp only
            rw [exec_bind, exec_lift, exec_tell]
            have reset := waiting.inside (reset_inside id u run)
            have rewound : Sound { s with
                world := (exec (Action.reset id run) u).2
                events := .cursorOpened columns.length :: s.events }
                (.prepared id run :: deeds) (some (id, run)) :=
              ⟨reset.tied, reset.matched, reset.kept⟩
            have opened := rewound.openCursor (c := c) session columns
            rw [exec_openCursor] at opened
            dsimp only
            rw [exec_bind, exec_lift, exec_openCursor]
            exact opened

/-- A row is asked for; at the end of the rows and at a failure the statement is given up. -/
theorem next_stays (k : Nat) : Leads Stays (Booked.next k) kept := by
  obtain ⟨s, deeds⟩ := kept
  intro sound
  unfold Booked.next
  rw [exec_bind, exec_lift, exec_get]
  dsimp only
  cases found : s.cursors.get? k with
  | none => exact sound
  | some cursor =>
      dsimp only
      cases running : cursor.run with
      | none => exact sound
      | some run =>
          dsimp only
          rw [exec_bind, exec_lift, exec_sessionOf]
          cases session : sessionAt s.connections cursor.connection with
          | none => exact sound
          | some id =>
              dsimp only
              rw [exec_bind, exec_lift, exec_engine]
              have stepped := sound.inside (step_inside id s.world run)
              obtain ⟨t, more, dropped, after, _⟩ := stepped.drop (k := k) found running
              rcases answer : exec (Action.step id run) s.world with ⟨fault | _ | row, u⟩ <;>
                rw [answer] at stepped dropped
              · dsimp only
                rw [exec_bind, dropped]
                exact ⟨after.tied, after.matched, after.kept⟩
              · dsimp only
                rw [exec_bind, dropped]
                exact ⟨after.tied, after.matched, after.kept⟩
              · exact ⟨stepped.tied, stepped.matched, stepped.kept⟩

theorem fetchInto_stays (k : Nat) (target : Target) (mode : FetchMode) :
    Leads Stays (Booked.fetchInto k target mode) kept := by
  refine .bind (Std.Refl.refl kept) fun s kept _ => .bind (next_stays kept k) fun row kept _ => ?_
  cases row <;> exact .pure _

theorem close_stays (k : Nat) : Leads Stays (Booked.close k) kept := by
  obtain ⟨s, deeds⟩ := kept
  intro sound
  unfold Booked.close
  rw [exec_bind, exec_lift, exec_get]
  dsimp only
  cases found : s.cursors.get? k with
  | none => exact sound
  | some cursor =>
      dsimp only
      cases running : cursor.run with
      | none => exact sound
      | some run =>
          obtain ⟨t, more, dropped, after, _⟩ := sound.drop found running
          dsimp only
          rw [exec_bind, dropped]
          exact ⟨after.tied, after.matched, after.kept⟩

theorem release_stays (k : Nat) : Leads Stays (Booked.release k) kept := by
  obtain ⟨s, deeds⟩ := kept
  intro sound
  unfold Booked.release
  rw [exec_bind, exec_lift, exec_get]
  dsimp only
  cases found : s.cursors.get? k with
  | none => exact sound
  | some cursor =>
      dsimp only
      split
      · exact sound.modify_cursor (fun _ => rfl) fun _ => rfl
      · cases running : cursor.run with
        | none => exact sound.release_closed found running
        | some run =>
            obtain ⟨t, more, dropped, after, cursors⟩ := sound.drop found running
            have closed : t.cursors.get? k = some { cursor with run := none } := by
              rw [cursors, Pool.get?_modify, if_pos rfl, found]
              rfl
            dsimp only
            rw [exec_bind, dropped]
            have released := after.release_closed closed rfl
            exact released

end Operations

/-- After a sound state comes one that is sound with the same book. -/
def Fits (s t : State) : Prop :=
  ∀ deeds, Sound s deeds none → Sound t deeds none

instance : Std.Refl Fits where
  refl _ _ := id

instance : IsTrans State Fits where
  trans _ _ _ first second deeds := second deeds ∘ first deeds

section Others

open Engine

variable (s : State) (c k : Nat)

theorem tell_fits (e : Event) : Leads Fits (Op.tell e) s :=
  fun _ sound => ⟨sound.tied, sound.matched, sound.kept⟩

theorem openNamed_fits (driver : String) (config : Config) :
    Leads Fits (Environment.openNamed driver config) s := by
  unfold Environment.openNamed
  split
  · exact fun _ sound => ⟨sound.tied, sound.matched, sound.kept⟩
  · exact .throw _

theorem closeEnvironment_fits (e : Nat) : Leads Fits (Environment.close e) s := by
  refine .get_bind ?_
  split
  · exact .pure _
  · split
    · exact .pure _
    · exact fun _ sound => ⟨sound.tied, sound.matched, sound.kept⟩

theorem connect_fits (e : Nat) (source : String) (timeout : Option Nat) :
    Leads Fits (Environment.connect e source timeout) s := by
  refine .get_bind ?_
  split
  · exact .throw _
  · next env _ =>
      split
      · exact .throw_bind ..
      · intro deeds sound
        rw [exec_bind, exec_engine]
        have spec := connect_spec (Environment.openMode env.config) source s.world
        rcases answer : exec (Action.connect (Environment.openMode env.config) source) s.world with
          ⟨fault | id, v⟩ <;> rw [answer] at spec
        · have same (other : Nat) : v.statements other = s.world.statements other := by
            rw [World.statements, World.session?, spec]
            rfl
          have next : s.world.sessions.next ≤ v.sessions.next := Nat.le_of_eq (by rw [spec])
          exact ⟨sound.tied, sound.matched.of_same same, sound.kept.congr next same⟩
        · dsimp only
          split
          · have same (other : Nat) : (exec (Action.disconnect id) v).2.statements other =
                s.world.statements other := by
              rw [World.statements, session?_disconnect]
              split
              · next here =>
                  cases before : s.world.statements other with
                  | none => rfl
                  | some numbers =>
                      have := World.lt_next_of_statements before
                      rw [here, spec.fresh] at this
                      exact absurd this (Nat.lt_irrefl _)
              · next away => rw [spec.elsewhere other away, World.statements]
            have next : s.world.sessions.next ≤ v.sessions.next :=
              spec.next ▸ spec.fresh ▸ Nat.le_succ _
            exact ⟨sound.tied, sound.matched.of_same same, sound.kept.congr next same⟩
          · have sessions (d : Nat) : sessionAt
                (s.connections.insert { session := some id, environment := e }).2 d =
                  if d = s.connections.next then some id else sessionAt s.connections d := by
              rw [sessionAt, Pool.get?_insert]
              split <;> rfl
            have told := spec.setTimeout (timeout.orElse fun _ => env.config.busyTimeout)
            refine ⟨sound.tied.insert_connection rfl fun c other there same => ?_,
              sound.matched.connect told sessions fun k run there => ?_, sound.kept.connect told⟩
            · cases same
              obtain ⟨numbers, before⟩ := sound.matched.served c _ there
              have := World.lt_next_of_statements before
              rw [spec.fresh] at this
              exact Nat.lt_irrefl _ this
            · obtain ⟨other, session, _⟩ := sound.matched.live k _ run there
              obtain ⟨connection, found, _⟩ := Option.bind_eq_some_iff.1 session
              cases found.symm.trans (Pool.get?_next _)

theorem control_fits (cs : List Control) : Leads Fits (Connection.control c cs) s := by
  intro deeds sound
  unfold Connection.control
  rw [exec_bind, exec_sessionOf]
  cases sessionAt s.connections c with
  | none => exact sound
  | some id => exact sound.inside (controls_inside id s.world cs)

theorem endTransaction_fits (how : Control) :
    Leads Fits (Connection.endTransaction c how) s := by
  refine .get_bind (.bind (control_fits s c _) fun answer s _ => ?_)
  cases answer with
  | ok _ => exact .pure _
  | error fault => exact .throw _

theorem setAutocommit_fits (enabled : Bool) :
    Leads Fits (Connection.setAutocommit c enabled) s := by
  refine .bind (sessionOf_leads s c) fun _ s _ => .bind (fun deeds sound => ?_) fun _ s _ => ?_
  · exact sound.modify_connection (fun _ => rfl) (fun _ => rfl)
      fun connection there => sound.tied.held c connection there
  · split
    · refine .bind (control_fits s c _) fun answer s _ => ?_
      cases answer with
      | ok _ => exact .pure _
      | error fault => exact tell_fits s _
    · refine .bind (control_fits s c _) fun answer s _ => ?_
      cases answer with
      | ok _ => exact .pure _
      | error fault => exact .throw _

/-- A connection without open cursors is closed. -/
theorem closeConnection_fits : Leads Fits (Connection.close c) s := by
  intro deeds sound
  unfold Connection.close
  rw [exec_bind, exec_get]
  dsimp only
  cases found : s.connections.get? c with
  | none => exact sound
  | some connection =>
      dsimp only
      cases serving : connection.session with
      | none => exact sound
      | some id =>
          have session : sessionAt s.connections c = some id := by
            simp [sessionAt, found, serving]
          dsimp only
          split
          · exact sound
          · have counted := sound.tied.counted c connection found
            have closed (k run : Nat) : statementAt s.cursors k ≠ some (c, run) := fun there => by
              have := count_pos_of_statementAt there
              omega
            have sessions (d : Nat) : sessionAt (s.connections.modify c fun connection =>
                { connection with session := none, keepsEnvironment := false }) d =
                  if d = c then none else sessionAt s.connections d := by
              rw [sessionAt, Pool.get?_modify]
              split
              · cases s.connections.get? d <;> rfl
              · rfl
            have tied : Tied (s.connections.modify c fun connection =>
                { connection with session := none, keepsEnvironment := false }) s.cursors :=
              sound.tied.modify_connection (fun _ _ none_ => by simp at none_) (fun _ => rfl)
                (sound.tied.held c)
            exact ⟨tied,
              sound.matched.disconnect sound.tied session closed sessions,
              sound.kept.disconnect (sound.matched.idle sound.tied session closed)⟩

theorem retainConnection_fits : Leads Fits (Connection.retain c) s := by
  intro deeds sound
  exact sound.modify_connection (fun _ => rfl) (fun _ => rfl)
    fun connection there => Nat.le_succ_of_le (sound.tied.held c connection there)

theorem releaseHeld_fits : Leads Fits (Connection.releaseHeld c) s := by
  refine .get_bind ?_
  split
  · next holds =>
      intro deeds sound
      refine sound.release_connection fun connection found => ?_
      rw [State.programHolds, found, Option.any_some, State.cursorsOf] at holds
      exact of_decide_eq_true holds
  · exact .pure _

theorem retainCursor_fits : Leads Fits (Cursor.retain k) s := by
  intro deeds sound
  exact sound.modify_cursor (fun _ => rfl) fun _ => rfl

end Others

/-! ## Every command -/

theorem record_stays (command : Command) (kept : State × List Deed) :
    Leads Stays command.record kept := by
  have forget {α : Type} {a : Booked α} (leads : Leads Stays a kept) :
      Leads Stays (discard a) kept :=
    .bind leads fun _ _ _ => .pure _
  have plain {α : Type} {op : Op α} (leads : Leads Fits op kept.1) :
      Leads Stays (Booked.lift (discard op)) kept :=
    (Leads.bind leads fun _ _ _ => .pure _ : Leads Fits (discard op) kept.1) kept.2
  have bare {op : Op Unit} (leads : Leads Fits op kept.1) : Leads Stays (Booked.lift op) kept :=
    leads kept.2
  cases command with
  | openEnvironment driver config => exact plain (openNamed_fits kept.1 driver config)
  | closeEnvironment e => exact plain (closeEnvironment_fits kept.1 e)
  | connect e source timeout => exact plain (connect_fits kept.1 e source timeout)
  | execute c sql => exact forget (execute_stays kept c sql)
  | commit c => exact bare (endTransaction_fits kept.1 c .commit)
  | rollback c => exact bare (endTransaction_fits kept.1 c .rollback)
  | setAutocommit c enabled => exact bare (setAutocommit_fits kept.1 c enabled)
  | autocommit c => exact plain (autocommit_leads kept.1 c)
  | lastNumber c => exact plain (lastNumber_leads kept.1 c)
  | closeConnection c => exact plain (closeConnection_fits kept.1 c)
  | retainConnection c => exact bare (retainConnection_fits kept.1 c)
  | releaseConnection c => exact bare (releaseHeld_fits kept.1 c)
  | next k => exact forget (next_stays kept k)
  | fetchInto k target mode => exact forget (fetchInto_stays kept k target mode)
  | columnNames k => exact plain (columnNames_leads kept.1 k)
  | columnTypes k => exact plain (columnTypes_leads kept.1 k)
  | closeCursor k => exact forget (close_stays kept k)
  | retainCursor k => exact bare (retainCursor_fits kept.1 k)
  | releaseCursor k => exact release_stays kept k

theorem sound_start (disk : Disk) : Sound { world := { disk } } [] none where
  tied := by constructor <;> simp [statementAt, sessionAt]
  matched := by
    constructor <;> simp [statementAt, sessionAt, Engine.World.Live, Engine.World.statements,
      Engine.World.session?]
  kept := by
    constructor <;> simp [Engine.World.Live, Engine.World.statements, Engine.World.session?]

theorem history_sound (disk : Disk) (commands : List Command) :
    Sound (history disk commands).1 (history disk commands).2 none := by
  have along (kept : State × List Deed) (sound : Sound kept.1 kept.2 none) :
      let after := commands.foldl (fun kept command => (exec command.record kept).2) kept
      Sound after.1 after.2 none := by
    induction commands generalizing kept with
    | nil => exact sound
    | cons command rest ih => exact ih _ (record_stays command kept sound)
  exact along _ (sound_start disk)

/-! ## The account -/

/-- A cursor has a statement that is still there. -/
def State.Holds (s : State) (k id run : Nat) : Prop :=
  ∃ c, statementAt s.cursors k = some (c, run) ∧ sessionAt s.connections c = some id

/-- Connections count their open cursors, and the book agrees. -/
structure Accounted (s : State) (deeds : List Deed) : Prop where
  /-- A connection's count is the number of its cursors whose statements are still there. -/
  counted : ∀ c connection, s.connections.get? c = some connection →
    connection.openCursors = s.cursors.count (Cursor.isOpenOf c)
  /-- A closed connection has no such cursor. -/
  closed : ∀ c connection, s.connections.get? c = some connection → connection.isClosed →
    ∀ k cursor, s.cursors.get? k = some cursor → ¬cursor.isOpenOf c
  /-- Such a cursor has a statement that no other cursor has. -/
  holds : ∀ k cursor c, s.cursors.get? k = some cursor → cursor.isOpenOf c → ∃ id run,
    s.Holds k id run ∧ ∀ j, s.Holds j id run → j = k
  /-- A statement that a cursor has was made ready once and not given up. -/
  kept : ∀ k id run, s.Holds k id run →
    deeds.count (.prepared id run) = 1 ∧ deeds.count (.finalized id run) = 0
  /-- Every other one that was made ready, was made ready once and given up once. -/
  given : ∀ id run, (∀ k, ¬s.Holds k id run) →
    deeds.count (.finalized id run) = deeds.count (.prepared id run) ∧
      deeds.count (.prepared id run) ≤ 1
  /-- A count was lowered only where it was not zero. -/
  discounted : ∀ before, Deed.discounted before ∈ deeds → 0 < before
  /-- Closing an open connection fails for open cursors exactly if it has some. -/
  refused : ∀ c connection, s.connections.get? c = some connection → ¬connection.isClosed →
    ((exec (Connection.close c) s).1 = .error .openCursors ↔
      ∃ k cursor, s.cursors.get? k = some cursor ∧ cursor.isOpenOf c)

namespace Sound

variable {s : State} {deeds : List Deed}

theorem live_iff (sound : Sound s deeds none) (id run : Nat) :
    s.world.Live id run ↔ ∃ k, s.Holds k id run := by
  constructor
  · intro live
    obtain ⟨k, c, statement, session⟩ := (sound.matched.covered id run live).resolve_left (by simp)
    exact ⟨k, c, statement, session⟩
  · rintro ⟨k, c, statement, session⟩
    obtain ⟨other, found, live, _⟩ := sound.matched.live k c run statement
    cases found.symm.trans session
    exact live

theorem sole (sound : Sound s deeds none) {j k id run : Nat} (first : s.Holds j id run)
    (second : s.Holds k id run) : j = k := by
  obtain ⟨c, held, session⟩ := first
  obtain ⟨d, held', session'⟩ := second
  cases sound.tied.apart c d id session session'
  exact sound.tied.sole j k _ held held'

/-- An open cursor has a statement, and its connection is open. -/
theorem holds_of_open (sound : Sound s deeds none) {k c : Nat} {cursor : Cursor}
    (found : s.cursors.get? k = some cursor) (isOpen : cursor.isOpenOf c) :
    ∃ id run, s.Holds k id run ∧ sessionAt s.connections c = some id := by
  obtain ⟨of, unclosed⟩ := Bool.and_eq_true_iff.1 isOpen
  have here : cursor.connection = c := of_decide_eq_true of
  cases running : cursor.run with
  | none => simp [Cursor.isClosed, running] at unclosed
  | some run =>
      have statement : statementAt s.cursors k = some (c, run) := by
        simp [statementAt, found, running, here]
      obtain ⟨id, session, _⟩ := sound.matched.live k c run statement
      exact ⟨id, run, ⟨c, statement, session⟩, session⟩

theorem accounted (sound : Sound s deeds none) : Accounted s deeds where
  counted := sound.tied.counted
  closed c connection found isClosed k cursor there isOpen := by
    obtain ⟨id, run, _, session⟩ := sound.holds_of_open there isOpen
    rw [sessionAt, found, Option.bind_some] at session
    simp [Connection.isClosed, session] at isClosed
  holds k cursor c there isOpen := by
    obtain ⟨id, run, holds, _⟩ := sound.holds_of_open there isOpen
    exact ⟨id, run, holds, fun j other => sound.sole other holds⟩
  kept k id run holds := sound.kept.live id run ((sound.live_iff id run).2 ⟨k, holds⟩)
  given id run unheld := sound.kept.gone id run fun live => by
    obtain ⟨k, holds⟩ := (sound.live_iff id run).1 live
    exact unheld k holds
  discounted := sound.kept.discounted
  refused c connection found isOpen := by
    rw [← Pool.count_pos_iff, ← sound.tied.counted c connection found]
    unfold Connection.close
    rw [exec_bind, exec_get]
    cases serving : connection.session with
    | none => simp [Connection.isClosed, serving] at isOpen
    | some id =>
        simp only [found, serving]
        split
        · next some_ => simpa [exec_bind] using some_
        · next none_ =>
            simp only [exec_bind, exec_engine, exec_updateConnection, exec_tell, exec_pure]
            simpa using none_

end Sound

/-- Whatever commands a program gives, in whatever order and whether they fail or not:
every connection counts its open cursors exactly, every statement is given up once when its
cursor loses it, and a connection can be closed exactly when no cursor of it is open. -/
theorem history_accounted (disk : Disk) (commands : List Command) :
    (history disk commands).1 = State.after { world := { disk } } commands ∧
      Accounted (history disk commands).1 (history disk commands).2 :=
  ⟨history_state disk commands, (history_sound disk commands).accounted⟩

end SqlDriver
