/-
# SqlDriver.Proofs.Driver.ManualTransaction -- transactions outside of autocommit

Outside of autocommit a connection ends a transaction and begins the next one in one
batch, which stops where its first half fails.  So a transaction is open behind `commit`
and `rollback` exactly if one was open in front of them (`transaction_after_ending`):
once a statement has ended the transaction on its own, neither of them opens another, and
what is written then is permanent at once (`rollback_leaves_none`).  Where one is open,
whatever the connection does keeps it back until a commit succeeds or no transaction is
open any more (`permanent_of_inTransaction`).
-/
import SqlDriver.Proofs.Driver.Command
import SqlDriver.Proofs.Engine.Transaction

namespace SqlDriver

set_option autoImplicit false

open Engine

/-! ## Transactions of connections -/

namespace State

/-- A connection is open, and autocommit is off. -/
def manual (s : State) (c : Nat) : Bool :=
  (s.connections.get? c).any fun connection => !connection.isClosed && !connection.autocommit

/-- A connection is open, and the engine has a transaction open for it. -/
def inTransaction (s : State) (c : Nat) : Bool :=
  (sessionAt s.connections c).any s.world.inTransaction

/-- The database of a connection as it was committed last. -/
def permanent (s : State) (c : Nat) : Option (Outcome Contents) :=
  ((sessionAt s.connections c).bind s.world.session?).map s.world.committed

/-- A connection is manual if it is open and was told so. -/
theorem manual_iff {s : State} {c : Nat} :
    s.manual c ↔ ∃ connection id, s.connections.get? c = some connection ∧
      connection.session = some id ∧ connection.autocommit = false := by
  cases found : s.connections.get? c with
  | none => simp [manual, found]
  | some connection =>
      cases serving : connection.session <;>
        simp [manual, found, Connection.isClosed, serving]

theorem inTransaction_iff {s : State} {c : Nat} :
    s.inTransaction c ↔ ∃ id, sessionAt s.connections c = some id ∧ s.world.inTransaction id := by
  cases found : sessionAt s.connections c <;> simp [inTransaction, found]

end State

/-- A command is a call on a connection, or on a cursor of it. -/
def Command.isOn (s : State) (c : Nat) : Command → Bool
  | execute d _ | commit d | rollback d | setAutocommit d _ | autocommit d | lastNumber d
  | closeConnection d | retainConnection d | releaseConnection d => d = c
  | next k | fetchInto k _ _ | columnNames k | columnTypes k | closeCursor k | retainCursor k
  | releaseCursor k => (s.cursors.get? k).any (Cursor.isOf c)
  | openEnvironment .. | closeEnvironment _ | connect .. => false

/-! ## What calls on a connection do to its session -/

/-- A relation of worlds as one of states, in which a connection may lose its session but
gets no other one. -/
structure Along (r : World → World → Prop) (c : Nat) (s t : State) : Prop where
  session : ∀ id, sessionAt t.connections c = some id → sessionAt s.connections c = some id
  world : r s.world t.world

section Along

variable {p q r : World → World → Prop} {c : Nat}

instance [Std.Refl r] : Std.Refl (Along r c) where
  refl s := ⟨fun _ same => same, Std.Refl.refl s.world⟩

instance [Trans p q r] : Trans (Along p c) (Along q c) (Along r c) where
  trans first second :=
    ⟨fun id there => first.session id (second.session id there),
      Trans.trans first.world second.world⟩

instance [IsTrans World r] : IsTrans State (Along r c) where
  trans _ _ _ first second :=
    ⟨fun id there => first.session id (second.session id there),
      IsTrans.trans _ _ _ first.world second.world⟩

theorem Along.mono (allows : ∀ w v, r w v → q w v) {s t : State} (along : Along r c s t) :
    Along q c s t :=
  ⟨along.session, allows _ _ along.world⟩

theorem engine_along {α : Type} {a : Action α} {s : State} (leads : Leads r a s.world) :
    Leads (Along r c) (Op.engine a) s :=
  ⟨fun _ same => same, leads⟩

variable [Std.Refl r]

theorem tell_along (e : Event) (s : State) : Leads (Along r c) (Op.tell e) s :=
  ⟨fun _ same => same, Std.Refl.refl s.world⟩

theorem updateConnection_along (d : Nat) {f : Connection → Connection} (s : State)
    (session : ∀ connection id, (f connection).session = some id → connection.session = some id) :
    Leads (Along r c) (Op.updateConnection d f) s :=
  ⟨fun id there => sessionAt_of_modify (session · id) there, Std.Refl.refl s.world⟩

theorem updateCursor_along (k : Nat) (f : Cursor → Cursor) (s : State) :
    Leads (Along r c) (Op.updateCursor k f) s :=
  ⟨fun _ same => same, Std.Refl.refl s.world⟩

end Along

/-! ## What calls do to the transaction -/

section Calls

variable {id c : Nat} {s : State}

/-- A connection that loses its session has no transaction open. -/
theorem disconnect_settles (w : World) : Leads (Settles id) (Action.disconnect id) w := by
  intro isOpen
  have gone : (exec (Action.disconnect id) w).2.inTransaction id = false := by
    rw [World.inTransaction, session?_disconnect, if_pos rfl]
    rfl
  rw [gone] at isOpen
  cases isOpen

theorem sessionOf_bind {α : Type} {r : World → World → Prop} {f : Nat → Op α}
    (session : sessionAt s.connections c = some id) (rest : Leads (Along r c) (f id) s) :
    Leads (Along r c) (Connection.sessionOf c >>= f) s := by
  rw [Leads, exec_bind, exec_sessionOf, session]
  exact rest

theorem openCursor_along {r : World → World → Prop} [Std.Refl r] [IsTrans World r] (run : Nat)
    (columns : List Binding.Output) : Leads (Along r c) (Connection.openCursor c run columns) s :=
  .bind (updateConnection_along c s fun _ _ same => same) fun _ s _ =>
    .bind (updateConnection_along c s fun _ _ same => same) fun _ s _ =>
      ⟨fun _ same => same, Std.Refl.refl s.world⟩

/-- A step, and what only settles behind it. -/
theorem step_bind {α : Type} {run : Nat} {f : Except Fault (Option Tuple) → Op α}
    (rest : ∀ row t, exec (Op.engine (Action.step id run)) s = (.ok row, t) →
      Leads (Along (Settles id) c) (f row) t) :
    Leads (Along (Guards id) c) (Op.engine (Action.step id run) >>= f) s :=
  .bind_trans (p := Along (Guards id) c) (q := Along (Settles id) c)
    (engine_along (step_guards id run s.world)) rest

theorem execute_guards (session : sessionAt s.connections c = some id) (sql : String) :
    Leads (Along (Guards id) c) (Connection.execute c sql) s := by
  refine sessionOf_bind session ?_
  refine .bind_trans (p := Along (Quiet id) c) (q := Along (Guards id) c)
    (engine_along (prepare_quiet id s.world sql.toList)) fun prepared s _ => ?_
  rcases prepared with fault | _ | run
  · exact .throw _
  · exact .throw _
  · refine step_bind fun first s _ => ?_
    have finalizes (s : State) :
        Leads (Along (Settles id) c) (Op.engine (Action.finalize id run)) s :=
      engine_along (finalize_settles id run s.world)
    cases first with
    | error fault => exact .bind (finalizes s) fun _ _ _ => .throw _
    | ok row =>
        refine .bind (a := Connection.outputs id run) (.get_bind (.pure _)) fun columns s _ => ?_
        dsimp only
        split
        · exact .bind (finalizes s) fun _ s _ => .get_bind (.bind (tell_along _ s) fun _ _ _ =>
            .pure _)
        · exact .bind (engine_along (reset_settles id run s.world)) fun _ s _ =>
            .bind (tell_along _ s) fun _ s _ => .bind (openCursor_along run columns) fun _ _ _ =>
              .pure _

/-- Giving up a statement of a connection settles its session at most. -/
theorem drop_settles (session : sessionAt s.connections c = some id) {k : Nat} {cursor : Cursor}
    (of : cursor.connection = c) (run : Nat) :
    Leads (Along (Settles id) c) (Cursor.drop k cursor run) s := by
  have rest (s : State) : Leads (Along (Settles id) c) (do
      Op.updateCursor k fun k => { k with run := none }
      Connection.cursorClosed cursor.connection) s :=
    .bind (updateCursor_along k _ s) fun _ s _ =>
      updateConnection_along _ s fun _ _ same => same
  refine .get_bind ?_
  rw [of]
  change (s.connections.get? c).bind Connection.session = some id at session
  simp only [session]
  exact .bind (engine_along (finalize_settles id run s.world)) fun _ s _ => of ▸ rest s

/-- Letting go of a connection settles its session at most. -/
theorem release_settles
    (session : ∀ other, sessionAt s.connections c = some other → other = id) :
    Leads (Along (Settles id) c) (Connection.release c) s := by
  have erases (s : State) : Leads (Along (Settles id) c)
      (modify fun s => { s with connections := s.connections.erase c } : Op Unit) s := by
    refine ⟨fun other there => ?_, Std.Refl.refl s.world⟩
    change sessionAt (s.connections.erase c) c = some other at there
    simp [sessionAt, Pool.get?_erase] at there
  refine .get_bind ?_
  cases found : s.connections.get? c with
  | none => exact .pure _
  | some connection =>
      dsimp only
      split
      · exact updateConnection_along c s fun _ _ same => same
      · cases serving : connection.session with
        | none => exact erases s
        | some other =>
            have same : other = id := session other (by simp [sessionAt, found, serving])
            exact .bind (engine_along (same ▸ disconnect_settles s.world)) fun _ s _ => erases s

/-- A fetch from a cursor of a connection guards the transaction of its session. -/
theorem next_guards {k : Nat} (on : (s.cursors.get? k).any (Cursor.isOf c))
    (session : sessionAt s.connections c = some id) :
    Leads (Along (Guards id) c) (Cursor.next k) s := by
  refine .get_bind ?_
  cases found : s.cursors.get? k with
  | none => exact .throw _
  | some cursor =>
      have of : cursor.connection = c := by simpa [found, Cursor.isOf] using on
      dsimp only
      cases cursor.run with
      | none => exact .throw _
      | some run =>
          dsimp only
          rw [of]
          refine sessionOf_bind session ?_
          refine step_bind fun row t stepped => ?_
          have same : sessionAt t.connections c = some id := by
            rw [exec_engine] at stepped
            cases stepped
            exact session
          rcases row with fault | _ | row
          · exact .bind (drop_settles same of run) fun _ s _ => .bind (tell_along _ s) fun _ _ _ =>
              .throw _
          · exact .bind (drop_settles same of run) fun _ s _ => .bind (tell_along _ s) fun _ _ _ =>
              .pure _
          · exact .bind (tell_along _ t) fun _ _ _ => .pure _

/-- Closing a cursor of a connection settles its session at most. -/
theorem close_settles {k : Nat} (on : (s.cursors.get? k).any (Cursor.isOf c))
    (session : sessionAt s.connections c = some id) :
    Leads (Along (Settles id) c) (Cursor.close k) s := by
  refine .get_bind ?_
  cases found : s.cursors.get? k with
  | none => exact .pure _
  | some cursor =>
      have of : cursor.connection = c := by simpa [found, Cursor.isOf] using on
      dsimp only
      cases cursor.run with
      | none => exact .pure _
      | some run =>
          exact .bind (drop_settles session of run) fun _ s _ => .bind (tell_along _ s)
            fun _ _ _ => .pure _

theorem releaseCursor_settles {k : Nat} (on : (s.cursors.get? k).any (Cursor.isOf c))
    (session : sessionAt s.connections c = some id) :
    Leads (Along (Settles id) c) (Cursor.release k) s := by
  refine .get_bind ?_
  cases found : s.cursors.get? k with
  | none => exact .pure _
  | some cursor =>
      have of : cursor.connection = c := by simpa [found, Cursor.isOf] using on
      have rest (t : State) (along : Along (Settles id) c s t) : Leads (Along (Settles id) c)
          (do
            modify fun s => { s with cursors := s.cursors.erase k }
            Connection.release cursor.connection) t := by
        rw [of]
        refine .bind ⟨fun _ same => same, Std.Refl.refl t.world⟩ fun _ u erased => ?_
        cases erased
        exact release_settles fun other there =>
          Option.some.inj ((along.session other there).symm.trans session)
      dsimp only
      split
      · exact updateCursor_along k _ s
      · cases cursor.run with
        | none => exact rest s (Std.Refl.refl s)
        | some run =>
            have dropped := drop_settles (k := k) session of run
            refine .bind dropped fun _ t answer => rest t ?_
            rwa [Leads, answer] at dropped

theorem closeConnection_settles (session : sessionAt s.connections c = some id) :
    Leads (Along (Settles id) c) (Connection.close c) s := by
  refine .get_bind ?_
  obtain ⟨connection, found, serving⟩ := Option.bind_eq_some_iff.1 session
  simp only [found, serving]
  split
  · exact .throw_bind ..
  · exact .bind (engine_along (disconnect_settles s.world)) fun _ s _ =>
      .bind (updateConnection_along c s fun _ _ none_ => by simp at none_) fun _ s _ =>
        .bind (tell_along _ s) fun _ _ _ => .pure _

/-- Control statements of a connection run in its session. -/
theorem exec_control (session : sessionAt s.connections c = some id) (cs : List Control) :
    exec (Connection.control c cs) s =
      (.ok (exec (Action.controls id cs) s.world).1,
        { s with world := (exec (Action.controls id cs) s.world).2 }) := by
  rw [Connection.control, exec_bind, exec_sessionOf, session]
  rfl

/-- The batch by which a connection ends a transaction. -/
def endingBatch (s : State) (c : Nat) (how : Control) : List Control :=
  if (s.connections.get? c).any fun c => !c.autocommit then [how, .begin .deferred] else [how]

theorem endingBatch_of_manual (manual : s.manual c) (how : Control) :
    endingBatch s c how = [how, .begin .deferred] := by
  obtain ⟨connection, _, found, _, off⟩ := State.manual_iff.1 manual
  simp [endingBatch, found, off]

/-- The end of a transaction runs its batch in the session of the connection. -/
theorem exec_endTransaction (session : sessionAt s.connections c = some id) (how : Control) :
    exec (Connection.endTransaction c how) s =
      ((exec (Action.controls id (endingBatch s c how)) s.world).1.mapError Error.engine,
        { s with world := (exec (Action.controls id (endingBatch s c how)) s.world).2 }) := by
  rw [Connection.endTransaction, exec_bind, exec_get]
  dsimp only
  rw [exec_bind, exec_control session, endingBatch]
  dsimp only
  generalize exec (Action.controls id _) s.world = answer
  rcases answer with ⟨fault | _, w⟩ <;> rfl

theorem sessionAt_turned (session : sessionAt s.connections c = some id) (enabled : Bool) :
    sessionAt (s.connections.modify c fun connection => { connection with autocommit := enabled })
      c = some id := by
  refine (sessionAt_modify _ _ _ _ ?_).trans session
  exact fun _ => rfl

/-- Autocommit is turned on, and what the engine says to the rollback is put aside. -/
theorem exec_setAutocommit_on (session : sessionAt s.connections c = some id) :
    ∃ events, exec (Connection.setAutocommit c true) s = (.ok (), { s with
      world := (exec (Action.controls id [.rollback]) s.world).2
      connections := s.connections.modify c fun connection =>
        { connection with autocommit := true }
      events }) := by
  unfold Connection.setAutocommit
  rw [exec_bind, exec_sessionOf, session]
  dsimp only
  rw [exec_bind, exec_updateConnection]
  dsimp only
  rw [if_pos rfl, exec_bind, exec_control (sessionAt_turned session true)]
  dsimp only
  rcases exec (Action.controls id [.rollback]) s.world with ⟨fault | _, w⟩ <;> exact ⟨_, rfl⟩

/-- Autocommit is turned off, whether or not a transaction can be begun. -/
theorem exec_setAutocommit_off (session : sessionAt s.connections c = some id) :
    exec (Connection.setAutocommit c false) s =
      ((exec (Action.controls id [.begin .deferred]) s.world).1.mapError fun fault =>
        .beginTransaction fault.message, { s with
          world := (exec (Action.controls id [.begin .deferred]) s.world).2
          connections := s.connections.modify c fun connection =>
            { connection with autocommit := false } }) := by
  unfold Connection.setAutocommit
  rw [exec_bind, exec_sessionOf, session]
  dsimp only
  rw [exec_bind, exec_updateConnection]
  dsimp only
  rw [if_neg Bool.false_ne_true, exec_bind, exec_control (sessionAt_turned session false)]
  dsimp only
  rcases exec (Action.controls id [.begin .deferred]) s.world with ⟨fault | _, w⟩ <;> rfl

theorem Connection.rollback_unpublished (session : sessionAt s.connections c = some id) :
    Leads (Along (Unpublished id) c) (Connection.rollback c) s := by
  rw [Leads, rollback, exec_endTransaction session]
  refine ⟨fun _ same => same, controls_unpublished fun control among => ?_⟩
  unfold endingBatch at among
  split at among
  · simpa using among
  · exact .inl (by simpa using among)

/-- A commit that fails publishes nothing. -/
theorem Connection.commit_unpublished (session : sessionAt s.connections c = some id)
    (fails : ∃ e, (exec (Connection.commit c) s).1 = .error e) :
    Leads (Along (Unpublished id) c) (Connection.commit c) s := by
  rw [Leads, commit, exec_endTransaction session]
  rw [commit, exec_endTransaction session] at fails
  obtain ⟨e, fails⟩ := fails
  refine ⟨fun _ same => same, ?_⟩
  obtain ⟨rest, begins, batch⟩ : ∃ rest, (rest = [] ∨ rest = [.begin .deferred]) ∧
      endingBatch s c .commit = .commit :: rest := by
    unfold endingBatch
    split
    · exact ⟨_, .inr rfl, rfl⟩
    · exact ⟨_, .inl rfl, rfl⟩
  rw [batch] at fails ⊢
  rcases answer : exec (Action.controls id (.commit :: rest)) s.world with ⟨fault | _, w⟩ <;>
    rw [answer] at fails
  · exact ending_refused begins answer
  · cases fails

/-- The way of committing can be switched without publishing anything. -/
theorem Connection.setAutocommit_unpublished (session : sessionAt s.connections c = some id)
    (enabled : Bool) :
    Leads (Along (Unpublished id) c) (Connection.setAutocommit c enabled) s := by
  have same {f : Connection → Connection} (kept : ∀ connection, (f connection).session =
      connection.session) (id : Nat) (there : sessionAt (s.connections.modify c f) c = some id) :
      sessionAt s.connections c = some id :=
    (sessionAt_modify s.connections c c f kept).symm.trans there
  cases enabled with
  | true =>
      obtain ⟨events, answer⟩ := exec_setAutocommit_on session
      rw [Leads, answer]
      exact ⟨same fun _ => rfl, controls_unpublished (by simp)⟩
  | false =>
      rw [Leads, exec_setAutocommit_off session]
      exact ⟨same fun _ => rfl, controls_unpublished (by simp)⟩

/-- A call on a connection other than a commit that succeeds. -/
theorem perform_guards {command : Command} (on : command.isOn s c)
    (session : sessionAt s.connections c = some id)
    (unsuccessful : command = .commit c → ∃ e, (exec (Connection.commit c) s).1 = .error e) :
    Leads (Along (Guards id) c) command.perform s := by
  have guards {α : Type} {op : Op α} (leads : Leads (Along (Guards id) c) op s) :
      Leads (Along (Guards id) c) (discard op) s :=
    .bind_trans (p := Along (Guards id) c) (q := Along (Settles id) c) leads fun _ _ _ => .pure _
  have settles {α : Type} {op : Op α} (leads : Leads (Along (Settles id) c) op s) :
      Leads (Along (Guards id) c) op s :=
    leads.mono fun _ _ => Along.mono fun _ _ => Settles.guards
  have unpublished {op : Op Unit} (leads : Leads (Along (Unpublished id) c) op s) :
      Leads (Along (Guards id) c) op s :=
    leads.mono fun _ _ => Along.mono fun _ _ => Unpublished.guards
  have holders {f : Connection → Connection} (same : ∀ connection, (f connection).session =
      connection.session) : Leads (Along (Guards id) c) (Op.updateConnection c f) s :=
    updateConnection_along c s fun connection _ there => same connection ▸ there
  cases command with
  | openEnvironment driver config => simp [Command.isOn] at on
  | closeEnvironment e => simp [Command.isOn] at on
  | connect e source timeout => simp [Command.isOn] at on
  | execute d sql =>
      obtain rfl : d = c := of_decide_eq_true on
      exact guards (execute_guards session sql)
  | commit d =>
      obtain rfl : d = c := of_decide_eq_true on
      exact unpublished (Connection.commit_unpublished session (unsuccessful rfl))
  | rollback d =>
      obtain rfl : d = c := of_decide_eq_true on
      exact unpublished (Connection.rollback_unpublished session)
  | setAutocommit d enabled =>
      obtain rfl : d = c := of_decide_eq_true on
      exact unpublished (Connection.setAutocommit_unpublished session enabled)
  | autocommit d => exact guards (autocommit_leads s d)
  | lastNumber d => exact guards (lastNumber_leads s d)
  | closeConnection d =>
      obtain rfl : d = c := of_decide_eq_true on
      exact guards (settles (closeConnection_settles session))
  | retainConnection d =>
      obtain rfl : d = c := of_decide_eq_true on
      exact holders fun _ => rfl
  | releaseConnection d =>
      obtain rfl : d = c := of_decide_eq_true on
      refine settles (.get_bind ?_)
      split
      · exact release_settles fun other there => Option.some.inj (there.symm.trans session)
      · exact .pure _
  | next k => exact guards (next_guards on session)
  | fetchInto k target mode =>
      refine guards (.get_bind ?_)
      refine .bind_trans (p := Along (Guards id) c) (q := Along (Settles id) c)
        (next_guards on session) fun row _ _ => ?_
      cases row <;> exact .pure _
  | columnNames k => exact guards (columnNames_leads s k)
  | columnTypes k => exact guards (columnTypes_leads s k)
  | closeCursor k => exact guards (settles (close_settles on session))
  | retainCursor k => exact updateCursor_along k _ s
  | releaseCursor k => exact settles (releaseCursor_settles on session)

end Calls

/-! ## What is kept back -/

theorem committed_of_unpublished {id : Nat} {w v : World} (same : Unpublished id w v) :
    (v.session? id).map v.committed = (w.session? id).map w.committed := by
  have own := same.own
  cases after : v.session? id <;> cases before : w.session? id <;> simp only [after, before,
    Option.map_some, Option.map_none, reduceCtorEq, Option.some.injEq, Prod.mk.injEq] at own ⊢
  simp only [World.committed, own, same.disk]

/-- A call on a connection whose transaction is open in front of it and behind it makes
nothing permanent, unless it is a commit that succeeds. -/
theorem permanent_of_inTransaction {s : State} {c : Nat} {command : Command}
    (on : command.isOn s c)
    (unsuccessful : command = .commit c → ∃ e, (exec (Connection.commit c) s).1 = .error e)
    (before : s.inTransaction c) (after : (exec command.perform s).2.inTransaction c) :
    (exec command.perform s).2.permanent c = s.permanent c := by
  obtain ⟨id, session, begun⟩ := State.inTransaction_iff.1 before
  obtain ⟨along, guards⟩ := perform_guards on session unsuccessful
  obtain ⟨other, still, begun'⟩ := State.inTransaction_iff.1 after
  cases (along other still).symm.trans session
  have same := committed_of_unpublished (guards begun begun')
  simpa [State.permanent, session, still] using same

namespace State

/-- The transaction of a connection is open behind each of some commands, and none of them
is a commit of it that succeeds. -/
def StaysOpen (s : State) (c : Nat) : List Command → Prop
  | [] => True
  | command :: rest =>
      (command = .commit c → ∃ e, (exec (Connection.commit c) s).1 = .error e) ∧
        (exec command.perform s).2.inTransaction c ∧
        (exec command.perform s).2.StaysOpen c rest

/-- Of some commands only calls on other connections change the permanent database of a
connection. -/
def KeepsBack (s : State) (c : Nat) : List Command → Prop
  | [] => True
  | command :: rest =>
      (command.isOn s c → (exec command.perform s).2.permanent c = s.permanent c) ∧
        (exec command.perform s).2.KeepsBack c rest

theorem StaysOpen.keepsBack {s : State} {c : Nat} {commands : List Command}
    (stays : s.StaysOpen c commands) (begun : s.inTransaction c) : s.KeepsBack c commands := by
  induction commands generalizing s with
  | nil => trivial
  | cons command rest ih =>
      obtain ⟨unsuccessful, after, stays⟩ := stays
      exact ⟨fun on => permanent_of_inTransaction on unsuccessful begun after, ih stays after⟩

end State

/-! ## Commit and rollback outside of autocommit -/

/-- On a manual connection a transaction is open behind a commit or a rollback if one was before. -/
theorem inTransaction_after_endTransaction {s : State} {c : Nat} (manual : s.manual c)
    {how : Control} (ends : how = .commit ∨ how = .rollback) :
    (exec (Connection.endTransaction c how) s).2.inTransaction c = s.inTransaction c := by
  obtain ⟨connection, id, found, serving, -⟩ := State.manual_iff.1 manual
  have session : sessionAt s.connections c = some id := by simp [sessionAt, found, serving]
  rw [exec_endTransaction session, endingBatch_of_manual manual]
  simp only [State.inTransaction, session, Option.any_some]
  exact inTransaction_after_ending ends

/-- Outside of autocommit, a transaction is open behind a commit or a rollback exactly if one
was open in front of it.  Then what is written afterwards is kept back for as long as a
transaction is open and no commit succeeds. -/
theorem transaction_after_ending {s : State} {c : Nat} {ending : Command} (manual : s.manual c)
    (ends : ending = .commit c ∨ ending = .rollback c) :
    (exec ending.perform s).2.inTransaction c = s.inTransaction c ∧
      (s.inTransaction c → ∀ commands, (exec ending.perform s).2.StaysOpen c commands →
        (exec ending.perform s).2.KeepsBack c commands) := by
  have same : (exec ending.perform s).2.inTransaction c = s.inTransaction c := by
    rcases ends with rfl | rfl
    · exact inTransaction_after_endTransaction manual (.inl rfl)
    · exact inTransaction_after_endTransaction manual (.inr rfl)
  exact ⟨same, fun begun commands stays => stays.keepsBack (same.trans begun)⟩

/-- A connection to a database with a table, in manual mode. -/
def manualStart : List Command :=
  [.openEnvironment "sqlite3" {}, .connect 1 ":memory:" none, .execute 1 "CREATE TABLE t(x)",
    .setAutocommit 1 false]

theorem transaction_after_rollback_at_start :
    let s := State.after {} manualStart
    s.manual 1 ∧ s.inTransaction 1 ∧ (exec (Command.rollback 1).perform s).2.inTransaction 1 :=
  have manual : (State.after {} manualStart).manual 1 := by decide +kernel
  have begun : (State.after {} manualStart).inTransaction 1 := by decide +kernel
  ⟨manual, begun, (transaction_after_ending manual (.inr rfl)).1.trans begun⟩

/-- The number of rows of a table in the permanent database of a connection. -/
def State.permanentRows (s : State) (c : Nat) (table : String) : Option Nat :=
  (s.permanent c).bind fun o => o.toOption.map fun contents => (contents.rows table).length

/-- Behind a statement that ended the transaction, a rollback leaves none open, and a row
inserted then is permanent. -/
theorem rollback_leaves_none :
    let s := State.after {} (manualStart ++ [.execute 1 "COMMIT"])
    let t := (exec (Command.rollback 1).perform s).2
    s.manual 1 ∧ t.manual 1 ∧ t.inTransaction 1 = false ∧ t.permanentRows 1 "t" = some 0 ∧
      (t.after [.execute 1 "INSERT INTO t VALUES(1)"]).permanentRows 1 "t" = some 1 := by
  decide +kernel

end SqlDriver
