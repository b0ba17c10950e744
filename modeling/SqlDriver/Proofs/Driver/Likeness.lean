/-
# SqlDriver.Proofs.Driver.Likeness -- what giving up an object changes for the others

Two states are alike but for an object that was given up in the second (`Alike`) where nothing
else sets them apart: an environment may have been closed there, or a connection may have lost
one of its holders.  Every operation answers the same in both, and leaves states that are still
alike (`Agrees`), with two exceptions: what is asked of that environment, and giving up a
connection or one of its cursors where no holder would be left.
-/
import SqlDriver.Proofs.Driver.Lifetime

namespace SqlDriver

set_option autoImplicit false

/-! ## States that are alike -/

/-- An object that was given up. -/
inductive Lost where
  | environment (e : Nat)
  | connection (c : Nat)
deriving DecidableEq, Repr

/-- A connection as it is where it was not given up: with one more holder. -/
def Lost.held (lost : Lost) (c : Nat) (connection : Connection) : Connection :=
  if lost = .connection c then { connection with holders := connection.holders + 1 }
  else connection

/-- The states are alike but for an object that was given up in the second one. -/
structure Alike (lost : Lost) (s t : State) : Prop where
  world : t.world = s.world
  nextEnvironment : t.environments.next = s.environments.next
  environments : ∀ e, lost ≠ .environment e → t.environments.get? e = s.environments.get? e
  nextConnection : t.connections.next = s.connections.next
  connections : ∀ c, s.connections.get? c = (t.connections.get? c).map (lost.held c)
  known : ∀ c, lost = .connection c → c < s.connections.next
  cursors : t.cursors = s.cursors

section Held

variable (lost : Lost) (c : Nat) (connection : Connection)

@[simp] theorem held_session : (lost.held c connection).session = connection.session := by
  unfold Lost.held
  split <;> rfl

@[simp] theorem held_autocommit :
    (lost.held c connection).autocommit = connection.autocommit := by
  unfold Lost.held
  split <;> rfl

@[simp] theorem held_openCursors :
    (lost.held c connection).openCursors = connection.openCursors := by
  unfold Lost.held
  split <;> rfl

end Held

theorem Alike.sessionAt {lost : Lost} {s t : State} (alike : Alike lost s t) (c : Nat) :
    sessionAt s.connections c = sessionAt t.connections c := by
  rw [SqlDriver.sessionAt, SqlDriver.sessionAt, alike.connections]
  cases t.connections.get? c <;> simp

/-- What was told does not matter. -/
theorem Alike.told {lost : Lost} {s t : State} (alike : Alike lost s t)
    (events events' : List Event) :
    Alike lost { s with events } { t with events := events' } :=
  ⟨alike.world, alike.nextEnvironment, alike.environments, alike.nextConnection,
    alike.connections, alike.known, alike.cursors⟩

/-! ## Effects in both states -/

/-- Two effects answer the same, and leave states that are related. -/
def Agrees {σ ε α : Type} (r : σ → σ → Prop) (a : ExceptT ε (StateM σ) α) (s : σ)
    (b : ExceptT ε (StateM σ) α) (t : σ) : Prop :=
  (exec a s).1 = (exec b t).1 ∧ r (exec a s).2 (exec b t).2

namespace Agrees

variable {σ ε α β : Type} {r : σ → σ → Prop} {s t : σ}

theorem pure (x : α) (related : r s t) :
    Agrees r (pure x : ExceptT ε (StateM σ) α) s (Pure.pure x) t :=
  ⟨rfl, related⟩

theorem throw (e : ε) (related : r s t) :
    Agrees r (throw e : ExceptT ε (StateM σ) α) s (MonadExcept.throw e) t :=
  ⟨rfl, related⟩

/-- Operations that agree may be followed by operations that agree. -/
theorem bind {a b : ExceptT ε (StateM σ) α} {f g : α → ExceptT ε (StateM σ) β}
    (first : Agrees r a s b t)
    (rest : ∀ x s' t', exec b t = (.ok x, t') → r s' t' → Agrees r (f x) s' (g x) t') :
    Agrees r (a >>= f) s (b >>= g) t := by
  unfold Agrees at first ⊢
  rw [exec_bind, exec_bind]
  rcases here : exec a s with ⟨answer, s'⟩
  rcases there : exec b t with ⟨answer', t'⟩
  rw [here, there] at first
  obtain ⟨same, related⟩ := first
  dsimp only at same related
  subst same
  cases answer with
  | ok x => exact rest x s' t' there related
  | error e => exact ⟨rfl, related⟩

theorem get_bind {f g : σ → ExceptT ε (StateM σ) β} (rest : Agrees r (f s) s (g t) t) :
    Agrees r (get >>= f) s (get >>= g) t := by
  unfold Agrees
  rw [exec_bind, exec_bind]
  exact rest

end Agrees

/-! ## Operations -/

section Operations

open Engine

variable {lost : Lost} {s t : State} (alike : Alike lost s t) (c k : Nat)
include alike

theorem engine_agrees {α : Type} (a : Action α) :
    Agrees (Alike lost) (Op.engine a) s (Op.engine a) t := by
  unfold Agrees
  rw [exec_engine, exec_engine, alike.world]
  exact ⟨rfl, rfl, alike.nextEnvironment, alike.environments, alike.nextConnection,
    alike.connections, alike.known, alike.cursors⟩

theorem tell_agrees (e : Event) : Agrees (Alike lost) (Op.tell e) s (Op.tell e) t :=
  ⟨rfl, alike.told _ _⟩

/-- A change of a connection agrees if it does not matter whether it comes before the loss. -/
theorem updateConnection_agrees_of {f : Connection → Connection}
    (commutes : ∀ connection, t.connections.get? c = some connection →
      f (lost.held c connection) = lost.held c (f connection)) :
    Agrees (Alike lost) (Op.updateConnection c f) s (Op.updateConnection c f) t := by
  refine ⟨rfl, alike.world, alike.nextEnvironment, alike.environments, alike.nextConnection,
    fun d => ?_, alike.known, alike.cursors⟩
  change (s.connections.modify c f).get? d = ((t.connections.modify c f).get? d).map (lost.held d)
  rw [Pool.get?_modify, Pool.get?_modify, alike.connections]
  split
  · next here =>
      subst here
      cases there : t.connections.get? d with
      | none => rfl
      | some connection => simp [commutes connection there]
  · rfl

theorem updateConnection_agrees {f : Connection → Connection}
    (commutes : ∀ connection, f { connection with holders := connection.holders + 1 } =
      { f connection with holders := (f connection).holders + 1 }) :
    Agrees (Alike lost) (Op.updateConnection c f) s (Op.updateConnection c f) t := by
  refine updateConnection_agrees_of alike c fun connection _ => ?_
  unfold Lost.held
  split
  · exact commutes connection
  · rfl

theorem updateCursor_agrees (f : Cursor → Cursor) :
    Agrees (Alike lost) (Op.updateCursor k f) s (Op.updateCursor k f) t := by
  refine ⟨rfl, alike.world, alike.nextEnvironment, alike.environments, alike.nextConnection,
    alike.connections, alike.known, ?_⟩
  change t.cursors.modify k f = s.cursors.modify k f
  rw [alike.cursors]

theorem sessionOf_agrees :
    Agrees (Alike lost) (Connection.sessionOf c) s (Connection.sessionOf c) t := by
  unfold Agrees
  rw [exec_sessionOf, exec_sessionOf, alike.sessionAt]
  cases SqlDriver.sessionAt t.connections c <;> exact ⟨rfl, alike⟩

theorem outputs_agrees (id run : Nat) :
    Agrees (Alike lost) (Connection.outputs id run) s (Connection.outputs id run) t := by
  unfold Agrees
  rw [exec_outputs, exec_outputs, alike.world]
  exact ⟨rfl, alike⟩

theorem openCursor_agrees (run : Nat) (columns : List Binding.Output) :
    Agrees (Alike lost) (Connection.openCursor c run columns) s
      (Connection.openCursor c run columns) t := by
  refine .bind (updateConnection_agrees alike c fun _ => rfl) fun _ s t _ alike =>
    .bind (updateConnection_agrees alike c fun _ => rfl) fun _ s t _ alike => .get_bind ?_
  rw [alike.cursors]
  exact ⟨rfl, alike.world, alike.nextEnvironment, alike.environments, alike.nextConnection,
    alike.connections, alike.known, rfl⟩

theorem openNamed_agrees (driver : String) (config : Config) :
    Agrees (Alike lost) (Environment.openNamed driver config) s
      (Environment.openNamed driver config) t := by
  unfold Environment.openNamed
  cases DriverInfo.find? driver with
  | none => exact .throw _ alike
  | some info =>
      refine ⟨congrArg Except.ok alike.nextEnvironment.symm, alike.world, ?_, fun e other => ?_,
        alike.nextConnection, alike.connections, alike.known, alike.cursors⟩
      · exact congrArg (· + 1) alike.nextEnvironment
      · change (t.environments.insert { config }).2.get? e =
          (s.environments.insert { config }).2.get? e
        rw [Pool.get?_insert, Pool.get?_insert, alike.nextEnvironment, alike.environments e other]

theorem closeEnvironment_agrees {e : Nat} (other : lost ≠ .environment e) :
    Agrees (Alike lost) (Environment.close e) s (Environment.close e) t := by
  refine .get_bind ?_
  rw [alike.environments e other]
  split
  · exact .pure _ alike
  · split
    · exact .pure _ alike
    · refine ⟨rfl, alike.world, alike.nextEnvironment, fun d away => ?_, alike.nextConnection,
        alike.connections, alike.known, alike.cursors⟩
      change (t.environments.modify e _).get? d = (s.environments.modify e _).get? d
      rw [Pool.get?_modify, Pool.get?_modify, alike.environments d away]

/-- Connecting from an environment that was not lost comes to the same. -/
theorem connect_agrees {e : Nat} (other : lost ≠ .environment e) (source : String)
    (timeout : Option Nat) :
    Agrees (Alike lost) (Environment.connect e source timeout) s
      (Environment.connect e source timeout) t := by
  refine .get_bind ?_
  rw [alike.environments e other]
  split
  · exact .throw _ alike
  · split
    · exact .throw _ alike
    · refine .bind (engine_agrees alike _) fun result s t _ alike => ?_
      cases result with
      | error fault => exact .throw _ alike
      | ok id =>
          dsimp only
          split
          · exact .bind (engine_agrees alike _) fun _ _ _ _ alike => .pure _ alike
          · refine .bind (engine_agrees alike _) fun _ s t _ alike =>
              .bind (tell_agrees alike _) fun _ s t _ alike => ?_
            have low (d : Nat) (here : lost = .connection d) : d ≠ s.connections.next :=
              Nat.ne_of_lt (alike.known d here)
            have new (connection : Connection) :
                lost.held s.connections.next connection = connection :=
              if_neg fun here => low _ here rfl
            refine ⟨?_, alike.world, alike.nextEnvironment, alike.environments, ?_, fun d => ?_,
              fun d here => ?_, alike.cursors⟩
            · exact congrArg (fun next => Except.ok (Environment.Connected.connection next))
                alike.nextConnection.symm
            · exact congrArg (· + 1) alike.nextConnection
            · change (s.connections.insert _).2.get? d =
                ((t.connections.insert _).2.get? d).map (lost.held d)
              rw [Pool.get?_insert, Pool.get?_insert, alike.nextConnection, alike.connections]
              split
              · next here =>
                  rw [here, Option.map_some, new]
              · rfl
            · exact Nat.lt_succ_of_lt (alike.known d here)

theorem execute_agrees (sql : String) :
    Agrees (Alike lost) (Connection.execute c sql) s (Connection.execute c sql) t := by
  refine .bind (sessionOf_agrees alike c) fun id s t _ alike =>
    .bind (engine_agrees alike _) fun prepared s t _ alike => ?_
  rcases prepared with fault | _ | run
  · exact .throw _ alike
  · exact .throw _ alike
  · refine .bind (engine_agrees alike _) fun stepped s t _ alike => ?_
    cases stepped with
    | error fault => exact .bind (engine_agrees alike _) fun _ _ _ _ alike => .throw _ alike
    | ok row =>
        refine .bind (outputs_agrees alike id run) fun columns s t _ alike => ?_
        dsimp only
        split
        · refine .bind (engine_agrees alike _) fun _ s t _ alike => .get_bind ?_
          rw [alike.world]
          exact .bind (tell_agrees alike _) fun _ _ _ _ alike => .pure _ alike
        · exact .bind (engine_agrees alike _) fun _ s t _ alike =>
            .bind (tell_agrees alike _) fun _ s t _ alike =>
            .bind (openCursor_agrees alike c run columns) fun _ _ _ _ alike => .pure _ alike

theorem control_agrees (cs : List Control) :
    Agrees (Alike lost) (Connection.control c cs) s (Connection.control c cs) t :=
  .bind (sessionOf_agrees alike c) fun _ _ _ _ alike => engine_agrees alike _

/-- The end of a transaction comes to the same. -/
theorem endTransaction_agrees (how : Control) :
    Agrees (Alike lost) (Connection.endTransaction c how) s
      (Connection.endTransaction c how) t := by
  have mode : ((s.connections.get? c).any fun connection => !connection.autocommit) =
      (t.connections.get? c).any fun connection => !connection.autocommit := by
    rw [alike.connections]
    cases t.connections.get? c <;> simp
  refine .get_bind ?_
  rw [mode]
  refine .bind (control_agrees alike c _) fun answer s t _ alike => ?_
  cases answer with
  | ok _ => exact .pure _ alike
  | error fault => exact .throw _ alike

theorem setAutocommit_agrees (enabled : Bool) :
    Agrees (Alike lost) (Connection.setAutocommit c enabled) s
      (Connection.setAutocommit c enabled) t := by
  refine .bind (sessionOf_agrees alike c) fun _ s t _ alike =>
    .bind (updateConnection_agrees alike c fun _ => rfl) fun _ s t _ alike => ?_
  split
  · refine .bind (control_agrees alike c _) fun answer s t _ alike => ?_
    cases answer with
    | ok _ => exact .pure _ alike
    | error fault => exact tell_agrees alike _
  · refine .bind (control_agrees alike c _) fun answer s t _ alike => ?_
    cases answer with
    | ok _ => exact .pure _ alike
    | error fault => exact .throw _ alike

theorem lastNumber_agrees :
    Agrees (Alike lost) (Connection.lastNumber c) s (Connection.lastNumber c) t := by
  refine .bind (sessionOf_agrees alike c) fun id s t _ alike => .get_bind ?_
  rw [alike.world]
  exact .pure _ alike

theorem closeConnection_agrees :
    Agrees (Alike lost) (Connection.close c) s (Connection.close c) t := by
  refine .get_bind ?_
  rw [alike.connections]
  cases t.connections.get? c with
  | none => exact .pure _ alike
  | some connection =>
      simp only [Option.map_some, held_session, held_openCursors]
      cases connection.session with
      | none => exact .pure _ alike
      | some id =>
          dsimp only
          split
          · exact .throw _ alike
          · exact .bind (engine_agrees alike _) fun _ s t _ alike =>
              .bind (updateConnection_agrees alike c fun _ => rfl) fun _ s t _ alike =>
              .bind (tell_agrees alike _) fun _ _ _ _ alike => .pure _ alike

/-- A connection may be let go of where a holder is left to it in both states. -/
theorem releaseConnection_agrees
    (kept : lost = .connection c → ∀ connection, t.connections.get? c = some connection →
      1 < connection.holders) :
    Agrees (Alike lost) (Connection.release c) s (Connection.release c) t := by
  refine .get_bind ?_
  rw [alike.connections]
  cases there : t.connections.get? c with
  | none => exact .pure _ alike
  | some connection =>
      rw [Option.map_some]
      by_cases here : lost = .connection c
      · have others := kept here connection there
        have held : 1 < (lost.held c connection).holders := by
          rw [Lost.held, if_pos here]
          exact Nat.lt_succ_of_lt others
        dsimp only
        rw [if_pos others, if_pos held]
        refine updateConnection_agrees_of alike c fun other there' => ?_
        obtain rfl : connection = other := Option.some.inj (there.symm.trans there')
        simp only [Lost.held, if_pos here, Connection.mk.injEq, true_and]
        omega
      · have held : lost.held c connection = connection := if_neg here
        rw [held]
        dsimp only
        split
        · refine updateConnection_agrees_of alike c fun other _ => ?_
          rw [Lost.held, Lost.held, if_neg here, if_neg here]
        · have rest {s t : State} (alike : Alike lost s t) : Agrees (Alike lost)
              (modify fun s => { s with connections := s.connections.erase c } : Op Unit) s
              (modify fun s => { s with connections := s.connections.erase c }) t := by
            refine ⟨rfl, alike.world, alike.nextEnvironment, alike.environments,
              alike.nextConnection, fun d => ?_, alike.known, alike.cursors⟩
            change (s.connections.erase c).get? d =
              ((t.connections.erase c).get? d).map (lost.held d)
            rw [Pool.get?_erase, Pool.get?_erase, alike.connections]
            split <;> rfl
          cases connection.session with
          | none => exact rest alike
          | some id => exact .bind (engine_agrees alike _) fun _ _ _ _ alike => rest alike

theorem drop_agrees (cursor : Cursor) (run : Nat) :
    Agrees (Alike lost) (Cursor.drop k cursor run) s (Cursor.drop k cursor run) t := by
  have rest {s t : State} (alike : Alike lost s t) : Agrees (Alike lost)
      (do
        Op.updateCursor k fun k => { k with run := none }
        Connection.cursorClosed cursor.connection) s
      (do
        Op.updateCursor k fun k => { k with run := none }
        Connection.cursorClosed cursor.connection) t :=
    .bind (updateCursor_agrees alike k _) fun _ s t _ alike =>
      updateConnection_agrees alike cursor.connection fun _ => rfl
  refine .get_bind ?_
  rw [← SqlDriver.sessionAt, ← SqlDriver.sessionAt, alike.sessionAt]
  cases SqlDriver.sessionAt t.connections cursor.connection with
  | none => exact rest alike
  | some id => exact .bind (engine_agrees alike _) fun _ _ _ _ alike => rest alike

theorem next_agrees : Agrees (Alike lost) (Cursor.next k) s (Cursor.next k) t := by
  refine .get_bind ?_
  rw [alike.cursors]
  split
  · exact .throw _ alike
  · next cursor _ =>
      split
      · exact .throw _ alike
      · next run _ =>
          refine .bind (sessionOf_agrees alike _) fun id s t _ alike =>
            .bind (engine_agrees alike _) fun row s t _ alike => ?_
          rcases row with fault | _ | row
          · exact .bind (drop_agrees alike k cursor run) fun _ s t _ alike =>
              .bind (tell_agrees alike _) fun _ _ _ _ alike => .throw _ alike
          · exact .bind (drop_agrees alike k cursor run) fun _ s t _ alike =>
              .bind (tell_agrees alike _) fun _ _ _ _ alike => .pure _ alike
          · exact .bind (tell_agrees alike _) fun _ _ _ _ alike => .pure _ alike

theorem fetchInto_agrees (target : Target) (mode : FetchMode) :
    Agrees (Alike lost) (Cursor.fetchInto k target mode) s (Cursor.fetchInto k target mode) t := by
  refine .get_bind ?_
  rw [alike.cursors]
  refine .bind (next_agrees alike k) fun row _ _ _ alike => ?_
  cases row <;> exact .pure _ alike

theorem columnNames_agrees :
    Agrees (Alike lost) (Cursor.columnNames k) s (Cursor.columnNames k) t := by
  refine .get_bind ?_
  rw [alike.cursors]
  split
  · split
    · exact .throw _ alike
    · exact .pure _ alike
  · exact .throw _ alike

theorem columnTypes_agrees :
    Agrees (Alike lost) (Cursor.columnTypes k) s (Cursor.columnTypes k) t := by
  refine .get_bind ?_
  rw [alike.cursors]
  split
  · split
    · exact .throw _ alike
    · exact .pure _ alike
  · exact .throw _ alike

theorem closeCursor_agrees : Agrees (Alike lost) (Cursor.close k) s (Cursor.close k) t := by
  refine .get_bind ?_
  rw [alike.cursors]
  split
  · exact .pure _ alike
  · next cursor _ =>
      split
      · exact .pure _ alike
      · exact .bind (drop_agrees alike k cursor _) fun _ s t _ alike =>
          .bind (tell_agrees alike _) fun _ _ _ _ alike => .pure _ alike

/-- A cursor may be let go of where a holder is left to its connection in both states. -/
theorem releaseCursor_agrees
    (kept : ∀ cursor, t.cursors.get? k = some cursor → lost = .connection cursor.connection →
      ∀ connection, t.connections.get? cursor.connection = some connection →
        1 < connection.holders) :
    Agrees (Alike lost) (Cursor.release k) s (Cursor.release k) t := by
  refine .get_bind ?_
  rw [← alike.cursors]
  cases there : t.cursors.get? k with
  | none => exact .pure _ alike
  | some cursor =>
      dsimp only
      split
      · exact updateCursor_agrees alike k _
      · have rest {s' t' : State} (alike : Alike lost s' t') (same : Steady t t') :
            Agrees (Alike lost)
              (do
                modify fun s => { s with cursors := s.cursors.erase k }
                Connection.release cursor.connection) s'
              (do
                modify fun s => { s with cursors := s.cursors.erase k }
                Connection.release cursor.connection) t' := by
          refine .bind ⟨rfl, alike.world, alike.nextEnvironment, alike.environments,
            alike.nextConnection, alike.connections, alike.known,
            congrArg (fun cursors => Pool.erase cursors k) alike.cursors⟩
              fun _ s'' t'' left alike =>
              releaseConnection_agrees alike _ fun here connection found => ?_
          cases left
          have tie := same.connections cursor.connection
          rw [show t'.connections.get? cursor.connection = some connection from found] at tie
          obtain ⟨connection', found', same'⟩ := Option.map_eq_some_iff.mp tie.symm
          have holders : connection'.holders = connection.holders := congrArg Prod.snd same'
          rw [← holders]
          exact kept cursor there here connection' found'
        cases cursor.run with
        | none => exact rest alike (Std.Refl.refl t)
        | some run =>
            refine .bind (drop_agrees alike k cursor run) fun _ s' t' left alike => rest alike ?_
            have same := drop_steady t k cursor run
            rw [Leads, left] at same
            exact same

end Operations

end SqlDriver
