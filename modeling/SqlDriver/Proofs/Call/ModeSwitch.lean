/-
# SqlDriver.Proofs.Call.ModeSwitch -- what a failed switch of the mode leaves

A switch of the mode fails in two ways (`setAutocommit_fails_iff`).  On a closed connection
nothing is done.  Where a transaction is open, the engine refuses to begin another one and
changes nothing, but autocommit was cleared before it was asked: the transaction goes on, and
the connection is outside of autocommit from then on (`failed_switch_of_mode`).  So the switch
leaves everything as it was only where the connection was outside of autocommit before.  A call
by handle raises the error and leaves the connection likewise.
-/
import SqlDriver.Proofs.Call.HandleNumber
import SqlDriver.Proofs.Driver.ManualTransaction

namespace SqlDriver

set_option autoImplicit false

open Engine

/-! ## Clearing autocommit -/

namespace State

/-- Autocommit is cleared on a connection, and nothing else is done. -/
def madeManual (s : State) (c : Nat) : State :=
  { s with connections := s.connections.modify c fun connection =>
      { connection with autocommit := false } }

variable {s : State} {c id : Nat}

theorem sessionAt_madeManual : sessionAt (s.madeManual c).connections c =
    sessionAt s.connections c :=
  sessionAt_modify _ _ _ _ fun _ => rfl

theorem inTransaction_madeManual : (s.madeManual c).inTransaction c = s.inTransaction c := by
  rw [inTransaction, sessionAt_madeManual]
  rfl

variable (session : sessionAt s.connections c = some id)

include session

theorem manual_madeManual : (s.madeManual c).manual c := by
  obtain ⟨connection, found, serving⟩ := Option.bind_eq_some_iff.1 session
  have cleared : (s.madeManual c).connections.get? c =
      some { connection with autocommit := false } := by
    simp [madeManual, Pool.get?_modify, found]
  exact manual_iff.2 ⟨_, id, cleared, serving, rfl⟩

/-- A connection is changed by this unless it was outside of autocommit before. -/
theorem madeManual_eq_self_iff : s.madeManual c = s ↔ s.manual c := by
  constructor
  · intro same
    rw [← same]
    exact manual_madeManual session
  · intro manual
    obtain ⟨connection, _, found, _, off⟩ := manual_iff.1 manual
    have same : (s.connections.modify c fun connection =>
        { connection with autocommit := false }) = s.connections := by
      refine Eq.trans (Pool.modify_congr fun other there => ?_) (s.connections.modify_self c)
      obtain rfl : connection = other := Option.some.inj (found.symm.trans there)
      rw [← off]
    rw [madeManual, same]

end State

/-! ## How a switch fails -/

/-- Why a switch of the mode fails, and what it leaves. -/
inductive SwitchFails (s : State) (c : Nat) (enabled : Bool) : Error → State → Prop where
  | closed (none_ : sessionAt s.connections c = none) : SwitchFails s c enabled .connectionClosed s
  /-- The engine has a transaction open, and refuses to begin another one. -/
  | begun (off : enabled = false) (open_ : s.inTransaction c) :
      SwitchFails s c enabled
        (.beginTransaction "cannot start a transaction within a transaction") (s.madeManual c)

section Switch

variable {s t : State} {c id : Nat}

theorem exec_setAutocommit_of_inTransaction (open_ : s.inTransaction c) :
    exec (Connection.setAutocommit c false) s =
      (.error (.beginTransaction "cannot start a transaction within a transaction"),
        s.madeManual c) := by
  obtain ⟨id, session, begun⟩ := State.inTransaction_iff.1 open_
  rw [exec_setAutocommit_off session, exec_begin_of_inTransaction begun]
  rfl

/-- On an open connection only a switch to manual mode fails, and only within a transaction. -/
theorem inTransaction_of_failed (session : sessionAt s.connections c = some id) {enabled : Bool}
    {e : Error} (failed : exec (Connection.setAutocommit c enabled) s = (.error e, t)) :
    enabled = false ∧ s.inTransaction c := by
  cases enabled with
  | true =>
      obtain ⟨events, answer⟩ := exec_setAutocommit_on session
      cases answer.symm.trans failed
  | false =>
      refine ⟨rfl, State.inTransaction_iff.2 ⟨id, session, Bool.not_eq_false _ |>.mp ?_⟩⟩
      intro alone
      rw [exec_setAutocommit_off session, exec_controls_cons,
        exec_begin_of_not_inTransaction alone] at failed
      cases failed

theorem setAutocommit_fails_iff {enabled : Bool} {e : Error} :
    exec (Connection.setAutocommit c enabled) s = (.error e, t) ↔ SwitchFails s c enabled e t := by
  constructor
  · intro failed
    cases session : sessionAt s.connections c with
    | none =>
        cases (exec_setAutocommit_of_closed session enabled).symm.trans failed
        exact .closed session
    | some id =>
        obtain ⟨rfl, open_⟩ := inTransaction_of_failed session failed
        cases (exec_setAutocommit_of_inTransaction open_).symm.trans failed
        exact .begun rfl open_
  · rintro (none_ | ⟨rfl, open_⟩)
    · exact exec_setAutocommit_of_closed none_ enabled
    · exact exec_setAutocommit_of_inTransaction open_

theorem exec_autocommit_of_manual (manual : s.manual c) :
    exec (Connection.autocommit? c) s = (.ok false, s) := by
  obtain ⟨connection, id, found, serving, off⟩ := State.manual_iff.1 manual
  have session : sessionAt s.connections c = some id := by simp [sessionAt, found, serving]
  unfold Connection.autocommit?
  rw [exec_bind, exec_sessionOf, session]
  change (Except.ok ((s.connections.get? c).all Connection.autocommit), s) = _
  rw [found, Option.all_some, off]

end Switch

/-! ## Calls by handle -/

/-- The host in which an error was raised. -/
def Host.raising (h : Host) (e : Error) (errorPrefix : String) : Host :=
  { h with
    state := { h.state with events := .raised e :: h.state.events }
    exception := .throw (errorPrefix ++ e.message) (Int64.ofInt e.code) }

theorem run_raise (h : Host) (e : Error) (errorPrefix : String) :
    StateT.run (Call.raise e errorPrefix) h = ((), h.raising e errorPrefix) := rfl

/-- A call that answers zero raised the error of the switch. -/
theorem exists_failed_switch {h g : Host} {x enabled : Int64} {e : Entry}
    (live : h.connections.find? x = some e)
    (zero : StateT.run (Call.setAutocommit x enabled) h = (0, g)) :
    ∃ error t, exec (Connection.setAutocommit e.object (enabled ≠ 0)) h.state = (.error error, t) ∧
      g = { h with state := t }.raising error e.errorPrefix := by
  rw [Call.setAutocommit, withEntry_of_live live, Call.orRaise, run_bind, run_perform] at zero
  rcases answer : exec (Connection.setAutocommit e.object (enabled ≠ 0)) h.state with
    ⟨error | _, t⟩ <;> rw [answer] at zero
  · dsimp only at zero
    rw [run_bind, run_raise] at zero
    exact ⟨error, t, rfl, (congrArg Prod.snd zero).symm⟩
  · cases congrArg Prod.fst zero

/-- A switch of the mode that fails leaves the engine, the transaction and all else as they are.
On a closed connection it changes nothing at all.  Where it was a transaction that kept the next
one from being begun, autocommit is off from then on, so that a commit or a rollback begins the
next transaction; nothing is changed only if it was off before.  A call by handle that answers
zero raises the error and leaves no other change. -/
theorem failed_switch_of_mode :
    (∀ (s t : State) (c : Nat) (enabled : Bool) (e : Error),
      exec (Connection.setAutocommit c enabled) s = (.error e, t) →
      (sessionAt s.connections c = none ∧ e = .connectionClosed ∧ t = s) ∨
      (enabled = false ∧ s.inTransaction c ∧
        e = .beginTransaction "cannot start a transaction within a transaction" ∧
        t = s.madeManual c ∧ t.inTransaction c ∧
        exec (Connection.autocommit? c) t = (.ok false, t) ∧
        (∀ how, endingBatch t c how = [how, .begin .deferred]) ∧ (t = s ↔ s.manual c))) ∧
    ∀ (h g : Host) (x enabled : Int64),
      StateT.run (Call.setAutocommit x enabled) h = (0, g) →
      (h.connections.find? x = none ∧
        g = h.raising (.invalidHandle h.connections.kind x) Call.defaultPrefix) ∨
      ∃ e error t, h.connections.find? x = some e ∧
        exec (Connection.setAutocommit e.object (enabled ≠ 0)) h.state = (.error error, t) ∧
        g = { h with state := t }.raising error e.errorPrefix := by
  refine ⟨fun s t c enabled e failed => ?_, fun h g x enabled zero => ?_⟩
  · obtain none_ | ⟨off, open_⟩ := setAutocommit_fails_iff.1 failed
    · exact .inl ⟨none_, rfl, rfl⟩
    · obtain ⟨id, session, -⟩ := State.inTransaction_iff.1 open_
      have manual := State.manual_madeManual session
      exact .inr ⟨off, open_, rfl, rfl, State.inTransaction_madeManual.trans open_,
        exec_autocommit_of_manual manual, endingBatch_of_manual manual,
        State.madeManual_eq_self_iff session⟩
  · cases found : h.connections.find? x with
    | none =>
        rw [Call.setAutocommit, withEntry_of_missing found, run_raise] at zero
        exact .inl ⟨rfl, (congrArg Prod.snd zero).symm⟩
    | some e =>
        obtain ⟨error, t, failed, same⟩ := exists_failed_switch found zero
        exact .inr ⟨e, error, t, rfl, failed, same⟩

/-- A transaction that a statement began, in autocommit. -/
def begunByStatement : List Command :=
  [.openEnvironment "sqlite3" {}, .connect 1 ":memory:" none, .execute 1 "BEGIN"]

/-- The same, by calls. -/
def begunByCall : Host :=
  (issuing {} (connecting ++
    [.work (({} : Heap).allocString "BEGIN").2 {}, .execute 1 1])).1

theorem failed_switch_in_transaction :
    let s := State.after {} begunByStatement
    (exec (Connection.setAutocommit 1 false) s =
        (.error (.beginTransaction "cannot start a transaction within a transaction"),
          s.madeManual 1) ∧
      (s.madeManual 1).inTransaction 1) ∧
    ∃ g error t, StateT.run (Call.setAutocommit 1 0) begunByCall = (0, g) ∧
      exec (Connection.setAutocommit 1 false) begunByCall.state = (.error error, t) ∧
      g = { begunByCall with state := t }.raising error Call.defaultPrefix := by
  intro s
  have isOpen : sessionAt s.connections 1 ≠ none := by decide +kernel
  have begun : s.inTransaction 1 := by decide +kernel
  have failed := setAutocommit_fails_iff.2 (.begun rfl begun)
  have live : begunByCall.connections.find? 1 = some ⟨1, Call.defaultPrefix⟩ := by decide +kernel
  have zero : (StateT.run (Call.setAutocommit 1 0) begunByCall).1 = 0 := by decide +kernel
  refine ⟨?_, ?_⟩
  · obtain ⟨closed, _⟩ | ⟨_, _, _, _, still, _⟩ :=
      failed_switch_of_mode.1 s (s.madeManual 1) 1 false _ failed
    · exact absurd closed isOpen
    · exact ⟨failed, still⟩
  · obtain ⟨missing, _⟩ | ⟨e, error, t, found, failed, same⟩ :=
      failed_switch_of_mode.2 begunByCall _ 1 0 (Prod.ext zero rfl)
    · cases missing.symm.trans live
    · cases found.symm.trans live
      exact ⟨_, error, t, Prod.ext zero rfl, failed, same⟩

/-- A refused switch changes the mode: the connection said that autocommit was on, and says that
it is off.  The next commit then leaves a transaction open, which it would not have left. -/
theorem refused_switch_changes_mode :
    let s := State.after {} begunByStatement
    ∃ t, exec (Connection.setAutocommit 1 false) s =
        (.error (.beginTransaction "cannot start a transaction within a transaction"), t) ∧
      (exec (Connection.autocommit? 1) s).1 = .ok true ∧
      (exec (Connection.autocommit? 1) t).1 = .ok false ∧
      (exec (Connection.commit 1) s).2.inTransaction 1 = false ∧
      (exec (Connection.commit 1) t).2.inTransaction 1 = true := by
  intro s
  have begun : s.inTransaction 1 := by decide +kernel
  have on : (exec (Connection.autocommit? 1) s).1.toOption = some true := by decide +kernel
  have off : (s.madeManual 1).manual 1 := by decide +kernel
  exact ⟨s.madeManual 1, exec_setAutocommit_of_inTransaction begun,
    congrArg Prod.fst (exec_eq_of_toOption on),
    congrArg Prod.fst (exec_autocommit_of_manual off), by decide +kernel, by decide +kernel⟩

end SqlDriver
