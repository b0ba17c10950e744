/-
# SqlDriver.Proofs.Driver.Failure -- an operation that fails leaves the driver's objects alone

What was done before an error stays done, in the databases: a script may have run in part, and a
session may have come and gone.  The driver's own objects are what they were (`SameObjects`),
whatever they are, and no object is new (`sameObjects_of_error`).  Two kinds of commands are left
out: the switch of the mode, which records the new mode first, and a fetch whose step fails, which
gives up its statement.
-/
import SqlDriver.Proofs.Driver.ManualTransaction

namespace SqlDriver

set_option autoImplicit false

/-- The same environments, connections and cursors under the same numbers, with their flags and
counts, and the same next numbers. -/
structure SameObjects (s t : State) : Prop where
  environments : t.environments = s.environments
  connections : t.connections = s.connections
  cursors : t.cursors = s.cursors

instance : Std.Refl SameObjects where
  refl _ := ⟨rfl, rfl, rfl⟩

instance : IsTrans State SameObjects where
  trans _ _ _ first second :=
    ⟨second.environments.trans first.environments, second.connections.trans first.connections,
      second.cursors.trans first.cursors⟩

/-- Where the operation fails, the driver's objects are what they were. -/
def Frugal {α : Type} (op : Op α) (s : State) : Prop :=
  ∀ error t, exec op s = (.error error, t) → SameObjects s t

section Operations

variable {α : Type} {s : State} (c k : Nat)

theorem Frugal.of_leads {op : Op α} (leads : Leads SameObjects op s) : Frugal op s := by
  intro error t fails
  rwa [Leads, fails] at leads

theorem Frugal.of_unchanged {op : Op α} (unchanged : (exec op s).2 = s) : Frugal op s := by
  refine .of_leads ?_
  rw [Leads, unchanged]
  exact Std.Refl.refl s

theorem Frugal.discard {op : Op α} (frugal : Frugal op s) : Frugal (Functor.discard op) s := by
  intro error t fails
  rw [exec_discard] at fails
  rcases answer : exec op s with ⟨error' | x, t'⟩ <;> rw [answer] at fails
  · cases fails
    exact frugal _ _ answer
  · cases fails

theorem connect_frugal (e : Nat) (source : String) (timeout : Option Nat) :
    Frugal (Environment.connect e source timeout) s := by
  have connects := Environment.connects s e source timeout
  intro error t fails
  rw [fails] at connects
  cases connects with
  | closed => exact Std.Refl.refl s
  | refused => exact ⟨rfl, rfl, rfl⟩

theorem execute_frugal (sql : String) : Frugal (Connection.execute c sql) s := by
  cases session : sessionAt s.connections c with
  | none => exact .of_unchanged (by rw [exec_execute_of_closed session])
  | some id =>
      have executed := executed_of_session sql session
      intro error t fails
      rw [fails] at executed
      cases executed <;> exact ⟨rfl, rfl, rfl⟩

/-- The halves of a batch run on the engine alone. -/
theorem endTransaction_frugal (how : Engine.Control) :
    Frugal (Connection.endTransaction c how) s := by
  cases session : sessionAt s.connections c with
  | none => exact .of_unchanged (by rw [exec_endTransaction_of_closed session])
  | some id =>
      refine .of_leads ?_
      rw [Leads, exec_endTransaction session]
      exact ⟨rfl, rfl, rfl⟩

theorem closeConnection_frugal : Frugal (Connection.close c) s := by
  change Frugal (get >>= _) s
  intro error t fails
  rw [exec_bind, exec_get] at fails
  dsimp only at fails
  split at fails
  · cases fails
  · split at fails
    · cases fails
    · split at fails
      · cases fails
        exact Std.Refl.refl s
      · cases fails

variable {k}

theorem next_frugal (closed : statementAt s.cursors k = none) : Frugal (Cursor.next k) s :=
  .of_unchanged (by rw [exec_next_of_closed closed])

theorem fetchInto_frugal (closed : statementAt s.cursors k = none) (target : Target)
    (mode : FetchMode) : Frugal (Cursor.fetchInto k target mode) s :=
  .of_unchanged (by rw [exec_fetchInto, exec_next_of_closed closed])

end Operations

/-- The command leaves the driver's objects alone where it fails: it does not switch the mode,
and a cursor from which it fetches is closed. -/
def Command.isFrugal (s : State) : Command → Prop
  | connect .. | execute .. | commit _ | rollback _ | closeConnection _ | autocommit _
  | lastNumber _ | columnNames _ | columnTypes _ => True
  | next k | fetchInto k _ _ => statementAt s.cursors k = none
  | _ => False

theorem sameObjects_of_error {s t : State} {command : Command} {error : Error}
    (isFrugal : command.isFrugal s) (fails : exec command.perform s = (.error error, t)) :
    SameObjects s t := by
  have frugal : Frugal command.perform s := by
    cases command with
    | connect e source timeout => exact (connect_frugal e source timeout).discard
    | execute c sql => exact (execute_frugal c sql).discard
    | commit c => exact endTransaction_frugal c _
    | rollback c => exact endTransaction_frugal c _
    | closeConnection c => exact (closeConnection_frugal c).discard
    | autocommit c => exact (Frugal.of_leads (autocommit_leads s c)).discard
    | lastNumber c => exact (Frugal.of_leads (lastNumber_leads s c)).discard
    | next k => exact (next_frugal isFrugal).discard
    | fetchInto k target mode => exact (fetchInto_frugal isFrugal target mode).discard
    | columnNames k => exact (Frugal.of_leads (columnNames_leads s k)).discard
    | columnTypes k => exact (Frugal.of_leads (columnTypes_leads s k)).discard
    | _ => exact isFrugal.elim
  exact frugal error t fails

end SqlDriver
