/-
# SqlDriver.Proofs.Call.Failure -- a call that fails leaves the driver intact

A call that reports an error has touched no registry, and left every environment, connection and
cursor as it was (`Intact`), at whatever point it failed: the handle stands for nothing, or the
operation behind it failed and what it did stays in the databases
(`SqlDriver.Proofs.Driver.Failure`).  A fetch into a record that is refused for its handle or its
record does not even ask the driver, so no row is lost.
-/
import SqlDriver.Proofs.Call.Frame
import SqlDriver.Proofs.Call.Message
import SqlDriver.Proofs.Call.ModeSwitch
import SqlDriver.Proofs.Driver.Failure
import SqlDriver.Proofs.Driver.Likeness

namespace SqlDriver

set_option autoImplicit false

open Call

/-! ## What stays -/

/-- The registries, the environments, the connections and the cursors are the same. -/
structure Intact (h g : Host) : Prop where
  registries : SameRegistries h g
  objects : SameObjects h.state g.state

instance : Std.Refl Intact where
  refl h := ⟨Std.Refl.refl h, Std.Refl.refl h.state⟩

instance : IsTrans Host Intact where
  trans _ _ _ first second :=
    ⟨IsTrans.trans _ _ _ first.registries second.registries,
      IsTrans.trans _ _ _ first.objects second.objects⟩

section Intact

variable {α β : Type} (h : Host)

theorem raise_intact (error : Error) (errorPrefix : String) :
    Leaves Intact (raise error errorPrefix) h :=
  ⟨sameRegistries_frame.raise h error errorPrefix, ⟨rfl, rfl, rfl⟩⟩

theorem report_intact (error : Error) (errorPrefix : String) :
    Leaves Intact (report error errorPrefix) h := by
  refine ⟨sameRegistries_frame.report h error errorPrefix, ?_⟩
  unfold report
  split <;> exact ⟨rfl, rfl, rfl⟩

variable {h}

/-- An operation that fails, behind which its error is raised or reported. -/
theorem failed_intact {op : Op α} (frugal : Frugal op h.state)
    (fails : errorOf (exec op h.state).1 ≠ none) {f : Result α → Call β}
    (behind : ∀ error g, Leaves Intact (f (.error error)) g) :
    Leaves Intact (perform op >>= f) h := by
  unfold Leaves
  rw [run_bind, run_perform]
  rcases answer : exec op h.state with ⟨error | x, t⟩
  · have performed : Intact h { h with state := t } :=
      ⟨sameRegistries_frame.state h t, frugal error t answer⟩
    exact IsTrans.trans _ _ _ performed (behind error _)
  · rw [answer] at fails
    exact absurd rfl fails

/-- A call by handle in which something went wrong. -/
theorem withEntry_intact (kind : HandleKind) {x : Int64} {sentinel : α} {go : Entry → Call α}
    {q : Invocation} (fails : q.byHandle? h kind x ≠ none)
    (goes : ∀ e, (kind.registry h).find? x = some e → q.errorOn? h e.object ≠ none →
      Leaves Intact (go e) h) :
    Leaves Intact (withEntry kind.registry x sentinel go) h := by
  unfold Leaves
  cases found : (kind.registry h).find? x with
  | none =>
      rw [withEntry_of_missing found]
      exact raise_intact h _ _
  | some e =>
      rw [withEntry_of_live found]
      refine goes e found fun none => fails ?_
      rw [Invocation.byHandle?, found]
      dsimp only
      rw [none]
      rfl

end Intact

/-! ## Calls that fail -/

/-- The call leaves the driver intact where it fails: it does not switch the mode, and a cursor
from which it fetches is closed. -/
def Invocation.isFrugal (h : Host) : Invocation → Prop
  | connect .. | execute .. | commit _ | rollback _ | closeConnection _ | lastNumber _
  | columnNames _ | columnTypes _ => True
  | fetch x | fetchInto x .. =>
      ∀ e, h.cursors.find? x = some e → statementAt h.state.cursors e.object = none
  | _ => False

section Calls

variable {h : Host} {x : Int64}

theorem complete_intact {q : Invocation} {how : Engine.Control}
    (behind : ∀ c, q.errorOn? h c = errorOf (exec (Connection.endTransaction c how) h.state).1)
    (fails : q.byHandle? h .connection x ≠ none) :
    Leaves Intact (complete x fun c => Connection.endTransaction c how) h := by
  refine withEntry_intact .connection fails fun e _ failed => ?_
  rw [behind] at failed
  exact failed_intact (endTransaction_frugal e.object how) failed fun error g =>
    report_intact g error e.errorPrefix

/-- A call by handle that raises whatever error the driver has. -/
theorem orRaise_intact {α β : Type} (kind : HandleKind) {sentinel : β} {op : Nat → Op α}
    {answer : α → Call β} {q : Invocation} (frugal : ∀ c, Frugal (op c) h.state)
    (behind : ∀ c, q.errorOn? h c = errorOf (exec (discard (op c)) h.state).1)
    (fails : q.byHandle? h kind x ≠ none) :
    Leaves Intact (withEntry kind.registry x sentinel fun e =>
      orRaise e (op e.object) sentinel answer) h := by
  refine withEntry_intact kind fails fun e _ failed => ?_
  rw [behind, errorOf_discard] at failed
  exact failed_intact (frugal e.object) failed fun error g =>
    .bind (raise_intact g error e.errorPrefix) fun _ _ _ => .pure _

theorem intact_of_failure {q : Invocation} (isFrugal : q.isFrugal h) {kind : HandleKind}
    {x : Int64} (expects : q.expects = some (kind, x)) (fails : q.byHandle? h kind x ≠ none) :
    Leaves Intact q.answer h := by
  cases q with
  | connect y source timeout =>
      cases expects
      have connects : Leaves Intact (Call.connect x source timeout) h := by
        refine withEntry_intact .environment fails fun e _ failed => .textAt_bind ?_
        rw [Invocation.errorOn?, Command.error?, Command.perform, errorOf_discard] at failed
        exact failed_intact (connect_frugal _ _ _) failed fun error g =>
          report_intact g error e.errorPrefix
      exact connects
  | execute y sql =>
      cases expects
      have executes : Leaves Intact (Call.execute x sql) h := by
        refine withEntry_intact .connection fails fun e _ failed => .textAt_bind ?_
        rw [Invocation.errorOn?, Command.error?, Command.perform, errorOf_discard] at failed
        exact failed_intact (execute_frugal _ _) failed fun error g =>
          report_intact g error e.errorPrefix
      exact executes
  | commit y =>
      cases expects
      exact complete_intact (fun _ => rfl) fails
  | rollback y =>
      cases expects
      exact complete_intact (fun _ => rfl) fails
  | closeConnection y =>
      cases expects
      exact .map (orRaise_intact .connection (fun c => closeConnection_frugal c) (fun _ => rfl)
        fails) _
  | lastNumber y =>
      cases expects
      exact .map (orRaise_intact .connection (fun c => .of_leads (lastNumber_leads h.state c))
        (fun _ => rfl) fails) _
  | columnNames y =>
      cases expects
      exact .map (orRaise_intact .cursor (fun k => .of_leads (columnNames_leads h.state k))
        (fun _ => rfl) fails) _
  | columnTypes y =>
      cases expects
      exact .map (orRaise_intact .cursor (fun k => .of_leads (columnTypes_leads h.state k))
        (fun _ => rfl) fails) _
  | fetch y =>
      cases expects
      have fetches : Leaves Intact (Call.fetch x) h := by
        refine withEntry_intact .cursor fails fun e live failed => ?_
        rw [Invocation.errorOn?, Command.error?, Command.perform, errorOf_discard] at failed
        exact failed_intact (next_frugal (isFrugal e live)) failed fun error g =>
          report_intact g error e.errorPrefix
      exact fetches
  | fetchInto y record mode =>
      cases expects
      have fetches : Leaves Intact (Call.fetchInto x record mode) h := by
        refine withEntry_intact .cursor fails fun e live failed => .get_bind ?_
        rw [Invocation.errorOn?] at failed
        cases there : recordAt? h.heap record with
        | none => exact .bind (raise_intact h _ _) fun _ _ _ => .pure _
        | some r =>
            rw [there] at failed
            dsimp only at failed
            rw [Command.error?, Command.perform, errorOf_discard] at failed
            refine .textAt_bind ?_
            exact failed_intact (fetchInto_frugal (isFrugal e live) _ _) failed fun error g =>
              report_intact g error e.errorPrefix
      exact fetches
  | _ => exact isFrugal.elim

end Calls

/-! ## Refused fetches -/

/-- The answers of a fetch do not depend on what was told. -/
theorem next_of_raising (h : Host) (error : Error) (errorPrefix : String) (k : Nat) :
    (exec (Cursor.next k) (h.raising error errorPrefix).state).1 =
      (exec (Cursor.next k) h.state).1 := by
  -- Two states that differ in their events are alike, whichever object is said to be lost.
  have alike : Alike (.environment 0) h.state (h.raising error errorPrefix).state := by
    refine ⟨rfl, rfl, fun _ _ => rfl, rfl, fun c => ?_, fun _ same => (by cases same), rfl⟩
    change h.state.connections.get? c = (h.state.connections.get? c).map _
    cases h.state.connections.get? c <;> simp [Lost.held]
  exact (next_agrees alike k).1.symm

/-- A fetch into a record without a handle or without a record raises an error, and nothing else
happens. -/
theorem fetchInto_refused {h : Host} {x : Int64} {record : Address}
    (missing : h.cursors.find? x = none ∨ recordAt? h.heap record = none) (mode : Address) :
    ∃ error errorPrefix, StateT.run (Call.fetchInto x record mode) h =
      (refused, h.raising error errorPrefix) := by
  cases found : h.cursors.find? x with
  | none =>
      exact ⟨_, _, by rw [Call.fetchInto, withEntry_of_missing found, run_raise]⟩
  | some e =>
      obtain unknown | there := missing
      · cases unknown.symm.trans found
      · refine ⟨.invalidHandle "record" 0, e.errorPrefix, ?_⟩
        rw [Call.fetchInto, withEntry_of_live found, run_get_bind, there]
        rfl

/-! ## Every failure -/

/-- An operation of the driver that fails leaves every environment, connection and cursor as it
was, and makes none; a call that reports an error leaves the registries as they were besides.
A fetch into a record that is refused for its handle or its record takes no row. -/
theorem failed_call_leaves_driver :
    (∀ (s t : State) (command : Command) (error : Error), command.isFrugal s →
      exec command.perform s = (.error error, t) → SameObjects s t) ∧
    (∀ (h : Host) (q : Invocation) (message : String), q.isFrugal h →
      Reports h message (StateT.run q.answer h) →
      SameRegistries h (StateT.run q.answer h).2 ∧
        SameObjects h.state (StateT.run q.answer h).2.state) ∧
    ∀ (h : Host) (x : Int64) (record mode : Address),
      h.cursors.find? x = none ∨ recordAt? h.heap record = none →
      ∃ error errorPrefix, StateT.run (Call.fetchInto x record mode) h =
          (refused, h.raising error errorPrefix) ∧
        ∀ k, (exec (Cursor.next k) (h.raising error errorPrefix).state).1 =
          (exec (Cursor.next k) h.state).1 := by
  refine ⟨fun _ _ _ _ => sameObjects_of_error, fun h q message isFrugal reported => ?_,
    fun h x record mode missing => ?_⟩
  · obtain ⟨⟨kind, x⟩, expects, keeps⟩ :
        ∃ handle, q.expects = some handle ∧ q.isRelease = false := by
      cases q <;> first | exact ⟨_, rfl, rfl⟩ | exact isFrugal.elim
    obtain ⟨e, errorPrefix, failed, -⟩ := (reports_iff_byHandle h expects keeps message).1 reported
    have intact := intact_of_failure isFrugal expects (by rw [failed]; exact Option.some_ne_none _)
    exact ⟨intact.registries, intact.objects⟩
  · obtain ⟨error, errorPrefix, ran⟩ := fetchInto_refused missing mode
    exact ⟨error, errorPrefix, ran, next_of_raising h error errorPrefix⟩

/-- Committing where no transaction is open is an error, which is handed back. -/
theorem failed_commit_leaves_driver :
    let h := (issuing {} connecting).1
    (∃ error t, exec (Command.commit 1).perform h.state = (.error error, t) ∧
      SameObjects h.state t) ∧
    (∃ message, Reports h message (StateT.run (Invocation.commit 1).answer h)) ∧
    SameRegistries h (StateT.run (Invocation.commit 1).answer h).2 ∧
    ∃ error errorPrefix, StateT.run (Call.fetchInto 1 1 0) h =
      (refused, h.raising error errorPrefix) := by
  intro h
  have failed : (Command.commit 1).error? h.state =
      some (.engine ⟨"cannot commit - no transaction is active", 1⟩) := by decide +kernel
  have live : h.connections.find? 1 = some ⟨1, Call.defaultPrefix⟩ := by decide +kernel
  have missing : h.cursors.find? 1 = none := by decide +kernel
  have reported : Reports h (Call.defaultPrefix ++ _) (StateT.run (Invocation.commit 1).answer h) :=
    (reports_iff_byHandle h rfl rfl _).2 ⟨_, Call.defaultPrefix, by
      rw [Invocation.byHandle?, show (HandleKind.connection.registry h).find? 1 = _ from live]
      exact congrArg (Option.map _) failed, rfl⟩
  obtain ⟨commands, calls, fetches⟩ := failed_call_leaves_driver
  obtain ⟨error, errorPrefix, ran, -⟩ := fetches h 1 1 0 (.inl missing)
  refine ⟨?_, ⟨_, reported⟩, (calls h (.commit 1) _ trivial reported).1, error, errorPrefix, ran⟩
  rcases answer : exec (Command.commit 1).perform h.state with ⟨error | _, t⟩
  · exact ⟨error, t, rfl, commands _ _ (.commit 1) _ trivial answer⟩
  · rw [Command.error?, answer] at failed
    cases failed

end SqlDriver
