/-
# SqlDriver.Proofs.Call.Message -- what a call reports to the program

`Reports` is what a program sees of an error: the message of a database error that was raised,
or the text that was handed back.  A call reports something exactly when something went wrong in
it, and then the message of that error behind the prefix that goes with it (`reports_iff`); where
connecting ends the program, nothing is reported.
-/
import SqlDriver.Proofs.Call.Escape
import SqlDriver.Proofs.Call.Channel
import SqlDriver.Proofs.Call.Lifetime

namespace SqlDriver

set_option autoImplicit false

open SqlDriver.Text

/-! ## Messages -/

/-- A call reports to the program that something went wrong: it raised a database error with this
message, or handed the message back as a text. -/
inductive Reports (h : Host) (message : String) : Reply × Host → Prop where
  | raised {reply : Reply} {g : Host} {errors : List Error} {code : Int64}
      (told : Tells h g errors) (some : errors ≠ [])
      (waits : g.exception = .throw message code) : Reports h message (reply, g)
  | returned {a : Address} {g : Host} (writes : Writes h message a g) :
      Reports h message (.ended ⟨.error, Heap.wordOf a⟩, g)

section Messages

variable {h g : Host} {message other : String}

/-- Only one text was made. -/
theorem Writes.unique {a b : Address} (one : Writes h message a g) (two : Writes h other b g) :
    message = other := by
  have same : b = a := by
    by_contra apart
    have kept := one.others b apart
    rw [two.written, two.fresh] at kept
    cases kept
  subst same
  have octets : Utf8.ofString message = Utf8.ofString other := by
    have same := one.written.symm.trans two.written
    simpa using same
  rw [← Utf8.toStringLossy_ofString message, octets, Utf8.toStringLossy_ofString]

/-- A call that raised nothing, and whose answer is no error, reports nothing. -/
theorem not_reports_of_quiet {reply : Reply} (quiet : h.Quiet g)
    (calm : ∀ word, reply ≠ .ended ⟨.error, word⟩) : ¬ Reports h message (reply, g) := by
  intro reported
  cases reported with
  | raised told some waits => exact some (told.unique quiet.told)
  | returned writes => exact calm _ rfl

/-- What is reported in a channel is the message of what went wrong. -/
theorem Channel.reports_iff {sentinel : Reply} {failure : Option (Error × String)}
    {answer : Reply × Host} (channel : Channel sentinel h failure answer)
    (calm : ∀ word, sentinel ≠ .ended ⟨.error, word⟩) :
    Reports h message answer ↔
      ∃ e errorPrefix, failure = some (e, errorPrefix) ∧ message = errorPrefix ++ e.message := by
  cases channel with
  | @passes reply g quiet succeeds =>
      refine iff_of_false (not_reports_of_quiet quiet fun word same => ?_) (by simp)
      subst same
      simp [Reply.succeeds] at succeeds
  | @raises e errorPrefix g fatal raises =>
      constructor
      · intro reported
        generalize answer : (sentinel, g) = pair at reported
        cases reported with
        | raised told some waits =>
            cases answer
            refine ⟨e, errorPrefix, rfl, ?_⟩
            have same := waits.symm.trans raises.exception
            simp only [ExceptionSlot.throw, ExceptionSlot.mk.injEq, Option.some.injEq,
              Thrown.mk.injEq] at same
            exact same.1.1
        | returned writes => exact absurd (congrArg Prod.fst answer) (calm _)
      · rintro ⟨_, _, same, rfl⟩
        cases same
        exact .raised raises.told (List.cons_ne_nil _ _) raises.exception
  | @returns e errorPrefix a g mild quiet writes =>
      constructor
      · intro reported
        generalize answer :
          ((Reply.ended ⟨.error, Heap.wordOf a⟩, g) : Reply × Host) = pair at reported
        cases reported with
        | raised told some waits =>
            cases answer
            exact absurd (told.unique quiet.told) some
        | returned writes' =>
            obtain ⟨-, rfl⟩ := Prod.mk.inj answer
            exact ⟨e, errorPrefix, rfl, writes'.unique writes⟩
      · rintro ⟨_, _, same, rfl⟩
        cases same
        exact .returned writes

end Messages

/-- Connecting ends the program only without an error, and then reports nothing. -/
theorem connect_reports_iff (h : Host) (message : String) (x : Int64) (source : Address)
    (timeout : Int64) :
    Reports h message (StateT.run (Invocation.connect x source timeout).answer h) ↔
      ∃ e errorPrefix, (Invocation.connect x source timeout).byHandle? h .environment x =
        some (e, errorPrefix) ∧ message = errorPrefix ++ e.message := by
  by_cases crashes : ∃ e, h.environments.find? x = some e ∧
      (exec (Environment.connect e.object (h.heap.stringAt source) (Invocation.waitOf timeout))
        h.state).1 = .ok .crashed
  · obtain ⟨e, live, crashed⟩ := crashes
    have harmless : (Invocation.connect x source timeout).byHandle? h .environment x = none := by
      have live : (HandleKind.environment.registry h).find? x = some e := live
      rw [Invocation.byHandle?, live]
      simp only [Invocation.errorOn?, Command.error?, Command.perform]
      rw [errorOf_discard, crashed]
      rfl
    rw [harmless]
    refine iff_of_false ?_ (by simp)
    change ¬ Reports h message (.ended (StateT.run (Call.connect x source timeout) h).1,
      (StateT.run (Call.connect x source timeout) h).2)
    have ran : StateT.run (Call.connect x source timeout) h = (Call.refused, { h with
        state := (exec (Environment.connect e.object (h.heap.stringAt source)
          (Invocation.waitOf timeout)) h.state).2 }) := by
      rw [Call.connect, withEntry_of_live live, run_bind, run_textAt]
      dsimp only
      rw [run_bind, run_perform]
      dsimp only
      rw [show (if timeout.toInt < 0 then none else some timeout.toInt.toNat) =
        Invocation.waitOf timeout from rfl]
      rw [crashed]
      rfl
    rw [ran]
    exact not_reports_of_quiet (performed_quiet (connect_mild _ _ _ _)) fun _ same => by cases same
  · exact (connect_channel_of_bearable h x source timeout fun e live crashed =>
      crashes ⟨e, live, crashed⟩).reports_iff fun _ same => by cases same

/-- A call reports what went wrong in it, and nothing where nothing did. -/
theorem reports_iff (s : Service) (h : Host) (message : String) :
    Reports h message (StateT.run s.answer h) ↔
      ∃ e errorPrefix, s.failure? h = some (e, errorPrefix) ∧
        message = errorPrefix ++ e.message := by
  have calm (word : Int64) : s.sentinel ≠ .ended ⟨.error, word⟩ := by
    cases s with
    | info driver => exact fun same => by cases same
    | call r own => cases r <;> exact fun same => by cases same
  by_cases patient : s.Patient h
  · exact (channel_of_service s h patient).reports_iff calm
  · cases s with
    | info driver => exact absurd trivial patient
    | call r own =>
        cases r with
        | connect x source timeout => exact connect_reports_iff h message x source timeout
        | _ => exact absurd trivial patient

/-- What goes wrong in a call by handle. -/
theorem failure_of_expects {q : Invocation} (own : q.isWork = false) (h : Host)
    {kind : HandleKind} {x : Int64} (expects : q.expects = some (kind, x))
    (keeps : q.isRelease = false) :
    (Service.call q own).failure? h = q.byHandle? h kind x := by
  cases q <;> cases expects <;> first | rfl | cases keeps

/-- A call by handle reports what went wrong in it, and nothing where nothing did. -/
theorem reports_iff_byHandle {q : Invocation} (h : Host) {kind : HandleKind} {x : Int64}
    (expects : q.expects = some (kind, x)) (keeps : q.isRelease = false) (message : String) :
    Reports h message (StateT.run q.answer h) ↔
      ∃ e errorPrefix, q.byHandle? h kind x = some (e, errorPrefix) ∧
        message = errorPrefix ++ e.message := by
  have own : q.isWork = false := by cases q <;> first | rfl | cases expects
  rw [← failure_of_expects own h expects keeps]
  exact reports_iff (.call q own) h message

end SqlDriver
