/-
# SqlDriver.Proofs.CommandLine.Refusal -- the statements that are refused for saying nothing

Executing a text is refused for want of a statement when the text is `Wordless`, unless it is
refused for its length, and otherwise only for a reason of the engine's own
(`execute_of_wordless`, `refuses_of_execute`).  `statements_speak` joins that with what the
splitter lets through: which statements of a script are refused so, what stands in them, and that
the runner does not come to the end of a script that has one.
-/
import SqlDriver.Proofs.CommandLine.Transaction
import SqlDriver.Proofs.Script.Speaking

namespace SqlDriver

set_option autoImplicit false

open Engine

/-! ## Executing a text -/

/-- The refusal of a text that holds no statement. -/
def noStatement : Fault :=
  ⟨"statement contains no SQL", 21⟩

/-- The refusal of a text without a statement: one that is too long is not looked into. -/
def wordlessRefusal (sql : String) : Fault :=
  if Program.isOverlong sql.toList then Program.tooLong else noStatement

/-- The engine cannot make the text ready to run, or its first step fails. -/
def Engine.World.Refuses (w : World) (id : Nat) (sql : String) (fault : Fault) : Prop :=
  (exec (Action.prepare id sql.toList) w).1 = .error fault ∨
    ∃ run v, exec (Action.prepare id sql.toList) w = (.ok (some run), v) ∧
      (exec (Action.step id run) v).1 = .error fault

theorem untilNul_of_clean {text : List Char} (clean : '\x00' ∉ text) :
    Text.untilNul text = text := by
  apply List.takeWhile_eq_self_iff.mpr
  intro c inside
  simpa using fun nul : c = '\x00' => clean (nul ▸ inside)

/-- Making a text ready finds no statement just when the text can be read and says nothing. -/
theorem prepare_none_iff {text : List Char} (clean : '\x00' ∉ text) (id : Nat) (w : World) :
    (exec (Action.prepare id text) w).1 = .ok none ↔
      Program.isOverlong text = false ∧ Wordless text := by
  rw [← tokens_eq_none_iff]
  unfold Action.prepare Program.front
  rw [untilNul_of_clean clean, exec_bind, exec_ofOutcome]
  cases Program.isOverlong text with
  | true => simp
  | false =>
      rw [if_neg Bool.false_ne_true]
      cases Grammar.tokens text with
      | none => simp
      | some ts =>
          refine iff_of_false ?_ (by simp)
          obtain ⟨schema, known⟩ := exec_schema id w
          dsimp only
          rw [exec_bind, known]
          dsimp only
          rw [exec_bind, exec_ofOutcome]
          cases Program.prepare schema ts with
          | error fault => simp
          | ok p =>
              dsimp only
              split <;> simp [exec_bind, exec_update, exec_session, -bind_pure_comp]

section Executing

variable {s : State} {c id : Nat} {sql : String}

theorem execute_of_wordless (opened : sessionAt s.connections c = some id)
    (clean : '\x00' ∉ sql.toList) (wordless : Wordless sql.toList) :
    exec (Connection.execute c sql) s = (.error (.statement (wordlessRefusal sql)), s) := by
  have executed := executed_of_session sql opened
  generalize exec (Connection.execute c sql) s = outcome at executed ⊢
  unfold wordlessRefusal
  by_cases overlong : Program.isOverlong sql.toList
  · rw [if_pos overlong]
    have unread := exec_prepare_of_unread id s.world (if_pos overlong)
    cases executed with
    | unprepared prepared =>
        cases unread.symm.trans prepared
        rfl
    | blank prepared => cases unread.symm.trans prepared
    | failed prepared => cases unread.symm.trans prepared
    | counted prepared => cases unread.symm.trans prepared
    | opened prepared => cases unread.symm.trans prepared
  · rw [if_neg overlong]
    have nothing := (prepare_none_iff clean id s.world).mpr ⟨by simpa using overlong, wordless⟩
    have same := prepare_cases id sql.toList s.world
    cases executed with
    | blank prepared =>
        rw [prepared] at same
        obtain rfl := same
        rfl
    | unprepared prepared => cases prepared ▸ nothing
    | failed prepared => cases prepared ▸ nothing
    | counted prepared => cases prepared ▸ nothing
    | opened prepared => cases prepared ▸ nothing

/-- A text that says something is refused by the engine or not at all. -/
theorem refuses_of_execute (opened : sessionAt s.connections c = some id)
    (clean : '\x00' ∉ sql.toList) (speaks : ¬ Wordless sql.toList) {e : Error}
    (refused : (exec (Connection.execute c sql) s).1 = .error e) :
    ∃ fault, e = .statement fault ∧ s.world.Refuses id sql fault := by
  have executed := executed_of_session sql opened
  generalize exec (Connection.execute c sql) s = outcome at executed refused
  cases executed with
  | @unprepared fault _ prepared =>
      cases refused
      exact ⟨fault, rfl, .inl (by rw [prepared])⟩
  | blank prepared =>
      exact absurd ((prepare_none_iff clean id s.world).mp (by rw [prepared])).2 speaks
  | @failed run ready _ fault prepared stepped =>
      cases refused
      exact ⟨fault, rfl, .inr ⟨run, ready, prepared, by rw [stepped]⟩⟩
  -- a statement that has begun is not refused any more
  | counted => cases refused
  | opened => cases refused

end Executing

/-! ## Running a script -/

/-- A run that comes to its end has had a statement to execute every time. -/
theorem speaks_of_runAll (r : Runner) (c : Nat) {statements : List String} {s : State} {sink : Sink}
    (clean : ∀ sql ∈ statements, '\x00' ∉ sql.toList)
    (ends : (exec (r.runAll c statements) (s, sink)).1 = .ok ()) :
    ∀ sql ∈ statements, ¬ Wordless sql.toList := by
  induction statements generalizing s sink with
  | nil => simp
  | cons sql rest ih =>
      unfold Runner.runAll at ends
      rw [exec_bind] at ends
      rcases first : exec (r.run c sql) (s, sink) with ⟨e | _, t, sink'⟩ <;>
        rw [first] at ends <;> dsimp only at ends
      · cases ends
      · intro other inside
        obtain rfl | later := List.mem_cons.mp inside
        · intro wordless
          unfold Runner.run at first
          rw [exec_bind, exec_running] at first
          cases opened : sessionAt s.connections c with
          | none =>
              rw [exec_execute_of_closed opened other] at first
              cases first
          | some id =>
              rw [execute_of_wordless opened (clean other inside) wordless] at first
              cases first
        · exact ih (fun sql there => clean sql (List.mem_cons_of_mem _ there)) ends other later

theorem clean_of_statements {script sql : String} (clean : '\x00' ∉ script.toList)
    (returned : sql ∈ Script.statements script) :
    sql.toList ∈ Script.split script.toList ∧ '\x00' ∉ sql.toList := by
  obtain ⟨s, there, rfl⟩ := List.mem_map.mp returned
  rw [String.toList_ofList]
  obtain ⟨front, -, -, -, -, within⟩ := Script.exists_front there
  exact ⟨there, fun nul => clean (within (List.mem_append_right _ nul))⟩

/-- A statement of a script is refused for want of a statement, or for its length in front of that,
exactly when it is `Wordless`; it then holds a comment between `/*` and `*/` or a byte order mark
behind blanks and line comments.  Any other refusal is one of the engine's own.  A run of a script
comes to its end only if none of its statements is `Wordless`. -/
theorem statements_speak (script : String) (clean : '\x00' ∉ script.toList) :
    (∀ sql ∈ Script.statements script,
      (Wordless sql.toList → ∃ front rest, sql.toList = front ++ rest ∧ Script.Prelude front ∧
        Script.Masked rest) ∧
      ∀ (s : State) (c id : Nat), sessionAt s.connections c = some id →
        (Wordless sql.toList →
          exec (Connection.execute c sql) s = (.error (.statement (wordlessRefusal sql)), s)) ∧
        (¬ Wordless sql.toList → ∀ e, (exec (Connection.execute c sql) s).1 = .error e →
          ∃ fault, e = .statement fault ∧ s.world.Refuses id sql fault)) ∧
    ∀ (r : Runner) (c : Nat) (s : State) (sink : Sink),
      (exec (r.runAll c (Script.statements script)) (s, sink)).1 = .ok () →
        ∀ sql ∈ Script.statements script, ¬ Wordless sql.toList := by
  refine ⟨fun sql returned => ?_, fun r c s sink ends => ?_⟩
  · obtain ⟨there, clean'⟩ := clean_of_statements clean returned
    refine ⟨Script.exists_masked clean there, fun s c id opened => ⟨?_, ?_⟩⟩
    · exact execute_of_wordless opened clean'
    · intro speaks e refused
      exact refuses_of_execute opened clean' speaks refused
  · exact speaks_of_runAll r c (fun sql returned => (clean_of_statements clean returned).2) ends

/-- The objects of a command in front of its statements. -/
def CommandLine.inserting : State :=
  { ready {} {} with
    world :=
      { disk := ⟨[("a.db", .octets [])]⟩
        sessions := (({} : Pool Session).insert { file := some "a.db", readOnly := false }).2 }
    connections := (({} : Pool Connection).insert { session := some 1, environment := 1 }).2
    events := [.connectionOpened "a.db" none] }

/-- A script whose last statement is a comment: that statement is refused on an open connection. -/
theorem closing_note_is_refused :
    '\x00' ∉ "SELECT 1; /* done */".toList ∧
      sessionAt CommandLine.inserting.connections 1 = some 1 ∧
      exec (Connection.execute 1 "/* done */") CommandLine.inserting =
        (.error (.statement noStatement), CommandLine.inserting) := by
  have clean : '\x00' ∉ "SELECT 1; /* done */".toList := by decide +kernel
  have returned : "/* done */" ∈ Script.statements "SELECT 1; /* done */" := by decide +kernel
  have wordless : Wordless "/* done */".toList := (tokens_eq_none_iff _).mp (by decide +kernel)
  have opened : sessionAt CommandLine.inserting.connections 1 = some 1 := rfl
  have refusal : wordlessRefusal "/* done */" = noStatement := by decide +kernel
  refine ⟨clean, opened, ?_⟩
  rw [← refusal]
  exact (((statements_speak _ clean).1 _ returned).2 CommandLine.inserting 1 1 opened).1 wordless

end SqlDriver

namespace SqlDriver.CommandLine

open Engine

/-- A command whose last statement is a comment. -/
def noted : Options where
  database := "a.db"
  statements := ["CREATE TABLE t(x); /* done */"]
  transaction := true

/-- The comment is handed out as a statement, and holds none; the command fails, and the table is
not made. -/
theorem note_undoes_transaction :
    Script.statements "CREATE TABLE t(x); /* done */" = ["CREATE TABLE t(x)", "/* done */"] ∧
      Wordless "/* done */".toList ∧
      (exec (perform noted {}) ({}, {})).1 = .error (.told "statement contains no SQL") ∧
      ((exec (perform noted {}) ({}, {})).2.1.world.disk.file? "a.db").map File.bytes =
        some [] := by
  exact ⟨by decide +kernel, (tokens_eq_none_iff _).mp (by decide +kernel), by decide +kernel,
    by decide +kernel⟩

end SqlDriver.CommandLine
