/-
# SqlDriver.Proofs.Engine.Prepared -- what a text is made into

A text becomes a program in many ways, all of them through binding its statement: it reads,
writes, controls a transaction or does nothing (`Statement.Becomes`, `prepare_becomes`).  Whether
the rows of the program come from reading is a matter of the text alone (`prepare_isReading`), and
then it needs no lock for writing (`prepare_isPeaceful`).  A statement is about data if it does not
control a transaction, and plain if it hands back no rows that it changes, either; so is the
program that it becomes (`prepare_isData`, `prepare_isPlain`).
-/
import SqlDriver.Engine.Program

namespace SqlDriver.Engine

set_option autoImplicit false

/-- The rows of a program come from reading alone. -/
def Program.isReading : Program → Bool
  | query _ | readVersion => true
  | _ => false

def Program.addsColumn : Program → Bool
  | addColumn .. => true
  | _ => false

theorem Program.isReading_of_addsColumn {p : Program} (adds : p.addsColumn) :
    p.isReading = false := by
  cases p <;> first | rfl | cases adds

/-- A program that reads does not write. -/
def Prepared.IsPeaceful (p : Prepared) : Prop :=
  p.program.isReading → p.access ≠ .write

/-! ## Binding -/

/-- Where something is bound, what comes of it is as it should be. -/
def Binds {α : Type} (post : α → Prop) (l : Binding.Lookup α) : Prop :=
  ∀ notes x rest, StateT.run l notes = .ok (x, rest) → post x

namespace Binds

variable {α β : Type} {post : β → Prop}

theorem pure {x : β} (holds : post x) : Binds post (pure x) := by
  rintro notes _ _ ⟨⟩
  exact holds

theorem refuse (message : String) : Binds post (Binding.refuse message) := by
  rintro notes _ _ ⟨⟩

theorem bind_of {before : α → Prop} {l : Binding.Lookup α} {f : α → Binding.Lookup β}
    (first : Binds before l) (rest : ∀ x, before x → Binds post (f x)) :
    Binds post (l >>= f) := by
  intro notes y after answer
  rw [StateT.run_bind] at answer
  cases made : StateT.run l notes with
  | error fault =>
      rw [made] at answer
      cases answer
  | ok result =>
      rw [made] at answer
      exact rest result.1 (first notes _ _ made) result.2 y after answer

theorem refuse_bind (message : String) (f : α → Binding.Lookup β) :
    Binds post (Binding.refuse message >>= f) := by
  rintro notes _ _ ⟨⟩

/-- What is done only where a reason to refuse is not met. -/
theorem check {unfit : Prop} [Decidable unfit] (message : String)
    {rest : PUnit → Binding.Lookup β} (goes : Binds post (rest ())) :
    Binds post (if unfit then Binding.refuse message >>= rest else rest ()) := by
  split
  · exact .refuse_bind message rest
  · exact goes

theorem bind {l : Binding.Lookup α} {f : α → Binding.Lookup β} (rest : ∀ x, Binds post (f x)) :
    Binds post (l >>= f) :=
  bind_of (show Binds (fun _ => True) l from fun _ _ _ _ => trivial) fun x _ => rest x

end Binds

/-! ## Kinds of statements -/

/-- The statement reads, whatever tables there are. -/
def Statement.isReading : Statement → Bool
  | select _ | readVersion => true
  | _ => false

/-- A statement begins or ends a transaction or a part of one. -/
def Statement.isControl : Statement → Bool
  | control _ => true
  | _ => false

def Change.returning : Change → List ResultItem
  | insert _ _ _ _ returning | update _ _ _ _ returning | delete _ _ returning => returning

/-- A statement neither controls a transaction nor hands back rows that it changes. -/
def Statement.isPlain : Statement → Bool
  | control _ => false
  | change c => c.returning.isEmpty
  | _ => true

/-! ## What statements are bound to -/

/-- A change that hands back nothing has no columns. -/
theorem bindReturning_nil (env : Binding.Env) (t : Table) :
    Binds (· = []) (Binding.bindReturning env t []) := by
  unfold Binding.bindReturning Binding.bindItems
  exact .pure rfl

theorem bindChange_outputs (fuel : Nat) (env : Binding.Env) (override : Option Conflict)
    (active : List String) {change : Change} (plain : change.returning = []) :
    Binds (fun made => made.2 = []) (Binding.bindChange fuel env override active change) := by
  cases fuel with
  | zero =>
      unfold Binding.bindChange
      exact .refuse _
  | succ fuel =>
      unfold Binding.bindChange
      extract_lets policy
      cases change with
      | insert conflict n columns rows returning =>
          obtain rfl : returning = [] := plain
          refine .bind fun t => .bind fun sources => ?_
          have hands {α : Type} {triggers : Binding.Lookup α}
              {made : List (Binding.Output × Binding.Bound) → α → Mutation} :
              Binds (fun made => made.2 = [])
                (do
                  let returning ← Binding.bindReturning env t []
                  let triggers ← triggers
                  return (made returning triggers, returning.map Prod.fst)) :=
            .bind_of (bindReturning_nil env t) fun results none_ => .bind fun _ =>
              .pure (congrArg (List.map Prod.fst) none_)
          rcases rows with _ | q
          · refine .bind fun ⟨query, width⟩ => ?_
            cases width with
            | none => exact hands
            | some width => exact .bind fun _ => hands
          · refine .bind fun bound => .bind fun ⟨query, width⟩ => ?_
            cases width with
            | none => exact hands
            | some width => exact .bind fun _ => hands
      | update conflict n assignments filter returning =>
          obtain rfl : returning = [] := plain
          refine .bind fun t => .bind fun assignments => .bind fun rows =>
            .bind_of (bindReturning_nil env t) fun results none_ => .pure ?_
          rw [none_]
          rfl
      | delete n filter returning =>
          obtain rfl : returning = [] := plain
          refine .bind fun t => .bind fun rows =>
            .bind_of (bindReturning_nil env t) fun results none_ => .pure ?_
          rw [none_]
          rfl

/-- What a statement is bound to: a program that reads, one that writes, none at all, or the control
of a transaction. -/
inductive Statement.Becomes (s : Statement) : Prepared → Prop where
  | reads {p : Prepared} (statement : s.isReading) (program : p.program.isReading)
      (access : p.access ≠ .write) : Becomes s p
  | writes {p : Prepared} (statement : s.isReading = false)
      (program : p.program.isReading = false) (control : ∀ k, p.program ≠ .control k)
      (access : p.access = .write)
      (bare : s.isPlain → p.outputs ≠ [] → p.program.addsColumn)
      (adds : p.program.addsColumn → ∃ n f, s = .addColumn n f) : Becomes s p
  | skips (statement : s.isReading = false) (access : Access) :
      Becomes s { program := .nothing, access }
  | controls (statement : s.isReading = false) (control : s.isControl) (plain : s.isPlain = false)
      (k : Control) : Becomes s { program := .control k, access := .none }

theorem bind_becomes (schema : Outcome Contents) (s : Statement) :
    Binds s.Becomes (Program.bind schema s) := by
  have writes {program : Program} (statement : s.isReading = false)
      (reads : program.isReading = false) (control : ∀ k, program ≠ .control k)
      (adds : program.addsColumn = false) :
      Binds s.Becomes (pure (.writing program) : Binding.Lookup Prepared) :=
    .pure (.writes statement reads control rfl (fun _ columns => absurd rfl columns)
      fun added => absurd (adds.symm.trans added) Bool.false_ne_true)
  have skips {access : Access} (statement : s.isReading = false) :
      Binds s.Becomes (pure { program := .nothing, access } : Binding.Lookup Prepared) :=
    .pure (.skips statement access)
  unfold Program.bind
  extract_lets
  split
  extract_lets env
  cases s with
  | select q =>
      refine .bind fun bound => .bind fun notes => .pure (.reads rfl rfl ?_)
      dsimp only
      split <;> decide
  | change change =>
      by_cases plain : change.returning = []
      · exact .bind_of (bindChange_outputs _ env none [] plain) fun made none_ =>
          .pure (.writes rfl rfl nofun rfl (fun _ columns => absurd none_ columns) nofun)
      · exact .bind fun made => .pure (.writes rfl rfl nofun rfl (fun bare =>
          absurd (List.isEmpty_iff.1 bare) plain) nofun)
  | createTable missing n columns rules =>
      refine .bind fun _ => ?_
      split
      · exact skips rfl
      · exact .bind fun _ => writes rfl rfl nofun rfl
  | dropTable present n =>
      refine .bind fun _ => ?_
      split
      · exact writes rfl rfl nofun rfl
      · split
        · exact skips rfl
        · exact .refuse _
  | addColumn n f =>
      exact .bind fun _ => .bind fun _ => .pure (.writes rfl rfl nofun rfl (fun _ _ => rfl)
        fun _ => ⟨n, f, rfl⟩)
  | createTrigger missing form =>
      refine .bind fun _ => ?_
      split
      · exact skips rfl
      · exact writes rfl rfl nofun rfl
  | dropTrigger present n =>
      refine .bind fun _ => ?_
      split
      · exact writes rfl rfl nofun rfl
      · split
        · exact skips rfl
        · exact .refuse _
  | control k => exact .pure (.controls rfl rfl rfl k)
  | readVersion => exact .pure (.reads rfl rfl (by decide))
  | writeVersion v => exact writes rfl rfl nofun rfl
  | nothing => exact skips rfl

/-- A text that is made ready is a statement that was bound. -/
theorem bound_of_prepare {schema : Outcome Contents} {ts : List Token} {p : Prepared}
    (made : Program.prepare schema ts = .ok p) :
    ∃ s notes, Grammar.statementOf ts = .ok s ∧
      StateT.run (Program.bind schema s) {} = .ok (p, notes) := by
  unfold Program.prepare at made
  extract_lets bound at made
  have here (made : bound () = .ok p) :
      ∃ s notes, Grammar.statementOf ts = .ok s ∧
        StateT.run (Program.bind schema s) {} = .ok (p, notes) := by
    dsimp only [bound] at made
    cases parsed : Grammar.statementOf ts with
    | error fault =>
        rw [parsed] at made
        cases made
    | ok s =>
        rw [parsed] at made
        change (StateT.run (Program.bind schema s) {} >>= fun made => pure made.1) = _ at made
        cases answer : StateT.run (Program.bind schema s) {} with
        | error fault =>
            rw [answer] at made
            cases made
        | ok result =>
            rw [answer] at made
            cases made
            exact ⟨s, result.2, rfl, answer⟩
  split at made
  · exact here made
  · cases schema with
    | error fault => cases made
    | ok c =>
        change (do Program.checkHeading c (Grammar.headingOf ts); bound ()) = _ at made
        cases checked : Program.checkHeading c (Grammar.headingOf ts) with
        | error fault =>
            rw [checked] at made
            cases made
        | ok _ =>
            rw [checked] at made
            exact here made

/-- A text is made into what its statement is bound to. -/
theorem prepare_becomes {schema : Outcome Contents} {ts : List Token} {p : Prepared}
    (made : Program.prepare schema ts = .ok p) :
    ∃ s, Grammar.statementOf ts = .ok s ∧ s.Becomes p := by
  obtain ⟨s, notes, parsed, bound⟩ := bound_of_prepare made
  exact ⟨s, parsed, bind_becomes schema s _ _ _ bound⟩

/-! ## What texts are made into -/

def isReadingText (ts : List Token) : Bool :=
  (Grammar.statementOf ts).toOption.any Statement.isReading

/-- The program of a statement that is about data. -/
structure Prepared.IsData (p : Prepared) : Prop where
  control : ∀ k, p.program ≠ .control k
  /-- What needs no lock leaves the database alone. -/
  access : p.access = .none → p.program.isReading ∨ p.program = .nothing

/-- A program that does more than read looks for the tables that there are. -/
theorem Prepared.IsData.needs {p : Prepared} (data : p.IsData)
    (writes : p.program.isReading = false) (acts : p.program ≠ .nothing) : p.access ≠ .none :=
  fun none_ => (data.access none_).elim
    (fun reads => Bool.false_ne_true (writes.symm.trans reads)) acts

/-- The program of a plain statement. -/
structure Prepared.IsPlain (p : Prepared) : Prop where
  control : ∀ k, p.program ≠ .control k
  /-- What does not read has columns only where it adds one to a table; it has no rows then. -/
  outputs : p.program.isReading = false → p.outputs ≠ [] → p.program.addsColumn
  /-- What needs no lock leaves the database alone. -/
  access : p.access = .none → p.program.isReading ∨ p.program = .nothing

theorem Prepared.IsPlain.isData {p : Prepared} (plain : p.IsPlain) : p.IsData :=
  ⟨plain.control, plain.access⟩

/-- The program hands back rows that it changes. -/
def Prepared.handsBack (p : Prepared) : Bool :=
  match p.program with
  | .mutate _ => !p.outputs.isEmpty
  | _ => false

theorem Prepared.handsBack_of_mutate {p : Prepared} {m : Mutation}
    (program : p.program = .mutate m) : p.handsBack = !p.outputs.isEmpty := by
  rw [handsBack, program]

theorem Prepared.IsPlain.not_handsBack {p : Prepared} (plain : p.IsPlain) :
    p.handsBack = false := by
  cases program : p.program with
  | mutate m =>
      rw [handsBack_of_mutate program]
      cases columns : p.outputs with
      | nil => rfl
      | cons o rest =>
          have adds := plain.outputs (by rw [program]; rfl) (by rw [columns]; nofun)
          rw [program] at adds
          cases adds
  | _ => rw [handsBack, program]

section Prepare

variable {schema : Outcome Contents} {ts : List Token} {p : Prepared}
  (made : Program.prepare schema ts = .ok p)
include made

theorem prepare_isPeaceful : p.IsPeaceful := by
  obtain ⟨s, _, becomes⟩ := prepare_becomes made
  intro reading
  cases becomes with
  | reads _ _ access => exact access
  | writes _ program => cases program.symm.trans reading
  | skips => cases reading
  | controls => cases reading

/-- A text is made into a program that reads exactly if its statement does. -/
theorem prepare_isReading : p.program.isReading = isReadingText ts := by
  obtain ⟨s, parsed, becomes⟩ := prepare_becomes made
  have text : isReadingText ts = s.isReading := by
    rw [isReadingText, parsed]
    rfl
  rw [text]
  cases becomes with
  | reads statement program => exact program.trans statement.symm
  | writes statement program => exact program.trans statement.symm
  | skips statement => exact statement.symm
  | controls statement => exact statement.symm

theorem prepare_isData (data : ∀ s, Grammar.statementOf ts = .ok s → s.isControl = false) :
    p.IsData := by
  obtain ⟨s, parsed, becomes⟩ := prepare_becomes made
  cases becomes with
  | reads _ program =>
      refine ⟨fun k control => ?_, fun _ => .inl program⟩
      rw [control] at program
      cases program
  | writes _ _ control access => exact ⟨control, fun none_ => by cases none_.symm.trans access⟩
  | skips => exact ⟨nofun, fun _ => .inr rfl⟩
  | controls _ control => cases (data s parsed).symm.trans control

theorem prepare_isPlain (plain : ∀ s, Grammar.statementOf ts = .ok s → s.isPlain) : p.IsPlain := by
  obtain ⟨s, parsed, becomes⟩ := prepare_becomes made
  have data : p.IsData := prepare_isData made fun s parsed => by
    have plain := plain s parsed
    cases s with
    | control k => cases plain
    | _ => rfl
  refine ⟨data.control, fun writes columns => ?_, data.access⟩
  cases becomes with
  | reads _ program => cases writes.symm.trans program
  | writes _ _ _ _ bare => exact bare (plain s parsed) columns
  | skips => exact absurd rfl columns
  | controls => exact absurd rfl columns

end Prepare

end SqlDriver.Engine
