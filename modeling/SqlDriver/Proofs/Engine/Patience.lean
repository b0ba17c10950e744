/-
# SqlDriver.Proofs.Engine.Patience -- what a bound of steps changes

Queries and changes run up to a bound of steps, behind which they are interrupted.  The bound
says no more than that: whoever waits longer gets the same answer where there was one
(`Flow.agrees_of_le`, `agreesOnChanges_of_le`, `mutate_of_le`).  So the answer of a flow is a
relation in which no bound occurs, and there is at most one (`Flow.Answers.unique`); what is
pulled from a flow is that answer or an interruption (`Flow.pull_answers`).
-/
import SqlDriver.Engine.Change

namespace SqlDriver.Engine

set_option autoImplicit false

/-- What comes of a run was cut off, or it is what comes of another one. -/
def UpTo {ε α : Type} (cut : ε → Prop) (short long : Except ε α) : Prop :=
  (∃ e, cut e ∧ short = .error e) ∨ short = long

namespace UpTo

variable {ε α β γ : Type} {cut : ε → Prop} {x y : Except ε α}

theorem refl (x : Except ε α) : UpTo cut x x :=
  .inr rfl

theorem stops {e : ε} (stopped : cut e) (y : Except ε α) : UpTo cut (.error e) y :=
  .inl ⟨e, stopped, rfl⟩

/-- Whatever passes an error on goes on with the same value, or stops for the same reason. -/
@[elab_as_elim]
theorem elim {motive : Except ε α → Except ε α → Prop} (upTo : UpTo cut x y)
    (stops : ∀ e, cut e → ∀ y, motive (.error e) y)
    (fails : ∀ e, motive (.error e) (.error e)) (goesOn : ∀ a, motive (.ok a) (.ok a)) :
    motive x y := by
  rcases upTo with ⟨e, stopped, rfl⟩ | rfl
  · exact stops e stopped y
  · cases x with
    | error e => exact fails e
    | ok a => exact goesOn a

theorem bind {f g : α → Except ε β} (first : UpTo cut x y)
    (andThen : ∀ a, UpTo cut (f a) (g a)) : UpTo cut (x >>= f) (y >>= g) :=
  UpTo.elim first (fun _ stopped _ => .stops stopped _) (fun _ => .refl _) andThen

theorem mapM {f g : γ → Except ε β} (each : ∀ c, UpTo cut (f c) (g c)) :
    ∀ cs : List γ, UpTo cut (cs.mapM f) (cs.mapM g)
  | [] => .refl _
  | c :: cs => by
      rw [List.mapM_cons, List.mapM_cons]
      exact (each c).bind fun _ => (mapM each cs).bind fun _ => .refl _

theorem mapM_option {f g : γ → Except ε β} (each : ∀ c, UpTo cut (f c) (g c)) :
    ∀ c : Option γ, UpTo cut (c.mapM f) (c.mapM g)
  | none => .refl _
  | some c => (each c).bind fun _ => .refl _

end UpTo

/-- The fault of a run that did not end within its bound of steps. -/
def Interrupts (fault : Fault) : Prop :=
  fault = Flow.interrupted

theorem UpTo.interrupted {α : Type} (y : Outcome α) :
    UpTo Interrupts (.error Flow.interrupted) y :=
  .inl ⟨_, rfl, rfl⟩

theorem UpTo.eq_of_ne {α : Type} {x y : Outcome α} (upTo : UpTo Interrupts x y)
    (done : x ≠ .error Flow.interrupted) : x = y := by
  rcases upTo with ⟨e, rfl, stopped⟩ | same
  · exact absurd stopped done
  · exact same

/-! ## Terms -/

section Terms

set_option linter.unusedSectionVars false

variable {short long : Reader} (answers : ∀ fixed q stack,
  UpTo Interrupts (short fixed q stack) (long fixed q stack)) (stack : Stack)

include answers

mutual

theorem Term.eval_upTo : ∀ t : Term, UpTo Interrupts (t.eval short stack) (t.eval long stack)
  | .constant _ | .column _ _ => by
      simp only [Term.eval]
      exact .refl _
  | .unary _ t | .isNull _ t | .cast _ t => by
      simp only [Term.eval]
      exact (eval_upTo t).bind fun _ => .refl _
  | .compare _ _ _ l r | .combine _ l r | .like l r => by
      simp only [Term.eval]
      exact (eval_upTo l).bind fun _ => (eval_upTo r).bind fun _ => .refl _
  | .both l r | .either l r => by
      simp only [Term.eval]
      refine (eval_upTo l).bind fun d => ?_
      split
      · exact .refl _
      · exact (eval_upTo r).bind fun _ => .refl _
      · exact (eval_upTo r).bind fun _ => .refl _
  | .oneOf _ _ t items => by
      simp only [Term.eval]
      exact (eval_upTo t).bind fun _ => (evalAll_upTo items).bind fun _ => .refl _
  | .choose condition yes no => by
      simp only [Term.eval]
      refine (eval_upTo condition).bind fun d => ?_
      split
      · exact eval_upTo yes
      · exact eval_upTo no
  | .call _ arguments => by
      simp only [Term.eval]
      exact (evalAll_upTo arguments).bind fun _ => .refl _
  | .first fixed q | .exists fixed q => by
      simp only [Term.eval]
      exact (answers fixed q stack).bind fun _ => .refl _

theorem Term.evalAll_upTo : ∀ ts : List Term,
    UpTo Interrupts (Term.evalAll short stack ts) (Term.evalAll long stack ts)
  | [] => by
      simp only [Term.evalAll]
      exact .refl _
  | t :: ts => by
      simp only [Term.evalAll]
      exact (eval_upTo t).bind fun _ => (evalAll_upTo ts).bind fun _ => .refl _

end

theorem Term.holds_upTo : ∀ filter : Option Term,
    UpTo Interrupts (Term.holds short stack filter) (Term.holds long stack filter)
  | none => .refl _
  | some t => (t.eval_upTo answers stack).bind fun _ => .refl _

theorem Flow.rowCount_upTo (t : Term) :
    UpTo Interrupts (Flow.rowCount short stack t) (Flow.rowCount long stack t) :=
  (t.eval_upTo answers stack).bind fun _ => .refl _

theorem Flow.Summary.add_upTo
    (functions : List (AggregateFunction × Collation × Option Term)) (s : Flow.Summary)
    (row : Tuple) : UpTo Interrupts (s.add short stack functions row)
      (s.add long stack functions row) := by
  refine (UpTo.mapM ?_ _).bind fun _ => .refl _
  rintro ⟨⟨f, c, _ | t⟩, tally⟩
  · exact .refl _
  · exact (t.eval_upTo answers (row :: stack)).bind fun _ => .refl _

theorem Flow.Summary.results_upTo
    (functions : List (AggregateFunction × Collation × Option Term)) (results : List Term)
    (s : Flow.Summary) :
    UpTo Interrupts (s.results short stack functions results)
      (s.results long stack functions results) :=
  (UpTo.refl _).bind fun _ => Term.evalAll_upTo answers _ results

end Terms

/-! ## Flows -/

namespace Flow

/-- Who waits for `n` steps is interrupted or gets what comes of `m` steps. -/
structure Agrees (n m : Nat) : Prop where
  next : ∀ db stack flow, UpTo Interrupts (next n db stack flow) (next m db stack flow)
  skipped : ∀ db stack k flow,
    UpTo Interrupts (skipped n db stack k flow) (skipped m db stack k flow)
  drained : ∀ db stack flow out,
    UpTo Interrupts (drained n db stack flow out) (drained m db stack flow out)
  gathered : ∀ db stack q, UpTo Interrupts (gathered n db stack q) (gathered m db stack q)
  summarized : ∀ db stack filter functions flow s,
    UpTo Interrupts (summarized n db stack filter functions flow s)
      (summarized m db stack filter functions flow s)
  firstOf : ∀ db fixed q stack,
    UpTo Interrupts (firstOf n db fixed q stack) (firstOf m db fixed q stack)

theorem agrees_zero (m : Nat) : Agrees 0 m where
  next _ _ _ := .interrupted _
  skipped _ _ _ _ := .interrupted _
  drained _ _ _ _ := .interrupted _
  gathered _ _ _ := .interrupted _
  summarized _ _ _ _ _ _ := .interrupted _
  firstOf _ _ _ _ := .interrupted _

section Steps

variable {n m : Nat} (agrees : Agrees n m) (db : Snapshot) (stack : Stack)

include agrees

theorem next_upTo (flow : Flow) :
    UpTo Interrupts (next (n + 1) db stack flow) (next (m + 1) db stack flow) := by
  cases flow with
  | finished | unit | outer | scan => exact .refl _
  | select source filter results =>
      simp only [next]
      refine UpTo.elim (agrees.next db stack source)
        (fun _ stopped _ => .stops stopped _) (fun _ => .refl _) ?_
      rintro (_ | ⟨row, source⟩)
      · exact .refl _
      dsimp only
      have reads := agrees.firstOf db
      refine UpTo.elim (Term.holds_upTo reads (row :: stack) filter)
        (fun _ stopped _ => .stops stopped _) (fun _ => .refl _) ?_
      rintro (_ | _)
      · exact agrees.next db stack _
      · exact UpTo.elim (Term.evalAll_upTo reads (row :: stack) results)
          (fun _ stopped _ => .stops stopped _) (fun _ => .refl _) fun _ => .refl _
  | gather q =>
      simp only [next]
      exact UpTo.elim (agrees.gathered db stack q)
        (fun _ stopped _ => .stops stopped _) (fun _ => .refl _)
        fun rows => agrees.next db stack (given rows)
  | given rows => cases rows <;> exact .refl _
  | append a b =>
      simp only [next]
      refine UpTo.elim (agrees.next db stack a)
        (fun _ stopped _ => .stops stopped _) (fun _ => .refl _) ?_
      rintro (_ | ⟨row, a⟩)
      · exact agrees.next db stack (ofQuery b)
      · exact .refl _
  | distinct source collations seen =>
      simp only [next]
      refine UpTo.elim (agrees.next db stack source)
        (fun _ stopped _ => .stops stopped _) (fun _ => .refl _) ?_
      rintro (_ | ⟨row, source⟩)
      · exact .refl _
      dsimp only
      split
      · exact agrees.next db stack _
      · exact .refl _
  | limit source count offset =>
      simp only [next]
      have counts := rowCount_upTo (agrees.firstOf db) stack
      refine UpTo.elim ((UpTo.mapM_option counts count).bind fun left =>
        (UpTo.mapM_option counts offset).bind fun skip => .refl (.ok (left, skip)))
        (fun _ stopped _ => .stops stopped _) (fun _ => .refl _) ?_
      rintro ⟨left, skip⟩
      dsimp only
      refine UpTo.elim (agrees.skipped db stack (skip.getD 0).toNat source)
        (fun _ stopped _ => .stops stopped _) (fun _ => .refl _) ?_
      intro source
      cases left with
      | none => exact agrees.next db stack source
      | some k =>
          dsimp only
          split
          · exact agrees.next db stack source
          · exact agrees.next db stack _
  | limited source left =>
      cases left with
      | zero => exact .refl _
      | succ left =>
          simp only [next]
          refine UpTo.elim (agrees.next db stack source)
            (fun _ stopped _ => .stops stopped _) (fun _ => .refl _) ?_
          rintro (_ | ⟨row, source⟩) <;> exact .refl _
  | recurse d seed step =>
      simp only [next]
      exact UpTo.elim (agrees.drained db stack (ofQuery seed) [])
        (fun _ stopped _ => .stops stopped _) (fun _ => .refl _) fun rows => agrees.next db stack _
  | recursing d front back seen last step =>
      cases last with
      | some last =>
          simp only [next]
          exact UpTo.elim (agrees.drained db (last :: stack) (ofQuery step) [])
            (fun _ stopped _ => .stops stopped _) (fun _ => .refl _)
            fun rows => agrees.next db stack _
      | none =>
          cases front with
          | cons row front => exact .refl _
          | nil =>
              cases back with
              | nil => exact .refl _
              | cons row back => exact agrees.next db stack _

theorem skipped_upTo (k : Nat) (flow : Flow) :
    UpTo Interrupts (skipped (n + 1) db stack k flow) (skipped (m + 1) db stack k flow) := by
  cases k with
  | zero => exact .refl _
  | succ k =>
      simp only [skipped]
      refine UpTo.elim (agrees.next db stack flow)
        (fun _ stopped _ => .stops stopped _) (fun _ => .refl _) ?_
      rintro (_ | ⟨row, flow⟩)
      · exact .refl _
      · exact agrees.skipped db stack k flow

theorem drained_upTo (flow : Flow) (out : List Tuple) :
    UpTo Interrupts (drained (n + 1) db stack flow out) (drained (m + 1) db stack flow out) := by
  simp only [drained]
  refine UpTo.elim (agrees.next db stack flow)
    (fun _ stopped _ => .stops stopped _) (fun _ => .refl _) ?_
  rintro (_ | ⟨row, flow⟩)
  · exact .refl _
  · exact agrees.drained db stack flow (row :: out)

theorem gathered_upTo (q : Query) :
    UpTo Interrupts (gathered (n + 1) db stack q) (gathered (m + 1) db stack q) := by
  cases q with
  | aggregate source filter functions results =>
      simp only [gathered]
      refine UpTo.elim (agrees.summarized db stack filter functions (ofQuery source) _)
        (fun _ stopped _ => .stops stopped _) (fun _ => .refl _) ?_
      intro s
      dsimp only
      exact UpTo.elim (Summary.results_upTo (agrees.firstOf db) stack functions results s)
        (fun _ stopped _ => .stops stopped _) (fun _ => .refl _) fun _ => .refl _
  | sort source keys =>
      simp only [gathered]
      exact UpTo.elim (agrees.drained db stack (ofQuery source) [])
        (fun _ stopped _ => .stops stopped _) (fun _ => .refl _) fun _ => .refl _
  | _ => exact agrees.drained db stack (ofQuery _) []

theorem summarized_upTo (filter : Option Term)
    (functions : List (AggregateFunction × Collation × Option Term)) (flow : Flow)
    (s : Summary) : UpTo Interrupts (summarized (n + 1) db stack filter functions flow s)
      (summarized (m + 1) db stack filter functions flow s) := by
  simp only [summarized]
  refine UpTo.elim (agrees.next db stack flow)
    (fun _ stopped _ => .stops stopped _) (fun _ => .refl _) ?_
  rintro (_ | ⟨row, flow⟩)
  · exact .refl _
  dsimp only
  have reads := agrees.firstOf db
  refine UpTo.elim (Term.holds_upTo reads (row :: stack) filter)
    (fun _ stopped _ => .stops stopped _) (fun _ => .refl _) ?_
  rintro (_ | _)
  · exact agrees.summarized db stack filter functions flow s
  · exact UpTo.elim (Summary.add_upTo reads stack functions s row)
      (fun _ stopped _ => .stops stopped _) (fun _ => .refl _)
      fun s => agrees.summarized db stack filter functions flow s

theorem firstOf_upTo (fixed : Bool) (q : Query) :
    UpTo Interrupts (firstOf (n + 1) db fixed q stack) (firstOf (m + 1) db fixed q stack) := by
  simp only [firstOf]
  refine UpTo.elim (agrees.next _ stack (ofQuery q))
    (fun _ stopped _ => .stops stopped _) (fun _ => .refl _) ?_
  rintro (_ | ⟨row, flow⟩) <;> exact .refl _

theorem Agrees.succ : Agrees (n + 1) (m + 1) where
  next := next_upTo agrees
  skipped := skipped_upTo agrees
  drained := drained_upTo agrees
  gathered := gathered_upTo agrees
  summarized := summarized_upTo agrees
  firstOf db fixed q stack := firstOf_upTo agrees db stack fixed q

end Steps

/-- Whoever waits longer gets the same answers, and is interrupted less often. -/
theorem agrees_of_le : ∀ {n m : Nat}, n ≤ m → Agrees n m
  | 0, m, _ => agrees_zero m
  | _ + 1, 0, le => absurd le (Nat.not_succ_le_zero _)
  | _ + 1, _ + 1, le => (agrees_of_le (Nat.le_of_succ_le_succ le)).succ

/-- What comes of asking a flow for its next row, however long that takes. -/
def Answers (db : Snapshot) (stack : Stack) (flow : Flow)
    (answer : Outcome (Option (Tuple × Flow))) : Prop :=
  ∃ n, next n db stack flow = answer ∧ answer ≠ .error interrupted

section Answers

variable {db : Snapshot} {stack : Stack} {flow : Flow} {answer : Outcome (Option (Tuple × Flow))}

/-- A flow has one answer. -/
theorem Answers.unique {other : Outcome (Option (Tuple × Flow))}
    (answers : Answers db stack flow answer) (others : Answers db stack flow other) :
    answer = other := by
  obtain ⟨n, rfl, done⟩ := answers
  obtain ⟨m, rfl, ended⟩ := others
  rcases Nat.le_total n m with le | le
  · exact ((agrees_of_le le).next db stack flow).eq_of_ne done
  · exact (((agrees_of_le le).next db stack flow).eq_of_ne ended).symm

/-- What is pulled from a flow is its answer, unless patience is lost. -/
theorem pull_answers : Answers db stack flow (pull db stack flow) ∨
    pull db stack flow = .error interrupted := by
  by_cases lost : pull db stack flow = .error interrupted
  · exact .inr lost
  · exact .inl ⟨patience, rfl, lost⟩

/-- An answer that comes in time is what is pulled. -/
theorem Answers.pull_eq (answers : Answers db stack flow answer)
    (inTime : pull db stack flow ≠ .error interrupted) : pull db stack flow = answer :=
  Answers.unique ⟨patience, rfl, inTime⟩ answers

end Answers

end Flow

/-! ## Changes -/

/-- A change that stopped because its bound of steps was reached. -/
def Stop.Interrupts (stop : Stop) : Prop :=
  stop.fault = Flow.interrupted

theorem UpTo.abort {α : Type} (w : Work) (y : Progress α) :
    UpTo Stop.Interrupts (w.abort Flow.interrupted) y :=
  .inl ⟨⟨.abort, Flow.interrupted, w⟩, rfl, rfl⟩

/-- Whoever lets a change go on for `n` steps sees it interrupted, or sees what it does within
`m` steps. -/
structure AgreesOnChanges (n m : Nat) : Prop where
  mutate : ∀ s change w, UpTo Stop.Interrupts (mutate n s change w) (mutate m s change w)
  insertRows : ∀ s policy table sources number returning triggers flow w,
    UpTo Stop.Interrupts (insertRows n s policy table sources number returning triggers flow w)
      (insertRows m s policy table sources number returning triggers flow w)
  insertRow : ∀ s policy table sources number returning triggers row w,
    UpTo Stop.Interrupts (insertRow n s policy table sources number returning triggers row w)
      (insertRow m s policy table sources number returning triggers row w)
  fireAll : ∀ s row triggers w,
    UpTo Stop.Interrupts (fireAll n s row triggers w) (fireAll m s row triggers w)
  mutateAll : ∀ row changes w,
    UpTo Stop.Interrupts (mutateAll n row changes w) (mutateAll m row changes w)

theorem agreesOnChanges_zero (m : Nat) : AgreesOnChanges 0 m where
  mutate _ _ w := .abort w _
  insertRows _ _ _ _ _ _ _ _ w := .abort w _
  insertRow _ _ _ _ _ _ _ _ w := .abort w _
  fireAll _ _ _ w := .abort w _
  mutateAll _ _ w := .abort w _

section Steps

variable {n m : Nat} (agrees : AgreesOnChanges n m) (s : Setting)

include agrees

theorem mutate_upTo (change : Mutation) (w : Work) :
    UpTo Stop.Interrupts (mutate (n + 1) s change w) (mutate (m + 1) s change w) := by
  cases change with
  | insert policy table sources number rows returning triggers =>
      exact agrees.insertRows s policy table sources number returning triggers
        (Flow.ofQuery rows) w
  | update | delete => exact .refl _

theorem insertRows_upTo (policy : Conflict) (table : String) (sources : List (Option Nat))
    (number : Option Nat) (returning : List Term) (triggers : List TriggerPlan) (flow : Flow)
    (w : Work) : UpTo Stop.Interrupts
      (insertRows (n + 1) s policy table sources number returning triggers flow w)
      (insertRows (m + 1) s policy table sources number returning triggers flow w) := by
  simp only [insertRows]
  refine (UpTo.refl _).bind ?_
  rintro (_ | ⟨row, flow⟩)
  · exact .refl _
  · exact (agrees.insertRow s policy table sources number returning triggers row w).bind fun w =>
      agrees.insertRows s policy table sources number returning triggers flow w

theorem insertRow_upTo (policy : Conflict) (table : String) (sources : List (Option Nat))
    (number : Option Nat) (returning : List Term) (triggers : List TriggerPlan) (row : Tuple)
    (w : Work) : UpTo Stop.Interrupts
      (insertRow (n + 1) s policy table sources number returning triggers row w)
      (insertRow (m + 1) s policy table sources number returning triggers row w) := by
  simp only [insertRow]
  cases w.contents.table? table with
  | none => exact .refl _
  | some t =>
      refine (UpTo.refl _).bind fun values => ?_
      -- the number of the row is a fresh one or a value's
      split
      all_goals
        refine (UpTo.refl _).bind fun number => ?_
        refine (UpTo.refl _).bind ?_
        rintro (⟨values, displaced⟩ | _)
        · refine (UpTo.refl _).bind fun w => ?_
          exact (agrees.fireAll s _ triggers w).bind fun _ => .refl _
        · exact .refl _

theorem fireAll_upTo (row : Tuple) (triggers : List TriggerPlan) (w : Work) :
    UpTo Stop.Interrupts (fireAll (n + 1) s row triggers w)
      (fireAll (m + 1) s row triggers w) := by
  rcases triggers with _ | ⟨⟨condition, body⟩, rest⟩
  · exact .refl _
  simp only [fireAll]
  refine (UpTo.refl _).bind fun holds => ?_
  cases holds with
  | false => exact agrees.fireAll s row rest w
  | true =>
      simp only [if_true]
      refine UpTo.elim (agrees.mutateAll row body w) ?_ (fun _ => .refl _)
        fun w => agrees.fireAll s row rest w
      intro stop stopped _
      -- the number of the last row is another one, the fault is the same
      exact .inl ⟨{ stop with work := { stop.work with lastNumber := w.lastNumber } }, stopped, rfl⟩

theorem mutateAll_upTo (row : Tuple) (changes : List Mutation) (w : Work) :
    UpTo Stop.Interrupts (mutateAll (n + 1) row changes w) (mutateAll (m + 1) row changes w) := by
  cases changes with
  | nil => exact .refl _
  | cons change rest =>
      simp only [mutateAll]
      exact (agrees.mutate _ change w).bind fun w => agrees.mutateAll row rest w

theorem AgreesOnChanges.succ : AgreesOnChanges (n + 1) (m + 1) where
  mutate := mutate_upTo agrees
  insertRows := insertRows_upTo agrees
  insertRow := insertRow_upTo agrees
  fireAll := fireAll_upTo agrees
  mutateAll := mutateAll_upTo agrees

end Steps

/-- Whoever waits longer sees the same changes, and sees them interrupted less often. -/
theorem agreesOnChanges_of_le : ∀ {n m : Nat}, n ≤ m → AgreesOnChanges n m
  | 0, m, _ => agreesOnChanges_zero m
  | _ + 1, 0, le => absurd le (Nat.not_succ_le_zero _)
  | _ + 1, _ + 1, le => (agreesOnChanges_of_le (Nat.le_of_succ_le_succ le)).succ

/-- A change that is done within a bound is done in the same way within a wider one. -/
theorem mutate_of_le {n m : Nat} {s : Setting} {change : Mutation} {w v : Work} (le : n ≤ m)
    (done : mutate n s change w = .ok v) : mutate m s change w = .ok v := by
  rcases (agreesOnChanges_of_le le).mutate s change w with ⟨stop, -, stopped⟩ | same
  · rw [done] at stopped
    cases stopped
  · exact same.symm.trans done

end SqlDriver.Engine
