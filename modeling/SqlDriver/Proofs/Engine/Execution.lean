/-
# SqlDriver.Proofs.Engine.Execution -- statements that are run more than once

A statement is executed by stepping through its rows to the end and setting it back
(`Executes`).  Once a statement is at work, nothing that is done with its rows matters to
what it leaves behind: setting it back after its first row leaves the world that the whole
execution leaves (`Executes.eq_reset`).  So a statement that is stepped once and set back has
been executed (`executes_before`).  One that only reads gives the same rows when it is
executed again (`step_again`); one that changes the database changes it once more.
-/
import SqlDriver.Proofs.Engine.Prepared
import SqlDriver.Proofs.Engine.Rest

namespace SqlDriver.Engine

set_option autoImplicit false

open SqlDriver.Engine.Action

/-! ## Executions -/

/-- The rows of a statement, stepped through to its end, and the failure at the end. -/
inductive Yields (id run : Nat) : World → List Tuple → Option Fault → World → Prop where
  | done {w v : World} (stepped : exec (step id run) w = (.ok none, v)) : Yields id run w [] none v
  | failed {w v : World} {fault : Fault} (stepped : exec (step id run) w = (.error fault, v)) :
      Yields id run w [] (some fault) v
  | row {w u v : World} {row : Tuple} {rows : List Tuple} {fault : Option Fault}
      (stepped : exec (step id run) w = (.ok (some row), u)) (rest : Yields id run u rows fault v) :
      Yields id run w (row :: rows) fault v

/-- A statement is stepped through to its end and set back. -/
def Executes (id run : Nat) (w : World) (rows : List Tuple) (fault : Option Fault) (v : World) :
    Prop :=
  ∃ u, Yields id run w rows fault u ∧ (exec (reset id run) u).2 = v

/-- A statement has only one way to go. -/
theorem Yields.unique {id run : Nat} {w v v' : World} {rows rows' : List Tuple}
    {fault fault' : Option Fault} (first : Yields id run w rows fault v)
    (second : Yields id run w rows' fault' v') : rows = rows' ∧ fault = fault' ∧ v = v' := by
  induction first generalizing rows' fault' v' with
  | done stepped =>
      cases second with
      | done stepped' =>
          obtain ⟨_, rfl⟩ := Prod.mk.inj (stepped.symm.trans stepped')
          exact ⟨rfl, rfl, rfl⟩
      | failed stepped' => cases stepped.symm.trans stepped'
      | row stepped' _ => cases stepped.symm.trans stepped'
  | failed stepped =>
      cases second with
      | done stepped' => cases stepped.symm.trans stepped'
      | failed stepped' =>
          obtain ⟨same, rfl⟩ := Prod.mk.inj (stepped.symm.trans stepped')
          cases same
          exact ⟨rfl, rfl, rfl⟩
      | row stepped' _ => cases stepped.symm.trans stepped'
  | row stepped _ ih =>
      cases second with
      | done stepped' => cases stepped.symm.trans stepped'
      | failed stepped' => cases stepped.symm.trans stepped'
      | row stepped' rest =>
          cases stepped.symm.trans stepped'
          obtain ⟨rfl, rfl, rfl⟩ := ih rest
          exact ⟨rfl, rfl, rfl⟩

theorem Executes.unique {id run : Nat} {w v v' : World} {rows rows' : List Tuple}
    {fault fault' : Option Fault} (first : Executes id run w rows fault v)
    (second : Executes id run w rows' fault' v') : rows = rows' ∧ fault = fault' ∧ v = v' := by
  obtain ⟨u, yields, rfl⟩ := first
  obtain ⟨u', yields', rfl⟩ := second
  obtain ⟨rfl, rfl, rfl⟩ := yields.unique yields'
  exact ⟨rfl, rfl, rfl⟩

/-! ## Setting a statement back -/

/-- The statement is set back. -/
def Run.still (r : Run) : Run :=
  { r with phase := .idle, cutOff := false }

section Reset

variable {id run : Nat} {w : World} {s : Session} {r : Run}

theorem exec_halt_of_reading (there : w.RunAt id run s r) {c : Contents} {flow : Flow}
    (phase : r.phase = .reading c flow) :
    exec (halt id run) w =
      (.ok (), (w.change id (Session.changeRun run Run.still)).change id Session.settle) := by
  unfold halt
  rw [exec_bind, there.exec_run?]
  simp only [Option.map_some, phase]
  rfl

theorem exec_halt_of_giving (there : w.RunAt id run s r) {rows : List Tuple} {changes : Nat}
    (phase : r.phase = .giving rows changes) :
    exec (halt id run) w = exec (finishChange id run changes) w := by
  unfold halt
  rw [exec_bind, there.exec_run?]
  simp only [Option.map_some, phase]

/-- Setting back a statement that is not at work does nothing. -/
theorem exec_reset_of_idle (idle : w.IdleAt id run) (rests : w.RestsAt id) :
    exec (reset id run) w = (.ok (), w) := by
  have settled : w.change id Session.settle = w := World.change_eq_self rests
  rw [exec_reset, halt, exec_bind, exec_run?]
  dsimp only
  cases found : (w.sessionAt id).runs.get? run with
  | none => exact congrArg (Prod.mk _) settled
  | some r =>
      obtain ⟨s, there⟩ := World.runAt_of_found found
      simp only [Option.map_some, idle s r there.session there.found]
      exact congrArg (Prod.mk _) settled

/-- Setting back a statement twice is setting it back once. -/
theorem reset_reset (id run : Nat) (w : World) :
    exec (reset id run) (exec (reset id run) w).2 = exec (reset id run) w := by
  rw [exec_reset_of_idle (reset_idle id run w) (reset_rests id run w), exec_reset]

/-- A statement is at work. -/
def World.ActiveAt (w : World) (id run : Nat) : Prop :=
  ∃ s r, w.RunAt id run s r ∧ r.phase.isActive = true

/-- What a statement was before it is changed does not matter, where the change undoes it. -/
theorem changeRun_changeRun (w : World) (id run : Nat) {f g : Run → Run}
    (undoes : ∀ r, g (f r) = g r) :
    (w.change id (Session.changeRun run f)).change id (Session.changeRun run g) =
      w.change id (Session.changeRun run g) := by
  rw [World.change_change, Session.changeRun_comp]
  exact congrArg (fun h => w.change id (Session.changeRun run h)) (funext undoes)

/-- A step leads to what setting the statement back leads to: at once, if its rows end, or else
from where the step led. -/
def World.Follows (w : World) (id run : Nat) : Except Fault (Option Tuple) × World → Prop
  | (.ok (some _), v) => v.ActiveAt id run ∧ exec (reset id run) v = exec (reset id run) w
  | (_, v) => v = (exec (reset id run) w).2

/-- The next row of a statement that reads. -/
theorem advance_follows (there : w.RunAt id run s r) {c : Contents} {flow : Flow}
    (phase : r.phase = .reading c flow) : w.Follows id run (exec (advance id run c flow) w) := by
  have back := exec_halt_of_reading there phase
  unfold advance
  rw [exec_bind, exec_get]
  dsimp only
  rw [exec_bind, exec_session]
  dsimp only
  rcases Flow.pull ⟨(w.contents (w.sessionAt id)).toOption.getD c, c⟩ [] flow with
    fault | _ | ⟨row, more⟩
  · change _ = (exec (reset id run) w).2
    rw [exec_reset, back]
    rfl
  · dsimp only
    rw [exec_bind, back]
    change _ = (exec (reset id run) w).2
    rw [exec_reset, back]
  · let f : Run → Run := fun r => { r with phase := .reading c more }
    refine ⟨⟨_, f r, there.changeRun f, rfl⟩, ?_⟩
    change exec (reset id run) (w.change id (Session.changeRun run f)) = _
    rw [exec_reset, exec_reset, exec_halt_of_reading (there.changeRun f) rfl, back,
      changeRun_changeRun]
    exact fun _ => rfl

/-- The next row that a change hands back. -/
theorem give_follows (there : w.RunAt id run s r) {rows : List Tuple} {changes : Nat}
    (phase : r.phase = .giving rows changes) :
    w.Follows id run (exec (give id run changes rows) w) := by
  have back := exec_halt_of_giving there phase
  cases rows with
  | nil =>
      rw [give, exec_bind]
      rcases ended : exec (finishChange id run changes) w with ⟨fault | _, v⟩ <;>
        exact (by rw [exec_reset, back, ended] : v = (exec (reset id run) w).2)
  | cons row rest =>
      let f : Run → Run := fun r => { r with phase := .giving rest changes }
      refine ⟨⟨_, f r, there.changeRun f, rfl⟩, ?_⟩
      change exec (reset id run) (w.change id (Session.changeRun run f)) = _
      rw [exec_reset, exec_reset, exec_halt_of_giving (there.changeRun f) rfl, back]
      unfold finishChange
      rw [exec_bind, exec_bind, exec_updateRun, exec_updateRun]
      dsimp only
      rw [changeRun_changeRun]
      exact fun _ => rfl

theorem step_follows (active : w.ActiveAt id run) :
    w.Follows id run (exec (step id run) w) := by
  obtain ⟨s, r, there, atWork⟩ := active
  unfold step
  rw [exec_bind, there.exec_run?]
  dsimp only
  cases phase : r.phase with
  | idle =>
      rw [phase] at atWork
      cases atWork
  | reading c flow =>
      dsimp only
      by_cases cut : r.cutOff
      · rw [if_pos cut]
        change _ = (exec (reset id run) w).2
        rw [exec_reset, exec_halt_of_reading there phase]
        rfl
      · rw [if_neg cut]
        exact advance_follows there phase
  | giving rows changes => exact give_follows there phase

theorem World.Follows.reset {answer : Except Fault (Option Tuple)} {v : World}
    (follows : w.Follows id run (answer, v)) :
    exec (reset id run) v = exec (reset id run) w := by
  have ended (same : v = (exec (Action.reset id run) w).2) :
      exec (Action.reset id run) v = exec (Action.reset id run) w := by
    rw [same, reset_reset]
  rcases answer with fault | _ | row
  · exact ended follows
  · exact ended follows
  · exact follows.2

/-- What a statement at work leaves behind at its end is what setting it back leaves. -/
theorem Yields.reset {rows : List Tuple} {fault : Option Fault} {v : World}
    (yields : Yields id run w rows fault v) (active : w.ActiveAt id run) :
    exec (reset id run) v = exec (reset id run) w := by
  induction yields with
  | done stepped =>
      have follows := step_follows active
      rw [stepped] at follows
      exact follows.reset
  | failed stepped =>
      have follows := step_follows active
      rw [stepped] at follows
      exact follows.reset
  | row stepped _ ih =>
      have follows := step_follows active
      rw [stepped] at follows
      exact (ih follows.1).trans follows.reset

end Reset

/-! ## Statements that are started -/

/-- A statement of a session that is not at work, and ready for the database that there is:
another session may keep it from being read. -/
structure Fresh (w : World) (id run : Nat) (s : Session) (r : Run) : Prop
    extends w.RunAt id run s r where
  still : r.still = r
  form : w.Readable id → ∀ c, w.contents s = .ok c → r.form = some c.form

theorem Fresh.idle {w : World} {id run : Nat} {s : Session} {r : Run} (fresh : Fresh w id run s r) :
    r.phase = .idle :=
  congrArg Run.phase fresh.still.symm

/-- The rows of a statement come from reading alone. -/
def World.isQuery (w : World) (id run : Nat) : Bool :=
  ((w.session? id).bind fun s => s.runs.get? run).any fun r => r.prepared.program.isReading

section Starts

variable {id run : Nat} {w u : World} {s : Session} {r : Run} {x : Option Tuple}

theorem isHeld_change (w : World) (id : Nat) {f : Session → Session} (file : Option String)
    (lock : Lock) : (w.change id f).isHeld id file lock = w.isHeld id file lock := by
  unfold World.isHeld World.change Pool.modify
  congr 1
  rw [List.any_map]
  refine congrArg (fun kind => w.sessions.items.any kind) (funext fun entry => ?_)
  by_cases here : entry.1 = id <;> simp [here]

theorem Fresh.isReading (fresh : Fresh w id run s r) (query : w.isQuery id run) :
    r.prepared.program.isReading := by
  simpa [World.isQuery, fresh.session, fresh.found] using query

/-- A session knows the tables that there are, unless another one keeps them to itself. -/
theorem schema_cases {c : Outcome Contents} (known : exec (schema id) w = (.ok c, w)) :
    c = w.contents (w.sessionAt id) ∨ c = .error busy := by
  simp only [schema, exec_bind, exec_get, exec_session] at known
  split at known
  · exact .inr (Except.ok.inj (Prod.mk.inj known).1).symm
  · exact .inl (Except.ok.inj (Prod.mk.inj known).1).symm

/-- A session that may read knows the tables that there are. -/
theorem schema_of_readable {c : Outcome Contents} (known : exec (schema id) w = (.ok c, w))
    (readable : w.Readable id) : c = w.contents (w.sessionAt id) := by
  simp only [schema, exec_bind, exec_get, exec_session] at known
  split at known
  · next kept =>
      simp only [Bool.and_eq_true, decide_eq_true_eq, Bool.not_eq_true'] at kept
      rcases readable with held | ⟨free, _⟩
      · rw [kept.1.1] at held
        cases held
      · cases kept.2.symm.trans free
  · exact (Except.ok.inj (Prod.mk.inj known).1).symm

/-- Making a statement ready leaves it fresh. -/
theorem prepare_fresh {sql : List Char} (session : w.session? id = some s)
    (prepared : exec (prepare id sql) w = (.ok (some run), u)) :
    ∃ t r, Fresh u id run t r ∧ r.prepared.IsPeaceful := by
  have spec := prepare_cases id sql w
  rw [prepared] at spec
  obtain ⟨rfl, ts, c, p, informed, known, ⟨_, made⟩, rfl⟩ := spec
  rw [World.sessionAt_of_found session]
  have session' := World.session?_change_of_found (f := Session.takeIn (Run.ready ts p c) informed)
    session
  refine ⟨_, Run.ready ts p c, ⟨⟨session', ?_⟩, rfl, fun readable now found => ?_⟩,
    prepare_isPeaceful made⟩
  · exact (Pool.get?_insert ..).trans (if_pos rfl)
  · have readable : w.Readable id := by
      unfold World.Readable at readable ⊢
      rw [World.sessionAt_of_found session', isHeld_change] at readable
      rwa [World.sessionAt_of_found session]
    obtain rfl := schema_of_readable known readable
    rw [World.sessionAt_of_found session]
    have found : w.contents s = .ok now := found
    rw [found]
    rfl

/-- A session that takes a lock sees the database that it saw before. -/
theorem contents_take (session : w.session? id = some s) (access : Access) :
    (w.change id (Session.take access)).contents
        ((w.change id (Session.take access)).sessionAt id) = w.contents s := by
  rw [World.sessionAt_of_found (World.session?_change_of_found session)]
  rfl

theorem take_take (w : World) (id : Nat) (access : Access) :
    (w.change id (Session.take access)).change id (Session.take access) =
      w.change id (Session.take access) := by
  refine (World.change_change ..).trans (World.change_congr fun s _ => ?_)
  refine congrArg (fun lock => { s with lock }) ?_
  exact Lock.max_max s.lock access.lock

/-- A fresh statement that needs locks is not prepared anew. -/
theorem runProgram_of_locks (fresh : Fresh w id run s r) (needed : r.prepared.access ≠ .none)
    (started : exec
      (do
        lockFor id r.prepared.access
        let c ← contents id
        let p ← refresh id run r c
        lockFor id p.access
        runProgram id run p c) w = (.ok x, u)) :
    ∃ c, exec (runProgram id run r.prepared c)
      (w.change id (Session.take r.prepared.access)) = (.ok x, u) := by
  rw [exec_bind] at started
  rcases locked : exec (lockFor id r.prepared.access) w with ⟨fault | _, v⟩ <;>
    rw [locked] at started
  · cases started
  have readable := readable_of_lockFor needed locked
  obtain rfl := exec_lockFor locked
  dsimp only at started
  rw [exec_bind, exec_contents, contents_take fresh.session] at started
  cases known : w.contents s with
  | error fault =>
      rw [known] at started
      cases started
  | ok c =>
      rw [known] at started
      dsimp only [refresh] at started
      rw [if_pos (fresh.form readable c known), exec_bind, exec_pure] at started
      dsimp only at started
      rw [exec_bind] at started
      rcases relocked : exec (lockFor id r.prepared.access)
        (w.change id (Session.take r.prepared.access)) with ⟨fault | _, v⟩ <;>
        rw [relocked] at started
      · cases started
      · rw [exec_lockFor relocked, take_take] at started
        exact ⟨c, started⟩

/-- A fresh statement runs as it was prepared, with the locks that it needs. -/
theorem runProgram_of_start (fresh : Fresh w id run s r)
    (started : exec (start id run r) w = (.ok x, u)) :
    ∃ c, exec (runProgram id run r.prepared c)
      (w.change id (Session.take r.prepared.access)) = (.ok x, u) := by
  unfold start at started
  split at started
  · next none_ =>
      rw [exec_bind, exec_get] at started
      dsimp only at started
      rw [exec_bind, exec_session] at started
      rw [none_, World.change_eq_self fun s _ => s.take_none]
      exact ⟨(w.contents (w.sessionAt id)).toOption.getD {}, started⟩
  · next needed => exact runProgram_of_locks fresh needed started

/-- What a reading program leaves behind when it is set back: no more than to give up its
lock. -/
theorem reset_of_advance (there : w.RunAt id run s r) (still : r.still = r) {c : Contents}
    {flow : Flow}
    (ran : exec
      (do
        updateRun id run fun r => { r with phase := .reading c flow }
        advance id run c flow) w = (.ok x, u)) :
    (exec (reset id run) u).2 = w.change id Session.settle := by
  let f : Run → Run := fun r => { r with phase := .reading c flow }
  rw [exec_bind, exec_updateRun] at ran
  dsimp only at ran
  have follows := advance_follows (there.changeRun f) rfl
  rw [ran] at follows
  have whole : w.change id (Session.changeRun run Run.still) = w := by
    refine World.change_eq_self fun t session => ?_
    cases there.session.symm.trans session
    have same : s.runs.modify run Run.still = s.runs :=
      (Pool.modify_congr fun r' found => by
        cases there.found.symm.trans found
        exact still).trans (s.runs.modify_self run)
    rw [Session.changeRun, same]
  rw [follows.reset, exec_reset, exec_halt_of_reading (there.changeRun f) rfl,
    changeRun_changeRun, whole]
  exact fun _ => rfl

theorem reset_of_reading (there : w.RunAt id run s r) (still : r.still = r) {p : Prepared}
    (reads : p.program.isReading) {c : Contents}
    (ran : exec (runProgram id run p c) w = (.ok x, u)) :
    (exec (reset id run) u).2 = w.change id Session.settle := by
  obtain ⟨flow, same⟩ := runProgram_of_isReading reads id run c
  rw [same] at ran
  exact reset_of_advance there still ran

/-- A statement that is not at work is stepped by starting it. -/
theorem exec_step_of_started (there : w.RunAt id run s r) (idle : r.phase = .idle)
    (started : exec (start id run r) w = (.ok x, u)) : exec (step id run) w = (.ok x, u) := by
  unfold step
  rw [exec_bind, there.exec_run?]
  simp only [idle]
  rw [orFail, exec_tryCatch, exec_tryCatch, started]

/-- If it cannot be started it fails; a change of rows has then changed none. -/
theorem exec_step_of_failed (there : w.RunAt id run s r) (idle : r.phase = .idle) {fault : Fault}
    (failed : exec (start id run r) w = (.error fault, u)) :
    ∃ v, (v = u ∨ v = u.change id fun s => { s with changes := 0 }) ∧
      exec (step id run) w = exec (fail id run fault) v := by
  unfold step
  rw [exec_bind, there.exec_run?]
  simp only [idle]
  rw [orFail, exec_tryCatch, exec_tryCatch, failed]
  cases r.prepared.program with
  | mutate m => exact ⟨_, .inr rfl, rfl⟩
  | _ => exact ⟨_, .inl rfl, rfl⟩

/-- A statement that was stepped successfully was started successfully. -/
theorem step_iff_start (there : w.RunAt id run s r) (idle : r.phase = .idle) :
    exec (step id run) w = (.ok x, u) ↔ exec (start id run r) w = (.ok x, u) := by
  refine ⟨fun stepped => ?_, exec_step_of_started there idle⟩
  rcases started : exec (start id run r) w with ⟨fault | y, v⟩
  · obtain ⟨v, _, same⟩ := exec_step_of_failed there idle started
    cases same.symm.trans stepped
  · exact (exec_step_of_started there idle started).symm.trans stepped

end Starts

/-! ## First rows -/

/-- A statement hands back rows of a change. -/
def World.GivingAt (w : World) (id run : Nat) (rows : List Tuple) : Prop :=
  ∃ s r changes, w.RunAt id run s r ∧ r.phase = .giving rows changes

section Rows

variable {id run : Nat} {w : World} {s : Session} {r : Run}

theorem World.GivingAt.active {rows : List Tuple} (giving : w.GivingAt id run rows) :
    w.ActiveAt id run := by
  obtain ⟨s, r, changes, there, phase⟩ := giving
  exact ⟨s, r, there, by rw [phase]; rfl⟩

/-- A change comes to its end. -/
theorem World.GivingAt.yields {rows : List Tuple} (giving : w.GivingAt id run rows) :
    ∃ fault v, Yields id run w rows fault v := by
  induction rows generalizing w with
  | nil =>
      obtain ⟨s, r, changes, there, phase⟩ := giving
      have stepped : exec (step id run) w = exec (give id run changes []) w := by
        unfold step
        rw [exec_bind, there.exec_run?]
        simp only [phase]
      rw [give, exec_bind] at stepped
      rcases answer : exec (finishChange id run changes) w with ⟨fault | _, v⟩ <;>
        rw [answer] at stepped
      · exact ⟨some fault, v, .failed stepped⟩
      · exact ⟨none, v, .done stepped⟩
  | cons row rest ih =>
      obtain ⟨s, r, changes, there, phase⟩ := giving
      have stepped : exec (step id run) w = exec (give id run changes (row :: rest)) w := by
        unfold step
        rw [exec_bind, there.exec_run?]
        simp only [phase]
      obtain ⟨fault, v, yields⟩ := ih ⟨_, _, changes, there.changeRun fun r =>
        { r with phase := .giving rest changes }, rfl⟩
      exact ⟨fault, v, .row stepped yields⟩

/-- Where a change answers a row, it is handing back rows. -/
theorem give_gives (there : w.RunAt id run s r) (changes : Nat) (rows : List Tuple) :
    Ensures (fun x v => x.isSome → ∃ rest, v.GivingAt id run rest)
      (give id run changes rows) w := by
  cases rows with
  | nil => exact .bind fun _ _ _ => .pure fun some_ => by cases some_
  | cons row rest =>
      refine .bind fun _ v answer => .pure fun _ => ?_
      cases answer
      exact ⟨rest, _, _, changes, there.changeRun _, rfl⟩

theorem runChange_gives (there : w.RunAt id run s r) (c : Contents) (m : Mutation)
    (hasRows : Bool) :
    Ensures (fun x v => x.isSome → ∃ rest, v.GivingAt id run rest)
      (runChange id run c m hasRows) w := by
  refine .bind fun before v answer => ?_
  cases answer
  split
  · next work _ =>
      refine .bind fun _ v answer => ?_
      cases answer
      have numbered := there.change (f := fun s => { s with lastNumber := work.lastNumber }) rfl
      extract_lets handed
      have hands {v : World} {t : Session} (there : v.RunAt id run t r) :
          Ensures (fun x v => x.isSome → ∃ rest, v.GivingAt id run rest) (handed ()) v := by
        dsimp only [handed]
        split
        · exact give_gives there _ _
        · exact .bind fun _ _ _ => .pure fun some_ => by cases some_
      split
      · refine .bind fun _ v kept => ?_
        cases kept
        exact hands (numbered.change rfl)
      · exact hands numbered
  · next stop _ =>
      refine .bind fun _ v _ => ?_
      extract_lets failed
      have fails (v : World) : Ensures (fun x v => x.isSome →
          ∃ rest, v.GivingAt id run rest) (failed ()) v :=
        .bind fun _ v _ => .bind fun _ v _ => .throw _
      split
      · exact .bind fun _ v _ => .bind fun _ v _ => fails v
      · exact .bind fun _ v _ => fails v
      · exact fails v

/-- Where a reading program answers its first row, the statement is at work. -/
theorem advance_active (there : w.RunAt id run s r) (c : Contents) (flow : Flow) :
    Ensures (fun x v => x.isSome → v.ActiveAt id run)
      (do
        updateRun id run fun r => { r with phase := .reading c flow }
        advance id run c flow) w := by
  refine .bind fun _ v answer => ?_
  cases answer
  refine .bind fun before v answer => ?_
  cases answer
  refine .bind fun before v answer => ?_
  cases answer
  dsimp only
  split
  · exact .bind fun _ v _ => .bind fun _ v _ => .throw _
  · exact .bind fun _ _ _ => .pure fun some_ => by cases some_
  · refine .bind fun _ v answer => .pure fun _ => ?_
    cases answer
    exact ⟨_, _, (there.changeRun _).changeRun _, rfl⟩

/-- Where a program answers its first row, the statement is at work: it reads, or it hands back
rows of a change. -/
theorem runProgram_first (there : w.RunAt id run s r) (p : Prepared) (c : Contents) :
    Ensures (fun x v => x.isSome →
      v.ActiveAt id run ∧ (p.program.isReading ∨ ∃ rest, v.GivingAt id run rest))
      (runProgram id run p c) w := by
  have none_ {post : World → Prop} {w : World} {a : Action Unit} :
      Ensures (fun x v => x.isSome → post v) (do a; return (none : Option Tuple)) w :=
    .bind fun _ _ _ => .pure fun some_ => by cases some_
  obtain ⟨a, course, same⟩ := exists_course id run p c w
  refine .congr same ?_
  cases course with
  | reads reading flow =>
      exact fun x v answer some_ => ⟨advance_active there c _ x v answer some_, .inl reading⟩
  | changes =>
      intro x v answer some_
      obtain ⟨rest, giving⟩ := runChange_gives there c _ _ x v answer some_
      exact ⟨giving.active, .inr ⟨rest, giving⟩⟩
  | reshapes => exact .bind fun _ _ _ => none_
  | writes => exact .bind fun _ _ _ => none_
  | controls => exact .bind fun _ _ _ => none_
  | nothing => exact none_
  | refused writes fault => exact .throw fault

end Rows

/-! ## Reading again -/

namespace Session

/-- A session at rest that takes a lock either keeps it or holds it for readers. -/
theorem settle_take {s : Session} (rests : s.Rests) :
    (s.take .read).settle = s.take .read ∨
      s.lock = (if s.anyReads then .shared else .none) ∧
        (s.take .read).settle.lock = if s.anyReads then .shared else .none := by
  unfold settle
  by_cases kept : (!(s.take .read).autocommit || (s.take .read).anyWrites) = true
  · exact .inl (if_pos kept)
  · rw [if_neg kept]
    change ¬(!s.autocommit || s.anyWrites) = true at kept
    have alone : s.autocommit = true ∧ s.anyWrites = false := by simpa using kept
    refine .inr ⟨?_, rfl⟩
    rcases rests_iff.1 rests with begun | writes | write | lock
    · cases alone.1.symm.trans begun
    · cases alone.2.symm.trans writes
    · cases write
    · simpa using lock

theorem take_settle {s : Session} (rests : s.Rests) :
    (s.take .read).settle.take .read = s.take .read := by
  have lock : (s.take .read).settle.lock.max .shared = s.lock.max .shared := by
    rcases settle_take rests with same | ⟨before, after⟩
    · rw [same]
      exact Lock.max_max s.lock .shared
    · rw [after, before]
  rw [settle_eq_with_lock]
  exact congrArg (fun lock => { s with lock }) lock

theorem held_settle {s : Session} (rests : s.Rests) (held : s.lock.atLeast .shared) :
    (s.take .read).settle.lock.atLeast .shared := by
  rcases settle_take rests with same | ⟨before, after⟩
  · rw [same]
    exact Lock.atLeast_max s.lock .shared
  · rw [after, ← before]
    exact held

end Session

section Again

variable {id run : Nat} {w u : World} {s : Session} {r : Run} {x : Option Tuple}

/-- A session at rest that gave up the lock for reading can take it again. -/
theorem lockShared_again (rests : w.RestsAt id) (session : w.session? id = some s)
    (readable : w.Readable id) :
    exec (lockShared id) ((w.change id (Session.take .read)).change id Session.settle) =
      (.ok (), w.change id (Session.take .read)) := by
  have there : ((w.change id (Session.take .read)).change id Session.settle).session? id =
      some (s.take .read).settle :=
    World.session?_change_of_found (World.session?_change_of_found session)
  have again : ((w.change id (Session.take .read)).change id Session.settle).Readable id := by
    unfold World.Readable at readable ⊢
    rw [World.sessionAt_of_found session] at readable
    rw [World.sessionAt_of_found there, isHeld_change, isHeld_change, Session.settle_eq_with_lock]
    exact readable.imp_left (Session.held_settle (rests s session))
  rw [exec_lockShared_of_readable _ _ again]
  refine congrArg (Prod.mk _) ?_
  rw [World.change_change, World.change_change]
  refine World.change_congr fun t found => ?_
  exact Session.take_settle (rests t found)

theorem start_of_read (id run : Nat) (access : r.prepared.access = .read) :
    ∃ rest : Action (Option Tuple),
      ∀ w, exec (start id run r) w = exec (lockShared id >>= fun _ => rest) w := by
  unfold start
  simp only [access]
  exact ⟨_, fun _ => rfl⟩

/-- A statement that only reads gives the same row when it is set back and stepped again. -/
theorem step_again (rests : w.RestsAt id) (fresh : Fresh w id run s r)
    (reads : r.prepared.program.isReading) (only : r.prepared.access ≠ .write)
    (stepped : exec (step id run) w = (.ok x, u)) :
    exec (step id run) (exec (reset id run) u).2 = (.ok x, u) := by
  have started := (step_iff_start fresh.toRunAt fresh.idle).1 stepped
  obtain ⟨c, ran⟩ := runProgram_of_start fresh started
  have taken := fresh.change (f := Session.take r.prepared.access) rfl
  rw [reset_of_reading taken fresh.still reads ran]
  refine (step_iff_start (taken.change (Session.runs_settle _)) fresh.idle).2 ?_
  cases access : r.prepared.access with
  | write => exact absurd access only
  | none =>
      rw [World.change_eq_self fun s _ => s.take_none, World.change_eq_self rests]
      exact started
  | read =>
      obtain ⟨rest, locks⟩ := start_of_read id run access
      rw [locks, exec_bind] at started ⊢
      rcases locked : exec (lockShared id) w with ⟨fault | _, v⟩ <;> rw [locked] at started
      · cases started
      · rw [lockShared_again rests fresh.session (readable_of_lockShared id w locked)]
        rw [exec_lockShared locked] at started
        exact started

end Again

/-! ## Looking ahead -/

/-- Statements whose first steps are alike go the same way. -/
theorem Yields.of_step {id run : Nat} {w w' v : World} {rows : List Tuple} {fault : Option Fault}
    (same : exec (step id run) w = exec (step id run) w') (yields : Yields id run w rows fault v) :
    Yields id run w' rows fault v := by
  cases yields with
  | done stepped => exact .done (same ▸ stepped)
  | failed stepped => exact .failed (same ▸ stepped)
  | row stepped rest => exact .row (same ▸ stepped) rest

section LookAhead

variable {id run : Nat} {w u v : World} {s : Session} {r : Run} {x : Option Tuple}
  {rows : List Tuple} {fault : Option Fault}

/-- A fresh statement that was stepped to its first row is at work. -/
theorem Fresh.first (fresh : Fresh w id run s r) {row : Tuple}
    (stepped : exec (step id run) w = (.ok (some row), u)) :
    u.ActiveAt id run ∧ (r.prepared.program.isReading ∨ ∃ rest, u.GivingAt id run rest) := by
  have started := (step_iff_start fresh.toRunAt fresh.idle).1 stepped
  obtain ⟨c, ran⟩ := runProgram_of_start fresh started
  exact runProgram_first (fresh.change rfl) _ c _ _ ran rfl

/-- Setting back a statement after its first row leaves the world that its execution leaves. -/
theorem Executes.eq_reset (fresh : Fresh w id run s r)
    (stepped : exec (step id run) w = (.ok x, u)) (executes : Executes id run w rows fault v) :
    v = (exec (reset id run) u).2 := by
  obtain ⟨z, yields, rfl⟩ := executes
  cases yields with
  | done stepped' => rw [(Prod.mk.inj (stepped'.symm.trans stepped)).2]
  | failed stepped' => cases stepped'.symm.trans stepped
  | row stepped' rest =>
      obtain ⟨answer, rfl⟩ := Prod.mk.inj (stepped'.symm.trans stepped)
      cases answer
      rw [rest.reset (fresh.first stepped).1]

/-- A change that was stepped successfully comes to its end. -/
theorem executes_of_change (fresh : Fresh w id run s r)
    (changes : ¬r.prepared.program.isReading) (stepped : exec (step id run) w = (.ok x, u)) :
    ∃ rows fault v, Executes id run w rows fault v := by
  cases x with
  | none => exact ⟨_, _, _, u, .done stepped, rfl⟩
  | some row =>
      obtain ⟨rest, giving⟩ := (fresh.first stepped).2.resolve_left changes
      obtain ⟨fault, z, yields⟩ := giving.yields
      exact ⟨_, _, _, z, .row stepped yields, rfl⟩

/-- A statement that is stepped once and set back has been executed, if it comes to an end when
it is stepped through after that.  If it only reads, it gives the same rows again. -/
theorem executes_before (rests : w.RestsAt id) (fresh : Fresh w id run s r)
    (peaceful : r.prepared.IsPeaceful) (stepped : exec (step id run) w = (.ok x, u))
    (again : Executes id run (exec (reset id run) u).2 rows fault v) :
    ∃ first ending, Executes id run w first ending (exec (reset id run) u).2 ∧
      (r.prepared.program.isReading →
        first = rows ∧ ending = fault ∧ v = (exec (reset id run) u).2) := by
  by_cases reads : r.prepared.program.isReading
  · have same := step_again rests fresh reads (peaceful reads) stepped
    obtain ⟨z, yields, rfl⟩ := again
    have executes : Executes id run w rows fault (exec (reset id run) z).2 :=
      ⟨z, yields.of_step (same.trans stepped.symm), rfl⟩
    have here := executes.eq_reset fresh stepped
    exact ⟨rows, fault, here ▸ executes, fun _ => ⟨rfl, rfl, here⟩⟩
  · obtain ⟨first, ending, once, executes⟩ :=
      executes_of_change fresh reads stepped
    obtain rfl := executes.eq_reset fresh stepped
    exact ⟨first, ending, executes, fun reads' => absurd reads' reads⟩

end LookAhead

end SqlDriver.Engine
