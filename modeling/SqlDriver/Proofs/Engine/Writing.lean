/-
# SqlDriver.Proofs.Engine.Writing -- what statements make of the copies

A statement about data that is stepped once and set back makes of the copy that is worked on what
`Program.effect` makes of it (`step_makes`).  Where it fails, that copy is what it was, or what a
change made of it that keeps what it did before it stopped (`Copies.Fails`).
-/
import SqlDriver.Proofs.Engine.Copies

namespace SqlDriver.Engine

set_option autoImplicit false

open SqlDriver.Engine.Action

/-! ## Changes that stop -/

/-- Where a change of rows stops. -/
def Program.stop? (p : Program) (g : Ground) : Option Stop :=
  match p, g.contents with
  | mutate m, .ok c =>
      match Engine.mutate Flow.patience { start := c } m
        { contents := c, lastNumber := g.lastNumber } with
      | .ok _ => none
      | .error stop => some stop
  | _, _ => none

theorem Program.stop?_of_stops {g : Ground} {c : Contents} {m : Mutation} {stop : Stop}
    (known : g.contents = .ok c) (stops : Engine.mutate Flow.patience { start := c } m
      { contents := c, lastNumber := g.lastNumber } = .error stop) :
    (mutate m).stop? g = some stop := by
  simp only [stop?, known, stops]

/-- A change of rows stops and takes the transaction down with it. -/
def Program.aborts (p : Program) (g : Ground) : Bool :=
  (p.stop? g).any fun stop => stop.policy = .rollback

/-- What a failure leaves of the copies: all but perhaps the number of the last row, or what a
change made that keeps what it did before it stopped. -/
inductive Copies.Fails (m : Copies) (p : Program) : Copies → Prop where
  | kept (number : Int64) : Fails m p { m with lastNumber := number }
  | part {stop : Stop} (stops : p.stop? m.ground = some stop) (keeps : stop.policy = .fail) :
      Fails m p (m.write ⟨.ok stop.work.contents, stop.work.lastNumber⟩)

/-- Setting a statement back leaves its session with certain copies. -/
def World.Ends (w : World) (id run : Nat) (contended : Bool) (m : Copies) : Prop :=
  (exec (reset id run) w).2.Shows id (some run) contended m

/-- An action of a statement makes of the copies what a program makes of them, once the statement
is set back. -/
def Makes (id run : Nat) (contended : Bool) (m : Copies) (p : Program) :
    Except Fault (Option Tuple) × World → Prop
  | (.ok _, v) => ∃ g, p.effect m.ground = .ok g ∧ v.Ends id run contended (m.write g)
  | (.error _, v) => ∃ m', m.Fails p m' ∧ v.Shows id (some run) contended m'

section Makes

variable {id run : Nat} {contended : Bool} {m : Copies} {w v : World} {p : Program} {s : Session}
  {r : Run}

theorem ends_of_shows (shows : w.Shows id (some run) contended m)
    (kept : ∀ s r, w.RunAt id run s r → ∀ rows changes, r.phase ≠ .giving rows changes) :
    w.Ends id run contended m := by
  have settles {v : World} (light : Light id (some run) w v) :
      (v.change id Session.settle).Shows id (some run) contended m :=
    shows.light (IsTrans.trans _ _ _ light (settle_light id _ v))
  rw [World.Ends, exec_reset]
  dsimp only
  unfold halt
  rw [exec_bind, exec_run?]
  dsimp only
  cases found : (w.sessionAt id).runs.get? run with
  | none => exact settles (Std.Refl.refl w)
  | some r =>
      obtain ⟨s, there⟩ := World.runAt_of_found found
      cases phase : r.phase with
      | idle =>
          simp only [Option.map_some, phase]
          exact settles (Std.Refl.refl w)
      | reading c flow =>
          simp only [Option.map_some, phase]
          exact settles (updateRun_light id w run _)
      | giving rows changes => exact absurd phase (kept s r there rows changes)

theorem ends_of_idle (shows : w.Shows id (some run) contended m) (idle : w.IdleAt id run) :
    w.Ends id run contended m :=
  ends_of_shows shows fun s r there rows changes giving => by
    cases (idle s r there.session there.found).symm.trans giving

/-- What a statement hands back the rows of is kept when it is set back, where nothing is in the
way. -/
theorem ends_of_giving {rows : List Tuple} (bears : w.Bears id (some run) contended m)
    (giving : w.GivingAt id run rows) (clear : contended = false ∨ m.manual) :
    w.Ends id run contended m.finish := by
  obtain ⟨s, r, changes, there, phase⟩ := giving
  have finished := finishChange_shows bears changes
  rw [World.Ends, exec_reset, exec_halt_of_giving there phase]
  rcases answer : exec (finishChange id run changes) w with ⟨fault | _, v⟩ <;>
    rw [answer] at finished
  · obtain ⟨⟨inTheWay, lone⟩, _⟩ := finished
    rcases clear with free | open_
    · cases inTheWay.symm.trans free
    · cases lone.symm.trans open_
  · exact finished

/-- A statement that made something comes to its end. -/
theorem makes_of_finish {g : Ground} {a : Action Unit} (made : p.effect m.ground = .ok g)
    (settled : m.manual = false → m.working = m.committed)
    (finishes : match exec a v with
      | (.ok _, u) => u.Shows id (some run) contended (m.store g).finish
      | (.error _, u) => (contended ∧ m.manual = false) ∧
          u.Shows id (some run) contended (m.store g).discard)
    (idle : (exec a v).2.IdleAt id run) :
    Makes id run contended m p (exec (do a; return none) v) := by
  rw [exec_bind]
  rcases answer : exec a v with ⟨fault | _, u⟩ <;> rw [answer] at finishes idle
  · obtain ⟨⟨_, lone⟩, shows⟩ := finishes
    refine ⟨_, .kept g.lastNumber, ?_⟩
    have same : (m.store g).discard = { m with lastNumber := g.lastNumber } := by
      simp [Copies.store, Copies.discard, ← settled lone]
    rwa [same] at shows
  · exact ⟨g, made, ends_of_idle finishes idle⟩

/-- The number of the row that was inserted last is changed. -/
theorem World.Shows.renumber (shows : w.Shows id (some run) contended m) {f : Session → Session}
    {number : Int64}
    (same : ∀ s, ((f s).autocommit, (f s).file, (f s).own, (f s).dirty, (f s).working,
      (f s).lastNumber) = (s.autocommit, s.file, s.own, s.dirty, s.working, number))
    (runs : ∀ s, (f s).runs = s.runs) :
    (w.change id f).Shows id (some run) contended { m with lastNumber := number } := by
  simp only [Prod.mk.injEq] at same
  refine ⟨shows.bears.change (fun s => (same s).2.1) fun s here => ?_, fun lone => ?_⟩
  · obtain ⟨autocommit, file, own, dirty, working, number⟩ := same s
    have committed : w.committed (f s) = w.committed s := by
      rw [World.committed, World.committed, file, own]
    refine ⟨autocommit.trans here.autocommit, by rw [dirty, working, here.dirty],
      committed.trans here.committed, ?_, number, fun key r other there =>
        here.quiet key r other (runs s ▸ there)⟩
    rw [World.contents, working, committed]
    exact here.contents
  · obtain ⟨s, found, _⟩ := shows.bears
    have settled := shows.settled lone
    rw [World.sessionAt_of_found found] at settled
    rw [World.sessionAt_of_found (World.session?_change_of_found found), (same s).2.2.2.2.1,
      settled]

/-- The database that a statement made is stored. -/
theorem World.Bears.keep (bears : w.Bears id (some run) contended m) {f : Session → Session}
    {c : Contents}
    (same : ∀ s, ((f s).autocommit, (f s).file, (f s).own, (f s).dirty, (f s).working,
      (f s).lastNumber) = (s.autocommit, s.file, s.own, true, some c, s.lastNumber))
    (runs : ∀ s, (f s).runs = s.runs) :
    (w.change id f).Bears id (some run) contended { m with working := .ok c } := by
  simp only [Prod.mk.injEq] at same
  refine bears.change (fun s => (same s).2.1) fun s here => ?_
  obtain ⟨autocommit, file, own, dirty, working, number⟩ := same s
  refine ⟨autocommit.trans here.autocommit, by rw [dirty, working]; rfl, ?_, ?_,
    number.trans here.lastNumber, fun key r other there => here.quiet key r other (runs s ▸ there)⟩
  · rw [World.committed, file, own]
    exact here.committed
  · rw [World.contents, working]

/-! ## Programs -/

theorem finishChange_makes {g : Ground} (made : p.effect m.ground = .ok g)
    (settled : m.manual = false → m.working = m.committed)
    (bears : v.Bears id (some run) contended (m.store g)) (changes : Nat) :
    Makes id run contended m p (exec (do finishChange id run changes; return none) v) :=
  makes_of_finish made settled (finishChange_shows bears changes)
    (finishChange_idle id run changes v)

theorem finishAlone_makes {g : Ground} (made : p.effect m.ground = .ok g)
    (settled : m.manual = false → m.working = m.committed)
    (bears : v.Bears id (some run) contended (m.store g)) (idle : v.IdleAt id run) :
    Makes id run contended m p (exec (do finishAlone id; return none) v) :=
  makes_of_finish made settled (finishAlone_shows bears idle) (finishAlone_staysIdle id run v idle)

/-- A change of rows hands back its rows, or comes to its end. -/
theorem give_makes {g : Ground} (made : p.effect m.ground = .ok g)
    (settled : m.manual = false → m.working = m.committed)
    (bears : v.Bears id (some run) contended (m.store g)) (there : v.RunAt id run s r)
    (clear : contended = false ∨ m.manual) (changes : Nat) (rows : List Tuple) :
    Makes id run contended m p (exec (give id run changes rows) v) := by
  cases rows with
  | nil => exact finishChange_makes made settled bears changes
  | cons row rest =>
      let f : Run → Run := fun r => { r with phase := .giving rest changes }
      have giving : (v.change id (Session.changeRun run f)).GivingAt id run rest :=
        ⟨_, f r, changes, there.changeRun f, rfl⟩
      exact ⟨g, made, ends_of_giving (bears.light (updateRun_light id v run f)) giving clear⟩

/-- A change of rows that stops leaves what it is told to leave. -/
theorem stop_makes {stop : Stop} (stops : p.stop? m.ground = some stop)
    (steady : p.aborts m.ground = false) (settled : m.manual = false → m.working = m.committed)
    (shows : v.Shows id (some run) contended { m with lastNumber := stop.work.lastNumber }) :
    Makes id run contended m p
      (exec
        (do
          match stop.policy with
          | .fail =>
              keep id stop.work.contents
              finishChange id run stop.work.changes
          | .rollback => undo id
          | _ => pure ()
          fail id run stop.fault) v) := by
  have fails {v : World} {m' : Copies} (left : m.Fails p m')
      (shows : v.Shows id (some run) contended m') :
      Makes id run contended m p (exec (fail id run stop.fault) v) :=
    ⟨m', left, shows.light (fail_light (α := Option Tuple) id v run stop.fault)⟩
  cases policy : stop.policy with
  | fail =>
      let f : Session → Session := fun s =>
        { s with working := some stop.work.contents, dirty := true }
      have stored := shows.bears.keep (f := f) (fun _ => rfl) fun _ => rfl
      have finished := finishChange_shows stored stop.work.changes
      change Makes id run contended m p (exec (finishChange id run stop.work.changes >>= fun _ =>
        fail id run stop.fault) (v.change id f))
      rw [exec_bind]
      rcases answer : exec (finishChange id run stop.work.changes) (v.change id f) with
        ⟨fault | _, u⟩ <;> rw [answer] at finished
      · obtain ⟨⟨_, lone⟩, dropped⟩ := finished
        refine ⟨_, .kept stop.work.lastNumber, ?_⟩
        have same : Copies.discard { m with
            lastNumber := stop.work.lastNumber, working := .ok stop.work.contents } =
            { m with lastNumber := stop.work.lastNumber } := by
          simp [Copies.discard, ← settled lone]
        rwa [same] at dropped
      · exact fails (.part stops policy) finished
  | rollback => simp [Program.aborts, stops, policy] at steady
  | abort => exact fails (.kept _) shows
  | ignore => exact fails (.kept _) shows
  | replace => exact fails (.kept _) shows

/-- Rows are changed. -/
theorem runChange_makes (shows : w.Shows id (some run) contended m) (there : w.RunAt id run s r)
    {c : Contents} (known : m.working = .ok c) {change : Mutation} {hasRows : Bool}
    (clear : hasRows → contended = false ∨ m.manual)
    (steady : (Program.mutate change).aborts m.ground = false) :
    Makes id run contended m (.mutate change) (exec (runChange id run c change hasRows) w) := by
  have effect := Program.effect_mutate (g := m.ground) known change
  unfold runChange
  rw [exec_bind, exec_session]
  dsimp only
  rw [shows.bears.here.lastNumber]
  rcases mutating : Engine.mutate Flow.patience { start := c } change
      { contents := c, lastNumber := m.ground.lastNumber } with stop | made <;>
    rw [mutating] at effect <;> dsimp only [Copies.ground] at mutating <;> rw [mutating]
  · dsimp only
    rw [exec_bind, exec_update]
    let f : Session → Session := fun s =>
      { s with changes := 0, lastNumber := stop.work.lastNumber }
    exact stop_makes (Program.stop?_of_stops known mutating) steady shows.working
      (shows.renumber (f := f) (fun _ => rfl) fun _ => rfl)
  · dsimp only
    rw [exec_bind, exec_update]
    let f : Session → Session := fun s => { s with lastNumber := made.lastNumber }
    have numbered := shows.renumber (f := f) (fun _ => rfl) fun _ => rfl
    have ends {v : World} {t : Session} {g : Ground} (there : v.RunAt id run t r)
        (effect : (Program.mutate change).effect m.ground = .ok g)
        (bears : v.Bears id (some run) contended (m.store g)) :
        Makes id run contended m (.mutate change)
          (exec
            (if hasRows then give id run made.changes made.returned.reverse
            else do
              finishChange id run made.changes
              return none) v) := by
      by_cases rows : hasRows
      · rw [if_pos rows]
        exact give_makes effect shows.working bears there (clear rows) _ _
      · rw [if_neg rows]
        exact finishChange_makes effect shows.working bears _
    dsimp only at effect
    by_cases changed : (decide (0 < made.changes) || Mutation.clears change) = true
    · rw [if_pos changed] at effect ⊢
      let g : Session → Session := fun s =>
        { s with working := some made.contents, dirty := true }
      have stored := numbered.bears.keep (f := g) (fun _ => rfl) fun _ => rfl
      exact ends ((there.change (f := f) rfl).change (f := g) rfl) effect stored
    · rw [if_neg changed] at effect ⊢
      refine ends (there.change (f := f) rfl) effect ?_
      have same : m.store ⟨.ok c, made.lastNumber⟩ = { m with lastNumber := made.lastNumber } := by
        rw [Copies.store, ← known]
      rw [same]
      exact numbered.bears

/-- Tables or triggers are changed. -/
theorem reshape_makes (bears : w.Bears id (some run) contended m)
    (settled : m.manual = false → m.working = m.committed) (idle : w.IdleAt id run) {c : Contents}
    (made : p.effect m.ground = .ok { m.ground with contents := .ok c.changed }) :
    Makes id run contended m p (exec (do reshape id c; finishAlone id; return none) w) := by
  let f : Session → Session := fun s =>
    { s with working := some c.changed, dirty := true, reshaped := true }
  rw [exec_bind, exec_reshape]
  exact finishAlone_makes made settled (bears.keep (f := f) (fun _ => rfl) fun _ => rfl)
    (update_staysIdle id run w (f := f) (fun _ => rfl) idle)

/-- A program that reads makes nothing of the copies. -/
theorem reads_makes (shows : w.Shows id (some run) contended m) (there : w.RunAt id run s r)
    (made : p.effect m.ground = .ok m.ground) (c : Contents) (flow : Flow) :
    Makes id run contended m p
      (exec
        (do
          updateRun id run fun r => { r with phase := .reading c flow }
          advance id run c flow) w) := by
  let f : Run → Run := fun r => { r with phase := .reading c flow }
  have begun := there.changeRun f
  have ends : (w.change id (Session.changeRun run f)).Ends id run contended m := by
    refine ends_of_shows (shows.light (updateRun_light id w run f)) fun t q also rows changes
      giving => ?_
    cases begun.session.symm.trans also.session
    cases begun.found.symm.trans also.found
    cases giving
  have follows := advance_follows begun rfl
  rw [exec_bind, exec_updateRun]
  dsimp only
  rcases answer : exec (advance id run c flow) (w.change id (Session.changeRun run f)) with
    ⟨fault | x, v⟩ <;> rw [answer] at follows
  · obtain rfl : v = _ := follows
    exact ⟨m, .kept m.lastNumber, ends⟩
  · refine ⟨m.ground, made, ?_⟩
    rw [Copies.write_ground shows.working, World.Ends, follows.reset]
    exact ends

/-- A program about data is run. -/
theorem runProgram_makes {p : Prepared} (shows : w.Shows id (some run) contended m)
    (there : w.RunAt id run s r) (idle : r.phase = .idle) (data : p.IsData) {c : Contents}
    (known : p.access ≠ .none → m.working = .ok c)
    (clear : p.handsBack → contended = false ∨ m.manual)
    (steady : p.program.aborts m.ground = false) :
    Makes id run contended m p.program (exec (runProgram id run p c) w) := by
  have still : w.IdleAt id run := fun t q session found => by
    cases there.session.symm.trans session
    cases there.found.symm.trans found
    exact idle
  have acts (writes : p.program.isReading = false) (acts : p.program ≠ .nothing) :
      m.ground.contents = .ok c :=
    known (data.needs writes acts)
  obtain ⟨a, course, same⟩ := exists_course id run p c w
  rw [same]
  cases course with
  | reads reading flow =>
      exact reads_makes shows there (Program.effect_of_isReading reading _) c flow
  | changes program =>
      have known := acts (by rw [program]; rfl) (by simp [program])
      rw [← Prepared.handsBack_of_mutate program, program]
      exact runChange_makes shows there known clear (program ▸ steady)
  | reshapes writes acts_ makes =>
      exact reshape_makes shows.bears shows.working still (makes m.ground (acts writes acts_))
  | @writes version program =>
      let f : Session → Session := fun s =>
        { s with working := some { c with userVersion := version }, dirty := true }
      refine finishAlone_makes (v := w.change id f) (g := ⟨.ok { c with userVersion := version },
        m.lastNumber⟩) ?_ shows.working (shows.bears.keep (f := f) (fun _ => rfl) fun _ => rfl)
        (update_staysIdle id run w (f := f) (fun _ => rfl) still)
      rw [program, Program.effect, acts (by rw [program]; rfl) (by simp [program])]
      rfl
  | controls program => exact absurd program (data.control _)
  | nothing program =>
      rw [program]
      exact finishAlone_makes rfl shows.working shows.bears still
  | refused => exact ⟨_, .kept m.lastNumber, shows⟩

section Fresh

variable (shows : w.Shows id (some run) contended m) (fresh : Fresh w id run s r)
  (data : r.prepared.IsData)
  (clear : r.prepared.handsBack → contended = false ∨ m.manual)
  (steady : w.Readable id → r.prepared.program.aborts m.ground = false)
include shows fresh data clear steady

/-- A statement that was just made ready takes its locks and is run. -/
theorem locks_makes (needed : r.prepared.access ≠ .none) :
    Makes id run contended m r.prepared.program
      (exec
        (do
          lockFor id r.prepared.access
          let c ← contents id
          let p ← refresh id run r c
          lockFor id p.access
          runProgram id run p c) w) := by
  have idle := fresh.idle
  have light := lockFor_light id (some run) w r.prepared.access
  rw [exec_bind]
  rcases locked : exec (lockFor id r.prepared.access) w with ⟨fault | _, v⟩
  · rw [Leads, locked] at light
    exact ⟨_, .kept m.lastNumber, shows.light light⟩
  have readable := readable_of_lockFor needed locked
  obtain rfl := exec_lockFor locked
  have shows := shows.light (take_light id (some run) w r.prepared.access)
  have seen : w.contents s = m.working := by
    have seen := shows.bears.here.contents
    rwa [contents_take fresh.session] at seen
  dsimp only
  rw [exec_bind, exec_contents, shows.bears.here.contents]
  cases known : m.working with
  | error fault => exact ⟨_, .kept m.lastNumber, shows⟩
  | ok c =>
      dsimp only [refresh]
      rw [if_pos (fresh.form readable c (seen.trans known)), exec_bind, exec_pure]
      dsimp only
      have light := lockFor_light id (some run)
        (w.change id (Session.take r.prepared.access)) r.prepared.access
      rw [exec_bind]
      rcases relocked : exec (lockFor id r.prepared.access)
        (w.change id (Session.take r.prepared.access)) with ⟨fault | _, v⟩
      · rw [Leads, relocked] at light
        exact ⟨_, .kept m.lastNumber, shows.light light⟩
      · obtain rfl := exec_lockFor relocked
        dsimp only
        rw [take_take]
        exact runProgram_makes shows (fresh.change (f := Session.take r.prepared.access) rfl)
          idle data
          (fun _ => known) clear (steady readable)

/-- A statement that was just made ready is started. -/
theorem start_makes : Makes id run contended m r.prepared.program (exec (start id run r) w) := by
  have idle := fresh.idle
  unfold start
  split
  · next none_ =>
      rw [exec_bind, exec_get]
      dsimp only
      rw [exec_bind, exec_session]
      refine runProgram_makes shows fresh.toRunAt idle data (fun needs => absurd none_ needs)
        clear ?_
      rcases data.access none_ with reads | idle
      · cases program : r.prepared.program <;> rw [program] at reads <;> first | rfl | cases reads
      · rw [idle]
        rfl
  · next needed => exact locks_makes shows fresh data clear steady needed

/-- A statement that was just made ready is stepped.  Whatever comes of it, it is set back. -/
theorem step_makes :
    match exec (step id run) w with
    | (.ok _, v) => ∃ g, r.prepared.program.effect m.ground = .ok g ∧
        v.Ends id run contended (m.write g)
    | (.error _, v) => ∃ m', m.Fails r.prepared.program m' ∧ v.Ends id run contended m' := by
  have started := start_makes shows fresh data clear steady
  rcases answer : exec (start id run r) w with ⟨fault | x, v⟩ <;> rw [answer] at started
  · obtain ⟨m', left, shows⟩ := started
    obtain ⟨u, same, failed⟩ := exec_step_of_failed fresh.toRunAt fresh.idle answer
    have shows : u.Shows id (some run) contended m' := by
      rcases same with rfl | rfl
      · exact shows
      · exact shows.light (update_light id (some run) v (f := fun s => { s with changes := 0 })
          (fun _ => rfl) fun _ => rfl)
    rw [failed]
    exact ⟨m', left, ends_of_idle (shows.light (fail_light (α := Option Tuple) id u run fault))
      (fail_idle (Option Tuple) id run u fault)⟩
  · rw [exec_step_of_started fresh.toRunAt fresh.idle answer]
    exact started

end Fresh

end Makes

/-! ## Statements from beginning to end -/

/-- The statement at the front of a text is about data: it neither begins nor ends a transaction or
a part of one. -/
def isData (sql : String) : Bool :=
  match Program.front sql.toList with
  | .ok (some ts) => (Grammar.statementOf ts).toOption.all fun s => !s.isControl
  | _ => true

/-- The program that the statement at the front of a text is made into. -/
def programOf (known : Outcome Contents) (sql : String) : Option Prepared :=
  match Program.front sql.toList with
  | .ok (some ts) => (Program.prepare known ts).toOption
  | _ => none

/-- The tables that a statement is made ready against: those of the copy that is worked on, unless
another session keeps them back. -/
def Copies.Knows (m : Copies) (contended : Bool) (known : Outcome Contents) : Prop :=
  known = m.working ∨ contended ∧ known = .error busy

section Statements

variable {id run : Nat} {contended : Bool} {m : Copies} {w v : World}

/-- A lock that is held is held more firmly than any below it. -/
theorem isHeld_mono {file : Option String} {low high : Lock} (held : w.isHeld id file high)
    (below : high.atLeast low) : w.isHeld id file low := by
  simp only [World.isHeld, Bool.and_eq_true, List.any_eq_true, decide_eq_true_eq] at held ⊢
  obtain ⟨some_, entry, among, ⟨other, same⟩, lock⟩ := held
  refine ⟨some_, entry, among, ⟨other, same⟩, ?_⟩
  simp only [Lock.atLeast, decide_eq_true_eq] at lock below ⊢
  exact Nat.le_trans below lock

/-- The tables that a session finds. -/
theorem schema_knows (shows : w.Shows id none contended m) {known : Outcome Contents}
    (found : exec (schema id) w = (.ok known, w)) : m.Knows contended known := by
  simp only [schema, exec_bind, exec_get, exec_session] at found
  split at found
  · next kept =>
      simp only [Bool.and_eq_true] at kept
      refine .inr ⟨?_, (Except.ok.inj (Prod.mk.inj found).1).symm⟩
      exact shows.bears.held.symm.trans (isHeld_mono kept.2 rfl)
  · exact .inl ((Except.ok.inj (Prod.mk.inj found).1).symm.trans shows.bears.here.contents)

/-- A statement about data is made ready. -/
theorem prepare_shows (shows : w.Shows id none contended m) {sql : String} (data : isData sql) :
    match exec (prepare id sql.toList) w with
    | (.ok (some run), v) => v.Shows id none contended m ∧ ∃ s r known, Fresh v id run s r ∧
        programOf known sql = some r.prepared ∧ m.Knows contended known ∧
        (v.Readable id → known = m.working) ∧ r.prepared.IsData ∧
        (isPlain sql → r.prepared.IsPlain)
    | (_, v) => v = w := by
  have spec := prepare_cases id sql.toList w
  rcases answer : exec (prepare id sql.toList) w with ⟨fault | _ | run, v⟩ <;> rw [answer] at spec
  · exact spec
  · exact spec
  obtain ⟨s, found, _⟩ := shows.bears
  obtain ⟨t, r, fresh, _⟩ := prepare_fresh found answer
  obtain ⟨rfl, ts, known, p, informed, schema, ⟨front, made⟩, rfl⟩ := spec
  rw [World.sessionAt_of_found found] at fresh answer ⊢
  let f := Session.takeIn (Run.ready ts p known) informed
  have there : (w.change id f).RunAt id s.runs.next (f s) (Run.ready ts p known) :=
    ⟨World.session?_change_of_found found, (Pool.get?_insert ..).trans (if_pos rfl)⟩
  cases there.session.symm.trans fresh.session
  cases there.found.symm.trans fresh.found
  refine ⟨shows.light ⟨f, rfl, fun s => ⟨rfl, fun quiet key q other also => ?_⟩⟩, _, _, known,
    fresh, ?_, schema_knows shows schema, fun readable => ?_, ?_, fun plain => ?_⟩
  · change (s.runs.insert (Run.ready ts p known)).2.get? key = some q at also
    rw [Pool.get?_insert] at also
    split at also
    · cases also
      rfl
    · exact quiet key q other also
  · simp only [programOf, front, made]
    rfl
  · have readable : w.Readable id := by
      unfold World.Readable at readable ⊢
      rw [World.sessionAt_of_found there.session, isHeld_change] at readable
      rwa [World.sessionAt_of_found found]
    exact (schema_of_readable schema readable).trans shows.bears.here.contents
  · refine prepare_isData made fun statement parsed => ?_
    simp only [isData, front, parsed] at data
    simpa only [Except.toOption, Option.all_some, Bool.not_eq_true'] using data
  · exact prepare_of_isPlain plain front made

/-- Setting a statement back leaves none at work. -/
theorem reset_shows (ends : w.Ends id run contended m) :
    (exec (reset id run) w).2.Shows id none contended m :=
  ends.quieted (reset_idle id run w)

theorem finalize_shows (ends : w.Ends id run contended m) :
    (exec (finalize id run) w).2.Shows id none contended m := by
  rw [exec_finalize]
  refine (reset_shows ends).light ⟨_, rfl, fun s => ⟨rfl, fun quiet key r other there => ?_⟩⟩
  rw [Pool.get?_erase] at there
  split at there
  · cases there
  · exact quiet key r other there

end Statements

/-! ## Control statements -/

section Controls

variable {id : Nat} {contended : Bool} {m : Copies} {w : World}

theorem World.Bears.inTransaction {run : Option Nat} (bears : w.Bears id run contended m) :
    w.inTransaction id = m.manual := by
  obtain ⟨s, found, here, _⟩ := bears
  simp [World.inTransaction, found, here.autocommit]

/-- Outside of a transaction one can be begun. -/
theorem begin_shows (shows : w.Shows id none contended m) (lone : m.manual = false) :
    ∃ v, exec (controls id [.begin .deferred]) w = (.ok (), v) ∧
      v.Shows id none contended { m with manual := true } := by
  let f : Session → Session := fun s => { s with autocommit := false }
  refine ⟨w.change id f, ?_, shows.bears.change (f := f) (fun _ => rfl) fun s here => ?_,
    fun lone => by cases lone⟩
  · rw [exec_controls_cons, exec_begin_of_not_inTransaction (shows.bears.inTransaction.trans lone)]
    rfl
  · exact ⟨rfl, here.dirty, here.committed, here.contents, here.lastNumber, here.quiet⟩

/-- In a transaction none can be begun. -/
theorem begin_refused (shows : w.Shows id none contended m) (open_ : m.manual) :
    ∃ fault v, exec (controls id [.begin .deferred]) w = (.error fault, v) ∧
      v.Shows id none contended m := by
  have begun : (w.sessionAt id).autocommit = false := by
    rw [shows.bears.here.autocommit, open_]
    rfl
  have refused : ∃ fault, exec (Action.control id (.begin .deferred)) w = (.error fault, w) := by
    unfold Action.control begin
    rw [exec_bind, exec_session]
    simp only [exec_bind, exec_session, begun, Bool.false_eq_true, if_false]
    exact ⟨_, rfl⟩
  obtain ⟨fault, refused⟩ := refused
  refine ⟨fault, w.change id Session.settle, ?_, shows.light (settle_light id none w)⟩
  rw [exec_controls_cons, refused]

/-- Outside of a transaction none can be ended. -/
theorem ending_refused_alone (shows : w.Shows id none contended m) (lone : m.manual = false)
    {how : Control} (ending : how = .commit ∨ how = .rollback) :
    ∃ fault v, exec (controls id [how]) w = (.error fault, v) ∧ v.Shows id none contended m := by
  obtain ⟨fault, refused⟩ :=
    exec_control_of_not_inTransaction (shows.bears.inTransaction.trans lone) ending
  refine ⟨fault, w.change id Session.settle, ?_, shows.light (settle_light id none w)⟩
  rw [exec_controls_cons, refused]

theorem rollback_shows (shows : w.Shows id none contended m) (open_ : m.manual) :
    ∃ v, exec (Action.control id .rollback) w = (.ok (), v) ∧
      v.Shows id none contended { m.discard with manual := false } := by
  have begun : (w.sessionAt id).autocommit = false := by
    rw [shows.bears.here.autocommit, open_]
    rfl
  have cut : Light id none w (w.change id Session.cutOff) := by
    refine ⟨_, rfl, fun s => ⟨rfl, fun quiet key r other there => ?_⟩⟩
    rw [Session.cutOff, Pool.get?_mapItems] at there
    obtain ⟨old, before, rfl⟩ := Option.map_eq_some_iff.1 there
    have still := quiet key old other before
    split <;> exact still
  unfold Action.control
  rw [exec_bind, exec_session]
  simp only [begun, Bool.false_eq_true, if_false]
  by_cases reshaped : (w.sessionAt id).reshaped
  · rw [if_pos reshaped]
    exact ⟨_, rfl, undo_shows (shows.bears.light cut)⟩
  · rw [if_neg reshaped]
    exact ⟨_, rfl, undo_shows shows.bears⟩

theorem commit_shows (shows : w.Shows id none contended m) (open_ : m.manual) :
    match exec (Action.control id .commit) w with
    | (.ok _, v) => v.Shows id none contended { m.publish with manual := false }
    | (.error fault, v) => fault = busy ∧ contended ∧ v.Shows id none contended m := by
  have begun : (w.sessionAt id).autocommit = false := by
    rw [shows.bears.here.autocommit, open_]
    rfl
  unfold Action.control
  rw [exec_bind, exec_session]
  simp only [begun, shows.bears.here.quiet.anyWrites, Bool.false_eq_true, if_false]
  have ended := endTransaction_shows shows.bears
  rcases answer : exec (endTransaction id) w with ⟨fault | _, v⟩ <;> rw [answer] at ended
  · exact ⟨ended.1, ended.2.1, shows.light ended.2.2⟩
  · exact ended

end Controls

/-! ## New sessions -/

/-- The copies of a database that is opened. -/
def Copies.start (committed : Outcome Contents) : Copies :=
  ⟨committed, committed, 0, false⟩

/-- A session that is opened shows what was committed. -/
theorem connect_shows {mode : OpenMode} {source : String} {id : Nat} {w v : World}
    (connected : exec (connect mode source) w = (.ok id, v)) :
    ∃ contended committed, v.Shows id none contended (.start committed) := by
  have spec := connect_cases mode source w
  rw [connected] at spec
  obtain ⟨rfl, file, readOnly, opened⟩ := spec
  have found : v.session? w.sessions.next = some { file, readOnly } := by
    rw [World.session?, opened, Pool.get?_insert, if_pos rfl]
  refine ⟨v.isHeld w.sessions.next file .shared, v.committed { file, readOnly },
    ⟨_, found, ⟨rfl, rfl, rfl, rfl, rfl, fun key r _ there => by cases there⟩, rfl⟩, fun _ => ?_⟩
  rw [World.sessionAt_of_found found]

end SqlDriver.Engine
