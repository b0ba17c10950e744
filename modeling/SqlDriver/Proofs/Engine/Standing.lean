/-
# SqlDriver.Proofs.Engine.Standing -- a transaction and what it has made of its database

While a transaction is open, its session sees the database that its statements made of the one
that was committed before (`World.Stands`), and everything else that the engine does for a
statement -- locks, rows, phases, ends -- leaves that alone (`Keeps`).  So a plain statement,
stepped once, makes of the database what `Program.effect` makes of it; where it fails, whatever
becomes of the transaction, no file has changed (`step_carries`).  Other sessions may hold locks on
the file: then a statement that needs one fails, and a statement that was made ready without a look
at the tables needs none (`prepare_of_blind`).
-/
import SqlDriver.Proofs.Engine.AddedColumn
import SqlDriver.Proofs.Engine.Blind
import SqlDriver.Proofs.Engine.Execution
import SqlDriver.Proofs.Engine.Transaction

namespace SqlDriver.Engine

set_option autoImplicit false

open SqlDriver.Engine.Action

/-! ## Where a transaction stands -/

/-- What a transaction starts from: the files, the one among them that is its database, and the
database as it was committed last if it is none of them. -/
structure Footing where
  disk : Disk
  file : Option String
  own : Contents := {}

namespace Footing

/-- The database as it was committed last. -/
def committed (b : Footing) : Outcome Contents :=
  match b.file with
  | none => .ok b.own
  | some path => b.disk.database path

/-- The database as a transaction left it, if it has changed it. -/
def contents (b : Footing) (working : Option Contents) : Outcome Contents :=
  working.elim b.committed .ok

end Footing

/-- A session is in a transaction, which has made `g` of what it started from. -/
structure Session.Stands (s : Session) (b : Footing) (g : Ground) : Prop where
  begun : s.autocommit = false
  file : s.file = b.file
  own : s.own = b.own
  dirty : s.dirty = s.working.isSome
  contents : b.contents s.working = g.contents
  lastNumber : s.lastNumber = g.lastNumber

/-- Where a session stands is a matter of a few of its parts. -/
theorem Session.Stands.congr {s t : Session} {b : Footing} {g : Ground} (stands : s.Stands b g)
    (same : (t.autocommit, t.file, t.own, t.dirty, t.working, t.lastNumber) =
      (s.autocommit, s.file, s.own, s.dirty, s.working, s.lastNumber)) : t.Stands b g := by
  simp only [Prod.mk.injEq] at same
  obtain ⟨begun, file, own, dirty, working, lastNumber⟩ := same
  exact ⟨begun.trans stands.begun, file.trans stands.file, own.trans stands.own,
    by rw [dirty, working, stands.dirty], by rw [working, stands.contents],
    lastNumber.trans stands.lastNumber⟩

/-- A session stores the database that a statement made. -/
theorem Session.Stands.store {s t : Session} {b : Footing} {g : Ground} (stands : s.Stands b g)
    (same : (t.autocommit, t.file, t.own, t.lastNumber) =
      (s.autocommit, s.file, s.own, s.lastNumber)) (dirty : t.dirty = true) {c : Contents}
    (working : t.working = some c) : t.Stands b { g with contents := .ok c } := by
  simp only [Prod.mk.injEq] at same
  obtain ⟨begun, file, own, lastNumber⟩ := same
  exact ⟨begun.trans stands.begun, file.trans stands.file, own.trans stands.own,
    by rw [dirty, working]; rfl, by rw [working]; rfl, lastNumber.trans stands.lastNumber⟩

namespace World

/-- A session stands in a transaction. -/
structure Stands (w : World) (id : Nat) (b : Footing) (g : Ground) : Prop where
  session : ∃ s, w.session? id = some s ∧ s.Stands b g
  disk : w.disk = b.disk

/-- A statement of a session, but for how far it got. -/
def stillAt (w : World) (id run : Nat) : Option Run :=
  ((w.session? id).bind fun s => s.runs.get? run).map Run.still

theorem stillAt_change {w : World} {id run : Nat} {f : Session → Session}
    (same : ∀ s, ((f s).runs.get? run).map Run.still = (s.runs.get? run).map Run.still) :
    (w.change id f).stillAt id run = w.stillAt id run := by
  rw [stillAt, session?_change, if_pos rfl]
  cases found : w.session? id <;> simp [stillAt, found, same]

theorem RunAt.stillAt {w : World} {id run : Nat} {s : Session} {r : Run}
    (there : w.RunAt id run s r) : w.stillAt id run = some r.still := by
  simp [World.stillAt, there.session, there.found]

theorem runAt_of_stillAt {w : World} {id run : Nat} {q : Run} (there : w.stillAt id run = some q) :
    ∃ s r, w.RunAt id run s r ∧ r.still = q := by
  obtain ⟨r, found, still⟩ := Option.map_eq_some_iff.1 there
  obtain ⟨s, session, found⟩ := Option.bind_eq_some_iff.1 found
  exact ⟨s, r, ⟨session, found⟩, still⟩

namespace Stands

variable {w : World} {id : Nat} {b : Footing} {g g' : Ground}

theorem change (stands : w.Stands id b g) {f : Session → Session}
    (goes : ∀ s, s.Stands b g → (f s).Stands b g') : (w.change id f).Stands id b g' := by
  obtain ⟨s, found, here⟩ := stands.session
  exact ⟨⟨f s, session?_change_of_found found, goes s here⟩, stands.disk⟩

theorem at_ (stands : w.Stands id b g) : (w.sessionAt id).Stands b g := by
  obtain ⟨s, found, here⟩ := stands.session
  rwa [sessionAt_of_found found]

/-- A session sees what its transaction made of its database. -/
theorem contents (stands : w.Stands id b g) : w.contents (w.sessionAt id) = g.contents := by
  have here := stands.at_
  rw [← here.contents, World.contents]
  cases (w.sessionAt id).working with
  | some c => rfl
  | none =>
      simp only [committed, Footing.contents, Option.elim_none, Footing.committed, here.file,
        here.own, stands.disk]
      rfl

end Stands

end World

/-! ## What leaves a transaction alone -/

/-- A transaction stands where it stood, and statements are what they were. -/
def Keeps (id : Nat) (w v : World) : Prop :=
  ∀ b g, w.Stands id b g → v.Stands id b g ∧ ∀ run, v.stillAt id run = w.stillAt id run

instance (id : Nat) : Std.Refl (Keeps id) where
  refl _ _ _ stands := ⟨stands, fun _ => rfl⟩

instance (id : Nat) : IsTrans World (Keeps id) where
  trans _ _ _ first second b g stands :=
    let ⟨between, same⟩ := first b g stands
    let ⟨after, same'⟩ := second b g between
    ⟨after, fun run => (same' run).trans (same run)⟩

section Keeping

variable (id run : Nat) (w : World)

theorem update_keeps {f : Session → Session} (stands : ∀ s b g, s.Stands b g → (f s).Stands b g)
    (still : ∀ s run,
      ((f s).runs.get? run).map Run.still = (s.runs.get? run).map Run.still) :
    Leads (Keeps id) (update id f) w :=
  fun b g here => ⟨here.change fun s => stands s b g, fun run => World.stillAt_change
    fun s => still s run⟩

theorem Session.Stands.settle {s : Session} {b : Footing} {g : Ground} (stands : s.Stands b g) :
    s.settle = s := by
  simp [Session.settle, stands.begun]

theorem settle_keeps : Leads (Keeps id) (settle id) w :=
  update_keeps id w (fun s b g stands => by rwa [stands.settle]) fun s run => by rw [s.runs_settle]

theorem still_changeRun {s : Session} {f : Run → Run} (same : ∀ r, (f r).still = r.still)
    (run other : Nat) :
    ((s.changeRun run f).runs.get? other).map Run.still = (s.runs.get? other).map Run.still := by
  rw [Session.changeRun, Pool.get?_modify]
  split
  · cases s.runs.get? other <;> simp [same]
  · rfl

theorem updateRun_keeps {f : Run → Run} (same : ∀ r, (f r).still = r.still) :
    Leads (Keeps id) (updateRun id run f) w :=
  update_keeps id w (fun _ _ _ stands => stands.congr rfl) fun _ => still_changeRun same run

theorem finishAlone_keeps : Leads (Keeps id) (finishAlone id) w := by
  intro b g stands
  unfold finishAlone
  rw [exec_bind, exec_session]
  simp only [stands.at_.begun, Bool.false_and, Bool.false_eq_true, if_false]
  exact settle_keeps id w b g stands

theorem finishChange_keeps (changes : Nat) :
    Leads (Keeps id) (finishChange id run changes) w := by
  refine .bind (updateRun_keeps id run w fun _ => rfl) fun _ w _ => .bind ?_ fun _ w _ =>
    finishAlone_keeps id w
  exact update_keeps id w (fun _ _ _ stands => stands.congr rfl) fun _ _ => rfl

theorem halt_keeps : Leads (Keeps id) (halt id run) w := by
  refine .bind (a := run? id run) (.session_bind (.pure _)) fun r w _ => ?_
  split
  · exact .bind (updateRun_keeps id run w fun _ => rfl) fun _ w _ => settle_keeps id w
  · exact finishChange_keeps id run w _
  · exact settle_keeps id w

theorem reset_keeps : Leads (Keeps id) (reset id run) w :=
  .tryCatch (halt_keeps id run w) fun _ _ _ => .pure _

theorem fail_keeps {α : Type} (fault : Fault) :
    Leads (Keeps id) (fail id run fault : Action α) w :=
  .bind (updateRun_keeps id run w fun _ => rfl) fun _ w _ =>
    .bind (settle_keeps id w) fun _ _ _ => .throw _

theorem advance_keeps (c : Contents) (flow : Flow) :
    Leads (Keeps id) (advance id run c flow) w := by
  refine .get_bind (.session_bind ?_)
  extract_lets now
  split
  · exact fail_keeps id run w _
  · exact .bind (halt_keeps id run w) fun _ _ _ => .pure _
  · exact .bind (updateRun_keeps id run w fun _ => rfl) fun _ _ _ => .pure _

theorem give_keeps (changes : Nat) (rows : List Tuple) :
    Leads (Keeps id) (give id run changes rows) w := by
  cases rows with
  | nil => exact .bind (finishChange_keeps id run w _) fun _ _ _ => .pure _
  | cons row rest => exact .bind (updateRun_keeps id run w fun _ => rfl) fun _ _ _ => .pure _

end Keeping

/-! ## What statements make of a database -/

/-- An action of a statement makes `o` of the database; where it fails, no file has changed. -/
def Carries (id : Nat) (b : Footing) (w : World) (o : Outcome Ground) :
    Except Fault (Option Tuple) × World → Prop
  | (.ok _, v) =>
      ∃ g, o = .ok g ∧ v.Stands id b g ∧ ∀ run, v.stillAt id run = w.stillAt id run
  | (.error _, v) => v.disk = b.disk

section Carries

variable {id run : Nat} {w v : World} {b : Footing} {g g' : Ground} {o : Outcome Ground}

theorem Carries.of_keeps {a : Action (Option Tuple)} (made : o = .ok g')
    (stands : v.Stands id b g') (still : ∀ run, v.stillAt id run = w.stillAt id run)
    (keeps : Leads (Keeps id) a v) : Carries id b w o (exec a v) := by
  obtain ⟨after, same⟩ := keeps b g' stands
  rcases answer : exec a v with ⟨fault | x, u⟩ <;> rw [answer] at after same
  · exact after.disk
  · exact ⟨g', made, after, fun run => (same run).trans (still run)⟩

theorem finishAlone_carries (made : o = .ok g') (stands : v.Stands id b g')
    (still : ∀ run, v.stillAt id run = w.stillAt id run) :
    Carries id b w o (exec (do finishAlone id; return none) v) :=
  .of_keeps made stands still (.bind (finishAlone_keeps id v) fun _ _ _ => .pure _)

/-- Tables or triggers are changed. -/
theorem reshape_carries (stands : w.Stands id b g) {c : Contents}
    (made : o = .ok { g with contents := .ok c.changed }) :
    Carries id b w o (exec (do reshape id c; finishAlone id; return none) w) := by
  let f : Session → Session := fun s =>
    { s with working := some c.changed, dirty := true, reshaped := true }
  rw [exec_bind, exec_reshape]
  exact finishAlone_carries made (stands.change fun s here => here.store (t := f s) rfl rfl rfl)
    fun run => World.stillAt_change fun _ => rfl

/-- A change of rows that stops fails, whatever becomes of what it did. -/
theorem stop_carries (stands : v.Stands id b g') (stop : Stop) :
    Carries id b w o
      (exec
        (do
          match stop.policy with
          | .fail =>
              keep id stop.work.contents
              finishChange id run stop.work.changes
          | .rollback => undo id
          | _ => pure ()
          fail id run stop.fault) v) := by
  have fails (v : World) (same : v.disk = b.disk) :
      Carries id b w o (exec (fail id run stop.fault) v) := same
  cases stop.policy with
  | fail =>
      let f : Session → Session := fun s =>
        { s with working := some stop.work.contents, dirty := true }
      have stored : (v.change id f).Stands id b { g' with contents := .ok stop.work.contents } :=
        stands.change fun s here => here.store (t := f s) rfl rfl rfl
      have after := (finishChange_keeps id run _ stop.work.changes _ _ stored).1
      change Carries id b w o (exec (finishChange id run stop.work.changes >>= fun _ =>
        fail id run stop.fault) (v.change id f))
      rw [exec_bind]
      rcases answer : exec (finishChange id run stop.work.changes) (v.change id f) with
        ⟨fault | _, u⟩ <;> rw [answer] at after
      · exact after.disk
      · exact fails u after.disk
  | rollback => exact fails _ stands.disk
  | abort => exact fails v stands.disk
  | ignore => exact fails v stands.disk
  | replace => exact fails v stands.disk

/-- Rows are changed. -/
theorem runChange_carries (stands : w.Stands id b g) {c : Contents} (known : g.contents = .ok c)
    (m : Mutation) :
    Carries id b w ((Program.mutate m).effect g) (exec (runChange id run c m false) w) := by
  unfold runChange
  rw [exec_bind, exec_session, Program.effect_mutate known, ← stands.at_.lastNumber]
  dsimp only
  rcases mutate Flow.patience { start := c } m _ with stop | made
  · dsimp only
    rw [exec_bind, exec_update]
    let stopped : Session → Session := fun s =>
      { s with changes := 0, lastNumber := stop.work.lastNumber }
    have counted :
        (w.change id stopped).Stands id b { g with lastNumber := stop.work.lastNumber } :=
      stands.change fun s here => ⟨here.begun, here.file, here.own, here.dirty, here.contents, rfl⟩
    exact stop_carries counted stop
  · let numbered : Session → Session := fun s => { s with lastNumber := made.lastNumber }
    have counted : (w.change id numbered).Stands id b { g with lastNumber := made.lastNumber } :=
      stands.change fun s here => ⟨here.begun, here.file, here.own, here.dirty, here.contents, rfl⟩
    have ends {g' : Ground} {v : World} (after : v.Stands id b g')
        (still : ∀ run, v.stillAt id run = w.stillAt id run) :
        Carries id b w (.ok g')
          (exec (do finishChange id run made.changes; return none) v) :=
      .of_keeps rfl after still (.bind (finishChange_keeps id run v _) fun _ _ _ => .pure _)
    dsimp only
    rw [exec_bind, exec_update]
    by_cases changed : (decide (0 < made.changes) || Mutation.clears m) = true
    · rw [if_pos changed, if_pos changed]
      let stored : Session → Session := fun s =>
        { s with working := some made.contents, dirty := true }
      refine ends (v := (w.change id numbered).change id stored)
        (counted.change fun s here => here.store (t := stored s) rfl rfl rfl) fun run => ?_
      exact (World.stillAt_change (f := stored) fun _ => rfl).trans
        (World.stillAt_change fun _ => rfl)
    · rw [if_neg changed, if_neg changed, ← known]
      exact ends counted fun run => World.stillAt_change fun _ => rfl

/-- A program is run in a transaction. -/
theorem runProgram_carries (stands : w.Stands id b g) {p : Prepared} (plain : p.IsPlain)
    {c : Contents} (known : p.access ≠ .none → g.contents = .ok c) :
    Carries id b w (p.program.effect g) (exec (runProgram id run p c) w) := by
  have acts (writes : p.program.isReading = false) (acts : p.program ≠ .nothing) :
      g.contents = .ok c :=
    known (plain.isData.needs writes acts)
  obtain ⟨a, course, same⟩ := exists_course id run p c w
  rw [same]
  cases course with
  | reads reading flow =>
      rw [Program.effect_of_isReading reading]
      exact .of_keeps rfl stands (fun _ => rfl)
        (.bind (updateRun_keeps id run w fun _ => rfl) fun _ w _ => advance_keeps id run w c flow)
  | changes program =>
      rw [← Prepared.handsBack_of_mutate program, plain.not_handsBack, program]
      exact runChange_carries stands (acts (by rw [program]; rfl) (by simp [program])) _
  | reshapes writes acts_ makes => exact reshape_carries stands (makes g (acts writes acts_))
  | @writes version program =>
      let stored : Session → Session := fun s =>
        { s with working := some { c with userVersion := version }, dirty := true }
      refine finishAlone_carries (v := w.change id stored) ?_
        (stands.change fun s here => here.store (t := stored s) rfl rfl rfl)
        fun run => World.stillAt_change fun _ => rfl
      rw [program, Program.effect, acts (by rw [program]; rfl) (by simp [program])]
      rfl
  | controls program => exact absurd program (plain.control _)
  | nothing program =>
      rw [program]
      exact finishAlone_carries rfl stands fun _ => rfl
  | refused => exact stands.disk

theorem Carries.after {answer : Except Fault (Option Tuple) × World}
    (carries : Carries id b v o answer)
    (still : ∀ run, v.stillAt id run = w.stillAt id run) : Carries id b w o answer := by
  rcases answer with ⟨fault | x, u⟩
  · exact carries
  · obtain ⟨g, made, stands, same⟩ := carries
    exact ⟨g, made, stands, fun run => (same run).trans (still run)⟩

/-- A session that takes locks stands where it stood; where it is refused one, no file has
changed. -/
theorem lockFor_carries {access : Access} {a : Action (Option Tuple)} (stands : w.Stands id b g)
    (rest : (access ≠ .none → w.Readable id) →
      (w.change id (Session.take access)).Stands id b g →
      Carries id b (w.change id (Session.take access)) o
        (exec a (w.change id (Session.take access)))) :
    Carries id b w o (exec (lockFor id access >>= fun _ => a) w) := by
  have tends := lockFor_tends id w access
  rw [exec_bind]
  rcases locked : exec (lockFor id access) w with ⟨fault | _, v⟩
  · rw [Leads, locked] at tends
    exact tends.quiet.disk.trans stands.disk
  · obtain rfl := exec_lockFor locked
    refine (rest (fun needed => readable_of_lockFor needed locked)
      (stands.change fun s here => here.congr rfl)).after fun run => ?_
    exact World.stillAt_change fun _ => rfl

end Carries

/-! ## Statements from beginning to end -/

/-- A statement was made ready for the database that a transaction has made, or else without a look
at its tables. -/
structure Ready (w : World) (id run : Nat) (g : Ground) (s : Session) (r : Run) : Prop
    extends Fresh w id run s r where
  plain : r.prepared.IsPlain
  peaceful : r.prepared.IsPeaceful
  known : r.form = none ∨ r.form = g.contents.toOption.map Contents.form
  program : ∃ p, Program.prepare g.contents r.tokens = .ok p ∧ p.program = r.prepared.program

section Statements

variable {id run : Nat} {w v : World} {b : Footing} {g : Ground} {s : Session} {r : Run}

theorem World.Stands.contents_of_found (stands : w.Stands id b g)
    (found : w.session? id = some s) : w.contents s = g.contents := by
  rw [← stands.contents, World.sessionAt_of_found found]

/-- A statement that could take its locks does not have to be prepared anew. -/
theorem locks_carries (stands : w.Stands id b g) (ready : Ready w id run g s r)
    (needed : r.prepared.access ≠ .none) :
    Carries id b w (r.prepared.program.effect g)
      (exec
        (do
          lockFor id r.prepared.access
          let c ← contents id
          let p ← refresh id run r c
          lockFor id p.access
          runProgram id run p c) w) := by
  refine lockFor_carries stands fun readable stands' => ?_
  rw [exec_bind, exec_contents, stands'.contents]
  cases known : g.contents with
  | error fault => exact stands'.disk
  | ok c =>
      have same : r.form = some c.form :=
        ready.form (readable needed) c ((stands.contents_of_found ready.session).trans known)
      dsimp only [refresh]
      rw [if_pos same, exec_bind, exec_pure]
      exact lockFor_carries stands' fun _ stands =>
        runProgram_carries stands ready.plain fun _ => known

theorem start_carries (stands : w.Stands id b g) (ready : Ready w id run g s r) :
    Carries id b w (r.prepared.program.effect g) (exec (start id run r) w) := by
  unfold start
  split
  · next none_ =>
      rw [exec_bind, exec_get]
      dsimp only
      rw [exec_bind, exec_session]
      exact runProgram_carries stands ready.plain fun needs => absurd none_ needs
  · next needed => exact locks_carries stands ready needed

theorem prepare_stands (stands : w.Stands id b g) {sql : String} (plain : isPlain sql) :
    match exec (prepare id sql.toList) w with
    | (.ok (some run), v) => v.Stands id b g ∧ ∃ s r, Ready v id run g s r ∧
        carryOut g sql = r.prepared.program.effect g
    | (_, v) => v.disk = b.disk := by
  have spec := prepare_cases id sql.toList w
  rcases answer : exec (prepare id sql.toList) w with ⟨fault | _ | run, v⟩ <;> rw [answer] at spec
  · exact spec ▸ stands.disk
  · exact spec ▸ stands.disk
  · obtain ⟨s, found, _⟩ := stands.session
    obtain ⟨t, r, fresh, peaceful⟩ := prepare_fresh found answer
    obtain ⟨rfl, ts, c, p, informed, known, ⟨front, made⟩, rfl⟩ := spec
    have taken :
        (w.change id (Session.takeIn (Run.ready ts p c) informed)).Stands id b g :=
      stands.change fun s here => here.congr rfl
    rw [World.sessionAt_of_found found] at fresh ⊢
    have there : (w.change id (Session.takeIn (Run.ready ts p c) informed)).RunAt id
        s.runs.next _ (Run.ready ts p c) :=
      ⟨World.session?_change_of_found found, (Pool.get?_insert ..).trans (if_pos rfl)⟩
    cases there.session.symm.trans fresh.session
    cases there.found.symm.trans fresh.found
    obtain ⟨form, p', made', same⟩ :
        ((Run.ready ts p c).form = none ∨
          (Run.ready ts p c).form = g.contents.toOption.map Contents.form) ∧
        ∃ p', Program.prepare g.contents ts = .ok p' ∧ p'.program = p.program := by
      rcases schema_cases known with rfl | rfl
      · rw [stands.contents] at made ⊢
        exact ⟨.inr rfl, p, made, rfl⟩
      · exact ⟨.inl rfl, Program.prepare_of_blind made g.contents⟩
    refine ⟨taken, _, Run.ready ts p c, ⟨fresh, prepare_of_isPlain plain front made, peaceful, form,
      p', made', same⟩, ?_⟩
    rw [carryOut, front]
    change (Program.prepare g.contents ts >>= _) = _
    rw [made']
    change p'.program.effect g = _
    rw [same]
    rfl

/-- A statement that failed is not at work. -/
theorem fail_idle (α : Type) (id run : Nat) (w : World) (fault : Fault) :
    (exec (fail id run fault : Action α) w).2.IdleAt id run :=
  settle_staysIdle id run _ (idleAt_of_updateRun id run w (f := Run.still) fun _ => rfl)

/-- A statement that is stepped for the first time is carried out. -/
theorem step_carries (stands : w.Stands id b g) (ready : Ready w id run g s r) :
    Carries id b w (r.prepared.program.effect g) (exec (step id run) w) ∧
      ∀ fault v, exec (step id run) w = (.error fault, v) → v.IdleAt id run := by
  have started := start_carries stands ready
  rcases answer : exec (start id run r) w with ⟨fault | x, v⟩ <;> rw [answer] at started
  · obtain ⟨u, same, failed⟩ := exec_step_of_failed ready.toRunAt ready.idle answer
    have disk : u.disk = b.disk := by
      rcases same with rfl | rfl
      · exact started
      · exact started
    rw [failed]
    refine ⟨disk, fun _ z answer => ?_⟩
    have idle := fail_idle (Option Tuple) id run u fault
    rwa [answer] at idle
  · rw [exec_step_of_started ready.toRunAt ready.idle answer]
    exact ⟨started, nofun⟩

/-- Giving up a statement that is not at work changes no file. -/
theorem disk_finalize_of_idle (idle : w.IdleAt id run) :
    (exec (finalize id run) w).2.disk = w.disk := by
  rw [exec_finalize, exec_reset, halt, exec_bind, exec_run?]
  dsimp only
  cases found : (w.sessionAt id).runs.get? run with
  | none => rfl
  | some r =>
      obtain ⟨s, there⟩ := World.runAt_of_found found
      simp only [Option.map_some, idle s r there.session there.found]
      rfl

/-- Giving up a statement leaves its transaction where it stood. -/
theorem finalize_stands (stands : w.Stands id b g) (run : Nat) :
    (exec (finalize id run) w).2.Stands id b g := by
  rw [exec_finalize]
  exact (reset_keeps id run w b g stands).1.change fun s here => here.congr rfl

/-! ## Rows -/

/-- The next step of a statement leaves its transaction where it stands, and so do all steps
behind it for as long as there are rows. -/
structure World.Gives (w : World) (id run : Nat) (b : Footing) (g : Ground) : Prop where
  stands : w.Stands id b g
  next : (exec (step id run) w).2.Stands id b g
  active : ∀ row v, exec (step id run) w = (.ok (some row), v) → v.ActiveAt id run

theorem gives_of_active (stands : w.Stands id b g) (active : w.ActiveAt id run) :
    w.Gives id run b g := by
  refine ⟨stands, ?_, fun row v answer => ?_⟩
  · obtain ⟨s, r, there, atWork⟩ := active
    unfold step
    rw [exec_bind, there.exec_run?]
    dsimp only
    cases phase : r.phase with
    | idle =>
        rw [phase] at atWork
        cases atWork
    | reading c flow =>
        dsimp only
        split
        · exact (fail_keeps id run w _ b g stands).1
        · exact (advance_keeps id run w c flow b g stands).1
    | giving rows changes => exact (give_keeps id run w changes rows b g stands).1
  · have follows := step_follows active
    rw [answer] at follows
    exact follows.1

/-- A statement that reads, stepped once and set back, gives its rows when it is stepped again. -/
theorem gives_of_reading (stands : w.Stands id b g) (ready : Ready w id run g s r)
    (reads : r.prepared.program.isReading) {x : Option Tuple}
    (stepped : exec (step id run) w = (.ok x, v)) (after : v.Stands id b g) :
    (exec (reset id run) v).2.Gives id run b g := by
  have rests : w.RestsAt id := fun t found => by
    have here := stands.at_
    rw [World.sessionAt_of_found found] at here
    exact here.settle
  have again := step_again rests ready.toFresh reads (ready.peaceful reads) stepped
  refine ⟨(reset_keeps id run v b g after).1, by rwa [again], fun row u answer => ?_⟩
  cases again.symm.trans answer
  exact (ready.first stepped).1

theorem lockFor_keeps (id : Nat) (w : World) (access : Access) :
    Leads (Keeps id) (lockFor id access) w := by
  obtain ⟨f, locked⟩ := lockFor_locks id w access
  rw [Leads, locked]
  exact fun b g stands => ⟨stands.change fun s here => here.congr rfl, fun run =>
    World.stillAt_change fun _ => rfl⟩

/-- A statement that would have to be prepared anew, and cannot be, fails when it is started. -/
theorem start_outdated (stands : w.Stands id b g) (needed : r.prepared.access ≠ .none) (run : Nat)
    {c : Contents} (known : g.contents = .ok c) (outdated : r.form ≠ some c.form)
    (gone : ∀ p, Program.prepare (.ok c) r.tokens ≠ .ok p) :
    ∃ fault v, exec (start id run r) w = (.error fault, v) ∧ v.Stands id b g := by
  have started : exec (start id run r) w = exec
      (do
        lockFor id r.prepared.access
        let c ← contents id
        let p ← refresh id run r c
        lockFor id p.access
        runProgram id run p c) w := by
    unfold start
    split
    · next none_ => exact absurd none_ needed
    · rfl
  rw [started, exec_bind]
  have keeps := lockFor_keeps id w r.prepared.access b g stands
  rcases locked : exec (lockFor id r.prepared.access) w with ⟨fault | _, v⟩ <;> rw [locked] at keeps
  · exact ⟨fault, v, rfl, keeps.1⟩
  · dsimp only
    rw [exec_bind, exec_contents, keeps.1.contents, known]
    dsimp only [refresh]
    rw [if_neg outdated]
    cases made : Program.prepare (.ok c) r.tokens with
    | error fault => exact ⟨fault, v, rfl, keeps.1⟩
    | ok p => exact absurd made (gone p)

/-- A statement that has added a column fails when it is stepped again: the column is there. -/
theorem gives_of_adding (ready : Ready w id run g s r) (adds : r.prepared.program.addsColumn)
    {g' : Ground} (made : r.prepared.program.effect g = .ok g') (after : v.Stands id b g')
    (same : v.stillAt id run = w.stillAt id run) :
    (exec (reset id run) v).2.Gives id run b g' := by
  obtain ⟨stands, still⟩ := reset_keeps id run v b g' after
  obtain ⟨t, q, there, still⟩ := World.runAt_of_stillAt
    ((still run).trans (same.trans ready.toRunAt.stillAt))
  have idle : q.phase = .idle := reset_idle id run v t q there.session there.found
  obtain ⟨tokens, prepared, form⟩ :
      q.tokens = r.tokens ∧ q.prepared = r.prepared ∧ q.form = r.form := by
    simpa [Run.still] using still
  obtain ⟨c, c', known, changed, larger⟩ := Program.form_addsColumn adds made
  have needed : q.prepared.access ≠ .none := by
    rw [prepared]
    refine ready.plain.isData.needs (Program.isReading_of_addsColumn adds) fun nothing => ?_
    rw [nothing] at adds
    cases adds
  have outdated : q.form ≠ some c'.form := by
    rw [form, larger]
    rcases ready.known with none_ | same
    · simp [none_]
    · simp [same, known, Except.toOption]
  have gone (p : Prepared) : Program.prepare (.ok c') q.tokens ≠ .ok p := by
    obtain ⟨p', made', same⟩ := ready.program
    rw [tokens, ← changed]
    exact prepare_addedColumn made' (same ▸ adds) (same ▸ made) p
  obtain ⟨fault, u, failed, here⟩ := start_outdated stands needed run changed outdated gone
  obtain ⟨z, same, stepped⟩ := exec_step_of_failed there idle failed
  have here : z.Stands id b g' := by
    rcases same with rfl | rfl
    · exact here
    · exact here.change fun s here => here.congr rfl
  refine ⟨stands, ?_, fun row x answer => ?_⟩
  · rw [stepped]
    exact (fail_keeps id run z fault b g' here).1
  · cases stepped.symm.trans answer

/-- A plain statement that was stepped successfully and has columns, set back, either gives its rows
when it is stepped again or fails. -/
theorem gives_of_ready (stands : w.Stands id b g) (ready : Ready w id run g s r)
    (columns : r.prepared.outputs ≠ []) {x : Option Tuple}
    (stepped : exec (step id run) w = (.ok x, v)) :
    ∃ g', r.prepared.program.effect g = .ok g' ∧
      (exec (reset id run) v).2.Gives id run b g' := by
  have carried := (step_carries stands ready).1
  rw [stepped] at carried
  obtain ⟨g', made, after, same⟩ := carried
  refine ⟨g', made, ?_⟩
  cases reads : r.prepared.program.isReading with
  | true =>
      cases (Program.effect_of_isReading reads g).symm.trans made
      exact gives_of_reading stands ready reads stepped after
  | false => exact gives_of_adding ready (ready.plain.outputs reads columns) made after (same run)

end Statements

end SqlDriver.Engine
