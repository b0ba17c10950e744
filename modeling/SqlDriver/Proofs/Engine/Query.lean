/-
# SqlDriver.Proofs.Engine.Query -- the rows that a query has yet to give

What a query answers is said without statements, locks and phases: the rows that its flow yields
over the database as its session sees it, and the failure at the end (`World.Answers`).  A
statement that is `Ahead` of such an answer gives it, one step at a time (`World.Ahead.step`), and
gives it from the start when it is set back (`ahead_of_reset`).  Statements that read spare one
another: whatever is done with one of them, what the others have yet to give stays what it is
(`Peeks.spares`).
-/
import SqlDriver.Proofs.Engine.Genuine
import SqlDriver.Proofs.Engine.Standing

namespace SqlDriver.Engine

set_option autoImplicit false

open SqlDriver.Engine.Action

/-! ## Answers of queries -/

/-- The rows that a flow yields over a database, and the failure at the end. -/
inductive Flow.Pulls (c : Contents) : Flow → List Tuple → Option Fault → Prop where
  | done {flow : Flow} (pulled : pull ⟨c, c⟩ [] flow = .ok none) : Pulls c flow [] none
  | failed {flow : Flow} {fault : Fault} (pulled : pull ⟨c, c⟩ [] flow = .error fault) :
      Pulls c flow [] (some fault)
  | row {flow more : Flow} {row : Tuple} {rows : List Tuple} {ending : Option Fault}
      (pulled : pull ⟨c, c⟩ [] flow = .ok (some (row, more))) (rest : Pulls c more rows ending) :
      Pulls c flow (row :: rows) ending

/-- The rows that a flow yields, and the failure at the end, if so many steps reach that. -/
def Flow.pulled (c : Contents) : Nat → Flow → Option (List Tuple × Option Fault)
  | 0, _ => none
  | steps + 1, flow =>
      match pull ⟨c, c⟩ [] flow with
      | .ok none => some ([], none)
      | .error fault => some ([], some fault)
      | .ok (some (row, more)) => (pulled c steps more).map fun all => (row :: all.1, all.2)

/-- Rows that are pulled one after the other are those that the flow yields. -/
theorem Flow.pulls_of_pulled {c : Contents} {steps : Nat} {flow : Flow} {rows : List Tuple}
    {ending : Option Fault} (all : flow.pulled c steps = some (rows, ending)) :
    flow.Pulls c rows ending := by
  induction steps generalizing flow rows with
  | zero => cases all
  | succ steps ih =>
      unfold pulled at all
      split at all
      · next pulled =>
          cases all
          exact .done pulled
      · next pulled =>
          cases all
          exact .failed pulled
      · next pulled =>
          obtain ⟨rest, found, same⟩ := Option.map_eq_some_iff.1 all
          cases same
          exact .row pulled (ih found)

def Program.flow? (c : Contents) : Program → Option Flow
  | query q => some (Flow.ofQuery q)
  | readVersion => some (Flow.given [[.ofInt c.userVersion]])
  | _ => none

theorem isReading_of_flow? {p : Program} {c : Contents} {flow : Flow}
    (reads : p.flow? c = some flow) : p.isReading := by
  cases p <;> first | rfl | cases reads

namespace World

/-- The database as a query of a session sees it; without tables, if it cannot be read. -/
def seen (w : World) (id : Nat) : Contents :=
  (w.contents (w.sessionAt id)).toOption.getD {}

/-- The database of a session can be read, and no other session keeps it back. -/
def Legible (w : World) (id : Nat) : Prop :=
  w.isHeld id (w.sessionAt id).file .pending = false ∧ ∃ c, w.committed (w.sessionAt id) = .ok c

/-- The database can be read, seen as a test. -/
def isLegible (w : World) (id : Nat) : Bool :=
  !w.isHeld id (w.sessionAt id).file .pending && (w.committed (w.sessionAt id)).toOption.isSome

theorem isLegible_iff {w : World} {id : Nat} : w.isLegible id ↔ w.Legible id := by
  unfold isLegible Legible
  cases w.committed (w.sessionAt id) <;> simp [Except.toOption]

/-- What a query answers: its rows, and the failure at the end.  Where the database cannot be
locked for reading, there is that failure alone. -/
inductive Answers (w : World) (id : Nat) (p : Prepared) : List Tuple → Option Fault → Prop where
  | read {flow : Flow} {rows : List Tuple} {ending : Option Fault}
      (legible : p.access ≠ .none → w.Legible id)
      (reads : p.program.flow? (w.seen id) = some flow)
      (pulls : flow.Pulls (w.seen id) rows ending) :
      Answers w id p rows ending
  | refused {fault : Fault} (locked : (exec (lockFor id p.access) w).1 = .error fault) :
      Answers w id p [] (some fault)

theorem Legible.readable {w : World} {id : Nat} (legible : w.Legible id) : w.Readable id :=
  .inr legible

theorem Legible.contents {w : World} {id : Nat} (legible : w.Legible id) :
    w.contents (w.sessionAt id) = .ok (w.seen id) := by
  obtain ⟨_, c, known⟩ := legible
  unfold seen World.contents
  rw [known]
  cases (w.sessionAt id).working <;> rfl

end World

/-! ## Statements that read -/

/-- A statement comes from a text that reads, and hands back no rows of a change. -/
structure Run.IsQuery (r : Run) : Prop where
  reads : r.prepared.program.isReading
  text : isReadingText r.tokens
  phase : ∀ rows changes, r.phase ≠ .giving rows changes

/-- A statement of a session reads. -/
def World.QueryAt (w : World) (id run : Nat) : Prop :=
  ∃ s r, w.RunAt id run s r ∧ r.IsQuery

theorem World.Genuine.queryAt {w : World} {id run : Nat} (genuine : w.Genuine)
    (query : w.isQuery id run) : w.QueryAt id run := by
  obtain ⟨r, ⟨s, found, there⟩, reads⟩ :
      ∃ r, (∃ s, w.session? id = some s ∧ s.runs.get? run = some r) ∧
        r.prepared.program.isReading := by
    simpa [World.isQuery, Option.any_eq_true, Option.bind_eq_some_iff] using query
  have whole := genuine id run s r ⟨found, there⟩
  exact ⟨s, r, ⟨found, there⟩, reads, whole.text.symm.trans reads, whole.phase reads⟩

/-- The session reads by way of a statement: its database and its other statements are what they
were, and it keeps no other session from reading. -/
structure Session.Peeks (run : Nat) (s t : Session) : Prop where
  file : t.file = s.file
  own : t.own = s.own
  working : t.working = s.working
  lock : t.lock.atLeast .pending → s.lock.atLeast .pending
  others : ∀ other, other ≠ run → t.runs.get? other = s.runs.get? other

theorem Session.settle_peeks (s : Session) (run : Nat) : s.Peeks run s.settle := by
  unfold settle
  split
  · exact ⟨rfl, rfl, rfl, id, fun _ _ => rfl⟩
  · refine ⟨rfl, rfl, rfl, fun held => ?_, fun _ _ => rfl⟩
    dsimp only at held
    split at held <;> cases held

/-- A session reads by way of a statement, and nothing else happens. -/
def Peeks (id run : Nat) (w v : World) : Prop :=
  ∃ f : Session → Session, v = w.change id f ∧ ∀ s, w.session? id = some s → s.Peeks run (f s)

instance (run : Nat) : Std.Refl (Session.Peeks run) where
  refl _ := ⟨rfl, rfl, rfl, id, fun _ _ => rfl⟩

instance (run : Nat) : IsTrans Session (Session.Peeks run) where
  trans _ _ _ first second :=
    ⟨second.file.trans first.file, second.own.trans first.own,
      second.working.trans first.working, first.lock ∘ second.lock,
      fun other away => (second.others other away).trans (first.others other away)⟩

instance (id run : Nat) : Std.Refl (Peeks id run) where
  refl w := ⟨fun s => s, (w.change_self id).symm, fun s _ => Std.Refl.refl s⟩

instance (id run : Nat) : IsTrans World (Peeks id run) where
  trans := by
    rintro w _ _ ⟨f, rfl, first⟩ ⟨g, rfl, second⟩
    exact ⟨g ∘ f, w.change_change id f g, fun s found =>
      IsTrans.trans _ _ _ (first s found) (second _ (World.session?_change_of_found found))⟩

theorem changeRun_peeks (id run : Nat) (w : World) (f : Run → Run) :
    Peeks id run w (w.change id (Session.changeRun run f)) :=
  ⟨_, rfl, fun _ _ => ⟨rfl, rfl, rfl, fun held => held, fun _ away =>
    (Pool.get?_modify ..).trans (if_neg away)⟩⟩

/-- A statement that reads does so by way of itself alone, and goes on to be one that reads. -/
def Looks (id run : Nat) (w v : World) : Prop :=
  w.QueryAt id run → v.QueryAt id run ∧ Peeks id run w v

instance (id run : Nat) : Std.Refl (Looks id run) where
  refl w query := ⟨query, Std.Refl.refl w⟩

instance (id run : Nat) : IsTrans World (Looks id run) where
  trans _ _ _ first second query :=
    let ⟨between, peeks⟩ := first query
    let ⟨after, peeks'⟩ := second between
    ⟨after, IsTrans.trans _ _ _ peeks peeks'⟩

section Looking

variable (id run : Nat) (w : World)

/-- A session takes or gives up a lock. -/
theorem update_looks {f : Session → Session} (peeks : ∀ s : Session, s.Peeks run (f s))
    (runs : ∀ s, (f s).runs = s.runs) : Leads (Looks id run) (update id f) w := by
  rintro ⟨s, r, there, query⟩
  exact ⟨⟨f s, r, there.change (runs s), query⟩, f, rfl, fun s _ => peeks s⟩

theorem updateRun_looks {f : Run → Run} (query : ∀ r, r.IsQuery → (f r).IsQuery) :
    Leads (Looks id run) (updateRun id run f) w := by
  rintro ⟨s, r, there, reads⟩
  exact ⟨⟨_, f r, there.changeRun f, query r reads⟩, changeRun_peeks id run w f⟩

theorem settle_looks : Leads (Looks id run) (settle id) w :=
  update_looks id run w (fun s => s.settle_peeks run) Session.runs_settle

theorem lock_looks {lock : Lock} (low : lock.atLeast .pending = false) :
    Leads (Looks id run) (update id fun s => { s with lock }) w :=
  update_looks id run w
    (fun _ => ⟨rfl, rfl, rfl, fun held => absurd (low.symm.trans held) nofun, fun _ _ => rfl⟩)
    fun _ => rfl

theorem lockShared_looks : Leads (Looks id run) (lockShared id) w := by
  refine .session_bind ?_
  split
  · refine .get_bind ?_
    extract_lets locked
    have locks : Leads (Looks id run) (locked ()) w := by
      refine .bind (a := ofOutcome _) ?_ fun _ w _ => lock_looks id run w rfl
      rw [Leads, exec_ofOutcome]
      exact Std.Refl.refl w
    split
    · exact .throw_bind ..
    · exact locks
  · exact .pure _

theorem lockReserved_looks : Leads (Looks id run) (lockReserved id) w := by
  refine .session_bind ?_
  extract_lets _ locked
  have locks (w : World) : Leads (Looks id run) (locked ()) w := by
    refine .bind (lockShared_looks id run w) fun _ w _ => .session_bind ?_
    split
    · refine .get_bind ?_
      split
      · exact .throw_bind ..
      · exact lock_looks id run w rfl
    · exact .pure _
  split
  · exact .throw_bind ..
  · exact locks w

theorem lockFor_looks (access : Access) : Leads (Looks id run) (lockFor id access) w := by
  cases access with
  | none => exact .pure _
  | read => exact lockShared_looks id run w
  | write => exact lockReserved_looks id run w

theorem still_isQuery {r : Run} (query : r.IsQuery) : r.still.IsQuery :=
  ⟨query.reads, query.text, nofun⟩

theorem fail_looks {α : Type} (fault : Fault) :
    Leads (Looks id run) (fail id run fault : Action α) w :=
  .bind (updateRun_looks id run w fun _ => still_isQuery) fun _ w _ =>
    .bind (settle_looks id run w) fun _ _ _ => .throw _

theorem halt_looks : Leads (Looks id run) (halt id run) w := by
  intro query
  obtain ⟨s, r, there, reads⟩ := query
  have settles (w : World) : Leads (Looks id run) (settle id) w := settle_looks id run w
  unfold halt
  rw [exec_bind, there.exec_run?]
  cases phase : r.phase with
  | idle =>
      simp only [Option.map_some, phase]
      exact settles w ⟨s, r, there, reads⟩
  | reading c flow =>
      simp only [Option.map_some, phase]
      exact Leads.bind (updateRun_looks id run w fun _ => still_isQuery) (fun _ w _ => settles w)
        ⟨s, r, there, reads⟩
  | giving rows changes => exact absurd phase (reads.phase rows changes)

theorem advance_looks (c : Contents) (flow : Flow) :
    Leads (Looks id run) (advance id run c flow) w := by
  refine .get_bind (.session_bind ?_)
  extract_lets now
  split
  · exact fail_looks id run w _
  · exact .bind (halt_looks id run w) fun _ _ _ => .pure _
  · exact .bind (updateRun_looks id run w fun _ query => ⟨query.reads, query.text, nofun⟩)
      fun _ _ _ => .pure _

theorem runProgram_looks {p : Prepared} (reads : p.program.isReading) (c : Contents) :
    Leads (Looks id run) (runProgram id run p c) w := by
  obtain ⟨flow, same⟩ := runProgram_of_isReading reads id run c
  rw [same]
  exact .bind (updateRun_looks id run w fun _ query => ⟨query.reads, query.text, nofun⟩)
    fun _ w _ => advance_looks id run w c flow

/-- A statement that reads is made ready anew to read. -/
theorem refresh_reads {r : Run} (query : r.IsQuery) (c : Contents) :
    Leads (Looks id run) (refresh id run r c) w ∧
      Ensures (fun p _ => p.program.isReading) (refresh id run r c) w := by
  unfold refresh
  by_cases fresh : r.form = some c.form
  · rw [if_pos fresh]
    exact ⟨.pure _, .pure query.reads⟩
  rw [if_neg fresh]
  cases made : Program.prepare (.ok c) r.tokens with
  | error fault => exact ⟨.throw _, .throw _⟩
  | ok p =>
      have reads : p.program.isReading := (prepare_isReading made).trans query.text
      exact ⟨.bind (.pure p) fun _ w answer => by
        cases answer
        exact .bind (updateRun_looks id run w fun _ old => ⟨reads, old.text, old.phase⟩)
          fun _ w _ =>
          .bind (settle_looks id run w) fun _ _ _ => .pure _,
        .bind fun _ w answer => by
          cases answer
          exact .bind fun _ _ _ => .bind fun _ _ _ => .pure reads⟩

theorem start_looks {r : Run} (query : r.IsQuery) : Leads (Looks id run) (start id run r) w := by
  have ready (access : Access) : Leads (Looks id run)
      (do
        lockFor id access
        let c ← contents id
        let p ← refresh id run r c
        lockFor id p.access
        runProgram id run p c) w := by
    refine .bind (lockFor_looks id run w access) fun _ w _ =>
      .bind (a := contents id) ?_ fun c w _ =>
      .bind (refresh_reads id run w query c).1 fun p v refreshed =>
        .bind (lockFor_looks id run v p.access) fun _ v _ =>
          runProgram_looks id run v ((refresh_reads id run w query c).2 p _ refreshed) c
    rw [Leads, exec_contents]
    exact Std.Refl.refl w
  unfold start
  split
  · exact .get_bind (.session_bind (runProgram_looks id run w query.reads _))
  · exact ready _

theorem step_looks : Leads (Looks id run) (step id run) w := by
  intro query
  obtain ⟨s, r, there, reads⟩ := query
  unfold step
  rw [exec_bind, there.exec_run?]
  dsimp only
  cases phase : r.phase with
  | idle =>
      refine Leads.tryCatch (r := Looks id run) (.tryCatch (start_looks id run w reads)
        fun fault w _ => ?_) (fun fault w _ => fail_looks id run w fault) ⟨s, r, there, reads⟩
      cases program : r.prepared.program with
      | mutate m =>
          have reads := reads.reads
          rw [program] at reads
          cases reads
      | _ => exact .throw _
  | reading c flow =>
      dsimp only
      split
      · exact fail_looks id run w rolledBack ⟨s, r, there, reads⟩
      · exact advance_looks id run w c flow ⟨s, r, there, reads⟩
  | giving rows changes => exact absurd phase (reads.phase rows changes)

theorem reset_looks : Leads (Looks id run) (reset id run) w :=
  .tryCatch (halt_looks id run w) fun _ _ _ => .pure _

theorem finalize_peeks (query : w.QueryAt id run) :
    Peeks id run w (exec (finalize id run) w).2 := by
  rw [exec_finalize]
  refine IsTrans.trans _ _ _ (reset_looks id run w query).2 ⟨_, rfl, fun s _ => ?_⟩
  exact ⟨rfl, rfl, rfl, fun held => held, fun other away =>
    (Pool.get?_erase ..).trans (if_neg away)⟩

/-- Making a statement ready that reads. -/
theorem prepare_peeks {sql : List Char} {ts : List Token}
    (front : Program.front sql = .ok (some ts)) (reads : isReadingText ts) {v : World}
    (prepared : exec (prepare id sql) w = (.ok (some run), v)) :
    Peeks id run w v ∧ ((w.session? id).isSome → v.QueryAt id run) := by
  have spec := prepare_cases id sql w
  rw [prepared] at spec
  obtain ⟨rfl, ts', c, p, informed, _, ⟨front', made⟩, rfl⟩ := spec
  cases front.symm.trans front'
  have peeks : Peeks id (w.sessionAt id).runs.next w
      (w.change id (Session.takeIn (Run.ready ts p c) informed)) := by
    refine ⟨_, rfl, fun s found => ⟨rfl, rfl, rfl, fun held => held, fun other away => ?_⟩⟩
    rw [World.sessionAt_of_found found] at away
    exact (Pool.get?_insert ..).trans (if_neg away)
  refine ⟨peeks, fun there => ?_⟩
  obtain ⟨s, found⟩ := Option.isSome_iff_exists.1 there
  rw [World.sessionAt_of_found found]
  exact ⟨_, Run.ready ts p c, ⟨World.session?_change_of_found found,
    (Pool.get?_insert ..).trans (if_pos rfl)⟩, (prepare_isReading made).trans reads, reads, nofun⟩

end Looking

/-! ## What is spared -/

/-- A statement and the database that it reads are left alone, and no other session begins to keep
it from reading. -/
structure Spares (id run : Nat) (w v : World) : Prop where
  runAt : ∀ s r, w.RunAt id run s r → ∃ t, v.RunAt id run t r
  contents : v.contents (v.sessionAt id) = w.contents (w.sessionAt id)
  legible : w.Legible id → v.Legible id

instance (id run : Nat) : Std.Refl (Spares id run) where
  refl _ := ⟨fun s _ there => ⟨s, there⟩, rfl, fun legible => legible⟩

instance (id run : Nat) : IsTrans World (Spares id run) where
  trans _ _ _ first second :=
    ⟨fun s r there =>
      let ⟨t, there⟩ := first.runAt s r there
      second.runAt t r there,
      second.contents.trans first.contents, second.legible ∘ first.legible⟩

/-- A file is held if another session has a lock on it that is firm enough. -/
theorem isHeld_iff {w : World} {id : Nat} {file : Option String} {lock : Lock} :
    w.isHeld id file lock ↔ file.isSome ∧
      ∃ other s, w.session? other = some s ∧ other ≠ id ∧ s.file = file ∧ s.lock.atLeast lock := by
  simp [World.isHeld, World.session?, Pool.get?_eq_some_iff, and_assoc]

section Spared

variable {id run : Nat} {w v : World}

theorem Spares.seen (spares : Spares id run w v) : v.seen id = w.seen id :=
  congrArg (fun o : Outcome Contents => o.toOption.getD {}) spares.contents

/-- The database of a session is a matter of the files and of a few of its parts. -/
theorem spares_of_same (runAt : ∀ s r, w.RunAt id run s r → ∃ t, v.RunAt id run t r)
    (disk : v.disk = w.disk)
    (same : ((v.sessionAt id).file, (v.sessionAt id).own, (v.sessionAt id).working) =
      ((w.sessionAt id).file, (w.sessionAt id).own, (w.sessionAt id).working))
    (held : ∀ file, v.isHeld id file .pending → w.isHeld id file .pending) : Spares id run w v := by
  simp only [Prod.mk.injEq] at same
  obtain ⟨file, own, working⟩ := same
  have committed : v.committed (v.sessionAt id) = w.committed (w.sessionAt id) := by
    unfold World.committed
    rw [file, own, disk]
  refine ⟨runAt, ?_, fun ⟨free, known⟩ => ⟨?_, committed ▸ known⟩⟩
  · unfold World.contents
    rw [working, committed]
  · rw [file]
    exact Bool.eq_false_iff.2 fun busy => Bool.eq_false_iff.1 free (held _ busy)

/-- Reading by way of a statement spares every statement that is still there as it was. -/
theorem Peeks.spares_of_runAt {other statement : Nat} (peeks : Peeks other statement w v)
    (runAt : ∀ s r, w.RunAt id run s r → ∃ t, v.RunAt id run t r) : Spares id run w v := by
  obtain ⟨f, rfl, peeks⟩ := peeks
  refine spares_of_same runAt rfl ?_ fun file held => ?_
  · by_cases here : id = other
    · subst here
      cases found : w.session? id with
      | none => simp [World.sessionAt, World.session?_change, found]
      | some s =>
          rw [World.sessionAt_of_found (World.session?_change_of_found found),
            World.sessionAt_of_found found, (peeks s found).file, (peeks s found).own,
            (peeks s found).working]
    · rw [World.sessionAt, elsewhere_change w f here, World.sessionAt]
  · obtain ⟨some_, third, t, there, away, same, lock⟩ := isHeld_iff.1 held
    rw [World.session?_change] at there
    split at there
    · next here =>
        subst here
        obtain ⟨s, found, rfl⟩ := Option.map_eq_some_iff.1 there
        exact isHeld_iff.2 ⟨some_, third, s, found, away, (peeks s found).file ▸ same,
          (peeks s found).lock lock⟩
    · exact isHeld_iff.2 ⟨some_, third, t, there, away, same, lock⟩

/-- Reading by way of one statement spares the others. -/
theorem Peeks.spares {other statement : Nat} (peeks : Peeks other statement w v)
    (away : (other, statement) ≠ (id, run)) : Spares id run w v := by
  refine peeks.spares_of_runAt fun s r there => ?_
  obtain ⟨f, rfl, peeks⟩ := peeks
  by_cases here : id = other
  · subst here
    have differs : run ≠ statement := fun same => away (by rw [same])
    exact ⟨f s, World.session?_change_of_found there.session,
      ((peeks s there.session).others run differs).trans there.found⟩
  · exact ⟨s, (elsewhere_change w f here).trans there.session, there.found⟩

/-- Taking or giving up a lock spares all statements. -/
theorem spares_of_runs {f : Session → Session} (peeks : ∀ s : Session, s.Peeks run (f s))
    (runs : ∀ s, (f s).runs = s.runs) : Spares id run w (w.change id f) :=
  Peeks.spares_of_runAt ⟨f, rfl, fun s _ => peeks s⟩ fun s _ there => ⟨f s, there.change (runs s)⟩

/-- Another session is closed. -/
theorem disconnect_spares {other : Nat} (away : other ≠ id) :
    Spares id run w (exec (disconnect other) w).2 := by
  have same : (exec (disconnect other) w).2.session? id = w.session? id :=
    (session?_disconnect ..).trans (if_neg (Ne.symm away))
  have at_ : (exec (disconnect other) w).2.sessionAt id = w.sessionAt id := by
    rw [World.sessionAt, same, World.sessionAt]
  refine spares_of_same (fun s r there => ⟨s, same.trans there.session, there.found⟩) rfl
    (by rw [at_]) fun file held => ?_
  obtain ⟨some_, third, t, there, away, facts⟩ := isHeld_iff.1 held
  rw [session?_disconnect] at there
  split at there
  · cases there
  · exact isHeld_iff.2 ⟨some_, third, t, there, away, facts⟩

end Spared

/-! ## What is yet to come -/

/-- The next row of what is yet to come, or the end of it. -/
def nextOf : List Tuple → Option Fault → Except Fault (Option Tuple)
  | row :: _, _ => .ok (some row)
  | [], some fault => .error fault
  | [], none => .ok none

theorem of_nextOf_error {rows : List Tuple} {ending : Option Fault} {fault : Fault}
    (fails : nextOf rows ending = .error fault) : rows = [] ∧ ending = some fault := by
  cases rows with
  | cons row rest => cases fails
  | nil =>
      cases ending with
      | none => cases fails
      | some other =>
          cases fails
          exact ⟨rfl, rfl⟩

/-- A statement has yet to give rows, and to fail behind them or not.  If it is at work, it is in
the midst of its flow; else it is fresh, and its flow is the one that it will begin with. -/
inductive World.Ahead (w : World) (id run : Nat) (rows : List Tuple) (ending : Option Fault) :
    Prop where
  | idle {s : Session} {r : Run} {flow : Flow} (there : w.RunAt id run s r) (still : r.still = r)
      (fits : r.prepared.access = .none ∨
        r.prepared.access = .read ∧ w.Legible id ∧ r.form = some (w.seen id).form)
      (reads : r.prepared.program.flow? (w.seen id) = some flow)
      (pulls : flow.Pulls (w.seen id) rows ending)
  | reading {s : Session} {r : Run} {flow : Flow} (there : w.RunAt id run s r)
      (phase : r.phase = .reading (w.seen id) flow) (whole : r.cutOff = false)
      (pulls : flow.Pulls (w.seen id) rows ending)

section Ahead

variable {id run : Nat} {w v : World} {s : Session} {r : Run} {rows : List Tuple}
  {ending : Option Fault}

theorem World.Ahead.of_spares (ahead : w.Ahead id run rows ending) (spares : Spares id run w v) :
    v.Ahead id run rows ending := by
  have seen := spares.seen
  cases ahead with
  | idle there still fits reads pulls =>
      obtain ⟨t, there⟩ := spares.runAt _ _ there
      refine .idle there still (fits.imp_right fun ⟨access, legible, form⟩ =>
        ⟨access, spares.legible legible, seen ▸ form⟩) (seen ▸ reads) (seen ▸ pulls)
  | reading there phase whole pulls =>
      obtain ⟨t, there⟩ := spares.runAt _ _ there
      exact .reading there (seen ▸ phase) whole (seen ▸ pulls)

theorem seen_changeRun (w : World) (id run : Nat) (f : Run → Run) :
    (w.change id (Session.changeRun run f)).seen id = w.seen id := by
  have contents : (w.change id (Session.changeRun run f)).contents
      ((w.change id (Session.changeRun run f)).sessionAt id) = w.contents (w.sessionAt id) := by
    cases found : w.session? id with
    | none => simp [World.sessionAt, World.session?_change, found, World.contents, World.committed]
    | some s =>
        rw [World.sessionAt_of_found (World.session?_change_of_found found),
          World.sessionAt_of_found found]
        rfl
  exact congrArg (fun o : Outcome Contents => o.toOption.getD {}) contents

/-- A statement at work gives the next row of its flow. -/
theorem advance_ahead {flow : Flow} (there : w.RunAt id run s r)
    (phase : r.phase = .reading (w.seen id) flow) (whole : r.cutOff = false)
    (pulls : flow.Pulls (w.seen id) rows ending) :
    (exec (advance id run (w.seen id) flow) w).1 = nextOf rows ending ∧
      ∀ row rest, rows = row :: rest →
        (exec (advance id run (w.seen id) flow) w).2.Ahead id run rest ending := by
  have now : (w.contents (w.sessionAt id)).toOption.getD (w.seen id) = w.seen id := by
    unfold World.seen
    cases (w.contents (w.sessionAt id)).toOption <;> rfl
  unfold advance
  rw [exec_bind, exec_get]
  dsimp only
  rw [exec_bind, exec_session]
  dsimp only
  rw [now]
  cases pulls with
  | done pulled =>
      rw [pulled]
      dsimp only
      rw [exec_bind, exec_halt_of_reading there phase]
      exact ⟨rfl, nofun⟩
  | failed pulled =>
      rw [pulled]
      exact ⟨rfl, nofun⟩
  | @row _ more _ _ _ pulled rest =>
      rw [pulled]
      refine ⟨rfl, fun row' rest' same => ?_⟩
      cases same
      let f : Run → Run := fun r => { r with phase := .reading (w.seen id) more }
      have seen := seen_changeRun w id run f
      exact .reading (there.changeRun f) (seen.symm ▸ rfl) whole (seen.symm ▸ rest)

/-- A fresh statement that can be read begins with its flow. -/
theorem exec_start_of_fits (there : w.RunAt id run s r)
    (fits : r.prepared.access = .none ∨
      r.prepared.access = .read ∧ w.Legible id ∧ r.form = some (w.seen id).form) :
    exec (start id run r) w = exec (runProgram id run r.prepared (w.seen id))
      (w.change id (Session.take r.prepared.access)) := by
  unfold start
  rcases fits with none_ | ⟨read, legible, form⟩
  · simp only [none_]
    rw [exec_bind, exec_get]
    dsimp only
    rw [exec_bind, exec_session, World.change_eq_self fun s _ => s.take_none]
    rfl
  · simp only [read]
    rw [exec_bind, lockFor, exec_lockShared_of_readable id w legible.readable]
    dsimp only
    rw [exec_bind, exec_contents, contents_take there.session,
      ← World.sessionAt_of_found there.session,
      legible.contents]
    dsimp only [refresh]
    rw [if_pos form, exec_bind, exec_pure]
    dsimp only
    have held : (w.change id (Session.take .read)).Readable id := by
      refine .inl ?_
      rw [World.sessionAt_of_found (World.session?_change_of_found there.session)]
      exact Lock.atLeast_max s.lock .shared
    rw [read, exec_bind, lockFor, exec_lockShared_of_readable id _ held, take_take]

theorem take_peeks (s : Session) (run : Nat) {access : Access} :
    s.Peeks run (s.take access) := by
  refine ⟨rfl, rfl, rfl, fun held => ?_, fun _ _ => rfl⟩
  change (s.lock.max access.lock).atLeast .pending = true at held
  cases lock : s.lock <;> cases access <;> rw [lock] at held <;>
    first | rfl | exact absurd held (by decide)

/-- A program that reads begins with its flow. -/
theorem runProgram_of_flow {p : Prepared} {c : Contents} {flow : Flow}
    (reads : p.program.flow? c = some flow) (id run : Nat) :
    runProgram id run p c =
      (do
        updateRun id run fun r => { r with phase := .reading c flow }
        advance id run c flow) := by
  unfold runProgram
  cases program : p.program <;> rw [program] at reads <;> cases reads <;> rfl

/-- What is answered by stepping a statement that is not at work. -/
theorem step_of_start (there : w.RunAt id run s r) (idle : r.phase = .idle) :
    (exec (step id run) w).1 = (exec (start id run r) w).1 ∧
      ∀ x, (exec (start id run r) w).1 = .ok x →
        exec (step id run) w = exec (start id run r) w := by
  rcases started : exec (start id run r) w with ⟨fault | x, v⟩
  · obtain ⟨u, _, same⟩ := exec_step_of_failed there idle started
    rw [same]
    exact ⟨rfl, fun _ started => by cases started⟩
  · rw [exec_step_of_started there idle started]
    exact ⟨rfl, fun _ _ => rfl⟩

/-- A statement gives what it has yet to give, one step at a time. -/
theorem World.Ahead.step (ahead : w.Ahead id run rows ending) :
    (exec (step id run) w).1 = nextOf rows ending ∧
      ∀ row rest, rows = row :: rest → (exec (step id run) w).2.Ahead id run rest ending := by
  cases ahead with
  | @idle s r flow there still fits reads pulls =>
      have taken : Spares id run w (w.change id (Session.take r.prepared.access)) :=
        spares_of_runs (fun s => take_peeks s run) fun _ => rfl
      let f : Run → Run := fun r => { r with phase := .reading (w.seen id) flow }
      let u := (w.change id (Session.take r.prepared.access)).change id (Session.changeRun run f)
      have seen : u.seen id = w.seen id := (seen_changeRun ..).trans taken.seen
      have started : exec (start id run r) w = exec (advance id run (w.seen id) flow) u := by
        rw [exec_start_of_fits there fits, runProgram_of_flow reads, exec_bind, exec_updateRun]
      have goes : u.RunAt id run _ (f r) := (there.change rfl).changeRun f
      have whole : (f r).cutOff = false := congrArg Run.cutOff still.symm
      have next := advance_ahead goes (seen.symm ▸ rfl) whole (seen.symm ▸ pulls)
      rw [seen, ← started] at next
      obtain ⟨answer, leads⟩ := step_of_start there (congrArg Run.phase still.symm)
      refine ⟨answer.trans next.1, fun row rest same => ?_⟩
      subst same
      rw [leads (some row) next.1]
      exact next.2 row rest rfl
  | @reading s r flow there phase whole pulls =>
      have stepped : exec (Action.step id run) w = exec (advance id run (w.seen id) flow) w := by
        unfold Action.step
        rw [exec_bind, there.exec_run?]
        simp only [phase, whole, Bool.false_eq_true, if_false]
      rw [stepped]
      exact advance_ahead there phase whole pulls

end Ahead

/-! ## Looking ahead -/

section LookAhead

variable {id run : Nat} {w : World} {s : Session} {r : Run} {rows : List Tuple}
  {ending : Option Fault}

theorem stillAt_changeRun (w : World) (id run : Nat) {f : Run → Run}
    (same : ∀ r, (f r).still = r.still) :
    (w.change id (Session.changeRun run f)).stillAt id run = w.stillAt id run :=
  World.stillAt_change fun _ => still_changeRun same run run

theorem stillAt_settle (w : World) (id run : Nat) :
    (w.change id Session.settle).stillAt id run = w.stillAt id run :=
  World.stillAt_change fun s => by rw [s.runs_settle]

/-- A row that is yielded, or the end of the rows, leaves the statement as it was prepared. -/
theorem advance_stillAt {c c' : Contents} {flow flow' : Flow} (there : w.RunAt id run s r)
    (phase : r.phase = .reading c' flow') :
    (exec (advance id run c flow) w).2.stillAt id run = w.stillAt id run := by
  have stilled : ((w.change id (Session.changeRun run Run.still)).change id
      Session.settle).stillAt id run = w.stillAt id run :=
    (stillAt_settle ..).trans (stillAt_changeRun w id run fun _ => rfl)
  unfold advance
  rw [exec_bind, exec_get]
  dsimp only
  rw [exec_bind, exec_session]
  dsimp only
  split
  · exact stilled
  · rw [exec_bind, exec_halt_of_reading there phase]
    exact stilled
  · exact stillAt_changeRun w id run fun _ => rfl

/-- Stepping a fresh statement and setting it back leaves ahead what was ahead before. -/
theorem look_ahead {flow : Flow} (there : w.RunAt id run s r) (still : r.still = r)
    (fits : r.prepared.access = .none ∨
      r.prepared.access = .read ∧ w.Legible id ∧ r.form = some (w.seen id).form)
    (reads : r.prepared.program.flow? (w.seen id) = some flow)
    (pulls : flow.Pulls (w.seen id) rows ending) {x : Option Tuple}
    (stepped : (exec (step id run) w).1 = .ok x) :
    (exec (step id run) w).2.stillAt id run = some r ∧
      (exec (reset id run) (exec (step id run) w).2).2.Ahead id run rows ending := by
  have isReading : r.prepared.program.isReading := isReading_of_flow? reads
  have taken := there.change (f := Session.take r.prepared.access) rfl
  obtain ⟨answer, leads⟩ := step_of_start there (congrArg Run.phase still.symm)
  rw [leads x (answer.symm.trans stepped)]
  have started := answer.symm.trans stepped
  rw [exec_start_of_fits there fits] at started ⊢
  constructor
  · let f : Run → Run := fun r => { r with phase := .reading (w.seen id) flow }
    rw [runProgram_of_flow reads, exec_bind, exec_updateRun]
    dsimp only
    rw [advance_stillAt (taken.changeRun f) rfl]
    refine (stillAt_changeRun (f := f) _ id run fun _ => rfl).trans ?_
    rw [taken.stillAt, still]
  · rw [reset_of_reading taken still isReading (Prod.ext started rfl)]
    refine (World.Ahead.idle there still fits reads pulls).of_spares ?_
    exact IsTrans.trans _ _ _ (spares_of_runs (fun s => take_peeks s run) fun _ => rfl)
      (spares_of_runs (fun s => s.settle_peeks run) Session.runs_settle)

/-- A session gets its lock to read if it has it, or if none is about to commit and its file is a
database. -/
theorem lockShared_answer (id : Nat) (w : World) :
    (exec (lockShared id) w).1 =
      if (w.sessionAt id).lock.atLeast .shared then .ok ()
      else if w.isHeld id (w.sessionAt id).file .pending then .error busy
      else (w.committed (w.sessionAt id)).map fun _ => () := by
  unfold lockShared
  rw [exec_bind, exec_session]
  dsimp only
  by_cases held : (w.sessionAt id).lock.atLeast .shared
  · rw [if_pos held, if_neg (by simpa using held)]
    rfl
  · rw [if_neg held, if_pos (by simpa using held), exec_bind, exec_get]
    dsimp only
    by_cases waiting : w.isHeld id (w.sessionAt id).file .pending
    · rw [if_pos waiting, if_pos waiting]
      rfl
    · rw [if_neg waiting, if_neg waiting, exec_bind, exec_ofOutcome]
      cases w.committed (w.sessionAt id) <;> rfl

/-- Taking in a statement changes nothing about locks. -/
theorem lockFor_takeIn (found : w.session? id = some s) (new : Run) (informed : Bool)
    (access : Access) (read : access ≠ .write) :
    (exec (lockFor id access) (w.change id (Session.takeIn new informed))).1 =
      (exec (lockFor id access) w).1 := by
  cases access with
  | none => rfl
  | read =>
      dsimp only [lockFor]
      rw [lockShared_answer, lockShared_answer, World.sessionAt_of_found found,
        World.sessionAt_of_found (World.session?_change_of_found found), isHeld_change]
      rfl
  | write => exact absurd rfl read

/-- A statement that binds is prepared, and its session has looked up the tables. -/
theorem exec_prepare_of_made {sql : List Char} {ts : List Token} {c : Outcome Contents}
    {p : Prepared} (known : exec (schema id) w = (.ok c, w))
    (front : Program.front sql = .ok (some ts))
    (made : Program.prepare c ts = .ok p) :
    ∃ informed, exec (prepare id sql) w = (.ok (some (w.sessionAt id).runs.next),
      w.change id (Session.takeIn (Run.ready ts p c) informed)) := by
  have spec := prepare_cases id sql w
  have succeeds : ∃ run v, exec (prepare id sql) w = (.ok (some run), v) := by
    unfold prepare
    rw [front, exec_bind, exec_ofOutcome]
    dsimp only
    rw [exec_bind, known]
    dsimp only
    rw [exec_bind, exec_ofOutcome, made]
    dsimp only
    split <;> exact ⟨_, _, rfl⟩
  obtain ⟨run, v, prepared⟩ := succeeds
  rw [prepared] at spec ⊢
  obtain ⟨rfl, ts', c', p', informed, known', ⟨front', made'⟩, rfl⟩ := spec
  cases front.symm.trans front'
  cases known.symm.trans known'
  cases made.symm.trans made'
  exact ⟨informed, rfl⟩

/-- A statement that does not bind is refused, and nothing has changed. -/
theorem exec_prepare_of_failed {sql : List Char} {ts : List Token} {c : Outcome Contents}
    {fault : Fault} (known : exec (schema id) w = (.ok c, w))
    (front : Program.front sql = .ok (some ts))
    (failed : Program.prepare c ts = .error fault) :
    exec (prepare id sql) w = (.error fault, w) := by
  unfold prepare
  rw [front, exec_bind, exec_ofOutcome]
  dsimp only
  rw [exec_bind, known]
  dsimp only
  rw [exec_bind, exec_ofOutcome, failed]

/-- A text that reads is made ready, and its first step shows the first row that is ahead, or the
end.  Set back after it, the statement has all of its answer ahead. -/
theorem World.Answers.first {sql : List Char} {ts : List Token} {c : Outcome Contents}
    {p : Prepared} (answers : w.Answers id p rows ending) (found : w.session? id = some s)
    (known : exec (schema id) w = (.ok c, w))
    (front : Program.front sql = .ok (some ts)) (made : Program.prepare c ts = .ok p)
    (reads : isReadingText ts) :
    ∃ run ready, exec (prepare id sql) w = (.ok (some run), ready) ∧
      (exec (step id run) ready).1 = nextOf rows ending ∧
      ∀ x, nextOf rows ending = .ok x →
        (exec (step id run) ready).2.stillAt id run = some (Run.ready ts p c) ∧
          (exec (reset id run) (exec (step id run) ready).2).2.Ahead id run rows ending := by
  obtain ⟨informed, prepared⟩ := exec_prepare_of_made known front made
  rw [World.sessionAt_of_found found] at prepared
  refine ⟨_, _, prepared, ?_⟩
  let ready := w.change id (Session.takeIn (Run.ready ts p c) informed)
  have there : ready.RunAt id s.runs.next _ (Run.ready ts p c) :=
    ⟨World.session?_change_of_found found, (Pool.get?_insert ..).trans (if_pos rfl)⟩
  have isReading : p.program.isReading := (prepare_isReading made).trans reads
  have peaceful : p.access ≠ .write := prepare_isPeaceful made isReading
  cases answers with
  | @read flow _ _ legible begins pulls =>
      have spares : Spares id s.runs.next w ready := by
        have peeks := (prepare_peeks id s.runs.next w front reads prepared).1
        refine peeks.spares_of_runAt fun t r there => ?_
        cases found.symm.trans there.session
        cases there.found.symm.trans (Pool.get?_next _)
      have fits : p.access = .none ∨
          p.access = .read ∧ ready.Legible id ∧
            (Run.ready ts p c).form = some (ready.seen id).form := by
        cases access : p.access with
        | none => exact .inl rfl
        | read =>
            have legible := legible (by rw [access]; nofun)
            refine .inr ⟨rfl, spares.legible legible, ?_⟩
            rw [spares.seen, Run.ready, schema_of_readable known legible.readable,
              legible.contents]
            rfl
        | write => exact absurd access peaceful
      rw [← spares.seen] at begins pulls
      refine ⟨(World.Ahead.idle there rfl fits begins pulls).step.1, fun x first => ?_⟩
      exact look_ahead there rfl fits begins pulls
        ((World.Ahead.idle there rfl fits begins pulls).step.1.trans first)
  | @refused fault locked =>
      refine ⟨(step_of_start there rfl).1.trans ?_, nofun⟩
      rw [← lockFor_takeIn found (Run.ready ts p c) informed p.access peaceful] at locked
      cases access : p.access with
      | none =>
          rw [access] at locked
          cases locked
      | read =>
          rw [access] at locked
          unfold start
          simp only [Run.ready, access]
          rw [exec_bind]
          rcases answer : exec (lockFor id .read) ready with ⟨fault' | _, v⟩ <;>
            rw [answer] at locked <;> cases locked
          rfl
      | write => exact absurd access peaceful

end LookAhead

end SqlDriver.Engine
