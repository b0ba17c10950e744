/-
# SqlDriver.Proofs.Engine.Copies -- what is committed, and what is made of it

A session is seen as two copies of its database: as it was committed last, and as the session
sees it (`Copies`).  Its statements make something of the copy that is worked on; a commit makes
the other one like it (`commit_bears`), and an undo goes back to the other one (`undo_bears`).
Outside of a transaction a statement is committed at its end, or what it did is dropped
(`finishAlone_shows`).  Nothing else that is done to a session touches the copies (`Light`).
-/
import SqlDriver.Proofs.Engine.Execution
import SqlDriver.Proofs.Engine.Publication

namespace SqlDriver.Engine

set_option autoImplicit false

open SqlDriver.Engine.Action

/-! ## Copies -/

/-- The two copies of a database, as a session has them. -/
structure Copies where
  /-- The database as it was committed last. -/
  committed : Outcome Contents
  /-- The database as the session sees it. -/
  working : Outcome Contents
  /-- The number of the row that was inserted last. -/
  lastNumber : Int64
  /-- A transaction is open. -/
  manual : Bool

namespace Copies

/-- What a statement finds. -/
def ground (m : Copies) : Ground :=
  ⟨m.working, m.lastNumber⟩

/-- A statement made something of the copy that is worked on. -/
def store (m : Copies) (g : Ground) : Copies :=
  { m with working := g.contents, lastNumber := g.lastNumber }

/-- What was worked on is committed. -/
def publish (m : Copies) : Copies :=
  { m with committed := m.working }

/-- What was worked on is dropped. -/
def discard (m : Copies) : Copies :=
  { m with working := m.committed }

/-- A statement is at its end; outside of a transaction, it is committed. -/
def finish (m : Copies) : Copies :=
  if m.manual then m else m.publish

/-- A statement makes something of the copy that is worked on; outside of a transaction, that is
committed at once. -/
def write (m : Copies) (g : Ground) : Copies :=
  (m.store g).finish

/-- Writing what was there changes nothing. -/
theorem write_ground {m : Copies} (settled : m.manual = false → m.working = m.committed) :
    m.write m.ground = m := by
  obtain ⟨committed, working, lastNumber, _ | _⟩ := m
  · cases settled rfl
    rfl
  · rfl

theorem manual_write (m : Copies) (g : Ground) : (m.write g).manual = m.manual := by
  unfold write finish
  split <;> rfl

/-- Outside of a transaction there is nothing to drop. -/
theorem discard_lone {m : Copies} (lone : m.manual = false) (settled : m.working = m.committed) :
    { m.discard with manual := false } = m := by
  obtain ⟨committed, working, lastNumber, manual⟩ := m
  cases lone
  cases settled
  rfl

end Copies

/-! ## Sessions and their copies -/

/-- No statement, but perhaps one, has changed the database and is still at work. -/
def Session.QuietBut (run : Option Nat) (s : Session) : Prop :=
  ∀ key r, some key ≠ run → s.runs.get? key = some r → r.writes = false

/-- A session has copies of its database. -/
structure Session.Bears (w : World) (s : Session) (run : Option Nat) (m : Copies) : Prop where
  autocommit : s.autocommit = !m.manual
  dirty : s.dirty = s.working.isSome
  committed : w.committed s = m.committed
  contents : w.contents s = m.working
  lastNumber : s.lastNumber = m.lastNumber
  quiet : s.QuietBut run

namespace World

/-- The session of a number has copies of its database.  While one of its statements is at work,
that may have changed the database; another session may have a lock on its file. -/
def Bears (w : World) (id : Nat) (run : Option Nat) (contended : Bool) (m : Copies) : Prop :=
  ∃ s, w.session? id = some s ∧ s.Bears w run m ∧ w.isHeld id s.file .shared = contended

/-- Besides, nothing is left that a lone statement has still to commit. -/
structure Shows (w : World) (id : Nat) (run : Option Nat) (contended : Bool) (m : Copies) :
    Prop where
  bears : w.Bears id run contended m
  settled : m.manual = false → (w.sessionAt id).working = none

end World

/-- A session is changed in parts that have nothing to do with its copies. -/
structure Session.Light (run : Option Nat) (s t : Session) : Prop where
  same : (t.autocommit, t.file, t.own, t.dirty, t.working, t.lastNumber) =
    (s.autocommit, s.file, s.own, s.dirty, s.working, s.lastNumber)
  quiet : s.QuietBut run → t.QuietBut run

instance (run : Option Nat) : Std.Refl (Session.Light run) where
  refl _ := ⟨rfl, id⟩

instance (run : Option Nat) : IsTrans Session (Session.Light run) where
  trans _ _ _ first second := ⟨second.same.trans first.same, second.quiet ∘ first.quiet⟩

/-- A session is changed lightly, and nothing else happens. -/
def Light (id : Nat) (run : Option Nat) (w v : World) : Prop :=
  ∃ f : Session → Session, v = w.change id f ∧ ∀ s, Session.Light run s (f s)

instance (id : Nat) (run : Option Nat) : Std.Refl (Light id run) where
  refl w := ⟨fun s => s, (w.change_self id).symm, fun s => Std.Refl.refl s⟩

instance (id : Nat) (run : Option Nat) : IsTrans World (Light id run) where
  trans := by
    rintro w _ _ ⟨f, rfl, first⟩ ⟨g, rfl, second⟩
    exact ⟨g ∘ f, w.change_change id f g, fun s => IsTrans.trans _ _ _ (first s) (second (f s))⟩

section Copies

variable {id : Nat} {run run' : Option Nat} {contended : Bool} {m m' : Copies} {w v : World}

theorem World.Bears.here (bears : w.Bears id run contended m) :
    (w.sessionAt id).Bears w run m := by
  obtain ⟨s, found, here, _⟩ := bears
  rwa [World.sessionAt_of_found found]

theorem World.Bears.held (bears : w.Bears id run contended m) :
    w.isHeld id (w.sessionAt id).file .shared = contended := by
  obtain ⟨s, found, _, held⟩ := bears
  rwa [World.sessionAt_of_found found]

/-- A session is changed, and bears other copies for it. -/
theorem World.Bears.change (bears : w.Bears id run contended m) {f : Session → Session}
    (file : ∀ s, (f s).file = s.file)
    (goes : ∀ s : Session, s.Bears w run m → (f s).Bears w run' m') :
    (w.change id f).Bears id run' contended m' := by
  obtain ⟨s, found, here, held⟩ := bears
  obtain ⟨autocommit, dirty, committed, contents, lastNumber, quiet⟩ := goes s here
  refine ⟨f s, World.session?_change_of_found found,
    ⟨autocommit, dirty, committed, contents, lastNumber, quiet⟩, ?_⟩
  rw [isHeld_change, file, held]

theorem Session.Bears.light {s t : Session} (here : s.Bears w run m)
    (light : Session.Light run s t) :
    t.Bears w run m := by
  obtain ⟨same, quiet⟩ := light
  simp only [Prod.mk.injEq] at same
  obtain ⟨autocommit, file, own, dirty, working, lastNumber⟩ := same
  have committed : w.committed t = w.committed s := by
    unfold World.committed
    rw [file, own]
  refine ⟨autocommit.trans here.autocommit, ?_, committed.trans here.committed, ?_,
    lastNumber.trans here.lastNumber, quiet here.quiet⟩
  · rw [dirty, working, here.dirty]
  · rw [← here.contents, World.contents, World.contents, working, committed]

theorem World.Bears.light (bears : w.Bears id run contended m) (light : Light id run w v) :
    v.Bears id run contended m := by
  obtain ⟨f, rfl, light⟩ := light
  exact bears.change (fun s => (Prod.mk.inj (Prod.mk.inj (light s).same).2).1) fun s here =>
    here.light (light s)

theorem World.Shows.light (shows : w.Shows id run contended m) (light : Light id run w v) :
    v.Shows id run contended m := by
  refine ⟨shows.bears.light light, fun lone => ?_⟩
  obtain ⟨f, rfl, light⟩ := light
  obtain ⟨s, found, _⟩ := shows.bears
  have settled := shows.settled lone
  rw [World.sessionAt_of_found found] at settled
  rw [World.sessionAt_of_found (World.session?_change_of_found found)]
  have same := (light s).same
  simp only [Prod.mk.injEq] at same
  exact same.2.2.2.2.1.trans settled

/-- Outside of a transaction, what the session sees is what was committed. -/
theorem World.Shows.working (shows : w.Shows id run contended m) (lone : m.manual = false) :
    m.working = m.committed := by
  have here := shows.bears.here
  rw [← here.contents, ← here.committed, World.contents, shows.settled lone]

/-- One more statement may be at work. -/
theorem World.Shows.weaken (shows : w.Shows id none contended m) :
    w.Shows id run contended m := by
  refine ⟨?_, shows.settled⟩
  obtain ⟨s, found, here, held⟩ := shows.bears
  exact ⟨s, found, { here with quiet := fun key r _ => here.quiet key r nofun }, held⟩

theorem Session.QuietBut.quieted {s : Session} {number : Nat} (quiet : s.QuietBut (some number))
    (idle : ∀ r, s.runs.get? number = some r → r.phase = .idle) : s.QuietBut none := by
  intro key r _ there
  by_cases same : key = number
  · subst same
    rw [Run.writes, idle r there]
    rfl
  · exact quiet key r (fun equal => same (Option.some.inj equal)) there

/-- The statement that may be at work is not. -/
theorem World.Shows.quieted {number : Nat} (shows : w.Shows id (some number) contended m)
    (idle : w.IdleAt id number) : w.Shows id none contended m := by
  refine ⟨?_, shows.settled⟩
  obtain ⟨s, found, here, held⟩ := shows.bears
  exact ⟨s, found, { here with quiet := here.quiet.quieted fun r there => idle s r found there },
    held⟩

/-- No statement is at work that has changed the database. -/
theorem Session.QuietBut.anyWrites {s : Session} (quiet : s.QuietBut none) :
    s.anyWrites = false := by
  refine Bool.eq_false_iff.2 fun writes => ?_
  obtain ⟨⟨key, r⟩, among, writing⟩ := List.any_eq_true.1 writes
  exact absurd ((quiet key r nofun (Pool.get?_eq_some_iff.2 among)).symm.trans writing) nofun

end Copies

/-! ## Light changes -/

section Lights

variable (id : Nat) (run : Option Nat) (w : World)

theorem update_light {f : Session → Session}
    (same : ∀ s, ((f s).autocommit, (f s).file, (f s).own, (f s).dirty, (f s).working,
      (f s).lastNumber) = (s.autocommit, s.file, s.own, s.dirty, s.working, s.lastNumber))
    (runs : ∀ s, (f s).runs = s.runs) : Leads (Light id run) (update id f) w :=
  ⟨f, rfl, fun s => ⟨same s, fun quiet key r other there => quiet key r other (runs s ▸ there)⟩⟩

theorem settle_light : Leads (Light id run) (settle id) w := by
  refine update_light id run w (fun s => ?_) Session.runs_settle
  rw [s.settle_eq_with_lock]

/-- The statement that may be at work is changed. -/
theorem updateRun_light (number : Nat) (f : Run → Run) :
    Leads (Light id (some number)) (updateRun id number f) w := by
  refine ⟨_, rfl, fun s => ⟨rfl, fun quiet key r other there => ?_⟩⟩
  rw [Pool.get?_modify, if_neg fun same => other (congrArg some same)] at there
  exact quiet key r other there

theorem fail_light {α : Type} (number : Nat) (fault : Fault) :
    Leads (Light id (some number)) (fail id number fault : Action α) w :=
  .bind (updateRun_light id w number _) fun _ w _ =>
    .bind (settle_light id _ w) fun _ _ _ => .throw _

theorem take_light (access : Access) :
    Light id run w (w.change id (Session.take access)) :=
  ⟨_, rfl, fun _ => ⟨rfl, fun quiet => quiet⟩⟩

theorem lockFor_light (access : Access) : Leads (Light id run) (lockFor id access) w := by
  obtain ⟨f, locked⟩ := lockFor_locks id w access
  exact ⟨_, locked, fun _ => ⟨rfl, fun quiet => quiet⟩⟩

end Lights

/-! ## Ends of transactions -/

section Ends

variable {id : Nat} {run : Option Nat} {contended : Bool} {m : Copies} {w : World}

/-- What a session has committed. -/
theorem Session.Bears.publish {s t : Session} {v : World} (here : s.Bears w run m)
    (same : (t.autocommit, t.runs, t.lastNumber) = (s.autocommit, s.runs, s.lastNumber))
    (dirty : t.dirty = false) (working : t.working = none) (committed : v.committed t = m.working) :
    t.Bears v run m.publish := by
  simp only [Prod.mk.injEq] at same
  obtain ⟨autocommit, runs, lastNumber⟩ := same
  refine ⟨autocommit.trans here.autocommit, ?_, committed, ?_, lastNumber.trans here.lastNumber,
    fun key r other there => here.quiet key r other (runs ▸ there)⟩
  · rw [dirty, working]
    rfl
  · rw [World.contents, working]
    exact committed

/-- A commit is refused while another session has a lock on the file.  Else the copy that was
worked on is committed. -/
theorem commit_bears (bears : w.Bears id run contended m) :
    match exec (commit id) w with
    | (.ok _, v) => v.Bears id run contended m.publish ∧ (v.sessionAt id).working = none
    | (.error fault, v) => fault = busy ∧ contended ∧ Light id run w v := by
  obtain ⟨s, found, here, held⟩ := bears
  obtain rfl := World.sessionAt_of_found found
  have contents := here.contents
  -- A session that is concluded stands on what it has committed.
  have published {v : World} {f : Session → Session} {s : Session}
      (session : v.session? id = some s) (here : s.Bears w run m)
      (concluded : ∃ own, f s = Session.concluded { s with own })
      (others : v.isHeld id s.file .shared = contended) (committed : v.committed (f s) = m.working) :
      (v.change id f).Bears id run contended m.publish ∧
        ((v.change id f).sessionAt id).working = none := by
    have after := World.session?_change_of_found (f := f) session
    obtain ⟨own, concluded⟩ := concluded
    rw [concluded] at after committed
    refine ⟨⟨_, after, here.publish rfl rfl rfl committed, ?_⟩, ?_⟩
    · rw [isHeld_change]
      exact others
    · rw [World.sessionAt_of_found after]
      rfl
  have commits := exec_commit id w
  generalize exec (commit id) w = after at commits ⊢
  obtain ⟨answer, v⟩ := after
  cases commits with
  | refused writes others =>
      exact ⟨rfl, held.symm.trans others, _, rfl, fun s => ⟨rfl, fun quiet => quiet⟩⟩
  | unchanged clean =>
      -- What was not changed is committed as it was.
      have none_ : (w.sessionAt id).working = none :=
        clean.elim (fun none_ => none_) fun clean => by simpa [here.dirty] using clean
      refine published found here ⟨_, rfl⟩ held ?_
      rw [← contents, World.contents, none_]
      rfl
  | @kept c file working =>
      refine published found here ⟨_, rfl⟩ held ?_
      rw [← contents, World.contents, working]
      simp [Session.concluded, World.committed, file]
  | @stored path c file working =>
      refine published (v := { w with disk := w.disk.put path (.database c) }) found here
        ⟨_, rfl⟩ held ?_
      rw [← contents, World.contents, working]
      simp [Session.concluded, World.committed, file, Disk.file?_put]

theorem Session.discard_quiet {s : Session} (quiet : s.QuietBut run) : s.discard.QuietBut run := by
  intro key r other there
  unfold Session.discard at there
  dsimp only at there
  split at there
  · rw [Session.expire, Pool.get?_mapItems] at there
    obtain ⟨old, before, rfl⟩ := Option.map_eq_some_iff.1 there
    exact quiet key old other before
  · exact quiet key r other there

/-- What a transaction or a lone statement did is dropped. -/
theorem World.Bears.discard (bears : w.Bears id run contended m) {f : Session → Session}
    {manual : Bool} (same : ∀ s : Session, s.Bears w run m →
      ((f s).file, (f s).own, (f s).runs, (f s).lastNumber, (f s).dirty, (f s).working) =
        (s.file, s.own, s.discard.runs, s.lastNumber, false, none))
    (autocommit : ∀ s : Session, s.Bears w run m → (f s).autocommit = !manual) :
    (w.change id f).Shows id run contended { m.discard with manual } := by
  obtain ⟨s, found, here, held⟩ := bears
  have after := World.session?_change_of_found (f := f) found
  have parts := same s here
  simp only [Prod.mk.injEq] at parts
  obtain ⟨file, own, runs, lastNumber, dirty, working⟩ := parts
  have committed : w.committed (f s) = m.committed := by
    rw [← here.committed, World.committed, World.committed, file, own]
  refine ⟨⟨f s, after, ⟨autocommit s here, by rw [dirty, working]; rfl, committed, ?_,
    lastNumber.trans here.lastNumber, fun key r other there => ?_⟩, ?_⟩, fun _ => ?_⟩
  · rw [World.contents, working]
    exact committed
  · exact Session.discard_quiet here.quiet key r other (runs ▸ there)
  · rw [isHeld_change, file, held]
  · rw [World.sessionAt_of_found after, working]

/-- A transaction is undone: the session goes back to what was committed last. -/
theorem undo_shows (bears : w.Bears id run contended m) :
    (exec (undo id) w).2.Shows id run contended { m.discard with manual := false } := by
  let f : Session → Session := fun s => ({ s with autocommit := true } : Session).discard
  have undone : exec (undo id) w = (.ok (), (w.change id f).change id Session.settle) :=
    congrArg (Prod.mk _) (w.change_change id f Session.settle).symm
  rw [undone]
  refine World.Shows.light (bears.discard (f := f) (fun s _ => ?_) fun s _ => ?_)
    (settle_light id run _)
  · dsimp only [f, Session.discard]
    split <;> rfl
  · dsimp only [f, Session.discard]
    split <;> rfl

/-- The end of a transaction is refused while another session has a lock on the file. -/
theorem endTransaction_shows (bears : w.Bears id run contended m) :
    match exec (endTransaction id) w with
    | (.ok _, v) => v.Shows id run contended { m.publish with manual := false }
    | (.error fault, v) => fault = busy ∧ contended ∧ Light id run w v := by
  have committed := commit_bears bears
  unfold endTransaction
  rw [exec_bind]
  rcases answer : exec (commit id) w with ⟨fault | _, v⟩ <;> rw [answer] at committed
  · exact committed
  · obtain ⟨bears, working⟩ := committed
    let f : Session → Session := fun s => { s with autocommit := true }
    have ended : (v.change id f).Shows id run contended { m.publish with manual := false } := by
      refine ⟨bears.change (f := f) (fun _ => rfl) fun s here => ?_, fun _ => ?_⟩
      · exact ⟨rfl, here.dirty, here.committed, here.contents, here.lastNumber, here.quiet⟩
      · obtain ⟨s, found, _⟩ := bears
        rw [World.sessionAt_of_found found] at working
        rw [World.sessionAt_of_found (World.session?_change_of_found found), working]
    exact ended.light (settle_light id run _)

/-- At the end of a statement, what it did is kept for the transaction.  Outside of one it is
committed, or dropped while another session has a lock on the file. -/
theorem finishAlone_shows {number : Nat} (bears : w.Bears id (some number) contended m)
    (idle : w.IdleAt id number) :
    match exec (finishAlone id) w with
    | (.ok _, v) => v.Shows id (some number) contended m.finish
    | (.error _, v) => (contended ∧ m.manual = false) ∧
        v.Shows id (some number) contended m.discard := by
  obtain ⟨s, found, here, held⟩ := bears
  have quiet : s.QuietBut none := here.quiet.quieted fun r there => idle s r found there
  unfold finishAlone
  rw [exec_bind, exec_session, World.sessionAt_of_found found]
  dsimp only
  rw [here.autocommit, quiet.anyWrites]
  cases manual : m.manual with
  | true =>
      simp only [Bool.not_true, Bool.false_and, Bool.false_eq_true, if_false]
      rw [Copies.finish, if_pos manual]
      refine World.Shows.light ⟨⟨s, found, here, held⟩, fun lone => ?_⟩ (settle_light id _ w)
      cases lone.symm.trans manual
  | false =>
      simp only [Bool.not_false, Bool.and_true, if_true]
      have committed := commit_bears ⟨s, found, here, held⟩
      rw [exec_bind, exec_tryCatch, Copies.finish, if_neg (by simp [manual])]
      rcases answer : exec (commit id) w with ⟨fault | _, v⟩ <;> rw [answer] at committed
      · obtain ⟨_, inTheWay, light⟩ := committed
        have bears := World.Bears.light ⟨s, found, here, held⟩ light
        let f : Session → Session := fun s => { s.discard with changes := 0 }
        have dropped : (v.change id f).Shows id (some number) contended
            { m.discard with manual := m.manual } := by
          refine bears.discard (fun s _ => ?_) fun s here => ?_
          · dsimp only [f, Session.discard]
            split <;> rfl
          · rw [← here.autocommit]
            dsimp only [f, Session.discard]
            split <;> rfl
        exact ⟨⟨inTheWay, trivial⟩, dropped.light (settle_light id _ _)⟩
      · exact World.Shows.light ⟨committed.1, fun _ => committed.2⟩ (settle_light id _ v)

/-- A statement that changed the database comes to its end. -/
theorem finishChange_shows {number : Nat} (bears : w.Bears id (some number) contended m)
    (changes : Nat) :
    match exec (finishChange id number changes) w with
    | (.ok _, v) => v.Shows id (some number) contended m.finish
    | (.error _, v) => (contended ∧ m.manual = false) ∧
        v.Shows id (some number) contended m.discard := by
  have idle := idleAt_of_updateRun id number w (f := fun r => { r with phase := .idle })
    fun _ => rfl
  have counted := update_staysIdle id number _ (f := fun s => { s with changes })
    (fun _ => rfl) idle
  refine finishAlone_shows (bears.light ?_) counted
  exact IsTrans.trans _ _ _ (updateRun_light id w number _)
    (update_light id _ _ (f := fun s => { s with changes }) (fun _ => rfl) fun _ => rfl)

theorem finishChange_idle (id run changes : Nat) (w : World) :
    (exec (finishChange id run changes) w).2.IdleAt id run := by
  have idle := idleAt_of_updateRun id run w (f := fun r => { r with phase := .idle }) fun _ => rfl
  have counted := update_staysIdle id run _ (f := fun s => { s with changes }) (fun _ => rfl) idle
  exact finishAlone_staysIdle id run _ counted

end Ends

end SqlDriver.Engine
