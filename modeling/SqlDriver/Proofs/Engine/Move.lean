/-
# SqlDriver.Proofs.Engine.Move -- what running a statement can do to a session

Most of what the engine does is to tend a session: to take and give up locks, to follow a
statement's rows, to keep or drop what a transaction changed.  Beyond that a session only
commits what a lone statement did, or undoes its transaction.  `Move` lists these steps,
and a run of `Action.step`, `reset` or `finalize` consists of them (`step_turns`,
`reset_moves`), save for the one control statement that a program may be.  A program takes one
of a few courses (`Course`), whatever it does.  So what the
engine never does -- number statements anew, reach into another session, commit inside of
a transaction -- is read off a few steps and not off every action.
-/
import SqlDriver.Proofs.Effect
import SqlDriver.Proofs.Engine.Ground
import Mathlib.Logic.Relation

namespace SqlDriver

set_option autoImplicit false

/-! ## Worlds and sessions -/

namespace Engine.World

/-- A session, as actions see it. -/
def sessionAt (w : World) (id : Nat) : Session :=
  (w.session? id).getD { file := none }

/-- A world in which a session is changed. -/
def change (w : World) (id : Nat) (f : Session → Session) : World :=
  { w with sessions := w.sessions.modify id f }

@[simp] theorem disk_change (w : World) (id : Nat) (f : Session → Session) :
    (w.change id f).disk = w.disk := rfl

theorem session?_change (w : World) (id other : Nat) (f : Session → Session) :
    (w.change id f).session? other =
      if other = id then (w.session? other).map f else w.session? other :=
  Pool.get?_modify ..

theorem change_change (w : World) (id : Nat) (f g : Session → Session) :
    (w.change id f).change id g = w.change id (g ∘ f) := by
  simp [change, Pool.modify_modify]

theorem change_self (w : World) (id : Nat) : (w.change id fun s => s) = w := by
  simp [change, Pool.modify_self]

section Found

variable {w : World} {id : Nat} {s : Session} {f g : Session → Session}

theorem sessionAt_of_found (found : w.session? id = some s) : w.sessionAt id = s := by
  rw [sessionAt, found]
  rfl

theorem session?_change_of_found (found : w.session? id = some s) :
    (w.change id f).session? id = some (f s) := by
  rw [session?_change, if_pos rfl, found]
  rfl

theorem change_congr (same : ∀ s, w.session? id = some s → f s = g s) :
    w.change id f = w.change id g := by
  rw [change, change, Pool.modify_congr same]

theorem change_eq_self (same : ∀ s, w.session? id = some s → f s = s) : w.change id f = w :=
  (change_congr same).trans (w.change_self id)

end Found

end Engine.World

namespace Engine.Session

/-- A session in which a statement is changed. -/
def changeRun (run : Nat) (f : Run → Run) (s : Session) : Session :=
  { s with runs := s.runs.modify run f }

theorem changeRun_comp (run : Nat) (f g : Run → Run) :
    changeRun run g ∘ changeRun run f = changeRun run (g ∘ f) := by
  funext s
  simp [changeRun, Pool.modify_modify]

theorem get?_changeRun {s : Session} {run : Nat} {r : Run} (found : s.runs.get? run = some r)
    (f : Run → Run) : (s.changeRun run f).runs.get? run = some (f r) := by
  simp [changeRun, Pool.get?_modify, found]

/-- A session takes in a statement, and may have learned what tables there are. -/
def takeIn (r : Run) (informed : Bool) (s : Session) : Session :=
  { s with informed := s.informed || informed, runs := (s.runs.insert r).2 }

end Engine.Session

/-- An action that begins by looking at a session. -/
theorem Leads.session_bind {α : Type} {r : Engine.World → Engine.World → Prop} {id : Nat}
    {f : Engine.Session → Engine.Action α} {w : Engine.World}
    (rest : Leads r (f (w.sessionAt id)) w) : Leads r (Engine.Action.session id >>= f) w :=
  rest

namespace Engine

open SqlDriver.Engine.Action

section Answers

variable {α : Type} (id : Nat) (w : World)

@[simp] theorem exec_session : exec (session id) w = (.ok (w.sessionAt id), w) := rfl

@[simp] theorem exec_update (f : Session → Session) :
    exec (update id f) w = (.ok (), w.change id f) := rfl

@[simp] theorem exec_settle : exec (settle id) w = (.ok (), w.change id Session.settle) := rfl

@[simp] theorem exec_run? (run : Nat) :
    exec (run? id run) w = (.ok ((w.sessionAt id).runs.get? run), w) := rfl

@[simp] theorem exec_ofOutcome (o : Outcome α) : exec (ofOutcome o) w = (o, w) := by
  cases o <;> rfl

theorem exec_reset (run : Nat) : exec (reset id run) w = (.ok (), (exec (halt id run) w).2) := by
  unfold reset
  rw [exec_tryCatch]
  rcases exec (halt id run) w with ⟨fault | _, v⟩ <;> rfl

/-- A statement that is given up is reset, and then gone. -/
theorem exec_finalize (run : Nat) :
    exec (finalize id run) w = (.ok (), (exec (reset id run) w).2.change id fun s =>
      { s with runs := s.runs.erase run }) := by
  rw [finalize, exec_bind, exec_reset]
  rfl

@[simp] theorem exec_contents :
    exec (contents id) w = (w.contents (w.sessionAt id), w) := by
  simp [contents, exec_bind]

@[simp] theorem exec_updateRun (run : Nat) (f : Run → Run) :
    exec (updateRun id run f) w = (.ok (), w.change id (Session.changeRun run f)) := rfl

theorem exec_reshape (c : Contents) :
    exec (reshape id c) w = (.ok (), w.change id fun s =>
      { s with working := some c.changed, dirty := true, reshaped := true }) :=
  congrArg (Prod.mk _) (w.change_change id _ _)

end Answers

/-! ## Statements of sessions -/

/-- A session has a statement. -/
structure World.RunAt (w : World) (id run : Nat) (s : Session) (r : Run) : Prop where
  session : w.session? id = some s
  found : s.runs.get? run = some r

namespace World.RunAt

variable {w : World} {id run : Nat} {s : Session} {r : Run}

theorem exec_run? (there : w.RunAt id run s r) : exec (run? id run) w = (.ok (some r), w) := by
  rw [Engine.exec_run?, sessionAt_of_found there.session, there.found]

/-- The session is changed, but not its statements. -/
theorem change (there : w.RunAt id run s r) {f : Session → Session} (runs : (f s).runs = s.runs) :
    (w.change id f).RunAt id run (f s) r :=
  ⟨session?_change_of_found there.session, runs ▸ there.found⟩

/-- The statement is changed. -/
theorem changeRun (there : w.RunAt id run s r) (f : Run → Run) :
    (w.change id (Session.changeRun run f)).RunAt id run (s.changeRun run f) (f r) :=
  ⟨session?_change_of_found there.session, Session.get?_changeRun there.found f⟩

end World.RunAt

theorem World.runAt_of_found {w : World} {id run : Nat} {r : Run}
    (found : (w.sessionAt id).runs.get? run = some r) : ∃ s, w.RunAt id run s r := by
  cases session : w.session? id with
  | none => simp [sessionAt, session] at found
  | some s =>
      rw [sessionAt_of_found session] at found
      exact ⟨s, session, found⟩

/-! ## Tending a session -/

/-- A change of a session that leaves alone what is committed, whether a transaction is
open, and which statements there are. -/
structure Calm (f : Session → Session) : Prop where
  file : ∀ s, (f s).file = s.file
  own : ∀ s, (f s).own = s.own
  autocommit : ∀ s, (f s).autocommit = s.autocommit
  next : ∀ s, (f s).runs.next = s.runs.next
  keys : ∀ s, (f s).runs.keys = s.runs.keys

namespace Calm

theorem self : Calm fun s => s := by
  constructor <;> intro s <;> rfl

theorem comp {f g : Session → Session} (outer : Calm g) (inner : Calm f) : Calm (g ∘ f) where
  file s := (outer.file _).trans (inner.file s)
  own s := (outer.own _).trans (inner.own s)
  autocommit s := (outer.autocommit _).trans (inner.autocommit s)
  next s := (outer.next _).trans (inner.next s)
  keys s := (outer.keys _).trans (inner.keys s)

theorem settle : Calm Session.settle := by
  constructor <;> intro s <;> unfold Session.settle <;> split <;> rfl

theorem runs {f : Run → Run} (run : Nat) : Calm (Session.changeRun run f) where
  file _ := rfl
  own _ := rfl
  autocommit _ := rfl
  next _ := rfl
  keys _ := Pool.keys_modify ..

theorem expire : Calm Session.expire where
  file _ := rfl
  own _ := rfl
  autocommit _ := rfl
  next _ := rfl
  keys _ := Pool.keys_mapItems ..

theorem cutOff : Calm Session.cutOff where
  file _ := rfl
  own _ := rfl
  autocommit _ := rfl
  next _ := rfl
  keys _ := Pool.keys_mapItems ..

theorem discard : Calm Session.discard := by
  constructor <;> intro s <;> unfold Session.discard <;> dsimp only <;> split <;>
    first | rfl | exact Pool.keys_mapItems ..

end Calm

def Tends (id : Nat) (w v : World) : Prop :=
  ∃ f, Calm f ∧ v = w.change id f

instance (id : Nat) : Std.Refl (Tends id) where
  refl w := ⟨_, Calm.self, (w.change_self id).symm⟩

instance (id : Nat) : IsTrans World (Tends id) where
  trans := by
    rintro w _ _ ⟨f, first, rfl⟩ ⟨g, second, rfl⟩
    exact ⟨_, second.comp first, w.change_change id f g⟩

section Locks

variable (id : Nat) (w : World)

theorem update_tends {f : Session → Session} (calm : Calm f) : Leads (Tends id) (update id f) w :=
  ⟨f, calm, rfl⟩

theorem settle_tends : Leads (Tends id) (settle id) w :=
  update_tends id w Calm.settle

theorem updateRun_tends (run : Nat) (f : Run → Run) :
    Leads (Tends id) (updateRun id run f) w :=
  update_tends id w (Calm.runs run)

theorem ofOutcome_tends {α : Type} (o : Outcome α) : Leads (Tends id) (ofOutcome o) w := by
  rw [Leads, exec_ofOutcome]
  exact Std.Refl.refl w

theorem lockShared_tends : Leads (Tends id) (lockShared id) w := by
  refine .bind (.get_bind (.pure _)) fun s w _ => ?_
  split
  · refine .get_bind ?_
    extract_lets locked
    have leads : Leads (Tends id) (locked ()) w :=
      .bind (ofOutcome_tends ..) fun _ w _ => update_tends id w (by constructor <;> intro <;> rfl)
    split
    · exact .throw_bind ..
    · exact leads
  · exact .pure _

theorem lockReserved_tends : Leads (Tends id) (lockReserved id) w := by
  refine .session_bind ?_
  extract_lets _ locked
  have leads (w : World) : Leads (Tends id) (locked ()) w := by
    refine .bind (lockShared_tends id w) fun _ w _ => .session_bind ?_
    split
    · refine .get_bind ?_
      split
      · exact .throw_bind ..
      · exact update_tends id w (by constructor <;> intro <;> rfl)
    · exact .pure _
  split
  · exact .throw_bind ..
  · exact leads w

theorem lockExclusive_tends : Leads (Tends id) (lockExclusive id) w := by
  refine .bind (lockReserved_tends id w) fun _ w _ => .session_bind ?_
  split
  · refine .get_bind ?_
    split
    · exact .throw_bind ..
    · exact update_tends id w (by constructor <;> intro <;> rfl)
  · exact .pure _

theorem lockFor_tends (access : Access) : Leads (Tends id) (lockFor id access) w := by
  cases access with
  | none => exact .pure _
  | read => exact lockShared_tends id w
  | write => exact lockReserved_tends id w

end Locks

/-! ## Moves -/

/-- One step of a session, other than to begin or end a transaction on command. -/
inductive Move (id : Nat) : World → World → Prop where
  | tend {w v : World} (tends : Tends id w v) : Move id w v
  /-- What a lone statement did is committed. -/
  | commit {w : World} (alone : (w.sessionAt id).autocommit) : Move id w (exec (commit id) w).2
  | undo (w : World) : Move id w (exec (undo id) w).2

/-- Steps of a session, one after the other. -/
abbrev Moves (id : Nat) : World → World → Prop :=
  Relation.ReflTransGen (Move id)

section Statements

variable (id run : Nat) (w : World)

theorem moves_of_tends {id : Nat} {w v : World} (tends : Tends id w v) : Moves id w v :=
  .single (.tend tends)

theorem update_moves {f : Session → Session} (calm : Calm f) : Leads (Moves id) (update id f) w :=
  moves_of_tends (update_tends id w calm)

theorem settle_moves : Leads (Moves id) (settle id) w :=
  moves_of_tends (settle_tends id w)

theorem updateRun_moves (f : Run → Run) : Leads (Moves id) (updateRun id run f) w :=
  moves_of_tends (updateRun_tends id w run f)

theorem finishAlone_moves : Leads (Moves id) (finishAlone id) w := by
  refine .session_bind ?_
  extract_lets settled
  split
  · next lone =>
      have alone : (w.sessionAt id).autocommit := by simp_all
      refine .bind (.tryCatch (.single (.commit alone)) fun fault w _ => ?_) fun _ w _ =>
        settle_moves id w
      refine .bind (update_moves id w ?_) fun _ w _ => .bind (settle_moves id w) fun _ w _ =>
        .throw fault
      exact Calm.comp (g := fun s => { s with changes := 0 }) (by constructor <;> intro <;> rfl)
        Calm.discard
  · exact settle_moves id w

theorem finishChange_moves (changes : Nat) :
    Leads (Moves id) (finishChange id run changes) w :=
  .bind (updateRun_moves id run w _) fun _ w _ =>
    .bind (update_moves id w (by constructor <;> intro <;> rfl)) fun _ w _ => finishAlone_moves id w

theorem halt_moves : Leads (Moves id) (halt id run) w := by
  refine .bind (a := run? id run) (.session_bind (.pure _)) fun r w _ => ?_
  split
  · exact .bind (updateRun_moves id run w _) fun _ w _ => settle_moves id w
  · exact finishChange_moves id run w _
  · exact settle_moves id w

theorem fail_moves {α : Type} (fault : Fault) :
    Leads (Moves id) (fail id run fault : Action α) w :=
  .bind (updateRun_moves id run w _) fun _ w _ => .bind (settle_moves id w) fun _ _ _ => .throw _

theorem advance_moves (c : Contents) (flow : Flow) :
    Leads (Moves id) (advance id run c flow) w := by
  refine .get_bind (.session_bind ?_)
  extract_lets now
  split
  · exact fail_moves id run w _
  · exact .bind (halt_moves id run w) fun _ _ _ => .pure _
  · exact .bind (updateRun_moves id run w _) fun _ _ _ => .pure _

theorem give_moves (changes : Nat) (rows : List Tuple) :
    Leads (Moves id) (give id run changes rows) w := by
  cases rows with
  | nil => exact .bind (finishChange_moves id run w _) fun _ _ _ => .pure _
  | cons row rest => exact .bind (updateRun_moves id run w _) fun _ _ _ => .pure _

theorem keep_moves (c : Contents) : Leads (Moves id) (keep id c) w :=
  update_moves id w (by constructor <;> intro <;> rfl)

theorem reshape_moves (c : Contents) : Leads (Moves id) (reshape id c) w :=
  .bind (keep_moves id w _) fun _ w _ => update_moves id w (by constructor <;> intro <;> rfl)

theorem runChange_moves (c : Contents) (m : Mutation) (hasRows : Bool) :
    Leads (Moves id) (runChange id run c m hasRows) w := by
  refine .session_bind ?_
  split
  · refine .bind (update_moves id w (by constructor <;> intro <;> rfl)) fun _ w _ => ?_
    extract_lets handed
    have leads (w : World) : Leads (Moves id) (handed ()) w := by
      dsimp only [handed]
      split
      · exact give_moves id run w _ _
      · exact .bind (finishChange_moves id run w _) fun _ _ _ => .pure _
    split
    · exact .bind (keep_moves id w _) fun _ w _ => leads w
    · exact leads w
  · refine .bind (update_moves id w (by constructor <;> intro <;> rfl)) fun _ w _ => ?_
    extract_lets failed
    have leads (w : World) : Leads (Moves id) (failed ()) w := fail_moves id run w _
    split
    · exact .bind (keep_moves id w _) fun _ w _ =>
        .bind (finishChange_moves id run w _) fun _ w _ => leads w
    · exact .bind (.single (.undo w)) fun _ w _ => leads w
    · exact leads w

end Statements

/-! ## Courses of programs -/

/-- What running a program over a database comes to. -/
inductive Course (id run : Nat) (p : Prepared) (c : Contents) : Action (Option Tuple) → Prop where
  | reads (reading : p.program.isReading) (flow : Flow) :
      Course id run p c do
        updateRun id run fun r => { r with phase := .reading c flow }
        advance id run c flow
  | changes {m : Mutation} (program : p.program = .mutate m) :
      Course id run p c (runChange id run c m !p.outputs.isEmpty)
  /-- Tables or triggers are changed. -/
  | reshapes (writes : p.program.isReading = false) (acts : p.program ≠ .nothing)
      {d : Contents}
      (makes : ∀ g : Ground, g.contents = .ok c →
        p.program.effect g = .ok { g with contents := .ok d.changed }) :
      Course id run p c do
        reshape id d
        finishAlone id
        return none
  | writes {version : Int} (program : p.program = .writeVersion version) :
      Course id run p c do
        keep id { c with userVersion := version }
        finishAlone id
        return none
  | controls {k : Control} (program : p.program = .control k) :
      Course id run p c do
        control id k
        settle id
        return none
  | nothing (program : p.program = .nothing) :
      Course id run p c do
        finishAlone id
        return none
  | refused (writes : p.program.isReading = false) (fault : Fault) : Course id run p c (throw fault)

theorem exists_course (id run : Nat) (p : Prepared) (c : Contents) (w : World) :
    ∃ a, Course id run p c a ∧ exec (runProgram id run p c) w = exec a w := by
  obtain ⟨program, outputs, access⟩ := p
  unfold runProgram
  cases program with
  | query q => exact ⟨_, .reads rfl _, rfl⟩
  | mutate m => exact ⟨_, .changes rfl, rfl⟩
  | createTable t =>
      refine ⟨_, .reshapes rfl (by simp) fun g known => ?_, rfl⟩
      rw [Program.effect, known]
      rfl
  | dropTable name =>
      dsimp only
      rw [exec_bind, exec_session]
      dsimp only
      split
      · exact ⟨_, .refused rfl tableLocked, rfl⟩
      · refine ⟨_, .reshapes rfl (by simp) fun g known => ?_, rfl⟩
        rw [Program.effect, known]
        rfl
  | addColumn table column checks unfit =>
      dsimp only
      rw [exec_bind, exec_ofOutcome]
      cases added : Action.addColumn c table column checks unfit with
      | error fault => exact ⟨_, .refused rfl fault, rfl⟩
      | ok d =>
          refine ⟨_, .reshapes rfl (by simp) fun g known => ?_, rfl⟩
          rw [Program.effect, known]
          change (Action.addColumn c table column checks unfit >>= _) = _
          rw [added]
          rfl
  | createTrigger t =>
      refine ⟨_, .reshapes rfl (by simp) fun g known => ?_, rfl⟩
      rw [Program.effect, known]
      rfl
  | dropTrigger name =>
      refine ⟨_, .reshapes rfl (by simp) fun g known => ?_, rfl⟩
      rw [Program.effect, known]
      rfl
  | control k => exact ⟨_, .controls rfl, rfl⟩
  | readVersion => exact ⟨_, .reads rfl _, rfl⟩
  | writeVersion version => exact ⟨_, .writes rfl, rfl⟩
  | nothing => exact ⟨_, .nothing rfl, rfl⟩

/-- A program that reads begins with a flow of rows. -/
theorem runProgram_of_isReading {p : Prepared} (reading : p.program.isReading) (id run : Nat)
    (c : Contents) : ∃ flow, runProgram id run p c =
      (do
        updateRun id run fun r => { r with phase := .reading c flow }
        advance id run c flow) := by
  unfold runProgram
  cases program : p.program with
  | query q => exact ⟨_, rfl⟩
  | readVersion => exact ⟨_, rfl⟩
  | _ =>
      rw [program] at reading
      cases reading

/-! ## Turns -/

/-- What a statement does between two of its rows: it moves, or it is a control statement
that is carried out once it is made ready. -/
inductive Turn (id : Nat) : World → World → Prop where
  | move {w v : World} (moves : Moves id w v) : Turn id w v
  | control {w t v : World} (ready : Tends id w t) (c : Control)
      (moves : Moves id (exec (control id c) t).2 v) : Turn id w v

instance (id : Nat) : Std.Refl (Turn id) where
  refl _ := .move .refl

instance (id : Nat) : Trans (Tends id) (Turn id) (Turn id) where
  trans first second := by
    cases second with
    | move moves => exact .move (moves.head (.tend first))
    | control ready c moves => exact .control (IsTrans.trans _ _ _ first ready) c moves

instance (id : Nat) : Trans (Turn id) (Moves id) (Turn id) where
  trans first second := by
    cases first with
    | move moves => exact .move (moves.trans second)
    | control ready c moves => exact .control ready c (moves.trans second)

section Programs

variable (id run : Nat) (w : World)

variable {id w} in
theorem tends_bind {α β : Type} {a : Action α} {f : α → Action β} (first : Leads (Tends id) a w)
    (rest : ∀ x v, Leads (Turn id) (f x) v) : Leads (Turn id) (a >>= f) w :=
  .bind_trans first fun x v _ => rest x v

variable {id w} in
theorem turn_bind {α β : Type} {a : Action α} {f : α → Action β} (first : Leads (Turn id) a w)
    (rest : ∀ x v, Leads (Moves id) (f x) v) : Leads (Turn id) (a >>= f) w :=
  .bind_trans first fun x v _ => rest x v

variable {id w} in
/-- A turn whose error is caught goes on with moves. -/
theorem turn_tryCatch {α : Type} {a : Action α} {f : Fault → Action α}
    (first : Leads (Turn id) a w) (rest : ∀ e v, Leads (Moves id) (f e) v) :
    Leads (Turn id) (tryCatch a f) w :=
  .tryCatch_trans first fun e v _ => rest e v

theorem runProgram_turns (p : Prepared) (c : Contents) :
    Leads (Turn id) (runProgram id run p c) w := by
  have done (w : World) :
      Leads (Moves id) (do finishAlone id; return none : Action (Option Tuple)) w :=
    .bind (finishAlone_moves id w) fun _ _ _ => .pure _
  have moves {a : Action (Option Tuple)} (leads : Leads (Moves id) a w) : Leads (Turn id) a w :=
    .move leads
  obtain ⟨a, course, same⟩ := exists_course id run p c w
  refine .congr same ?_
  cases course with
  | reads reading flow =>
      exact moves (.bind (updateRun_moves id run w _) fun _ w _ => advance_moves id run w c _)
  | changes program => exact moves (runChange_moves id run w c _ _)
  | reshapes => exact moves (.bind (reshape_moves id w _) fun _ w _ => done w)
  | writes program => exact moves (.bind (keep_moves id w _) fun _ w _ => done w)
  | @controls k program =>
      have leads : Leads (Turn id) (control id k) w := .control (Std.Refl.refl w) k .refl
      exact turn_bind leads fun _ w => .bind (settle_moves id w) fun _ _ _ => .pure _
  | nothing program => exact moves (done w)
  | refused => exact .throw _

theorem refresh_tends (r : Run) (c : Contents) : Leads (Tends id) (refresh id run r c) w := by
  unfold refresh
  split
  · exact .pure _
  · exact .bind (ofOutcome_tends ..) fun _ w _ =>
      .bind (updateRun_tends id w run _) fun _ w _ => .bind (settle_tends id w) fun _ _ _ => .pure _

theorem contents_tends : Leads (Tends id) (contents id) w :=
  .get_bind (.session_bind (ofOutcome_tends ..))

theorem start_turns (r : Run) : Leads (Turn id) (start id run r) w := by
  have ready (access : Access) : Leads (Turn id)
      (do
        lockFor id access
        let c ← contents id
        let p ← refresh id run r c
        lockFor id p.access
        runProgram id run p c) w :=
    tends_bind (lockFor_tends id w access) fun _ w =>
      tends_bind (contents_tends id w) fun c w =>
        tends_bind (refresh_tends id run w r c) fun p w =>
          tends_bind (lockFor_tends id w p.access) fun _ w => runProgram_turns id run w p c
  unfold start
  split
  · exact .get_bind (.session_bind (runProgram_turns id run w _ _))
  · exact ready _

theorem step_turns : Leads (Turn id) (step id run) w := by
  refine tends_bind (.session_bind (.pure _)) fun r w => ?_
  split
  · exact .pure _
  · next r =>
      split
      · refine turn_tryCatch (turn_tryCatch (start_turns id run w r) fun fault w => ?_)
          fun fault w => fail_moves id run w fault
        extract_lets failed
        have leads (w : World) : Leads (Moves id) (failed ()) w := .throw _
        split
        · exact .bind (update_moves id w (by constructor <;> intro <;> rfl)) fun _ w _ => leads w
        · exact leads w
      · split
        · exact .move (fail_moves id run w _)
        · exact .move (advance_moves id run w _ _)
      · exact .move (give_moves id run w _ _)

theorem reset_moves : Leads (Moves id) (reset id run) w :=
  .tryCatch (halt_moves id run w) fun _ _ _ => .pure _

end Programs

/-! ## What stays inside of a session -/

namespace World

/-- The numbers of the statements of a session: the next one, and those of the statements
that there are. -/
def statements (w : World) (id : Nat) : Option (Nat × List Nat) :=
  (w.session? id).map fun s => (s.runs.next, s.runs.keys)

end World

/-- Nothing happened outside of a session, and no statement came or went. -/
structure Inside (id : Nat) (w v : World) : Prop where
  next : v.sessions.next = w.sessions.next
  statements : v.statements id = w.statements id
  elsewhere : ∀ other, other ≠ id → v.session? other = w.session? other

instance (id : Nat) : Std.Refl (Inside id) where
  refl _ := ⟨rfl, rfl, fun _ _ => rfl⟩

instance (id : Nat) : IsTrans World (Inside id) where
  trans _ _ _ first second :=
    ⟨second.next.trans first.next, second.statements.trans first.statements,
      fun other there => (second.elsewhere other there).trans (first.elsewhere other there)⟩

theorem elsewhere_change (w : World) {id other : Nat} (f : Session → Session)
    (there : other ≠ id) : (w.change id f).session? other = w.session? other := by
  rw [World.session?_change, if_neg there]

section Inside

variable (id : Nat) (w : World)

/-- A change of a session that keeps its statements stays inside. -/
theorem update_inside {f : Session → Session} (next : ∀ s, (f s).runs.next = s.runs.next)
    (keys : ∀ s, (f s).runs.keys = s.runs.keys) : Leads (Inside id) (update id f) w where
  next := rfl
  statements := by
    simp [World.statements, World.session?_change, Function.comp_def, next, keys]
  elsewhere _ there := elsewhere_change w f there

/-- A file that is written stays inside every session. -/
theorem put_inside (path : String) (file : File) :
    Leads (Inside id)
      (modify fun w => { w with disk := w.disk.put path file } : Action Unit) w :=
  ⟨rfl, rfl, fun _ _ => rfl⟩

variable {id w} in
theorem Tends.inside {v : World} (tends : Tends id w v) : Inside id w v := by
  obtain ⟨f, calm, rfl⟩ := tends
  exact update_inside id w calm.next calm.keys

theorem commit_inside : Leads (Inside id) (commit id) w := by
  refine .session_bind ?_
  extract_lets settled stored
  have settles (w : World) : Leads (Inside id) (settled ()) w :=
    update_inside id w (fun _ => rfl) fun _ => rfl
  have stores (w : World) : Leads (Inside id) (stored ()) w := by
    dsimp only [stored]
    split
    · exact .bind (put_inside id w _ _) fun _ w _ => settles w
    · exact .bind (update_inside id w (fun _ => rfl) fun _ => rfl) fun _ w _ => settles w
    · exact settles w
  split
  · refine .get_bind ?_
    split
    · exact .bind (update_inside id w (fun _ => rfl) fun _ => rfl) fun _ _ _ => .throw_bind ..
    · exact stores w
  · exact settles w

theorem undo_inside : Leads (Inside id) (undo id) w :=
  update_inside id w
    (fun s => (Calm.settle.next _).trans (Calm.discard.next { s with autocommit := true }))
    fun s => (Calm.settle.keys _).trans (Calm.discard.keys { s with autocommit := true })

theorem endTransaction_inside : Leads (Inside id) (endTransaction id) w :=
  .bind (commit_inside id w) fun _ w _ =>
    .bind (update_inside id w (fun _ => rfl) fun _ => rfl) fun _ w _ => (settle_tends id w).inside

theorem begin_inside (mode : BeginMode) : Leads (Inside id) (begin id mode) w := by
  refine .session_bind ?_
  extract_lets readOnly begun
  have begins (w : World) : Leads (Inside id) (begun ()) w := by
    refine .session_bind ?_
    split
    · exact update_inside id w (fun _ => rfl) fun _ => rfl
    · exact .throw _
  have shared := (lockShared_tends id w).inside
  split
  · exact begins w
  · split
    · exact .bind shared fun _ w _ => begins w
    · exact .bind (lockReserved_tends id w).inside fun _ w _ => begins w
  · split
    · exact .bind shared fun _ w _ => begins w
    · exact .bind (lockExclusive_tends id w).inside fun _ w _ => begins w

theorem control_inside (c : Control) : Leads (Inside id) (control id c) w := by
  refine .session_bind ?_
  cases c with
  | begin mode => exact begin_inside id w mode
  | commit =>
      dsimp only
      split
      · exact .throw_bind ..
      · split
        · exact .throw_bind ..
        · exact endTransaction_inside id w
  | rollback =>
      dsimp only
      split
      · exact .throw_bind ..
      · split
        · exact .bind (update_inside id w Calm.cutOff.next Calm.cutOff.keys) fun _ w _ =>
            undo_inside id w
        · exact undo_inside id w
  | savepoint name =>
      dsimp only
      split
      · exact .throw_bind ..
      · exact update_inside id w (fun _ => rfl) fun _ => rfl
  | release name =>
      dsimp only
      split
      · exact .throw _
      · split
        · exact .throw_bind ..
        · split
          · exact endTransaction_inside id w
          · exact update_inside id w (fun _ => rfl) fun _ => rfl
  | rollbackTo name =>
      dsimp only
      split
      · exact .throw _
      · refine update_inside id w (fun s => ?_) fun s => ?_ <;> dsimp only <;> split
        · rfl
        · rfl
        · exact (Calm.expire.keys _).trans (Calm.cutOff.keys s)
        · rfl

variable {id w} in
theorem Move.inside {v : World} (move : Move id w v) : Inside id w v := by
  cases move with
  | tend tends => exact tends.inside
  | commit _ => exact commit_inside id w
  | undo => exact undo_inside id w

variable {id w} in
theorem Moves.inside {v : World} (moves : Moves id w v) : Inside id w v := by
  induction moves with
  | refl => exact Std.Refl.refl w
  | tail _ move before => exact IsTrans.trans _ _ _ before move.inside

variable {id w} in
theorem Turn.inside {v : World} (turn : Turn id w v) : Inside id w v := by
  cases turn with
  | move moves => exact moves.inside
  | control ready c moves =>
      exact IsTrans.trans _ _ _ ready.inside (IsTrans.trans _ _ _ (control_inside ..) moves.inside)

theorem step_inside (run : Nat) : Leads (Inside id) (step id run) w :=
  (step_turns id run w).inside

theorem reset_inside (run : Nat) : Leads (Inside id) (reset id run) w :=
  (reset_moves id run w).inside

theorem controls_inside (cs : List Control) : Leads (Inside id) (controls id cs) w := by
  induction cs generalizing w with
  | nil => exact .pure _
  | cons c rest ih =>
      refine .bind (.tryCatch (control_inside id w c) fun fault w _ => ?_) fun _ w _ => ih w
      exact .bind (settle_tends id w).inside fun _ _ _ => .throw _

end Inside

/-! ## Statements and sessions that come and go -/

/-- A statement was made ready, under the next number of its session. -/
structure Prepares (id run : Nat) (w v : World) : Prop where
  next : v.sessions.next = w.sessions.next
  statements : ∀ n ks, w.statements id = some (n, ks) →
    run = n ∧ v.statements id = some (n + 1, ks ++ [n])
  elsewhere : ∀ other, other ≠ id → v.session? other = w.session? other

/-- A session takes in a statement. -/
theorem takeIn_prepares (id : Nat) (w : World) (r : Run) (informed : Bool) :
    Prepares id (w.sessionAt id).runs.next w (w.change id (Session.takeIn r informed)) where
  next := rfl
  statements n ks there := by
    obtain ⟨s, found, numbers⟩ := Option.map_eq_some_iff.1 there
    obtain ⟨rfl, rfl⟩ := Prod.mk.inj numbers
    refine ⟨by rw [World.sessionAt_of_found found], ?_⟩
    simp [World.statements, World.session?_change_of_found found, Session.takeIn, Pool.keys,
      Pool.insert]
  elsewhere _ there := elsewhere_change w _ there

theorem exec_schema (id : Nat) (w : World) : ∃ c, exec (schema id) w = (.ok c, w) := by
  simp only [schema, exec_bind, exec_get, exec_session]
  split <;> exact ⟨_, rfl⟩

/-- A statement as it is made ready, with the tables that were found. -/
def Run.ready (ts : List Token) (p : Prepared) (c : Outcome Contents) : Run :=
  { tokens := ts, prepared := p, form := c.toOption.map Contents.form }

/-- A statement is taken in as it was made ready; what cannot be made ready leaves no trace. -/
theorem prepare_cases (id : Nat) (sql : List Char) (w : World) :
    match exec (prepare id sql) w with
    | (.ok (some run), v) => run = (w.sessionAt id).runs.next ∧ ∃ ts c p informed,
        exec (schema id) w = (.ok c, w) ∧
          (Program.front sql = .ok (some ts) ∧ Program.prepare c ts = .ok p) ∧
          v = w.change id (Session.takeIn (Run.ready ts p c) informed)
    | (_, v) => v = w := by
  unfold prepare
  rw [exec_bind, exec_ofOutcome]
  rcases front : Program.front sql with fault | _ | ts
  · rfl
  · rfl
  obtain ⟨c, known⟩ := exec_schema id w
  dsimp only
  rw [exec_bind, known]
  dsimp only
  rw [exec_bind, exec_ofOutcome]
  cases made : Program.prepare c ts with
  | error fault => rfl
  | ok p =>
      dsimp only
      by_cases informs : p.access ≠ .none && (c.toOption.map Contents.form).isSome
      · rw [if_pos informs, exec_bind, exec_update]
        refine ⟨?_, ts, c, p, true, rfl, ⟨rfl, made⟩, ?_⟩
        · unfold World.sessionAt
          rw [World.session?_change, if_pos rfl]
          cases w.session? id <;> rfl
        · refine (World.change_change ..).trans (World.change_congr fun s session => ?_)
          rw [World.session?_change_of_found session]
          simp only [Session.takeIn, Bool.or_true]
          rfl
      · rw [if_neg informs]
        refine ⟨rfl, ts, c, p, false, rfl, ⟨rfl, made⟩, World.change_congr fun s session => ?_⟩
        rw [session]
        simp only [Session.takeIn, Bool.or_false]
        rfl

/-- A text that is too long to be read is not made ready. -/
theorem exec_prepare_of_unread (id : Nat) {sql : List Char} (w : World) {fault : Fault}
    (front : Program.front sql = .error fault) : exec (prepare id sql) w = (.error fault, w) := by
  unfold prepare
  rw [front, exec_bind, exec_ofOutcome]

theorem prepare_spec (id : Nat) (sql : List Char) (w : World) :
    match exec (prepare id sql) w with
    | (.ok (some run), v) => Prepares id run w v
    | (_, v) => Inside id w v := by
  have spec := prepare_cases id sql w
  rcases answer : exec (prepare id sql) w with ⟨fault | _ | run, v⟩ <;> rw [answer] at spec
  · exact (congrArg (Inside id w) spec).mpr (Std.Refl.refl w)
  · exact (congrArg (Inside id w) spec).mpr (Std.Refl.refl w)
  · obtain ⟨rfl, ts, c, p, informed, _, _, rfl⟩ := spec
    exact takeIn_prepares id w _ informed

/-- A statement was given up. -/
structure Finalizes (id run : Nat) (w v : World) : Prop where
  next : v.sessions.next = w.sessions.next
  statements : v.statements id =
    (w.statements id).map fun (n, ks) => (n, ks.filter (· ≠ run))
  elsewhere : ∀ other, other ≠ id → v.session? other = w.session? other

theorem finalize_spec (id run : Nat) (w : World) :
    Finalizes id run w (exec (finalize id run) w).2 := by
  have before : Inside id w (exec (reset id run) w).2 := reset_inside id w run
  rw [exec_finalize]
  refine ⟨before.next, ?_,
    fun other there => (elsewhere_change _ _ there).trans (before.elsewhere other there)⟩
  rw [← before.statements]
  simp [World.statements, World.session?_change, Function.comp_def, Pool.keys, Pool.erase,
    List.filter_map]

/-- A session was opened, without statements. -/
structure Connects (id : Nat) (w v : World) : Prop where
  fresh : id = w.sessions.next
  next : v.sessions.next = id + 1
  statements : v.statements id = some (1, [])
  unlocked : ∀ s, v.session? id = some s → s.lock = .none
  elsewhere : ∀ other, other ≠ id → v.session? other = w.session? other

/-- A session that was opened is told how long to wait. -/
theorem Connects.setTimeout {id : Nat} {w v : World} (connects : Connects id w v)
    (wait : Option Nat) : Connects id w (exec (setTimeout id wait) v).2 := by
  have inside : Inside id v (exec (Action.setTimeout id wait) v).2 :=
    update_inside id v (fun _ => rfl) fun _ => rfl
  refine ⟨connects.fresh, inside.next.trans connects.next,
    inside.statements.trans connects.statements, fun s there => ?_, fun other away =>
      (inside.elsewhere other away).trans (connects.elsewhere other away)⟩
  change (v.change id _).session? id = some s at there
  rw [World.session?_change, if_pos rfl] at there
  obtain ⟨t, found, rfl⟩ := Option.map_eq_some_iff.1 there
  exact connects.unlocked t found

/-- A session that is opened is a new one, which has done nothing yet. -/
theorem connect_cases (mode : OpenMode) (source : String) (w : World) :
    match exec (connect mode source) w with
    | (.ok id, v) => id = w.sessions.next ∧ ∃ file readOnly,
        v.sessions = (w.sessions.insert { file, readOnly }).2
    | (.error _, v) => v.sessions = w.sessions := by
  unfold connect
  rw [exec_bind, exec_ofOutcome]
  cases Location.ofSource mode source with
  | error fault => rfl
  | ok l =>
      dsimp only
      rw [exec_bind, exec_get]
      dsimp only
      by_cases own : l.isPrivate
      · rw [if_pos own]
        exact ⟨rfl, none, l.mode = .readOnly, rfl⟩
      · rw [if_neg own]
        cases w.disk.locate? l.path with
        | none => rfl
        | some path =>
            dsimp only
            by_cases missing : (w.disk.file? path).isNone
            · rw [if_pos missing]
              by_cases refused : l.mode ≠ .create
              · rw [if_pos refused]
                rfl
              · rw [if_neg refused]
                exact ⟨rfl, some path, l.mode = .readOnly, rfl⟩
            · rw [if_neg missing]
              exact ⟨rfl, some path, l.mode = .readOnly, rfl⟩

theorem connect_spec (mode : OpenMode) (source : String) (w : World) :
    match exec (connect mode source) w with
    | (.ok id, v) => Connects id w v
    | (.error _, v) => v.sessions = w.sessions := by
  have spec := connect_cases mode source w
  rcases answer : exec (connect mode source) w with ⟨fault | id, v⟩ <;> rw [answer] at spec
  · exact spec
  · obtain ⟨rfl, file, readOnly, opened⟩ := spec
    refine ⟨rfl, by rw [opened]; rfl, ?_, fun s there => ?_, fun other there => ?_⟩
    · simp [World.statements, World.session?, opened, Pool.get?_insert, Pool.keys]
    · obtain rfl : { file, readOnly } = s := by
        simpa [World.session?, opened, Pool.get?_insert] using there
      rfl
    · simp [World.session?, opened, Pool.get?_insert, there]

theorem session?_disconnect (id other : Nat) (w : World) :
    (exec (disconnect id) w).2.session? other =
      if other = id then none else w.session? other :=
  Pool.get?_erase ..

end Engine

end SqlDriver
