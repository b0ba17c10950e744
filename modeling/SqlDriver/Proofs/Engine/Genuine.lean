/-
# SqlDriver.Proofs.Engine.Genuine -- statements are what their texts say

A statement is genuine if its rows come from reading exactly where its text reads, and if it hands
back rows of a change only where they do not.  Statements are made ready genuine, are made ready
anew genuine, and whatever is done with them they stay so (`World.Genuine`, `step_honest`).  So
whether a statement reads can be seen from what it was made into.
-/
import SqlDriver.Proofs.Engine.Prepared
import SqlDriver.Proofs.Engine.Rest

namespace SqlDriver.Engine

set_option autoImplicit false

open SqlDriver.Engine.Action

/-! ## Genuine statements -/

/-- A statement reads exactly if its text does, and then hands back no rows of a change. -/
structure Run.Genuine (r : Run) : Prop where
  text : r.prepared.program.isReading = isReadingText r.tokens
  phase : r.prepared.program.isReading → ∀ rows changes, r.phase ≠ .giving rows changes

def World.Genuine (w : World) : Prop :=
  ∀ id run s r, w.RunAt id run s r → r.Genuine

/-- Statements that were genuine still are. -/
def Honest (w v : World) : Prop :=
  w.Genuine → v.Genuine

instance : Std.Refl Honest where
  refl _ := id

instance : IsTrans World Honest where
  trans _ _ _ first second := second ∘ first

theorem Run.Genuine.idle {r : Run} (genuine : r.Genuine) (cutOff : Bool) :
    ({ r with phase := .idle, cutOff } : Run).Genuine :=
  ⟨genuine.text, fun _ => nofun⟩

theorem Run.Genuine.reading {r : Run} (genuine : r.Genuine) (c : Contents) (flow : Flow) :
    ({ r with phase := .reading c flow } : Run).Genuine :=
  ⟨genuine.text, fun _ => nofun⟩

/-- A statement changes the database. -/
def World.ChangesAt (w : World) (id run : Nat) : Prop :=
  ∀ s r, w.RunAt id run s r → r.prepared.program.isReading = false

section Walk

variable (id run : Nat) (w : World)

/-- A session is changed, and each of its statements stems from a genuine one. -/
theorem update_honest {f : Session → Session}
    (stems : ∀ s key r, (f s).runs.get? key = some r →
      ∃ old, s.runs.get? key = some old ∧ (old.Genuine → r.Genuine)) :
    Leads Honest (update id f) w := by
  intro genuine other key t r there
  obtain ⟨session, found⟩ := there
  change (w.change id f).session? other = some t at session
  rw [World.session?_change] at session
  split at session
  · obtain ⟨s, before, rfl⟩ := Option.map_eq_some_iff.1 session
    obtain ⟨old, there, goes⟩ := stems s key r found
    exact goes (genuine other key s old ⟨before, there⟩)
  · exact genuine other key t r ⟨session, found⟩

theorem update_honest_of_runs {f : Session → Session} (runs : ∀ s, (f s).runs = s.runs) :
    Leads Honest (update id f) w :=
  update_honest id w fun s key r found => ⟨r, by rwa [runs] at found, fun genuine => genuine⟩

/-- A statement is changed. -/
theorem updateRun_honest {f : Run → Run}
    (goes : ∀ s r, w.RunAt id run s r → r.Genuine → (f r).Genuine) :
    Leads Honest (updateRun id run f) w := by
  intro genuine other key t r there
  obtain ⟨session, found⟩ := there
  change (w.change id _).session? other = some t at session
  rw [World.session?_change] at session
  split at session
  · next here =>
      subst here
      obtain ⟨s, before, rfl⟩ := Option.map_eq_some_iff.1 session
      change (s.runs.modify run f).get? key = some r at found
      rw [Pool.get?_modify] at found
      split at found
      · next same =>
          subst same
          obtain ⟨old, there, rfl⟩ := Option.map_eq_some_iff.1 found
          exact goes s old ⟨before, there⟩ (genuine other key s old ⟨before, there⟩)
      · exact genuine other key s r ⟨before, found⟩
  · exact genuine other key t r ⟨session, found⟩

theorem settle_honest : Leads Honest (settle id) w :=
  update_honest_of_runs id w Session.runs_settle

theorem idle_honest (cutOff : Run → Bool) :
    Leads Honest (updateRun id run fun r => { r with phase := .idle, cutOff := cutOff r }) w :=
  updateRun_honest id run w fun _ r _ genuine => genuine.idle (cutOff r)

variable {id w} in
theorem Locks.honest {v : World} (locks : Locks id w v) : Honest w v := by
  obtain ⟨f, rfl⟩ := locks
  exact update_honest_of_runs id w fun _ => rfl

/-! ## Ends -/

theorem commit_honest : Leads Honest (commit id) w := by
  refine .session_bind ?_
  extract_lets settled stored
  have settles (w : World) : Leads Honest (settled ()) w :=
    update_honest_of_runs id w fun _ => rfl
  have stores (w : World) : Leads Honest (stored ()) w := by
    dsimp only [stored]
    split
    · refine .bind (show Honest w _ from fun genuine id run s r there => ?_) fun _ w _ => settles w
      exact genuine id run s r ⟨there.session, there.found⟩
    · exact .bind (update_honest_of_runs id w fun _ => rfl) fun _ w _ => settles w
    · exact settles w
  split
  · refine .get_bind ?_
    split
    · exact .bind (update_honest_of_runs id w fun _ => rfl) fun _ _ _ => .throw_bind ..
    · exact stores w
  · exact settles w

theorem discard_stems (s : Session) (key : Nat) (r : Run)
    (found : s.discard.runs.get? key = some r) :
    ∃ old, s.runs.get? key = some old ∧ (old.Genuine → r.Genuine) := by
  unfold Session.discard at found
  dsimp only at found
  split at found
  · rw [Session.expire, Pool.get?_mapItems] at found
    obtain ⟨old, there, rfl⟩ := Option.map_eq_some_iff.1 found
    exact ⟨old, there, fun genuine => ⟨genuine.text, genuine.phase⟩⟩
  · exact ⟨r, found, fun genuine => genuine⟩

theorem undo_honest : Leads Honest (undo id) w := by
  refine update_honest id w fun s key r found => ?_
  rw [Session.runs_settle] at found
  exact discard_stems { s with autocommit := true } key r found

theorem finishAlone_honest : Leads Honest (finishAlone id) w := by
  refine .session_bind ?_
  extract_lets settled
  have settles (w : World) : Leads Honest (settled ()) w := settle_honest id w
  split
  · refine .bind (.tryCatch (commit_honest id w) fun fault w _ => ?_) fun _ w _ => settles w
    exact .bind (update_honest id w discard_stems) fun _ w _ =>
      .bind (settle_honest id w) fun _ _ _ => .throw _
  · exact settles w

theorem finishChange_honest (changes : Nat) : Leads Honest (finishChange id run changes) w :=
  .bind (idle_honest id run w Run.cutOff) fun _ w _ =>
    .bind (update_honest_of_runs id w fun _ => rfl) fun _ w _ => finishAlone_honest id w

theorem halt_honest : Leads Honest (halt id run) w := by
  refine .bind (a := run? id run) (.session_bind (.pure _)) fun r w _ => ?_
  split
  · exact .bind (idle_honest id run w fun _ => false) fun _ w _ => settle_honest id w
  · exact finishChange_honest id run w _
  · exact settle_honest id w

theorem fail_honest {α : Type} (fault : Fault) :
    Leads Honest (fail id run fault : Action α) w :=
  .bind (idle_honest id run w fun _ => false) fun _ w _ =>
    .bind (settle_honest id w) fun _ _ _ => .throw _

/-! ## Programs -/

theorem advance_honest (c : Contents) (flow : Flow) :
    Leads Honest (advance id run c flow) w := by
  refine .get_bind (.session_bind ?_)
  extract_lets now
  split
  · exact fail_honest id run w _
  · exact .bind (halt_honest id run w) fun _ _ _ => .pure _
  · exact .bind (updateRun_honest id run w fun _ _ _ genuine => genuine.reading c _)
      fun _ _ _ => .pure _

variable {id run w} in
theorem World.ChangesAt.change (changes : w.ChangesAt id run) {f : Session → Session}
    (runs : ∀ s, (f s).runs = s.runs) : (w.change id f).ChangesAt id run := by
  rintro t r ⟨session, found⟩
  rw [World.session?_change, if_pos rfl] at session
  obtain ⟨s, before, rfl⟩ := Option.map_eq_some_iff.1 session
  exact changes s r ⟨before, by rwa [runs] at found⟩

theorem give_honest (changes : w.ChangesAt id run) (count : Nat) (rows : List Tuple) :
    Leads Honest (give id run count rows) w := by
  cases rows with
  | nil => exact .bind (finishChange_honest id run w _) fun _ _ _ => .pure _
  | cons row rest =>
      refine .bind (updateRun_honest id run w fun s r there genuine => ?_) fun _ _ _ => .pure _
      exact ⟨genuine.text, fun reads => absurd ((changes s r there).symm.trans reads) nofun⟩

theorem runChange_honest (changes : w.ChangesAt id run) (c : Contents) (m : Mutation)
    (hasRows : Bool) : Leads Honest (runChange id run c m hasRows) w := by
  refine .session_bind ?_
  split
  · next work _ =>
      refine .bind (update_honest_of_runs id w fun _ => rfl) fun _ v answer => ?_
      cases answer
      have numbered := changes.change (f := fun s => { s with lastNumber := work.lastNumber })
        fun _ => rfl
      extract_lets handed
      have hands {v : World} (changes : v.ChangesAt id run) : Leads Honest (handed ()) v := by
        dsimp only [handed]
        split
        · exact give_honest id run v changes _ _
        · exact .bind (finishChange_honest id run v _) fun _ _ _ => .pure _
      split
      · refine .bind (update_honest_of_runs id _ fun _ => rfl) fun _ v kept => ?_
        cases kept
        exact hands (numbered.change fun _ => rfl)
      · exact hands numbered
  · refine .bind (update_honest_of_runs id w fun _ => rfl) fun _ w _ => ?_
    extract_lets failed
    have fails (w : World) : Leads Honest (failed ()) w := fail_honest id run w _
    split
    · exact .bind (update_honest_of_runs id w fun _ => rfl) fun _ w _ =>
        .bind (finishChange_honest id run w _) fun _ w _ => fails w
    · exact .bind (undo_honest id w) fun _ w _ => fails w
    · exact fails w

theorem reshape_honest (c : Contents) : Leads Honest (reshape id c) w :=
  .bind (update_honest_of_runs id w fun _ => rfl) fun _ w _ =>
    update_honest_of_runs id w fun _ => rfl

theorem begin_honest (mode : BeginMode) : Leads Honest (begin id mode) w := by
  refine .session_bind ?_
  extract_lets readOnly begun
  have begins (w : World) : Leads Honest (begun ()) w := by
    refine .session_bind ?_
    split
    · exact update_honest_of_runs id w fun _ => rfl
    · exact .throw _
  split
  · exact begins w
  · split
    · exact .bind (lockShared_locks id w).honest fun _ w _ => begins w
    · exact .bind (lockReserved_locks id w).honest fun _ w _ => begins w
  · split
    · exact .bind (lockShared_locks id w).honest fun _ w _ => begins w
    · exact .bind (lockExclusive_locks id w).honest fun _ w _ => begins w

theorem endTransaction_honest : Leads Honest (endTransaction id) w :=
  .bind (commit_honest id w) fun _ w _ =>
    .bind (update_honest_of_runs id w fun _ => rfl) fun _ w _ => settle_honest id w

theorem cutOff_stems (s : Session) (key : Nat) (r : Run)
    (found : s.cutOff.runs.get? key = some r) :
    ∃ old, s.runs.get? key = some old ∧ (old.Genuine → r.Genuine) := by
  rw [Session.cutOff, Pool.get?_mapItems] at found
  obtain ⟨old, there, rfl⟩ := Option.map_eq_some_iff.1 found
  refine ⟨old, there, fun genuine => ?_⟩
  split
  · exact ⟨genuine.text, genuine.phase⟩
  · exact genuine

theorem control_honest (c : Control) : Leads Honest (control id c) w := by
  refine .session_bind ?_
  cases c with
  | begin mode => exact begin_honest id w mode
  | commit =>
      dsimp only
      split
      · exact .throw_bind ..
      · split
        · exact .throw_bind ..
        · exact endTransaction_honest id w
  | rollback =>
      dsimp only
      split
      · exact .throw_bind ..
      · split
        · exact .bind (update_honest id w cutOff_stems) fun _ w _ => undo_honest id w
        · exact undo_honest id w
  | savepoint name =>
      dsimp only
      split
      · exact .throw_bind ..
      · exact update_honest_of_runs id w fun _ => rfl
  | release name =>
      dsimp only
      split
      · exact .throw _
      · split
        · exact .throw_bind ..
        · split
          · exact endTransaction_honest id w
          · exact update_honest_of_runs id w fun _ => rfl
  | rollbackTo name =>
      dsimp only
      split
      · exact .throw _
      · refine update_honest id w fun s key r found => ?_
        dsimp only at found
        split at found
        · rw [Session.expire, Pool.get?_mapItems] at found
          obtain ⟨cut, before, rfl⟩ := Option.map_eq_some_iff.1 found
          obtain ⟨old, there, goes⟩ := cutOff_stems s key cut before
          exact ⟨old, there, fun genuine => ⟨(goes genuine).text, (goes genuine).phase⟩⟩
        · exact ⟨r, found, fun genuine => genuine⟩

/-! ## Starts -/

/-- A program that runs for its own statement is honest. -/
theorem runProgram_honest {p : Prepared}
    (made : ∀ s r, w.RunAt id run s r → r.prepared = p) (c : Contents) :
    Leads Honest (runProgram id run p c) w := by
  have done (w : World) : Leads Honest (do finishAlone id; return none : Action (Option Tuple)) w :=
    .bind (finishAlone_honest id w) fun _ _ _ => .pure _
  obtain ⟨a, course, same⟩ := exists_course id run p c w
  refine .congr same ?_
  cases course with
  | reads reading flow =>
      exact .bind (updateRun_honest id run w fun _ _ _ genuine => genuine.reading c flow)
        fun _ w _ => advance_honest id run w c flow
  | changes program =>
      refine runChange_honest id run w (fun s r there => ?_) c _ _
      rw [made s r there, program]
      rfl
  | reshapes => exact .bind (reshape_honest id w _) fun _ w _ => done w
  | writes =>
      exact .bind (update_honest_of_runs id w fun _ => rfl) fun _ w _ => done w
  | @controls k _ =>
      exact .bind (control_honest id w k) fun _ w _ =>
        .bind (settle_honest id w) fun _ _ _ => .pure _
  | nothing => exact done w
  | refused => exact .throw _

/-- A statement is made ready anew from its text, if tables have changed since. -/
theorem refresh_honest {s : Session} {r : Run} (there : w.RunAt id run s r) (idle : r.phase = .idle)
    (c : Contents) :
    Leads Honest (refresh id run r c) w ∧
      Ensures (fun p v => ∀ s r, v.RunAt id run s r → r.prepared = p) (refresh id run r c) w := by
  have sole {w : World} {s t : Session} {r q : Run} (there : w.RunAt id run s r)
      (also : w.RunAt id run t q) : q = r := by
    cases there.session.symm.trans also.session
    exact Option.some.inj (also.found.symm.trans there.found)
  unfold refresh
  by_cases fresh : r.form = some c.form
  · rw [if_pos fresh]
    exact ⟨.pure _, .pure fun t q also => by rw [sole there also]⟩
  rw [if_neg fresh]
  cases made : Program.prepare (.ok c) r.tokens with
  | error fault => exact ⟨.throw _, .throw _⟩
  | ok p =>
      refine ⟨.bind (.pure p) fun _ w answer => ?_, .bind fun _ w answer => ?_⟩ <;> cases answer
      · refine .bind (updateRun_honest id run w fun t q also genuine => ?_) fun _ w _ =>
          .bind (settle_honest id w) fun _ _ _ => .pure _
        obtain rfl := sole there also
        exact ⟨prepare_isReading made, fun _ rows changes giving => by cases idle.symm.trans giving⟩
      · refine .bind fun _ v updated => .bind fun _ u settled => .pure fun t q also => ?_
        cases updated
        cases settled
        let f : Run → Run := fun r => { r with prepared := p, form := some c.form }
        rw [sole ((there.changeRun f).change (Session.runs_settle _)) also]

theorem start_honest {s : Session} {r : Run} (there : w.RunAt id run s r) (idle : r.phase = .idle) :
    Leads Honest (start id run r) w := by
  have sole (t : Session) (q : Run) (also : w.RunAt id run t q) : q.prepared = r.prepared := by
    cases there.session.symm.trans also.session
    cases there.found.symm.trans also.found
    rfl
  unfold start
  split
  · exact .get_bind (.session_bind (runProgram_honest id run w sole _))
  · refine .bind (lockFor_locks id w _).honest fun _ v locked => ?_
    obtain rfl := exec_lockFor locked
    refine .bind (a := contents id) ?_ fun c u known => ?_
    · rw [Leads, exec_contents]
      exact Std.Refl.refl _
    obtain rfl := (Prod.mk.inj ((exec_contents ..).symm.trans known)).2
    obtain ⟨honest, made⟩ := refresh_honest id run _ (there.change (f := Session.take _) rfl) idle c
    refine .bind honest fun p v refreshed =>
      .bind (lockFor_locks id v _).honest fun _ u locked => ?_
    obtain rfl := exec_lockFor locked
    refine runProgram_honest id run _ (fun t q also => ?_) c
    obtain ⟨session, found⟩ := also
    rw [World.session?_change, if_pos rfl] at session
    obtain ⟨s, before, rfl⟩ := Option.map_eq_some_iff.1 session
    exact made p v refreshed s q ⟨before, found⟩

theorem step_honest : Leads Honest (step id run) w := by
  intro genuine
  unfold step
  rw [exec_bind, exec_run?]
  dsimp only
  cases found : (w.sessionAt id).runs.get? run with
  | none => exact genuine
  | some r =>
      obtain ⟨s, there⟩ := World.runAt_of_found found
      dsimp only
      cases phase : r.phase with
      | idle =>
          refine Leads.tryCatch (r := Honest) (.tryCatch (start_honest id run w there phase)
            fun fault w _ => ?_) (fun fault w _ => fail_honest id run w fault) genuine
          split
          · exact .bind (update_honest_of_runs id w fun _ => rfl) fun _ _ _ => .throw _
          · exact .throw _
      | reading c flow =>
          dsimp only
          split
          · exact fail_honest id run w _ genuine
          · exact advance_honest id run w c flow genuine
      | giving rows changes =>
          refine give_honest id run w (fun t q also => ?_) changes rows genuine
          cases there.session.symm.trans also.session
          cases there.found.symm.trans also.found
          refine Bool.eq_false_iff.2 fun reads => ?_
          exact (genuine id run s r there).phase reads rows changes phase

theorem reset_honest : Leads Honest (reset id run) w :=
  .tryCatch (halt_honest id run w) fun _ _ _ => .pure _

theorem finalize_honest : Leads Honest (finalize id run) w := by
  refine .bind (reset_honest id run w) fun _ w _ => update_honest id w fun s key r found => ?_
  rw [Pool.get?_erase] at found
  split at found
  · cases found
  · exact ⟨r, found, fun genuine => genuine⟩

theorem controls_honest (cs : List Control) : Leads Honest (controls id cs) w := by
  induction cs generalizing w with
  | nil => exact .pure _
  | cons c cs ih =>
      refine .bind (a := tryCatch (control id c) _) ?_ fun _ w _ => ih w
      exact .tryCatch (control_honest id w c) fun fault w _ =>
        .bind (settle_honest id w) fun _ _ _ => .throw _

theorem prepare_honest (sql : List Char) : Leads Honest (prepare id sql) w := by
  have spec := prepare_cases id sql w
  rw [Leads]
  rcases answer : exec (prepare id sql) w with ⟨fault | _ | run, v⟩ <;> rw [answer] at spec
  · subst spec
    exact fun genuine => genuine
  · subst spec
    exact fun genuine => genuine
  · obtain ⟨_, ts, c, p, informed, _, ⟨_, made⟩, rfl⟩ := spec
    rintro genuine other key t r ⟨session, found⟩
    dsimp only at session
    rw [World.session?_change] at session
    split at session
    · obtain ⟨s, before, rfl⟩ := Option.map_eq_some_iff.1 session
      change (s.runs.insert (Run.ready ts p c)).2.get? key = some r at found
      rw [Pool.get?_insert] at found
      split at found
      · cases found
        exact ⟨prepare_isReading made, fun _ _ _ giving => by cases giving⟩
      · exact genuine other key s r ⟨before, found⟩
    · exact genuine other key t r ⟨session, found⟩

end Walk

/-- A session that is opened has no statements. -/
theorem connect_honest (mode : OpenMode) (source : String) (w : World) :
    Leads Honest (connect mode source) w := by
  intro genuine other key s r there
  obtain ⟨session, found⟩ := there
  have spec := connect_spec mode source w
  rcases answer : exec (connect mode source) w with ⟨fault | id, v⟩ <;>
    rw [answer] at spec session
  · exact genuine other key s r ⟨by rwa [World.session?, spec] at session, found⟩
  · by_cases here : other = id
    · subst here
      have statements := spec.statements
      rw [World.statements, session] at statements
      have none_ : s.runs.items = [] :=
        List.map_eq_nil_iff.1 (Prod.mk.inj (Option.some.inj statements)).2
      simp [Pool.get?_eq_some_iff, none_] at found
    · exact genuine other key s r ⟨spec.elsewhere other here ▸ session, found⟩

end SqlDriver.Engine
