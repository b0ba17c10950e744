/-
# SqlDriver.Proofs.Engine.Transaction -- what an open transaction keeps back

While a transaction is open, nothing that its session does becomes permanent: the engine
commits on its own outside of transactions only.  What a commit answers and leaves behind is
said once (`exec_commit`).  A control statement may commit, and then no transaction is open
behind it (`control_guards`).  So where a transaction is open before and after some work on a
session, all that was done is still up to it (`step_guards`).
-/
import SqlDriver.Proofs.Engine.Move

namespace SqlDriver.Engine

set_option autoImplicit false

open SqlDriver.Engine.Action

namespace World

/-- A transaction is open in a session. -/
def inTransaction (w : World) (id : Nat) : Bool :=
  (w.session? id).any fun s => !s.autocommit

/-- A change that keeps the mode of a session keeps its transaction. -/
theorem inTransaction_change (w : World) (id : Nat) {f : Session → Session}
    (same : ∀ s, (f s).autocommit = s.autocommit) :
    (w.change id f).inTransaction id = w.inTransaction id := by
  rw [inTransaction, session?_change, if_pos rfl]
  cases found : w.session? id <;> simp [inTransaction, found, same]

theorem not_inTransaction_change (w : World) (id : Nat) {f : Session → Session}
    (ended : ∀ s, (f s).autocommit = true) : (w.change id f).inTransaction id = false := by
  rw [inTransaction, session?_change, if_pos rfl]
  cases w.session? id <;> simp [ended]

theorem autocommit_sessionAt (w : World) (id : Nat) :
    (w.sessionAt id).autocommit = !w.inTransaction id := by
  cases found : w.session? id <;> simp [sessionAt, inTransaction, found]

end World

/-! ## What is permanent -/

/-- Nothing of a session became permanent. -/
structure Unpublished (id : Nat) (w v : World) : Prop where
  disk : v.disk = w.disk
  own : (v.session? id).map (fun s => (s.file, s.own)) =
    (w.session? id).map fun s => (s.file, s.own)

/-- Nothing of a session became permanent, and no transaction began or ended. -/
structure Quiet (id : Nat) (w v : World) : Prop extends Unpublished id w v where
  open_iff : v.inTransaction id = w.inTransaction id

/-- Where a transaction is open afterwards, it was open before, and nothing became
permanent. -/
def Settles (id : Nat) (w v : World) : Prop :=
  v.inTransaction id → w.inTransaction id ∧ Unpublished id w v

/-- Where a transaction is open before and afterwards, nothing became permanent. -/
def Guards (id : Nat) (w v : World) : Prop :=
  w.inTransaction id → v.inTransaction id → Unpublished id w v

section Relations

variable {id : Nat}

theorem Unpublished.trans {w u v : World} (first : Unpublished id w u)
    (second : Unpublished id u v) : Unpublished id w v :=
  ⟨second.disk.trans first.disk, second.own.trans first.own⟩

instance : Std.Refl (Unpublished id) where
  refl _ := ⟨rfl, rfl⟩

instance : IsTrans World (Unpublished id) where
  trans _ _ _ := Unpublished.trans

instance : Std.Refl (Quiet id) where
  refl _ := ⟨⟨rfl, rfl⟩, rfl⟩

instance : Std.Refl (Settles id) where
  refl _ isOpen := ⟨isOpen, rfl, rfl⟩

instance : IsTrans World (Settles id) where
  trans _ _ _ first second isOpen :=
    let ⟨between, after⟩ := second isOpen
    (first between).imp_right fun before => before.trans after

instance : Std.Refl (Guards id) where
  refl _ _ _ := ⟨rfl, rfl⟩

instance : Trans (Guards id) (Settles id) (Guards id) where
  trans first second before isOpen :=
    let ⟨between, after⟩ := second isOpen
    (first before between).trans after

instance : Trans (Quiet id) (Guards id) (Guards id) where
  trans first second before isOpen :=
    first.toUnpublished.trans (second (first.open_iff.trans before) isOpen)

theorem Quiet.settles {w v : World} (quiet : Quiet id w v) : Settles id w v :=
  fun isOpen => ⟨quiet.open_iff ▸ isOpen, quiet.toUnpublished⟩

theorem Unpublished.guards {w v : World} (same : Unpublished id w v) : Guards id w v :=
  fun _ _ => same

theorem Settles.guards {w v : World} (settles : Settles id w v) : Guards id w v :=
  fun _ isOpen => (settles isOpen).2

/-- A change of a session alone publishes nothing, if its own database is what it was. -/
theorem unpublished_change (w : World) {f : Session → Session} (file : ∀ s, (f s).file = s.file)
    (own : ∀ s, (f s).own = s.own) : Unpublished id w (w.change id f) where
  disk := rfl
  own := by
    rw [World.session?_change, if_pos rfl]
    simp [Function.comp_def, file, own]

theorem Tends.quiet {w v : World} (tends : Tends id w v) : Quiet id w v := by
  obtain ⟨f, calm, rfl⟩ := tends
  exact ⟨unpublished_change w calm.file calm.own, w.inTransaction_change id calm.autocommit⟩

end Relations

/-! ## Commits -/

/-- A session that has nothing to commit any more. -/
def Session.concluded (s : Session) : Session :=
  { s with
    working := none, dirty := false, reshaped := false, savepoints := [], bySavepoint := false,
    lock := if s.lock.atLeast .shared then .shared else .none }

/-- What a commit answers and leaves behind.  One that is refused keeps others from beginning to
read. -/
inductive Commits (id : Nat) (w : World) : Outcome Unit → World → Prop where
  | refused (writes : (w.sessionAt id).mayWrite)
      (held : w.isHeld id (w.sessionAt id).file .shared) :
      Commits id w (.error busy) (w.change id fun s => { s with lock := s.lock.max .pending })
  | unchanged (clean : (w.sessionAt id).working = none ∨ (w.sessionAt id).dirty = false) :
      Commits id w (.ok ()) (w.change id Session.concluded)
  /-- A database of the session's own is kept in the session. -/
  | kept {c : Contents} (file : (w.sessionAt id).file = none)
      (working : (w.sessionAt id).working = some c) :
      Commits id w (.ok ()) (w.change id fun s => Session.concluded { s with own := c })
  | stored {path : String} {c : Contents} (file : (w.sessionAt id).file = some path)
      (working : (w.sessionAt id).working = some c) :
      Commits id w (.ok ())
        (World.change { w with disk := w.disk.put path (.database c) } id Session.concluded)

section Moves

variable (id : Nat) (w : World)

theorem exec_commit : Commits id w (exec (commit id) w).1 (exec (commit id) w).2 := by
  unfold commit
  rw [exec_bind, exec_session]
  dsimp only
  by_cases writes : (w.sessionAt id).mayWrite
  · rw [if_pos writes, exec_bind, exec_get]
    dsimp only
    by_cases held : w.isHeld id (w.sessionAt id).file .shared
    · rw [if_pos held]
      exact .refused writes held
    · rw [if_neg held]
      rcases file : (w.sessionAt id).file with _ | path <;>
        rcases working : (w.sessionAt id).working with _ | c
      · exact .unchanged (.inl working)
      · change Commits id w (.ok ())
          ((w.change id fun s => { s with own := c }).change id Session.concluded)
        rw [World.change_change]
        exact .kept file working
      · exact .unchanged (.inl working)
      · exact .stored file working
  · rw [if_neg writes]
    simp only [Session.mayWrite, Bool.or_eq_true, not_or, Bool.not_eq_true] at writes
    exact .unchanged (.inr writes.1)

/-- A commit fails because another session is in the way, and then does no more than to
wait; else it leaves it at that whether a transaction is open. -/
theorem commit_cases :
    match exec (commit id) w with
    | (.error _, v) => Tends id w v
    | (.ok _, v) => v.inTransaction id = w.inTransaction id := by
  have commits := exec_commit id w
  generalize exec (commit id) w = after at commits ⊢
  obtain ⟨answer, v⟩ := after
  cases commits with
  | refused => exact ⟨_, by constructor <;> intro <;> rfl, rfl⟩
  | unchanged => exact w.inTransaction_change id fun _ => rfl
  | kept => exact w.inTransaction_change id fun _ => rfl
  | @stored path c =>
      exact World.inTransaction_change { w with disk := w.disk.put path (.database c) } id
        fun _ => rfl

theorem undo_ends : (exec (undo id) w).2.inTransaction id = false :=
  w.not_inTransaction_change id fun s =>
    (Calm.settle.autocommit _).trans (Calm.discard.autocommit { s with autocommit := true })

variable {id w} in
theorem Move.settles {v : World} (move : Move id w v) : Settles id w v := by
  cases move with
  | tend tends => exact tends.quiet.settles
  | commit alone =>
      have before : w.inTransaction id = false := by
        simpa [World.autocommit_sessionAt] using alone
      have spec := commit_cases id w
      intro isOpen
      rcases answer : exec (Action.commit id) w with ⟨fault | _, v⟩ <;> rw [answer] at spec isOpen
      · rw [spec.quiet.open_iff, before] at isOpen
        cases isOpen
      · rw [spec, before] at isOpen
        cases isOpen
  | undo =>
      intro isOpen
      rw [undo_ends] at isOpen
      cases isOpen

variable {id w} in
theorem Moves.settles {v : World} (moves : Moves id w v) : Settles id w v := by
  induction moves with
  | refl => exact Std.Refl.refl w
  | tail _ move before => exact IsTrans.trans _ _ _ before move.settles

/-- An end of a transaction that fails leaves all as it was; else no transaction is open. -/
theorem endTransaction_cases :
    match exec (endTransaction id) w with
    | (.error _, v) => Quiet id w v
    | (.ok _, v) => v.inTransaction id = false := by
  have spec := commit_cases id w
  unfold endTransaction
  rw [exec_bind]
  rcases answer : exec (commit id) w with ⟨fault | _, v⟩ <;> rw [answer] at spec
  · exact spec.quiet
  · exact ((settle_tends id _).quiet.open_iff).trans
      (v.not_inTransaction_change id fun _ => rfl)

theorem endTransaction_guards : Leads (Guards id) (endTransaction id) w := by
  intro _ isOpen
  have spec := endTransaction_cases id w
  rcases answer : exec (endTransaction id) w with ⟨fault | _, v⟩ <;> rw [answer] at spec isOpen
  · exact spec.toUnpublished
  · rw [spec] at isOpen
    cases isOpen

theorem update_unpublished {f : Session → Session} (file : ∀ s, (f s).file = s.file)
    (own : ∀ s, (f s).own = s.own) : Leads (Unpublished id) (update id f) w :=
  unpublished_change w file own

theorem begin_unpublished (mode : BeginMode) : Leads (Unpublished id) (begin id mode) w := by
  have tends {w v : World} (tends : Tends id w v) : Unpublished id w v :=
    tends.quiet.toUnpublished
  refine .session_bind ?_
  extract_lets readOnly begun
  have begins (w : World) : Leads (Unpublished id) (begun ()) w := by
    refine .session_bind ?_
    split
    · exact update_unpublished id w (fun _ => rfl) fun _ => rfl
    · exact .throw _
  have shared := tends (lockShared_tends id w)
  split
  · exact begins w
  · split
    · exact .bind shared fun _ w _ => begins w
    · exact .bind (tends (lockReserved_tends id w)) fun _ w _ => begins w
  · split
    · exact .bind shared fun _ w _ => begins w
    · exact .bind (tends (lockExclusive_tends id w)) fun _ w _ => begins w

theorem undo_unpublished : Leads (Unpublished id) (undo id) w :=
  update_unpublished id w
    (fun s => (Calm.settle.file _).trans (Calm.discard.file { s with autocommit := true }))
    fun s => (Calm.settle.own _).trans (Calm.discard.own { s with autocommit := true })

theorem rollback_unpublished : Leads (Unpublished id) (control id .rollback) w := by
  refine .session_bind ?_
  dsimp only
  split
  · exact .throw_bind ..
  · split
    · exact .bind (update_unpublished id w Calm.cutOff.file Calm.cutOff.own) fun _ w _ =>
        undo_unpublished id w
    · exact undo_unpublished id w

theorem control_guards (c : Control) : Leads (Guards id) (control id c) w := by
  have same {w : World} {a : Action Unit} (leads : Leads (Unpublished id) a w) :
      Leads (Guards id) a w := leads.guards
  cases c with
  | begin mode => exact same (.session_bind (begin_unpublished id w mode))
  | rollback => exact same (rollback_unpublished id w)
  | commit =>
      refine .session_bind ?_
      dsimp only
      split
      · exact same (.throw_bind ..)
      · split
        · exact same (.throw_bind ..)
        · exact endTransaction_guards id w
  | savepoint name =>
      refine same (.session_bind ?_)
      dsimp only
      split
      · exact .throw_bind ..
      · exact update_unpublished id w (fun _ => rfl) fun _ => rfl
  | release name =>
      refine .session_bind ?_
      dsimp only
      split
      · exact same (.throw _)
      · split
        · exact same (.throw_bind ..)
        · split
          · exact endTransaction_guards id w
          · exact same (update_unpublished id w (fun _ => rfl) fun _ => rfl)
  | rollbackTo name =>
      refine same (.session_bind ?_)
      dsimp only
      split
      · exact .throw _
      · refine update_unpublished id w (fun s => ?_) fun s => ?_ <;> dsimp only <;> split <;> rfl

variable {id w} in
theorem Turn.guards {v : World} (turn : Turn id w v) : Guards id w v := by
  cases turn with
  | move moves => exact moves.settles.guards
  | control ready c moves =>
      exact Trans.trans ready.quiet (Trans.trans (control_guards id _ c) moves.settles)

end Moves

/-! ## Work on statements -/

section Statements

variable (id run : Nat) (w : World)

theorem step_guards : Leads (Guards id) (step id run) w :=
  (step_turns id run w).guards

theorem reset_settles : Leads (Settles id) (reset id run) w :=
  (reset_moves id run w).settles

theorem update_quiet {f : Session → Session} (file : ∀ s, (f s).file = s.file)
    (own : ∀ s, (f s).own = s.own) (autocommit : ∀ s, (f s).autocommit = s.autocommit) :
    Leads (Quiet id) (update id f) w :=
  ⟨unpublished_change w file own, w.inTransaction_change id autocommit⟩

theorem finalize_settles : Leads (Settles id) (finalize id run) w :=
  .bind (reset_settles id run w) fun _ w _ =>
    .mono (fun _ _ => Quiet.settles)
      (update_quiet id w (fun _ => rfl) (fun _ => rfl) fun _ => rfl)

theorem prepare_quiet (sql : List Char) : Leads (Quiet id) (prepare id sql) w := by
  have spec := prepare_cases id sql w
  rw [Leads]
  rcases answer : exec (prepare id sql) w with ⟨fault | _ | run, v⟩ <;> rw [answer] at spec
  · exact (congrArg (Quiet id w) spec).mpr (Std.Refl.refl w)
  · exact (congrArg (Quiet id w) spec).mpr (Std.Refl.refl w)
  · obtain ⟨_, ts, c, p, informed, _, _, rfl⟩ := spec
    exact update_quiet id w (f := Session.takeIn _ informed) (fun _ => rfl) (fun _ => rfl)
      fun _ => rfl

end Statements

/-! ## Ending a transaction and beginning the next one -/

section Controls

variable {id : Nat} {w : World}

/-- Control statements run up to the first that fails, behind which the session settles. -/
theorem exec_controls_cons (c : Control) (rest : List Control) :
    exec (controls id (c :: rest)) w =
      match exec (control id c) w with
      | (.ok _, v) => exec (controls id rest) v
      | (.error e, v) => (.error e, v.change id Session.settle) := by
  change exec (tryCatch (control id c) _ >>= fun _ => controls id rest) w = _
  rw [exec_bind, exec_tryCatch]
  rcases exec (control id c) w with ⟨e | _, v⟩ <;> rfl

/-- Outside of a transaction, none can be ended. -/
theorem exec_control_of_not_inTransaction (none_ : w.inTransaction id = false) {how : Control}
    (ending : how = .commit ∨ how = .rollback) :
    ∃ e, exec (control id how) w = (.error e, w) := by
  have alone : (w.sessionAt id).autocommit = true := by
    rw [World.autocommit_sessionAt, none_]
    rfl
  rcases ending with rfl | rfl
  all_goals
    unfold Action.control
    rw [exec_bind, exec_session]
    simp only [alone, if_true]
    exact ⟨_, rfl⟩

/-- A transaction is ended, or the end is refused and the transaction goes on. -/
theorem exec_control_of_inTransaction (open_ : w.inTransaction id = true) (how : Control)
    (ending : how = .commit ∨ how = .rollback) :
    match exec (control id how) w with
    | (.error _, v) => Quiet id w v
    | (.ok _, v) => v.inTransaction id = false := by
  have begun : (w.sessionAt id).autocommit = false := by
    rw [World.autocommit_sessionAt, open_]
    rfl
  rcases ending with rfl | rfl
  · unfold Action.control
    rw [exec_bind, exec_session]
    simp only [begun, Bool.false_eq_true, if_false]
    by_cases writing : (w.sessionAt id).anyWrites
    · rw [if_pos writing]
      exact Std.Refl.refl w
    · rw [if_neg writing]
      exact endTransaction_cases id w
  · unfold Action.control
    rw [exec_bind, exec_session]
    simp only [begun, Bool.false_eq_true, if_false]
    by_cases reshaped : (w.sessionAt id).reshaped
    · rw [if_pos reshaped]
      exact undo_ends id _
    · rw [if_neg reshaped]
      exact undo_ends id w

/-- Outside of a transaction, one can be begun. -/
theorem exec_begin_of_not_inTransaction (none_ : w.inTransaction id = false) :
    exec (control id (.begin .deferred)) w =
      (.ok (), w.change id fun s => { s with autocommit := false }) := by
  have alone : (w.sessionAt id).autocommit = true := by
    rw [World.autocommit_sessionAt, none_]
    rfl
  unfold Action.control begin
  rw [exec_bind, exec_session]
  simp only [exec_bind, exec_session, alone, if_true]
  rfl

/-- Within a transaction none can be begun, and the attempt changes nothing. -/
theorem exec_begin_of_inTransaction (open_ : w.inTransaction id = true) :
    exec (controls id [.begin .deferred]) w =
      (.error ⟨"cannot start a transaction within a transaction", 1⟩, w) := by
  have begun : (w.sessionAt id).autocommit = false := by
    rw [World.autocommit_sessionAt, open_]
    rfl
  have refused : exec (control id (.begin .deferred)) w =
      (.error ⟨"cannot start a transaction within a transaction", 1⟩, w) := by
    unfold Action.control begin
    rw [exec_bind, exec_session]
    simp only [exec_bind, exec_session, begun, Bool.false_eq_true, if_false]
    rfl
  have settled : w.change id Session.settle = w := World.change_eq_self fun s found => by
    rw [World.sessionAt_of_found found] at begun
    rw [Session.settle, begun]
    rfl
  rw [exec_controls_cons, refused]
  exact congrArg (Prod.mk _) settled

theorem session?_of_inTransaction (open_ : w.inTransaction id = true) :
    ∃ s, w.session? id = some s := by
  cases found : w.session? id with
  | none => simp [World.inTransaction, found] at open_
  | some s => exact ⟨s, rfl⟩

theorem session?_of_inside {v : World} (inside : Inside id w v) {s : Session}
    (found : w.session? id = some s) : ∃ t, v.session? id = some t := by
  have same := inside.statements
  rw [World.statements, World.statements, found] at same
  obtain ⟨t, there, _⟩ := Option.map_eq_some_iff.1 same
  exact ⟨t, there⟩

/-- Where a transaction is ended and the next one begun, one is open behind it exactly if one
was open in front of it: if the first half fails the second is not reached. -/
theorem inTransaction_after_ending {how : Control} (ending : how = .commit ∨ how = .rollback) :
    (exec (controls id [how, .begin .deferred]) w).2.inTransaction id = w.inTransaction id := by
  rw [exec_controls_cons]
  cases before : w.inTransaction id with
  | false =>
      obtain ⟨e, refused⟩ := exec_control_of_not_inTransaction before ending
      rw [refused]
      exact ((settle_tends id w).quiet.open_iff).trans before
  | true =>
      have spec := exec_control_of_inTransaction before how ending
      have inside := control_inside id w how
      rw [Leads] at inside
      rcases answer : exec (Action.control id how) w with ⟨e | _, v⟩ <;>
        rw [answer] at spec inside
      · exact ((settle_tends id v).quiet.open_iff).trans (spec.open_iff.trans before)
      · obtain ⟨s, found⟩ := session?_of_inTransaction before
        obtain ⟨t, there⟩ := session?_of_inside inside found
        dsimp only at spec ⊢
        rw [exec_controls_cons, exec_begin_of_not_inTransaction spec]
        change (v.change id _).inTransaction id = true
        simp [World.inTransaction, World.session?_change, there]

/-- An end of a transaction that is refused makes nothing permanent, whether or not the next
one was to be begun behind it. -/
theorem ending_refused {rest : List Control} (begins : rest = [] ∨ rest = [.begin .deferred])
    {e : Fault} {v : World} (refused : exec (controls id (.commit :: rest)) w = (.error e, v)) :
    Unpublished id w v := by
  rw [exec_controls_cons] at refused
  cases before : w.inTransaction id with
  | false =>
      obtain ⟨e', same⟩ := exec_control_of_not_inTransaction before (.inl rfl)
      rw [same] at refused
      cases refused
      exact (settle_tends id w).quiet.toUnpublished
  | true =>
      have spec := exec_control_of_inTransaction before .commit (.inl rfl)
      rcases answer : exec (Action.control id .commit) w with ⟨e' | _, u⟩ <;>
        rw [answer] at spec refused
      · cases refused
        exact spec.toUnpublished.trans (settle_tends id u).quiet.toUnpublished
      · dsimp only at refused
        rcases begins with rfl | rfl
        · cases refused
        · rw [exec_controls_cons, exec_begin_of_not_inTransaction spec] at refused
          cases refused

/-- A batch of rollbacks and beginnings publishes nothing. -/
theorem controls_unpublished {cs : List Control}
    (mild : ∀ c ∈ cs, c = .rollback ∨ c = .begin .deferred) :
    Leads (Unpublished id) (controls id cs) w := by
  induction cs generalizing w with
  | nil => exact .pure _
  | cons c rest ih =>
      have first : Leads (Unpublished id) (Action.control id c) w := by
        rcases mild c (by simp) with rfl | rfl
        · exact rollback_unpublished id w
        · exact .session_bind (begin_unpublished id w _)
      refine .bind (.tryCatch first fun fault w _ => ?_) fun _ w _ =>
        ih fun c among => mild c (by simp [among])
      exact .bind (settle_tends id w).quiet.toUnpublished fun _ _ _ => .throw _

end Controls

end SqlDriver.Engine
