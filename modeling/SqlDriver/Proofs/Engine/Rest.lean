/-
# SqlDriver.Proofs.Engine.Rest -- locks that are held between two actions

A session holds a lock for its transaction, for statements at work, or not at all:
`Session.Rests` says that nothing is left to give up.  Every action that the driver performs
leaves its session at rest (`step_rests`, `finalize_rests`, `controls_rests`), the ones that
fail included.  Only in the midst of a step is a lock held for a statement that is not at work
yet; there the session is `Poised` for it.
-/
import SqlDriver.Proofs.Engine.Move

namespace SqlDriver.Engine

set_option autoImplicit false

open SqlDriver.Engine.Action

/-! ## Sessions at rest -/

/-- The lock that a program needs. -/
def Access.lock : Access → Lock
  | none => .none
  | read => .shared
  | write => .reserved

namespace Lock

theorem max_none (lock : Lock) : lock.max .none = lock := by
  cases lock <;> rfl

theorem max_max (lock other : Lock) : (lock.max other).max other = lock.max other := by
  cases lock <;> cases other <;> rfl

theorem atLeast_max (lock other : Lock) : (lock.max other).atLeast other := by
  cases lock <;> cases other <;> rfl

theorem max_of_atLeast {lock other : Lock} (held : lock.atLeast other) : lock.max other = lock :=
  if_pos held

theorem max_of_not_atLeast {lock other : Lock} (free : ¬lock.atLeast other) :
    lock.max other = other :=
  if_neg free

theorem max_of_reserved {lock : Lock} (held : (lock.max .shared).atLeast .reserved) :
    lock.max .shared = lock.max .reserved := by
  cases lock <;> first | rfl | cases held

theorem max_reserved {lock : Lock} (free : ¬(lock.max .shared).atLeast .reserved) :
    lock.max .reserved = .reserved := by
  cases lock <;> first | rfl | exact absurd rfl free

end Lock

namespace Session

/-- The locks that are held are needed. -/
def Rests (s : Session) : Prop :=
  s.settle = s

/-- The locks that are held are needed, or serve a statement that is about to be at work. -/
def Poised (access : Access) (s : Session) : Prop :=
  s.autocommit = false ∨ s.anyWrites = true ∨ access = .write ∨
    s.lock = if s.anyReads || access = .read then .shared else .none

/-- The session takes the lock that a program needs. -/
def take (access : Access) (s : Session) : Session :=
  { s with lock := s.lock.max access.lock }

theorem anyReads_eq (s : Session) : s.anyReads = decide (0 < s.runs.count Run.reads) :=
  s.runs.any_eq_count Run.reads

theorem anyWrites_eq (s : Session) : s.anyWrites = decide (0 < s.runs.count Run.writes) :=
  s.runs.any_eq_count Run.writes

theorem with_lock_eq_iff {s : Session} {lock : Lock} : { s with lock } = s ↔ s.lock = lock :=
  ⟨fun same => (congrArg Session.lock same).symm, fun same => by subst same; rfl⟩

theorem rests_iff {s : Session} : s.Rests ↔ s.Poised .none := by
  unfold Rests settle Poised
  by_cases kept : (!s.autocommit || s.anyWrites) = true
  · rw [if_pos kept]
    have : s.autocommit = false ∨ s.anyWrites = true := by simpa using kept
    simp only [true_iff]
    exact this.elim .inl fun writes => .inr (.inl writes)
  · rw [if_neg kept, with_lock_eq_iff]
    have alone : s.autocommit = true ∧ s.anyWrites = false := by simpa using kept
    simp [alone]

theorem rests_settle (s : Session) : s.settle.Rests := by
  unfold Rests settle
  by_cases kept : (!s.autocommit || s.anyWrites) = true
  · rw [if_pos kept, if_pos kept]
  · rw [if_neg kept]
    have : ¬(!s.autocommit ||
        { s with lock := if s.anyReads then Lock.shared else .none }.anyWrites) = true := kept
    rw [if_neg this]
    rfl

theorem settle_eq_with_lock (s : Session) : s.settle = { s with lock := s.settle.lock } := by
  unfold settle
  split <;> rfl

theorem runs_settle (s : Session) : s.settle.runs = s.runs := by
  unfold settle
  split <;> rfl

/-- Rest is a matter of the lock, of the transaction and of the statements at work. -/
theorem Poised.congr {access : Access} {s t : Session} (poised : s.Poised access)
    (autocommit : t.autocommit = s.autocommit) (lock : t.lock = s.lock)
    (reads : t.anyReads = s.anyReads) (writes : t.anyWrites = s.anyWrites) : t.Poised access := by
  unfold Poised
  rwa [autocommit, lock, reads, writes]

/-- Rest depends on the lock and on what is at work. -/
theorem Rests.congr {s t : Session} (rests : s.Rests) (autocommit : t.autocommit = s.autocommit)
    (lock : t.lock = s.lock) (reads : t.anyReads = s.anyReads)
    (writes : t.anyWrites = s.anyWrites) : t.Rests :=
  rests_iff.2 ((rests_iff.1 rests).congr autocommit lock reads writes)

/-- Statements that read and write as before leave a session at rest. -/
theorem Rests.congr_runs {s : Session} (rests : s.Rests) {runs : Pool Run}
    (reads : runs.count Run.reads = s.runs.count Run.reads)
    (writes : runs.count Run.writes = s.runs.count Run.writes) : { s with runs }.Rests := by
  refine rests.congr rfl rfl ?_ ?_
  · rw [anyReads_eq, anyReads_eq, reads]
  · rw [anyWrites_eq, anyWrites_eq, writes]

/-- A statement goes on, or stays idle. -/
theorem Rests.modify {s : Session} (rests : s.Rests) {run : Nat} {f : Run → Run}
    (same : ∀ r, s.runs.get? run = some r → (f r).reads = r.reads ∧ (f r).writes = r.writes) :
    (s.changeRun run f).Rests :=
  rests.congr_runs (Pool.count_modify_of_eq fun r found => (same r found).1)
    (Pool.count_modify_of_eq fun r found => (same r found).2)

/-- A statement that a session is poised for begins to be at work. -/
theorem Poised.begin {s : Session} {access : Access} (poised : s.Poised access) {run : Nat}
    {r : Run} {f : Run → Run} (found : s.runs.get? run = some r)
    (idle : r.phase.isActive = false) (active : (f r).phase.isActive = true)
    (same : (f r).prepared.access = access) :
    (s.changeRun run f).Rests := by
  have reads : (s.changeRun run f).runs.count Run.reads + _ = _ :=
    Pool.count_modify found f Run.reads
  have writes : (s.changeRun run f).runs.count Run.writes + _ = _ :=
    Pool.count_modify found f Run.writes
  simp only [Run.reads, Run.writes, idle, active, same, Bool.false_and, Bool.true_and,
    Bool.false_eq_true, if_false, Nat.add_zero] at reads writes
  rw [rests_iff]
  unfold Poised at poised ⊢
  rw [anyReads_eq, anyWrites_eq] at poised ⊢
  rw [reads, writes]
  cases access with
  | none => simpa [changeRun] using poised
  | read => simpa [changeRun] using poised
  | write => simp

theorem take_none (s : Session) : s.take .none = s :=
  congrArg (fun lock => { s with lock }) (Lock.max_none s.lock)

/-- A session that takes the lock of a program is poised for it. -/
theorem poised_take {s : Session} {access : Access} (ready : s.Rests ∨ s.Poised access) :
    (s.take access).Poised access := by
  have locked (lock : s.lock = .shared ∨ s.lock = if s.anyReads then .shared else .none)
      (free : access = .none → s.lock = if s.anyReads then .shared else .none) :
      (s.take access).Poised access := by
    refine .inr (.inr ?_)
    cases access with
    | none =>
        refine .inr (show s.lock.max .none = if s.anyReads || false then .shared else .none from ?_)
        rw [Bool.or_false, Lock.max_none, free rfl]
    | read =>
        refine .inr
          (show s.lock.max .shared = if s.anyReads || true then .shared else .none from ?_)
        rw [Bool.or_true, if_pos rfl]
        rcases lock with lock | lock
        · rw [lock]
          rfl
        · rw [lock]
          split <;> rfl
    | write => exact .inl rfl
  rcases ready with rests | begun | writes | write | lock
  · rcases rests_iff.1 rests with begun | writes | write | lock
    · exact .inl begun
    · exact .inr (.inl writes)
    · cases write
    · have lock : s.lock = if s.anyReads then .shared else .none := by simpa using lock
      exact locked (.inr lock) fun _ => lock
  · exact .inl begun
  · exact .inr (.inl writes)
  · exact .inr (.inr (.inl write))
  · refine locked ?_ fun none_ => by simpa [none_] using lock
    by_cases reading : access = .read
    · exact .inl (by simpa [reading] using lock)
    · exact .inr (by simpa [reading] using lock)

end Session

namespace World

variable {w : World} {id : Nat} {s : Session} {f g : Session → Session}

def RestsAt (w : World) (id : Nat) : Prop :=
  ∀ s, w.session? id = some s → s.Rests

theorem restsAt_change (rests : ∀ s, w.session? id = some s → (f s).Rests) :
    (w.change id f).RestsAt id := by
  intro t there
  rw [session?_change, if_pos rfl] at there
  obtain ⟨s, found, rfl⟩ := Option.map_eq_some_iff.1 there
  exact rests s found

end World

/-! ## Taking locks -/

/-- The lock for reading can be had: the session has it, or no other session keeps it back. -/
def World.Readable (w : World) (id : Nat) : Prop :=
  (w.sessionAt id).lock.atLeast .shared ∨
    (w.isHeld id (w.sessionAt id).file .pending = false ∧
      ∃ c, w.committed (w.sessionAt id) = .ok c)

section Locks

variable (id : Nat) (w : World)

theorem exec_lockShared_of_readable (readable : w.Readable id) :
    exec (lockShared id) w = (.ok (), w.change id (Session.take .read)) := by
  unfold lockShared
  rw [exec_bind, exec_session]
  dsimp only
  by_cases held : (w.sessionAt id).lock.atLeast .shared
  · have same : w.change id (Session.take .read) = w := by
      refine World.change_eq_self fun s session => ?_
      rw [World.sessionAt_of_found session] at held
      exact congrArg (fun lock => { s with lock }) (Lock.max_of_atLeast held)
    rw [if_neg (by simpa using held), same]
    rfl
  · obtain ⟨free, c, known⟩ := readable.resolve_left held
    rw [if_pos (by simpa using held), exec_bind, exec_get]
    dsimp only
    rw [if_neg (by simpa using free), exec_bind, exec_ofOutcome, known]
    refine congrArg (Prod.mk _) (World.change_congr fun s session => ?_)
    rw [World.sessionAt_of_found session] at held
    exact congrArg (fun lock => { s with lock }) (Lock.max_of_not_atLeast held).symm

theorem readable_of_lockShared {v : World} (locked : exec (lockShared id) w = (.ok (), v)) :
    w.Readable id := by
  unfold lockShared at locked
  rw [exec_bind, exec_session] at locked
  dsimp only at locked
  by_cases held : (w.sessionAt id).lock.atLeast .shared
  · exact .inl held
  · rw [if_pos (by simpa using held), exec_bind, exec_get] at locked
    dsimp only at locked
    by_cases waiting : w.isHeld id (w.sessionAt id).file .pending
    · rw [if_pos waiting] at locked
      cases locked
    · rw [if_neg waiting, exec_bind, exec_ofOutcome] at locked
      cases known : w.committed (w.sessionAt id) with
      | error fault =>
          rw [known] at locked
          cases locked
      | ok c => exact .inr ⟨by simpa using waiting, c, known⟩

variable {id w} {v : World}

theorem exec_lockShared (locked : exec (lockShared id) w = (.ok (), v)) :
    v = w.change id (Session.take .read) := by
  rw [exec_lockShared_of_readable id w (readable_of_lockShared id w locked)] at locked
  exact (Prod.mk.inj locked).2.symm

theorem exec_lockReserved (locked : exec (lockReserved id) w = (.ok (), v)) :
    v = w.change id (Session.take .write) := by
  unfold lockReserved at locked
  rw [exec_bind, exec_session] at locked
  dsimp only at locked
  by_cases readOnly : (w.sessionAt id).readOnly
  · rw [if_pos readOnly] at locked
    cases locked
  · rw [if_neg readOnly, exec_bind] at locked
    rcases answer : exec (lockShared id) w with ⟨fault | _, u⟩ <;> rw [answer] at locked
    · cases locked
    · obtain rfl := exec_lockShared answer
      dsimp only at locked
      rw [exec_bind, exec_session] at locked
      dsimp only at locked
      by_cases held : ((w.change id (Session.take .read)).sessionAt id).lock.atLeast .reserved
      · rw [if_neg (by simpa using held)] at locked
        cases locked
        refine World.change_congr fun s found => ?_
        rw [World.sessionAt_of_found (World.session?_change_of_found found)] at held
        exact congrArg (fun lock => { s with lock }) (Lock.max_of_reserved held)
      · rw [if_pos (by simpa using held), exec_bind, exec_get] at locked
        dsimp only at locked
        split at locked
        · cases locked
        · cases locked
          refine (World.change_change ..).trans (World.change_congr fun s found => ?_)
          rw [World.sessionAt_of_found (World.session?_change_of_found found)] at held
          exact congrArg (fun lock => { s with lock }) (Lock.max_reserved held).symm

theorem exec_lockFor {access : Access} (locked : exec (lockFor id access) w = (.ok (), v)) :
    v = w.change id (Session.take access) := by
  cases access with
  | none =>
      cases locked
      exact (World.change_eq_self fun s _ => s.take_none).symm
  | read => exact exec_lockShared locked
  | write => exact exec_lockReserved locked

theorem readable_of_lockFor {access : Access} (needed : access ≠ .none)
    (locked : exec (lockFor id access) w = (.ok (), v)) : w.Readable id := by
  cases access with
  | none => exact absurd rfl needed
  | read => exact readable_of_lockShared id w locked
  | write =>
      dsimp only [lockFor, lockReserved] at locked
      rw [exec_bind, exec_session] at locked
      dsimp only at locked
      split at locked
      · cases locked
      · rw [exec_bind] at locked
        rcases answer : exec (lockShared id) w with ⟨fault | _, u⟩ <;> rw [answer] at locked
        · cases locked
        · exact readable_of_lockShared id w answer

end Locks

/-- The lock of a session is changed, and nothing else. -/
def Locks (id : Nat) (w v : World) : Prop :=
  ∃ f : Session → Lock, v = w.change id fun s => { s with lock := f s }

instance (id : Nat) : Std.Refl (Locks id) where
  refl w := ⟨Session.lock, (w.change_self id).symm⟩

instance (id : Nat) : IsTrans World (Locks id) where
  trans := by
    rintro w _ _ ⟨f, rfl⟩ ⟨g, rfl⟩
    exact ⟨fun s => g { s with lock := f s }, w.change_change id _ _⟩

section Locking

variable (id : Nat) (w : World)

theorem lockShared_locks : Leads (Locks id) (lockShared id) w := by
  refine .session_bind ?_
  split
  · refine .get_bind ?_
    extract_lets locked
    have locks : Leads (Locks id) (locked ()) w := by
      refine .bind (a := ofOutcome _) ?_ fun _ w _ => ⟨fun _ => .shared, rfl⟩
      rw [Leads, exec_ofOutcome]
      exact Std.Refl.refl w
    split
    · exact .throw_bind ..
    · exact locks
  · exact .pure _

theorem lockReserved_locks : Leads (Locks id) (lockReserved id) w := by
  refine .session_bind ?_
  extract_lets _ locked
  have locks (w : World) : Leads (Locks id) (locked ()) w := by
    refine .bind (lockShared_locks id w) fun _ w _ => .session_bind ?_
    split
    · refine .get_bind ?_
      split
      · exact .throw_bind ..
      · exact ⟨fun _ => .reserved, rfl⟩
    · exact .pure _
  split
  · exact .throw_bind ..
  · exact locks w

theorem lockExclusive_locks : Leads (Locks id) (lockExclusive id) w := by
  refine .bind (lockReserved_locks id w) fun _ w _ => .session_bind ?_
  split
  · refine .get_bind ?_
    split
    · exact .throw_bind ..
    · exact ⟨fun _ => .exclusive, rfl⟩
  · exact .pure _

theorem lockFor_locks (access : Access) : Leads (Locks id) (lockFor id access) w := by
  cases access with
  | none => exact .pure _
  | read => exact lockShared_locks id w
  | write => exact lockReserved_locks id w

end Locking

/-! ## What comes to rest -/

/-- A session is at rest afterwards. -/
def Rested (id : Nat) (_ v : World) : Prop :=
  v.RestsAt id

section Ends

variable (id run : Nat) (w : World)

theorem settle_rests : Leads (Rested id) (settle id) w :=
  World.restsAt_change fun s _ => s.rests_settle

theorem undo_rests : Leads (Rested id) (undo id) w :=
  World.restsAt_change fun _ _ => Session.rests_settle _

theorem finishAlone_rests : Leads (Rested id) (finishAlone id) w := by
  unfold finishAlone
  rw [Leads, exec_bind, exec_session]
  dsimp only
  split
  · rw [exec_bind, exec_tryCatch]
    rcases exec (commit id) w with ⟨fault | _, v⟩
    · exact settle_rests id (v.change id fun s => { s.discard with changes := 0 })
    · exact settle_rests id v
  · exact settle_rests id w

theorem finishChange_rests (changes : Nat) :
    Leads (Rested id) (finishChange id run changes) w :=
  finishAlone_rests id _

theorem halt_rests : Leads (Rested id) (halt id run) w := by
  unfold halt
  rw [Leads, exec_bind, exec_run?]
  dsimp only
  split
  · exact settle_rests id _
  · exact finishChange_rests id run w _
  · exact settle_rests id w

theorem fail_rests {α : Type} (fault : Fault) :
    Leads (Rested id) (fail id run fault : Action α) w :=
  settle_rests id (w.change id
    (Session.changeRun run fun r => { r with phase := .idle, cutOff := false }))

theorem reset_rests : Leads (Rested id) (reset id run) w := by
  rw [Leads, exec_reset]
  exact halt_rests id run w

end Ends

/-! ## Statements that are started -/

/-- A session is poised for one of its statements, which is not at work yet. -/
def World.PoisedAt (w : World) (id run : Nat) (access : Access) : Prop :=
  ∃ s r, w.RunAt id run s r ∧ r.phase.isActive = false ∧ r.prepared.access = access ∧
    s.Poised access

/-- Where an action succeeds, the session is at rest afterwards. -/
abbrev Resting {α : Type} (id : Nat) (a : Action α) (w : World) : Prop :=
  Ensures (fun _ v => v.RestsAt id) a w

section Resting

variable {α β : Type} {id : Nat} {w : World}

theorem resting_of_leads {a : Action α} (leads : Leads (Rested id) a w) : Resting id a w := by
  intro x v answer
  rwa [Leads, answer] at leads

theorem resting_pure {a : Action α} (leads : Leads (Rested id) a w) (y : β) :
    Resting id (do let _ ← a; return y) w :=
  .bind fun _ v answer => .pure (by rwa [Leads, answer] at leads)

end Resting

section Starts

variable {id run : Nat} {w : World} {access : Access}

/-- A session may change all but its statements, its mode and its lock, and stays poised. -/
theorem World.PoisedAt.change (poised : w.PoisedAt id run access) {f : Session → Session}
    (runs : ∀ s, (f s).runs = s.runs) (autocommit : ∀ s, (f s).autocommit = s.autocommit)
    (lock : ∀ s, (f s).lock = s.lock) : (w.change id f).PoisedAt id run access := by
  obtain ⟨s, r, there, idle, same, poised⟩ := poised
  refine ⟨f s, r, there.change (runs s), idle, same, ?_⟩
  refine poised.congr (autocommit s) (lock s) ?_ ?_
  · rw [Session.anyReads_eq, Session.anyReads_eq, runs]
  · rw [Session.anyWrites_eq, Session.anyWrites_eq, runs]

/-- The statement begins to be at work. -/
theorem World.PoisedAt.begin (poised : w.PoisedAt id run access) {f : Run → Run}
    (active : ∀ r, (f r).phase.isActive = true) (same : ∀ r, (f r).prepared = r.prepared) :
    (w.change id (Session.changeRun run f)).RestsAt id := by
  obtain ⟨s, r, there, idle, access, poised⟩ := poised
  intro t session
  cases (there.changeRun f).session.symm.trans session
  exact poised.begin there.found idle (active r) ((congrArg Prepared.access (same r)).trans access)

/-- A statement at work goes on. -/
theorem updateRun_rests (rests : w.RestsAt id) {f : Run → Run} {s : Session} {r : Run}
    (there : w.RunAt id run s r) (active : r.phase.isActive = true)
    (goes : ∀ r, (f r).phase.isActive = true) (same : ∀ r, (f r).prepared = r.prepared) :
    Leads (Rested id) (updateRun id run f) w := by
  refine World.restsAt_change fun t session => (rests t session).modify fun other found => ?_
  cases there.session.symm.trans session
  cases there.found.symm.trans found
  simp [Run.reads, Run.writes, active, goes, same]

/-- A statement at work, or one about to be, yields its next row. -/
theorem advance_rests (rests : w.RestsAt id) {s : Session} {r : Run}
    (there : w.RunAt id run s r) (active : r.phase.isActive = true) (c : Contents)
    (flow : Flow) : Leads (Rested id) (advance id run c flow) w := by
  unfold advance
  rw [Leads, exec_bind, exec_get]
  dsimp only
  rw [exec_bind, exec_session]
  dsimp only
  split
  · exact fail_rests id run w _
  · exact (halt_rests id run w).bind_pure none
  · exact updateRun_rests rests there active (fun _ => rfl) fun _ => rfl

/-- A row that is handed back leaves the session at rest. -/
theorem give_rests (rests : w.RestsAt id) {s : Session} {r : Run}
    (there : w.RunAt id run s r) (active : r.phase.isActive = true)
    (changes : Nat) (rows : List Tuple) : Leads (Rested id) (give id run changes rows) w := by
  cases rows with
  | nil => exact (finishChange_rests id run w changes).bind_pure none
  | cons row rest => exact updateRun_rests rests there active (fun _ => rfl) fun _ => rfl

/-- The rows of a change begin to be handed back. -/
theorem give_resting (poised : w.PoisedAt id run access) (changes : Nat) (rows : List Tuple) :
    Resting id (give id run changes rows) w := by
  cases rows with
  | nil => exact resting_pure (finishChange_rests id run w changes) _
  | cons row rest => exact resting_of_leads (poised.begin (fun _ => rfl) fun _ => rfl)

/-- The rows of a statement that reads begin to come. -/
theorem advance_resting (poised : w.PoisedAt id run access) (c : Contents) (flow : Flow) :
    Resting id
      (do
        updateRun id run fun r => { r with phase := .reading c flow }
        advance id run c flow) w := by
  let f : Run → Run := fun r => { r with phase := .reading c flow }
  have begun := poised.begin (f := f) (fun _ => rfl) fun _ => rfl
  obtain ⟨s, r, there, _⟩ := poised
  refine resting_of_leads ?_
  rw [Leads, exec_bind, exec_updateRun]
  exact advance_rests begun (there.changeRun f) rfl c flow

theorem runChange_resting (poised : w.PoisedAt id run access) (c : Contents) (m : Mutation)
    (hasRows : Bool) : Resting id (runChange id run c m hasRows) w := by
  refine .bind fun s v answer => ?_
  cases answer
  split
  · next work _ =>
      refine .bind fun _ v answer => ?_
      cases answer
      have stored := poised.change (f := fun s => { s with lastNumber := work.lastNumber })
        (fun _ => rfl) (fun _ => rfl) fun _ => rfl
      extract_lets handed
      have hands {v : World} (poised : v.PoisedAt id run access) : Resting id (handed ()) v := by
        dsimp only [handed]
        split
        · exact give_resting poised _ _
        · exact resting_pure (finishChange_rests id run v work.changes) _
      split
      · exact .bind fun _ v kept => by
          cases kept
          exact hands (stored.change (fun _ => rfl) (fun _ => rfl) fun _ => rfl)
      · exact hands stored
  · next stop _ =>
      refine .bind fun _ v _ => ?_
      extract_lets failed
      have fails (v : World) : Resting id (failed ()) v :=
        resting_of_leads (fail_rests id run v stop.fault)
      split
      · exact .bind fun _ v _ => .bind fun _ v _ => fails v
      · exact .bind fun _ v _ => fails v
      · exact fails v

theorem runProgram_resting {p : Prepared} (poised : w.PoisedAt id run p.access) (c : Contents) :
    Resting id (runProgram id run p c) w := by
  have done (w : World) :
      Resting id (do finishAlone id; return none : Action (Option Tuple)) w :=
    resting_pure (finishAlone_rests id w) _
  obtain ⟨a, course, same⟩ := exists_course id run p c w
  refine .congr same ?_
  cases course with
  | reads reading flow => exact advance_resting poised c flow
  | changes => exact runChange_resting poised c _ _
  | reshapes => exact .bind fun _ v _ => done v
  | writes => exact .bind fun _ v _ => done v
  | controls => exact .bind fun _ v _ => resting_pure (settle_rests id v) _
  | nothing => exact done w
  | refused writes fault => exact .throw fault

/-- A session takes the lock for one of its statements. -/
theorem lockFor_poised {v : World} {s : Session} {r : Run} (there : w.RunAt id run s r)
    (idle : r.phase.isActive = false)
    (same : r.prepared.access = access) (ready : s.Rests ∨ s.Poised access)
    (locked : exec (lockFor id access) w = (.ok (), v)) : v.PoisedAt id run access := by
  obtain rfl := exec_lockFor locked
  exact ⟨s.take access, r, there.change rfl, idle, same, Session.poised_take ready⟩

/-- A statement with its locks is prepared anew if it has to be, and runs. -/
theorem refreshed_resting {s : Session} {r : Run} (there : w.RunAt id run s r)
    (idle : r.phase.isActive = false) (poised : s.Poised r.prepared.access) (c : Contents) :
    Resting id
      (do
        let p ← refresh id run r c
        lockFor id p.access
        runProgram id run p c) w := by
  refine .bind fun p u refreshed => ?_
  unfold refresh at refreshed
  by_cases fresh : r.form = some c.form
  · rw [if_pos fresh] at refreshed
    cases refreshed
    refine .bind fun _ u locked => runProgram_resting ?_ c
    exact lockFor_poised there idle rfl (.inr poised) locked
  · rw [if_neg fresh, exec_bind, exec_ofOutcome] at refreshed
    cases made : Program.prepare (.ok c) r.tokens with
    | error fault =>
        rw [made] at refreshed
        cases refreshed
    | ok p =>
        rw [made] at refreshed
        cases refreshed
        refine .bind fun _ u locked => runProgram_resting ?_ c
        let f : Run → Run := fun r => { r with prepared := p, form := some c.form }
        have settled := (there.changeRun f).change (Session.runs_settle _)
        exact lockFor_poised settled idle rfl (.inl (Session.rests_settle _)) locked

/-- A statement that has started in a session at rest leaves it at rest. -/
theorem start_resting {s : Session} {r : Run} (rests : w.RestsAt id)
    (there : w.RunAt id run s r) (idle : r.phase.isActive = false) :
    Resting id (start id run r) w := by
  unfold start
  split
  · next none_ =>
      refine .bind fun w' v answer => ?_
      cases answer
      refine .bind fun s' v answer => ?_
      cases answer
      refine runProgram_resting ⟨s, r, there, idle, rfl, ?_⟩ _
      rw [none_]
      exact Session.rests_iff.1 (rests s there.session)
  · refine .bind fun _ v locked => ?_
    obtain rfl := exec_lockFor locked
    refine .bind fun c u known => ?_
    obtain rfl := (Prod.mk.inj ((exec_contents ..).symm.trans known)).2
    exact refreshed_resting (there.change rfl) idle
      (Session.poised_take (.inl (rests s there.session))) c

theorem step_rests (rests : w.RestsAt id) : Leads (Rested id) (step id run) w := by
  unfold step
  rw [Leads, exec_bind, exec_run?]
  dsimp only
  cases found : (w.sessionAt id).runs.get? run with
  | none => exact rests
  | some r =>
      obtain ⟨s, there⟩ := World.runAt_of_found found
      dsimp only
      cases phase : r.phase with
      | idle =>
          have idle : r.phase.isActive = false := by rw [phase]; rfl
          have starts := start_resting rests there idle
          dsimp only [orFail]
          rw [exec_tryCatch]
          rcases answer : exec (tryCatch (start id run r) _) w with ⟨fault | x, v⟩
          · exact fail_rests id run v fault
          · rw [exec_tryCatch] at answer
            rcases started : exec (start id run r) w with ⟨fault | y, u⟩ <;>
              rw [started] at answer
            · exfalso
              dsimp only at answer
              split at answer <;> cases answer
            · cases answer
              exact starts _ _ started
      | reading c flow =>
          have active : r.phase.isActive = true := by rw [phase]; rfl
          dsimp only
          split
          · exact fail_rests id run w _
          · exact advance_rests rests there active c flow
      | giving rows changes =>
          exact give_rests rests there (by rw [phase]; rfl) changes rows

end Starts

/-! ## Statements that are given up -/

/-- A statement of a session is not at work. -/
def World.IdleAt (w : World) (id run : Nat) : Prop :=
  ∀ s r, w.session? id = some s → s.runs.get? run = some r → r.phase = .idle

/-- A statement that was not at work still is not. -/
def StaysIdle (id run : Nat) (w v : World) : Prop :=
  w.IdleAt id run → v.IdleAt id run

instance (id run : Nat) : Std.Refl (StaysIdle id run) where
  refl _ idle := idle

instance (id run : Nat) : IsTrans World (StaysIdle id run) where
  trans _ _ _ first second idle := second (first idle)

section Idle

variable (id run : Nat) (w : World)

theorem update_staysIdle {f : Session → Session}
    (same : ∀ s, ((f s).runs.get? run).map Run.phase = (s.runs.get? run).map Run.phase) :
    Leads (StaysIdle id run) (update id f) w := by
  intro idle t r there found
  change (w.change id f).session? id = some t at there
  rw [World.session?_change, if_pos rfl] at there
  obtain ⟨s, session, rfl⟩ := Option.map_eq_some_iff.1 there
  have phases := same s
  rw [found] at phases
  obtain ⟨r', found', phase⟩ := Option.map_eq_some_iff.1 phases.symm
  exact phase.symm.trans (idle s r' session found')

theorem settle_staysIdle : Leads (StaysIdle id run) (settle id) w :=
  update_staysIdle id run w fun s => by rw [s.runs_settle]

theorem commit_staysIdle : Leads (StaysIdle id run) (commit id) w := by
  refine .session_bind ?_
  extract_lets settled stored
  have settles (w : World) : Leads (StaysIdle id run) (settled ()) w :=
    update_staysIdle id run w fun _ => rfl
  have stores (w : World) : Leads (StaysIdle id run) (stored ()) w := by
    dsimp only [stored]
    split
    · exact .bind (show StaysIdle id run w _ from fun idle => idle) fun _ w _ => settles w
    · exact .bind (update_staysIdle id run w fun _ => rfl) fun _ w _ => settles w
    · exact settles w
  split
  · refine .get_bind ?_
    split
    · exact .bind (update_staysIdle id run w fun _ => rfl) fun _ _ _ => .throw_bind ..
    · exact stores w
  · exact settles w

theorem discard_staysIdle :
    Leads (StaysIdle id run) (update id fun s => { s.discard with changes := 0 }) w := by
  refine update_staysIdle id run w fun s => ?_
  unfold Session.discard
  dsimp only
  split
  · simp [Session.expire, Pool.get?_mapItems, Function.comp_def]
  · rfl

theorem finishAlone_staysIdle : Leads (StaysIdle id run) (finishAlone id) w := by
  refine .session_bind ?_
  extract_lets settled
  have settles (w : World) : Leads (StaysIdle id run) (settled ()) w := settle_staysIdle id run w
  split
  · refine .bind (.tryCatch (commit_staysIdle id run w) fun fault w _ => ?_) fun _ w _ => settles w
    exact .bind (discard_staysIdle id run w) fun _ w _ =>
      .bind (settle_staysIdle id run w) fun _ _ _ => .throw _
  · exact settles w

/-- The statement is not at work any more. -/
theorem idleAt_of_updateRun {f : Run → Run} (idle : ∀ r, (f r).phase = .idle) :
    (w.change id (Session.changeRun run f)).IdleAt id run := by
  intro t r there found
  rw [World.session?_change, if_pos rfl] at there
  obtain ⟨s, session, rfl⟩ := Option.map_eq_some_iff.1 there
  rw [Session.changeRun, Pool.get?_modify, if_pos rfl] at found
  obtain ⟨r, _, rfl⟩ := Option.map_eq_some_iff.1 found
  exact idle r

theorem halt_idle : Leads (fun _ v => v.IdleAt id run) (halt id run) w := by
  have settles (idle : w.IdleAt id run) : Leads (fun _ v => v.IdleAt id run) (settle id) w :=
    settle_staysIdle id run w idle
  unfold halt
  rw [Leads, exec_bind, exec_run?]
  dsimp only
  cases found : (w.sessionAt id).runs.get? run with
  | none =>
      refine settles fun s r session there => ?_
      rw [World.sessionAt_of_found session, there] at found
      cases found
  | some r =>
      dsimp only [Option.map_some]
      cases phase : r.phase with
      | idle =>
          refine settles fun s r' session there => ?_
          rw [World.sessionAt_of_found session, there] at found
          cases found
          exact phase
      | reading c flow =>
          exact settle_staysIdle id run _ (idleAt_of_updateRun id run w fun _ => rfl)
      | giving rows changes =>
          have idle := idleAt_of_updateRun id run w (f := fun r => { r with phase := .idle })
            fun _ => rfl
          have counted := update_staysIdle id run _ (f := fun s => { s with changes })
            (fun _ => rfl) idle
          exact finishAlone_staysIdle id run _ counted

theorem reset_idle : (exec (reset id run) w).2.IdleAt id run := by
  rw [exec_reset]
  exact halt_idle id run w

theorem finalize_rests : Leads (Rested id) (finalize id run) w := by
  rw [Leads, exec_finalize]
  refine World.restsAt_change fun s session => ?_
  have counts (kind : Run → Bool) (inactive : ∀ r, r.phase = .idle → kind r = false) :
      (s.runs.erase run).count kind = s.runs.count kind :=
    Pool.count_erase_of_not fun r found => inactive r (reset_idle id run w s r session found)
  exact (reset_rests id run w s session).congr_runs
    (counts Run.reads fun r idle => by simp [Run.reads, idle, Phase.isActive])
    (counts Run.writes fun r idle => by simp [Run.writes, idle, Phase.isActive])

end Idle

/-! ## Control statements -/

section Controls

variable {id : Nat} {w : World}

/-- A change of a session that leaves alone what its rest depends on. -/
theorem update_rests (rests : w.RestsAt id) {f : Session → Session}
    (same : ∀ s, s.Rests → (f s).Rests) : Leads (Rested id) (update id f) w :=
  World.restsAt_change fun s session => same s (rests s session)

theorem endTransaction_resting : Resting id (endTransaction id) w :=
  .bind fun _ _ _ => .bind fun _ v _ => resting_of_leads (settle_rests id v)

theorem begin_resting (mode : BeginMode) : Resting id (begin id mode) w := by
  have begun (w : World) :
      Leads (Rested id) (update id fun s => { s with autocommit := false }) w :=
    World.restsAt_change fun s _ => Session.rests_iff.2 (.inl rfl)
  refine .bind fun _ w _ => ?_
  extract_lets readOnly ready
  have begins (w : World) : Resting id (ready ()) w := by
    refine .bind fun _ w _ => ?_
    split
    · exact resting_of_leads (begun w)
    · exact .throw _
  split
  · exact begins w
  · split <;> exact .bind fun _ w _ => begins w
  · split <;> exact .bind fun _ w _ => begins w

theorem cutOff_rests {s : Session} (rests : s.Rests) : s.cutOff.Rests := by
  refine rests.congr_runs (Pool.count_mapItems_of_eq fun run r => ?_)
    (Pool.count_mapItems_of_eq fun run r => ?_)
  · cases phase : r.phase <;> simp [Run.reads, phase]
  · cases phase : r.phase <;> simp [Run.writes, phase]

theorem expire_rests {s : Session} (rests : s.Rests) : s.expire.Rests :=
  rests.congr_runs (Pool.count_mapItems_of_eq fun _ _ => rfl)
    (Pool.count_mapItems_of_eq fun _ _ => rfl)

theorem control_resting (rests : w.RestsAt id) (c : Control) : Resting id (control id c) w := by
  refine .bind fun s _ answer => ?_
  cases answer
  cases c with
  | begin mode => exact begin_resting mode
  | commit =>
      dsimp only
      split
      · exact .bind fun _ _ answer => by cases answer
      · split
        · exact .bind fun _ _ answer => by cases answer
        · exact endTransaction_resting
  | rollback =>
      dsimp only
      split
      · exact .bind fun _ _ answer => by cases answer
      · split
        · exact .bind fun _ v _ => resting_of_leads (undo_rests id v)
        · exact resting_of_leads (undo_rests id w)
  | savepoint name =>
      dsimp only
      split
      · exact .bind fun _ _ answer => by cases answer
      · exact resting_of_leads (World.restsAt_change fun s _ => Session.rests_iff.2 (.inl rfl))
  | release name =>
      dsimp only
      split
      · exact .throw _
      · split
        · exact .bind fun _ _ answer => by cases answer
        · split
          · exact endTransaction_resting
          · exact resting_of_leads (update_rests rests fun s rests => rests.congr rfl rfl rfl rfl)
  | rollbackTo name =>
      dsimp only
      split
      · exact .throw _
      · refine resting_of_leads (update_rests rests fun s rests => ?_)
        dsimp only
        split
        · exact (expire_rests (cutOff_rests rests)).congr rfl rfl rfl rfl
        · exact rests.congr rfl rfl rfl rfl

theorem controls_rests (rests : w.RestsAt id) (cs : List Control) :
    Leads (Rested id) (controls id cs) w := by
  induction cs generalizing w with
  | nil => exact rests
  | cons c cs ih =>
      change Leads (Rested id) (tryCatch (control id c) _ >>= fun _ => controls id cs) w
      rw [Leads, exec_bind, exec_tryCatch]
      rcases answer : exec (control id c) w with ⟨fault | _, v⟩
      · exact settle_rests id v
      · exact ih (control_resting rests c _ _ answer)

end Controls

/-! ## Statements that are made ready -/

theorem prepare_rests {id : Nat} {w : World} (rests : w.RestsAt id) (sql : List Char) :
    Leads (Rested id) (prepare id sql) w := by
  have spec := prepare_cases id sql w
  rw [Leads]
  rcases answer : exec (prepare id sql) w with ⟨fault | _ | run, v⟩ <;> rw [answer] at spec
  · exact spec ▸ rests
  · exact spec ▸ rests
  · obtain ⟨_, ts, c, p, informed, _, _, rfl⟩ := spec
    refine World.restsAt_change fun s session => ?_
    have counts (kind : Run → Bool) (idle : ∀ r, r.phase = .idle → kind r = false) :
        (s.runs.insert (Run.ready ts p c)).2.count kind = s.runs.count kind := by
      rw [Pool.count_insert, idle _ rfl]
      rfl
    exact ((rests s session).congr_runs
      (counts Run.reads fun r idle => by rw [Run.reads, idle]; rfl)
      (counts Run.writes fun r idle => by rw [Run.writes, idle]; rfl)).congr rfl rfl rfl rfl

/-! ## All sessions -/

def World.AtRest (w : World) : Prop :=
  ∀ id, w.RestsAt id

/-- One session comes to rest, and the others are left alone. -/
theorem World.AtRest.congr {id : Nat} {w v : World} (rest : w.AtRest) (here : v.RestsAt id)
    (elsewhere : ∀ other, other ≠ id → v.session? other = w.session? other) : v.AtRest := by
  intro other
  by_cases same : other = id
  · exact same ▸ here
  · intro s session
    exact rest other s ((elsewhere other same) ▸ session)

theorem restsAt_of_connects {id : Nat} {w v : World} (connects : Connects id w v) :
    v.RestsAt id := by
  intro s session
  have none_ : s.runs.items = [] := by
    have statements := connects.statements
    rw [World.statements, session] at statements
    exact List.map_eq_nil_iff.1 (Prod.mk.inj (Option.some.inj statements)).2
  refine Session.rests_iff.2 (.inr (.inr (.inr ?_)))
  simp [connects.unlocked s session, Session.anyReads, none_]

end SqlDriver.Engine
