/-
# SqlDriver.Proofs.Driver.Timeout -- what comes of connecting, and how long a connection waits

A new connection waits as long as is asked for, or else as long as the settings say; where both
are given the settings do not count (`given_wait_counts`, `configured_wait_counts`).  Its session
keeps the wait, and the engine's own where neither says one (`timeout_of_opened`).  Connecting
comes to a connection or to an error -- the environment is closed, or the engine refuses --
except where the engine has opened the database and is then asked to wait longer than it can: that
ends the program (`connection_or_error`).  Nothing on the way bounds the wait, not even the
reading of the settings (`overlong_settings_end_program`).
-/
import SqlDriver.Config.Decode
import SqlDriver.Proofs.Driver.Failure
import SqlDriver.Proofs.Driver.InTransaction

namespace SqlDriver

set_option autoImplicit false

open Engine

/-- The settings of an environment are given another timeout. -/
def State.configured (s : State) (e : Nat) (wait : Option Nat) : State :=
  { s with environments := s.environments.modify e fun env =>
      { env with config := { env.config with busyTimeout := wait } } }

/-- The same answer from the same databases, with the same connections. -/
structure SameAnswer {α : Type} (one other : α × State) : Prop where
  answer : one.1 = other.1
  world : one.2.world = other.2.world
  connections : one.2.connections = other.2.connections

/-- An environment is open and the engine opens the database for it, but it is to wait on it
longer than it can. -/
def State.Overstrains (s : State) (e : Nat) (source : String) (timeout : Option Nat) : Prop :=
  ∃ env, s.environments.get? e = some env ∧ env.closed = false ∧
    (∃ id, (exec (Action.connect (Environment.openMode env.config) source) s.world).1 = .ok id) ∧
    Environment.isOverlong env.config timeout

section Connecting

variable (s : State) (e : Nat) (source : String)

/-! ## The timeout that applies -/

/-- What comes of connecting does not depend on the settings but for the way in which they open
databases and for the timeout that applies. -/
theorem sameAnswer_of_same_wait {timeout timeout' wait : Option Nat}
    (same : ∀ env, s.environments.get? e = some env →
      (timeout'.orElse fun _ => wait) = timeout.orElse fun _ => env.config.busyTimeout) :
    SameAnswer (exec (Environment.connect e source timeout') (s.configured e wait))
      (exec (Environment.connect e source timeout) s) := by
  unfold Environment.connect
  rw [exec_bind, exec_get, exec_bind, exec_get]
  dsimp only [State.configured]
  rw [Pool.get?_modify, if_pos rfl]
  cases found : s.environments.get? e with
  | none => exact ⟨rfl, rfl, rfl⟩
  | some env =>
      dsimp only [Option.map_some]
      rw [same env found]
      cases env.closed with
      | true => exact ⟨rfl, rfl, rfl⟩
      | false =>
          rw [if_neg Bool.false_ne_true, if_neg Bool.false_ne_true, exec_bind, exec_bind,
            exec_engine, exec_engine]
          have mode : Environment.openMode { env.config with busyTimeout := wait } =
              Environment.openMode env.config := rfl
          dsimp only
          rw [mode]
          rcases exec (Action.connect (Environment.openMode env.config) source) s.world
            with ⟨fault | id, w⟩ <;> dsimp only
          · exact ⟨rfl, rfl, rfl⟩
          · split <;> exact ⟨rfl, rfl, rfl⟩

/-- A timeout that is given counts, whatever the settings say. -/
theorem given_wait_counts (wait : Nat) (other : Option Nat) :
    SameAnswer (exec (Environment.connect e source (some wait)) (s.configured e other))
      (exec (Environment.connect e source (some wait)) s) :=
  sameAnswer_of_same_wait s e source fun _ _ => rfl

/-- Where none is given, the timeout of the settings counts as if it were given. -/
theorem configured_wait_counts (wait : Nat) :
    SameAnswer (exec (Environment.connect e source none) (s.configured e (some wait)))
      (exec (Environment.connect e source (some wait)) s) :=
  sameAnswer_of_same_wait s e source fun _ _ => rfl

/-- A session that was opened keeps the wait that it is told, or else the engine's own. -/
theorem timeout_of_opened {mode : OpenMode} {source : String} {w v : World} {id : Nat}
    (opened : exec (Action.connect mode source) w = (.ok id, v)) (wait : Option Nat) :
    ((exec (Action.setTimeout id wait) v).2.session? id).map Session.timeout =
      some (wait.getD 5000) := by
  have spec := connect_cases mode source w
  rw [opened] at spec
  obtain ⟨rfl, file, readOnly, sessions⟩ := spec
  have fresh : v.session? w.sessions.next = some { file, readOnly } := by
    rw [World.session?, sessions]
    exact (Pool.get?_insert ..).trans (if_pos rfl)
  change ((v.change w.sessions.next _).session? _).map _ = _
  rw [World.session?_change_of_found fresh]
  rfl

/-! ## What connecting comes to -/

/-- The program is ended exactly where the environment overstrains the engine. -/
theorem crashes_iff_overstrains (timeout : Option Nat) :
    (exec (Environment.connect e source timeout) s).1 = .ok .crashed ↔
      s.Overstrains e source timeout := by
  have connects := Environment.connects s e source timeout
  generalize exec (Environment.connect e source timeout) s = outcome at connects ⊢
  constructor
  · intro answer
    cases connects with
    | closed => cases answer
    | refused => cases answer
    | @crashed env id w found isOpen opened overlong =>
        exact ⟨env, found, isOpen, ⟨id, congrArg Prod.fst opened⟩, overlong⟩
    | opened => cases answer
  · rintro ⟨env, found, isOpen, ⟨id, answer⟩, overlong⟩
    cases connects with
    | closed gone =>
        rw [found, Option.all_some, isOpen] at gone
        cases gone
    | refused there _ refused =>
        cases found.symm.trans there
        rw [refused] at answer
        cases answer
    | crashed => rfl
    | opened there _ _ bearable =>
        cases found.symm.trans there
        exact absurd overlong bearable

/-- Connecting comes to a new connection to the session that the engine has opened, if the engine
can wait so long, or to an error: the environment is closed, or the engine refuses.  The program is
ended exactly where the engine has opened a session and is to wait longer than it can; then, as
with an error, the driver's objects are what they were.  The wait is the timeout that is given, or
else that of the settings, or else the engine's own; the session keeps it. -/
theorem connection_or_error (timeout : Option Nat) :
    (match exec (Environment.connect e source timeout) s with
      | (.ok (.connection c), t) => ∃ env id, s.environments.get? e = some env ∧
          Environment.isOverlong env.config timeout = false ∧
          (exec (Action.connect (Environment.openMode env.config) source) s.world).1 = .ok id ∧
          s.connections.get? c = none ∧
          t.connections.get? c = some { session := some id, environment := e } ∧
          (t.world.session? id).map Session.timeout =
            some ((timeout.orElse fun _ => env.config.busyTimeout).getD 5000) ∧
          t.events = .connectionOpened source timeout :: s.events
      | (.error .environmentClosed, t) =>
          (s.environments.get? e).all Environment.closed ∧ t = s
      | (.error why, t) => SameObjects s t ∧ t.events = s.events ∧
          ∃ env fault, why = .engine fault ∧ s.environments.get? e = some env ∧
            (exec (Action.connect (Environment.openMode env.config) source) s.world).1 =
              .error fault
      | (.ok .crashed, t) => SameObjects s t ∧ t.events = s.events) ∧
    ((exec (Environment.connect e source timeout) s).1 = .ok .crashed ↔
      s.Overstrains e source timeout) ∧
    ∀ wait, SameAnswer (exec (Environment.connect e source none) (s.configured e (some wait)))
        (exec (Environment.connect e source (some wait)) s) ∧
      ∀ other, SameAnswer (exec (Environment.connect e source (some wait)) (s.configured e other))
        (exec (Environment.connect e source (some wait)) s) := by
  refine ⟨?_, crashes_iff_overstrains s e source timeout, fun wait =>
    ⟨configured_wait_counts s e source wait, given_wait_counts s e source wait⟩⟩
  have connects := Environment.connects s e source timeout
  generalize exec (Environment.connect e source timeout) s = outcome at connects ⊢
  cases connects with
  | closed gone => exact ⟨gone, rfl⟩
  | @refused env fault w found _ answer =>
      exact ⟨⟨rfl, rfl, rfl⟩, rfl, env, fault, rfl, found, congrArg Prod.fst answer⟩
  | crashed => exact ⟨⟨rfl, rfl, rfl⟩, rfl⟩
  | @opened env id w found _ answer bearable =>
      have fresh : s.connections.get? s.connections.next = none := by
        cases there : s.connections.get? s.connections.next with
        | none => rfl
        | some connection => exact absurd (Pool.lt_next_of_get? there) (Nat.lt_irrefl _)
      exact ⟨env, id, found, Bool.eq_false_iff.2 bearable, congrArg Prod.fst answer, fresh,
        (Pool.get?_insert ..).trans (if_pos rfl), timeout_of_opened answer _, rfl⟩

/-- An environment with settings that were read from a text, and a default one: a wait of 2147483648
milliseconds ends the program, from the settings as from the argument, and one millisecond less
does not. -/
theorem overlong_settings_end_program :
    let settings : Config := { busyTimeout := some 2147483648 }
    (Config.ofInline "busy_timeout_ms = 2147483648").toOption = some settings ∧
      (exec (Environment.connect 1 ":memory:" none) (exec (Environment.create settings) {}).2).1 =
        .ok .crashed ∧
      (exec (Environment.connect 1 ":memory:" (some 2147483648))
        (exec (Environment.create {}) {}).2).1 = .ok .crashed ∧
      (exec (Environment.connect 1 ":memory:" (some 2147483647))
        (exec (Environment.create settings) {}).2).1 = .ok (.connection 1) :=
  ⟨by decide +kernel, by decide +kernel, by decide +kernel, by decide +kernel⟩

end Connecting

end SqlDriver
