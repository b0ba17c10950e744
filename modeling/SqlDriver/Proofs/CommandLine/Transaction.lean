/-
# SqlDriver.Proofs.CommandLine.Transaction -- a command is one transaction

With `--transaction` a command whose statements are plain is all or nothing
(`transaction_all_or_nothing`): either it succeeds and its database is what all of its statements
make of it, one after the other, or it fails and every database is what it was.  Where it fails
does not matter: at its settings or statements, when it connects, at a statement, at a line that
does not fit, or at the commit.  Only a timeout that is too long for the engine ends the program
itself, and then no database has changed either.
-/
import SqlDriver.Proofs.CommandLine.Printing

namespace SqlDriver.CommandLine

set_option autoImplicit false

open Engine

/-! ## What a command is given -/

section Given

variable (o : Options) (around : Surroundings)

/-- The settings of a command, or why it has none. -/
def config? : Except String Config :=
  match o.config with
  | none => .ok {}
  | some path => (Config.ofFile path (around.read path >>= textOf)).mapError Error.message

/-- A text, or why there is none. -/
def readable (what : String) (text : Except ReadFailure String) : Except String String :=
  text.mapError fun why => what ++ why.message

/-- The texts of a command: that of its file, then its own, or else that of the input. -/
def texts : Except String (List String) :=
  match o.file with
  | some path =>
      (readable ("cannot read " ++ path ++ ": ") (around.read path >>= textOf)).map
        (· :: o.statements)
  | none =>
      if o.statements.isEmpty then (readable "cannot read stdin: " (textOf around.input)).map ([·])
      else .ok o.statements

/-- The statements of a command: those of its texts, one text after the other. -/
def loaded : Except String (List String) :=
  (texts o around).map (·.flatMap Script.statements)

theorem exec_settings (kept : State × Sink) :
    exec (settings o around) kept = ((config? o around).mapError .told, kept) := by
  unfold config? settings
  cases o.config with
  | none => rfl
  | some path =>
      dsimp only
      cases Config.ofFile path (around.read path >>= textOf) <;> rfl

theorem exec_orTell (what : String) (text : Except ReadFailure String) (kept : State × Sink) :
    exec (Doing.orTell what text) kept = ((readable what text).mapError .told, kept) := by
  cases text <;> rfl

theorem exec_statementsOf (kept : State × Sink) :
    exec (statementsOf o around) kept = ((loaded o around).mapError .told, kept) := by
  unfold loaded texts statementsOf
  cases o.file with
  | none =>
      dsimp only
      rw [exec_bind, exec_pure]
      dsimp only
      cases own : o.statements with
      | nil =>
          simp only [Option.isNone_none, List.isEmpty_nil, Bool.and_self, if_true]
          rw [exec_bind, exec_orTell]
          cases readable "cannot read stdin: " (textOf around.input) with
          | error why => rfl
          | ok text => simp [Except.map, Except.mapError]
      | cons first rest => rfl
  | some path =>
      dsimp only
      rw [exec_bind, exec_orTell]
      cases readable ("cannot read " ++ path ++ ": ") (around.read path >>= textOf) <;> rfl

end Given

/-! ## Operations of the driver -/

theorem Failure.told_ne_crashed (message : String) : told message ≠ crashed := by
  rintro ⟨⟩

section Operations

variable {s : State} {sink : Sink} {c id : Nat} {b : Footing} {g : Ground}

theorem exec_doing {α : Type} (op : Op α) (s : State) (sink : Sink) :
    exec (Doing.perform op) (s, sink) =
      match exec op s with
      | (.ok a, t) => (.ok a, (t, sink))
      | (.error e, t) => (.error (.told e.message), (t, sink)) := by
  unfold Doing.perform
  rw [exec_bind, exec_get]
  dsimp only
  rw [← exec]
  rcases exec op s with ⟨e | a, t⟩ <;> rfl

/-- What a failed run of statements left open is undone, and no file changes. -/
theorem disk_abandon (c : Nat) (s : State) :
    ∃ undone t, exec (Runner.abandon c) s = (.ok undone, t) ∧ t.world.disk = s.world.disk := by
  have disk := disk_setAutocommit (s := s) (c := c) true
  unfold Runner.abandon
  rw [exec_tryCatch, exec_bind]
  rcases answer : exec (Connection.setAutocommit c true) s with ⟨e | _, t⟩ <;> rw [answer] at disk
  · exact ⟨false, t, rfl, disk⟩
  · exact ⟨true, t, rfl, disk⟩

theorem disk_closeEnvironment (e : Nat) (s : State) :
    ∃ first t, exec (Environment.close e) s = (.ok first, t) ∧ t.world.disk = s.world.disk := by
  unfold Environment.close
  rw [exec_bind, exec_get]
  dsimp only
  cases s.environments.get? e with
  | none => exact ⟨false, _, rfl, rfl⟩
  | some environment =>
      dsimp only
      cases environment.closed
      · exact ⟨true, _, rfl, rfl⟩
      · exact ⟨false, _, rfl, rfl⟩

end Operations

/-! ## Statements and their transaction -/

section Work

variable {o : Options} {s : State} {sink : Sink} {c id : Nat} {b : Footing} {g : Ground}
  {statements : List String}

/-- The statements of a command are carried out; where one fails, no file has changed. -/
theorem runStatements_carries (o : Options) (sink : Sink) (serves : s.Serves c id false 0 1)
    (stands : s.world.Stands id b g) (plain : ∀ sql ∈ statements, isPlain sql) :
    match exec (runStatements o c statements) (s, sink) with
    | (.ok _, t, _) =>
        ∃ g', carryOutAll g statements = .ok g' ∧ t.Serves c id false 0 1 ∧ t.world.Stands id b g'
    | (.error why, t, _) => why ≠ .crashed ∧ t.world.disk = b.disk := by
  have carries := runAll_carries ⟨o.headers, o.nullText⟩ sink serves stands plain
  unfold runStatements
  rw [exec_bind, exec_get]
  dsimp only
  rw [← exec]
  rcases ran : exec (Runner.runAll ⟨o.headers, o.nullText⟩ c statements) (s, sink) with
    ⟨e | _, t, sink'⟩ <;> rw [ran] at carries <;> dsimp only
  · rw [exec_bind, exec_set]
    dsimp only
    by_cases whole : o.transaction
    · obtain ⟨undone, u, abandoned, disk⟩ := disk_abandon c t
      rw [if_pos whole, exec_bind, exec_doing, abandoned]
      exact ⟨Failure.told_ne_crashed _, disk.trans carries⟩
    · rw [if_neg whole]
      exact ⟨Failure.told_ne_crashed _, carries⟩
  · exact carries

/-- How the transaction of a command ends: what its statements make of its database is published,
or no file has changed. -/
def Ends (b : Footing) (g : Ground) (statements : List String) :
    Except Failure Unit × State × Sink → Prop
  | (.ok _, t, _) => ∃ g' b', carryOutAll g statements = .ok g' ∧ b.Publishes g'.contents b' ∧
      t.world.disk = b'.disk
  | (.error why, t, _) => why ≠ .crashed ∧ t.world.disk = b.disk

theorem work_ends (whole : o.transaction) (sink : Sink) (serves : s.Serves c id true 0 1)
    (rises : s.world.Rises id b g) (plain : ∀ sql ∈ statements, isPlain sql) :
    Ends b g statements (exec (work o c statements) (s, sink)) := by
  obtain ⟨t, begun, serves, stands⟩ := setAutocommit_off serves rises
  have carries := runStatements_carries o sink serves stands plain
  unfold work
  simp only [whole, if_true]
  rw [exec_bind, exec_doing, begun]
  dsimp only
  rw [exec_bind]
  rcases ran : exec (runStatements o c statements) (t, sink) with ⟨why | _, t', sink'⟩ <;>
    rw [ran] at carries
  · exact carries
  obtain ⟨g', carried, serves, stands⟩ := carries
  have publishes := commit_publishes serves stands
  dsimp only
  rw [exec_bind, exec_doing]
  rcases committed : exec (Connection.commit c) t' with ⟨e | _, t⟩ <;> rw [committed] at publishes
  · exact ⟨Failure.told_ne_crashed _, publishes⟩
  -- Behind the commit nothing can fail.
  obtain ⟨b', publishes, serves, stands⟩ := publishes
  obtain ⟨u, enabled, serves, same⟩ := setAutocommit_on serves
  obtain ⟨v, closed, disk⟩ := close_of_serves serves
  dsimp only
  rw [exec_bind, exec_doing, enabled]
  dsimp only
  rw [exec_bind, exec_doing, closed]
  exact ⟨g', b', carried, publishes, disk.trans (same.trans stands.disk)⟩

end Work

/-! ## Commands -/

/-- What a transaction publishes that stands on what was opened is what its database becomes. -/
theorem becomes_of_publishes {b b' : Footing} {d : Disk} {mode : OpenMode} {source : String}
    {contents : Outcome Contents} (opens : b.Opens d mode source)
    (publishes : b.Publishes contents b') : d.Becomes b'.disk b.file contents where
  database path here := by
    have committed := publishes.committed
    rwa [Footing.committed, publishes.file, here] at committed
  elsewhere path other := by
    refine (publishes.elsewhere path other).trans ?_
    rcases opens.files path with same | ⟨here, -⟩
    · exact same
    · exact absurd here other

section Commands

variable {o : Options} {around : Surroundings} {config : Config} {s : State}
  {sink : Sink} {c e : Nat} {b : Footing} {g : Ground} {statements : List String}

theorem connect_command (o : Options) (sink : Sink)
    (found : s.environments.get? e = some { config }) (world : s.world = around.world) :
    match exec (connect o e) (s, sink) with
    | (.ok c, t, _) => Environment.isOverlong config o.timeout = false ∧
        ∃ id b, b.Opens around.disk (Environment.openMode config) o.database ∧
          t.Serves c id true 0 1 ∧ t.world.Rises id b (.start b.committed)
    | (.error why, t, _) => around.disk.Stays t.world.disk ∧ (why = .crashed ↔
        (∃ id, (exec (Action.connect (Environment.openMode config) o.database)
          around.world).1 = .ok id) ∧ Environment.isOverlong config o.timeout) := by
  have serves := connect_serves found o.database o.timeout
  rw [world] at serves
  unfold CommandLine.connect
  rw [exec_bind, exec_get]
  dsimp only
  rw [← exec]
  rcases answer : exec (Environment.connect e o.database o.timeout) s with
    ⟨fault | ⟨c⟩ | _, t⟩ <;> rw [answer] at serves
  · obtain ⟨⟨fault, refused⟩, disk⟩ := serves
    refine ⟨?_, fun ended => absurd ended (Failure.told_ne_crashed _), ?_⟩
    · rw [show _ = around.disk from disk]
      exact .refl _
    · rintro ⟨⟨id, connected⟩, -⟩
      rw [refused] at connected
      cases connected
  · exact serves
  · obtain ⟨overlong, connected, stays⟩ := serves
    exact ⟨stays, fun _ => ⟨connected, overlong⟩, fun _ => rfl⟩

/-- What is left to do of a command that has connected. -/
def finish (o : Options) (environment c : Nat) (statements : List String) : Doing Unit := do
  tryCatch (work o c statements) fun e => do
    Doing.perform (Connection.release c)
    throw e
  let _ ← Doing.perform (Environment.close environment)
  Doing.perform (Connection.release c)

/-- The objects of a command that has its settings. -/
def ready (world : World) (config : Config) : State where
  world
  environments := (({} : Pool Environment).insert { config }).2

/-- A command that has its settings and statements connects, and is finished. -/
theorem exec_perform (configured : config? o around = .ok config)
    (given : loaded o around = .ok statements) :
    exec (perform o around) ({ world := around.world }, sink) =
      exec (connect o 1 >>= fun c => finish o 1 c statements)
        (ready around.world config, sink) := by
  unfold perform
  rw [exec_bind, exec_settings, configured]
  dsimp only [Except.mapError]
  rw [exec_bind, exec_statementsOf, given]
  dsimp only [Except.mapError]
  rw [exec_bind, exec_doing]
  rfl

/-- Whatever way the work of a command ended, it is what is left when everything is let go. -/
theorem finish_ends (environment : Nat)
    (ends : Ends b g statements (exec (work o c statements) (s, sink))) :
    Ends b g statements (exec (finish o environment c statements) (s, sink)) := by
  unfold finish
  rw [exec_bind, exec_tryCatch]
  rcases answer : exec (work o c statements) (s, sink) with ⟨why | _, t, sink'⟩ <;>
    rw [answer] at ends <;> dsimp only
  · obtain ⟨alive, disk⟩ := ends
    obtain ⟨u, released, same⟩ := disk_release c t
    rw [exec_bind, exec_doing, released]
    exact ⟨alive, same.trans disk⟩
  · obtain ⟨g', b', carried, publishes, disk⟩ := ends
    obtain ⟨first, u, closed, same⟩ := disk_closeEnvironment environment t
    obtain ⟨v, released, same'⟩ := disk_release c u
    rw [exec_bind, exec_doing, closed]
    dsimp only
    rw [exec_doing, released]
    exact ⟨g', b', carried, publishes, same'.trans (same.trans disk)⟩

end Commands

/-- With `--transaction` a command whose statements are plain is all or nothing, whatever locks
others hold on its files meanwhile.  If it succeeds, its database has become what its statements
make of it, one after the other, and the other files are what they were; if it fails, every
database is what it was.  The program itself is ended where the command connects with a timeout
that is too long, and nowhere else. -/
theorem transaction_all_or_nothing (o : Options) (around : Surroundings) (sink : Sink)
    (whole : o.transaction)
    (plain : ∀ statements, loaded o around = .ok statements → ∀ sql ∈ statements, isPlain sql) :
    (match exec (perform o around) ({ world := around.world }, sink) with
      | (.ok _, s, _) => ∃ config statements place final,
          config? o around = .ok config ∧ loaded o around = .ok statements ∧
          Location.place? around.disk (Environment.openMode config) o.database = some place ∧
          carryOutAll (.start (around.disk.databaseAt place)) statements = .ok final ∧
          around.disk.Becomes s.world.disk place final.contents
      | (.error _, s, _) => around.disk.Stays s.world.disk ∧
          ∀ path, s.world.disk.database path = around.disk.database path) ∧
    ((exec (perform o around) ({ world := around.world }, sink)).1 = .error .crashed ↔
      ∃ config statements, config? o around = .ok config ∧ loaded o around = .ok statements ∧
        (∃ id, (exec (Action.connect (Environment.openMode config) o.database)
          around.world).1 = .ok id) ∧
        Environment.isOverlong config o.timeout) := by
  have stays : around.disk.Stays around.disk := .refl _
  cases configured : config? o around with
  | error why =>
      unfold perform
      rw [exec_bind, exec_settings, configured]
      exact ⟨⟨stays, stays.database⟩, by simp [Except.mapError]⟩
  | ok config =>
      cases given : loaded o around with
      | error why =>
          unfold perform
          rw [exec_bind, exec_settings, configured]
          dsimp only [Except.mapError]
          rw [exec_bind, exec_statementsOf, given]
          exact ⟨⟨stays, stays.database⟩, by simp [Except.mapError]⟩
      | ok statements =>
          have connects := connect_command (s := ready around.world config) (e := 1) o sink rfl rfl
          rw [exec_perform configured given, exec_bind]
          rcases connected : exec (connect o 1) (ready around.world config, sink) with
              ⟨why | c, t, sink'⟩ <;> rw [connected] at connects <;> dsimp only
          · obtain ⟨stays, crashed⟩ := connects
            refine ⟨⟨stays, stays.database⟩, ?_⟩
            rw [Except.error.injEq, crashed]
            simp
          obtain ⟨fits, id, b, opens, serves, rises⟩ := connects
          have ends := finish_ends 1 (work_ends whole sink' serves rises (plain statements given))
          rcases ended : exec (finish o 1 c statements) (t, sink') with ⟨why | _, u, sink''⟩ <;>
            rw [ended] at ends <;> dsimp only
          · obtain ⟨alive, disk⟩ := ends
            have stays : around.disk.Stays u.world.disk := disk ▸ opens.stays
            refine ⟨⟨stays, stays.database⟩, ?_⟩
            simp [alive, fits]
          · obtain ⟨g', b', carried, publishes, disk⟩ := ends
            refine ⟨⟨config, statements, b.file, g', rfl, rfl, opens.place, ?_, ?_⟩, ?_⟩
            · rw [← opens.committed]
              exact carried
            · show around.disk.Becomes u.world.disk b.file g'.contents
              rw [disk]
              exact becomes_of_publishes opens publishes
            · simp [fits]

/-- A command that makes a table and inserts a row. -/
def insertion : Options where
  database := "a.db"
  statements := ["CREATE TABLE t(x); INSERT INTO t VALUES(1)"]
  transaction := true

/-- The database of the command is what its two statements make of an empty one. -/
theorem insertion_is_whole :
    insertion.transaction ∧
      (∀ statements, loaded insertion {} = .ok statements → ∀ sql ∈ statements, isPlain sql) ∧
      ∃ final, carryOutAll (.start (.ok {})) ["CREATE TABLE t(x)", "INSERT INTO t VALUES(1)"] =
          .ok final ∧
        (exec (perform insertion {}) ({}, {})).2.1.world.disk.database "a.db" = final.contents := by
  have given : loaded insertion {} =
      .ok ["CREATE TABLE t(x)", "INSERT INTO t VALUES(1)"] := by rfl
  have plain : ∀ statements, loaded insertion {} = .ok statements →
      ∀ sql ∈ statements, isPlain sql := by
    intro statements same
    obtain rfl := Except.ok.inj (given.symm.trans same)
    decide +kernel
  refine ⟨rfl, plain, ?_⟩
  have main := (transaction_all_or_nothing insertion {} {} rfl plain).1
  have succeeds : (exec (perform insertion {})
      ({ world := ({} : Surroundings).world }, {})).1.toOption = some () := by
    decide +kernel
  rw [exec_eq_of_toOption succeeds] at main
  obtain ⟨config, statements, place, final, configured, loads, found, carried, becomes⟩ := main
  obtain rfl := Except.ok.inj (given.symm.trans loads)
  obtain rfl : {} = config := Except.ok.inj configured
  have here : Location.place? {} (Environment.openMode {}) "a.db" = some (some "a.db") := by
    decide +kernel
  obtain rfl := Option.some.inj (here.symm.trans found)
  exact ⟨final, carried, becomes.database "a.db" rfl⟩

/-- What the command finds where another session reads its file. -/
def contended : Surroundings where
  disk := ⟨[("a.db", .octets [])]⟩
  sessions := (({} : Pool Session).insert { file := some "a.db", lock := .shared }).2

-- the locks of others can make a command fail at its last step: here it cannot commit
example : (run (.run insertion) contended).complaint = "naml-sql: database is locked\n" := by
  decide +kernel

/-- A query whose timeout is longer than the engine can wait. -/
def impatient : Options where
  database := ":memory:"
  statements := ["SELECT 1"]
  timeout := some 2147483648
  transaction := true

/-- The command neither succeeds nor tells why it fails: the program is ended. -/
theorem overlong_timeout_ends_program :
    loaded impatient {} = .ok ["SELECT 1"] ∧ isPlain "SELECT 1" ∧
      (exec (perform impatient {}) ({}, {})).1 = .error .crashed ∧
      (run (.run impatient) {}).exitCode = 101 :=
  ⟨by rfl, by decide +kernel, by decide +kernel, by decide +kernel⟩

end SqlDriver.CommandLine
