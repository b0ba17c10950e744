/-
# SqlDriver.CommandLine.Run -- what a command does

A command reads its settings and statements before it opens the database, runs the
statements up to the first that fails, and ends with everything closed.  With
`--transaction` all statements are one transaction, which is undone when one fails.
-/
import SqlDriver.CommandLine.Options
import SqlDriver.Config.Decode
import SqlDriver.Runner

namespace SqlDriver.CommandLine

set_option autoImplicit false

/-- What a command finds. -/
structure Surroundings where
  /-- The files among which databases lie. -/
  disk : Disk := {}
  /-- The sessions that others have on the files, and the locks that they hold.  They stand still
  while the command runs. -/
  sessions : Pool Engine.Session := {}
  /-- The octets of a file that is no database, by its path. -/
  read : String → Except ReadFailure (List UInt8) := disk.read
  /-- The octets of the standard input. -/
  input : List UInt8 := []

def Surroundings.world (around : Surroundings) : Engine.World :=
  ⟨around.disk, around.sessions⟩

/-- How a command ended. -/
structure Report where
  exitCode : Nat
  printed : String := ""
  /-- What is told of a failure. -/
  complaint : String := ""
  /-- What happened, the latest first. -/
  events : List Event := []
  /-- The files that are left. -/
  disk : Disk := {}

/-- Why a command fails. -/
inductive Failure where
  /-- With a text. -/
  | told (message : String)
  /-- The program was ended by a timeout that is too long. -/
  | crashed
deriving DecidableEq, Repr

abbrev Doing := ExceptT Failure (StateM (State × Sink))

namespace Doing

def perform {α : Type} (op : Op α) : Doing α := do
  let (s, sink) ← get
  let (r, s) := StateT.run (ExceptT.run op) s
  set (s, sink)
  match r with
  | .ok a => return a
  | .error e => throw (.told e.message)

/-- Goes on with a value, or tells why there is none. -/
def orTell {α : Type} (what : String) : Except ReadFailure α → Doing α
  | .ok a => return a
  | .error why => throw (.told (what ++ why.message))

end Doing

def settings (o : Options) (around : Surroundings) : Doing Config := do
  match o.config with
  | none => return {}
  | some path =>
      match Config.ofFile path (around.read path >>= textOf) with
      | .ok c => return c
      | .error e => throw (.told e.message)

/-- The statements of a command: those of its file, then its own, or else those of the
input. -/
def statementsOf (o : Options) (around : Surroundings) : Doing (List String) := do
  let fromFile ← match o.file with
    | none => pure []
    | some path => do
        let text ← Doing.orTell ("cannot read " ++ path ++ ": ") (around.read path >>= textOf)
        pure (Script.statements text)
  let own := o.statements.flatMap Script.statements
  if o.file.isNone && o.statements.isEmpty then
    return Script.statements (← Doing.orTell "cannot read stdin: " (textOf around.input))
  return fromFile ++ own

def connect (o : Options) (environment : Nat) : Doing Nat := do
  let (s, sink) ← get
  let (r, s) := StateT.run (ExceptT.run (Environment.connect environment o.database o.timeout)) s
  set (s, sink)
  match r with
  | .ok (.connection c) => return c
  | .ok .crashed => throw .crashed
  | .error e => throw (.told ("cannot open " ++ o.database ++ ": " ++ e.message))

/-- Runs the statements of a command; where one fails, an open transaction is undone. -/
def runStatements (o : Options) (c : Nat) (statements : List String) : Doing Unit := do
  let runner : Runner := ⟨o.headers, o.nullText⟩
  let (r, after) := StateT.run (ExceptT.run (runner.runAll c statements)) (← get)
  set after
  match r with
  | .ok () => return ()
  | .error e =>
      if o.transaction then
        let _ ← Doing.perform (Runner.abandon c)
      throw (.told e.message)

def work (o : Options) (c : Nat) (statements : List String) : Doing Unit := do
  if o.transaction then Doing.perform (Connection.setAutocommit c false)
  runStatements o c statements
  if o.transaction then
    Doing.perform (Connection.commit c)
    Doing.perform (Connection.setAutocommit c true)
  let _ ← Doing.perform (Connection.close c)

/-- Does what a command says.  The connection is let go however it ends. -/
def perform (o : Options) (around : Surroundings) : Doing Unit := do
  let config ← settings o around
  let statements ← statementsOf o around
  let environment ← Doing.perform (Environment.openNamed DriverInfo.sqlite3.name config)
  let c ← connect o environment
  tryCatch (work o c statements) fun e => do
    Doing.perform (Connection.release c)
    throw e
  let _ ← Doing.perform (Environment.close environment)
  Doing.perform (Connection.release c)

def run (request : Request) (around : Surroundings) : Report :=
  let disk := around.disk
  match request with
  | .usage => { exitCode := 2, complaint := usageText, disk }
  | .help => { exitCode := 0, printed := helpText, disk }
  | .version => { exitCode := 0, printed := versionText, disk }
  | .run o =>
      let (r, s, sink) :=
        StateT.run (ExceptT.run (perform o around)) ({ world := around.world }, {})
      let report : Report :=
        { exitCode := 0, printed := sink.printed, events := s.events, disk := s.world.disk }
      match r with
      | .ok () => report
      | .error (.told message) =>
          { report with exitCode := 1, complaint := programName ++ ": " ++ message ++ "\n" }
      | .error .crashed => { report with exitCode := 101 }

end SqlDriver.CommandLine
