/-
# SqlDriver.Engine.Program -- a statement made ready to run

A text becomes a program against the tables and triggers that there are.  The program
says what is done, what its rows look like, and whether it reads or writes.
-/
import SqlDriver.Engine.Binding.Change
import SqlDriver.Engine.Binding.Declaration
import SqlDriver.Engine.Grammar.Statement

namespace SqlDriver.Engine

set_option autoImplicit false

/-- What a statement does. -/
inductive Program where
  | query (q : Query)
  | mutate (m : Mutation)
  | createTable (t : Table)
  | dropTable (name : String)
  /-- `unfit` says why the column cannot be added to a table that has rows. -/
  | addColumn (table : String) (c : Column) (checks : List Check) (unfit : Option String)
  | createTrigger (t : Trigger)
  | dropTrigger (name : String)
  | control (c : Control)
  | readVersion
  | writeVersion (version : Int)
  | nothing

/-- How a program uses the database. -/
inductive Access where
  /-- Not at all. -/
  | none
  | read
  | write
deriving DecidableEq, Repr

/-- A program and the columns of its rows. -/
structure Prepared where
  program : Program
  outputs : List Binding.Output := []
  access : Access

namespace Prepared

/-- A program that changes the database and hands back no rows. -/
def writing (p : Program) : Prepared :=
  { program := p, access := .write }

end Prepared

namespace Program

/-- Refuses a declaration whose heading shows that it cannot be carried out. -/
def checkHeading (c : Contents) : Grammar.Heading → Outcome Unit
  | .table missing n written => do
      if n.toList.take 7 |>.map Char.toLower |> (· = "sqlite_".toList) then
        failure ("object name reserved for internal use: " ++ n)
      else if (c.table? n).isSome && !missing then
        failure ("table " ++ written ++ " already exists")
      else .ok ()
  | .trigger missing n written t => do
      if (c.table? t).isNone then failure ("no such table: main." ++ t)
      else if (c.trigger? n).isSome && !missing then
        failure ("trigger " ++ written ++ " already exists")
      else .ok ()
  | .other => .ok ()

/-- Binds a statement, given the tables that there are or why they cannot be known. -/
def bind (schema : Outcome Contents) (s : Statement) : Binding.Lookup Prepared := do
  let (c, unreadable) := match schema with
    | .ok c => (c, none)
    | .error fault => ({}, some fault)
  let env : Binding.Env := { contents := c, unreadable }
  let skipped : Prepared := { program := .nothing, access := .read }
  match s with
  | .select q => do
      let (q, outputs) ← Binding.bindSelect env q
      return ⟨.query q, outputs, if (← get).reads then .read else .none⟩
  | .change change => do
      let (m, outputs) ← Binding.bindChange (c.triggers.length + 1) env none [] change
      return ⟨.mutate m, outputs, .write⟩
  | .createTable _ n columns rules => do
      Binding.needTables env
      if (c.table? n).isSome then return skipped
      return .writing (.createTable (← Binding.bindTableForm env n columns rules))
  | .dropTable present n => do
      Binding.needTables env
      match c.table? n with
      | some t => return .writing (.dropTable t.name)
      | none => if present then return skipped else Binding.refuse ("no such table: " ++ n)
  | .addColumn n f => do
      let t ← Binding.table env n
      let (column, checks) ← Binding.bindAddedColumn env t f
      let unfit := Binding.unfit? column f.rules
      return ⟨.addColumn t.name column checks unfit, Binding.addedOutputs checks unfit, .write⟩
  | .createTrigger _ form => do
      Binding.needTables env
      if (c.trigger? form.name).isSome then return skipped
      return .writing (.createTrigger ⟨form⟩)
  | .dropTrigger present n => do
      Binding.needTables env
      match c.trigger? n with
      | some t => return .writing (.dropTrigger t.form.name)
      | none => if present then return skipped else Binding.refuse ("no such trigger: " ++ n)
  | .control k => return { program := .control k, access := .none }
  | .readVersion => return ⟨.readVersion, [{ name := "user_version" }], .read⟩
  | .writeVersion v => return .writing (.writeVersion v)
  | .nothing => return { program := .nothing, access := .none }

def tooLong : Fault := ⟨"statement too long", 18⟩

/-- The text is longer than the engine reads.  One that ends in a zero character, which ends it
for the engine, may be as long as an `int` counts; any other has a limit of its own. -/
def isOverlong (sql : List Char) : Bool :=
  let octets := (sql.map Char.utf8Size).foldr (· + ·) 0
  2147483647 < octets || 1000000000 < octets && sql.getLast? ≠ some '\x00'

/-- The tokens of the statement at the front of a text, which ends at its first zero character;
`none` if there is no statement. -/
def front (sql : List Char) : Outcome (Option (List Token)) :=
  if isOverlong sql then .error tooLong else .ok (Grammar.tokens (Text.untilNul sql))

/-- Makes the statement at the front of some tokens ready to run. -/
def prepare (schema : Outcome Contents) (ts : List Token) : Outcome Prepared := do
  match Grammar.headingOf ts with
  | .other => pure ()
  | heading => checkHeading (← schema) heading
  let s ← Grammar.statementOf ts
  let (p, _) ← (bind schema s).run {}
  return p

end Program

end SqlDriver.Engine
