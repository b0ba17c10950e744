/-
# SqlDriver.Proofs.Engine.Ground -- what statements make of a database

A statement that is run in a transaction, row by row and by way of locks, snapshots and
statements made anew, comes in the end to a function of the database that it finds: `carryOut`
says which one, and `carryOutAll` carries out statements one after the other.  Reading makes
nothing of a database.
-/
import SqlDriver.Engine.Step
import SqlDriver.Proofs.Engine.Prepared

namespace SqlDriver

set_option autoImplicit false

/-- The database that a file holds.  A file without octets, or none, is a database without
tables. -/
def Disk.database (d : Disk) (path : String) : Engine.Outcome Engine.Contents :=
  match d.file? path with
  | some (.database c) => .ok c
  | some (.octets (_ :: _)) => .error Engine.notADatabase
  | _ => .ok {}

namespace Engine

/-- A database as a statement finds it, and the number of the row that was inserted last. -/
structure Ground where
  contents : Outcome Contents
  lastNumber : Int64

/-- A database that has not been changed. -/
def Ground.start (contents : Outcome Contents) : Ground :=
  ⟨contents, 0⟩

/-- What a program makes of a database. -/
def Program.effect (p : Program) (g : Ground) : Outcome Ground :=
  match p with
  | query _ | readVersion | control _ | nothing => .ok g
  | mutate m => do
      let c ← g.contents
      match Engine.mutate Flow.patience { start := c } m
        { contents := c, lastNumber := g.lastNumber } with
      | .ok w =>
          return ⟨.ok (if 0 < w.changes || Action.Mutation.clears m then w.contents else c),
            w.lastNumber⟩
      | .error stop => .error stop.fault
  | createTable t => do
      let c ← g.contents
      return { g with contents := .ok { c with tables := c.tables ++ [t] }.changed }
  | dropTable name => do
      let c ← g.contents
      return { g with contents := .ok ({ c with
        tables := c.tables.filter fun t => !sameName t.name name
        triggers := c.triggers.filter fun t => !sameName t.form.table name } : Contents).changed }
  | addColumn table column checks unfit => do
      let c ← Action.addColumn (← g.contents) table column checks unfit
      return { g with contents := .ok c.changed }
  | createTrigger t => do
      let c ← g.contents
      return { g with contents := .ok { c with triggers := t :: c.triggers }.changed }
  | dropTrigger name => do
      let c ← g.contents
      return { g with contents := .ok ({ c with
        triggers := c.triggers.filter fun t => !sameName t.form.name name } : Contents).changed }
  | writeVersion v => do
      let c ← g.contents
      return { g with contents := .ok { c with userVersion := v } }

theorem Program.effect_of_isReading {p : Program} (reads : p.isReading) (g : Ground) :
    p.effect g = .ok g := by
  cases p <;> first | rfl | cases reads

/-- What a change of rows makes of a database that can be read. -/
theorem Program.effect_mutate {g : Ground} {c : Contents} (known : g.contents = .ok c)
    (m : Mutation) : (mutate m).effect g =
      match Engine.mutate Flow.patience { start := c } m
        { contents := c, lastNumber := g.lastNumber } with
      | .ok made => .ok ⟨.ok (if 0 < made.changes || Action.Mutation.clears m then made.contents
          else c), made.lastNumber⟩
      | .error stop => .error stop.fault := by
  rw [effect, known]
  rfl

/-- What the statement at the front of a text makes of a database. -/
def carryOut (g : Ground) (sql : String) : Outcome Ground := do
  match ← Program.front sql.toList with
  | none => failure "statement contains no SQL"
  | some ts => do (← Program.prepare g.contents ts).program.effect g

/-- What statements make of a database, one after the other. -/
def carryOutAll (g : Ground) : List String → Outcome Ground
  | [] => .ok g
  | sql :: rest => do carryOutAll (← carryOut g sql) rest

/-- The statement at the front of a text neither controls a transaction nor hands back rows that
it changes. -/
def isPlain (sql : String) : Bool :=
  match Program.front sql.toList with
  | .ok (some ts) => (Grammar.statementOf ts).toOption.all Statement.isPlain
  | _ => true

theorem prepare_of_isPlain {sql : String} (plain : isPlain sql) {ts : List Token}
    (front : Program.front sql.toList = .ok (some ts)) {schema : Outcome Contents}
    {p : Prepared} (made : Program.prepare schema ts = .ok p) : p.IsPlain := by
  refine prepare_isPlain made fun s parsed => ?_
  simp only [isPlain, front, parsed] at plain
  exact plain

end Engine

end SqlDriver
