/-
# SqlDriver.Engine.Step -- running statements

A statement is prepared once and run any number of times, row by row.  It is prepared
anew when tables or triggers have changed since.  The changes of a statement are made
when it is started, before its first row comes out; they are kept when it ends or is
reset, and lost when it fails.
-/
import SqlDriver.Engine.Location
import SqlDriver.Engine.Session

namespace SqlDriver.Engine

set_option autoImplicit false

namespace Action

def run? (id run : Nat) : Action (Option Run) := do
  return (← session id).runs.get? run

def updateRun (id run : Nat) (f : Run → Run) : Action Unit :=
  update id fun s => { s with runs := s.runs.modify run f }

/-- The tables that statements are prepared against, or why they cannot be known. -/
def schema (id : Nat) : Action (Outcome Contents) := do
  let w ← get
  let s ← session id
  if s.lock = .none && !s.informed && w.isHeld id s.file .pending then return .error busy
  return w.contents s

/-- Prepares the statement at the front of a text; `none` if there is none. -/
def prepare (id : Nat) (sql : List Char) : Action (Option Nat) := do
  match ← ofOutcome (Program.front sql) with
  | none => return none
  | some ts =>
      let c ← schema id
      let p ← ofOutcome (Program.prepare c ts)
      let form := c.toOption.map Contents.form
      if p.access ≠ .none && form.isSome then update id fun s => { s with informed := true }
      let s ← session id
      let (run, runs) := s.runs.insert { tokens := ts, prepared := p, form }
      update id fun s => { s with runs }
      return some run

/-! ## Ends of statements -/

/-- Ends a statement that changed the database. -/
def finishChange (id run changes : Nat) : Action Unit := do
  updateRun id run fun r => { r with phase := .idle }
  update id fun s => { s with changes }
  finishAlone id

/-- Ends a statement, as if no more of its rows were wanted. -/
def halt (id run : Nat) : Action Unit := do
  match (← run? id run).map Run.phase with
  | some (.reading ..) =>
      updateRun id run fun r => { r with phase := .idle, cutOff := false }
      settle id
  | some (.giving _ changes) => finishChange id run changes
  | _ => settle id

def fail {α : Type} (id run : Nat) (fault : Fault) : Action α := do
  updateRun id run fun r => { r with phase := .idle, cutOff := false }
  settle id
  throw fault

/-- Goes on with a value, or ends the statement. -/
def orFail {α : Type} (id run : Nat) (a : Action α) : Action α :=
  tryCatch a (fail id run)

/-! ## Rows -/

/-- The next row of a statement that reads. -/
def advance (id run : Nat) (start : Contents) (flow : Flow) : Action (Option Tuple) := do
  let now := ((← get).contents (← session id)).toOption.getD start
  match Flow.pull ⟨now, start⟩ [] flow with
  | .error fault => fail id run fault
  | .ok none =>
      halt id run
      return none
  | .ok (some (row, flow)) =>
      updateRun id run fun r => { r with phase := .reading start flow }
      return some row

/-- The next row that a change hands back. -/
def give (id run changes : Nat) : List Tuple → Action (Option Tuple)
  | [] => do
      finishChange id run changes
      return none
  | row :: rest => do
      updateRun id run fun r => { r with phase := .giving rest changes }
      return some row

/-! ## Programs -/

/-- Stores the database that a statement made. -/
def keep (id : Nat) (c : Contents) : Action Unit :=
  update id fun s => { s with working := some c, dirty := true }

/-- Changes tables or triggers. -/
def reshape (id : Nat) (c : Contents) : Action Unit := do
  keep id c.changed
  update id fun s => { s with reshaped := true }

/-- Every row of a table is removed at once. -/
def Mutation.clears : Mutation → Bool
  | .delete _ (.select _ none _) _ => true
  | _ => false

def runChange (id run : Nat) (c : Contents) (m : Mutation) (hasRows : Bool) :
    Action (Option Tuple) := do
  let s ← session id
  match mutate Flow.patience { start := c } m { contents := c, lastNumber := s.lastNumber } with
  | .ok w =>
      update id fun s => { s with lastNumber := w.lastNumber }
      if 0 < w.changes || Mutation.clears m then keep id w.contents
      if hasRows then give id run w.changes w.returned.reverse
      else
        finishChange id run w.changes
        return none
  | .error stop =>
      update id fun s => { s with lastNumber := stop.work.lastNumber, changes := 0 }
      match stop.policy with
      | .fail =>
          keep id stop.work.contents
          finishChange id run stop.work.changes
      | .rollback => undo id
      | _ => pure ()
      fail id run stop.fault

/-- The conditions of a table hold for all of its rows. -/
def meetsChecks (c : Contents) (table : String) : Outcome Bool :=
  (c.rows table).allM fun row =>
    (((c.table? table).map Table.checks).getD []).allM fun check => do
      let d ← check.condition.eval (Flow.reader ⟨c, c⟩) [row.tuple]
      return d.truth? ≠ some false

/-- Adds a column to a table, with its default in every row.  A column with conditions of its own
is a reason to look at those rows. -/
def addColumn (c : Contents) (table : String) (column : Column) (checks : List Check)
    (unfit : Option String) : Outcome Contents := do
  let isEmpty := (c.rows table).isEmpty
  if !isEmpty then unfit.forM failure
  let d ← if isEmpty then pure .null else column.default.eval (Flow.reader ⟨c, c⟩) []
  let added := c.modify table fun t =>
    { t with
      columns := t.columns ++ [column], checks := t.checks ++ checks,
      rows := t.rows.map fun r => { r with values := r.values ++ [column.affinity.store d] } }
  if !checks.isEmpty then
    if !isEmpty && column.notNull && d.isNull then failure "NOT NULL constraint failed"
    if !(← meetsChecks added table) then failure "CHECK constraint failed"
  return added

def runProgram (id run : Nat) (p : Prepared) (c : Contents) : Action (Option Tuple) := do
  let done : Action (Option Tuple) := do
    finishAlone id
    return none
  match p.program with
  | .query q =>
      updateRun id run fun r => { r with phase := .reading c (Flow.ofQuery q) }
      advance id run c (Flow.ofQuery q)
  | .mutate m => runChange id run c m (!p.outputs.isEmpty)
  | .createTable t =>
      reshape id { c with tables := c.tables ++ [t] }
      done
  | .dropTable name =>
      if (← session id).otherReads run then throw tableLocked
      reshape id
        { c with
          tables := c.tables.filter fun t => !sameName t.name name
          triggers := c.triggers.filter fun t => !sameName t.form.table name }
      done
  | .addColumn table column checks unfit =>
      let c ← ofOutcome (addColumn c table column checks unfit)
      reshape id c
      done
  | .createTrigger t =>
      reshape id { c with triggers := t :: c.triggers }
      done
  | .dropTrigger name =>
      reshape id { c with triggers := c.triggers.filter fun t => !sameName t.form.name name }
      done
  | .control k =>
      control id k
      settle id
      return none
  | .readVersion =>
      let flow := Flow.given [[.ofInt c.userVersion]]
      updateRun id run fun r => { r with phase := .reading c flow }
      advance id run c flow
  | .writeVersion v =>
      keep id { c with userVersion := v }
      done
  | .nothing => done

/-- Prepares a statement anew if tables or triggers have changed.  It then takes its locks
anew, too. -/
def refresh (id run : Nat) (r : Run) (c : Contents) : Action Prepared := do
  if r.form = some c.form then return r.prepared
  let p ← ofOutcome (Program.prepare (.ok c) r.tokens)
  updateRun id run fun r => { r with prepared := p, form := some c.form }
  settle id
  return p

/-- Takes the locks that a program needs. -/
def lockFor (id : Nat) : Access → Action Unit
  | .none => return ()
  | .read => lockShared id
  | .write => lockReserved id

def start (id run : Nat) (r : Run) : Action (Option Tuple) := do
  match r.prepared.access with
  | .none =>
      let c := ((← get).contents (← session id)).toOption.getD {}
      runProgram id run r.prepared c
  | access =>
      lockFor id access
      let c ← contents id
      let p ← refresh id run r c
      lockFor id p.access
      runProgram id run p c

/-- The next row of a statement, which is started if it is not at work; `none` at its
end. -/
def step (id run : Nat) : Action (Option Tuple) := do
  match ← run? id run with
  | none => return none
  | some r =>
      match r.phase with
      | .idle =>
          orFail id run do
            tryCatch (start id run r) fun fault => do
              match r.prepared.program with
              | .mutate _ => update id fun s => { s with changes := 0 }
              | _ => pure ()
              throw fault
      | .reading c flow =>
          if r.cutOff then fail id run rolledBack
          else advance id run c flow
      | .giving rows changes => give id run changes rows

/-- Ends a statement so that it can be run again. -/
def reset (id run : Nat) : Action Unit :=
  tryCatch (halt id run) fun _ => return ()

/-- Ends a statement for good. -/
def finalize (id run : Nat) : Action Unit := do
  reset id run
  update id fun s => { s with runs := s.runs.erase run }

/-! ## Sessions -/

def connect (mode : OpenMode) (source : String) : Action Nat := do
  let l ← ofOutcome (Location.ofSource mode source)
  let w ← get
  let cannotOpen : Fault := ⟨"unable to open database file: " ++ source, 14⟩
  let file ←
    if l.isPrivate then pure none
    else
      match w.disk.locate? l.path with
      | none => throw cannotOpen
      | some path =>
          if (w.disk.file? path).isNone then
            if l.mode ≠ .create then throw cannotOpen
            set { w with disk := w.disk.put path (.octets []) }
          pure (some path)
  let w ← get
  let (id, sessions) := w.sessions.insert { file, readOnly := l.mode = .readOnly }
  set { w with sessions }
  return id

/-- Sets how long a session waits for a lock, if that is said. -/
def setTimeout (id : Nat) (wait : Option Nat) : Action Unit :=
  update id fun s => { s with timeout := wait.getD s.timeout }

/-- Closes a session; its open transaction is lost. -/
def disconnect (id : Nat) : Action Unit :=
  modify fun w => { w with sessions := w.sessions.erase id }

/-- Runs control statements one after the other. -/
def controls (id : Nat) (cs : List Control) : Action Unit :=
  cs.forM fun c => tryCatch (control id c) fun fault => do
    settle id
    throw fault

end Action

end SqlDriver.Engine
