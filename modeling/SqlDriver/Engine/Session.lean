/-
# SqlDriver.Engine.Session -- connections to databases and their transactions

A session sees its database as it was committed last, or as its own open transaction
left it.  Sessions on one file keep out of each other's way by locks: many may read,
one may write, and to commit it has to be alone (`commit`).  Outside of a transaction
every statement is one of its own, which ends when the last statement at work ends.
-/
import SqlDriver.Disk
import SqlDriver.Engine.Change
import SqlDriver.Engine.Program
import SqlDriver.Pool

namespace SqlDriver.Engine

set_option autoImplicit false

/-- How firmly a session holds its file. -/
inductive Lock where
  | none
  /-- It reads. -/
  | shared
  /-- It will write; others may read. -/
  | reserved
  /-- It waits to commit; no other may begin to read. -/
  | pending
  | exclusive
deriving DecidableEq, Repr

namespace Lock

def rank : Lock → Nat
  | none => 0
  | shared => 1
  | reserved => 2
  | pending => 3
  | exclusive => 4

/-- The lock is at least as firm as another one. -/
def atLeast (a b : Lock) : Bool :=
  b.rank ≤ a.rank

def max (a b : Lock) : Lock :=
  if a.atLeast b then a else b

end Lock

/-- How far a statement got. -/
inductive Phase where
  | idle
  /-- It yields rows that it reads. -/
  | reading (start : Contents) (flow : Flow)
  /-- It has changed rows, and hands back what is left. -/
  | giving (rows : List Tuple) (changes : Nat)

namespace Phase

def isActive : Phase → Bool
  | idle => false
  | _ => true

end Phase

/-- A statement of a session. -/
structure Run where
  tokens : List Token
  prepared : Prepared
  /-- The form of the database that it was prepared for; none if that is gone. -/
  form : Option Nat
  phase : Phase := .idle
  /-- The tables that it reads have been taken away. -/
  cutOff : Bool := false

namespace Run

/-- The statement is at work and reads the database. -/
def reads (r : Run) : Bool :=
  r.phase.isActive && r.prepared.access ≠ .none

/-- The statement is at work and has changed the database. -/
def writes (r : Run) : Bool :=
  r.phase.isActive && r.prepared.access = .write

end Run

/-- A point of a transaction to which one can go back. -/
structure Savepoint where
  name : String
  working : Option Contents

/-- A connection to a database. -/
structure Session where
  /-- The file of the database; none if it is the session's own. -/
  file : Option String
  readOnly : Bool := false
  /-- How long it waits for a lock that another session holds, in milliseconds.  Nothing else
  runs while it waits, so it waits in vain. -/
  timeout : Nat := 5000
  /-- The database as it was committed last, if it is the session's own. -/
  own : Contents := {}
  /-- The database as the open transaction left it, if it has been changed. -/
  working : Option Contents := none
  /-- The open transaction has changed something. -/
  dirty : Bool := false
  /-- The open transaction has changed tables or triggers. -/
  reshaped : Bool := false
  /-- No transaction was begun. -/
  autocommit : Bool := true
  /-- The transaction was begun by a savepoint. -/
  bySavepoint : Bool := false
  /-- The savepoints, the newest first. -/
  savepoints : List Savepoint := []
  lock : Lock := .none
  /-- The tables that there are have been looked up once. -/
  informed : Bool := false
  /-- The number of rows that the last change of rows changed. -/
  changes : Nat := 0
  /-- The number of the row that was inserted last. -/
  lastNumber : Int64 := 0
  runs : Pool Run := {}

namespace Session

/-- A statement other than the one given is at work and reads. -/
def otherReads (s : Session) (run : Nat) : Bool :=
  s.runs.items.any fun (k, r) => k ≠ run && r.reads

/-- A statement is at work and has changed the database. -/
def anyWrites (s : Session) : Bool :=
  s.runs.items.any fun (_, r) => r.writes

def anyReads (s : Session) : Bool :=
  s.runs.items.any fun (_, r) => r.reads

/-- The open transaction may write, and perhaps has written. -/
def mayWrite (s : Session) : Bool :=
  s.dirty || s.lock.atLeast .reserved

/-- The locks that are held for no statement and no transaction are given up. -/
def settle (s : Session) : Session :=
  if !s.autocommit || s.anyWrites then s
  else { s with lock := if s.anyReads then .shared else .none }

/-- The statements have to be prepared anew. -/
def expire (s : Session) : Session :=
  { s with runs := s.runs.mapItems fun _ r => { r with form := none } }

/-- The statements that read tables are cut off from them. -/
def cutOff (s : Session) : Session :=
  { s with runs := s.runs.mapItems fun _ r =>
      match r.phase with
      | .reading .. => { r with cutOff := r.cutOff || r.reads }
      | _ => r }

/-- Drops what the open transaction did. -/
def discard (s : Session) : Session :=
  let s := if s.reshaped then s.expire else s
  { s with
    working := none, dirty := false, reshaped := false, savepoints := [], bySavepoint := false }

end Session

/-- All databases and the connections to them. -/
structure World where
  disk : Disk := {}
  sessions : Pool Session := {}

/-- Acts on databases.  What was done before a failure stays done. -/
abbrev Action := ExceptT Fault (StateM World)

/-- The refusal of a lock that another session holds. -/
def busy : Fault := ⟨"database is locked", 5⟩

/-- The refusal to read a file that is no database. -/
def notADatabase : Fault := ⟨"file is not a database", 26⟩

/-- The refusal to change a database that is open for reading. -/
def readOnlyDatabase : Fault := ⟨"attempt to write a readonly database", 8⟩

/-- The refusal to remove a table while statements read. -/
def tableLocked : Fault := ⟨"database table is locked", 6⟩

/-- The failure of a statement whose tables were taken away. -/
def rolledBack : Fault := ⟨"abort due to ROLLBACK", 516⟩

namespace World

def session? (w : World) (id : Nat) : Option Session :=
  w.sessions.get? id

/-- Another session on the file of a session holds at least this lock. -/
def isHeld (w : World) (id : Nat) (file : Option String) (lock : Lock) : Bool :=
  file.isSome &&
    w.sessions.items.any fun (k, s) => k ≠ id && s.file = file && s.lock.atLeast lock

/-- The database of a session as it was committed last. -/
def committed (w : World) (s : Session) : Outcome Contents :=
  match s.file with
  | none => .ok s.own
  | some path =>
      match w.disk.file? path with
      | some (.database c) => .ok c
      | some (.octets (_ :: _)) => .error notADatabase
      | _ => .ok {}

/-- The database as a session sees it. -/
def contents (w : World) (s : Session) : Outcome Contents :=
  match s.working with
  | some c => .ok c
  | none => w.committed s

end World

namespace Action

def session (id : Nat) : Action Session := do
  return ((← get).session? id).getD { file := none }

def update (id : Nat) (f : Session → Session) : Action Unit :=
  modify fun w => { w with sessions := w.sessions.modify id f }

/-- Gives up the locks that are not needed any more. -/
def settle (id : Nat) : Action Unit :=
  update id Session.settle

/-- Goes on with a value, or fails. -/
def ofOutcome {α : Type} : Outcome α → Action α
  | .ok a => return a
  | .error fault => throw fault

/-- The database as a session sees it. -/
def contents (id : Nat) : Action Contents := do
  ofOutcome ((← get).contents (← session id))

/-! ## Locks -/

def lockShared (id : Nat) : Action Unit := do
  let s ← session id
  if !s.lock.atLeast .shared then
    let w ← get
    if w.isHeld id s.file .pending then throw busy
    let _ ← ofOutcome (w.committed s)
    update id fun s => { s with lock := .shared }

def lockReserved (id : Nat) : Action Unit := do
  if (← session id).readOnly then throw readOnlyDatabase
  lockShared id
  let s ← session id
  if !s.lock.atLeast .reserved then
    if (← get).isHeld id s.file .reserved then throw busy
    update id fun s => { s with lock := .reserved }

/-- Takes the lock that keeps all others out. -/
def lockExclusive (id : Nat) : Action Unit := do
  lockReserved id
  let s ← session id
  if !s.lock.atLeast .exclusive then
    if (← get).isHeld id s.file .shared then throw busy
    update id fun s => { s with lock := .exclusive }

/-! ## Ends of transactions -/

/-- Drops what the open transaction did and ends it. -/
def undo (id : Nat) : Action Unit :=
  update id fun s => ({ s with autocommit := true }).discard.settle

/-- Makes what the open transaction did permanent.  A session whose transaction may write has
to be alone on its file, also where it has changed nothing; else it keeps others from
beginning to read. -/
def commit (id : Nat) : Action Unit := do
  let s ← session id
  if s.mayWrite then
    let w ← get
    if w.isHeld id s.file .shared then
      update id fun s => { s with lock := s.lock.max .pending }
      throw busy
    match s.file, s.working with
    | some path, some c => modify fun w => { w with disk := w.disk.put path (.database c) }
    | none, some c => update id fun s => { s with own := c }
    | _, none => pure ()
  update id fun s =>
    { s with
      working := none, dirty := false, reshaped := false, savepoints := [], bySavepoint := false,
      lock := if s.lock.atLeast .shared then .shared else .none }

/-- Ends the transaction that a single statement is, if it is one. -/
def finishAlone (id : Nat) : Action Unit := do
  let s ← session id
  if s.autocommit && !s.anyWrites then
    tryCatch (commit id) fun fault => do
      update id fun s => { s.discard with changes := 0 }
      settle id
      throw fault
  settle id

/-! ## Transaction control -/

/-- A failure with the general result code. -/
def refuse {α : Type} (message : String) : Action α :=
  throw ⟨message, 1⟩

def begin (id : Nat) (mode : BeginMode) : Action Unit := do
  let readOnly := (← session id).readOnly
  match mode with
  | .deferred => pure ()
  | .immediate => if readOnly then lockShared id else lockReserved id
  | .exclusive => if readOnly then lockShared id else lockExclusive id
  if (← session id).autocommit then update id fun s => { s with autocommit := false }
  else refuse "cannot start a transaction within a transaction"

/-- Commits and ends the open transaction.  It stays open if that fails. -/
def endTransaction (id : Nat) : Action Unit := do
  commit id
  update id fun s => { s with autocommit := true }
  settle id

/-- Goes back to a savepoint, which stays. -/
def rollbackTo (id : Nat) (p : Savepoint) (older : List Savepoint) : Action Unit :=
  update id fun s =>
    let s := if s.reshaped then s.cutOff.expire else s
    { s with working := p.working, savepoints := p :: older }

def findSavepoint (name : String) : List Savepoint → Option (Savepoint × List Savepoint)
  | [] => none
  | p :: older => if sameName p.name name then some (p, older) else findSavepoint name older

/-- Carries out a control statement. -/
def control (id : Nat) (c : Control) : Action Unit := do
  let s ← session id
  match c with
  | .begin mode => begin id mode
  | .commit =>
      if s.autocommit then refuse "cannot commit - no transaction is active"
      if s.anyWrites then
        throw ⟨"cannot commit transaction - SQL statements in progress", 5⟩
      endTransaction id
  | .rollback =>
      if s.autocommit then refuse "cannot rollback - no transaction is active"
      if s.reshaped then update id Session.cutOff
      undo id
  | .savepoint name =>
      if s.anyWrites then throw ⟨"cannot open savepoint - SQL statements in progress", 5⟩
      let alone := s.autocommit
      update id fun s =>
        { s with
          autocommit := false, bySavepoint := s.bySavepoint || alone,
          savepoints := ⟨name, s.working⟩ :: s.savepoints }
  | .release name =>
      match findSavepoint name s.savepoints with
      | none => refuse ("no such savepoint: " ++ name)
      | some (_, older) =>
          if s.anyWrites then
            throw ⟨"cannot release savepoint - SQL statements in progress", 5⟩
          if older.isEmpty && s.bySavepoint then endTransaction id
          else update id fun s => { s with savepoints := older }
  | .rollbackTo name =>
      match findSavepoint name s.savepoints with
      | none => refuse ("no such savepoint: " ++ name)
      | some (p, older) => rollbackTo id p older

end Action

end SqlDriver.Engine
