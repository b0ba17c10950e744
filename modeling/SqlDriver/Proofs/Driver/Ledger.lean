/-
# SqlDriver.Proofs.Driver.Ledger -- a book of statements

That a statement is given up, and that a count goes down, leaves no mark in the driver's
state once both are done.  So the operations that make statements ready or give them up have
a second reading that keeps a book: every statement that is made ready, every one that is
given up, and every count that is lowered, with what it was.  The book is written and never
read, and a run that keeps it does what the run without it does (`record_books`,
`history_state`).
-/
import SqlDriver.Proofs.Driver.Command

namespace SqlDriver

set_option autoImplicit false

/-! ## The book -/

/-- What happens to a statement, given by the numbers of its session and of itself. -/
inductive Deed where
  | prepared (session run : Nat)
  | finalized (session run : Nat)
  /-- A connection counted one open cursor less than it did. -/
  | discounted (before : Nat)
deriving DecidableEq, Repr

/-- An operation that keeps a book, the latest deed first. -/
abbrev Booked := ExceptT Error (StateM (State × List Deed))

namespace Booked

/-- An operation that does nothing of note. -/
def lift {α : Type} (op : Op α) : Booked α := fun (s, deeds) =>
  let (r, s) := exec op s
  (r, (s, deeds))

def note (d : Deed) : Booked Unit :=
  modify fun (s, deeds) => (s, d :: deeds)

/-- Gives up a statement. -/
def finalize (session run : Nat) : Booked Unit := do
  let _ ← lift (Op.engine (Engine.Action.finalize session run))
  note (.finalized session run)

/-- Counts a cursor whose statement is gone. -/
def cursorClosed (c : Nat) : Booked Unit := do
  let s ← lift get
  note (.discounted (((s.connections.get? c).map Connection.openCursors).getD 0))
  lift (Connection.cursorClosed c)

/-- Gives up the statement of a cursor. -/
def drop (k : Nat) (cursor : Cursor) (run : Nat) : Booked Unit := do
  let s ← lift get
  if let some session := (s.connections.get? cursor.connection).bind Connection.session then
    finalize session run
  lift (Op.updateCursor k fun k => { k with run := none })
  cursorClosed cursor.connection

/-- Runs a statement. -/
def execute (c : Nat) (sql : String) : Booked Execution := do
  let session ← lift (Connection.sessionOf c)
  match ← lift (Op.engine (Engine.Action.prepare session sql.toList)) with
  | .error fault => throw (.statement fault)
  | .ok none => throw (.statement ⟨"statement contains no SQL", 21⟩)
  | .ok (some run) =>
      note (.prepared session run)
      match ← lift (Op.engine (Engine.Action.step session run)) with
      | .error fault =>
          finalize session run
          throw (.statement fault)
      | .ok _ =>
          let columns ← lift (Connection.outputs session run)
          if columns.isEmpty then
            finalize session run
            let s ← lift get
            let changes := ((s.world.session? session).map fun s => s.changes).getD 0
            lift (Op.tell (.statementExecuted changes))
            return .count changes
          let _ ← lift (Op.engine (Engine.Action.reset session run))
          lift (Op.tell (.cursorOpened columns.length))
          return .cursor (← lift (Connection.openCursor c run columns))

/-- Lets go of a cursor. -/
def release (k : Nat) : Booked Unit := do
  match (← lift get).cursors.get? k with
  | none => return ()
  | some cursor =>
      if 1 < cursor.holders then
        lift (Op.updateCursor k fun k => { k with holders := k.holders - 1 })
      else
        if let some run := cursor.run then drop k cursor run
        lift (modify fun s => { s with cursors := s.cursors.erase k })
        lift (Connection.release cursor.connection)

/-- Fetches a row. -/
def next (k : Nat) : Booked (Option (List Value)) := do
  match (← lift get).cursors.get? k with
  | none => throw .cursorClosed
  | some cursor =>
      match cursor.run with
      | none => throw .cursorClosed
      | some run =>
          let session ← lift (Connection.sessionOf cursor.connection)
          match ← lift (Op.engine (Engine.Action.step session run)) with
          | .ok (some row) =>
              lift (Op.tell (.rowFetched cursor.names.length))
              return some (Cursor.rowValues cursor row)
          | .ok none =>
              drop k cursor run
              lift (Op.tell .cursorExhausted)
              return none
          | .error fault =>
              drop k cursor run
              lift (Op.tell (.cursorFailed fault))
              throw (.statement fault)

/-- Copies the next row into a target. -/
def fetchInto (k : Nat) (target : Target) (mode : FetchMode) : Booked (Bool × Target) := do
  let names := (((← lift get).cursors.get? k).map Cursor.names).getD []
  match ← next k with
  | some row => return (true, target.receive mode names row)
  | none => return (false, target)

/-- Closes a cursor. -/
def close (k : Nat) : Booked Bool := do
  match (← lift get).cursors.get? k with
  | none => return false
  | some cursor =>
      match cursor.run with
      | none => return false
      | some run =>
          drop k cursor run
          lift (Op.tell .cursorClosed)
          return true

end Booked

/-- Does what a command asks, and keeps the book. -/
def Command.record : Command → Booked Unit
  | execute c sql => discard (Booked.execute c sql)
  | next k => discard (Booked.next k)
  | fetchInto k target mode => discard (Booked.fetchInto k target mode)
  | closeCursor k => discard (Booked.close k)
  | releaseCursor k => Booked.release k
  | command => Booked.lift command.perform

/-- The state after some commands, and the book of what they did to statements. -/
def history (disk : Disk) : List Command → State × List Deed
  | commands => commands.foldl (fun kept command => (exec command.record kept).2)
      ({ world := { disk } }, [])

/-! ## The book is only written -/

/-- The first operation is the second one and a book. -/
def Books {α : Type} (a : Booked α) (op : Op α) : Prop :=
  ∀ s deeds, ∃ more, exec a (s, deeds) = ((exec op s).1, ((exec op s).2, more ++ deeds))

namespace Books

variable {α β : Type}

theorem lift (op : Op α) : Books (.lift op) op :=
  fun _ _ => ⟨[], rfl⟩

theorem pure (x : α) : Books (Pure.pure x) (Pure.pure x) :=
  fun _ _ => ⟨[], rfl⟩

theorem throw (e : Error) : Books (MonadExcept.throw e : Booked α) (MonadExcept.throw e) :=
  fun _ _ => ⟨[], rfl⟩

theorem bind {a : Booked α} {op : Op α} {f : α → Booked β} {g : α → Op β} (first : Books a op)
    (rest : ∀ x, Books (f x) (g x)) : Books (a >>= f) (op >>= g) := by
  intro s deeds
  obtain ⟨more, answer⟩ := first s deeds
  rw [exec_bind, exec_bind, answer]
  rcases exec op s with ⟨e | x, t⟩
  · exact ⟨more, rfl⟩
  · obtain ⟨most, answer⟩ := rest x t (more ++ deeds)
    exact ⟨most ++ more, by simpa using answer⟩

theorem note_bind (d : Deed) {a : Booked α} {op : Op α} (rest : Books a op) :
    Books (Booked.note d >>= fun _ => a) op := by
  intro s deeds
  obtain ⟨more, answer⟩ := rest s (d :: deeds)
  exact ⟨more ++ [d], by rw [exec_bind]; simpa [Booked.note] using answer⟩

/-- A look at the state that only the book asks for. -/
theorem get_bind {f : State → Booked α} {op : Op α} (rest : ∀ s, Books (f s) op) :
    Books (Booked.lift get >>= f) op :=
  fun s deeds => rest s s deeds

end Books

section Books

open Books

/-- Giving up a statement is booked, and done. -/
theorem finalize_bind {α : Type} (session run : Nat) {f : Booked α} {g : Op α}
    (rest : Books f g) :
    Books (Booked.finalize session run >>= fun _ => f)
      (Op.engine (Engine.Action.finalize session run) >>= fun _ => g) := by
  unfold Booked.finalize
  rw [bind_assoc]
  exact .bind (.lift _) fun _ => .note_bind _ rest

theorem cursorClosed_books (c : Nat) : Books (Booked.cursorClosed c) (Connection.cursorClosed c) :=
  .get_bind fun _ => .note_bind _ (.lift _)

theorem drop_books (k : Nat) (cursor : Cursor) (run : Nat) :
    Books (Booked.drop k cursor run) (Cursor.drop k cursor run) := by
  refine .bind (.lift _) fun s => ?_
  have rest : Books
      (do
        .lift (Op.updateCursor k fun k => { k with run := none })
        Booked.cursorClosed cursor.connection)
      (do
        Op.updateCursor k fun k => { k with run := none }
        Connection.cursorClosed cursor.connection) :=
    .bind (.lift _) fun _ => cursorClosed_books _
  cases (s.connections.get? cursor.connection).bind Connection.session with
  | none => exact rest
  | some session => exact finalize_bind session run rest

theorem execute_books (c : Nat) (sql : String) :
    Books (Booked.execute c sql) (Connection.execute c sql) := by
  refine .bind (.lift _) fun session => .bind (.lift _) fun prepared => ?_
  rcases prepared with fault | _ | run
  · exact .throw _
  · exact .throw _
  · refine .note_bind _ (.bind (.lift _) fun first => ?_)
    cases first with
    | error fault => exact finalize_bind session run (.throw _)
    | ok row =>
        refine .bind (.lift _) fun columns => ?_
        dsimp only
        split
        · exact finalize_bind session run
            (.bind (.lift _) fun _ => .bind (.lift _) fun _ => .pure _)
        · exact .bind (.lift _) fun _ => .bind (.lift _) fun _ => .bind (.lift _) fun _ => .pure _

theorem release_books (k : Nat) : Books (Booked.release k) (Cursor.release k) := by
  refine .bind (.lift _) fun s => ?_
  cases s.cursors.get? k with
  | none => exact .pure _
  | some cursor =>
      have rest : Books
          (do
            .lift (modify fun s => { s with cursors := s.cursors.erase k })
            .lift (Connection.release cursor.connection))
          (do
            modify fun s => { s with cursors := s.cursors.erase k }
            Connection.release cursor.connection) :=
        .bind (.lift _) fun _ => .lift _
      dsimp only
      split
      · exact .lift _
      · cases cursor.run with
        | none => exact rest
        | some run => exact .bind (drop_books k cursor run) fun _ => rest

theorem next_books (k : Nat) : Books (Booked.next k) (Cursor.next k) := by
  refine .bind (.lift _) fun s => ?_
  cases s.cursors.get? k with
  | none => exact .throw _
  | some cursor =>
      dsimp only
      cases cursor.run with
      | none => exact .throw _
      | some run =>
          refine .bind (.lift _) fun session => .bind (.lift _) fun row => ?_
          rcases row with fault | _ | row
          · exact .bind (drop_books k cursor run) fun _ => .bind (.lift _) fun _ => .throw _
          · exact .bind (drop_books k cursor run) fun _ => .bind (.lift _) fun _ => .pure _
          · exact .bind (.lift _) fun _ => .pure _

theorem fetchInto_books (k : Nat) (target : Target) (mode : FetchMode) :
    Books (Booked.fetchInto k target mode) (Cursor.fetchInto k target mode) := by
  refine .bind (.lift _) fun s => .bind (next_books k) fun row => ?_
  cases row <;> exact .pure _

theorem close_books (k : Nat) : Books (Booked.close k) (Cursor.close k) := by
  refine .bind (.lift _) fun s => ?_
  cases s.cursors.get? k with
  | none => exact .pure _
  | some cursor =>
      dsimp only
      cases cursor.run with
      | none => exact .pure _
      | some run => exact .bind (drop_books k cursor run) fun _ => .bind (.lift _) fun _ => .pure _

theorem record_books (command : Command) : Books command.record command.perform := by
  have forget {α : Type} {a : Booked α} {op : Op α} (books : Books a op) :
      Books (discard a) (discard op) :=
    .bind books fun _ => .pure _
  cases command with
  | execute c sql => exact forget (execute_books c sql)
  | next k => exact forget (next_books k)
  | fetchInto k target mode => exact forget (fetchInto_books k target mode)
  | closeCursor k => exact forget (close_books k)
  | releaseCursor k => exact release_books k
  | _ =>
      unfold Command.record
      exact .lift _

/-- Keeping the book changes nothing. -/
theorem history_state (disk : Disk) (commands : List Command) :
    (history disk commands).1 = State.after { world := { disk } } commands := by
  have along (kept : State × List Deed) :
      (commands.foldl (fun kept command => (exec command.record kept).2) kept).1 =
        kept.1.after commands := by
    induction commands generalizing kept with
    | nil => rfl
    | cons command rest ih =>
        obtain ⟨more, answer⟩ := record_books command kept.1 kept.2
        rw [List.foldl_cons, ih, answer]
        rfl
  exact along _

end Books

end SqlDriver
