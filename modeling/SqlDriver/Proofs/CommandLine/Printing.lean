/-
# SqlDriver.Proofs.CommandLine.Printing -- statements that are run and printed

A statement that is run in a transaction is carried out once, whatever is printed of it; if
anything about it fails -- the statement, its rows, or a line that does not fit -- no file has
changed (`run_carries`, `runAll_carries`).  Its cursor is let go either way, so behind it the
connection has no open cursors.
-/
import SqlDriver.CommandLine.Run
import SqlDriver.Proofs.Driver.InTransaction

namespace SqlDriver

set_option autoImplicit false

open Engine

/-! ## Lines and rows -/

section Printing

variable {s : State} {c k id : Nat} {b : Footing} {g : Ground}

theorem exec_running {α : Type} (op : Op α) (s : State) (sink : Sink) :
    exec (Running.perform op) (s, sink) =
      match exec op s with
      | (.ok a, t) => (.ok a, (t, sink))
      | (.error e, t) => (.error (.sql e), (t, sink)) := by
  unfold Running.perform
  rw [exec_bind, exec_get]
  dsimp only
  rw [← exec]
  rcases exec op s with ⟨e | a, t⟩ <;> rfl

/-- A line that does not fit fails; nothing but the sink changes. -/
theorem state_line (text : String) (s : State) (sink : Sink) :
    (exec (Running.line text) (s, sink)).2.1 = s := by
  unfold Running.line
  rw [exec_bind, exec_get]
  dsimp only
  split <;> rfl

theorem State.HandsOut.tell (hands : s.HandsOut k c id b g) (e : Event) :
    (exec (Op.tell e) s).2.HandsOut k c id b g := by
  cases hands with
  | closed shows serves stands =>
      exact .closed ⟨shows.found, shows.running, shows.connection, shows.holders⟩ serves stands
  | isOpen shows serves stands =>
      exact .isOpen ⟨shows.found, shows.running, shows.connection, shows.holders⟩ serves stands

theorem state_columnNames (k : Nat) (s : State) : (exec (Cursor.columnNames k) s).2 = s :=
  (columnNames_leads (r := Eq) s k).symm

section Cursors

variable {p q : State → Prop} (always : ∀ s, p s → q s)
  (next : ∀ s, p s → match exec (Cursor.next k) s with
    | (.ok (some _), t) => p t
    | (_, t) => q t)

include always next

/-- While rows are printed `p` holds, and `q` in the end, whatever way the printing ends. -/
theorem printRows_ends (r : Runner) (fuel count : Nat) (sink : Sink) (start : p s) :
    q (exec (r.printRows k fuel count) (s, sink)).2.1 := by
  -- Each row that fits leaves the cursor going on, so the fuel is all that runs out.
  induction fuel generalizing s count sink with
  | zero => exact always s start
  | succ fuel ih =>
      have step := next s start
      unfold Runner.printRows
      rw [exec_bind, exec_running]
      rcases answer : exec (Cursor.next k) s with ⟨e | _ | row, t⟩ <;> rw [answer] at step
      · exact step
      · exact step
      · dsimp only
        rw [exec_bind]
        have same := state_line (r.row row) t sink
        rcases printed : exec (Running.line (r.row row)) (t, sink) with ⟨e | _, t', sink'⟩ <;>
          rw [printed] at same <;> obtain rfl : t' = t := same
        · exact always t' step
        · exact ih (count + 1) sink' step

theorem printCursor_ends (tell : ∀ s e, q s → q (exec (Op.tell e) s).2) (r : Runner)
    (sink : Sink) (start : p s) : q (exec (r.printCursor k) (s, sink)).2.1 := by
  have rows (sink : Sink) : q
      (exec
        (do
          let count ← r.printRows k Flow.patience 0
          Running.perform (Op.tell (.queryFinished count))) (s, sink)).2.1 := by
    have last := printRows_ends always next r Flow.patience 0 sink start
    rw [exec_bind]
    rcases printed : exec (r.printRows k Flow.patience 0) (s, sink) with ⟨e | count, t, sink'⟩ <;>
      rw [printed] at last
    · exact last
    · exact tell t _ last
  unfold Runner.printCursor
  cases r.headers with
  | false => exact rows sink
  | true =>
      have same := state_columnNames k s
      rw [if_pos rfl, exec_bind, exec_running]
      rcases named : exec (Cursor.columnNames k) s with ⟨e | names, t⟩ <;> rw [named] at same <;>
        obtain rfl : t = s := same
      · exact always t start
      · dsimp only
        rw [exec_bind]
        have same := state_line (String.intercalate "\t" names) t sink
        rcases printed : exec (Running.line (String.intercalate "\t" names)) (t, sink) with
          ⟨e | _, t', sink'⟩ <;> rw [printed] at same <;> obtain rfl : t' = t := same
        · exact always t' start
        · exact rows sink'

end Cursors

/-- While a cursor is printed the transaction stands where it stood. -/
theorem printCursor_handsOut (r : Runner) (sink : Sink) {run : Nat} {cursor : Cursor}
    (shows : s.Shows k c (some run) cursor) (serves : s.Serves c id false 1 2)
    (gives : s.world.Gives id run b g) :
    (exec (r.printCursor k) (s, sink)).2.1.HandsOut k c id b g := by
  refine printCursor_ends
    (p := fun s => s.Shows k c (some run) cursor ∧ s.Serves c id false 1 2 ∧
      s.world.Gives id run b g)
    (q := fun s => s.HandsOut k c id b g)
    (fun s going => .isOpen going.1 going.2.1 going.2.2.stands) (fun s going => ?_)
    (fun s e hands => hands.tell e) r sink ⟨shows, serves, gives⟩
  have next := next_stands going.1 going.2.1 going.2.2
  rcases answer : exec (Cursor.next k) s with ⟨e | _ | row, t⟩ <;> rw [answer] at next
  · exact next
  · exact next
  · exact next

/-! ## Statements -/

/-- A statement that is run is carried out; where running it fails, no file has changed. -/
theorem run_carries (r : Runner) (sink : Sink) (serves : s.Serves c id false 0 1)
    (stands : s.world.Stands id b g) {sql : String} (plain : isPlain sql) :
    match exec (r.run c sql) (s, sink) with
    | (.ok _, t, _) =>
        ∃ g', carryOut g sql = .ok g' ∧ t.Serves c id false 0 1 ∧ t.world.Stands id b g'
    | (.error _, t, _) => t.world.disk = b.disk := by
  have executes := execute_stands serves stands plain
  unfold Runner.run
  rw [exec_bind, exec_running]
  rcases executed : exec (Connection.execute c sql) s with ⟨e | n | k, t⟩ <;>
    rw [executed] at executes
  · exact executes
  · obtain ⟨g', carried, serves, stands⟩ := executes
    dsimp only
    have same := state_line (toString n ++ " row(s) affected") t sink
    rcases printed : exec (Running.line (toString n ++ " row(s) affected")) (t, sink) with
      ⟨e | _, t', sink'⟩ <;> rw [printed] at same <;> obtain rfl : t' = t := same
    · exact stands.disk
    · exact ⟨g', carried, serves, stands⟩
  · -- Whether its rows are printed or not, the cursor is released in the end.
    obtain ⟨g', carried, serves, run, cursor, shows, gives⟩ := executes
    have hands := printCursor_handsOut r sink shows serves gives
    dsimp only
    rw [exec_bind, exec_tryCatch]
    rcases printed : exec (r.printCursor k) (t, sink) with ⟨e | _, t', sink'⟩ <;>
      rw [printed] at hands <;> obtain ⟨u, released, serves, stands⟩ := release_stands hands
    · dsimp only
      rw [exec_bind, exec_running, released]
      exact stands.disk
    · dsimp only
      rw [exec_running, released]
      exact ⟨g', carried, serves, stands⟩

theorem runAll_carries (r : Runner) (sink : Sink) (serves : s.Serves c id false 0 1)
    (stands : s.world.Stands id b g) {statements : List String}
    (plain : ∀ sql ∈ statements, isPlain sql) :
    match exec (r.runAll c statements) (s, sink) with
    | (.ok _, t, _) =>
        ∃ g', carryOutAll g statements = .ok g' ∧ t.Serves c id false 0 1 ∧ t.world.Stands id b g'
    | (.error _, t, _) => t.world.disk = b.disk := by
  induction statements generalizing s g sink with
  | nil => exact ⟨g, rfl, serves, stands⟩
  | cons sql rest ih =>
      have first := run_carries r sink serves stands (plain sql List.mem_cons_self)
      unfold Runner.runAll
      rw [exec_bind]
      rcases ran : exec (r.run c sql) (s, sink) with ⟨e | _, t, sink'⟩ <;> rw [ran] at first
      · exact first
      · obtain ⟨g', carried, serves, stands⟩ := first
        have more :=
          ih sink' serves stands fun sql among => plain sql (List.mem_cons_of_mem _ among)
        have all : carryOutAll g (sql :: rest) = carryOutAll g' rest := by
          change (carryOut g sql >>= fun g => carryOutAll g rest) = _
          rw [carried]
          rfl
        rw [all]
        exact more

end Printing

end SqlDriver
