/-
# SqlDriver.Proofs.CommandLine.Output -- what is printed of statements

A statement that is run prints the lines of what it comes to (`Runner.lines`): its count, or its
header and one line for each row.  A run prints as `Running.Prints` says: its lines as far as they
fit, and behind them its answer, or the error of the first line that does not fit.  Such runs
compose along `++` (`Running.Prints.bind`), so what a list of statements prints is what its
statements print, one after the other, up to the first that fails (`statements_print`).  Rows are
waited for up to a bound, which says no more than when patience is lost (`printRows_of_le`).

However a statement ends, its connection is afterwards what it was, its count of open cursors
included (`connection_of_run`), and its database is at rest (`atRest_of_run`).  What it prints is
not always what one execution of it would: the header of an insertion that hands back its rows is
printed though fetching them fails at once (`header_of_failed_insertion`).
-/
import SqlDriver.Proofs.CommandLine.Transaction
import SqlDriver.Proofs.Driver.Listing
import Mathlib.Control.Monad.Basic

namespace SqlDriver

set_option autoImplicit false

open Engine

/-! ## Lines in a sink -/

namespace Sink

/-- A line fits in a sink. -/
def takes (sink : Sink) (line : String) : Bool :=
  !sink.limit.any (· < (sink.printed ++ line ++ "\n").utf8ByteSize)

/-- A sink with one more line. -/
def put (sink : Sink) (line : String) : Sink :=
  { sink with printed := sink.printed ++ line ++ "\n" }

/-- Some lines fit in a sink. -/
def fits (sink : Sink) : List String → Bool
  | [] => true
  | line :: rest => sink.takes line && (sink.put line).fits rest

/-- A sink with some lines, up to the first that does not fit. -/
def after (sink : Sink) : List String → Sink
  | [] => sink
  | line :: rest => if sink.takes line then (sink.put line).after rest else sink

theorem fits_append (sink : Sink) (first rest : List String) :
    sink.fits (first ++ rest) = (sink.fits first && (sink.after first).fits rest) := by
  induction first generalizing sink with
  | nil => rfl
  | cons line more ih =>
      by_cases takes : sink.takes line
      · simp only [List.cons_append, fits, after, takes, Bool.true_and, if_true, ih]
      · simp [fits, takes]

theorem after_append (sink : Sink) {first : List String} (fits : sink.fits first)
    (rest : List String) : sink.after (first ++ rest) = (sink.after first).after rest := by
  induction first generalizing sink with
  | nil => rfl
  | cons line more ih =>
      simp only [Sink.fits, Bool.and_eq_true] at fits
      simp only [List.cons_append, after, fits.1, if_true]
      exact ih _ fits.2

/-- What does not fit keeps out all that would come behind it. -/
theorem after_append_of_not_fits (sink : Sink) {first : List String}
    (full : sink.fits first = false)
    (rest : List String) : sink.after (first ++ rest) = sink.after first := by
  induction first generalizing sink with
  | nil => cases full
  | cons line more ih =>
      by_cases takes : sink.takes line
      · simp only [Sink.fits, takes, Bool.true_and] at full
        simp only [List.cons_append, after, takes, if_true]
        exact ih _ full
      · simp [after, takes]

end Sink

/-! ## Runs that print -/

/-- The error of a line that does not fit. -/
def RunError.full : RunError :=
  .write "sink is full"

/-- A run prints some lines, as far as they fit.  If they all do, it comes to an answer. -/
structure Running.Prints {α : Type} (a : Running α) (kept : State × Sink) (lines : List String)
    (answer : Except RunError α) : Prop where
  printed : (exec a kept).2.2 = kept.2.after lines
  answered : (exec a kept).1 = if kept.2.fits lines then answer else .error .full

namespace Running

variable {α β : Type} {kept : State × Sink}

theorem exec_line (text : String) (s : State) (sink : Sink) :
    exec (line text) (s, sink) =
      if sink.takes text then (.ok (), s, sink.put text) else (.error .full, s, sink) := by
  unfold line Sink.takes
  rw [exec_bind, exec_get]
  dsimp only
  cases sink.limit.any (· < (sink.printed ++ text ++ "\n").utf8ByteSize) <;> rfl

theorem exec_perform {op : Op α} {s t : State} {answer : Except Error α}
    (done : exec op s = (answer, t)) (sink : Sink) :
    exec (perform op) (s, sink) = (answer.mapError .sql, t, sink) := by
  rw [exec_running, done]
  cases answer <;> rfl

namespace Prints

theorem line (text : String) (s : State) (sink : Sink) :
    Prints (line text) (s, sink) [text] (.ok ()) := by
  have ran := exec_line text s sink
  cases takes : sink.takes text with
  | true =>
      rw [takes, if_pos rfl] at ran
      exact ⟨by simp [ran, Sink.after, takes], by simp [ran, Sink.fits, takes]⟩
  | false =>
      rw [takes, if_neg Bool.false_ne_true] at ran
      exact ⟨by simp [ran, Sink.after, takes], by simp [ran, Sink.fits, takes]⟩

/-- An operation of the driver prints nothing. -/
theorem perform {op : Op α} {s t : State} {answer : Except Error α}
    (done : exec op s = (answer, t)) (sink : Sink) :
    Prints (perform op) (s, sink) [] (answer.mapError .sql) := by
  have ran := exec_perform done sink
  exact ⟨congrArg (fun ran => ran.2.2) ran, congrArg Prod.fst ran⟩

theorem pure (x : α) (kept : State × Sink) : Prints (Pure.pure x) kept [] (.ok x) :=
  ⟨rfl, rfl⟩

/-- A run that ends with an error goes no further. -/
theorem bind_error {a : Running α} {lines : List String} {error : RunError}
    (first : Prints a kept lines (.error error)) (f : α → Running β) :
    Prints (a >>= f) kept lines (.error error) := by
  obtain ⟨printed, answered⟩ := first
  rcases ran : exec a kept with ⟨e | x, q⟩ <;> rw [ran] at printed answered
  · constructor
    · rw [exec_bind, ran]
      exact printed
    · rw [exec_bind, ran]
      cases fits : kept.2.fits lines <;> rw [fits] at answered <;> cases answered <;> rfl
  · cases fits : kept.2.fits lines <;> rw [fits] at answered <;> cases answered

/-- What two runs print, one after the other, is what both of them print. -/
theorem bind {a : Running α} {x : α} {lines rest : List String} {f : α → Running β}
    {answer : Except RunError β} (first : Prints a kept lines (.ok x))
    (second : ∀ q, exec a kept = (.ok x, q) → Prints (f x) q rest answer) :
    Prints (a >>= f) kept (lines ++ rest) answer := by
  obtain ⟨printed, answered⟩ := first
  cases fits : kept.2.fits lines with
  | true =>
      rcases ran : exec a kept with ⟨e | y, q⟩ <;> rw [ran, fits, if_pos rfl] at answered <;>
        rw [ran] at printed <;> cases answered
      obtain ⟨printed', answered'⟩ := second q ran
      have sink : q.2 = kept.2.after lines := printed
      constructor
      · rw [exec_bind, ran, kept.2.after_append fits]
        exact sink ▸ printed'
      · rw [exec_bind, ran, kept.2.fits_append, fits, Bool.true_and]
        exact sink ▸ answered'
  | false =>
      rcases ran : exec a kept with ⟨e | y, q⟩ <;>
        rw [ran, fits, if_neg Bool.false_ne_true] at answered <;> rw [ran] at printed <;>
        cases answered
      constructor
      · rw [exec_bind, ran, kept.2.after_append_of_not_fits fits]
        exact printed
      · rw [exec_bind, ran, kept.2.fits_append, fits]
        rfl

/-- An operation that succeeds is gone on from with nothing printed. -/
theorem bind_perform {op : Op α} {s t : State} {x : α} (done : exec op s = (.ok x, t)) {sink : Sink}
    {f : α → Running β} {rest : List String} {answer : Except RunError β}
    (second : Prints (f x) (t, sink) rest answer) :
    Prints (Running.perform op >>= f) (s, sink) rest answer := by
  have first : Prints (Running.perform op) (s, sink) [] (.ok x) := .perform done sink
  refine first.bind fun q ran => ?_
  rw [exec_perform done] at ran
  cases ran
  exact second

/-- A line is gone on from if it fits. -/
theorem bind_line (text : String) {s : State} {sink : Sink} {f : Unit → Running β}
    {rest : List String} {answer : Except RunError β}
    (second : Prints (f ()) (s, sink.put text) rest answer) :
    Prints (Running.line text >>= f) (s, sink) (text :: rest) answer := by
  refine (line text s sink).bind fun q ran => ?_
  rw [exec_line] at ran
  cases takes : sink.takes text <;> rw [takes] at ran <;> cases ran
  exact second

end Prints

end Running

/-! ## Statements and their lines -/

namespace Runner

/-- The lines of what a statement comes to. -/
def lines (r : Runner) : Offer → List String
  | .refused _ => []
  | .count changes => [toString changes ++ " row(s) affected"]
  | .rows names rows _ =>
      (if r.headers then [String.intercalate "\t" names] else []) ++ rows.map r.row

end Runner

/-- How a statement ends whose lines fit. -/
def Offer.answer : Offer → Except RunError Unit
  | refused error => .error (.sql error)
  | count _ => .ok ()
  | rows _ _ none => .ok ()
  | rows _ _ (some fault) => .error (.sql (.statement fault))

section Rows

variable {s u : State} {k : Nat} {rows : List (List Value)}

/-- What the printing of rows comes to when they end. -/
def Runner.counted (count : Nat) : Option Fault → Except RunError Nat
  | none => .ok count
  | some fault => .error (.sql (.statement fault))

/-- The bound on the rows that are printed says no more than when patience is lost: whoever waits
for more rows prints the same ones where they ended in time. -/
theorem printRows_of_le (r : Runner) {few many : Nat} (le : few ≤ many) (count : Nat)
    (s : State × Sink) :
    (exec (r.printRows k few count) s).1 = .error (.sql (.statement Flow.interrupted)) ∨
      exec (r.printRows k few count) s = exec (r.printRows k many count) s := by
  induction few generalizing many count s with
  | zero => exact .inl rfl
  | succ few ih =>
      obtain ⟨many, rfl⟩ := Nat.exists_eq_add_one_of_ne_zero (Nat.ne_of_gt (Nat.zero_lt_of_lt le))
      unfold Runner.printRows
      rw [exec_bind, exec_bind]
      rcases exec (Running.perform (Cursor.next k)) s with ⟨e | _ | row, t⟩
      · exact .inr rfl
      · exact .inr rfl
      · dsimp only
        rw [exec_bind, exec_bind]
        rcases exec (Running.line (r.row row)) t with ⟨e | _, u⟩
        · exact .inr rfl
        · exact ih (Nat.le_of_succ_le_succ le) (count + 1) u

/-- The rows of a cursor are printed up to their end, or up to the error behind them. -/
theorem printRows_prints (r : Runner) {ending : Option Fault} (fetches : Fetches k s rows ending u)
    {fuel : Nat} (few : rows.length < fuel) (count : Nat) (sink : Sink) :
    Running.Prints (r.printRows k fuel count) (s, sink) (rows.map r.row)
      (Runner.counted (count + rows.length) ending) := by
  obtain ⟨fuel, rfl⟩ := Nat.exists_eq_add_one_of_ne_zero (Nat.ne_of_gt (Nat.zero_lt_of_lt few))
  unfold Runner.printRows
  induction fetches generalizing fuel count sink with
  | exhausted fetched => exact .bind_perform fetched (.pure count _)
  | failed fetched => exact .bind_error (.perform fetched sink) _
  | @row s t u row rows ending fetched rest ih =>
      have few : rows.length < fuel := Nat.lt_of_succ_lt_succ few
      obtain ⟨fuel, rfl⟩ := Nat.exists_eq_add_one_of_ne_zero (Nat.ne_of_gt (Nat.zero_lt_of_lt few))
      have total : count + (row :: rows).length = count + 1 + rows.length := by
        rw [List.length_cons, Nat.add_assoc, Nat.add_comm 1]
      rw [total]
      exact .bind_perform fetched (.bind_line (r.row row) (ih (count + 1) _ fuel few))

/-- Where rows go on for too long, those are printed that were waited for. -/
theorem printRows_of_handsOver (r : Runner) (handsOver : HandsOver k s rows u) (count : Nat)
    (sink : Sink) :
    Running.Prints (r.printRows k rows.length count) (s, sink) (rows.map r.row)
      (.error (.sql (.statement Flow.interrupted))) := by
  induction handsOver generalizing count sink with
  | none => exact ⟨rfl, rfl⟩
  | row fetched rest ih =>
      unfold Runner.printRows
      exact .bind_perform fetched (.bind_line (r.row _) (ih (count + 1) _))

/-- A cursor is printed: the header, if it is wanted, and the rows. -/
theorem printCursor_prints (r : Runner) {names : List String}
    (named : exec (Cursor.columnNames k) s = (.ok names, s)) {ending : Option Fault} {count : Nat}
    (prints : ∀ sink, Running.Prints (r.printRows k Flow.patience 0) (s, sink) (rows.map r.row)
      (Runner.counted count ending)) (sink : Sink) :
    Running.Prints (r.printCursor k) (s, sink) (r.lines (.rows names rows ending))
      (Offer.rows names rows ending).answer := by
  have all (sink : Sink) : Running.Prints
      (do
        let count ← r.printRows k Flow.patience 0
        Running.perform (Op.tell (.queryFinished count))) (s, sink) (rows.map r.row)
      (Offer.rows names rows ending).answer := by
    cases ending with
    | some fault => exact .bind_error (prints sink) _
    | none =>
        have told (count : Nat) (q : State × Sink) : Running.Prints
            (Running.perform (Op.tell (.queryFinished count))) q [] (.ok ()) :=
          .perform (exec_tell q.1 _) q.2
        rw [← List.append_nil (rows.map r.row)]
        exact (prints sink).bind fun q _ => told count q
  unfold Runner.printCursor Runner.lines
  cases r.headers with
  | false => exact all sink
  | true => exact .bind_perform named (.bind_line _ (all _))

end Rows

/-! ## Running a statement -/

section Statements

variable {s : State} {c k id run : Nat} {connection : Connection} {cursor : Cursor} {sql : String}

theorem State.Lends.tell (lends : s.Lends k c connection) (e : Event) :
    (exec (Op.tell e) s).2.Lends k c connection := by
  cases lends with
  | isOpen shows there =>
      exact .isOpen ⟨shows.found, shows.running, shows.connection, shows.holders⟩ there
  | closed shows there =>
      exact .closed ⟨shows.found, shows.running, shows.connection, shows.holders⟩ there

/-- While a cursor is printed, it is all that its connection has beside what it had. -/
theorem printCursor_lends (r : Runner) (sink : Sink) (shows : s.Shows k c (some run) cursor)
    (there : s.connections.get? c = some connection.withCursor)
    (session : connection.session = some id) :
    (exec (r.printCursor k) (s, sink)).2.1.Lends k c connection := by
  refine printCursor_ends
    (p := fun s => s.Shows k c (some run) cursor ∧
      s.connections.get? c = some connection.withCursor)
    (q := fun s => s.Lends k c connection)
    (fun s going => .isOpen going.1 going.2) (fun s going => ?_)
    (fun s e lends => lends.tell e) r sink ⟨shows, there⟩
  have next := next_lends going.1 going.2 session
  rcases answer : exec (Cursor.next k) s with ⟨e | _ | row, t⟩ <;> rw [answer] at next
  · exact next.2
  · exact next
  · exact next

theorem printCursor_atRest (r : Runner) (k : Nat) (sink : Sink) (rest : s.world.AtRest) :
    (exec (r.printCursor k) (s, sink)).2.1.world.AtRest := by
  refine printCursor_ends (p := fun s => s.world.AtRest) (q := fun s => s.world.AtRest)
    (fun s rest => rest) (fun s rest => ?_) (fun s e rest => rest) r sink rest
  have kept := next_keeping atRest_upheld s k rest
  rcases answer : exec (Cursor.next k) s with ⟨e | _ | row, t⟩ <;> rw [answer] at kept <;>
    exact kept

/-- What is done behind a run, whether it fails or not, adds nothing to what it prints. -/
theorem exec_finally {a : Running Unit} {op : Op Unit} {kept : State × Sink} {t : State}
    (done : exec op (exec a kept).2.1 = (.ok (), t)) :
    exec
        (do
          tryCatch a fun e => do
            Running.perform op
            throw e
          Running.perform op) kept =
      ((exec a kept).1, t, (exec a kept).2.2) := by
  rw [exec_bind, exec_tryCatch]
  rcases ran : exec a kept with ⟨e | _, u, sink⟩ <;> rw [ran] at done <;> dsimp only
  · rw [exec_bind, Running.exec_perform done]
    rfl
  · rw [Running.exec_perform done]
    rfl

variable (there : s.connections.get? c = some connection) (session : connection.session = some id)
  (held : 0 < connection.holders) (r : Runner) (sink : Sink)

/-- A statement that has a cursor is run: its cursor is printed and then let go. -/
theorem exec_run_of_cursor {t : State}
    (executed : exec (Connection.execute c sql) s = (.ok (.cursor k), t)) :
    exec (r.run c sql) (s, sink) =
      exec
        (do
          tryCatch (r.printCursor k) fun e => do
            Running.perform (Cursor.release k)
            throw e
          Running.perform (Cursor.release k)) (t, sink) := by
  unfold Runner.run
  rw [exec_bind, Running.exec_perform executed]
  rfl

include there session held

/-- The cursor of a statement that was run is let go. -/
theorem release_of_execute {t : State}
    (executed : exec (Connection.execute c sql) s = (.ok (.cursor k), t)) :
    ∃ u, exec (Cursor.release k) (exec (r.printCursor k) (t, sink)).2.1 = (.ok (), u) ∧
      u.connections.get? c = some connection := by
  have executes := execute_lends there sql
  rw [executed] at executes
  obtain ⟨⟨run, cursor, shows⟩, there⟩ := executes
  exact release_lends (printCursor_lends r sink shows there session) session held

/-- A statement prints what it comes to. -/
theorem run_prints {offer : Offer} (offers : s.Offers c sql offer) :
    Running.Prints (r.run c sql) (s, sink) (r.lines offer) offer.answer := by
  have listed {k : Nat} {t : State} {names : List String} {rows : List (List Value)}
      {ending : Option Fault}
      (executed : exec (Connection.execute c sql) s = (.ok (.cursor k), t))
      (prints : Running.Prints (r.printCursor k) (t, sink) (r.lines (.rows names rows ending))
        (Offer.rows names rows ending).answer) :
      Running.Prints (r.run c sql) (s, sink) (r.lines (.rows names rows ending))
        (Offer.rows names rows ending).answer := by
    obtain ⟨u, released, -⟩ := release_of_execute there session held r sink executed
    have ran := (exec_run_of_cursor r sink executed).trans (exec_finally released)
    exact ⟨ran ▸ prints.printed, ran ▸ prints.answered⟩
  cases offers with
  | refused executed => exact .bind_error (.perform executed sink) _
  | @count changes t executed => exact .bind_perform executed (.line _ t sink)
  | rows executed named fetches few =>
      exact listed executed
        (printCursor_prints r named (fun sink => printRows_prints r fetches few 0 sink) sink)
  | @endless k t u names rows executed named handsOver many =>
      have printed (sink : Sink) : Running.Prints (r.printRows k Flow.patience 0) (t, sink)
          (rows.map r.row) (Runner.counted 0 (some Flow.interrupted)) := by
        have prints := printRows_of_handsOver r handsOver 0 sink
        rw [many] at prints
        exact prints
      exact listed executed (printCursor_prints r named printed sink)

/-- A statement that was run leaves its connection as it was, whatever way it ended. -/
theorem connection_of_run :
    (exec (r.run c sql) (s, sink)).2.1.connections.get? c = some connection := by
  have executes := execute_lends there sql
  rcases executed : exec (Connection.execute c sql) s with ⟨error | changes | k, t⟩ <;>
    rw [executed] at executes
  · unfold Runner.run
    rw [exec_bind, Running.exec_perform executed]
    exact executes
  · unfold Runner.run
    rw [exec_bind, Running.exec_perform executed]
    dsimp only [Except.mapError]
    rw [state_line]
    exact executes
  · obtain ⟨u, released, there⟩ := release_of_execute there session held r sink executed
    rw [exec_run_of_cursor r sink executed, exec_finally released]
    exact there

theorem atRest_of_run (rest : s.world.AtRest) :
    (exec (r.run c sql) (s, sink)).2.1.world.AtRest := by
  have kept := execute_keeping atRest_upheld s c sql rest
  rcases executed : exec (Connection.execute c sql) s with ⟨error | changes | k, t⟩ <;>
    rw [executed] at kept
  · unfold Runner.run
    rw [exec_bind, Running.exec_perform executed]
    exact kept
  · unfold Runner.run
    rw [exec_bind, Running.exec_perform executed]
    dsimp only [Except.mapError]
    rw [state_line]
    exact kept
  · obtain ⟨u, released, -⟩ := release_of_execute there session held r sink executed
    rw [exec_run_of_cursor r sink executed, exec_finally released]
    have after := releaseCursor_keeping atRest_upheld _ k (printCursor_atRest r k sink kept)
    rwa [released] at after

end Statements

/-! ## Running statements -/

/-- A connection is open and held, and the databases are at rest. -/
structure State.Ready (s : State) (c : Nat) (connection : Connection) : Prop where
  found : s.connections.get? c = some connection
  isOpen : connection.session.isSome
  held : 0 < connection.holders
  rest : s.world.AtRest

/-- What comes of running a statement: from one state and sink to another, with an answer. -/
structure Runner.Runs (r : Runner) (c : Nat) (sql : String) (before : State × Sink) (offer : Offer)
    (answer : Except RunError Unit) (behind : State × Sink) : Prop where
  /-- This is what the statement comes to. -/
  offers : before.1.Offers c sql offer
  /-- Its lines are printed, up to the first that does not fit. -/
  printed : behind.2 = before.2.after (r.lines offer)
  /-- It ends as the statement ends, unless a line does not fit. -/
  answered : answer = if before.2.fits (r.lines offer) then offer.answer else .error .full
  /-- The connection is as it was, with as many open cursors. -/
  connection : behind.1.connections.get? c = before.1.connections.get? c
  /-- It ends in front of its first row, behind its header, where it fails when it is executed
  again. -/
  early : ∀ names fault,
    offer = .rows names [] (some fault) ↔ before.1.FailsAgain c sql names fault
  /-- That does not happen to a statement that only reads. -/
  reading : ∀ id run ready, sessionAt before.1.connections c = some id →
    exec (Action.prepare id sql.toList) before.1.world = (.ok (some run), ready) →
    ready.isQuery id run → ∀ names fault, ¬before.1.FailsAgain c sql names fault

/-- Statements are run one after the other, up to the first that fails; this is what each of those
that were run came to.  None of the others is executed. -/
inductive Runner.RunsAll (r : Runner) (c : Nat) :
    List String → State × Sink → List Offer → Except RunError Unit → State × Sink → Prop where
  | nil {kept : State × Sink} : RunsAll r c [] kept [] (.ok ()) kept
  | failed {sql : String} {rest : List String} {before behind : State × Sink} {offer : Offer}
      {error : RunError} (first : r.Runs c sql before offer (.error error) behind) :
      RunsAll r c (sql :: rest) before [offer] (.error error) behind
  | cons {sql : String} {rest : List String} {before between behind : State × Sink} {offer : Offer}
      {offers : List Offer} {answer : Except RunError Unit}
      (first : r.Runs c sql before offer (.ok ()) between)
      (more : RunsAll r c rest between offers answer behind) :
      RunsAll r c (sql :: rest) before (offer :: offers) answer behind

section Running

variable {s : State} {c : Nat} {connection : Connection} (ready : s.Ready c connection)
  (r : Runner) (sink : Sink)

include ready

theorem ready_of_run (sql : String) :
    (exec (r.run c sql) (s, sink)).2.1.Ready c connection := by
  obtain ⟨id, session⟩ := Option.isSome_iff_exists.1 ready.isOpen
  exact ⟨connection_of_run ready.found session ready.held r sink, ready.isOpen, ready.held,
    atRest_of_run ready.found session ready.held r sink ready.rest⟩

theorem run_runs (sql : String) : ∃ offer,
    r.Runs c sql (s, sink) offer (exec (r.run c sql) (s, sink)).1
      (exec (r.run c sql) (s, sink)).2 := by
  obtain ⟨id, session⟩ := Option.isSome_iff_exists.1 ready.isOpen
  obtain ⟨offer, offers⟩ := exists_offer ready.found session sql
  have prints := run_prints ready.found session ready.held r sink offers
  have kept := (ready_of_run ready r sink sql).found
  refine ⟨offer, offers, prints.printed, prints.answered, kept.trans ready.found.symm,
    fun names fault => ⟨?_, fun again => offers.unique (offers_no_row_iff.2 again)⟩, ?_⟩
  · rintro rfl
    exact offers_no_row_iff.1 offers
  · intro id run w serving prepared query
    exact not_failsAgain_of_isQuery ready.rest serving prepared query

theorem runAll_runs (statements : List String) : ∃ offers,
    r.RunsAll c statements (s, sink) offers (exec (r.runAll c statements) (s, sink)).1
      (exec (r.runAll c statements) (s, sink)).2 := by
  induction statements generalizing s sink with
  | nil => exact ⟨[], .nil⟩
  | cons sql rest ih =>
      obtain ⟨offer, first⟩ := run_runs ready r sink sql
      have again := ready_of_run ready r sink sql
      unfold Runner.runAll
      rw [exec_bind]
      rcases ran : exec (r.run c sql) (s, sink) with ⟨error | _, t, sink'⟩ <;>
        rw [ran] at first again
      · exact ⟨[offer], .failed first⟩
      · obtain ⟨offers, more⟩ := ih again sink'
        exact ⟨offer :: offers, .cons first more⟩

end Running

namespace Runner.RunsAll

variable {r : Runner} {c : Nat} {statements : List String} {before behind : State × Sink}
  {offers : List Offer} {answer : Except RunError Unit}

theorem connection (runs : r.RunsAll c statements before offers answer behind) :
    behind.1.connections.get? c = before.1.connections.get? c := by
  induction runs with
  | nil => rfl
  | failed first => exact first.connection
  | cons first more ih => exact ih.trans first.connection

/-- A statement whose lines do not fit does not succeed. -/
theorem fits_of_ok {sql : String} {offer : Offer}
    (runs : r.Runs c sql before offer (.ok ()) behind) : before.2.fits (r.lines offer) := by
  cases fits : before.2.fits (r.lines offer) with
  | true => rfl
  | false =>
      have answered := runs.answered
      rw [fits] at answered
      cases answered

/-- What is printed of some statements is what is printed of each, one after the other. -/
theorem printed (runs : r.RunsAll c statements before offers answer behind) :
    behind.2 = before.2.after (offers.flatMap r.lines) := by
  induction runs with
  | nil => rfl
  | failed first => simpa using first.printed
  | cons first more ih =>
      rw [List.flatMap_cons, Sink.after_append _ (fits_of_ok first), ← first.printed]
      exact ih

end Runner.RunsAll

/-! ## The statements of a command -/

theorem ready_of_reached (disk : Disk) (commands : List Command) {c id : Nat}
    (session : sessionAt (State.after { world := { disk } } commands).connections c = some id) :
    ∃ connection, (State.after { world := { disk } } commands).Ready c connection := by
  obtain ⟨connection, found, serving⟩ := Option.bind_eq_some_iff.1 session
  exact ⟨connection, found, by rw [serving]; rfl, after_attended disk commands c connection found,
    atRest_after disk commands⟩

/-- A connection that has as many open cursors as it had in front of some statements, none, can be
closed behind them. -/
theorem close_of_no_cursors {s : State} {c id : Nat} {connection : Connection}
    (found : s.connections.get? c = some connection) (session : connection.session = some id)
    (none_ : connection.openCursors = 0) : (exec (Connection.close c) s).1 = .ok true := by
  unfold Connection.close
  rw [exec_bind, exec_get]
  dsimp only
  rw [found]
  dsimp only
  rw [session]
  dsimp only
  rw [if_neg (by omega)]
  rfl

/-- A command prints what its statements print; undoing a transaction behind a failure prints
nothing. -/
theorem exec_runStatements (o : CommandLine.Options) (c : Nat) (statements : List String)
    (kept : State × Sink) :
    (exec (CommandLine.runStatements o c statements) kept).2.2 =
        (exec ((⟨o.headers, o.nullText⟩ : Runner).runAll c statements) kept).2.2 ∧
      (exec (CommandLine.runStatements o c statements) kept).1 =
        (exec ((⟨o.headers, o.nullText⟩ : Runner).runAll c statements) kept).1.mapError
          fun error => .told error.message := by
  unfold CommandLine.runStatements
  rw [exec_bind, exec_get]
  dsimp only
  rw [← exec]
  rcases exec ((⟨o.headers, o.nullText⟩ : Runner).runAll c statements) kept with
    ⟨e | _, t, sink⟩ <;> dsimp only
  · rw [exec_bind, exec_set]
    dsimp only
    by_cases whole : o.transaction
    · obtain ⟨undone, u, abandoned, -⟩ := CommandLine.disk_abandon c t
      rw [if_pos whole, exec_bind, CommandLine.exec_doing, abandoned]
      exact ⟨rfl, rfl⟩
    · rw [if_neg whole]
      exact ⟨rfl, rfl⟩
  · exact ⟨rfl, rfl⟩

/-- What is printed of the statements of an open connection, whatever has happened before.  Each
statement that is run prints its lines, up to the first that does not fit, and ends as
`Runner.Runs` says; behind it the connection has as many open cursors as in front of it.  A list of
statements prints what its statements print, one after the other, up to and including the first
that fails, and so does a command, whose connection can be closed then if it had no open cursors.
The header of a statement whose execution succeeded is printed though fetching fails at once:
this happens to a statement that fails when it is executed again, never to one that only reads. -/
theorem statements_print (disk : Disk) (commands : List Command) {c : Nat}
    (isOpen : (sessionAt (State.after { world := { disk } } commands).connections c).isSome)
    (sink : Sink) :
    let s := State.after { world := { disk } } commands
    (∀ (r : Runner) sql, ∃ offer,
      r.Runs c sql (s, sink) offer (exec (r.run c sql) (s, sink)).1
        (exec (r.run c sql) (s, sink)).2) ∧
    (∀ (r : Runner) statements, ∃ offers,
      r.RunsAll c statements (s, sink) offers (exec (r.runAll c statements) (s, sink)).1
        (exec (r.runAll c statements) (s, sink)).2 ∧
      (exec (r.runAll c statements) (s, sink)).2.2 = sink.after (offers.flatMap r.lines) ∧
      (exec (r.runAll c statements) (s, sink)).2.1.connections.get? c = s.connections.get? c ∧
      ((s.connections.get? c).all (fun connection => connection.openCursors = 0) →
        (exec (Connection.close c) (exec (r.runAll c statements) (s, sink)).2.1).1 = .ok true)) ∧
    ∀ (o : CommandLine.Options) statements,
      (exec (CommandLine.runStatements o c statements) (s, sink)).2.2 =
          (exec ((⟨o.headers, o.nullText⟩ : Runner).runAll c statements) (s, sink)).2.2 ∧
        (exec (CommandLine.runStatements o c statements) (s, sink)).1 =
          (exec ((⟨o.headers, o.nullText⟩ : Runner).runAll c statements) (s, sink)).1.mapError
            fun error => .told error.message := by
  intro s
  obtain ⟨id, session⟩ := Option.isSome_iff_exists.1 isOpen
  obtain ⟨connection, ready⟩ := ready_of_reached disk commands session
  refine ⟨fun r sql => run_runs ready r sink sql, fun r statements => ?_, fun o statements =>
    exec_runStatements o c statements (s, sink)⟩
  obtain ⟨offers, runs⟩ := runAll_runs ready r sink statements
  refine ⟨offers, runs, runs.printed, runs.connection, fun none_ => ?_⟩
  obtain ⟨serving, there⟩ := Option.isSome_iff_exists.1 ready.isOpen
  rw [ready.found, Option.all_some, decide_eq_true_iff] at none_
  exact close_of_no_cursors (runs.connection.trans ready.found) there none_

/-- Three statements, of which the second is refused: the third is not executed. -/
theorem statements_print_up_to_refusal :
    let s := State.after {} tableStart
    let r : Runner := { headers := true }
    let ran := exec (r.runAll 1 ["SELECT x FROM t", "SELEC", "DELETE FROM t"]) (s, {})
    (sessionAt s.connections 1).isSome ∧ ran.2.2.printed = "x\na\n" ∧
      ran.2.1.world.rowsOf 1 "t" = some 1 ∧
      ∃ offers, r.RunsAll 1 ["SELECT x FROM t", "SELEC", "DELETE FROM t"] (s, {})
          offers ran.1 ran.2 ∧
        ran.2.2 = Sink.after {} (offers.flatMap r.lines) := by
  intro s r ran
  have isOpen : (sessionAt s.connections 1).isSome := by decide +kernel
  obtain ⟨offers, runs, printed, -⟩ := (statements_print {} tableStart isOpen {}).2.1 r
    ["SELECT x FROM t", "SELEC", "DELETE FROM t"]
  exact ⟨isOpen, by decide +kernel, by decide +kernel, offers, runs, printed⟩

/-- A connection to a database with a table whose rows are unique. -/
def uniqueStart : List Command :=
  [.openEnvironment "sqlite3" {}, .connect 1 ":memory:" none,
    .execute 1 "CREATE TABLE t(x UNIQUE)"]

/-- An insertion that hands back its row is executed, and fails in front of its first row: it is
executed again.  Its header is printed, with an error behind it. -/
theorem header_of_failed_insertion :
    let s := State.after {} uniqueStart
    let ran := exec (({ headers := true } : Runner).run 1 "INSERT INTO t VALUES('a') RETURNING x")
      (s, {})
    (exec (Connection.execute 1 "INSERT INTO t VALUES('a') RETURNING x") s).1 = .ok (.cursor 1) ∧
      ran.1 = .error (.sql (.statement ⟨"UNIQUE constraint failed: t.x", 2067⟩)) ∧
      ran.2.2.printed = "x\n" ∧
      s.Offers 1 "INSERT INTO t VALUES('a') RETURNING x"
        (.rows ["x"] [] (some ⟨"UNIQUE constraint failed: t.x", 2067⟩)) := by
  intro s ran
  let t := (exec (Connection.execute 1 "INSERT INTO t VALUES('a') RETURNING x") s).2
  have executed : exec (Connection.execute 1 "INSERT INTO t VALUES('a') RETURNING x") s =
      (.ok (.cursor 1), t) := exec_eq_of_toOption (by decide +kernel)
  have named : exec (Cursor.columnNames 1) t = (.ok ["x"], t) :=
    Prod.ext (by decide +kernel) (state_columnNames 1 t)
  have failed : exec (Cursor.next 1) t =
      (.error (.statement ⟨"UNIQUE constraint failed: t.x", 2067⟩), (exec (Cursor.next 1) t).2) :=
    Prod.ext (by decide +kernel) rfl
  refine ⟨congrArg Prod.fst executed, by decide +kernel, by decide +kernel,
    .rows executed named (.failed failed) (by decide)⟩

end SqlDriver
