/-
# SqlDriver.Proofs.Driver.Fetching -- every row once, in order

What a cursor has yet to hand out is a `Supply`: rows and the failure behind them, or nothing
once it is closed.  Fetching takes the next piece of it (`next_supplies`), other commands that
read leave it alone, and so a run of them leaves what the fetches among them leave
(`after_supplies`).  The look-ahead of an execution takes nothing (`execute_supplies`), so each
row of a query is fetched once and in order (`rows_fetched_once`).
-/
import SqlDriver.Proofs.Driver.Reading

namespace SqlDriver

set_option autoImplicit false

open Engine

/-! ## Supplies -/

/-- What a cursor has yet to hand out. -/
inductive Supply where
  | ahead (rows : List (List Value)) (ending : Option Fault)
  /-- The cursor is closed. -/
  | spent

namespace Supply

/-- What a fetch answers. -/
def answer : Supply → Except Error (Option (List Value))
  | ahead (row :: _) _ => .ok (some row)
  | ahead [] none => .ok none
  | ahead [] (some fault) => .error (.statement fault)
  | spent => .error .cursorClosed

/-- What a fetch leaves. -/
def rest : Supply → Supply
  | ahead (_ :: rows) ending => ahead rows ending
  | _ => spent

/-- What a command leaves of the supply of a cursor. -/
def after (k : Nat) (supply : Supply) : Command → Supply
  | .next j | .fetchInto j _ _ => if j = k then supply.rest else supply
  | .closeCursor j | .releaseCursor j => if j = k then spent else supply
  | _ => supply

end Supply

/-- A cursor has a supply: its statement has it ahead, and the cursor has one holder; or the
cursor has no statement any more. -/
inductive State.Supplies (s : State) (k : Nat) : Supply → Prop where
  | ahead {cursor : Cursor} {id run : Nat} {rows : List Tuple} {ending : Option Fault}
      (isOpen : OpenAt s k cursor id run) (sole : cursor.holders = 1)
      (ahead : s.world.Ahead id run rows ending) :
      Supplies s k (.ahead (rows.map (Cursor.rowValues cursor)) ending)
  | spent (known : k < s.cursors.next) (gone : statementAt s.cursors k = none) :
      Supplies s k .spent

section Cursors

variable {s t : State} {k : Nat} {supply : Supply}

theorem State.Supplies.known (supplies : s.Supplies k supply) : k < s.cursors.next := by
  cases supplies with
  | ahead isOpen sole ahead => exact Pool.lt_next_of_get? isOpen.found
  | spent known gone => exact known

theorem OpenAt.holds {cursor : Cursor} {id run : Nat} (isOpen : OpenAt s k cursor id run) :
    s.Holds k id run :=
  ⟨cursor.connection, by simp [statementAt, isOpen.found, isOpen.running], isOpen.session⟩

/-- A cursor that is left alone keeps its supply. -/
theorem State.Supplies.untouched (supplies : s.Supplies k supply) (untouched : Untouched k s t) :
    t.Supplies k supply := by
  cases supplies with
  | @ahead cursor id run _ _ isOpen sole ahead =>
      obtain ⟨⟨c, statement, session⟩, spares⟩ := untouched.holds id run isOpen.holds
      have found := untouched.cursor.trans isOpen.found
      have here : c = cursor.connection := by
        simp [statementAt, found, isOpen.running] at statement
        exact statement.symm
      exact .ahead ⟨found, isOpen.running, here ▸ session⟩ sole (ahead.of_spares spares)
  | spent known gone =>
      refine .spent (Nat.lt_of_lt_of_le known untouched.next) ?_
      rw [statementAt, untouched.cursor]
      exact gone

theorem State.Supplies.told (supplies : s.Supplies k supply) (events : List Event) :
    State.Supplies { s with events } k supply :=
  supplies.untouched ⟨Nat.le_refl _, rfl, fun _ _ holds => ⟨holds, Std.Refl.refl s.world⟩⟩

/-- A cursor that gave up its statement has nothing more to hand out. -/
theorem givenUp_supplies {cursor : Cursor} {id run : Nat} (found : s.cursors.get? k = some cursor) :
    (s.givenUp k cursor id run).Supplies k .spent := by
  refine .spent ?_ ?_
  · exact Pool.lt_next_of_get? (p := s.cursors) found
  · exact (Sound.statementAt_detached s.cursors k k).trans (if_pos rfl)

/-- Fetching answers the next piece of the supply, and takes it. -/
theorem next_supplies (supplies : s.Supplies k supply) :
    (exec (Cursor.next k) s).1 = supply.answer ∧
      (exec (Cursor.next k) s).2.Supplies k supply.rest := by
  cases supplies with
  | @ahead cursor id run rows ending isOpen sole ahead =>
      obtain ⟨answer, more⟩ := ahead.step
      rw [exec_next isOpen]
      cases rows with
      | nil =>
          cases ending with
          | none =>
              rcases stepped : exec (Action.step id run) s.world with ⟨x, v⟩
              obtain rfl : x = .ok none := by rw [stepped] at answer; exact answer
              exact ⟨rfl, (givenUp_supplies (s := { s with world := v }) isOpen.found).told _⟩
          | some fault =>
              rcases stepped : exec (Action.step id run) s.world with ⟨x, v⟩
              obtain rfl : x = .error fault := by rw [stepped] at answer; exact answer
              exact ⟨rfl, (givenUp_supplies (s := { s with world := v }) isOpen.found).told _⟩
      | cons row rows =>
          have behind := more row rows rfl
          rcases stepped : exec (Action.step id run) s.world with ⟨x, v⟩
          rw [stepped] at behind
          obtain rfl : x = .ok (some row) := by rw [stepped] at answer; exact answer
          exact ⟨rfl, .ahead ⟨isOpen.found, isOpen.running, isOpen.session⟩ sole behind⟩
  | spent known gone =>
      rw [exec_next_of_closed gone]
      exact ⟨rfl, .spent known gone⟩

theorem close_supplies (supplies : s.Supplies k supply) :
    (exec (Cursor.close k) s).2.Supplies k .spent := by
  cases supplies with
  | @ahead cursor id run rows ending isOpen sole ahead =>
      unfold Cursor.close
      rw [exec_bind, exec_get]
      simp only [isOpen.found, isOpen.running]
      rw [exec_bind, exec_drop k run isOpen.session]
      exact (givenUp_supplies isOpen.found).told _
  | spent known gone =>
      rw [exec_closeCursor_of_closed gone]
      exact .spent known gone

/-- Letting go of a connection leaves the cursors be. -/
theorem cursors_release (s : State) (c : Nat) :
    (exec (Connection.release c) s).2.cursors = s.cursors := by
  unfold Connection.release
  rw [exec_bind, exec_get]
  dsimp only
  cases s.connections.get? c with
  | none => rfl
  | some connection =>
      dsimp only
      split
      · rfl
      · cases connection.session <;> rfl

theorem release_supplies (supplies : s.Supplies k supply) :
    (exec (Cursor.release k) s).2.Supplies k .spent := by
  have goes {t : State} {c : Nat} (known : k < t.cursors.next) :
      (exec (Connection.release c) { t with cursors := t.cursors.erase k }).2.Supplies
        k .spent := by
    refine .spent ?_ ?_ <;> rw [cursors_release]
    · exact known
    · rw [statementAt, Pool.get?_erase, if_pos rfl]
      rfl
  have known := supplies.known
  cases found : s.cursors.get? k with
  | none =>
      unfold Cursor.release
      rw [exec_bind, exec_get]
      simp only [found]
      exact .spent known (by simp [statementAt, found])
  | some cursor =>
      by_cases shared : 1 < cursor.holders
      · unfold Cursor.release
        rw [exec_bind, exec_get]
        simp only [found]
        rw [if_pos shared]
        cases supplies with
        | ahead isOpen sole ahead =>
            cases found.symm.trans isOpen.found
            omega
        | spent known gone =>
            refine .spent known ?_
            refine (statementAt_modify s.cursors k k _ ?_ ?_).trans gone <;> exact fun _ => rfl
      · unfold Cursor.release
        rw [exec_bind, exec_get]
        simp only [found]
        rw [if_neg shared]
        cases running : cursor.run with
        | none => exact goes known
        | some run =>
            dsimp only
            rw [exec_bind]
            have succeeds := drop_succeeds s k cursor run
            have steady := drop_steady s k cursor run
            rcases dropped : exec (Cursor.drop k cursor run) s with ⟨_ | _, t⟩ <;>
              rw [dropped] at succeeds
            · cases succeeds
            · rw [Leads, dropped] at steady
              exact goes (steady.nextCursor ▸ known)

end Cursors

/-! ## Queries -/

/-- The values of a row of a program: one for each column, null where there is none. -/
def Engine.Prepared.values (p : Prepared) (row : Tuple) : List Value :=
  (List.range p.outputs.length).map fun i => (row.getD i .null).toValue

/-- A text is a query with columns, and these are its rows, and the failure behind them, over the
database as a session sees it.  A query that cannot be made ready has that failure alone, and so has
a text that is too long to be read. -/
inductive Engine.World.Queries (w : World) (id : Nat) (sql : String) :
    List (List Value) → Option Fault → Prop where
  | rows {ts : List Token} {c : Outcome Contents} {p : Prepared} {rows : List Tuple}
      {ending : Option Fault} (known : exec (Action.schema id) w = (.ok c, w))
      (front : Program.front sql.toList = .ok (some ts))
      (made : Program.prepare c ts = .ok p) (reads : p.program.isReading)
      (columns : p.outputs ≠ []) (answers : w.Answers id p rows ending) :
      Queries w id sql (rows.map p.values) ending
  | unprepared {ts : List Token} {c : Outcome Contents} {fault : Fault}
      (known : exec (Action.schema id) w = (.ok c, w))
      (front : Program.front sql.toList = .ok (some ts)) (reads : isReadingText ts)
      (failed : Program.prepare c ts = .error fault) : Queries w id sql [] (some fault)
  | unread {fault : Fault} (front : Program.front sql.toList = .error fault) :
      Queries w id sql [] (some fault)

/-- The rows of a query and the failure behind them, if so many steps reach that. -/
def Engine.World.queried (w : World) (id : Nat) (sql : String) (steps : Nat) :
    Option (List (List Value) × Option Fault) := do
  let ts ← (Program.front sql.toList).toOption.join
  let c ← (exec (Action.schema id) w).1.toOption
  let p ← (Program.prepare c ts).toOption
  let flow ← p.program.flow? (w.seen id)
  let all ← flow.pulled (w.seen id) steps
  if w.isLegible id && !p.outputs.isEmpty then some (all.1.map p.values, all.2) else none

section Queries

variable {s : State} {c id : Nat} {sql : String} {rows : List (List Value)}
  {ending : Option Fault}

theorem Engine.World.queries_of_queried {w : World} (steps : Nat)
    (all : w.queried id sql steps = some (rows, ending)) : w.Queries id sql rows ending := by
  unfold queried at all
  obtain ⟨ts, read, all⟩ := Option.bind_eq_some_iff.1 all
  obtain ⟨c, known, all⟩ := Option.bind_eq_some_iff.1 all
  obtain ⟨p, made, all⟩ := Option.bind_eq_some_iff.1 all
  obtain ⟨flow, reads, all⟩ := Option.bind_eq_some_iff.1 all
  obtain ⟨⟨tuples, _⟩, pulled, all⟩ := Option.bind_eq_some_iff.1 all
  split at all
  · next clear =>
      cases all
      obtain ⟨legible, columns⟩ := Bool.and_eq_true_iff.1 clear
      obtain ⟨c', schema⟩ := exec_schema id w
      rw [schema] at known
      cases known
      have isReading : p.program.isReading := isReading_of_flow? reads
      have made : Program.prepare c ts = .ok p := by
        cases prepared : Program.prepare c ts <;> rw [prepared] at made <;> cases made
        rfl
      have front : Program.front sql.toList = .ok (some ts) := by
        rcases front : Program.front sql.toList with fault | _ | ts' <;> rw [front] at read <;>
          cases read
        rfl
      refine .rows schema front made isReading ?_
        (.read (fun _ => isLegible_iff.1 legible) reads (Flow.pulls_of_pulled pulled))
      simpa using columns
  · cases all

/-- Executing a query that fails in front of its first row opens no cursor.  Any other query gets
a cursor, and the look-ahead takes nothing of its supply. -/
theorem execute_supplies (session : sessionAt s.connections c = some id)
    (there : (s.world.session? id).isSome) (queries : s.world.Queries id sql rows ending) :
    (∀ fault, rows = [] → ending = some fault → ∃ t,
      exec (Connection.execute c sql) s = (.error (.statement fault), t) ∧
        t.cursors = s.cursors) ∧
    (rows ≠ [] ∨ ending = none → ∃ t,
      exec (Connection.execute c sql) s = (.ok (.cursor s.cursors.next), t) ∧
        t.Supplies s.cursors.next (.ahead rows ending)) := by
  have executed := executed_of_session sql session
  generalize exec (Connection.execute c sql) s = outcome at executed ⊢
  have fails {fault : Fault}
      (prepares : exec (Action.prepare id sql.toList) s.world = (.error fault, s.world)) :
      ∃ t, outcome = (.error (.statement fault), t) ∧ t.cursors = s.cursors := by
    cases executed with
    | unprepared prepared =>
        cases prepares.symm.trans prepared
        exact ⟨s, rfl, rfl⟩
    | blank prepared => cases prepares.symm.trans prepared
    | failed prepared => cases prepares.symm.trans prepared
    | counted prepared => cases prepares.symm.trans prepared
    | opened prepared => cases prepares.symm.trans prepared
  cases queries with
  | unprepared known front reads failed =>
      refine ⟨fun fault _ same => ?_, fun shows => ?_⟩
      · cases same
        exact fails (exec_prepare_of_failed known front failed)
      · simp at shows
  | unread front =>
      refine ⟨fun fault _ same => ?_, fun shows => ?_⟩
      · cases same
        exact fails (exec_prepare_of_unread id s.world front)
      · simp at shows
  | @rows ts schema p tuples _ known front made reads columns answers =>
      obtain ⟨found, there⟩ := Option.isSome_iff_exists.1 there
      obtain ⟨run, ready, prepares, answer, looks⟩ := answers.first there known front made
        ((prepare_isReading made).symm.trans reads)
      cases executed with
      | unprepared prepared => cases prepares.symm.trans prepared
      | blank prepared => cases prepares.symm.trans prepared
      | failed prepared stepped =>
          cases prepares.symm.trans prepared
          rw [stepped] at answer
          obtain ⟨rfl, rfl⟩ := of_nextOf_error answer.symm
          refine ⟨fun _ _ fails => ?_, fun shows => ?_⟩
          · cases fails
            exact ⟨_, rfl, rfl⟩
          · rcases shows with some_ | none_
            · exact absurd rfl some_
            · cases none_
      | counted prepared stepped bare =>
          cases prepares.symm.trans prepared
          rw [stepped] at answer looks
          have made := (looks _ answer.symm).1
          exact absurd ((World.outputs_of_stillAt made).symm.trans bare) columns
      | @opened run _ v x prepared stepped _ =>
          cases prepares.symm.trans prepared
          rw [stepped] at answer looks
          obtain ⟨made, ahead⟩ := looks x answer.symm
          refine ⟨fun fault none_ fails => ?_, fun _ => ?_⟩
          · obtain rfl := List.map_eq_nil_iff.1 none_
            subst fails
            cases answer
          · have values :
                p.values = Cursor.rowValues (Connection.cursorOver c run (v.outputs id run)) := by
              funext row
              simp [Prepared.values, Cursor.rowValues, Connection.cursorOver,
                World.outputs_of_stillAt made, Run.ready]
            rw [values]
            refine ⟨_, rfl, .ahead ⟨(Pool.get?_insert ..).trans (if_pos rfl), rfl, ?_⟩ rfl ahead⟩
            refine (sessionAt_modify _ _ _ _ ?_).trans session
            exact fun _ => rfl

end Queries

/-! ## Runs -/

/-- The driver's objects fit together, and its statements are what their texts say. -/
structure State.IsSound (s : State) : Prop where
  sound : ∃ deeds, Sound s deeds none
  genuine : s.world.Genuine

theorem perform_sound {s : State} (sound : s.IsSound) (command : Command) :
    (exec command.perform s).2.IsSound := by
  obtain ⟨⟨deeds, sound⟩, genuine⟩ := sound
  refine ⟨?_, perform_upholds genuine_upheld s command genuine⟩
  obtain ⟨more, answer⟩ := record_books command s deeds
  have stays := record_stays command (s, deeds) sound
  rw [answer] at stays
  exact ⟨_, stays⟩

theorem after_sound (disk : Disk) (commands : List Command) :
    (State.after { world := { disk } } commands).IsSound :=
  ⟨⟨_, history_state disk commands ▸ history_sound disk commands⟩,
    after_upholds genuine_upheld _ commands fun _ _ _ _ there => by cases there.session⟩

/-- All of some commands read, one after the other. -/
def State.reading (s : State) : List Command → Bool
  | [] => true
  | command :: rest => command.reads s && (exec command.perform s).2.reading rest

/-- One command that reads leaves of a supply what it takes from it. -/
theorem perform_supplies {s : State} {k : Nat} {supply : Supply} (sound : s.IsSound)
    (supplies : s.Supplies k supply) {command : Command} (reads : command.reads s) :
    (exec command.perform s).2.Supplies k (supply.after k command) := by
  obtain ⟨⟨deeds, sound⟩, genuine⟩ := sound
  have others (other : command.isAbout k = false) :
      (exec command.perform s).2.Supplies k supply :=
    supplies.untouched (perform_untouched sound genuine supplies.known reads other)
  cases command with
  | execute c sql => exact others rfl
  | next j =>
      by_cases here : j = k
      · subst here
        simp only [Supply.after, if_pos, Command.perform, exec_discard]
        exact (next_supplies supplies).2
      · simp only [Supply.after, if_neg here]
        exact others (decide_eq_false here)
  | fetchInto j target mode =>
      by_cases here : j = k
      · subst here
        simp only [Supply.after, if_pos, Command.perform, exec_discard, exec_fetchInto]
        exact (next_supplies supplies).2
      · simp only [Supply.after, if_neg here]
        exact others (decide_eq_false here)
  | closeCursor j =>
      by_cases here : j = k
      · subst here
        simp only [Supply.after, if_pos, Command.perform, exec_discard]
        exact close_supplies supplies
      · simp only [Supply.after, if_neg here]
        exact others (decide_eq_false here)
  | releaseCursor j =>
      by_cases here : j = k
      · subst here
        simp only [Supply.after, if_pos, Command.perform]
        exact release_supplies supplies
      · simp only [Supply.after, if_neg here]
        exact others (decide_eq_false here)
  | _ => cases reads

/-- A run of commands that read leaves of a supply what they take from it. -/
theorem after_supplies {s : State} {k : Nat} {supply : Supply} (sound : s.IsSound)
    (supplies : s.Supplies k supply) {commands : List Command} (reading : s.reading commands) :
    (s.after commands).Supplies k (commands.foldl (Supply.after k) supply) := by
  induction commands generalizing s supply with
  | nil => exact supplies
  | cons command rest ih =>
      obtain ⟨reads, reading⟩ := Bool.and_eq_true_iff.1 reading
      exact ih (perform_sound sound command) (perform_supplies sound supplies reads) reading

/-! ## Every row once -/

def Command.fetches (k : Nat) : Command → Bool
  | next j | fetchInto j _ _ => j = k
  | _ => false

/-- A command closes a cursor or lets go of it. -/
def Command.givesUp (k : Nat) : Command → Bool
  | closeCursor j | releaseCursor j => j = k
  | _ => false

/-- What a fetch answers after so many others, where there are these rows, and the failure behind
them. -/
def fetchedAfter (rows : List (List Value)) (ending : Option Fault) (n : Nat) :
    Except Error (Option (List Value)) :=
  if n < rows.length then .ok rows[n]?
  else if n = rows.length then ending.elim (.ok none) fun fault => .error (.statement fault)
  else .error .cursorClosed

namespace Supply

/-- What so many fetches leave. -/
def left (supply : Supply) : Nat → Supply
  | 0 => supply
  | n + 1 => supply.rest.left n

theorem spent_left (n : Nat) : spent.left n = spent := by
  induction n with
  | zero => rfl
  | succ n ih => exact ih

theorem answer_left (rows : List (List Value)) (ending : Option Fault) (n : Nat) :
    ((ahead rows ending).left n).answer = fetchedAfter rows ending n := by
  induction rows generalizing n with
  | nil =>
      cases n with
      | zero => cases ending <;> rfl
      | succ n =>
          change (spent.left n).answer = _
          rw [spent_left]
          rfl
  | cons row rows ih =>
      cases n with
      | zero => simp [left, answer, fetchedAfter]
      | succ n => simpa [left, rest, fetchedAfter] using ih n

/-- What a run of commands leaves of a supply: nothing, if one of them gave the cursor up, and
otherwise what their fetches leave. -/
theorem after_eq_left (k : Nat) (supply : Supply) (commands : List Command) :
    commands.foldl (Supply.after k) supply =
      if commands.any (Command.givesUp k) then spent
      else supply.left (commands.countP (Command.fetches k)) := by
  have gone (commands : List Command) : commands.foldl (Supply.after k) spent = spent := by
    induction commands with
    | nil => rfl
    | cons command rest ih =>
        have still : spent.after k command = spent := by
          cases command <;> simp [after, Supply.rest]
        rw [List.foldl_cons, still, ih]
  induction commands generalizing supply with
  | nil => rfl
  | cons command more ih =>
      rw [List.foldl_cons, List.any_cons, List.countP_cons]
      cases up : command.givesUp k with
      | true =>
          have spends : supply.after k command = spent := by
            cases command <;> simp_all [Command.givesUp, after]
          rw [spends, gone, Bool.true_or, if_pos rfl]
      | false =>
          rw [ih, Bool.false_or]
          cases fetches : command.fetches k with
          | true =>
              have takes : supply.after k command = supply.rest := by
                cases command <;> simp_all [Command.fetches, after]
              rw [takes, if_pos rfl, left]
          | false =>
              have keeps : supply.after k command = supply := by
                cases command <;> simp_all [Command.fetches, Command.givesUp, after]
              rw [keeps]
              rfl

/-- A supply that ends by closing the cursor is spent. -/
theorem answer_eq_closed {supply : Supply} :
    supply.answer = .error .cursorClosed ↔ supply = spent := by
  cases supply with
  | ahead rows ending => cases rows <;> cases ending <;> simp [answer]
  | spent => simp [answer]

end Supply

/-- A cursor answers the next fetch in a certain way, and is closed if that says so. -/
structure State.FetchesNext (s : State) (k : Nat) (answer : Except Error (Option (List Value))) :
    Prop where
  next : (exec (Cursor.next k) s).1 = answer
  fetchInto : ∀ target mode, (exec (Cursor.fetchInto k target mode) s).1 =
    answer.map fun row => row.elim (false, target) fun row =>
      (true, target.receive mode (((s.cursors.get? k).map Cursor.names).getD []) row)
  closed : statementAt s.cursors k = none ↔ answer = .error .cursorClosed

theorem State.Supplies.fetchesNext {s : State} {k : Nat} {supply : Supply}
    (supplies : s.Supplies k supply) : s.FetchesNext k supply.answer := by
  have next := (next_supplies supplies).1
  refine ⟨next, fun target mode => ?_, ?_⟩
  · rw [exec_fetchInto, next]
  · rw [Supply.answer_eq_closed]
    cases supplies with
    | ahead isOpen sole ahead => simp [statementAt, isOpen.found, isOpen.running]
    | spent known gone => simp [gone]

/-- A query whose answer is a failure alone opens no cursor.  Every other one opens a cursor that
hands out each row once and in order, then the end or the failure, and is closed from then on.
Whatever else reads meanwhile, from the same database or another, makes no difference. -/
theorem rows_fetched_once (disk : Disk) (commands : List Command) {c id : Nat} {sql : String}
    {rows : List (List Value)} {ending : Option Fault} {s : State}
    (reached : State.after { world := { disk } } commands = s)
    (session : sessionAt s.connections c = some id)
    (queries : s.world.Queries id sql rows ending) :
    (∀ fault, rows = [] → ending = some fault → ∃ t,
      exec (Connection.execute c sql) s = (.error (.statement fault), t) ∧
        t.cursors = s.cursors) ∧
    (rows ≠ [] ∨ ending = none → ∃ k t,
      exec (Connection.execute c sql) s = (.ok (.cursor k), t) ∧ s.cursors.get? k = none ∧
        ∀ between, t.reading between →
          (t.after between).FetchesNext k
            (if between.any (Command.givesUp k) then .error .cursorClosed
            else fetchedAfter rows ending (between.countP (Command.fetches k)))) := by
  have sound : s.IsSound := reached ▸ after_sound disk commands
  obtain ⟨deeds, whole⟩ := sound.sound
  have there : (s.world.session? id).isSome := by
    obtain ⟨numbers, served⟩ := whole.matched.served c id session
    obtain ⟨there, found, _⟩ := Option.map_eq_some_iff.1 served
    rw [found]
    rfl
  have fresh : s.cursors.get? s.cursors.next = none :=
    Option.eq_none_iff_forall_ne_some.2 fun _ found =>
      Nat.lt_irrefl _ (Pool.lt_next_of_get? found)
  obtain ⟨fails, opens⟩ := execute_supplies session there queries
  refine ⟨fails, fun shows => ?_⟩
  obtain ⟨t, executed, supplies⟩ := opens shows
  refine ⟨_, t, executed, fresh, fun between reading => ?_⟩
  have executed_ : t.IsSound := by
    have performed : exec (Command.execute c sql).perform s = (.ok (), t) := by
      rw [Command.perform, exec_discard, executed]
      rfl
    have after := perform_sound sound (.execute c sql)
    rwa [performed] at after
  have answers := (after_supplies executed_ supplies reading).fetchesNext
  rw [Supply.after_eq_left] at answers
  split at answers
  · next up =>
      rw [if_pos up]
      exact answers
  · next kept =>
      rw [if_neg kept, ← Supply.answer_left]
      exact answers

/-- A connection to a database with a table that has two rows, and a cursor of that connection;
and a connection to another database. -/
def twoRowsStart : List Command :=
  [.openEnvironment "sqlite3" {}, .connect 1 ":memory:" none, .connect 1 ":memory:" none,
    .execute 1 "CREATE TABLE t(x)", .execute 1 "INSERT INTO t VALUES('a')",
    .execute 1 "INSERT INTO t VALUES('b')", .execute 1 "SELECT x || x FROM t"]

/-- Cursors take turns, and one of them is dropped and one opened meanwhile. -/
theorem rows_fetched_in_turns :
    ∃ k t, exec (Connection.execute 1 "SELECT x FROM t") (State.after {} twoRowsStart) =
        (.ok (.cursor k), t) ∧
      (t.after [.next 1, .next k, .releaseCursor 1, .execute 2 "SELECT 'c'", .next 3]).FetchesNext k
        (.ok (some [.text "b"])) := by
  let s := State.after {} twoRowsStart
  have session : sessionAt s.connections 1 = some 1 := by decide +kernel
  have queries : s.world.Queries 1 "SELECT x FROM t" [[.text "a"], [.text "b"]] none :=
    World.queries_of_queried 3 (by decide +kernel)
  obtain ⟨_, opens⟩ := rows_fetched_once {} twoRowsStart (s := s) rfl session queries
  obtain ⟨k, t, executed, _, answers⟩ := opens (.inr rfl)
  have executed' : exec (Connection.execute 1 "SELECT x FROM t") s = (.ok (.cursor 2), _) :=
    exec_eq_of_toOption (by decide +kernel)
  cases executed.symm.trans executed'
  exact ⟨2, _, executed, answers _ (by decide +kernel)⟩

end SqlDriver
