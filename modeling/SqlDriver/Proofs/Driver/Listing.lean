/-
# SqlDriver.Proofs.Driver.Listing -- a statement's rows from its cursor, from end to end

A statement that is executed, fetched from until its rows end or fetching fails, and then let go
leaves its connection as it was (`execute_lends`, `next_lends`, `release_lends`): the
cursor is one more holder and one more open cursor of the connection until it has given up its
statement, and one more holder until it is let go.  So it is on any connection that somebody holds,
and every connection that a program can reach is held (`after_attended`).

`State.Offers` says what a statement comes to when it is executed and listed.  One answer is all
that it has (`Offers.unique`), and it always has one (`exists_offer`).
-/
import SqlDriver.Proofs.Driver.InTransaction
import SqlDriver.Proofs.Driver.Lifetime

namespace SqlDriver

set_option autoImplicit false

open Engine

/-! ## Connections are held -/

/-- Every connection that is there has a holder. -/
def State.Attended (s : State) : Prop :=
  ∀ c connection, s.connections.get? c = some connection → 0 < connection.holders

/-- Every connection is held, if that was so before. -/
def StaysAttended (s t : State) : Prop :=
  s.Attended → t.Attended

instance : Std.Refl StaysAttended where
  refl _ := id

instance : IsTrans State StaysAttended where
  trans _ _ _ first second := second ∘ first

/-- A connection with one more cursor that is open. -/
def Connection.withCursor (connection : Connection) : Connection :=
  { connection with
    openCursors := connection.openCursors + 1, holders := connection.holders + 1 }

/-- A connection with one more cursor that is closed. -/
def Connection.withHolder (connection : Connection) : Connection :=
  { connection with holders := connection.holders + 1 }

section Holders

variable {s t : State} (c k : Nat)

theorem Steady.attended (same : Steady s t) : StaysAttended s t := by
  intro attended c connection found
  have tie := same.connections c
  rw [found] at tie
  obtain ⟨before, there, same⟩ := Option.map_eq_some_iff.1 tie.symm
  have holders : before.holders = connection.holders := congrArg Prod.snd same
  exact holders ▸ attended c before there

theorem attended_of_connections (same : t.connections = s.connections) : StaysAttended s t := by
  intro attended c connection found
  exact attended c connection (same ▸ found)

theorem attended_of_modify {f : Connection → Connection}
    (held : ∀ connection, 0 < connection.holders → 0 < (f connection).holders)
    (changed : t.connections = s.connections.modify c f) : StaysAttended s t := by
  intro attended d connection found
  rw [changed, Pool.get?_modify] at found
  split at found
  · obtain ⟨before, there, rfl⟩ := Option.map_eq_some_iff.1 found
    exact held before (attended d before there)
  · exact attended d connection found

theorem connect_attended (e : Nat) (source : String) (timeout : Option Nat) :
    Leads StaysAttended (Environment.connect e source timeout) s := by
  have opens := connect_opens s e source timeout
  unfold Leads
  rcases answer : exec (Environment.connect e source timeout) s with ⟨error | c | _, t⟩ <;>
    rw [answer] at opens
  · exact opens.attended
  · obtain ⟨-, -, -, id, -, -, made⟩ := opens
    intro attended d connection found
    rw [made, Pool.get?_insert] at found
    split at found
    · cases found
      exact Nat.zero_lt_one
    · exact attended d connection found
  · exact opens.attended

theorem execute_attended (sql : String) : Leads StaysAttended (Connection.execute c sql) s := by
  have opens := execute_opens s c sql
  unfold Leads
  rcases answer : exec (Connection.execute c sql) s with ⟨error | n | k, t⟩ <;>
    rw [answer] at opens
  · exact opens.attended
  · exact opens.attended
  · obtain ⟨-, -, u, cursor, steady, -, -, -, rfl⟩ := opens
    exact IsTrans.trans _ u _ steady.attended
      (attended_of_modify c (f := Connection.withCursor) (fun _ _ => Nat.succ_pos _) rfl)

theorem closeConnection_attended : Leads StaysAttended (Connection.close c) s := by
  have closes := closeConnection_closes s c
  unfold Leads
  rcases answer : exec (Connection.close c) s with ⟨error | _ | _, t⟩ <;> rw [answer] at closes
  · exact attended_of_connections (congrArg State.connections closes)
  · exact attended_of_connections (congrArg State.connections closes)
  · obtain ⟨id, -, -, -, closed, -⟩ := closes
    exact attended_of_modify c (f := fun connection =>
      { connection with session := none, keepsEnvironment := false }) (fun _ held => held) closed

theorem releaseConnection_attended : Leads StaysAttended (Connection.release c) s := by
  have ends := (releaseConnection_ends s c).2
  unfold Leads
  generalize (exec (Connection.release c) s).2 = t at ends ⊢
  cases found : s.connections.get? c with
  | none =>
      rw [found] at ends
      exact attended_of_connections (congrArg State.connections ends)
  | some connection =>
      rw [found] at ends
      dsimp only at ends
      intro attended d other there
      split at ends
      · next several =>
          rw [ends, Pool.get?_modify] at there
          split at there
          · next here =>
              obtain ⟨before, same, rfl⟩ := Option.map_eq_some_iff.1 there
              cases found.symm.trans (here ▸ same)
              exact Nat.sub_pos_of_lt several
          · exact attended d other there
      · rw [ends.2.2.1, Pool.get?_erase] at there
        split at there
        · cases there
        · exact attended d other there

theorem releaseCursor_attended : Leads StaysAttended (Cursor.release k) s := by
  refine .get_bind ?_
  split
  · exact .pure _
  · next cursor _ =>
      have rest (s : State) : Leads StaysAttended
          (do
            modify fun s => { s with cursors := s.cursors.erase k }
            Connection.release cursor.connection) s :=
        .bind (a := modify _) (attended_of_connections rfl) fun _ s _ =>
          releaseConnection_attended _
      split
      · exact (updateCursor_steady s k fun _ => rfl).attended
      · split
        · exact .bind (drop_steady s k cursor _).attended fun _ s _ => rest s
        · exact rest s

theorem perform_attended (s : State) (command : Command) :
    Leads StaysAttended command.perform s := by
  have forget {α : Type} {op : Op α} (leads : Leads StaysAttended op s) :
      Leads StaysAttended (discard op) s :=
    .bind leads fun _ _ _ => .pure _
  cases command with
  | openEnvironment driver config =>
      refine forget (attended_of_connections ?_)
      unfold Environment.openNamed
      split <;> rfl
  | closeEnvironment e => exact forget (closeEnvironment_steady s e).attended
  | connect e source timeout => exact forget (connect_attended e source timeout)
  | execute c sql => exact forget (execute_attended c sql)
  | commit c => exact (endTransaction_steady s c .commit).attended
  | rollback c => exact (endTransaction_steady s c .rollback).attended
  | setAutocommit c enabled => exact (setAutocommit_steady s c enabled).attended
  | autocommit c => exact forget (autocommit_leads s c)
  | lastNumber c => exact forget (lastNumber_leads s c)
  | closeConnection c => exact forget (closeConnection_attended c)
  | retainConnection c =>
      exact attended_of_modify c (f := fun connection =>
        { connection with holders := connection.holders + 1 }) (fun _ _ => Nat.succ_pos _) rfl
  | releaseConnection c =>
      refine .get_bind ?_
      split
      · exact releaseConnection_attended c
      · exact .pure _
  | next k => exact forget (next_steady s k).attended
  | fetchInto k target mode => exact forget (fetchInto_steady s k target mode).attended
  | columnNames k => exact forget (columnNames_leads s k)
  | columnTypes k => exact forget (columnTypes_leads s k)
  | closeCursor k => exact forget (closeCursor_steady s k).attended
  | retainCursor k => exact (updateCursor_steady s k fun _ => rfl).attended
  | releaseCursor k => exact releaseCursor_attended k

theorem after_attended (disk : Disk) (commands : List Command) :
    (State.after { world := { disk } } commands).Attended := by
  have stays : ∀ (s : State), s.Attended → (s.after commands).Attended := by
    induction commands with
    | nil => exact fun _ attended => attended
    | cons command rest ih => exact fun s attended => ih _ (perform_attended s command attended)
  refine stays _ fun c connection found => ?_
  cases found

end Holders

/-! ## A cursor from its opening to its end -/

/-- A cursor that is held once is all that a connection has beside what it had: it is open, or it
has given up its statement. -/
inductive State.Lends (s : State) (k c : Nat) (connection : Connection) : Prop where
  | isOpen {run : Nat} {cursor : Cursor} (shows : s.Shows k c (some run) cursor)
      (there : s.connections.get? c = some connection.withCursor)
  | closed {cursor : Cursor} (shows : s.Shows k c none cursor)
      (there : s.connections.get? c = some connection.withHolder)

section Listing

variable {s t : State} {c k id run : Nat} {connection : Connection} {cursor : Cursor}

/-- Executing leaves the connection as it was, but for the cursor that it may open. -/
theorem execute_lends (there : s.connections.get? c = some connection) (sql : String) :
    match exec (Connection.execute c sql) s with
    | (.ok (.cursor k), t) => (∃ run cursor, t.Shows k c (some run) cursor) ∧
        t.connections.get? c = some connection.withCursor
    | (_, t) => t.connections.get? c = some connection := by
  cases session : sessionAt s.connections c with
  | none =>
      rw [exec_execute_of_closed session sql]
      exact there
  | some id =>
      have executed := executed_of_session sql session
      generalize exec (Connection.execute c sql) s = outcome at executed ⊢
      cases executed with
      | unprepared => exact there
      | blank => exact there
      | failed => exact there
      | counted => exact there
      | @opened run _ v _ _ _ columns =>
          refine ⟨⟨run, Connection.cursorOver c run (v.outputs id run), ?_, rfl, rfl, rfl⟩, ?_⟩
          · exact (Pool.get?_insert ..).trans (if_pos rfl)
          · show (s.connections.modify c _).get? c = _
            rw [Pool.get?_modify, if_pos rfl, there]
            rfl

/-- A cursor that gives up its statement keeps its hold on the connection. -/
theorem get?_givenUp (id : Nat) (shows : s.Shows k c (some run) cursor)
    (there : s.connections.get? c = some connection.withCursor) :
    (s.givenUp k cursor id run).cursors.get? k = some { cursor with run := none } ∧
      (s.givenUp k cursor id run).connections.get? c = some connection.withHolder := by
  constructor
  · simp [State.givenUp, Pool.get?_modify, shows.found]
  · show (s.connections.modify cursor.connection _).get? c = _
    rw [shows.connection, Pool.get?_modify, if_pos rfl, there]
    rfl

/-- Fetching from an open cursor hands out a row, or else the cursor gives up its statement. -/
theorem next_lends (shows : s.Shows k c (some run) cursor)
    (there : s.connections.get? c = some connection.withCursor)
    (session : connection.session = some id) :
    match exec (Cursor.next k) s with
    | (.ok (some _), t) => t.Shows k c (some run) cursor ∧
        t.connections.get? c = some connection.withCursor
    | (.ok none, t) => t.Lends k c connection
    | (.error error, t) => (∃ fault, error = .statement fault) ∧ t.Lends k c connection := by
  have serving : sessionAt s.connections cursor.connection = some id := by
    rw [shows.connection, sessionAt, there]
    exact session
  have ends (v : World) (e : Event) :
      State.Lends { { s with world := v }.givenUp k cursor id run with events := e :: s.events }
        k c connection := by
    obtain ⟨found, held⟩ := get?_givenUp (s := { s with world := v }) id
      ⟨shows.found, shows.running, shows.connection, shows.holders⟩ there
    exact .closed ⟨found, rfl, shows.connection, shows.holders⟩ held
  rw [exec_next ⟨shows.found, shows.running, serving⟩]
  rcases exec (Action.step id run) s.world with ⟨fault | _ | row, v⟩
  · exact ⟨⟨fault, rfl⟩, ends v _⟩
  · exact ends v _
  · exact ⟨⟨shows.found, shows.running, shows.connection, shows.holders⟩, there⟩

/-- A cursor that has given up its statement goes, and its hold on the connection with it. -/
theorem erase_lends (there : s.connections.get? c = some connection.withHolder)
    (held : 0 < connection.holders) :
    ∃ t, exec
        (do
          modify fun s => { s with cursors := s.cursors.erase k }
          Connection.release c) s = (.ok (), t) ∧
      t.connections.get? c = some connection := by
  have several : 1 < connection.withHolder.holders := Nat.lt_add_of_pos_left held
  rw [exec_bind, exec_modify]
  dsimp only
  unfold Connection.release
  rw [exec_bind, exec_get]
  dsimp only
  rw [there]
  dsimp only
  rw [if_pos several]
  refine ⟨_, rfl, ?_⟩
  show (s.connections.modify c _).get? c = _
  rw [Pool.get?_modify, if_pos rfl, there]
  rfl

/-- Letting the cursor go leaves the connection as it was in front of it. -/
theorem release_lends (lends : s.Lends k c connection) (session : connection.session = some id)
    (held : 0 < connection.holders) :
    ∃ t, exec (Cursor.release k) s = (.ok (), t) ∧ t.connections.get? c = some connection := by
  unfold Cursor.release
  rw [exec_bind, exec_get]
  cases lends with
  | closed shows there =>
      simp only [shows.found, shows.holders, shows.running, shows.connection]
      exact erase_lends there held
  | @isOpen run cursor shows there =>
      have serving : sessionAt s.connections cursor.connection = some id := by
        rw [shows.connection, sessionAt, there]
        exact session
      simp only [shows.found, shows.holders, shows.running]
      rw [if_neg (Nat.lt_irrefl 1), exec_bind, exec_drop k run serving, shows.connection]
      exact erase_lends (get?_givenUp id shows there).2 held

end Listing

/-! ## What a statement comes to -/

/-- What a statement comes to: an error with which it is refused, the number of rows that it
changed, or columns and rows, and the error that ends them if one does. -/
inductive Offer where
  | refused (error : Error)
  | count (changes : Nat)
  | rows (names : List String) (rows : List (List Value)) (ending : Option Fault)

/-- Rows are fetched from a cursor, and more may follow. -/
inductive HandsOver (k : Nat) : State → List (List Value) → State → Prop where
  | none {s : State} : HandsOver k s [] s
  | row {s t u : State} {row : List Value} {rows : List (List Value)}
      (fetched : exec (Cursor.next k) s = (.ok (some row), t)) (rest : HandsOver k t rows u) :
      HandsOver k s (row :: rows) u

/-- What a statement of a connection comes to.  The rows are those that are fetched before their
end or an error; whoever fetches loses patience with a cursor that goes on for too long. -/
inductive State.Offers (s : State) (c : Nat) (sql : String) : Offer → Prop where
  | refused {error : Error} {t : State}
      (executed : exec (Connection.execute c sql) s = (.error error, t)) :
      Offers s c sql (.refused error)
  | count {changes : Nat} {t : State}
      (executed : exec (Connection.execute c sql) s = (.ok (.count changes), t)) :
      Offers s c sql (.count changes)
  | rows {k : Nat} {t u : State} {names : List String} {rows : List (List Value)}
      {ending : Option Fault}
      (executed : exec (Connection.execute c sql) s = (.ok (.cursor k), t))
      (named : exec (Cursor.columnNames k) t = (.ok names, t))
      (fetches : Fetches k t rows ending u) (few : rows.length < Flow.patience) :
      Offers s c sql (.rows names rows ending)
  | endless {k : Nat} {t u : State} {names : List String} {rows : List (List Value)}
      (executed : exec (Connection.execute c sql) s = (.ok (.cursor k), t))
      (named : exec (Cursor.columnNames k) t = (.ok names, t))
      (handsOver : HandsOver k t rows u) (many : rows.length = Flow.patience) :
      Offers s c sql (.rows names rows (some Flow.interrupted))

section Offering

variable {s t u v : State} {c k id run : Nat} {connection : Connection} {cursor : Cursor}

/-- Rows that are handed over stand in front of all that are fetched. -/
theorem HandsOver.length_le {some_ rows : List (List Value)} {ending : Option Fault}
    (handsOver : HandsOver k s some_ t) (fetches : Fetches k s rows ending u) :
    some_.length ≤ rows.length := by
  induction handsOver generalizing rows with
  | none => exact Nat.zero_le _
  | row fetched _ ih =>
      cases fetches with
      | exhausted fetched' => cases fetched.symm.trans fetched'
      | failed fetched' => cases fetched.symm.trans fetched'
      | row fetched' rest =>
          cases fetched.symm.trans fetched'
          exact Nat.succ_le_succ (ih rest)

theorem HandsOver.unique {rows rows' : List (List Value)} (first : HandsOver k s rows t)
    (second : HandsOver k s rows' u) (alike : rows.length = rows'.length) : rows = rows' := by
  induction first generalizing rows' with
  | none => exact (List.length_eq_zero_iff.1 alike.symm).symm
  | row fetched _ ih =>
      cases second with
      | none => cases alike
      | row fetched' rest =>
          cases fetched.symm.trans fetched'
          rw [ih rest (Nat.succ.inj alike)]

theorem Fetches.unique {rows rows' : List (List Value)} {ending ending' : Option Fault}
    (first : Fetches k s rows ending t) (second : Fetches k s rows' ending' u) :
    rows = rows' ∧ ending = ending' := by
  induction first generalizing rows' ending' with
  | exhausted fetched =>
      cases second with
      | exhausted => exact ⟨rfl, rfl⟩
      | failed fetched' => cases fetched.symm.trans fetched'
      | row fetched' => cases fetched.symm.trans fetched'
  | failed fetched =>
      cases second with
      | exhausted fetched' => cases fetched.symm.trans fetched'
      | failed fetched' =>
          cases fetched.symm.trans fetched'
          exact ⟨rfl, rfl⟩
      | row fetched' => cases fetched.symm.trans fetched'
  | row fetched _ ih =>
      cases second with
      | exhausted fetched' => cases fetched.symm.trans fetched'
      | failed fetched' => cases fetched.symm.trans fetched'
      | row fetched' rest =>
          cases fetched.symm.trans fetched'
          obtain ⟨rfl, rfl⟩ := ih rest
          exact ⟨rfl, rfl⟩

/-- A statement comes to one thing only. -/
theorem State.Offers.unique {sql : String} {offer offer' : Offer} (first : s.Offers c sql offer)
    (second : s.Offers c sql offer') : offer = offer' := by
  cases first with
  | refused executed =>
      cases second with
      | refused executed' =>
          cases executed.symm.trans executed'
          rfl
      | count executed' => cases executed.symm.trans executed'
      | rows executed' => cases executed.symm.trans executed'
      | endless executed' => cases executed.symm.trans executed'
  | count executed =>
      cases second with
      | refused executed' => cases executed.symm.trans executed'
      | count executed' =>
          cases executed.symm.trans executed'
          rfl
      | rows executed' => cases executed.symm.trans executed'
      | endless executed' => cases executed.symm.trans executed'
  | rows executed named fetches few =>
      cases second with
      | refused executed' => cases executed.symm.trans executed'
      | count executed' => cases executed.symm.trans executed'
      | rows executed' named' fetches' _ =>
          cases executed.symm.trans executed'
          cases named.symm.trans named'
          obtain ⟨rfl, rfl⟩ := fetches.unique fetches'
          rfl
      | endless executed' _ handsOver many =>
          cases executed.symm.trans executed'
          have enough := handsOver.length_le fetches
          omega
  | endless executed named handsOver many =>
      cases second with
      | refused executed' => cases executed.symm.trans executed'
      | count executed' => cases executed.symm.trans executed'
      | rows executed' _ fetches few =>
          cases executed.symm.trans executed'
          have enough := handsOver.length_le fetches
          omega
      | endless executed' named' handsOver' many' =>
          cases executed.symm.trans executed'
          cases named.symm.trans named'
          rw [handsOver.unique handsOver' (many.trans many'.symm)]

/-- Fetching from an open cursor comes to an end within some rows, or there are as many. -/
theorem fetches_or_handsOver (shows : s.Shows k c (some run) cursor)
    (there : s.connections.get? c = some connection.withCursor)
    (session : connection.session = some id) (most : Nat) :
    (∃ rows ending u, Fetches k s rows ending u ∧ rows.length < most) ∨
      ∃ rows u, HandsOver k s rows u ∧ rows.length = most := by
  induction most generalizing s with
  | zero => exact .inr ⟨[], s, .none, rfl⟩
  | succ most ih =>
      have next := next_lends shows there session
      rcases fetched : exec (Cursor.next k) s with ⟨error | _ | row, t⟩ <;> rw [fetched] at next
      · obtain ⟨⟨fault, rfl⟩, -⟩ := next
        exact .inl ⟨[], some fault, t, .failed fetched, Nat.succ_pos most⟩
      · exact .inl ⟨[], none, t, .exhausted fetched, Nat.succ_pos most⟩
      · rcases ih next.1 next.2 with ⟨rows, ending, u, fetches, few⟩ | ⟨rows, u, handsOver, many⟩
        · exact .inl ⟨row :: rows, ending, u, .row fetched fetches, Nat.succ_lt_succ few⟩
        · exact .inr ⟨row :: rows, u, .row fetched handsOver, congrArg Nat.succ many⟩

theorem exec_columnNames (found : s.cursors.get? k = some cursor)
    (running : cursor.run = some run) :
    exec (Cursor.columnNames k) s = (.ok cursor.names, s) := by
  unfold Cursor.columnNames
  rw [exec_bind, exec_get]
  simp only [found, Cursor.isClosed, running]
  rfl

/-- Every statement of an open connection comes to something. -/
theorem exists_offer (there : s.connections.get? c = some connection)
    (session : connection.session = some id) (sql : String) : ∃ offer, s.Offers c sql offer := by
  have executes := execute_lends there sql
  rcases executed : exec (Connection.execute c sql) s with ⟨error | changes | k, t⟩ <;>
    rw [executed] at executes
  · exact ⟨_, .refused executed⟩
  · exact ⟨_, .count executed⟩
  · obtain ⟨⟨run, cursor, shows⟩, there⟩ := executes
    have named := exec_columnNames shows.found shows.running
    rcases fetches_or_handsOver shows there session Flow.patience with
      ⟨rows, ending, u, fetches, few⟩ | ⟨rows, u, handsOver, many⟩
    · exact ⟨_, .rows executed named fetches few⟩
    · exact ⟨_, .endless executed named handsOver many⟩

/-- A statement with some columns is executed to its first row or its end, and fails at once
where it is executed again from its cursor. -/
def State.FailsAgain (s : State) (c : Nat) (sql : String) (names : List String) (fault : Fault) :
    Prop :=
  ∃ k t cursor id run w, exec (Connection.execute c sql) s = (.ok (.cursor k), t) ∧
    OpenAt t k cursor id run ∧ cursor.names = names ∧
    exec (Action.step id run) t.world = (.error fault, w)

/-- An error in front of the first row is an error of the second execution. -/
theorem offers_no_row_iff {sql : String} {names : List String} {fault : Fault} :
    s.Offers c sql (.rows names [] (some fault)) ↔ s.FailsAgain c sql names fault := by
  constructor
  · intro offers
    cases offers with
    | rows executed named fetches few =>
        obtain ⟨id, run, _, _, _, cursor, _, _, _, _, _, isOpen⟩ := openAt_of_execute executed
        cases (exec_columnNames isOpen.found isOpen.running).symm.trans named
        cases fetches with
        | failed fetched =>
            have spec := next_of_openAt isOpen
            rcases stepped : exec (Action.step id run) _ with ⟨fault' | _ | row, w⟩ <;>
              rw [stepped] at spec
            · obtain ⟨_, _, answer⟩ := spec
              cases answer.symm.trans fetched
              exact ⟨_, _, cursor, id, run, w, executed, isOpen, rfl, stepped⟩
            · obtain ⟨_, _, answer⟩ := spec
              cases answer.symm.trans fetched
            · obtain ⟨_, _, _, answer⟩ := spec
              cases answer.symm.trans fetched
    | endless executed named handsOver many => exact absurd many (by decide)
  · rintro ⟨k, t, cursor, id, run, w, executed, isOpen, rfl, stepped⟩
    have spec := next_of_openAt isOpen
    rw [stepped] at spec
    obtain ⟨u, _, failed⟩ := spec
    exact .rows executed (exec_columnNames isOpen.found isOpen.running) (.failed failed)
      (by decide)

/-- A statement that only reads does not fail again: executing it again goes as it went before. -/
theorem not_failsAgain_of_isQuery {sql : String} (rest : s.world.AtRest)
    (session : sessionAt s.connections c = some id) {ready : World}
    (prepared : exec (Action.prepare id sql.toList) s.world = (.ok (some run), ready))
    (query : ready.isQuery id run) (names : List String) (fault : Fault) :
    ¬s.FailsAgain c sql names fault := by
  intro again
  cases offers_no_row_iff.2 again with
  | endless executed named handsOver many => exact absurd many (by decide)
  | rows executed named fetches few =>
      obtain ⟨id', run', ready', x, v, cursor, session', prepared', stepped, columns, world,
        isOpen⟩ := openAt_of_execute executed
      cases session.symm.trans session'
      cases prepared.symm.trans prepared'
      obtain ⟨second, twice, again, none_, _⟩ := fetches.executes isOpen
      obtain rfl := List.map_eq_nil_iff.1 none_.symm
      obtain ⟨there, found⟩ := session_of_outputs prepared stepped columns
      obtain ⟨now, r, fresh, peaceful⟩ := prepare_fresh found prepared
      have rests : ready.RestsAt id := by
        have rests := prepare_rests (rest id) sql.toList
        rwa [Leads, prepared] at rests
      rw [world] at again
      obtain ⟨first, stop, executes, alike⟩ := executes_before rests fresh peaceful stepped again
      obtain ⟨rfl, rfl, _⟩ := alike (fresh.isReading query)
      -- but the first step of the first execution succeeded
      obtain ⟨_, yields, _⟩ := executes
      cases yields with
      | failed failed => cases stepped.symm.trans failed

end Offering

end SqlDriver
