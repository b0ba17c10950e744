/-
# SqlDriver.Proofs.Driver.Balance -- what ties connections, cursors and statements

The count of a connection goes with its open cursors (`Tied`), the open cursors with the
statements of the engine (`Matched`), and these with the book of those that were made ready
and given up (`Kept`).  In the midst of an operation one statement may belong to no cursor
yet, or to none any more: that one is `pending`.  For each of the three, and for each way in
which one object changes, a lemma says that the tie holds.
-/
import SqlDriver.Proofs.Driver.Ledger
import SqlDriver.Proofs.Engine.Move

namespace SqlDriver

set_option autoImplicit false

/-! ## What is counted -/

def Engine.World.Live (w : Engine.World) (id run : Nat) : Prop :=
  ∃ numbers, w.statements id = some numbers ∧ run ∈ numbers.2

/-- What ties connections and cursors. -/
structure Tied (cs : Pool Connection) (ks : Pool Cursor) : Prop where
  connected : ∀ k cursor, ks.get? k = some cursor → ∃ connection,
    cs.get? cursor.connection = some connection
  held : ∀ c connection, cs.get? c = some connection →
    ks.count (Cursor.isOf c) ≤ connection.holders
  counted : ∀ c connection, cs.get? c = some connection →
    connection.openCursors = ks.count (Cursor.isOpenOf c)
  apart : ∀ c d id, sessionAt cs c = some id → sessionAt cs d = some id → c = d
  sole : ∀ j k statement, statementAt ks j = some statement →
    statementAt ks k = some statement → j = k

/-- What ties open cursors and the engine's statements. -/
structure Matched (w : Engine.World) (cs : Pool Connection) (ks : Pool Cursor)
    (pending : Option (Nat × Nat)) : Prop where
  served : ∀ c id, sessionAt cs c = some id → ∃ numbers, w.statements id = some numbers
  live : ∀ k c run, statementAt ks k = some (c, run) → ∃ id,
    sessionAt cs c = some id ∧ w.Live id run ∧ pending ≠ some (id, run)
  covered : ∀ id run, w.Live id run → pending = some (id, run) ∨
    ∃ k c, statementAt ks k = some (c, run) ∧ sessionAt cs c = some id
  waiting : ∀ id run, pending = some (id, run) → w.Live id run

/-- What ties the engine's statements and the book. -/
structure Kept (w : Engine.World) (deeds : List Deed) : Prop where
  numbered : ∀ id run, Deed.prepared id run ∈ deeds →
    id < w.sessions.next ∧ ∀ numbers, w.statements id = some numbers → run < numbers.1
  live : ∀ id run, w.Live id run →
    deeds.count (.prepared id run) = 1 ∧ deeds.count (.finalized id run) = 0
  gone : ∀ id run, ¬w.Live id run →
    deeds.count (.finalized id run) = deeds.count (.prepared id run) ∧
      deeds.count (.prepared id run) ≤ 1
  discounted : ∀ before, Deed.discounted before ∈ deeds → 0 < before

/-- Connections, cursors, statements and the book fit together. -/
structure Sound (s : State) (deeds : List Deed) (pending : Option (Nat × Nat)) : Prop where
  tied : Tied s.connections s.cursors
  matched : Matched s.world s.connections s.cursors pending
  kept : Kept s.world deeds

/-! ## What changes of one object do -/

theorem count_pos_of_statementAt {ks : Pool Cursor} {k c run : Nat}
    (there : statementAt ks k = some (c, run)) : 0 < ks.count (Cursor.isOpenOf c) := by
  obtain ⟨cursor, found, statement⟩ := Option.bind_eq_some_iff.1 there
  obtain ⟨r, running, same⟩ := Option.map_eq_some_iff.1 statement
  cases same
  exact Pool.count_pos_iff.2
    ⟨k, cursor, found, by simp [Cursor.isOpenOf, Cursor.isOf, Cursor.isClosed, running]⟩

theorem count_isOpenOf_le (ks : Pool Cursor) (c : Nat) :
    ks.count (Cursor.isOpenOf c) ≤ ks.count (Cursor.isOf c) :=
  List.countP_mono_left fun _ _ both => (Bool.and_eq_true_iff.1 both).1

theorem statementAt_modify (ks : Pool Cursor) (k j : Nat) (f : Cursor → Cursor)
    (connection : ∀ cursor, (f cursor).connection = cursor.connection)
    (run : ∀ cursor, (f cursor).run = cursor.run) :
    statementAt (ks.modify k f) j = statementAt ks j := by
  rw [statementAt, Pool.get?_modify]
  split
  · cases found : ks.get? j <;> simp [statementAt, found, connection, run]
  · rfl

namespace Tied

variable {cs : Pool Connection} {ks : Pool Cursor}

/-- A connection is changed, but gets no new session, and with it the cursors. -/
theorem change (tied : Tied cs ks) {c : Nat} {f : Connection → Connection} {ls : Pool Cursor}
    (session : ∀ connection id, (f connection).session = some id → connection.session = some id)
    (connected : ∀ k cursor, ls.get? k = some cursor → ∃ connection,
      cs.get? cursor.connection = some connection)
    (there : ∀ d, d ≠ c → ls.count (Cursor.isOf d) = ks.count (Cursor.isOf d) ∧
      ls.count (Cursor.isOpenOf d) = ks.count (Cursor.isOpenOf d))
    (here : ∀ connection, cs.get? c = some connection →
      ls.count (Cursor.isOf c) ≤ (f connection).holders ∧
        (f connection).openCursors = ls.count (Cursor.isOpenOf c))
    (sole : ∀ j k statement, statementAt ls j = some statement →
      statementAt ls k = some statement → j = k) : Tied (cs.modify c f) ls where
  connected k cursor found := by
    obtain ⟨connection, exists_⟩ := connected k cursor found
    rw [Pool.get?_modify, exists_]
    split <;> exact ⟨_, rfl⟩
  held d connection found := by
    rw [Pool.get?_modify] at found
    split at found
    · next same =>
        obtain ⟨old, before, rfl⟩ := Option.map_eq_some_iff.1 found
        exact same ▸ (here old (same ▸ before)).1
    · next other => exact (there d other).1 ▸ tied.held d connection found
  counted d connection found := by
    rw [Pool.get?_modify] at found
    split at found
    · next same =>
        obtain ⟨old, before, rfl⟩ := Option.map_eq_some_iff.1 found
        exact same ▸ (here old (same ▸ before)).2
    · next other => exact (there d other).2 ▸ tied.counted d connection found
  apart d e id first second :=
    tied.apart d e id (sessionAt_of_modify (session · id) first)
      (sessionAt_of_modify (session · id) second)
  sole := sole

/-- A connection is changed, but not its count. -/
theorem modify_connection (tied : Tied cs ks) {c : Nat} {f : Connection → Connection}
    (session : ∀ connection id, (f connection).session = some id → connection.session = some id)
    (openCursors : ∀ connection, (f connection).openCursors = connection.openCursors)
    (holders : ∀ connection, cs.get? c = some connection →
      ks.count (Cursor.isOf c) ≤ (f connection).holders) : Tied (cs.modify c f) ks :=
  tied.change session tied.connected (fun _ _ => ⟨rfl, rfl⟩)
    (fun connection found =>
      ⟨holders connection found, (openCursors connection).trans (tied.counted c connection found)⟩)
    tied.sole

/-- A cursor is changed, but not its connection and its statement. -/
theorem modify_cursor (tied : Tied cs ks) {k : Nat} {f : Cursor → Cursor}
    (connection : ∀ cursor, (f cursor).connection = cursor.connection)
    (run : ∀ cursor, (f cursor).run = cursor.run) : Tied cs (ks.modify k f) where
  connected j cursor found := by
    rw [Pool.get?_modify] at found
    split at found
    · obtain ⟨old, before, rfl⟩ := Option.map_eq_some_iff.1 found
      exact connection old ▸ tied.connected j old before
    · exact tied.connected j cursor found
  held c found there := by
    rw [Pool.count_modify_of_eq fun _ _ => by simp [Cursor.isOf, connection]]
    exact tied.held c found there
  counted c found there := by
    rw [Pool.count_modify_of_eq fun _ _ => by
      simp [Cursor.isOpenOf, Cursor.isOf, Cursor.isClosed, connection, run]]
    exact tied.counted c found there
  apart := tied.apart
  sole i j statement := by
    rw [statementAt_modify _ _ _ _ connection run, statementAt_modify _ _ _ _ connection run]
    exact tied.sole i j statement

/-- A cursor is opened. -/
theorem open_cursor (tied : Tied cs ks) {c : Nat} {connection : Connection}
    (found : cs.get? c = some connection) {cursor : Cursor} (of : cursor.connection = c)
    {run : Nat} (running : cursor.run = some run)
    (unheld : ∀ k, statementAt ks k ≠ some (c, run)) :
    Tied
      (cs.modify c fun connection => { connection with
        openCursors := connection.openCursors + 1, holders := connection.holders + 1 })
      (ks.insert cursor).2 := by
  have opened (k : Nat) : statementAt (ks.insert cursor).2 k =
      if k = ks.next then some (c, run) else statementAt ks k := by
    rw [statementAt, Pool.get?_insert]
    split <;> simp [statementAt, running, of]
  refine tied.change (fun _ _ same => same) (fun k new there => ?_) (fun d other => ?_)
    (fun old before => ?_) fun j k statement first second => ?_
  · rw [Pool.get?_insert] at there
    split at there
    · cases there
      exact ⟨connection, of ▸ found⟩
    · exact tied.connected k new there
  · have away : ¬c = d := fun same => other same.symm
    simp [Pool.count_insert, Cursor.isOf, Cursor.isOpenOf, of, away]
  · have bound := tied.held c old before
    have count := tied.counted c old before
    simp [Pool.count_insert, Cursor.isOf, Cursor.isOpenOf, Cursor.isClosed, of, running] at *
    omega
  · rw [opened] at first second
    split at first <;> split at second
    · omega
    · exact absurd (second.trans first.symm) (unheld k)
    · exact absurd (first.trans second.symm) (unheld j)
    · exact tied.sole j k statement first second

/-- An open cursor is counted. -/
theorem count_pos (tied : Tied cs ks) {k : Nat} {cursor : Cursor} {run : Nat}
    (found : ks.get? k = some cursor) (running : cursor.run = some run)
    {connection : Connection} (there : cs.get? cursor.connection = some connection) :
    0 < connection.openCursors := by
  rw [tied.counted _ _ there, Pool.count_pos_iff]
  exact ⟨k, cursor, found, by simp [Cursor.isOpenOf, Cursor.isOf, Cursor.isClosed, running]⟩

/-- A cursor gives up its statement. -/
theorem detach (tied : Tied cs ks) {k : Nat} {cursor : Cursor} {run : Nat}
    (found : ks.get? k = some cursor) (running : cursor.run = some run) :
    Tied
      (cs.modify cursor.connection fun connection =>
        { connection with openCursors := connection.openCursors - 1 })
      (ks.modify k fun cursor => { cursor with run := none }) := by
  have closed (j : Nat) (statement : Nat × Nat)
      (there : statementAt (ks.modify k fun cursor => { cursor with run := none }) j =
        some statement) : statementAt ks j = some statement := by
    rw [statementAt, Pool.get?_modify] at there
    split at there
    · cases before : ks.get? j <;> simp [before] at there
    · exact there
  have isOf (d : Nat) : (ks.modify k fun cursor => { cursor with run := none }).count
      (Cursor.isOf d) = ks.count (Cursor.isOf d) :=
    Pool.count_modify_of_eq fun _ _ => rfl
  have isOpenOf (d : Nat) := Pool.count_modify found (fun cursor => { cursor with run := none })
    (Cursor.isOpenOf d)
  refine tied.change (fun _ _ same => same) (fun j new there => ?_) (fun d other => ⟨isOf d, ?_⟩)
    (fun old before => ⟨?_, ?_⟩) fun i j statement first second =>
      tied.sole i j statement (closed i _ first) (closed j _ second)
  · rw [Pool.get?_modify] at there
    split at there
    · obtain ⟨old, before, rfl⟩ := Option.map_eq_some_iff.1 there
      exact tied.connected j old before
    · exact tied.connected j new there
  · have away : ¬cursor.connection = d := fun same => other same.symm
    simpa [Cursor.isOpenOf, Cursor.isOf, away] using isOpenOf d
  · rw [isOf]
    exact tied.held _ old before
  · have count := tied.counted _ old before
    have lowered := isOpenOf cursor.connection
    simp [Cursor.isOpenOf, Cursor.isOf, Cursor.isClosed, running] at lowered count ⊢
    omega

/-- A closed cursor goes. -/
theorem erase_cursor (tied : Tied cs ks) {k : Nat} {cursor : Cursor}
    (found : ks.get? k = some cursor) (closed : cursor.run = none) :
    Tied cs (ks.erase k) ∧ ∀ connection, cs.get? cursor.connection = some connection →
      (ks.erase k).count (Cursor.isOf cursor.connection) < connection.holders := by
  have fewer (kind : Cursor → Bool) := Pool.count_erase found kind
  have others (j : Nat) (statement : Nat × Nat)
      (there : statementAt (ks.erase k) j = some statement) :
      statementAt ks j = some statement := by
    rw [statementAt, Pool.get?_erase] at there
    split at there
    · simp at there
    · exact there
  refine ⟨⟨fun j new there => ?_, fun c connection there => ?_, fun c connection there => ?_,
    tied.apart, fun i j statement first second =>
      tied.sole i j statement (others i _ first) (others j _ second)⟩, fun connection there => ?_⟩
  · rw [Pool.get?_erase] at there
    split at there
    · simp at there
    · exact tied.connected j new there
  · have bound := tied.held c connection there
    have := fewer (Cursor.isOf c)
    omega
  · have := fewer (Cursor.isOpenOf c)
    have counted := tied.counted c connection there
    simpa [counted, Cursor.isOpenOf, Cursor.isClosed, closed] using this.symm
  · have bound := tied.held _ connection there
    have := fewer (Cursor.isOf cursor.connection)
    simp [Cursor.isOf] at this bound ⊢
    omega

/-- A connection without cursors goes. -/
theorem erase_connection (tied : Tied cs ks) {c : Nat} (alone : ks.count (Cursor.isOf c) = 0) :
    Tied (cs.erase c) ks := by
  have elsewhere (d : Nat) : (cs.erase c).get? d = if d = c then none else cs.get? d :=
    Pool.get?_erase ..
  have sessions (d id : Nat) (there : sessionAt (cs.erase c) d = some id) :
      sessionAt cs d = some id := by
    rw [sessionAt, elsewhere] at there
    split at there
    · simp at there
    · exact there
  refine ⟨fun k cursor found => ?_, fun d connection found => ?_, fun d connection found => ?_,
    fun d e id first second => tied.apart d e id (sessions d id first) (sessions e id second),
    tied.sole⟩
  · obtain ⟨connection, there⟩ := tied.connected k cursor found
    refine ⟨connection, ?_⟩
    rw [elsewhere, if_neg, there]
    intro here
    have : 0 < ks.count (Cursor.isOf c) :=
      Pool.count_pos_iff.2 ⟨k, cursor, found, by simp [Cursor.isOf, here]⟩
    omega
  · rw [elsewhere] at found
    split at found
    · simp at found
    · exact tied.held d connection found
  · rw [elsewhere] at found
    split at found
    · simp at found
    · exact tied.counted d connection found

/-- A connection is opened, on a session of its own. -/
theorem insert_connection (tied : Tied cs ks) {connection : Connection}
    (fresh : connection.openCursors = 0)
    (own : ∀ c id, sessionAt cs c = some id → connection.session ≠ some id) :
    Tied (cs.insert connection).2 ks := by
  have unused (kind : Cursor → Bool) (of : ∀ cursor, kind cursor → cursor.connection = cs.next) :
      ks.count kind = 0 := by
    refine Nat.eq_zero_of_not_pos fun some_ => ?_
    obtain ⟨k, cursor, found, isKind⟩ := Pool.count_pos_iff.1 some_
    obtain ⟨connection, there⟩ := tied.connected k cursor found
    have := Pool.lt_next_of_get? there
    rw [of cursor isKind] at this
    omega
  have sessions (c : Nat) : sessionAt (cs.insert connection).2 c =
      if c = cs.next then connection.session else sessionAt cs c := by
    rw [sessionAt, Pool.get?_insert]
    split <;> rfl
  refine ⟨fun k cursor found => ?_, fun c new found => ?_, fun c new found => ?_,
    fun c d id first second => ?_, tied.sole⟩
  · obtain ⟨old, there⟩ := tied.connected k cursor found
    rw [Pool.get?_insert, there]
    split <;> exact ⟨_, rfl⟩
  · rw [Pool.get?_insert] at found
    split at found
    · next here => rw [unused _ fun cursor of => by simpa [Cursor.isOf, here] using of]; omega
    · exact tied.held c new found
  · rw [Pool.get?_insert] at found
    split at found
    · next here =>
        cases found
        rw [fresh, unused _ fun cursor of => by simpa [Cursor.isOpenOf, Cursor.isOf, here] using
          (Bool.and_eq_true_iff.1 of).1]
    · exact tied.counted c new found
  · rw [sessions] at first second
    split at first <;> split at second
    · omega
    · exact absurd first (own d id second)
    · exact absurd second (own c id first)
    · exact tied.apart c d id first second

end Tied

/-! ## What changes of the engine's statements do -/

section Worlds

open Engine

variable {w v : World} {id run : Nat}

theorem Engine.Inside.same (inside : Inside id w v) (other : Nat) :
    v.statements other = w.statements other := by
  by_cases here : other = id
  · rw [here, inside.statements]
  · rw [World.statements, inside.elsewhere other here, World.statements]

theorem Engine.World.live_iff (same : ∀ other, v.statements other = w.statements other)
    (other run : Nat) : v.Live other run ↔ w.Live other run := by
  simp only [World.Live, same]

theorem Engine.World.lt_next_of_statements {numbers : Nat × List Nat}
    (found : w.statements id = some numbers) : id < w.sessions.next := by
  obtain ⟨s, there, _⟩ := Option.map_eq_some_iff.1 found
  exact Pool.lt_next_of_get? there

/-- A statement that was made ready is there, beside those that were. -/
theorem Engine.Prepares.live_iff (prepares : Prepares id run w v) {numbers : Nat × List Nat}
    (served : w.statements id = some numbers) (other r : Nat) :
    v.Live other r ↔ w.Live other r ∨ (other = id ∧ r = run) := by
  by_cases here : other = id
  · subst here
    obtain ⟨rfl, after⟩ := prepares.statements _ _ served
    simp [World.Live, after, served]
  · simp [World.Live, World.statements, prepares.elsewhere other here, here]

/-- A statement that was given up is not there, and the others are. -/
theorem Engine.Finalizes.live_iff (finalizes : Finalizes id run w v) (other r : Nat) :
    v.Live other r ↔ w.Live other r ∧ ¬(other = id ∧ r = run) := by
  by_cases here : other = id
  · subst here
    cases before : w.statements other <;> simp [World.Live, finalizes.statements, before]
  · simp [World.Live, World.statements, finalizes.elsewhere other here, here]

theorem Engine.Finalizes.numbers (finalizes : Finalizes id run w v) {other : Nat}
    {numbers : Nat × List Nat} (found : v.statements other = some numbers) :
    ∃ keys, w.statements other = some (numbers.1, keys) := by
  by_cases here : other = id
  · subst here
    rw [finalizes.statements] at found
    obtain ⟨⟨n, keys⟩, before, rfl⟩ := Option.map_eq_some_iff.1 found
    exact ⟨keys, before⟩
  · rw [World.statements, finalizes.elsewhere other here] at found
    exact ⟨numbers.2, found⟩

end Worlds

namespace Kept

open Engine

variable {w v : World} {id run : Nat} {deeds : List Deed}

theorem congr (kept : Kept w deeds) (next : w.sessions.next ≤ v.sessions.next)
    (same : ∀ other, v.statements other = w.statements other) : Kept v deeds where
  numbered other r there := by
    rw [same]
    exact (kept.numbered other r there).imp_left fun bound => Nat.lt_of_lt_of_le bound next
  live other r there := kept.live other r ((World.live_iff same other r).1 there)
  gone other r missing := kept.gone other r (mt (World.live_iff same other r).2 missing)
  discounted := kept.discounted

theorem prepare (kept : Kept w deeds) (prepares : Prepares id run w v) {numbers : Nat × List Nat}
    (served : w.statements id = some numbers) : Kept v (.prepared id run :: deeds) := by
  obtain ⟨rfl, after⟩ := prepares.statements _ _ served
  have unknown : Deed.prepared id numbers.1 ∉ deeds := fun there =>
    absurd ((kept.numbered _ _ there).2 _ served) (Nat.lt_irrefl _)
  have absent : ¬w.Live id numbers.1 := fun live => by
    have := (kept.live _ _ live).1
    rw [List.count_eq_zero.2 unknown] at this
    omega
  refine ⟨fun other r there => ?_, fun other r there => ?_, fun other r missing => ?_,
    fun before there => kept.discounted before (by simpa using there)⟩
  · rw [prepares.next]
    by_cases here : other = id
    · subst here
      refine ⟨World.lt_next_of_statements served, fun numbers found => ?_⟩
      rw [after] at found
      cases found
      rcases List.mem_cons.1 there with new | old
      · cases new
        exact Nat.lt_succ_self _
      · exact Nat.lt_succ_of_lt ((kept.numbered _ _ old).2 _ served)
    · have old : Deed.prepared other r ∈ deeds := by simpa [here] using there
      rw [World.statements, prepares.elsewhere other here]
      exact kept.numbered other r old
  · by_cases new : other = id ∧ r = numbers.1
    · obtain ⟨rfl, rfl⟩ := new
      have := kept.gone _ _ absent
      simp [List.count_eq_zero.2 unknown] at this ⊢
      exact this
    · have := kept.live other r (((prepares.live_iff served other r).1 there).resolve_right new)
      rw [List.count_cons_of_ne (by simpa [eq_comm] using new), List.count_cons_of_ne (by simp)]
      exact this
  · have missed := mt (prepares.live_iff served other r).2 missing
    have := kept.gone other r fun live => missed (.inl live)
    have other_ : ¬(other = id ∧ r = numbers.1) := fun same => missed (.inr same)
    rw [List.count_cons_of_ne (by simp), List.count_cons_of_ne (by simpa [eq_comm] using other_)]
    exact this

theorem finalize (kept : Kept w deeds) (finalizes : Finalizes id run w v)
    (live : w.Live id run) : Kept v (.finalized id run :: deeds) := by
  refine ⟨fun other r there => ?_, fun other r there => ?_, fun other r missing => ?_,
    fun before there => kept.discounted before (by simpa using there)⟩
  · obtain ⟨bound, below⟩ := kept.numbered other r (by simpa using there)
    refine ⟨finalizes.next ▸ bound, fun numbers found => ?_⟩
    obtain ⟨keys, before⟩ := finalizes.numbers found
    exact below (numbers.1, keys) before
  · obtain ⟨before, other_⟩ := (finalizes.live_iff other r).1 there
    rw [List.count_cons_of_ne (by simp), List.count_cons_of_ne (by simpa [eq_comm] using other_)]
    exact kept.live other r before
  · by_cases here : other = id ∧ r = run
    · obtain ⟨rfl, rfl⟩ := here
      have := kept.live _ _ live
      rw [List.count_cons_self, List.count_cons_of_ne (by simp)]
      omega
    · rw [List.count_cons_of_ne (by simpa [eq_comm] using here), List.count_cons_of_ne (by simp)]
      exact kept.gone other r fun before => missing ((finalizes.live_iff other r).2 ⟨before, here⟩)

/-- A session is opened; the book does not know it. -/
theorem connect (kept : Kept w deeds) (connects : Connects id w v) : Kept v deeds := by
  have live (other r : Nat) : v.Live other r ↔ other ≠ id ∧ w.Live other r := by
    by_cases here : other = id
    · simp [World.Live, here, connects.statements]
    · simp [World.Live, World.statements, connects.elsewhere other here, here]
  refine ⟨fun other r there => ?_,
    fun other r there => kept.live other r ((live other r).1 there).2,
    fun other r missing => ?_, kept.discounted⟩
  · obtain ⟨bound, below⟩ := kept.numbered other r there
    have old : other < id := connects.fresh ▸ bound
    refine ⟨connects.next ▸ Nat.lt_succ_of_lt old, fun numbers found => below numbers ?_⟩
    rw [World.statements, connects.elsewhere other (Nat.ne_of_lt old)] at found
    exact found
  · refine kept.gone other r fun before => missing ((live other r).2 ⟨fun here => ?_, before⟩)
    obtain ⟨numbers, found, _⟩ := before
    have := World.lt_next_of_statements found
    rw [here, connects.fresh] at this
    exact Nat.lt_irrefl _ this

/-- A session without statements is closed. -/
theorem disconnect (kept : Kept w deeds) (idle : ∀ run, ¬w.Live id run) :
    Kept (exec (Action.disconnect id) w).2 deeds := by
  have statements (other : Nat) : (exec (Action.disconnect id) w).2.statements other =
      if other = id then none else w.statements other := by
    rw [World.statements, session?_disconnect]
    split <;> rfl
  have live (other r : Nat) : (exec (Action.disconnect id) w).2.Live other r ↔ w.Live other r := by
    rw [World.Live, statements]
    split
    · next here => simp [here, idle r]
    · rfl
  refine ⟨fun other r there => ?_, fun other r there => kept.live other r ((live other r).1 there),
    fun other r missing => kept.gone other r (mt (live other r).2 missing), kept.discounted⟩
  obtain ⟨bound, below⟩ := kept.numbered other r there
  refine ⟨bound, fun numbers found => ?_⟩
  rw [statements] at found
  split at found
  · simp at found
  · exact below numbers found

/-- A count is lowered that was not zero. -/
theorem discount (kept : Kept w deeds) {before : Nat} (counted : 0 < before) :
    Kept w (.discounted before :: deeds) where
  numbered other r there := kept.numbered other r (by simpa using there)
  live other r there := by simpa using kept.live other r there
  gone other r missing := by simpa using kept.gone other r missing
  discounted b there := by
    rcases List.mem_cons.1 there with new | old
    · cases new
      exact counted
    · exact kept.discounted b old

end Kept

namespace Matched

open Engine

variable {w v : World} {cs ds : Pool Connection} {ks ls : Pool Cursor} {c id run : Nat}
  {pending : Option (Nat × Nat)}

theorem of_same (matched : Matched w cs ks pending)
    (same : ∀ other, v.statements other = w.statements other) : Matched v cs ks pending where
  served c other there := by
    rw [same]
    exact matched.served c other there
  live k c r there := by
    obtain ⟨other, session, live, free⟩ := matched.live k c r there
    exact ⟨other, session, (World.live_iff same other r).2 live, free⟩
  covered other r there := matched.covered other r ((World.live_iff same other r).1 there)
  waiting other r there := (World.live_iff same other r).2 (matched.waiting other r there)

/-- Sessions and statements are what matters of connections and cursors. -/
theorem congr (matched : Matched w cs ks pending) (sessions : ∀ c, sessionAt ds c = sessionAt cs c)
    (statements : ∀ k, statementAt ls k = statementAt ks k) : Matched w ds ls pending where
  served c id := by
    rw [sessions]
    exact matched.served c id
  live k c run := by
    rw [statements, sessions]
    exact matched.live k c run
  covered id run there := by
    simp only [statements, sessions]
    exact matched.covered id run there
  waiting := matched.waiting

/-- A statement that was made ready waits for a cursor. -/
theorem prepare (matched : Matched w cs ks none) (prepares : Prepares id run w v)
    {numbers : Nat × List Nat} (served : w.statements id = some numbers) (new : ¬w.Live id run) :
    Matched v cs ks (some (id, run)) := by
  have live (other r : Nat) := prepares.live_iff served other r
  refine ⟨fun c other there => ?_, fun k c r there => ?_, fun other r there => ?_,
    fun other r same => ?_⟩
  · by_cases here : other = id
    · exact here ▸ ⟨_, (prepares.statements _ _ served).2⟩
    · rw [World.statements, prepares.elsewhere other here]
      exact matched.served c other there
  · obtain ⟨other, session, before, _⟩ := matched.live k c r there
    refine ⟨other, session, (live other r).2 (.inl before), fun same => ?_⟩
    cases same
    exact new before
  · rcases (live other r).1 there with before | ⟨rfl, rfl⟩
    · exact .inr ((matched.covered other r before).resolve_left (by simp))
    · exact .inl rfl
  · cases same
    exact (live id run).2 (.inr ⟨rfl, rfl⟩)

/-- The waiting statement is given up. -/
theorem finalize (matched : Matched w cs ks (some (id, run))) (finalizes : Finalizes id run w v) :
    Matched v cs ks none := by
  have live (other r : Nat) := finalizes.live_iff other r
  refine ⟨fun c other there => ?_, fun k c r there => ?_, fun other r there => ?_, by simp⟩
  · obtain ⟨numbers, before⟩ := matched.served c other there
    by_cases here : other = id
    · subst here
      exact ⟨_, by rw [finalizes.statements, before]; rfl⟩
    · exact ⟨numbers, by rw [World.statements, finalizes.elsewhere other here]; exact before⟩
  · obtain ⟨other, session, before, free⟩ := matched.live k c r there
    refine ⟨other, session, (live other r).2 ⟨before, fun same => ?_⟩, by simp⟩
    exact free (by rw [same.1, same.2])
  · obtain ⟨before, other_⟩ := (live other r).1 there
    refine .inr ((matched.covered other r before).resolve_left fun same => other_ ?_)
    cases same
    exact ⟨rfl, rfl⟩

/-- The waiting statement gets a cursor. -/
theorem open_cursor (matched : Matched w cs ks (some (id, run)))
    (session : sessionAt cs c = some id)
    (sessions : ∀ c, sessionAt ds c = sessionAt cs c) {k : Nat} (free : statementAt ks k = none)
    (statements : ∀ j, statementAt ls j = if j = k then some (c, run) else statementAt ks j) :
    Matched w ds ls none := by
  refine ⟨fun d other there => matched.served d other (sessions d ▸ there), fun j d r there => ?_,
    fun other r there => .inr ?_, by simp⟩
  · rw [statements] at there
    split at there
    · cases there
      exact ⟨id, (sessions c).trans session, matched.waiting id run rfl, by simp⟩
    · obtain ⟨other, session, live, _⟩ := matched.live j d r there
      exact ⟨other, (sessions d).trans session, live, by simp⟩
  · rcases matched.covered other r there with same | ⟨j, d, statement, there⟩
    · cases same
      exact ⟨k, c, by rw [statements, if_pos rfl], (sessions c).trans session⟩
    · have old : j ≠ k := fun same => by simp [same, free] at statement
      exact ⟨j, d, by rw [statements, if_neg old, statement], (sessions d).trans there⟩

/-- A cursor gives up its statement, which then waits to be given up itself. -/
theorem detach (matched : Matched w cs ks none) (tied : Tied cs ks)
    (session : sessionAt cs c = some id) {k : Nat} (statement : statementAt ks k = some (c, run))
    (sessions : ∀ c, sessionAt ds c = sessionAt cs c)
    (statements : ∀ j, statementAt ls j = if j = k then none else statementAt ks j) :
    Matched w ds ls (some (id, run)) := by
  refine ⟨fun d other there => matched.served d other (sessions d ▸ there), fun j d r there => ?_,
    fun other r there => ?_, fun other r same => ?_⟩
  · rw [statements] at there
    split at there
    · simp at there
    · next away =>
        obtain ⟨other, found, live, _⟩ := matched.live j d r there
        refine ⟨other, (sessions d).trans found, live, fun same => ?_⟩
        cases same
        cases tied.apart c d id session found
        exact away (tied.sole j k _ there statement)
  · obtain ⟨j, d, found, serves⟩ := (matched.covered other r there).resolve_left (by simp)
    by_cases same : j = k
    · subst same
      cases found.symm.trans statement
      cases serves.symm.trans session
      exact .inl rfl
    · exact .inr ⟨j, d, by rw [statements, if_neg same, found], (sessions d).trans serves⟩
  · cases same
    obtain ⟨other, found, live, _⟩ := matched.live k c run statement
    cases found.symm.trans session
    exact live

/-- A connection without open cursors has no statements. -/
theorem idle (matched : Matched w cs ks none) (tied : Tied cs ks)
    (session : sessionAt cs c = some id)
    (closed : ∀ k run, statementAt ks k ≠ some (c, run)) (run : Nat) : ¬w.Live id run := fun live =>
  by
    obtain ⟨k, d, statement, there⟩ := (matched.covered id run live).resolve_left (by simp)
    cases tied.apart c d id session there
    exact closed k run statement

/-- A session is opened for a connection. -/
theorem connect (matched : Matched w cs ks none) (connects : Connects id w v)
    (sessions : ∀ d, sessionAt ds d = if d = c then some id else sessionAt cs d)
    (unused : ∀ k run, statementAt ks k ≠ some (c, run)) : Matched v ds ks none := by
  have old {d other : Nat} (there : sessionAt cs d = some other) : other ≠ id := fun same => by
    obtain ⟨numbers, found⟩ := matched.served d other there
    have := World.lt_next_of_statements found
    rw [same, connects.fresh] at this
    exact Nat.lt_irrefl _ this
  have elsewhere {other : Nat} (away : other ≠ id) : v.statements other = w.statements other := by
    rw [World.statements, connects.elsewhere other away, World.statements]
  refine ⟨fun d other there => ?_, fun k d r there => ?_, fun other r there => .inr ?_, by simp⟩
  · rw [sessions] at there
    split at there
    · cases there
      exact ⟨_, connects.statements⟩
    · rw [elsewhere (old there)]
      exact matched.served d other there
  · obtain ⟨other, session, ⟨numbers, found, among⟩, _⟩ := matched.live k d r there
    have away : d ≠ c := fun same => unused k r (same ▸ there)
    exact ⟨other, by rw [sessions, if_neg away, session],
      ⟨numbers, by rw [elsewhere (old session), found], among⟩, by simp⟩
  · obtain ⟨numbers, found, among⟩ := there
    by_cases here : other = id
    · subst here
      rw [connects.statements] at found
      cases found
      simp at among
    · rw [elsewhere here] at found
      obtain ⟨k, d, statement, there⟩ :=
        (matched.covered other r ⟨numbers, found, among⟩).resolve_left (by simp)
      have away : d ≠ c := fun same => unused k r (same ▸ statement)
      exact ⟨k, d, statement, by rw [sessions, if_neg away, there]⟩

/-- A connection without open cursors loses its session. -/
theorem disconnect (matched : Matched w cs ks none) (tied : Tied cs ks)
    (session : sessionAt cs c = some id) (closed : ∀ k run, statementAt ks k ≠ some (c, run))
    (sessions : ∀ d, sessionAt ds d = if d = c then none else sessionAt cs d) :
    Matched (exec (Action.disconnect id) w).2 ds ks none := by
  have statements (other : Nat) : (exec (Action.disconnect id) w).2.statements other =
      if other = id then none else w.statements other := by
    rw [World.statements, session?_disconnect]
    split <;> rfl
  have old {d other : Nat} (there : sessionAt cs d = some other) (away : d ≠ c) : other ≠ id :=
    fun same => away (tied.apart d c id (same ▸ there) session)
  refine ⟨fun d other there => ?_, fun k d r there => ?_, fun other r there => .inr ?_, by simp⟩
  · rw [sessions] at there
    split at there
    · simp at there
    · next away =>
        rw [statements, if_neg (old there away)]
        exact matched.served d other there
  · obtain ⟨other, found, ⟨numbers, among⟩, _⟩ := matched.live k d r there
    have away : d ≠ c := fun same => closed k r (same ▸ there)
    exact ⟨other, by rw [sessions, if_neg away, found],
      ⟨numbers, by rw [statements, if_neg (old found away)]; exact among⟩, by simp⟩
  · obtain ⟨numbers, found, among⟩ := there
    rw [statements] at found
    split at found
    · simp at found
    · obtain ⟨k, d, statement, there⟩ :=
        (matched.covered other r ⟨numbers, found, among⟩).resolve_left (by simp)
      have away : d ≠ c := fun same => closed k r (same ▸ statement)
      exact ⟨k, d, statement, by rw [sessions, if_neg away, there]⟩

end Matched

end SqlDriver
