/-
# SqlDriver.Proofs.Call.Release -- handles are given up in any order

Whatever a program has called before, it may give up its handles in any order
(`released_in_any_order`).  Closing or giving up an environment, or giving up a connection that
a cursor still holds, cannot be told by the calls that are given other handles; a database is
open exactly while something holds its connection and nobody has closed it; and a handle is
given up once, after which nothing of its object is left.
-/
import SqlDriver.Proofs.Call.Likeness

namespace SqlDriver

set_option autoImplicit false

/-! ## Giving up what others still use -/

section Alike

variable (s : State)

/-- States that differ in an environment at most. -/
theorem alike_of_environments {s t : State} {e : Nat} (world : t.world = s.world)
    (next : t.environments.next = s.environments.next)
    (environments : ∀ d, d ≠ e → t.environments.get? d = s.environments.get? d)
    (connections : t.connections = s.connections) (cursors : t.cursors = s.cursors) :
    Alike (.environment e) s t := by
  refine ⟨world, next, fun d other => environments d fun here => other (here ▸ rfl), ?_,
    fun c => ?_, (by rintro c ⟨⟩), cursors⟩
  · rw [connections]
  · have held : (Lost.environment e).held c = id := by
      funext connection
      exact if_neg (by rintro ⟨⟩)
    rw [connections, held, Option.map_id]
    rfl

theorem closeEnvironment_alike (e : Nat) :
    ∃ closed, (exec (Environment.close e) s).1 = .ok closed ∧
      Alike (.environment e) s (exec (Environment.close e) s).2 := by
  have same : Alike (.environment e) s s := alike_of_environments rfl rfl (fun _ _ => rfl) rfl rfl
  unfold Environment.close
  rw [exec_bind, exec_get]
  dsimp only
  cases s.environments.get? e with
  | none => exact ⟨false, rfl, same⟩
  | some env =>
      dsimp only
      split
      · exact ⟨false, rfl, same⟩
      · refine ⟨true, rfl, alike_of_environments rfl rfl (fun d other => ?_) rfl rfl⟩
        change (s.environments.modify e _).get? d = _
        rw [Pool.get?_modify, if_neg other]

theorem releaseConnection_alike {c : Nat} {connection : Connection}
    (found : s.connections.get? c = some connection) (others : 1 < connection.holders) :
    Alike (.connection c) s (exec (Connection.release c) s).2 := by
  have ends := (releaseConnection_ends s c).2
  rw [found] at ends
  dsimp only at ends
  rw [if_pos others] at ends
  rw [ends]
  refine ⟨rfl, rfl, fun _ _ => rfl, rfl, fun d => ?_, ?_, rfl⟩
  · dsimp only
    rw [Pool.get?_modify]
    split
    · next here =>
        subst here
        simp only [found, Option.map_some, Lost.held, if_true, Option.some.injEq]
        have restored : connection.holders - 1 + 1 = connection.holders := by omega
        rw [restored]
    · next other =>
        have held : (Lost.connection c).held d = id := by
          funext connection
          exact if_neg fun here => other (Lost.connection.inj here).symm
        rw [held, Option.map_id]
        rfl
  · rintro d ⟨⟩
    exact Pool.lt_next_of_get? found

end Alike

theorem Registry.Alike.refl (gone : Nat → Prop) (r : Registry) : r.Alike gone r :=
  ⟨rfl, rfl, fun _ _ => rfl⟩

/-- A handle that was given up is gone. -/
theorem alike_remove (r : Registry) (x : Int64) {gone : Nat → Prop}
    (number : gone x.toInt.toNat) : r.Alike gone (r.remove x).2 := by
  unfold Registry.remove
  cases r.find? x with
  | none => exact .refl _ r
  | some e =>
      refine ⟨rfl, rfl, fun n other => ?_⟩
      dsimp only
      rw [Pool.get?_erase, if_neg]
      rintro rfl
      exact other number

/-- The call closes or gives up an environment. -/
def Invocation.LeavesEnvironment (r : Invocation) (x : Int64) : Prop :=
  r = .closeEnvironment x ∨ r = .releaseEnvironment x

section Hosts

variable {h : Host} {t : Trace} {x : Int64} {e : Entry}

theorem Invocation.LeavesEnvironment.alike {r : Invocation} (leaves : r.LeavesEnvironment x)
    (lives : Lives h t) (live : h.environments.find? x = some e) :
    h.Alike (.environment e.object) (StateT.run r.answer h).2 := by
  have number := lives.environments.object_of_find? live
  rcases leaves with rfl | rfl
  · obtain ⟨closed, answer, alike⟩ := closeEnvironment_alike h.state e.object
    have left : (StateT.run (Call.closeEnvironment x) h).2 =
        { h with state := (exec (Environment.close e.object) h.state).2 } := by
      unfold Call.closeEnvironment
      rw [withEntry_of_live live]
      unfold Call.orRaise
      rw [run_bind, run_perform, answer]
      rfl
    simp only [Invocation.answer, run_map, left]
    exact ⟨fun kind => by cases kind <;> exact .refl _ _, alike, rfl, rfl⟩
  · simp only [Invocation.answer, run_map, run_releaseEnvironment h x live]
    refine ⟨fun kind => ?_, alike_of_environments rfl rfl (fun _ _ => rfl) rfl rfl, rfl, rfl⟩
    cases kind with
    | environment =>
        exact alike_remove _ x (congrArg Lost.environment (by omega : e.object = x.toInt.toNat))
    | connection | cursor => exact .refl _ _

/-- A connection with a cursor has a holder beside its handle. -/
theorem Lives.others_of_cursor (lives : Lives h t) (live : h.connections.find? x = some e) {k : Nat}
    (of : (h.state.cursors.get? k).map Cursor.connection = some e.object) :
    ∃ connection, h.state.connections.get? e.object = some connection ∧ 1 < connection.holders := by
  have number := lives.connections.object_of_find? live
  obtain ⟨cursor, there, of⟩ := Option.map_eq_some_iff.mp of
  have exists_ := (lives.anchored.sole k cursor.connection cursor.holders (by rw [there]; rfl)).2
  rw [of] at exists_
  obtain ⟨connection, found⟩ := Option.isSome_iff_exists.mp exists_
  refine ⟨connection, found, ?_⟩
  have held := (lives.anchored.held e.object connection.session connection.holders
    (by rw [found]; rfl)).1
  have hand : h.hands e.object = 1 := by
    rw [Host.hands, show e.object = x.toInt.toNat by omega,
      ← Registry.find?_of_pos _ (Registry.pos_of_find? live), live]
    rfl
  have some_ : 0 < h.state.cursors.count (Cursor.isOf e.object) :=
    Pool.count_pos_iff.mpr ⟨k, cursor, there, by simp [Cursor.isOf, of]⟩
  omega

theorem releasedConnection_alike (lives : Lives h t) (live : h.connections.find? x = some e)
    {k : Nat} (of : (h.state.cursors.get? k).map Cursor.connection = some e.object) :
    h.Alike (.connection e.object) (StateT.run (Invocation.releaseConnection x).answer h).2 := by
  have number := lives.connections.object_of_find? live
  obtain ⟨connection, found, others⟩ := lives.others_of_cursor live of
  simp only [Invocation.answer, run_map, run_releaseConnection h x live]
  refine ⟨fun kind => ?_, releaseConnection_alike h.state found others, rfl, rfl⟩
  cases kind with
  | connection =>
      exact alike_remove _ x (congrArg Lost.connection (by omega : e.object = x.toInt.toNat))
  | environment | cursor => exact .refl _ _

/-- Closing or giving up an environment cannot be told by calls that are not given it. -/
theorem undisturbed_by_environment (lives : Lives h t) {r : Invocation}
    (leaves : r.LeavesEnvironment x) (live : h.environments.find? x = some e)
    (calls : List Invocation) (other : ∀ r ∈ calls, r.expects ≠ some (.environment, x)) :
    Undisturbed h (StateT.run r.answer h).2 calls := by
  have number := lives.environments.object_of_find? live
  have positive := Registry.pos_of_find? live
  refine calling_concurs (leaves.alike lives live) (lives.step r).lives calls
    (fun r' among kind y expects has => ?_) (by rintro c ⟨⟩)
  cases kind with
  | environment =>
      have same := Lost.environment.inj has
      have here : y = x := Int64.toInt_inj.mp (by omega)
      exact other r' among (here ▸ expects)
  | connection => cases has
  | cursor => exact has

/-- Giving up a connection cannot be told by calls that are not given it, as long as a cursor
that the connection had is there. -/
theorem undisturbed_by_connection (lives : Lives h t) (live : h.connections.find? x = some e)
    {k : Nat} (of : (h.state.cursors.get? k).map Cursor.connection = some e.object)
    (calls : List Invocation) (other : ∀ r ∈ calls, r.expects ≠ some (.connection, x))
    (left : ((((StateT.run (Invocation.releaseConnection x).answer h).2.calling
      calls).1.state.cursors.get? k)).isSome) :
    Undisturbed h (StateT.run (Invocation.releaseConnection x).answer h).2 calls := by
  have number := lives.connections.object_of_find? live
  have positive := Registry.pos_of_find? live
  have alike := releasedConnection_alike lives live of
  refine calling_concurs alike (lives.step (.releaseConnection x)).lives calls
    (fun r' among kind y expects has => ?_) fun c here => ?_
  · cases kind with
    | connection =>
        have same := Lost.connection.inj has
        have here : y = x := Int64.toInt_inj.mp (by omega)
        exact other r' among (here ▸ expects)
    | environment => cases has
    | cursor => exact has
  · cases here
    obtain ⟨cursor, there, -⟩ := Option.map_eq_some_iff.mp of
    rw [alike.state.cursors]
    exact ⟨k, Pool.lt_next_of_get? there, of, left⟩

end Hosts

/-! ## What is open, and what is left -/

/-- A handle that was answered as a positive number, and has not been given up. -/
def Trace.Stands (t : Trace) (kind : HandleKind) (x : Int64) : Prop :=
  0 < x.toInt ∧ (kind, x) ∈ t.issued ∧ (kind, x) ∉ t.givenUp

namespace Host

/-- The database of a connection is open. -/
def DatabaseOpen (h : Host) (c : Nat) : Prop :=
  ∃ id, sessionAt h.state.connections c = some id ∧ (h.state.world.session? id).isSome

/-- The handle of a connection is registered, or that of a cursor that was obtained from it. -/
def Holds (h : Host) (c : Nat) : Prop :=
  (h.connections.entries.get? c).isSome ∨
    ∃ k, (h.cursors.entries.get? k).isSome ∧
      (h.state.cursors.get? k).map Cursor.connection = some c

end Host

section Left

variable {h : Host} {t : Trace}

/-- A connection that is held and not closed has an open database, and no other has. -/
theorem Lives.open_iff (lives : Lives h t) (c : Nat) :
    h.DatabaseOpen c ↔ ¬ t.Shut c ∧ h.Holds c := by
  constructor
  · rintro ⟨id, session, -⟩
    obtain ⟨connection, found, serving⟩ := Option.bind_eq_some_iff.mp session
    obtain ⟨count, some_, closed⟩ := lives.anchored.held c connection.session connection.holders
      (by rw [found]; rfl)
    refine ⟨fun shut => ?_, ?_⟩
    · rw [closed.mpr shut] at serving
      cases serving
    · by_cases hand : (h.connections.entries.get? c).isSome
      · exact .inl hand
      · have none_ : h.hands c = 0 := by simp [Host.hands, hand]
        obtain ⟨k, cursor, there, of⟩ := Pool.count_pos_iff.mp
          (show 0 < h.state.cursors.count (Cursor.isOf c) by omega)
        refine .inr ⟨k, ?_, ?_⟩
        · rw [lives.cursor, there]
          rfl
        · rw [there]
          exact congrArg some (of_decide_eq_true of)
  · rintro ⟨unshut, holds⟩
    have exists_ : (h.state.connections.get? c).isSome := by
      rcases holds with hand | ⟨k, -, of⟩
      · exact lives.anchored.handled c (by simp [Host.hands, hand])
      · obtain ⟨cursor, there, rfl⟩ := Option.map_eq_some_iff.mp of
        exact (lives.anchored.sole k cursor.connection cursor.holders (by rw [there]; rfl)).2
    obtain ⟨connection, found⟩ := Option.isSome_iff_exists.mp exists_
    have closed := (lives.anchored.held c connection.session connection.holders
      (by rw [found]; rfl)).2.2
    cases serving : connection.session with
    | none => exact absurd (closed.mp serving) unshut
    | some id =>
        have session : sessionAt h.state.connections c = some id := by
          rw [sessionAt, found]
          exact serving
        exact ⟨id, session, (lives.anchored.owned id).mpr ⟨c, session⟩⟩

/-- A handle stands for an object from the call that answers it until it is given up. -/
theorem Handles.stands_iff (handles : Handles h t) (kind : HandleKind) (x : Int64) :
    ((kind.registry h).find? x).isSome ↔ t.Stands kind x := by
  have bound : x.toInt < 2 ^ 63 := x.toInt_lt
  have gave (positive : 0 < x.toInt) : t.Gave kind x.toInt.toNat ↔ (kind, x) ∈ t.givenUp := by
    constructor
    · rintro ⟨y, given, number⟩
      have same : y = x := Int64.toInt_inj.mp (by omega)
      exact same ▸ given
    · exact fun given => ⟨x, given, by omega⟩
  constructor
  · intro stands
    obtain ⟨e, found⟩ := Option.isSome_iff_exists.mp stands
    have positive := Registry.pos_of_find? found
    rw [Registry.find?_of_pos _ positive, handles.live, gave positive] at stands
    exact ⟨positive, (handles.numbered.issued_iff kind x).mpr (Registry.gave_of_live found),
      stands.2.2⟩
  · rintro ⟨positive, issued, kept⟩
    rw [Registry.find?_of_pos _ positive, handles.live, gave positive]
    obtain ⟨n, low, high, number, -⟩ := (handles.numbered.issued_iff kind x).mp issued
    refine ⟨by omega, ?_, kept⟩
    -- a number that is too large for a handle stands above the one that the handle is of
    have wrapped : x.toInt.toNat ≤ n := by
      rw [number, Int64.toInt_ofNat', show Int64.size = 18446744073709551616 from rfl, Int.bmod_def]
      split <;> omega
    omega

/-- A handle is given up with the answer one exactly where it was answered, and not given up. -/
theorem Lives.released_iff (lives : Lives h t) {r : Invocation} {kind : HandleKind} {x : Int64}
    (releases : r.isRelease) (expects : r.expects = some (kind, x)) :
    t.Stands kind x ∧ (StateT.run r.answer h).1 = .word 1 ∨
      ¬ t.Stands kind x ∧ (StateT.run r.answer h).1 = .word 0 := by
  have stands := lives.handles.stands_iff kind x
  cases found : (kind.registry h).find? x with
  | none =>
      refine .inr ⟨fun there => ?_, congrArg Prod.fst (release_of_missing releases expects found)⟩
      rw [← stands, found] at there
      cases there
  | some e => exact .inl ⟨stands.mp (by rw [found]; rfl), released_of_live expects found releases⟩

theorem Pool.items_eq_nil {α : Type} {p : Pool α} (none_ : ∀ n, p.get? n = none) :
    p.items = [] := by
  refine List.eq_nil_iff_forall_not_mem.mpr fun entry among => ?_
  have there := Pool.get?_eq_some_iff.mpr (show (entry.1, entry.2) ∈ p.items from among)
  rw [none_] at there
  cases there

/-- Where all handles were given up, no object is left, and no database. -/
theorem Lives.nothing_left (lives : Lives h t)
    (all : ∀ kind x, (kind, x) ∈ t.issued → (kind, x) ∈ t.givenUp) :
    h.liveHandles = (0, 0, 0) ∧ h.state.connections.items = [] ∧ h.state.cursors.items = [] ∧
      h.state.world.sessions.items = [] := by
  have empty (kind : HandleKind) (n : Nat) : (kind.registry h).entries.get? n = none := by
    refine Option.not_isSome_iff_eq_none.mp fun there => ?_
    obtain ⟨low, high, kept⟩ := (lives.handles.live kind n).mp there
    by_cases small : n < 2 ^ 63
    · have number := Int64.toInt_ofNat_of_lt small
      have nonzero : Int64.ofNat n ≠ 0 := fun zero => by
        rw [zero] at number
        have := Int64.toInt_zero
        omega
      exact kept ⟨_, all kind _ ((lives.handles.numbered.issued_iff kind _).mpr
        ⟨n, low, high, rfl, nonzero⟩), number⟩
    · -- a number that is too large for a handle comes after one whose handle is never given up
      have given := all kind _ ((lives.handles.numbered.issued_iff kind _).mpr
        ⟨2 ^ 63, by omega, by omega, rfl, by decide⟩)
      exact absurd (lives.handles.positive kind _ given) (by decide)
  have size (kind : HandleKind) : (kind.registry h).size = 0 :=
    congrArg List.length (Pool.items_eq_nil (empty kind))
  have cursors (k : Nat) : h.state.cursors.get? k = none := by
    rw [← Option.not_isSome_iff_eq_none, ← lives.cursor, show h.cursors.entries.get? k = none from
      empty .cursor k]
    simp
  have connections (c : Nat) : h.state.connections.get? c = none := by
    cases found : h.state.connections.get? c with
    | none => rfl
    | some connection =>
        obtain ⟨count, some_, -⟩ := lives.anchored.held c connection.session connection.holders
          (by rw [found]; rfl)
        have hand : h.hands c = 0 := by
          rw [Host.hands, show h.connections.entries.get? c = none from empty .connection c]
          rfl
        obtain ⟨k, cursor, there, -⟩ := Pool.count_pos_iff.mp
          (show 0 < h.state.cursors.count (Cursor.isOf c) by omega)
        rw [cursors] at there
        cases there
  refine ⟨?_, Pool.items_eq_nil connections, Pool.items_eq_nil cursors,
    Pool.items_eq_nil fun id => ?_⟩
  · exact Prod.ext (size .environment) (Prod.ext (size .connection) (size .cursor))
  · refine Option.not_isSome_iff_eq_none.mp fun there => ?_
    obtain ⟨c, owner⟩ := (lives.anchored.owned id).mp there
    rw [sessionAt, connections] at owner
    cases owner

theorem Lives.number (lives : Lives h t) (kind : HandleKind) {x : Int64} {e : Entry}
    (found : (kind.registry h).find? x = some e) : (e.object : Int) = x.toInt := by
  cases kind with
  | environment => exact lives.environments.object_of_find? found
  | connection => exact lives.connections.object_of_find? found
  | cursor => exact lives.cursors.object_of_find? found

theorem next_of_inserts {h g : Host} {k : HandleKind} (inserts : Inserts k h g)
    (kind : HandleKind) :
    (kind.registry g).entries.next ≤ (kind.registry h).entries.next + 1 := by
  rw [(inserts kind).2]
  split <;> omega

/-- A call makes one object of a kind at most. -/
theorem next_calling (h : Host) (calls : List Invocation) (kind : HandleKind) :
    (kind.registry (h.calling calls).1).entries.next ≤
      (kind.registry h).entries.next + calls.length := by
  induction calls generalizing h with
  | nil => exact Nat.le_refl _
  | cons r rest ih =>
      have first : (kind.registry (StateT.run r.answer h).2).entries.next ≤
          (kind.registry h).entries.next + 1 := by
        cases answer_effect h r with
        | none same _ => exact Nat.le_succ_of_le (Nat.le_of_eq (same kind).2)
        | environment issued => exact next_of_inserts issued.1 kind
        | connection _ issued => exact next_of_inserts issued.1 kind
        | cursor _ issued => exact next_of_inserts issued.1 kind
      rw [calling_cons, List.length_cons]
      exact Nat.le_trans (ih _) (by omega)

end Left

/-! ## Any order -/

/-- In every state that a program can reach, the objects have the numbers of their handles, and:
closing or giving up an environment cannot be told by later calls that are not given it, nor can
giving up a connection by later calls that are not given it, as long as a cursor that the
connection had is registered; a database is open exactly while its connection was not closed and
is held by a registered handle, its own or that of a cursor, and every open database is that of
one connection; a release answers one exactly for a handle that was answered and not given up,
so that no handle is given up twice, and once all were given up, nothing is left.  A handle is a
positive number for as many objects as such numbers last. -/
theorem released_in_any_order (disk : Disk) (calls : List Invocation) :
    let h := (Host.calling (.start disk) calls).1
    let t := (Host.calling (.start disk) calls).2
    (∀ (kind : HandleKind) x e, (kind.registry h).find? x = some e →
      (e.object : Int) = x.toInt) ∧
    (∀ (r : Invocation) x rest, r.LeavesEnvironment x → (h.environments.find? x).isSome →
      (∀ later ∈ rest, later.expects ≠ some (.environment, x)) →
      Undisturbed h (StateT.run r.answer h).2 rest) ∧
    (∀ x e y k rest, h.connections.find? x = some e → h.cursors.find? y = some k →
      (h.state.cursors.get? k.object).map Cursor.connection = some e.object →
      (∀ later ∈ rest, later.expects ≠ some (.connection, x)) →
      (((StateT.run (Invocation.releaseConnection x).answer h).2.calling rest).1.cursors.find?
        y).isSome →
      Undisturbed h (StateT.run (Invocation.releaseConnection x).answer h).2 rest) ∧
    (∀ c, h.DatabaseOpen c ↔ ¬ t.Shut c ∧ h.Holds c) ∧
    (∀ id, (h.state.world.session? id).isSome →
      ∃! c, sessionAt h.state.connections c = some id) ∧
    (∀ (r : Invocation) kind x, r.isRelease → r.expects = some (kind, x) →
      t.Stands kind x ∧ (StateT.run r.answer h).1 = .word 1 ∨
        ¬ t.Stands kind x ∧ (StateT.run r.answer h).1 = .word 0) ∧
    t.givenUp.Nodup ∧
    ((∀ kind x, (kind, x) ∈ t.issued → (kind, x) ∈ t.givenUp) →
      h.liveHandles = (0, 0, 0) ∧ h.state.connections.items = [] ∧ h.state.cursors.items = [] ∧
        h.state.world.sessions.items = []) ∧
    (calls.length ≤ Int64.maxValue.toInt → ∀ kind x, (kind, x) ∈ t.issued → 0 < x.toInt) := by
  intro h t
  have lives : Lives h t := .run disk calls
  refine ⟨fun kind x e found => lives.number kind found, ?_, ?_, lives.open_iff, ?_,
    fun r kind x releases expects => lives.released_iff releases expects, lives.handles.once,
    lives.nothing_left, ?_⟩
  · intro r x rest leaves there other
    obtain ⟨e, live⟩ := Option.isSome_iff_exists.mp there
    exact undisturbed_by_environment lives leaves live rest other
  · intro x e y k rest live found of other left
    refine undisturbed_by_connection lives live of rest other ?_
    have end_ := ((lives.step (.releaseConnection x)).lives.calling rest).1
    have number : k.object = y.toInt.toNat := by
      have := lives.number .cursor found
      omega
    rw [Registry.find?_of_pos _ (Registry.pos_of_find? found), ← number, end_.cursor] at left
    exact left
  · intro id there
    obtain ⟨c, owner⟩ := (lives.anchored.owned id).mp there
    exact ⟨c, owner, fun d other => lives.anchored.apart d c id other owner⟩
  · intro short kind x issued
    obtain ⟨n, low, high, rfl, -⟩ := (lives.handles.numbered.issued_iff kind x).mp issued
    have next := next_calling (.start disk) calls kind
    have one : (kind.registry (.start disk)).entries.next = 1 := by cases kind <;> rfl
    rw [one] at next
    have largest : Int64.maxValue.toInt = 9223372036854775807 := by decide
    have small : n < 2 ^ 63 := by
      have high : n < (kind.registry (Host.calling (.start disk) calls).1).entries.next := high
      omega
    rw [Int64.toInt_ofNat_of_lt small]
    omega

/-- Opening a driver, connecting to a database in memory, and asking for a row. -/
def asking : List Invocation :=
  let (driver, heap) := ({} : Heap).allocString "sqlite3"
  let (source, heap) := heap.allocString ":memory:"
  let (sql, heap) := heap.allocString "SELECT 1"
  [.work heap {}, .openDefault driver, .connect 1 source (-1), .execute 1 sql]

theorem released_while_asking :
    let h := (Host.calling (.start {}) asking).1
    Undisturbed h (StateT.run (Invocation.releaseEnvironment 1).answer h).2
        [.execute 1 3, .fetch 1] ∧
      Undisturbed h (StateT.run (Invocation.releaseConnection 1).answer h).2
        [.columnNames 1, .fetch 1, .closeCursor 1] := by
  obtain ⟨-, environment, connection, -⟩ := released_in_any_order {} asking
  refine ⟨environment _ 1 _ (.inr rfl) (by decide +kernel) (by decide), ?_⟩
  exact connection 1 ⟨1, Call.defaultPrefix⟩ 1 ⟨1, Call.defaultPrefix⟩ _ (by decide +kernel)
    (by decide +kernel) (by decide +kernel) (by decide) (by decide +kernel)

end SqlDriver
