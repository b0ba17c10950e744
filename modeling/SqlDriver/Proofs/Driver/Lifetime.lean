/-
# SqlDriver.Proofs.Driver.Lifetime -- what objects live on

A connection lives on its holders: its own handle and its cursors.  Most operations leave
alone what decides over that (`Steady`): which sessions there are, who holds them, and how
many holders there are.  The operations that do not are connecting, executing where it opens
a cursor, closing a connection, and letting go of a connection or a cursor; for each of these
there is one lemma that says all that it does (`connect_opens`, `execute_opens`,
`closeConnection_closes`, `releaseConnection_ends`, `releaseCursor_ends`).
-/
import Mathlib.Logic.Function.Basic
import SqlDriver.Proofs.Driver.Command
import SqlDriver.Proofs.Engine.Move

namespace SqlDriver

set_option autoImplicit false

/-! ## Sessions that are there -/

namespace Engine

/-- Two worlds have the same sessions open. -/
def SameSessions (w v : World) : Prop :=
  ∀ id, (v.session? id).isSome = (w.session? id).isSome

instance : Std.Refl SameSessions where
  refl _ _ := rfl

instance : IsTrans World SameSessions where
  trans _ _ _ first second id := (second id).trans (first id)

theorem Inside.sameSessions {id : Nat} {w v : World} (inside : Inside id w v) :
    SameSessions w v := by
  intro other
  by_cases here : other = id
  · subst here
    have same := congrArg Option.isSome inside.statements
    simpa [World.statements] using same
  · rw [inside.elsewhere other here]

theorem change_sameSessions (w : World) (id : Nat) (f : Session → Session) :
    SameSessions w (w.change id f) := by
  intro other
  rw [World.session?_change]
  split <;> simp

theorem prepare_sameSessions (id : Nat) (sql : List Char) (w : World) :
    Leads SameSessions (Action.prepare id sql) w := by
  have cases_ := prepare_cases id sql w
  unfold Leads
  rcases answer : exec (Action.prepare id sql) w with ⟨fault | _ | run, v⟩ <;>
    rw [answer] at cases_
  · exact (congrArg (SameSessions w) cases_).mpr (Std.Refl.refl w)
  · exact (congrArg (SameSessions w) cases_).mpr (Std.Refl.refl w)
  · obtain ⟨-, _, _, _, _, -, -, rfl⟩ := cases_
    exact change_sameSessions w id _

theorem finalize_sameSessions (id run : Nat) (w : World) :
    Leads SameSessions (Action.finalize id run) w := by
  unfold Leads
  rw [exec_finalize]
  have reset : SameSessions w (exec (Action.reset id run) w).2 :=
    (reset_inside id w run).sameSessions
  exact IsTrans.trans w _ _ reset (change_sameSessions _ id _)

end Engine

/-! ## Operations that end and begin no life -/

/-- What of a connection decides how long it lives. -/
def Connection.tie (c : Connection) : Option Nat × Nat :=
  (c.session, c.holders)

/-- What of a cursor decides how long it and its connection live. -/
def Cursor.tie (k : Cursor) : Nat × Nat :=
  (k.connection, k.holders)

/-- No object comes or goes, and none is held by others than before. -/
structure Steady (s t : State) : Prop where
  environments : t.environments.next = s.environments.next
  nextConnection : t.connections.next = s.connections.next
  connections : ∀ c, (t.connections.get? c).map Connection.tie =
    (s.connections.get? c).map Connection.tie
  nextCursor : t.cursors.next = s.cursors.next
  cursors : ∀ k, (t.cursors.get? k).map Cursor.tie = (s.cursors.get? k).map Cursor.tie
  counted : ∀ c, t.cursors.count (Cursor.isOf c) = s.cursors.count (Cursor.isOf c)
  sessions : Engine.SameSessions s.world t.world

instance : Std.Refl Steady where
  refl s := ⟨rfl, rfl, fun _ => rfl, rfl, fun _ => rfl, fun _ => rfl, Std.Refl.refl s.world⟩

instance : IsTrans State Steady where
  trans _ _ _ first second :=
    ⟨second.environments.trans first.environments,
      second.nextConnection.trans first.nextConnection,
      fun c => (second.connections c).trans (first.connections c),
      second.nextCursor.trans first.nextCursor,
      fun k => (second.cursors k).trans (first.cursors k),
      fun c => (second.counted c).trans (first.counted c),
      IsTrans.trans _ _ _ first.sessions second.sessions⟩

section Operations

open Engine

variable {α : Type} (s : State) (c k : Nat)

theorem world_steady {w : World} (events : List Event) (same : SameSessions s.world w) :
    Steady s { s with world := w, events } :=
  ⟨rfl, rfl, fun _ => rfl, rfl, fun _ => rfl, fun _ => rfl, same⟩

theorem engine_steady {a : Action α} (same : Leads SameSessions a s.world) :
    Leads Steady (Op.engine a) s :=
  world_steady s s.events same

theorem tell_steady (e : Event) : Leads Steady (Op.tell e) s :=
  world_steady s (e :: s.events) (Std.Refl.refl s.world)

/-- A change of a connection that keeps what ties it to others is steady. -/
theorem updateConnection_steady {f : Connection → Connection}
    (tie : ∀ connection, (f connection).tie = connection.tie) :
    Leads Steady (Op.updateConnection c f) s := by
  refine ⟨rfl, rfl, fun d => ?_, rfl, fun _ => rfl, fun _ => rfl, Std.Refl.refl s.world⟩
  change ((s.connections.modify c f).get? d).map Connection.tie = _
  rw [Pool.get?_modify]
  split
  · cases s.connections.get? d <;> simp [tie]
  · rfl

theorem updateCursor_steady {f : Cursor → Cursor} (tie : ∀ cursor, (f cursor).tie = cursor.tie) :
    Leads Steady (Op.updateCursor k f) s := by
  refine ⟨rfl, rfl, fun _ => rfl, rfl, fun j => ?_, fun d => ?_, Std.Refl.refl s.world⟩
  · change ((s.cursors.modify k f).get? j).map Cursor.tie = _
    rw [Pool.get?_modify]
    split
    · cases s.cursors.get? j <;> simp [tie]
    · rfl
  · refine Pool.count_modify_of_eq fun cursor _ => ?_
    have same : (f cursor).connection = cursor.connection := congrArg Prod.fst (tie cursor)
    simp [Cursor.isOf, same]

theorem step_steady (id run : Nat) : Leads Steady (Op.engine (Action.step id run)) s :=
  engine_steady s (step_inside id s.world run).sameSessions

theorem finalize_steady (id run : Nat) : Leads Steady (Op.engine (Action.finalize id run)) s :=
  engine_steady s (finalize_sameSessions id run s.world)

theorem control_steady (cs : List Control) : Leads Steady (Connection.control c cs) s :=
  .bind (sessionOf_leads s c) fun id s _ =>
    engine_steady s (controls_inside id s.world cs).sameSessions

theorem endTransaction_steady (how : Control) :
    Leads Steady (Connection.endTransaction c how) s := by
  refine .get_bind (.bind (control_steady s c _) fun answer s _ => ?_)
  cases answer with
  | ok _ => exact .pure _
  | error fault => exact .throw _

theorem setAutocommit_steady (enabled : Bool) :
    Leads Steady (Connection.setAutocommit c enabled) s := by
  refine .bind (sessionOf_leads s c) fun _ s _ =>
    .bind (updateConnection_steady s c fun _ => rfl) fun _ s _ => ?_
  split
  · refine .bind (control_steady s c _) fun answer s _ => ?_
    cases answer with
    | ok _ => exact .pure _
    | error fault => exact tell_steady s _
  · refine .bind (control_steady s c _) fun answer s _ => ?_
    cases answer with
    | ok _ => exact .pure _
    | error fault => exact .throw _

theorem drop_steady (cursor : Cursor) (run : Nat) : Leads Steady (Cursor.drop k cursor run) s := by
  have rest (s : State) : Leads Steady
      (do
        Op.updateCursor k fun k => { k with run := none }
        Connection.cursorClosed cursor.connection) s :=
    .bind (updateCursor_steady s k fun _ => rfl) fun _ s _ =>
      updateConnection_steady s cursor.connection fun _ => rfl
  refine .get_bind ?_
  cases (s.connections.get? cursor.connection).bind Connection.session with
  | none => exact rest s
  | some id => exact .bind (finalize_steady s id run) fun _ s _ => rest s

theorem next_steady : Leads Steady (Cursor.next k) s := by
  refine .get_bind ?_
  split
  · exact .throw _
  · next cursor _ =>
      split
      · exact .throw _
      · next run _ =>
          refine .bind (sessionOf_leads s _) fun id s _ =>
            .bind (step_steady s id run) fun row s _ => ?_
          rcases row with fault | _ | row
          · exact .bind (drop_steady s k cursor run) fun _ s _ =>
              .bind (tell_steady s _) fun _ _ _ => .throw _
          · exact .bind (drop_steady s k cursor run) fun _ s _ =>
              .bind (tell_steady s _) fun _ _ _ => .pure _
          · exact .bind (tell_steady s _) fun _ _ _ => .pure _

theorem fetchInto_steady (target : Target) (mode : FetchMode) :
    Leads Steady (Cursor.fetchInto k target mode) s := by
  refine .get_bind (.bind (next_steady s k) fun row _ _ => ?_)
  cases row <;> exact .pure _

theorem closeCursor_steady : Leads Steady (Cursor.close k) s := by
  refine .get_bind ?_
  split
  · exact .pure _
  · next cursor _ =>
      split
      · exact .pure _
      · exact .bind (drop_steady s k cursor _) fun _ s _ =>
          .bind (tell_steady s _) fun _ _ _ => .pure _

theorem closeEnvironment_steady (e : Nat) : Leads Steady (Environment.close e) s := by
  refine .get_bind ?_
  split
  · exact .pure _
  · split
    · exact .pure _
    · exact ⟨rfl, rfl, fun _ => rfl, rfl, fun _ => rfl, fun _ => rfl, Std.Refl.refl s.world⟩

/-! ## Operations that begin and end lives -/

/-- Connecting makes a connection on a session of its own, held by its handle alone, or leaves
everything be. -/
theorem connect_opens (e : Nat) (source : String) (timeout : Option Nat) :
    match exec (Environment.connect e source timeout) s with
    | (.ok (.connection c), t) => c = s.connections.next ∧
        t.environments.next = s.environments.next ∧ t.cursors = s.cursors ∧ ∃ id,
          s.world.session? id = none ∧
          (∀ j, (t.world.session? j).isSome ↔ j = id ∨ (s.world.session? j).isSome) ∧
          t.connections = (s.connections.insert { session := some id, environment := e }).2
    | (_, t) => Steady s t := by
  have connected := Environment.connects s e source timeout
  have fresh_opened {id : Nat} {v : World} (spec : Connects id s.world v) :
      s.world.session? id = none ∧
        ∀ j, (v.session? j).isSome ↔ j = id ∨ (s.world.session? j).isSome := by
    refine ⟨?_, fun j => ?_⟩
    · rw [spec.fresh]
      exact s.world.sessions.get?_next
    · by_cases here : j = id
      · subst here
        have there := congrArg Option.isSome spec.statements
        simpa [World.statements] using there
      · simp [spec.elsewhere j here, here]
  generalize exec (Environment.connect e source timeout) s = outcome at connected ⊢
  cases connected with
  | closed => exact Std.Refl.refl s
  | @refused env _ v _ _ answer =>
      have spec := connect_spec (Environment.openMode env.config) source s.world
      rw [answer] at spec
      have same : SameSessions s.world v := fun j => by rw [World.session?, World.session?, spec]
      exact ⟨rfl, rfl, fun _ => rfl, rfl, fun _ => rfl, fun _ => rfl, same⟩
  | @crashed env id v _ _ answer _ =>
      -- the session that was opened is closed again
      have spec := connect_spec (Environment.openMode env.config) source s.world
      rw [answer] at spec
      obtain ⟨fresh, opened⟩ := fresh_opened spec
      refine ⟨rfl, rfl, fun _ => rfl, rfl, fun _ => rfl, fun _ => rfl, fun j => ?_⟩
      change ((exec (Action.disconnect id) v).2.session? j).isSome = _
      rw [session?_disconnect]
      split
      · next here => rw [here, fresh]
      · next other => exact Bool.eq_iff_iff.mpr ((opened j).trans (or_iff_right other))
  | @opened env id v _ _ answer _ =>
      have spec := connect_spec (Environment.openMode env.config) source s.world
      rw [answer] at spec
      obtain ⟨fresh, opened⟩ := fresh_opened (spec.setTimeout _)
      exact ⟨rfl, rfl, rfl, id, fresh, opened, rfl⟩

/-- Executing opens a cursor, held by its handle alone, which holds the connection, or leaves
everything be. -/
theorem execute_opens (sql : String) :
    match exec (Connection.execute c sql) s with
    | (.ok (.cursor k), t) => k = s.cursors.next ∧ (s.connections.get? c).isSome ∧
        ∃ (u : State) (cursor : Cursor), Steady s u ∧ u.cursors = s.cursors ∧
          cursor.connection = c ∧ cursor.holders = 1 ∧
          t = { u with
            connections := u.connections.modify c fun connection => { connection with
              openCursors := connection.openCursors + 1, holders := connection.holders + 1 }
            cursors := (u.cursors.insert cursor).2 }
    | (_, t) => Steady s t := by
  cases session : sessionAt s.connections c with
  | none =>
      rw [exec_execute_of_closed session sql]
      exact Std.Refl.refl s
  | some id =>
      have there : (s.connections.get? c).isSome := by
        obtain ⟨connection, found, -⟩ := Option.bind_eq_some_iff.mp session
        rw [found]
        rfl
      have executed := executed_of_session sql session
      have prepares {x : Except Fault (Option Nat)} {w : World}
          (prepared : exec (Action.prepare id sql.toList) s.world = (x, w)) :
          SameSessions s.world w := by
        have same := prepare_sameSessions id sql.toList s.world
        rwa [Leads, prepared] at same
      have steps {run : Nat} {x : Except Fault (Option Tuple)} {w v : World}
          (stepped : exec (Action.step id run) w = (x, v)) : SameSessions w v := by
        have same := (step_inside id w run).sameSessions
        rwa [stepped] at same
      generalize exec (Connection.execute c sql) s = outcome at executed ⊢
      cases executed with
      | unprepared prepared => exact world_steady s s.events (prepares prepared)
      | blank prepared => exact world_steady s s.events (prepares prepared)
      | @failed run _ v _ prepared stepped =>
          exact world_steady s s.events (IsTrans.trans _ _ _ (prepares prepared)
            (IsTrans.trans _ _ _ (steps stepped) (finalize_sameSessions id run v)))
      | @counted run _ v _ prepared stepped bare changes =>
          exact world_steady s _ (IsTrans.trans _ _ _ (prepares prepared)
            (IsTrans.trans _ _ _ (steps stepped) (finalize_sameSessions id run v)))
      | @opened run _ v _ prepared stepped columns =>
          have resets : SameSessions v (exec (Action.reset id run) v).2 :=
            (reset_inside id v run).sameSessions
          exact ⟨rfl, there, _, _, world_steady s _ (IsTrans.trans _ _ _ (prepares prepared)
            (IsTrans.trans _ _ _ (steps stepped) resets)), rfl, rfl, rfl, rfl⟩

/-- Closing a connection closes its session, or leaves everything be. -/
theorem closeConnection_closes :
    match exec (Connection.close c) s with
    | (.ok true, t) => ∃ id, sessionAt s.connections c = some id ∧
        t.environments = s.environments ∧ t.cursors = s.cursors ∧
        t.connections = (s.connections.modify c fun connection =>
          { connection with session := none, keepsEnvironment := false }) ∧
        ∀ j, t.world.session? j = if j = id then none else s.world.session? j
    | (_, t) => t = s := by
  unfold Connection.close
  rw [exec_bind, exec_get]
  dsimp only
  cases found : s.connections.get? c with
  | none => rfl
  | some connection =>
      dsimp only
      cases serving : connection.session with
      | none => rfl
      | some id =>
          dsimp only
          by_cases busy : 0 < connection.openCursors
          · rw [if_pos busy]
            rfl
          · rw [if_neg busy]
            refine ⟨id, ?_, rfl, rfl, rfl, fun j => session?_disconnect id j s.world⟩
            simp [sessionAt, found, serving]

/-- Letting go of a connection leaves it to its other holders; if there are none, it goes, and
its session is closed. -/
theorem releaseConnection_ends :
    (exec (Connection.release c) s).1 = .ok () ∧
    match s.connections.get? c, (exec (Connection.release c) s).2 with
    | none, t => t = s
    | some connection, t =>
        if 1 < connection.holders then
          t = { s with connections := s.connections.modify c fun connection =>
            { connection with holders := connection.holders - 1 } }
        else
          t.environments = s.environments ∧ t.cursors = s.cursors ∧
          t.connections = s.connections.erase c ∧
          ∀ j, t.world.session? j =
            if connection.session = some j then none else s.world.session? j := by
  unfold Connection.release
  rw [exec_bind, exec_get]
  dsimp only
  cases found : s.connections.get? c with
  | none => exact ⟨rfl, rfl⟩
  | some connection =>
      dsimp only
      split
      · exact ⟨rfl, rfl⟩
      · cases serving : connection.session with
        | none => exact ⟨rfl, rfl, rfl, rfl, fun j => rfl⟩
        | some id =>
            refine ⟨rfl, rfl, rfl, rfl, fun j => ?_⟩
            refine (session?_disconnect id j s.world).trans ?_
            simp [eq_comm]

theorem drop_succeeds (cursor : Cursor) (run : Nat) :
    (exec (Cursor.drop k cursor run) s).1 = .ok () := by
  unfold Cursor.drop
  rw [exec_bind, exec_get]
  dsimp only
  cases (s.connections.get? cursor.connection).bind Connection.session <;> rfl

/-- Letting go of a cursor as its last holder: the statement goes, then the cursor, and then the
connection is let go. -/
theorem releaseCursor_ends {cursor : Cursor} (found : s.cursors.get? k = some cursor)
    (sole : cursor.holders = 1) :
    ∃ u, Steady s u ∧ exec (Cursor.release k) s =
      exec (Connection.release cursor.connection) { u with cursors := u.cursors.erase k } := by
  unfold Cursor.release
  rw [exec_bind, exec_get]
  dsimp only
  rw [found]
  dsimp only
  rw [if_neg (by omega)]
  cases cursor.run with
  | none => exact ⟨s, Std.Refl.refl s, rfl⟩
  | some run =>
      have drops := drop_steady s k cursor run
      have succeeds := drop_succeeds s k cursor run
      dsimp only
      rw [exec_bind]
      rcases dropped : exec (Cursor.drop k cursor run) s with ⟨_ | _, u⟩ <;>
        rw [dropped] at succeeds
      · cases succeeds
      · rw [Leads, dropped] at drops
        exact ⟨u, drops, rfl⟩

end Operations

/-! ## What holds the objects that are there -/

/-- Beside its cursors a connection has as many holders as `hands` says, and it is there for
one holder at least.  A cursor has one holder.  The sessions are those of the connections, of
which those have none that were `shut`. -/
structure Anchored (hands : Nat → Nat) (shut : Nat → Prop) (s : State) : Prop where
  handled : ∀ c, 0 < hands c → (s.connections.get? c).isSome
  held : ∀ c session n, (s.connections.get? c).map Connection.tie = some (session, n) →
    n = hands c + s.cursors.count (Cursor.isOf c) ∧ 0 < n ∧ (session = none ↔ shut c)
  sole : ∀ k c n, (s.cursors.get? k).map Cursor.tie = some (c, n) →
    n = 1 ∧ (s.connections.get? c).isSome
  apart : ∀ c d id, sessionAt s.connections c = some id → sessionAt s.connections d = some id →
    c = d
  owned : ∀ id, (s.world.session? id).isSome ↔ ∃ c, sessionAt s.connections c = some id
  known : ∀ c, shut c → c < s.connections.next

theorem sessionAt_eq (cs : Pool Connection) (c : Nat) :
    sessionAt cs c = ((cs.get? c).map Connection.tie).bind Prod.fst := by
  rw [sessionAt]
  cases cs.get? c <;> rfl

namespace Anchored

variable {hands : Nat → Nat} {shut : Nat → Prop} {s t : State} {c k : Nat}

theorem start (disk : Disk) : Anchored (fun _ => 0) (fun _ => False) { world := { disk } } := by
  constructor <;> simp [sessionAt, Engine.World.session?]

theorem steady (anchored : Anchored hands shut s) (same : Steady s t) : Anchored hands shut t := by
  have there (d : Nat) : (t.connections.get? d).isSome = (s.connections.get? d).isSome := by
    simpa using congrArg Option.isSome (same.connections d)
  have sessions (d : Nat) : sessionAt t.connections d = sessionAt s.connections d := by
    rw [sessionAt_eq, same.connections, ← sessionAt_eq]
  refine ⟨fun d hand => ?_, fun d session n tie => ?_, fun j d n tie => ?_, fun d e id => ?_,
    fun id => ?_, fun d closed => ?_⟩
  · rw [there]
    exact anchored.handled d hand
  · rw [same.connections] at tie
    rw [same.counted]
    exact anchored.held d session n tie
  · rw [same.cursors] at tie
    rw [there]
    exact anchored.sole j d n tie
  · rw [sessions, sessions]
    exact anchored.apart d e id
  · rw [same.sessions, anchored.owned]
    simp only [sessions]
  · rw [same.nextConnection]
    exact anchored.known d closed

/-- A connection without cursors has none that could be found. -/
theorem not_isOf (none_ : s.cursors.count (Cursor.isOf c) = 0) {cursor : Cursor}
    (found : s.cursors.get? k = some cursor) : cursor.connection ≠ c := by
  intro here
  have some_ : 0 < s.cursors.count (Cursor.isOf c) :=
    Pool.count_pos_iff.mpr ⟨k, cursor, found, by simp [Cursor.isOf, here]⟩
  omega

/-- A connection that was just made is held by its handle alone. -/
theorem connect {id : Nat} {connection : Connection} (anchored : Anchored hands shut s)
    (connections : t.connections = (s.connections.insert connection).2)
    (cursors : t.cursors = s.cursors) (session : connection.session = some id)
    (sole : connection.holders = 1) (fresh : s.world.session? id = none)
    (opened : ∀ j, (t.world.session? j).isSome ↔ j = id ∨ (s.world.session? j).isSome) :
    Anchored (Function.update hands s.connections.next 1) shut t := by
  have found (d : Nat) : t.connections.get? d =
      if d = s.connections.next then some connection else s.connections.get? d := by
    rw [connections, Pool.get?_insert]
  have absent := s.connections.get?_next
  have sessions (d : Nat) : sessionAt t.connections d =
      if d = s.connections.next then some id else sessionAt s.connections d := by
    rw [sessionAt, found]
    split
    · exact session
    · rfl
  have alone : s.cursors.count (Cursor.isOf s.connections.next) = 0 := by
    refine Nat.eq_zero_of_not_pos fun some_ => ?_
    obtain ⟨j, cursor, there, isOf⟩ := Pool.count_pos_iff.mp some_
    have of : cursor.connection = s.connections.next := of_decide_eq_true isOf
    have exists_ := (anchored.sole j cursor.connection cursor.holders (by rw [there]; rfl)).2
    rw [of, absent] at exists_
    cases exists_
  have unowned (d : Nat) : sessionAt s.connections d ≠ some id := by
    intro there
    have exists_ := (anchored.owned id).mpr ⟨d, there⟩
    rw [fresh] at exists_
    cases exists_
  refine ⟨fun d hand => ?_, fun d session' n tie => ?_, fun j d n tie => ?_, fun d e j => ?_,
    fun j => ?_, fun d closed => ?_⟩
  · rw [found]
    split
    · rfl
    · next other =>
        rw [Function.update_of_ne other] at hand
        exact anchored.handled d hand
  · rw [found] at tie
    rw [cursors]
    split at tie
    · next here =>
        subst here
        obtain ⟨rfl, rfl⟩ : connection.session = session' ∧ connection.holders = n := by
          simpa [Connection.tie] using tie
        refine ⟨?_, by omega, ?_⟩
        · rw [Function.update_self, alone]
          exact sole
        · refine iff_of_false (by simp [session]) fun closed => ?_
          exact absurd (anchored.known _ closed) (Nat.lt_irrefl _)
    · next other =>
        rw [Function.update_of_ne other]
        exact anchored.held d session' n tie
  · rw [cursors] at tie
    obtain ⟨one, exists_⟩ := anchored.sole j d n tie
    refine ⟨one, ?_⟩
    rw [found]
    split
    · rfl
    · exact exists_
  · rw [sessions, sessions]
    split <;> split
    · intros
      omega
    · rintro ⟨⟩ there
      exact absurd there (unowned e)
    · rintro there ⟨⟩
      exact absurd there (unowned d)
    · exact anchored.apart d e j
  · rw [opened, anchored.owned]
    constructor
    · rintro (rfl | ⟨d, there⟩)
      · exact ⟨s.connections.next, by rw [sessions, if_pos rfl]⟩
      · refine ⟨d, ?_⟩
        rw [sessions, if_neg ?_, there]
        rintro rfl
        rw [sessionAt, absent] at there
        cases there
    · rintro ⟨d, there⟩
      rw [sessions] at there
      split at there
      · exact .inl (Option.some.inj there).symm
      · exact .inr ⟨d, there⟩
  · rw [connections, Pool.next_insert]
    exact Nat.lt_succ_of_lt (anchored.known d closed)

/-- A cursor that was just opened is held by its handle, and holds its connection. -/
theorem openCursor {cursor : Cursor} (anchored : Anchored hands shut s)
    (there : (s.connections.get? c).isSome) (of : cursor.connection = c)
    (sole : cursor.holders = 1) :
    Anchored hands shut { s with
      connections := s.connections.modify c fun connection => { connection with
        openCursors := connection.openCursors + 1, holders := connection.holders + 1 }
      cursors := (s.cursors.insert cursor).2 } := by
  have sessions (d : Nat) := sessionAt_modify s.connections c d
    (fun connection => { connection with
      openCursors := connection.openCursors + 1, holders := connection.holders + 1 }) fun _ => rfl
  refine ⟨fun d hand => ?_, fun d session n tie => ?_, fun j d n tie => ?_, fun d e id => ?_,
    fun id => ?_, anchored.known⟩
  · rw [Pool.isSome_get?_modify]
    exact anchored.handled d hand
  · dsimp only at tie ⊢
    rw [Pool.get?_modify] at tie
    rw [Pool.count_insert]
    split at tie
    · next here =>
        subst here
        obtain ⟨connection, found⟩ := Option.isSome_iff_exists.mp there
        obtain ⟨count, -, closed⟩ := anchored.held d connection.session connection.holders
          (by rw [found]; rfl)
        obtain ⟨rfl, rfl⟩ : connection.session = session ∧ connection.holders + 1 = n := by
          simpa [found, Connection.tie] using tie
        refine ⟨?_, by omega, closed⟩
        simp only [Cursor.isOf, of, decide_true, if_true]
        omega
    · next other =>
        have away : Cursor.isOf d cursor = false := by simp [Cursor.isOf, of, Ne.symm other]
        rw [away]
        exact anchored.held d session n tie
  · dsimp only at tie ⊢
    rw [Pool.get?_insert] at tie
    rw [Pool.isSome_get?_modify]
    split at tie
    · obtain ⟨rfl, rfl⟩ : cursor.connection = d ∧ cursor.holders = n := by
        simpa [Cursor.tie] using tie
      exact ⟨sole, of ▸ there⟩
    · exact anchored.sole j d n tie
  · dsimp only
    rw [sessions, sessions]
    exact anchored.apart d e id
  · dsimp only
    simp only [sessions]
    exact anchored.owned id

section Ended

variable (anchored : Anchored hands shut s)
  (sessions : ∀ d, sessionAt t.connections d =
    if d = c then none else sessionAt s.connections d)

include anchored sessions

/-- A session that has ended takes none from the other connections. -/
theorem apart_of_ended (d e id : Nat) :
    sessionAt t.connections d = some id → sessionAt t.connections e = some id → d = e := by
  rw [sessions, sessions]
  split
  · simp
  · split
    · simp
    · exact anchored.apart d e id

/-- The sessions that are left are those of the other connections. -/
theorem owned_of_ended (ended : ∀ j, t.world.session? j =
      if sessionAt s.connections c = some j then none else s.world.session? j) (j : Nat) :
    (t.world.session? j).isSome ↔ ∃ d, sessionAt t.connections d = some j := by
  rw [ended]
  constructor
  · intro there
    split at there
    · cases there
    · next other =>
        obtain ⟨d, owner⟩ := (anchored.owned j).mp there
        refine ⟨d, ?_⟩
        rw [sessions, if_neg ?_, owner]
        rintro rfl
        exact other owner
  · rintro ⟨d, owner⟩
    rw [sessions] at owner
    split at owner
    · cases owner
    · next other =>
        rw [if_neg fun own => other (anchored.apart d c j owner own)]
        exact (anchored.owned j).mpr ⟨d, owner⟩

end Ended

/-- A connection that was closed is still there, without a session. -/
theorem close {id : Nat} (anchored : Anchored hands shut s)
    (session : sessionAt s.connections c = some id) (cursors : t.cursors = s.cursors)
    (connections : t.connections = s.connections.modify c fun connection =>
      { connection with session := none, keepsEnvironment := false })
    (closed : ∀ j, t.world.session? j = if j = id then none else s.world.session? j) :
    Anchored hands (fun d => d = c ∨ shut d) t := by
  obtain ⟨connection, found, -⟩ := Option.bind_eq_some_iff.mp session
  have sessions (d : Nat) : sessionAt t.connections d =
      if d = c then none else sessionAt s.connections d := by
    rw [connections, sessionAt, Pool.get?_modify]
    split
    · cases s.connections.get? d <;> rfl
    · rfl
  have ended (j : Nat) : t.world.session? j =
      if sessionAt s.connections c = some j then none else s.world.session? j := by
    simp only [closed, session, Option.some_inj, eq_comm (a := j)]
  refine ⟨fun d hand => ?_, fun d session' n tie => ?_, fun j d n tie => ?_,
    anchored.apart_of_ended sessions, anchored.owned_of_ended sessions ended, fun d shuts => ?_⟩
  · rw [connections, Pool.isSome_get?_modify]
    exact anchored.handled d hand
  · rw [connections, Pool.get?_modify] at tie
    rw [cursors]
    split at tie
    · next here =>
        subst here
        obtain ⟨count, some_, -⟩ := anchored.held d connection.session connection.holders
          (by rw [found]; rfl)
        obtain ⟨rfl, rfl⟩ : none = session' ∧ connection.holders = n := by
          simpa [found, Connection.tie] using tie
        exact ⟨count, some_, by simp⟩
    · next other =>
        obtain ⟨count, some_, shuts⟩ := anchored.held d session' n tie
        exact ⟨count, some_, shuts.trans (or_iff_right other).symm⟩
  · rw [cursors] at tie
    rw [connections, Pool.isSome_get?_modify]
    exact anchored.sole j d n tie
  · rw [connections, Pool.next_modify]
    obtain rfl | before := shuts
    · exact Pool.lt_next_of_get? found
    · exact anchored.known d before

section Released

variable {m : Nat} {connection : Connection} (anchored : Anchored hands shut s)
  (hand : hands c = m + 1) (found : s.connections.get? c = some connection)

include anchored hand found

/-- Beside its cursors, a connection that others hold has one holder less. -/
theorem release_of_others (others : 1 < connection.holders) :
    Anchored (Function.update hands c m) shut { s with
      connections := s.connections.modify c fun connection =>
        { connection with holders := connection.holders - 1 } } := by
  obtain ⟨count, -, closed⟩ := anchored.held c connection.session connection.holders
    (by rw [found]; rfl)
  have sessions (d : Nat) := sessionAt_modify s.connections c d
    (fun connection => { connection with holders := connection.holders - 1 }) fun _ => rfl
  refine ⟨fun d hand' => ?_, fun d session n tie => ?_, fun j d n tie => ?_, fun d e id => ?_,
    fun id => ?_, anchored.known⟩
  · rw [Pool.isSome_get?_modify]
    by_cases here : d = c
    · rw [here, found]
      rfl
    · rw [Function.update_of_ne here] at hand'
      exact anchored.handled d hand'
  · dsimp only at tie ⊢
    rw [Pool.get?_modify] at tie
    split at tie
    · next here =>
        subst here
        obtain ⟨rfl, rfl⟩ : connection.session = session ∧ connection.holders - 1 = n := by
          simpa [found, Connection.tie] using tie
        rw [Function.update_self]
        exact ⟨by omega, by omega, closed⟩
    · next other =>
        rw [Function.update_of_ne other]
        exact anchored.held d session n tie
  · dsimp only at tie ⊢
    rw [Pool.isSome_get?_modify]
    exact anchored.sole j d n tie
  · dsimp only
    rw [sessions, sessions]
    exact anchored.apart d e id
  · dsimp only
    simp only [sessions]
    exact anchored.owned id

/-- A connection that nobody else held is gone, and its session is closed. -/
theorem release_alone (alone : ¬1 < connection.holders) (cursors : t.cursors = s.cursors)
    (connections : t.connections = s.connections.erase c)
    (ended : ∀ j, t.world.session? j =
      if connection.session = some j then none else s.world.session? j) :
    Anchored (Function.update hands c m) shut t := by
  obtain ⟨count, -⟩ := anchored.held c connection.session connection.holders (by rw [found]; rfl)
  have none_ : s.cursors.count (Cursor.isOf c) = 0 := by omega
  have gone (d : Nat) : t.connections.get? d = if d = c then none else s.connections.get? d := by
    rw [connections, Pool.get?_erase]
  have sessions (d : Nat) : sessionAt t.connections d =
      if d = c then none else sessionAt s.connections d := by
    rw [sessionAt, gone]
    split <;> rfl
  have own : sessionAt s.connections c = connection.session := by
    rw [sessionAt, found, Option.bind_some]
  refine ⟨fun d hand' => ?_, fun d session n tie => ?_, fun j d n tie => ?_,
    anchored.apart_of_ended sessions, anchored.owned_of_ended sessions (own ▸ ended),
    fun d shuts => ?_⟩
  · by_cases here : d = c
    · subst here
      rw [Function.update_self] at hand'
      omega
    · rw [Function.update_of_ne here] at hand'
      rw [gone, if_neg here]
      exact anchored.handled d hand'
  · rw [gone] at tie
    rw [cursors]
    split at tie
    · cases tie
    · next other =>
        rw [Function.update_of_ne other]
        exact anchored.held d session n tie
  · rw [cursors] at tie
    obtain ⟨one, exists_⟩ := anchored.sole j d n tie
    obtain ⟨cursor, there, same⟩ := Option.map_eq_some_iff.mp tie
    have other : d ≠ c := by
      rw [← show cursor.connection = d from congrArg Prod.fst same]
      exact not_isOf none_ there
    rw [gone, if_neg other]
    exact ⟨one, exists_⟩
  · rw [connections, Pool.next_erase]
    exact anchored.known d shuts

end Released

/-- Beside its cursors, a connection has one holder less after it was let go; if it had no other
holder, it is gone and its session is closed. -/
theorem releaseConnection {m : Nat} (anchored : Anchored hands shut s) (hand : hands c = m + 1) :
    Anchored (Function.update hands c m) shut (exec (Connection.release c) s).2 := by
  have ends := (releaseConnection_ends s c).2
  obtain ⟨connection, found⟩ := Option.isSome_iff_exists.mp (anchored.handled c (by omega))
  rw [found] at ends
  generalize (exec (Connection.release c) s).2 = t at ends
  dsimp only at ends
  split at ends
  · next others =>
      subst ends
      exact anchored.release_of_others hand found others
  · next alone =>
      obtain ⟨-, cursors, connections, ended⟩ := ends
      exact anchored.release_alone hand found alone cursors connections ended

/-- Where a cursor was, its connection has one more holder that is no cursor. -/
theorem eraseCursor {cursor : Cursor} (anchored : Anchored hands shut s)
    (found : s.cursors.get? k = some cursor) :
    Anchored (Function.update hands cursor.connection (hands cursor.connection + 1)) shut
      { s with cursors := s.cursors.erase k } := by
  have fewer (d : Nat) := Pool.count_erase found (Cursor.isOf d)
  have there := (anchored.sole k cursor.connection cursor.holders (by rw [found]; rfl)).2
  refine ⟨fun d hand => ?_, fun d session n tie => ?_, fun j d n tie => ?_, anchored.apart,
    anchored.owned, anchored.known⟩
  · by_cases here : d = cursor.connection
    · rw [here]
      exact there
    · rw [Function.update_of_ne here] at hand
      exact anchored.handled d hand
  · obtain ⟨count, some_, closed⟩ := anchored.held d session n tie
    refine ⟨?_, some_, closed⟩
    have fewer := fewer d
    by_cases here : d = cursor.connection
    · subst here
      simp only [Cursor.isOf, decide_true, if_true] at fewer
      rw [Function.update_self]
      dsimp only
      omega
    · have away : Cursor.isOf d cursor = false := by simp [Cursor.isOf, Ne.symm here]
      rw [away] at fewer
      rw [Function.update_of_ne here]
      dsimp only
      simp at fewer
      omega
  · dsimp only at tie ⊢
    rw [Pool.get?_erase] at tie
    split at tie
    · cases tie
    · exact anchored.sole j d n tie

/-- A cursor that was let go is gone, and with it its hold on the connection. -/
theorem releaseCursor {cursor : Cursor} (anchored : Anchored hands shut s)
    (found : s.cursors.get? k = some cursor) :
    Anchored hands shut (exec (Cursor.release k) s).2 := by
  have one := (anchored.sole k cursor.connection cursor.holders (by rw [found]; rfl)).1
  obtain ⟨u, same, ends⟩ := releaseCursor_ends s k found one
  obtain ⟨cursor', found', tie⟩ : ∃ cursor', u.cursors.get? k = some cursor' ∧
      cursor'.tie = cursor.tie := by
    have tie := same.cursors k
    rw [found] at tie
    exact Option.map_eq_some_iff.mp tie
  have of : cursor'.connection = cursor.connection := congrArg Prod.fst tie
  have erased := (anchored.steady same).eraseCursor found'
  rw [of] at erased
  have released := erased.releaseConnection (c := cursor.connection) (Function.update_self ..)
  rw [ends]
  simpa using released

end Anchored

/-! ## Numbers that were given out -/

/-- As many objects have been made. -/
structure SameNexts (s t : State) : Prop where
  environments : t.environments.next = s.environments.next
  connections : t.connections.next = s.connections.next
  cursors : t.cursors.next = s.cursors.next

theorem Steady.nexts {s t : State} (same : Steady s t) : SameNexts s t :=
  ⟨same.environments, same.nextConnection, same.nextCursor⟩

/-- A cursor whose number was given out before was there before, and of the same connection. -/
structure Older (s t : State) : Prop where
  next : s.cursors.next ≤ t.cursors.next
  there : ∀ k c, k < s.cursors.next → (t.cursors.get? k).map Cursor.connection = some c →
    (s.cursors.get? k).map Cursor.connection = some c

namespace Older

variable {s t : State}

theorem of_eq (cursors : t.cursors = s.cursors) : Older s t :=
  ⟨Nat.le_of_eq (by rw [cursors]), fun k c _ there => cursors ▸ there⟩

instance : Std.Refl Older where
  refl _ := .of_eq rfl

instance : IsTrans State Older where
  trans _ _ _ first second :=
    ⟨Nat.le_trans first.next second.next, fun k c old there =>
      first.there k c old (second.there k c (Nat.lt_of_lt_of_le old first.next) there)⟩

/-- A cursor that was made got a number of its own. -/
theorem insert {u : State} {cursor : Cursor} (cursors : u.cursors = s.cursors)
    (inserts : t.cursors = (u.cursors.insert cursor).2 := by rfl) : Older s t := by
  refine ⟨?_, fun k c old there => ?_⟩
  · rw [inserts, Pool.next_insert, cursors]
    exact Nat.le_succ _
  · rw [inserts, Pool.get?_insert, cursors, if_neg (Nat.ne_of_lt old)] at there
    exact there

/-- Cursors that are tied as they were, or not at all, are none but older ones. -/
theorem of_tie (next : t.cursors.next = s.cursors.next)
    (tie : ∀ k there, (t.cursors.get? k).map Cursor.tie = some there →
      (s.cursors.get? k).map Cursor.tie = some there) : Older s t := by
  refine ⟨Nat.le_of_eq next.symm, fun k c _ there => ?_⟩
  obtain ⟨cursor, found, rfl⟩ := Option.map_eq_some_iff.mp there
  obtain ⟨cursor', found', same⟩ := Option.map_eq_some_iff.mp
    (tie k cursor.tie (by rw [found]; rfl))
  rw [found']
  exact congrArg (fun tie => some tie.1) same

/-- A cursor is gone, and the others are of their connections. -/
theorem erase {k : Nat} (next : t.cursors.next = s.cursors.next)
    (erased : ∀ j, (t.cursors.get? j).map Cursor.tie =
      if j = k then none else (s.cursors.get? j).map Cursor.tie) : Older s t := by
  refine of_tie next fun j there tie => ?_
  rw [erased] at tie
  split at tie
  · cases tie
  · exact tie

end Older

theorem Steady.older {s t : State} (same : Steady s t) : Older s t :=
  .of_tie same.nextCursor fun k _ tie => same.cursors k ▸ tie

section Ends

variable (s : State) (c k : Nat)

/-- Letting go of a connection makes nothing new and touches no cursor. -/
theorem releaseConnection_keeps :
    SameNexts s (exec (Connection.release c) s).2 ∧
      (exec (Connection.release c) s).2.cursors = s.cursors := by
  have ends := (releaseConnection_ends s c).2
  generalize (exec (Connection.release c) s).2 = t at ends
  cases found : s.connections.get? c with
  | none =>
      rw [found] at ends
      obtain rfl : t = s := ends
      exact ⟨⟨rfl, rfl, rfl⟩, rfl⟩
  | some connection =>
      rw [found] at ends
      dsimp only at ends
      split at ends
      · subst ends
        exact ⟨⟨rfl, rfl, rfl⟩, rfl⟩
      · obtain ⟨environments, cursors, connections, -⟩ := ends
        exact ⟨⟨by rw [environments], by rw [connections, Pool.next_erase], by rw [cursors]⟩,
          cursors⟩

/-- A cursor that its last holder lets go is gone, and the others are tied as they were. -/
theorem releaseCursor_keeps {cursor : Cursor} (found : s.cursors.get? k = some cursor)
    (sole : cursor.holders = 1) :
    SameNexts s (exec (Cursor.release k) s).2 ∧
      ∀ j, ((exec (Cursor.release k) s).2.cursors.get? j).map Cursor.tie =
        if j = k then none else (s.cursors.get? j).map Cursor.tie := by
  obtain ⟨u, same, ends⟩ := releaseCursor_ends s k found sole
  obtain ⟨nexts, cursors⟩ :=
    releaseConnection_keeps { u with cursors := u.cursors.erase k } cursor.connection
  rw [ends]
  refine ⟨⟨nexts.environments.trans same.environments, nexts.connections.trans same.nextConnection,
    nexts.cursors.trans same.nextCursor⟩, fun j => ?_⟩
  rw [cursors]
  dsimp only
  rw [Pool.get?_erase]
  split
  · rfl
  · exact same.cursors j

end Ends

end SqlDriver
