/-
# SqlDriver.Proofs.Call.Likeness -- calls that cannot tell what was given up

Giving up or closing an environment, and giving up the handle of a connection that still has
cursors, leaves a host that is like the one before but for that object (`Host.Alike`).  A call
that is given other handles answers the same in both hosts, and leaves the same heap and the
same exception (`answer_concurs`); so does a run of such calls (`calling_concurs`), as long as
the connection is left with a cursor.
-/
import SqlDriver.Proofs.Call.Lifetime
import SqlDriver.Proofs.Driver.Likeness

namespace SqlDriver

set_option autoImplicit false

/-! ## Hosts that are alike -/

/-- The registries have the same objects, but for handles that are gone from the second. -/
structure Registry.Alike (gone : Nat → Prop) (r q : Registry) : Prop where
  kind : q.kind = r.kind
  next : q.entries.next = r.entries.next
  entries : ∀ n, ¬ gone n → q.entries.get? n = r.entries.get? n

namespace Registry.Alike

variable {gone : Nat → Prop} {r q : Registry} {x : Int64}

theorem find? (alike : Alike gone r q) (other : ¬ gone x.toInt.toNat) : q.find? x = r.find? x := by
  rw [Registry.find?, Registry.find?, alike.entries _ other]

theorem insert (alike : Alike gone r q) (object : Nat) (errorPrefix : String) :
    Alike gone (r.insert object errorPrefix).2 (q.insert object errorPrefix).2 := by
  refine ⟨alike.kind, congrArg (· + 1) alike.next, fun n other => ?_⟩
  change (q.entries.insert _).2.get? n = (r.entries.insert _).2.get? n
  rw [Pool.get?_insert, Pool.get?_insert, alike.next, alike.entries n other]

theorem remove (alike : Alike gone r q) (other : ¬ gone x.toInt.toNat) :
    Alike gone (r.remove x).2 (q.remove x).2 := by
  unfold Registry.remove
  rw [alike.find? other]
  cases r.find? x with
  | none => exact alike
  | some e =>
      refine ⟨alike.kind, alike.next, fun n other => ?_⟩
      dsimp only
      rw [Pool.get?_erase, Pool.get?_erase, alike.entries n other]

end Registry.Alike

/-- The object that was given up is that of a handle. -/
def Lost.has (lost : Lost) : HandleKind → Nat → Prop
  | .environment, n => lost = .environment n
  | .connection, n => lost = .connection n
  | .cursor, _ => False

/-- The hosts are alike but for an object that was given up in the second one. -/
structure Host.Alike (lost : Lost) (h g : Host) : Prop where
  registries : ∀ kind : HandleKind,
    (kind.registry h).Alike (lost.has kind) (kind.registry g)
  state : SqlDriver.Alike lost h.state g.state
  heap : g.heap = h.heap
  exception : g.exception = h.exception

/-- Two calls answer the same, and leave hosts that are alike. -/
def Concurs {α : Type} (lost : Lost) (c : Call α) (h : Host) (d : Call α) (g : Host) : Prop :=
  (StateT.run c h).1 = (StateT.run d g).1 ∧ (StateT.run c h).2.Alike lost (StateT.run d g).2

namespace Concurs

variable {α β : Type} {lost : Lost} {h g : Host}

theorem pure (x : α) (alike : h.Alike lost g) : Concurs lost (pure x) h (Pure.pure x) g :=
  ⟨rfl, alike⟩

/-- Calls that concur may be followed by calls that concur. -/
theorem bind {c d : Call α} {f k : α → Call β} (first : Concurs lost c h d g)
    (rest : ∀ x h' g', h'.Alike lost g' → Concurs lost (f x) h' (k x) g') :
    Concurs lost (c >>= f) h (d >>= k) g := by
  obtain ⟨same, alike⟩ := first
  unfold Concurs
  rw [run_bind, run_bind, ← same]
  exact rest _ _ _ alike

theorem get_bind {f k : Host → Call β} (rest : Concurs lost (f h) h (k g) g) :
    Concurs lost (get >>= f) h (get >>= k) g :=
  rest

theorem map (f : α → β) {c d : Call α} (concurs : Concurs lost c h d g) :
    Concurs lost (f <$> c) h (f <$> d) g :=
  ⟨congrArg f concurs.1, concurs.2⟩

end Concurs

/-! ## Parts of calls -/

section Parts

open Call

variable {α β : Type} {lost : Lost} {h g : Host} (alike : h.Alike lost g)
include alike

/-- A call that reads and changes nothing but the heap. -/
theorem heap_concurs {c : Call α}
    (runs : ∀ k : Host, StateT.run c k = ((StateT.run c { h with heap := k.heap }).1,
      { k with heap := (StateT.run c { h with heap := k.heap }).2.heap })) :
    Concurs lost c h c g := by
  obtain ⟨registries, state, heap, exception⟩ := alike
  unfold Concurs
  rw [runs g, runs h, heap]
  exact ⟨rfl, fun kind => by cases kind <;> exact registries _, state, rfl, exception⟩

theorem perform_concurs {op : Op α} (agrees : Agrees (Alike lost) op h.state op g.state) :
    Concurs lost (perform op) h (perform op) g := by
  obtain ⟨registries, -, heap, exception⟩ := alike
  unfold Concurs
  rw [run_perform, run_perform]
  exact ⟨agrees.1, fun kind => by cases kind <;> exact registries _, agrees.2, heap, exception⟩

theorem told_concurs (e : Event) : Concurs lost (Call.tell e) h (Call.tell e) g := by
  obtain ⟨registries, state, heap, exception⟩ := alike
  exact ⟨rfl, fun kind => by cases kind <;> exact registries _, (tell_agrees state e).2, heap,
    exception⟩

theorem raise_concurs (e : Error) (errorPrefix : String) :
    Concurs lost (raise e errorPrefix) h (raise e errorPrefix) g :=
  .bind (told_concurs alike _) fun _ _ _ alike =>
    ⟨rfl, fun kind => by cases kind <;> exact alike.registries _, alike.state, alike.heap, rfl⟩

theorem newText_concurs (s : String) : Concurs lost (newText s) h (newText s) g :=
  heap_concurs alike fun _ => rfl

theorem textAt_concurs (a : Address) : Concurs lost (textAt a) h (textAt a) g := by
  unfold Concurs
  rw [run_textAt, run_textAt, alike.heap]
  exact ⟨rfl, alike⟩

theorem report_concurs (e : Error) (errorPrefix : String) :
    Concurs lost (report e errorPrefix) h (report e errorPrefix) g := by
  unfold report
  split
  · exact .bind (raise_concurs alike e errorPrefix) fun _ _ _ alike => .pure _ alike
  · exact .bind (told_concurs alike _) fun _ _ _ alike =>
      .bind (newText_concurs alike _) fun _ _ _ alike => .pure _ alike

/-- A handle that was not given up stands for the same object. -/
theorem withEntry_concurs (kind : HandleKind) {x : Int64} (other : ¬ lost.has kind x.toInt.toNat)
    {sentinel : α} {go : Entry → Call α}
    (goes : ∀ e, (kind.registry g).find? x = some e → Concurs lost (go e) h (go e) g) :
    Concurs lost (withEntry kind.registry x sentinel go) h
      (withEntry kind.registry x sentinel go) g := by
  have same := (alike.registries kind).find? other
  unfold Concurs
  cases found : (kind.registry g).find? x with
  | none =>
      rw [withEntry_of_missing found, withEntry_of_missing (same.symm.trans found),
        (alike.registries kind).kind]
      exact ⟨rfl, (raise_concurs alike _ _).2⟩
  | some e =>
      rw [withEntry_of_live found, withEntry_of_live (same.symm.trans found)]
      exact goes e found

/-- An operation that agrees on both hosts raises on both, or is answered on both. -/
theorem orRaise_concurs {op : Op α} (agrees : Agrees (SqlDriver.Alike lost) op h.state op g.state)
    (e : Entry) (sentinel : β) {answer : α → Call β}
    (answers : ∀ x h' g', Host.Alike lost h' g' → Concurs lost (answer x) h' (answer x) g') :
    Concurs lost (orRaise e op sentinel answer) h (orRaise e op sentinel answer) g := by
  refine .bind (perform_concurs alike agrees) fun result h' g' alike => ?_
  cases result with
  | ok x => exact answers x h' g' alike
  | error error =>
      exact .bind (raise_concurs alike error e.errorPrefix) fun _ _ _ alike => .pure _ alike

end Parts

/-! ## The calls -/

section Calls

open Call

variable {lost : Lost} {h g : Host} (alike : h.Alike lost g) (x : Int64)
include alike

theorem openDriver_concurs (driver : String) (config : Config) :
    Concurs lost (openDriver driver config) h (openDriver driver config) g := by
  refine .bind (perform_concurs alike (openNamed_agrees alike.state driver config))
    fun result h g alike => ?_
  cases result with
  | error error =>
      exact .bind (raise_concurs alike error config.errorPrefix) fun _ _ _ alike => .pure _ alike
  | ok e =>
      have next := (alike.registries .environment).next
      refine ⟨congrArg Int64.ofNat next.symm, fun kind => ?_, ?_, alike.heap, alike.exception⟩
      · cases kind with
        | environment => exact (alike.registries .environment).insert e config.errorPrefix
        | connection => exact alike.registries .connection
        | cursor => exact alike.registries .cursor
      · exact alike.state.told _ _

theorem openWithConfig_concurs (driver path : Address) :
    Concurs lost (openWithConfig driver path) h (openWithConfig driver path) g := by
  refine .bind (textAt_concurs alike driver) fun driver h g alike =>
    .bind (textAt_concurs alike path) fun path h g alike => .get_bind ?_
  rw [alike.state.world]
  split
  · exact openDriver_concurs alike driver _
  · exact .bind (raise_concurs alike _ _) fun _ _ _ alike => .pure _ alike

/-- What asks a connection to do something, and stores nothing. -/
theorem complete_concurs {op : Nat → Op Unit} (other : ¬ lost.has .connection x.toInt.toNat)
    (agrees : ∀ c, Agrees (Alike lost) (op c) h.state (op c) g.state) :
    Concurs lost (complete x op) h (complete x op) g := by
  refine withEntry_concurs alike .connection other fun e _ =>
    .bind (perform_concurs alike (agrees e.object)) fun result _ _ alike => ?_
  cases result with
  | ok _ => exact .pure _ alike
  | error error => exact report_concurs alike error e.errorPrefix

theorem fetch_concurs : Concurs lost (fetch x) h (fetch x) g := by
  refine withEntry_concurs alike .cursor not_false fun e _ =>
    .bind (perform_concurs alike (next_agrees alike.state e.object)) fun result _ _ alike => ?_
  rcases result with error | _ | row
  · exact report_concurs alike error e.errorPrefix
  · exact .pure _ alike
  · exact heap_concurs alike fun _ => rfl

theorem fetchInto_concurs (record mode : Address) :
    Concurs lost (fetchInto x record mode) h (fetchInto x record mode) g := by
  refine withEntry_concurs alike .cursor not_false fun e _ => .get_bind ?_
  rw [alike.heap]
  split
  · exact .bind (raise_concurs alike _ _) fun _ _ _ alike => .pure _ alike
  · next r _ =>
      refine .bind (textAt_concurs alike mode) fun text _ _ alike =>
        .bind (perform_concurs alike (fetchInto_agrees alike.state e.object (.record r)
          (modeOf text)))
          fun result _ _ alike => ?_
      rcases result with error | ⟨_ | _, target⟩
      · exact report_concurs alike error e.errorPrefix
      · exact .pure _ alike
      · exact heap_concurs alike fun _ => rfl

theorem columnNames_concurs : Concurs lost (columnNames x) h (columnNames x) g :=
  withEntry_concurs alike .cursor not_false fun e _ =>
    orRaise_concurs alike (columnNames_agrees alike.state e.object) e 0 fun _ _ _ alike =>
      heap_concurs alike fun _ => rfl

theorem columnTypes_concurs : Concurs lost (columnTypes x) h (columnTypes x) g :=
  withEntry_concurs alike .cursor not_false fun e _ =>
    orRaise_concurs alike (columnTypes_agrees alike.state e.object) e 0 fun _ _ _ alike =>
      heap_concurs alike fun _ => rfl

theorem closeCursor_concurs : Concurs lost (closeCursor x) h (closeCursor x) g :=
  withEntry_concurs alike .cursor not_false fun e _ =>
    orRaise_concurs alike (closeCursor_agrees alike.state e.object) e 0 fun _ _ _ alike =>
      .pure _ alike

variable {t : Trace} (lives : Lives g t)
include lives

omit alike in
/-- The environment that a call names is not the one that was given up. -/
theorem ne_environment {e : Entry} (found : g.environments.find? x = some e)
    (other : ¬ lost.has .environment x.toInt.toNat) : lost ≠ .environment e.object := by
  have number := lives.environments.object_of_find? found
  rw [show x.toInt.toNat = e.object by omega] at other
  exact other

/-- Connecting from an environment that was not lost comes to the same on both hosts. -/
theorem connect_concurs (other : ¬ lost.has .environment x.toInt.toNat) (source : Address)
    (timeout : Int64) :
    Concurs lost (connect x source timeout) h (connect x source timeout) g := by
  refine withEntry_concurs alike .environment other fun e found => ?_
  have away := ne_environment x lives found other
  refine .bind (textAt_concurs alike source) fun source _ _ alike =>
    .bind (perform_concurs alike (connect_agrees alike.state away source _))
      fun result h g alike => ?_
  rcases result with error | c | _
  · exact report_concurs alike error e.errorPrefix
  · have next := (alike.registries .connection).next
    refine ⟨congrArg (fun next => Ended.mk .ok (Int64.ofNat next)) next.symm, fun kind => ?_,
      alike.state, alike.heap, alike.exception⟩
    cases kind with
    | environment => exact alike.registries .environment
    | connection => exact (alike.registries .connection).insert c e.errorPrefix
    | cursor => exact alike.registries .cursor
  · exact .pure _ alike

theorem closeEnvironment_concurs (other : ¬ lost.has .environment x.toInt.toNat) :
    Concurs lost (closeEnvironment x) h (closeEnvironment x) g := by
  refine withEntry_concurs alike .environment other fun e found => ?_
  have away := ne_environment x lives found other
  exact orRaise_concurs alike (closeEnvironment_agrees alike.state away) e 0
    fun _ _ _ alike => .pure _ alike

end Calls

section Connections

open Call

variable {lost : Lost} {h g : Host} (alike : h.Alike lost g) {x : Int64}
  (other : ¬ lost.has .connection x.toInt.toNat)
include alike other

theorem execute_concurs (sql : Address) :
    Concurs lost (execute x sql) h (execute x sql) g := by
  refine withEntry_concurs alike .connection other fun e _ =>
    .bind (textAt_concurs alike sql) fun sql _ _ alike =>
    .bind (perform_concurs alike (execute_agrees alike.state e.object sql))
      fun result h g alike => ?_
  rcases result with error | n | k
  · exact report_concurs alike error e.errorPrefix
  · exact .pure _ alike
  · have next := (alike.registries .cursor).next
    refine ⟨congrArg (fun next => Ended.mk .cursor (Int64.ofNat next)) next.symm, fun kind => ?_,
      alike.state, alike.heap, alike.exception⟩
    cases kind with
    | environment => exact alike.registries .environment
    | connection => exact alike.registries .connection
    | cursor => exact (alike.registries .cursor).insert k e.errorPrefix

theorem setAutocommit_concurs (enabled : Int64) :
    Concurs lost (setAutocommit x enabled) h (setAutocommit x enabled) g :=
  withEntry_concurs alike .connection other fun e _ =>
    orRaise_concurs alike (setAutocommit_agrees alike.state e.object _) e 0 fun _ _ _ alike =>
      .pure _ alike

theorem escape_concurs (text : Address) :
    Concurs lost (escape x text) h (escape x text) g :=
  withEntry_concurs alike .connection other fun _ _ =>
    .bind (textAt_concurs alike text) fun _ _ _ alike => newText_concurs alike _

theorem lastNumber_concurs : Concurs lost (lastNumber x) h (lastNumber x) g :=
  withEntry_concurs alike .connection other fun e _ =>
    orRaise_concurs alike (lastNumber_agrees alike.state e.object) e 0 fun _ _ _ alike =>
      .pure _ alike

theorem closeConnection_concurs :
    Concurs lost (closeConnection x) h (closeConnection x) g :=
  withEntry_concurs alike .connection other fun e _ =>
    orRaise_concurs alike (closeConnection_agrees alike.state e.object) e 0 fun _ _ _ alike =>
      .pure _ alike

end Connections

/-! ## Releases -/

/-- A connection that is left with a cursor after another one was given up had two holders. -/
theorem others_of_left {g : Host} {t : Trace} {k : Nat} {cursor : Cursor} {connection : Connection}
    (lives : Lives g t) (there : g.state.cursors.get? k = some cursor)
    (left : ∃ j, ((exec (Cursor.release k) g.state).2.cursors.get? j).map Cursor.connection =
      some cursor.connection)
    (exists_ : g.state.connections.get? cursor.connection = some connection) :
    1 < connection.holders := by
  have sole := (lives.anchored.sole k cursor.connection cursor.holders (by rw [there]; rfl)).1
  obtain ⟨j, left⟩ := left
  obtain ⟨after, found, of⟩ := Option.map_eq_some_iff.mp left
  have tie := (releaseCursor_keeps g.state k there sole).2 j
  rw [found] at tie
  split at tie
  · cases tie
  · next away =>
      obtain ⟨before, found', same⟩ := Option.map_eq_some_iff.mp tie.symm
      have of' : before.connection = cursor.connection :=
        (congrArg Prod.fst same).trans of
      have erased := Pool.count_erase there (Cursor.isOf cursor.connection)
      have positive : 0 < (g.state.cursors.erase k).count (Cursor.isOf cursor.connection) :=
        Pool.count_pos_iff.mpr ⟨j, before, by rw [Pool.get?_erase, if_neg away, found'],
          by simp [Cursor.isOf, of']⟩
      have held := (lives.anchored.held cursor.connection connection.session connection.holders
        (by rw [exists_]; rfl)).1
      simp only [Cursor.isOf, decide_true, if_true] at erased positive held
      omega

/-- Giving up a handle that stands for nothing. -/
theorem missing_concurs {lost : Lost} {h g : Host} (alike : h.Alike lost g) {r : Invocation}
    (kind : HandleKind) {x : Int64} (releases : r.isRelease) (expects : r.expects = some (kind, x))
    (other : ¬ lost.has kind x.toInt.toNat) (missing : (kind.registry g).find? x = none) :
    Concurs lost r.answer h r.answer g := by
  have same := (alike.registries kind).find? other
  unfold Concurs
  rw [release_of_missing releases expects missing,
    release_of_missing releases expects (same.symm.trans missing)]
  exact ⟨rfl, alike⟩

section Releases

variable {lost : Lost} {h g : Host} (alike : h.Alike lost g) {t : Trace} (lives : Lives g t)
  {r : Invocation}
include alike lives

/-- Giving up a handle, where a connection that was given up before is left with a cursor. -/
theorem release_concurs (releases : r.isRelease)
    (other : ∀ kind x, r.expects = some (kind, x) → ¬ lost.has kind x.toInt.toNat)
    (left : ∀ c, lost = .connection c →
      ∃ k, ((StateT.run r.answer g).2.state.cursors.get? k).map Cursor.connection = some c) :
    Concurs lost r.answer h r.answer g := by
  unfold Concurs
  cases r with
  | releaseEnvironment x =>
      have same := (alike.registries .environment).find? (other .environment x rfl)
      cases found : g.environments.find? x with
      | none => exact missing_concurs alike .environment rfl rfl (other .environment x rfl) found
      | some e =>
          simp only [Invocation.answer, run_map, run_releaseEnvironment g x found,
            run_releaseEnvironment h x (same.symm.trans found)]
          refine ⟨trivial, fun kind => ?_, alike.state, alike.heap, alike.exception⟩
          cases kind with
          | environment => exact (alike.registries .environment).remove (other .environment x rfl)
          | connection => exact alike.registries .connection
          | cursor => exact alike.registries .cursor
  | releaseConnection x =>
      have same := (alike.registries .connection).find? (other .connection x rfl)
      cases found : g.connections.find? x with
      | none => exact missing_concurs alike .connection rfl rfl (other .connection x rfl) found
      | some e =>
          have number := lives.connections.object_of_find? found
          have away : lost ≠ .connection e.object := fun here => other .connection x rfl (by
            rw [show x.toInt.toNat = e.object by omega]
            exact here)
          have released := releaseConnection_agrees alike.state e.object fun here =>
            absurd here away
          simp only [Invocation.answer, run_map, run_releaseConnection g x found,
            run_releaseConnection h x (same.symm.trans found)]
          refine ⟨trivial, fun kind => ?_, released.2, alike.heap, alike.exception⟩
          cases kind with
          | environment => exact alike.registries .environment
          | connection => exact (alike.registries .connection).remove (other .connection x rfl)
          | cursor => exact alike.registries .cursor
  | releaseCursor x =>
      have same := (alike.registries .cursor).find? (other .cursor x rfl)
      cases found : g.cursors.find? x with
      | none => exact missing_concurs alike .cursor rfl rfl (other .cursor x rfl) found
      | some e =>
          simp only [Invocation.answer, run_map, run_releaseCursor g x found,
            run_releaseCursor h x (same.symm.trans found)] at left ⊢
          have released := releaseCursor_agrees alike.state e.object
            fun cursor there here connection exists_ =>
              others_of_left lives there (left cursor.connection here) exists_
          refine ⟨trivial, fun kind => ?_, released.2, alike.heap, alike.exception⟩
          cases kind with
          | environment => exact alike.registries .environment
          | connection => exact alike.registries .connection
          | cursor => exact (alike.registries .cursor).remove (other .cursor x rfl)
  | _ => cases releases

end Releases

/-! ## Runs -/

section Runs

variable {lost : Lost} {h g : Host}

/-- A call that is given other handles, where a connection that was given up before is left with
a cursor. -/
theorem answer_concurs (alike : h.Alike lost g) {t : Trace} (lives : Lives g t) (r : Invocation)
    (other : ∀ kind x, r.expects = some (kind, x) → ¬ lost.has kind x.toInt.toNat)
    (left : ∀ c, lost = .connection c →
      ∃ k, ((StateT.run r.answer g).2.state.cursors.get? k).map Cursor.connection = some c) :
    Concurs lost r.answer h r.answer g := by
  cases r with
  | openDefault driver =>
      exact .map _ (.bind (textAt_concurs alike driver) fun driver _ _ alike =>
        openDriver_concurs alike driver {})
  | openWithConfig driver path => exact .map _ (openWithConfig_concurs alike driver path)
  | connect x source timeout =>
      exact .map _ (connect_concurs alike x lives (other _ x rfl) source timeout)
  | closeEnvironment x =>
      exact .map _ (closeEnvironment_concurs alike x lives (other _ x rfl))
  | execute x sql => exact .map _ (execute_concurs alike (other _ x rfl) sql)
  | commit x =>
      exact .map _ (complete_concurs alike x (other _ x rfl) fun c =>
        endTransaction_agrees alike.state c .commit)
  | rollback x =>
      exact .map _ (complete_concurs alike x (other _ x rfl) fun c =>
        endTransaction_agrees alike.state c .rollback)
  | setAutocommit x enabled =>
      exact .map _ (setAutocommit_concurs alike (other _ x rfl) enabled)
  | escape x text => exact .map _ (escape_concurs alike (other _ x rfl) text)
  | lastNumber x => exact .map _ (lastNumber_concurs alike (other _ x rfl))
  | closeConnection x => exact .map _ (closeConnection_concurs alike (other _ x rfl))
  | fetch x => exact .map _ (fetch_concurs alike x)
  | fetchInto x record mode => exact .map _ (fetchInto_concurs alike x record mode)
  | columnNames x => exact .map _ (columnNames_concurs alike x)
  | columnTypes x => exact .map _ (columnTypes_concurs alike x)
  | closeCursor x => exact .map _ (closeCursor_concurs alike x)
  | releaseEnvironment x => exact release_concurs alike lives rfl other left
  | releaseConnection x => exact release_concurs alike lives rfl other left
  | releaseCursor x => exact release_concurs alike lives rfl other left
  | work heap exception =>
      exact ⟨rfl, fun kind => by cases kind <;> exact alike.registries _, alike.state, rfl, rfl⟩

/-- A program that makes the calls cannot tell the hosts apart. -/
structure Undisturbed (h g : Host) (calls : List Invocation) : Prop where
  answers : (g.calling calls).2 = (h.calling calls).2
  heap : (g.calling calls).1.heap = (h.calling calls).1.heap
  exception : (g.calling calls).1.exception = (h.calling calls).1.exception

/-- Calls that are given other handles, where a connection that was given up before is left with
a cursor that it had. -/
theorem calling_concurs (alike : h.Alike lost g) {t : Trace} (lives : Lives g t)
    (calls : List Invocation)
    (other : ∀ r ∈ calls, ∀ kind x, r.expects = some (kind, x) → ¬ lost.has kind x.toInt.toNat)
    (left : ∀ c, lost = .connection c → ∃ k, k < g.state.cursors.next ∧
      (g.state.cursors.get? k).map Cursor.connection = some c ∧
      ((g.calling calls).1.state.cursors.get? k).isSome) :
    Undisturbed h g calls := by
  induction calls generalizing h g t with
  | nil => exact ⟨rfl, alike.heap, alike.exception⟩
  | cons r rest ih =>
      obtain ⟨lives', older⟩ := lives.step r
      rw [calling_cons] at left
      have left' (c : Nat) (here : lost = .connection c) : ∃ k, k < g.state.cursors.next ∧
          ((StateT.run r.answer g).2.state.cursors.get? k).map Cursor.connection = some c ∧
          (((StateT.run r.answer g).2.calling rest).1.state.cursors.get? k).isSome := by
        -- the cursor that is there at the end was there all the time, of one connection
        obtain ⟨k, old, of, there⟩ := left c here
        obtain ⟨cursor, found⟩ := Option.isSome_iff_exists.mp there
        have middle := (lives'.calling rest).2.there k cursor.connection
          (Nat.lt_of_lt_of_le old older.next) (by rw [found]; rfl)
        have first := older.there k cursor.connection old middle
        rw [of] at first
        cases first
        exact ⟨k, old, middle, there⟩
      have concurs := answer_concurs alike lives r (other r List.mem_cons_self) fun c here =>
        (left' c here).imp fun _ there => there.2.1
      obtain ⟨answers, heap, exception⟩ := ih concurs.2 lives'
        (fun r' among => other r' (List.mem_cons_of_mem _ among)) fun c here => by
          obtain ⟨k, old, there⟩ := left' c here
          exact ⟨k, Nat.lt_of_lt_of_le old older.next, there⟩
      refine ⟨?_, ?_, ?_⟩ <;> rw [calling_cons, calling_cons]
      · rw [answers, concurs.1]
      · exact heap
      · exact exception

end Runs

end SqlDriver
