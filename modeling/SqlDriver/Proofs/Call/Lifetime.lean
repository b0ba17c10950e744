/-
# SqlDriver.Proofs.Call.Lifetime -- handles, and the objects that live on them

The objects of a kind have the numbers of their handles, and a handle is registered from the
call that answers it to the release that answers one (`Handles`).  A cursor lives on its
handle; a connection lives on its handle and on its cursors (`Anchored`).  `Lives` puts this
together, and every call of a program keeps it (`Lives.step`).

What calls have answered so far is their trace: which handles were issued, which were given
up, and which connections were closed is read off it.
-/
import SqlDriver.Proofs.Call.HandleNumber
import SqlDriver.Proofs.Driver.Lifetime

namespace SqlDriver

set_option autoImplicit false

/-! ## Traces -/

/-- Calls and what they answered, the latest first. -/
abbrev Trace := List (Invocation × Reply)

namespace Invocation

/-- The handle that a call gives up; a release that answers zero gives up none. -/
def gives (r : Invocation) (reply : Reply) : Option (HandleKind × Int64) :=
  if r.isRelease && reply = .word 1 then r.expects else none

/-- The handle of the connection that a call closes. -/
def shuts (r : Invocation) (reply : Reply) : Option Int64 :=
  match r, reply with
  | closeConnection x, .word answer => if answer = 1 then some x else none
  | _, _ => none

/-- A call after others. -/
def follow (before : Host × Trace) (r : Invocation) : Host × Trace :=
  let (reply, h) := StateT.run r.answer before.1
  (h, (r, reply) :: before.2)

end Invocation

/-- What some calls make of a host, and what they answer. -/
def Host.calling (h : Host) (calls : List Invocation) : Host × Trace :=
  calls.foldl Invocation.follow (h, [])

/-- Calls after others. -/
theorem calling_from (h : Host) (t : Trace) (calls : List Invocation) :
    calls.foldl Invocation.follow (h, t) = ((h.calling calls).1, (h.calling calls).2 ++ t) := by
  unfold Host.calling
  induction calls generalizing h t with
  | nil => rfl
  | cons r rest ih =>
      rw [List.foldl_cons, List.foldl_cons]
      change rest.foldl Invocation.follow (_, _ :: t) = _
      rw [ih, show Invocation.follow (h, []) r = (_, [_]) from rfl, ih _ [_], List.append_assoc]
      rfl

/-- A run is its first call and the run behind it. -/
theorem calling_cons (h : Host) (r : Invocation) (rest : List Invocation) :
    h.calling (r :: rest) = (((StateT.run r.answer h).2.calling rest).1,
      ((StateT.run r.answer h).2.calling rest).2 ++ [(r, (StateT.run r.answer h).1)]) :=
  calling_from _ [(r, _)] rest

namespace Trace

/-- The handles that calls have answered. -/
def issued (t : Trace) : List (HandleKind × Int64) :=
  t.flatMap fun (r, reply) => (r.issues reply).toList

/-- The handles that have been given up. -/
def givenUp (t : Trace) : List (HandleKind × Int64) :=
  t.flatMap fun (r, reply) => (r.gives reply).toList

/-- The connection has been closed by a call. -/
def Shut (t : Trace) (c : Nat) : Prop :=
  ∃ r reply x, (r, reply) ∈ t ∧ Invocation.shuts r reply = some x ∧ x.toInt = c

/-- The handle of a number has been given up. -/
def Gave (t : Trace) (kind : HandleKind) (n : Nat) : Prop :=
  ∃ x : Int64, (kind, x) ∈ t.givenUp ∧ x.toInt = n

end Trace

section Traces

variable {t : Trace} {r : Invocation} {reply : Reply}

theorem givenUp_cons : Trace.givenUp ((r, reply) :: t) = (r.gives reply).toList ++ t.givenUp := rfl

theorem givenUp_of_none (nothing : r.gives reply = none) :
    Trace.givenUp ((r, reply) :: t) = t.givenUp := by
  rw [givenUp_cons, nothing]
  rfl

theorem shut_cons (c : Nat) : Trace.Shut ((r, reply) :: t) c ↔
    (∃ x, r.shuts reply = some x ∧ x.toInt = c) ∨ t.Shut c := by
  constructor
  · rintro ⟨r', reply', x, among, shuts, number⟩
    obtain same | later := List.mem_cons.mp among
    · cases same
      exact .inl ⟨x, shuts, number⟩
    · exact .inr ⟨r', reply', x, later, shuts, number⟩
  · rintro (⟨x, shuts, number⟩ | ⟨r', reply', x, among, shuts, number⟩)
    · exact ⟨r, reply, x, by simp, shuts, number⟩
    · exact ⟨r', reply', x, List.mem_cons_of_mem _ among, shuts, number⟩

theorem shut_of_none (nothing : r.shuts reply = none) : Trace.Shut ((r, reply) :: t) = t.Shut := by
  funext c
  rw [shut_cons, nothing]
  simp

theorem gave_of_none (nothing : r.gives reply = none) : Trace.Gave ((r, reply) :: t) = t.Gave := by
  funext kind n
  rw [Trace.Gave, Trace.Gave, givenUp_of_none nothing]

end Traces

/-! ## Registered handles -/

/-- The handles that are registered are those that were answered and not given up. -/
structure Handles (h : Host) (t : Trace) : Prop where
  numbered : Numbered h t.issued
  live : ∀ (kind : HandleKind) n, ((kind.registry h).entries.get? n).isSome ↔
    1 ≤ n ∧ n < (kind.registry h).entries.next ∧ ¬ t.Gave kind n
  given : ∀ (kind : HandleKind) n, t.Gave kind n → n < (kind.registry h).entries.next
  positive : ∀ (kind : HandleKind) (x : Int64), (kind, x) ∈ t.givenUp → 0 < x.toInt
  once : t.givenUp.Nodup

theorem Registry.find?_of_pos (r : Registry) {x : Int64} (positive : 0 < x.toInt) :
    r.find? x = r.entries.get? x.toInt.toNat :=
  if_neg (by omega)

theorem Registry.pos_of_find? {r : Registry} {x : Int64} {e : Entry} (found : r.find? x = some e) :
    0 < x.toInt := by
  unfold find? at found
  split at found
  · cases found
  · omega

namespace Handles

variable {h g : Host} {t : Trace} {r : Invocation} {reply : Reply}

theorem start (disk : Disk) : Handles (.start disk) [] := by
  refine ⟨.start disk, fun kind n => ?_, ?_, by simp [Trace.givenUp], List.nodup_nil⟩
  · cases kind <;> refine iff_of_false (by simp [HandleKind.registry, Host.start]) ?_ <;>
      · rintro ⟨low, high, -⟩
        exact absurd high (Nat.not_lt.mpr low)
  · rintro kind n ⟨x, given, -⟩
    cases given

/-- A call that gives up no handle leaves the record of handles as it was, with its own reply. -/
theorem same (handles : Handles h t)
    (registries : ∀ kind : HandleKind, kind.registry g = kind.registry h)
    (numbered : Numbered g (Trace.issued ((r, reply) :: t))) (gives : r.gives reply = none) :
    Handles g ((r, reply) :: t) := by
  refine ⟨numbered, fun kind n => ?_, fun kind n => ?_, ?_, ?_⟩
  · rw [registries, gave_of_none gives]
    exact handles.live kind n
  · rw [registries, gave_of_none gives]
    exact handles.given kind n
  · rw [givenUp_of_none gives]
    exact handles.positive
  · rw [givenUp_of_none gives]
    exact handles.once

/-- A registry takes in an object under its next number. -/
theorem insert (kind : HandleKind) {object : Nat} {errorPrefix : String} (handles : Handles h t)
    (here : kind.registry g = ((kind.registry h).insert object errorPrefix).2)
    (others : ∀ other, other ≠ kind → HandleKind.registry other g = other.registry h)
    (numbered : Numbered g (Trace.issued ((r, reply) :: t))) (gives : r.gives reply = none) :
    Handles g ((r, reply) :: t) := by
  have entries : (kind.registry g).entries =
      ((kind.registry h).entries.insert ⟨object, errorPrefix⟩).2 := by
    rw [here]
    rfl
  refine ⟨numbered, fun other n => ?_, fun other n => ?_, ?_, ?_⟩
  · rw [gave_of_none gives]
    by_cases same : other = kind
    · subst same
      have low := handles.numbered.positive other
      have fresh : ¬ t.Gave other (other.registry h).entries.next := fun given =>
        Nat.lt_irrefl _ (handles.given other _ given)
      rw [entries, Pool.get?_insert, Pool.next_insert]
      split
      · next last =>
          subst last
          exact iff_of_true rfl ⟨low, Nat.lt_succ_self _, fresh⟩
      · next earlier =>
          rw [handles.live]
          refine and_congr_right fun _ => and_congr_left fun _ => ?_
          omega
    · rw [others other same]
      exact handles.live other n
  · rw [gave_of_none gives]
    intro given
    have before := handles.given other n given
    by_cases same : other = kind
    · subst same
      rw [entries, Pool.next_insert]
      omega
    · rw [others other same]
      exact before
  · rw [givenUp_of_none gives]
    exact handles.positive
  · rw [givenUp_of_none gives]
    exact handles.once

/-- A registry gives up the object of a handle. -/
theorem remove (kind : HandleKind) {x : Int64} {e : Entry} (handles : Handles h t)
    (found : (kind.registry h).find? x = some e)
    (here : kind.registry g = ((kind.registry h).remove x).2)
    (others : ∀ other, other ≠ kind → HandleKind.registry other g = other.registry h)
    (numbered : Numbered g (Trace.issued ((r, reply) :: t)))
    (gives : r.gives reply = some (kind, x)) : Handles g ((r, reply) :: t) := by
  have positive := Registry.pos_of_find? found
  have there : ((kind.registry h).entries.get? x.toInt.toNat).isSome := by
    rw [← Registry.find?_of_pos _ positive, found]
    rfl
  obtain ⟨low, high, kept⟩ := (handles.live kind _).mp there
  have entries : (kind.registry g).entries = (kind.registry h).entries.erase x.toInt.toNat := by
    rw [here, Registry.remove, found]
  have given : Trace.givenUp ((r, reply) :: t) = (kind, x) :: t.givenUp := by
    rw [givenUp_cons, gives]
    rfl
  have gave (other : HandleKind) (n : Nat) : Trace.Gave ((r, reply) :: t) other n ↔
      (other = kind ∧ n = x.toInt.toNat) ∨ t.Gave other n := by
    rw [Trace.Gave, given]
    constructor
    · rintro ⟨y, among, number⟩
      obtain same | later := List.mem_cons.mp among
      · cases same
        exact .inl ⟨rfl, by omega⟩
      · exact .inr ⟨y, later, number⟩
    · rintro (⟨rfl, rfl⟩ | ⟨y, among, number⟩)
      · exact ⟨x, by simp, by omega⟩
      · exact ⟨y, List.mem_cons_of_mem _ among, number⟩
  refine ⟨numbered, fun other n => ?_, fun other n => ?_, fun other y among => ?_, ?_⟩
  · rw [gave]
    by_cases same : other = kind
    · subst same
      rw [entries, Pool.get?_erase, Pool.next_erase]
      split
      · next last => simp [last]
      · next away =>
          rw [handles.live]
          simp only [away, and_false, false_or]
    · rw [others other same, handles.live]
      simp [same]
  · rw [gave]
    rintro (⟨rfl, rfl⟩ | before)
    · rw [entries, Pool.next_erase]
      exact high
    · by_cases same : other = kind
      · subst same
        rw [entries, Pool.next_erase]
        exact handles.given other n before
      · rw [others other same]
        exact handles.given other n before
  · rw [given] at among
    obtain same | before := List.mem_cons.mp among
    · cases same
      exact positive
    · exact handles.positive other y before
  · rw [given, List.nodup_cons]
    exact ⟨fun among => kept ⟨x, among, by omega⟩, handles.once⟩

end Handles

/-! ## Objects behind handles -/

/-- The objects of a registry have the numbers of their handles. -/
structure Registry.Pairs (r : Registry) (next : Nat) : Prop where
  next : r.entries.next = next
  object : ∀ n e, r.entries.get? n = some e → e.object = n

namespace Registry.Pairs

variable {r : Registry} {next : Nat}

theorem insert (pairs : r.Pairs next) (errorPrefix : String) :
    (r.insert next errorPrefix).2.Pairs (next + 1) := by
  refine ⟨congrArg (· + 1) pairs.next, fun n e found => ?_⟩
  change (r.entries.insert ⟨next, errorPrefix⟩).2.get? n = some e at found
  rw [Pool.get?_insert] at found
  split at found
  · next last =>
      cases found
      exact pairs.next.symm.trans last.symm
  · exact pairs.object n e found

theorem remove (pairs : r.Pairs next) (x : Int64) : (r.remove x).2.Pairs next := by
  unfold Registry.remove
  cases r.find? x with
  | none => exact pairs
  | some e =>
      refine ⟨pairs.next, fun n e found => ?_⟩
      dsimp only at found
      rw [Pool.get?_erase] at found
      split at found
      · cases found
      · exact pairs.object n e found

/-- The object of a handle has its number. -/
theorem object_of_find? (pairs : r.Pairs next) {x : Int64} {e : Entry}
    (found : r.find? x = some e) :
    (e.object : Int) = x.toInt := by
  have positive := Registry.pos_of_find? found
  rw [Registry.find?_of_pos _ positive] at found
  rw [pairs.object _ e found]
  omega

end Registry.Pairs

/-- The number of holders that a connection has beside its cursors: its handle, if that is
registered. -/
def Host.hands (h : Host) (c : Nat) : Nat :=
  (h.connections.entries.get? c).isSome.toNat

/-- Handles are registered until they are given up, and every object lives on its holders. -/
structure Lives (h : Host) (t : Trace) : Prop where
  handles : Handles h t
  environments : h.environments.Pairs h.state.environments.next
  connections : h.connections.Pairs h.state.connections.next
  cursors : h.cursors.Pairs h.state.cursors.next
  anchored : Anchored h.hands t.Shut h.state
  cursor : ∀ k, (h.cursors.entries.get? k).isSome = (h.state.cursors.get? k).isSome

/-- What lives on what after a call, and that the call opened no cursor under a number that was
given out before. -/
structure Onward (h : Host) (t : Trace) (r : Invocation) (answer : Reply × Host) : Prop where
  lives : Lives answer.2 ((r, answer.1) :: t)
  older : Older h.state answer.2.state

/-- The registries are the same, and no object comes or goes. -/
structure Even (h g : Host) : Prop where
  registries : ∀ kind : HandleKind, kind.registry g = kind.registry h
  objects : Steady h.state g.state

instance : Std.Refl Even where
  refl h := ⟨fun _ => rfl, Std.Refl.refl h.state⟩

instance : IsTrans Host Even where
  trans _ _ _ first second :=
    ⟨fun kind => (second.registries kind).trans (first.registries kind),
      IsTrans.trans _ _ _ first.objects second.objects⟩

/-! ## Calls under which no object comes or goes -/

section Calls

open Call

variable {α β : Type} (h : Host)

/-- Whatever happens to the heap, a host is even if its objects are steady. -/
theorem even_of_state {s : State} (objects : Steady h.state s) (heap : Heap)
    (exception : ExceptionSlot) :
    Even h { h with state := s, heap, exception } :=
  ⟨fun kind => by cases kind <;> rfl, objects⟩

theorem events_even (events : List Event) (heap : Heap) (exception : ExceptionSlot) :
    Even h { h with state := { h.state with events }, heap, exception } :=
  even_of_state h (world_steady h.state events (Std.Refl.refl _)) heap exception

theorem raise_even (error : Error) (errorPrefix : String) :
    Leaves Even (raise error errorPrefix) h :=
  events_even h _ h.heap _

theorem report_even (error : Error) (errorPrefix : String) :
    Leaves Even (report error errorPrefix) h := by
  unfold report
  split
  · exact .bind (raise_even h error errorPrefix) fun _ _ _ => .pure _
  · exact events_even h _ _ h.exception

theorem perform_even {op : Op α} (steady : Leads Steady op h.state) : Leaves Even (perform op) h :=
  even_of_state h steady h.heap h.exception

variable {h}

theorem withEntry_even {registry : Host → Registry} {x : Int64} {sentinel : α} {go : Entry → Call α}
    (goes : ∀ e, (registry h).find? x = some e → Leaves Even (go e) h) :
    Leaves Even (withEntry registry x sentinel go) h := by
  unfold Leaves
  cases found : (registry h).find? x with
  | none =>
      rw [withEntry_of_missing found]
      exact raise_even h _ _
  | some e =>
      rw [withEntry_of_live found]
      exact goes e found

theorem orRaise_even {op : Op α} {sentinel : β} {answer : α → Call β}
    (steady : Leads Steady op h.state) (e : Entry)
    (answers : ∀ x g, Leaves Even (answer x) g) : Leaves Even (orRaise e op sentinel answer) h := by
  refine .bind (perform_even h steady) fun result g _ => ?_
  cases result with
  | ok x => exact answers x g
  | error error => exact .bind (raise_even g error e.errorPrefix) fun _ _ _ => .pure _

variable (h) (x : Int64)

theorem complete_even {op : Nat → Op Unit} (steady : ∀ c, Leads Steady (op c) h.state) :
    Leaves Even (complete x op) h := by
  refine withEntry_even fun e _ => .bind (perform_even h (steady e.object)) fun result g _ => ?_
  cases result with
  | ok _ => exact .pure _
  | error error => exact report_even g error e.errorPrefix

theorem closeEnvironment_even : Leaves Even (Call.closeEnvironment x) h :=
  withEntry_even fun e _ => orRaise_even (closeEnvironment_steady h.state e.object) e
    fun _ _ => .pure _

theorem setAutocommit_even (enabled : Int64) : Leaves Even (Call.setAutocommit x enabled) h :=
  withEntry_even fun e _ => orRaise_even (setAutocommit_steady h.state e.object _) e
    fun _ _ => .pure _

theorem escape_even (text : Address) : Leaves Even (Call.escape x text) h :=
  withEntry_even fun _ _ => even_of_state h (Std.Refl.refl h.state) _ h.exception

theorem lastNumber_even : Leaves Even (Call.lastNumber x) h :=
  withEntry_even fun e _ => orRaise_even (lastNumber_leads h.state e.object) e fun _ _ => .pure _

theorem fetch_even : Leaves Even (Call.fetch x) h := by
  refine withEntry_even fun e _ =>
    .bind (perform_even h (next_steady h.state e.object)) fun result g _ => ?_
  rcases result with error | _ | row
  · exact report_even g error e.errorPrefix
  · exact .pure _
  · exact even_of_state g (Std.Refl.refl g.state) _ g.exception

theorem fetchInto_even (record mode : Address) : Leaves Even (Call.fetchInto x record mode) h := by
  refine withEntry_even fun e _ => .get_bind ?_
  split
  · exact .bind (raise_even h _ _) fun _ _ _ => .pure _
  · next r _ =>
      refine .bind (Std.Refl.refl h : Leaves Even (textAt mode) h) fun text g _ =>
        .bind (perform_even g (fetchInto_steady g.state e.object (.record r) (modeOf text)))
          fun result g _ => ?_
      rcases result with error | ⟨_ | _, target⟩
      · exact report_even g error e.errorPrefix
      · exact .pure _
      · exact even_of_state g (Std.Refl.refl g.state) _ g.exception

theorem columnNames_even : Leaves Even (Call.columnNames x) h :=
  withEntry_even fun e _ => orRaise_even (columnNames_leads h.state e.object) e
    fun _ g => even_of_state g (Std.Refl.refl g.state) _ g.exception

theorem columnTypes_even : Leaves Even (Call.columnTypes x) h :=
  withEntry_even fun e _ => orRaise_even (columnTypes_leads h.state e.object) e
    fun _ g => even_of_state g (Std.Refl.refl g.state) _ g.exception

theorem closeCursor_even : Leaves Even (Call.closeCursor x) h :=
  withEntry_even fun e _ => orRaise_even (closeCursor_steady h.state e.object) e fun _ _ => .pure _

end Calls

/-! ## Every call -/

namespace Lives

variable {h g : Host} {t : Trace} {r : Invocation} {reply : Reply}

theorem start (disk : Disk) : Lives (.start disk) [] where
  handles := .start disk
  environments := ⟨rfl, by simp [Host.start]⟩
  connections := ⟨rfl, by simp [Host.start]⟩
  cursors := ⟨rfl, by simp [Host.start]⟩
  anchored := by
    have none_ : Trace.Shut [] = fun _ => False := by
      funext c
      simp [Trace.Shut]
    rw [none_]
    exact .start disk
  cursor k := rfl

/-- A call that leaves everything even goes on with every life. -/
theorem even (lives : Lives h t) (even : Even h g)
    (numbered : Numbered g (Trace.issued ((r, reply) :: t))) (gives : r.gives reply = none)
    (shuts : r.shuts reply = none) : Onward h t r (reply, g) := by
  have nexts := even.objects.nexts
  have environments : g.environments = h.environments := even.registries .environment
  have connections : g.connections = h.connections := even.registries .connection
  have cursors : g.cursors = h.cursors := even.registries .cursor
  refine ⟨⟨lives.handles.same even.registries numbered gives, ?_, ?_, ?_, ?_, fun k => ?_⟩,
    even.objects.older⟩
  · rw [environments, nexts.environments]
    exact lives.environments
  · rw [connections, nexts.connections]
    exact lives.connections
  · rw [cursors, nexts.cursors]
    exact lives.cursors
  · have hands : g.hands = h.hands := by
      funext c
      rw [Host.hands, Host.hands, connections]
    rw [shut_of_none shuts, hands]
    exact lives.anchored.steady even.objects
  · rw [cursors, lives.cursor]
    simpa using (congrArg Option.isSome (even.objects.cursors k)).symm

/-- A call that answers the handle of a new environment. -/
theorem openEnvironment {errorPrefix : String} {s : State} (lives : Lives h t)
    (environments : s.environments.next = h.state.environments.next + 1)
    (connections : s.connections = h.state.connections) (cursors : s.cursors = h.state.cursors)
    (world : s.world = h.state.world)
    (numbered : Numbered { h with
        state := s
        environments := (h.environments.insert h.state.environments.next errorPrefix).2 }
      (Trace.issued ((r, reply) :: t)))
    (gives : r.gives reply = none) (shuts : r.shuts reply = none) :
    Onward h t r (reply, { h with
      state := s
      environments := (h.environments.insert h.state.environments.next errorPrefix).2 }) := by
  have others (kind : HandleKind) (other : kind ≠ .environment) :
      kind.registry { h with
        state := s
        environments := (h.environments.insert h.state.environments.next errorPrefix).2 } =
          kind.registry h := by
    cases kind with
    | environment => exact absurd rfl other
    | connection | cursor => rfl
  refine ⟨⟨lives.handles.insert .environment rfl others numbered gives, ?_, ?_, ?_, ?_,
    fun k => ?_⟩, .of_eq cursors⟩
  · rw [environments]
    exact lives.environments.insert errorPrefix
  · rw [connections]
    exact lives.connections
  · rw [cursors]
    exact lives.cursors
  · rw [shut_of_none shuts]
    obtain ⟨handled, held, sole, apart, owned, known⟩ := lives.anchored
    constructor <;> simp only [connections, cursors, world] <;> assumption
  · rw [cursors]
    exact lives.cursor k

/-- A call that answers the handle of a new connection. -/
theorem connect {errorPrefix : String} {s : State} {e id : Nat} (lives : Lives h t)
    (environments : s.environments.next = h.state.environments.next)
    (cursors : s.cursors = h.state.cursors)
    (connections : s.connections =
      (h.state.connections.insert { session := some id, environment := e }).2)
    (fresh : h.state.world.session? id = none)
    (opened : ∀ j, (s.world.session? j).isSome ↔ j = id ∨ (h.state.world.session? j).isSome)
    (numbered : Numbered { h with
        state := s, connections := (h.connections.insert h.state.connections.next errorPrefix).2 }
      (Trace.issued ((r, reply) :: t)))
    (gives : r.gives reply = none) (shuts : r.shuts reply = none) :
    Onward h t r (reply, { h with
      state := s
      connections := (h.connections.insert h.state.connections.next errorPrefix).2 }) := by
  have others (kind : HandleKind) (other : kind ≠ .connection) :
      kind.registry { h with
        state := s, connections := (h.connections.insert h.state.connections.next errorPrefix).2 } =
          kind.registry h := by
    cases kind with
    | connection => exact absurd rfl other
    | environment | cursor => rfl
  refine ⟨⟨lives.handles.insert .connection rfl others numbered gives, ?_, ?_, ?_, ?_,
    fun k => ?_⟩, .of_eq cursors⟩
  · rw [environments]
    exact lives.environments
  · rw [connections]
    exact lives.connections.insert errorPrefix
  · rw [cursors]
    exact lives.cursors
  · have hands : Host.hands { h with
        state := s, connections := (h.connections.insert h.state.connections.next errorPrefix).2 } =
        Function.update h.hands h.state.connections.next 1 := by
      funext c
      change (((h.connections.entries.insert ⟨h.state.connections.next, errorPrefix⟩).2.get?
        c).isSome).toNat = _
      rw [Pool.get?_insert, lives.connections.next, Function.update_apply]
      split <;> rfl
    rw [shut_of_none shuts, hands]
    exact lives.anchored.connect connections cursors rfl rfl fresh opened
  · rw [cursors]
    exact lives.cursor k

/-- A call that answers the handle of a new cursor. -/
theorem execute {errorPrefix : String} {u : State} {c : Nat} {cursor : Cursor} (lives : Lives h t)
    (there : (h.state.connections.get? c).isSome) (same : Steady h.state u)
    (cursors : u.cursors = h.state.cursors) (of : cursor.connection = c)
    (sole : cursor.holders = 1)
    (numbered : Numbered { h with
        state := { u with
          connections := u.connections.modify c fun connection => { connection with
            openCursors := connection.openCursors + 1, holders := connection.holders + 1 }
          cursors := (u.cursors.insert cursor).2 }
        cursors := (h.cursors.insert h.state.cursors.next errorPrefix).2 }
      (Trace.issued ((r, reply) :: t)))
    (gives : r.gives reply = none) (shuts : r.shuts reply = none) :
    Onward h t r (reply, { h with
      state := { u with
        connections := u.connections.modify c fun connection => { connection with
          openCursors := connection.openCursors + 1, holders := connection.holders + 1 }
        cursors := (u.cursors.insert cursor).2 }
      cursors := (h.cursors.insert h.state.cursors.next errorPrefix).2 }) := by
  have others (kind : HandleKind) (other : kind ≠ .cursor) :
      kind.registry { h with
        state := { u with
          connections := u.connections.modify c fun connection => { connection with
            openCursors := connection.openCursors + 1, holders := connection.holders + 1 }
          cursors := (u.cursors.insert cursor).2 }
        cursors := (h.cursors.insert h.state.cursors.next errorPrefix).2 } = kind.registry h := by
    cases kind with
    | cursor => exact absurd rfl other
    | environment | connection => rfl
  refine ⟨⟨lives.handles.insert .cursor rfl others numbered gives, ?_, ?_, ?_, ?_,
    fun k => ?_⟩, .insert cursors⟩
  · dsimp only
    rw [same.environments]
    exact lives.environments
  · dsimp only
    rw [Pool.next_modify, same.nextConnection]
    exact lives.connections
  · dsimp only
    rw [Pool.next_insert, same.nextCursor]
    exact lives.cursors.insert errorPrefix
  · rw [shut_of_none shuts]
    have exists_ : (u.connections.get? c).isSome := by
      have tie := congrArg Option.isSome (same.connections c)
      simp only [Option.isSome_map] at tie
      rw [tie]
      exact there
    exact (lives.anchored.steady same).openCursor exists_ of sole
  · change ((h.cursors.entries.insert ⟨h.state.cursors.next, errorPrefix⟩).2.get? k).isSome =
      ((u.cursors.insert cursor).2.get? k).isSome
    rw [Pool.get?_insert, Pool.get?_insert, lives.cursors.next, same.nextCursor, cursors]
    split
    · rfl
    · exact lives.cursor k

/-- A call that closes a connection. -/
theorem close {s : State} {x : Int64} {e : Entry} {id : Nat} (lives : Lives h t)
    (found : h.connections.find? x = some e)
    (session : sessionAt h.state.connections e.object = some id)
    (environments : s.environments = h.state.environments) (cursors : s.cursors = h.state.cursors)
    (connections : s.connections = h.state.connections.modify e.object fun connection =>
      { connection with session := none, keepsEnvironment := false })
    (closed : ∀ j, s.world.session? j = if j = id then none else h.state.world.session? j)
    (numbered : Numbered { h with state := s } (Trace.issued ((r, reply) :: t)))
    (gives : r.gives reply = none) (shuts : r.shuts reply = some x) :
    Onward h t r (reply, { h with state := s }) := by
  have registries (kind : HandleKind) : kind.registry { h with state := s } = kind.registry h := by
    cases kind <;> rfl
  have number := lives.connections.object_of_find? found
  have shut : Trace.Shut ((r, reply) :: t) = fun d => d = e.object ∨ t.Shut d := by
    funext d
    rw [shut_cons, shuts]
    refine propext (or_congr_left ⟨?_, fun here => ⟨x, rfl, by omega⟩⟩)
    rintro ⟨_, ⟨⟩, here⟩
    omega
  refine ⟨⟨lives.handles.same registries numbered gives, ?_, ?_, ?_, ?_, fun k => ?_⟩,
    .of_eq cursors⟩
  · dsimp only
    rw [environments]
    exact lives.environments
  · dsimp only
    rw [connections, Pool.next_modify]
    exact lives.connections
  · dsimp only
    rw [cursors]
    exact lives.cursors
  · rw [shut]
    exact lives.anchored.close session cursors connections closed
  · dsimp only
    rw [cursors]
    exact lives.cursor k

/-- A call that gives up the handle of an environment. -/
theorem releaseEnvironment {x : Int64} {e : Entry} (lives : Lives h t)
    (found : h.environments.find? x = some e)
    (numbered : Numbered { h with environments := (h.environments.remove x).2 }
      (Trace.issued ((r, reply) :: t)))
    (gives : r.gives reply = some (.environment, x)) (shuts : r.shuts reply = none) :
    Onward h t r (reply, { h with environments := (h.environments.remove x).2 }) := by
  have others (kind : HandleKind) (other : kind ≠ .environment) :
      kind.registry { h with environments := (h.environments.remove x).2 } = kind.registry h := by
    cases kind with
    | environment => exact absurd rfl other
    | connection | cursor => rfl
  refine ⟨⟨lives.handles.remove .environment found rfl others numbered gives,
    lives.environments.remove x, lives.connections, lives.cursors, ?_, lives.cursor⟩, .of_eq rfl⟩
  rw [shut_of_none shuts]
  exact lives.anchored

/-- A call that gives up the handle of a connection. -/
theorem releaseConnection {x : Int64} {e : Entry} (lives : Lives h t)
    (found : h.connections.find? x = some e)
    (numbered : Numbered { h with
        state := (exec (Connection.release e.object) h.state).2
        connections := (h.connections.remove x).2 } (Trace.issued ((r, reply) :: t)))
    (gives : r.gives reply = some (.connection, x)) (shuts : r.shuts reply = none) :
    Onward h t r (reply, { h with
      state := (exec (Connection.release e.object) h.state).2
      connections := (h.connections.remove x).2 }) := by
  obtain ⟨nexts, cursors⟩ := releaseConnection_keeps h.state e.object
  have others (kind : HandleKind) (other : kind ≠ .connection) :
      kind.registry { h with
        state := (exec (Connection.release e.object) h.state).2
        connections := (h.connections.remove x).2 } = kind.registry h := by
    cases kind with
    | connection => exact absurd rfl other
    | environment | cursor => rfl
  have number : e.object = x.toInt.toNat := by
    have := lives.connections.object_of_find? found
    omega
  have there : h.connections.entries.get? e.object = some e := by
    rw [number, ← Registry.find?_of_pos _ (Registry.pos_of_find? found)]
    exact found
  have hand : h.hands e.object = 0 + 1 := by
    rw [Host.hands, there]
    rfl
  have hands : Host.hands { h with
      state := (exec (Connection.release e.object) h.state).2
      connections := (h.connections.remove x).2 } = Function.update h.hands e.object 0 := by
    funext c
    rw [Host.hands, Registry.remove, found, Function.update_apply]
    dsimp only
    rw [Pool.get?_erase, number]
    split <;> rfl
  refine ⟨⟨lives.handles.remove .connection found rfl others numbered gives, ?_, ?_, ?_,
    ?_, fun k => ?_⟩, .of_eq cursors⟩
  · dsimp only
    rw [nexts.environments]
    exact lives.environments
  · dsimp only
    rw [nexts.connections]
    exact lives.connections.remove x
  · dsimp only
    rw [nexts.cursors]
    exact lives.cursors
  · rw [shut_of_none shuts, hands]
    exact lives.anchored.releaseConnection hand
  · dsimp only
    rw [cursors]
    exact lives.cursor k

/-- A call that gives up the handle of a cursor. -/
theorem releaseCursor {x : Int64} {e : Entry} (lives : Lives h t)
    (found : h.cursors.find? x = some e)
    (numbered : Numbered { h with
        state := (exec (Cursor.release e.object) h.state).2
        cursors := (h.cursors.remove x).2 } (Trace.issued ((r, reply) :: t)))
    (gives : r.gives reply = some (.cursor, x)) (shuts : r.shuts reply = none) :
    Onward h t r (reply, { h with
      state := (exec (Cursor.release e.object) h.state).2
      cursors := (h.cursors.remove x).2 }) := by
  have others (kind : HandleKind) (other : kind ≠ .cursor) :
      kind.registry { h with
        state := (exec (Cursor.release e.object) h.state).2
        cursors := (h.cursors.remove x).2 } = kind.registry h := by
    cases kind with
    | cursor => exact absurd rfl other
    | environment | connection => rfl
  have number : e.object = x.toInt.toNat := by
    have := lives.cursors.object_of_find? found
    omega
  obtain ⟨cursor, there⟩ : ∃ cursor, h.state.cursors.get? e.object = some cursor := by
    rw [← Option.isSome_iff_exists, ← lives.cursor, number,
      ← Registry.find?_of_pos _ (Registry.pos_of_find? found), found]
    rfl
  have sole := (lives.anchored.sole e.object cursor.connection cursor.holders
    (by rw [there]; rfl)).1
  obtain ⟨nexts, cursors⟩ := releaseCursor_keeps h.state e.object there sole
  refine ⟨⟨lives.handles.remove .cursor found rfl others numbered gives, ?_, ?_, ?_, ?_,
    fun k => ?_⟩, .erase nexts.cursors cursors⟩
  · dsimp only
    rw [nexts.environments]
    exact lives.environments
  · dsimp only
    rw [nexts.connections]
    exact lives.connections
  · dsimp only
    rw [nexts.cursors]
    exact lives.cursors.remove x
  · rw [shut_of_none shuts]
    exact lives.anchored.releaseCursor there
  · have erased : ((h.cursors.remove x).2.entries.get? k).isSome =
        if k = e.object then false else (h.cursors.entries.get? k).isSome := by
      rw [Registry.remove, found, number]
      dsimp only
      rw [Pool.get?_erase]
      split <;> rfl
    have gone := congrArg Option.isSome (cursors k)
    rw [Option.isSome_map] at gone
    dsimp only
    rw [erased, gone, lives.cursor]
    split <;> simp

end Lives

theorem run_map {α β : Type} (h : Host) (f : α → β) (c : Call α) :
    StateT.run (f <$> c) h = (f (StateT.run c h).1, (StateT.run c h).2) := rfl

namespace Lives

open Call

variable {h : Host} {t : Trace}

/-- A connection that was opened begins a life; everything else lives on. -/
theorem after_connect (lives : Lives h t) (x : Int64) (source : Address) (timeout : Int64) :
    Onward h t (.connect x source timeout)
      (StateT.run (Invocation.answer (.connect x source timeout)) h) := by
  have numbered := lives.handles.numbered.step (.connect x source timeout)
  cases found : h.environments.find? x with
  | none =>
      have answer : StateT.run (Invocation.connect x source timeout).answer h = _ :=
        answer_of_missing rfl found (lives.handles.numbered.named .environment)
      rw [answer] at numbered ⊢
      exact lives.even (events_even h _ h.heap _) numbered rfl rfl
  | some e =>
      simp only [Invocation.answer, run_map, Call.connect, withEntry_of_live found] at numbered ⊢
      rw [run_bind, run_textAt] at numbered ⊢
      dsimp only at numbered ⊢
      rw [run_bind, run_perform] at numbered ⊢
      have opens := connect_opens h.state e.object (h.heap.stringAt source)
        (if timeout.toInt < 0 then none else some timeout.toInt.toNat)
      generalize exec (Environment.connect e.object _ _) h.state = result at opens numbered ⊢
      rcases result with ⟨error | c | _, s⟩
      · have even : Even h { h with state := s } := even_of_state h opens _ _
        exact lives.even (IsTrans.trans _ _ _ even (report_even _ error e.errorPrefix)) numbered
          rfl rfl
      · obtain ⟨rfl, environments, cursors, id, fresh, opened, connections⟩ := opens
        exact lives.connect environments cursors connections fresh opened numbered rfl rfl
      · exact lives.even (even_of_state h opens _ _) numbered rfl rfl

theorem after_execute (lives : Lives h t) (x : Int64) (sql : Address) :
    Onward h t (.execute x sql) (StateT.run (Invocation.answer (.execute x sql)) h) := by
  have numbered := lives.handles.numbered.step (.execute x sql)
  cases found : h.connections.find? x with
  | none =>
      have answer : StateT.run (Invocation.execute x sql).answer h = _ :=
        answer_of_missing rfl found (lives.handles.numbered.named .connection)
      rw [answer] at numbered ⊢
      exact lives.even (events_even h _ h.heap _) numbered rfl rfl
  | some e =>
      simp only [Invocation.answer, run_map, Call.execute, withEntry_of_live found] at numbered ⊢
      rw [run_bind, run_textAt] at numbered ⊢
      dsimp only at numbered ⊢
      rw [run_bind, run_perform] at numbered ⊢
      have opens := execute_opens h.state e.object (h.heap.stringAt sql)
      generalize exec (Connection.execute e.object _) h.state = result at opens numbered ⊢
      rcases result with ⟨error | n | k, s⟩
      · have even : Even h { h with state := s } := even_of_state h opens _ _
        exact lives.even (IsTrans.trans _ _ _ even (report_even _ error e.errorPrefix)) numbered
          rfl rfl
      · exact lives.even (even_of_state h opens _ _) numbered rfl rfl
      · obtain ⟨rfl, there, u, cursor, same, cursors, of, sole, rfl⟩ := opens
        exact lives.execute there same cursors of sole numbered rfl rfl

/-- A driver that is opened begins the life of an environment, or nothing begins. -/
theorem after_openDriver (lives : Lives h t) {r : Invocation} (driver : String) (config : Config)
    (answer : StateT.run r.answer h =
      (.word (StateT.run (openDriver driver config) h).1,
        (StateT.run (openDriver driver config) h).2))
    (gives : ∀ reply, r.gives reply = none) (shuts : ∀ reply, r.shuts reply = none) :
    Onward h t r (StateT.run r.answer h) := by
  have numbered := lives.handles.numbered.step r
  rw [answer] at numbered ⊢
  unfold openDriver Environment.openNamed at numbered ⊢
  cases known : DriverInfo.find? driver with
  | none =>
      rw [known] at numbered
      exact lives.even (events_even h _ h.heap _) numbered (gives _) (shuts _)
  | some info =>
      rw [known] at numbered
      exact lives.openEnvironment (s := { h.state with
          environments := (h.state.environments.insert { config }).2
          events := .environmentOpened driver h.environments.entries.next :: h.state.events })
        rfl rfl rfl rfl numbered (gives _) (shuts _)

theorem after_closeConnection (lives : Lives h t) (x : Int64) :
    Onward h t (.closeConnection x) (StateT.run (Invocation.answer (.closeConnection x)) h) := by
  have numbered := lives.handles.numbered.step (.closeConnection x)
  cases found : h.connections.find? x with
  | none =>
      have answer : StateT.run (Invocation.closeConnection x).answer h = _ :=
        answer_of_missing rfl found (lives.handles.numbered.named .connection)
      rw [answer] at numbered ⊢
      exact lives.even (events_even h _ h.heap _) numbered rfl rfl
  | some e =>
      simp only [Invocation.answer, run_map, Call.closeConnection,
        withEntry_of_live found] at numbered ⊢
      unfold orRaise at numbered ⊢
      rw [run_bind, run_perform] at numbered ⊢
      have closes := closeConnection_closes h.state e.object
      generalize exec (Connection.close e.object) h.state = result at closes numbered ⊢
      rcases result with ⟨error | _ | _, s⟩
      · obtain rfl : s = h.state := closes
        exact lives.even (raise_even h error e.errorPrefix) numbered rfl rfl
      · obtain rfl : s = h.state := closes
        exact lives.even (Std.Refl.refl h) numbered rfl rfl
      · obtain ⟨id, session, environments, cursors, connections, closed⟩ := closes
        exact lives.close found session environments cursors connections closed numbered rfl rfl

/-- Releasing what is not there ends no life. -/
theorem after_missing (lives : Lives h t) {r : Invocation} (kind : HandleKind) {x : Int64}
    (releases : r.isRelease) (expects : r.expects = some (kind, x))
    (missing : (kind.registry h).find? x = none) :
    Onward h t r (StateT.run r.answer h) := by
  have numbered := lives.handles.numbered.step r
  rw [release_of_missing releases expects missing] at numbered ⊢
  refine lives.even (Std.Refl.refl h) numbered ?_ ?_ <;> cases r <;> rfl

theorem after_release (lives : Lives h t) {r : Invocation} (releases : r.isRelease) :
    Onward h t r (StateT.run r.answer h) := by
  have numbered := lives.handles.numbered.step r
  cases r with
  | releaseEnvironment x =>
      cases found : h.environments.find? x with
      | none => exact lives.after_missing .environment rfl rfl found
      | some e =>
          simp only [Invocation.answer, run_map, run_releaseEnvironment h x found] at numbered ⊢
          exact lives.releaseEnvironment found numbered rfl rfl
  | releaseConnection x =>
      cases found : h.connections.find? x with
      | none => exact lives.after_missing .connection rfl rfl found
      | some e =>
          simp only [Invocation.answer, run_map, run_releaseConnection h x found] at numbered ⊢
          exact lives.releaseConnection found numbered rfl rfl
  | releaseCursor x =>
      cases found : h.cursors.find? x with
      | none => exact lives.after_missing .cursor rfl rfl found
      | some e =>
          simp only [Invocation.answer, run_map, run_releaseCursor h x found] at numbered ⊢
          exact lives.releaseCursor found numbered rfl rfl
  | _ => cases releases

/-- Every call keeps what lives on what. -/
theorem step (lives : Lives h t) (r : Invocation) :
    Onward h t r (StateT.run r.answer h) := by
  have numbered := lives.handles.numbered.step r
  cases r with
  | openDefault driver => exact lives.after_openDriver _ _ rfl (fun _ => rfl) fun _ => rfl
  | openWithConfig driver path =>
      cases read : Config.ofFile (h.heap.stringAt path)
          (h.state.world.disk.readText (h.heap.stringAt path)) with
      | ok config =>
          refine lives.after_openDriver (h.heap.stringAt driver) config ?_
            (fun _ => rfl) fun _ => rfl
          change (Reply.word (StateT.run (openWithConfig driver path) h).1,
            (StateT.run (openWithConfig driver path) h).2) = _
          rw [run_openWithConfig, read]
      | error error =>
          refine lives.even ?_ numbered rfl rfl
          change Even h (StateT.run (openWithConfig driver path) h).2
          rw [run_openWithConfig, read]
          exact raise_even h error defaultPrefix
  | connect x source timeout => exact lives.after_connect x source timeout
  | execute x sql => exact lives.after_execute x sql
  | closeConnection x => exact lives.after_closeConnection x
  | releaseEnvironment x => exact lives.after_release rfl
  | releaseConnection x => exact lives.after_release rfl
  | releaseCursor x => exact lives.after_release rfl
  | closeEnvironment x => exact lives.even (closeEnvironment_even h x) numbered rfl rfl
  | commit x =>
      exact lives.even (complete_even h x fun c => endTransaction_steady h.state c _) numbered
        rfl rfl
  | rollback x =>
      exact lives.even (complete_even h x fun c => endTransaction_steady h.state c _) numbered
        rfl rfl
  | setAutocommit x enabled => exact lives.even (setAutocommit_even h x enabled) numbered rfl rfl
  | escape x text => exact lives.even (escape_even h x text) numbered rfl rfl
  | lastNumber x => exact lives.even (lastNumber_even h x) numbered rfl rfl
  | fetch x => exact lives.even (fetch_even h x) numbered rfl rfl
  | fetchInto x record mode => exact lives.even (fetchInto_even h x record mode) numbered rfl rfl
  | columnNames x => exact lives.even (columnNames_even h x) numbered rfl rfl
  | columnTypes x => exact lives.even (columnTypes_even h x) numbered rfl rfl
  | closeCursor x => exact lives.even (closeCursor_even h x) numbered rfl rfl
  | work heap exception =>
      exact lives.even (even_of_state h (Std.Refl.refl h.state) heap exception) numbered rfl rfl

/-- A run of calls keeps what lives on what. -/
theorem calling (lives : Lives h t) (calls : List Invocation) :
    Lives (h.calling calls).1 ((h.calling calls).2 ++ t) ∧
      Older h.state (h.calling calls).1.state := by
  induction calls generalizing h t with
  | nil => exact ⟨lives, Std.Refl.refl h.state⟩
  | cons r rest ih =>
      obtain ⟨lives', older⟩ := lives.step r
      obtain ⟨end_, older'⟩ := ih lives'
      rw [calling_cons, List.append_assoc]
      exact ⟨end_, IsTrans.trans _ _ _ older older'⟩

/-- In every run, what lives on what. -/
theorem run (disk : Disk) (calls : List Invocation) :
    Lives (Host.calling (.start disk) calls).1 (Host.calling (.start disk) calls).2 := by
  have lives := ((start disk).calling calls).1
  rw [List.append_nil] at lives
  exact lives

end Lives

end SqlDriver
