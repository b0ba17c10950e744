/-
# SqlDriver.Proofs.Call.Invocation -- calls by handle, and the handles that they answer

`Invocation` lists the calls of a program that give or answer handles, with the program's own
work on its memory between them.  A call that is given a handle says which kind of object
it expects (`Invocation.expects`); three calls answer a handle for a new object
(`Invocation.issues`).  What a call does to the registries is little: it leaves them be,
removes an object from one, or stores one under the next number of one (`answer_effect`).
-/
import SqlDriver.Call.Connection
import SqlDriver.Call.Cursor
import SqlDriver.Call.Environment
import SqlDriver.Proofs.Driver.Mild

namespace SqlDriver

set_option autoImplicit false

/-! ## Kinds of handles -/

/-- What a handle can stand for. -/
inductive HandleKind where
  | environment
  | connection
  | cursor
deriving DecidableEq, Repr

namespace HandleKind

/-- The name by which a refusal calls the kind. -/
def name : HandleKind → String
  | environment => "environment"
  | connection => "connection"
  | cursor => "cursor"

/-- The objects of a kind. -/
def registry : HandleKind → Host → Registry
  | environment => Host.environments
  | connection => Host.connections
  | cursor => Host.cursors

end HandleKind

/-! ## Invocations -/

/-- A call of a program, or its own work between two calls. -/
inductive Invocation where
  | openDefault (driver : Address)
  | openWithConfig (driver path : Address)
  | connect (environment : Int64) (source : Address) (timeout : Int64)
  | closeEnvironment (environment : Int64)
  | releaseEnvironment (environment : Int64)
  | execute (connection : Int64) (sql : Address)
  | commit (connection : Int64)
  | rollback (connection : Int64)
  | setAutocommit (connection enabled : Int64)
  | escape (connection : Int64) (text : Address)
  | lastNumber (connection : Int64)
  | closeConnection (connection : Int64)
  | releaseConnection (connection : Int64)
  | fetch (cursor : Int64)
  | fetchInto (cursor : Int64) (record mode : Address)
  | columnNames (cursor : Int64)
  | columnTypes (cursor : Int64)
  | closeCursor (cursor : Int64)
  | releaseCursor (cursor : Int64)
  /-- The program changes its objects and looks after the exception that waits. -/
  | work (heap : Heap) (exception : ExceptionSlot)

/-- What a call answers. -/
inductive Reply where
  | word (x : Int64)
  | address (a : Address)
  | ended (e : Ended)
deriving DecidableEq, Repr

namespace Invocation

/-- Performs a call. -/
def answer : Invocation → Call Reply
  | openDefault driver => .word <$> Call.openDefault driver
  | openWithConfig driver path => .word <$> Call.openWithConfig driver path
  | connect environment source timeout => .ended <$> Call.connect environment source timeout
  | closeEnvironment environment => .word <$> Call.closeEnvironment environment
  | releaseEnvironment environment => .word <$> Call.releaseEnvironment environment
  | execute connection sql => .ended <$> Call.execute connection sql
  | commit connection => .ended <$> Call.commit connection
  | rollback connection => .ended <$> Call.rollback connection
  | setAutocommit connection enabled => .word <$> Call.setAutocommit connection enabled
  | escape connection text => .address <$> Call.escape connection text
  | lastNumber connection => .word <$> Call.lastNumber connection
  | closeConnection connection => .word <$> Call.closeConnection connection
  | releaseConnection connection => .word <$> Call.releaseConnection connection
  | fetch cursor => .ended <$> Call.fetch cursor
  | fetchInto cursor record mode => .ended <$> Call.fetchInto cursor record mode
  | columnNames cursor => .address <$> Call.columnNames cursor
  | columnTypes cursor => .address <$> Call.columnTypes cursor
  | closeCursor cursor => .word <$> Call.closeCursor cursor
  | releaseCursor cursor => .word <$> Call.releaseCursor cursor
  | work heap exception => do
      modify fun h => { h with heap, exception }
      return .word 0

/-- The handle that a call is given, and the kind of object that it expects. -/
def expects : Invocation → Option (HandleKind × Int64)
  | connect x _ _ | closeEnvironment x | releaseEnvironment x => some (.environment, x)
  | execute x _ | commit x | rollback x | setAutocommit x _ | escape x _ | lastNumber x
  | closeConnection x | releaseConnection x => some (.connection, x)
  | fetch x | fetchInto x _ _ | columnNames x | columnTypes x | closeCursor x
  | releaseCursor x => some (.cursor, x)
  | openDefault _ | openWithConfig .. | work .. => none

/-- The call gives up a handle. -/
def isRelease : Invocation → Bool
  | releaseEnvironment _ | releaseConnection _ | releaseCursor _ => true
  | _ => false

/-- What a call answers when the handle stands for nothing. -/
def sentinel : Invocation → Reply
  | connect .. | execute .. | commit _ | rollback _ | fetch _ | fetchInto .. =>
      .ended Call.refused
  | escape .. | columnNames _ | columnTypes _ => .address 0
  | _ => .word 0

/-- The handle of a new object that a call answers; zero is none. -/
def issues (r : Invocation) (reply : Reply) : Option (HandleKind × Int64) :=
  match r, reply with
  | openDefault _, .word x | openWithConfig .., .word x =>
      if x = 0 then none else some (.environment, x)
  | connect .., .ended ⟨.ok, x⟩ => if x = 0 then none else some (.connection, x)
  | execute .., .ended ⟨.cursor, x⟩ => if x = 0 then none else some (.cursor, x)
  | _, _ => none

end Invocation

namespace Host

/-- The host that a program begins with. -/
def start (disk : Disk) : Host := { state := { world := { disk } } }

/-- An exception that says which kind of object was expected. -/
def misused (h : Host) (kind : HandleKind) (x : Int64) : Host :=
  { h with
    state := { h.state with events := .raised (.invalidHandle kind.name x) :: h.state.events }
    exception := .throw (Call.defaultPrefix ++ (kind.name ++ " expected")) (Int64.ofInt (-1)) }

end Host

/-- A call, and the handle that it adds to those answered so far. -/
def Invocation.issue (before : Host × List (HandleKind × Int64)) (r : Invocation) :
    Host × List (HandleKind × Int64) :=
  let (reply, h) := StateT.run r.answer before.1
  (h, (r.issues reply).toList ++ before.2)

/-- What some calls make of a host, and the handles that they answered, the latest first. -/
def issuing (disk : Disk) (calls : List Invocation) : Host × List (HandleKind × Int64) :=
  calls.foldl Invocation.issue (.start disk, [])

/-! ## What calls leave behind -/

/-- After a call in `h` comes a host that `r` allows. -/
def Leaves {α : Type} (r : Host → Host → Prop) (c : Call α) (h : Host) : Prop :=
  r h (StateT.run c h).2

namespace Leaves

variable {α β : Type} {r : Host → Host → Prop} {h : Host}

theorem pure [Std.Refl r] (x : α) : Leaves r (Pure.pure x : Call α) h :=
  Std.Refl.refl h

theorem bind [IsTrans Host r] {c : Call α} {f : α → Call β} (first : Leaves r c h)
    (rest : ∀ x g, StateT.run c h = (x, g) → Leaves r (f x) g) : Leaves r (c >>= f) h :=
  IsTrans.trans _ _ _ first (rest _ _ rfl)

theorem get_bind {f : Host → Call β} (rest : Leaves r (f h) h) : Leaves r (get >>= f) h :=
  rest

end Leaves

/-- The registries of two hosts have given out the same numbers. -/
def SameNumbers (h g : Host) : Prop :=
  ∀ kind : HandleKind, (kind.registry g).kind = (kind.registry h).kind ∧
    (kind.registry g).entries.next = (kind.registry h).entries.next

instance : Std.Refl SameNumbers where
  refl _ _ := ⟨rfl, rfl⟩

instance : IsTrans Host SameNumbers where
  trans _ _ _ first second kind :=
    ⟨(second kind).1.trans (first kind).1, (second kind).2.trans (first kind).2⟩

/-- A registry gave out its next number, and the others gave out none. -/
def Inserts (kind : HandleKind) (h g : Host) : Prop :=
  ∀ k : HandleKind, (k.registry g).kind = (k.registry h).kind ∧
    (k.registry g).entries.next = (k.registry h).entries.next + if k = kind then 1 else 0

/-- What is told does not say that a handle of one of the kinds stands for nothing. -/
def Event.isDiscreet (e : Event) : Prop :=
  ∀ (kind : HandleKind) x, e ≠ .raised (.invalidHandle kind.name x)

/-- Nothing was told of the misuse of a handle. -/
def Discreet (h g : Host) : Prop :=
  ∃ new, g.state.events = new ++ h.state.events ∧ ∀ e ∈ new, e.isDiscreet

instance : Std.Refl Discreet where
  refl _ := ⟨[], rfl, by simp⟩

instance : IsTrans Host Discreet where
  trans := by
    rintro h g k ⟨new, events, discreet⟩ ⟨more, events', discreet'⟩
    refine ⟨more ++ new, ?_, fun e among => ?_⟩
    · rw [events', events, List.append_assoc]
    · exact (List.mem_append.1 among).elim (discreet' e) (discreet e)

/-- The registries gave out no number, and the misuse of a handle was not reported. -/
structure Plain (h g : Host) : Prop where
  numbers : SameNumbers h g
  discreet : Discreet h g

instance : Std.Refl Plain where
  refl h := ⟨Std.Refl.refl h, Std.Refl.refl h⟩

instance : IsTrans Host Plain where
  trans _ _ _ first second :=
    ⟨IsTrans.trans _ _ _ first.numbers second.numbers,
      IsTrans.trans _ _ _ first.discreet second.discreet⟩

theorem Leaves.discreet {α : Type} {c : Call α} {h : Host} (leaves : Leaves Plain c h) :
    Leaves Discreet c h :=
  Plain.discreet leaves

theorem Event.isMild.isDiscreet {e : Event} (mild : e.isMild) : e.isDiscreet :=
  fun _ _ => mild _

theorem Error.isMild.raised {error : Error} (mild : error.isMild) :
    (Event.raised error).isDiscreet :=
  fun kind x same => mild kind.name x (Event.raised.inj same)

section Calls

open Call

variable {α β : Type} (h : Host)

/-- What leaves the registries and the events alone. -/
theorem plain_of_eq {h g : Host} (environments : g.environments = h.environments)
    (connections : g.connections = h.connections) (cursors : g.cursors = h.cursors)
    (events : g.state.events = h.state.events) : Plain h g := by
  refine ⟨fun kind => ?_, [], events, by simp⟩
  cases kind
  · exact ⟨congrArg Registry.kind environments, congrArg (·.entries.next) environments⟩
  · exact ⟨congrArg Registry.kind connections, congrArg (·.entries.next) connections⟩
  · exact ⟨congrArg Registry.kind cursors, congrArg (·.entries.next) cursors⟩

theorem state_numbers (s : State) : SameNumbers h { h with state := s } :=
  fun kind => by cases kind <;> exact ⟨rfl, rfl⟩

theorem tell_numbers (e : Event) : Leaves SameNumbers (Call.tell e) h :=
  fun kind => by cases kind <;> exact ⟨rfl, rfl⟩

theorem tell_plain {e : Event} (discreet : e.isDiscreet) : Leaves Plain (Call.tell e) h :=
  ⟨tell_numbers h e, [e], rfl, by simpa using discreet⟩

theorem run_bind (c : Call α) (f : α → Call β) :
    StateT.run (c >>= f) h = StateT.run (f (StateT.run c h).1) (StateT.run c h).2 := rfl

theorem run_get_bind (f : Host → Call β) : StateT.run (get >>= f) h = StateT.run (f h) h := rfl

theorem run_textAt (a : Address) : StateT.run (textAt a) h = (h.heap.stringAt a, h) := rfl

theorem run_perform (op : Op α) :
    StateT.run (perform op) h =
      ((exec op h.state).1, { h with state := (exec op h.state).2 }) := rfl

theorem perform_plain {op : Op α} (mild : Mild op h.state) : Leaves Plain (perform op) h := by
  obtain ⟨⟨new, events, isMild⟩, _⟩ := mild
  exact ⟨fun kind => by cases kind <;> exact ⟨rfl, rfl⟩, new, events,
    fun e among => (isMild e among).isDiscreet⟩

theorem raise_numbers (error : Error) (errorPrefix : String) :
    Leaves SameNumbers (raise error errorPrefix) h :=
  fun kind => by cases kind <;> exact ⟨rfl, rfl⟩

theorem raise_plain {error : Error} (discreet : (Event.raised error).isDiscreet)
    (errorPrefix : String) : Leaves Plain (raise error errorPrefix) h :=
  ⟨raise_numbers h error errorPrefix, [.raised error], rfl, by simpa using discreet⟩

theorem raised_plain {error : Error} (discreet : (Event.raised error).isDiscreet)
    (errorPrefix : String) : Leaves Plain (raised error errorPrefix) h :=
  .bind (raise_plain h discreet errorPrefix) fun _ _ _ => .pure _

theorem textAt_plain (a : Address) : Leaves Plain (textAt a) h :=
  Std.Refl.refl h

theorem newText_plain (s : String) : Leaves Plain (newText s) h :=
  plain_of_eq rfl rfl rfl rfl

theorem report_plain {error : Error} (mild : error.isMild) (errorPrefix : String) :
    Leaves Plain (report error errorPrefix) h := by
  unfold report
  split
  · exact raised_plain h mild.raised errorPrefix
  · exact .bind (tell_plain h fun _ _ => by simp) fun _ g _ =>
      .bind (newText_plain g _) fun _ _ _ => .pure _

/-- Behind an operation a report of its error gives out no number, and its answer is neither a
success nor a cursor. -/
theorem report_answer (s : State) (error : Error) (errorPrefix : String) :
    ∃ ending value g, StateT.run (report error errorPrefix) { h with state := s } =
      (⟨ending, value⟩, g) ∧ SameNumbers h g ∧ (ending = .raised ∨ ending = .error) := by
  unfold report
  split
  · exact ⟨_, _, _, rfl, IsTrans.trans _ _ _ (state_numbers h s)
      (raise_numbers _ error errorPrefix),
      .inl rfl⟩
  · refine ⟨_, _, _, rfl, fun kind => ?_, .inr rfl⟩
    cases kind <;> exact ⟨rfl, rfl⟩

/-- An operation, and what is done after its success or its failure. -/
theorem perform_bind {op : Op α} (mild : ∀ s, Mild op s) {f : Result α → Call β}
    (succeeds : ∀ x g, Leaves Plain (f (.ok x)) g)
    (fails : ∀ error g, error.isMild → Leaves Plain (f (.error error)) g) :
    Leaves Plain (perform op >>= f) h := by
  refine .bind (perform_plain h (mild h.state)) fun result g performed => ?_
  cases result with
  | ok x => exact succeeds x g
  | error error =>
      rw [run_perform] at performed
      exact fails error g ((mild h.state).fails error (congrArg Prod.fst performed))

/-- An operation that raises nothing of its own, and what is answered behind it, is plain. -/
theorem orRaise_plain {op : Op α} (mild : ∀ s, Mild op s) (e : Entry) (sentinel : β)
    {answer : α → Call β} (answers : ∀ x g, Leaves Plain (answer x) g) :
    Leaves Plain (orRaise e op sentinel answer) h :=
  perform_bind h mild answers fun _ g isMild =>
    .bind (raise_plain g isMild.raised _) fun _ _ _ => .pure _

variable {h} {registry : Host → Registry} {x : Int64} {sentinel : α} {go : Entry → Call α}

theorem withEntry_of_live {e : Entry} (live : (registry h).find? x = some e) :
    StateT.run (withEntry registry x sentinel go) h = StateT.run (go e) h := by
  have found : (registry h).get x = .ok e := by rw [Registry.get, live]
  rw [withEntry, run_get_bind, found]

/-- A handle that stands for nothing is refused by the name of its kind. -/
theorem withEntry_of_missing (missing : (registry h).find? x = none) :
    StateT.run (withEntry registry x sentinel go) h =
      (sentinel, (StateT.run
        (raise (.invalidHandle (registry h).kind x) defaultPrefix) h).2) := by
  have refused : (registry h).get x = .error (.invalidHandle (registry h).kind x) := by
    rw [Registry.get, missing]
  rw [withEntry, run_get_bind, refused]
  rfl

/-- A call by handle gives out no number, and reports misuse only where the handle stands
for nothing. -/
structure Proper (registry : Host → Registry) (x : Int64) (c : Call α) (h : Host) : Prop where
  numbers : Leaves SameNumbers c h
  live : ∀ e, (registry h).find? x = some e → Leaves Discreet c h

theorem withEntry_proper (goes : ∀ e, Leaves Plain (go e) h) :
    Proper registry x (withEntry registry x sentinel go) h := by
  refine ⟨?_, fun e live => ?_⟩
  · cases found : (registry h).find? x with
    | none =>
        rw [Leaves, withEntry_of_missing found]
        exact raise_numbers h _ _
    | some e =>
        rw [Leaves, withEntry_of_live found]
        exact (goes e).numbers
  · rw [Leaves, withEntry_of_live live]
    exact (goes e).discreet

theorem remove_numbers (r : Registry) (x : Int64) :
    (r.remove x).2.kind = r.kind ∧ (r.remove x).2.entries.next = r.entries.next := by
  unfold Registry.remove
  cases r.find? x <;> exact ⟨rfl, rfl⟩

end Calls

/-! ## The calls -/

section Proper

open Call

variable (h : Host) (x : Int64)

theorem closeEnvironment_proper :
    Proper Host.environments x (closeEnvironment x) h :=
  withEntry_proper fun e => orRaise_plain h (fun s => closeEnvironment_mild s _) e 0
    fun _ _ => .pure _

theorem complete_proper {op : Nat → Op Unit} (mild : ∀ c s, Mild (op c) s) :
    Proper Host.connections x (complete x op) h :=
  withEntry_proper fun e => perform_bind h (mild _) (fun _ _ => .pure _)
    fun _ g isMild => report_plain g isMild e.errorPrefix

theorem setAutocommit_proper (enabled : Int64) :
    Proper Host.connections x (setAutocommit x enabled) h :=
  withEntry_proper fun e => orRaise_plain h (fun s => setAutocommit_mild s _ _) e 0
    fun _ _ => .pure _

theorem escape_proper (text : Address) : Proper Host.connections x (escape x text) h :=
  withEntry_proper fun _ => .bind (textAt_plain h text) fun _ g _ => newText_plain g _

theorem lastNumber_proper : Proper Host.connections x (lastNumber x) h :=
  withEntry_proper fun e => orRaise_plain h (fun s => lastNumber_mild s _) e 0 fun _ _ => .pure _

theorem closeConnection_proper : Proper Host.connections x (closeConnection x) h :=
  withEntry_proper fun e => orRaise_plain h (fun s => closeConnection_mild s _) e 0
    fun _ _ => .pure _

theorem fetch_proper : Proper Host.cursors x (fetch x) h := by
  refine withEntry_proper fun e => perform_bind h (fun s => next_mild s _) (fun row g => ?_)
    fun _ g isMild => report_plain g isMild e.errorPrefix
  cases row with
  | none => exact .pure _
  | some row => exact plain_of_eq rfl rfl rfl rfl

theorem fetchInto_proper (record mode : Address) :
    Proper Host.cursors x (fetchInto x record mode) h := by
  refine withEntry_proper fun e => .get_bind ?_
  split
  · refine raised_plain h (fun kind y => ?_) e.errorPrefix
    cases kind <;> simp [HandleKind.name]
  · next r _ =>
      refine .bind (textAt_plain h mode) fun text g _ => ?_
      refine perform_bind g (fun s => fetchInto_mild s _ _ _) (fun answer g => ?_)
        fun _ g isMild => report_plain g isMild e.errorPrefix
      obtain ⟨_ | _, target⟩ := answer
      · exact .pure _
      · exact plain_of_eq rfl rfl rfl rfl

theorem columnNames_proper : Proper Host.cursors x (columnNames x) h :=
  withEntry_proper fun e => orRaise_plain h (fun s => columnNames_mild s _) e 0
    fun _ _ => plain_of_eq rfl rfl rfl rfl

theorem columnTypes_proper : Proper Host.cursors x (columnTypes x) h :=
  withEntry_proper fun e => orRaise_plain h (fun s => columnTypes_mild s _) e 0
    fun _ _ => plain_of_eq rfl rfl rfl rfl

theorem closeCursor_proper : Proper Host.cursors x (closeCursor x) h :=
  withEntry_proper fun e => orRaise_plain h (fun s => close_mild s _) e 0 fun _ _ => .pure _

theorem connect_discreet (source : Address) (timeout : Int64) {e : Entry}
    (live : h.environments.find? x = some e) : Leaves Discreet (connect x source timeout) h := by
  unfold connect
  rw [Leaves, withEntry_of_live live]
  refine Leaves.bind (textAt_plain h source).discreet fun text g _ => ?_
  have mild (s : State) := connect_mild s e.object text
    (if timeout.toInt < 0 then none else some timeout.toInt.toNat)
  refine .bind (perform_plain g (mild g.state)).discreet fun result k performed => ?_
  rcases result with error | c | _
  · rw [run_perform] at performed
    exact (report_plain k ((mild g.state).fails error (congrArg Prod.fst performed)) _).discreet
  · exact ⟨[], rfl, by simp⟩
  · exact .pure _

theorem execute_discreet (sql : Address) {e : Entry}
    (live : h.connections.find? x = some e) : Leaves Discreet (execute x sql) h := by
  unfold execute
  rw [Leaves, withEntry_of_live live]
  refine Leaves.bind (textAt_plain h sql).discreet fun text g _ => ?_
  refine .bind (perform_plain g (execute_mild g.state e.object text)).discreet
    fun result k performed => ?_
  rcases result with error | n | c
  · rw [run_perform] at performed
    exact (report_plain k
      ((execute_mild g.state e.object text).fails error (congrArg Prod.fst performed)) _).discreet
  · exact .pure _
  · exact ⟨[], rfl, by simp⟩

/-- Connecting stores a connection and answers its number, or gives out none. -/
theorem connect_effect (source : Address) (timeout : Int64) :
    match StateT.run (connect x source timeout) h with
    | (⟨.ok, y⟩, g) => (∃ e, h.environments.find? x = some e) ∧ Inserts .connection h g ∧
        y = Int64.ofNat h.connections.entries.next
    | (_, g) => SameNumbers h g := by
  unfold connect
  cases found : h.environments.find? x with
  | none =>
      rw [withEntry_of_missing found]
      exact raise_numbers h _ _
  | some e =>
      rw [withEntry_of_live found, run_bind, run_textAt]
      dsimp only
      rw [run_bind, run_perform]
      generalize exec (Environment.connect e.object _ _) h.state = answer
      rcases answer with ⟨error | c | _, s⟩
      · obtain ⟨_, value, g, answer, same, rfl | rfl⟩ := report_answer h s error e.errorPrefix <;>
          dsimp only <;> rw [answer] <;> exact same
      · refine ⟨⟨e, rfl⟩, fun kind => ?_, rfl⟩
        cases kind <;> exact ⟨rfl, rfl⟩
      · intro kind
        cases kind <;> exact ⟨rfl, rfl⟩

/-- Running a statement stores a cursor and answers its number, or gives out none. -/
theorem execute_effect (sql : Address) :
    match StateT.run (execute x sql) h with
    | (⟨.cursor, y⟩, g) => (∃ e, h.connections.find? x = some e) ∧ Inserts .cursor h g ∧
        y = Int64.ofNat h.cursors.entries.next
    | (_, g) => SameNumbers h g := by
  unfold execute
  cases found : h.connections.find? x with
  | none =>
      rw [withEntry_of_missing found]
      exact raise_numbers h _ _
  | some e =>
      rw [withEntry_of_live found, run_bind, run_textAt]
      dsimp only
      rw [run_bind, run_perform]
      generalize exec (Connection.execute e.object _) h.state = answer
      rcases answer with ⟨error | n | k, s⟩
      · obtain ⟨_, value, g, answer, same, rfl | rfl⟩ := report_answer h s error e.errorPrefix <;>
          dsimp only <;> rw [answer] <;> exact same
      · intro kind
        cases kind <;> exact ⟨rfl, rfl⟩
      · refine ⟨⟨e, rfl⟩, fun kind => ?_, rfl⟩
        cases kind <;> exact ⟨rfl, rfl⟩

/-- An environment was stored and its number answered, or none was and the answer is zero. -/
def Opens (h : Host) (answer : Int64 × Host) : Prop :=
  (Inserts .environment h answer.2 ∧ answer.1 = Int64.ofNat h.environments.entries.next) ∨
    (SameNumbers h answer.2 ∧ answer.1 = 0)

theorem openDriver_opens (driver : String) (config : Config) :
    Opens h (StateT.run (openDriver driver config) h) := by
  unfold openDriver
  rw [run_bind, run_perform]
  generalize exec (Environment.openNamed driver config) h.state = answer
  rcases answer with ⟨error | e, s⟩
  · refine .inr ⟨fun kind => ?_, rfl⟩
    cases kind <;> exact ⟨rfl, rfl⟩
  · refine .inl ⟨fun kind => ?_, rfl⟩
    cases kind <;> exact ⟨rfl, rfl⟩

/-- Where the settings can be read, a driver is opened with them. -/
theorem run_openWithConfig (driver path : Address) :
    StateT.run (openWithConfig driver path) h =
      match Config.ofFile (h.heap.stringAt path)
          (h.state.world.disk.readText (h.heap.stringAt path)) with
      | .ok config => StateT.run (openDriver (h.heap.stringAt driver) config) h
      | .error e => (0, (StateT.run (raise e defaultPrefix) h).2) := by
  rw [openWithConfig, run_bind, run_textAt]
  dsimp only
  rw [run_bind, run_textAt]
  dsimp only
  rw [run_get_bind]
  cases Config.ofFile (h.heap.stringAt path)
    (h.state.world.disk.readText (h.heap.stringAt path)) <;> rfl

theorem openWithConfig_opens (driver path : Address) :
    Opens h (StateT.run (openWithConfig driver path) h) := by
  rw [run_openWithConfig]
  cases Config.ofFile (h.heap.stringAt path)
      (h.state.world.disk.readText (h.heap.stringAt path)) with
  | ok config => exact openDriver_opens h (h.heap.stringAt driver) config
  | error e => exact .inr ⟨raise_numbers h e defaultPrefix, rfl⟩

theorem releaseEnvironment_numbers : Leaves SameNumbers (releaseEnvironment x) h := by
  have removed := remove_numbers h.environments x
  intro kind
  cases kind
  · exact removed
  · exact ⟨rfl, rfl⟩
  · exact ⟨rfl, rfl⟩

theorem releaseConnection_numbers : Leaves SameNumbers (releaseConnection x) h := by
  have removed := remove_numbers h.connections x
  refine Leaves.get_bind ?_
  rcases answer : h.connections.remove x with ⟨object, rest⟩
  rw [answer] at removed
  intro kind
  cases object <;> cases kind <;> first | exact removed | exact ⟨rfl, rfl⟩

theorem releaseCursor_numbers : Leaves SameNumbers (releaseCursor x) h := by
  have removed := remove_numbers h.cursors x
  refine Leaves.get_bind ?_
  rcases answer : h.cursors.remove x with ⟨object, rest⟩
  rw [answer] at removed
  intro kind
  cases object <;> cases kind <;> first | exact removed | exact ⟨rfl, rfl⟩

theorem releaseEnvironment_of_missing (missing : h.environments.find? x = none) :
    StateT.run (releaseEnvironment x) h = (0, h) := by
  unfold releaseEnvironment
  rw [run_get_bind, Registry.remove_of_missing missing]
  rfl

/-- An environment that is released leaves its registry, and nothing else happens. -/
theorem run_releaseEnvironment {e : Entry} (live : h.environments.find? x = some e) :
    StateT.run (releaseEnvironment x) h =
      (1, { h with environments := (h.environments.remove x).2 }) := by
  unfold releaseEnvironment
  rw [run_get_bind, Registry.remove_of_live live]
  rfl

theorem releaseConnection_of_missing (missing : h.connections.find? x = none) :
    StateT.run (releaseConnection x) h = (0, h) := by
  unfold releaseConnection
  rw [run_get_bind, Registry.remove_of_missing missing]
  rfl

/-- A connection that is released leaves its registry, and gives up what it held. -/
theorem run_releaseConnection {e : Entry} (live : h.connections.find? x = some e) :
    StateT.run (releaseConnection x) h =
      (1, { h with
        state := (exec (Connection.release e.object) h.state).2
        connections := (h.connections.remove x).2 }) := by
  unfold releaseConnection
  rw [run_get_bind, Registry.remove_of_live live]
  rfl

theorem releaseCursor_of_missing (missing : h.cursors.find? x = none) :
    StateT.run (releaseCursor x) h = (0, h) := by
  unfold releaseCursor
  rw [run_get_bind, Registry.remove_of_missing missing]
  rfl

/-- A cursor that is released leaves its registry, and gives up what it held. -/
theorem run_releaseCursor {e : Entry} (live : h.cursors.find? x = some e) :
    StateT.run (releaseCursor x) h =
      (1, { h with
        state := (exec (Cursor.release e.object) h.state).2
        cursors := (h.cursors.remove x).2 }) := by
  unfold releaseCursor
  rw [run_get_bind, Registry.remove_of_live live]
  rfl

end Proper

/-- The registry of a kind gave out its next number, which is the handle that a call
answered. -/
def Issued (r : Invocation) (kind : HandleKind) (h : Host) (answer : Reply × Host) : Prop :=
  Inserts kind h answer.2 ∧
    r.issues answer.1 =
      let x := Int64.ofNat (kind.registry h).entries.next
      if x = 0 then none else some (kind, x)

/-- Either no registry gives out a number and no handle is answered, or one does, and the
handle is answered.  A connection comes of an environment, and a cursor of a connection. -/
inductive Effect (r : Invocation) (h : Host) (answer : Reply × Host) : Prop where
  | none (same : SameNumbers h answer.2) (nothing : r.issues answer.1 = none)
  | environment (issued : Issued r .environment h answer)
  | connection {x : Int64} {e : Entry} (live : h.environments.find? x = some e)
      (issued : Issued r .connection h answer)
  | cursor {x : Int64} {e : Entry} (live : h.connections.find? x = some e)
      (issued : Issued r .cursor h answer)

section Effects

variable {r : Invocation} (h : Host)

/-- A call that opens something has the effect of a handle that is issued, if it is one. -/
theorem effect_of_opens {answer : Int64 × Host} (opens : Opens h answer)
    (issues : ∀ x, r.issues (.word x) = if x = 0 then none else some (.environment, x)) :
    Effect r h (.word answer.1, answer.2) := by
  rcases opens with ⟨inserts, number⟩ | ⟨same, zero⟩
  · exact .environment ⟨inserts, by rw [issues, number]; rfl⟩
  · exact .none same (by rw [issues, zero, if_pos rfl])

theorem answer_effect (r : Invocation) : Effect r h (StateT.run r.answer h) := by
  have proper {α : Type} {registry : Host → Registry} {x : Int64} {c : Call α} {f : α → Reply}
      {r : Invocation} (proper : Proper registry x c h) (nothing : ∀ reply, r.issues reply = none) :
      Effect r h (StateT.run (f <$> c) h) :=
    .none proper.numbers (nothing _)
  cases r with
  | openDefault driver =>
      exact effect_of_opens h (openDriver_opens h (h.heap.stringAt driver) {}) fun _ => rfl
  | openWithConfig driver path =>
      exact effect_of_opens h (openWithConfig_opens h driver path) fun _ => rfl
  | connect x source timeout =>
      have spec := connect_effect h x source timeout
      change Effect _ h (.ended (StateT.run (Call.connect x source timeout) h).1,
        (StateT.run (Call.connect x source timeout) h).2)
      generalize StateT.run (Call.connect x source timeout) h = answer at spec ⊢
      obtain ⟨⟨ending, y⟩, g⟩ := answer
      cases ending with
      | ok =>
          obtain ⟨⟨e, live⟩, inserts, rfl⟩ := spec
          exact .connection live ⟨inserts, rfl⟩
      | _ => exact .none spec rfl
  | execute x sql =>
      have spec := execute_effect h x sql
      change Effect _ h (.ended (StateT.run (Call.execute x sql) h).1,
        (StateT.run (Call.execute x sql) h).2)
      generalize StateT.run (Call.execute x sql) h = answer at spec ⊢
      obtain ⟨⟨ending, y⟩, g⟩ := answer
      cases ending with
      | cursor =>
          obtain ⟨⟨e, live⟩, inserts, rfl⟩ := spec
          exact .cursor live ⟨inserts, rfl⟩
      | _ => exact .none spec rfl
  | closeEnvironment x => exact proper (closeEnvironment_proper h x) fun _ => rfl
  | releaseEnvironment x => exact .none (releaseEnvironment_numbers h x) rfl
  | commit x => exact proper (complete_proper h x fun c s => endTransaction_mild s c _) fun _ => rfl
  | rollback x =>
      exact proper (complete_proper h x fun c s => endTransaction_mild s c _) fun _ => rfl
  | setAutocommit x enabled => exact proper (setAutocommit_proper h x enabled) fun _ => rfl
  | escape x text => exact proper (escape_proper h x text) fun _ => rfl
  | lastNumber x => exact proper (lastNumber_proper h x) fun _ => rfl
  | closeConnection x => exact proper (closeConnection_proper h x) fun _ => rfl
  | releaseConnection x => exact .none (releaseConnection_numbers h x) rfl
  | fetch x => exact proper (fetch_proper h x) fun _ => rfl
  | fetchInto x record mode => exact proper (fetchInto_proper h x record mode) fun _ => rfl
  | columnNames x => exact proper (columnNames_proper h x) fun _ => rfl
  | columnTypes x => exact proper (columnTypes_proper h x) fun _ => rfl
  | closeCursor x => exact proper (closeCursor_proper h x) fun _ => rfl
  | releaseCursor x => exact .none (releaseCursor_numbers h x) rfl
  | work heap exception =>
      refine .none (fun kind => ?_) rfl
      cases kind <;> exact ⟨rfl, rfl⟩

end Effects

/-- A call whose handle stands for an object of the kind that it expects reports no misuse. -/
theorem answer_discreet {r : Invocation} {h : Host} {kind : HandleKind} {x : Int64} {e : Entry}
    (expects : r.expects = some (kind, x)) (live : (kind.registry h).find? x = some e)
    (keeps : r.isRelease = false) : Leaves Discreet r.answer h := by
  cases r with
  | openDefault driver => cases expects
  | openWithConfig driver path => cases expects
  | work heap exception => cases expects
  | releaseEnvironment y => cases keeps
  | releaseConnection y => cases keeps
  | releaseCursor y => cases keeps
  | connect y source timeout => cases expects; exact connect_discreet h x source timeout live
  | execute y sql => cases expects; exact execute_discreet h x sql live
  | closeEnvironment y => cases expects; exact (closeEnvironment_proper h x).live e live
  | commit y =>
      cases expects
      exact (complete_proper h x fun c s => endTransaction_mild s c .commit).live e live
  | rollback y =>
      cases expects
      exact (complete_proper h x fun c s => endTransaction_mild s c .rollback).live e live
  | setAutocommit y enabled => cases expects; exact (setAutocommit_proper h x enabled).live e live
  | escape y text => cases expects; exact (escape_proper h x text).live e live
  | lastNumber y => cases expects; exact (lastNumber_proper h x).live e live
  | closeConnection y => cases expects; exact (closeConnection_proper h x).live e live
  | fetch y => cases expects; exact (fetch_proper h x).live e live
  | fetchInto y record mode =>
      cases expects
      exact (fetchInto_proper h x record mode).live e live
  | columnNames y => cases expects; exact (columnNames_proper h x).live e live
  | columnTypes y => cases expects; exact (columnTypes_proper h x).live e live
  | closeCursor y => cases expects; exact (closeCursor_proper h x).live e live

/-- A call that gives up a handle answers one where it stood for an object. -/
theorem released_of_live {r : Invocation} {h : Host} {kind : HandleKind} {x : Int64} {e : Entry}
    (expects : r.expects = some (kind, x)) (live : (kind.registry h).find? x = some e)
    (releases : r.isRelease) : (StateT.run r.answer h).1 = .word 1 := by
  cases r with
  | releaseEnvironment y =>
      cases expects
      exact congrArg (fun ran => Reply.word ran.1) (run_releaseEnvironment h x live)
  | releaseConnection y =>
      cases expects
      exact congrArg (fun ran => Reply.word ran.1) (run_releaseConnection h x live)
  | releaseCursor y =>
      cases expects
      exact congrArg (fun ran => Reply.word ran.1) (run_releaseCursor h x live)
  | _ => cases releases

/-- Giving up a handle that stands for nothing does nothing. -/
theorem release_of_missing {r : Invocation} {h : Host} {kind : HandleKind} {x : Int64}
    (releases : r.isRelease) (expects : r.expects = some (kind, x))
    (missing : (kind.registry h).find? x = none) : StateT.run r.answer h = (.word 0, h) := by
  cases r with
  | releaseEnvironment y =>
      cases expects
      exact congrArg (fun answer => ((.word answer.1 : Reply), answer.2))
        (releaseEnvironment_of_missing h x missing)
  | releaseConnection y =>
      cases expects
      exact congrArg (fun answer => ((.word answer.1 : Reply), answer.2))
        (releaseConnection_of_missing h x missing)
  | releaseCursor y =>
      cases expects
      exact congrArg (fun answer => ((.word answer.1 : Reply), answer.2))
        (releaseCursor_of_missing h x missing)
  | _ => cases releases

/-- A call whose handle stands for nothing reports so and answers its sentinel; one that
gives up a handle answers so and does nothing. -/
theorem answer_of_missing {r : Invocation} {h : Host} {kind : HandleKind} {x : Int64}
    (expects : r.expects = some (kind, x)) (missing : (kind.registry h).find? x = none)
    (named : (kind.registry h).kind = kind.name) :
    StateT.run r.answer h = (r.sentinel, if r.isRelease then h else h.misused kind x) := by
  have misused : (StateT.run (Call.raise (.invalidHandle (kind.registry h).kind x)
      Call.defaultPrefix) h).2 = h.misused kind x := by
    rw [named]
    rfl
  have refuses {α : Type} (f : α → Reply) (sentinel : α) (go : Entry → Call α) :
      StateT.run (f <$> Call.withEntry kind.registry x sentinel go) h =
        (f sentinel, h.misused kind x) := by
    change (f (StateT.run (Call.withEntry kind.registry x sentinel go) h).1,
      (StateT.run (Call.withEntry kind.registry x sentinel go) h).2) = _
    rw [withEntry_of_missing missing, misused]
  cases r with
  | openDefault driver => cases expects
  | openWithConfig driver path => cases expects
  | work heap exception => cases expects
  | releaseEnvironment y => exact release_of_missing rfl expects missing
  | releaseConnection y => exact release_of_missing rfl expects missing
  | releaseCursor y => exact release_of_missing rfl expects missing
  | connect y source timeout => cases expects; exact refuses ..
  | execute y sql => cases expects; exact refuses ..
  | closeEnvironment y => cases expects; exact refuses ..
  | commit y => cases expects; exact refuses ..
  | rollback y => cases expects; exact refuses ..
  | setAutocommit y enabled => cases expects; exact refuses ..
  | escape y text => cases expects; exact refuses ..
  | lastNumber y => cases expects; exact refuses ..
  | closeConnection y => cases expects; exact refuses ..
  | fetch y => cases expects; exact refuses ..
  | fetchInto y record mode => cases expects; exact refuses ..
  | columnNames y => cases expects; exact refuses ..
  | columnTypes y => cases expects; exact refuses ..
  | closeCursor y => cases expects; exact refuses ..

end SqlDriver
