/-
# SqlDriver.Proofs.Call.Channel -- how an error reaches the program

A call has two channels for errors.  Misuse is raised: one exception is stored and the
call answers its sentinel.  What the engine refuses is handed back as a new text.  A
call without an error leaves the exception that waits alone, and so does one that hands
its error back.

`Service` lists the calls and `Service.failure?` says what went wrong in one, read off
the command of the driver behind it: the handle stands for nothing, or the record is
none, or the driver refuses the command.  `Channel` is the channel of each error, and
`service_channel` says that every call keeps to it.
-/
import SqlDriver.Proofs.Call.Invocation

namespace SqlDriver

set_option autoImplicit false

/-! ## What goes wrong in a call -/

/-- The error of an answer. -/
def errorOf {α : Type} : Result α → Option Error
  | .ok _ => none
  | .error e => some e

/-- The error with which the driver refuses a command. -/
def Command.error? (c : Command) (s : State) : Option Error :=
  errorOf (exec c.perform s).1

namespace Invocation

/-- The program's own work is no call. -/
def isWork : Invocation → Bool
  | work .. => true
  | _ => false

/-- The call has an outcome, which says how it ended. -/
def hasOutcome : Invocation → Bool
  | connect .. | execute .. | commit _ | rollback _ | fetch _ | fetchInto .. => true
  | _ => false

/-- The time that a number of milliseconds asks for; below zero it is none. -/
def waitOf (timeout : Int64) : Option Nat :=
  if timeout.toInt < 0 then none else some timeout.toInt.toNat

/-- What the driver refuses when it is asked on behalf of a call with a live handle. -/
def errorOn? (h : Host) (object : Nat) : Invocation → Option Error
  | connect _ source timeout =>
      (Command.connect object (h.heap.stringAt source) (waitOf timeout)).error? h.state
  | closeEnvironment _ => (Command.closeEnvironment object).error? h.state
  | execute _ sql => (Command.execute object (h.heap.stringAt sql)).error? h.state
  | commit _ => (Command.commit object).error? h.state
  | rollback _ => (Command.rollback object).error? h.state
  | setAutocommit _ enabled => (Command.setAutocommit object (enabled ≠ 0)).error? h.state
  | lastNumber _ => (Command.lastNumber object).error? h.state
  | closeConnection _ => (Command.closeConnection object).error? h.state
  | fetch _ => (Command.next object).error? h.state
  | fetchInto _ record mode =>
      match Call.recordAt? h.heap record with
      | none => some (.invalidHandle "record" 0)
      | some r =>
          (Command.fetchInto object (.record r) (Call.modeOf (h.heap.stringAt mode))).error? h.state
  | columnNames _ => (Command.columnNames object).error? h.state
  | columnTypes _ => (Command.columnTypes object).error? h.state
  | closeCursor _ => (Command.closeCursor object).error? h.state
  | escape .. | openDefault _ | openWithConfig .. | releaseEnvironment _ | releaseConnection _
  | releaseCursor _ | work .. => none

/-- What goes wrong in a call by handle, with the text in front of its message. -/
def byHandle? (r : Invocation) (h : Host) (kind : HandleKind) (x : Int64) :
    Option (Error × String) :=
  match (kind.registry h).find? x with
  | none => some (.invalidHandle (kind.registry h).kind x, Call.defaultPrefix)
  | some e => (r.errorOn? h e.object).map fun error => (error, e.errorPrefix)

end Invocation

/-- What goes wrong when a driver is opened. -/
def openError? (h : Host) (driver : String) (config : Config) : Option (Error × String) :=
  ((Command.openEnvironment driver config).error? h.state).map fun error =>
    (error, config.errorPrefix)

/-- What goes wrong when a driver is opened with the settings in a file. -/
def openFromFileError? (h : Host) (driver path : String) : Option (Error × String) :=
  match Config.ofFile path (h.state.world.disk.readText path) with
  | .ok config => openError? h driver config
  | .error e => some (e, Call.defaultPrefix)

/-- A call on drivers, environments, connections and cursors. -/
inductive Service where
  /-- The driver of a name in words. -/
  | info (driver : Address)
  | call (r : Invocation) (own : r.isWork = false)

namespace Service

/-- Performs a call. -/
def answer : Service → Call Reply
  | info driver => .address <$> Call.driverInfo driver
  | call r _ => r.answer

/-- What a call answers when it raises. -/
def sentinel : Service → Reply
  | info _ => .address 0
  | call r _ => r.sentinel

def hasOutcome : Service → Bool
  | info _ => false
  | call r _ => r.hasOutcome

/-- What goes wrong in a call, with the text in front of its message.  Nothing goes wrong
when a handle is given up. -/
def failure? (h : Host) : Service → Option (Error × String)
  | info driver =>
      match DriverInfo.find? (h.heap.stringAt driver) with
      | some _ => none
      | none => some (.unknownDriver (h.heap.stringAt driver), Call.defaultPrefix)
  | call (.openDefault driver) _ => openError? h (h.heap.stringAt driver) {}
  | call (.openWithConfig driver path) _ =>
      openFromFileError? h (h.heap.stringAt driver) (h.heap.stringAt path)
  | call r _ =>
      if r.isRelease then none else r.expects.bind fun (kind, x) => r.byHandle? h kind x

/-- A call that connects does not ask the engine to wait longer than it can. -/
def Patient (h : Host) : Service → Prop
  | call (.connect x _ timeout) _ =>
      ∀ e env, h.environments.find? x = some e → h.state.environments.get? e.object = some env →
        ∀ wait ∈ (Invocation.waitOf timeout).orElse fun _ => env.config.busyTimeout,
          wait ≤ Environment.longestTimeout
  | _ => True

end Service

/-! ## The two channels -/

/-- The error that an event tells to be raised. -/
def Event.raised? : Event → Option Error
  | raised e => some e
  | _ => none

/-- These errors were raised since, the latest first. -/
def Tells (h g : Host) (errors : List Error) : Prop :=
  ∃ new, g.state.events = new ++ h.state.events ∧ new.filterMap Event.raised? = errors

/-- No error was raised, and the exception that waits is what it was. -/
structure Host.Quiet (h g : Host) : Prop where
  told : Tells h g []
  exception : g.exception = h.exception

/-- One error was raised, and its exception waits: a database error with the code -1. -/
structure Raises (h : Host) (e : Error) (errorPrefix : String) (g : Host) : Prop where
  told : Tells h g [e]
  exception : g.exception = ⟨some ⟨some (errorPrefix ++ e.message), -1⟩, 7⟩

/-- A text was made that says what went wrong, and no other object changed. -/
structure Writes (h : Host) (message : String) (a : Address) (g : Host) : Prop where
  fresh : h.heap.get? a = none
  written : g.heap.get? a = some { body := .text (Text.Utf8.ofString message) }
  others : ∀ b, b ≠ a → g.heap.get? b = h.heap.get? b

/-- The reply is none of an error. -/
def Reply.succeeds : Reply → Prop
  | .word _ | .address _ => True
  | .ended e => e.ending = .ok ∨ e.ending = .cursor ∨ e.ending = .done

/-- What a call answers and leaves behind, by what went wrong in it. -/
inductive Channel (sentinel : Reply) (h : Host) : Option (Error × String) → Reply × Host → Prop
  /-- Nothing went wrong. -/
  | passes {reply : Reply} {g : Host} (quiet : h.Quiet g) (succeeds : reply.succeeds) :
      Channel sentinel h none (reply, g)
  /-- Misuse is raised, and the call answers its sentinel. -/
  | raises {e : Error} {errorPrefix : String} {g : Host} (fatal : e.isFatal)
      (raises : Raises h e errorPrefix g) :
      Channel sentinel h (some (e, errorPrefix)) (sentinel, g)
  /-- Any other error is handed back as a new text. -/
  | returns {e : Error} {errorPrefix : String} {a : Address} {g : Host}
      (mild : e.isFatal = false) (quiet : h.Quiet g)
      (writes : Writes h (errorPrefix ++ e.message) a g) :
      Channel sentinel h (some (e, errorPrefix)) (.ended ⟨.error, Heap.wordOf a⟩, g)

/-! ## What is told -/

theorem Tells.trans {h g k : Host} {errors : List Error} (first : Tells h g [])
    (rest : Tells g k errors) : Tells h k errors := by
  obtain ⟨new, events, none⟩ := first
  obtain ⟨more, events', told⟩ := rest
  refine ⟨more ++ new, ?_, ?_⟩
  · rw [events', events, List.append_assoc]
  · rw [List.filterMap_append, none, told, List.append_nil]

theorem Tells.unique {h g : Host} {errors errors' : List Error} (told : Tells h g errors)
    (told' : Tells h g errors') : errors = errors' := by
  obtain ⟨new, events, rfl⟩ := told
  obtain ⟨new', events', rfl⟩ := told'
  rw [List.append_cancel_right (events.symm.trans events')]

theorem Host.Quiet.of_eq {h g : Host} (events : g.state.events = h.state.events)
    (exception : g.exception = h.exception) : h.Quiet g :=
  ⟨⟨[], events, rfl⟩, exception⟩

theorem Host.Quiet.trans {h g k : Host} (first : h.Quiet g) (rest : g.Quiet k) : h.Quiet k :=
  ⟨first.told.trans rest.told, rest.exception.trans first.exception⟩

/-- Operations of the driver raise nothing and touch no object of the program. -/
theorem performed_quiet {α : Type} {op : Op α} {h : Host} (mild : Mild op h.state) :
    h.Quiet { h with state := (exec op h.state).2 } := by
  obtain ⟨⟨new, events, isMild⟩, -⟩ := mild
  refine ⟨⟨new, events, List.filterMap_eq_nil_iff.mpr fun e among => ?_⟩, rfl⟩
  cases e <;> first | rfl | exact absurd rfl (isMild _ among _)

/-- The channel of a call is not changed by what it did quietly before. -/
theorem Channel.after {sentinel : Reply} {h g : Host} {failure : Option (Error × String)}
    {answer : Reply × Host} (quiet : h.Quiet g) (heap : g.heap = h.heap)
    (channel : Channel sentinel g failure answer) : Channel sentinel h failure answer := by
  cases channel with
  | passes rest succeeds => exact .passes (quiet.trans rest) succeeds
  | raises fatal raised => exact .raises fatal ⟨quiet.told.trans raised.told, raised.exception⟩
  | returns mild rest writes =>
      refine .returns mild (quiet.trans rest) ?_
      obtain ⟨fresh, written, others⟩ := writes
      rw [heap] at fresh others
      exact ⟨fresh, written, others⟩

/-! ## Reporting and raising -/

section Reports

open Call

variable {α β : Type} (h : Host)

theorem told_quiet {e : Event} (other : e.raised? = none) :
    h.Quiet (StateT.run (Call.tell e) h).2 :=
  ⟨⟨[e], rfl, by rw [List.filterMap_cons_none other, List.filterMap_nil]⟩, rfl⟩

theorem raised_raises {error : Error} (fatal : error.isFatal) (errorPrefix : String) :
    Raises h error errorPrefix (StateT.run (raise error errorPrefix) h).2 := by
  refine ⟨⟨[.raised error], rfl, rfl⟩, ?_⟩
  change ExceptionSlot.throw (errorPrefix ++ error.message) (Int64.ofInt error.code) = _
  rw [Error.code_of_isFatal fatal]
  rfl

theorem newText_writes (message : String) :
    Writes h message h.heap.objects.next (StateT.run (newText message) h).2 := by
  have objects (b : Address) : (StateT.run (newText message) h).2.heap.get? b =
      if b = h.heap.objects.next then some { body := .text (Text.Utf8.ofString message) }
      else h.heap.get? b :=
    h.heap.objects.get?_insert _ b
  refine ⟨?_, ?_, fun b other => ?_⟩
  · exact h.heap.objects.get?_next
  · rw [objects, if_pos rfl]
  · rw [objects, if_neg other]

/-- A report goes through the channel that its error asks for. -/
theorem report_channel (error : Error) (errorPrefix : String) :
    Channel (.ended refused) h (some (error, errorPrefix))
      (.ended (StateT.run (report error errorPrefix) h).1,
        (StateT.run (report error errorPrefix) h).2) := by
  unfold report
  cases fatal : error.isFatal with
  | true => exact .raises fatal (raised_raises h fatal errorPrefix)
  | false =>
      exact Channel.after (told_quiet h (e := .returned error) rfl) rfl
        (.returns fatal (.of_eq rfl rfl) (newText_writes _ _))

theorem errorOf_discard (op : Op α) (s : State) :
    errorOf (exec (discard op) s).1 = errorOf (exec op s).1 := by
  rw [exec_discard]
  rcases exec op s with ⟨_ | _, _⟩ <;> rfl

/-- An operation whose error is reported. -/
theorem reporting_channel {op : Op α} (mild : Mild op h.state) (errorPrefix : String)
    {f : Result α → Call Ended}
    (fails : ∀ error, f (.error error) = report error errorPrefix)
    (succeeds : ∀ x g, (exec op h.state).1 = .ok x → g.Quiet (StateT.run (f (.ok x)) g).2 ∧
      (Reply.ended (StateT.run (f (.ok x)) g).1).succeeds) :
    Channel (.ended refused) h
      ((errorOf (exec op h.state).1).map fun error => (error, errorPrefix))
      (.ended (StateT.run (perform op >>= f) h).1, (StateT.run (perform op >>= f) h).2) := by
  rw [run_bind, run_perform]
  refine .after (performed_quiet mild) rfl ?_
  dsimp only
  cases answer : (exec op h.state).1 with
  | error error =>
      rw [fails]
      exact report_channel _ error errorPrefix
  | ok x =>
      obtain ⟨quiet, success⟩ := succeeds x { h with state := (exec op h.state).2 } answer
      exact .passes quiet success

/-- An operation that fails only by misuse, whose error is raised. -/
theorem raising_channel {op : Op α} (mild : Mild op h.state)
    (grave : ∀ error, (exec op h.state).1 = .error error → error.isFatal) (errorPrefix : String)
    (wrap : β → Reply) {sentinel : β} {f : Result α → Call β}
    (fails : ∀ error, f (.error error) = do
      raise error errorPrefix
      return sentinel)
    (succeeds : ∀ x g, g.Quiet (StateT.run (f (.ok x)) g).2 ∧
      (wrap (StateT.run (f (.ok x)) g).1).succeeds) :
    Channel (wrap sentinel) h
      ((errorOf (exec op h.state).1).map fun error => (error, errorPrefix))
      (wrap (StateT.run (perform op >>= f) h).1, (StateT.run (perform op >>= f) h).2) := by
  rw [run_bind, run_perform]
  refine .after (performed_quiet mild) rfl ?_
  dsimp only
  cases result : (exec op h.state).1 with
  | error error =>
      rw [fails]
      exact .raises (grave error result) (raised_raises _ (grave error result) _)
  | ok x =>
      obtain ⟨quiet, success⟩ := succeeds x { h with state := (exec op h.state).2 }
      exact .passes quiet success

/-- A call by handle. -/
theorem withEntry_channel (kind : HandleKind) (wrap : α → Reply) (sentinel : α) {x : Int64}
    {r : Invocation} {go : Entry → Call α}
    (live : ∀ e, (kind.registry h).find? x = some e → Channel (wrap sentinel) h
      ((r.errorOn? h e.object).map fun error => (error, e.errorPrefix))
      (wrap (StateT.run (go e) h).1, (StateT.run (go e) h).2)) :
    Channel (wrap sentinel) h (r.byHandle? h kind x)
      (StateT.run (wrap <$> withEntry kind.registry x sentinel go) h) := by
  change Channel _ h _ (wrap (StateT.run (withEntry kind.registry x sentinel go) h).1,
    (StateT.run (withEntry kind.registry x sentinel go) h).2)
  unfold Invocation.byHandle?
  cases found : (kind.registry h).find? x with
  | none =>
      rw [withEntry_of_missing found]
      exact .raises rfl (raised_raises h rfl defaultPrefix)
  | some e =>
      rw [withEntry_of_live found]
      exact live e found

end Reports

/-! ## Operations that fail only by misuse -/

/-- The operation fails only by misuse. -/
def Grave {α : Type} (op : Op α) (s : State) : Prop :=
  ∀ error, (exec op s).1 = .error error → error.isFatal

namespace Grave

variable {α β : Type} {s : State}

theorem of_ok {op : Op α} {x : α} (answer : (exec op s).1 = .ok x) : Grave op s := by
  intro error fails
  rw [answer] at fails
  cases fails

theorem throw {error : Error} (fatal : error.isFatal) : Grave (throw error : Op α) s := by
  rintro _ ⟨⟩
  exact fatal

theorem bind {a : Op α} {f : α → Op β} (first : Grave a s) (rest : ∀ x t, Grave (f x) t) :
    Grave (a >>= f) s := by
  intro error fails
  rw [exec_bind] at fails
  rcases answer : exec a s with ⟨e | x, t⟩ <;> rw [answer] at fails
  · cases fails
    exact first error (by rw [answer])
  · exact rest x t error fails

theorem get_bind {f : State → Op β} (rest : Grave (f s) s) : Grave (get >>= f) s :=
  rest

end Grave

section Operations

variable (s : State) (c k : Nat)

theorem openNamed_grave (driver : String) (config : Config) :
    Grave (Environment.openNamed driver config) s := by
  unfold Environment.openNamed
  split
  · exact .of_ok rfl
  · exact .throw rfl

theorem closeEnvironment_grave (e : Nat) : Grave (Environment.close e) s := by
  refine .get_bind ?_
  split
  · exact .of_ok rfl
  · split <;> exact .of_ok rfl

theorem sessionOf_grave : Grave (Connection.sessionOf c) s := by
  refine .get_bind ?_
  split
  · exact .of_ok rfl
  · exact .throw rfl

theorem setAutocommit_grave (enabled : Bool) : Grave (Connection.setAutocommit c enabled) s := by
  refine .bind (sessionOf_grave s c) fun _ s => .bind (.of_ok rfl) fun _ s => ?_
  split
  all_goals
    refine .bind (.bind (sessionOf_grave s c) fun _ _ => .of_ok rfl) fun answer s => ?_
    cases answer with
    | ok _ => exact .of_ok rfl
    | error fault => first | exact .of_ok rfl | exact .throw rfl

theorem lastNumber_grave : Grave (Connection.lastNumber c) s :=
  .bind (sessionOf_grave s c) fun _ _ => .of_ok rfl

theorem closeConnection_grave : Grave (Connection.close c) s := by
  refine .get_bind ?_
  split
  · exact .of_ok rfl
  · split
    · exact .of_ok rfl
    · split
      · exact .bind (.throw rfl) fun _ _ => .of_ok rfl
      · exact .of_ok rfl

theorem columnNames_grave : Grave (Cursor.columnNames k) s := by
  refine .get_bind ?_
  split
  · split
    · exact .throw rfl
    · exact .of_ok rfl
  · exact .throw rfl

theorem columnTypes_grave : Grave (Cursor.columnTypes k) s := by
  refine .get_bind ?_
  split
  · split
    · exact .throw rfl
    · exact .of_ok rfl
  · exact .throw rfl

theorem closeCursor_grave : Grave (Cursor.close k) s := by
  refine .get_bind ?_
  split
  · exact .of_ok rfl
  · next cursor _ =>
      split
      · exact .of_ok rfl
      · next run _ =>
          refine .bind (.get_bind ?_) fun _ _ => .of_ok rfl
          cases (s.connections.get? cursor.connection).bind Connection.session <;> exact .of_ok rfl

theorem ofFile_grave {path : String} {text : Except ReadFailure String} {e : Error}
    (fails : Config.ofFile path text = .error e) : e.isFatal := by
  unfold Config.ofFile at fails
  split at fails
  · cases fails
    rfl
  · next text =>
      rw [Config.parse] at fails
      cases settings : Config.ofText text with
      | ok config =>
          rw [settings] at fails
          cases fails
      | error why =>
          rw [settings] at fails
          cases fails
          rfl

/-- The engine is asked to wait too long only where the timeout or the settings say so. -/
theorem connect_crashed (e : Nat) (source : String) (timeout : Option Nat) :
    (exec (Environment.connect e source timeout) s).1 = .ok .crashed →
      ∃ env, s.environments.get? e = some env ∧
        ∃ wait ∈ timeout.orElse fun _ => env.config.busyTimeout,
          Environment.longestTimeout < wait := by
  have connected := Environment.connects s e source timeout
  generalize exec (Environment.connect e source timeout) s = outcome at connected ⊢
  intro answer
  cases connected with
  | closed => cases answer
  | refused => cases answer
  | @crashed env _ _ found _ _ overlong =>
      exact ⟨env, found, by simpa [Option.any_eq_true] using overlong⟩
  | opened => cases answer

end Operations

/-! ## The calls -/

section Calls

open Call

variable (h : Host)

/-- What an operation on a connection is refused with is what the call answers with. -/
theorem complete_channel (op : Nat → Op Unit) (mild : ∀ c s, Mild (op c) s) {x : Int64}
    {r : Invocation}
    (behind : ∀ c, r.errorOn? h c = errorOf (exec (op c) h.state).1) :
    Channel (.ended refused) h (r.byHandle? h .connection x)
      (StateT.run (.ended <$> complete x op) h) := by
  refine withEntry_channel h .connection .ended refused fun e _ => ?_
  rw [behind]
  exact reporting_channel h (mild _ _) e.errorPrefix (fun _ => rfl)
    fun _ _ _ => ⟨.of_eq rfl rfl, .inl rfl⟩

/-- A call by handle that raises whatever error the driver has. -/
theorem orRaise_channel {α β : Type} (kind : HandleKind) (wrap : β → Reply) (sentinel : β)
    (op : Nat → Op α) {x : Int64} {r : Invocation} {answer : α → Call β}
    (mild : ∀ c, Mild (op c) h.state) (grave : ∀ c, Grave (op c) h.state)
    (behind : ∀ c, r.errorOn? h c = errorOf (exec (op c) h.state).1)
    (succeeds : ∀ x g, g.Quiet (StateT.run (answer x) g).2 ∧
      (wrap (StateT.run (answer x) g).1).succeeds) :
    Channel (wrap sentinel) h (r.byHandle? h kind x)
      (StateT.run (wrap <$> withEntry kind.registry x sentinel fun e =>
        orRaise e (op e.object) sentinel answer) h) := by
  refine withEntry_channel h kind wrap sentinel fun e _ => ?_
  rw [behind]
  exact raising_channel h (mild _) (grave _) e.errorPrefix wrap (fun _ => rfl) succeeds

/-- A driver that is not known is told of; nothing else goes wrong when one is opened. -/
theorem openDriver_channel (driver : String) (config : Config) :
    Channel (.word 0) h (openError? h driver config)
      (StateT.run (.word <$> openDriver driver config) h) := by
  change Channel (.word 0) h _ (.word (StateT.run (openDriver driver config) h).1,
    (StateT.run (openDriver driver config) h).2)
  rw [openError?, Command.error?, Command.perform, errorOf_discard, openDriver]
  refine raising_channel h (openNamed_mild _ _ _) (openNamed_grave _ _ _) config.errorPrefix
    .word (fun _ => rfl) fun e g => ?_
  exact ⟨⟨⟨[.environmentOpened driver g.environments.entries.next], rfl, rfl⟩, rfl⟩, trivial⟩

/-- A driver is opened from a file through the same channel, once its settings are read. -/
theorem openWithConfig_channel (driver path : Address) :
    Channel (.word 0) h
      (openFromFileError? h (h.heap.stringAt driver) (h.heap.stringAt path))
      (StateT.run (Invocation.openWithConfig driver path).answer h) := by
  change Channel (.word 0) h _ (.word (StateT.run (openWithConfig driver path) h).1,
    (StateT.run (openWithConfig driver path) h).2)
  rw [run_openWithConfig, openFromFileError?]
  cases settings : Config.ofFile (h.heap.stringAt path)
      (h.state.world.disk.readText (h.heap.stringAt path)) with
  | ok config => exact openDriver_channel h (h.heap.stringAt driver) config
  | error e => exact .raises (ofFile_grave settings) (raised_raises h (ofFile_grave settings) _)

theorem releaseConnection_quiet (x : Int64) :
    h.Quiet (StateT.run (releaseConnection x) h).2 := by
  unfold releaseConnection
  rw [run_get_bind]
  rcases h.connections.remove x with ⟨_ | c, connections⟩
  · exact .of_eq rfl rfl
  · have removed : h.Quiet { h with connections } := .of_eq rfl rfl
    have released :=
      performed_quiet (h := { h with connections }) (releaseConnection_mild h.state c)
    exact removed.trans released

theorem releaseCursor_quiet (x : Int64) : h.Quiet (StateT.run (releaseCursor x) h).2 := by
  unfold releaseCursor
  rw [run_get_bind]
  rcases h.cursors.remove x with ⟨_ | k, cursors⟩
  · exact .of_eq rfl rfl
  · have removed : h.Quiet { h with cursors } := .of_eq rfl rfl
    have released := performed_quiet (h := { h with cursors }) (releaseCursor_mild h.state k)
    exact removed.trans released

/-- Connecting keeps to the channels unless it ends the program. -/
theorem connect_channel_of_bearable (x : Int64) (source : Address) (timeout : Int64)
    (bearable : ∀ e, h.environments.find? x = some e →
      (exec (Environment.connect e.object (h.heap.stringAt source) (Invocation.waitOf timeout))
        h.state).1 ≠ .ok .crashed) :
    Channel (.ended refused) h
      ((Invocation.connect x source timeout).byHandle? h .environment x)
      (StateT.run (Invocation.connect x source timeout).answer h) := by
  refine withEntry_channel h .environment .ended refused fun e live => ?_
  rw [Invocation.errorOn?, Command.error?, Command.perform, errorOf_discard, run_bind, run_textAt]
  refine reporting_channel h (connect_mild _ _ _ _) e.errorPrefix (fun _ => rfl)
    fun connected g answer => ?_
  cases connected with
  | connection c => exact ⟨.of_eq rfl rfl, .inl rfl⟩
  | crashed => exact absurd answer (bearable e live)

/-- A call that connects, and asks for no wait that is too long, answers with the driver's error. -/
theorem connect_channel (x : Int64) (source : Address) (timeout : Int64)
    (patient : (Service.call (.connect x source timeout) rfl).Patient h) :
    Channel (.ended refused) h
      ((Invocation.connect x source timeout).byHandle? h .environment x)
      (StateT.run (Invocation.connect x source timeout).answer h) := by
  refine connect_channel_of_bearable h x source timeout fun e live crashed => ?_
  obtain ⟨env, found, wait, asked, long⟩ := connect_crashed _ _ _ _ crashed
  exact absurd (patient e env live found wait asked) (Nat.not_le.mpr long)

/-- A fetch into a record answers with the error of the cursor, whatever the mode says. -/
theorem fetchInto_channel (x : Int64) (record mode : Address) :
    Channel (.ended refused) h
      ((Invocation.fetchInto x record mode).byHandle? h .cursor x)
      (StateT.run (Invocation.fetchInto x record mode).answer h) := by
  refine withEntry_channel h .cursor .ended refused fun e live => ?_
  rw [run_get_bind, Invocation.errorOn?]
  cases there : recordAt? h.heap record with
  | none => exact .raises rfl (raised_raises h rfl e.errorPrefix)
  | some r =>
      dsimp only
      rw [Command.error?, Command.perform, errorOf_discard, run_bind, run_textAt]
      refine reporting_channel h (fetchInto_mild _ _ _ _) e.errorPrefix (fun _ => rfl)
        fun answer _ _ => ?_
      obtain ⟨_ | _, target⟩ := answer
      · exact ⟨.of_eq rfl rfl, .inr (.inr rfl)⟩
      · exact ⟨.of_eq rfl rfl, .inl rfl⟩

/-- Every call but those that make values answers through the channel of its failure. -/
theorem invocation_channel (r : Invocation) (own : r.isWork = false)
    (patient : (Service.call r own).Patient h) :
    Channel r.sentinel h ((Service.call r own).failure? h) (StateT.run r.answer h) := by
  cases r with
  | openDefault driver => exact openDriver_channel h (h.heap.stringAt driver) {}
  | openWithConfig driver path => exact openWithConfig_channel h driver path
  | connect x source timeout => exact connect_channel h x source timeout patient
  | closeEnvironment x =>
      exact orRaise_channel h .environment .word 0 Environment.close
        (fun _ => closeEnvironment_mild _ _) (fun _ => closeEnvironment_grave _ _)
        (fun _ => errorOf_discard _ _) fun _ _ => ⟨.of_eq rfl rfl, trivial⟩
  | releaseEnvironment x => exact .passes (.of_eq rfl rfl) trivial
  | execute x sql =>
      refine withEntry_channel h .connection .ended refused fun e _ => ?_
      rw [Invocation.errorOn?, Command.error?, Command.perform, errorOf_discard, run_bind,
        run_textAt]
      refine reporting_channel h (execute_mild _ _ _) e.errorPrefix (fun _ => rfl)
        fun execution _ _ => ?_
      cases execution with
      | count n => exact ⟨.of_eq rfl rfl, .inl rfl⟩
      | cursor k => exact ⟨.of_eq rfl rfl, .inr (.inl rfl)⟩
  | commit x =>
      exact complete_channel h Connection.commit (fun c s => endTransaction_mild s c _) fun _ => rfl
  | rollback x =>
      exact complete_channel h Connection.rollback (fun c s => endTransaction_mild s c _)
        fun _ => rfl
  | setAutocommit x enabled =>
      exact orRaise_channel h .connection .word 0 (Connection.setAutocommit · (enabled ≠ 0))
        (fun _ => setAutocommit_mild _ _ _) (fun _ => setAutocommit_grave _ _ _) (fun _ => rfl)
        fun _ _ => ⟨.of_eq rfl rfl, trivial⟩
  | escape x text =>
      exact withEntry_channel h .connection .address 0 fun _ _ => .passes (.of_eq rfl rfl) trivial
  | lastNumber x =>
      exact orRaise_channel h .connection .word 0 Connection.lastNumber
        (fun _ => lastNumber_mild _ _) (fun _ => lastNumber_grave _ _)
        (fun _ => errorOf_discard _ _) fun _ _ => ⟨.of_eq rfl rfl, trivial⟩
  | closeConnection x =>
      exact orRaise_channel h .connection .word 0 Connection.close
        (fun _ => closeConnection_mild _ _) (fun _ => closeConnection_grave _ _)
        (fun _ => errorOf_discard _ _) fun _ _ => ⟨.of_eq rfl rfl, trivial⟩
  | releaseConnection x => exact .passes (releaseConnection_quiet h x) trivial
  | fetch x =>
      refine withEntry_channel h .cursor .ended refused fun e _ => ?_
      rw [Invocation.errorOn?, Command.error?, Command.perform, errorOf_discard]
      refine reporting_channel h (next_mild _ _) e.errorPrefix (fun _ => rfl) fun row _ _ => ?_
      cases row with
      | none => exact ⟨.of_eq rfl rfl, .inr (.inr rfl)⟩
      | some row => exact ⟨.of_eq rfl rfl, .inl rfl⟩
  | fetchInto x record mode => exact fetchInto_channel h x record mode
  | columnNames x =>
      exact orRaise_channel h .cursor .address 0 Cursor.columnNames (fun _ => columnNames_mild _ _)
        (fun _ => columnNames_grave _ _) (fun _ => errorOf_discard _ _)
        fun _ _ => ⟨.of_eq rfl rfl, trivial⟩
  | columnTypes x =>
      exact orRaise_channel h .cursor .address 0 Cursor.columnTypes (fun _ => columnTypes_mild _ _)
        (fun _ => columnTypes_grave _ _) (fun _ => errorOf_discard _ _)
        fun _ _ => ⟨.of_eq rfl rfl, trivial⟩
  | closeCursor x =>
      exact orRaise_channel h .cursor .word 0 Cursor.close (fun _ => close_mild _ _)
        (fun _ => closeCursor_grave _ _) (fun _ => errorOf_discard _ _)
        fun _ _ => ⟨.of_eq rfl rfl, trivial⟩
  | releaseCursor x => exact .passes (releaseCursor_quiet h x) trivial
  | work heap exception => cases own

end Calls

/-! ## Every call -/

theorem channel_of_service (s : Service) (h : Host) (patient : s.Patient h) :
    Channel s.sentinel h (s.failure? h) (StateT.run s.answer h) := by
  cases s with
  | call r own => exact invocation_channel h r own patient
  | info driver =>
      change Channel (.address 0) h _ (.address (StateT.run (Call.driverInfo driver) h).1,
        (StateT.run (Call.driverInfo driver) h).2)
      rw [Call.driverInfo, run_bind, run_textAt, Service.failure?]
      dsimp only
      cases DriverInfo.find? (h.heap.stringAt driver) with
      | some d => exact .passes (.of_eq rfl rfl) trivial
      | none => exact .raises rfl (raised_raises h rfl Call.defaultPrefix)

/-- A reply with an outcome. -/
theorem exists_outcome (s : Service) (h : Host) (outcome : s.hasOutcome) :
    ∃ ended, (StateT.run s.answer h).1 = .ended ended := by
  cases s with
  | info driver => cases outcome
  | call r own => cases r <;> first | exact ⟨_, rfl⟩ | cases outcome

theorem sentinel_of_hasOutcome {s : Service} (outcome : s.hasOutcome) :
    s.sentinel = .ended Call.refused := by
  cases s with
  | info driver => cases outcome
  | call r own => cases r <;> first | rfl | cases outcome

/-- The ending of an outcome tells the channel. -/
theorem ending_iff {h g : Host} {failure : Option (Error × String)} {ended : Ended}
    (channel : Channel (.ended Call.refused) h failure (.ended ended, g)) :
    ((∃ e, Tells h g [e]) ↔ ended.ending = .raised) ∧
      (ended.ending = .error ↔ ∃ e p, failure = some (e, p) ∧ e.isFatal = false) ∧
      (ended.ending = .ok ∨ ended.ending = .cursor ∨ ended.ending = .done ↔ failure = none) := by
  have silent {k : Host} (quiet : h.Quiet k) : ¬ ∃ e, Tells h k [e] := by
    rintro ⟨e, told⟩
    cases told.unique quiet.told
  generalize answer : (Reply.ended ended, g) = pair at channel
  cases channel with
  | passes quiet succeeds =>
      cases answer
      have success : ended.ending = .ok ∨ ended.ending = .cursor ∨ ended.ending = .done := succeeds
      obtain ok | cursor | done := success
      · simp [silent quiet, ok]
      · simp [silent quiet, cursor]
      · simp [silent quiet, done]
  | raises fatal raises =>
      cases answer
      refine ⟨⟨fun _ => rfl, fun _ => ⟨_, raises.told⟩⟩, ?_, ?_⟩ <;> simp [Call.refused, fatal]
  | returns mild quiet writes =>
      cases answer
      simp [silent quiet, mild]

/-- A call keeps to the two channels: it raises one exception exactly where something went
wrong that is misuse, hands back a new text exactly where something else went wrong, and
otherwise leaves the exception that waits alone.  The outcome of a call that has one says
which of these it was.  Giving up a handle that stands for nothing does nothing. -/
theorem service_channel (s : Service) (h : Host) (patient : s.Patient h) :
    Channel s.sentinel h (s.failure? h) (StateT.run s.answer h) ∧
    (s.hasOutcome → ∃ ended g, StateT.run s.answer h = (.ended ended, g) ∧
      ((∃ e, Tells h g [e]) ↔ ended.ending = .raised) ∧
      (ended.ending = .error ↔ ∃ e p, s.failure? h = some (e, p) ∧ e.isFatal = false) ∧
      (ended.ending = .ok ∨ ended.ending = .cursor ∨ ended.ending = .done ↔ s.failure? h = none)) ∧
    ∀ r own kind x, s = .call r own → r.isRelease → r.expects = some (kind, x) →
      (kind.registry h).find? x = none → StateT.run s.answer h = (.word 0, h) := by
  have channel := channel_of_service s h patient
  refine ⟨channel, fun outcome => ?_, ?_⟩
  · obtain ⟨ended, replied⟩ := exists_outcome s h outcome
    have answer : StateT.run s.answer h = (.ended ended, (StateT.run s.answer h).2) :=
      Prod.ext replied rfl
    rw [sentinel_of_hasOutcome outcome, answer] at channel
    exact ⟨ended, _, answer, ending_iff channel⟩
  · rintro r own kind x rfl releases expects missing
    exact release_of_missing releases expects missing

/-- An exception waits and an environment is open.  The source asks for a file system that
there is not. -/
def refusing : Host × Address :=
  let (driver, heap) := ({} : Heap).allocString "sqlite3"
  let (source, heap) := heap.allocString "file:a?vfs=b"
  ((issuing {} [.work heap (.throw "earlier" (-1)), .openDefault driver]).1, source)

theorem service_channel_of_longest_wait :
    let s : Service := .call (.connect 1 refusing.2 2147483647) rfl
    s.Patient refusing.1 ∧
      ∃ ended g, StateT.run s.answer refusing.1 = (.ended ended, g) ∧ ended.ending = .error := by
  intro s
  have patient : s.Patient refusing.1 := by
    intro e env _ _ wait asked
    have longest : Invocation.waitOf 2147483647 = some 2147483647 := by decide
    rw [longest] at asked
    cases asked
    exact Nat.le_refl _
  have failed : ∃ e p, s.failure? refusing.1 = some (e, p) ∧ e.isFatal = false :=
    ⟨.engine ⟨"no such vfs: b", 1⟩, Call.defaultPrefix, by decide +kernel, rfl⟩
  obtain ⟨ended, g, answer, -, error, -⟩ := (service_channel s refusing.1 patient).2.1 rfl
  exact ⟨patient, ended, g, answer, error.mpr failed⟩

end SqlDriver
