/-
# SqlDriver.Proofs.Call.Prefix -- whose text stands in front of a message

Every handle goes back to the settings with which an environment was opened: a handle of an
environment to those of the call that answered it, and a handle of a connection or a cursor to
what the handle goes back to that the call was given.  `Owners` is the list of this, kept along a
run of activities and read off these and their answers alone (`owning`).

A registry keeps the text in front of messages beside each object, and hands it on
(`Registers`).  That this is the text of the owner's settings is kept by every call
(`Owned.step`), so the messages of a run are told by its list of owners
(`messages_follow_owner`).
-/
import SqlDriver.Proofs.Call.Frame
import SqlDriver.Proofs.Call.HandleNumber
import SqlDriver.Proofs.Call.Message

namespace SqlDriver

set_option autoImplicit false

open Call

/-! ## Owners -/

/-- The settings that handles go back to, in the order in which the handles were answered. -/
abbrev Owners := List ((HandleKind × Int64) × Config)

namespace Invocation

/-- The settings that the handle goes back to which a call answers. -/
def settings? (h : Host) (owners : Owners) : Invocation → Option Config
  | openDefault _ => some {}
  | openWithConfig _ path =>
      (Config.ofFile (h.heap.stringAt path)
        (h.state.world.disk.readText (h.heap.stringAt path))).toOption
  | connect x _ _ => owners.lookup (.environment, x)
  | execute x _ => owners.lookup (.connection, x)
  | _ => none

/-- What a call adds to the list of owners. -/
def entitles (h : Host) (owners : Owners) (q : Invocation) (reply : Reply) : Owners :=
  match q.issues reply, q.settings? h owners with
  | some handle, some config => [(handle, config)]
  | _, _ => []

/-- A call, and the owner of the handle that it answers. -/
def own (before : Host × Owners) (q : Invocation) : Host × Owners :=
  let (reply, h) := StateT.run q.answer before.1
  (h, before.2 ++ q.entitles before.1 before.2 reply)

end Invocation

/-- What a program does: it calls or works on its own, or asks for the driver of a name. -/
inductive Activity where
  | invoke (q : Invocation)
  | info (driver : Address)

namespace Activity

/-- What an activity makes of a host and its owners.  No handle is answered where a driver is asked
for. -/
def own (before : Host × Owners) : Activity → Host × Owners
  | invoke q => q.own before
  | info driver => ((StateT.run (Call.driverInfo driver) before.1).2, before.2)

end Activity

/-- What some activities make of a host, and the owners of the handles that are answered. -/
def owning (disk : Disk) (activities : List Activity) : Host × Owners :=
  activities.foldl Activity.own (.start disk, [])

/-! ## What a call does to the registries -/

/-- The text that a call hands on to a new object of a kind. -/
inductive Passes (h : Host) : Invocation → HandleKind → String → Prop where
  | openDefault (driver : Address) :
      Passes h (.openDefault driver) .environment ({} : Config).errorPrefix
  | openWithConfig (driver : Address) {path : Address} {config : Config}
      (settings : Config.ofFile (h.heap.stringAt path)
        (h.state.world.disk.readText (h.heap.stringAt path)) = .ok config) :
      Passes h (.openWithConfig driver path) .environment config.errorPrefix
  | connect {x : Int64} {e : Entry} (live : h.environments.find? x = some e) (source : Address)
      (timeout : Int64) : Passes h (.connect x source timeout) .connection e.errorPrefix
  | execute {x : Int64} {e : Entry} (live : h.connections.find? x = some e) (sql : Address) :
      Passes h (.execute x sql) .cursor e.errorPrefix

/-- The registries but for one kind are the same. -/
def SameOthers (kind : HandleKind) (h g : Host) : Prop :=
  ∀ other : HandleKind, other ≠ kind → other.registry g = other.registry h

theorem sameOthers_environment {h g : Host} (connections : g.connections = h.connections)
    (cursors : g.cursors = h.cursors) : SameOthers .environment h g
  | .environment, other => absurd rfl other
  | .connection, _ => connections
  | .cursor, _ => cursors

theorem sameOthers_connection {h g : Host} (environments : g.environments = h.environments)
    (cursors : g.cursors = h.cursors) : SameOthers .connection h g
  | .environment, _ => environments
  | .connection, other => absurd rfl other
  | .cursor, _ => cursors

theorem sameOthers_cursor {h g : Host} (environments : g.environments = h.environments)
    (connections : g.connections = h.connections) : SameOthers .cursor h g
  | .environment, _ => environments
  | .connection, _ => connections
  | .cursor, other => absurd rfl other

/-- A call leaves the registries alone, removes an object from one, or stores one under the next
number of one and answers its handle. -/
inductive Registers (q : Invocation) (h : Host) : Reply × Host → Prop where
  | keeps {reply : Reply} {g : Host} (same : SameRegistries h g)
      (nothing : q.issues reply = none) : Registers q h (reply, g)
  | loses {reply : Reply} {g : Host} (kind : HandleKind) (x : Int64)
      (here : kind.registry g = ((kind.registry h).remove x).2) (others : SameOthers kind h g)
      (nothing : q.issues reply = none) : Registers q h (reply, g)
  | gains {reply : Reply} {g : Host} (kind : HandleKind) (object : Nat) {errorPrefix : String}
      (here : kind.registry g = ((kind.registry h).insert object errorPrefix).2)
      (others : SameOthers kind h g)
      (issues : q.issues reply =
        let x := Int64.ofNat (kind.registry h).entries.next
        if x = 0 then none else some (kind, x))
      (passes : Passes h q kind errorPrefix) : Registers q h (reply, g)

section Registers

variable (h : Host)

theorem openDriver_registers {q : Invocation} (driver : String) (config : Config)
    (issues : ∀ x, q.issues (.word x) = if x = 0 then none else some (.environment, x))
    (passes : Passes h q .environment config.errorPrefix) :
    Registers q h (.word (StateT.run (openDriver driver config) h).1,
      (StateT.run (openDriver driver config) h).2) := by
  unfold openDriver
  rw [run_bind, run_perform]
  rcases exec (Environment.openNamed driver config) h.state with ⟨error | e, s⟩
  · refine .keeps ?_ ((issues 0).trans (if_pos rfl))
    have opened := sameRegistries_frame.state h s
    exact IsTrans.trans _ _ _ opened (sameRegistries_frame.raise _ error config.errorPrefix)
  · exact .gains .environment e rfl (sameOthers_environment rfl rfl) (issues _) passes

/-- Reporting an error leaves the registries alone, and answers no handle. -/
theorem report_registers {q : Invocation} (s : State)
    (raised : ∀ word, q.issues (.ended ⟨.raised, word⟩) = none)
    (returned : ∀ word, q.issues (.ended ⟨.error, word⟩) = none) (error : Error)
    (errorPrefix : String) :
    Registers q h (.ended (StateT.run (report error errorPrefix) { h with state := s }).1,
      (StateT.run (report error errorPrefix) { h with state := s }).2) := by
  have same := IsTrans.trans _ _ _ (sameRegistries_frame.state h s)
    (sameRegistries_frame.report _ error errorPrefix)
  refine .keeps same ?_
  obtain ⟨ending, word, g, reported, -, rfl | rfl⟩ := report_answer h s error errorPrefix
  · rw [reported]
    exact raised word
  · rw [reported]
    exact returned word

theorem connect_registers (x : Int64) (source : Address) (timeout : Int64) :
    Registers (.connect x source timeout) h
      (StateT.run (Invocation.connect x source timeout).answer h) := by
  change Registers _ h (.ended (StateT.run (Call.connect x source timeout) h).1,
    (StateT.run (Call.connect x source timeout) h).2)
  unfold Call.connect
  cases found : h.environments.find? x with
  | none =>
      rw [withEntry_of_missing found]
      exact .keeps (sameRegistries_frame.raise h _ _) rfl
  | some e =>
      rw [withEntry_of_live found, run_bind, run_textAt]
      dsimp only
      rw [run_bind, run_perform]
      rcases exec (Environment.connect e.object _ _) h.state with ⟨error | c | _, s⟩
      · exact report_registers h s (fun _ => rfl) (fun _ => rfl) error e.errorPrefix
      · exact .gains .connection c rfl (sameOthers_connection rfl rfl) rfl
          (.connect found source timeout)
      · exact .keeps (sameRegistries_frame.state h s) rfl

theorem execute_registers (x : Int64) (sql : Address) :
    Registers (.execute x sql) h (StateT.run (Invocation.execute x sql).answer h) := by
  change Registers _ h (.ended (StateT.run (Call.execute x sql) h).1,
    (StateT.run (Call.execute x sql) h).2)
  unfold Call.execute
  cases found : h.connections.find? x with
  | none =>
      rw [withEntry_of_missing found]
      exact .keeps (sameRegistries_frame.raise h _ _) rfl
  | some e =>
      rw [withEntry_of_live found, run_bind, run_textAt]
      dsimp only
      rw [run_bind, run_perform]
      rcases exec (Connection.execute e.object _) h.state with ⟨error | n | k, s⟩
      · exact report_registers h s (fun _ => rfl) (fun _ => rfl) error e.errorPrefix
      · exact .keeps (sameRegistries_frame.state h s) rfl
      · exact .gains .cursor k rfl (sameOthers_cursor rfl rfl) rfl (.execute found sql)

/-- Giving up a handle removes what it stands for, and else changes no registry. -/
theorem release_registers {q : Invocation} (releases : q.isRelease) :
    Registers q h (StateT.run q.answer h) := by
  obtain ⟨⟨kind, x⟩, expects⟩ : ∃ handle, q.expects = some handle := by
    cases q <;> first | exact ⟨_, rfl⟩ | cases releases
  cases found : (kind.registry h).find? x with
  | none =>
      rw [release_of_missing releases expects found]
      refine .keeps (Std.Refl.refl h) ?_
      cases q <;> rfl
  | some e =>
      cases q with
      | releaseEnvironment y =>
          cases expects
          rw [Invocation.answer, run_map, run_releaseEnvironment h x found]
          exact .loses .environment x rfl (sameOthers_environment rfl rfl) rfl
      | releaseConnection y =>
          cases expects
          rw [Invocation.answer, run_map, run_releaseConnection h x found]
          exact .loses .connection x rfl (sameOthers_connection rfl rfl) rfl
      | releaseCursor y =>
          cases expects
          rw [Invocation.answer, run_map, run_releaseCursor h x found]
          exact .loses .cursor x rfl (sameOthers_cursor rfl rfl) rfl
      | _ => cases releases

theorem plain_registers {q : Invocation} (plain : q.isPlain) :
    Registers q h (StateT.run q.answer h) := by
  refine .keeps (sameRegistries_frame.answer h plain) ?_
  cases q <;> first | rfl | cases plain

theorem registers (q : Invocation) : Registers q h (StateT.run q.answer h) := by
  cases q with
  | openDefault driver =>
      exact openDriver_registers h (h.heap.stringAt driver) {} (fun _ => rfl) (.openDefault driver)
  | openWithConfig driver path =>
      change Registers _ h (.word (StateT.run (Call.openWithConfig driver path) h).1,
        (StateT.run (Call.openWithConfig driver path) h).2)
      rw [run_openWithConfig]
      cases settings : Config.ofFile (h.heap.stringAt path)
          (h.state.world.disk.readText (h.heap.stringAt path)) with
      | ok config =>
          exact openDriver_registers h (h.heap.stringAt driver) config (fun _ => rfl)
            (.openWithConfig driver settings)
      | error error => exact .keeps (sameRegistries_frame.raise h error defaultPrefix) rfl
  | connect x source timeout => exact connect_registers h x source timeout
  | execute x sql => exact execute_registers h x sql
  | releaseEnvironment x => exact release_registers h rfl
  | releaseConnection x => exact release_registers h rfl
  | releaseCursor x => exact release_registers h rfl
  | work heap exception =>
      refine .keeps (fun kind => ?_) rfl
      cases kind <;> rfl
  | _ => exact plain_registers h rfl

end Registers

/-! ## Entries -/

namespace Registry

variable {r : Registry} {x : Int64} {e : Entry}

theorem find?_of_remove {y : Int64} (found : (r.remove y).2.find? x = some e) :
    r.find? x = some e := by
  unfold remove at found
  split at found
  · have positive := pos_of_find? found
    rw [find?_of_pos _ positive, Pool.get?_erase] at found
    split at found
    · cases found
    · rwa [find?_of_pos _ positive]
  · exact found

/-- Behind an insertion, a handle stands for what it stood for, or has the new number. -/
theorem find?_of_insert {object : Nat} {errorPrefix : String}
    (found : (r.insert object errorPrefix).2.find? x = some e) :
    r.find? x = some e ∨
      e = ⟨object, errorPrefix⟩ ∧ 0 < x.toInt ∧ x.toInt.toNat = r.entries.next := by
  have positive := pos_of_find? found
  rw [find?_of_pos _ positive] at found
  change (r.entries.insert ⟨object, errorPrefix⟩).2.get? _ = _ at found
  rw [Pool.get?_insert] at found
  split at found
  · next last => exact .inr ⟨(Option.some.inj found).symm, positive, last⟩
  · exact .inl ((find?_of_pos _ positive).trans found)

/-- The next number has not been given out. -/
theorem not_gave_next (positive : 0 < x.toInt) (number : x.toInt.toNat = r.entries.next) :
    ¬ r.Gave x := by
  rintro ⟨n, low, high, rfl, -⟩
  have bound : (Int64.ofNat n).toInt < 2 ^ 63 := Int64.toInt_lt _
  have small : n < 2 ^ 63 := by omega
  rw [Int64.toInt_ofNat_of_lt small] at number
  omega

theorem eq_ofNat_of_pos (positive : 0 < x.toInt) : x = Int64.ofNat x.toInt.toNat := by
  have bound : x.toInt < 2 ^ 63 := x.toInt_lt
  rw [← Int64.toInt_inj, Int64.toInt_ofNat_of_lt (by omega)]
  omega

end Registry

/-! ## What every call keeps -/

/-- Every handle that stands for an object has an owner, whose text stands in front of the
messages of the object's errors, and the owners are those of handles that were given out. -/
structure Owned (h : Host) (owners : Owners) : Prop where
  named : ∀ kind : HandleKind, (kind.registry h).kind = kind.name
  positive : ∀ kind : HandleKind, 1 ≤ (kind.registry h).entries.next
  given : ∀ kind x config, ((kind, x), config) ∈ owners → (kind.registry h).Gave x
  owner : ∀ (kind : HandleKind) x e, (kind.registry h).find? x = some e →
    ∃ config, owners.lookup (kind, x) = some config ∧ e.errorPrefix = config.errorPrefix

namespace Owned

variable {h g : Host} {owners : Owners} {q : Invocation} {reply : Reply}

theorem start (disk : Disk) : Owned (.start disk) [] := by
  refine ⟨fun kind => (by cases kind <;> rfl), fun kind => (by cases kind <;> exact Nat.le_refl 1),
    fun _ _ _ among => (by cases among), fun kind x e found => ?_⟩
  have empty : (kind.registry (Host.start disk)).find? x = none := by
    unfold Registry.find?
    split
    · rfl
    · cases kind <;> rfl
  cases empty.symm.trans found

/-- The text that a call hands on is that of the settings which the list of owners has for it. -/
theorem settings (owned : Owned h owners) {kind : HandleKind} {errorPrefix : String}
    (passes : Passes h q kind errorPrefix) :
    ∃ config, q.settings? h owners = some config ∧ errorPrefix = config.errorPrefix := by
  cases passes with
  | openDefault driver => exact ⟨{}, rfl, rfl⟩
  | openWithConfig driver settings =>
      refine ⟨_, ?_, rfl⟩
      rw [Invocation.settings?, settings]
      rfl
  | connect live source timeout => exact owned.owner .environment _ _ live
  | execute live sql => exact owned.owner .connection _ _ live

theorem entitles_of_nothing (nothing : q.issues reply = none) :
    q.entitles h owners reply = [] := by
  rw [Invocation.entitles, nothing]

/-- Registries without new objects. -/
theorem shrink (owned : Owned h owners) (numbers : SameNumbers h g)
    (found : ∀ (kind : HandleKind) x e, (kind.registry g).find? x = some e →
      (kind.registry h).find? x = some e) : Owned g owners where
  named kind := (numbers kind).1.trans (owned.named kind)
  positive kind := by
    rw [(numbers kind).2]
    exact owned.positive kind
  given kind x config among :=
    (Registry.gave_congr (numbers kind).2 x).2 (owned.given kind x config among)
  owner kind x e there := owned.owner kind x e (found kind x e there)

/-- Registries that stay what they are. -/
theorem same (owned : Owned h owners) (same : SameRegistries h g) : Owned g owners := by
  refine owned.shrink (fun kind => ?_) fun kind x e found => ?_
  · rw [same]
    exact ⟨rfl, rfl⟩
  · rwa [same] at found

/-- A registry with a new object, whose handle is answered. -/
theorem grow (owned : Owned h owners) {kind : HandleKind} {object : Nat} {errorPrefix : String}
    (here : kind.registry g = ((kind.registry h).insert object errorPrefix).2)
    (others : SameOthers kind h g)
    (issues : q.issues reply =
      let x := Int64.ofNat (kind.registry h).entries.next
      if x = 0 then none else some (kind, x))
    (passes : Passes h q kind errorPrefix) : Owned g (owners ++ q.entitles h owners reply) := by
  obtain ⟨config, settings, rfl⟩ := owned.settings passes
  have entitles : q.entitles h owners reply =
      if Int64.ofNat (kind.registry h).entries.next = 0 then []
      else [((kind, Int64.ofNat (kind.registry h).entries.next), config)] := by
    rw [Invocation.entitles, issues, settings]
    dsimp only
    by_cases zero : Int64.ofNat (kind.registry h).entries.next = 0
    · rw [if_pos zero, if_pos zero]
    · rw [if_neg zero, if_neg zero]
  have next : (kind.registry g).entries.next = (kind.registry h).entries.next + 1 := by
    rw [here]
    rfl
  refine ⟨fun other => ?_, fun other => ?_, fun other x settings among => ?_,
    fun other x e found => ?_⟩
  · by_cases same : other = kind
    · rw [same, here]
      exact owned.named kind
    · rw [others other same]
      exact owned.named other
  · by_cases same : other = kind
    · rw [same, next]
      exact Nat.succ_pos _
    · rw [others other same]
      exact owned.positive other
  · obtain old | new := List.mem_append.1 among
    · by_cases same : other = kind
      · subst same
        exact (Registry.gave_succ next (owned.positive _) x).2 (.inr (owned.given _ x settings old))
      · rw [others other same]
        exact owned.given other x settings old
    · rw [entitles] at new
      split at new
      · cases new
      · next nonzero =>
          cases List.mem_singleton.1 new
          exact (Registry.gave_succ next (owned.positive _) _).2 (.inl ⟨rfl, nonzero⟩)
  · have kept (before : (other.registry h).find? x = some e) : ∃ config,
        (owners ++ q.entitles h owners reply).lookup (other, x) = some config ∧
          e.errorPrefix = config.errorPrefix := by
      obtain ⟨config, owner, same⟩ := owned.owner other x e before
      exact ⟨config, by rw [List.lookup_append, owner]; rfl, same⟩
    by_cases same : other = kind
    · subst same
      rw [here] at found
      obtain before | ⟨rfl, positive, number⟩ := Registry.find?_of_insert found
      · exact kept before
      · have handle := Registry.eq_ofNat_of_pos positive
        rw [number] at handle
        have nonzero : Int64.ofNat (other.registry h).entries.next ≠ 0 := by
          rintro zero
          rw [← handle] at zero
          subst zero
          exact absurd positive (by decide)
        -- The list has no owner of this number yet: it has not been given out.
        have fresh : owners.lookup (other, x) = none := by
          refine List.lookup_eq_none_iff.2 fun entry among => bne_iff_ne.2 fun same => ?_
          obtain ⟨_, settings⟩ := entry
          subst same
          exact Registry.not_gave_next positive number (owned.given _ _ settings among)
        refine ⟨config, ?_, rfl⟩
        rw [List.lookup_append, fresh, entitles, if_neg nonzero, handle]
        simp
    · rw [others other same] at found
      exact kept found

/-- Every call keeps the owners. -/
theorem step (owned : Owned h owners) (q : Invocation) :
    Owned (StateT.run q.answer h).2
      (owners ++ q.entitles h owners (StateT.run q.answer h).1) := by
  have registers := registers h q
  generalize StateT.run q.answer h = answer at registers ⊢
  cases registers with
  | keeps same nothing =>
      rw [entitles_of_nothing nothing, List.append_nil]
      exact owned.same same
  | loses kind x here others nothing =>
      rw [entitles_of_nothing nothing, List.append_nil]
      refine owned.shrink (fun other => ?_) fun other y e found => ?_
      · by_cases same : other = kind
        · rw [same, here]
          exact remove_numbers _ x
        · rw [others other same]
          exact ⟨rfl, rfl⟩
      · by_cases same : other = kind
        · subst same
          rw [here] at found
          exact Registry.find?_of_remove found
        · rwa [others other same] at found
  | gains kind object here others issues passes => exact owned.grow here others issues passes

/-- In every run, the owners of its handles. -/
theorem run (disk : Disk) (activities : List Activity) :
    Owned (owning disk activities).1 (owning disk activities).2 :=
  List.foldlRecOn (motive := fun after => Owned after.1 after.2) activities Activity.own
    (start disk) fun _ owned activity _ =>
      match activity with
      | .invoke q => owned.step q
      | .info driver => owned.same (sameRegistries_frame.driverInfo _ driver)

end Owned

/-! ## Messages -/

section Messages

/-- The message of a failure that is known. -/
theorem exists_failure_iff {e : Error} {errorPrefix message : String} :
    (∃ error text, some (e, errorPrefix) = some (error, text) ∧ message = text ++ error.message) ↔
      message = errorPrefix ++ e.message := by
  constructor
  · rintro ⟨_, _, same, rfl⟩
    cases same
    rfl
  · rintro rfl
    exact ⟨_, _, rfl, rfl⟩

theorem exists_failure_iff_of_not {known : Prop} [Decidable known] {e : Error}
    {errorPrefix message : String} :
    (∃ error text, (if known then none else some (e, errorPrefix)) = some (error, text) ∧
      message = text ++ error.message) ↔ ¬ known ∧ message = errorPrefix ++ e.message := by
  by_cases here : known
  · simp [here]
  · rw [if_neg here, exists_failure_iff, and_iff_right here]

variable (h : Host)

/-- What a call by handle reports where the handle stands for an object. -/
theorem reports_iff_of_live {q : Invocation} {kind : HandleKind} {x : Int64} {e : Entry}
    (expects : q.expects = some (kind, x)) (live : (kind.registry h).find? x = some e)
    (message : String) :
    Reports h message (StateT.run q.answer h) ↔ ∃ error, q.errorOn? h e.object = some error ∧
      message = e.errorPrefix ++ error.message := by
  cases releases : q.isRelease with
  | true =>
      have own : q.isWork = false := by cases q <;> first | rfl | cases releases
      have harmless : (Service.call q own).failure? h = none := by
        cases q <;> first | rfl | cases releases
      have silent : q.errorOn? h e.object = none := by cases q <;> first | rfl | cases releases
      have reported := reports_iff (.call q own) h message
      rw [harmless] at reported
      rw [silent]
      exact reported.trans (by simp)
  | false =>
      rw [reports_iff_byHandle h expects releases, Invocation.byHandle?, live]
      dsimp only
      cases q.errorOn? h e.object <;> simp

/-- What a call by handle reports where the handle stands for nothing. -/
theorem reports_iff_of_missing {q : Invocation} {kind : HandleKind} {x : Int64}
    (expects : q.expects = some (kind, x)) (keeps : q.isRelease = false)
    (missing : (kind.registry h).find? x = none) (named : (kind.registry h).kind = kind.name)
    (message : String) :
    Reports h message (StateT.run q.answer h) ↔
      message = defaultPrefix ++ (kind.name ++ " expected") := by
  rw [reports_iff_byHandle h expects keeps, Invocation.byHandle?, missing]
  dsimp only
  rw [named]
  exact exists_failure_iff

theorem openError_eq (driver : String) (config : Config) :
    openError? h driver config =
      if (DriverInfo.find? driver).isSome then none
      else some (.unknownDriver driver, config.errorPrefix) := by
  rw [openError?, Command.error?, Command.perform, errorOf_discard, Environment.openNamed]
  cases DriverInfo.find? driver <;> rfl

end Messages

/-- In every run, what a call by handle reports is the message of its error behind the text of the
settings that the handle goes back to, whatever has become of their environment.  A handle that
stands for nothing, a driver that nobody knows and settings that cannot be read are reported
behind the default text; a driver that is unknown when its settings were read, behind theirs. -/
theorem messages_follow_owner (disk : Disk) (activities : List Activity) :
    let h := (owning disk activities).1
    let owners := (owning disk activities).2
    (∀ (kind : HandleKind) x e, (kind.registry h).find? x = some e →
      ∃ config, owners.lookup (kind, x) = some config ∧
        ∀ q : Invocation, q.expects = some (kind, x) → ∀ message,
          (Reports h message (StateT.run q.answer h) ↔ ∃ error,
            q.errorOn? h e.object = some error ∧ message = config.errorPrefix ++ error.message)) ∧
    (∀ (kind : HandleKind) x, (kind.registry h).find? x = none →
      ∀ q : Invocation, q.expects = some (kind, x) → q.isRelease = false → ∀ message,
        (Reports h message (StateT.run q.answer h) ↔
          message = defaultPrefix ++ (kind.name ++ " expected"))) ∧
    (∀ driver message, Reports h message (StateT.run (Service.info driver).answer h) ↔
      ¬ (DriverInfo.find? (h.heap.stringAt driver)).isSome ∧
        message = defaultPrefix ++ (Error.unknownDriver (h.heap.stringAt driver)).message) ∧
    (∀ driver message, Reports h message (StateT.run (Invocation.openDefault driver).answer h) ↔
      ¬ (DriverInfo.find? (h.heap.stringAt driver)).isSome ∧
        message = defaultPrefix ++ (Error.unknownDriver (h.heap.stringAt driver)).message) ∧
    ∀ driver path message,
      Reports h message (StateT.run (Invocation.openWithConfig driver path).answer h) ↔
        match Config.ofFile (h.heap.stringAt path)
            (h.state.world.disk.readText (h.heap.stringAt path)) with
        | .ok config => ¬ (DriverInfo.find? (h.heap.stringAt driver)).isSome ∧
            message = config.errorPrefix ++ (Error.unknownDriver (h.heap.stringAt driver)).message
        | .error error => message = defaultPrefix ++ error.message := by
  intro h owners
  have owned := Owned.run disk activities
  refine ⟨fun kind x e live => ?_, fun kind x missing q expects keeps =>
      reports_iff_of_missing h expects keeps missing (owned.named kind),
    fun driver message => ?_, fun driver message => ?_, fun driver path message => ?_⟩
  · obtain ⟨config, owner, same⟩ := owned.owner kind x e live
    refine ⟨config, owner, fun q expects message => ?_⟩
    rw [← same]
    exact reports_iff_of_live h expects live message
  · rw [reports_iff, ← exists_failure_iff_of_not, Service.failure?]
    cases DriverInfo.find? (h.heap.stringAt driver) <;> rfl
  · have reported : _ ↔ ∃ e text, openError? h (h.heap.stringAt driver) {} = some (e, text) ∧
        message = text ++ e.message := reports_iff (.call (.openDefault driver) rfl) h message
    rw [openError_eq, exists_failure_iff_of_not] at reported
    exact reported
  · have reported : _ ↔ ∃ e text, openFromFileError? h (h.heap.stringAt driver)
        (h.heap.stringAt path) = some (e, text) ∧ message = text ++ e.message :=
      reports_iff (.call (.openWithConfig driver path) rfl) h message
    refine reported.trans ?_
    rw [openFromFileError?]
    cases Config.ofFile (h.heap.stringAt path)
        (h.state.world.disk.readText (h.heap.stringAt path)) with
    | ok config =>
        dsimp only
        rw [openError_eq]
        exact exists_failure_iff_of_not
    | error error => exact exists_failure_iff

/-- A file of settings with a text of their own. -/
def prefixedDisk : Disk where
  files := [("a", .octets (Text.Utf8.ofString "error_prefix = \"A: \""))]

theorem prefixedDisk_settings :
    Config.ofFile "a" (prefixedDisk.readText "a") = .ok { errorPrefix := "A: " } := by
  have parts : pathParts "a" = ["a"] := by decide +kernel
  have octets : prefixedDisk.read "a" = .ok (Text.Utf8.ofString "error_prefix = \"A: \"") := by
    rw [Disk.read, if_neg (by decide), if_neg (by decide +kernel), parts]
    rfl
  rw [Disk.readText, octets]
  change Config.ofFile "a" (textOf _) = _
  rw [textOf, Text.Utf8.decode?, Text.Utf8.ofString_eq_encode, Text.Utf8.decodeLossy_encode]
  decide +kernel

/-- A connection of an environment with settings, which was then closed and given up, and one of
an environment without. -/
def twoOwners : List Activity :=
  let (driver, heap) := ({} : Heap).allocString "sqlite3"
  let (path, heap) := heap.allocString "a"
  let (source, heap) := heap.allocString ":memory:"
  [.invoke (.work heap {}), .invoke (.openWithConfig driver path), .invoke (.openDefault driver),
    .invoke (.connect 1 source (-1)), .invoke (.connect 2 source (-1)),
    .invoke (.closeEnvironment 1), .invoke (.releaseEnvironment 1)]

/-- What opening with settings that can be read makes of a host and its owners. -/
theorem own_openWithConfig (before : Host × Owners) (driver : Address) {path : Address}
    {config : Config} (settings : Config.ofFile (before.1.heap.stringAt path)
      (before.1.state.world.disk.readText (before.1.heap.stringAt path)) = .ok config) :
    Invocation.own before (.openWithConfig driver path) =
      let (x, h) := StateT.run (openDriver (before.1.heap.stringAt driver) config) before.1
      (h, before.2 ++ if x = 0 then [] else [((.environment, x), config)]) := by
  have answer : StateT.run (Invocation.openWithConfig driver path).answer before.1 =
      (.word (StateT.run (openDriver (before.1.heap.stringAt driver) config) before.1).1,
        (StateT.run (openDriver (before.1.heap.stringAt driver) config) before.1).2) := by
    rw [Invocation.answer, run_map, run_openWithConfig, settings]
  rw [Invocation.own, answer]
  dsimp only
  rw [Invocation.entitles, Invocation.settings?, settings, Invocation.issues]
  rcases StateT.run (openDriver (before.1.heap.stringAt driver) config) before.1 with ⟨x, g⟩
  by_cases zero : x = 0 <;> simp [zero, Except.toOption]

theorem owning_append_cons (disk : Disk) (activities rest : List Activity) (activity : Activity) :
    owning disk (activities ++ activity :: rest) =
      rest.foldl Activity.own (Activity.own (owning disk activities) activity) := by
  rw [owning, List.foldl_append, List.foldl_cons, owning]

/-- The second call reads the settings. -/
theorem owning_twoOwners :
    let before := owning prefixedDisk (twoOwners.take 1)
    owning prefixedDisk twoOwners = (twoOwners.drop 2).foldl Activity.own
      (let (x, h) := StateT.run (openDriver "sqlite3" { errorPrefix := "A: " }) before.1
      (h, before.2 ++ if x = 0 then [] else [((.environment, x), { errorPrefix := "A: " })])) := by
  intro before
  let driver := (({} : Heap).allocString "sqlite3").1
  let path := ((({} : Heap).allocString "sqlite3").2.allocString "a").1
  have driverText : before.1.heap.stringAt driver = "sqlite3" := by decide +kernel
  have pathText : before.1.heap.stringAt path = "a" := by decide +kernel
  have settings : Config.ofFile (before.1.heap.stringAt path)
      (before.1.state.world.disk.readText (before.1.heap.stringAt path)) =
        .ok { errorPrefix := "A: " } := by
    rw [pathText]
    exact prefixedDisk_settings
  have second := own_openWithConfig before driver settings
  rw [driverText] at second
  calc owning prefixedDisk twoOwners
    _ = (twoOwners.drop 2).foldl Activity.own
          (Invocation.own before (.openWithConfig driver path)) :=
      owning_append_cons prefixedDisk (twoOwners.take 1) (twoOwners.drop 2)
        (.invoke (.openWithConfig driver path))
    _ = _ := by rw [second]

theorem messages_of_two_owners :
    let h := (owning prefixedDisk twoOwners).1
    Reports h "A: cannot commit - no transaction is active"
      (StateT.run (Invocation.commit 1).answer h) ∧
    Reports h "naml.sql: cannot commit - no transaction is active"
      (StateT.run (Invocation.commit 2).answer h) ∧
    Reports h "naml.sql: environment expected"
      (StateT.run (Invocation.closeEnvironment 1).answer h) := by
  obtain ⟨live, unknown, -⟩ := messages_follow_owner prefixedDisk twoOwners
  rw [owning_twoOwners] at live unknown ⊢
  intro h
  have first : h.connections.find? 1 = some ⟨1, "A: "⟩ := by decide +kernel
  have second : h.connections.find? 2 = some ⟨2, "naml.sql: "⟩ := by decide +kernel
  have missing : h.environments.find? 1 = none := by decide +kernel
  have fails : (Invocation.commit 1).errorOn? h 1 =
      some (.engine ⟨"cannot commit - no transaction is active", 1⟩) := by decide +kernel
  have fails' : (Invocation.commit 2).errorOn? h 2 =
      some (.engine ⟨"cannot commit - no transaction is active", 1⟩) := by decide +kernel
  obtain ⟨config, owner, reports⟩ := live .connection 1 _ first
  obtain ⟨config', owner', reports'⟩ := live .connection 2 _ second
  cases owner.symm.trans (by decide +kernel : _ = some { errorPrefix := "A: " })
  cases owner'.symm.trans (by decide +kernel : _ = some {})
  exact ⟨(reports (.commit 1) rfl _).2 ⟨_, fails, rfl⟩,
    (reports' (.commit 2) rfl _).2 ⟨_, fails', rfl⟩,
    (unknown .environment 1 missing (.closeEnvironment 1) rfl rfl _).2 rfl⟩

end SqlDriver
