/-
# SqlDriver.Proofs.Call.HandleNumber -- one number, several kinds of objects

Each registry numbers its objects from one upwards (`SqlDriver.Call.Registry`), so a number
alone does not say what it stands for.  Among the handles that a run answered, those of two
kinds are told apart only as long as one of the kinds has none (`handles_of_kinds`): as soon
as both have some, both have the handle one.  A call that expects another kind of object than
the one that its handle was answered for reports so exactly when the number stands for no
object of the expected kind.

`Numbered` is the invariant: the handles of a kind are the numbers that its registry has gone
through, and neither a connection nor a cursor exists without the object that it came from.
-/
import SqlDriver.Proofs.Call.Invocation

namespace SqlDriver

set_option autoImplicit false

/-! ## The numbers of a registry -/

namespace Registry

/-- A handle that the registry has given out. -/
def Gave (r : Registry) (x : Int64) : Prop :=
  ∃ n, 1 ≤ n ∧ n < r.entries.next ∧ x = Int64.ofNat n ∧ x ≠ 0

theorem gave_of_live {r : Registry} {x : Int64} {e : Entry} (live : r.find? x = some e) :
    r.Gave x := by
  unfold find? at live
  split at live
  · cases live
  · next positive =>
      have bound : x.toInt < 2 ^ 63 := x.toInt_lt
      have number : x = Int64.ofNat x.toInt.toNat := by
        rw [← Int64.toInt_inj, Int64.toInt_ofNat_of_lt (by omega)]
        omega
      refine ⟨x.toInt.toNat, by omega, Pool.lt_next_of_get? live, number, fun zero => ?_⟩
      subst zero
      exact positive (by decide)

/-- A registry that has given out a handle has given out the handle one. -/
theorem gave_one_iff {r : Registry} : r.Gave 1 ↔ 1 < r.entries.next := by
  constructor
  · rintro ⟨n, low, high, _⟩
    omega
  · exact fun some => ⟨1, Nat.le_refl 1, some, rfl, by decide⟩

theorem Gave.one {r : Registry} {x : Int64} (gave : r.Gave x) : r.Gave 1 := by
  obtain ⟨n, low, high, _⟩ := gave
  exact gave_one_iff.2 (by omega)

/-- After one more number, its handle has been given out too. -/
theorem gave_succ {r s : Registry} (next : s.entries.next = r.entries.next + 1)
    (positive : 1 ≤ r.entries.next) (x : Int64) :
    s.Gave x ↔ (x = Int64.ofNat r.entries.next ∧ x ≠ 0) ∨ r.Gave x := by
  constructor
  · rintro ⟨n, low, high, number, nonzero⟩
    by_cases last : n = r.entries.next
    · exact .inl ⟨last ▸ number, nonzero⟩
    · exact .inr ⟨n, low, by omega, number, nonzero⟩
  · rintro (⟨number, nonzero⟩ | ⟨n, low, high, number, nonzero⟩)
    · exact ⟨r.entries.next, positive, by omega, number, nonzero⟩
    · exact ⟨n, low, by omega, number, nonzero⟩

theorem gave_congr {r s : Registry} (next : s.entries.next = r.entries.next) (x : Int64) :
    s.Gave x ↔ r.Gave x := by
  rw [Gave, Gave, next]

end Registry

/-! ## What every call keeps -/

/-- The handles that were answered are the numbers of the registries. -/
structure Numbered (h : Host) (issued : List (HandleKind × Int64)) : Prop where
  named : ∀ kind : HandleKind, (kind.registry h).kind = kind.name
  positive : ∀ kind : HandleKind, 1 ≤ (kind.registry h).entries.next
  issued_iff : ∀ kind x, (kind, x) ∈ issued ↔ (kind.registry h).Gave x
  connected : h.connections.Gave 1 → h.environments.Gave 1
  executed : h.cursors.Gave 1 → h.connections.Gave 1

namespace Numbered

theorem start (disk : Disk) : Numbered (.start disk) [] := by
  have none (r : Registry) (next : r.entries.next = 1) (x : Int64) : ¬ r.Gave x := by
    rintro ⟨n, low, high, _⟩
    omega
  refine ⟨?_, ?_, fun kind x => ?_, fun gave => ?_, fun gave => ?_⟩
  · rintro (_ | _ | _) <;> rfl
  · rintro (_ | _ | _) <;> exact Nat.le_refl 1
  · refine iff_of_false (List.not_mem_nil) (none _ ?_ x)
    cases kind <;> rfl
  · exact absurd gave (none _ rfl 1)
  · exact absurd gave (none _ rfl 1)

variable {h g : Host} {issued : List (HandleKind × Int64)} {r : Invocation} {reply : Reply}

theorem same (numbered : Numbered h issued) (same : SameNumbers h g) : Numbered g issued := by
  have gave (kind : HandleKind) (x : Int64) :
      (kind.registry g).Gave x ↔ (kind.registry h).Gave x :=
    Registry.gave_congr (same kind).2 x
  refine ⟨fun kind => (same kind).1.trans (numbered.named kind), fun kind => ?_, fun kind x => ?_,
    fun connection => ?_, fun cursor => ?_⟩
  · rw [(same kind).2]
    exact numbered.positive kind
  · rw [numbered.issued_iff, gave]
  · exact (gave .environment 1).2 (numbered.connected ((gave .connection 1).1 connection))
  · exact (gave .connection 1).2 (numbered.executed ((gave .cursor 1).1 cursor))

/-- A registry that gives out its next number, while those before it have given out some. -/
theorem issue {kind : HandleKind} (numbered : Numbered h issued)
    (issue : Issued r kind h (reply, g))
    (environment : kind = .connection → h.environments.Gave 1)
    (connection : kind = .cursor → h.connections.Gave 1) :
    Numbered g ((r.issues reply).toList ++ issued) := by
  obtain ⟨inserts, answers⟩ := issue
  have others (k : HandleKind) (other : k ≠ kind) (x : Int64) :
      (k.registry g).Gave x ↔ (k.registry h).Gave x :=
    Registry.gave_congr (by rw [(inserts k).2, if_neg other, Nat.add_zero]) x
  have own (x : Int64) : (kind.registry g).Gave x ↔
      (x = Int64.ofNat (kind.registry h).entries.next ∧ x ≠ 0) ∨ (kind.registry h).Gave x :=
    Registry.gave_succ (by rw [(inserts kind).2, if_pos rfl]) (numbered.positive kind) x
  have kept (k : HandleKind) (x : Int64) (gave : (k.registry h).Gave x) :
      (k.registry g).Gave x := by
    by_cases here : k = kind
    · subst here
      exact (own x).2 (.inr gave)
    · exact (others k here x).2 gave
  refine ⟨fun k => (inserts k).1.trans (numbered.named k), fun k => ?_, fun k x => ?_,
    fun gave => ?_, fun gave => ?_⟩
  · rw [(inserts k).2]
    exact Nat.le_trans (numbered.positive k) (Nat.le_add_right ..)
  · rw [List.mem_append, numbered.issued_iff, answers]
    by_cases here : k = kind
    · subst here
      rw [own]
      refine or_congr_left ?_
      dsimp only
      split
      · next zero => simp [zero]
      · next nonzero =>
          simp only [Option.toList_some, List.mem_singleton, Prod.mk.injEq, true_and]
          exact ⟨fun number => ⟨number, number ▸ nonzero⟩, And.left⟩
    · rw [others k here]
      dsimp only
      split <;> simp [here]
  · by_cases here : kind = .connection
    · exact kept .environment 1 (environment here)
    · exact kept .environment 1 (numbered.connected ((others .connection (Ne.symm here) 1).1 gave))
  · by_cases here : kind = .cursor
    · exact kept .connection 1 (connection here)
    · exact kept .connection 1 (numbered.executed ((others .cursor (Ne.symm here) 1).1 gave))

theorem step (numbered : Numbered h issued) (r : Invocation) :
    Numbered (StateT.run r.answer h).2
      ((r.issues (StateT.run r.answer h).1).toList ++ issued) := by
  cases answer_effect h r with
  | none same nothing =>
      rw [nothing]
      exact numbered.same same
  | environment issue =>
      exact numbered.issue issue (fun other => by cases other) (fun other => by cases other)
  | connection live issue =>
      exact numbered.issue issue (fun _ => (Registry.gave_of_live live).one)
        (fun other => by cases other)
  | cursor live issue =>
      exact numbered.issue issue (fun other => by cases other)
        (fun _ => (Registry.gave_of_live live).one)

theorem run (disk : Disk) (calls : List Invocation) :
    Numbered (issuing disk calls).1 (issuing disk calls).2 :=
  List.foldlRecOn (motive := fun after => Numbered after.1 after.2) calls Invocation.issue
    (start disk) fun _ numbered r _ => numbered.step r

/-- A kind with handles has the handle one. -/
theorem issued_one (numbered : Numbered h issued) {kind : HandleKind} {x : Int64}
    (among : (kind, x) ∈ issued) : (kind, 1) ∈ issued :=
  (numbered.issued_iff kind 1).2 ((numbered.issued_iff kind x).1 among).one

/-- Handles of two kinds are told apart only where one of the kinds has none. -/
theorem disjoint_iff (numbered : Numbered h issued) (a b : HandleKind) :
    (∀ x, (a, x) ∈ issued → (b, x) ∉ issued) ↔
      (∀ x, (a, x) ∉ issued) ∨ ∀ x, (b, x) ∉ issued := by
  constructor
  · intro disjoint
    by_cases one : (a, 1) ∈ issued
    · exact .inr fun x among => disjoint 1 one (numbered.issued_one among)
    · exact .inl fun x among => one (numbered.issued_one among)
  · rintro (empty | empty) x first second
    · exact empty x first
    · exact empty x second

/-- All kinds are told apart only where there are no connections: those come of
environments, and cursors come of them. -/
theorem all_disjoint_iff (numbered : Numbered h issued) :
    (∀ a b, a ≠ b → ∀ x, (a, x) ∈ issued → (b, x) ∉ issued) ↔
      ∀ x, (.connection, x) ∉ issued := by
  have one (kind : HandleKind) : (kind, 1) ∈ issued ↔ (kind.registry h).Gave 1 :=
    numbered.issued_iff kind 1
  constructor
  · intro disjoint x among
    have connection := numbered.issued_one among
    have environment := (one .environment).2 (numbered.connected ((one .connection).1 connection))
    exact disjoint .environment .connection (by decide) 1 environment connection
  · intro none a b other x first second
    have cursors (y : Int64) (among : (.cursor, y) ∈ issued) : False :=
      none 1 ((one .connection).2
        (numbered.executed ((one .cursor).1 (numbered.issued_one among))))
    cases a <;> cases b <;>
      first
      | exact other rfl
      | exact none _ first
      | exact none _ second
      | exact cursors _ first
      | exact cursors _ second

end Numbered

/-! ## Handles in the place of another kind -/

/-- The call reports that its handle stands for no object of the kind that it expects, and does
nothing else; a call that gives up a handle answers that there was none. -/
def Invocation.Rejected (r : Invocation) (h : Host) : Prop :=
  ∃ kind x, r.expects = some (kind, x) ∧
    StateT.run r.answer h = (r.sentinel, if r.isRelease then h else h.misused kind x)

/-- A call is rejected exactly when its handle stands for no object of the expected kind. -/
theorem rejected_iff {r : Invocation} {h : Host} {kind : HandleKind} {x : Int64}
    (expects : r.expects = some (kind, x)) (named : (kind.registry h).kind = kind.name) :
    r.Rejected h ↔ (kind.registry h).find? x = none := by
  constructor
  · rintro ⟨_, _, expects', answer⟩
    obtain ⟨rfl, rfl⟩ := Prod.mk.inj (Option.some.inj (expects.symm.trans expects'))
    refine Option.eq_none_iff_forall_not_mem.2 fun e live => ?_
    by_cases releases : r.isRelease
    · -- A handle that stood for an object is given up with the answer one.
      have released := released_of_live expects live releases
      rw [answer] at released
      cases r <;> simp [Invocation.sentinel] at released
    · rw [if_neg releases] at answer
      obtain ⟨new, events, discreet⟩ := answer_discreet expects live (by simpa using releases)
      rw [answer] at events
      have told : [Event.raised (.invalidHandle kind.name x)] = new :=
        List.append_cancel_right (show [_] ++ h.state.events = new ++ h.state.events from events)
      exact discreet _ (told ▸ List.mem_singleton_self _) kind x rfl
  · exact fun missing => ⟨kind, x, expects, answer_of_missing expects missing named⟩

/-- Handles of two kinds are disjoint in a run only where one of the kinds has none, and those
of all kinds only where no connection was ever answered.  A call goes through with whatever
handle stands for an object of the kind that it expects, and rejects all others. -/
theorem handles_of_kinds (disk : Disk) (calls : List Invocation) :
    let h := (issuing disk calls).1
    let issued := (issuing disk calls).2
    (∀ a b, a ≠ b → ((∀ x, (a, x) ∈ issued → (b, x) ∉ issued) ↔
      (∀ x, (a, x) ∉ issued) ∨ ∀ x, (b, x) ∉ issued)) ∧
    ((∀ a b, a ≠ b → ∀ x, (a, x) ∈ issued → (b, x) ∉ issued) ↔
      ∀ x, (.connection, x) ∉ issued) ∧
    ∀ a x, (a, x) ∈ issued → ∀ (r : Invocation) b, a ≠ b → r.expects = some (b, x) →
      (¬ r.Rejected h ↔ ∃ e, (b.registry h).find? x = some e ∧ (b, x) ∈ issued) := by
  intro h issued
  have numbered : Numbered h issued := .run disk calls
  refine ⟨fun a b _ => numbered.disjoint_iff a b, numbered.all_disjoint_iff, ?_⟩
  intro a x _ r b _ expects
  rw [rejected_iff expects (numbered.named b)]
  constructor
  · intro stands
    obtain ⟨e, live⟩ := Option.ne_none_iff_exists'.1 stands
    exact ⟨e, live, (numbered.issued_iff b x).2 (Registry.gave_of_live live)⟩
  · rintro ⟨e, live, _⟩ missing
    exact absurd (live.symm.trans missing) (Option.some_ne_none e)

/-- Opening a driver and connecting to a database in memory. -/
def connecting : List Invocation :=
  let (driver, heap) := ({} : Heap).allocString "sqlite3"
  let (source, heap) := heap.allocString ":memory:"
  [.work heap {}, .openDefault driver, .connect 1 source (-1)]

theorem handles_while_connecting :
    let h := (issuing {} connecting).1
    (.environment, 1) ∈ (issuing {} connecting).2 ∧
      ¬ (Invocation.closeConnection 1).Rejected h ∧ (Invocation.closeCursor 1).Rejected h := by
  have environment : (.environment, 1) ∈ (issuing {} connecting).2 := by decide +kernel
  have connection : (.connection, 1) ∈ (issuing {} connecting).2 := by decide +kernel
  have live : (issuing {} connecting).1.connections.find? 1 = some ⟨1, Call.defaultPrefix⟩ := by
    decide +kernel
  have missing : (issuing {} connecting).1.cursors.find? 1 = none := by decide +kernel
  have taken := (handles_of_kinds {} connecting).2.2 .environment 1 environment
  refine ⟨environment, ?_, Classical.not_not.1 fun stands => ?_⟩
  · exact (taken (.closeConnection 1) .connection (by decide) rfl).2 ⟨_, live, connection⟩
  · obtain ⟨e, found, _⟩ := (taken (.closeCursor 1) .cursor (by decide) rfl).1 stands
    exact absurd (found.symm.trans missing) (Option.some_ne_none e)

/-- The first environment and the first connection have the same handle.  In the place of a
connection, the handle of the environment closes the connection, and no exception is raised. -/
theorem environment_handle_closes_connection :
    let h := (issuing {} connecting).1
    let answer := StateT.run (Invocation.closeConnection 1).answer h
    (.environment, 1) ∈ (issuing {} connecting).2 ∧
      (.connection, 1) ∈ (issuing {} connecting).2 ∧
      answer.1 = .word 1 ∧ answer.2.exception = {} ∧
      (h.state.connections.get? 1).map Connection.isClosed = some false ∧
      (answer.2.state.connections.get? 1).map Connection.isClosed = some true := by
  decide +kernel

end SqlDriver
