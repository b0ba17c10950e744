/-
# SqlDriver.Proofs.Call.Frame -- what calls leave alone

Most calls neither give out nor give up a handle (`Invocation.isPlain`): whatever they come to,
they change the driver's state and the exception that waits, make new objects, or fill a record.
A relation that allows these (`Frame`) holds between the hosts before and after every such call
(`Frame.answer`).

Two relations are frames: the registries are the same (`SameRegistries`), and objects stay what
they are apart from records (`Preserves`).
-/
import SqlDriver.Proofs.Call.Invocation
import SqlDriver.Proofs.Heap.Array

namespace SqlDriver

set_option autoImplicit false

open Call

/-! ## Frames -/

/-- Every object stays what it is, and others may come. -/
def Heap.Grows (h g : Heap) : Prop :=
  ∀ a o, h.get? a = some o → g.get? a = some o

/-- The relation allows what calls do beside the registries. -/
structure Frame (r : Host → Host → Prop) : Prop where
  state : ∀ (h : Host) state, r h { h with state }
  exception : ∀ (h : Host) exception, r h { h with exception }
  grows : ∀ (h : Host) heap, h.heap.Grows heap → r h { h with heap }
  fills : ∀ (h : Host) a record f, recordAt? h.heap a = some record →
    r h { h with heap := h.heap.update a f }

/-- The call neither gives out a handle nor gives one up. -/
def Invocation.isPlain : Invocation → Bool
  | openDefault _ | openWithConfig .. | connect .. | execute .. | releaseEnvironment _
  | releaseConnection _ | releaseCursor _ | work .. => false
  | _ => true

theorem grows_alloc (h : Heap) (body : Body) : h.Grows (h.alloc body).2 :=
  fun _ _ there => Heap.get?_alloc_of_live there body

/-- The array of the types of the columns: a text for each type, and no object for the others. -/
theorem grows_columnTypes (h : Heap) (types : List (Option String)) :
    h.Grows (types.foldl (fun heap type =>
      match type with
      | none => heap.push h.objects.next 0
      | some t =>
          let (s, heap) := heap.allocString t
          heap.push h.objects.next (Heap.wordOf s)) (h.allocArray types.length).2) := by
  intro b o there
  have other : b ≠ h.objects.next := Nat.ne_of_lt (Heap.lt_next_of_live there)
  have kept := Heap.get?_alloc_of_live there (.array [] (Heap.initialCapacity types.length))
  rw [Heap.allocArray]
  generalize (h.alloc (.array [] (Heap.initialCapacity types.length))).2 = heap at kept
  clear there
  induction types generalizing heap with
  | nil => exact kept
  | cons type rest ih =>
      cases type with
      | none => exact ih _ ((Heap.get?_push_of_ne other 0).trans kept)
      | some t =>
          exact ih _ ((Heap.get?_push_of_ne other _).trans (Heap.get?_alloc_of_live kept _))

theorem Leaves.map {r : Host → Host → Prop} {α β : Type} {c : Call α} {h : Host}
    (leaves : Leaves r c h) (f : α → β) : Leaves r (f <$> c) h :=
  leaves

theorem Leaves.textAt_bind {r : Host → Host → Prop} {α : Type} {f : String → Call α} {h : Host}
    {a : Address} (rest : Leaves r (f (h.heap.stringAt a)) h) : Leaves r (textAt a >>= f) h :=
  rest

namespace Frame

variable {r : Host → Host → Prop} (frame : Frame r) {α β : Type} (h : Host)

include frame

theorem perform (op : Op α) : Leaves r (Call.perform op) h :=
  frame.state h _

theorem newText (s : String) : Leaves r (Call.newText s) h :=
  frame.grows h _ (grows_alloc h.heap _)

variable [IsTrans Host r]

theorem raise (error : Error) (errorPrefix : String) :
    Leaves r (Call.raise error errorPrefix) h :=
  IsTrans.trans _ _ _ (frame.state h _) (frame.exception _ _)

theorem withEntry {h : Host} {registry : Host → Registry} {x : Int64} {sentinel : α}
    {go : Entry → Call α}
    (goes : ∀ e, (registry h).find? x = some e → Leaves r (go e) h) :
    Leaves r (Call.withEntry registry x sentinel go) h := by
  unfold Leaves
  cases found : (registry h).find? x with
  | none =>
      rw [withEntry_of_missing found]
      exact frame.raise h _ _
  | some e =>
      rw [withEntry_of_live found]
      exact goes e found

variable [Std.Refl r]

theorem report (error : Error) (errorPrefix : String) :
    Leaves r (Call.report error errorPrefix) h := by
  unfold Call.report
  split
  · exact .bind (frame.raise h error errorPrefix) fun _ _ _ => .pure _
  · exact .bind (frame.state h _) fun _ g _ => .bind (frame.newText g _) fun _ _ _ => .pure _

variable {h}

theorem orRaise {op : Op α} (e : Entry) {sentinel : β} {answer : α → Call β}
    (answers : ∀ x g, Leaves r (answer x) g) : Leaves r (Call.orRaise e op sentinel answer) h := by
  refine .bind (frame.perform h op) fun result g _ => ?_
  cases result with
  | ok x => exact answers x g
  | error error => exact .bind (frame.raise g error e.errorPrefix) fun _ _ _ => .pure _

/-- An operation whose error is reported. -/
theorem reporting {op : Op α} {errorPrefix : String} {f : Result α → Call Ended}
    (fails : ∀ error, f (.error error) = Call.report error errorPrefix)
    (succeeds : ∀ x g, Leaves r (f (.ok x)) g) : Leaves r (Call.perform op >>= f) h := by
  refine .bind (frame.perform h op) fun result g _ => ?_
  cases result with
  | ok x => exact succeeds x g
  | error error =>
      rw [fails]
      exact frame.report g error errorPrefix

variable (h) (x : Int64)

theorem complete (op : Nat → Op Unit) : Leaves r (Call.complete x op) h :=
  frame.withEntry fun _ _ => frame.reporting (fun _ => rfl) fun _ _ => .pure _

theorem fetch : Leaves r (Call.fetch x) h := by
  refine frame.withEntry fun e _ => frame.reporting (fun _ => rfl) fun row g => ?_
  cases row with
  | none => exact .pure _
  | some row => exact frame.grows g _ fun _ _ => Heap.get?_allocArrayOf_of_live

theorem fetchInto (record mode : Address) : Leaves r (Call.fetchInto x record mode) h := by
  refine frame.withEntry fun e _ => .get_bind ?_
  cases there : recordAt? h.heap record with
  | none => exact .bind (frame.raise h _ _) fun _ _ _ => .pure _
  | some old =>
      refine .bind (Std.Refl.refl h) fun text g read => ?_
      cases read
      refine .bind (frame.perform h _) fun answer g performed => ?_
      rw [run_perform] at performed
      obtain ⟨-, rfl⟩ := Prod.mk.inj performed
      obtain error | ⟨_ | _, target⟩ := answer
      · exact frame.report _ error e.errorPrefix
      · exact .pure _
      · exact frame.fills _ record old _ there

theorem columnNames : Leaves r (Call.columnNames x) h :=
  frame.withEntry fun e _ => frame.orRaise e fun names g =>
    frame.grows g (g.heap.allocStrings names).2 fun _ _ => Heap.get?_allocArrayOf_of_live

theorem columnTypes : Leaves r (Call.columnTypes x) h :=
  frame.withEntry fun e _ => frame.orRaise e fun types g =>
    frame.grows g _ (grows_columnTypes g.heap types)

theorem driverInfo (driver : Address) : Leaves r (Call.driverInfo driver) h := by
  unfold Call.driverInfo
  refine .textAt_bind ?_
  split
  · exact frame.newText h _
  · exact .bind (frame.raise h _ _) fun _ _ _ => .pure _

/-- A call by handle whose error is raised, and whose answer leaves nothing behind. -/
theorem raising {registry : Host → Registry} {op : Entry → Op α} {sentinel : β} {f : α → β} :
    Leaves r (Call.withEntry registry x sentinel fun e =>
      Call.orRaise e (op e) sentinel fun a => return f a) h :=
  frame.withEntry fun e _ => frame.orRaise e fun _ _ => .pure _

/-- A call that gives out no handle and gives up none. -/
theorem answer {q : Invocation} (plain : q.isPlain) : Leaves r q.answer h := by
  cases q with
  | commit x => exact frame.complete h x _
  | rollback x => exact frame.complete h x _
  | escape x text =>
      exact frame.withEntry fun _ _ => .bind (Std.Refl.refl h) fun _ g _ => frame.newText g _
  | fetch x => exact frame.fetch h x
  | fetchInto x record mode => exact frame.fetchInto h x record mode
  | columnNames x => exact frame.columnNames h x
  | columnTypes x => exact frame.columnTypes h x
  | closeEnvironment x => exact .map (frame.raising h x) _
  | setAutocommit x enabled => exact .map (frame.raising h x) _
  | lastNumber x => exact .map (frame.raising h x) _
  | closeConnection x => exact .map (frame.raising h x) _
  | closeCursor x => exact .map (frame.raising h x) _
  | _ => cases plain

end Frame

/-! ## Registries -/

/-- The registries are the same. -/
def SameRegistries (h g : Host) : Prop :=
  ∀ kind : HandleKind, kind.registry g = kind.registry h

instance : Std.Refl SameRegistries where
  refl _ _ := rfl

instance : IsTrans Host SameRegistries where
  trans _ _ _ first second kind := (second kind).trans (first kind)

theorem sameRegistries_frame : Frame SameRegistries where
  state _ _ kind := by cases kind <;> rfl
  exception _ _ kind := by cases kind <;> rfl
  grows _ _ _ kind := by cases kind <;> rfl
  fills _ _ _ _ _ kind := by cases kind <;> rfl

/-! ## Objects -/

/-- Every object that is no record stays what it is. -/
def Preserves (h g : Host) : Prop :=
  ∀ a o, h.heap.get? a = some o → recordAt? h.heap a = none → g.heap.get? a = some o

theorem recordAt_congr {h g : Heap} {a : Address} (same : g.get? a = h.get? a) :
    recordAt? g a = recordAt? h a := by
  rw [recordAt?, same, recordAt?]

instance : Std.Refl Preserves where
  refl _ _ _ there _ := there

instance : IsTrans Host Preserves where
  trans h g k first second a o there other := by
    refine second a o (first a o there other) ?_
    rw [recordAt_congr ((first a o there other).trans there.symm), other]

theorem preserves_frame : Frame Preserves where
  state _ _ _ _ there _ := there
  exception _ _ _ _ there _ := there
  grows _ _ grows a o there _ := grows a o there
  fills h a record f there b o found other := by
    have apart : b ≠ a := by
      rintro rfl
      cases other.symm.trans there
    exact (Heap.get?_update h.heap a b f).trans ((if_neg apart).trans found)

end SqlDriver
