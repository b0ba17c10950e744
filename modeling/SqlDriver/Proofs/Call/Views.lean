/-
# SqlDriver.Proofs.Call.Views -- the values of a row, as a program reads them

A program tells the values of a fetched row apart by their kinds and reads each with the view
of its kind (`Call.readValue`).  `rows_survive` says that it reads the row that was fetched,
element by element and as a whole (`HoldsRow`), and that a slot taken out of a record is a copy
which no later call changes (`CopiesSlot`).

That no call changes a copy is what every call keeps: objects stay what they are, apart from
the record that a fetch fills (`answer_preserves`).
-/
import SqlDriver.Call.Value
import SqlDriver.Proofs.Call.Escape
import SqlDriver.Proofs.Call.Frame
import SqlDriver.Proofs.Call.Lifetime
import SqlDriver.Proofs.Call.Receiving

namespace SqlDriver

set_option autoImplicit false

open SqlDriver.Text

/-! ## Objects that stay -/

section Calls

open Call

variable (h : Host)

theorem preserves_of_eq {h g : Host} (heap : g.heap = h.heap) : Preserves h g :=
  fun _ _ there _ => heap ▸ there

theorem openDriver_preserves (driver : String) (config : Config) :
    Leaves Preserves (openDriver driver config) h := by
  refine .bind (preserves_frame.perform h _) fun result g _ => ?_
  cases result with
  | ok e => exact preserves_of_eq rfl
  | error error => exact .bind (preserves_frame.raise g error _) fun _ _ _ => .pure _

theorem openWithConfig_preserves (driver path : Address) :
    Leaves Preserves (openWithConfig driver path) h := by
  refine .bind (preserves_of_eq rfl) fun driver g _ => .bind (preserves_of_eq rfl) fun path g _ =>
    .get_bind ?_
  split
  · exact openDriver_preserves g driver _
  · exact preserves_of_eq rfl

theorem connect_preserves (x : Int64) (source : Address) (timeout : Int64) :
    Leaves Preserves (connect x source timeout) h := by
  refine preserves_frame.withEntry fun e _ => .bind (preserves_of_eq rfl) fun text g _ =>
    preserves_frame.reporting (fun _ => rfl) fun connected g => ?_
  cases connected with
  | connection c => exact preserves_of_eq rfl
  | crashed => exact .pure _

theorem execute_preserves (x : Int64) (sql : Address) : Leaves Preserves (execute x sql) h := by
  refine preserves_frame.withEntry fun e _ => .bind (preserves_of_eq rfl) fun text g _ =>
    preserves_frame.reporting (fun _ => rfl) fun execution g => ?_
  cases execution with
  | count n => exact .pure _
  | cursor k => exact preserves_of_eq rfl

theorem releaseConnection_preserves (x : Int64) : Leaves Preserves (releaseConnection x) h := by
  refine .get_bind ?_
  rcases h.connections.remove x with ⟨_ | c, connections⟩ <;> exact preserves_of_eq rfl

theorem releaseCursor_preserves (x : Int64) : Leaves Preserves (releaseCursor x) h := by
  refine .get_bind ?_
  rcases h.cursors.remove x with ⟨_ | k, cursors⟩ <;> exact preserves_of_eq rfl

/-- A call leaves every object that is no record alone. -/
theorem answer_preserves (r : Invocation) (own : r.isWork = false) :
    Leaves Preserves r.answer h := by
  cases r with
  | openDefault driver =>
      have opens : Leaves Preserves (Call.openDefault driver) h :=
        .bind (preserves_of_eq rfl) fun driver g _ => openDriver_preserves g driver {}
      exact opens
  | openWithConfig driver path => exact openWithConfig_preserves h driver path
  | connect x source timeout => exact connect_preserves h x source timeout
  | execute x sql => exact execute_preserves h x sql
  | releaseEnvironment x => exact preserves_of_eq rfl
  | releaseConnection x => exact releaseConnection_preserves h x
  | releaseCursor x => exact releaseCursor_preserves h x
  | work heap exception => cases own
  | _ => exact preserves_frame.answer h rfl

theorem calling_preserves (calls : List Invocation) (own : ∀ r ∈ calls, r.isWork = false) :
    Preserves h (h.calling calls).1 := by
  induction calls generalizing h with
  | nil => exact Std.Refl.refl h
  | cons r rest ih =>
      rw [calling_cons]
      exact IsTrans.trans _ _ _ (answer_preserves h r (own r List.mem_cons_self))
        (ih _ fun r later => own r (List.mem_cons_of_mem _ later))

end Calls

/-! ## Reading values -/

namespace Call

/-- Reads a value by its kind, with the view of that kind. -/
def readValue (a : Address) : Call Value := do
  let v := valueAt? (← get).heap a
  match Value.kindView v with
  | 1 => return .integer (Value.intView v)
  | 2 => return .float (Value.floatView v)
  | 3 =>
      let text ← valueText a
      return .text (← textAt text)
  | 4 =>
      let bytes ← valueBytes a
      return .blob (((← get).heap.bytesAt? bytes).getD [])
  | _ => return .null

/-- Reads the values of an array from front to end, by index. -/
def readRow (a : Address) : Call (List Value) := do
  let h := (← get).heap
  let elements := (List.range (h.length a)).map fun i =>
    Heap.addressOf (h.word a (Int64.ofNat i))
  elements.mapM readValue

variable {h : Host} {a b : Address} {v : Value}

theorem kindView_eq_zero_iff : Value.kindView (some v) = 0 ↔ v = .null := by
  cases v <;> simp [Value.kindView, Value.kind, Kind.number]

theorem bytesAt_allocBytes (h : Heap) (octets : List UInt8) :
    (h.allocBytes octets).2.bytesAt? (h.allocBytes octets).1 = some octets := by
  rw [Heap.allocBytes, Heap.bytesAt?, Heap.get?_alloc]
  rw [show (h.alloc _).1 = h.objects.next from rfl, if_pos rfl]
  rfl

/-- A value is read back as it is, whatever its kind. -/
theorem readValue_of_valueAt (there : valueAt? h.heap a = some v) :
    (StateT.run (readValue a) h).1 = v := by
  rw [readValue, run_get_bind, there]
  cases v with
  | null => rfl
  | integer n => rfl
  | float x => rfl
  | text s =>
      change Value.text (Heap.stringAt (h.heap.allocString (Value.textView (valueAt? h.heap a))).2
        (h.heap.allocString (Value.textView (valueAt? h.heap a))).1) = _
      rw [there, Heap.stringAt_of_textAt (Heap.textAt_allocString _ _)]
      rfl
  | blob octets =>
      change Value.blob ((Heap.bytesAt?
        (h.heap.allocBytes (Value.bytesView (valueAt? h.heap a))).2
        (h.heap.allocBytes (Value.bytesView (valueAt? h.heap a))).1).getD []) = _
      rw [there, bytesAt_allocBytes]
      rfl

/-- Reading a value leaves all objects as they are. -/
theorem readValue_keeps (a : Address) {o : Object} (there : h.heap.get? b = some o) :
    (StateT.run (readValue a) h).2.heap.get? b = some o := by
  rw [readValue, run_get_bind]
  dsimp only
  split
  · exact there
  · exact there
  · exact Heap.get?_alloc_of_live there _
  · exact Heap.get?_alloc_of_live there _
  · exact there

/-- Values are read back one after the other. -/
theorem mapM_readValue {elements : List Address} {row : List Value}
    (there : List.Forall₂ (fun b v => h.heap.get? b = some { body := .value v }) elements row) :
    (StateT.run (elements.mapM readValue) h).1 = row := by
  induction elements generalizing h row with
  | nil =>
      cases there
      rfl
  | cons b elements ih =>
      cases there with
      | @cons _ v _ row first rest =>
          have read : (StateT.run (readValue b) h).1 = v :=
            readValue_of_valueAt (by rw [valueAt?, first]; rfl)
          have behind := ih (rest.imp fun _ _ there => readValue_keeps b there)
          rw [List.mapM_cons, run_bind, run_bind, read, behind]
          rfl

end Call

/-! ## Rows and slots -/

/-- The array at an address holds the values of a row.  The words of an array are addresses
as far as they fit in 64 bits. -/
structure HoldsRow (g : Host) (a : Address) (row : List Value) : Prop where
  length : g.heap.length a = row.length
  /-- The elements are objects of their own, and each is read back as the value of its place. -/
  element : ∀ (i : Nat) (v : Value), row[i]? = some v → ∃ b,
    (g.heap.wordsAt? a).bind (·[i]?) = some (Heap.wordOf b) ∧
    (StateT.run (Call.readValue b) g).1 = v ∧
    (Value.kindView (Call.valueAt? g.heap b) = 0 ↔ v = .null)
  /-- The row is read back as a whole, from front to end. -/
  row : g.heap.objects.next ≤ 2 ^ 63 → (StateT.run (Call.readRow a) g).1 = row

/-- What is answered for a slot of a record: a copy of its value as a new object, which later
calls leave alone, and nothing where there is no slot. -/
structure CopiesSlot (h : Host) (slot : Option Value) (b : Address) (g : Host) : Prop where
  absent : slot = none → b = 0 ∧ g = h
  copied : ∀ v, slot = some v → h.heap.get? b = none ∧ (0 < h.heap.objects.next → b ≠ 0) ∧
    (StateT.run (Call.readValue b) g).1 = v ∧
    (∀ c o, h.heap.get? c = some o → g.heap.get? c = some o) ∧
    ∀ calls, (∀ r ∈ calls, Invocation.isWork r = false) →
      (StateT.run (Call.readValue b) (g.calling calls).1).1 = v

section Rows

variable (heap : Heap) (row : List Value)

theorem wordsAt_allocValues :
    (heap.allocValues row).2.wordsAt? heap.objects.next =
      some ((heap.elements row.length).map Heap.wordOf) := by
  have words := heap.wordsAt_allocArrayOf (row.map Body.value)
  rwa [List.length_map] at words

theorem length_allocValues : (heap.allocValues row).2.length heap.objects.next = row.length := by
  rw [Heap.length, wordsAt_allocValues]
  simp [Heap.elements]

theorem getElem?_elements {i count : Nat} (inside : i < count) :
    (heap.elements count)[i]? = some (heap.objects.next + 1 + i) := by
  rw [Heap.elements, List.getElem?_range' inside, Nat.one_mul]

theorem get?_allocValues_element {i : Nat} {v : Value} (value : row[i]? = some v) :
    (heap.allocValues row).2.get? (heap.objects.next + 1 + i) = some { body := .value v } :=
  heap.get?_allocArrayOf_element (by rw [List.getElem?_map, value]; rfl)

/-- The elements of the array are the values of the row. -/
theorem forall₂_elements :
    List.Forall₂ (fun b v => (heap.allocValues row).2.get? b = some { body := .value v })
      (heap.elements row.length) row := by
  refine List.forall₂_iff_get.2 ⟨by simp [Heap.elements], fun i _ inside => ?_⟩
  have address : (heap.elements row.length).get ⟨i, _⟩ = heap.objects.next + 1 + i :=
    (List.getElem?_eq_some_iff.1 (getElem?_elements heap inside)).2
  rw [address]
  exact get?_allocValues_element heap row (List.getElem?_eq_getElem inside)

/-- The words of the array are the addresses of its elements. -/
theorem map_addressOf_word (fits : (heap.allocValues row).2.objects.next ≤ 2 ^ 63) :
    (List.range row.length).map (fun i => Heap.addressOf
      ((heap.allocValues row).2.word heap.objects.next (Int64.ofNat i))) =
      heap.elements row.length := by
  have next := heap.next_allocArrayOf (row.map Body.value)
  rw [List.length_map] at next
  have fits : heap.objects.next + 1 + row.length ≤ 2 ^ 63 := next ▸ fits
  refine List.ext_getElem? fun i => ?_
  rw [List.getElem?_map]
  rcases Nat.lt_or_ge i row.length with inside | outside
  · have small : heap.objects.next + 1 + i < 2 ^ 63 := by omega
    rw [List.getElem?_range inside, getElem?_elements heap inside, Option.map_some,
      Heap.word_of_wordsAt (wordsAt_allocValues heap row) (by omega), List.getElem?_map,
      getElem?_elements heap inside]
    exact congrArg some (Heap.addressOf_wordOf small)
  · rw [List.getElem?_eq_none (by simpa using outside),
      List.getElem?_eq_none (by simpa [Heap.elements] using outside)]
    rfl

/-- The values of a row, each as an object of its own, are the row. -/
theorem holdsRow_allocValues (h : Host) :
    HoldsRow { h with heap := (h.heap.allocValues row).2 } h.heap.objects.next row where
  length := length_allocValues h.heap row
  element i v value := by
    have holds : Call.valueAt? (h.heap.allocValues row).2 (h.heap.objects.next + 1 + i) =
        some v := by
      rw [Call.valueAt?, get?_allocValues_element h.heap row value]
      rfl
    refine ⟨h.heap.objects.next + 1 + i, ?_, Call.readValue_of_valueAt holds, ?_⟩
    · have inside : i < row.length := (List.getElem?_eq_some_iff.1 value).1
      rw [wordsAt_allocValues, Option.bind_some, List.getElem?_map, getElem?_elements _ inside]
      rfl
    · rw [holds]
      exact Call.kindView_eq_zero_iff
  row fits := by
    rw [Call.readRow, run_get_bind]
    dsimp only
    rw [length_allocValues, map_addressOf_word _ _ fits]
    exact Call.mapM_readValue (forall₂_elements h.heap row)

end Rows

section Slots

variable {h : Host} {a : Address} {r : Record}

/-- The slot at an index; there is none in front of the first. -/
def Record.slot? (r : Record) (index : Int64) : Option Value :=
  if index.toInt < 0 then none else r.get? index.toInt.toNat

/-- A value as a new object is a copy. -/
theorem copiesSlot_newObject (v : Value) :
    CopiesSlot h (some v) (StateT.run (Call.newObject (.value v)) h).1
      (StateT.run (Call.newObject (.value v)) h).2 := by
  have there : (h.heap.alloc (.value v)).2.get? h.heap.objects.next =
      some { body := .value v } := by
    rw [Heap.get?_alloc, if_pos rfl]
  have holds {g : Heap} (there : g.get? h.heap.objects.next = some { body := .value v }) :
      Call.valueAt? g h.heap.objects.next = some v := by
    rw [Call.valueAt?, there]
    rfl
  refine ⟨fun none => (by cases none), fun _ same => ?_⟩
  cases same
  refine ⟨Heap.get?_next, Nat.ne_of_gt, Call.readValue_of_valueAt (holds there),
    fun c o old => Heap.get?_alloc_of_live old _, fun calls own => ?_⟩
  refine Call.readValue_of_valueAt (holds ?_)
  refine calling_preserves _ calls own _ _ there ?_
  change Call.recordAt? (h.heap.alloc (.value v)).2 h.heap.objects.next = none
  rw [Call.recordAt?, there]
  rfl

theorem copiesSlot_none : CopiesSlot h none 0 h :=
  ⟨fun _ => ⟨rfl, rfl⟩, fun _ some => (by cases some)⟩

theorem run_recordGet (there : Call.recordAt? h.heap a = some r) (index : Int64) :
    StateT.run (Call.recordGet a index) h =
      match r.slot? index with
      | none => (0, h)
      | some v => StateT.run (Call.newObject (.value v)) h := by
  rw [Call.recordGet, Record.slot?]
  split
  · rfl
  · refine (run_get_bind h _).trans ?_
    rw [there, Option.bind_some]
    cases r.get? index.toInt.toNat <;> rfl

theorem run_recordField (there : Call.recordAt? h.heap a = some r) {name : Address}
    {text : String} (valid : h.heap.textAt? name = some (Utf8.ofString text)) :
    StateT.run (Call.recordField a name) h =
      match r.field? text with
      | none => (0, h)
      | some v => StateT.run (Call.newObject (.value v)) h := by
  rw [Call.recordField, run_get_bind]
  dsimp only
  rw [Heap.stringAt_of_textAt valid, valid, there, Option.bind_some, Option.bind_some]
  cases r.field? text <;> rfl

/-- What is answered for the slots of a record. -/
structure ServesRecord (h : Host) (a : Address) (r : Record) : Prop where
  position : ∀ index, CopiesSlot h (r.slot? index) (StateT.run (Call.recordGet a index) h).1
    (StateT.run (Call.recordGet a index) h).2
  field : ∀ name text, h.heap.textAt? name = some (Utf8.ofString text) →
    CopiesSlot h (r.field? text) (StateT.run (Call.recordField a name) h).1
      (StateT.run (Call.recordField a name) h).2

theorem servesRecord (there : Call.recordAt? h.heap a = some r) : ServesRecord h a r where
  position index := by
    rw [run_recordGet there]
    cases r.slot? index with
    | none => exact copiesSlot_none
    | some v => exact copiesSlot_newObject v
  field name text valid := by
    rw [run_recordField there valid]
    cases r.field? text with
    | none => exact copiesSlot_none
    | some v => exact copiesSlot_newObject v

end Slots

/-! ## What a program reads -/

/-- The values of a row are read back as they are from the array of them, and so are those that
were copied into a record from its slots; a copy of a slot stays what it is whatever is called
later.  The octets of a text, taken for a blob, are read as that text. -/
theorem rows_survive :
    (∀ (h : Host) (row : List Value), HoldsRow { h with heap := (h.heap.allocValues row).2 }
      (h.heap.allocValues row).1 row) ∧
    (∀ (h : Host) (x : Int64) (e : Entry) (row : List Value) (t : State),
      h.cursors.find? x = some e → exec (Cursor.next e.object) h.state = (.ok (some row), t) →
      ∃ a g, StateT.run (Call.fetch x) h = (⟨.ok, Heap.wordOf a⟩, g) ∧ HoldsRow g a row ∧
        h.heap.get? a = none ∧ ∀ b o, h.heap.get? b = some o → g.heap.get? b = some o) ∧
    (∀ (h : Host) (x : Int64) (e : Entry) (cursor : Cursor) (a mode : Address) (r : Record)
      (row : List Value) (t : State), h.cursors.find? x = some e →
      h.state.cursors.get? e.object = some cursor → Call.recordAt? h.heap a = some r →
      exec (Cursor.next e.object) h.state = (.ok (some row), t) →
      ∃ g r', StateT.run (Call.fetchInto x a mode) h = (⟨.ok, 1⟩, g) ∧
        Receives (Call.modeOf (h.heap.stringAt mode)) cursor.names row r r' ∧
        ServesRecord g a r') ∧
    (∀ (h : Host) (a : Address) (r : Record), Call.recordAt? h.heap a = some r →
      ServesRecord h a r) ∧
    ∀ text, Value.textView (some (.blob (Value.bytesView (some (.text text))))) = text := by
  refine ⟨fun h row => holdsRow_allocValues row h, fun h x e row t live fetched => ?_,
    fun h x e cursor a mode r row t live found there fetched => ?_, fun _ _ _ => servesRecord,
    fun text => ?_⟩
  · refine ⟨h.heap.objects.next, { h with state := t, heap := (h.heap.allocValues row).2 }, ?_,
      holdsRow_allocValues row { h with state := t }, Heap.get?_next,
      fun _ _ => Heap.get?_allocArrayOf_of_live⟩
    rw [Call.fetch, withEntry_of_live live, run_bind, run_perform, fetched]
    rfl
  · have fills := fillsRecord live found there mode
    obtain ⟨answer, -, ⟨r', holds, receives⟩, -⟩ := fills.row row (congrArg Prod.fst fetched)
    exact ⟨_, r', Prod.ext answer rfl, receives, servesRecord holds⟩
  · change Utf8.toStringLossy (Utf8.encode text.toList) = text
    rw [← Utf8.ofString_eq_encode, Utf8.toStringLossy_ofString]

theorem duplicate_columns_survive :
    (∃ a g, StateT.run (Call.fetch 1) duplicateColumns = (⟨.ok, Heap.wordOf a⟩, g) ∧
      (StateT.run (Call.readRow a) g).1 = [.text "x", .text "y"]) ∧
    ∃ g b k, StateT.run (Call.fetchInto 1 2 3) duplicateColumns = (⟨.ok, 1⟩, g) ∧
      StateT.run (Call.recordGet 2 1) g = (b, k) ∧
      (StateT.run (Call.readValue b) (k.calling [.fetchInto 1 2 3]).1).1 = .text "y" := by
  obtain ⟨cursor, found, columns⟩ := duplicateColumns_cursor
  obtain ⟨t, fetched⟩ := duplicateColumns_next
  have live := duplicateColumns_live
  have mode : (Call.modeOf (duplicateColumns.heap.stringAt 3)).numeric := by
    rw [duplicateColumns_mode]
    decide
  obtain ⟨-, fetches, fills, -, -⟩ := rows_survive
  constructor
  · obtain ⟨a, g, ran, holds, -⟩ := fetches _ 1 _ _ _ live fetched
    refine ⟨a, g, ran, holds.row ?_⟩
    have fits : (StateT.run (Call.fetch 1) duplicateColumns).2.heap.objects.next ≤ 2 ^ 63 := by
      decide +kernel
    rwa [ran] at fits
  · obtain ⟨g, r', ran, receives, serves⟩ := fills _ 1 _ _ 2 3 _ _ _ live found
      duplicateColumns_record fetched
    obtain ⟨front, -⟩ := receives.positions mode
    have slot : r'.slot? 1 = some (.text "y") := front 1 (by rw [columns]; decide)
    refine ⟨g, _, _, ran, rfl, ?_⟩
    exact ((serves.position 1).copied _ slot).2.2.2.2 _ (by decide)

end SqlDriver
