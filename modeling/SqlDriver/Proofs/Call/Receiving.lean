/-
# SqlDriver.Proofs.Call.Receiving -- fetching into a target copies the row and nothing else

Fetching into a target is fetching the next row and copying it (`exec_fetchInto`), so whatever
the mode is, the driver goes on from the same state; the call by handle does the same to the
record at an address (`run_fetchInto`).  `fetchInto_receives` says what a target holds
afterwards, slot by slot, and that nothing is written where no row came.
-/
import SqlDriver.Proofs.Call.Channel
import SqlDriver.Proofs.Call.HandleNumber
import SqlDriver.Proofs.Driver.LookAhead
import SqlDriver.Proofs.Heap.Array
import SqlDriver.Proofs.Row

namespace SqlDriver

set_option autoImplicit false

/-! ## Rows of a cursor -/

section Rows

variable {s t : State} {k : Nat} {cursor : Cursor} {row : List Value}

/-- Only an open cursor has a next row. -/
theorem openAt_of_next (found : s.cursors.get? k = some cursor)
    (fetched : exec (Cursor.next k) s = (.ok (some row), t)) :
    ∃ id run, OpenAt s k cursor id run := by
  cases running : cursor.run with
  | none =>
      rw [exec_next_of_closed (by simp [statementAt, found, running])] at fetched
      cases fetched
  | some run =>
      cases session : sessionAt s.connections cursor.connection with
      | some id => exact ⟨id, run, found, running, session⟩
      | none =>
          unfold Cursor.next at fetched
          rw [exec_bind, exec_get] at fetched
          dsimp only at fetched
          rw [found] at fetched
          dsimp only at fetched
          rw [running] at fetched
          dsimp only at fetched
          rw [sessionOf_bind_of_closed session] at fetched
          cases fetched

/-- A row has a value for each column. -/
theorem width_of_next (found : s.cursors.get? k = some cursor)
    (fetched : exec (Cursor.next k) s = (.ok (some row), t)) :
    row.length = cursor.names.length := by
  obtain ⟨id, run, isOpen⟩ := openAt_of_next found fetched
  rw [exec_next isOpen] at fetched
  split at fetched <;> cases fetched
  simp [Cursor.rowValues]

end Rows

/-! ## Records among a program's objects -/

namespace Call

variable {h : Heap} {a : Address} {r : Record}

theorem body_of_recordAt (there : recordAt? h a = some r) :
    ∃ references, h.get? a = some ⟨references, .record r⟩ := by
  unfold recordAt? at there
  cases found : h.get? a with
  | none => rw [found] at there; cases there
  | some o =>
      obtain ⟨references, body⟩ := o
      rw [found] at there
      cases body <;> cases there
      exact ⟨references, rfl⟩

end Call

namespace Heap

variable (h : Heap) (a : Address)

theorem recordAt_update {r : Record} (there : Call.recordAt? h a = some r) (r' : Record) :
    Call.recordAt? (h.update a fun _ => .record r') a = some r' := by
  obtain ⟨references, found⟩ := Call.body_of_recordAt there
  rw [Call.recordAt?, get?_update, if_pos rfl, found]
  rfl

end Heap

/-! ## The mode -/

namespace Call

theorem modeOf_numeric (text : String) :
    (modeOf text).numeric ↔ text = "" ∨ 'n' ∈ text.toList := by
  unfold modeOf
  split
  · next empty => simp [FetchMode.positions, String.isEmpty_iff.1 empty]
  · next filled => simp [FetchMode.ofText, mt String.isEmpty_iff.2 filled]

theorem modeOf_named (text : String) : (modeOf text).named ↔ 'a' ∈ text.toList := by
  unfold modeOf
  split
  · next empty => simp [FetchMode.positions, String.isEmpty_iff.1 empty]
  · next filled => simp [FetchMode.ofText]

/-- Reporting an error leaves every object of the program as it is. -/
theorem report_keeps (h : Host) (error : Error) (errorPrefix : String) {b : Address} {o : Object}
    (there : h.heap.get? b = some o) :
    (StateT.run (report error errorPrefix) h).2.heap.get? b = some o := by
  unfold report
  split
  · exact there
  · have old : b ≠ h.heap.objects.next := Nat.ne_of_lt (Pool.lt_next_of_get? there)
    exact ((newText_writes _ _).others b old).trans there

/-- Fetching into a record by handle fetches the next row, and copies it into the record. -/
theorem run_fetchInto {h : Host} {x : Int64} {e : Entry} {cursor : Cursor} {record : Address}
    {r : Record} (live : h.cursors.find? x = some e)
    (found : h.state.cursors.get? e.object = some cursor)
    (there : recordAt? h.heap record = some r) (mode : Address) :
    StateT.run (fetchInto x record mode) h =
      match exec (Cursor.next e.object) h.state with
      | (.ok (some row), t) =>
          (⟨.ok, 1⟩, { h with
            state := t
            heap := h.heap.update record fun _ =>
              .record (r.received (modeOf (h.heap.stringAt mode)) cursor.names row) })
      | (.ok none, t) => (⟨.done, 0⟩, { h with state := t })
      | (.error error, t) => StateT.run (report error e.errorPrefix) { h with state := t } := by
  rw [fetchInto, withEntry_of_live live, run_get_bind, there]
  dsimp only
  rw [run_bind, run_textAt]
  dsimp only
  rw [run_bind, run_perform, exec_fetchInto, found]
  rcases fetched : exec (Cursor.next e.object) h.state with ⟨error | _ | row, t⟩
  · rfl
  · rfl
  · have width := width_of_next found fetched
    dsimp only [Except.map, Option.elim, Option.map, Option.getD]
    rw [(receive_record (modeOf (h.heap.stringAt mode)) width r).1]
    rfl

end Call

/-! ## Fetching into a target -/

/-- What fetching into a target makes of the answer of fetching the next row.  The driver is
left as by that, whatever the mode. -/
structure CopiesRow (names : List String) (fetched : Result (Option (List Value)) × State)
    (into : Target → FetchMode → Result (Bool × Target) × State) : Prop where
  /-- A record receives the row, slot by slot; a list and a map receive what its halves do. -/
  row : ∀ row, fetched.1 = .ok (some row) → row.length = names.length ∧
    ∀ (r : Record) (mode : FetchMode), ∃ r',
      into (.record r) mode = (.ok (true, .record r'), fetched.2) ∧
      into (.list r.values) mode = (.ok (true, .list r'.values), fetched.2) ∧
      into (.map r.fields) mode = (.ok (true, .map r'.fields), fetched.2) ∧
      Receives mode names row r r' ∧
      (r.fields.names.Nodup → r'.fields.names.Nodup ∧
        ∀ r'', Receives mode names row r r'' → r'' = r')
  exhausted : fetched.1 = .ok none →
    ∀ target mode, into target mode = (.ok (false, target), fetched.2)
  failed : ∀ error, fetched.1 = .error error →
    ∀ target mode, into target mode = (.error error, fetched.2)

/-- What a call that fetches into the record at an address makes of the answer of fetching the
next row. -/
structure FillsRecord (h : Host) (names : List String)
    (fetched : Result (Option (List Value)) × State) (a : Address) (r : Record)
    (mode : FetchMode) (ended : Ended) (g : Host) : Prop where
  /-- The record receives the row, and no other object changes. -/
  row : ∀ row, fetched.1 = .ok (some row) → ended = ⟨.ok, 1⟩ ∧ g.state = fetched.2 ∧
    (∃ r', Call.recordAt? g.heap a = some r' ∧ Receives mode names row r r') ∧
    ∀ b, b ≠ a → g.heap.get? b = h.heap.get? b
  exhausted : fetched.1 = .ok none → ended = ⟨.done, 0⟩ ∧ g = { h with state := fetched.2 }
  failed : ∀ error, fetched.1 = .error error → (ended.ending = .raised ∨ ended.ending = .error) ∧
    ∀ b o, h.heap.get? b = some o → g.heap.get? b = some o

section Fetching

variable {h : Host} {x : Int64} {e : Entry} {cursor : Cursor}

theorem copiesRow {s : State} {k : Nat} (found : s.cursors.get? k = some cursor) :
    CopiesRow cursor.names (exec (Cursor.next k) s)
      fun target mode => exec (Cursor.fetchInto k target mode) s := by
  rcases fetched : exec (Cursor.next k) s with ⟨error | _ | row, t⟩
  · refine ⟨fun _ row => (by cases row), fun none => (by cases none), fun _ same target mode => ?_⟩
    cases same
    rw [exec_fetchInto, fetched]
    rfl
  · refine ⟨fun _ row => (by cases row), fun _ target mode => ?_, fun _ error => (by cases error)⟩
    rw [exec_fetchInto, fetched]
    rfl
  · refine ⟨fun _ same => ?_, fun none => (by cases none), fun _ error => (by cases error)⟩
    cases same
    have width := width_of_next found fetched
    have into (target : Target) (mode : FetchMode) : exec (Cursor.fetchInto k target mode) s =
        (.ok (true, target.receive mode cursor.names row), t) := by
      rw [exec_fetchInto, fetched, found]
      rfl
    refine ⟨width, fun r mode => ⟨r.received mode cursor.names row, ?_⟩⟩
    obtain ⟨record, list, map⟩ := receive_record mode width r
    refine ⟨?_, ?_, ?_, receives_receive width, fun apart => ⟨?_, fun r'' receives => ?_⟩⟩
    · rw [into, record]
    · rw [into, list]
    · rw [into, map]
    · exact nodup_received apart
    · exact receives.unique apart width (receives_receive width)

theorem fillsRecord (live : h.cursors.find? x = some e)
    (found : h.state.cursors.get? e.object = some cursor) {a : Address} {r : Record}
    (there : Call.recordAt? h.heap a = some r) (mode : Address) :
    FillsRecord h cursor.names (exec (Cursor.next e.object) h.state) a r
      (Call.modeOf (h.heap.stringAt mode)) (StateT.run (Call.fetchInto x a mode) h).1
      (StateT.run (Call.fetchInto x a mode) h).2 := by
  rw [Call.run_fetchInto live found there]
  rcases fetched : exec (Cursor.next e.object) h.state with ⟨error | _ | row, t⟩
  · refine ⟨fun _ row => (by cases row), fun none => (by cases none), fun _ same => ?_⟩
    cases same
    obtain ⟨ending, value, g, reported, -, failing⟩ := report_answer h t error e.errorPrefix
    refine ⟨?_, fun b o old => Call.report_keeps { h with state := t } error _ old⟩
    dsimp only
    rw [reported]
    exact failing
  · exact ⟨fun _ row => (by cases row), fun _ => ⟨rfl, rfl⟩, fun _ error => (by cases error)⟩
  · refine ⟨fun _ same => ?_, fun none => (by cases none), fun _ error => (by cases error)⟩
    cases same
    refine ⟨rfl, rfl, ⟨_, h.heap.recordAt_update a there _,
      receives_receive (width_of_next found fetched)⟩, fun b other => ?_⟩
    exact (Heap.get?_update h.heap a b _).trans (if_neg other)

/-- Fetching into a target copies the next row into it, slot by slot as `Receives` says, and
where there is no next row, or it cannot be fetched, copies nothing.  The driver goes on as
after `next`, whatever the mode.  A call by handle does this to the record at an address, by
the mode that its text asks for, and to no other object. -/
theorem fetchInto_receives (live : h.cursors.find? x = some e)
    (found : h.state.cursors.get? e.object = some cursor) :
    CopiesRow cursor.names (exec (Cursor.next e.object) h.state)
      (fun target mode => exec (Cursor.fetchInto e.object target mode) h.state) ∧
    ∀ (a : Address) (r : Record) (mode : Address), Call.recordAt? h.heap a = some r →
      ∃ ended g asked, StateT.run (Call.fetchInto x a mode) h = (ended, g) ∧
        (asked.numeric ↔ h.heap.stringAt mode = "" ∨ 'n' ∈ (h.heap.stringAt mode).toList) ∧
        (asked.named ↔ 'a' ∈ (h.heap.stringAt mode).toList) ∧
        FillsRecord h cursor.names (exec (Cursor.next e.object) h.state) a r asked ended g :=
  ⟨copiesRow found, fun _ _ mode there => ⟨_, _, Call.modeOf (h.heap.stringAt mode), rfl,
    Call.modeOf_numeric _, Call.modeOf_named _, fillsRecord live found there mode⟩⟩

end Fetching

/-- A record that was in use before. -/
def usedRecord : Record :=
  ⟨[.integer 7, .integer 8, .integer 9], [("b", .null), ("a", .null)]⟩

/-- A cursor over a row whose columns share their name, next to a record and a mode. -/
def duplicateColumns : Host :=
  let heap := (({} : Heap).allocString "SELECT 'x' AS a, 'y' AS a").2
  let heap := (heap.alloc (.record usedRecord)).2
  let heap := (heap.allocString "na").2
  (issuing {} (connecting ++ [.work heap {}, .execute 1 1])).1

theorem duplicateColumns_live :
    duplicateColumns.cursors.find? 1 = some ⟨1, Call.defaultPrefix⟩ := by
  decide +kernel

theorem duplicateColumns_cursor :
    ∃ cursor, duplicateColumns.state.cursors.get? 1 = some cursor ∧ cursor.names = ["a", "a"] := by
  have names : (duplicateColumns.state.cursors.get? 1).map Cursor.names = some ["a", "a"] := by
    decide +kernel
  exact Option.map_eq_some_iff.1 names

theorem duplicateColumns_record :
    Call.recordAt? duplicateColumns.heap 2 = some usedRecord := by
  decide +kernel

theorem duplicateColumns_mode : duplicateColumns.heap.stringAt 3 = "na" := by
  decide +kernel

theorem duplicateColumns_next :
    ∃ t, exec (Cursor.next 1) duplicateColumns.state = (.ok (some [.text "x", .text "y"]), t) := by
  have next : (exec (Cursor.next 1) duplicateColumns.state).1.toOption =
      some (some [.text "x", .text "y"]) := by decide +kernel
  exact ⟨_, exec_eq_of_toOption next⟩

theorem fetchInto_of_duplicate_columns :
    ∃ g r', StateT.run (Call.fetchInto 1 2 3) duplicateColumns = (⟨.ok, 1⟩, g) ∧
      Call.recordAt? g.heap 2 = some r' ∧ r'.get? 0 = some (.text "x") ∧
      r'.get? 2 = some (.integer 9) ∧ r'.field? "a" = some (.text "y") ∧
      r'.field? "b" = some .null ∧ r'.fields.names = ["b", "a"] := by
  obtain ⟨cursor, found, names⟩ := duplicateColumns_cursor
  obtain ⟨t, fetched⟩ := duplicateColumns_next
  obtain ⟨-, called⟩ := fetchInto_receives duplicateColumns_live found
  obtain ⟨ended, g, asked, ran, numeric, named, fills⟩ := called 2 usedRecord 3
    duplicateColumns_record
  rw [duplicateColumns_mode] at numeric named
  obtain ⟨rfl, -, ⟨r', holds, receives⟩, -⟩ := fills.row _ (congrArg Prod.fst fetched)
  rw [names] at receives
  obtain ⟨front, behind, -⟩ := receives.positions (numeric.2 (.inr (by decide)))
  obtain ⟨held, kept⟩ := receives.fields (named.2 (by decide))
  have order := receives.order (named.2 (by decide))
  refine ⟨g, r', ran, holds, front 0 (by decide), behind 2 (by decide), ?_, kept "b" (by decide),
    order⟩
  exact held 1 "a" rfl fun j later => by
    rw [List.getElem?_eq_none later]
    exact fun same => by cases same

end SqlDriver
