/-
# SqlDriver.Engine.Change -- changing rows

A change goes row by row.  A row is checked before it is stored: its columns for
values that may not be missing, then its conditions, then its number, then its keys,
those that were declared last first.  A row that fails is handled by the statement's
policy; where the statement stops, `Stop` says what becomes of what it did.
-/
import SqlDriver.Engine.Rows

namespace SqlDriver.Engine

set_option autoImplicit false

/-- What a change has done so far. -/
structure Work where
  contents : Contents
  /-- The number of rows changed, without those that triggers changed. -/
  changes : Nat := 0
  /-- The number of the row that was inserted last. -/
  lastNumber : Int64
  /-- The rows to hand back, in reverse. -/
  returned : List Tuple := []
  /-- The database when the first of these was made. -/
  returnedFrom : Option Contents := none

/-- A change that stopped. -/
structure Stop where
  /-- What becomes of what it did. -/
  policy : Conflict
  fault : Fault
  work : Work

/-- How a change goes on. -/
abbrev Progress := Except Stop

/-- What a change is done in front of. -/
structure Setting where
  /-- The database when the change began. -/
  start : Contents
  stack : Stack := []
  /-- The change counts its rows and hands rows back. -/
  outermost : Bool := true

namespace Setting

/-- Reads queries for the expressions of a change. -/
def reader (s : Setting) (w : Work) : Reader :=
  Flow.reader ⟨w.contents, s.start⟩

end Setting

namespace Work

/-- Stops, and undoes what was done. -/
def abort {α : Type} (w : Work) (fault : Fault) : Progress α :=
  .error ⟨.abort, fault, w⟩

/-- Goes on with a value, or stops. -/
def lift {α : Type} (w : Work) : Outcome α → Progress α
  | .ok a => .ok a
  | .error fault => w.abort fault

/-- What becomes of a row. -/
inductive Verdict where
  /-- The row is stored, and these rows are removed first. -/
  | store (values : List Datum) (displaced : List Int64)
  /-- The row is left out. -/
  | skip

/-- A row violates a constraint and no other row can be removed for it. -/
def violation {α : Type} (w : Work) (policy : Conflict) (fault : Fault) (skip : α) : Progress α :=
  match policy with
  | .ignore => .ok skip
  | .replace => w.abort fault
  | policy => .error ⟨policy, fault, w⟩

def rowStack (s : Setting) (number : Int64) (values : List Datum) : Stack :=
  (Row.tuple ⟨number, values⟩) :: s.stack

/-- The columns that may not be missing have values; `none` if the row is left out. -/
def checkPresent (w : Work) (s : Setting) (policy : Conflict) (t : Table) :
    List Column → List Datum → Progress (Option (List Datum))
  | c :: cs, d :: ds => do
      let fault : Fault := ⟨"NOT NULL constraint failed: " ++ t.name ++ "." ++ c.name, 1299⟩
      let isNumber := t.numberColumn.bind t.columnAt? |>.any fun n => sameName n.name c.name
      let here ←
        if c.notNull && d.isNull && !isNumber then
          match policy with
          | .replace => do
              let d ← w.lift (c.default.eval (s.reader w) s.stack)
              if d.isNull then w.abort fault else pure (some (c.affinity.store d))
          | policy => w.violation policy fault none
        else pure (some d)
      match here with
      | none => return none
      | some d =>
          let rest ← checkPresent w s policy t cs ds
          return rest.map (d :: ·)
  | _, ds => return some ds

/-- The conditions of a table hold for a row; false if the row is left out. -/
def checkConditions (w : Work) (s : Setting) (policy : Conflict) (stack : Stack) :
    List Check → Progress Bool
  | [] => return true
  | c :: rest => do
      let d ← w.lift (c.condition.eval (s.reader w) stack)
      if d.truth? = some false then
        w.violation policy ⟨"CHECK constraint failed: " ++ c.label, 275⟩ false
      else checkConditions w s policy stack rest

/-- Two rows have the same values in a key; nulls are never the same. -/
def sharesKey (t : Table) (k : Key) (a b : Tuple) : Bool :=
  k.places.all fun p =>
    let x := a.getD p .null
    let y := b.getD p .null
    !x.isNull && !y.isNull && Datum.compare (t.collationAt p) x y = .eq

/-- The refusal of a row that shares a key with another one. -/
def keyFault (t : Table) (k : Key) : Fault :=
  let names := k.places.map fun p => t.name ++ "." ++ ((t.columnAt? p).map Column.name).getD ""
  ⟨"UNIQUE constraint failed: " ++ String.intercalate ", " names, if k.primary then 1555 else 2067⟩

/-- The refusal of a row whose number is taken. -/
def numberFault (t : Table) : Fault :=
  match t.numberColumn.bind t.columnAt? with
  | some c => ⟨"UNIQUE constraint failed: " ++ t.name ++ "." ++ c.name, 1555⟩
  | none => ⟨"UNIQUE constraint failed: " ++ t.name ++ ".rowid", 2579⟩

/-- The rows in the way of a row are removed if the policy says so; `none` if the row is
left out. -/
def checkKeys (w : Work) (policy : Conflict) (t : Table) (rows : List Row) (row : Tuple) :
    List Key → Progress (Option (List Int64))
  | [] => return some []
  | k :: rest => do
      match rows.find? fun r => sharesKey t k row r.tuple with
      | none => checkKeys w policy t rows row rest
      | some r =>
          if policy = .replace then
            let more ← checkKeys w policy t (rows.filter fun o => o.number ≠ r.number) row rest
            return more.map (r.number :: ·)
          w.violation policy (keyFault t k) none

/-- Checks a row before it is stored.  `old` is the number of the row that it replaces. -/
def check (w : Work) (s : Setting) (policy : Conflict) (t : Table) (old : Option Int64)
    (number : Int64) (values : List Datum) : Progress Verdict := do
  match ← checkPresent w s policy t t.columns values with
  | none => return .skip
  | some values =>
      if !(← checkConditions w s policy (rowStack s number values) t.checks) then return .skip
      let rows := t.rows.filter fun r => some r.number ≠ old
      let taken := old ≠ some number && rows.any fun r => r.number = number
      if taken && policy ≠ .replace then
        return ← w.violation policy (numberFault t) .skip
      let displaced := if taken then [number] else []
      let rows := rows.filter fun r => !displaced.contains r.number
      match ← checkKeys w policy t rows (Row.tuple ⟨number, values⟩) t.keys with
      | none => return .skip
      | some more => return .store values (displaced ++ more)

/-- Stores a row in the place of another one and of those it displaces. -/
def store (w : Work) (table : String) (old : Option Int64) (displaced : List Int64) (row : Row) :
    Work :=
  { w with contents := w.contents.modify table fun t =>
      let t := displaced.foldl Table.remove t
      let t := match old with
        | some n => if n = row.number then t else t.remove n
        | none => t
      t.put row }

/-- Counts a row that was changed. -/
def count (w : Work) (s : Setting) : Work :=
  if s.outermost then { w with changes := w.changes + 1 } else w

/-- Makes the row that is handed back of a changed row. -/
def giveBack (w : Work) (s : Setting) (terms : List Term) (number : Int64)
    (values : List Datum) : Progress Work := do
  if terms.isEmpty then return w
  let start := w.returnedFrom.getD w.contents
  let row ← w.lift (Term.evalAll (Flow.reader ⟨w.contents, start⟩) (rowStack s number values) terms)
  return { w with returned := row :: w.returned, returnedFrom := some start }

/-! ## Row numbers -/

/-- The refusal of a value that is no row number. -/
def mismatch : Fault := ⟨"datatype mismatch", 20⟩

/-- The number of a row that is given none. -/
def freshNumber (t : Table) : Int64 :=
  match t.lastNumber? with
  | none => 1
  | some n =>
      if n = Int64.maxValue then
        let taken := t.rows.map Row.number
        let candidates := (List.range (taken.length + 1)).map fun i => Int64.ofNat (i + 1)
        (candidates.find? fun n => !taken.contains n).getD 1
      else n + 1

/-- The number that a value gives to a row. -/
def numberOf (w : Work) (d : Datum) : Progress Int64 :=
  match Affinity.integer.store d with
  | .integer n => .ok n
  | _ => w.abort mismatch

/-- The values of a row as its columns keep them. -/
def keep (t : Table) (number : Int64) (values : List Datum) : List Datum :=
  (t.columns.zip values).zipIdx.map fun ((c, d), i) =>
    if t.numberColumn = some (i + 1) then .integer number else c.affinity.store d

end Work

/-! ## Statements -/

def insertValues (w : Work) (s : Setting) (t : Table) (sources : List (Option Nat)) (row : Tuple) :
    Progress (List Datum) :=
  (t.columns.zip sources).mapM fun (c, source) =>
    match source with
    | some i => .ok (row.getD i .null)
    | none => w.lift (c.default.eval (s.reader w) s.stack)

/-- Removes rows one after the other. -/
def deleteRows (s : Setting) (table : String) (returning : List Term) :
    List Int64 → Work → Progress Work
  | [], w => return w
  | n :: rest, w => do
      match (w.contents.table? table).bind fun t => t.row? n with
      | none => deleteRows s table returning rest w
      | some row =>
          let w ← w.giveBack s returning n row.values
          let w := { w with contents := w.contents.modify table fun t => t.remove n }
          deleteRows s table returning rest (w.count s)

/-- Changes rows one after the other. -/
def updateRows (s : Setting) (policy : Conflict) (table : String)
    (assignments : List (Nat × Term)) (returning : List Term) :
    List Int64 → Work → Progress Work
  | [], w => return w
  | n :: rest, w => do
      match w.contents.table? table with
      | none => return w
      | some t =>
          match t.row? n with
          | none => updateRows s policy table assignments returning rest w
          | some row =>
              let stack := row.tuple :: s.stack
              let changed ← assignments.mapM fun (place, term) => do
                return (place, ← w.lift (term.eval (s.reader w) stack))
              let changed := changed.reverse
              let number ← match changed.lookup 0 with
                | some d => w.numberOf d
                | none => pure n
              let values := row.values.zipIdx.map fun (d, i) => (changed.lookup (i + 1)).getD d
              let values := Work.keep t number values
              match ← w.check s policy t (some n) number values with
              | .skip => updateRows s policy table assignments returning rest w
              | .store values displaced =>
                  let w := w.store table (some n) displaced ⟨number, values⟩
                  let w ← (w.count s).giveBack s returning number values
                  updateRows s policy table assignments returning rest w

def numbersOf (rows : List Tuple) : List Int64 :=
  rows.filterMap fun
    | .integer n :: _ => some n
    | _ => none

mutual

/-- Carries out a change. -/
def mutate : Nat → Setting → Mutation → Work → Progress Work
  | 0, _, _, w => w.abort Flow.interrupted
  | fuel + 1, s, m, w =>
      match m with
      | .insert policy table sources number rows returning triggers =>
          insertRows fuel s policy table sources number returning triggers (Flow.ofQuery rows) w
      | .update policy table assignments rows returning => do
          let rows ← w.lift (Flow.all ⟨w.contents, s.start⟩ s.stack rows)
          updateRows s policy table assignments returning (numbersOf rows) w
      | .delete table rows returning => do
          let rows ← w.lift (Flow.all ⟨w.contents, s.start⟩ s.stack rows)
          deleteRows s table returning (numbersOf rows) w

/-- Adds the rows of a flow one after the other. -/
def insertRows : Nat → Setting → Conflict → String → List (Option Nat) → Option Nat →
    List Term → List TriggerPlan → Flow → Work → Progress Work
  | 0, _, _, _, _, _, _, _, _, w => w.abort Flow.interrupted
  | fuel + 1, s, policy, table, sources, number, returning, triggers, flow, w => do
      match ← w.lift (Flow.pull ⟨s.start, s.start⟩ s.stack flow) with
      | none => return w
      | some (row, flow) =>
          let w ← insertRow fuel s policy table sources number returning triggers row w
          insertRows fuel s policy table sources number returning triggers flow w

def insertRow : Nat → Setting → Conflict → String → List (Option Nat) → Option Nat →
    List Term → List TriggerPlan → Tuple → Work → Progress Work
  | 0, _, _, _, _, _, _, _, _, w => w.abort Flow.interrupted
  | fuel + 1, s, policy, table, sources, number, returning, triggers, row, w => do
      match w.contents.table? table with
      | none => return w
      | some t =>
          let values ← insertValues w s t sources row
          let number ← match (number.map fun i => row.getD i .null).getD .null with
            | .null => pure (Work.freshNumber t)
            | d => w.numberOf d
          match ← w.check s policy t none number (Work.keep t number values) with
          | .skip => return w
          | .store values displaced =>
              let w := w.store table none displaced ⟨number, values⟩
              let w ← ({ w with lastNumber := number }.count s).giveBack s returning number values
              let w ← fireAll fuel s (Row.tuple ⟨number, values⟩) triggers w
              return { w with lastNumber := number }

/-- Does what triggers say, one after the other. -/
def fireAll : Nat → Setting → Tuple → List TriggerPlan → Work → Progress Work
  | 0, _, _, _, w => w.abort Flow.interrupted
  | _ + 1, _, _, [], w => return w
  | fuel + 1, s, row, .mk condition body :: rest, w => do
      let inner : Setting := ⟨w.contents, [row], false⟩
      let w ←
        if ← w.lift (Term.holds (inner.reader w) inner.stack condition) then
          -- Where a trigger stops, the number of the row that set it off counts as the last.
          match mutateAll fuel row body w with
          | .ok w => pure w
          | .error stop =>
              throw { stop with work := { stop.work with lastNumber := w.lastNumber } }
        else pure w
      fireAll fuel s row rest w

/-- Carries out the changes of a trigger. -/
def mutateAll : Nat → Tuple → List Mutation → Work → Progress Work
  | 0, _, _, w => w.abort Flow.interrupted
  | _ + 1, _, [], w => return w
  | fuel + 1, row, m :: rest, w => do
      let w ← mutate fuel ⟨w.contents, [row], false⟩ m w
      mutateAll fuel row rest w

end

end SqlDriver.Engine
