/-
# SqlDriver.Engine.Rows -- the rows of a query, one after the other

A `Flow` is a query on its way: it remembers how far it got and reads the tables anew
for each row, so a scan sees rows that come to lie behind its place.  What has to see
all rows first (sorting, functions of all rows) does so when its first row is asked
for.  A flow is data: the next row depends on the flow and on the database alone.
-/
import SqlDriver.Engine.Catalog
import SqlDriver.Engine.Evaluate

namespace SqlDriver.Engine

set_option autoImplicit false

/-- A query on its way. -/
inductive Flow where
  /-- No row is left. -/
  | finished
  /-- The one row without values. -/
  | unit
  | outer (level : Nat)
  /-- A scan behind the row that it yielded last. -/
  | scan (table : String) (order : ScanOrder) (descending : Bool) (last : Option Tuple)
  | select (source : Flow) (filter : Option Term) (results : List Term)
  /-- A query that has to see all rows before its first one. -/
  | gather (q : Query)
  /-- Rows that are known. -/
  | given (rows : List Tuple)
  /-- A flow, and the query behind it. -/
  | append (a : Flow) (b : Query)
  /-- Rows that differ from those seen in their first values, one for each collation; the keys
  of a sort may stand behind them. -/
  | distinct (source : Flow) (collations : List Collation) (seen : List Tuple)
  /-- A flow of which no row has been asked for, and how many to skip and to yield. -/
  | limit (source : Flow) (count offset : Option Term)
  /-- A flow of which some rows may still be yielded. -/
  | limited (source : Flow) (left : Nat)
  /-- Rows that wait, in front and then in reverse, and the row that came out last. -/
  | recurse (distinct : Bool) (seed step : Query)
  | recursing (distinct : Bool) (front back seen : List Tuple) (last : Option Tuple)
      (step : Query)

instance : Inhabited Flow := ⟨.finished⟩

/-- What a flow reads: the database as it is, and as it was when the run began. -/
structure Snapshot where
  now : Contents
  start : Contents

namespace Flow

/-- A query in front of its first row. -/
def ofQuery : Query → Flow
  | .unit => unit
  | .outer level => outer level
  | .scan table order descending => scan table order descending none
  | .select source filter results => select (ofQuery source) filter results
  | .aggregate source filter functions results =>
      gather (.aggregate source filter functions results)
  | .append a b => append (ofQuery a) b
  | .sort source keys => gather (.sort source keys)
  | .distinct source collations => distinct (ofQuery source) collations []
  | .limit source count offset => limit (ofQuery source) count offset
  | .recurse d seed step => recurse d seed step

/-! ## Orders -/

/-- The order of two rows by one place after the other. -/
def comparePlaces : List (Nat × Collation) → Tuple → Tuple → Ordering
  | [], _, _ => .eq
  | (place, c) :: r, a, b =>
      match Datum.compare c (a.getD place .null) (b.getD place .null) with
      | .eq => comparePlaces r a b
      | o => o

/-- The order in which a scan visits two rows. -/
def compareRows (order : ScanOrder) (descending : Bool) (a b : Tuple) : Ordering :=
  let places := match order with
    | .number => []
    | .columns places => places
  let o := comparePlaces (places ++ [(0, .binary)]) a b
  if descending then o.swap else o

/-- The row that a scan visits behind the last one. -/
def nextRow (order : ScanOrder) (descending : Bool) (last : Option Tuple) (rows : List Row) :
    Option Tuple :=
  let lt (a b : Tuple) : Bool := compareRows order descending a b = .lt
  rows.foldl (fun best row =>
    let row := row.tuple
    if last.any (!lt · row) then best
    else
      match best with
      | some b => if lt row b then some row else best
      | none => some row) none

/-- The order of two rows by the keys that are their last values. -/
def compareKeys : List SortKey → Tuple → Tuple → Ordering
  | k :: ks, x :: xs, y :: ys =>
      match Datum.compare k.collation x y with
      | .eq => compareKeys ks xs ys
      | o => if k.descending then o.swap else o
  | _, _, _ => .eq

/-- Sorts rows by the keys that are their last values, and leaves those off. -/
def sortRows (keys : List SortKey) (rows : List Tuple) : List Tuple :=
  let width (row : Tuple) : Nat := row.length - keys.length
  let sorted := rows.mergeSort fun a b =>
    compareKeys keys (a.drop (width a)) (b.drop (width b)) ≠ .gt
  sorted.map fun row => row.take (width row)

/-- Two rows do not differ in their first values, as many as there are collations. -/
def sameFront : List Collation → Tuple → Tuple → Bool
  | c :: cs, x :: xs, y :: ys => Datum.compare c x y = .eq && sameFront cs xs ys
  | _, _, _ => true

def sameRow (a b : Tuple) : Bool :=
  a.length = b.length && sameFront (a.map fun _ => .binary) a b

/-- The rows that are not among those seen, and all that are seen then. -/
def addNew (seen : List Tuple) : List Tuple → List Tuple × List Tuple
  | [] => ([], seen)
  | row :: r =>
      if seen.any (sameRow row) then addNew seen r
      else
        let (fresh, seen) := addNew (row :: seen) r
        (row :: fresh, seen)

/-- The answer when a run does not end within its bound of steps. -/
def interrupted : Fault := ⟨"interrupted", 9⟩

/-- A number of rows; all of them if it is negative. -/
def rowCount (read : Reader) (stack : Stack) (t : Term) : Outcome Int := do
  match Affinity.integer.store (← t.eval read stack) with
  | .integer n => return n.toInt
  | _ => .error ⟨"datatype mismatch", 20⟩

/-- The values of functions of all rows, and the first row. -/
structure Summary where
  tallies : List Tally
  firstRow : Option Tuple := none

namespace Summary

def add (read : Reader) (stack : Stack)
    (functions : List (AggregateFunction × Collation × Option Term)) (s : Summary) (row : Tuple) :
    Outcome Summary := do
  let tallies ← (functions.zip s.tallies).mapM fun ((f, c, t), tally) => do
    match t with
    | none => return tally.add f c none
    | some t => return tally.add f c (some (← t.eval read (row :: stack)))
  return ⟨tallies, s.firstRow.orElse fun _ => some row⟩

/-- The results in front of the values of the functions and of the first row. -/
def results (read : Reader) (stack : Stack)
    (functions : List (AggregateFunction × Collation × Option Term)) (results : List Term)
    (s : Summary) : Outcome Tuple := do
  let values ← (functions.zip s.tallies).mapM fun ((f, _), tally) => tally.result f
  Term.evalAll read (values :: s.firstRow.getD [] :: stack) results

end Summary

/-! ## Running -/

mutual

/-- The next row of a flow and the flow behind it. -/
def next : Nat → Snapshot → Stack → Flow → Outcome (Option (Tuple × Flow))
  | 0, _, _, _ => .error interrupted
  | fuel + 1, db, stack, flow =>
      let read : Reader := firstOf fuel db
      match flow with
      | finished => .ok none
      | unit => .ok (some ([], finished))
      | outer level => .ok (some (stack.getD level [], finished))
      | scan table order descending last =>
          match nextRow order descending last (db.now.rows table) with
          | none => .ok none
          | some row => .ok (some (row, scan table order descending (some row)))
      | select source filter results =>
          match next fuel db stack source with
          | .error e => .error e
          | .ok none => .ok none
          | .ok (some (row, source)) =>
              match Term.holds read (row :: stack) filter with
              | .error e => .error e
              | .ok false => next fuel db stack (select source filter results)
              | .ok true =>
                  match Term.evalAll read (row :: stack) results with
                  | .error e => .error e
                  | .ok out => .ok (some (out, select source filter results))
      | gather q =>
          match gathered fuel db stack q with
          | .error e => .error e
          | .ok rows => next fuel db stack (given rows)
      | given [] => .ok none
      | given (row :: rows) => .ok (some (row, given rows))
      | append a b =>
          match next fuel db stack a with
          | .error e => .error e
          | .ok none => next fuel db stack (ofQuery b)
          | .ok (some (row, a)) => .ok (some (row, append a b))
      | distinct source collations seen =>
          match next fuel db stack source with
          | .error e => .error e
          | .ok none => .ok none
          | .ok (some (row, source)) =>
              if seen.any (sameFront collations row) then
                next fuel db stack (distinct source collations seen)
              else .ok (some (row, distinct source collations (row :: seen)))
      | limit source count offset =>
          match (do
            let left ← count.mapM (rowCount read stack)
            let skip ← offset.mapM (rowCount read stack)
            return (left, skip)) with
          | .error e => .error e
          | .ok (left, skip) =>
              match skipped fuel db stack (skip.getD 0).toNat source with
              | .error e => .error e
              | .ok source =>
                  match left with
                  | some n =>
                      if n < 0 then next fuel db stack source
                      else next fuel db stack (limited source n.toNat)
                  | none => next fuel db stack source
      | limited _ 0 => .ok none
      | limited source (left + 1) =>
          match next fuel db stack source with
          | .error e => .error e
          | .ok none => .ok none
          | .ok (some (row, source)) => .ok (some (row, limited source left))
      | recurse d seed step =>
          match drained fuel db stack (ofQuery seed) [] with
          | .error e => .error e
          | .ok rows =>
              let (rows, seen) := if d then addNew [] rows else (rows, [])
              next fuel db stack (recursing d rows [] seen none step)
      | recursing d front back seen (some last) step =>
          match drained fuel db (last :: stack) (ofQuery step) [] with
          | .error e => .error e
          | .ok rows =>
              let (rows, seen) := if d then addNew seen rows else (rows, [])
              next fuel db stack (recursing d front (rows.reverse ++ back) seen none step)
      | recursing d (row :: front) back seen none step =>
          .ok (some (row, recursing d front back seen (some row) step))
      | recursing _ [] [] _ none _ => .ok none
      | recursing d [] back seen none step =>
          next fuel db stack (recursing d back.reverse [] seen none step)

/-- The flow behind a number of rows. -/
def skipped : Nat → Snapshot → Stack → Nat → Flow → Outcome Flow
  | 0, _, _, _, _ => .error interrupted
  | _ + 1, _, _, 0, flow => .ok flow
  | fuel + 1, db, stack, n + 1, flow =>
      match next fuel db stack flow with
      | .error e => .error e
      | .ok none => .ok finished
      | .ok (some (_, flow)) => skipped fuel db stack n flow

/-- All rows of a flow behind those given in reverse. -/
def drained : Nat → Snapshot → Stack → Flow → List Tuple → Outcome (List Tuple)
  | 0, _, _, _, _ => .error interrupted
  | fuel + 1, db, stack, flow, out =>
      match next fuel db stack flow with
      | .error e => .error e
      | .ok none => .ok out.reverse
      | .ok (some (row, flow)) => drained fuel db stack flow (row :: out)

/-- All rows of a query that has to see all rows of its source. -/
def gathered : Nat → Snapshot → Stack → Query → Outcome (List Tuple)
  | 0, _, _, _ => .error interrupted
  | fuel + 1, db, stack, q =>
      let read : Reader := firstOf fuel db
      match q with
      | .aggregate source filter functions results =>
          match summarized fuel db stack filter functions (ofQuery source)
              ⟨functions.map fun _ => {}, none⟩ with
          | .error e => .error e
          | .ok s =>
              match s.results read stack functions results with
              | .error e => .error e
              | .ok row => .ok [row]
      | .sort source keys =>
          match drained fuel db stack (ofQuery source) [] with
          | .error e => .error e
          | .ok rows => .ok (sortRows keys rows)
      | q => drained fuel db stack (ofQuery q) []

/-- The summary of the rows of a flow that the filter lets through. -/
def summarized : Nat → Snapshot → Stack → Option Term →
    List (AggregateFunction × Collation × Option Term) → Flow → Summary → Outcome Summary
  | 0, _, _, _, _, _, _ => .error interrupted
  | fuel + 1, db, stack, filter, functions, flow, s =>
      match next fuel db stack flow with
      | .error e => .error e
      | .ok none => .ok s
      | .ok (some (row, flow)) =>
          let read : Reader := firstOf fuel db
          match Term.holds read (row :: stack) filter with
          | .error e => .error e
          | .ok false => summarized fuel db stack filter functions flow s
          | .ok true =>
              match s.add read stack functions row with
              | .error e => .error e
              | .ok s => summarized fuel db stack filter functions flow s

/-- The first row of a query.  One that does not depend on the stack reads the database
as it was when the run began. -/
def firstOf : Nat → Snapshot → Bool → Query → Stack → Outcome (Option Tuple)
  | 0, _, _, _, _ => .error interrupted
  | fuel + 1, db, fixed, q, stack =>
      let db := if fixed then { db with now := db.start } else db
      match next fuel db stack (ofQuery q) with
      | .error e => .error e
      | .ok none => .ok none
      | .ok (some (row, _)) => .ok (some row)

end

/-- A bound of steps that no run reaches in a lifetime. -/
def patience : Nat := Nat.pow 10 18

/-- The next row of a flow that stands in front of a stack. -/
def pull (db : Snapshot) (stack : Stack) (flow : Flow) : Outcome (Option (Tuple × Flow)) :=
  next patience db stack flow

def all (db : Snapshot) (stack : Stack) (q : Query) : Outcome (List Tuple) :=
  drained patience db stack (ofQuery q) []

/-- Reads queries for expressions that stand outside of a flow. -/
def reader (db : Snapshot) : Reader :=
  firstOf patience db

end Flow

end SqlDriver.Engine
