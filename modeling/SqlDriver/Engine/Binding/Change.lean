/-
# SqlDriver.Engine.Binding.Change -- changes of rows whose names are looked up

An insertion takes along what the triggers of its table do, bound in front of the row
that is inserted.  A trigger that is being bound is left out of what it does itself.
What a statement says about conflicts holds for the changes of its triggers too.
-/
import SqlDriver.Engine.Binding.Query

namespace SqlDriver.Engine.Binding

set_option autoImplicit false

/-- Binds the results that a change hands back of each row of a table. -/
def bindReturning (env : Env) (t : Table) (items : List ResultItem) :
    Lookup (List (Output × Bound)) := do
  let scope := Scope.ofTable t t.name
  let (results, _) ← bindItems (env.push scope) scope 0 items
  return results

/-- The query of the row numbers that a condition selects. -/
def selected (env : Env) (t : Table) (filter : Option Expr) : Lookup Query := do
  let row := env.push (.ofTable t t.name)
  let filter := (← bindOption row filter).map Bound.term
  let plan := ScanPlan.ofFilter { t with keys := t.keys.filter fun k =>
    ((filter.map (ScanPlan.bounded t)).getD []).any fun p => k.places = [p] } [] filter
  return .select (.scan t.name plan.order false) filter [.column 0 0]

def namesNumber (t : Table) (c : String) : Bool :=
  match t.place? c with
  | some p => t.numberColumn = some p
  | none => isNumberName c

/-- Where the columns of a table take their values from, and the row number its own.  Of
a name that occurs twice the first counts for a column, the last for the row number. -/
def insertSources (t : Table) (columns : List String) :
    Lookup (List (Option Nat) × Option Nat) := do
  if columns.isEmpty then
    return ((List.range t.columns.length).map some, t.numberColumn.map (· - 1))
  for c in columns do
    if (t.place? c).isNone && !isNumberName c then
      refuse ("table " ++ t.name ++ " has no column named " ++ c)
  let sources := t.columns.map fun c => columns.findIdx? (sameName c.name)
  let numbers := columns.zipIdx.filter fun (c, _) => namesNumber t c
  return (sources, numbers.getLast?.map Prod.snd)

/-- The number of values of a row is the number of columns that take one. -/
def checkCount (t : Table) (columns : List String) (width : Nat) : Lookup Unit := do
  if columns.isEmpty && width ≠ t.columns.length then
    refuse ("table " ++ t.name ++ " has " ++ toString t.columns.length ++ " columns but " ++
      toString width ++ " values were supplied")
  if !columns.isEmpty && width ≠ columns.length then
    refuse (toString width ++ " values for " ++ toString columns.length ++ " columns")

/-- Binds the values that an update assigns, by the places of their columns. -/
def bindAssignments (env : Env) (t : Table) : List (String × Expr) → Lookup (List (Nat × Term))
  | [] => return []
  | (n, e) :: r => do
      let b ← bindExpr (env.push (.ofTable t t.name)) e
      let place ← match t.place? n with
        | some p => pure (if t.numberColumn = some p then 0 else p)
        | none => if isNumberName n then pure 0 else refuse ("no such column: " ++ n)
      return (place, b.term) :: (← bindAssignments env t r)

def bindChange : Nat → Env → Option Conflict → List String → Change →
    Lookup (Mutation × List Output)
  | 0, _, _, _, _ => refuse "too many levels of trigger recursion"
  | fuel + 1, env, override, active, change => do
      let policy (own : Option Conflict) : Conflict :=
        (override.orElse fun _ => own).getD .abort
      match change with
      | .insert conflict n columns rows returning => do
          let t ← table env n
          let (sources, number) ← insertSources t columns
          let (rows, width) ← match rows with
            | some q => do
                let (q, outputs) ← bindSelect env q
                pure (q, some outputs.length)
            | none => pure (.unit, none)
          if let some width := width then checkCount t columns width
          let returning ← bindReturning env t returning
          let absent (s : Option Nat) : Option Nat := if width.isNone then none else s
          let own := override.orElse fun _ => conflict
          let triggers ← (env.contents.triggersOf t.name).filterMapM fun tr => do
            if active.any (sameName tr.form.name) then return none
            let inner : Env :=
              { contents := env.contents, origin := "main.",
                scopes := [{ Scope.ofTable t "new" with label := some "new" }] }
            let condition ← bindOption inner tr.form.condition
            let body ← tr.form.body.mapM fun c => do
              return (← bindChange fuel inner own (tr.form.name :: active) c).1
            return some (TriggerPlan.mk (condition.map Bound.term) body)
          return (.insert (policy conflict) t.name (sources.map absent) (absent number) rows
            (returning.map fun (_, b) => b.term) triggers, returning.map Prod.fst)
      | .update conflict n assignments filter returning => do
          let t ← table env n
          let assignments ← bindAssignments env t assignments
          let rows ← selected env t filter
          let returning ← bindReturning env t returning
          return (.update (policy conflict) t.name assignments rows
            (returning.map fun (_, b) => b.term), returning.map Prod.fst)
      | .delete n filter returning => do
          let t ← table env n
          let rows ← selected env t filter
          let returning ← bindReturning env t returning
          return (.delete t.name rows (returning.map fun (_, b) => b.term),
            returning.map Prod.fst)

end SqlDriver.Engine.Binding
