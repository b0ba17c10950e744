/-
# SqlDriver.Engine.Evaluate -- the value of an expression

A term is evaluated in front of a stack of rows.  What its queries yield comes from a
function that is handed in (`Reader`), so a term's value depends on nothing else.
-/
import SqlDriver.Engine.Operation

namespace SqlDriver.Engine

set_option autoImplicit false

/-- The rows that an expression stands in. -/
abbrev Stack := List Tuple

/-- Runs a query in front of a stack as far as its first row.  The flag says that the
query does not depend on the stack. -/
abbrev Reader := Bool → Query → Stack → Outcome (Option Tuple)

namespace Stack

def value (stack : Stack) (level place : Nat) : Datum :=
  ((stack[level]?).bind (·[place]?)).getD .null

end Stack

mutual

def Term.eval (read : Reader) (stack : Stack) : Term → Outcome Datum
  | .constant d => .ok d
  | .column level place => .ok (stack.value level place)
  | .unary op t => do return Datum.unary op (← t.eval read stack)
  | .compare op a c l r => do
      let x ← l.eval read stack
      let y ← r.eval read stack
      return Datum.comparison op a c x y
  | .combine op l r => do
      let x ← l.eval read stack
      let y ← r.eval read stack
      return Datum.combine op x y
  | .both l r => do
      match (← l.eval read stack).truth? with
      | some false => return Datum.ofBool false
      | some true => return Datum.ofTruth (← r.eval read stack).truth?
      | none =>
          return if (← r.eval read stack).truth? = some false then Datum.ofBool false else .null
  | .either l r => do
      match (← l.eval read stack).truth? with
      | some true => return Datum.ofBool true
      | some false => return Datum.ofTruth (← r.eval read stack).truth?
      | none =>
          return if (← r.eval read stack).truth? = some true then Datum.ofBool true else .null
  | .isNull negated t => do return Datum.ofBool ((← t.eval read stack).isNull != negated)
  | .oneOf a c t items => do
      let d ← t.eval read stack
      let ds ← Term.evalAll read stack items
      return Datum.oneOf a c d ds
  | .like t pattern => do
      let d ← t.eval read stack
      let p ← pattern.eval read stack
      return Datum.like d p
  | .cast a t => do return a.cast (← t.eval read stack)
  | .choose condition yes no => do
      match (← condition.eval read stack).truth? with
      | some true => yes.eval read stack
      | _ => no.eval read stack
  | .call f arguments => do
      let ds ← Term.evalAll read stack arguments
      f.apply ds
  | .first fixed q => do
      match ← read fixed q stack with
      | some (d :: _) => return d
      | _ => return .null
  | .exists fixed q => do return Datum.ofBool (← read fixed q stack).isSome

def Term.evalAll (read : Reader) (stack : Stack) : List Term → Outcome Tuple
  | [] => .ok []
  | t :: r => do
      let d ← t.eval read stack
      let ds ← Term.evalAll read stack r
      return d :: ds

end

namespace Term

/-- A filter lets a row through. -/
def holds (read : Reader) (stack : Stack) : Option Term → Outcome Bool
  | none => .ok true
  | some t => do return (← t.eval read stack).truth? = some true

end Term

end SqlDriver.Engine
