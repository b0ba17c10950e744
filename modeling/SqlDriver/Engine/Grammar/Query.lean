/-
# SqlDriver.Engine.Grammar.Query -- reading expressions and queries

Operators bind in levels, the loosest first: `OR`, `AND`, `NOT`, equality and its
kin, comparison, bits, sums, products, `||`, `COLLATE`, signs.  All of them group to
the left.  Behind an operand, `NOT` in front of `IN`, `LIKE`, `BETWEEN` or `NULL`
counts as loose as `NOT` itself.
-/
import SqlDriver.Engine.Grammar.Basic
import SqlDriver.Engine.Numeral

namespace SqlDriver.Engine.Grammar

set_option autoImplicit false

/-- An operator between two operands, with its level. -/
inductive Infix where
  | both
  | either
  | compare (op : Comparison)
  | combine (op : Operator)
deriving DecidableEq, Repr

namespace Infix

def apply : Infix → Expr → Expr → Expr
  | both, l, r => .both l r
  | either, l, r => .either l r
  | compare op, l, r => .compare op l r
  | combine op, l, r => .combine op l r

def ofToken? (t : Token) : Option (Infix × Nat) :=
  if t.kind = .word then
    match t.keyword with
    | "OR" => some (either, 1)
    | "AND" => some (both, 2)
    | _ => none
  else if t.kind = .operator then
    match String.ofList t.text with
    | "=" => some (compare .eq, 4)
    | "==" => some (compare .eq, 4)
    | "<>" => some (compare .ne, 4)
    | "!=" => some (compare .ne, 4)
    | "<" => some (compare .lt, 5)
    | "<=" => some (compare .le, 5)
    | ">" => some (compare .gt, 5)
    | ">=" => some (compare .ge, 5)
    | "&" => some (combine .bitAnd, 7)
    | "|" => some (combine .bitOr, 7)
    | "<<" => some (combine .shiftLeft, 7)
    | ">>" => some (combine .shiftRight, 7)
    | "+" => some (combine .add, 8)
    | "-" => some (combine .sub, 8)
    | "*" => some (combine .mul, 9)
    | "/" => some (combine .div, 9)
    | "%" => some (combine .rem, 9)
    | "||" => some (combine .concat, 10)
    | _ => none
  else none

end Infix

def negationLevel : Nat := 3

def equalityLevel : Nat := 4

def collateLevel : Nat := 11

def signLevel : Nat := 12

/-- The value of a number, text or blob. -/
def literal? (t : Token) : Option Expr :=
  match t.kind, t.text with
  | .literal, _ => some (.literal (.ofString t.content))
  | .integer, '0' :: x :: r =>
      if x = 'x' || x = 'X' then some (.literal (.integer (hexValue r)))
      else some (.numeral ((t.content.toNat?).getD 0))
  | .integer, _ => some (.numeral ((t.content.toNat?).getD 0))
  | .float, s => some (.literal (.real (readReal (Text.Utf8.encode s)).1))
  | .blob, s => some (.literal (.blob (hexOctets ((s.drop 2).dropLast))))
  | .variable, _ => some .parameter
  | _, _ => none

/-- A declared type: names, and one or two numbers in parentheses. -/
def typeName? : Reading (Option String) := do
  let start ← peek
  if start.kind ≠ .literal && !isGivenName start then return none
  let rec names : Nat → Reading Unit
    | 0 => return ()
    | fuel + 1 => do
        if isGivenName (← peek) then
          let _ ← advance
          names fuel
  names (← get).length
  let number : Reading Unit := do
    if !(← acceptOperator "+") then
      let _ ← acceptOperator "-"
    let t ← peek
    if t.kind = .integer || t.kind = .float then
      let _ ← advance
    else unexpected
  let stop ← textFrom start
  if ← acceptOperator "(" then
    number
    if ← acceptOperator "," then number
    operator ")"
    return some (trimBlanks (← textFrom start))
  return some (trimBlanks stop)

mutual

/-- An expression whose operators bind at least as tightly as a level. -/
def expr : Nat → Nat → Reading Expr
  | 0, _ => unexpected
  | fuel + 1, level => do
      let e ← operand fuel
      operators fuel level e

def operators : Nat → Nat → Expr → Reading Expr
  | 0, _, _ => unexpected
  | fuel + 1, level, e => do
      let t ← peek
      match Infix.ofToken? t with
      | some (op, l) =>
          if l < level then return e
          let _ ← advance
          let r ← expr fuel (l + 1)
          operators fuel level (op.apply e r)
      | none =>
          if t.keyword = "COLLATE" && level ≤ collateLevel then
            let _ ← advance
            let t ← peek
            if isName t then
              let _ ← advance
              operators fuel level (.collate e t.content)
            else unexpected
          else if t.keyword = "NOT" && level ≤ negationLevel then
            let _ ← advance
            if ← acceptWord "NULL" then operators fuel level (.isNull true e)
            else
              let e ← membership fuel true e
              operators fuel level e
          else if equalityLevel < level then return e
          else if t.keyword = "ISNULL" then
            let _ ← advance
            operators fuel level (.isNull false e)
          else if t.keyword = "NOTNULL" then
            let _ ← advance
            operators fuel level (.isNull true e)
          else if t.keyword = "IS" then
            let _ ← advance
            let negated ← acceptWord "NOT"
            let distinct ← acceptWords ["DISTINCT", "FROM"]
            let r ← expr fuel (equalityLevel + 1)
            let op := if negated != distinct then Comparison.differ else .same
            operators fuel level (.compare op e r)
          else if ["IN", "LIKE", "BETWEEN"].contains t.keyword then
            let e ← membership fuel false e
            operators fuel level e
          else return e

/-- What follows an operand and says whether it is one of many. -/
def membership : Nat → Bool → Expr → Reading Expr
  | 0, _, _ => unexpected
  | fuel + 1, negated, e => do
      if ← acceptWord "IN" then
        operator "("
        if ← acceptOperator ")" then return .oneOf negated e []
        let items ← commaList (expr fuel 0) (← get).length
        operator ")"
        return .oneOf negated e items
      if ← acceptWord "LIKE" then
        return .like negated e (← expr fuel (equalityLevel + 1))
      if ← acceptWord "BETWEEN" then
        let low ← expr fuel negationLevel
        word "AND"
        return .between negated e low (← expr fuel (equalityLevel + 1))
      unexpected

def operand : Nat → Reading Expr
  | 0 => unexpected
  | fuel + 1 => do
      let t ← peek
      match literal? t with
      | some e =>
          let _ ← advance
          return e
      | none =>
          if ← acceptOperator "-" then return .unary .minus (← expr fuel signLevel)
          if ← acceptOperator "+" then return .unary .plus (← expr fuel signLevel)
          if ← acceptOperator "~" then return .unary .complement (← expr fuel signLevel)
          if ← acceptOperator "(" then
            if ← atWords ["SELECT", "VALUES", "WITH"] then
              let q ← query fuel
              operator ")"
              return .first q
            let e ← expr fuel 0
            operator ")"
            return e
          match t.keyword with
          | "NULL" =>
              let _ ← advance
              return .literal .null
          | "NOT" =>
              let _ ← advance
              return .unary .negation (← expr fuel negationLevel)
          | "CAST" => castOrName fuel
          | "EXISTS" =>
              let _ ← advance
              operator "("
              let q ← query fuel
              operator ")"
              return .exists q
          | "CASE" =>
              let _ ← advance
              let base ← if ← atWord "WHEN" then pure none else some <$> expr fuel 0
              cases fuel base []
          | _ => named fuel

/-- `CAST`, which is a name where no parenthesis follows. -/
def castOrName : Nat → Reading Expr
  | 0 => unexpected
  | fuel + 1 => do
      if (← peekSecond).isOperator "(" then
        word "CAST"
        operator "("
        let e ← expr fuel 0
        word "AS"
        let type ← typeName?
        operator ")"
        return .cast e (type.getD "")
      named fuel

/-- The branches of a `CASE` behind those given in reverse. -/
def cases : Nat → Option Expr → List (Expr × Expr) → Reading Expr
  | 0, _, _ => unexpected
  | fuel + 1, base, branches => do
      word "WHEN"
      let condition ← expr fuel 0
      word "THEN"
      let result ← expr fuel 0
      let branches := (condition, result) :: branches
      if ← atWord "WHEN" then cases fuel base branches
      else
        let otherwise ← if ← acceptWord "ELSE" then some <$> expr fuel 0 else pure none
        word "END"
        return .cases base branches.reverse otherwise

def named : Nat → Reading Expr
  | 0 => unexpected
  | fuel + 1 => do
      let t ← peek
      if !isIdentifier t then unexpected
      let _ ← advance
      if ← acceptOperator "(" then
        if ← acceptOperator "*" then
          operator ")"
          return .callAll t.content
        if ← acceptOperator ")" then return .call t.content []
        let arguments ← commaList (expr fuel 0) (← get).length
        operator ")"
        return .call t.content arguments
      if ← acceptOperator "." then
        let column ← name
        return .name (some t.content) column false
      return .name none t.content (t.kind = .quotedName)

def query : Nat → Reading Select
  | 0 => unexpected
  | fuel + 1 => do
      let (recursive, tables) ←
        if ← acceptWord "WITH" then
          let recursive ← acceptWord "RECURSIVE"
          let tables ← commaList (commonTable fuel) (← get).length
          pure (recursive, tables)
        else pure (false, [])
      let head ← core fuel
      let tail ← junctions fuel
      let order ←
        if ← acceptWords ["ORDER", "BY"] then
          commaList (do
            let e ← expr fuel 0
            if ← acceptWord "DESC" then return (e, true)
            let _ ← acceptWord "ASC"
            return (e, false)) (← get).length
        else pure []
      if ← acceptWord "LIMIT" then
        let count ← expr fuel 0
        if ← acceptWord "OFFSET" then
          return .mk recursive tables head tail order (some count) (some (← expr fuel 0))
        if ← acceptOperator "," then
          return .mk recursive tables head tail order (some (← expr fuel 0)) (some count)
        return .mk recursive tables head tail order (some count) none
      return .mk recursive tables head tail order none none

def commonTable : Nat → Reading CommonTable
  | 0 => unexpected
  | fuel + 1 => do
      let n ← name
      let columns ←
        if ← acceptOperator "(" then
          let columns ← commaList name (← get).length
          operator ")"
          pure columns
        else pure []
      word "AS"
      if ← acceptWord "NOT" then word "MATERIALIZED"
      else
        let _ ← acceptWord "MATERIALIZED"
      operator "("
      let q ← query fuel
      operator ")"
      return .mk n columns q

def junctions : Nat → Reading (List (Junction × Core))
  | 0 => unexpected
  | fuel + 1 => do
      if ← acceptWord "UNION" then
        let j := if ← acceptWord "ALL" then Junction.all else .distinct
        let c ← core fuel
        return (j, c) :: (← junctions fuel)
      return []

def core : Nat → Reading Core
  | 0 => unexpected
  | fuel + 1 => do
      if ← acceptWord "VALUES" then
        let rows ← commaList (do
          operator "("
          let es ← commaList (expr fuel 0) (← get).length
          operator ")"
          return es) (← get).length
        return .values rows
      word "SELECT"
      let distinct ← acceptWord "DISTINCT"
      if !distinct then
        let _ ← acceptWord "ALL"
      let results ← commaList (resultItem fuel) (← get).length
      let origin ← if ← acceptWord "FROM" then some <$> source fuel else pure none
      let filter ← if ← acceptWord "WHERE" then some <$> expr fuel 0 else pure none
      return .select distinct results origin filter

def resultItem : Nat → Reading ResultItem
  | 0 => unexpected
  | fuel + 1 => do
      if ← acceptOperator "*" then return .all
      let start ← peek
      if isName start && (← peekSecond).isOperator "." then
        let third := ((← get).drop 2).headD ending
        if third.isOperator "*" then
          let _ ← advance
          let _ ← advance
          let _ ← advance
          return .allOf start.content
      let e ← expr fuel 0
      let text := trimBlanks (← textFrom start)
      return .item e (← givenName?) text

def source : Nat → Reading Source
  | 0 => unexpected
  | fuel + 1 => do
      if ← acceptOperator "(" then
        let q ← query fuel
        operator ")"
        return .query q (← givenName?)
      let n ← name
      return .table n (← givenName?)

end

/-- How deeply parts of what the tokens say may be nested. -/
def depth : Reading Nat := do
  return 16 * (← get).length + 32

def expression : Reading Expr := do
  expr (← depth) 0

def select : Reading Select := do
  query (← depth)

/-- Reads what a statement hands back of the rows that it changes. -/
def returning : Reading (List ResultItem) := do
  if ← acceptWord "RETURNING" then
    commaList (resultItem (← depth)) (← get).length
  else return []

end SqlDriver.Engine.Grammar
