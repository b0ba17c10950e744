/-
# SqlDriver.Engine.Binding.Query -- queries whose names are looked up

Of several selects that are joined, the last one is bound first, and a select's
results are bound before its condition; so of several unknown names the one that is
met first in this order is refused.
-/
import SqlDriver.Engine.Binding.Function
import SqlDriver.Engine.Binding.Order

namespace SqlDriver.Engine.Binding

set_option autoImplicit false

/-- A select whose names are looked up, before it is sorted. -/
structure Arm where
  /-- In which the keys of a sort are bound. -/
  env : Env
  source : Query
  /-- The table that is the source, if it is one. -/
  table : Option Table
  filter : Option Term
  results : List (Output × Bound)
  /-- The functions of all rows, if it calls any. -/
  functions : Option (List (AggregateFunction × Collation × Option Term))
  distinct : Bool
  /-- The columns of the source that it uses, by their places. -/
  used : List Nat

/-- Where a select takes its rows from. -/
structure Origin where
  query : Query
  scope : Scope
  table : Option Table := none

namespace Arm

def outputs (a : Arm) : List Output :=
  a.results.map Prod.fst

def sortKeys (keys : List (Bound × Bool)) : List SortKey :=
  keys.map fun (b, descending) => ⟨descending, b.collation.getD .binary⟩

def query (a : Arm) (keys : List (Bound × Bool)) : Query :=
  let terms := a.results.map fun (_, b) => b.term
  match a.functions with
  | some functions => .aggregate a.source a.filter functions terms
  | none =>
      let plan := match a.table with
        | some t => ScanPlan.choose t a.used a.filter keys
        | none => {}
      let source := match a.table with
        | some t => Query.scan t.name plan.order plan.descending
        | none => a.source
      let keys := if plan.sorted then [] else keys
      let rows := Query.select source a.filter (terms ++ keys.map fun (b, _) => b.term)
      let rows := if a.distinct then
          .distinct rows (a.results.map fun (_, b) => b.collation.getD .binary)
        else rows
      if keys.isEmpty then rows else .sort rows (sortKeys keys)

end Arm

/-- The rows of several queries one after the other. -/
def appendAll : Query → List Query → Query
  | q, [] => q
  | q, r :: rest => .append q (appendAll r rest)

def distinctRows (collations : List Collation) (q : Query) : Query :=
  let columns := (List.range collations.length).map fun i => Term.column 0 i
  let sorted := Query.sort (.select q none (columns ++ columns))
    (collations.map fun c => ⟨false, c⟩)
  .distinct sorted collations

def junction (collations : List Collation) (q : Query) (rest : List (Junction × Query)) : Query :=
  if rest.all fun (j, _) => j = .all then appendAll q (rest.map Prod.snd)
  else
    rest.foldl (fun q (j, r) =>
      match j with
      | .all => .append q r
      | .distinct => distinctRows collations (.append q r)) q

/-- The text of a place in a row of things. -/
def ordinal (n : Nat) : String :=
  let ending :=
    if n % 100 / 10 = 1 then "th"
    else if n % 10 = 1 then "st"
    else if n % 10 = 2 then "nd"
    else if n % 10 = 3 then "rd"
    else "th"
  toString n ++ ending

/-- Names that differ from each other: a name that came up before gets a number. -/
def differentNames : List String → List Output → List Output
  | _, [] => []
  | seen, o :: r =>
      let candidates := o.name :: (List.range (seen.length + 1)).map fun i =>
        o.name ++ ":" ++ toString (i + 1)
      let n := (candidates.find? fun c => !seen.any (sameName c)).getD o.name
      { o with name := n } :: differentNames (n :: seen) r

def scopeResults (s : Scope) (level : Nat) : List (Output × Bound) :=
  s.columns.map fun (c, place) => (c, Env.columnTerm c level place)

/-- A name that stands for a truth value where it is no column. -/
def truthName? (n : String) : Option Datum :=
  if sameName n "true" then some (.ofBool true)
  else if sameName n "false" then some (.ofBool false)
  else none

/-- An integer that is written in decimal digits. -/
def numeral (negative : Bool) (n : Nat) : Datum :=
  let value : Int := if negative then -(n : Int) else n
  if Int64.minValue.toInt ≤ value && value ≤ Int64.maxValue.toInt then .ofInt value
  else
    let x := (readReal (Text.Utf8.ofString (toString n))).1
    .real (if negative then -x else x)

def bindName (env : Env) (qualifier : Option String) (n : String) (quoted : Bool) :
    Lookup Bound := do
  match env.column? qualifier n with
  | some (b, level) =>
      note env b level
      return b
  | none =>
      let unknown := match qualifier with
        | some q => q ++ "." ++ n
        | none => n
      if qualifier.isNone && quoted then return { term := .constant (.ofString n) }
      match (if qualifier.isNone then truthName? n else none) with
      | some d => return { term := .constant d }
      | none => refuse ("no such column: " ++ unknown)

/-- Binds a query that stands in an expression; the flag says that it does not depend
on the rows around it. -/
def nested (env : Env) (bind : Lookup (Query × List Output)) :
    Lookup (Bool × Query × List Output) := do
  let outside ← get
  set { outside with used := [] }
  let (q, outputs) ← bind
  let inside ← get
  set { inside with used := inside.used ++ outside.used, functions := outside.functions }
  return (inside.used.all fun (depth, _) => env.depth ≤ depth, q, outputs)

def resultName (b : Bound) (given : Option String) (text : String) : String :=
  given.getD (b.column.getD text)

/-- The query that a name stands for, as a source of rows. -/
def namedOrigin (env : Env) (label : String) : Named → Lookup Origin
  | .query q outputs => return ⟨q, .ofOutputs outputs (some label), none⟩
  | .row depth outputs => do
      modify fun n => { n with used := (depth, 0) :: n.used }
      return ⟨.outer (env.depth - 1 - depth), .ofOutputs outputs (some label), none⟩
  | .refused fault => throw fault

/-- A table or query by its name, as a source of rows. -/
def tableOrigin (env : Env) (n : String) (given : Option String) : Lookup Origin := do
  let label := given.getD n
  match env.named.find? fun (m, _) => sameName m n with
  | some (_, named) => namedOrigin env label named
  | none =>
      let t ← table env n
      return ⟨.scan t.name .number false, .ofTable t label, some t⟩

/-- The select takes its rows from a query of this name. -/
def readsFrom (n : String) : Core → Bool
  | .select _ _ (some (.table m _)) _ => sameName m n
  | _ => false

/-- The selects have as many results as the first one. -/
def checkWidths (isValues : Bool) (width : Nat) (others : List Nat) : Lookup Unit := do
  if others.any (· ≠ width) then
    if isValues then refuse "all VALUES must have the same number of terms"
    else
      refuse ("SELECTs to the left and right of UNION ALL do not have the same number of " ++
        "result columns")

/-- The result that a key of a sort refers to, by its name or number. -/
def keyResult? (results : List (Output × Bound)) (names : List (Option String)) (place : Nat) :
    Expr → Lookup (Option Bound)
  | .numeral n => do
      match (if n = 0 then none else results[n - 1]?) with
      | some (_, b) => return some b
      | none =>
          refuse (ordinal place ++ " ORDER BY term out of range - should be between 1 and " ++
            toString results.length)
  | .name none n _ => do
      let found := (names.zip results).find? fun (m, _) => m.any (sameName n)
      return found.map fun (_, _, b) => b
  | _ => return none

def namedResults (results : List (Output × Bound)) (names : List (Option String)) :
    List (String × Bound) :=
  (names.zip results).filterMap fun (n, _, b) => n.map (·, b)

mutual

def bindExpr (env : Env) : Expr → Lookup Bound
  | .literal d => return { term := .constant d }
  | .numeral n => return { term := .constant (numeral false n) }
  | .parameter => return { term := .constant .null }
  | .name qualifier n quoted => bindName env qualifier n quoted
  | .unary .minus (.numeral n) => return { term := .constant (numeral true n) }
  | .unary .minus (.literal (.real x)) => return { term := .constant (.real (-x)) }
  | .unary op e => do
      let b ← bindExpr env e
      match op with
      | .plus => return { term := b.term, collation := b.collation }
      | op => return { term := .unary op b.term }
  | .compare op l r => do
      let l ← bindExpr env l
      let r ← bindExpr env r
      return { term := compareBound op l r }
  | .combine op l r => do
      let l ← bindExpr env l
      let r ← bindExpr env r
      return { term := .combine op l.term r.term }
  | .both l r => do
      let l ← bindExpr env l
      let r ← bindExpr env r
      return { term := .both l.term r.term }
  | .either l r => do
      let l ← bindExpr env l
      let r ← bindExpr env r
      return { term := .either l.term r.term }
  | .isNull negated e => do
      let b ← bindExpr env e
      return { term := .isNull negated b.term }
  | .between negated e low high => do
      let b ← bindExpr env e
      let low ← bindExpr env low
      let high ← bindExpr env high
      let t := Term.both (compareBound .ge b low) (compareBound .le b high)
      return { term := if negated then .unary .negation t else t }
  | .oneOf negated e items => do
      let b ← bindExpr env e
      let items ← bindAll env items
      let t := Term.oneOf b.affinity (b.collation.getD .binary) b.term (items.map Bound.term)
      return { term := if negated then .unary .negation t else t }
  | .like negated e pattern => do
      let b ← bindExpr env e
      let p ← bindExpr env pattern
      let t := Term.like b.term p.term
      return { term := if negated then .unary .negation t else t }
  | .cast e type => do
      let b ← bindExpr env e
      let a := Affinity.ofType type
      return { term := .cast a b.term, affinity := a, collation := b.collation }
  | .collate e n => do
      let b ← bindExpr env e
      match collationOf? n with
      | some c => return { b with collation := some c, explicit := true }
      | none => refuse ("no such collation sequence: " ++ n)
  | .cases base branches otherwise => do
      let base ← bindOption env base
      let otherwise ← bindOption env otherwise
      let t ← bindBranches env base ((otherwise.map Bound.term).getD (.constant .null)) branches
      return { term := t }
  | .call f arguments => do
      match callee f arguments.length with
      | .allRows g =>
          if env.aggregates then
            let inner := { env with scopes := env.scopes.drop 1, aggregates := false }
            let bs ← bindAll inner arguments
            aggregateBound g bs.head?
          else
            let _ ← bindAll env arguments
            refuse ("misuse of aggregate function " ++ f ++ "()")
      | _ =>
          let bs ← bindAll env arguments
          callBound f bs
  | .callAll f => do
      match callee f 0 with
      | .allRows g =>
          if env.aggregates then aggregateBound g none
          else refuse ("misuse of aggregate function " ++ f ++ "()")
      | .unknown => refuse ("no such function: " ++ f)
      | _ => refuse (wrongCount f)
  | .first q => do
      let (fixed, q, outputs) ← nested env (bindSelect env q)
      match outputs with
      | [o] =>
          return {
            term := .first fixed q, affinity := o.affinity, collation := o.collation,
            type := o.type }
      | os =>
          refuse ("sub-select returns " ++ toString os.length ++ " columns - expected 1")
  | .exists q => do
      let (fixed, q, _) ← nested env (bindSelect env q)
      return { term := .exists fixed q }

def bindAll (env : Env) : List Expr → Lookup (List Bound)
  | [] => return []
  | e :: r => do
      let b ← bindExpr env e
      let bs ← bindAll env r
      return b :: bs

/-- Binds an expression, if there is one. -/
def bindOption (env : Env) : Option Expr → Lookup (Option Bound)
  | none => return none
  | some e => do
      let b ← bindExpr env e
      return some b

def bindBranches (env : Env) (base : Option Bound) (otherwise : Term) :
    List (Expr × Expr) → Lookup Term
  | [] => return otherwise
  | (c, e) :: r => do
      let c ← bindExpr env c
      let e ← bindExpr env e
      let rest ← bindBranches env base otherwise r
      let condition := match base with
        | some b => compareBound .eq b c
        | none => c.term
      return .choose condition e.term rest

def bindSelect (env : Env) : Select → Lookup (Query × List Output)
  | .mk _ tables head tail order limit offset => do
      let env ← bindTables env tables
      let plain := { env with scopes := [], aliases := [], aggregates := false }
      let count ← bindOption plain limit
      let offset ← bindOption plain offset
      checkTail env tail
      checkSource env head
      let rest ← bindTail env tail
      let arm ← bindCore env head
      let isValues := match head with
        | .values _ => true
        | _ => false
      checkWidths isValues arm.1.results.length (rest.map fun (_, a) => a.1.results.length)
      let names := arm.2
      let arm := arm.1
      let q ←
        if rest.isEmpty then
          let keys ← bindOrder { arm.env with aliases := namedResults arm.results names }
            arm.results names false 1 order
          pure (arm.query keys)
        else
          let rows := arm.outputs.zipIdx.map fun (o, i) =>
            (o, { Env.columnTerm o 0 i with collation := o.collation })
          let columns := arm.outputs.map fun o => some o.name
          let keys ← bindOrder env rows columns true 1 order
          let collations := arm.outputs.map fun o => o.collation.getD .binary
          let joined := junction collations (arm.query [])
            (rest.map fun (j, a) => (j, a.1.query []))
          pure (if keys.isEmpty then joined
            else .sort (.select joined none
              ((rows.map fun (_, b) => b.term) ++ keys.map fun (b, _) => b.term))
              (Arm.sortKeys keys))
      let q := if count.isNone then q
        else .limit q (count.map Bound.term) (offset.map Bound.term)
      return (q, arm.outputs)

/-- Looks up the sources of the selects behind the first one, the last one first. -/
def checkTail (env : Env) : List (Junction × Core) → Lookup Unit
  | [] => return ()
  | (_, c) :: r => do
      checkTail env r
      checkSource env c

def checkSource (env : Env) : Core → Lookup Unit
  | .select _ _ source _ => do
      let _ ← bindSource env source
      return ()
  | .values _ => return ()

/-- Binds the selects behind the first one, the last one first. -/
def bindTail (env : Env) :
    List (Junction × Core) → Lookup (List (Junction × Arm × List (Option String)))
  | [] => return []
  | (j, c) :: r => do
      let rest ← bindTail env r
      let arm ← bindCore env c
      return (j, arm) :: rest

/-- Binds a single select, and gives the names of its results. -/
def bindCore (env : Env) : Core → Lookup (Arm × List (Option String))
  | .values rows => do
      let inner := env.push {}
      let rows ← bindRows inner rows
      let width := (rows.head?.map List.length).getD 0
      let results := (List.range width).map fun i =>
        let o : Output := { name := "column" ++ toString (i + 1) }
        (o, ({ term := .column 0 i } : Bound))
      let queries := rows.map fun r => Query.select .unit none (r.map Bound.term)
      checkWidths true width (rows.map List.length)
      let source := match queries with
        | [] => .unit
        | q :: qs => appendAll q qs
      return (⟨env.push (.ofOutputs [] none), source, none, none, results, none, false, []⟩,
        results.map fun _ => none)
  | .select distinct items source filter => do
      let origin ← bindSource env source
      let outside ← get
      set { outside with used := [], functions := [] }
      let row := env.push origin.scope
      let aggregated := items.any itemAggregate
      let resultEnv := if aggregated then { row.push {} with aggregates := true } else row
      if source.isNone && items.any (fun i => match i with | .item .. => false | _ => true) then
        refuse "no tables specified"
      let results ← bindItems resultEnv origin.scope (if aggregated then 1 else 0) items
      let named := if aggregated then [] else namedResults results.1 results.2
      let filter ← bindOption { row with aliases := named } filter
      let inside ← get
      set { inside with used := inside.used ++ outside.used, functions := outside.functions }
      let depth := env.depth
      return (⟨resultEnv, origin.query, origin.table, filter.map Bound.term, results.1,
        if aggregated then some inside.functions else none, distinct,
        inside.used.filterMap fun (d, p) => if d = depth then some p else none⟩, results.2)

def bindRows (env : Env) : List (List Expr) → Lookup (List (List Bound))
  | [] => return []
  | es :: r => do
      let bs ← bindAll env es
      let rest ← bindRows env r
      return bs :: rest

def bindItems (env : Env) (scope : Scope) (level : Nat) :
    List ResultItem → Lookup (List (Output × Bound) × List (Option String))
  | [] => return ([], [])
  | item :: r => do
      let (here, names) ← bindItem env scope level item
      let (rest, more) ← bindItems env scope level r
      return (here ++ rest, names ++ more)

def bindItem (env : Env) (scope : Scope) (level : Nat) :
    ResultItem → Lookup (List (Output × Bound) × List (Option String))
  | .all => do
      let results := scopeResults scope level
      results.forM fun (_, b) => note env b (some level)
      return (results, results.map fun _ => none)
  | .allOf t => do
      if scope.isCalled t then
        let results := scopeResults scope level
        results.forM fun (_, b) => note env b (some level)
        return (results, results.map fun _ => none)
      refuse ("no such table: " ++ t)
  | .item e given text => do
      let b ← bindExpr env e
      return ([(⟨resultName b given text, b.type, b.affinity, b.collation⟩, b)], [given])

def bindSource (env : Env) : Option Source → Lookup Origin
  | none => return { query := .unit, scope := {} }
  | some (.table n given) => tableOrigin env n given
  | some (.query q given) => do
      let (q, outputs) ← bindSelect { env with aliases := [], aggregates := false } q
      return ⟨q, .ofOutputs (differentNames [] outputs) given, none⟩

/-- Binds the keys of a sort.  In a query of several selects, a key has to be one of
the results. -/
def bindOrder (env : Env) (results : List (Output × Bound)) (names : List (Option String))
    (only : Bool) : Nat → List (Expr × Bool) → Lookup (List (Bound × Bool))
  | _, [] => return []
  | place, (e, descending) :: r => do
      let key ← match ← keyResult? results names place e with
        | some b => pure b
        | none =>
            if only then
              refuse (ordinal place ++ " ORDER BY term does not match any column in the " ++
                "result set")
            else bindExpr env e
      let rest ← bindOrder env results names only (place + 1) r
      return (key, descending) :: rest

def bindTables (env : Env) : List CommonTable → Lookup Env
  | [] => return env
  | t :: r => do
      let named ← bindTable env t
      bindTables { env with named := named :: env.named } r

/-- Binds a query with a name.  Where a select of it reads from that name, the query is
recursive.  A failure is kept until the name is used. -/
def bindTable (env : Env) : CommonTable → Lookup (String × Named)
  | .mk n columns (.mk _ tables head tail order limit offset) => do
      let circular := Named.refused ⟨"circular reference: " ++ n, 1⟩
      let base : Env :=
        { env with
          scopes := [], aliases := [], aggregates := false, named := (n, circular) :: env.named }
      let outside ← get
      let rename (outputs : List Output) : Lookup (List Output) := do
        if columns.isEmpty then return differentNames [] outputs
        if columns.length ≠ outputs.length then
          refuse ("table " ++ n ++ " has " ++ toString outputs.length ++ " values for " ++
            toString columns.length ++ " columns")
        return (columns.zip outputs).map fun (c, o) => { o with name := c }
      let body : Lookup Named := do
        let base ← bindTables base tables
        let plain := { base with aliases := [] }
        let count ← bindOption plain limit
        let offset ← bindOption plain offset
        let recursive := tail.any fun (_, c) => readsFrom n c
        let arm ← bindCore base head
        let outputs ← rename arm.1.outputs
        let inner := if recursive then
            { base with scopes := [{}], named := (n, .row 0 outputs) :: base.named }
          else base
        let (seeds, steps) ← bindSteps n base inner tail
        checkWidths false outputs.length
          ((seeds ++ steps).map fun (_, a) => a.1.results.length)
        let collations := outputs.map fun o => o.collation.getD .binary
        let rows := outputs.zipIdx.map fun (o, i) => (o, Env.columnTerm o 0 i)
        let keys ←
          if steps.isEmpty && seeds.isEmpty then
            bindOrder { arm.1.env with aliases := namedResults arm.1.results arm.2 }
              arm.1.results arm.2 false 1 order
          else bindOrder base rows (outputs.map fun o => some o.name) true 1 order
        let joined := junction collations (arm.1.query (if seeds.isEmpty then keys else []))
          (seeds.map fun (j, a) => (j, a.1.query []))
        let q := match steps with
          | [] =>
              if seeds.isEmpty || keys.isEmpty then joined
              else .sort (.select joined none
                ((rows.map fun (_, b) => b.term) ++ keys.map fun (b, _) => b.term))
                (Arm.sortKeys keys)
          | (j, a) :: rest =>
              .recurse (j = .distinct) joined
                (appendAll (a.1.query []) (rest.map fun (_, a) => a.1.query []))
        let q := if count.isNone then q
          else .limit q (count.map Bound.term) (offset.map Bound.term)
        return .query q outputs
      let named ← tryCatch body fun fault => return .refused fault
      modify fun notes => { notes with used := outside.used, functions := outside.functions }
      return (n, named)

/-- Binds the selects of a query with a name: those that do not read from it, and those
that do. -/
def bindSteps (n : String) (base inner : Env) : List (Junction × Core) →
    Lookup (List (Junction × Arm × List (Option String)) ×
      List (Junction × Arm × List (Option String)))
  | [] => return ([], [])
  | (j, c) :: r => do
      let (seeds, steps) ← bindSteps n base inner r
      if readsFrom n c then
        let arm ← bindCore inner c
        return (seeds, (j, arm) :: steps)
      let arm ← bindCore base c
      return ((j, arm) :: seeds, steps)

end

end SqlDriver.Engine.Binding
