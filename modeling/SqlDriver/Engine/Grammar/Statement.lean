/-
# SqlDriver.Engine.Grammar.Statement -- reading statements

A text holds one statement that counts: reading stops behind its first semicolon, and
what follows is not looked at.  Some declarations are refused as soon as their heading
is read (`heading`), before the tokens behind it.
-/
import SqlDriver.Engine.Grammar.Query

namespace SqlDriver.Engine.Grammar

set_option autoImplicit false

/-! ## Changes of rows -/

/-- What to do on a conflict, where a statement says so. -/
def conflict? : Reading (Option Conflict) := do
  if ← acceptWord "OR" then
    if ← acceptWord "ABORT" then return some .abort
    if ← acceptWord "FAIL" then return some .fail
    if ← acceptWord "IGNORE" then return some .ignore
    if ← acceptWord "REPLACE" then return some .replace
    if ← acceptWord "ROLLBACK" then return some .rollback
    unexpected
  return none

/-- Names in parentheses, if any. -/
def names? : Reading (List String) := do
  if ← acceptOperator "(" then
    let ns ← commaList name (← get).length
    operator ")"
    return ns
  return []

/-- The condition of a statement, if it has one. -/
def filter? : Reading (Option Expr) := do
  if ← acceptWord "WHERE" then return some (← expression)
  return none

/-- An insertion, behind its first word and conflict clause. -/
def insertion (conflict : Option Conflict) : Reading Change := do
  word "INTO"
  let table ← name
  let columns ← names?
  if ← acceptWords ["DEFAULT", "VALUES"] then
    return .insert conflict table columns none (← returning)
  if ← atWords ["SELECT", "VALUES", "WITH"] then
    let rows ← select
    return .insert conflict table columns (some rows) (← returning)
  unexpected

def assignment : Reading (String × Expr) := do
  let column ← name
  operator "="
  return (column, ← expression)

/-- A change of rows, if one is next. -/
def change? : Reading (Option Change) := do
  if ← acceptWord "INSERT" then
    let conflict ← conflict?
    return some (← insertion conflict)
  if ← acceptWord "REPLACE" then return some (← insertion (some .replace))
  if ← acceptWord "UPDATE" then
    let conflict ← conflict?
    let table ← name
    word "SET"
    let assignments ← commaList assignment (← get).length
    let filter ← filter?
    return some (.update conflict table assignments filter (← returning))
  if ← acceptWord "DELETE" then
    word "FROM"
    let table ← name
    let filter ← filter?
    return some (.delete table filter (← returning))
  return none

/-! ## Declarations -/

/-- A condition in parentheses, with the text that cites it.  Of a text that begins with
a quotation, that is the quotation. -/
def condition : Reading (Expr × String) := do
  operator "("
  let start ← peek
  let e ← expression
  let text ← textFrom start
  operator ")"
  return (e, String.ofList (Token.leadingContent (trimBlanks text).toList))

def defaultValue : Reading Expr := do
  if ← acceptOperator "(" then
    let e ← expression
    operator ")"
    return e
  let t ← peek
  if t.isOperator "-" || t.isOperator "+" then return (← expr (← depth) signLevel)
  match literal? t with
  | some e =>
      let _ ← advance
      return e
  | none =>
      if ← acceptWord "NULL" then return .literal .null
      if ← acceptWord "TRUE" then return .literal (.ofBool true)
      if ← acceptWord "FALSE" then return .literal (.ofBool false)
      return .literal (.ofString (← name))

def columnRules : Nat → Option String → Reading (List ColumnRule)
  | 0, _ => return []
  | fuel + 1, label => do
      if ← acceptWord "CONSTRAINT" then
        let label ← name
        columnRules fuel (some label)
      else if ← acceptWords ["PRIMARY", "KEY"] then
        let descending ← acceptWord "DESC"
        if !descending then
          let _ ← acceptWord "ASC"
        return .primaryKey descending :: (← columnRules fuel label)
      else if ← acceptWords ["NOT", "NULL"] then return .notNull :: (← columnRules fuel label)
      else if ← acceptWord "NULL" then columnRules fuel label
      else if ← acceptWord "UNIQUE" then return .unique :: (← columnRules fuel label)
      else if ← acceptWord "CHECK" then
        let (e, text) ← condition
        return .check label e text :: (← columnRules fuel label)
      else if ← acceptWord "DEFAULT" then
        let e ← defaultValue
        return .default e :: (← columnRules fuel label)
      else if ← acceptWord "COLLATE" then
        let c ← name
        return .collate c :: (← columnRules fuel label)
      else return []

def columnForm : Reading ColumnForm := do
  let n ← name
  let type ← typeName?
  return ⟨n, type, ← columnRules (← get).length none⟩

def keyColumn : Reading String := do
  let n ← name
  if !(← acceptWord "ASC") then
    let _ ← acceptWord "DESC"
  return n

def keyColumns : Reading (List String) := do
  operator "("
  let ns ← commaList keyColumn (← get).length
  operator ")"
  return ns

/-- The constraints of a table up to its closing parenthesis.  Commas between them may
be left out. -/
def tableRules : Nat → Option String → Reading (List TableRule)
  | 0, _ => unexpected
  | fuel + 1, label => do
      if ← acceptWord "CONSTRAINT" then
        let label ← name
        tableRules fuel (some label)
      else
        let rule ←
          if ← acceptWords ["PRIMARY", "KEY"] then TableRule.primaryKey <$> keyColumns
          else if ← acceptWord "UNIQUE" then TableRule.unique <$> keyColumns
          else if ← acceptWord "CHECK" then
            let (e, text) ← condition
            pure (.check label e text)
          else unexpected
        let comma ← acceptOperator ","
        if !comma then
          if ← acceptOperator ")" then return [rule]
        return rule :: (← tableRules fuel (if comma then none else label))

/-- The columns of a table, and its constraints behind them. -/
def tableParts : Nat → Reading (List ColumnForm × List TableRule)
  | 0 => unexpected
  | fuel + 1 => do
      let c ← columnForm
      if ← acceptOperator ")" then return ([c], [])
      operator ","
      if ← atWords ["CONSTRAINT", "PRIMARY", "UNIQUE", "CHECK"] then
        let rules ← tableRules (← get).length none
        return ([c], rules)
      let (columns, rules) ← tableParts fuel
      return (c :: columns, rules)

/-- Takes `IF NOT EXISTS`, if it is next. -/
def ifMissing : Reading Bool :=
  acceptWords ["IF", "NOT", "EXISTS"]

/-- Takes `IF EXISTS`, if it is next. -/
def ifPresent : Reading Bool :=
  acceptWords ["IF", "EXISTS"]

def triggerBody : Nat → Reading (List Change)
  | 0 => unexpected
  | fuel + 1 => do
      match ← change? with
      | none => unexpected
      | some c =>
          operator ";"
          if ← acceptWord "END" then return [c]
          return c :: (← triggerBody fuel)

/-- The heading of a trigger: its name as it is read and written, its table, and its
condition. -/
def triggerHeading : Reading ((String × String) × String × Option Expr) := do
  let n ← writtenName
  word "AFTER"
  word "INSERT"
  word "ON"
  let table ← name
  let _ ← acceptWords ["FOR", "EACH", "ROW"]
  let condition ← if ← acceptWord "WHEN" then some <$> expression else pure none
  return (n, table, condition)

def trigger : Reading Statement := do
  let missing ← ifMissing
  let ((n, _), table, condition) ← triggerHeading
  word "BEGIN"
  let body ← triggerBody (← get).length
  return .createTrigger missing ⟨n, table, condition, body⟩

def table : Reading Statement := do
  let missing ← ifMissing
  let n ← name
  operator "("
  let (columns, rules) ← tableParts (← get).length
  return .createTable missing n columns rules

/-! ## Other statements -/

/-- The word `TRANSACTION` and a name, which mean nothing. -/
def transactionWords : Reading Unit := do
  if ← acceptWord "TRANSACTION" then
    if isName (← peek) && !(← atWord "TO") then
      let _ ← advance

/-- The beginning or end of a transaction, if one is next. -/
def control? : Reading (Option Control) := do
  if ← acceptWord "BEGIN" then
    let mode ←
      if ← acceptWord "IMMEDIATE" then pure BeginMode.immediate
      else if ← acceptWord "EXCLUSIVE" then pure .exclusive
      else
        let _ ← acceptWord "DEFERRED"
        pure .deferred
    transactionWords
    return some (.begin mode)
  if ← acceptWord "COMMIT" then
    transactionWords
    return some .commit
  if ← acceptWord "END" then
    transactionWords
    return some .commit
  if ← acceptWord "ROLLBACK" then
    transactionWords
    if ← acceptWord "TO" then
      let _ ← acceptWord "SAVEPOINT"
      return some (.rollbackTo (← name))
    return some .rollback
  if ← acceptWord "SAVEPOINT" then return some (.savepoint (← name))
  if ← acceptWord "RELEASE" then
    let _ ← acceptWord "SAVEPOINT"
    return some (.release (← name))
  return none

/-- The value of a setting, as an integer; zero for a word. -/
def settingValue : Reading Int := do
  let negative ← acceptOperator "-"
  if !negative then
    let _ ← acceptOperator "+"
  let t ← peek
  if t.kind = .integer || t.kind = .float then
    let _ ← advance
    let digits := t.text.takeWhile Char.isDigit
    let size : Nat := digits.foldl (fun n c => 10 * n + (c.toNat - 48)) 0
    let n : Int := if negative then -(size : Int) else size
    return if n < -2147483648 || 2147483647 < n then 0 else n
  if !negative && (isName t || ["ON", "DELETE", "DEFAULT"].contains t.keyword) then
    let _ ← advance
    return 0
  unexpected

/-- Settings that answer with rows, whether a value is given or not. -/
def reports : List String :=
  ["analysis_limit", "busy_timeout", "collation_list", "compile_options", "data_version",
    "database_list", "foreign_key_check", "foreign_key_list", "freelist_count", "function_list",
    "hard_heap_limit", "index_info", "index_list", "index_xinfo", "integrity_check",
    "journal_mode", "journal_size_limit", "locking_mode", "max_page_count", "mmap_size",
    "module_list", "optimize", "page_count", "pragma_list", "quick_check", "secure_delete",
    "soft_heap_limit", "table_info", "table_list", "table_xinfo", "threads",
    "wal_autocheckpoint", "wal_checkpoint"]

/-- Settings that answer with their value where none is given. -/
def registers : List String :=
  ["application_id", "auto_vacuum", "automatic_index", "cache_size", "cache_spill",
    "cell_size_check", "checkpoint_fullfsync", "count_changes", "default_cache_size",
    "defer_foreign_keys", "empty_result_callbacks", "encoding", "foreign_keys",
    "full_column_names", "fullfsync", "ignore_check_constraints", "legacy_alter_table",
    "page_size", "query_only", "read_uncommitted", "recursive_triggers",
    "reverse_unordered_selects", "schema_version", "short_column_names", "synchronous",
    "temp_store", "temp_store_directory", "trusted_schema", "writable_schema"]

/-- The version of the user is read and written.  Of the other settings none is kept, and where one
would answer with rows it is refused at its name. -/
def setting : Reading Statement := do
  let t ← peek
  let n := String.ofList ((← name).toList.map Char.toLower)
  let known := n = "user_version"
  if reports.contains n then throw (refusal t)
  if ← acceptOperator "=" then
    let v ← settingValue
    return if known then .writeVersion v else .nothing
  if ← acceptOperator "(" then
    let v ← settingValue
    operator ")"
    return if known then .writeVersion v else .nothing
  if registers.contains n then throw (refusal t)
  return if known then .readVersion else .nothing

def statement : Reading Statement := do
  if ← atWords ["SELECT", "VALUES", "WITH"] then return .select (← select)
  if let some c ← change? then return .change c
  if let some c ← control? then return .control c
  if ← acceptWord "CREATE" then
    if ← acceptWord "TABLE" then return (← table)
    if ← acceptWord "TRIGGER" then return (← trigger)
    unexpected
  if ← acceptWord "DROP" then
    if ← acceptWord "TABLE" then
      let present ← ifPresent
      return .dropTable present (← name)
    if ← acceptWord "TRIGGER" then
      let present ← ifPresent
      return .dropTrigger present (← name)
    unexpected
  if ← acceptWord "ALTER" then
    word "TABLE"
    let table ← name
    word "ADD"
    let _ ← acceptWord "COLUMN"
    return .addColumn table (← columnForm)
  if ← acceptWord "PRAGMA" then return (← setting)
  unexpected

def whole : Reading Statement := do
  let s ← statement
  let t ← peek
  if t.kind = .finish || t.isOperator ";" then return s
  unexpected

/-- A heading that is checked before what follows it is read. -/
inductive Heading where
  /-- A table, by its name as it is read and as it is written. -/
  | table (ifMissing : Bool) (name written : String)
  | trigger (ifMissing : Bool) (name written table : String)
  | other
deriving DecidableEq, Repr

def heading : Reading Heading := do
  word "CREATE"
  if ← acceptWord "TABLE" then
    let missing ← ifMissing
    let (n, written) ← writtenName
    if (← peek).kind = .illegal then unexpected
    return .table missing n written
  word "TRIGGER"
  let missing ← ifMissing
  let ((n, written), table, _) ← triggerHeading
  if (← peek).kind = .illegal then unexpected
  return .trigger missing n written table

/-- The tokens of a text without semicolons at its front; none if nothing follows
them. -/
def tokens (text : List Char) : Option (List Token) :=
  match (Token.scan text).dropWhile fun t => t.isOperator ";" with
  | [] => none
  | t :: r => if t.kind = .finish then none else some (t :: r)

def headingOf (ts : List Token) : Heading :=
  match heading ts with
  | .ok (h, _) => h
  | .error _ => .other

def statementOf (ts : List Token) : Outcome Statement :=
  match whole ts with
  | .ok (s, _) => .ok s
  | .error e => .error e

end SqlDriver.Engine.Grammar
