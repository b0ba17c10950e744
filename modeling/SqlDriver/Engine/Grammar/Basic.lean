/-
# SqlDriver.Engine.Grammar.Basic -- reading tokens one by one

A reader takes tokens from the front of a list.  It is refused at the first token
that cannot continue what has been read, whatever follows (`unexpected`).
-/
import SqlDriver.Engine.Operation
import SqlDriver.Engine.Token

namespace SqlDriver.Engine.Grammar

set_option autoImplicit false

abbrev Reading := StateT (List Token) Outcome

def refusal (t : Token) : Fault :=
  match t.kind with
  | .finish => ⟨"incomplete input", 1⟩
  | .illegal => ⟨"unrecognized token: \"" ++ String.ofList t.text ++ "\"", 1⟩
  | _ => ⟨"near \"" ++ String.ofList t.text ++ "\": syntax error", 1⟩

def ending : Token := ⟨.finish, [], []⟩

def peek : Reading Token := do
  return (← get).headD ending

def peekSecond : Reading Token := do
  return ((← get).drop 1).headD ending

def advance : Reading Token := do
  let t ← peek
  modify fun ts => ts.drop 1
  return t

def unexpected {α : Type} : Reading α := do
  throw (refusal (← peek))

/-- Refuses what was read, for a reason of its own. -/
def refuse {α : Type} (message : String) : Reading α :=
  throw ⟨message, 1⟩

def atWord (w : String) : Reading Bool := do
  return (← peek).keyword = w

/-- The next token is one of these keywords. -/
def atWords (ws : List String) : Reading Bool := do
  let t ← peek
  return t.kind = .word && ws.contains t.keyword

def atOperator (op : String) : Reading Bool := do
  return (← peek).isOperator op

/-- Takes a keyword, if it is next. -/
def acceptWord (w : String) : Reading Bool := do
  if ← atWord w then
    let _ ← advance
    return true
  return false

/-- Takes an operator, if it is next. -/
def acceptOperator (op : String) : Reading Bool := do
  if ← atOperator op then
    let _ ← advance
    return true
  return false

def word (w : String) : Reading Unit := do
  if !(← acceptWord w) then unexpected

def operator (op : String) : Reading Unit := do
  if !(← acceptOperator op) then unexpected

/-- Takes keywords that have to come one after the other. -/
def words : List String → Reading Unit
  | [] => return ()
  | w :: r => do
      word w
      words r

/-- Takes a row of keywords, if the first one is next. -/
def acceptWords : List String → Reading Bool
  | [] => return true
  | w :: r => do
      if ← acceptWord w then
        words r
        return true
      return false

/-! ## Names -/

def reserved : List String :=
  ["SELECT", "FROM", "WHERE", "GROUP", "HAVING", "ORDER", "LIMIT", "UNION", "ALL", "INSERT",
    "INTO", "VALUES", "UPDATE", "SET", "DELETE", "CREATE", "TABLE", "DROP", "ALTER", "ADD",
    "INDEX", "UNIQUE", "PRIMARY", "CHECK", "CONSTRAINT", "FOREIGN", "REFERENCES", "DEFAULT",
    "NOT", "NULL", "AND", "OR", "IN", "IS", "ISNULL", "NOTNULL", "BETWEEN", "CASE", "WHEN",
    "THEN", "ELSE", "COLLATE", "COMMIT", "DEFERRABLE", "DISTINCT", "ESCAPE", "EXISTS", "EXCEPT",
    "INTERSECT", "JOIN", "ON", "TO", "TRANSACTION", "USING", "AS", "AUTOINCREMENT", "RETURNING",
    "NOTHING"]

/-- The words that are names except behind a result or a table. -/
def joinWords : List String :=
  ["CROSS", "FULL", "INNER", "LEFT", "NATURAL", "OUTER", "RIGHT"]

/-- The token is a name, but not a text in single quotes. -/
def isIdentifier (t : Token) : Bool :=
  match t.kind with
  | .quotedName => true
  | .bracketed => true
  | .word => !reserved.contains t.keyword
  | _ => false

def isName (t : Token) : Bool :=
  t.kind = .literal || isIdentifier t

/-- The token is a name where no `AS` is in front of it. -/
def isGivenName (t : Token) : Bool :=
  isName t && !joinWords.contains t.keyword

def name : Reading String := do
  if isName (← peek) then return (← advance).content
  unexpected

def writtenName : Reading (String × String) := do
  if isName (← peek) then
    let t ← advance
    return (t.content, String.ofList t.text)
  unexpected

/-- Takes the name of a result or table, if one is given. -/
def givenName? : Reading (Option String) := do
  if ← acceptWord "AS" then return some (← name)
  if isGivenName (← peek) then return some (← advance).content
  return none

def commaList {α : Type} (item : Reading α) : Nat → Reading (List α)
  | 0 => unexpected
  | fuel + 1 => do
      let a ← item
      if ← acceptOperator "," then
        return a :: (← commaList item fuel)
      return [a]

/-! ## Texts of the statement -/

def textFrom (t : Token) : Reading (List Char) := do
  let stop := (← peek).rest.length
  return t.rest.take (t.rest.length - stop)

def trimBlanks (s : List Char) : String :=
  String.ofList
    ((s.dropWhile Token.continuesBlank).reverse.dropWhile Token.continuesBlank).reverse

/-- The integer that hexadecimal digits stand for, in 64 bits. -/
def hexValue (s : List Char) : Int64 :=
  Int64.ofInt (s.foldl (fun n c =>
    16 * n + (if c.isDigit then c.toNat - 48 else c.toUpper.toNat - 55)) 0 : Nat)

def hexOctets : List Char → List UInt8
  | a :: b :: r => UInt8.ofNat (hexValue [a, b]).toNatClampNeg :: hexOctets r
  | _ => []

end SqlDriver.Engine.Grammar
