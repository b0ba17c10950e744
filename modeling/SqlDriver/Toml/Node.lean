/-
# SqlDriver.Toml.Node -- a document as a tree, and how keys extend it

A table that a longer key or header passed through is implicit and may still be
defined once; a table that dotted keys made is dotted and may only be extended by
dotted keys.  `Node.insert` adds a value under a dotted key and `Node.descend` walks
a path, making the tables that are missing.
-/
import SqlDriver.Toml.Issue

namespace SqlDriver.Toml

set_option autoImplicit false

/-- A value or table of a document. -/
inductive Node where
  | string (s : String)
  | integer (n : Int64)
  | float (x : Float)
  | boolean (b : Bool)
  /-- A date, a time or both. -/
  | dateTime
  | array (items : List Node)
  /-- A table written inside braces, or made by dotted keys there. -/
  | inline (implicit dotted : Bool) (entries : List (String × Node))
  /-- A table of the document. -/
  | table (implicit dotted : Bool) (entries : List (String × Node))
  /-- The tables of one repeated header. -/
  | tables (items : List Node)
deriving Repr, Inhabited

namespace Node

def kindName : Node → String
  | string _ => "string"
  | integer _ => "integer"
  | float _ => "float"
  | boolean _ => "boolean"
  | dateTime => "datetime"
  | array _ => "array"
  | inline .. => "inline table"
  | table .. => "table"
  | tables _ => "array of tables"

def entries : Node → List (String × Node)
  | inline _ _ es => es
  | table _ _ es => es
  | _ => []

def withEntries (es : List (String × Node)) : Node → Node
  | inline i d _ => inline i d es
  | table i d _ => table i d es
  | n => n

def isDotted : Node → Bool
  | inline _ d _ => d
  | table _ d _ => d
  | _ => false

def emptyLike (implicit dotted : Bool) : Node → Node
  | inline .. => inline implicit dotted []
  | _ => table implicit dotted []

def root : Node :=
  table false false []

end Node

/-- The entries with the value of a key replaced, or added at the end. -/
def setEntry (key : String) (node : Node) : List (String × Node) → List (String × Node)
  | [] => [(key, node)]
  | (k, n) :: r => if k = key then (k, node) :: r else (k, n) :: setEntry key node r

def removeEntry (key : String) (entries : List (String × Node)) : List (String × Node) :=
  entries.filter fun (k, _) => k ≠ key

def isBareKeyChar (c : Char) : Bool :=
  c.isAlphanum || c = '-' || c = '_'

/-- A character that a text in quotes cannot hold as it is. -/
def isControl (c : Char) : Bool :=
  c.toNat < 0x20 || c.toNat = 0x7F

def fourHexDigits (n : Nat) : List Char :=
  let digits := (Nat.toDigits 16 n).map Char.toUpper
  List.replicate (4 - digits.length) '0' ++ digits

/-- One character between double quotes. -/
def escapeChar (c : Char) : List Char :=
  match c with
  | '"' => ['\\', '"']
  | '\\' => ['\\', '\\']
  | '\x08' => ['\\', 'b']
  | '\t' => ['\\', 't']
  | '\n' => ['\\', 'n']
  | '\x0c' => ['\\', 'f']
  | '\r' => ['\\', 'r']
  | c => if isControl c then '\\' :: 'u' :: fourHexDigits c.toNat else [c]

/-- A key as it is shown in messages: without quotes where it needs none. -/
def showKey (key : String) : String :=
  let cs := key.toList
  if !cs.isEmpty && cs.all isBareKeyChar then key
  else if cs.all fun c => c ≠ '"' && c ≠ '\\' && !isControl c then "\"" ++ key ++ "\""
  else if cs.all fun c => c ≠ '\'' && !isControl c then "'" ++ key ++ "'"
  else String.ofList ('"' :: (cs.flatMap escapeChar ++ ['"']))

def showPath (path : List String) : String :=
  ".".intercalate (path.map showKey)

/-- A key came twice; the table is named if it is known. -/
def duplicateKey (key : String) (path : Option (List String)) : Issue :=
  let place :=
    match path with
    | none => ""
    | some [] => " in document root"
    | some path => " in table `" ++ showPath path ++ "`"
  Issue.because ("duplicate key `" ++ key ++ "`" ++ place)

/-- A path leads through something that is no table. -/
def extendsValue (path : List String) (node : Node) : Issue :=
  Issue.because
    ("dotted key `" ++ showPath path ++ "` attempted to extend non-table type (" ++
      node.kindName ++ ")")

namespace Node

def changeLast (change : Node → Except Issue Node) : List Node → Except Issue (List Node)
  | [] => .ok []
  | [n] => (change n).map ([·])
  | n :: r => (changeLast change r).map (n :: ·)

/-- Walks a path from a table and changes the table at its end.  `walked` is the
path behind; `dotted` says that dotted keys lead the way. -/
def descend (dotted : Bool) (change : Node → Except Issue Node) :
    List String → List String → Node → Except Issue Node
  | _, [], node => change node
  | walked, key :: path, node =>
      let walked := walked ++ [key]
      let next (child : Node) : Except Issue Node := descend dotted change walked path child
      let put (child : Node) : Node := node.withEntries (setEntry key child node.entries)
      match node, node.entries.lookup key with
      | _, none => (next (node.emptyLike true dotted)).map put
      | _, some (tables items) => (changeLast next items).map fun items => put (tables items)
      | table .., some (table i d es) =>
          if dotted && !i then .error (duplicateKey key none) else (next (table i d es)).map put
      | inline .., some (inline i d es) =>
          if dotted && !i then .error (duplicateKey key none) else (next (inline i d es)).map put
      | _, some other => .error (extendsValue walked other)

/-- Adds a value to a table under a dotted key.  `within` is the path of the table,
for messages. -/
def insert (node : Node) (within : Option (List String)) (path : List String) (key : String)
    (value : Node) : Except Issue Node :=
  let add (t : Node) : Except Issue Node :=
    if t.isDotted = path.isEmpty then .error (duplicateKey key none)
    else if (t.entries.lookup key).isSome then .error (duplicateKey key within)
    else .ok (t.withEntries (t.entries ++ [(key, value)]))
  node.descend (!path.isEmpty) add [] path

end Node

end SqlDriver.Toml
