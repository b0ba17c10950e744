/-
# SqlDriver.Config.Decode -- settings from a document

Each key of the settings may be missing and then has its default; a key that is
present must have its type.  Other keys and tables are ignored.  The first wrong
key in the order of the document is reported.
-/
import SqlDriver.Config
import SqlDriver.Decimal.Shortest
import SqlDriver.Error
import SqlDriver.ReadFailure
import SqlDriver.Text.Quoted
import SqlDriver.Toml.Document

namespace SqlDriver.Config

set_option autoImplicit false

/-- A float as it is shown in messages, always with a point if it is finite. -/
def showFloat (x : Float) : String :=
  let s := Decimal.ofFloat x
  if x.isFinite && !s.toList.contains '.' then s ++ ".0" else s

/-- A value as it is shown in messages. -/
def showFound : Toml.Node → String
  | .string s => "string " ++ Text.quote s
  | .integer n => "integer `" ++ toString n.toInt ++ "`"
  | .float x => "floating point `" ++ showFloat x ++ "`"
  | .boolean b => "boolean `" ++ toString b ++ "`"
  | .array _ => "sequence"
  | .tables _ => "sequence"
  | _ => "map"

/-- A value has another type than its key wants. -/
def wrongType (node : Toml.Node) (wanted : String) : String :=
  "invalid type: " ++ showFound node ++ ", expected " ++ wanted

def naturalOf (node : Toml.Node) : Except String Nat :=
  match node with
  | .integer n =>
      if 0 ≤ n.toInt then .ok n.toInt.toNat
      else .error ("invalid value: " ++ showFound node ++ ", expected u64")
  | node => .error (wrongType node "u64")

def booleanOf : Toml.Node → Except String Bool
  | .boolean b => .ok b
  | node => .error (wrongType node "a boolean")

def stringOf : Toml.Node → Except String String
  | .string s => .ok s
  | node => .error (wrongType node "a string")

/-- Takes over one entry of the document. -/
def take (c : Config) (entry : String × Toml.Node) : Except String Config := do
  match entry.1 with
  | "busy_timeout_ms" => .ok { c with busyTimeout := some (← naturalOf entry.2) }
  | "read_only" => .ok { c with readOnly := ← booleanOf entry.2 }
  | "create" => .ok { c with create := ← booleanOf entry.2 }
  | "uri" => .ok { c with uri := ← booleanOf entry.2 }
  | "error_prefix" => .ok { c with errorPrefix := ← stringOf entry.2 }
  | _ => .ok c

/-- The settings in the root table of a document. -/
def ofNode (root : Toml.Node) : Except String Config :=
  root.entries.foldlM take {}

def ofText (text : String) : Except String Config :=
  match Toml.document text.toList with
  | .error issue => .error issue.message
  | .ok root => ofNode root

/-- The settings in a text, with the place that an error names. -/
def parse (text origin : String) : Result Config :=
  (ofText text).mapError (Error.config origin)

/-- The settings in a text that comes from no file. -/
def ofInline (text : String) : Result Config :=
  parse text "<inline>"

/-- The settings in the text of a file, or why it cannot be read. -/
def ofFile (path : String) (text : Except ReadFailure String) : Result Config :=
  match text with
  | .error why => .error (.config path why.message)
  | .ok text => parse text path

end SqlDriver.Config
