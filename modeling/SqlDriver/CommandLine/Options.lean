/-
# SqlDriver.CommandLine.Options -- the words of a command

Words are read from left to right, and the first one that is wrong decides.  An option
may be given once.  Behind two hyphens every word is an argument.
-/

namespace SqlDriver.CommandLine

set_option autoImplicit false

/-- What a command asks for. -/
structure Options where
  database : String
  statements : List String := []
  file : Option String := none
  config : Option String := none
  /-- In milliseconds. -/
  timeout : Option Nat := none
  headers : Bool := false
  nullText : String := ""
  transaction : Bool := false
  verbose : Bool := false
deriving DecidableEq, Repr

/-- How the words of a command are understood. -/
inductive Request where
  | run (options : Options)
  | help
  | version
  /-- The words are wrong. -/
  | usage
deriving DecidableEq, Repr

/-- Options that stand alone. -/
inductive Switch where
  | headers
  | transaction
  | verbose
  | help
  | version
deriving DecidableEq, Repr

/-- Options with a value. -/
inductive Setting where
  | file
  | config
  | timeout
  | null
deriving DecidableEq, Repr

/-- What a word stands for. -/
inductive OptionWord where
  | switch (s : Switch)
  | setting (s : Setting)
deriving DecidableEq, Repr

def longOption? : String → Option OptionWord
  | "file" => some (.setting .file)
  | "config" => some (.setting .config)
  | "timeout" => some (.setting .timeout)
  | "null" => some (.setting .null)
  | "headers" => some (.switch .headers)
  | "transaction" => some (.switch .transaction)
  | "verbose" => some (.switch .verbose)
  | "help" => some (.switch .help)
  | "version" => some (.switch .version)
  | _ => none

def shortOption? : Char → Option OptionWord
  | 'f' => some (.setting .file)
  | 'c' => some (.setting .config)
  | 't' => some (.setting .timeout)
  | 'v' => some (.switch .verbose)
  | 'h' => some (.switch .help)
  | 'V' => some (.switch .version)
  | _ => none

/-- What has been read of a command. -/
structure Reading where
  arguments : List String := []
  switches : List Switch := []
  settings : List (Setting × String) := []

namespace Reading

def value? (r : Reading) (s : Setting) : Option String :=
  r.settings.lookup s

/-- An option stood in a command; `error` ends the reading. -/
def switch (r : Reading) : Switch → Except Request Reading
  | .help => .error .help
  | .version => .error .version
  | s => if r.switches.contains s then .error .usage else .ok { r with switches := s :: r.switches }

/-- The number that digits stand for, in 64 bits without a sign. -/
def number? (s : String) : Option Nat :=
  let ds := match s.toList with
    | '+' :: r => r
    | ds => ds
  if ds.isEmpty || !ds.all Char.isDigit then none
  else
    let n := ds.foldl (fun n c => 10 * n + (c.toNat - 48)) 0
    if n < Nat.pow 2 64 then some n else none

def accepts (s : Setting) (value : String) : Bool :=
  match s with
  | .file => !value.isEmpty
  | .config => !value.isEmpty
  | .timeout => (number? value).isSome
  | .null => true

def setting (r : Reading) (s : Setting) (value : String) : Except Request Reading :=
  if (r.value? s).isSome || !accepts s value then .error .usage
  else .ok { r with settings := r.settings ++ [(s, value)] }

def finish (r : Reading) : Request :=
  match r.arguments with
  | [] => .usage
  | database :: statements =>
      .run
        { database, statements, file := r.value? .file, config := r.value? .config,
          timeout := (r.value? .timeout).bind number?, headers := r.switches.contains .headers,
          nullText := (r.value? .null).getD "",
          transaction := r.switches.contains .transaction,
          verbose := r.switches.contains .verbose }

/-- Reads the letters behind a hyphen: what was read, and the setting that still needs a
value. -/
def letters (r : Reading) : List Char → Except Request (Reading × Option Setting)
  | [] => .ok (r, none)
  | c :: rest =>
      match shortOption? c with
      | none => .error .usage
      | some (.switch s) => do letters (← r.switch s) rest
      | some (.setting s) => do
          match rest with
          | [] => return (r, some s)
          | '=' :: value => return (← r.setting s (String.ofList value), none)
          | value => return (← r.setting s (String.ofList value), none)

def long (r : Reading) (word : List Char) : Except Request (Reading × Option Setting) := do
  let name := String.ofList (word.takeWhile (· ≠ '='))
  let value := word.dropWhile (· ≠ '=')
  match longOption? name with
  | none => throw .usage
  | some (.switch s) => if value.isEmpty then return (← r.switch s, none) else throw .usage
  | some (.setting s) =>
      if value.isEmpty then return (r, some s)
      else return (← r.setting s (String.ofList (value.drop 1)), none)

/-- Reads words one after the other; a setting may still need a value. -/
def words : Reading → Option Setting → List String → Request
  | r, none, [] => r.finish
  | _, some _, [] => .usage
  | r, some s, word :: rest =>
      if word.startsWith "-" && word ≠ "-" then .usage
      else
        match r.setting s word with
        | .ok r => words r none rest
        | .error request => request
  | r, none, word :: rest =>
      match word.toList with
      | ['-', '-'] => { r with arguments := r.arguments ++ rest }.finish
      | '-' :: '-' :: name =>
          match r.long name with
          | .ok (r, pending) => words r pending rest
          | .error request => request
      | '-' :: c :: cs =>
          match r.letters (c :: cs) with
          | .ok (r, pending) => words r pending rest
          | .error request => request
      | _ => words { r with arguments := r.arguments ++ [word] } none rest

end Reading

def Request.ofWords (words : List String) : Request :=
  Reading.words {} none words

def programName : String := "naml-sql"

/-- The text that says how the program is used. -/
def helpText : String :=
  String.intercalate "\n"
    ["Run SQL through the naml SQL driver",
      "",
      "Usage: naml-sql [OPTIONS] <DATABASE> [STATEMENTS]...",
      "",
      "Arguments:",
      "  <DATABASE>       Database file, `file:` URI, or `:memory:`",
      "  [STATEMENTS]...  Statements to execute in order",
      "",
      "Options:",
      "  -f, --file <FILE>        Read statements from a script file",
      "  -c, --config <CONFIG>    Driver configuration (TOML)",
      "  -t, --timeout <TIMEOUT>  Busy timeout in milliseconds, overriding the config",
      "      --headers            Print column names before query results",
      "      --null <NULL>        Text printed for NULL values [default: \"\"]",
      "      --transaction        Run everything in one transaction, committed at the end",
      "  -v, --verbose            Log driver activity to stderr",
      "  -h, --help               Print help",
      "  -V, --version            Print version",
      ""]

/-- The text that says that the words of a command are wrong. -/
def usageText : String :=
  programName ++ ": unusable arguments; try --help\n"

def versionText : String :=
  programName ++ " 0.1.0\n"

end SqlDriver.CommandLine
