/-
# SqlDriver.Script.Complete -- does a text end with a complete statement

A text is read one character at a time.  `Mode` says whether the reader stands
inside a word, a literal or a comment; `State` says how far the statement has come,
with the states that a trigger needs, whose body holds semicolons of its own.
`Scan.run_append` makes the reader incremental: a text is complete if the scan of it
accepts.
-/
import SqlDriver.Text.Blank

namespace SqlDriver.Script

set_option autoImplicit false

/-- How far a statement has come. -/
inductive State where
  /-- No statement has begun yet. -/
  | invalid
  /-- A statement has just ended. -/
  | start
  /-- Inside a statement that the next semicolon ends. -/
  | normal
  /-- After `EXPLAIN` at the start. -/
  | explain
  /-- After `CREATE`. -/
  | create
  /-- Inside the body of a trigger. -/
  | trigger
  /-- After a semicolon in the body of a trigger. -/
  | semicolon
  /-- After `END` behind such a semicolon. -/
  | closing
deriving DecidableEq, Repr

/-- What the states tell apart. -/
inductive Token where
  | semicolon
  | blank
  | other
  | explain
  | create
  | temporary
  | trigger
  | closing
deriving DecidableEq, Repr

def State.next : State → Token → State
  | .invalid, .semicolon => .start
  | .invalid, .blank => .invalid
  | .invalid, .explain => .explain
  | .invalid, .create => .create
  | .invalid, _ => .normal
  | .start, .semicolon => .start
  | .start, .blank => .start
  | .start, .explain => .explain
  | .start, .create => .create
  | .start, _ => .normal
  | .normal, .semicolon => .start
  | .normal, _ => .normal
  | .explain, .semicolon => .start
  | .explain, .blank => .explain
  | .explain, .other => .explain
  | .explain, .create => .create
  | .explain, _ => .normal
  | .create, .semicolon => .start
  | .create, .blank => .create
  | .create, .temporary => .create
  | .create, .trigger => .trigger
  | .create, _ => .normal
  | .trigger, .semicolon => .semicolon
  | .trigger, _ => .trigger
  | .semicolon, .semicolon => .semicolon
  | .semicolon, .blank => .semicolon
  | .semicolon, .closing => .closing
  | .semicolon, _ => .trigger
  | .closing, .semicolon => .start
  | .closing, .blank => .closing
  | .closing, _ => .trigger

def isWordChar (c : Char) : Bool :=
  c.isAlphanum || c = '_' || c = '$' || 0x80 ≤ c.toNat

/-- A character between tokens. -/
def isSpace (c : Char) : Bool :=
  c = ' ' || c = '\t' || c = '\n' || c = '\r' || c = '\x0c'

def Token.ofWord (word : List Char) : Token :=
  match String.ofList (word.map Char.toLower) with
  | "create" => .create
  | "temp" => .temporary
  | "temporary" => .temporary
  | "trigger" => .trigger
  | "end" => .closing
  | "explain" => .explain
  | _ => .other

/-- Where the reader stands between two characters. -/
inductive Mode where
  /-- Between tokens. -/
  | plain
  /-- Inside a word, with its characters in reverse. -/
  | word (seen : List Char)
  /-- After a `/` that may begin a comment. -/
  | slash
  /-- After a `-` that may begin a comment. -/
  | dash
  /-- Inside a comment that the line's end closes. -/
  | lineComment
  /-- Inside a comment that `*/` closes; the flag says that a `*` has just come. -/
  | blockComment (star : Bool)
  /-- Inside a literal or a quoted name, with the character that closes it. -/
  | quoted (close : Char)
deriving DecidableEq, Repr

/-- The reader's place and the state of the statement. -/
structure Scan where
  mode : Mode
  state : State
deriving DecidableEq, Repr

namespace Scan

/-- Before the first character. -/
def initial : Scan := ⟨.plain, .invalid⟩

/-- Reads a character between tokens. -/
def plainStep (state : State) (c : Char) : Scan :=
  if c = ';' then ⟨.plain, state.next .semicolon⟩
  else if isSpace c then ⟨.plain, state.next .blank⟩
  else if c = '/' then ⟨.slash, state⟩
  else if c = '-' then ⟨.dash, state⟩
  else if c = '[' then ⟨.quoted ']', state⟩
  else if c = '"' || c = '\'' || c.toNat = 0x60 then ⟨.quoted c, state⟩
  else if isWordChar c then ⟨.word [c], state⟩
  else ⟨.plain, state.next .other⟩

def step (s : Scan) (c : Char) : Scan :=
  match s.mode with
  | .plain => plainStep s.state c
  | .word seen =>
      if isWordChar c then ⟨.word (c :: seen), s.state⟩
      else plainStep (s.state.next (Token.ofWord seen.reverse)) c
  | .slash => if c = '*' then ⟨.blockComment false, s.state⟩ else plainStep (s.state.next .other) c
  | .dash => if c = '-' then ⟨.lineComment, s.state⟩ else plainStep (s.state.next .other) c
  | .lineComment => if c = '\n' then ⟨.plain, s.state.next .blank⟩ else s
  | .blockComment star =>
      if star && c = '/' then ⟨.plain, s.state.next .blank⟩ else ⟨.blockComment (c = '*'), s.state⟩
  | .quoted close => if c = close then ⟨.plain, s.state.next .other⟩ else s

def run (s : Scan) (text : List Char) : Scan :=
  text.foldl step s

/-- The text read so far ends with a complete statement. -/
def accepts (s : Scan) : Bool :=
  match s.mode with
  | .plain => s.state = .start
  | .word seen => s.state.next (Token.ofWord seen.reverse) = .start
  | .slash => s.state.next .other = .start
  | .dash => s.state.next .other = .start
  | .lineComment => s.state = .start
  | .blockComment _ => false
  | .quoted _ => false

theorem run_append (s : Scan) (a b : List Char) : s.run (a ++ b) = (s.run a).run b := by
  simp [run]

end Scan

/-- The text ends with a complete statement.  It is read up to its first NUL. -/
def isComplete (text : List Char) : Bool :=
  (Scan.initial.run (Text.untilNul text)).accepts

end SqlDriver.Script
