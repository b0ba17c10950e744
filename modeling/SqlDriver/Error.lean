/-
# SqlDriver.Error -- what can go wrong, and in which channel it is reported

Errors come in two channels.  A recoverable one comes from the database engine: a
statement could not be prepared or run, a database not opened, a transaction not
ended.  A fatal one is misuse: a closed object, an open cursor in the way, an
unknown handle, a configuration that cannot be read.  `isFatal_iff` says which is
which.
-/

namespace SqlDriver

set_option autoImplicit false

/-- A refusal of the database engine, with its result code. -/
structure Fault where
  message : String
  code : Int
deriving DecidableEq, Repr

/-- An error of the driver. -/
inductive Error where
  /-- A statement was not prepared or failed while it ran. -/
  | statement (fault : Fault)
  /-- A database was not opened, or a transaction not ended. -/
  | engine (fault : Fault)
  | environmentClosed
  | connectionClosed
  | cursorClosed
  /-- A connection cannot close while cursors of it are open. -/
  | openCursors
  /-- A transaction could not be begun. -/
  | beginTransaction (message : String)
  /-- The engine marked a column with an unknown code. -/
  | columnType (code : Int)
  /-- A handle that stands for no live object of the expected kind. -/
  | invalidHandle (expected : String) (handle : Int64)
  | unknownDriver (name : String)
  /-- A configuration that cannot be read. -/
  | config (path reason : String)
deriving DecidableEq, Repr

namespace Error

def message : Error → String
  | statement fault => fault.message
  | engine fault => fault.message
  | environmentClosed => "environment is closed"
  | connectionClosed => "connection is closed"
  | cursorClosed => "cursor is closed"
  | openCursors => "there are open cursors"
  | beginTransaction message => message
  | columnType code => "Unrecognized column type " ++ toString code
  | invalidHandle expected _ => expected ++ " expected"
  | unknownDriver name => "unknown driver '" ++ name ++ "'"
  | config path reason => "Failed to read config at " ++ path ++ ": " ++ reason

/-- The error is misuse and is not handed back as an ordinary failure. -/
def isFatal : Error → Bool
  | statement _ => false
  | engine _ => false
  | _ => true

/-- The engine's result code, and -1 where the engine had no part. -/
def code : Error → Int
  | statement fault => fault.code
  | engine fault => fault.code
  | _ => -1

theorem isFatal_iff {e : Error} : e.isFatal ↔ ∀ f, e ≠ statement f ∧ e ≠ engine f := by
  cases e <;> simp [isFatal]

theorem code_of_isFatal {e : Error} (h : e.isFatal) : e.code = -1 := by
  cases e <;> simp_all [isFatal, code]

end Error

/-- Results of the driver's operations. -/
abbrev Result (α : Type) := Except Error α

end SqlDriver
