/-
# SqlDriver.Event -- what the library tells about its work

Every event has a level, a message that is the same for all events of its kind, and
named fields.  Letting go of a connection or cursor is not an event; closing one is.
-/
import SqlDriver.Error

namespace SqlDriver

set_option autoImplicit false

/-- How much an event matters. -/
inductive Level where
  | trace
  | debug
deriving DecidableEq, Repr

namespace Level

def name : Level → String
  | trace => "TRACE"
  | debug => "DEBUG"

end Level

/-- Something that happened. -/
inductive Event where
  | environmentOpened (driver : String) (handle : Nat)
  | environmentClosed
  /-- The timeout is the one that was asked for, in milliseconds. -/
  | connectionOpened (source : String) (timeout : Option Nat)
  | connectionClosed
  /-- A transaction could not be undone because none was open. -/
  | rollbackIgnored (fault : Fault)
  | statementExecuted (changes : Nat)
  | cursorOpened (columns : Nat)
  | rowFetched (columns : Nat)
  | cursorExhausted
  | cursorFailed (fault : Fault)
  | cursorClosed
  | raised (error : Error)
  | returned (error : Error)
  | queryFinished (rows : Nat)
deriving DecidableEq, Repr

/-- A span of whole milliseconds, in the largest unit that it fills. -/
def spanText (ms : Nat) : String :=
  if ms = 0 then "0ns"
  else if ms < 1000 then toString ms ++ "ms"
  else
    let digits := (Nat.toDigits 10 (1000 + ms % 1000)).drop 1
    let part := (digits.reverse.dropWhile (· = '0')).reverse
    toString (ms / 1000) ++ (if part.isEmpty then "" else "." ++ String.ofList part) ++ "s"

def spanText? : Option Nat → String
  | none => "None"
  | some ms => "Some(" ++ spanText ms ++ ")"

namespace Event

/-- How much an event matters. -/
def level : Event → Level
  | rowFetched _ => .trace
  | _ => .debug

def message : Event → String
  | environmentOpened .. => "environment opened"
  | environmentClosed => "sqlite3 environment closed"
  | connectionOpened .. => "sqlite3 connection opened"
  | connectionClosed => "sqlite3 connection closed"
  | rollbackIgnored _ => "rollback on enabling autocommit ignored"
  | statementExecuted _ => "sqlite3 statement executed"
  | cursorOpened _ => "sqlite3 cursor opened"
  | rowFetched _ => "sqlite3 row fetched"
  | cursorExhausted => "sqlite3 cursor exhausted"
  | cursorFailed _ => "sqlite3 cursor step failed"
  | cursorClosed => "sqlite3 cursor closed"
  | raised _ => "raising DBError"
  | returned _ => "returning recoverable error"
  | queryFinished _ => "query finished"

def fields : Event → List (String × String)
  | environmentOpened driver handle => [("driver", driver), ("handle", toString handle)]
  | connectionOpened source timeout => [("source", source), ("timeout", spanText? timeout)]
  | rollbackIgnored fault => [("error", fault.message)]
  | statementExecuted changes => [("changes", toString changes)]
  | cursorOpened columns => [("columns", toString columns)]
  | rowFetched columns => [("columns", toString columns)]
  | cursorFailed fault => [("rc", toString fault.code), ("error", fault.message)]
  | raised error => [("error", error.message)]
  | returned error => [("error", error.message)]
  | queryFinished rows => [("rows", toString rows)]
  | _ => []

end Event

end SqlDriver
