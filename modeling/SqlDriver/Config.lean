/-
# SqlDriver.Config -- the settings of an environment

An environment applies its settings to every connection that it opens.
-/

namespace SqlDriver

set_option autoImplicit false

/-- Settings of an environment. -/
structure Config where
  /-- How long to wait on a locked database, in milliseconds, if a connection is
  opened without a timeout of its own. -/
  busyTimeout : Option Nat := none
  readOnly : Bool := false
  /-- A database file that does not exist is created, unless it is opened for reading only. -/
  create : Bool := true
  /-- Sources may be `file:` addresses. -/
  uri : Bool := true
  /-- Text in front of every error message that is handed to a program. -/
  errorPrefix : String := "naml.sql: "
deriving DecidableEq, Repr

namespace Config

/-- The bits with which the engine is asked to open a database. -/
def openFlags (c : Config) : Nat :=
  32768 + (if c.readOnly then 1 else if c.create then 6 else 2) + (if c.uri then 64 else 0)

end Config

end SqlDriver
