/-
# SqlDriver.Driver.Show -- objects in words

An object is shown by the name of its kind and what there is to know of it.
-/
import SqlDriver.Driver.Basic
import SqlDriver.Text.Quoted

namespace SqlDriver

set_option autoImplicit false

/-- A truth value in words. -/
def boolText (b : Bool) : String :=
  if b then "true" else "false"

def showParts (kind : String) (parts : List (String × String)) : String :=
  kind ++ " \x7b " ++ String.intercalate ", " (parts.map fun (k, v) => k ++ ": " ++ v) ++ " \x7d"

namespace Environment

def shown (e : Environment) : String :=
  showParts "Sqlite3Environment" [("closed", boolText e.closed)]

end Environment

namespace Connection

def shown (c : Connection) : String :=
  showParts "Sqlite3Connection"
    [("closed", boolText c.session.isNone), ("auto_commit", boolText c.autocommit),
      ("cursors", toString c.openCursors)]

end Connection

namespace Cursor

def shown (k : Cursor) : String :=
  showParts "Sqlite3Cursor"
    [("closed", boolText k.run.isNone), ("columns", Text.quoteList k.names)]

end Cursor

end SqlDriver
