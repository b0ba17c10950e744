/-
# SqlDriver.ReadFailure -- why a file cannot be read

Most reasons come from the system and carry its number.
-/

namespace SqlDriver

set_option autoImplicit false

/-- Why a file cannot be read. -/
inductive ReadFailure where
  | notFound
  | notDirectory
  | isDirectory
  /-- The file may not be read. -/
  | refused
  /-- The path holds a zero character. -/
  | invalidPath
  /-- The file is no text. -/
  | notText
deriving DecidableEq, Repr

namespace ReadFailure

def message : ReadFailure → String
  | notFound => "No such file or directory (os error 2)"
  | notDirectory => "Not a directory (os error 20)"
  | isDirectory => "Is a directory (os error 21)"
  | refused => "Permission denied (os error 13)"
  | invalidPath => "file name contained an unexpected NUL byte"
  | notText => "stream did not contain valid UTF-8"

end ReadFailure

end SqlDriver
