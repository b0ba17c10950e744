/-
# SqlDriver.Main -- the command

Files, the standard input and the words of the command are read here, and a report is
printed; all between them is `CommandLine.run`.  A database lies in memory and ends with
the command; files are read and never written.
-/
import SqlDriver.CommandLine.Run

namespace SqlDriver.CommandLine

set_option autoImplicit false

/-- Why the system does not yield a file. -/
def failureOf : IO.Error → ReadFailure
  | .permissionDenied .. => .refused
  | .inappropriateType .. => .isDirectory
  | .invalidArgument .. => .invalidPath
  | _ => .notFound

def readFile (path : String) : IO (Except ReadFailure (List UInt8)) := do
  try
    return .ok (← IO.FS.readBinFile path).toList
  catch e => return .error (failureOf e)

def namedFiles : Request → List String
  | .run o => o.file.toList ++ o.config.toList
  | _ => []

/-- The file of the database that a command opens, if it has one. -/
def databaseFile? : Request → Option String
  | .run o =>
      match Engine.Location.ofSource .create o.database with
      | .ok place => if place.isPrivate then none else some place.path
      | .error _ => none
  | _ => none

def readsInput : Request → Bool
  | .run o => o.file.isNone && o.statements.isEmpty
  | _ => false

def surroundings (request : Request) : IO Surroundings := do
  let files ← (namedFiles request).mapM fun path => return (path, ← readFile path)
  let disk : Disk ← match databaseFile? request with
    | none => pure {}
    | some path =>
        match ← readFile path with
        | .ok bytes => pure { files := [(path, .octets bytes)] }
        | .error _ => pure {}
  let input ← if readsInput request then (← IO.getStdin).readBinToEnd else pure .empty
  return { disk, read := fun path => (files.lookup path).getD (.error .notFound),
           input := input.toList }

def eventLine (e : Event) : String :=
  e.level.name ++ " " ++ e.message
    ++ String.join (e.fields.map fun (name, value) => " " ++ name ++ "=" ++ value)

def isVerbose : Request → Bool
  | .run o => o.verbose
  | _ => false

end SqlDriver.CommandLine

open SqlDriver SqlDriver.CommandLine in
def main (words : List String) : IO UInt32 := do
  let request := Request.ofWords words
  let report := run request (← surroundings request)
  IO.print report.printed
  if isVerbose request then
    for e in report.events.reverse do
      if e.level = .debug then IO.eprintln (eventLine e)
  IO.eprint report.complaint
  return UInt32.ofNat report.exitCode
