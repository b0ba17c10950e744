/-
# SqlDriver.Disk -- the files of a directory

All files lie in or below one directory, under paths without dots.  A path is resolved
in one of two ways: by its text alone, or by walking along it, where every part but the
last has to be a directory.
-/
import SqlDriver.Engine.Catalog
import SqlDriver.ReadFailure

namespace SqlDriver

set_option autoImplicit false

/-- What a file holds. -/
inductive File where
  | octets (bytes : List UInt8)
  | database (contents : Engine.Contents)

namespace File

/-- The octets of a file.  A database begins with a line that says what it is, and is no
text. -/
def bytes : File → List UInt8
  | octets bytes => bytes
  | database _ => Text.Utf8.ofString "SQLite format 3" ++ [0, 0xFF]

end File

/-- Octets as a text. -/
def textOf (bytes : List UInt8) : Except ReadFailure String :=
  match Text.Utf8.decode? bytes with
  | some s => .ok (String.ofList s)
  | none => .error .notText

/-- Files by their paths. -/
structure Disk where
  files : List (String × File) := []

def pathParts (path : String) : List String :=
  (path.toList.splitOn '/').map String.ofList

namespace Disk

/-- The file at a path without dots. -/
def file? (d : Disk) (path : String) : Option File :=
  d.files.lookup path

/-- Files lie below a path. -/
def isDirectory (d : Disk) (parts : List String) : Bool :=
  parts.isEmpty || d.files.any fun (p, _) =>
    let other := pathParts p
    parts.length < other.length && parts.isPrefixOf other

def put (d : Disk) (path : String) (f : File) : Disk :=
  if (d.file? path).isSome then
    { files := d.files.map fun (p, g) => if p = path then (p, f) else (p, g) }
  else { files := d.files ++ [(path, f)] }

def joinParts (parts : List String) : String :=
  String.intercalate "/" parts

/-- Resolves a path by its text; `none` if it leads out of the directory.  The parts
walked so far are given in reverse. -/
def resolveText : List String → List String → Option (List String)
  | done, [] => some done.reverse
  | done, part :: rest =>
      if part = "" || part = "." then resolveText done rest
      else if part = ".." then
        match done with
        | [] => none
        | _ :: done => resolveText done rest
      else resolveText (part :: done) rest

/-- Where a database file lies or would be created. -/
def locate? (d : Disk) (path : String) : Option String :=
  if path.startsWith "/" then none
  else
    match resolveText [] (pathParts path) with
    | none => none
    | some parts =>
        if parts.isEmpty || d.isDirectory parts || !d.isDirectory parts.dropLast then none
        else some (joinParts parts)

/-- Reads a file by walking along its path.  The parts walked so far are given in
reverse; `none` stands for a place outside of the directory. -/
def walk (d : Disk) : Option (List String) → List String → Except ReadFailure (List UInt8)
  | _, [] => .error .isDirectory
  | here, part :: rest =>
      if part = "" || part = "." then d.walk here rest
      else if part = ".." then
        match here with
        | some (_ :: up) => d.walk (some up) rest
        | _ => d.walk none rest
      else
        match here with
        | none => .error .notFound
        | some here =>
            let parts := (part :: here).reverse
            match d.file? (joinParts parts) with
            | some f => if rest.isEmpty then .ok f.bytes else .error .notDirectory
            | none =>
                if d.isDirectory parts then d.walk (some (part :: here)) rest
                else .error .notFound

def read (d : Disk) (path : String) : Except ReadFailure (List UInt8) :=
  if path.toList.contains (Char.ofNat 0) then .error .invalidPath
  else if path.isEmpty || path.startsWith "/" then .error .notFound
  else d.walk (some []) (pathParts path)

def readText (d : Disk) (path : String) : Except ReadFailure String := do
  textOf (← d.read path)

end Disk

end SqlDriver
