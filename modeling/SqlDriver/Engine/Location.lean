/-
# SqlDriver.Engine.Location -- where a database lies

The source of a connection is the path of a file, the name of a database in memory, or
a `file:` address: a path with parameters, in which octets may be written as a percent
sign and two digits.
-/
import SqlDriver.Disk
import SqlDriver.Engine.Operation

namespace SqlDriver.Engine

set_option autoImplicit false

/-- How a database is opened. -/
inductive OpenMode where
  | readOnly
  | readWrite
  /-- A file that does not exist is created. -/
  | create
  /-- The database lies in memory. -/
  | memory
deriving DecidableEq, Repr

namespace OpenMode

/-- A mode that may be asked for where this one is allowed. -/
def allows : OpenMode → OpenMode → Bool
  | _, memory => true
  | _, readOnly => true
  | readOnly, _ => false
  | readWrite, m => m = readWrite
  | _, _ => true

def ofText? : String → Option OpenMode
  | "ro" => some readOnly
  | "rw" => some readWrite
  | "rwc" => some create
  | "memory" => some memory
  | _ => none

end OpenMode

/-- Where a database lies, and how it is opened. -/
structure Location where
  /-- The path of its file. -/
  path : String
  mode : OpenMode
deriving DecidableEq, Repr

namespace Location

def isPrivate (l : Location) : Bool :=
  l.mode = .memory || l.path.isEmpty || l.path = ":memory:"

def hexDigit? (c : Char) : Option Nat :=
  if c.isDigit then some (c.toNat - 48)
  else if 'a' ≤ c && c ≤ 'f' then some (c.toNat - 87)
  else if 'A' ≤ c && c ≤ 'F' then some (c.toNat - 55)
  else none

/-- The octet that two hexadecimal digits at the front of a text stand for. -/
def hexPair? : List Char → Option Nat
  | a :: b :: _ => do
      let x ← hexDigit? a
      let y ← hexDigit? b
      return 16 * x + y
  | _ => none

/-- The octets of a part of an address behind some characters that are left out. -/
def decodeFrom : Nat → List Char → List UInt8
  | _, [] => []
  | skip + 1, _ :: r => decodeFrom skip r
  | 0, c :: r =>
      match (if c = '%' then hexPair? r else none) with
      | some 0 => []
      | some n => UInt8.ofNat n :: decodeFrom 2 r
      | none => String.utf8EncodeChar c ++ decodeFrom 0 r

/-- The octets of a part of an address.  It ends at a zero octet. -/
def decode (s : List Char) : List UInt8 :=
  decodeFrom 0 s

def text (s : List Char) : String :=
  Text.Utf8.toStringLossy (decode s)

def cut (mark : Char) (s : List Char) : List Char × List Char :=
  (s.takeWhile (· ≠ mark), (s.dropWhile (· ≠ mark)).drop 1)

def pieces : Nat → List Char → List (List Char)
  | 0, _ => []
  | fuel + 1, s =>
      let (piece, rest) := cut '&' s
      if (s.dropWhile (· ≠ '&')).isEmpty then [piece] else piece :: pieces fuel rest

/-- The parameters of an address: names and values.  Those without a name are left out. -/
def parameters (query : List Char) : List (String × String) :=
  (pieces (query.length + 1) query).filterMap fun p =>
    let (name, value) := cut '=' p
    if (text name).isEmpty then none else some (text name, text value)

def fileSystems : List String :=
  ["unix", "unix-dotfile", "unix-excl", "unix-none"]

/-- Applies the parameters of an address to the mode of a connection. -/
def applyParameters (limit : OpenMode) : OpenMode → Option String → List (String × String) →
    Outcome OpenMode
  | mode, system, [] =>
      match system with
      | some s => if fileSystems.contains s then .ok mode else failure ("no such vfs: " ++ s)
      | none => .ok mode
  | mode, system, (name, value) :: rest =>
      match name with
      | "vfs" => applyParameters limit mode (some value) rest
      | "mode" =>
          match OpenMode.ofText? value with
          | some m =>
              if limit.allows m then applyParameters limit m system rest
              else .error ⟨"access mode not allowed: " ++ value, 3⟩
          | none => failure ("no such access mode: " ++ value)
      | "cache" =>
          if value = "shared" || value = "private" then applyParameters limit mode system rest
          else failure ("no such cache mode: " ++ value)
      | _ => applyParameters limit mode system rest

/-- The last parameter that says so decides whether connections share a cache. -/
def sharesCache (parameters : List (String × String)) : Bool :=
  parameters.reverse.lookup "cache" = some "shared"

/-- The place that an address names.  A database in memory that has a name and is shared by
connections is refused: each connection has one of its own. -/
def ofAddress (mode : OpenMode) (s : List Char) : Outcome Location := do
  let s := s.takeWhile (· ≠ '#')
  let s ← match s with
    | '/' :: '/' :: r =>
        let authority := r.takeWhile (· ≠ '/')
        if authority.isEmpty || authority = "localhost".toList then pure (r.dropWhile (· ≠ '/'))
        else failure ("invalid uri authority: " ++ String.ofList authority)
    | s => pure s
  let (path, query) := cut '?' s
  let parameters := parameters query
  let mode ← applyParameters mode mode none parameters
  let place : Location := ⟨text path, mode⟩
  if place.isPrivate && !place.path.isEmpty && sharesCache parameters then
    failure "no such cache mode: shared"
  else return place

/-- The place of a zero character in a text, in octets. -/
def zeroAt? (source : String) : Option Nat :=
  (Text.Utf8.ofString source).findIdx? (· = 0)

def ofSource (mode : OpenMode) (source : String) : Outcome Location := do
  if let some n := zeroAt? source then
    throw ⟨"nul byte found in provided data at position: " ++ toString n, -1⟩
  match source.toList with
  | 'f' :: 'i' :: 'l' :: 'e' :: ':' :: address => ofAddress mode address
  | _ => return ⟨source, mode⟩

end Location

end SqlDriver.Engine
